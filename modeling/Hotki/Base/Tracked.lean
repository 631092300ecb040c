import Hotki.Base.Program

/-! Programs on a shared state, each with something of its own that its commands change. -/

namespace Base

/-- What a command does to what its program owns, and when it may be given. -/
structure Ownership (State Command Own : Type) where
  evolve : Own → State → Command → Own
  /-- What the surroundings see to before a command. -/
  careful : Own → State → Command → Prop
  /-- What the program sees to before a command. -/
  allowed : Command → Prop

namespace Program

variable {Command : Type} {Answer : Command → Type} {First Second State Own Result : Type}
  (perform : (command : Command) → State → Answer command × State)
  (ownership : Ownership State Command Own)

/-- Whether a program that owns something gives only allowed commands, in whatever states the others
bring about, and ends with what is asked of its end. -/
def Keeps (ends : Result → Own → Prop) : Program Answer Result → Own → Prop
  | done result, own => ends result own
  | call command next, own => ∀ state, ownership.careful own state command →
      ownership.allowed command ∧
        (next (perform command state).1).Keeps ends (ownership.evolve own state command)

variable {perform ownership}

/-- A program keeps a weaker end. -/
theorem Keeps.mono {ends weaker : Result → Own → Prop} {program : Program Answer Result} {own : Own}
    (keeps : program.Keeps perform ownership ends own)
    (weakens : ∀ result own, ends result own → weaker result own) :
    program.Keeps perform ownership weaker own := by
  induction program generalizing own with
  | done result => exact weakens result own keeps
  | call command next ih =>
    intro state permitted
    obtain ⟨allows, further⟩ := keeps state permitted
    exact ⟨allows, ih _ further⟩

/-- A program ends with whatever every command preserves of what it owns. -/
theorem Keeps.along {ends : Result → Own → Prop} {program : Program Answer Result} {own : Own}
    (keeps : program.Keeps perform ownership ends own) (inv : Own → Prop)
    (kept : ∀ own state command, inv own → inv (ownership.evolve own state command))
    (start : inv own) :
    program.Keeps perform ownership (fun result own => ends result own ∧ inv own) own := by
  induction program generalizing own with
  | done result => exact ⟨keeps, start⟩
  | call command next ih =>
    intro state permitted
    obtain ⟨allows, further⟩ := keeps state permitted
    exact ⟨allows, ih _ further (kept own state command start)⟩

/-- A program keeps its end if its first part does, and the rest does from where that ends. -/
theorem Keeps.bind {ends : Second → Own → Prop} {program : Program Answer First}
    {next : First → Program Answer Second} {own : Own}
    (keeps : program.Keeps perform ownership
      (fun result own => (next result).Keeps perform ownership ends own) own) :
    (program.bind next).Keeps perform ownership ends own := by
  induction program generalizing own with
  | done result => exact keeps
  | call command rest ih =>
    intro state permitted
    obtain ⟨allows, further⟩ := keeps state permitted
    exact ⟨allows, ih _ further⟩

end Program

/-- The programs in progress with what each of them owns. -/
structure Tracked {Command : Type} (State : Type) (Answer : Command → Type)
    (Result Own : Type) where
  pool : Pool State Answer Result
  owns : List Own := []

/-- Whether every program of a pool has ended. -/
def Pool.Ended {State Command Result : Type} {Answer : Command → Type}
    (pool : Pool State Answer Result) : Prop :=
  ∀ program ∈ pool.tasks, ∃ result, program = .done result

namespace Tracked

variable {State Command : Type} {Answer : Command → Type} {Operation Result Own : Type}
  (operations : Operations State Command Answer Operation Result)
  (ownership : Ownership State Command Own) (fresh : Operation → Own)

/-- The transition relation, whoever moves with due care. -/
inductive Steps : Tracked State Answer Result Own → PoolMove Operation →
    Tracked State Answer Result Own → Prop where
  /-- An operation is started with something of its own. -/
  | start {pool next : Pool State Answer Result} {owns : List Own} (operation : Operation) :
      pool.Steps operations (.start operation) next →
      Steps ⟨pool, owns⟩ (.start operation) ⟨next, owns ++ [fresh operation]⟩
  /-- A program gives its next command. -/
  | resume {pool next : Pool State Answer Result} {owns : List Own} (index : Nat)
      (command : Command) (own : Own) :
      pool.Gives (.resume index : PoolMove Operation) command → owns[index]? = some own →
      ownership.careful own pool.state command → pool.Steps operations (.resume index) next →
      Steps ⟨pool, owns⟩ (.resume index)
        ⟨next, owns.set index (ownership.evolve own pool.state command)⟩

/-- Whether a program in progress owns something of a kind. -/
def Busy (tracked : Tracked State Answer Result Own) (kind : Own → Prop) : Prop :=
  ∃ (index : Nat) (command : Command) (further : Answer command → Program Answer Result)
    (own : Own), tracked.pool.tasks[index]? = some (.call command further) ∧
      tracked.owns[index]? = some own ∧ kind own

/-- No program is busy once every program has ended. -/
theorem not_busy {tracked : Tracked State Answer Result Own} (ended : tracked.pool.Ended)
    (kind : Own → Prop) : ¬ tracked.Busy kind := by
  rintro ⟨index, command, further, own, found, _⟩
  obtain ⟨result, same⟩ := ended _ (List.mem_of_getElem? found)
  cases same

variable {operations ownership fresh}

/-- A step taken with more care than is asked for is one. -/
theorem Steps.mono {lesser : Ownership State Command Own}
    {before after : Tracked State Answer Result Own} {move : PoolMove Operation}
    (stepped : Steps operations ownership fresh before move after)
    (same : lesser.evolve = ownership.evolve)
    (asks : ∀ own state command, ownership.careful own state command →
      lesser.careful own state command) :
    Steps operations lesser fresh before move after := by
  cases stepped with
  | start operation moved => exact .start operation moved
  | resume index command own given owned careful moved =>
    rw [← same]
    exact .resume index command own given owned (asks _ _ _ careful) moved

/-- Who owns something that no program ends with is busy. -/
theorem busy_of_owns {ends : Result → Own → Prop} {tracked : Tracked State Answer Result Own}
    (each : List.Forall₂ (fun program own => program.Keeps operations.perform ownership ends own)
      tracked.pool.tasks tracked.owns) {kind : Own → Prop}
    (unended : ∀ result own, ends result own → ¬ kind own) {own : Own} (member : own ∈ tracked.owns)
    (holds : kind own) : tracked.Busy kind := by
  obtain ⟨index, owned⟩ := List.mem_iff_getElem?.mp member
  obtain ⟨program, found, keeps⟩ := Pool.forall₂_getElem? each.flip owned
  cases program with
  | done result => exact absurd holds (unended result own keeps)
  | call command further => exact ⟨index, command, further, own, found, owned, holds⟩

/-- Programs that keep their ends keep what the state has to do with what they own. -/
theorem kept {ends : Result → Own → Prop} (inv : State → List Own → Prop)
    (keeps : ∀ operation,
      (operations.program operation).Keeps operations.perform ownership ends (fresh operation))
    (started : ∀ {state owns} operation, inv state owns → inv state (owns ++ [fresh operation]))
    (preserved : ∀ {state command owns index own}, owns[index]? = some own →
      ownership.careful own state command → ownership.allowed command → inv state owns →
      inv (operations.perform command state).2
        (owns.set index (ownership.evolve own state command)))
    {moves : List (PoolMove Operation)} {last : Tracked State Answer Result Own} {state : State}
    (run : Run (Steps operations ownership fresh) { pool := { state } } moves last)
    (start : inv state []) :
    List.Forall₂ (fun program own => program.Keeps operations.perform ownership ends own)
      last.pool.tasks last.owns ∧ inv last.pool.state last.owns := by
  refine run.invariant (fun tracked => List.Forall₂ (fun program own =>
    program.Keeps operations.perform ownership ends own) tracked.pool.tasks tracked.owns ∧
      inv tracked.pool.state tracked.owns) (fun {tracked move next} stepped before => ?_)
    ⟨.nil, start⟩
  obtain ⟨each, holds⟩ := before
  cases stepped with
  | @start pool next owns operation stepped =>
    have careful : Pool.CarefulSteps operations (fun _ _ => True) pool (.start operation) next :=
      ⟨stepped, fun _ _ => trivial⟩
    rcases careful.cases with ⟨_, same, rfl⟩ | ⟨_, _, _, same, _⟩
    · cases same
      exact ⟨List.rel_append each (.cons (keeps operation) .nil), started operation holds⟩
    · cases same
  | @resume pool next owns index command own gives owned permitted stepped =>
    have careful : Pool.CarefulSteps operations (fun _ _ => True) pool (.resume index) next :=
      ⟨stepped, fun _ _ => trivial⟩
    obtain ⟨_, further, same, found⟩ := gives
    cases same
    rcases careful.cases with ⟨_, same, _⟩ | ⟨_, _, _, same, foundAgain, _, rfl⟩
    · cases same
    · cases same
      cases found.symm.trans foundAgain
      -- The program that moves keeps its end from where its command leaves what it owns.
      obtain ⟨_, ownedAgain, keeping⟩ := Pool.forall₂_getElem? each found
      cases owned.symm.trans ownedAgain
      obtain ⟨allows, further⟩ := keeping pool.state permitted
      exact ⟨Pool.forall₂_set each further index, preserved owned permitted allows holds⟩

end Tracked

end Base
