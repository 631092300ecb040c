import Hotki.Base.Run
import Mathlib.Data.List.Forall2

/-! Programs of atomic commands on a shared state, interleaved between their commands. -/

namespace Base

/-- A program that gives commands and goes on with their answers. -/
inductive Program {Command : Type} (Answer : Command → Type) (Result : Type) where
  | done (result : Result)
  | call (command : Command) (next : Answer command → Program Answer Result)

namespace Program

variable {Command : Type} {Answer : Command → Type} {First Second : Type}

/-- Goes on with the result of a program. -/
def bind (next : First → Program Answer Second) : Program Answer First → Program Answer Second
  | done result => next result
  | call command rest => call command fun answer => (rest answer).bind next

instance : Monad (Program Answer) where
  pure := done
  bind program next := program.bind next

/-- The program of one command. -/
def perform (command : Command) : Program Answer (Answer command) := call command done

variable {State Own Result : Type} (perform : (command : Command) → State → Answer command × State)
  (careful : State → Command → Prop) (allowed : Own → State → Command → Own → Prop)

/-- Whether a program that owns something of its own gives only commands that what it owns allows,
in whatever states the others bring about, and ends with what is asked of its end. -/
def Obeys (ends : Result → Own → Prop) : Program Answer Result → Own → Prop
  | done result, own => ends result own
  | call command next, own => ∀ state, careful state command →
      ∃ after, allowed own state command after ∧ (next (perform command state).1).Obeys ends after

variable {perform careful allowed}

/-- A program obeys with a weaker end. -/
theorem Obeys.mono {ends weaker : Result → Own → Prop} {program : Program Answer Result} {own : Own}
    (obeys : program.Obeys perform careful allowed ends own)
    (weakens : ∀ result own, ends result own → weaker result own) :
    program.Obeys perform careful allowed weaker own := by
  -- The induction is on the program, of which only the end matters here.
  induction program generalizing own with
  | done result => exact weakens result own obeys
  | call command next ih =>
    intro state permitted
    obtain ⟨after, allows, further⟩ := obeys state permitted
    exact ⟨after, allows, ih _ further⟩

/-- A program obeys if its first part does, and the rest does from where that ends. -/
theorem Obeys.bind {ends : Second → Own → Prop} {program : Program Answer First}
    {next : First → Program Answer Second} {own : Own}
    (obeys : program.Obeys perform careful allowed
      (fun result own => (next result).Obeys perform careful allowed ends own) own) :
    (program.bind next).Obeys perform careful allowed ends own := by
  -- The induction is on the first part, at whose end the rest takes over.
  induction program generalizing own with
  | done result => exact obeys
  | call command rest ih =>
    intro state permitted
    obtain ⟨after, allows, further⟩ := obeys state permitted
    exact ⟨after, allows, ih _ further⟩

end Program

/-- What commands answer and do to a state, and the operations that start programs of them. -/
structure Operations (State Command : Type) (Answer : Command → Type) (Operation Result : Type) where
  perform : (command : Command) → State → Answer command × State
  program : Operation → Program Answer Result
  /-- Whether an operation can be started. -/
  enabled : State → Operation → Bool

/-- The programs in progress, or ended, on one state. -/
structure Pool {Command : Type} (State : Type) (Answer : Command → Type) (Result : Type) where
  state : State
  tasks : List (Program Answer Result) := []

/-- Who moves. -/
inductive PoolMove (Operation : Type) where
  | start (operation : Operation)
  /-- The program at a position gives its next command. -/
  | resume (index : Nat)

namespace Pool

variable {State Command : Type} {Answer : Command → Type} {Operation Result : Type}

/-- One move, or none when it is not possible. -/
def step (operations : Operations State Command Answer Operation Result)
    (pool : Pool State Answer Result) : PoolMove Operation → Option (Pool State Answer Result)
  | .start operation =>
    if operations.enabled pool.state operation then
      some { pool with tasks := pool.tasks ++ [operations.program operation] }
    else none
  | .resume index =>
    match pool.tasks[index]? with
    | some (.call command next) =>
      let (answer, state) := operations.perform command pool.state
      some { state, tasks := pool.tasks.set index (next answer) }
    | _ => none

/-- The transition relation, whoever moves. -/
def Steps (operations : Operations State Command Answer Operation Result)
    (pool : Pool State Answer Result) (move : PoolMove Operation)
    (next : Pool State Answer Result) : Prop :=
  pool.step operations move = some next

/-- The command a move gives. -/
def Gives (pool : Pool State Answer Result) (move : PoolMove Operation) (command : Command) : Prop :=
  ∃ index next, move = .resume index ∧ pool.tasks[index]? = some (.call command next)

/-- Steps whose command a condition on the state permits. -/
def CarefulSteps (operations : Operations State Command Answer Operation Result)
    (careful : State → Command → Prop) (pool : Pool State Answer Result)
    (move : PoolMove Operation) (next : Pool State Answer Result) : Prop :=
  pool.Steps operations move next ∧
    ∀ command, pool.Gives move command → careful pool.state command

variable {operations : Operations State Command Answer Operation Result}
  {careful : State → Command → Prop} {pool next : Pool State Answer Result}
  {move : PoolMove Operation}

/-- A step starts an operation, or performs the next command of a program. -/
theorem CarefulSteps.cases (stepped : CarefulSteps operations careful pool move next) :
    (∃ operation, move = .start operation ∧
      next = { pool with tasks := pool.tasks ++ [operations.program operation] }) ∨
    ∃ index command further, move = .resume index ∧
      pool.tasks[index]? = some (.call command further) ∧ careful pool.state command ∧
      next = {
        state := (operations.perform command pool.state).2
        tasks := pool.tasks.set index (further (operations.perform command pool.state).1) } := by
  -- A program that has ended performs nothing.
  obtain ⟨stepped, permitted⟩ := stepped
  cases move with
  | start operation =>
    simp only [Steps, step] at stepped
    split at stepped
    · exact .inl ⟨operation, rfl, (Option.some.inj stepped).symm⟩
    · cases stepped
  | resume index =>
    simp only [Steps, step] at stepped
    split at stepped
    · rename_i command further found
      exact .inr ⟨index, command, further, rfl, found,
        permitted command ⟨index, further, rfl, found⟩, (Option.some.inj stepped).symm⟩
    · cases stepped

/-- What every permitted command preserves holds in every state. -/
theorem invariant (inv : State → Prop)
    (preserved : ∀ {state command}, careful state command → inv state →
      inv (operations.perform command state).2)
    {moves : List (PoolMove Operation)} {last : Pool State Answer Result}
    (run : Run (CarefulSteps operations careful) pool moves last) (start : inv pool.state) :
    inv last.state := by
  -- Starting a program changes nothing, and resuming one performs one command.
  refine run.invariant (fun pool => inv pool.state) (fun {pool move next} stepped before => ?_) start
  rcases stepped.cases with ⟨operation, _, rfl⟩ | ⟨index, command, further, _, _, permitted, rfl⟩
  · exact before
  · exact preserved permitted before

/-- Partners of related lists are related, at every position. -/
theorem forall₂_getElem? {Left Right : Type} {related : Left → Right → Prop} {lefts : List Left}
    {rights : List Right} (each : List.Forall₂ related lefts rights) {index : Nat} {left : Left}
    (found : lefts[index]? = some left) : ∃ right, rights[index]? = some right ∧ related left right := by
  -- The induction is on the related lists.
  induction each generalizing index with
  | nil => cases found
  | cons first _ ih =>
    cases index with
    | zero =>
      cases found
      exact ⟨_, rfl, first⟩
    | succ index => exact ih found

/-- Replacing partners of related lists by partners leaves them related. -/
theorem forall₂_set {Left Right : Type} {related : Left → Right → Prop} {lefts : List Left}
    {rights : List Right} (each : List.Forall₂ related lefts rights) {left : Left} {right : Right}
    (partners : related left right) (index : Nat) :
    List.Forall₂ related (lefts.set index left) (rights.set index right) := by
  -- The induction is on the related lists, with the position counted down.
  induction each generalizing index with
  | nil => exact .nil
  | cons first rest ih =>
    cases index with
    | zero => exact .cons partners rest
    | succ index => exact .cons first (ih index)

/-- Programs that obey keep what the state has to do with what they own. -/
theorem obeyed {Own : Type} {allowed : Own → State → Command → Own → Prop}
    {ends : Result → Own → Prop} {fresh : Own} (inv : State → List Own → Prop)
    (obeys : ∀ operation, (operations.program operation).Obeys operations.perform careful allowed
      ends fresh)
    (started : ∀ {state owns}, inv state owns → inv state (owns ++ [fresh]))
    (preserved : ∀ {state command owns index own after}, owns[index]? = some own →
      careful state command → allowed own state command after → inv state owns →
      inv (operations.perform command state).2 (owns.set index after))
    {moves : List (PoolMove Operation)} {last : Pool State Answer Result} {state : State}
    (run : Run (CarefulSteps operations careful) { state } moves last) (start : inv state []) :
    ∃ owns, List.Forall₂ (fun program own =>
      program.Obeys operations.perform careful allowed ends own) last.tasks owns ∧
      inv last.state owns := by
  -- The run keeps each program with what it owns, and a new one starts with nothing.
  refine run.invariant (fun pool => ∃ owns, List.Forall₂ (fun program own =>
    program.Obeys operations.perform careful allowed ends own) pool.tasks owns ∧
      inv pool.state owns) (fun {pool move next} stepped before => ?_) ⟨[], .nil, start⟩
  obtain ⟨owns, each, holds⟩ := before
  rcases stepped.cases with ⟨operation, _, rfl⟩ | ⟨index, command, further, _, found, permitted, rfl⟩
  · exact ⟨owns ++ [fresh], List.rel_append each (.cons (obeys operation) .nil), started holds⟩
  · obtain ⟨own, owned, obeying⟩ := forall₂_getElem? each found
    obtain ⟨after, allows, further⟩ := obeying pool.state permitted
    exact ⟨owns.set index after, forall₂_set each further index,
      preserved owned permitted allows holds⟩

end Pool

end Base
