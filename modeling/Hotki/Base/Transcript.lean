import Hotki.Base.Program

/-! Transcripts of programs: the commands a program gave, each with the state it found. -/

namespace Base

/-- The commands a program gave, in order, each with the state it found. -/
abbrev Transcript (State Command : Type) := List (State × Command)

namespace Program

variable {Command : Type} {Answer : Command → Type} {First Second Result State : Type}

/-- A program followed by its own end is the program. -/
theorem bind_done (program : Program Answer Result) : program.bind done = program := by
  -- Nothing follows the end of a program.
  induction program with
  | done result => rfl
  | call command next ih => exact congrArg (call command) (funext ih)

/-- Three programs one after the other are the same however they are grouped. -/
theorem bind_assoc {Third : Type} (program : Program Answer First)
    (second : First → Program Answer Second) (third : Second → Program Answer Third) :
    (program.bind second).bind third = program.bind fun result => (second result).bind third := by
  -- Each command is followed by the same rest on both sides.
  induction program with
  | done result => rfl
  | call command next ih => exact congrArg (call command) (funext ih)

instance : LawfulMonad (Program Answer) :=
  LawfulMonad.mk' _ (fun program => program.bind_done) (fun _ _ => rfl)
    (fun program second third => program.bind_assoc second third)

/-- A program ends with a result, having given commands in the states it found.

Others may have moved between two commands, so each state is whatever they left. -/
inductive Ends (perform : (command : Command) → State → Answer command × State) :
    Program Answer Result → Transcript State Command → Result → Prop
  | done (result : Result) : Ends perform (.done result) [] result
  | call {command : Command} {next : Answer command → Program Answer Result} {state : State}
      {did : Transcript State Command} {result : Result}
      (further : Ends perform (next (perform command state).1) did result) :
      Ends perform (.call command next) ((state, command) :: did) result

variable {perform : (command : Command) → State → Answer command × State}

/-- A program that is done ends at once with its result. -/
@[simp] theorem ends_done {result ended : Result} {did : Transcript State Command} :
    (done result : Program Answer Result).Ends perform did ended ↔ did = [] ∧ result = ended := by
  constructor
  · intro ends
    cases ends with
    | done => exact ⟨rfl, rfl⟩
  · rintro ⟨rfl, rfl⟩
    exact .done result

/-- A program that gives a command ends as what follows the answer does. -/
theorem ends_call {command : Command} {next : Answer command → Program Answer Result}
    {did : Transcript State Command} {ended : Result} :
    (call command next).Ends perform did ended ↔ ∃ state further,
      did = (state, command) :: further ∧
        (next (perform command state).1).Ends perform further ended := by
  constructor
  · intro ends
    cases ends with
    | call further => exact ⟨_, _, rfl, further⟩
  · rintro ⟨state, further, rfl, ends⟩
    exact .call ends

/-- The program of one command ends with its answer. -/
@[simp] theorem ends_perform {command : Command} {did : Transcript State Command}
    {ended : Answer command} :
    (Program.perform command : Program Answer (Answer command)).Ends perform did ended ↔
      ∃ state, did = [(state, command)] ∧ (perform command state).1 = ended := by
  simp [Program.perform, ends_call]

/-- Two programs one after the other end as the second does after the first. -/
theorem ends_bind {program : Program Answer First} {next : First → Program Answer Second}
    {did : Transcript State Command} {ended : Second} :
    (program.bind next).Ends perform did ended ↔ ∃ result before after,
      did = before ++ after ∧ program.Ends perform before result ∧
        (next result).Ends perform after ended := by
  induction program generalizing did with
  | done result => simp [Program.bind]
  | call command rest ih =>
    -- The command is the first of both transcripts, and the rest splits by the hypothesis.
    constructor
    · intro ends
      obtain ⟨state, further, rfl, following⟩ := ends_call.mp ends
      obtain ⟨result, before, after, rfl, first, second⟩ := (ih _).mp following
      exact ⟨result, (state, command) :: before, after, rfl, .call first, second⟩
    · rintro ⟨result, before, after, rfl, first, second⟩
      obtain ⟨state, further, rfl, following⟩ := ends_call.mp first
      exact .call ((ih _).mpr ⟨result, further, after, rfl, following, second⟩)

/-- A program played alone from a state: its transcript and its result. -/
def play (perform : (command : Command) → State → Answer command × State) :
    Program Answer Result → State → Transcript State Command × Result
  | done result, _ => ([], result)
  | call command next, state =>
    let (answer, after) := perform command state
    let (did, result) := (next answer).play perform after
    ((state, command) :: did, result)

/-- A program run alone from a state: its result and the state it leaves. -/
def run (perform : (command : Command) → State → Answer command × State) :
    Program Answer Result → State → Result × State
  | done result, state => (result, state)
  | call command next, state =>
    let (answer, after) := perform command state
    (next answer).run perform after

/-- A program ends however it is played alone. -/
theorem play_ends (program : Program Answer Result) (state : State) :
    program.Ends perform (program.play perform state).1 (program.play perform state).2 := by
  induction program generalizing state with
  | done result => exact .done result
  | call command next ih => exact .call (ih _ _)

end Program

end Base
