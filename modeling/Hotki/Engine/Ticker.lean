import Hotki.Base.HashMap

/-! The ticker: one repeating task for each id, cancelled gracefully or aborted at once. -/

namespace Hotki

open Base

/-- A ticker task with what its callback captured. -/
structure TickerTask (Callback : Type) where
  id : String
  callback : Callback
  /-- Its token was cancelled. -/
  cancelled : Bool := false
  /-- It has returned, or was aborted. -/
  ended : Bool := false
  deriving DecidableEq

/-- The tasks ever started, each known by its position, and the registered one of each id. -/
structure Ticker (Callback : Type) where
  entries : HashMap String Nat := ∅
  tasks : List (TickerTask Callback) := []

namespace Ticker

variable {Callback : Type}

/-- Whether a ticker is active for an id. -/
def isActive (ticker : Ticker Callback) (id : String) : Bool := (ticker.entries.lookup id).isSome

/-- Changes one task. -/
def update (ticker : Ticker Callback) (task : Nat)
    (change : TickerTask Callback → TickerTask Callback) : Ticker Callback :=
  { ticker with tasks := ticker.tasks.modify task change }

/-- Cancels and aborts the ticker of an id without waiting for its task. -/
def abort (ticker : Ticker Callback) (id : String) : Ticker Callback :=
  match ticker.entries.lookup id with
  | some task =>
    { ticker with entries := ticker.entries.erase id }.update task fun entry =>
      { entry with cancelled := true, ended := true }
  | none => ticker

/-- Starts or replaces the ticker of an id. -/
def start (ticker : Ticker Callback) (id : String) (callback : Callback) : Ticker Callback :=
  let ticker := ticker.abort id
  { entries := ticker.entries.insert id ticker.tasks.length
    tasks := ticker.tasks ++ [{ id, callback }] }

/-- Cancels the ticker of an id, returning the task whose end is then awaited. -/
def stop (ticker : Ticker Callback) (id : String) : Option Nat × Ticker Callback :=
  match ticker.entries.lookup id with
  | some task =>
    (some task, { ticker with entries := ticker.entries.erase id }.update task fun entry =>
      { entry with cancelled := true })
  | none => (none, ticker)

/-- Cancels all tickers, returning the tasks whose end is then awaited. -/
def clear (ticker : Ticker Callback) : List Nat × Ticker Callback :=
  let drained := ticker.entries.entries.map Sigma.snd
  (drained, { entries := ∅, tasks := ticker.tasks.mapIdx fun task entry =>
    if task ∈ drained then { entry with cancelled := true } else entry })

/-- Cancels and aborts every ticker without waiting for the tasks. -/
def abortAll (ticker : Ticker Callback) : Ticker Callback :=
  { entries := ∅, tasks := ticker.tasks.mapIdx fun task entry =>
    if task ∈ ticker.entries.entries.map Sigma.snd then
      { entry with cancelled := true, ended := true }
    else entry }

/-- Whether a task has ended. -/
def hasEnded (ticker : Ticker Callback) (task : Nat) : Bool :=
  ticker.tasks[task]?.all TickerTask.ended

/-- The return of a task whose token was cancelled. -/
def finish (ticker : Ticker Callback) (task : Nat) : Option (Ticker Callback) := do
  let entry ← ticker.tasks[task]?
  if entry.cancelled && !entry.ended then
    some (ticker.update task fun entry => { entry with ended := true })
  else none

/-- Changing a task leaves what is registered. -/
@[simp] theorem update_entries (ticker : Ticker Callback) (task : Nat)
    (change : TickerTask Callback → TickerTask Callback) :
    (ticker.update task change).entries = ticker.entries := rfl

/-- Aborting leaves nothing registered under its id and the rest as it was. -/
theorem abort_entries (ticker : Ticker Callback) (id other : String) :
    (ticker.abort id).entries.lookup other =
      if other = id then none else ticker.entries.lookup other := by
  -- Without a task under the id there is nothing to erase.
  unfold abort
  split
  · exact HashMap.lookup_erase_ite _ _ _
  · rename_i absent
    split
    · rename_i same
      rw [same, absent]
    · rfl

/-- Starting registers the new task under its id and leaves the rest as it was. -/
theorem start_entries (ticker : Ticker Callback) (id other : String) (callback : Callback) :
    (ticker.start id callback).entries.lookup other =
      if other = id then some (ticker.abort id).tasks.length
      else ticker.entries.lookup other := by
  unfold start
  simp only [HashMap.lookup_insert_ite, abort_entries]
  split <;> rfl

/-- Stopping leaves nothing registered under its id and the rest as it was. -/
theorem stop_entries (ticker : Ticker Callback) (id other : String) :
    (ticker.stop id).2.entries.lookup other =
      if other = id then none else ticker.entries.lookup other := by
  -- Without a task under the id there is nothing to erase.
  unfold stop
  split
  · exact HashMap.lookup_erase_ite _ _ _
  · rename_i absent
    split
    · rename_i same
      rw [same, absent]
    · rfl

/-- Clearing leaves nothing registered. -/
@[simp] theorem clear_entries (ticker : Ticker Callback) : ticker.clear.2.entries = ∅ := rfl

/-- Aborting ends the registered task of its id and leaves the others. -/
theorem abort_tasks (ticker : Ticker Callback) (id : String) (task : Nat) :
    (ticker.abort id).tasks[task]? = ticker.tasks[task]?.map fun entry =>
      if ticker.entries.lookup id = some task then { entry with cancelled := true, ended := true }
      else entry := by
  unfold abort
  split
  · rename_i aborted found
    simp [update, List.getElem?_modify, found]
  · rename_i absent
    simp [absent]

/-- Aborting twice is aborting once. -/
theorem abort_abort (ticker : Ticker Callback) (id : String) :
    (ticker.abort id).abort id = ticker.abort id := by
  have absent : (ticker.abort id).entries.lookup id = none := by
    rw [abort_entries, if_pos rfl]
  rw [abort.eq_def (ticker.abort id), absent]

/-- Starting after an abort of the same id adds one task. -/
theorem start_abort_tasks (ticker : Ticker Callback) (id : String) (callback : Callback) :
    ((ticker.abort id).start id callback).tasks =
      (ticker.abort id).tasks ++ [({ id, callback } : TickerTask Callback)] := by
  unfold start
  rw [abort_abort]

/-- A ticker after the tasks in a scope were cancelled, those tasks being left to end. -/
structure Quiesces (before after : Ticker Callback) (scope : Option String) (tasks : List Nat) :
    Prop where
  entries : ∀ id, after.entries.lookup id =
    if scope.all (· = id) then none else before.entries.lookup id
  cancelled : ∀ task : Nat, after.tasks[task]? = before.tasks[task]?.map fun entry =>
    if task ∈ tasks then { entry with cancelled := true } else entry
  drained : ∀ task, task ∈ tasks ↔ ∃ id, scope.all (· = id) = true ∧
    before.entries.lookup id = some task

/-- Stopping quiesces one id. -/
theorem stop_quiesces (ticker : Ticker Callback) (id : String) :
    Quiesces ticker (ticker.stop id).2 (some id) (ticker.stop id).1.toList := by
  -- The one task is cancelled, and its end is to be awaited.
  constructor
  · intro other
    rw [stop_entries]
    simp [eq_comm]
  · intro task
    unfold stop
    split
    · simp [update, List.getElem?_modify, eq_comm]
    · simp
  · intro task
    unfold stop
    split
    · rename_i found
      simp [found, eq_comm]
    · rename_i absent
      simp [absent]

/-- Clearing quiesces every id. -/
theorem clear_quiesces (ticker : Ticker Callback) :
    Quiesces ticker ticker.clear.2 none ticker.clear.1 := by
  -- Every registered task is cancelled, and no other one.
  constructor
  · intro id
    rfl
  · intro task
    show (ticker.tasks.mapIdx _)[task]? = _
    rw [List.getElem?_mapIdx]
    rfl
  · intro task
    unfold clear
    constructor
    · intro member
      obtain ⟨pair, stored, same⟩ := List.mem_map.mp member
      subst same
      exact ⟨pair.1, rfl, AList.mem_lookup_iff.mpr stored⟩
    · intro registered
      obtain ⟨id, _, found⟩ := registered
      exact List.mem_map.mpr ⟨⟨id, task⟩, AList.mem_lookup_iff.mp found, rfl⟩

/-- The return of a task leaves what is registered. -/
theorem finish_entries {ticker next : Ticker Callback} {task : Nat}
    (finished : ticker.finish task = some next) : next.entries = ticker.entries := by
  obtain ⟨entry, _, rest⟩ := Option.bind_eq_some_iff.mp finished
  split at rest
  · cases rest
    rfl
  · cases rest

end Ticker

end Hotki
