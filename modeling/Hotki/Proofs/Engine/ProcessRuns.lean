import Hotki.Base.Run
import Hotki.Engine.ProcessRuns
import Mathlib.Data.List.Nodup

/-! What holds of the repeater's runs, whatever is started, stopped or aborted. -/

namespace Hotki.ProcessRuns

open Base

variable {state : ProcessRuns}

/-- A run of an entry whose task has not returned. -/
def InFlight (state : ProcessRuns) (entry run : Nat) : Prop :=
  ∃ known, state.runs[run]? = some known ∧ known.entry = entry ∧ known.phase ≠ .returned

/-- A run of an entry whose process runs. -/
def Runs (state : ProcessRuns) (entry run : Nat) : Prop :=
  ∃ known, state.runs[run]? = some known ∧ known.entry = entry ∧ known.phase = .running

/-- What runs is in flight. -/
theorem Runs.inFlight {entry run : Nat} (runs : state.Runs entry run) :
    state.InFlight entry run := by
  obtain ⟨known, found, same, phase⟩ := runs
  exact ⟨known, found, same, by rw [phase]; decide⟩

/-- What is in flight and what runs depends on the runs alone. -/
theorem inFlight_of_runs {other : ProcessRuns} (same : other.runs = state.runs) (entry run : Nat) :
    other.InFlight entry run ↔ state.InFlight entry run := by
  unfold InFlight
  rw [same]

/-- So does what runs. -/
theorem runs_of_runs {other : ProcessRuns} (same : other.runs = state.runs) (entry run : Nat) :
    other.Runs entry run ↔ state.Runs entry run := by
  unfold Runs
  rw [same]

/-- The entries after some were cancelled. -/
theorem cancelEntries_entries (state : ProcessRuns) (taken : List Nat) (entry : Nat) :
    (state.cancelEntries taken).entries[entry]? = state.entries[entry]?.map fun known =>
      if entry ∈ taken then { known with cancelled := true, task := none } else known := by
  simp [cancelEntries, List.getElem?_mapIdx]

/-- An entry after some were cancelled is what it was, or cancelled. -/
theorem cancelEntries_cases {taken : List Nat} {entry : Nat} {known : ProcessEntry}
    (found : (state.cancelEntries taken).entries[entry]? = some known) :
    (entry ∉ taken ∧ state.entries[entry]? = some known) ∨
      (entry ∈ taken ∧ ∃ before, state.entries[entry]? = some before ∧
        known = { before with cancelled := true, task := none }) := by
  -- An entry is among those cancelled or not.
  rw [cancelEntries_entries, Option.map_eq_some_iff] at found
  obtain ⟨before, foundBefore, same⟩ := found
  split at same
  · rename_i member
    exact .inr ⟨member, before, foundBefore, same.symm⟩
  · rename_i absent
    rw [← same]
    exact .inl ⟨absent, foundBefore⟩

/-- An entry that is not taken is what it was. -/
theorem cancelEntries_of_not_mem {taken : List Nat} {entry : Nat} (absent : entry ∉ taken) :
    (state.cancelEntries taken).entries[entry]? = state.entries[entry]? := by
  rw [cancelEntries_entries]
  simp [absent]

/-- Two states that differ in their entries at most are equal if those are. -/
theorem cancelEntries_eq {other : ProcessRuns} {taken : List Nat}
    (rest : { state with entries := other.entries } = other)
    (entries : ∀ entry : Nat, (state.cancelEntries taken).entries[entry]? = other.entries[entry]?) :
    state.cancelEntries taken = other := by
  rw [← rest, ← List.ext_getElem? entries]
  rfl

/-- Cancelling nothing changes nothing. -/
@[simp] theorem cancelEntries_nil (state : ProcessRuns) : state.cancelEntries [] = state := by
  apply cancelEntries_eq rfl
  intro entry
  simp [cancelEntries_entries]

/-- Cancelling twice cancels what either cancels. -/
theorem cancelEntries_append (state : ProcessRuns) (first second : List Nat) :
    state.cancelEntries (first ++ second) = (state.cancelEntries first).cancelEntries second := by
  apply cancelEntries_eq rfl
  intro entry
  simp only [cancelEntries_entries, Option.map_map, List.mem_append]
  congr 1
  funext known
  by_cases left : entry ∈ first <;> by_cases right : entry ∈ second <;>
    simp [left, right]

/-- The run that an entry owns. -/
def owns (state : ProcessRuns) (entry : Nat) : Option Nat :=
  state.entries[entry]?.bind ProcessEntry.task

/-- A cancelled entry owns nothing, and others own what they did. -/
theorem cancelEntries_owns (state : ProcessRuns) (taken : List Nat) (entry : Nat) :
    (state.cancelEntries taken).owns entry = if entry ∈ taken then none else state.owns entry := by
  unfold owns
  rw [cancelEntries_entries]
  cases state.entries[entry]? with
  | none => simp
  | some known => split <;> simp_all

/-- Stopping entries cancels them all if none of them owns a run, and otherwise those up to the
first that does, whose run is then awaited. -/
theorem stopEntries_cases (state : ProcessRuns) (list : List Nat) :
    ((∀ entry ∈ list, state.owns entry = none) ∧
      state.stopEntries list = (state.cancelEntries list, .returned)) ∨
    ∃ before entry run rest, list = before ++ entry :: rest ∧
      (∀ other ∈ before, state.owns other = none) ∧ state.owns entry = some run ∧
      state.stopEntries list = (state.cancelEntries (before ++ [entry]), .awaiting run rest) := by
  -- The list is consumed from its head, each entry without a run being cancelled on the way.
  induction list generalizing state with
  | nil =>
    left
    simp [stopEntries]
  | cons head tail ih =>
    cases own : state.owns head with
    -- The first entry with a run ends the pass.
    | some run =>
      right
      refine ⟨[], head, run, tail, rfl, by simp, own, ?_⟩
      unfold owns at own
      simp only [stopEntries, own, List.nil_append]
    | none =>
      -- Cancelling an entry without a run leaves every other with what it owned.
      have later : ∀ entry, (state.cancelEntries [head]).owns entry = state.owns entry := by
        intro entry
        rw [cancelEntries_owns]
        split
        · rename_i member
          rw [List.mem_singleton.mp member, own]
        · rfl
      have unfolded : state.stopEntries (head :: tail) =
          (state.cancelEntries [head]).stopEntries tail := by
        unfold owns at own
        simp only [stopEntries, own]
      rcases ih (state.cancelEntries [head]) with ⟨none, stopped⟩ |
        ⟨before, entry, run, rest, same, none, owned, stopped⟩
      · left
        constructor
        · intro entry member
          rcases List.mem_cons.mp member with rfl | member
          · exact own
          · rw [← later]
            exact none entry member
        · rw [unfolded, stopped, ← cancelEntries_append]
          rfl
      · right
        refine ⟨head :: before, entry, run, rest, by rw [same]; rfl, ?_, ?_, ?_⟩
        · intro other member
          rcases List.mem_cons.mp member with rfl | member
          · exact own
          · rw [← later]
            exact none other member
        · rw [← later]
          exact owned
        · rw [unfolded, stopped, ← cancelEntries_append]
          rfl

/-- How far a call has come that stops a list of entries, those that are gone being cancelled. -/
structure Stops (state : ProcessRuns) (list gone : List Nat) (call : StopCall) : Prop where
  waits : call.waits = false
  result : (state.stopEntries list).1 = state.cancelEntries gone
  within : ∀ entry ∈ gone, entry ∈ list
  split : ∀ entry ∈ list, entry ∈ gone ∨ entry ∈ call.rest
  rest : ∀ entry ∈ call.rest, entry ∈ list
  owns : ∀ entry ∈ gone, ∀ run, state.owns entry = some run → call.awaited = some run
  awaits : ∀ run, call.awaited = some run → ∃ entry ∈ list, state.owns entry = some run
  distinct : list.Nodup → call.rest.Nodup ∧ ∀ entry ∈ call.rest, entry ∉ gone

/-- Those that are stopped own no run, but for the last, whose run is then awaited. -/
theorem stops (state : ProcessRuns) (list : List Nat) {call : StopCall}
    (stands : call.phase = (state.stopEntries list).2) : ∃ gone, Stops state list gone call := by
  -- Either no entry owns a run and all are stopped, or the first that owns one ends the pass.
  rcases state.stopEntries_cases list with ⟨none, same⟩ |
    ⟨before, entry, run, rest, parts, none, owned, same⟩
  · rw [same] at stands
    have empty : call.rest = [] := by rw [StopCall.rest, stands]
    have idle : call.awaited = Option.none := by rw [StopCall.awaited, stands]
    refine ⟨list, by rw [StopCall.waits, stands], by rw [same], fun _ member => member,
      fun _ member => .inl member, ?_, ?_, ?_, ?_⟩
    · rw [empty]
      simp
    · intro other member run owned
      rw [none other member] at owned
      cases owned
    · rw [idle]
      simp
    · rw [empty]
      simp
  · rw [same] at stands
    have held : call.rest = rest := by rw [StopCall.rest, stands]
    have awaited : call.awaited = some run := by rw [StopCall.awaited, stands]
    refine ⟨before ++ [entry], by rw [StopCall.waits, stands], by rw [same], ?_, ?_, ?_, ?_, ?_, ?_⟩
    · intro other member
      rw [parts]
      simp only [List.mem_append, List.mem_cons] at member ⊢
      tauto
    · intro other member
      rw [parts] at member
      rw [held]
      simp only [List.mem_append, List.mem_cons] at member ⊢
      tauto
    · intro other member
      rw [held] at member
      rw [parts]
      simp [member]
    · intro other member owning owns
      rcases List.mem_append.mp member with early | last
      · rw [none other early] at owns
        cases owns
      · rw [List.mem_singleton.mp last, owned] at owns
        rw [awaited, owns]
    · intro owning owns
      rw [awaited] at owns
      cases owns
      exact ⟨entry, by rw [parts]; simp, owned⟩
    -- What is left comes after the entry the call awaits.
    · intro distinct
      rw [parts, List.nodup_append] at distinct
      obtain ⟨_, tail, disjoint⟩ := distinct
      rw [held]
      refine ⟨(List.nodup_cons.mp tail).2, fun other member among => ?_⟩
      rcases List.mem_append.mp among with early | last
      · exact disjoint other early other (List.mem_cons_of_mem _ member) rfl
      · rw [List.mem_singleton.mp last] at member
        exact (List.nodup_cons.mp tail).1 member

/-- Which entries are stopped does not depend on what is registered, nor on the ticker. -/
theorem stopEntries_with (state : ProcessRuns) (ticker : Ticker Nat) (map : HashMap String Nat)
    (list : List Nat) : ({ state with ticker, processStates := map }).stopEntries list =
      ({ (state.stopEntries list).1 with ticker, processStates := map },
        (state.stopEntries list).2) := by
  -- The recursion reads the entries alone.
  induction list generalizing state with
  | nil => rfl
  | cons head tail ih =>
    cases own : state.entries[head]?.bind ProcessEntry.task with
    | some run => simp only [stopEntries, own, cancelEntries]
    | none =>
      simp only [stopEntries, own]
      exact ih (state.cancelEntries [head])

/-- Stopping entries changes no run. -/
theorem stopEntries_runs (state : ProcessRuns) (list : List Nat) :
    (state.stopEntries list).1.runs = state.runs := by
  rcases state.stopEntries_cases list with ⟨_, same⟩ | ⟨_, _, _, _, _, _, _, same⟩
  · rw [same]
    rfl
  · rw [same]
    rfl

/-- Stopping entries leaves what is registered, the ticker and the calls. -/
theorem stopEntries_others (state : ProcessRuns) (list : List Nat) :
    (state.stopEntries list).1.processStates = state.processStates ∧
      (state.stopEntries list).1.ticker = state.ticker ∧
      (state.stopEntries list).1.calls = state.calls := by
  rcases state.stopEntries_cases list with ⟨_, same⟩ | ⟨_, _, _, _, _, _, _, same⟩
  · rw [same]
    exact ⟨rfl, rfl, rfl⟩
  · rw [same]
    exact ⟨rfl, rfl, rfl⟩

/-- Aborting leaves what is in flight. -/
theorem abortEntries_inFlight (state : ProcessRuns) (taken : List Nat) (entry run : Nat) :
    (state.abortEntries taken).InFlight entry run ↔ state.InFlight entry run := by
  -- Aborting changes the phase of runs but returns none of them.
  simp only [InFlight, abortEntries, List.getElem?_map, Option.map_eq_some_iff]
  constructor
  · intro flying
    obtain ⟨known, ⟨before, found, same⟩, of, phase⟩ := flying
    refine ⟨before, found, ?_, ?_⟩
    · rw [← of, ← same]
      split <;> rfl
    · intro returned
      rw [← same, if_neg (by rw [returned]; simp)] at phase
      exact phase returned
  · intro flying
    obtain ⟨known, found, of, phase⟩ := flying
    refine ⟨_, ⟨known, found, rfl⟩, ?_, ?_⟩
    · split
      · exact of
      · exact of
    · split
      · simp
      · exact phase

/-- After aborting, only entries that were not taken have a process that runs. -/
theorem abortEntries_runs (state : ProcessRuns) (taken : List Nat) (entry run : Nat) :
    (state.abortEntries taken).Runs entry run ↔ entry ∉ taken ∧ state.Runs entry run := by
  -- A running process is aborted just if its entry is taken.
  simp only [Runs, abortEntries, List.getElem?_map, Option.map_eq_some_iff]
  constructor
  · intro runs
    obtain ⟨known, ⟨before, found, same⟩, of, phase⟩ := runs
    split at same
    · rw [← same] at phase
      cases phase
    · rename_i spared
      subst same
      exact ⟨fun member => spared ⟨of ▸ member, phase⟩, before, found, of, phase⟩
  · intro both
    obtain ⟨absent, known, found, of, phase⟩ := both
    refine ⟨known, ⟨known, found, if_neg ?_⟩, of, phase⟩
    exact fun both => absent (of ▸ both.1)

/-- Spawning a run adds it to those in flight. -/
theorem spawn_inFlight (state : ProcessRuns) (entry other run : Nat) :
    (state.spawn entry).InFlight other run ↔
      state.InFlight other run ∨ (other = entry ∧ run = state.runs.length) := by
  -- Positions of earlier runs stay, and the new run has the next one.
  simp only [InFlight, spawn, updateEntry]
  constructor
  · intro earlier
    obtain ⟨known, found, of, phase⟩ := earlier
    rcases Nat.lt_or_ge run state.runs.length with old | fresh
    · rw [List.getElem?_append_left old] at found
      exact .inl ⟨known, found, of, phase⟩
    · rw [List.getElem?_append_right fresh] at found
      obtain ⟨within, same⟩ := List.getElem?_eq_some_iff.mp found
      rw [List.getElem_singleton] at same
      subst same
      simp only [List.length_singleton] at within
      exact .inr ⟨of.symm, by omega⟩
  · intro either
    rcases either with ⟨known, found, of, phase⟩ | ⟨rfl, rfl⟩
    · refine ⟨known, ?_, of, phase⟩
      rw [List.getElem?_append_left (List.getElem?_eq_some_iff.mp found).1]
      exact found
    · exact ⟨⟨other, .waiting⟩, by simp, rfl, by simp⟩

/-- A run that was just spawned does not run yet. -/
theorem spawn_runs (state : ProcessRuns) (entry other run : Nat) :
    (state.spawn entry).Runs other run ↔ state.Runs other run := by
  -- The new run waits, so whatever runs was there before.
  simp only [Runs, spawn, updateEntry]
  constructor
  · intro earlier
    obtain ⟨known, found, of, phase⟩ := earlier
    rcases Nat.lt_or_ge run state.runs.length with old | fresh
    · rw [List.getElem?_append_left old] at found
      exact ⟨known, found, of, phase⟩
    · rw [List.getElem?_append_right fresh] at found
      obtain ⟨_, same⟩ := List.getElem?_eq_some_iff.mp found
      rw [List.getElem_singleton] at same
      subst same
      cases phase
  · intro runs
    obtain ⟨known, found, of, phase⟩ := runs
    refine ⟨known, ?_, of, phase⟩
    rw [List.getElem?_append_left (List.getElem?_eq_some_iff.mp found).1]
    exact found

/-- The runs after one of them moved to another phase. -/
theorem setPhase_runs (state : ProcessRuns) (run other : Nat) (phase : RunPhase) :
    (state.setPhase run phase).runs[other]? = state.runs[other]?.map fun known =>
      if run = other then { known with phase } else known := by
  simp [setPhase, List.getElem?_modify]

/-- Moving a run in flight to another phase but the last leaves it in flight. -/
theorem setPhase_inFlight {run : Nat} {moved : ProcessRun} {phase : RunPhase}
    (found : state.runs[run]? = some moved) (before : moved.phase ≠ .returned)
    (after : phase ≠ .returned) (entry other : Nat) :
    (state.setPhase run phase).InFlight entry other ↔ state.InFlight entry other := by
  -- The run that moves was in flight, and still is, as its new phase is not the last.
  simp only [InFlight, setPhase_runs, Option.map_eq_some_iff]
  constructor
  · intro flying
    obtain ⟨known, ⟨earlier, foundEarlier, same⟩, of, unreturned⟩ := flying
    split at same
    · rename_i here
      subst here same
      rw [found] at foundEarlier
      cases foundEarlier
      exact ⟨moved, found, of, before⟩
    · subst same
      exact ⟨earlier, foundEarlier, of, unreturned⟩
  · intro flying
    obtain ⟨known, foundKnown, of, unreturned⟩ := flying
    refine ⟨_, ⟨known, foundKnown, rfl⟩, ?_, ?_⟩
    · split <;> exact of
    · split
      · exact after
      · exact unreturned

/-- What runs after a run moved: it, if it moved to that phase, and what ran before. -/
theorem runs_of_setPhase {run entry other : Nat} {phase : RunPhase}
    (runs : (state.setPhase run phase).Runs entry other) :
    (other = run ∧ phase = .running ∧ ∃ moved, state.runs[run]? = some moved ∧
      moved.entry = entry) ∨ (other ≠ run ∧ state.Runs entry other) := by
  -- A run is the one that moved or another one.
  obtain ⟨known, found, of, running⟩ := runs
  rw [setPhase_runs, Option.map_eq_some_iff] at found
  obtain ⟨before, foundBefore, same⟩ := found
  split at same
  · rename_i here
    subst here same
    exact .inl ⟨rfl, running, before, foundBefore, of⟩
  · rename_i elsewhere
    subst same
    exact .inr ⟨fun same => elsewhere same.symm, before, foundBefore, of, running⟩

/-- The return of a run takes it from those in flight. -/
theorem setPhase_returned_inFlight (state : ProcessRuns) (run entry other : Nat) :
    (state.setPhase run .returned).InFlight entry other ↔
      state.InFlight entry other ∧ other ≠ run := by
  -- The returned run drops out, and no other one does.
  simp only [InFlight, setPhase_runs, Option.map_eq_some_iff]
  constructor
  · intro flying
    obtain ⟨known, ⟨before, found, same⟩, of, unreturned⟩ := flying
    split at same
    · subst same
      exact absurd rfl unreturned
    · rename_i elsewhere
      subst same
      exact ⟨⟨before, found, of, unreturned⟩, fun same => elsewhere same.symm⟩
  · intro other
    obtain ⟨⟨known, found, of, unreturned⟩, elsewhere⟩ := other
    exact ⟨known, ⟨known, found, if_neg (Ne.symm elsewhere)⟩, of, unreturned⟩

/-- The entries after a run of one was spawned. -/
theorem spawn_entries (state : ProcessRuns) (entry other : Nat) :
    (state.spawn entry).entries[other]? = state.entries[other]?.map fun known =>
      if entry = other then { known with running := true, task := some state.runs.length }
      else known := by
  simp [spawn, updateEntry, List.getElem?_modify]

/-- An entry's registration and kind depend on no run. -/
theorem spawn_cancelsOnRelease (state : ProcessRuns) (entry other : Nat) :
    (state.spawn entry).cancelsOnRelease other = state.cancelsOnRelease other := by
  unfold cancelsOnRelease
  rw [spawn_entries]
  cases state.entries[other]? with
  | none => rfl
  | some known =>
    simp only [Option.map_some, Option.any_some]
    split <;> rfl

/-- What always holds: how the flag, the slot and the cancellation of an entry tell what is in
flight, and where what may still run can be found. -/
structure Sound (state : ProcessRuns) : Prop where
  /-- A registered entry is that of its id and was not cancelled. -/
  registered : ∀ (id : String) (entry : Nat), state.processStates.lookup id = some entry →
    ∃ known, state.entries[entry]? = some known ∧ known.id = id ∧ known.cancelled = false
  /-- What is in flight is in flight for an entry. -/
  located : ∀ entry run, state.InFlight entry run → ∃ known, state.entries[entry]? = some known
  /-- At most one run of an entry is in flight. -/
  alone : ∀ entry first second, state.InFlight entry first → state.InFlight entry second →
    first = second
  /-- The flag of an entry tells whether one is. -/
  flag : ∀ entry known, state.entries[entry]? = some known →
    (known.running = true ↔ ∃ run, state.InFlight entry run)
  /-- The current run of an entry is in flight. -/
  current : ∀ entry known run, state.entries[entry]? = some known → known.task = some run →
    state.InFlight entry run
  /-- The run in flight of an entry that was not cancelled is its current one. -/
  slot : ∀ entry known run, state.entries[entry]? = some known → known.cancelled = false →
    state.InFlight entry run → known.task = some run
  /-- A repeating entry that was not cancelled is registered, or a call is about to stop it. -/
  owned : ∀ entry known, state.entries[entry]? = some known → known.cancelled = false →
    known.cancelOnRelease = true → state.processStates.lookup known.id = some entry ∨
      ∃ call ∈ state.calls, entry ∈ call.rest
  /-- A process that runs although its entry was cancelled is awaited by a call. -/
  killed : ∀ entry known run, state.entries[entry]? = some known → known.cancelled = true →
    state.Runs entry run → ∃ call ∈ state.calls, call.awaited = some run
  /-- The entries that calls have taken repeat, and are not registered any more. -/
  held : ∀ call ∈ state.calls, ∀ entry ∈ call.rest, state.cancelsOnRelease entry = true ∧
    ∀ id, state.processStates.lookup id ≠ some entry

namespace Sound

/-- A repeater with nothing started is sound. -/
theorem initial : Sound {} := by
  -- There is no entry, no run and no call to say anything about.
  constructor
  case registered =>
    intro id entry found
    cases found
  case located | alone =>
    intro entry run
    simp [InFlight]
  case flag | current | slot | owned | killed =>
    intro entry known
    simp
  case held =>
    intro call member
    cases member

/-- Entries may be cancelled and deregistered as long as their processes are still awaited. -/
theorem retake (sound : state.Sound) {next : ProcessRuns} {taken : List Nat}
    (entries : next.entries = (state.cancelEntries taken).entries)
    (flying : ∀ entry run, next.InFlight entry run ↔ state.InFlight entry run)
    (registered : ∀ id entry, next.processStates.lookup id = some entry →
      state.processStates.lookup id = some entry ∧ entry ∉ taken)
    (owned : ∀ entry known, state.entries[entry]? = some known → entry ∉ taken →
      known.cancelOnRelease = true → (state.processStates.lookup known.id = some entry ∨
        ∃ call ∈ state.calls, entry ∈ call.rest) →
      next.processStates.lookup known.id = some entry ∨ ∃ call ∈ next.calls, entry ∈ call.rest)
    (killed : ∀ entry known run, next.entries[entry]? = some known → known.cancelled = true →
      next.Runs entry run → ∃ call ∈ next.calls, call.awaited = some run)
    (held : ∀ call ∈ next.calls, ∀ entry ∈ call.rest, state.cancelsOnRelease entry = true ∧
      ∀ id, next.processStates.lookup id ≠ some entry) :
    next.Sound where
  registered id entry found := by
    obtain ⟨before, spared⟩ := registered id entry found
    obtain ⟨known, foundKnown, rest⟩ := sound.registered id entry before
    refine ⟨known, ?_, rest⟩
    rw [entries, cancelEntries_of_not_mem spared, foundKnown]
  located entry run flies := by
    obtain ⟨known, found⟩ := sound.located entry run ((flying entry run).mp flies)
    rw [entries, cancelEntries_entries, found]
    exact ⟨_, rfl⟩
  alone entry first second left right :=
    sound.alone entry first second ((flying entry first).mp left) ((flying entry second).mp right)
  flag entry known found := by
    rw [entries] at found
    simp only [flying]
    -- A clause about an entry is about one that was spared or one that was cancelled.
    rcases cancelEntries_cases found with ⟨_, before⟩ | ⟨_, earlier, before, same⟩
    · exact sound.flag entry known before
    · rw [same]
      exact sound.flag entry earlier before
  current entry known run found slot := by
    rw [entries] at found
    rw [flying]
    rcases cancelEntries_cases found with ⟨_, before⟩ | ⟨_, earlier, _, same⟩
    · exact sound.current entry known run before slot
    · -- A cancelled entry has let go of its run.
      rw [same] at slot
      cases slot
  slot entry known run found live flies := by
    rw [entries] at found
    rcases cancelEntries_cases found with ⟨_, before⟩ | ⟨_, earlier, _, same⟩
    · exact sound.slot entry known run before live ((flying entry run).mp flies)
    · rw [same] at live
      cases live
  owned entry known found live repeats := by
    rw [entries] at found
    rcases cancelEntries_cases found with ⟨spared, before⟩ | ⟨_, earlier, _, same⟩
    · exact owned entry known before spared repeats (sound.owned entry known before live repeats)
    · rw [same] at live
      cases live
  killed := killed
  -- Cancelling an entry does not change whether key release cancels it.
  held call member entry among := by
    obtain ⟨before, gone⟩ := held call member entry among
    refine ⟨?_, gone⟩
    unfold cancelsOnRelease at before ⊢
    rw [entries, cancelEntries_entries]
    cases found : state.entries[entry]? with
    | none =>
      rw [found] at before
      cases before
    | some known =>
      rw [found] at before
      simp only [Option.map_some, Option.any_some] at before ⊢
      split <;> exact before

/-- A new entry may be registered under an id that has none. -/
theorem enrolled (sound : state.Sound) {next : ProcessRuns} {id : String} {repeats : Bool}
    (free : state.processStates.lookup id = none)
    (entries : next.entries = state.entries ++ [{ id, cancelOnRelease := repeats }])
    (runs : next.runs = state.runs) (calls : next.calls = state.calls)
    (registered : ∀ key, next.processStates.lookup key =
      if key = id then some state.entries.length else state.processStates.lookup key) :
    next.Sound := by
  have flying := inFlight_of_runs runs
  have known_or : ∀ {entry : Nat} {known : ProcessEntry}, next.entries[entry]? = some known →
      state.entries[entry]? = some known ∨
        (entry = state.entries.length ∧ known = { id, cancelOnRelease := repeats }) := by
    intro entry known found
    rw [entries] at found
    rcases Nat.lt_or_ge entry state.entries.length with old | fresh
    · rw [List.getElem?_append_left old] at found
      exact .inl found
    · rw [List.getElem?_append_right fresh] at found
      obtain ⟨within, same⟩ := List.getElem?_eq_some_iff.mp found
      rw [List.getElem_singleton] at same
      simp only [List.length_singleton] at within
      exact .inr ⟨by omega, same.symm⟩
  have kept : ∀ {entry : Nat} {known : ProcessEntry}, state.entries[entry]? = some known →
      next.entries[entry]? = some known := by
    intro entry known found
    rw [entries, List.getElem?_append_left (List.getElem?_eq_some_iff.mp found).1]
    exact found
  -- Nothing is in flight for an entry that was not there.
  have idle : ∀ run, ¬ state.InFlight state.entries.length run := by
    intro run flies
    obtain ⟨known, found⟩ := sound.located _ run flies
    exact absurd (List.getElem?_eq_some_iff.mp found).1 (Nat.lt_irrefl _)
  constructor
  case registered =>
    intro key entry found
    rw [registered] at found
    split at found
    · rename_i same
      cases found
      exact ⟨{ id, cancelOnRelease := repeats }, by simp [entries], same.symm, rfl⟩
    · obtain ⟨known, foundKnown, rest⟩ := sound.registered key entry found
      exact ⟨known, kept foundKnown, rest⟩
  case located =>
    intro entry run flies
    obtain ⟨known, found⟩ := sound.located entry run ((flying entry run).mp flies)
    exact ⟨known, kept found⟩
  case alone =>
    intro entry first second left right
    exact sound.alone entry first second ((flying _ _).mp left) ((flying _ _).mp right)
  case flag =>
    intro entry known found
    simp only [flying]
    rcases known_or found with old | ⟨rfl, rfl⟩
    · exact sound.flag entry known old
    · simp [idle]
  case current =>
    intro entry known run found slot
    rw [flying]
    rcases known_or found with old | ⟨_, rfl⟩
    · exact sound.current entry known run old slot
    · cases slot
  case slot =>
    intro entry known run found live flies
    rw [flying] at flies
    rcases known_or found with old | ⟨rfl, _⟩
    · exact sound.slot entry known run old live flies
    · exact absurd flies (idle run)
  -- The new entry is registered, and no other lost its place to it.
  case owned =>
    intro entry known found live repeated
    rw [registered, calls]
    rcases known_or found with old | ⟨rfl, rfl⟩
    · rcases sound.owned entry known old live repeated with there | held
      · left
        rw [if_neg, there]
        intro same
        rw [same, free] at there
        cases there
      · exact .inr held
    · left
      rw [if_pos rfl]
  case killed =>
    intro entry known run found dead running
    rw [calls]
    rw [runs_of_runs runs] at running
    rcases known_or found with old | ⟨rfl, _⟩
    · exact sound.killed entry known run old dead running
    · exact absurd running.inFlight (idle run)
  case held =>
    intro call member entry among
    rw [calls] at member
    obtain ⟨before, gone⟩ := sound.held call member entry among
    unfold cancelsOnRelease at before ⊢
    cases found : state.entries[entry]? with
    | none =>
      rw [found] at before
      cases before
    | some known =>
      rw [kept found, ← found]
      refine ⟨before, fun key there => ?_⟩
      rw [registered] at there
      split at there
      · cases there
        exact absurd (List.getElem?_eq_some_iff.mp found).1 (Nat.lt_irrefl _)
      · exact gone key there

/-- A run may be spawned for an entry that has none in flight. -/
theorem spawned (sound : state.Sound) {entry : Nat} {known : ProcessEntry}
    (found : state.entries[entry]? = some known) (idle : known.running = false) :
    (state.spawn entry).Sound := by
  -- The entry was idle, so the new run is its first.
  have quiet : ∀ run, ¬ state.InFlight entry run := by
    intro run flies
    have flagged := (sound.flag entry known found).mpr ⟨run, flies⟩
    rw [idle] at flagged
    cases flagged
  -- The spawned run is the only one of its entry, and no other entry changes.
  have entry_or : ∀ {other : Nat} {now : ProcessEntry},
      (state.spawn entry).entries[other]? = some now →
      (other ≠ entry ∧ state.entries[other]? = some now) ∨
        (other = entry ∧ now = { known with running := true, task := some state.runs.length }) := by
    intro other now foundNow
    rw [spawn_entries, Option.map_eq_some_iff] at foundNow
    obtain ⟨before, foundBefore, same⟩ := foundNow
    split at same
    · rename_i here
      subst here
      rw [found] at foundBefore
      cases foundBefore
      exact .inr ⟨rfl, same.symm⟩
    · rename_i elsewhere
      rw [← same]
      exact .inl ⟨fun same => elsewhere same.symm, foundBefore⟩
  constructor
  case registered =>
    intro id other registered
    obtain ⟨before, foundBefore, same, live⟩ := sound.registered id other registered
    rw [spawn_entries, foundBefore]
    refine ⟨_, rfl, ?_, ?_⟩
    · split <;> exact same
    · split <;> exact live
  case located =>
    intro other run flies
    rw [spawn_inFlight] at flies
    rw [spawn_entries]
    rcases flies with before | ⟨rfl, _⟩
    · obtain ⟨earlier, foundEarlier⟩ := sound.located other run before
      rw [foundEarlier]
      exact ⟨_, rfl⟩
    · rw [found]
      exact ⟨_, rfl⟩
  case alone =>
    intro other first second left right
    rw [spawn_inFlight] at left right
    rcases left with left | ⟨rfl, rfl⟩
    · rcases right with right | ⟨rfl, _⟩
      · exact sound.alone other first second left right
      · exact absurd left (quiet first)
    · rcases right with right | ⟨_, rfl⟩
      · exact absurd right (quiet second)
      · rfl
  case flag =>
    intro other now foundNow
    simp only [spawn_inFlight]
    rcases entry_or foundNow with ⟨elsewhere, before⟩ | ⟨rfl, rfl⟩
    · rw [sound.flag other now before]
      simp [elsewhere]
    · simp
  case current =>
    intro other now run foundNow slot
    rw [spawn_inFlight]
    rcases entry_or foundNow with ⟨_, before⟩ | ⟨rfl, rfl⟩
    · exact .inl (sound.current other now run before slot)
    · exact .inr ⟨rfl, (Option.some.inj slot).symm⟩
  case slot =>
    intro other now run foundNow live flies
    rw [spawn_inFlight] at flies
    rcases entry_or foundNow with ⟨elsewhere, before⟩ | ⟨rfl, rfl⟩
    · rcases flies with flies | ⟨same, _⟩
      · exact sound.slot other now run before live flies
      · exact absurd same elsewhere
    · rcases flies with flies | ⟨_, rfl⟩
      · exact absurd flies (quiet run)
      · rfl
  case owned =>
    intro other now foundNow live repeated
    rcases entry_or foundNow with ⟨_, before⟩ | ⟨rfl, rfl⟩
    · exact sound.owned other now before live repeated
    · exact sound.owned other known found live repeated
  case killed =>
    intro other now run foundNow dead runs
    rw [spawn_runs] at runs
    rcases entry_or foundNow with ⟨_, before⟩ | ⟨rfl, rfl⟩
    · exact sound.killed other now run before dead runs
    · exact sound.killed other known run found dead runs
  case held =>
    intro call member other among
    rw [spawn_cancelsOnRelease]
    exact sound.held call member other among

/-- Runs may begin and exit, as long as a process that runs was not cancelled or is awaited. -/
theorem moved (sound : state.Sound) {run : Nat} {known : ProcessRun} {phase : RunPhase}
    (found : state.runs[run]? = some known) (before : known.phase ≠ .returned)
    (after : phase ≠ .returned)
    (live : phase = .running → ∀ entry, state.entries[known.entry]? = some entry →
      entry.cancelled = false) : (state.setPhase run phase).Sound := by
  -- No entry changes, so only the clause about running processes needs the condition.
  apply @retake state sound (state.setPhase run phase) []
  case entries =>
    rw [cancelEntries_nil]
    rfl
  case flying => exact setPhase_inFlight found before after
  case registered =>
    intro id entry there
    exact ⟨there, List.not_mem_nil⟩
  case owned =>
    intro entry earlier _ _ _ held
    exact held
  case killed =>
    intro entry now other foundNow dead runs
    rcases runs_of_setPhase runs with ⟨_, running, moved, foundMoved, of⟩ | ⟨_, runs⟩
    · rw [found] at foundMoved
      cases foundMoved
      rw [← of] at foundNow
      rw [live running now foundNow] at dead
      cases dead
    · exact sound.killed entry now other foundNow dead runs
  case held => exact sound.held

end Sound

/-- The entries after the end of a run's task. -/
theorem finish_entries (state : ProcessRuns) (run entry other : Nat) :
    (state.finish run entry).entries[other]? = state.entries[other]?.map fun known =>
      if entry = other then { known with running := false, task := none } else known := by
  have same : (state.finish run entry).entries = state.entries.modify entry fun known =>
      { known with running := false, task := none } := by
    unfold finish
    split
    · split <;> rfl
    · rfl
  rw [same]
  simp [List.getElem?_modify]

/-- The end of a run's task takes it from those in flight. -/
theorem finish_runs (state : ProcessRuns) (run entry : Nat) :
    (state.finish run entry).runs = (state.setPhase run .returned).runs := by
  unfold finish
  split
  · split <;> rfl
  · rfl

/-- The end of a run's task leaves the calls. -/
theorem finish_calls (state : ProcessRuns) (run entry : Nat) :
    (state.finish run entry).calls = state.calls := by
  unfold finish
  split
  · split <;> rfl
  · rfl

/-- The end of a run's task leaves the ticker. -/
theorem finish_ticker (state : ProcessRuns) (run entry : Nat) :
    (state.finish run entry).ticker = state.ticker := by
  unfold finish
  split
  · split <;> rfl
  · rfl

/-- The end of a run's task registers nothing. -/
theorem finish_registered {run entry other : Nat} {id : String}
    (found : (state.finish run entry).processStates.lookup id = some other) :
    state.processStates.lookup id = some other := by
  -- The task removes its own registration, and only if it still has it.
  unfold finish at found
  split at found
  · split at found
    · simp only [HashMap.lookup_erase_ite] at found
      split at found
      · cases found
      · exact found
    · exact found
  · exact found

/-- The end of a run's task deregisters no repeating entry. -/
theorem finish_kept {run entry other : Nat} {id : String}
    (found : state.processStates.lookup id = some other)
    (repeats : state.cancelsOnRelease other = true) :
    (state.finish run entry).processStates.lookup id = some other := by
  unfold finish
  split
  · rename_i known foundKnown
    split
    · rename_i gone
      -- Only a one-shot is deregistered, and it is the one registered under its id.
      simp only [Bool.and_eq_true, Bool.not_eq_true', isRegistered, foundKnown, Option.any_some,
        decide_eq_true_eq] at gone
      rw [HashMap.lookup_erase_ite, if_neg, found]
      intro same
      rw [same, gone.2] at found
      cases found
      rw [cancelsOnRelease, foundKnown, Option.any_some, gone.1] at repeats
      cases repeats
    · exact found
  · exact found

namespace Sound

/-- Entries may be stopped one after the other by a call that holds those it has not come to. -/
theorem stopped (sound : state.Sound) {next : ProcessRuns} {list : List Nat} {phase : StopPhase}
    (cancels : next.entries = (state.stopEntries list).1.entries)
    (reached : (state.stopEntries list).2 = phase) (runs : next.runs = state.runs)
    (repeating : ∀ entry ∈ list, state.cancelsOnRelease entry = true)
    (registered : ∀ id entry, next.processStates.lookup id = some entry →
      state.processStates.lookup id = some entry ∧ entry ∉ list)
    (kept : ∀ id entry, state.processStates.lookup id = some entry →
      state.cancelsOnRelease entry = true → entry ∉ list →
      next.processStates.lookup id = some entry)
    (own : ∃ call ∈ next.calls, call.phase = phase)
    (calls : ∀ call ∈ next.calls, call ∈ state.calls ∨ call.phase = phase)
    (others : ∀ call ∈ state.calls, call ∈ next.calls ∨
      (∀ entry ∈ call.rest, entry ∈ list) ∧ ∀ run, call.awaited = some run →
        ∀ entry, ¬ state.Runs entry run) : next.Sound := by
  obtain ⟨mine, present, stands⟩ := own
  obtain ⟨gone, stops⟩ := state.stops list (stands.trans reached.symm)
  apply @retake state sound next gone
  case entries => rw [cancels, stops.result]
  case flying => exact inFlight_of_runs runs
  case registered =>
    intro id entry there
    obtain ⟨before, spared⟩ := registered id entry there
    exact ⟨before, fun member => spared (stops.within entry member)⟩
  case owned =>
    intro entry known found spared repeats before
    have repeated : state.cancelsOnRelease entry = true := by
      simp [cancelsOnRelease, found, repeats]
    -- What is not cancelled at once is left on the list of the call.
    have settle : entry ∈ list → ∃ call ∈ next.calls, entry ∈ call.rest := fun member =>
      ⟨mine, present, (stops.split entry member).resolve_left spared⟩
    rcases before with there | ⟨call, member, among⟩
    · by_cases listed : entry ∈ list
      · exact .inr (settle listed)
      · exact .inl (kept known.id entry there repeated listed)
    · rcases others call member with still | ⟨covered, _⟩
      · exact .inr ⟨call, still, among⟩
      · exact .inr (settle (covered entry among))
  case killed =>
    intro entry known run found dead running
    rw [runs_of_runs runs] at running
    rw [cancels, stops.result] at found
    have cancelledBefore : ∀ earlier, state.entries[entry]? = some earlier →
        earlier.cancelled = true → ∃ call ∈ next.calls, call.awaited = some run := by
      intro earlier foundEarlier cancelled
      obtain ⟨call, member, awaits⟩ := sound.killed entry earlier run foundEarlier cancelled running
      rcases others call member with still | ⟨_, idle⟩
      · exact ⟨call, still, awaits⟩
      · exact absurd running (idle run awaits entry)
    rcases cancelEntries_cases found with ⟨_, before⟩ | ⟨member, earlier, before, _⟩
    · exact cancelledBefore known before dead
    · cases cancelled : earlier.cancelled with
      | true => exact cancelledBefore earlier before cancelled
      | false =>
        -- An entry cancelled only now owned the run, so the call that stops it awaits that run.
        have slot := sound.slot entry earlier run before cancelled running.inFlight
        exact ⟨mine, present, stops.owns entry member run
          (by simp [ProcessRuns.owns, before, slot])⟩
  case held =>
    intro call member entry among
    rcases calls call member with old | new
    · obtain ⟨repeats, gone⟩ := sound.held call old entry among
      exact ⟨repeats, fun id there => gone id (registered id entry there).1⟩
    · have listed : entry ∈ list := stops.rest entry (by
        unfold StopCall.rest at among ⊢
        rw [stands, ← new]
        exact among)
      exact ⟨repeating entry listed, fun id there => (registered id entry there).2 listed⟩

end Sound

/-- What a call with a scope takes from the registered entries: every repeating one in its scope,
once, and leaves every other repeating one. -/
structure Releases (state : ProcessRuns) (scope : Option String) (map : HashMap String Nat)
    (list : List Nat) : Prop where
  listed : ∀ entry, entry ∈ list ↔ ∃ known, state.entries[entry]? = some known ∧
    state.processStates.lookup known.id = some entry ∧ known.cancelOnRelease = true ∧
    scope.all (· = known.id) = true
  distinct : list.Nodup
  registered : ∀ id entry, map.lookup id = some entry →
    state.processStates.lookup id = some entry ∧ entry ∉ list
  kept : ∀ id entry, state.processStates.lookup id = some entry →
    state.cancelsOnRelease entry = true → entry ∉ list → map.lookup id = some entry

/-- A call takes what it is for, and stops that. -/
theorem Sound.release (sound : state.Sound) (scope : Option String) (order : IterationOrder Nat) :
    ∃ map list, Releases state scope map list ∧ state.release scope order =
      ({ (state.stopEntries list).1 with ticker := state.ticker, processStates := map },
        (state.stopEntries list).2) := by
  cases scope with
  | some id =>
    refine ⟨state.processStates.erase id,
      (state.processStates.lookup id).toList.filter state.cancelsOnRelease, ?_, ?_⟩
    -- One identifier: its entry is taken out, and stopped if key release cancels it.
    · constructor
      case listed =>
        intro entry
        simp only [List.mem_filter, Option.mem_toList, Option.all_some, decide_eq_true_eq]
        constructor
        · intro taken
          obtain ⟨there, repeats⟩ := taken
          obtain ⟨known, found, same, _⟩ := sound.registered id entry there
          rw [cancelsOnRelease, found] at repeats
          exact ⟨known, found, same ▸ there, repeats, same.symm⟩
        · intro taken
          obtain ⟨known, found, there, repeats, rfl⟩ := taken
          exact ⟨there, by simp [cancelsOnRelease, found, repeats]⟩
      case distinct =>
        apply List.Nodup.filter
        cases state.processStates.lookup id <;> simp
      case registered =>
        intro other entry there
        rw [HashMap.lookup_erase_ite] at there
        split at there
        · cases there
        · rename_i elsewhere
          refine ⟨there, fun taken => ?_⟩
          -- An entry is registered under its own id alone.
          obtain ⟨_, first, same, _⟩ := sound.registered other entry there
          obtain ⟨_, second, sameId, _⟩ := sound.registered id entry
            (Option.mem_toList.mp (List.mem_filter.mp taken).1)
          rw [first] at second
          cases second
          exact elsewhere (same.symm.trans sameId)
      case kept =>
        intro other entry there repeats spared
        rw [HashMap.lookup_erase_ite, if_neg]
        · exact there
        · intro same
          rw [same] at there
          exact spared (List.mem_filter.mpr ⟨Option.mem_toList.mpr there, repeats⟩)
    · exact stopEntries_with state state.ticker _ _
  | none =>
    refine ⟨(state.processStates.entries.filter fun pair =>
        state.cancelsOnRelease pair.2).foldl (fun map pair => map.erase pair.1)
          state.processStates,
      order.arrange ((state.processStates.entries.filter fun pair =>
        state.cancelsOnRelease pair.2).map Sigma.snd), ?_, ?_⟩
    -- All identifiers: what key release cancels is taken out, in whatever order.
    · have among : ∀ entry, entry ∈ order.arrange ((state.processStates.entries.filter fun pair =>
          state.cancelsOnRelease pair.2).map Sigma.snd) ↔
          ∃ id, state.processStates.lookup id = some entry ∧
            state.cancelsOnRelease entry = true := by
        intro entry
        rw [order.mem_arrange]
        constructor
        · intro taken
          obtain ⟨pair, member, same⟩ := List.mem_map.mp taken
          obtain ⟨stored, repeats⟩ := List.mem_filter.mp member
          subst same
          exact ⟨pair.1, AList.mem_lookup_iff.mpr stored, repeats⟩
        · intro taken
          obtain ⟨id, there, repeats⟩ := taken
          exact List.mem_map.mpr ⟨⟨id, entry⟩,
            List.mem_filter.mpr ⟨AList.mem_lookup_iff.mp there, repeats⟩, rfl⟩
      constructor
      case listed =>
        intro entry
        rw [among]
        constructor
        · intro taken
          obtain ⟨id, there, repeats⟩ := taken
          obtain ⟨known, found, same, _⟩ := sound.registered id entry there
          rw [cancelsOnRelease, found] at repeats
          exact ⟨known, found, same ▸ there, repeats, rfl⟩
        · intro taken
          obtain ⟨known, found, there, repeats, _⟩ := taken
          exact ⟨known.id, there, by simp [cancelsOnRelease, found, repeats]⟩
      case distinct =>
        apply order.nodup_arrange
        apply List.Nodup.map_on
        · intro first firstIn second secondIn same
          have left := AList.mem_lookup_iff.mpr (List.mem_filter.mp firstIn).1
          have right := AList.mem_lookup_iff.mpr (List.mem_filter.mp secondIn).1
          obtain ⟨_, found, sameId, _⟩ := sound.registered first.1 first.2 left
          obtain ⟨_, foundToo, sameIdToo, _⟩ := sound.registered second.1 second.2 right
          rw [same, foundToo] at found
          cases found
          exact Sigma.ext (sameId.symm.trans sameIdToo) (heq_of_eq same)
        · exact state.processStates.nodupKeys.nodup.filter _
      case registered =>
        intro id entry there
        rw [HashMap.lookup_foldl_erase] at there
        split at there
        · cases there
        · rename_i spared
          refine ⟨there, fun taken => spared ?_⟩
          obtain ⟨_, _, repeats⟩ := (among entry).mp taken
          exact List.mem_map.mpr ⟨⟨id, entry⟩,
            List.mem_filter.mpr ⟨AList.mem_lookup_iff.mp there, repeats⟩, rfl⟩
      case kept =>
        intro id entry there repeats spared
        exact absurd ((among entry).mpr ⟨id, there, repeats⟩) spared
    · exact stopEntries_with state state.ticker _ _

namespace Sound

/-- The end of the task of the run in flight. -/
theorem finished (sound : state.Sound) {run entry : Nat} (flies : state.InFlight entry run) :
    (state.finish run entry).Sound := by
  have flying : ∀ other second, (state.finish run entry).InFlight other second ↔
      state.InFlight other second ∧ second ≠ run := by
    intro other second
    rw [inFlight_of_runs (finish_runs state run entry), setPhase_returned_inFlight]
  -- The run was the only one in flight for its entry.
  have quiet : ∀ second, ¬ (state.finish run entry).InFlight entry second := by
    intro second other
    obtain ⟨still, different⟩ := (flying entry second).mp other
    exact different (sound.alone entry second run still flies)
  have kind : ∀ other, (state.finish run entry).cancelsOnRelease other =
      state.cancelsOnRelease other := by
    intro other
    unfold cancelsOnRelease
    rw [finish_entries]
    cases state.entries[other]? with
    | none => rfl
    | some known =>
      simp only [Option.map_some, Option.any_some]
      split <;> rfl
  have entry_or : ∀ {other : Nat} {now : ProcessEntry},
      (state.finish run entry).entries[other]? = some now →
      (other ≠ entry ∧ state.entries[other]? = some now) ∨
        (other = entry ∧ ∃ known, state.entries[entry]? = some known ∧
          now = { known with running := false, task := none }) := by
    intro other now foundNow
    rw [finish_entries, Option.map_eq_some_iff] at foundNow
    obtain ⟨before, foundBefore, same⟩ := foundNow
    split at same
    · rename_i here
      subst here
      exact .inr ⟨rfl, before, foundBefore, same.symm⟩
    · rename_i elsewhere
      rw [← same]
      exact .inl ⟨fun same => elsewhere same.symm, foundBefore⟩
  -- A run of another entry is another run.
  have apart : ∀ {other second}, other ≠ entry → state.InFlight other second → second ≠ run := by
    intro other second elsewhere still same
    obtain ⟨first, foundFirst, of, _⟩ := flies
    obtain ⟨known, foundKnown, ofOther, _⟩ := still
    rw [same, foundFirst] at foundKnown
    cases foundKnown
    exact elsewhere (ofOther.symm.trans of)
  constructor
  case registered =>
    intro id other found
    obtain ⟨before, foundBefore, same, live⟩ :=
      sound.registered id other (finish_registered found)
    rw [finish_entries, foundBefore]
    refine ⟨_, rfl, ?_, ?_⟩
    · split <;> exact same
    · split <;> exact live
  case located =>
    intro other second still
    obtain ⟨known, found⟩ := sound.located other second ((flying other second).mp still).1
    rw [finish_entries, found]
    exact ⟨_, rfl⟩
  case alone =>
    intro other first second left right
    exact sound.alone other first second ((flying _ _).mp left).1 ((flying _ _).mp right).1
  case flag =>
    intro other now found
    rcases entry_or found with ⟨elsewhere, before⟩ | ⟨rfl, known, _, rfl⟩
    · rw [sound.flag other now before]
      constructor
      · intro some
        obtain ⟨second, still⟩ := some
        exact ⟨second, (flying other second).mpr ⟨still, apart elsewhere still⟩⟩
      · intro some
        obtain ⟨second, still⟩ := some
        exact ⟨second, ((flying other second).mp still).1⟩
    · simp [quiet]
  case current =>
    intro other now second found slot
    rcases entry_or found with ⟨elsewhere, before⟩ | ⟨rfl, known, _, rfl⟩
    · have still := sound.current other now second before slot
      exact (flying other second).mpr ⟨still, apart elsewhere still⟩
    · cases slot
  case slot =>
    intro other now second found live still
    rcases entry_or found with ⟨_, before⟩ | ⟨rfl, _⟩
    · exact sound.slot other now second before live ((flying other second).mp still).1
    · exact absurd still (quiet second)
  -- A one-shot may lose its place here, an entry that key release cancels does not.
  case owned =>
    intro other now found live repeats
    rw [finish_calls]
    have earlier : ∃ known, state.entries[other]? = some known ∧ known.id = now.id ∧
        known.cancelled = false ∧ known.cancelOnRelease = true := by
      rcases entry_or found with ⟨_, before⟩ | ⟨rfl, known, before, rfl⟩
      · exact ⟨now, before, rfl, live, repeats⟩
      · exact ⟨known, before, rfl, live, repeats⟩
    obtain ⟨known, before, same, liveBefore, repeated⟩ := earlier
    rw [← same]
    rcases sound.owned other known before liveBefore repeated with there | held
    · exact .inl (finish_kept there (by simp [cancelsOnRelease, before, repeated]))
    · exact .inr held
  case killed =>
    intro other now second found dead runs
    rw [finish_calls]
    rcases entry_or found with ⟨_, before⟩ | ⟨rfl, _⟩
    · rw [runs_of_runs (finish_runs state run entry)] at runs
      rcases runs_of_setPhase runs with ⟨_, wrong, _⟩ | ⟨_, runs⟩
      · cases wrong
      · exact sound.killed other now second before dead runs
    · exact absurd runs.inFlight (quiet second)
  case held =>
    intro call member other among
    rw [finish_calls] at member
    rw [kind]
    obtain ⟨before, gone⟩ := sound.held call member other among
    exact ⟨before, fun id there => gone id (finish_registered there)⟩

/-- The ticker tells nothing about entries, runs and calls. -/
theorem ticker (sound : state.Sound) (ticker : Ticker Nat) : { state with ticker }.Sound := by
  constructor
  case registered => exact sound.registered
  case located => exact sound.located
  case alone => exact sound.alone
  case flag => exact sound.flag
  case current => exact sound.current
  case slot => exact sound.slot
  case owned => exact sound.owned
  case killed => exact sound.killed
  case held => exact sound.held

/-- A further call that waits for ticker tasks has taken nothing. -/
theorem waiting (sound : state.Sound) {call : StopCall} (waits : call.waits = true) :
    { state with calls := state.calls ++ [call] }.Sound := by
  -- The new call holds and awaits nothing, so no clause speaks of it.
  have member_or : ∀ {other}, other ∈ state.calls ++ [call] →
      other ∈ state.calls ∨ other = call := by
    intro other member
    simpa using member
  have empty : call.rest = [] := by
    unfold StopCall.waits at waits
    unfold StopCall.rest
    split at waits <;> simp_all
  constructor
  case registered => exact sound.registered
  case located => exact sound.located
  case alone => exact sound.alone
  case flag => exact sound.flag
  case current => exact sound.current
  case slot => exact sound.slot
  case owned =>
    intro entry known found live repeats
    rcases sound.owned entry known found live repeats with there | ⟨other, member, among⟩
    · exact .inl there
    · exact .inr ⟨other, List.mem_append_left _ member, among⟩
  case killed =>
    intro entry known run found dead runs
    obtain ⟨other, member, awaits⟩ := sound.killed entry known run found dead runs
    exact ⟨other, List.mem_append_left _ member, awaits⟩
  case held =>
    intro other member entry among
    rcases member_or member with old | rfl
    · exact sound.held other old entry among
    · rw [empty] at among
      cases among

/-- A call that takes entries from those registered, whether it just began or goes on. -/
theorem released (sound : state.Sound) (scope : Option String) (order : IterationOrder Nat)
    {calls : List StopCall}
    (own : ∃ call ∈ calls, call.phase = (state.release scope order).2)
    (known : ∀ call ∈ calls, call ∈ state.calls ∨ call.phase = (state.release scope order).2)
    (others : ∀ call ∈ state.calls, call ∈ calls ∨ call.waits = true) :
    { (state.release scope order).1 with calls }.Sound := by
  -- What the call takes are the released entries, and other calls are left as they were.
  obtain ⟨map, list, releases, same⟩ := sound.release scope order
  rw [same] at own known ⊢
  apply @stopped state sound _ list (state.stopEntries list).2
  case cancels => rfl
  case reached => rfl
  case runs => exact state.stopEntries_runs list
  case repeating =>
    intro entry member
    obtain ⟨entryKnown, found, _, repeats, _⟩ := (releases.listed entry).mp member
    simp [cancelsOnRelease, found, repeats]
  case registered => exact releases.registered
  case kept => exact releases.kept
  case own => exact own
  case calls => exact known
  case others =>
    intro call member
    rcases others call member with still | waits
    · exact .inl still
    · -- A call that waits for ticker tasks holds nothing and awaits no run.
      right
      unfold StopCall.waits at waits
      unfold StopCall.rest StopCall.awaited
      split at waits
      · rename_i tasks phase
        rw [phase]
        refine ⟨fun _ member => absurd member List.not_mem_nil, fun _ awaits => ?_⟩
        cases awaits
      · cases waits
      · cases waits

/-- A stop begins. -/
theorem call (sound : state.Sound) (scope : Option String) (ticker : Ticker Nat)
    (tasks : List Nat) (order : IterationOrder Nat) :
    (state.call scope ticker tasks order).Sound := by
  -- Without tickers to wait for the entries are taken at once.
  have waiting := sound.ticker ticker
  unfold ProcessRuns.call
  dsimp only
  split
  · have calls : (({ state with ticker } : ProcessRuns).release scope order).1.calls =
        state.calls := by
      obtain ⟨map, list, _, same⟩ := waiting.release scope order
      rw [same]
      exact (stopEntries_others _ list).2.2
    rw [calls]
    apply waiting.released
    · exact ⟨_, List.mem_append_right _ (List.mem_singleton.mpr rfl), rfl⟩
    · intro call member
      rcases List.mem_append.mp member with old | new
      · exact .inl old
      · exact .inr (by rw [List.mem_singleton.mp new])
    · exact fun call member => .inl (List.mem_append_left _ member)
  · exact waiting.waiting rfl

/-- Putting a call in another phase keeps the others. -/
theorem setCall_calls {calls : List StopCall} {call : Nat} {before : StopCall} {phase : StopPhase}
    (found : calls[call]? = some before) :
    (∃ known ∈ calls.modify call fun known => { known with phase }, known.phase = phase) ∧
    (∀ known ∈ calls.modify call fun known => { known with phase },
      known ∈ calls ∨ known.phase = phase) ∧
    ∀ known ∈ calls, known ∈ calls.modify call (fun known => { known with phase }) ∨
      known = before := by
  -- The call is found at its own position, and every other one at theirs.
  refine ⟨⟨{ before with phase }, ?_, rfl⟩, ?_, ?_⟩
  · apply List.mem_of_getElem? (i := call)
    simp [found]
  · intro known member
    obtain ⟨index, foundKnown⟩ := List.getElem?_of_mem member
    rw [List.getElem?_modify] at foundKnown
    simp only [Option.map_eq_map, Option.map_eq_some_iff] at foundKnown
    obtain ⟨earlier, foundEarlier, same⟩ := foundKnown
    split at same
    · exact .inr (by rw [← same])
    · rw [← same]
      exact .inl (List.mem_of_getElem? foundEarlier)
  · intro known member
    obtain ⟨index, foundKnown⟩ := List.getElem?_of_mem member
    by_cases here : call = index
    · subst here
      rw [found] at foundKnown
      cases foundKnown
      exact .inr rfl
    · left
      apply List.mem_of_getElem? (i := index)
      simp [here, foundKnown]

/-- A stop goes on. -/
theorem resume (sound : state.Sound) {call : Nat} {order : IterationOrder Nat}
    {next : ProcessRuns} (stepped : state.resume call order = some next) : next.Sound := by
  obtain ⟨known, found, rest⟩ := Option.bind_eq_some_iff.mp stepped
  dsimp only at rest
  split at rest
  · rename_i tasks phase
    split at rest
    · cases rest
      -- It waited for ticker tasks, and takes what it is for.
      have calls : (state.release known.scope order).1.calls = state.calls := by
        obtain ⟨map, list, _, same⟩ := sound.release known.scope order
        rw [same]
        exact (stopEntries_others _ list).2.2
      obtain ⟨own, among, others⟩ :=
        @setCall_calls _ _ _ (state.release known.scope order).2 found
      unfold setCall
      rw [calls]
      refine sound.released known.scope order own among fun other member => ?_
      rcases others other member with still | rfl
      · exact .inl still
      · exact .inr (by rw [StopCall.waits, phase])
    · cases rest
  · rename_i run list phase
    split at rest
    · rename_i returned
      cases rest
      obtain ⟨own, among, others⟩ := @setCall_calls _ _ _ (state.stopEntries list).2 found
      have held : known.rest = list := by rw [StopCall.rest, phase]
      have keeps := stopEntries_others state list
      apply @stopped state sound _ list (state.stopEntries list).2
      case cancels => rfl
      case reached => rfl
      case runs => exact state.stopEntries_runs list
      case repeating =>
        intro entry member
        exact (sound.held known (List.mem_of_getElem? found) entry (held ▸ member)).1
      case registered =>
        intro id entry there
        rw [setCall, keeps.1] at there
        refine ⟨there, fun member => ?_⟩
        exact (sound.held known (List.mem_of_getElem? found) entry (held ▸ member)).2 id there
      case kept =>
        intro id entry there _ _
        rw [setCall, keeps.1]
        exact there
      case own =>
        rw [setCall, keeps.2.2]
        exact own
      case calls =>
        rw [setCall, keeps.2.2]
        exact among
      case others =>
        rw [setCall, keeps.2.2]
        intro other member
        rcases others other member with still | rfl
        · exact .inl still
        · right
          refine ⟨fun entry member => held ▸ member, fun awaited awaits entry runs => ?_⟩
          -- The run it awaited has returned.
          rw [StopCall.awaited, phase] at awaits
          cases awaits
          obtain ⟨process, foundRun, _, running⟩ := runs
          rw [foundRun, Option.any_some, decide_eq_true_eq, running] at returned
          cases returned
    · cases rest
  · cases rest

/-- Registered entries may be aborted, if they are not registered any more. -/
theorem aborted (sound : state.Sound) {next : ProcessRuns} {taken : List Nat}
    (entries : next.entries = (state.abortEntries taken).entries)
    (runs : next.runs = (state.abortEntries taken).runs) (calls : next.calls = state.calls)
    (registered : ∀ id entry, next.processStates.lookup id = some entry ↔
      state.processStates.lookup id = some entry ∧ entry ∉ taken) : next.Sound := by
  -- Aborted entries own no run any more, so the runs they had are ending.
  apply @retake state sound next taken
  case entries => exact entries
  case flying =>
    intro entry run
    rw [inFlight_of_runs runs, abortEntries_inFlight]
  case registered =>
    intro id entry there
    exact (registered id entry).mp there
  case owned =>
    intro entry known found spared repeats before
    rw [calls]
    rcases before with there | among
    · exact .inl ((registered known.id entry).mpr ⟨there, spared⟩)
    · exact .inr among
  case killed =>
    intro entry known run found dead running
    rw [runs_of_runs runs, abortEntries_runs] at running
    rw [entries] at found
    rw [calls]
    rcases cancelEntries_cases found with ⟨_, before⟩ | ⟨member, _⟩
    · exact sound.killed entry known run before dead running.2
    · exact absurd member running.1
  case held =>
    intro call member entry among
    rw [calls] at member
    obtain ⟨repeats, gone⟩ := sound.held call member entry among
    exact ⟨repeats, fun id there => gone id ((registered id entry).mp there).1⟩

/-- Everything is aborted. -/
theorem abortAll (sound : state.Sound) : state.abortAll.Sound := by
  apply @aborted state sound _ (state.processStates.entries.map Sigma.snd)
  · rfl
  · rfl
  · rfl
  · intro id entry
    constructor
    · intro there
      cases there
    · intro both
      exact absurd (List.mem_map.mpr ⟨_, AList.mem_lookup_iff.mp both.1, rfl⟩) both.2

/-- A process is started. -/
theorem start (sound : state.Sound) (id : String) (repeats : Bool) :
    (state.start id repeats).Sound := by
  -- The id is cleared first, so that the new entry is the only one under it.
  let cleared : ProcessRuns :=
    { state.abortEntries (state.processStates.lookup id).toList with
      processStates := state.processStates.erase id }
  -- What was registered there is aborted, and nothing else is registered under it.
  have clear : cleared.Sound := by
    apply @aborted state sound _ (state.processStates.lookup id).toList
    · rfl
    · rfl
    · rfl
    · intro other entry
      rw [HashMap.lookup_erase_ite, Option.mem_toList]
      by_cases same : other = id
      · rw [if_pos same, same]
        simp
      · rw [if_neg same]
        refine ⟨fun there => ⟨there, fun here => same ?_⟩, And.left⟩
        obtain ⟨_, first, idFirst, _⟩ := sound.registered other entry there
        obtain ⟨_, second, idSecond, _⟩ := sound.registered id entry here
        rw [first] at second
        cases second
        exact idFirst.symm.trans idSecond
  have length : cleared.entries.length = state.entries.length := by
    simp [cleared, abortEntries, cancelEntries]
  unfold ProcessRuns.start
  dsimp only
  apply @spawned _ ?sound _ { id, cancelOnRelease := repeats }
  case found =>
    show (cleared.entries ++ [_])[state.entries.length]? = _
    rw [← length]
    simp
  case idle => rfl
  case sound =>
    apply @enrolled cleared clear _ id repeats
    case free => exact AList.lookup_erase id _
    case entries | runs | calls => rfl
    case registered =>
      intro key
      rw [length]
      show (state.processStates.insert id state.entries.length).lookup key =
        if key = id then some state.entries.length else (state.processStates.erase id).lookup key
      rw [HashMap.lookup_insert_ite, HashMap.lookup_erase_ite]
      split <;> rfl

/-- What every step preserves. -/
theorem step (sound : state.Sound) {op : ProcessOp} {next : ProcessRuns}
    (stepped : state.step op = some next) : next.Sound := by
  -- One case for each operation, with the lemma about its kind of change.
  cases op with
  | start id repeats =>
    cases stepped
    exact sound.start id repeats
  | tick task =>
    obtain ⟨ticking, _, rest⟩ := Option.bind_eq_some_iff.mp stepped
    obtain ⟨known, found, rest⟩ := Option.bind_eq_some_iff.mp rest
    split at rest
    · cases rest
    · split at rest
      · cases rest
        exact sound
      · rename_i idle
        cases rest
        exact sound.spawned found (Bool.not_eq_true _ ▸ idle)
  | stop id =>
    cases stepped
    exact sound.call _ _ _ _
  | stopRepeats order =>
    cases stepped
    exact sound.call _ _ _ _
  | abortAll =>
    cases stepped
    exact sound.abortAll
  | resume call order => exact sound.resume stepped
  | tickerEnds task =>
    obtain ⟨ticker, _, rest⟩ := Option.bind_eq_some_iff.mp stepped
    cases rest
    exact sound.ticker ticker
  | begin run spawns =>
    obtain ⟨known, found, rest⟩ := Option.bind_eq_some_iff.mp stepped
    obtain ⟨entry, foundEntry, rest⟩ := Option.bind_eq_some_iff.mp rest
    obtain ⟨ready, same⟩ := Option.ite_none_right_eq_some.mp rest
    obtain rfl := Option.some.inj same
    -- The task runs for the first time: the process starts, or its entry was cancelled.
    have unreturned : known.phase ≠ .returned := by
      rw [ready.1]
      simp
    split
    · exact sound.finished ⟨known, found, rfl, unreturned⟩
    · apply sound.moved found unreturned
      · split <;> simp
      · intro running other foundOther
        rw [foundEntry] at foundOther
        cases foundOther
        cases cancelled : entry.cancelled with
        | false => rfl
        | true =>
          rw [if_pos cancelled] at running
          cases running
  | exits run =>
    obtain ⟨known, found, rest⟩ := Option.bind_eq_some_iff.mp stepped
    split at rest
    · rename_i running
      cases rest
      apply sound.moved found
      · rw [running]
        simp
      · simp
      · intro wrong
        cases wrong
    · cases rest
  | complete run =>
    obtain ⟨known, found, rest⟩ := Option.bind_eq_some_iff.mp stepped
    split at rest
    · rename_i exited
      cases rest
      refine sound.finished ⟨known, found, rfl, ?_⟩
      rw [exited]
      simp
    · cases rest

end Sound

end Hotki.ProcessRuns
