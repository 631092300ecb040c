import Hotki.Proofs.Engine.ProcessRuns

/-! Stopped gestures stay stopped and an abort finds every process, when calls do not overlap. -/

namespace Hotki.ProcessRuns

open Base

variable {state : ProcessRuns}

/-- Calls do not overlap: a start comes after the stops that cover its id have taken their entries,
a stop after those that cover its ids have returned, and an abort of everything after they all have.
The abort also finds no one-shot that is not over and was deregistered by a stop. -/
def Careful (state : ProcessRuns) : ProcessOp → Prop
  | .start id _ => ∀ call ∈ state.calls, call.waits = true → call.covers id = false
  | .stop id => ∀ call ∈ state.calls, call.phase ≠ .returned → call.covers id = false
  | .stopRepeats _ => ∀ call ∈ state.calls, call.phase = .returned
  | .abortAll => (∀ call ∈ state.calls, call.phase = .returned) ∧
      ∀ run ∈ state.runs, run.phase = .waiting ∨ run.phase = .running →
        state.isRegistered run.entry = true ∨ state.cancelsOnRelease run.entry = true
  | .tick _ | .resume _ _ | .tickerEnds _ | .begin _ _ | .exits _ | .complete _ => True

/-- Whether a step is made with care can be told from the state before it. -/
instance (state : ProcessRuns) : (op : ProcessOp) → Decidable (state.Careful op)
  | .start id _ => inferInstanceAs
      (Decidable (∀ call ∈ state.calls, call.waits = true → call.covers id = false))
  | .stop id => inferInstanceAs
      (Decidable (∀ call ∈ state.calls, call.phase ≠ .returned → call.covers id = false))
  | .stopRepeats _ => inferInstanceAs (Decidable (∀ call ∈ state.calls, call.phase = .returned))
  | .abortAll => inferInstanceAs (Decidable ((∀ call ∈ state.calls, call.phase = .returned) ∧
      ∀ run ∈ state.runs, run.phase = .waiting ∨ run.phase = .running →
        state.isRegistered run.entry = true ∨ state.cancelsOnRelease run.entry = true))
  | .tick _ | .resume _ _ | .tickerEnds _ | .begin _ _ | .exits _ | .complete _ => .isTrue trivial

/-- A step of the repeater. -/
def Steps (state : ProcessRuns) (op : ProcessOp) (next : ProcessRuns) : Prop :=
  state.step op = some next

/-- A step that is made with care. -/
def CarefulStep (state : ProcessRuns) (op : ProcessOp) (next : ProcessRuns) : Prop :=
  state.step op = some next ∧ state.Careful op

/-- What is known of an entry for as long as it exists: its id, and what key release does to it. -/
def Describes (state : ProcessRuns) (entry : Nat) (id : String) : Prop :=
  ∃ known, state.entries[entry]? = some known ∧ known.id = id ∧ known.cancelOnRelease = true

/-- A ticker task that can tick the process of an entry. -/
structure Ticks (state : ProcessRuns) (task : Nat) (ticking : TickerTask Nat) : Prop where
  found : state.ticker.tasks[task]? = some ticking
  live : ticking.ended = false

/-- What holds of calls that do not overlap. -/
structure Orderly (state : ProcessRuns) : Prop where
  /-- A ticker is that of its id. -/
  owner : ∀ id task, state.ticker.entries.lookup id = some task →
    ∃ ticking, state.ticker.tasks[task]? = some ticking ∧ ticking.id = id
  /-- What ticks ticks the registered entry of its id. -/
  ticks : ∀ task ticking, state.Ticks task ticking →
    state.processStates.lookup ticking.id = some ticking.callback ∧
      state.Describes ticking.callback ticking.id
  /-- What ticks is registered, unless a call cancelled it and waits for its end. -/
  awake : ∀ task ticking, state.Ticks task ticking →
    (ticking.cancelled = false ∧ state.ticker.entries.lookup ticking.id = some task) ∨
      ∃ call ∈ state.calls, call.covers ticking.id = true ∧
        ∃ tasks, call.phase = .tickers tasks ∧ task ∈ tasks
  /-- While a call waits for ticker tasks, no other is registered under its ids. -/
  quiet : ∀ call ∈ state.calls, call.waits = true → ∀ id, call.covers id = true →
    state.ticker.entries.lookup id = none
  /-- No two calls that have not returned cover one id. -/
  single : ∀ (first second : Nat) left right id, state.calls[first]? = some left →
    state.calls[second]? = some right → left.phase ≠ .returned → right.phase ≠ .returned →
    left.covers id = true → right.covers id = true → first = second
  /-- Before a call takes its entries they are registered. -/
  waiting : ∀ call ∈ state.calls, call.waits = true → ∀ entry ∈ call.gesture,
    ∃ id, state.Describes entry id ∧ state.processStates.lookup id = some entry ∧
      call.covers id = true
  /-- After that, what is in flight of them is awaited or still to be stopped. -/
  settling : ∀ call ∈ state.calls, call.waits = false → ∀ entry ∈ call.gesture,
    entry < state.entries.length ∧ (∀ id, state.processStates.lookup id ≠ some entry) ∧
      (entry ∈ call.rest ∨ ∀ run, state.InFlight entry run → call.awaited = some run)
  /-- What a call is still to stop was not cancelled, and is in its scope. -/
  rests : ∀ call ∈ state.calls, call.rest.Nodup ∧ ∀ entry ∈ call.rest,
    ∃ known, state.entries[entry]? = some known ∧ known.cancelled = false ∧
      call.covers known.id = true
  /-- What a call awaits is a run of an entry in its scope. -/
  awaits : ∀ call ∈ state.calls, ∀ run, call.awaited = some run → ∃ known entry,
    state.runs[run]? = some known ∧ state.entries[known.entry]? = some entry ∧
      call.covers entry.id = true

/-- A call that has not returned stands somewhere else than one that has. -/
theorem waits_unreturned {call : StopCall} (waits : call.waits = true) :
    call.phase ≠ .returned := by
  intro returned
  rw [StopCall.waits, returned] at waits
  cases waits

/-- A call that holds or awaits something has not returned. -/
theorem rest_unreturned {call : StopCall} {entry : Nat} (among : entry ∈ call.rest) :
    call.phase ≠ .returned := by
  intro returned
  rw [StopCall.rest, returned] at among
  cases among

/-- A call that awaits something has not returned. -/
theorem awaited_unreturned {call : StopCall} {run : Nat} (awaits : call.awaited = some run) :
    call.phase ≠ .returned := by
  intro returned
  rw [StopCall.awaited, returned] at awaits
  cases awaits

/-- A call stops entries that nothing else will stop: those it took just now, or those it took
before. -/
structure Stopping (state next : ProcessRuns) (list : List Nat) (index : Nat) (call : StopCall) :
    Prop where
  stands : call.phase = (state.stopEntries list).2
  cancels : next.entries = (state.stopEntries list).1.entries
  runs : next.runs = state.runs
  ticker : next.ticker = state.ticker
  mine : next.calls[index]? = some call
  others : ∀ other, other ≠ index → next.calls[other]? = state.calls[other]?
  registered : ∀ id entry, next.processStates.lookup id = some entry →
    state.processStates.lookup id = some entry ∧ entry ∉ list
  remains : ∀ id entry, state.processStates.lookup id = some entry →
    state.cancelsOnRelease entry = true → call.covers id = false →
    next.processStates.lookup id = some entry
  ticking : ∀ task ticking, state.Ticks task ticking →
    next.processStates.lookup ticking.id = some ticking.callback ∧
      ∀ known, state.calls[index]? = some known → known.waits = true →
        known.covers ticking.id = false
  distinct : list.Nodup
  listed : ∀ entry ∈ list, ∃ known, state.entries[entry]? = some known ∧
    known.cancelled = false ∧ call.covers known.id = true
  taken : ∀ entry ∈ call.gesture, entry < state.entries.length ∧
    (∀ id, next.processStates.lookup id ≠ some entry) ∧
    (entry ∈ list ∨ ∀ run, ¬ state.InFlight entry run)
  apart : ∀ (other : Nat) known id, other ≠ index → state.calls[other]? = some known →
    known.phase ≠ .returned → known.covers id = true → call.covers id = false

namespace Stopping

variable {next : ProcessRuns} {list gone : List Nat} {index : Nat} {call : StopCall}

/-- Only the ticker decides what ticks, so nothing new ticks after a call stopped entries. -/
theorem ticks (stopping : Stopping state next list index call) {task : Nat}
    {known : TickerTask Nat} (ticks : next.Ticks task known) : state.Ticks task known :=
  ⟨stopping.ticker ▸ ticks.found, ticks.live⟩

/-- The only call that changed is the one that stopped entries. -/
theorem call_or (stopping : Stopping state next list index call) {known : StopCall}
    (member : known ∈ next.calls) :
    known = call ∨ ∃ other, other ≠ index ∧ state.calls[other]? = some known := by
  obtain ⟨other, found⟩ := List.getElem?_of_mem member
  by_cases here : other = index
  · rw [here, stopping.mine] at found
    exact .inl (Option.some.inj found).symm
  · rw [stopping.others other here] at found
    exact .inr ⟨other, here, found⟩

/-- Stopping an entry cancels it and changes nothing else of it, and spares those not stopped. -/
theorem entry (stopping : Stopping state next list index call)
    (stops : Stops state list gone call) {entry : Nat} {known : ProcessEntry}
    (found : state.entries[entry]? = some known) :
    ∃ later, next.entries[entry]? = some later ∧ later.id = known.id ∧
      later.cancelOnRelease = known.cancelOnRelease ∧ (entry ∉ gone → later = known) := by
  rw [stopping.cancels, stops.result, cancelEntries_entries, found]
  refine ⟨_, rfl, ?_, ?_, ?_⟩
  · split <;> rfl
  · split <;> rfl
  · intro spared
    exact if_neg spared

/-- What is known of an entry stays known when a call stops entries. -/
theorem describes (stopping : Stopping state next list index call)
    (stops : Stops state list gone call) {entry : Nat} {id : String}
    (described : state.Describes entry id) : next.Describes entry id := by
  obtain ⟨known, found, same, repeats⟩ := described
  obtain ⟨later, foundLater, sameId, sameKind, _⟩ := stopping.entry stops found
  exact ⟨later, foundLater, sameId.trans same, sameKind.trans repeats⟩

/-- No entry disappears when a call stops entries. -/
theorem within (stopping : Stopping state next list index call)
    (stops : Stops state list gone call) {entry : Nat} (within : entry < state.entries.length) :
    entry < next.entries.length := by
  obtain ⟨later, found, _⟩ := stopping.entry stops (List.getElem?_eq_getElem within)
  exact (List.getElem?_eq_some_iff.mp found).1

/-- What a call took just now or before is awaited by it or still to be stopped. -/
theorem settles (stopping : Stopping state next list index call) (sound : state.Sound)
    (stops : Stops state list gone call) {entry : Nat} (among : entry ∈ call.gesture) :
    entry ∈ call.rest ∨ ∀ run, next.InFlight entry run → call.awaited = some run := by
  have flying := inFlight_of_runs stopping.runs
  rcases (stopping.taken entry among).2.2 with toStop | idle
  · rcases stops.split entry toStop with stopped | held
    · right
      intro run flies
      -- It was not cancelled, so it owned what was in flight.
      obtain ⟨before, foundBefore, live, _⟩ := stopping.listed entry toStop
      have slot := sound.slot entry before run foundBefore live ((flying entry run).mp flies)
      exact stops.owns entry stopped run (by simp [ProcessRuns.owns, foundBefore, slot])
    · exact .inl held
  · right
    intro run flies
    exact absurd ((flying entry run).mp flies) (idle run)

/-- The run that the stopping call awaits is one of an entry that it was to stop. -/
theorem awaits (stopping : Stopping state next list index call) (sound : state.Sound)
    (stops : Stops state list gone call) {run : Nat} (awaited : call.awaited = some run) :
    ∃ known entry, state.runs[run]? = some known ∧ next.entries[known.entry]? = some entry ∧
      call.covers entry.id = true := by
  -- The awaited run is one that an entry owned when it was stopped.
  obtain ⟨entry, among, owns⟩ := stops.awaits run awaited
  obtain ⟨before, foundBefore, _, covers⟩ := stopping.listed entry among
  have owned : before.task = some run := by
    rw [ProcessRuns.owns, foundBefore] at owns
    exact owns
  obtain ⟨process, foundRun, ofEntry, _⟩ := sound.current entry before run foundBefore owned
  obtain ⟨later, foundLater, sameId, _⟩ := stopping.entry stops foundBefore
  exact ⟨process, later, foundRun, ofEntry ▸ foundLater, sameId ▸ covers⟩

end Stopping

namespace Orderly

/-- Nothing is out of order before anything is started. -/
theorem initial : Orderly {} := by
  constructor
  case owner =>
    intro id task found
    cases found
  case ticks | awake =>
    intro task ticking ticks
    cases ticks.found
  case quiet | waiting | settling | rests | awaits =>
    intro call member
    cases member
  case single =>
    intro first second left right id found
    cases found

/-- Order is kept by what changes no call, no id and no cancellation, registers nothing and
deregisters no repeating entry, and puts nothing in flight but for registered entries. -/
theorem kept (orderly : state.Orderly) {next : ProcessRuns} (calls : next.calls = state.calls)
    (registered : ∀ id entry, next.processStates.lookup id = some entry →
      state.processStates.lookup id = some entry)
    (remains : ∀ id entry, state.processStates.lookup id = some entry →
      state.cancelsOnRelease entry = true → next.processStates.lookup id = some entry)
    (entries : ∀ (entry : Nat) known, state.entries[entry]? = some known →
      ∃ later, next.entries[entry]? = some later ∧ later.id = known.id ∧
        later.cancelOnRelease = known.cancelOnRelease ∧ later.cancelled = known.cancelled)
    (flying : ∀ entry run, next.InFlight entry run → state.InFlight entry run ∨
      ∃ id, state.processStates.lookup id = some entry)
    (runs : ∀ (run : Nat) known, state.runs[run]? = some known →
      ∃ later, next.runs[run]? = some later ∧ later.entry = known.entry)
    (tickers : ∀ id, next.ticker.entries.lookup id = state.ticker.entries.lookup id)
    (tasks : ∀ (task : Nat) ticking, state.ticker.tasks[task]? = some ticking →
      ∃ later, next.ticker.tasks[task]? = some later ∧ later.id = ticking.id)
    (ticking : ∀ task ticking, next.Ticks task ticking → state.Ticks task ticking) :
    next.Orderly := by
  -- Every clause of the new state is the same clause of the old one, read through what was kept.
  have describes : ∀ {entry id}, state.Describes entry id → next.Describes entry id := by
    intro entry id described
    obtain ⟨known, found, same, repeats⟩ := described
    obtain ⟨later, foundLater, sameId, sameKind, _⟩ := entries entry known found
    exact ⟨later, foundLater, sameId.trans same, sameKind.trans repeats⟩
  have repeats : ∀ {entry id}, state.Describes entry id → state.cancelsOnRelease entry = true := by
    intro entry id described
    obtain ⟨known, found, _, repeats⟩ := described
    simp [cancelsOnRelease, found, repeats]
  constructor
  case owner =>
    intro id task found
    rw [tickers] at found
    obtain ⟨earlier, foundEarlier, same⟩ := orderly.owner id task found
    obtain ⟨later, foundLater, sameId⟩ := tasks task earlier foundEarlier
    exact ⟨later, foundLater, sameId.trans same⟩
  case ticks =>
    intro task now ticks
    obtain ⟨there, described⟩ := orderly.ticks task now (ticking task now ticks)
    exact ⟨remains _ _ there (repeats described), describes described⟩
  case awake =>
    intro task now ticks
    rw [tickers, calls]
    exact orderly.awake task now (ticking task now ticks)
  case quiet =>
    rw [calls]
    intro call member waits id covers
    rw [tickers]
    exact orderly.quiet call member waits id covers
  case single =>
    rw [calls]
    exact orderly.single
  case waiting =>
    rw [calls]
    intro call member waits entry among
    obtain ⟨id, described, there, covers⟩ := orderly.waiting call member waits entry among
    exact ⟨id, describes described, remains id entry there (repeats described), covers⟩
  -- A run newly in flight is that of a registered entry, which a gesture taken out is not.
  case settling =>
    rw [calls]
    intro call member waits entry among
    obtain ⟨within, gone, settled⟩ := orderly.settling call member waits entry among
    refine ⟨?_, fun id there => gone id (registered id entry there), ?_⟩
    · obtain ⟨later, found, _⟩ := entries entry _ (List.getElem?_eq_getElem within)
      exact (List.getElem?_eq_some_iff.mp found).1
    · rcases settled with held | awaited
      · exact .inl held
      · right
        intro run flies
        rcases flying entry run flies with before | ⟨id, there⟩
        · exact awaited run before
        · exact absurd there (gone id)
  case rests =>
    rw [calls]
    intro call member
    obtain ⟨distinct, held⟩ := orderly.rests call member
    refine ⟨distinct, fun entry among => ?_⟩
    obtain ⟨known, found, live, covers⟩ := held entry among
    obtain ⟨later, foundLater, sameId, _, sameLife⟩ := entries entry known found
    exact ⟨later, foundLater, sameLife.trans live, sameId ▸ covers⟩
  case awaits =>
    rw [calls]
    intro call member run awaited
    obtain ⟨known, entry, found, foundEntry, covers⟩ := orderly.awaits call member run awaited
    obtain ⟨later, foundLater, same⟩ := runs run known found
    obtain ⟨now, foundNow, sameId, _⟩ := entries known.entry entry foundEntry
    exact ⟨later, now, foundLater, same ▸ foundNow, sameId ▸ covers⟩

section Stopping

variable {next : ProcessRuns} {list gone : List Nat} {index : Nat} {call : StopCall}

/-- What ticks after a call stopped entries is registered, or its canceller waits for it. -/
theorem stopping_awake (orderly : state.Orderly) (stopping : Stopping state next list index call)
    (task : Nat) (known : TickerTask Nat) (ticks : next.Ticks task known) :
    (known.cancelled = false ∧ next.ticker.entries.lookup known.id = some task) ∨
      ∃ call ∈ next.calls, call.covers known.id = true ∧
        ∃ tasks, call.phase = .tickers tasks ∧ task ∈ tasks := by
  have ticked := stopping.ticks ticks
  rw [stopping.ticker]
  rcases orderly.awake task known ticked with awake | ⟨waiter, member, rest⟩
  · exact .inl awake
  · right
    obtain ⟨covers, tasks, phase, among⟩ := rest
    obtain ⟨other, found⟩ := List.getElem?_of_mem member
    -- The call that cancelled the ticker still waits, so it is not the one that stops.
    have elsewhere : other ≠ index := by
      intro here
      rw [here] at found
      have spared := (stopping.ticking task known ticked).2 waiter found
        (by rw [StopCall.waits, phase])
      rw [covers] at spared
      cases spared
    rw [← stopping.others other elsewhere] at found
    exact ⟨waiter, List.mem_of_getElem? found, covers, tasks, phase, among⟩

/-- After a call stopped entries, still no two unfinished calls cover one id. -/
theorem stopping_single (orderly : state.Orderly) (stopping : Stopping state next list index call)
    {first second : Nat} {left right : StopCall} {id : String}
    (foundLeft : next.calls[first]? = some left) (foundRight : next.calls[second]? = some right)
    (openLeft : left.phase ≠ .returned) (openRight : right.phase ≠ .returned)
    (coversLeft : left.covers id = true) (coversRight : right.covers id = true) :
    first = second := by
  -- The cases are which of the two, if any, is the call that stopped.
  by_cases here : first = index
  · by_cases there : second = index
    · exact here.trans there.symm
    · rw [here, stopping.mine] at foundLeft
      cases foundLeft
      rw [stopping.others second there] at foundRight
      rw [stopping.apart second right id there foundRight openRight coversRight] at coversLeft
      cases coversLeft
  · rw [stopping.others first here] at foundLeft
    by_cases there : second = index
    · rw [there, stopping.mine] at foundRight
      cases foundRight
      rw [stopping.apart first left id here foundLeft openLeft coversLeft] at coversRight
      cases coversRight
    · rw [stopping.others second there] at foundRight
      exact orderly.single first second left right id foundLeft foundRight openLeft openRight
        coversLeft coversRight

/-- What another call is still to stop is in the scope of that call, so it was not stopped. -/
theorem stopping_spares (orderly : state.Orderly)
    (stopping : Stopping state next list index call) (stops : Stops state list gone call)
    {other entry : Nat} {known : StopCall} (elsewhere : other ≠ index)
    (found : state.calls[other]? = some known) (among : entry ∈ known.rest) : entry ∉ gone := by
  -- An entry in the scope of two unfinished calls would make them overlap.
  intro stopped
  obtain ⟨_, held⟩ := orderly.rests known (List.mem_of_getElem? found)
  obtain ⟨before, foundBefore, _, covers⟩ := held entry among
  obtain ⟨again, foundAgain, _, coversToo⟩ := stopping.listed entry (stops.within entry stopped)
  rw [foundBefore] at foundAgain
  cases foundAgain
  rw [stopping.apart other known before.id elsewhere found (rest_unreturned among) covers]
    at coversToo
  cases coversToo

/-- Order is kept when a call stops entries that nothing else will stop. -/
theorem stopping (orderly : state.Orderly) (sound : state.Sound)
    (stopping : Stopping state next list index call) : next.Orderly := by
  obtain ⟨gone, stops⟩ := state.stops list stopping.stands
  -- Each clause is one of the stopping call, shown above, or one of another call, as it was.
  constructor
  case owner =>
    rw [stopping.ticker]
    exact orderly.owner
  case ticks =>
    intro task known ticks
    have ticked := stopping.ticks ticks
    exact ⟨(stopping.ticking task known ticked).1,
      stopping.describes stops (orderly.ticks task known ticked).2⟩
  case awake => exact orderly.stopping_awake stopping
  case quiet =>
    intro known member waits
    rw [stopping.ticker]
    rcases stopping.call_or member with rfl | ⟨other, _, found⟩
    · rw [stops.waits] at waits
      cases waits
    · exact orderly.quiet known (List.mem_of_getElem? found) waits
  case single =>
    intro first second left right id foundLeft foundRight openLeft openRight
    exact orderly.stopping_single stopping foundLeft foundRight openLeft openRight
  -- The stopping call waits for no ticker, and others cover other identifiers.
  case waiting =>
    intro known member waits entry among
    rcases stopping.call_or member with rfl | ⟨other, elsewhere, found⟩
    · rw [stops.waits] at waits
      cases waits
    · obtain ⟨id, described, there, covers⟩ :=
        orderly.waiting known (List.mem_of_getElem? found) waits entry among
      have repeats : state.cancelsOnRelease entry = true := by
        obtain ⟨earlier, foundEarlier, _, repeats⟩ := described
        simp [cancelsOnRelease, foundEarlier, repeats]
      have outside := stopping.apart other known id elsewhere found (waits_unreturned waits) covers
      exact ⟨id, stopping.describes stops described,
        stopping.remains id entry there repeats outside, covers⟩
  -- What the stopping call took is out of the table and will be stopped.
  case settling =>
    intro known member waits entry among
    rcases stopping.call_or member with rfl | ⟨other, _, found⟩
    · obtain ⟨within, unregistered, _⟩ := stopping.taken entry among
      exact ⟨stopping.within stops within, unregistered, stopping.settles sound stops among⟩
    · obtain ⟨within, unregistered, settled⟩ :=
        orderly.settling known (List.mem_of_getElem? found) waits entry among
      refine ⟨stopping.within stops within,
        fun id there => unregistered id (stopping.registered id entry there).1, ?_⟩
      rcases settled with held | awaited
      · exact .inl held
      · right
        intro run flies
        exact awaited run ((inFlight_of_runs stopping.runs entry run).mp flies)
  -- Entries other calls are yet to stop are spared by this one.
  case rests =>
    intro known member
    rcases stopping.call_or member with rfl | ⟨other, elsewhere, found⟩
    · refine ⟨(stops.distinct stopping.distinct).1, fun entry among => ?_⟩
      obtain ⟨before, foundBefore, live, covers⟩ := stopping.listed entry (stops.rest entry among)
      obtain ⟨later, foundLater, _, _, same⟩ := stopping.entry stops foundBefore
      rw [same ((stops.distinct stopping.distinct).2 entry among)] at foundLater
      exact ⟨before, foundLater, live, covers⟩
    · obtain ⟨once, held⟩ := orderly.rests known (List.mem_of_getElem? found)
      refine ⟨once, fun entry among => ?_⟩
      obtain ⟨before, foundBefore, live, covers⟩ := held entry among
      obtain ⟨later, foundLater, _, _, same⟩ := stopping.entry stops foundBefore
      rw [same (orderly.stopping_spares stopping stops elsewhere found among)] at foundLater
      exact ⟨before, foundLater, live, covers⟩
  case awaits =>
    intro known member run awaited
    rw [stopping.runs]
    rcases stopping.call_or member with rfl | ⟨other, _, found⟩
    · exact stopping.awaits sound stops awaited
    · obtain ⟨process, before, foundRun, foundBefore, covers⟩ :=
        orderly.awaits known (List.mem_of_getElem? found) run awaited
      obtain ⟨later, foundLater, sameId, _⟩ := stopping.entry stops foundBefore
      exact ⟨process, later, foundRun, foundLater, sameId ▸ covers⟩

end Stopping

/-- Order is kept when a call takes what it is for from the registered entries, once nothing ticks
in its scope. -/
theorem released (orderly : state.Orderly) (sound : state.Sound) {calls : List StopCall}
    {index : Nat} {call : StopCall} {order : IterationOrder Nat}
    (stands : call.phase = (state.release call.scope order).2)
    (mine : calls[index]? = some call)
    (others : ∀ other, other ≠ index → calls[other]? = state.calls[other]?)
    (same : ∀ known, state.calls[index]? = some known → known.scope = call.scope)
    (silent : ∀ task ticking, state.Ticks task ticking → call.covers ticking.id = false)
    (taken : ∀ entry ∈ call.gesture, ∃ id, state.Describes entry id ∧
      state.processStates.lookup id = some entry ∧ call.covers id = true)
    (apart : ∀ (other : Nat) known id, other ≠ index → state.calls[other]? = some known →
      known.phase ≠ .returned → known.covers id = true → call.covers id = false) :
    { (state.release call.scope order).1 with calls }.Orderly := by
  obtain ⟨map, list, releases, result⟩ := sound.release call.scope order
  rw [result] at stands ⊢
  -- What is outside of the scope stays registered.
  have remains : ∀ id entry, state.processStates.lookup id = some entry →
      state.cancelsOnRelease entry = true → call.covers id = false →
      map.lookup id = some entry := by
    intro id entry there repeats outside
    apply releases.kept id entry there repeats
    intro among
    obtain ⟨known, found, _, _, covers⟩ := (releases.listed entry).mp among
    obtain ⟨again, foundAgain, sameId, _⟩ := sound.registered id entry there
    rw [found] at foundAgain
    cases foundAgain
    rw [sameId] at covers
    rw [StopCall.covers, covers] at outside
    cases outside
  refine @stopping state _ list index call orderly sound ?_
  constructor
  case stands => exact stands
  case cancels => rfl
  case runs => exact state.stopEntries_runs list
  case ticker => rfl
  case mine => exact mine
  case others => exact others
  case registered => exact releases.registered
  case remains => exact remains
  case ticking =>
    intro task ticking ticks
    obtain ⟨there, known, found, _, repeats⟩ := orderly.ticks task ticking ticks
    have outside := silent task ticking ticks
    refine ⟨remains _ _ there (by simp [cancelsOnRelease, found, repeats]) outside, ?_⟩
    intro before foundBefore _
    rw [StopCall.covers, same before foundBefore]
    exact outside
  case distinct => exact releases.distinct
  case listed =>
    intro entry among
    obtain ⟨known, found, there, _, covers⟩ := (releases.listed entry).mp among
    obtain ⟨again, foundAgain, _, live⟩ := sound.registered known.id entry there
    rw [found] at foundAgain
    cases foundAgain
    exact ⟨known, found, live, covers⟩
  -- What the gesture held was registered in the scope, so it is among what is stopped.
  case taken =>
    intro entry among
    obtain ⟨id, ⟨known, found, rfl, repeats⟩, there, covers⟩ := taken entry among
    have listed : entry ∈ list := (releases.listed entry).mpr ⟨known, found, there, repeats, covers⟩
    exact ⟨(List.getElem?_eq_some_iff.mp found).1,
      fun id still => (releases.registered id entry still).2 listed, .inl listed⟩
  case apart => exact apart

/-- What a stop is called for is registered, when no call that covers it is unfinished. -/
theorem gesture_registered (orderly : state.Orderly) {scope : Option String}
    (apart : ∀ call ∈ state.calls, call.phase ≠ .returned → ∀ id,
      scope.all (· = id) = true → call.covers id = false) {entry : Nat}
    (among : entry ∈ state.gesture scope) : ∃ id, state.Describes entry id ∧
      state.processStates.lookup id = some entry ∧ scope.all (· = id) = true := by
  unfold gesture at among
  simp only [List.mem_filter, List.mem_range, Bool.and_eq_true, Bool.or_eq_true,
    List.any_eq_true, decide_eq_true_eq] at among
  obtain ⟨_, kind, there⟩ := among
  obtain ⟨known, found, kind⟩ := (Option.any_eq_true _ _).mp kind
  obtain ⟨repeats, covers⟩ := (Bool.and_eq_true _ _).mp kind
  refine ⟨known.id, ⟨known, found, rfl, repeats⟩, ?_, covers⟩
  -- It is registered, or some call still has to do with it.
  rcases there with registered | ⟨call, member, held⟩
  · rw [isRegistered, found, Option.any_some, decide_eq_true_eq] at registered
    exact registered
  · -- An entry that a call holds or awaits is in the scope of that call.
    exfalso
    rcases held with among | awaits
    · obtain ⟨_, holds⟩ := orderly.rests call member
      obtain ⟨again, foundAgain, _, coversToo⟩ := holds entry among
      rw [found] at foundAgain
      cases foundAgain
      rw [apart call member (rest_unreturned among) known.id covers] at coversToo
      cases coversToo
    · obtain ⟨run, awaited, ofEntry⟩ := (Option.any_eq_true _ _).mp awaits
      obtain ⟨process, foundRun, same⟩ := (Option.any_eq_true _ _).mp ofEntry
      obtain ⟨other, again, foundOther, foundAgain, coversToo⟩ :=
        orderly.awaits call member run awaited
      rw [foundRun] at foundOther
      cases foundOther
      rw [of_decide_eq_true same, found] at foundAgain
      cases foundAgain
      rw [apart call member (awaited_unreturned awaited) known.id covers] at coversToo
      cases coversToo

/-- What ticks in the scope of a call is registered, when no other call covers its id. -/
theorem registered_of_ticks (orderly : state.Orderly) {scope : Option String}
    (apart : ∀ call ∈ state.calls, call.phase ≠ .returned → ∀ id,
      scope.all (· = id) = true → call.covers id = false) {task : Nat} {ticking : TickerTask Nat}
    (ticks : state.Ticks task ticking) (covers : scope.all (· = ticking.id) = true) :
    state.ticker.entries.lookup ticking.id = some task := by
  rcases orderly.awake task ticking ticks with ⟨_, registered⟩ | ⟨call, member, coversToo, rest⟩
  · exact registered
  · obtain ⟨tasks, phase, _⟩ := rest
    rw [apart call member (by rw [phase]; simp) ticking.id covers] at coversToo
    cases coversToo

section Call

variable {scope : Option String} {ticker : Ticker Nat} {tasks : List Nat}

/-- Where quiescing cancels no task, whatever ticks is as it was. -/
theorem ticks_of_unticked (quiesces : Ticker.Quiesces state.ticker ticker scope [])
    {task : Nat} {ticking : TickerTask Nat}
    (ticks : ({ state with ticker } : ProcessRuns).Ticks task ticking) :
    state.Ticks task ticking := by
  have found : ticker.tasks[task]? = some ticking := ticks.found
  rw [quiesces.cancelled task] at found
  exact ⟨by simpa using found, ticks.live⟩

/-- Order is kept when a ticker quiesces that cancels no task. -/
theorem unticked (orderly : state.Orderly)
    (quiesces : Ticker.Quiesces state.ticker ticker scope []) :
    ({ state with ticker } : ProcessRuns).Orderly := by
  have tasksSame : ∀ task : Nat, ticker.tasks[task]? = state.ticker.tasks[task]? := by
    intro task
    rw [quiesces.cancelled task]
    simp
  apply orderly.kept
  case calls => rfl
  case registered => exact fun _ _ there => there
  case remains => exact fun _ _ there _ => there
  case entries => exact fun _ known found => ⟨known, found, rfl, rfl, rfl⟩
  case flying => exact fun _ _ flies => .inl flies
  case runs => exact fun _ known found => ⟨known, found, rfl⟩
  case tickers =>
    intro id
    show ticker.entries.lookup id = _
    rw [quiesces.entries]
    split
    · rename_i covers
      -- A task registered in the scope would have been drained.
      cases found : state.ticker.entries.lookup id with
      | none => rfl
      | some task => exact absurd ((quiesces.drained task).mpr ⟨id, covers, found⟩) List.not_mem_nil
    · rfl
  case tasks =>
    intro task ticking found
    exact ⟨ticking, (tasksSame task).trans found, rfl⟩
  case ticking => exact fun _ _ => ticks_of_unticked quiesces

/-- Order is kept when a call begins that no unfinished call overlaps and no ticker delays. -/
theorem call_released (orderly : state.Orderly) (sound : state.Sound) {order : IterationOrder Nat}
    (quiesces : Ticker.Quiesces state.ticker ticker scope [])
    (apart : ∀ call ∈ state.calls, call.phase ≠ .returned → ∀ id,
      scope.all (· = id) = true → call.covers id = false) :
    (state.call scope ticker [] order).Orderly := by
  unfold ProcessRuns.call
  dsimp only
  rw [if_pos rfl]
  have calls : (({ state with ticker } : ProcessRuns).release scope order).1.calls =
      state.calls := by
    obtain ⟨map, list, _, same⟩ := (sound.ticker ticker).release scope order
    rw [same]
    exact (stopEntries_others _ list).2.2
  rw [calls]
  -- There was no ticker to wait for, so nothing ticks in the scope and the entries are taken.
  apply @released { state with ticker } (orderly.unticked quiesces) (sound.ticker ticker) _
    state.calls.length
    ⟨scope, state.gesture scope, (({ state with ticker } : ProcessRuns).release scope order).2⟩
  case stands => rfl
  case mine => simp
  case others =>
    intro other elsewhere
    rcases Nat.lt_or_ge other state.calls.length with old | fresh
    · exact List.getElem?_append_left old
    · rw [List.getElem?_append_right fresh, List.getElem?_eq_none fresh]
      apply List.getElem?_eq_none
      simp only [List.length_singleton]
      omega
  case same =>
    intro known found
    exact absurd (List.getElem?_eq_some_iff.mp found).1 (Nat.lt_irrefl _)
  case silent =>
    intro task ticking ticks
    cases covers : scope.all (· = ticking.id) with
    | false => exact covers
    | true =>
      have registered :=
        orderly.registered_of_ticks apart (ticks_of_unticked quiesces ticks) covers
      exact absurd ((quiesces.drained task).mpr ⟨_, covers, registered⟩) List.not_mem_nil
  case taken => exact fun _ among => orderly.gesture_registered apart among
  -- No other unfinished call covers an identifier of the scope.
  case apart =>
    intro other known id _ found unreturned coversKnown
    cases covers : scope.all (· = id) with
    | false => exact covers
    | true =>
      rw [apart known (List.mem_of_getElem? found) unreturned id covers] at coversKnown
      cases coversKnown

/-- A task of a quiesced ticker was there before, live just as well, and is only cancelled if it was
drained. -/
theorem task_of_quiesces (quiesces : Ticker.Quiesces state.ticker ticker scope tasks) {task : Nat}
    {now : TickerTask Nat} (found : ticker.tasks[task]? = some now) :
    ∃ before, state.ticker.tasks[task]? = some before ∧ now.id = before.id ∧
      now.callback = before.callback ∧ now.ended = before.ended ∧
      (task ∉ tasks → now = before) := by
  rw [quiesces.cancelled, Option.map_eq_some_iff] at found
  obtain ⟨before, foundBefore, same⟩ := found
  subst same
  refine ⟨before, foundBefore, ?_, ?_, ?_, fun spared => if_neg spared⟩
  · split <;> rfl
  · split <;> rfl
  · split <;> rfl

/-- What ticks after a ticker quiesced is registered, or a call waits for it: the one that quiesced
the ticker, if the task was drained. -/
theorem quiesced_awake (orderly : state.Orderly)
    (quiesces : Ticker.Quiesces state.ticker ticker scope tasks) {gesture : List Nat} {task : Nat}
    {now : TickerTask Nat} (found : ticker.tasks[task]? = some now) (live : now.ended = false) :
    (now.cancelled = false ∧ ticker.entries.lookup now.id = some task) ∨
      ∃ call ∈ state.calls ++ [⟨scope, gesture, .tickers tasks⟩], call.covers now.id = true ∧
        ∃ drained, call.phase = .tickers drained ∧ task ∈ drained := by
  -- A task that was drained is waited for by the new call, and the others are as before.
  obtain ⟨before, foundBefore, sameId, _, sameEnd, same⟩ := task_of_quiesces quiesces found
  by_cases drained : task ∈ tasks
  · right
    obtain ⟨id, covers, registered⟩ := (quiesces.drained task).mp drained
    obtain ⟨owned, foundOwned, ofId⟩ := orderly.owner id task registered
    rw [foundBefore] at foundOwned
    cases foundOwned
    refine ⟨_, List.mem_append_right _ (List.mem_singleton.mpr rfl), ?_, tasks, rfl, drained⟩
    rw [sameId, ofId]
    exact covers
  · have unchanged := same drained
    subst unchanged
    rcases orderly.awake task now ⟨foundBefore, live⟩ with ⟨awake, registered⟩ | waited
    · left
      refine ⟨awake, ?_⟩
      rw [quiesces.entries, if_neg, registered]
      intro covers
      exact drained ((quiesces.drained task).mpr ⟨now.id, covers, registered⟩)
    · right
      obtain ⟨call, member, rest⟩ := waited
      exact ⟨call, List.mem_append_left _ member, rest⟩

/-- A call that overlaps no unfinished call joins the others without overlap. -/
theorem joined_single (orderly : state.Orderly) {joining : StopCall}
    (apart : ∀ call ∈ state.calls, call.phase ≠ .returned → ∀ id,
      joining.covers id = true → call.covers id = false)
    {first second : Nat} {left right : StopCall} {id : String}
    (foundLeft : (state.calls ++ [joining])[first]? = some left)
    (foundRight : (state.calls ++ [joining])[second]? = some right)
    (openLeft : left.phase ≠ .returned) (openRight : right.phase ≠ .returned)
    (coversLeft : left.covers id = true) (coversRight : right.covers id = true) :
    first = second := by
  have place : ∀ {index : Nat} {known : StopCall},
      (state.calls ++ [joining])[index]? = some known →
      state.calls[index]? = some known ∨ (index = state.calls.length ∧ known = joining) := by
    intro index known found
    rcases Nat.lt_or_ge index state.calls.length with old | fresh
    · rw [List.getElem?_append_left old] at found
      exact .inl found
    · rw [List.getElem?_append_right fresh] at found
      obtain ⟨within, same⟩ := List.getElem?_eq_some_iff.mp found
      rw [List.getElem_singleton] at same
      simp only [List.length_singleton] at within
      exact .inr ⟨by omega, same.symm⟩
  -- The cases are which of the two, if any, is the call that joins.
  rcases place foundLeft with old | ⟨rfl, rfl⟩
  · rcases place foundRight with other | ⟨_, rfl⟩
    · exact orderly.single first second _ _ id old other openLeft openRight coversLeft coversRight
    · rw [apart _ (List.mem_of_getElem? old) openLeft id coversRight] at coversLeft
      cases coversLeft
  · rcases place foundRight with old | ⟨rfl, _⟩
    · rw [apart _ (List.mem_of_getElem? old) openRight id coversLeft] at coversRight
      cases coversRight
    · rfl

/-- Order is kept when a call begins that no unfinished call overlaps and waits for tickers. -/
theorem call_waiting (orderly : state.Orderly) {order : IterationOrder Nat}
    (quiesces : Ticker.Quiesces state.ticker ticker scope tasks) (delayed : tasks ≠ [])
    (apart : ∀ call ∈ state.calls, call.phase ≠ .returned → ∀ id,
      scope.all (· = id) = true → call.covers id = false) :
    (state.call scope ticker tasks order).Orderly := by
  unfold ProcessRuns.call
  dsimp only
  rw [if_neg delayed]
  have call_or : ∀ {known : StopCall},
      known ∈ state.calls ++ [⟨scope, state.gesture scope, .tickers tasks⟩] →
      known ∈ state.calls ∨ known = ⟨scope, state.gesture scope, .tickers tasks⟩ := by
    intro known member
    simpa using member
  -- Each clause is one of an earlier call, which stands, or one of the call that begins.
  constructor
  case owner =>
    intro id task found
    rw [quiesces.entries] at found
    split at found
    · cases found
    · obtain ⟨before, foundBefore, same⟩ := orderly.owner id task found
      show ∃ ticking, ticker.tasks[task]? = some ticking ∧ ticking.id = id
      rw [quiesces.cancelled, foundBefore]
      refine ⟨_, rfl, ?_⟩
      split <;> exact same
  case ticks =>
    intro task now ticks
    obtain ⟨before, found, sameId, sameCallback, sameEnd, _⟩ :=
      task_of_quiesces quiesces ticks.found
    rw [sameId, sameCallback]
    exact orderly.ticks task before ⟨found, sameEnd ▸ ticks.live⟩
  case awake => exact fun task now ticks => orderly.quiesced_awake quiesces ticks.found ticks.live
  -- The tickers of the scope are deregistered, and those of others stay as they were.
  case quiet =>
    intro call member waits id covers
    show ticker.entries.lookup id = none
    rw [quiesces.entries]
    split
    · rfl
    · rename_i outside
      rcases call_or member with old | rfl
      · exact orderly.quiet call old waits id covers
      · exact absurd covers outside
  case single =>
    intro first second left right id foundLeft foundRight openLeft openRight
    exact @joined_single state orderly ⟨scope, state.gesture scope, .tickers tasks⟩ apart _ _ _ _ _
      foundLeft foundRight openLeft openRight
  -- The gesture was read while its entries were registered.
  case waiting =>
    intro call member waits entry among
    rcases call_or member with old | rfl
    · exact orderly.waiting call old waits entry among
    · exact orderly.gesture_registered apart among
  case settling =>
    intro call member waits entry among
    rcases call_or member with old | rfl
    · exact orderly.settling call old waits entry among
    · cases waits
  case rests =>
    intro call member
    rcases call_or member with old | rfl
    · exact orderly.rests call old
    · exact ⟨List.nodup_nil, fun entry among => absurd among List.not_mem_nil⟩
  case awaits =>
    intro call member run awaited
    rcases call_or member with old | rfl
    · exact orderly.awaits call old run awaited
    · cases awaited

/-- Order is kept when a call begins that no unfinished call overlaps. -/
theorem call (orderly : state.Orderly) (sound : state.Sound) {order : IterationOrder Nat}
    (quiesces : Ticker.Quiesces state.ticker ticker scope tasks)
    (apart : ∀ call ∈ state.calls, call.phase ≠ .returned → ∀ id,
      scope.all (· = id) = true → call.covers id = false) :
    (state.call scope ticker tasks order).Orderly := by
  by_cases none : tasks = []
  · subst none
    exact orderly.call_released sound quiesces apart
  · exact orderly.call_waiting quiesces none apart

end Call

/-- Order is kept when a call goes on. -/
theorem resume (orderly : state.Orderly) (sound : state.Sound) {index : Nat}
    {order : IterationOrder Nat} {next : ProcessRuns}
    (stepped : state.resume index order = some next) : next.Orderly := by
  obtain ⟨known, found, rest⟩ := Option.bind_eq_some_iff.mp stepped
  have member := List.mem_of_getElem? found
  -- Only the phase of the call that goes on changes.
  have elsewhere : ∀ (phase : StopPhase) (other : Nat), other ≠ index →
      (state.calls.modify index fun known => { known with phase })[other]? =
        state.calls[other]? := by
    intro phase other different
    simp [Ne.symm different]
  have here : ∀ phase : StopPhase,
      (state.calls.modify index fun known => { known with phase })[index]? =
        some { known with phase } := by
    intro phase
    simp [found]
  have apart : known.phase ≠ .returned → ∀ (other : Nat) (call : StopCall) (id : String),
      other ≠ index → state.calls[other]? = some call → call.phase ≠ .returned →
      call.covers id = true → known.covers id = false := by
    intro unreturned other call id different foundOther openOther covers
    cases coversToo : known.covers id with
    | false => rfl
    | true => exact absurd (orderly.single other index call known id foundOther found openOther
        unreturned covers coversToo) different
  dsimp only at rest
  split at rest
  -- The call waited for tickers, and now takes the entries of its scope.
  · rename_i tasks phase
    split at rest
    · rename_i allEnded
      cases rest
      have waits : known.waits = true := by rw [StopCall.waits, phase]
      have calls : (state.release known.scope order).1.calls = state.calls := by
        obtain ⟨map, list, _, same⟩ := sound.release known.scope order
        rw [same]
        exact (stopEntries_others _ list).2.2
      unfold setCall
      rw [calls]
      apply @released state orderly sound _ index
        { known with phase := (state.release known.scope order).2 }
      case stands => rfl
      case mine => exact here _
      case others => exact elsewhere _
      case same =>
        intro again foundAgain
        rw [found] at foundAgain
        cases foundAgain
        rfl
      case silent =>
        intro task ticking ticks
        show known.covers ticking.id = false
        cases covers : known.covers ticking.id with
        | false => rfl
        | true =>
          -- What ticks in the scope would be one of the tasks that this call saw end.
          exfalso
          rcases orderly.awake task ticking ticks with ⟨_, registered⟩ | ⟨call, among, rest⟩
          · rw [orderly.quiet known member waits ticking.id covers] at registered
            cases registered
          · obtain ⟨coversToo, others, phaseToo, waited⟩ := rest
            obtain ⟨other, foundOther⟩ := List.getElem?_of_mem among
            have same := orderly.single other index call known ticking.id foundOther found
              (by rw [phaseToo]; simp) (waits_unreturned waits) coversToo covers
            rw [same, found] at foundOther
            cases foundOther
            rw [phase] at phaseToo
            cases phaseToo
            have ended := List.all_eq_true.mp allEnded task waited
            rw [Ticker.hasEnded, ticks.found, Option.all_some, ticks.live] at ended
            cases ended
      case taken => exact orderly.waiting known member waits
      case apart => exact apart (waits_unreturned waits)
    · cases rest
  -- The call awaited a run, which has returned, and stops the rest of its list.
  · rename_i run list phase
    split at rest
    · rename_i returned
      cases rest
      have held : known.rest = list := by rw [StopCall.rest, phase]
      have awaited : known.awaited = some run := by rw [StopCall.awaited, phase]
      have waits : known.waits = false := by rw [StopCall.waits, phase]
      obtain ⟨distinct, holds⟩ := orderly.rests known member
      have keeps := stopEntries_others state list
      unfold setCall
      refine @stopping state _ list index { known with phase := (state.stopEntries list).2 }
        orderly sound ?_
      constructor
      case stands => rfl
      case cancels => rfl
      case runs => exact state.stopEntries_runs list
      case ticker => exact keeps.2.1
      case mine =>
        rw [keeps.2.2]
        exact here _
      case others =>
        rw [keeps.2.2]
        exact elsewhere _
      case registered =>
        rw [keeps.1]
        intro id entry there
        refine ⟨there, fun among => ?_⟩
        exact (sound.held known member entry (held ▸ among)).2 id there
      case remains =>
        rw [keeps.1]
        exact fun id entry there _ _ => there
      case ticking =>
        rw [keeps.1]
        intro task ticking ticks
        refine ⟨(orderly.ticks task ticking ticks).1, fun again foundAgain waitsAgain => ?_⟩
        rw [found] at foundAgain
        cases foundAgain
        rw [waits] at waitsAgain
        cases waitsAgain
      case distinct => exact held ▸ distinct
      case listed => exact held ▸ holds
      case taken =>
        rw [keeps.1]
        intro entry among
        obtain ⟨within, gone, settled⟩ := orderly.settling known member waits entry among
        refine ⟨within, gone, ?_⟩
        rcases settled with among | settles
        · exact .inl (held ▸ among)
        · right
          intro other flies
          -- What is in flight would be the run that has returned.
          have same := settles other flies
          rw [awaited] at same
          cases same
          obtain ⟨process, foundRun, _, unreturned⟩ := flies
          rw [foundRun, Option.any_some, decide_eq_true_eq] at returned
          exact unreturned returned
      case apart => exact apart (awaited_unreturned awaited)
    · cases rest
  · cases rest

/-- Order is kept when everything is aborted and no call is unfinished. -/
theorem abortAll (orderly : state.Orderly)
    (finished : ∀ call ∈ state.calls, call.phase = .returned) : state.abortAll.Orderly := by
  -- Nothing ticks any more: what ticked was registered, and all that was registered is aborted.
  have silent : ∀ task ticking, ¬ state.abortAll.Ticks task ticking := by
    intro task ticking ticks
    have found := ticks.found
    simp only [ProcessRuns.abortAll, Ticker.abortAll, List.getElem?_mapIdx,
      Option.map_eq_some_iff] at found
    obtain ⟨before, foundBefore, same⟩ := found
    split at same
    · rw [← same] at ticks
      cases ticks.live
    · rename_i spared
      subst same
      have registered := @registered_of_ticks state orderly none
        (fun call member unreturned => absurd (finished call member) unreturned)
        _ _ ⟨foundBefore, ticks.live⟩ rfl
      exact spared (List.mem_map.mpr ⟨_, AList.mem_lookup_iff.mp registered, rfl⟩)
  constructor
  case owner =>
    intro id task found
    cases found
  case ticks | awake =>
    intro task ticking ticks
    exact absurd ticks (silent task ticking)
  case quiet =>
    intro call member waits id covers
    rfl
  case single =>
    intro first second left right id foundLeft foundRight openLeft
    exact absurd (finished left (List.mem_of_getElem? foundLeft)) openLeft
  case waiting =>
    intro call member waits
    exact absurd (finished call member) (waits_unreturned waits)
  -- Aborting starts no run, so what was in flight for an entry still bounds it.
  case settling =>
    intro call member waits entry among
    obtain ⟨within, _, settled⟩ := orderly.settling call member waits entry among
    refine ⟨?_, ?_, ?_⟩
    · simpa [ProcessRuns.abortAll, abortEntries, cancelEntries] using within
    · intro id there
      cases there
    · rcases settled with held | awaited
      · exact .inl held
      · right
        intro run flies
        exact awaited run ((abortEntries_inFlight state _ entry run).mp flies)
  case rests =>
    intro call member
    have empty : call.rest = [] := by rw [StopCall.rest, finished call member]
    rw [empty]
    exact ⟨List.nodup_nil, fun entry among => absurd among List.not_mem_nil⟩
  case awaits =>
    intro call member run awaited
    exact absurd (finished call member) (awaited_unreturned awaited)

end Orderly

/-- The entries there were before a start: those it aborts are cancelled. -/
theorem start_entries (state : ProcessRuns) (id : String) (repeats : Bool) {entry : Nat}
    (within : entry < state.entries.length) : (state.start id repeats).entries[entry]? =
      (state.cancelEntries (state.processStates.lookup id).toList).entries[entry]? := by
  have old : ¬ state.entries.length = entry := by omega
  unfold start
  dsimp only
  rw [spawn_entries]
  simp only [old, if_false, Option.map_id']
  exact List.getElem?_append_left (by simpa [abortEntries, cancelEntries] using within)

/-- The entry that a start adds. -/
theorem start_entry (state : ProcessRuns) (id : String) (repeats : Bool) :
    ∃ known, (state.start id repeats).entries[state.entries.length]? = some known ∧
      known.id = id ∧ known.cancelOnRelease = repeats := by
  have length : (state.abortEntries (state.processStates.lookup id).toList).entries.length =
      state.entries.length := by simp [abortEntries, cancelEntries]
  unfold start
  dsimp only
  rw [spawn_entries]
  simp only [if_true]
  rw [← length, List.getElem?_concat_length]
  exact ⟨_, rfl, rfl, rfl⟩

/-- A start puts one run in flight, of the entry it adds. -/
theorem start_inFlight (state : ProcessRuns) (id : String) (repeats : Bool) (entry run : Nat) :
    (state.start id repeats).InFlight entry run ↔
      state.InFlight entry run ∨ (entry = state.entries.length ∧ run = state.runs.length) := by
  have length : (state.abortEntries (state.processStates.lookup id).toList).runs.length =
      state.runs.length := by simp [abortEntries]
  unfold start
  dsimp only
  rw [spawn_inFlight]
  show _ ∨ (_ ∧ run = (state.abortEntries _).runs.length) ↔ _
  rw [length, ← abortEntries_inFlight state (state.processStates.lookup id).toList]
  exact Iff.rfl

/-- What a start registers. -/
theorem start_registered (state : ProcessRuns) (id key : String) (repeats : Bool) :
    (state.start id repeats).processStates.lookup key =
      if key = id then some state.entries.length else state.processStates.lookup key :=
  HashMap.lookup_insert_ite _ _ _ _

/-- A start keeps what each run is a run of. -/
theorem start_runs (state : ProcessRuns) (id : String) (repeats : Bool) {run : Nat}
    {process : ProcessRun} (found : state.runs[run]? = some process) :
    ∃ later, (state.start id repeats).runs[run]? = some later ∧ later.entry = process.entry := by
  have within := (List.getElem?_eq_some_iff.mp found).1
  unfold start
  show ∃ later, ((state.abortEntries _).runs ++ [_])[run]? = some later ∧ _
  rw [List.getElem?_append_left (by simpa [abortEntries] using within)]
  simp only [abortEntries, List.getElem?_map, found]
  refine ⟨_, rfl, ?_⟩
  dsimp only
  split <;> rfl

/-- The ticker after a start. -/
theorem start_ticker (state : ProcessRuns) (id : String) (repeats : Bool) :
    (state.start id repeats).ticker = if repeats then
      (state.ticker.abort id).start id state.entries.length else state.ticker.abort id := rfl

namespace Orderly

/-- A start leaves the tickers of other ids. -/
theorem start_tickers (state : ProcessRuns) (repeats : Bool) {id key : String} (other : key ≠ id) :
    (state.start id repeats).ticker.entries.lookup key = state.ticker.entries.lookup key := by
  rw [start_ticker]
  split
  · rw [Ticker.start_entries, if_neg other, Ticker.abort_entries, if_neg other]
  · rw [Ticker.abort_entries, if_neg other]

/-- After a start, too, a ticker is that of its id. -/
theorem start_owner (orderly : state.Orderly) {id key : String} {repeats : Bool} {task : Nat}
    (found : (state.start id repeats).ticker.entries.lookup key = some task) :
    ∃ ticking, (state.start id repeats).ticker.tasks[task]? = some ticking ∧
      ticking.id = key := by
  -- The tasks there were keep their ids when one of them is aborted.
  have old : key ≠ id → ∃ ticking, (state.ticker.abort id).tasks[task]? = some ticking ∧
      ticking.id = key := by
    intro other
    rw [start_tickers state repeats other] at found
    obtain ⟨before, foundBefore, same⟩ := orderly.owner key task found
    rw [Ticker.abort_tasks, foundBefore]
    refine ⟨_, rfl, ?_⟩
    split <;> exact same
  by_cases same : key = id
  · rw [start_ticker] at found ⊢
    cases repeats with
    | false =>
      rw [if_neg Bool.false_ne_true, Ticker.abort_entries, if_pos same] at found
      cases found
    | true =>
      rw [if_pos rfl, Ticker.start_entries, if_pos same, Ticker.abort_abort] at found
      cases found
      rw [if_pos rfl, Ticker.start_abort_tasks, List.getElem?_concat_length]
      exact ⟨_, rfl, same.symm⟩
  · obtain ⟨ticking, foundTicking, sameId⟩ := old same
    rw [start_ticker]
    split
    · rw [Ticker.start_abort_tasks,
        List.getElem?_append_left (List.getElem?_eq_some_iff.mp foundTicking).1]
      exact ⟨ticking, foundTicking, sameId⟩
    · exact ⟨ticking, foundTicking, sameId⟩

/-- What ticks after a start ticked before it under another id, or is the loop that it starts. -/
theorem start_ticks (orderly : state.Orderly) {id : String} {repeats : Bool}
    (free : ∀ call ∈ state.calls, call.waits = true → call.covers id = false) {task : Nat}
    {ticking : TickerTask Nat} (ticks : (state.start id repeats).Ticks task ticking) :
    (state.Ticks task ticking ∧ ticking.id ≠ id) ∨
      (repeats = true ∧ ticking = { id, callback := state.entries.length } ∧
        (state.start id repeats).ticker.entries.lookup id = some task) := by
  -- The start first aborts what ticks under its id, so that cannot tick any more.
  have aborted : (state.ticker.abort id).tasks[task]? = some ticking →
      state.Ticks task ticking ∧ ticking.id ≠ id := by
    intro found
    rw [Ticker.abort_tasks, Option.map_eq_some_iff] at found
    obtain ⟨before, foundBefore, same⟩ := found
    split at same
    · -- The registered task of the id was ended.
      rw [← same] at ticks
      cases ticks.live
    · rename_i spared
      subst same
      have live : state.Ticks task before := ⟨foundBefore, ticks.live⟩
      refine ⟨live, fun sameId => ?_⟩
      rcases orderly.awake task before live with ⟨_, registered⟩ | ⟨call, member, covers, rest⟩
      · rw [sameId] at registered
        exact spared registered
      · obtain ⟨tasks, phase, _⟩ := rest
        rw [sameId, free call member (by rw [StopCall.waits, phase])] at covers
        cases covers
  have found := ticks.found
  rw [start_ticker] at found ⊢
  cases repeats with
  | false => exact .inl (aborted found)
  | true =>
    rw [if_pos rfl] at found ⊢
    rw [Ticker.start_abort_tasks] at found
    rcases Nat.lt_or_ge task (state.ticker.abort id).tasks.length with old | fresh
    · rw [List.getElem?_append_left old] at found
      exact .inl (aborted found)
    · rw [List.getElem?_append_right fresh] at found
      obtain ⟨within, same⟩ := List.getElem?_eq_some_iff.mp found
      rw [List.getElem_singleton] at same
      simp only [List.length_singleton] at within
      have last : task = (state.ticker.abort id).tasks.length := by omega
      right
      refine ⟨rfl, same.symm, ?_⟩
      rw [Ticker.start_entries, if_pos rfl, Ticker.abort_abort, last]

/-- Order is kept when a process is started under an id whose stops have taken their entries. -/
theorem start (orderly : state.Orderly) (sound : state.Sound) {id : String} {repeats : Bool}
    (free : ∀ call ∈ state.calls, call.waits = true → call.covers id = false) :
    (state.start id repeats).Orderly := by
  have calls : (state.start id repeats).calls = state.calls := rfl
  -- The start cancels at most the entry registered under its own identifier.
  have kept : ∀ {entry : Nat} {known : ProcessEntry}, state.entries[entry]? = some known →
      ∃ later, (state.start id repeats).entries[entry]? = some later ∧ later.id = known.id ∧
        later.cancelOnRelease = known.cancelOnRelease ∧
        (state.processStates.lookup id ≠ some entry → later = known) := by
    intro entry known found
    rw [start_entries state id repeats (List.getElem?_eq_some_iff.mp found).1,
      cancelEntries_entries, found]
    refine ⟨_, rfl, ?_, ?_, ?_⟩
    · split <;> rfl
    · split <;> rfl
    · intro spared
      exact if_neg fun among => spared (Option.mem_toList.mp among)
  have describes : ∀ {entry key}, state.Describes entry key →
      (state.start id repeats).Describes entry key := by
    intro entry key described
    obtain ⟨known, found, same, repeated⟩ := described
    obtain ⟨later, foundLater, sameId, sameKind, _⟩ := kept found
    exact ⟨later, foundLater, sameId.trans same, sameKind.trans repeated⟩
  have length : ∀ {entry}, entry < state.entries.length →
      entry < (state.start id repeats).entries.length := by
    intro entry within
    obtain ⟨later, found, _⟩ := kept (List.getElem?_eq_getElem within)
    exact (List.getElem?_eq_some_iff.mp found).1
  constructor
  case owner =>
    intro key task found
    exact orderly.start_owner found
  -- A ticker is an earlier one of another identifier, or the one just started.
  case ticks =>
    intro task ticking ticks
    rw [start_registered]
    rcases orderly.start_ticks free ticks with ⟨before, other⟩ | ⟨rfl, rfl, _⟩
    · rw [if_neg other]
      obtain ⟨there, described⟩ := orderly.ticks task ticking before
      exact ⟨there, describes described⟩
    · rw [if_pos rfl]
      exact ⟨rfl, start_entry state id true⟩
  case awake =>
    intro task ticking ticks
    rcases orderly.start_ticks free ticks with ⟨before, other⟩ | ⟨_, rfl, registered⟩
    · rcases orderly.awake task ticking before with ⟨awake, registered⟩ | waited
      · left
        refine ⟨awake, ?_⟩
        rw [start_tickers state repeats other]
        exact registered
      · exact .inr waited
    · exact .inl ⟨rfl, registered⟩
  case quiet =>
    intro call member waits key covers
    have other : key ≠ id := by
      intro same
      rw [same, free call member waits] at covers
      cases covers
    rw [start_tickers state repeats other]
    exact orderly.quiet call member waits key covers
  case single => exact orderly.single
  -- No call that waits covers the identifier, which is the care that was taken.
  case waiting =>
    intro call member waits entry among
    obtain ⟨key, described, there, covers⟩ := orderly.waiting call member waits entry among
    refine ⟨key, describes described, ?_, covers⟩
    rw [start_registered, if_neg, there]
    intro same
    rw [same, free call member waits] at covers
    cases covers
  -- The new entry is newer than any a call has taken.
  case settling =>
    intro call member waits entry among
    obtain ⟨within, gone, settled⟩ := orderly.settling call member waits entry among
    refine ⟨length within, ?_, ?_⟩
    · intro key there
      rw [start_registered] at there
      split at there
      · cases there
        omega
      · exact gone key there
    · rcases settled with held | awaited
      · exact .inl held
      · right
        intro run flies
        rcases (start_inFlight state id repeats entry run).mp flies with before | ⟨same, _⟩
        · exact awaited run before
        · omega
  case rests =>
    intro call member
    obtain ⟨distinct, holds⟩ := orderly.rests call member
    refine ⟨distinct, fun entry among => ?_⟩
    obtain ⟨known, found, live, covers⟩ := holds entry among
    obtain ⟨later, foundLater, _, _, same⟩ := kept found
    -- What a call holds is not registered, so the start does not abort it.
    rw [same ((sound.held call member entry among).2 id)] at foundLater
    exact ⟨known, foundLater, live, covers⟩
  case awaits =>
    intro call member run awaited
    obtain ⟨process, known, foundRun, found, covers⟩ := orderly.awaits call member run awaited
    obtain ⟨later, foundLater, sameId, _⟩ := kept found
    obtain ⟨now, foundNow, same⟩ := start_runs state id repeats foundRun
    exact ⟨now, later, foundNow, same ▸ foundLater, sameId ▸ covers⟩

/-- Order is kept when runs move on or end. -/
theorem moved (orderly : state.Orderly) {run : Nat} {phase : RunPhase} {known : ProcessRun}
    (found : state.runs[run]? = some known) (before : known.phase ≠ .returned)
    (after : phase ≠ .returned) (entry : Nat) :
    (state.setPhase run phase).Orderly ∧ (state.finish run entry).Orderly := by
  -- A run that moves changes nothing that is registered, nor any call.
  have moves : ∀ (phase : RunPhase) (other : Nat) (process : ProcessRun),
      state.runs[other]? = some process → ∃ later,
        (state.setPhase run phase).runs[other]? = some later ∧ later.entry = process.entry := by
    intro phase other process foundProcess
    rw [setPhase_runs, foundProcess]
    refine ⟨_, rfl, ?_⟩
    split <;> rfl
  constructor
  -- Moving a run to another phase leaves the entries alone.
  · apply orderly.kept
    case calls => rfl
    case registered => exact fun _ _ there => there
    case remains => exact fun _ _ there _ => there
    case entries => exact fun _ known found => ⟨known, found, rfl, rfl, rfl⟩
    case flying =>
      intro other second flies
      exact .inl ((setPhase_inFlight found before after other second).mp flies)
    case runs => exact moves phase
    case tickers => exact fun _ => rfl
    case tasks => exact fun _ ticking found => ⟨ticking, found, rfl⟩
    case ticking => exact fun _ _ ticks => ⟨ticks.found, ticks.live⟩
  · apply orderly.kept
    case calls => exact finish_calls state run entry
    -- Finishing deregisters a one-shot at most, and no entry that key release cancels.
    case registered => exact fun _ _ there => finish_registered there
    case remains => exact fun _ _ there repeats => finish_kept there repeats
    case entries =>
      intro other process foundProcess
      rw [finish_entries, foundProcess]
      refine ⟨_, rfl, ?_, ?_, ?_⟩
      · split <;> rfl
      · split <;> rfl
      · split <;> rfl
    case flying =>
      intro other second flies
      rw [inFlight_of_runs (finish_runs state run entry), setPhase_returned_inFlight] at flies
      exact .inl flies.1
    case runs =>
      rw [finish_runs]
      exact moves .returned
    case tickers =>
      rw [finish_ticker]
      exact fun _ => rfl
    case tasks =>
      rw [finish_ticker]
      exact fun _ ticking found => ⟨ticking, found, rfl⟩
    case ticking =>
      intro task ticking ticks
      exact ⟨finish_ticker state run entry ▸ ticks.found, ticks.live⟩

/-- Order is kept by a tick of what is registered. -/
theorem tick (orderly : state.Orderly) {task : Nat} {next : ProcessRuns}
    (stepped : state.tick task = some next) : next.Orderly := by
  -- The tick changes no entry but the one whose process it starts, which is registered.
  obtain ⟨ticking, found, rest⟩ := Option.bind_eq_some_iff.mp stepped
  obtain ⟨known, foundKnown, rest⟩ := Option.bind_eq_some_iff.mp rest
  split at rest
  · cases rest
  · rename_i live
    split at rest
    · cases rest
      exact orderly
    · cases rest
      obtain ⟨there, _⟩ := orderly.ticks task ticking ⟨found, Bool.not_eq_true _ ▸ live⟩
      apply orderly.kept
      case calls => rfl
      case registered => exact fun _ _ there => there
      case remains => exact fun _ _ there _ => there
      case entries =>
        intro entry process foundProcess
        rw [spawn_entries, foundProcess]
        refine ⟨_, rfl, ?_, ?_, ?_⟩
        · split <;> rfl
        · split <;> rfl
        · split <;> rfl
      case flying =>
        intro entry run flies
        rcases (spawn_inFlight state ticking.callback entry run).mp flies with before | ⟨rfl, _⟩
        · exact .inl before
        · exact .inr ⟨ticking.id, there⟩
      case runs =>
        intro run process foundRun
        refine ⟨process, ?_, rfl⟩
        show (state.runs ++ [_])[run]? = some process
        rw [List.getElem?_append_left (List.getElem?_eq_some_iff.mp foundRun).1]
        exact foundRun
      case tickers => exact fun _ => rfl
      case tasks => exact fun _ ticking found => ⟨ticking, found, rfl⟩
      case ticking => exact fun _ _ ticks => ⟨ticks.found, ticks.live⟩

/-- Order is kept when a ticker task ends. -/
theorem tickerEnds (orderly : state.Orderly) {task : Nat} {ticker : Ticker Nat}
    (ended : state.ticker.finish task = some ticker) : { state with ticker }.Orderly := by
  -- A task that has ended ticks no more, so the clauses about ticking only lose it.
  have tasks : ∀ other : Nat, ticker.tasks[other]? = state.ticker.tasks[other]?.map fun entry =>
      if task = other then { entry with ended := true } else entry := by
    intro other
    obtain ⟨ending, _, rest⟩ := Option.bind_eq_some_iff.mp ended
    split at rest
    · cases rest
      simp [Ticker.update, List.getElem?_modify]
    · cases rest
  apply orderly.kept
  case calls => rfl
  case registered => exact fun _ _ there => there
  case remains => exact fun _ _ there _ => there
  case entries => exact fun _ known found => ⟨known, found, rfl, rfl, rfl⟩
  case flying => exact fun _ _ flies => .inl flies
  case runs => exact fun _ known found => ⟨known, found, rfl⟩
  case tickers =>
    intro id
    rw [← Ticker.finish_entries ended]
  case tasks =>
    intro other ticking found
    rw [tasks, found]
    refine ⟨_, rfl, ?_⟩
    split <;> rfl
  case ticking =>
    intro other ticking ticks
    have found := ticks.found
    rw [tasks, Option.map_eq_some_iff] at found
    obtain ⟨before, foundBefore, same⟩ := found
    split at same
    · rw [← same] at ticks
      cases ticks.live
    · subst same
      exact ⟨foundBefore, ticks.live⟩

/-- What every step made with care preserves. -/
theorem step (orderly : state.Orderly) (sound : state.Sound) {op : ProcessOp} {next : ProcessRuns}
    (stepped : CarefulStep state op next) : next.Orderly := by
  -- One case for each operation; those of the tasks need no care.
  obtain ⟨stepped, careful⟩ := stepped
  cases op with
  | start id repeats =>
    cases stepped
    exact orderly.start sound careful
  | tick task => exact orderly.tick stepped
  | stop id =>
    cases stepped
    apply orderly.call sound (state.ticker.stop_quiesces id)
    intro call member unreturned key covers
    rw [Option.all_some, decide_eq_true_eq] at covers
    rw [← covers]
    exact careful call member unreturned
  | stopRepeats order =>
    cases stepped
    apply orderly.call sound state.ticker.clear_quiesces
    intro call member unreturned
    exact absurd (careful call member) unreturned
  | abortAll =>
    cases stepped
    exact orderly.abortAll careful.1
  | resume call order => exact orderly.resume sound stepped
  | tickerEnds task =>
    obtain ⟨ticker, ended, rest⟩ := Option.bind_eq_some_iff.mp stepped
    cases rest
    exact orderly.tickerEnds ended
  | begin run spawns =>
    obtain ⟨known, found, rest⟩ := Option.bind_eq_some_iff.mp stepped
    obtain ⟨entry, _, rest⟩ := Option.bind_eq_some_iff.mp rest
    obtain ⟨ready, same⟩ := Option.ite_none_right_eq_some.mp rest
    obtain rfl := Option.some.inj same
    have unreturned : known.phase ≠ .returned := by
      rw [ready.1]
      simp
    split
    · exact (@moved state orderly run .waiting known found unreturned (by simp) known.entry).2
    · apply (@moved state orderly run _ known found unreturned _ known.entry).1
      split <;> simp
  | exits run =>
    obtain ⟨known, found, rest⟩ := Option.bind_eq_some_iff.mp stepped
    obtain ⟨running, same⟩ := Option.ite_none_right_eq_some.mp rest
    obtain rfl := Option.some.inj same
    apply (orderly.moved found _ _ known.entry).1
    · rw [running]
      simp
    · simp
  | complete run =>
    obtain ⟨known, found, rest⟩ := Option.bind_eq_some_iff.mp stepped
    obtain ⟨exited, same⟩ := Option.ite_none_right_eq_some.mp rest
    obtain rfl := Option.some.inj same
    refine (@moved state orderly run .waiting known found ?_ (by simp) known.entry).2
    rw [exited]
    simp

end Orderly

/-- At most one run of an entry is in flight. -/
def OneInFlight (state : ProcessRuns) : Prop :=
  ∀ entry first second, state.InFlight entry first → state.InFlight entry second → first = second

/-- Nothing is in flight of the gestures that a call was for that has returned. -/
def StaysStopped (state : ProcessRuns) : Prop :=
  ∀ call ∈ state.calls, call.phase = .returned → ∀ entry ∈ call.gesture,
    ∀ run, ¬ state.InFlight entry run

/-- What a step is held to: a tick starts a run unless one is in flight, a stop leaves one-shots
alone, and after an abort no process runs and none will that was not killed before. -/
def Keeps (before : ProcessRuns) (op : ProcessOp) (after : ProcessRuns) : Prop :=
  match op with
  | .tick task => ∀ ticking, before.ticker.tasks[task]? = some ticking →
      ((∃ run, before.InFlight ticking.callback run) → after = before) ∧
      ((¬ ∃ run, before.InFlight ticking.callback run) → after = before.spawn ticking.callback)
  | .stop _ | .stopRepeats _ | .resume _ _ => after.runs = before.runs ∧
      ∀ (entry : Nat) known, before.entries[entry]? = some known →
        known.cancelOnRelease = false → after.entries[entry]? = some known
  | .abortAll => ∀ run ∈ after.runs, run.phase ≠ .running ∧ (run.phase = .waiting →
      ∃ known, after.entries[run.entry]? = some known ∧ known.cancelled = true)
  | .start _ _ | .tickerEnds _ | .begin _ _ | .exits _ | .complete _ => True

namespace Sound

/-- A tick starts a run unless one is in flight. -/
theorem keeps_tick (sound : state.Sound) {task : Nat} {next : ProcessRuns}
    (stepped : state.tick task = some next) : state.Keeps (.tick task) next := by
  -- The task may have ended, its entry may be gone, and its run may be in flight.
  intro ticking found
  obtain ⟨known, foundKnown, rest⟩ := Option.bind_eq_some_iff.mp stepped
  rw [found] at foundKnown
  cases foundKnown
  obtain ⟨entry, foundEntry, rest⟩ := Option.bind_eq_some_iff.mp rest
  rw [← sound.flag ticking.callback entry foundEntry]
  split at rest
  · cases rest
  · split at rest
    · rename_i running
      cases rest
      exact ⟨fun _ => rfl, fun idle => absurd running idle⟩
    · rename_i idle
      cases rest
      exact ⟨fun running => absurd running idle, fun _ => rfl⟩

/-- What stops repeating entries leaves one-shots and every run alone. -/
theorem spares (state : ProcessRuns) {list : List Nat}
    (repeating : ∀ entry ∈ list, state.cancelsOnRelease entry = true) :
    (state.stopEntries list).1.runs = state.runs ∧
      ∀ (entry : Nat) known, state.entries[entry]? = some known → known.cancelOnRelease = false →
        (state.stopEntries list).1.entries[entry]? = some known := by
  -- A one-shot among the stopped entries would have been cancelled on release.
  refine ⟨state.stopEntries_runs list, fun entry known found once => ?_⟩
  obtain ⟨gone, stops⟩ := @stops state list ⟨none, [], (state.stopEntries list).2⟩ rfl
  rw [stops.result, cancelEntries_of_not_mem, found]
  intro stopped
  have repeats := repeating entry (stops.within entry stopped)
  rw [cancelsOnRelease, found, Option.any_some, once] at repeats
  cases repeats

/-- What a call takes repeats. -/
theorem spares_release (sound : state.Sound) (scope : Option String) (order : IterationOrder Nat) :
    (state.release scope order).1.runs = state.runs ∧
      ∀ (entry : Nat) known, state.entries[entry]? = some known → known.cancelOnRelease = false →
        (state.release scope order).1.entries[entry]? = some known := by
  obtain ⟨map, list, releases, same⟩ := sound.release scope order
  rw [same]
  apply spares state
  intro entry among
  obtain ⟨known, found, _, repeats, _⟩ := (releases.listed entry).mp among
  simp [cancelsOnRelease, found, repeats]

/-- A stop that begins leaves one-shots alone. -/
theorem spares_call (sound : state.Sound) (scope : Option String) (ticker : Ticker Nat)
    (tasks : List Nat) (order : IterationOrder Nat) :
    (state.call scope ticker tasks order).runs = state.runs ∧
      ∀ (entry : Nat) known, state.entries[entry]? = some known → known.cancelOnRelease = false →
        (state.call scope ticker tasks order).entries[entry]? = some known := by
  unfold ProcessRuns.call
  dsimp only
  split
  · exact (sound.ticker ticker).spares_release scope order
  · exact ⟨rfl, fun _ _ found _ => found⟩

/-- A stop that goes on leaves one-shots alone. -/
theorem keeps_resume (sound : state.Sound) {call : Nat} {order : IterationOrder Nat}
    {next : ProcessRuns} (stepped : state.resume call order = some next) :
    state.Keeps (.resume call order) next := by
  -- A call goes on by taking its entries, or by stopping those that are left.
  obtain ⟨known, found, rest⟩ := Option.bind_eq_some_iff.mp stepped
  dsimp only at rest
  split at rest
  · split at rest
    · cases rest
      exact sound.spares_release known.scope order
    · cases rest
  · rename_i run list phase
    split at rest
    · cases rest
      apply spares state
      intro entry among
      refine (sound.held known (List.mem_of_getElem? found) entry ?_).1
      rw [StopCall.rest, phase]
      exact among
    · cases rest
  · cases rest

/-- An abort made with care leaves no process that runs. -/
theorem keeps_abortAll (sound : state.Sound) (careful : state.Careful .abortAll) :
    state.Keeps .abortAll state.abortAll := by
  obtain ⟨finished, oneShots⟩ := careful
  -- What may still run and was not cancelled is registered, since no call holds it.
  have registered : ∀ {run : Nat} {process : ProcessRun} {known : ProcessEntry},
      state.runs[run]? = some process → process.phase = .waiting ∨ process.phase = .running →
      state.entries[process.entry]? = some known → known.cancelled = false →
      state.processStates.lookup known.id = some process.entry := by
    intro run process known found phase foundEntry live
    rcases oneShots process (List.mem_of_getElem? found) phase with there | repeats
    · rw [isRegistered, foundEntry, Option.any_some, decide_eq_true_eq] at there
      exact there
    · rw [cancelsOnRelease, foundEntry, Option.any_some] at repeats
      rcases sound.owned process.entry known foundEntry live repeats with there | held
      · exact there
      · obtain ⟨call, member, among⟩ := held
        exact absurd (finished call member) (rest_unreturned among)
  intro run member
  obtain ⟨index, found⟩ := List.getElem?_of_mem member
  simp only [ProcessRuns.abortAll, abortEntries, List.getElem?_map, Option.map_eq_some_iff] at found
  obtain ⟨before, foundBefore, same⟩ := found
  split at same
  · rw [← same]
    simp
  · rename_i spared
    subst same
    constructor
    · intro running
      have flies : state.InFlight before.entry index :=
        ⟨before, foundBefore, rfl, by rw [running]; simp⟩
      obtain ⟨known, foundEntry⟩ := sound.located before.entry index flies
      cases cancelled : known.cancelled with
      | true =>
        -- A process of a cancelled entry would be awaited by a call.
        obtain ⟨call, among, awaits⟩ := sound.killed before.entry known index foundEntry cancelled
          ⟨before, foundBefore, rfl, running⟩
        exact absurd (finished call among) (awaited_unreturned awaits)
      | false =>
        have there := registered foundBefore (.inr running) foundEntry cancelled
        exact spared ⟨List.mem_map.mpr ⟨_, AList.mem_lookup_iff.mp there, rfl⟩, running⟩
    · intro waiting
      have flies : state.InFlight before.entry index :=
        ⟨before, foundBefore, rfl, by rw [waiting]; simp⟩
      obtain ⟨known, foundEntry⟩ := sound.located before.entry index flies
      show ∃ known, (state.cancelEntries _).entries[before.entry]? = some known ∧ _
      rw [cancelEntries_entries, foundEntry]
      refine ⟨_, rfl, ?_⟩
      cases cancelled : known.cancelled with
      | true => split <;> simp [cancelled]
      | false =>
        have there := registered foundBefore (.inl waiting) foundEntry cancelled
        have listed : before.entry ∈ state.processStates.entries.map Sigma.snd :=
          List.mem_map.mpr ⟨_, AList.mem_lookup_iff.mp there, rfl⟩
        dsimp only
        rw [if_pos listed]

/-- What a step made with care is held to. -/
theorem keeps (sound : state.Sound) {op : ProcessOp} {next : ProcessRuns}
    (stepped : CarefulStep state op next) : state.Keeps op next := by
  -- One case for each operation that the conclusion speaks of.
  obtain ⟨stepped, careful⟩ := stepped
  cases op with
  | tick task => exact sound.keeps_tick stepped
  | stop id =>
    cases stepped
    exact sound.spares_call _ _ _ _
  | stopRepeats order =>
    cases stepped
    exact sound.spares_call _ _ _ _
  | resume call order => exact sound.keeps_resume stepped
  | abortAll =>
    cases stepped
    exact sound.keeps_abortAll careful
  | start _ _ | tickerEnds _ | begin _ _ | exits _ | complete _ => trivial

end Sound

/--
The lifecycle of processes when calls do not overlap.

In every run in which no start or stop overlaps an unfinished stop of its id, and nothing is aborted
while a stop is unfinished or a one-shot still runs that a stop deregistered: at most one run of an
entry is in flight and ticks meanwhile start none, nothing is in flight of a gesture whose stop has
returned, then or later, stops leave one-shots alone, and an abort leaves no process that runs.
-/
theorem process_lifecycle {ops : List ProcessOp} (run : Run CarefulStep {} ops state) :
    state.OneInFlight ∧ state.StaysStopped ∧
      ∀ op next, CarefulStep state op next → state.Keeps op next := by
  -- Every step preserves soundness, and order on top of it.
  obtain ⟨sound, orderly⟩ : state.Sound ∧ state.Orderly := run.invariant
    (fun state => state.Sound ∧ state.Orderly)
    (fun stepped before => ⟨before.1.step stepped.1, before.2.step before.1 stepped⟩)
    ⟨.initial, .initial⟩
  refine ⟨sound.alone, ?_, fun op next stepped => sound.keeps stepped⟩
  intro call member returned entry among process flies
  have waits : call.waits = false := by rw [StopCall.waits, returned]
  obtain ⟨_, _, settled⟩ := orderly.settling call member waits entry among
  rcases settled with held | awaited
  · exact rest_unreturned held returned
  · exact awaited_unreturned (awaited process flies) returned

/-- What is seen of the repeater: the runs, the calls and the registered entries. -/
private def sight (state : ProcessRuns) :
    List ProcessRun × List StopPhase × List (String × Nat) :=
  (state.runs, state.calls.map StopCall.phase,
    state.processStates.entries.map fun pair => (pair.1, pair.2))

/-- A repeating process and a one-shot, with a tick that is skipped and one that is not, a stop that
waits for the ticker and for the run, and an abort at the end. -/
private def heldAndReleased : List ProcessOp :=
  [.start "held" true, .begin 0 true, .tick 0, .exits 0, .complete 0, .tick 0, .begin 1 true,
    .start "once" false, .begin 2 true, .stop "held", .tickerEnds 0, .resume 0 (.stored Nat),
    .exits 1, .complete 1, .resume 0 (.stored Nat), .abortAll]

/-- A step that is made only with care. -/
private def cautiousStep (state : ProcessRuns) (op : ProcessOp) : Option ProcessRuns :=
  if state.Careful op then state.step op else none

/-- The conclusion at a key that was held and released next to a one-shot. -/
theorem process_lifecycle_once : ∃ state : ProcessRuns,
    sight state = ([⟨0, .returned⟩, ⟨0, .returned⟩, ⟨1, .exited⟩], [.returned], []) ∧
      state.OneInFlight ∧ state.StaysStopped := by
  obtain ⟨state, seen, run⟩ := Run.of_foldlM cautiousStep {} heldAndReleased sight
    ([⟨0, .returned⟩, ⟨0, .returned⟩, ⟨1, .exited⟩], [.returned], []) (by decide +kernel)
  have careful : Run CarefulStep {} heldAndReleased state := run.mono fun stepped => by
    obtain ⟨cared, taken⟩ := Option.ite_none_right_eq_some.mp stepped
    exact ⟨taken, cared⟩
  obtain ⟨alone, stopped, _⟩ := process_lifecycle careful
  exact ⟨state, seen, alone, stopped⟩

/--
Neither a one-shot nor an overlapped stop is kept track of.

Stopping the id of a one-shot lets its entry go without ending its process, and the abort that comes
next does not find it. Of two overlapping stops of one id, the second takes the entry and awaits its
run, and the first then finds nothing to stop and returns while the process still runs.
-/
theorem process_lifecycle_broken :
    (∃ state : ProcessRuns,
      Run Steps {} [.start "once" false, .begin 0 true, .stop "once", .abortAll] state ∧
      sight state = ([⟨0, .running⟩], [.returned], [])) ∧
    ∃ state : ProcessRuns,
      Run Steps {} [.start "held" true, .begin 0 true, .stop "held", .stop "held", .tickerEnds 0,
        .resume 0 (.stored Nat)] state ∧
      sight state = ([⟨0, .running⟩], [.returned, .awaiting 0 []], []) := by
  -- Both runs are evaluated: the abort that misses a one-shot, and the stop that returns too early.
  constructor
  · obtain ⟨state, seen, run⟩ := Run.of_foldlM step {}
      [.start "once" false, .begin 0 true, .stop "once", .abortAll] sight
      ([⟨0, .running⟩], [.returned], []) (by decide +kernel)
    exact ⟨state, run, seen⟩
  · obtain ⟨state, seen, run⟩ := Run.of_foldlM step {}
      [.start "held" true, .begin 0 true, .stop "held", .stop "held", .tickerEnds 0,
        .resume 0 (.stored Nat)] sight
      ([⟨0, .running⟩], [.returned, .awaiting 0 []], []) (by decide +kernel)
    exact ⟨state, run, seen⟩

end Hotki.ProcessRuns
