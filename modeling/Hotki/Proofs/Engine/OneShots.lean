import Hotki.Proofs.Engine.ProcessLifecycle

/-! One-shot processes: what cancels them, and how long they can be cancelled. -/

namespace Hotki

open Base

/-- Whether an operation cancels whatever process is registered under an id. -/
def ProcessOp.cancels (id : String) : ProcessOp → Bool
  | .start other _ => decide (other = id)
  | .abortAll => true
  | _ => false

/-- Whether an operation may end what is registered under an id without cancelling it: a stop for
that id begins, or goes on. -/
def ProcessOp.detaches (state : ProcessRuns) (id : String) : ProcessOp → Bool
  | .stop other => decide (other = id)
  | .resume call _ => state.calls[call]?.any fun known => decide (known.scope = some id)
  | _ => false

namespace ProcessRuns

/-- A process that key release does not cancel, and whether it was cancelled. -/
def OneShot (state : ProcessRuns) (entry : Nat) (id : String) (cancelled : Bool) : Prop :=
  ∃ known, state.entries[entry]? = some known ∧ known.id = id ∧ known.cancelOnRelease = false ∧
    known.cancelled = cancelled

/-- Whether no ticker task repeats an entry. -/
def Unticked (state : ProcessRuns) (entry : Nat) : Prop :=
  ∀ (task : Nat) (ticking : TickerTask Nat), state.ticker.tasks[task]? = some ticking →
    ticking.callback ≠ entry

/-- What a step makes of a one-shot. -/
inductive Fate (state : ProcessRuns) (entry : Nat) (id : String) (op : ProcessOp)
    (next : ProcessRuns) : Prop where
  /-- It was registered, and is cancelled. -/
  | cancelled : op.cancels id = true → state.processStates.lookup id = some entry →
      next.OneShot entry id true → next.processStates.lookup id ≠ some entry →
      (∀ run, next.InFlight entry run ↔ state.InFlight entry run) → Fate state entry id op next
  /-- It is left as it was. -/
  | spared : (op.cancels id = true → state.processStates.lookup id ≠ some entry) →
      (∀ flag, state.OneShot entry id flag → next.OneShot entry id flag) →
      (next.processStates.lookup id = some entry ↔ state.processStates.lookup id = some entry) →
      (∀ run, next.InFlight entry run ↔ state.InFlight entry run) → Fate state entry id op next
  /-- It may not be registered any more. -/
  | detached : op.cancels id = false → op.detaches state id = true →
      (∀ flag, state.OneShot entry id flag → next.OneShot entry id flag) →
      (next.processStates.lookup id = some entry → state.processStates.lookup id = some entry) →
      (∀ run, next.InFlight entry run ↔ state.InFlight entry run) → Fate state entry id op next
  /-- The task of its run returns. -/
  | returned (run : Nat) : op.cancels id = false → state.InFlight entry run →
      (∀ flag, state.OneShot entry id flag → next.OneShot entry id flag) →
      next.processStates.lookup id ≠ some entry →
      (∀ other, next.InFlight entry other ↔ state.InFlight entry other ∧ other ≠ run) →
      Fate state entry id op next

variable {state next : ProcessRuns} {entry : Nat} {id : String} {flag : Bool} {op : ProcessOp}

/-- A one-shot is not cancelled by key release. -/
theorem OneShot.kind (shot : state.OneShot entry id flag) :
    state.cancelsOnRelease entry = false := by
  obtain ⟨known, found, _, once, _⟩ := shot
  rw [cancelsOnRelease, found, Option.any_some, once]

/-- A one-shot is an entry. -/
theorem OneShot.within (shot : state.OneShot entry id flag) : entry < state.entries.length := by
  obtain ⟨known, found, _⟩ := shot
  exact (List.getElem?_eq_some_iff.mp found).1

/-- What keeps an entry but for its run keeps a one-shot. -/
theorem OneShot.of_entry (shot : state.OneShot entry id flag) {change : ProcessEntry → ProcessEntry}
    (same : next.entries[entry]? = state.entries[entry]?.map change)
    (kept : ∀ known, (change known).id = known.id ∧
      (change known).cancelOnRelease = known.cancelOnRelease ∧
      (change known).cancelled = known.cancelled) : next.OneShot entry id flag := by
  obtain ⟨known, found, rfl, once, rfl⟩ := shot
  refine ⟨change known, by rw [same, found, Option.map_some], (kept known).1, ?_, (kept known).2.2⟩
  rw [(kept known).2.1, once]

/-- Cancelling entries cancels a one-shot that is among them. -/
theorem OneShot.cancelEntries (shot : state.OneShot entry id flag) (taken : List Nat) :
    (state.cancelEntries taken).OneShot entry id (flag || decide (entry ∈ taken)) := by
  obtain ⟨known, found, rfl, once, rfl⟩ := shot
  by_cases among : entry ∈ taken
  · refine ⟨{ known with cancelled := true, task := none }, ?_, rfl, once, ?_⟩
    · rw [cancelEntries_entries, found, Option.map_some, if_pos among]
    · simp [among]
  · refine ⟨known, ?_, rfl, once, by simp [among]⟩
    rw [cancelEntries_entries, found, Option.map_some, if_neg among]

namespace Sound

/-- A start cancels what is registered under its id. -/
theorem fate_start (sound : state.Sound) (shot : state.OneShot entry id flag) (other : String)
    (repeats : Bool) : state.Fate entry id (.start other repeats) (state.start other repeats) := by
  have older := shot.within
  -- The new entry comes after the one-shot, and so does its run.
  have entries : (state.start other repeats).entries[entry]? =
      (state.cancelEntries (state.processStates.lookup other).toList).entries[entry]? := by
    unfold ProcessRuns.start
    dsimp only
    rw [spawn_entries]
    have differs : state.entries.length ≠ entry := by omega
    simp only [if_neg differs, Option.map_id']
    exact List.getElem?_append_left (by simpa [abortEntries, ProcessRuns.cancelEntries] using older)
  have flies :
      ∀ run, (state.start other repeats).InFlight entry run ↔ state.InFlight entry run := by
    intro run
    unfold ProcessRuns.start
    dsimp only
    rw [spawn_inFlight]
    constructor
    · rintro (flying | ⟨same, _⟩)
      · exact (abortEntries_inFlight state _ entry run).mp flying
      · omega
    · exact fun flying => .inl ((abortEntries_inFlight state _ entry run).mpr flying)
  -- The start takes the place of whatever was registered under its own identifier.
  have registered : (state.start other repeats).processStates.lookup id = some entry ↔
      other ≠ id ∧ state.processStates.lookup id = some entry := by
    show (state.processStates.insert other state.entries.length).lookup id = some entry ↔ _
    rw [HashMap.lookup_insert_ite]
    by_cases same : id = other
    · rw [if_pos same]
      constructor
      · intro equal
        have := Option.some.inj equal
        omega
      · exact fun both => absurd same.symm both.1
    · rw [if_neg same]
      exact ⟨fun there => ⟨fun equal => same equal.symm, there⟩, And.right⟩
  have shot' : ∀ kind, state.OneShot entry id kind → (state.start other repeats).OneShot entry id
      (kind || decide (entry ∈ (state.processStates.lookup other).toList)) := by
    intro kind before
    obtain ⟨known, found, rest⟩ := before.cancelEntries (state.processStates.lookup other).toList
    exact ⟨known, entries.trans found, rest⟩
  -- So it hits the one-shot exactly if it is for its identifier and finds it registered.
  by_cases hit : other = id ∧ state.processStates.lookup id = some entry
  · obtain ⟨rfl, there⟩ := hit
    refine .cancelled (decide_eq_true rfl) there ?_ (fun after => ?_) flies
    · have after := shot' flag shot
      rw [there] at after
      simpa using after
    · exact (registered.mp after).1 rfl
  · refine .spared (fun cancels there => hit ⟨of_decide_eq_true cancels, there⟩) ?_ ?_ flies
    · intro kind before
      have after := shot' kind before
      have absent : entry ∉ (state.processStates.lookup other).toList := by
        intro member
        have there := Option.mem_toList.mp member
        obtain ⟨known, found, same, _⟩ := sound.registered other entry there
        obtain ⟨_, foundToo, sameToo, _⟩ := before
        cases found.symm.trans foundToo
        exact hit ⟨same.symm.trans sameToo, (same.symm.trans sameToo) ▸ there⟩
      rw [decide_eq_false absent, Bool.or_false] at after
      exact after
    · rw [registered]
      exact ⟨And.right, fun there => ⟨fun same => hit ⟨same, there⟩, there⟩⟩

/-- An abort cancels whatever is registered. -/
theorem fate_abortAll (sound : state.Sound) (shot : state.OneShot entry id flag) :
    state.Fate entry id .abortAll state.abortAll := by
  -- What is registered is aborted, so the process of a registered one-shot is too.
  have among : entry ∈ state.processStates.entries.map Sigma.snd ↔
      state.processStates.lookup id = some entry := by
    constructor
    · intro member
      obtain ⟨pair, stored, same⟩ := List.mem_map.mp member
      have there := AList.mem_lookup_iff.mpr stored
      subst same
      obtain ⟨known, found, same, _⟩ := sound.registered pair.1 pair.2 there
      obtain ⟨_, foundToo, sameToo, _⟩ := shot
      cases found.symm.trans foundToo
      exact sameToo ▸ same ▸ there
    · exact fun there => List.mem_map.mpr ⟨_, AList.mem_lookup_iff.mp there, rfl⟩
  have flies : ∀ run, state.abortAll.InFlight entry run ↔ state.InFlight entry run :=
    abortEntries_inFlight state _ entry
  have gone : state.abortAll.processStates.lookup id ≠ some entry := by
    intro there
    cases there
  by_cases there : state.processStates.lookup id = some entry
  · have after := shot.cancelEntries (state.processStates.entries.map Sigma.snd)
    rw [decide_eq_true (among.mpr there), Bool.or_true] at after
    exact .cancelled rfl there after gone flies
  · refine .spared (fun _ => there) (fun kind before => ?_)
      ⟨fun after => absurd after gone, fun before => absurd before there⟩ flies
    have after := before.cancelEntries (state.processStates.entries.map Sigma.snd)
    rw [decide_eq_false fun member => there (among.mp member), Bool.or_false] at after
    exact after

/-- A tick spawns a run of another entry. -/
theorem fate_tick (unticked : state.Unticked entry) {task : Nat}
    (stepped : state.tick task = some next) : state.Fate entry id (.tick task) next := by
  -- A ticking entry repeats, so it is not the one-shot.
  obtain ⟨ticking, found, rest⟩ := Option.bind_eq_some_iff.mp stepped
  obtain ⟨known, _, rest⟩ := Option.bind_eq_some_iff.mp rest
  split at rest
  · cases rest
  · split at rest
    · cases rest
      exact .spared (fun cancels => by cases cancels) (fun _ kept => kept) Iff.rfl fun _ => Iff.rfl
    · cases rest
      have differs : ticking.callback ≠ entry := unticked task ticking found
      refine .spared (fun cancels => by cases cancels) (fun kind before => ?_) Iff.rfl fun run => ?_
      · apply before.of_entry (spawn_entries state ticking.callback entry)
        intro known
        rw [if_neg differs]
        exact ⟨rfl, rfl, rfl⟩
      · rw [spawn_inFlight]
        exact ⟨fun either => either.resolve_right fun same => differs same.1.symm, .inl⟩

/-- A stop leaves one-shots alone, but those registered under its own id. -/
theorem fate_release (sound : state.Sound) (shot : state.OneShot entry id flag)
    (scope : Option String) (order : IterationOrder Nat) :
    (∀ kind, state.OneShot entry id kind → (state.release scope order).1.OneShot entry id kind) ∧
    ((state.release scope order).1.processStates.lookup id = some entry →
      state.processStates.lookup id = some entry) ∧
    (scope ≠ some id → state.processStates.lookup id = some entry →
      (state.release scope order).1.processStates.lookup id = some entry) ∧
    ∀ run, (state.release scope order).1.InFlight entry run ↔ state.InFlight entry run := by
  -- Releasing deregisters the id it is for, and cancels only what repeats.
  obtain ⟨runs, spared⟩ := sound.spares_release scope order
  refine ⟨fun kind before => ?_, fun there => ?_, fun elsewhere there => ?_, ?_⟩
  · obtain ⟨known, found, same, once, cancelled⟩ := before
    exact ⟨known, spared entry known found once, same, once, cancelled⟩
  · obtain ⟨map, list, releases, result⟩ := sound.release scope order
    rw [result] at there
    exact (releases.registered id entry there).1
  · have kind := shot.kind
    cases scope with
    | some other =>
      have map : (state.release (some other) order).1.processStates =
          state.processStates.erase other := by
        unfold ProcessRuns.release
        exact ((stopEntries_others _ _).1)
      rw [map, HashMap.lookup_erase_ite, if_neg fun same => elsewhere (congrArg some same.symm)]
      exact there
    | none =>
      have map : (state.release none order).1.processStates =
          (state.processStates.entries.filter fun pair =>
            state.cancelsOnRelease pair.2).foldl (fun map pair => map.erase pair.1)
              state.processStates := by
        unfold ProcessRuns.release
        exact ((stopEntries_others _ _).1)
      rw [map, HashMap.lookup_foldl_erase, if_neg]
      · exact there
      · -- What is registered under the id is the one-shot, and only what repeats is erased.
        intro erased
        obtain ⟨pair, member, same⟩ := List.mem_map.mp erased
        obtain ⟨stored, repeats⟩ := List.mem_filter.mp member
        have registered := AList.mem_lookup_iff.mpr stored
        rw [same, there] at registered
        cases registered
        cases kind.symm.trans repeats
  · exact inFlight_of_runs runs entry

/-- A stop that begins leaves a one-shot, unless it is for its id. -/
theorem fate_call (sound : state.Sound) (shot : state.OneShot entry id flag)
    (scope : Option String) (ticker : Ticker Nat) (tasks : List Nat) (order : IterationOrder Nat)
    (keeps : op.cancels id = false) (covers : scope = some id → op.detaches state id = true) :
    state.Fate entry id op (state.call scope ticker tasks order) := by
  -- The stop takes its entries at once or after its tickers, and one-shots either way alike.
  have spares : op.cancels id = true → state.processStates.lookup id ≠ some entry := by
    intro cancels
    cases keeps.symm.trans cancels
  unfold ProcessRuns.call
  dsimp only
  split
  · obtain ⟨same, back, kept, flies⟩ := (sound.ticker ticker).fate_release shot scope order
    by_cases own : scope = some id
    · exact .detached keeps (covers own) same back flies
    · exact .spared spares same ⟨back, kept own⟩ flies
  · exact .spared spares (fun _ same => same) Iff.rfl fun _ => Iff.rfl

/-- So does a stop that goes on. -/
theorem fate_resume (sound : state.Sound) (shot : state.OneShot entry id flag) {call : Nat}
    {order : IterationOrder Nat} (stepped : state.resume call order = some next) :
    state.Fate entry id (.resume call order) next := by
  obtain ⟨known, found, rest⟩ := Option.bind_eq_some_iff.mp stepped
  have never : (ProcessOp.resume call order).cancels id = true →
      state.processStates.lookup id ≠ some entry := by
    intro cancels
    cases cancels
  dsimp only at rest
  split at rest
  · split at rest
    · cases rest
      obtain ⟨same, back, kept, flies⟩ := sound.fate_release shot known.scope order
      by_cases own : known.scope = some id
      · refine .detached rfl ?_ same back flies
        simp [ProcessOp.detaches, found, own]
      · exact .spared never same ⟨back, kept own⟩ flies
    · cases rest
  · rename_i run list phase
    split at rest
    · cases rest
      -- What is still to be stopped repeats, so the one-shot is not among it.
      obtain ⟨runs, spared⟩ := @Sound.spares state list fun other among => by
        refine (sound.held known (List.mem_of_getElem? found) other ?_).1
        rw [StopCall.rest, phase]
        exact among
      refine .spared never (fun kind before => ?_) ?_ fun run => inFlight_of_runs runs entry run
      · obtain ⟨there, foundThere, same, once, cancelled⟩ := before
        exact ⟨there, spared entry there foundThere once, same, once, cancelled⟩
      · show (state.stopEntries list).1.processStates.lookup id = _ ↔ _
        rw [(state.stopEntries_others list).1]
    · cases rest
  · cases rest

/-- The end of a run's task takes a one-shot off the table if it is its own. -/
theorem fate_finish (shot : state.OneShot entry id flag) {run owner : Nat}
    (flies : state.InFlight owner run) (keeps : op.cancels id = false) :
    state.Fate entry id op (state.finish run owner) := by
  have flying : ∀ other, (state.finish run owner).InFlight entry other ↔
      state.InFlight entry other ∧ other ≠ run := by
    intro other
    rw [inFlight_of_runs (finish_runs state run owner), setPhase_returned_inFlight]
  have same : ∀ kind, state.OneShot entry id kind →
      (state.finish run owner).OneShot entry id kind := by
    intro kind before
    apply before.of_entry (finish_entries state run owner entry)
    intro known
    split <;> exact ⟨rfl, rfl, rfl⟩
  by_cases own : owner = entry
  · subst own
    refine .returned run keeps flies same (fun there => ?_) flying
    -- A one-shot that is still registered is deregistered by its own task.
    have before := finish_registered there
    obtain ⟨known, found, rfl, once, _⟩ := shot
    unfold finish at there
    rw [found] at there
    have registered : state.isRegistered owner = true := by
      rw [isRegistered, found, Option.any_some, decide_eq_true_eq]
      exact before
    simp only [once, registered, Bool.not_false, Bool.and_self, if_true,
      HashMap.lookup_erase_ite] at there
    cases there
  -- The task of another entry deregisters that one alone.
  · refine .spared (fun cancels => by cases keeps.symm.trans cancels) same
      ⟨finish_registered, ?_⟩ ?_
    · intro there
      unfold finish
      split
      · rename_i known found
        split
        · rename_i gone
          have registered : state.isRegistered owner = true := (Bool.and_eq_true_iff.mp gone).2
          rw [isRegistered, found, Option.any_some, decide_eq_true_eq] at registered
          rw [HashMap.lookup_erase_ite, if_neg]
          · exact there
          · rintro rfl
            exact own (Option.some.inj (registered.symm.trans there))
        · exact there
      · exact there
    · intro other
      rw [flying]
      refine ⟨And.left, fun there => ⟨there, ?_⟩⟩
      rintro rfl
      obtain ⟨_, found, of, _⟩ := flies
      obtain ⟨_, foundToo, ofToo, _⟩ := there
      cases found.symm.trans foundToo
      exact own (of.symm.trans ofToo)

/-- Every step has one of these fates in store for a one-shot. -/
theorem fate (sound : state.Sound) (unticked : state.Unticked entry)
    (shot : state.OneShot entry id flag) (stepped : state.step op = some next) :
    state.Fate entry id op next := by
  -- One case for each operation.
  cases op with
  | start other repeats =>
    cases stepped
    exact sound.fate_start shot other repeats
  | tick task => exact fate_tick unticked stepped
  | stop other =>
    cases stepped
    refine sound.fate_call shot _ _ _ _ rfl fun own => ?_
    exact decide_eq_true (Option.some.inj own)
  | stopRepeats order =>
    cases stepped
    exact sound.fate_call shot _ _ _ _ rfl fun own => by cases own
  | abortAll =>
    cases stepped
    exact sound.fate_abortAll shot
  | resume call order => exact sound.fate_resume shot stepped
  | tickerEnds task =>
    obtain ⟨ticker, _, rest⟩ := Option.bind_eq_some_iff.mp stepped
    cases rest
    exact .spared (fun cancels => by cases cancels) (fun _ same => same) Iff.rfl fun _ => Iff.rfl
  | begin run spawns =>
    obtain ⟨known, found, rest⟩ := Option.bind_eq_some_iff.mp stepped
    obtain ⟨owner, foundOwner, rest⟩ := Option.bind_eq_some_iff.mp rest
    obtain ⟨ready, same⟩ := Option.ite_none_right_eq_some.mp rest
    obtain rfl := Option.some.inj same
    have unreturned : known.phase ≠ .returned := by
      rw [ready.1]
      simp
    -- A process that fails to start is finished at once.
    split
    · exact fate_finish shot ⟨known, found, rfl, unreturned⟩ rfl
    · refine .spared (fun cancels => by cases cancels) (fun _ same => same) Iff.rfl fun other => ?_
      apply setPhase_inFlight found unreturned
      split <;> simp
  | exits run =>
    obtain ⟨known, found, rest⟩ := Option.bind_eq_some_iff.mp stepped
    obtain ⟨running, same⟩ := Option.ite_none_right_eq_some.mp rest
    cases same
    refine .spared (fun cancels => by cases cancels) (fun _ same => same) Iff.rfl fun other => ?_
    exact setPhase_inFlight found (by rw [running]; simp) (by simp) entry other
  | complete run =>
    obtain ⟨known, found, rest⟩ := Option.bind_eq_some_iff.mp stepped
    obtain ⟨exited, same⟩ := Option.ite_none_right_eq_some.mp rest
    cases same
    exact fate_finish shot ⟨known, found, rfl, by rw [exited]; simp⟩ rfl

end Sound

/-- A release leaves the ticker. -/
theorem release_ticker (state : ProcessRuns) (scope : Option String) (order : IterationOrder Nat) :
    (state.release scope order).1.ticker = state.ticker := by
  cases scope with
  | some id =>
    unfold release
    exact (stopEntries_others _ _).2.1
  | none =>
    unfold release
    exact (stopEntries_others _ _).2.1

/-- A stop that begins leaves the ticker with which it was called. -/
theorem call_ticker (state : ProcessRuns) (scope : Option String) (ticker : Ticker Nat)
    (tasks : List Nat) (order : IterationOrder Nat) :
    (state.call scope ticker tasks order).ticker = ticker := by
  unfold call
  dsimp only
  split
  · exact release_ticker _ scope order
  · rfl

/-- A stop that goes on leaves the ticker. -/
theorem resume_ticker {call : Nat} {order : IterationOrder Nat}
    (stepped : state.resume call order = some next) : next.ticker = state.ticker := by
  -- The stops have changed the ticker before, when they began.
  obtain ⟨known, _, rest⟩ := Option.bind_eq_some_iff.mp stepped
  dsimp only at rest
  split at rest
  · split at rest
    · cases rest
      exact release_ticker state known.scope order
    · cases rest
  · split at rest
    · cases rest
      exact (stopEntries_others state _).2.1
    · cases rest
  · cases rest

/-- What a ticker task repeats stays what it was, and a new task repeats the entry that is started
with it. -/
theorem callback_cases (stepped : state.step op = some next) {task : Nat}
    {ticking : TickerTask Nat} (found : next.ticker.tasks[task]? = some ticking) :
    (∃ before : TickerTask Nat, state.ticker.tasks[task]? = some before ∧
      before.callback = ticking.callback) ∨
    (ticking.callback = state.entries.length ∧ ∃ id, op = .start id true) := by
  -- Cancelling and ending tasks changes their flags alone.
  have flagged : ∀ {ticker : Ticker Nat} {change : TickerTask Nat → TickerTask Nat},
      ticker.tasks[task]? = state.ticker.tasks[task]?.map change →
      (∀ known, (change known).callback = known.callback) →
      ticker.tasks[task]? = some ticking →
      ∃ before : TickerTask Nat, state.ticker.tasks[task]? = some before ∧
        before.callback = ticking.callback := by
    intro ticker change same kept there
    rw [same] at there
    obtain ⟨before, foundBefore, equal⟩ := Option.map_eq_some_iff.mp there
    exact ⟨before, foundBefore, by rw [← equal, kept]⟩
  -- Most operations do not touch the ticker.
  have plain : next.ticker = state.ticker → ∃ before : TickerTask Nat,
      state.ticker.tasks[task]? = some before ∧ before.callback = ticking.callback :=
    fun same => ⟨ticking, same ▸ found, rfl⟩
  cases op with
  | start id repeats =>
    cases stepped
    have aborted : ∀ there, (state.ticker.abort id).tasks[task]? = some there →
        there.callback = ticking.callback → ∃ before : TickerTask Nat,
          state.ticker.tasks[task]? = some before ∧ before.callback = ticking.callback := by
      intro there at' equal
      rw [Ticker.abort_tasks] at at'
      obtain ⟨before, foundBefore, same⟩ := Option.map_eq_some_iff.mp at'
      refine ⟨before, foundBefore, ?_⟩
      rw [← equal, ← same]
      split <;> rfl
    cases repeats with
    | false => exact .inl (aborted ticking found rfl)
    | true =>
      have found : ((state.ticker.abort id).start id state.entries.length).tasks[task]? =
          some ticking := found
      rw [Ticker.start_abort_tasks] at found
      -- The task appended by the start is the only new one.
      rcases Nat.lt_or_ge task (state.ticker.abort id).tasks.length with within | beyond
      · rw [List.getElem?_append_left within] at found
        exact .inl (aborted ticking found rfl)
      · rw [List.getElem?_append_right beyond] at found
        obtain ⟨_, same⟩ := List.getElem?_eq_some_iff.mp found
        rw [List.getElem_singleton] at same
        exact .inr ⟨by rw [← same], id, rfl⟩
  | tick index =>
    obtain ⟨_, _, rest⟩ := Option.bind_eq_some_iff.mp stepped
    obtain ⟨_, _, rest⟩ := Option.bind_eq_some_iff.mp rest
    split at rest
    · cases rest
    · split at rest <;> (cases rest; exact .inl (plain rfl))
  | stop id =>
    cases stepped
    have found : (state.call (some id) _ _ (.stored Nat)).ticker.tasks[task]? = _ := found
    rw [call_ticker] at found
    exact .inl (flagged ((state.ticker.stop_quiesces id).cancelled task)
      (fun known => by split <;> rfl) found)
  | stopRepeats order =>
    cases stepped
    have found : (state.call none _ _ order).ticker.tasks[task]? = _ := found
    rw [call_ticker] at found
    exact .inl (flagged (state.ticker.clear_quiesces.cancelled task)
      (fun known => by split <;> rfl) found)
  | abortAll =>
    cases stepped
    refine .inl (@flagged state.ticker.abortAll (fun known =>
      if task ∈ state.ticker.entries.entries.map Sigma.snd then
        { known with cancelled := true, ended := true } else known) ?_
      (fun known => by split <;> rfl) found)
    show (state.ticker.tasks.mapIdx _)[task]? = _
    rw [List.getElem?_mapIdx]
  | resume call order => exact .inl (plain (resume_ticker stepped))
  | tickerEnds index =>
    obtain ⟨ticker, finished, rest⟩ := Option.bind_eq_some_iff.mp stepped
    cases rest
    obtain ⟨entry, _, rest⟩ := Option.bind_eq_some_iff.mp finished
    obtain ⟨_, same⟩ := Option.ite_none_right_eq_some.mp rest
    cases same
    refine .inl (@flagged (state.ticker.update index fun known => { known with ended := true })
      (fun known => if index = task then { known with ended := true } else known) ?_
      (fun known => by split <;> rfl) found)
    exact List.getElem?_modify ..
  | begin run spawns =>
    obtain ⟨known, _, rest⟩ := Option.bind_eq_some_iff.mp stepped
    obtain ⟨owner, _, rest⟩ := Option.bind_eq_some_iff.mp rest
    obtain ⟨_, same⟩ := Option.ite_none_right_eq_some.mp rest
    obtain rfl := Option.some.inj same
    apply Or.inl
    apply plain
    split
    · exact finish_ticker state run known.entry
    · rfl
  | exits run =>
    obtain ⟨known, _, rest⟩ := Option.bind_eq_some_iff.mp stepped
    obtain ⟨_, same⟩ := Option.ite_none_right_eq_some.mp rest
    cases same
    exact .inl (plain rfl)
  | complete run =>
    obtain ⟨known, _, rest⟩ := Option.bind_eq_some_iff.mp stepped
    obtain ⟨_, same⟩ := Option.ite_none_right_eq_some.mp rest
    cases same
    exact .inl (plain (finish_ticker state run known.entry))

/-- Stopping entries removes none. -/
theorem stopEntries_length (state : ProcessRuns) (list : List Nat) :
    (state.stopEntries list).1.entries.length = state.entries.length := by
  rcases state.stopEntries_cases list with ⟨_, same⟩ | ⟨_, _, _, _, _, _, _, same⟩
  · simp [same, cancelEntries]
  · simp [same, cancelEntries]

/-- A release removes no entry. -/
theorem release_length (state : ProcessRuns) (scope : Option String) (order : IterationOrder Nat) :
    (state.release scope order).1.entries.length = state.entries.length := by
  cases scope with
  | some id => exact stopEntries_length _ _
  | none => exact stopEntries_length _ _

/-- No step removes an entry, and a start adds one. -/
theorem length_le (stepped : state.step op = some next) :
    state.entries.length ≤ next.entries.length ∧
      ∀ id repeats, op = .start id repeats → state.entries.length < next.entries.length := by
  -- Entries are modified in place, and only a start appends one.
  have same : next.entries.length = state.entries.length →
      (∀ id repeats, op ≠ .start id repeats) → state.entries.length ≤ next.entries.length ∧
      ∀ id repeats, op = .start id repeats → state.entries.length < next.entries.length :=
    fun equal other => ⟨Nat.le_of_eq equal.symm, fun id repeats start =>
      absurd start (other id repeats)⟩
  have modified : ∀ (entry : Nat) (change : ProcessEntry → ProcessEntry),
      (state.entries.modify entry change).length = state.entries.length :=
    fun entry change => List.length_modify change state.entries entry
  have called : ∀ scope ticker tasks order,
      (state.call scope ticker tasks order).entries.length = state.entries.length := by
    intro scope ticker tasks order
    unfold ProcessRuns.call
    dsimp only
    split
    · exact release_length _ scope order
    · rfl
  have finished : ∀ run owner, (state.finish run owner).entries.length = state.entries.length := by
    intro run owner
    unfold finish
    split
    · split <;> exact modified _ _
    · exact modified _ _
  cases op with
  | start id repeats =>
    cases stepped
    have grown : (state.start id repeats).entries.length = state.entries.length + 1 := by
      unfold ProcessRuns.start
      simp [spawn, updateEntry, abortEntries, cancelEntries]
    exact ⟨by omega, fun _ _ _ => by omega⟩
  | tick task =>
    apply same _ (by simp)
    obtain ⟨_, _, rest⟩ := Option.bind_eq_some_iff.mp stepped
    obtain ⟨_, _, rest⟩ := Option.bind_eq_some_iff.mp rest
    split at rest
    · cases rest
    · split at rest
      · cases rest
        rfl
      · cases rest
        exact modified _ _
  | stop id =>
    cases stepped
    exact same (called _ _ _ _) (by simp)
  | stopRepeats order =>
    cases stepped
    exact same (called _ _ _ _) (by simp)
  | abortAll =>
    cases stepped
    exact same (by simp [ProcessRuns.abortAll, abortEntries, cancelEntries]) (by simp)
  | resume call order =>
    apply same _ (by simp)
    obtain ⟨known, _, rest⟩ := Option.bind_eq_some_iff.mp stepped
    dsimp only at rest
    split at rest
    · split at rest
      · cases rest
        exact release_length state known.scope order
      · cases rest
    · split at rest
      · cases rest
        exact stopEntries_length state _
      · cases rest
    · cases rest
  | tickerEnds task =>
    obtain ⟨_, _, rest⟩ := Option.bind_eq_some_iff.mp stepped
    cases rest
    exact same rfl (by simp)
  | begin run spawns =>
    apply same _ (by simp)
    obtain ⟨known, _, rest⟩ := Option.bind_eq_some_iff.mp stepped
    obtain ⟨_, _, rest⟩ := Option.bind_eq_some_iff.mp rest
    obtain ⟨_, equal⟩ := Option.ite_none_right_eq_some.mp rest
    obtain rfl := Option.some.inj equal
    split
    · exact finished run known.entry
    · rfl
  | exits run =>
    obtain ⟨_, _, rest⟩ := Option.bind_eq_some_iff.mp stepped
    obtain ⟨_, equal⟩ := Option.ite_none_right_eq_some.mp rest
    cases equal
    exact same rfl (by simp)
  | complete run =>
    obtain ⟨known, _, rest⟩ := Option.bind_eq_some_iff.mp stepped
    obtain ⟨_, equal⟩ := Option.ite_none_right_eq_some.mp rest
    cases equal
    exact same (finished run known.entry) (by simp)

/-- Tickers repeat entries that exist. -/
theorem callbacks_within {ops : List ProcessOp} (run : Run Steps {} ops state) (task : Nat)
    (ticking : TickerTask Nat) (found : state.ticker.tasks[task]? = some ticking) :
    ticking.callback < state.entries.length := by
  -- A ticker is started for the entry that the same step has added.
  refine run.invariant (fun state => ∀ (task : Nat) (ticking : TickerTask Nat),
    state.ticker.tasks[task]? = some ticking → ticking.callback < state.entries.length)
    (fun {state op next} stepped within task ticking found => ?_)
    (fun task ticking found => by cases found) task ticking found
  obtain ⟨grows, starts⟩ := length_le stepped
  rcases callback_cases stepped found with ⟨before, foundBefore, same⟩ | ⟨same, id, started⟩
  · have := within task before foundBefore
    omega
  · have := starts id true started
    omega

/-- Steps are determined by their operations. -/
private theorem steps_functional {state left right : ProcessRuns} {op : ProcessOp}
    (one : Steps state op left) (other : Steps state op right) : left = right :=
  Option.some.inj (one.symm.trans other)

/-- What is known of a one-shot in a run from its start on. -/
structure Follows (first : ProcessRuns) (entry : Nat) (id : String) (ops : List ProcessOp)
    (state : ProcessRuns) : Prop where
  run : Run Steps first ops state
  sound : state.Sound
  unticked : state.Unticked entry
  shot : ∃ flag, state.OneShot entry id flag ∧ (flag = true ↔ Run.Occurs Steps first ops
    fun middle op => op.cancels id = true ∧ middle.processStates.lookup id = some entry)
  /-- What is registered has not returned. -/
  flies : state.processStates.lookup id = some entry → ∃ run, state.InFlight entry run
  /-- What has not returned is registered, unless an operation has cancelled or detached it. -/
  stays : (∃ run, state.InFlight entry run) → state.processStates.lookup id = some entry ∨
    Run.Occurs Steps first ops fun middle op =>
      op.cancels id = true ∨ op.detaches middle id = true

/-- Every step follows it. -/
theorem Follows.step {first : ProcessRuns} {ops : List ProcessOp}
    (follows : Follows first entry id ops state) (stepped : Steps state op next) :
    Follows first entry id (ops ++ [op]) next := by
  obtain ⟨flag, shot, cancelled⟩ := follows.shot
  have fate := follows.sound.fate follows.unticked shot stepped
  have snoc := fun event => @Run.occurs_snoc _ _ Steps first state steps_functional ops op
    follows.run event
  have run : Run Steps first (ops ++ [op]) next := follows.run.append (.cons stepped (.nil _))
  -- A new ticker task is for an entry that is newer than the one-shot.
  have unticked : next.Unticked entry := by
    intro task ticking found
    rcases callback_cases stepped found with ⟨before, foundBefore, same⟩ | ⟨same, _⟩
    · rw [← same]
      exact follows.unticked task before foundBefore
    · have := shot.within
      omega
  refine ⟨run, follows.sound.step stepped, unticked, ?_, ?_, ?_⟩
  -- The flag stands for a cancelling operation that found the one-shot registered.
  · simp only [snoc]
    cases fate with
    | cancelled cancels there after => exact ⟨true, after, iff_of_true rfl (.inr ⟨cancels, there⟩)⟩
    | spared never same =>
      refine ⟨flag, same flag shot, cancelled.trans ⟨.inl, fun either => either.resolve_right ?_⟩⟩
      exact fun both => never both.1 both.2
    | detached keeps _ same | returned _ keeps _ same =>
      refine ⟨flag, same flag shot, cancelled.trans ⟨.inl, fun either => either.resolve_right ?_⟩⟩
      intro both
      cases keeps.symm.trans both.1
  · intro there
    cases fate with
    | cancelled _ _ _ gone => exact absurd there gone
    | spared _ _ registered flies =>
      obtain ⟨index, flying⟩ := follows.flies (registered.mp there)
      exact ⟨index, (flies index).mpr flying⟩
    | detached _ _ _ back flies =>
      obtain ⟨index, flying⟩ := follows.flies (back there)
      exact ⟨index, (flies index).mpr flying⟩
    | returned _ _ _ _ gone => exact absurd there gone
  -- What is in flight is registered, cancelled or detached.
  · rintro ⟨index, flying⟩
    simp only [snoc]
    cases fate with
    | cancelled cancels => exact .inr (.inr (.inl cancels))
    | spared _ _ registered flies =>
      exact (follows.stays ⟨index, (flies index).mp flying⟩).imp registered.mpr .inl
    | detached _ detaches => exact .inr (.inr (.inr detaches))
    | returned run _ flies _ _ others =>
      -- Only one run of it was in flight.
      obtain ⟨still, differs⟩ := (others index).mp flying
      exact absurd (follows.sound.alone entry index run still flies) differs

/-- A one-shot that has just been started is followed. -/
theorem follows_start {ops : List ProcessOp} (run : Run Steps {} ops state) (id : String) :
    Follows (state.start id false) state.entries.length id [] (state.start id false) := by
  -- The entry is registered, in flight and not cancelled as it is started.
  have sound : state.Sound := run.invariant (fun state => state.Sound)
    (fun stepped before => before.step stepped) .initial
  have stepped : Steps state (.start id false) (state.start id false) := rfl
  have registered : (state.start id false).processStates.lookup id = some state.entries.length := by
    show (state.processStates.insert id state.entries.length).lookup id = _
    rw [HashMap.lookup_insert_ite, if_pos rfl]
  have flies : ∃ run, (state.start id false).InFlight state.entries.length run := by
    unfold ProcessRuns.start
    dsimp only
    exact ⟨_, (spawn_inFlight _ _ _ _).mpr (.inr ⟨rfl, rfl⟩)⟩
  refine ⟨.nil _, sound.start id false, ?_, ⟨false, ?_, ?_⟩, fun _ => flies,
    fun _ => .inl registered⟩
  · intro task ticking found
    rcases callback_cases stepped found with ⟨before, foundBefore, same⟩ | ⟨_, _, other⟩
    · have := callbacks_within run task before foundBefore
      omega
    · cases other
  · refine ⟨{ id, cancelOnRelease := false, running := true, task := some state.runs.length }, ?_,
      rfl, rfl, rfl⟩
    unfold ProcessRuns.start
    dsimp only
    rw [spawn_entries]
    simp [abortEntries, cancelEntries]
  · exact ⟨fun same => (by cases same), fun occurs => absurd occurs Run.not_occurs_nil⟩

end ProcessRuns

/--
A one-shot process is cancelled exactly when another one takes its place before it is done.

In every run of the repeater, with the tasks, the tickers and the processes moving in any order, a
process that was started for once is cancelled if and only if a start under its identifier, or the
abort of everything, comes while it is registered. It is registered only as long as its task has not
returned, and for all of that time unless a stop for its identifier is called or goes on.
-/
theorem oneshot_cancelled_iff {before after : List ProcessOp} {state last : ProcessRuns}
    (id : String) (earlier : Run ProcessRuns.Steps {} before state)
    (later : Run ProcessRuns.Steps (state.start id false) after last) :
    (∃ cancelled, last.OneShot state.entries.length id cancelled ∧ (cancelled = true ↔
      Run.Occurs ProcessRuns.Steps (state.start id false) after fun middle op =>
        op.cancels id = true ∧
          middle.processStates.lookup id = some state.entries.length)) ∧
    (last.processStates.lookup id = some state.entries.length →
      ∃ run, last.InFlight state.entries.length run) ∧
    ((∃ run, last.InFlight state.entries.length run) →
      last.processStates.lookup id = some state.entries.length ∨
      Run.Occurs ProcessRuns.Steps (state.start id false) after fun middle op =>
        op.cancels id = true ∨ op.detaches middle id = true) := by
  -- The one-shot's fate is followed through the run, from its start on.
  have follows := later.trace_invariant
    (fun past reached =>
      ProcessRuns.Follows (state.start id false) state.entries.length id past reached)
    (fun stepped held => held.step stepped) [] (ProcessRuns.follows_start earlier id)
  exact ⟨follows.shot, follows.flies, follows.stays⟩

/-- The conclusion at two processes of one key, the second of which cancels the first. -/
theorem oneshot_cancelled_iff_twice :
    ∃ last, Run ProcessRuns.Steps (({} : ProcessRuns).start "k" false) [.start "k" false] last ∧
      last.OneShot 0 "k" true := by
  have later : Run ProcessRuns.Steps (({} : ProcessRuns).start "k" false) [.start "k" false]
      ((({} : ProcessRuns).start "k" false).start "k" false) := .cons rfl (.nil _)
  obtain ⟨⟨cancelled, shot, occurs⟩, _⟩ := oneshot_cancelled_iff "k" (.nil ({} : ProcessRuns)) later
  have cancels : cancelled = true :=
    occurs.mpr ⟨[], .start "k" false, [], _, rfl, .nil _, by decide, by decide⟩
  exact ⟨_, later, cancels ▸ shot⟩

end Hotki
