import Hotki.Proofs.World.Polling

/-! What a refresh has waited for: a capture begun after its request, shown by the state. -/

namespace Hotki

open Base

/-- A state shows what a capture of the platform found. -/
structure WorldState.Shows {Displays : Type} [BEq Displays] (state : WorldState Displays)
    (platform : PlatformSnapshot Displays) : Prop where
  snapshot : state.snapshot = (worldPollUpdate platform).snapshot
  focused : state.focused = (worldPollUpdate platform).focused
  focus : state.focus = (worldPollUpdate platform).focus
  /-- Displays that compare equal to those there were are not replaced. -/
  displays : state.displays = platform.displays ∨ (state.displays == platform.displays) = true
  capabilities : state.capabilities = platform.capabilities

/-- An update from a capture leaves a state that shows it. -/
theorem WorldState.applyPollUpdate_shows {Displays : Type} [BEq Displays]
    (data : WorldState Displays) (platform : PlatformSnapshot Displays)
    (lastTickMs currentPollMs : Nat) :
    (data.applyPollUpdate (worldPollUpdate platform) lastTickMs currentPollMs).2.Shows
      platform := by
  -- The update writes the focus and the displays where they differ from the capture.
  constructor
  · simp only [applyPollUpdate]
    split
    · rfl
    · rename_i same
      exact not_not.mp same
  · rfl
  · rfl
  · simp only [applyPollUpdate]
    split
    · exact .inl rfl
    · -- What was not replaced compares equal to what was found.
      rename_i same
      have equal : (data.displays == (worldPollUpdate platform).displays) = true := by
        simpa [bne] using same
      exact .inr equal
  · rfl

namespace PollingWorld

variable {Displays : Type} [BEq Displays] [Inhabited Displays]

/-- A capture begins at once, and later brings what it found. -/
def Captures (beginning : PollingWorld Displays) (choices : List (PollChoice Displays))
    (platform : PlatformSnapshot Displays) : Prop :=
  ∃ work during found elapsed rest, beginning.stage = .starting work ∧
    choices = .loop :: during ++ .captured found elapsed :: rest ∧
    (∀ other took, .captured other took ∉ during) ∧
    platform = found.getD { displays := default }

/-- A capture begins at once, and has brought nothing yet. -/
def IsCapturing (beginning : PollingWorld Displays) (choices : List (PollChoice Displays)) : Prop :=
  ∃ work during, beginning.stage = .starting work ∧ choices = .loop :: during ∧
    ∀ other took, .captured other took ∉ during

/-- A capture began after so many choices of a run, and has brought what it found. -/
def HasCaptured (start : PollingWorld Displays) (choices : List (PollChoice Displays))
    (began : Nat) (platform : PlatformSnapshot Displays) : Prop :=
  Run.Since Steps start choices began fun beginning since => beginning.Captures since platform

/-- What a capture found stays what it found. -/
theorem HasCaptured.snoc {start : PollingWorld Displays} {choices : List (PollChoice Displays)}
    {began : Nat} {platform : PlatformSnapshot Displays}
    (captured : start.HasCaptured choices began platform) (choice : PollChoice Displays) :
    start.HasCaptured (choices ++ [choice]) began platform := by
  refine Run.Since.snoc captured choice ?_
  rintro beginning since ⟨work, during, found, elapsed, rest, stage, rfl, alone, same⟩
  exact ⟨work, during, found, elapsed, rest ++ [choice], stage, by simp, alone, same⟩

/-- What a step of the polling world does to the capture and to what the state shows. -/
inductive CaptureMoves (world : PollingWorld Displays) (choice : PollChoice Displays)
    (next : PollingWorld Displays) : Prop where
  | begins (work : Nat) (loop : choice = .loop) (before : world.stage = .starting work)
      (stage : next.stage = .capturing work world.now) (state : next.state = world.state)
      (updatedFrom : next.updatedFrom = world.updatedFrom)
  | returns (work began elapsed : Nat) (found : Option (PlatformSnapshot Displays))
      (captured : choice = .captured found elapsed) (before : world.stage = .capturing work began)
      (stage : next.stage = .captured work began (found.getD { displays := default }) elapsed)
      (state : next.state = world.state) (updatedFrom : next.updatedFrom = world.updatedFrom)
  | applies (work began elapsed : Nat) (platform : PlatformSnapshot Displays)
      (before : world.stage = .captured work began platform elapsed)
      (stage : next.stage.began = none) (state : next.state.Shows platform)
      (updatedFrom : next.updatedFrom = some began)
  | keeps (waits : ∀ found elapsed, choice ≠ .captured found elapsed)
      (stage : next.stage = world.stage ∨ next.stage.began = none)
      (state : next.state = world.state) (updatedFrom : next.updatedFrom = world.updatedFrom)

/-- Every step of the polling world is one of these. -/
theorem Steps.capture {world next : PollingWorld Displays} {choice : PollChoice Displays}
    (stepped : world.Steps choice next) : CaptureMoves world choice next := by
  obtain ⟨moved, went, same⟩ := Option.map_eq_some_iff.mp stepped
  subst same
  cases choice with
  | loop =>
    have waits : ∀ found elapsed, (.loop : PollChoice Displays) ≠ .captured found elapsed := by
      intro _ _ same
      cases same
    replace went : world.stepLoop = some moved := went
    unfold PollingWorld.stepLoop at went
    split at went
    case h_2 =>
      rename_i work stage
      cases went
      exact .begins work rfl stage rfl rfl rfl
    case h_3 =>
      -- Only here the state changes, to what the capture found.
      rename_i work began platform elapsed stage
      cases went
      exact .applies work began elapsed platform stage rfl
        (world.state.applyPollUpdate_shows platform elapsed world.intervalMs) rfl
    case h_7 => split at went <;> cases went <;> exact .keeps waits (.inr rfl) rfl rfl
    case h_8 =>
      split at went <;> cases went
      exact .keeps waits (.inr rfl) rfl rfl
    all_goals cases went
    all_goals exact .keeps waits (.inr rfl) rfl rfl
  -- What the platform answers is kept until the loop brings it in.
  | captured found elapsed =>
    simp only [move] at went
    split at went <;> cases went
    rename_i work began stage
    exact .returns work began elapsed found rfl stage rfl rfl rfl
  | dropped =>
    simp only [move] at went
    split at went <;> cases went
    exact .keeps (by intro _ _ same; cases same) (.inr rfl) rfl rfl
  | timer =>
    simp only [move] at went
    split at went <;> cases went
    exact .keeps (by intro _ _ same; cases same) (.inr rfl) rfl rfl
  | refresh =>
    cases went
    exact .keeps (by intro _ _ same; cases same) (.inl rfl) rfl rfl
  | caller index =>
    obtain ⟨caller, found, rest⟩ := Option.bind_eq_some_iff.mp went
    obtain ⟨⟨tuner, after⟩, taken, same⟩ := Option.bind_eq_some_iff.mp rest
    cases same
    exact .keeps (by intro _ _ same; cases same) (.inl rfl) rfl rfl
  | gone index =>
    obtain ⟨caller, found, rest⟩ := Option.bind_eq_some_iff.mp went
    split at rest <;> cases rest
    exact .keeps (by intro _ _ same; cases same) (.inl rfl) rfl rfl

/-- A caller with a request has just counted it, or had it before the step. -/
theorem Steps.asked {world next : PollingWorld Displays} {choice : PollChoice Displays}
    (stepped : world.Steps choice next) {index generation : Nat} {caller : RefreshCaller}
    (found : next.callers[index]? = some caller)
    (asks : caller.stage.generation = some generation) :
    caller.askedAt = world.now ∨ ∃ before, world.callers[index]? = some before ∧
      before.askedAt = caller.askedAt ∧ before.stage.generation = some generation := by
  obtain ⟨moved, went, same⟩ := Option.map_eq_some_iff.mp stepped
  subst same
  -- Unless a caller moves, the callers are those before the step.
  have kept : moved.callers = world.callers → caller.askedAt = world.now ∨
      ∃ before, world.callers[index]? = some before ∧ before.askedAt = caller.askedAt ∧
        before.stage.generation = some generation := by
    intro callers
    exact .inr ⟨caller, by rw [← callers]; exact found, rfl, asks⟩
  cases choice with
  | loop =>
    apply kept
    replace went : world.stepLoop = some moved := went
    unfold PollingWorld.stepLoop at went
    split at went
    case h_7 => split at went <;> cases went <;> rfl
    case h_8 =>
      split at went <;> cases went
      rfl
    all_goals cases went
    all_goals rfl
  | captured platform elapsed =>
    simp only [move] at went
    split at went <;> cases went
    exact kept rfl
  | dropped =>
    simp only [move] at went
    split at went <;> cases went
    exact kept rfl
  | timer =>
    simp only [move] at went
    split at went <;> cases went
    exact kept rfl
  | refresh =>
    cases went
    simp only at found
    rcases Nat.lt_or_ge index world.callers.length with old | new
    · rw [List.getElem?_append_left old] at found
      exact .inr ⟨caller, found, rfl, asks⟩
    · -- A caller that was just added has counted nothing.
      rw [List.getElem?_append_right new] at found
      have added := List.mem_singleton.mp (List.mem_of_getElem? found)
      rw [added] at asks
      cases asks
  | caller turn =>
    obtain ⟨mover, stood, rest⟩ := Option.bind_eq_some_iff.mp went
    obtain ⟨⟨tuner, after⟩, taken, same⟩ := Option.bind_eq_some_iff.mp rest
    cases same
    simp only at found
    rw [List.getElem?_set] at found
    split at found
    · rename_i own
      subst own
      split at found <;> cases found
      -- The caller that moves counts its request now, or keeps the one it has.
      rcases mover with ⟨stage, askedAt⟩
      cases stage with
      | called =>
        cases taken
        exact .inl rfl
      | checking counted seen =>
        simp only [stepCaller] at taken
        split at taken <;> cases taken <;> exact .inr ⟨_, stood, rfl, asks⟩
      | awaiting counted seen =>
        simp only [stepCaller] at taken
        split at taken <;> cases taken
        exact .inr ⟨_, stood, rfl, asks⟩
      | returned counted => cases taken
      | closed counted => cases taken
      | _ =>
        cases taken
        exact .inr ⟨_, stood, rfl, asks⟩
    · exact .inr ⟨caller, found, rfl, asks⟩
  | gone turn =>
    obtain ⟨mover, stood, rest⟩ := Option.bind_eq_some_iff.mp went
    split at rest
    -- A caller whose loop is gone returns with the request it made.
    · rename_i counted seen waits stopped
      cases rest
      simp only at found
      rw [List.getElem?_set] at found
      split at found
      · rename_i own
        subst own
        split at found <;> cases found
        exact .inr ⟨mover, stood, rfl, by rw [waits]; exact asks⟩
      · exact .inr ⟨caller, found, rfl, asks⟩
    · cases rest

/-- What a run of the polling world has been through. -/
structure Traced (start : PollingWorld Displays) (choices : List (PollChoice Displays))
    (world : PollingWorld Displays) : Prop where
  run : Run Steps start choices world
  clock : world.now = choices.length
  /-- A caller has its request in every state since it was counted. -/
  asked : ∀ (index generation : Nat) (caller : RefreshCaller),
    world.callers[index]? = some caller → caller.stage.generation = some generation →
    ∀ before after middle, choices = before ++ after → Run Steps start before middle →
      caller.askedAt < before.length → ∃ asked : RefreshCaller,
        middle.callers[index]? = some asked ∧ asked.stage.generation = some generation
  capturing : ∀ work began, world.stage = .capturing work began →
    Run.Since Steps start choices began IsCapturing
  captured : ∀ work began platform elapsed, world.stage = .captured work began platform elapsed →
    start.HasCaptured choices began platform
  /-- The state shows a capture that began when it is said to have begun. -/
  updated : ∀ began, world.updatedFrom = some began → ∃ platform, world.state.Shows platform ∧
    start.HasCaptured choices began platform

/-- A step has one outcome. -/
theorem Steps.deterministic {world left right : PollingWorld Displays}
    {choice : PollChoice Displays} (first : world.Steps choice left)
    (second : world.Steps choice right) : left = right :=
  Option.some.inj (first.symm.trans second)

/-- Every step adds to what a run has been through. -/
theorem Traced.step {start world next : PollingWorld Displays}
    {choices : List (PollChoice Displays)} {choice : PollChoice Displays}
    (stepped : world.Steps choice next) (traced : Traced start choices world) :
    Traced start (choices ++ [choice]) next := by
  have run : Run Steps start (choices ++ [choice]) next :=
    traced.run.append (.cons stepped (.nil next))
  have capture := stepped.capture
  -- A step that leaves the state leaves what it was updated from.
  have kept : next.state = world.state → next.updatedFrom = world.updatedFrom → ∀ began,
      next.updatedFrom = some began → ∃ platform, next.state.Shows platform ∧
        start.HasCaptured (choices ++ [choice]) began platform := by
    intro state updatedFrom began same
    rw [updatedFrom] at same
    obtain ⟨platform, displayed, captured⟩ := traced.updated began same
    exact ⟨platform, by rw [state]; exact displayed, captured.snoc choice⟩
  refine ⟨run, ?_, ?_, ?_, ?_, ?_⟩
  · obtain ⟨moved, went, same⟩ := Option.map_eq_some_iff.mp stepped
    subst same
    rw [List.length_append, ← traced.clock]
    rfl
  · intro index generation caller found asks before after middle same prior earlier
    rcases List.eq_nil_or_concat after with rfl | ⟨rest, last, split⟩
    · -- The state in question is the one just reached.
      rw [List.append_nil] at same
      subst same
      have met := @Run.unique _ _ Steps _ _ Steps.deterministic _ _ prior run
      exact ⟨caller, by rw [met]; exact found, asks⟩
    · rw [split, List.concat_eq_append, ← List.append_assoc] at same
      obtain ⟨joined, _⟩ := List.append_inj' same rfl
      rcases stepped.asked found asks with now | ⟨old, stood, unchanged, asked⟩
      · -- A request counted just now is in no earlier state.
        rw [now, traced.clock, joined, List.length_append] at earlier
        omega
      · exact traced.asked index generation old stood asked before rest middle joined prior
          (by rw [unchanged]; exact earlier)
  · intro work began stage
    cases capture with
    | begins _ loop before stage' _ _ =>
      rw [stage'] at stage
      cases stage
      -- The capture begins here, and nothing has come back since.
      refine ⟨choices, [choice], world, rfl, traced.clock.symm, traced.run, work, [], before,
        by rw [loop], ?_⟩
      intro _ _ absent
      cases absent
    | returns _ _ _ _ _ _ stage' _ _ =>
      rw [stage'] at stage
      cases stage
    | applies _ _ _ _ _ stage' _ _ =>
      rw [stage] at stage'
      cases stage'
    | keeps waits stage' _ _ =>
      rcases stage' with same | unbegun
      · apply (traced.capturing work began (same ▸ stage)).snoc choice
        rintro middle since ⟨work, during, starting, rfl, alone⟩
        refine ⟨work, during ++ [choice], starting, rfl, ?_⟩
        intro found elapsed member
        rcases List.mem_append.mp member with old | last
        · exact alone found elapsed old
        · exact waits found elapsed (List.mem_singleton.mp last).symm
      · rw [stage] at unbegun
        cases unbegun
  · intro work began platform elapsed stage
    cases capture with
    | begins _ _ _ stage' _ _ =>
      rw [stage'] at stage
      cases stage
    | returns _ _ _ found brought before stage' _ _ =>
      rw [stage'] at stage
      cases stage
      apply (traced.capturing _ _ before).snoc choice
      rintro middle since ⟨work, during, starting, rfl, alone⟩
      -- This is the answer to the capture that was begun, the first since.
      exact ⟨work, during, found, elapsed, [], starting, by rw [brought], alone, rfl⟩
    | applies _ _ _ _ _ stage' _ _ =>
      rw [stage] at stage'
      cases stage'
    | keeps _ stage' _ _ =>
      rcases stage' with same | unbegun
      · exact (traced.captured work began platform elapsed (same ▸ stage)).snoc choice
      · rw [stage] at unbegun
        cases unbegun
  · cases capture with
    | begins _ _ _ _ state updatedFrom => exact kept state updatedFrom
    | returns _ _ _ _ _ _ _ state updatedFrom => exact kept state updatedFrom
    -- From here on the state shows what this capture found.
    | applies work began elapsed platform before _ displayed updatedFrom =>
      intro other same
      rw [updatedFrom] at same
      cases same
      exact ⟨platform, displayed, (traced.captured _ _ _ _ before).snoc choice⟩
    | keeps _ _ state updatedFrom => exact kept state updatedFrom

/-- A run is traced from where the loop is spawned. -/
theorem Traced.of_run (cfg : WorldCfg) {choices : List (PollChoice Displays)}
    {world : PollingWorld Displays} (run : Run Steps (PollingWorld.spawn cfg) choices world) :
    Traced (PollingWorld.spawn cfg) choices world := by
  -- At the spawn nothing was captured and nobody has asked.
  have start : Traced (PollingWorld.spawn cfg : PollingWorld Displays) []
      (PollingWorld.spawn cfg) := by
    refine ⟨.nil _, rfl, ?_, ?_, ?_, ?_⟩
    · intro index generation caller found
      cases found
    · intro work began stage
      cases stage
    · intro work began platform elapsed stage
      cases stage
    · intro began updated
      cases updated
  exact run.trace_invariant (Traced (PollingWorld.spawn cfg))
    (fun stepped traced => traced.step stepped) [] start

/--
In every run of the polling world, whoever moves, the state shows a capture that began after the
request of every caller that has returned: the run passed through a state in which the request was
counted and the capture was about to begin, and then the capture brought what the state shows.

While the loop sleeps without a permit, every caller that woke it has its generation completed, and
a counted generation that is not complete is that of a caller whose wake-up of the loop is still to
come. A caller waits only for versions it has not seen.
-/
theorem refresh_served (cfg : WorldCfg) {choices : List (PollChoice Displays)}
    {world : PollingWorld Displays} (run : Run Steps (PollingWorld.spawn cfg) choices world) :
    (∀ (index generation : Nat) (caller : RefreshCaller), world.callers[index]? = some caller →
      caller.stage = .returned generation →
      ∃ (before after : List (PollChoice Displays)) (beginning : PollingWorld Displays)
        (asked : RefreshCaller) (platform : PlatformSnapshot Displays),
        choices = before ++ after ∧ Run Steps (PollingWorld.spawn cfg) before beginning ∧
        beginning.callers[index]? = some asked ∧ asked.stage.generation = some generation ∧
        beginning.Captures after platform ∧ world.state.Shows platform) ∧
    (world.stage = .sleeping → world.tuner.wake.permit = false →
      (∀ caller ∈ world.callers, ∀ generation, caller.stage.generation = some generation →
        caller.stage.isRequesting = false →
        generation ≤ world.tuner.completedGeneration.value) ∧
      ∀ generation, world.tuner.completedGeneration.value < generation →
        generation ≤ world.tuner.requestedGeneration →
        ∃ caller ∈ world.callers, caller.stage.generation = some generation ∧
          caller.stage.isRequesting = true) ∧
    ∀ caller ∈ world.callers, ∀ generation seen, caller.stage = .awaiting generation seen →
      seen = world.tuner.completedGeneration.version →
      world.tuner.completedGeneration.value < generation := by
  have fresh : world.Fresh :=
    run.invariant Fresh (fun stepped before => before.step stepped) (.spawn cfg)
  have traced := Traced.of_run cfg run
  refine ⟨?_, ?_, ?_⟩
  · intro index generation caller found returned
    have asks : caller.stage.generation = some generation := by rw [returned]; rfl
    have requested := fresh.callers caller (List.mem_of_getElem? found) generation asks
    -- The state was last updated from a capture that began after the request was counted.
    obtain ⟨began, updated, earlier⟩ := requested.completed (requested.returned returned)
    obtain ⟨platform, displayed, before, after, beginning, same, length, prior, captures⟩ :=
      traced.updated began updated
    obtain ⟨asked, stood, counted⟩ := traced.asked index generation caller found asks before after
      beginning same prior (by rw [length]; exact earlier)
    exact ⟨before, after, beginning, asked, platform, same, prior, stood, counted, captures,
      displayed⟩
  · intro asleep unwoken
    -- Asleep, the loop has completed whatever it worked for.
    have serving : world.serving = world.tuner.completedGeneration.value := by
      rw [PollingWorld.serving, asleep]
      rfl
    have made : ∀ caller ∈ world.callers, ∀ generation,
        caller.stage.generation = some generation → caller.stage.isRequesting = false →
        generation ≤ world.tuner.completedGeneration.value := by
      intro caller member generation same made
      by_contra unserved
      have permit := (fresh.callers caller member generation same).awake (by rw [asleep]; rfl) made
        (by rw [serving]; exact Nat.not_le.mp unserved)
      rw [unwoken] at permit
      cases permit
    refine ⟨made, ?_⟩
    intro generation unserved counted
    obtain ⟨caller, member, same⟩ :=
      fresh.counted generation (Nat.lt_of_le_of_lt (Nat.zero_le _) unserved) counted
    refine ⟨caller, member, same, ?_⟩
    cases requesting : caller.stage.isRequesting with
    | true => rfl
    | false =>
      exact absurd unserved (Nat.not_lt.mpr (made caller member generation same requesting))
  · intro caller member generation seen waits same
    exact (fresh.callers caller member generation (by rw [waits]; rfl)).awaiting seen waits same

/-- Steps of the polling world as a function. -/
private def pollStep (world : PollingWorld Unit) (choice : PollChoice Unit) :
    Option (PollingWorld Unit) :=
  (world.move choice).map fun moved => { moved with now := world.now + 1 }

/-- What the capture of the run below finds. -/
def foundWindow : PlatformWindow := ⟨"Editor", "notes", 42, 7, none⟩

/-- A caller returns, and the state shows the window that a capture begun since has found. -/
theorem refresh_served_once :
    ∃ choices world, Run Steps (PollingWorld.spawn {} : PollingWorld Unit) choices world ∧
      world.callers = [⟨.returned 1, 1⟩] ∧
      world.state.focus = some ⟨7, "Editor", "notes", 42, none⟩ ∧
      ∃ before after beginning platform, choices = before ++ after ∧
        Run Steps (PollingWorld.spawn {} : PollingWorld Unit) before beginning ∧
        beginning.Captures after platform ∧ world.state.Shows platform := by
  -- One caller asks, and the capture that serves it began after that.
  let choices : List (PollChoice Unit) := [.refresh, .caller 0, .caller 0, .caller 0, .caller 0,
    .caller 0, .loop, .loop, .captured (some { focused := some foundWindow, displays := () }) 3,
    .loop, .loop, .loop, .loop, .caller 0, .caller 0, .loop]
  obtain ⟨world, seen, run⟩ := Run.of_foldlM pollStep (PollingWorld.spawn {}) choices
    (fun world => (world.callers, world.state.focus))
    ([⟨.returned 1, 1⟩], some ⟨7, "Editor", "notes", 42, none⟩) (by decide +kernel)
  obtain ⟨callers, focus⟩ := Prod.mk.inj seen
  obtain ⟨before, after, beginning, _, platform, same, prior, _, _, captures, displayed⟩ :=
    (refresh_served {} run).1 0 1 ⟨.returned 1, 1⟩ (by rw [callers]; rfl) rfl
  exact ⟨choices, world, run, callers, focus, before, after, beginning, platform, same, prior,
    captures, displayed⟩

/-- A loop goes to sleep without a permit while a caller has counted its request and not yet
woken it. -/
theorem refresh_served_unwoken :
    ∃ choices world, Run Steps (PollingWorld.spawn {} : PollingWorld Unit) choices world ∧
      world.stage = .sleeping ∧ world.tuner.wake.permit = false ∧
      world.tuner.completedGeneration.value < world.tuner.requestedGeneration := by
  -- The request is counted, and the loop sleeps before it is woken.
  let choices : List (PollChoice Unit) := [.loop, .loop, .captured none 3, .loop, .loop, .loop,
    .refresh, .caller 0, .loop]
  obtain ⟨world, seen, run⟩ := Run.of_foldlM pollStep (PollingWorld.spawn {}) choices
    (fun world => (world.stage, world.tuner.wake.permit, world.tuner.completedGeneration.value,
      world.tuner.requestedGeneration)) (.sleeping, false, 0, 1) rfl
  simp only [Prod.mk.injEq] at seen
  obtain ⟨stage, permit, completed, requested⟩ := seen
  exact ⟨choices, world, run, stage, permit, by rw [completed, requested]; decide⟩

end PollingWorld

end Hotki
