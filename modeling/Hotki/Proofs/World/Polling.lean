import Hotki.Base.Run
import Hotki.World.Polling

/-! Refreshes of the world: what a caller has waited for, and why no wake-up of the loop is lost. -/

namespace Hotki

open Base

/-- The generation a stage of the poll loop works for. -/
def PollStage.generation {Displays : Type} : PollStage Displays → Option Nat
  | .starting generation | .capturing generation _ | .captured generation _ _ _ => some generation
  | .publishing generation _ => some generation
  | _ => none

/-- When the capture began whose findings are not in the state yet. -/
def PollStage.began {Displays : Type} : PollStage Displays → Option Nat
  | .capturing _ began | .captured _ began _ _ => some began
  | _ => none

/-- Whether the findings of a generation are in the state but the generation is not complete. -/
def PollStage.isPublishing {Displays : Type} : PollStage Displays → Bool
  | .publishing _ _ => true
  | _ => false

/-- Whether the loop may get to sleep before it reads the requested generation again. -/
def PollStage.rests {Displays : Type} : PollStage Displays → Bool
  | .reading | .woken | .stopped => false
  | _ => true

namespace PollingWorld

variable {Displays : Type}

/-- The generation the loop works for, or the last one it completed. -/
def serving (world : PollingWorld Displays) : Nat :=
  world.stage.generation.getD world.tuner.completedGeneration.value

/-- Whether the state was updated from a capture that began after a caller's request. -/
def UpdatedFor (world : PollingWorld Displays) (caller : RefreshCaller) : Prop :=
  ∃ began, world.updatedFrom = some began ∧ caller.askedAt < began

/-- What is true of a caller that requested a generation. -/
structure Requested (world : PollingWorld Displays) (caller : RefreshCaller) (generation : Nat) :
    Prop where
  counted : generation ≤ world.tuner.requestedGeneration
  earlier : caller.askedAt < world.now
  /-- A capture for its generation began after the request. -/
  captured : ∀ began, world.stage.began = some began → generation ≤ world.serving →
    caller.askedAt < began
  updated : world.stage.isPublishing = true → generation ≤ world.serving → world.UpdatedFor caller
  completed : generation ≤ world.tuner.completedGeneration.value → world.UpdatedFor caller
  /-- The loop keeps a wake-up for a request that it does not work for. -/
  awake : world.stage.rests = true → caller.stage.isRequesting = false →
    world.serving < generation → world.tuner.wake.permit = true
  /-- It returns for a complete generation only. -/
  returned : caller.stage = .returned generation →
    generation ≤ world.tuner.completedGeneration.value
  /-- It waits for a version it has not seen while its generation is not complete. -/
  awaiting : ∀ seen, caller.stage = .awaiting generation seen →
    seen = world.tuner.completedGeneration.version →
    world.tuner.completedGeneration.value < generation

/-- What holds in every state of the polling world. -/
structure Fresh (world : PollingWorld Displays) : Prop where
  completed : world.tuner.completedGeneration.value ≤ world.serving
  serving : world.serving ≤ world.tuner.requestedGeneration
  callers : ∀ caller ∈ world.callers, ∀ generation, caller.stage.generation = some generation →
    world.Requested caller generation
  /-- Every generation that was counted is some caller's. -/
  counted : ∀ generation, 0 < generation → generation ≤ world.tuner.requestedGeneration →
    ∃ caller ∈ world.callers, caller.stage.generation = some generation
  /-- A waiting caller has seen no version that is still to come. -/
  seen : ∀ caller ∈ world.callers, ∀ generation seen,
    caller.stage = .awaiting generation seen ∨ caller.stage = .checking generation seen →
    seen ≤ world.tuner.completedGeneration.version

/-- Whether a state leaves to the callers what another left to them. -/
structure Calm (world next : PollingWorld Displays) : Prop where
  callers : next.callers = world.callers
  requested : next.tuner.requestedGeneration = world.tuner.requestedGeneration
  now : world.now ≤ next.now

section Loop

variable {world next : PollingWorld Displays} {caller : RefreshCaller} {generation : Nat}

/-- A request stays as it is when the loop moves on without reading, updating or completing. -/
theorem Requested.same (requested : world.Requested caller generation) (calm : world.Calm next)
    (began : next.stage.began = world.stage.began)
    (publishing : next.stage.isPublishing = world.stage.isPublishing)
    (rests : next.stage.rests = world.stage.rests) (serving : next.serving = world.serving)
    (completed : next.tuner.completedGeneration = world.tuner.completedGeneration)
    (permit : next.tuner.wake = world.tuner.wake)
    (updatedFrom : next.updatedFrom = world.updatedFrom) :
    next.Requested caller generation where
  -- Every clause is about what did not change.
  counted := by
    rw [calm.requested]
    exact requested.counted
  earlier := Nat.lt_of_lt_of_le requested.earlier calm.now
  captured := by
    rw [began, serving]
    exact requested.captured
  updated := by
    rw [publishing, serving, UpdatedFor, updatedFrom]
    exact requested.updated
  completed := by
    rw [completed, UpdatedFor, updatedFrom]
    exact requested.completed
  awake := by
    rw [rests, serving, permit]
    exact requested.awake
  returned := by
    rw [completed]
    exact requested.returned
  awaiting := by
    rw [completed]
    exact requested.awaiting

/-- A request stays as it is when the loop gets to where it will read the generation again. -/
theorem Requested.idle (requested : world.Requested caller generation) (calm : world.Calm next)
    (began : next.stage.began = none) (publishing : next.stage.isPublishing = false)
    (rests : next.stage.rests = false)
    (completed : next.tuner.completedGeneration = world.tuner.completedGeneration)
    (updatedFrom : next.updatedFrom = world.updatedFrom) :
    next.Requested caller generation where
  -- The loop serves nothing now, so the clauses about its work are void.
  counted := by
    rw [calm.requested]
    exact requested.counted
  earlier := Nat.lt_of_lt_of_le requested.earlier calm.now
  captured := by
    rw [began]
    intro _ absent
    cases absent
  updated := by
    rw [publishing]
    intro absent
    cases absent
  completed := by
    rw [completed, UpdatedFor, updatedFrom]
    exact requested.completed
  awake := by
    rw [rests]
    intro absent
    cases absent
  returned := by
    rw [completed]
    exact requested.returned
  awaiting := by
    rw [completed]
    exact requested.awaiting

/-- Once the loop has read the requested generation it works for every request so far. -/
theorem Requested.read (requested : world.Requested caller generation) (calm : world.Calm next)
    (stage : next.stage = .starting world.tuner.requestedGeneration)
    (completed : next.tuner.completedGeneration = world.tuner.completedGeneration)
    (updatedFrom : next.updatedFrom = world.updatedFrom) :
    next.Requested caller generation where
  -- Everything requested so far is what the loop now works for.
  counted := by
    rw [calm.requested]
    exact requested.counted
  earlier := Nat.lt_of_lt_of_le requested.earlier calm.now
  captured := by
    rw [stage]
    intro _ absent
    cases absent
  updated := by
    rw [stage]
    intro absent
    cases absent
  completed := by
    rw [completed, UpdatedFor, updatedFrom]
    exact requested.completed
  awake := by
    intro _ _ unserved
    have counted := requested.counted
    rw [PollingWorld.serving, stage] at unserved
    exact absurd unserved (Nat.not_lt.mpr counted)
  returned := by
    rw [completed]
    exact requested.returned
  awaiting := by
    rw [completed]
    exact requested.awaiting

/-- A capture begins after every request made so far. -/
theorem Requested.begins (requested : world.Requested caller generation) (calm : world.Calm next)
    {work : Nat} (before : world.stage = .starting work)
    (stage : next.stage = .capturing work world.now) (tuner : next.tuner = world.tuner)
    (updatedFrom : next.updatedFrom = world.updatedFrom) :
    next.Requested caller generation where
  -- The capture starts now, so it starts after every request made so far.
  counted := by
    rw [calm.requested]
    exact requested.counted
  earlier := Nat.lt_of_lt_of_le requested.earlier calm.now
  captured := by
    rw [stage]
    intro began same _
    cases same
    exact requested.earlier
  updated := by
    rw [stage]
    intro absent
    cases absent
  completed := by
    rw [tuner, UpdatedFor, updatedFrom]
    exact requested.completed
  awake := by
    intro _ made unserved
    rw [tuner]
    apply requested.awake (by rw [before]; rfl) made
    rw [PollingWorld.serving, before]
    rwa [PollingWorld.serving, stage] at unserved
  returned := by
    rw [tuner]
    exact requested.returned
  awaiting := by
    rw [tuner]
    exact requested.awaiting

/-- An update from a capture is one for the requests the capture works for. -/
theorem Requested.applied (requested : world.Requested caller generation) (calm : world.Calm next)
    (fresh : world.tuner.completedGeneration.value ≤ world.serving) {work began : Nat}
    {platform : PlatformSnapshot Displays} {elapsed : Nat}
    (before : world.stage = .captured work began platform elapsed) {events : List WorldEvent}
    (stage : next.stage = .publishing work events) (tuner : next.tuner = world.tuner)
    (updatedFrom : next.updatedFrom = some began) : next.Requested caller generation := by
  -- The update comes from the capture that was begun for the requests.
  have serving : next.serving = world.serving := by
    simp only [PollingWorld.serving, stage, before]
    rfl
  have earlier := requested.captured began (by rw [before]; rfl)
  constructor
  · rw [calm.requested]
    exact requested.counted
  · exact Nat.lt_of_lt_of_le requested.earlier calm.now
  · rw [stage]
    intro _ absent
    cases absent
  · rw [serving]
    intro _ served
    exact ⟨began, updatedFrom, earlier served⟩
  · rw [tuner]
    intro complete
    exact ⟨began, updatedFrom, earlier (Nat.le_trans complete fresh)⟩
  · rw [serving, tuner]
    intro _
    exact requested.awake (by rw [before]; rfl)
  · rw [tuner]
    exact requested.returned
  · rw [tuner]
    exact requested.awaiting

/-- A generation is completed once the state was updated for its requests. -/
theorem Requested.complete (requested : world.Requested caller generation) (calm : world.Calm next)
    (fresh : world.tuner.completedGeneration.value ≤ world.serving)
    (seen : ∀ seen, caller.stage = .awaiting generation seen →
      seen ≤ world.tuner.completedGeneration.version) {work : Nat}
    (before : world.stage = .publishing work []) (stage : next.stage = .pacing)
    (tuner : next.tuner = world.tuner.completeRefresh work)
    (updatedFrom : next.updatedFrom = world.updatedFrom) :
    next.Requested caller generation := by
  have serves : world.serving = work := by
    rw [PollingWorld.serving, before]
    rfl
  have serving : next.serving = work := by
    rw [PollingWorld.serving, stage, tuner]
    rfl
  rw [serves] at fresh
  constructor
  · rw [calm.requested]
    exact requested.counted
  · exact Nat.lt_of_lt_of_le requested.earlier calm.now
  · rw [stage]
    intro _ absent
    cases absent
  · rw [stage]
    intro absent
    cases absent
  · rw [tuner, UpdatedFor, updatedFrom]
    intro complete
    exact requested.updated (by rw [before]; rfl) (by rw [serves]; exact complete)
  · rw [serving, tuner]
    intro _ made unserved
    exact requested.awake (by rw [before]; rfl) made (by rw [serves]; exact unserved)
  · rw [tuner]
    intro returned
    exact Nat.le_trans (requested.returned returned) fresh
  · rw [tuner]
    intro version waits same
    -- The version of a completion is one that no caller has seen.
    have known := seen version waits
    simp only [PollTuner.completeRefresh, Watch.sendReplace] at same
    omega

end Loop

/-- The state stays sound when the loop moves on, if it does so for the numbers and each request. -/
theorem Fresh.looped {world next : PollingWorld Displays} (fresh : world.Fresh)
    (calm : world.Calm next)
    (completed : next.tuner.completedGeneration.value ≤ next.serving)
    (serving : next.serving ≤ world.tuner.requestedGeneration)
    (version : world.tuner.completedGeneration.version ≤ next.tuner.completedGeneration.version)
    (each : ∀ caller ∈ world.callers, ∀ generation, caller.stage.generation = some generation →
      world.Requested caller generation → next.Requested caller generation) : next.Fresh where
  -- The callers stand as they stood, and only the loop's part has to be shown.
  completed := completed
  serving := by
    rw [calm.requested]
    exact serving
  callers := by
    rw [calm.callers]
    intro caller member generation same
    exact each caller member generation same (fresh.callers caller member generation same)
  counted := by
    rw [calm.callers, calm.requested]
    exact fresh.counted
  seen := by
    rw [calm.callers]
    intro caller member generation seen waits
    exact Nat.le_trans (fresh.seen caller member generation seen waits) version

/-- The loop keeps the state sound when it moves on without reading, updating or completing. -/
theorem Fresh.same {world next : PollingWorld Displays} (fresh : world.Fresh)
    (calm : world.Calm next)
    (generation : next.stage.generation = world.stage.generation)
    (began : next.stage.began = world.stage.began)
    (publishing : next.stage.isPublishing = world.stage.isPublishing)
    (rests : next.stage.rests = world.stage.rests)
    (completed : next.tuner.completedGeneration = world.tuner.completedGeneration)
    (permit : next.tuner.wake = world.tuner.wake)
    (updatedFrom : next.updatedFrom = world.updatedFrom) : next.Fresh := by
  -- What the loop serves has not changed.
  have serving : next.serving = world.serving := by
    rw [PollingWorld.serving, PollingWorld.serving, generation, completed]
  apply fresh.looped calm
  · rw [serving, completed]
    exact fresh.completed
  · rw [serving]
    exact fresh.serving
  · rw [completed]
  · intro caller _ _ _ requested
    exact requested.same calm began publishing rests serving completed permit updatedFrom

/-- The loop keeps the state sound when it gets to where it will read the generation again. -/
theorem Fresh.idle {world next : PollingWorld Displays} (fresh : world.Fresh)
    (calm : world.Calm next) (generation : next.stage.generation = none)
    (began : next.stage.began = none) (publishing : next.stage.isPublishing = false)
    (rests : next.stage.rests = false)
    (completed : next.tuner.completedGeneration = world.tuner.completedGeneration)
    (updatedFrom : next.updatedFrom = world.updatedFrom) : next.Fresh := by
  -- What was served last has been completed.
  have serving : next.serving = world.tuner.completedGeneration.value := by
    rw [PollingWorld.serving, generation, completed]
    rfl
  apply fresh.looped calm
  · rw [serving, completed]
  · rw [serving]
    exact Nat.le_trans fresh.completed fresh.serving
  · rw [completed]
  · intro caller _ _ _ requested
    exact requested.idle calm began publishing rests completed updatedFrom

/-- Every step of the loop by itself keeps the state sound. -/
theorem Fresh.stepLoop [BEq Displays] [Inhabited Displays] {world moved : PollingWorld Displays}
    (fresh : world.Fresh) (stepped : world.stepLoop = some moved) :
    PollingWorld.Fresh { moved with now := world.now + 1 } := by
  unfold PollingWorld.stepLoop at stepped
  split at stepped
  · -- The generation is read.
    rename_i stage
    cases stepped
    have calm : world.Calm { world with
        stage := .starting world.tuner.requestedGeneration, now := world.now + 1 } :=
      ⟨rfl, rfl, Nat.le_succ _⟩
    refine fresh.looped calm ?_ ?_ ?_ ?_
    · exact Nat.le_trans fresh.completed fresh.serving
    · exact Nat.le_refl _
    · exact Nat.le_refl _
    · intro caller _ _ _ requested
      exact requested.read calm rfl rfl rfl
  · -- The capture begins.
    rename_i work stage
    cases stepped
    -- The generation served is the one read when the poll began.
    have serving : world.serving = work := by
      rw [PollingWorld.serving, stage]
      rfl
    have calm : world.Calm { world with
        stage := .capturing work world.now, now := world.now + 1 } := ⟨rfl, rfl, Nat.le_succ _⟩
    refine fresh.looped calm ?_ ?_ ?_ ?_
    · exact serving ▸ fresh.completed
    · exact serving ▸ fresh.serving
    · exact Nat.le_refl _
    · intro caller _ _ _ requested
      exact requested.begins calm stage rfl rfl rfl
  · -- The findings are brought into the state.
    rename_i work began platform elapsed stage
    cases stepped
    have serving : world.serving = work := by
      rw [PollingWorld.serving, stage]
      rfl
    refine fresh.looped ⟨rfl, rfl, Nat.le_succ _⟩ ?_ ?_ ?_ ?_
    · exact serving ▸ fresh.completed
    · exact serving ▸ fresh.serving
    · exact Nat.le_refl _
    · intro caller _ _ _ requested
      exact requested.applied ⟨rfl, rfl, Nat.le_succ _⟩ fresh.completed stage rfl rfl rfl
  · -- An event is published.
    rename_i work event rest stage
    cases stepped
    refine fresh.same ⟨rfl, rfl, Nat.le_succ _⟩ ?_ ?_ ?_ ?_ rfl rfl rfl <;>
      simp [stage, PollStage.generation, PollStage.began, PollStage.isPublishing, PollStage.rests]
  · -- The generation is complete.
    rename_i work stage
    cases stepped
    have serving : world.serving = work := by
      rw [PollingWorld.serving, stage]
      rfl
    refine fresh.looped ⟨rfl, rfl, Nat.le_succ _⟩ ?_ ?_ ?_ ?_
    · exact Nat.le_refl _
    · exact serving ▸ fresh.serving
    · exact Nat.le_succ _
    · intro caller member generation _ requested
      exact requested.complete ⟨rfl, rfl, Nat.le_succ _⟩ fresh.completed
        (fun seen waits => fresh.seen caller member generation seen (.inl waits)) stage rfl rfl rfl
  · -- The next interval is computed, which takes a hint but no permit.
    rename_i stage
    cases stepped
    refine fresh.same ⟨rfl, rfl, Nat.le_succ _⟩ ?_ ?_ ?_ ?_ rfl rfl rfl <;>
      simp [stage, PollStage.generation, PollStage.began, PollStage.isPublishing, PollStage.rests]
  · rename_i stage
    split at stepped
    · -- A hint starts the next poll at once.
      rename_i hinted tuner took
      have same : tuner = (world.tuner.consumeHint).2 := by rw [took]
      cases stepped
      subst same
      exact fresh.idle ⟨rfl, rfl, Nat.le_succ _⟩ rfl rfl rfl rfl rfl rfl
    · rename_i tuner took
      have same : tuner = (world.tuner.consumeHint).2 := by rw [took]
      cases stepped
      subst same
      refine fresh.same ⟨rfl, rfl, Nat.le_succ _⟩ ?_ ?_ ?_ ?_ rfl rfl rfl <;>
        simp [stage, PollStage.generation, PollStage.began, PollStage.isPublishing, PollStage.rests]
  · -- A permit is taken only to read the generation again.
    split at stepped
    · cases stepped
      exact fresh.idle ⟨rfl, rfl, Nat.le_succ _⟩ rfl rfl rfl rfl rfl rfl
    · cases stepped
  · cases stepped
    exact fresh.idle ⟨rfl, rfl, Nat.le_succ _⟩ rfl rfl rfl rfl rfl rfl
  all_goals cases stepped

/-- A request stays as it is when callers only add to what the loop was asked for. -/
theorem Requested.tuned {world next : PollingWorld Displays} {caller : RefreshCaller}
    {generation : Nat} (requested : world.Requested caller generation)
    (more : world.tuner.requestedGeneration ≤ next.tuner.requestedGeneration)
    (now : world.now ≤ next.now) (stage : next.stage = world.stage)
    (completed : next.tuner.completedGeneration = world.tuner.completedGeneration)
    (permit : world.tuner.wake.permit = true → next.tuner.wake.permit = true)
    (updatedFrom : next.updatedFrom = world.updatedFrom) :
    next.Requested caller generation := by
  -- Later requests do not change what was asked for in earlier ones.
  have serving : next.serving = world.serving := by
    rw [PollingWorld.serving, PollingWorld.serving, stage, completed]
  constructor
  · exact Nat.le_trans requested.counted more
  · exact Nat.lt_of_lt_of_le requested.earlier now
  · rw [stage, serving]
    exact requested.captured
  · rw [stage, serving, UpdatedFor, updatedFrom]
    exact requested.updated
  · rw [completed, UpdatedFor, updatedFrom]
    exact requested.completed
  · rw [stage, serving]
    exact fun rests made unserved => permit (requested.awake rests made unserved)
  · rw [completed]
    exact requested.returned
  · rw [completed]
    exact requested.awaiting

/-- What a caller that moves on does to the tuner. -/
structure Asks (before after : PollTuner) : Prop where
  requested : before.requestedGeneration ≤ after.requestedGeneration
  completed : after.completedGeneration = before.completedGeneration
  permit : before.wake.permit = true → after.wake.permit = true

/-- The state stays sound when a caller moves on, if its own request does. -/
theorem Fresh.moved {world next : PollingWorld Displays} (fresh : world.Fresh) {index : Nat}
    {caller moved : RefreshCaller} (found : world.callers[index]? = some caller)
    (callers : next.callers = world.callers.set index moved)
    (asks : Asks world.tuner next.tuner) (now : world.now ≤ next.now)
    (stage : next.stage = world.stage) (updatedFrom : next.updatedFrom = world.updatedFrom)
    (own : ∀ generation, moved.stage.generation = some generation →
      next.Requested moved generation)
    (kept : ∀ generation, caller.stage.generation = some generation →
      moved.stage.generation = some generation)
    (counts : ∀ generation, world.tuner.requestedGeneration < generation →
      generation ≤ next.tuner.requestedGeneration → moved.stage.generation = some generation)
    (seen : ∀ generation seen, moved.stage = .awaiting generation seen ∨
      moved.stage = .checking generation seen →
      seen ≤ world.tuner.completedGeneration.version) : next.Fresh := by
  -- The caller that moves is followed by itself, and the others are as they were.
  have serving : next.serving = world.serving := by
    rw [PollingWorld.serving, PollingWorld.serving, stage, asks.completed]
  have within := (List.getElem?_eq_some_iff.mp found).1
  have mine : moved ∈ next.callers := by
    rw [callers]
    exact List.mem_of_getElem? (List.getElem?_set_self within)
  have old : ∀ other ∈ next.callers, other = moved ∨ other ∈ world.callers := by
    intro other member
    rw [callers] at member
    exact (List.mem_or_eq_of_mem_set member).symm
  constructor
  · rw [serving, asks.completed]
    exact fresh.completed
  · rw [serving]
    exact Nat.le_trans fresh.serving asks.requested
  · intro other member generation same
    rcases old other member with self | before
    · subst self
      exact own generation same
    · exact (fresh.callers other before generation same).tuned asks.requested now stage
        asks.completed asks.permit updatedFrom
  · intro generation positive counted
    by_cases fresher : world.tuner.requestedGeneration < generation
    · exact ⟨moved, mine, counts generation fresher counted⟩
    · obtain ⟨other, member, same⟩ := fresh.counted generation positive (Nat.not_lt.mp fresher)
      obtain ⟨at_, foundOther⟩ := List.mem_iff_getElem?.mp member
      by_cases atIndex : index = at_
      · subst atIndex
        cases found.symm.trans foundOther
        exact ⟨moved, mine, kept generation same⟩
      · refine ⟨other, ?_, same⟩
        rw [callers]
        exact List.mem_of_getElem? ((List.getElem?_set_ne atIndex).trans foundOther)
  · intro other member generation version waits
    rw [asks.completed]
    rcases old other member with self | before
    · subst self
      exact seen generation version waits
    · exact fresh.seen other before generation version waits

/-- The state stays sound when a caller gets further with the generation it requested. -/
theorem Fresh.onwards {world : PollingWorld Displays} (fresh : world.Fresh) {index : Nat}
    {caller : RefreshCaller} (found : world.callers[index]? = some caller) {generation : Nat}
    (before : caller.stage.generation = some generation) {stage : RefreshStage}
    (after : stage.generation = some generation) {tuner : PollTuner}
    (asks : Asks world.tuner tuner)
    (same : tuner.requestedGeneration = world.tuner.requestedGeneration)
    (awake : stage.isRequesting = false →
      caller.stage.isRequesting = false ∨ tuner.wake.permit = true)
    (returned : stage = .returned generation →
      generation ≤ world.tuner.completedGeneration.value)
    (awaiting : ∀ seen, stage = .awaiting generation seen →
      world.tuner.completedGeneration.value < generation)
    (seen : ∀ version, stage = .awaiting generation version ∨ stage = .checking generation version →
      version ≤ world.tuner.completedGeneration.version) :
    PollingWorld.Fresh
      { world with
        tuner, callers := world.callers.set index { caller with stage }, now := world.now + 1 } := by
  -- The caller has its generation, and what is known of that stays known.
  have requested := fresh.callers caller (List.mem_of_getElem? found) generation before
  have serving : PollingWorld.serving
      { world with
        tuner, callers := world.callers.set index { caller with stage }, now := world.now + 1 } =
      world.serving := by
    simp only [PollingWorld.serving, asks.completed]
  refine fresh.moved found rfl asks (Nat.le_succ _) rfl rfl ?_ ?_ ?_ ?_
  · intro other sameOther
    cases after.symm.trans sameOther
    constructor
    · exact Nat.le_trans requested.counted asks.requested
    · exact Nat.lt_succ_of_lt requested.earlier
    · rw [serving]
      exact requested.captured
    · rw [serving]
      exact requested.updated
    · rw [asks.completed]
      exact requested.completed
    · rw [serving]
      intro rests made unserved
      rcases awake made with earlier | permit
      · exact asks.permit (requested.awake rests earlier unserved)
      · exact permit
    · rw [asks.completed]
      exact returned
    · rw [asks.completed]
      exact fun version waits _ => awaiting version waits
  · intro other sameOther
    rw [before] at sameOther
    exact after.trans sameOther
  -- No request is counted in this step.
  · intro other above below
    rw [same] at below
    exact absurd above (Nat.not_lt.mpr below)
  · intro other version waits
    have own : other = generation := by
      rcases waits with waits | waits <;>
        · have reached : stage = _ := waits
          rw [reached] at after
          exact Option.some.inj after
    subst own
    exact seen version waits

/-- Every step of a caller keeps the state sound. -/
theorem Fresh.stepCaller {world : PollingWorld Displays} (fresh : world.Fresh) {index : Nat}
    {caller moved : RefreshCaller} (found : world.callers[index]? = some caller)
    {tuner : PollTuner}
    (stepped : PollingWorld.stepCaller world.tuner world.now caller = some (tuner, moved)) :
    PollingWorld.Fresh
      { world with tuner, callers := world.callers.set index moved, now := world.now + 1 } := by
  have asks : Asks world.tuner world.tuner := ⟨Nat.le_refl _, rfl, id⟩
  obtain ⟨stage, askedAt⟩ := caller
  unfold PollingWorld.stepCaller at stepped
  cases stage with
  | called =>
    -- The request is counted, and is of a generation that nobody works for yet.
    cases stepped
    have ahead : world.serving < world.tuner.requestedGeneration + 1 :=
      Nat.lt_succ_of_le fresh.serving
    refine fresh.moved found rfl ⟨Nat.le_succ _, rfl, id⟩ (Nat.le_succ _) rfl rfl ?_ ?_ ?_ ?_
    · intro generation same
      cases same
      constructor
      · exact Nat.le_refl _
      · exact Nat.lt_succ_self _
      · intro _ _ served
        exact absurd ahead (Nat.not_lt.mpr served)
      · intro _ served
        exact absurd ahead (Nat.not_lt.mpr served)
      · intro complete
        exact absurd ahead (Nat.not_lt.mpr (Nat.le_trans complete fresh.completed))
      · intro _ made
        cases made
      · intro returned
        cases returned
      · intro _ awaits
        cases awaits
    · intro _ absent
      cases absent
    · intro generation above below
      exact congrArg some (Nat.le_antisymm above below)
    · rintro _ _ (absent | absent) <;> cases absent
  | counted generation =>
    cases stepped
    refine fresh.onwards found rfl rfl ⟨Nat.le_refl _, rfl, id⟩ rfl ?_ ?_ ?_ ?_
    · intro made
      cases made
    · intro returned
      cases returned
    · intro _ awaits
      cases awaits
    · rintro _ (absent | absent) <;> cases absent
  | hinted generation =>
    -- From here on there is a permit until the loop takes it to read the generation.
    cases stepped
    refine fresh.onwards found rfl rfl ⟨Nat.le_refl _, rfl, fun _ => rfl⟩ rfl ?_ ?_ ?_ ?_
    · intro _
      exact .inr rfl
    · intro returned
      cases returned
    · intro _ awaits
      cases awaits
    · rintro _ (absent | absent) <;> cases absent
  | requested generation =>
    cases stepped
    refine fresh.onwards found rfl rfl asks rfl ?_ ?_ ?_ ?_
    · intro _
      exact .inl rfl
    · intro returned
      cases returned
    · intro _ awaits
      cases awaits
    · rintro _ (absent | same)
      · cases absent
      · cases same
        exact Nat.le_refl _
  | checking generation version =>
    -- The caller returns if its generation is complete, and waits for another one otherwise.
    dsimp only at stepped
    split at stepped
    · rename_i complete
      cases stepped
      refine fresh.onwards found rfl rfl asks rfl ?_ ?_ ?_ ?_
      · intro _
        exact .inl rfl
      · intro _
        exact complete
      · intro _ awaits
        cases awaits
      · rintro _ (absent | absent) <;> cases absent
    · rename_i incomplete
      cases stepped
      refine fresh.onwards found rfl rfl asks rfl ?_ ?_ ?_ ?_
      · intro _
        exact .inl rfl
      · intro returned
        cases returned
      · intro _ _
        exact Nat.not_le.mp incomplete
      · rintro _ (same | absent)
        · cases same
          exact Nat.le_refl _
        · cases absent
  | awaiting generation version =>
    dsimp only at stepped
    split at stepped
    · cases stepped
      refine fresh.onwards found rfl rfl asks rfl ?_ ?_ ?_ ?_
      · intro _
        exact .inl rfl
      · intro returned
        cases returned
      · intro _ awaits
        cases awaits
      · rintro _ (absent | same)
        · cases absent
        · cases same
          exact Nat.le_refl _
    · cases stepped
  | returned generation => cases stepped
  | closed generation => cases stepped

section Runs

variable [BEq Displays] [Inhabited Displays]

/-- Every step of the polling world keeps it sound. -/
theorem Fresh.step {world next : PollingWorld Displays} {choice : PollChoice Displays}
    (stepped : world.Steps choice next) (fresh : world.Fresh) : next.Fresh := by
  obtain ⟨moved, went, same⟩ := Option.map_eq_some_iff.mp stepped
  subst same
  have later : world.now ≤ world.now + 1 := Nat.le_succ _
  cases choice with
  | loop => exact fresh.stepLoop went
  | captured platform elapsed =>
    simp only [move] at went
    split at went
    · rename_i stage
      cases went
      refine fresh.same ⟨rfl, rfl, later⟩ ?_ ?_ ?_ ?_ rfl rfl rfl <;> rw [stage] <;> rfl
    · cases went
  | dropped =>
    simp only [move] at went
    split at went
    · cases went
      exact fresh.idle ⟨rfl, rfl, later⟩ rfl rfl rfl rfl rfl rfl
    · cases went
  | timer =>
    -- A permit that the loop did not take stays for its next sleep.
    simp only [move] at went
    split at went
    · cases went
      exact fresh.idle ⟨rfl, rfl, later⟩ rfl rfl rfl rfl rfl rfl
    · cases went
  | refresh =>
    cases went
    -- A caller that only arrives has no generation yet.
    have old : ∀ caller ∈ world.callers ++ [⟨.called, 0⟩], caller.stage.generation ≠ none →
        caller ∈ world.callers := by
      intro caller member requested
      rcases List.mem_append.mp member with before | called
      · exact before
      · rw [List.mem_singleton.mp called] at requested
        exact absurd rfl requested
    constructor
    · exact fresh.completed
    · exact fresh.serving
    · intro caller member generation same
      have before := old caller member (by rw [same]; simp)
      exact (fresh.callers caller before generation same).tuned (Nat.le_refl _) later rfl rfl id rfl
    · intro generation positive counted
      obtain ⟨caller, member, same⟩ := fresh.counted generation positive counted
      exact ⟨caller, List.mem_append_left _ member, same⟩
    · intro caller member generation seen waits
      refine fresh.seen caller (old caller member ?_) generation seen waits
      rcases waits with waits | waits <;> simp [waits, RefreshStage.generation]
  | caller index =>
    obtain ⟨caller, found, rest⟩ := Option.bind_eq_some_iff.mp went
    obtain ⟨⟨tuner, after⟩, taken, same⟩ := Option.bind_eq_some_iff.mp rest
    cases same
    exact fresh.stepCaller found taken
  | gone index =>
    obtain ⟨caller, found, rest⟩ := Option.bind_eq_some_iff.mp went
    split at rest
    · rename_i generation seen waits stopped
      cases rest
      -- It was awaiting a generation, and no longer does.
      obtain ⟨stage, askedAt⟩ := caller
      cases waits
      refine fresh.onwards found rfl rfl ⟨Nat.le_refl _, rfl, id⟩ rfl ?_ ?_ ?_ ?_
      · intro _
        exact .inl rfl
      · intro returned
        cases returned
      · intro _ awaits
        cases awaits
      · rintro _ (absent | absent) <;> cases absent
    · cases rest

omit [BEq Displays] in
/-- A world without callers is sound. -/
theorem Fresh.spawn (cfg : WorldCfg) : (spawn cfg : PollingWorld Displays).Fresh where
  completed := Nat.le_refl _
  serving := Nat.le_refl _
  callers caller member := by cases member
  counted generation positive counted := absurd positive (Nat.not_lt.mpr counted)
  seen caller member := by cases member

end Runs

end PollingWorld

end Hotki
