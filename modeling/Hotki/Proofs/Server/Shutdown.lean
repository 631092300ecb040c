import Hotki.Base.Fair
import Hotki.Server.Shutdown

/-! No shutdown request is missed: a sleeping waiter has a notification coming, and returns. -/

namespace Hotki

open Base

namespace ShutdownCoordinator

variable {state next : ShutdownCoordinator} {choice : ShutdownChoice} {label : ShutdownLabel}

/-- A notification is on its way to a future: it was sent, or a request is about to send it. -/
def Coming (state : ShutdownCoordinator) (seen : Nat) : Prop :=
  seen < state.notifications ∨ ∃ index first, state.requests index = .flagged first

/-- What a waiter at a stage may rely on. -/
def Fits (state : ShutdownCoordinator) : WaiterStage → Prop
  | .unstarted => True
  | .created seen | .enabled seen => seen ≤ state.notifications
  | .awaiting seen | .asleep seen =>
    seen ≤ state.notifications ∧ (state.requested → state.Coming seen)
  | .woken seen => seen < state.notifications
  | .returned => state.requested

/-- What holds between any two steps. -/
structure Sound (state : ShutdownCoordinator) : Prop where
  started : ∀ index, state.requests index ≠ .unstarted → state.requested
  notified : 0 < state.notifications → state.requested
  fits : ∀ index, state.Fits (state.waiters index)

/-- Nothing was requested at first. -/
theorem Sound.initial : Sound {} where
  started := fun _ other => absurd rfl other
  notified := fun positive => absurd positive (Nat.lt_irrefl 0)
  fits := fun _ => trivial

/-- A waiter moves to a stage that fits. -/
theorem Sound.setWaiter (sound : state.Sound) {index : Nat} {stage : WaiterStage}
    (fits : state.Fits stage) : (state.setWaiter index stage).Sound where
  -- The other waiters stand where they stood.
  started := sound.started
  notified := sound.notified
  fits := by
    intro other
    show state.Fits (Function.update state.waiters index stage other)
    by_cases same : other = index
    · rw [same, Function.update_self]
      exact fits
    · rw [Function.update_of_ne same]
      exact sound.fits other

/-- Polling leaves a waiter at a stage that fits. -/
theorem Sound.poll (sound : state.Sound) {index seen : Nat} (before : seen ≤ state.notifications)
    (coming : state.requested → state.Coming seen) : (state.poll index seen).1.Sound := by
  unfold ShutdownCoordinator.poll
  split
  next sent => exact sound.setWaiter (sound.notified (by omega))
  next => exact sound.setWaiter ⟨before, coming⟩

/-- A waiter's own steps keep what holds. -/
theorem Sound.proceed (sound : state.Sound) {index : Nat}
    (stepped : state.proceed index = some (next, label)) : next.Sound := by
  have fits := sound.fits index
  unfold ShutdownCoordinator.proceed at stepped
  cases stage : state.waiters index with
  | unstarted => rw [stage] at stepped; cases stepped
  | asleep seen => rw [stage] at stepped; cases stepped
  | returned => rw [stage] at stepped; cases stepped
  | created seen =>
    rw [stage] at stepped fits
    cases stepped
    exact sound.setWaiter fits
  | enabled seen =>
    rw [stage] at stepped fits
    dsimp only at stepped
    split at stepped
    next requested =>
      cases stepped
      exact sound.setWaiter requested
    next unset =>
      -- The flag was read unset after the future was registered, so a later request notifies it.
      cases stepped
      exact sound.setWaiter ⟨fits, fun requested => absurd requested unset⟩
  | awaiting seen =>
    rw [stage] at stepped fits
    obtain rfl := congrArg Prod.fst (Option.some.inj stepped)
    exact sound.poll fits.1 fits.2
  | woken seen =>
    rw [stage] at stepped fits
    obtain rfl := congrArg Prod.fst (Option.some.inj stepped)
    exact sound.poll (Nat.le_of_lt fits) fun _ => .inl fits

/-- Setting the flag keeps every waiter's stage fitting, as the request has yet to notify. -/
theorem Fits.flagged {index : Nat} {first : Bool} {stage : WaiterStage} (fits : state.Fits stage) :
    Fits { state with
      requested := true
      requests := Function.update state.requests index (.flagged first) } stage := by
  -- Whoever looked before the flag was set will be notified, or has not begun to wait.
  have coming : ∃ other isFirst, Function.update state.requests index (.flagged first) other =
      .flagged isFirst := ⟨index, first, Function.update_self ..⟩
  cases stage with
  | unstarted => trivial
  | created seen => exact fits
  | enabled seen => exact fits
  | awaiting seen => exact ⟨fits.1, fun _ => .inr coming⟩
  | asleep seen => exact ⟨fits.1, fun _ => .inr coming⟩
  | woken seen => exact fits
  | returned => rfl

/-- A notification reaches every future made before it. -/
theorem Fits.notified {requests : Nat → RequestStage} {stage : WaiterStage}
    (fits : state.Fits stage) :
    Fits { state with notifications := state.notifications + 1, requests } stage := by
  cases stage with
  | unstarted => trivial
  | created seen => exact Nat.le_succ_of_le fits
  | enabled seen => exact Nat.le_succ_of_le fits
  | awaiting seen => exact ⟨Nat.le_succ_of_le fits.1, fun _ => .inl (Nat.lt_succ_of_le fits.1)⟩
  | asleep seen => exact ⟨Nat.le_succ_of_le fits.1, fun _ => .inl (Nat.lt_succ_of_le fits.1)⟩
  | woken seen => exact Nat.lt_succ_of_lt fits
  | returned => exact fits

/-- Every step keeps what holds. -/
theorem Sound.step (sound : state.Sound) (stepped : state.step choice = some (next, label)) :
    next.Sound := by
  -- One case for each step of a request and of a waiter.
  unfold ShutdownCoordinator.step at stepped
  cases choice with
  | request index =>
    dsimp only at stepped
    split at stepped
    next =>
      cases stepped
      exact ⟨fun _ _ => rfl, fun _ => rfl, fun other => (sound.fits other).flagged⟩
    all_goals cases stepped
  | notify index =>
    dsimp only at stepped
    split at stepped
    next first stage =>
      cases stepped
      have requested := sound.started index (by rw [stage]; simp)
      exact ⟨fun _ _ => requested, fun _ => requested, fun other => (sound.fits other).notified⟩
    all_goals cases stepped
  | wait index =>
    dsimp only at stepped
    split at stepped
    next =>
      cases stepped
      exact sound.setWaiter (Nat.le_refl _)
    next => cases stepped
  | proceed index => exact sound.proceed stepped
  | wake index =>
    dsimp only at stepped
    split at stepped
    next seen stage =>
      split at stepped
      next sent =>
        cases stepped
        exact sound.setWaiter sent
      next => cases stepped
    next => cases stepped
  | other =>
    cases stepped
    exact sound

/-- What holds is kept by every run. -/
theorem Sound.of_run {labels : List ShutdownLabel} (run : Run Steps {} labels state) :
    state.Sound := by
  refine run.invariant Sound (fun {state label next} stepped sound => ?_) .initial
  obtain ⟨choice, taken⟩ := stepped
  exact sound.step taken

/-- Moving a waiter leaves the others where they are. -/
theorem setWaiter_waiters {index other : Nat} {stage : WaiterStage} (different : other ≠ index) :
    (state.setWaiter index stage).waiters other = state.waiters other :=
  Function.update_of_ne different ..

/-- A moved waiter is where it was moved. -/
theorem setWaiter_self {index : Nat} {stage : WaiterStage} :
    (state.setWaiter index stage).waiters index = stage :=
  Function.update_self ..

/-- A step that moves one waiter at most, and leaves all else alone. -/
def MovesWaiter (state : ShutdownCoordinator) (index : Nat) (next : ShutdownCoordinator) : Prop :=
  ∃ stage, next = state.setWaiter index stage

/-- A waiter's own steps only move that waiter. -/
theorem proceed_moves {index : Nat} (stepped : state.proceed index = some (next, label)) :
    state.MovesWaiter index next := by
  -- Each stage leads to a next one of the same waiter, and touches nothing else.
  have polled : ∀ seen, state.MovesWaiter index (state.poll index seen).1 := by
    intro seen
    unfold poll
    split
    · exact ⟨_, rfl⟩
    · exact ⟨_, rfl⟩
  unfold proceed at stepped
  split at stepped
  next seen _ => cases stepped; exact ⟨_, rfl⟩
  next seen _ => split at stepped <;> (cases stepped; exact ⟨_, rfl⟩)
  next seen _ =>
    obtain rfl := congrArg Prod.fst (Option.some.inj stepped)
    exact polled seen
  next seen _ =>
    obtain rfl := congrArg Prod.fst (Option.some.inj stepped)
    exact polled seen
  all_goals cases stepped

/-- What each choice changes: the flag and a request, the notifications and a request, or one
waiter that stands where the choice needs it. -/
theorem step_effect (stepped : state.step choice = some (next, label)) :
    (∃ index first, choice = .request index ∧ state.requests index = .unstarted ∧
      next = { state with
        requested := true
        requests := Function.update state.requests index (.flagged first) }) ∨
    (∃ index first, choice = .notify index ∧ next = { state with
      notifications := state.notifications + 1
      requests := Function.update state.requests index (.finished first) }) ∨
    (∃ index, choice = .wait index ∧ state.waiters index = .unstarted ∧
      state.MovesWaiter index next) ∨
    (∃ index, choice = .proceed index ∧ state.MovesWaiter index next) ∨
    (∃ index seen, choice = .wake index ∧ state.waiters index = .asleep seen ∧
      seen < state.notifications ∧ next = state.setWaiter index (.woken seen)) ∨
    choice = .other ∧ next = state := by
  -- Each choice needs some stage, and moves the waiter or the request that stands in it.
  unfold step at stepped
  cases choice with
  | request index =>
    left
    dsimp only at stepped
    split at stepped
    next stage => cases stepped; exact ⟨index, _, rfl, stage, rfl⟩
    all_goals cases stepped
  | notify index =>
    right; left
    dsimp only at stepped
    split at stepped
    next first _ => cases stepped; exact ⟨index, first, rfl, rfl⟩
    all_goals cases stepped
  | wait index =>
    right; right; left
    dsimp only at stepped
    split at stepped
    next stage => cases stepped; exact ⟨index, rfl, stage, _, rfl⟩
    next => cases stepped
  | proceed index =>
    right; right; right; left
    exact ⟨index, rfl, proceed_moves stepped⟩
  | wake index =>
    right; right; right; right; left
    dsimp only at stepped
    split at stepped
    next seen stage =>
      split at stepped
      next sent => cases stepped; exact ⟨index, seen, rfl, stage, sent, rfl⟩
      next => cases stepped
    next => cases stepped
  | other =>
    right; right; right; right; right
    cases stepped
    exact ⟨rfl, rfl⟩

/-- A started waiter is moved by nothing but its own steps and its wake-up. -/
theorem step_keeps_waiter (stepped : state.step choice = some (next, label)) {index : Nat}
    (started : state.waiters index ≠ .unstarted) (proceeds : choice ≠ .proceed index)
    (wakes : choice ≠ .wake index) : next.waiters index = state.waiters index := by
  -- The choice is about another waiter, about a request, or about the waker.
  rcases step_effect stepped with ⟨other, first, _, _, rfl⟩ | ⟨other, first, _, rfl⟩ |
    ⟨other, _, fresh, stage, rfl⟩ | ⟨other, rfl, stage, rfl⟩ | ⟨other, seen, rfl, _, _, rfl⟩ |
    ⟨_, rfl⟩
  · rfl
  · rfl
  · exact setWaiter_waiters fun same => started (same ▸ fresh)
  · exact setWaiter_waiters fun same => proceeds (by rw [same])
  · exact setWaiter_waiters fun same => wakes (by rw [same])
  · rfl

/-- A request about to notify stays so until it does. -/
theorem step_keeps_request (stepped : state.step choice = some (next, label)) {index : Nat}
    {first : Bool} (flagged : state.requests index = .flagged first)
    (notifies : choice ≠ .notify index) : next.requests index = .flagged first := by
  -- Only the request itself can notify.
  rcases step_effect stepped with ⟨other, _, _, fresh, rfl⟩ | ⟨other, _, rfl, rfl⟩ |
    ⟨other, _, _, stage, rfl⟩ | ⟨other, _, stage, rfl⟩ | ⟨other, seen, _, _, _, rfl⟩ | ⟨_, rfl⟩
  · have different : index ≠ other := by
      intro same
      rw [same, fresh] at flagged
      cases flagged
    exact (Function.update_of_ne different ..).trans flagged
  · have different : index ≠ other := fun same => notifies (by rw [same])
    exact (Function.update_of_ne different ..).trans flagged
  all_goals exact flagged

/-- Notifications are only ever added, and the flag is never cleared. -/
theorem step_mono (stepped : state.step choice = some (next, label)) :
    state.notifications ≤ next.notifications ∧ (state.requested → next.requested) := by
  rcases step_effect stepped with ⟨_, _, _, _, rfl⟩ | ⟨_, _, _, rfl⟩ | ⟨_, _, _, _, rfl⟩ |
    ⟨_, _, _, rfl⟩ | ⟨_, _, _, _, _, rfl⟩ | ⟨_, rfl⟩
  · exact ⟨Nat.le_refl _, fun _ => rfl⟩
  · exact ⟨Nat.le_succ _, id⟩
  all_goals exact ⟨Nat.le_refl _, id⟩

/-- The step that brings a started waiter nearer to its return, and how far it still is. -/
inductive Nearer (state : ShutdownCoordinator) (index : Nat) : Nat → ShutdownChoice → Prop where
  | created {seen : Nat} :
      state.waiters index = .created seen → Nearer state index 6 (.proceed index)
  | enabled {seen : Nat} :
      state.waiters index = .enabled seen → Nearer state index 5 (.proceed index)
  | awaiting {seen : Nat} :
      state.waiters index = .awaiting seen → Nearer state index 4 (.proceed index)
  | unsent {seen request : Nat} {first : Bool} : state.waiters index = .asleep seen →
      state.requests request = .flagged first → Nearer state index 3 (.notify request)
  | sent {seen : Nat} : state.waiters index = .asleep seen → seen < state.notifications →
      Nearer state index 2 (.wake index)
  | woken {seen : Nat} : state.waiters index = .woken seen → Nearer state index 1 (.proceed index)

/-- Once shutdown was requested, a started waiter has returned or some step brings it nearer. -/
theorem Sound.nearer (sound : state.Sound) (requested : state.requested) {index : Nat}
    (started : state.waiters index ≠ .unstarted) :
    state.waiters index = .returned ∨ ∃ rank due, state.Nearer index rank due := by
  -- A waiter that sleeps waits for the notification of a request that is under way.
  have fits := sound.fits index
  cases stage : state.waiters index with
  | unstarted => exact absurd stage started
  | created seen => exact .inr ⟨_, _, .created stage⟩
  | enabled seen => exact .inr ⟨_, _, .enabled stage⟩
  | awaiting seen => exact .inr ⟨_, _, .awaiting stage⟩
  | asleep seen =>
    right
    rw [stage] at fits
    rcases fits.2 requested with sent | ⟨request, first, flagged⟩
    · exact ⟨_, _, .sent stage sent⟩
    · exact ⟨_, _, .unsent stage flagged⟩
  | woken seen => exact .inr ⟨_, _, .woken stage⟩
  | returned => exact .inl rfl

/-- The step that brings a waiter nearer can be taken. -/
theorem Nearer.enabled_step {index rank : Nat} {due : ShutdownChoice}
    (nearer : state.Nearer index rank due) : due.Ongoing ∧ state.step due ≠ none := by
  -- Every stage that can be due offers its step.
  cases nearer with
  | created stage => exact ⟨trivial, by simp [step, proceed, stage]⟩
  | enabled stage =>
    refine ⟨trivial, ?_⟩
    simp only [step, proceed, stage]
    split <;> simp
  | awaiting stage => exact ⟨trivial, by simp [step, proceed, stage]⟩
  | unsent _ flagged => exact ⟨trivial, by simp [step, flagged]⟩
  | sent stage sent => exact ⟨trivial, by simp [step, stage, sent]⟩
  | woken stage => exact ⟨trivial, by simp [step, proceed, stage]⟩

/-- Polling a future that was notified returns. -/
theorem poll_returned {index seen : Nat} (sent : seen < state.notifications) :
    state.poll index seen = (state.setWaiter index .returned, .returned index) := if_pos sent

/-- Taking that step returns or brings the waiter nearer. -/
theorem Nearer.taken {index rank : Nat} {due : ShutdownChoice} (sound : state.Sound)
    (requested : state.requested) (nearer : state.Nearer index rank due)
    (stepped : state.step due = some (next, label)) :
    label = .returned index ∨ ∃ lower < rank, ∃ then_, next.Nearer index lower then_ := by
  have fits := sound.fits index
  cases nearer with
  | created stage =>
    simp only [step, proceed, stage] at stepped
    cases stepped
    exact .inr ⟨5, by omega, _, .enabled setWaiter_self⟩
  | enabled stage =>
    simp only [step, proceed, stage, requested] at stepped
    cases stepped
    exact .inl rfl
  | awaiting stage =>
    -- The poll returns, or the request that set the flag has yet to notify.
    rw [stage] at fits
    simp only [step, proceed, stage] at stepped
    rcases fits.2 requested with sent | ⟨request, first, flagged⟩
    · rw [poll_returned sent] at stepped
      cases stepped
      exact .inl rfl
    · unfold poll at stepped
      split at stepped
      · cases stepped
        exact .inl rfl
      · cases stepped
        exact .inr ⟨3, by omega, _, .unsent setWaiter_self flagged⟩
  | unsent stage flagged =>
    rw [stage] at fits
    simp only [step, flagged] at stepped
    cases stepped
    exact .inr ⟨2, by omega, _, .sent stage (Nat.lt_succ_of_le fits.1)⟩
  | sent stage sent =>
    simp only [step, stage, sent] at stepped
    cases stepped
    exact .inr ⟨1, by omega, _, .woken setWaiter_self⟩
  | woken stage =>
    rw [stage] at fits
    simp only [step, proceed, stage, poll_returned fits] at stepped
    cases stepped
    exact .inl rfl

/-- A waiter that is awake stays where it is through every step that is not its own. -/
theorem step_keeps_awake (stepped : state.step choice = some (next, label)) {index : Nat}
    (started : state.waiters index ≠ .unstarted)
    (awake : ∀ seen, state.waiters index ≠ .asleep seen) (proceeds : choice ≠ .proceed index) :
    next.waiters index = state.waiters index := by
  refine step_keeps_waiter stepped started proceeds fun wakes => ?_
  rw [wakes] at stepped
  unfold step at stepped
  dsimp only at stepped
  split at stepped
  next seen stage => exact awake seen stage
  next => cases stepped

/-- A sleeping waiter sleeps on, or was woken by a notification. -/
theorem step_keeps_asleep (stepped : state.step choice = some (next, label)) {index seen : Nat}
    (asleep : state.waiters index = .asleep seen) :
    next.waiters index = .asleep seen ∨
      choice = .wake index ∧ next.waiters index = .woken seen := by
  -- Nothing else moves a sleeping waiter.
  by_cases wakes : choice = .wake index
  · rw [wakes] at stepped
    simp only [step, asleep] at stepped
    split at stepped
    · cases stepped
      exact .inr ⟨wakes, setWaiter_self⟩
    · cases stepped
  · left
    rw [← asleep]
    refine step_keeps_waiter stepped (by simp [asleep]) (fun proceeds => ?_) wakes
    rw [proceeds] at stepped
    simp [step, proceed, asleep] at stepped

/-- Any other step leaves that step due, or wakes the waiter. -/
theorem Nearer.kept {index rank : Nat} {due : ShutdownChoice}
    (nearer : state.Nearer index rank due) (stepped : state.step choice = some (next, label))
    (differs : choice ≠ due) :
    (∃ lower < rank, ∃ then_, next.Nearer index lower then_) ∨ next.Nearer index rank due := by
  -- The step that is due is about this waiter or about the request it waits for.
  cases nearer with
  | created stage =>
    have same := step_keeps_awake stepped (by simp [stage]) (by simp [stage]) differs
    exact .inr (.created (same.trans stage))
  | enabled stage =>
    have same := step_keeps_awake stepped (by simp [stage]) (by simp [stage]) differs
    exact .inr (.enabled (same.trans stage))
  | awaiting stage =>
    have same := step_keeps_awake stepped (by simp [stage]) (by simp [stage]) differs
    exact .inr (.awaiting (same.trans stage))
  | unsent stage flagged =>
    rcases step_keeps_asleep stepped stage with asleep | ⟨_, woken⟩
    · exact .inr (.unsent asleep (step_keeps_request stepped flagged differs))
    · exact .inl ⟨1, by omega, _, .woken woken⟩
  | sent stage sent =>
    rcases step_keeps_asleep stepped stage with asleep | ⟨wakes, _⟩
    · exact .inr (.sent asleep (Nat.lt_of_lt_of_le sent (step_mono stepped).1))
    · exact absurd wakes differs
  | woken stage =>
    have same := step_keeps_awake stepped (by simp [stage]) (by simp [stage]) differs
    exact .inr (.woken (same.trans stage))

/-- A waiter that is said to return has returned. -/
theorem returned_of_label {index : Nat}
    (stepped : state.step choice = some (next, .returned index)) :
    next.waiters index = .returned := by
  -- A poll returns only after it has moved the waiter to its end.
  have polled : ∀ {other seen : Nat}, state.poll other seen = (next, .returned index) →
      next.waiters index = .returned := by
    intro other seen result
    unfold poll at result
    split at result
    · cases result
      exact setWaiter_self
    · cases result
  cases choice with
  | proceed other =>
    simp only [step, proceed] at stepped
    split at stepped
    · cases stepped
    · split at stepped <;> cases stepped
      exact setWaiter_self
    · exact polled (Option.some.inj stepped)
    · exact polled (Option.some.inj stepped)
    all_goals cases stepped
  | request other => simp only [step] at stepped; split at stepped <;> cases stepped
  | notify other => simp only [step] at stepped; split at stepped <;> cases stepped
  | wait other => simp only [step] at stepped; split at stepped <;> cases stepped
  | wake other =>
    simp only [step] at stepped
    split at stepped
    · split at stepped <;> cases stepped
    · cases stepped
  | other => cases stepped

/-- What the progress of a waiter rests on, once shutdown was requested. -/
structure Due (index : Nat) (state : ShutdownCoordinator) (rank : Nat) (due : ShutdownChoice) :
    Prop where
  sound : state.Sound
  requested : state.requested
  nearer : state.Nearer index rank due

/-- Each step lets the waiter return, brings it nearer, or leaves the same step due. -/
theorem Due.advance {index rank : Nat} {due : ShutdownChoice} (current : Due index state rank due)
    (stepped : state.step choice = some (next, label)) :
    label = .returned index ∨ (∃ lower < rank, ∃ then_, Due index next lower then_) ∨
      choice ≠ due ∧ Due index next rank due := by
  -- The step taken is the one that is due, or another one.
  have sound := current.sound.step stepped
  have requested := (step_mono stepped).2 current.requested
  by_cases same : choice = due
  · rw [same] at stepped
    rcases current.nearer.taken current.sound current.requested stepped with
      returned | ⟨lower, less, then_, closer⟩
    · exact .inl returned
    · exact .inr (.inl ⟨lower, less, then_, sound, requested, closer⟩)
  · rcases current.nearer.kept stepped same with ⟨lower, less, then_, closer⟩ | kept
    · exact .inr (.inl ⟨lower, less, then_, sound, requested, closer⟩)
    · exact .inr (.inr ⟨same, sound, requested, kept⟩)

/-- Once shutdown was requested, a waiter that has started returns. -/
theorem eventually_returned {execution : Execution step {}}
    (fairness : execution.Fair ShutdownChoice.Ongoing) {time index : Nat}
    (requested : (execution.state time).requested)
    (started : (execution.state time).waiters index ≠ .unstarted) :
    ∃ later ≥ time, (execution.state later).waiters index = .returned := by
  have sound : (execution.state time).Sound := .of_run (execution.run time)
  rcases sound.nearer requested started with returned | ⟨rank, due, nearer⟩
  · exact ⟨time, Nat.le_refl _, returned⟩
  · -- The rank bounds the steps left, and each of them is taken in time.
    have current : Due index (execution.state time) rank due := ⟨sound, requested, nearer⟩
    obtain ⟨later, after, label⟩ := execution.eventually fairness (Due index)
      (fun label => label = .returned index) (fun current => current.nearer.enabled_step)
      (fun current stepped => current.advance stepped) current
    have taken := execution.taken later
    rw [label] at taken
    exact ⟨later + 1, by omega, returned_of_label taken⟩

/-- In every reachable state with shutdown requested, a sleeping waiter has a notification on its
way, and waiters return only then. In every fair execution, each waiter that has started by some
time, before or after the request, returns once shutdown was requested. -/
theorem shutdown_never_missed :
    (∀ labels state, Run Steps {} labels state →
      (∀ index seen, state.waiters index = .asleep seen → state.requested → state.Coming seen) ∧
      ∀ index, state.waiters index = .returned → state.requested) ∧
    ∀ execution : Execution step {}, execution.Fair ShutdownChoice.Ongoing →
      ∀ time index, (execution.state time).requested →
        (execution.state time).waiters index ≠ .unstarted →
          ∃ later ≥ time, (execution.state later).waiters index = .returned := by
  -- Safety is read off the invariant, and fairness gives that every started waiter returns.
  refine ⟨fun labels state run => ⟨fun index seen asleep => ?_, fun index returned => ?_⟩,
    fun execution fairness time index requested started =>
      eventually_returned fairness requested started⟩
  · have fits := (Sound.of_run run).fits index
    rw [asleep] at fits
    exact fits.2
  · have fits := (Sound.of_run run).fits index
    rw [returned] at fits
    exact fits

/-- A request that falls between a waiter's check of the flag and its first poll. -/
private def racingChoices : List ShutdownChoice :=
  [.wait 0, .proceed 0, .proceed 0, .request 0, .proceed 0, .notify 0, .wake 0, .proceed 0]

/-- The state that race ends in. -/
private def racedState : ShutdownCoordinator where
  requested := true
  notifications := 1
  requests := Function.update (Function.update (fun _ => .unstarted) 0 (.flagged true)) 0
    (.finished true)
  waiters := [.created 0, .enabled 0, .awaiting 0, .asleep 0, .woken 0, .returned].foldl
    (fun waiters stage => Function.update waiters 0 stage) fun _ => .unstarted

/-- What the parties see of the race. -/
private def racedLabels : List ShutdownLabel :=
  [.silent, .silent, .silent, .silent, .silent, .requested 0 true, .silent, .returned 0]

/-- The race runs to that state. -/
private theorem raced : evaluate step {} racingChoices = some (racedState, racedLabels) := rfl

/-- Something else may run after the race. -/
private theorem racedState_still : racedState.step .other = some (racedState, .silent) := rfl

/-- Nothing that was started goes on after the race. -/
private theorem racedState_quiet {choice : ShutdownChoice} (ongoing : choice.Ongoing) :
    racedState.step choice = none := by
  -- The two waiters and the two requests of the race are over, and there are no others.
  have waiters : ∀ index, racedState.waiters index = .returned ∨
      racedState.waiters index = .unstarted := by
    intro index
    by_cases first : index = 0
    · exact .inl (by simp [racedState, first])
    · exact .inr (by simp [racedState, first])
  have requests : ∀ index, racedState.requests index = .finished true ∨
      racedState.requests index = .unstarted := by
    intro index
    by_cases first : index = 0
    · exact .inl (by simp [racedState, first])
    · exact .inr (by simp [racedState, first])
  cases choice with
  | notify index => rcases requests index with stage | stage <;> simp [step, stage]
  | proceed index => rcases waiters index with stage | stage <;> simp [step, proceed, stage]
  | wake index => rcases waiters index with stage | stage <;> simp [step, stage]
  | request index => exact ongoing.elim
  | wait index => exact ongoing.elim
  | other => exact ongoing.elim

/-- The conclusion for a request that falls between the check and the poll. -/
theorem shutdown_never_missed_racing :
    ∃ execution : Execution step {}, execution.Fair ShutdownChoice.Ongoing ∧
      (execution.state 4).waiters 0 = .awaiting 0 ∧ (execution.state 4).requested ∧
        ∃ later ≥ 4, (execution.state later).waiters 0 = .returned := by
  -- After the race nothing goes on, so the execution is fair.
  have fairness :
      (Execution.ofEvaluate raced _ _ racedState_still).Fair ShutdownChoice.Ongoing := by
    intro choice ongoing time
    refine ⟨max time racingChoices.length, Nat.le_max_left _ _, .inr ?_⟩
    rw [Execution.ofEvaluate_state raced _ _ racedState_still (Nat.le_max_right _ _)]
    exact racedState_quiet ongoing
  refine ⟨_, fairness, rfl, rfl, ?_⟩
  exact shutdown_never_missed.2 _ fairness 4 0 rfl (by decide +kernel)

end ShutdownCoordinator

end Hotki
