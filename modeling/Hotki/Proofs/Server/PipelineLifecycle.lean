import Hotki.Proofs.Server.EventPipeline

/-! The lifecycle of the event pipeline: one start, one end, and nothing afterwards. -/

namespace Hotki

open Base

variable {Message : Type} {encodes : Message → Bool}

namespace EventPipeline

variable {pipeline next : EventPipeline Message} {label : PipelineLabel Message}

/-- What is left when the run of the pipeline has ended. -/
structure Ended (pipeline : EventPipeline Message) : Prop where
  stopped : pipeline.lifecycle = .stopped
  joined : ∀ tasks, pipeline.tasks = some tasks → tasks.fanout = .ended ∧ tasks.heartbeat = .ended
  /-- No call awaits the tasks any more. -/
  left : ∀ index : Nat, pipeline.stops[index]? ≠ some StopStage.joining

/-- A call that is set to another stage does not await the tasks. -/
private theorem joining_of_set {stops : List StopStage} {stage : StopStage} {position index : Nat}
    (further : stage ≠ .joining)
    (found : (stops.set position stage)[index]? = some StopStage.joining) :
    position ≠ index ∧ stops[index]? = some StopStage.joining := by
  -- The call that is set is another one, or it does not join any more.
  by_cases equal : position = index
  · subst equal
    by_cases within : position < stops.length
    · rw [List.getElem?_set_self within] at found
      exact absurd (Option.some.inj found) further
    · rw [List.getElem?_eq_none (by simpa using within)] at found
      cases found
  · exact ⟨equal, (List.getElem?_set_ne equal).symm.trans found⟩

/-- A call that has just begun does not await the tasks. -/
private theorem joining_of_append {stops : List StopStage} {index : Nat}
    (found : (stops ++ [.clearing])[index]? = some StopStage.joining) :
    stops[index]? = some StopStage.joining := by
  rcases Nat.lt_trichotomy index stops.length with within | same | beyond
  · rw [List.getElem?_append_left within] at found
    exact found
  · subst same
    simp at found
  · rw [List.getElem?_eq_none (by simp; omega)] at found
    cases found

/-- Setting a call to another stage leaves no call that awaits the tasks. -/
private theorem left_set {stops : List StopStage} {stage : StopStage}
    (left : ∀ index : Nat, stops[index]? ≠ some StopStage.joining) (further : stage ≠ .joining)
    (position index : Nat) : (stops.set position stage)[index]? ≠ some StopStage.joining := by
  exact fun found => left index (joining_of_set further found).2

/-- An ended run stays ended, and shows no more of itself. -/
theorem Ended.step (ended : pipeline.Ended) (stepped : pipeline.Steps encodes label next) :
    next.Ended ∧ label.runs = false := by
  obtain ⟨choice, stepped⟩ := stepped
  cases choice with
  | connect | request =>
    cases stepped
    exact ⟨⟨ended.stopped, ended.joined, ended.left⟩, rfl⟩
  | connection index =>
    simp only [EventPipeline.step, connected] at stepped
    split at stepped
    · split at stepped <;>
        (cases stepped; exact ⟨⟨ended.stopped, ended.joined, ended.left⟩, rfl⟩)
    · cases stepped
      exact ⟨⟨ended.stopped, ended.joined, ended.left⟩, rfl⟩
    · cases stepped
  -- A stopped pipeline is not started again.
  | start =>
    simp only [EventPipeline.step, ended.stopped] at stepped
    cases stepped
    exact ⟨ended, rfl⟩
  | offer event =>
    -- The receiver went with the task, or with the call that found none.
    have refuses : pipeline.accepting = false := by
      unfold accepting
      split
      · rw [ended.stopped]
        rfl
      · rename_i tasks running
        rw [(ended.joined tasks running).1]
        rfl
    simp only [EventPipeline.step, refuses] at stepped
    cases stepped
    exact ⟨ended, rfl⟩
  | fanout move =>
    obtain ⟨tasks, running, moved⟩ := Option.bind_eq_some_iff.mp stepped
    unfold forwardEvents at moved
    rw [(ended.joined tasks running).1] at moved
    cases moved
  | heartbeat beat move =>
    obtain ⟨tasks, running, moved⟩ := Option.bind_eq_some_iff.mp stepped
    unfold broadcastHeartbeats at moved
    rw [(ended.joined tasks running).2] at moved
    cases moved
  -- A further call joins no task, since there is none left.
  | stop =>
    cases stepped
    refine ⟨⟨ended.stopped, ended.joined, fun index found => ?_⟩, rfl⟩
    exact ended.left index (joining_of_append found)
  | stopping index =>
    simp only [EventPipeline.step, EventPipeline.stopped] at stepped
    split at stepped
    · cases stepped
      exact ⟨⟨ended.stopped, ended.joined, left_set ended.left (by simp) index⟩, rfl⟩
    · simp only [ended.stopped] at stepped
      cases stepped
      exact ⟨⟨rfl, ended.joined, left_set ended.left (by simp) index⟩, rfl⟩
    · rename_i found
      exact absurd found (ended.left index)
    · cases stepped

/-- How the calls that shut the pipeline down stand to each other: at most one awaits the tasks, and
only once the lifecycle has been taken. -/
structure Claims (pipeline : EventPipeline Message) : Prop where
  taken : ∀ index : Nat, pipeline.stops[index]? = some StopStage.joining →
    pipeline.lifecycle = .stopped
  single : ∀ first second : Nat, pipeline.stops[first]? = some StopStage.joining →
    pipeline.stops[second]? = some StopStage.joining → first = second

/-- Before its first step nobody has claimed the pipeline. -/
theorem Claims.initial : ({} : EventPipeline Message).Claims :=
  { taken := fun _ found => by cases found
    single := fun _ _ found => by cases found }

/-- Setting a call to a stage at which it does not await the tasks keeps the claims. -/
private theorem Claims.set (claims : pipeline.Claims) {stage : StopStage} {position : Nat}
    (further : stage ≠ .joining) (stops : next.stops = pipeline.stops.set position stage)
    (lifecycle : pipeline.lifecycle = .stopped → next.lifecycle = .stopped) : next.Claims :=
  ⟨fun index found => lifecycle (claims.taken index (joining_of_set further (stops ▸ found)).2),
    fun first second left right => claims.single first second
      (joining_of_set further (stops ▸ left)).2 (joining_of_set further (stops ▸ right)).2⟩

/-- Every step keeps the claims. -/
theorem Claims.step (claims : pipeline.Claims) (stepped : pipeline.Steps encodes label next) :
    next.Claims := by
  cases stepped.course with
  | keeps lifecycle stops =>
    exact ⟨fun index found => lifecycle.trans (claims.taken index (stops ▸ found)),
      fun first second left right => claims.single first second (stops ▸ left) (stops ▸ right)⟩
  | starts waits _ stops =>
    refine ⟨fun index found => ?_, fun first second left right =>
      claims.single first second (stops ▸ left) (stops ▸ right)⟩
    cases waits.symm.trans (claims.taken index (stops ▸ found))
  | calls lifecycle stops =>
    exact ⟨fun index found =>
        lifecycle.trans (claims.taken index (joining_of_append (stops ▸ found))),
      fun first second left right => claims.single first second
        (joining_of_append (stops ▸ left)) (joining_of_append (stops ▸ right))⟩
  | clears _ lifecycle stops | finds _ lifecycle stops | joins _ _ _ lifecycle stops =>
    exact claims.set (by simp) stops lifecycle.trans
  | drops _ _ lifecycle stops => exact claims.set (by simp) stops fun _ => lifecycle
  | takes index runs lifecycle stops =>
    -- Nobody awaited the tasks while they ran, so the call that takes them is alone.
    have alone : ∀ other : Nat, next.stops[other]? = some StopStage.joining → index = other := by
      intro other found
      by_contra differs
      rw [stops, List.getElem?_set_ne differs] at found
      cases runs.symm.trans (claims.taken other found)
    exact ⟨fun _ _ => lifecycle, fun first second left right =>
      (alone first left).symm.trans (alone second right)⟩

/-- A pipeline that is no longer ready stays so, and is not started. -/
theorem Steps.unready (stepped : pipeline.Steps encodes label next)
    (unready : pipeline.lifecycle ≠ .ready) : next.lifecycle ≠ .ready ∧ label ≠ .started := by
  cases stepped.course with
  | keeps lifecycle _ _ other => exact ⟨fun same => unready (lifecycle.symm.trans same), other⟩
  | starts waits => exact absurd waits unready
  | calls lifecycle | clears _ lifecycle | finds _ lifecycle | joins _ _ _ lifecycle =>
    exact ⟨fun same => unready (lifecycle.symm.trans same), by simp⟩
  | drops _ _ lifecycle | takes _ _ lifecycle => exact ⟨by simp [lifecycle], by simp⟩

/-- A step that starts the pipeline leaves it started. -/
theorem Steps.started (stepped : pipeline.Steps encodes .started next) :
    next.lifecycle ≠ .ready := by
  generalize same : PipelineLabel.started = label at stepped
  cases stepped.course with
  | keeps _ _ _ other => exact absurd same.symm other
  | starts _ lifecycle => simp [lifecycle]
  | calls | clears | drops | takes | finds | joins => cases same

/-- A step that ends the run leaves it ended. -/
theorem ended_of_stopped (valid : pipeline.Valid) (claims : pipeline.Claims)
    (stepped : pipeline.Steps encodes (.stopped true) next) : next.Ended := by
  -- The pipeline was never started, or its tasks have been joined.
  generalize same : PipelineLabel.stopped true = label at stepped
  cases stepped.course with
  | keeps _ _ _ _ other => exact absurd same.symm (other true)
  | starts | calls | clears | takes | finds => cases same
  | drops index waits lifecycle stops tasks =>
    refine ⟨lifecycle, fun running found => ?_, fun other found => ?_⟩
    · cases (valid.ready waits).symm.trans (tasks.symm.trans found)
    · rw [stops] at found
      cases waits.symm.trans (claims.taken other (joining_of_set (by simp) found).2)
  | joins index joining joined lifecycle stops tasks =>
    refine ⟨lifecycle.trans (claims.taken index joining), fun running found => ?_,
      fun other found => ?_⟩
    · rw [tasks] at found
      rw [found] at joined
      exact running.ended_of_joined joined
    · rw [stops] at found
      obtain ⟨differs, also⟩ := joining_of_set (by simp) found
      exact differs (claims.single index other joining also)

end EventPipeline

/--
The pipeline runs at most once, and leaves nothing behind.

In every run of the pipeline, with any number of connections that start it and of calls that shut it
down at once, it is started at most once; and once a call has returned that ended its run, or found
that it would never start, no event is accepted, nothing more is delivered to any client, it is not
started any more, and no other call returns having ended it.
-/
theorem pipeline_runs_once {labels : List (PipelineLabel Message)} {last : EventPipeline Message}
    (run : Run (EventPipeline.Steps encodes) {} labels last) :
    (∀ before after, labels = before ++ .started :: after → .started ∉ after) ∧
    ∀ before after, labels = before ++ .stopped true :: after →
      ∀ label ∈ after, label.runs = false := by
  refine ⟨?_, ?_⟩
  · rintro before after rfl again
    obtain ⟨middle, _, later⟩ := run.split
    cases later with
    | cons stepped later =>
      refine (later.trace_invariant (fun past state =>
        state.lifecycle ≠ .ready ∧ .started ∉ past) ?_ []
        ⟨stepped.started, List.not_mem_nil⟩).2 again
      rintro past state label next stepped ⟨unready, before⟩
      obtain ⟨still, other⟩ := stepped.unready unready
      refine ⟨still, fun member => ?_⟩
      rcases List.mem_append.mp member with earlier | same
      · exact before earlier
      · exact other (List.mem_singleton.mp same).symm
  · rintro before after rfl
    obtain ⟨middle, earlier, later⟩ := run.split
    have sound := earlier.invariant (fun state => state.Valid ∧ state.Claims)
      (fun stepped held => ⟨held.1.step stepped, held.2.step stepped⟩) ⟨.initial, .initial⟩
    cases later with
    | cons stepped later =>
      -- The run has ended, and every later step leaves it so.
      have ended := EventPipeline.ended_of_stopped sound.1 sound.2 stepped
      refine (later.trace_invariant (fun past state =>
        state.Ended ∧ ∀ label ∈ past, label.runs = false) ?_ [] ⟨ended, by simp⟩).2
      rintro past state label next stepped ⟨ended, before⟩
      obtain ⟨still, silent⟩ := ended.step stepped
      refine ⟨still, fun other member => ?_⟩
      rcases List.mem_append.mp member with earlier | same
      · exact before other earlier
      · exact List.mem_singleton.mp same ▸ silent

/-- The conclusion at a run whose pipeline is shut down twice, the second time in vain. -/
theorem pipeline_runs_once_stopped :
    ∃ before after last, Run (EventPipeline.Steps fun _ => true) {}
        (before ++ .stopped true :: after) last ∧
      after = ([.quiet, .stopped false] : List (PipelineLabel Nat)) ∧
      ∀ label ∈ after, label.runs = false := by
  -- The second shutdown finds that there is nothing left to stop.
  obtain ⟨last, run⟩ := EventPipeline.run_of_choices
    [.start, .stop, .stop, .stopping 0, .stopping 0, .fanout .cancel, .request,
      .heartbeat 3 .proceed, .stopping 0, .stopping 1, .stopping 1]
    ([.started, .quiet, .quiet, .quiet, .quiet, .quiet, .quiet, .quiet] ++ .stopped true ::
      [.quiet, .stopped false]) (by decide +kernel)
  exact ⟨_, _, last, run, rfl, (pipeline_runs_once run).2 _ _ rfl⟩

end Hotki
