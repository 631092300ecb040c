import Hotki.Base.Run
import Hotki.Engine.DisplayRefresh
import Hotki.Proofs.Engine.Refresh

/-! The HUD the UI was last told of, beside the display cache and the last refresh. -/

namespace Hotki

open Base Script

variable {T : Externals}

/-- The HUD update a message is, if it is one. -/
def MsgToUI.update : MsgToUI T → Option (HudState T × T.Displays)
  | .hudUpdate hud displays => some (hud, displays)
  | _ => none

/-- The HUD updates among messages. -/
def hudUpdates (sent : List (MsgToUI T)) : List (HudState T × T.Displays) :=
  sent.filterMap MsgToUI.update

/-- The HUD updates among more messages. -/
theorem hudUpdates_append (sent more : List (MsgToUI T)) :
    hudUpdates (sent ++ more) = hudUpdates sent ++ hudUpdates more :=
  List.filterMap_append

namespace Core

variable {host : Host T}

/-- Diagnostics are no HUD updates. -/
theorem deliverRefreshDiagnostics_updates (core : Core T) (errors : List String)
    (warnings : List Effect) :
    hudUpdates (core.deliverRefreshDiagnostics host errors warnings).sent =
      hudUpdates core.sent :=
  deliverRefreshDiagnostics_view (fun _ _ _ => rfl) core errors warnings

/-- A plan shows the HUD of the runtime it leaves. -/
theorem buildLoadedRefreshPlan_hud (script : ScriptHost T) (rt : RuntimeState T)
    (cfg : LoadedConfig T) :
    (buildLoadedRefreshPlan script rt cfg).1.hud =
      (buildLoadedRefreshPlan script rt cfg).2.1.hudState := by
  unfold buildLoadedRefreshPlan
  dsimp only
  split <;> rfl

/-- A plan shows the HUD of the runtime it leaves, with a configuration or without. -/
theorem buildRefreshPlan_hud (script : ScriptHost T) (style : T.Style) (rt : RuntimeState T)
    (cfg : Option (LoadedConfig T)) (focus : Option FocusSnapshot) :
    (buildRefreshPlan script style rt cfg focus).1.hud =
      (buildRefreshPlan script style rt cfg focus).2.1.hudState := by
  cases cfg with
  | none => rfl
  | some cfg => exact buildLoadedRefreshPlan_hud script _ cfg

/-- What an operation leaves beside what the UI was told: a success is told with what it caches and
leaves, and a failure neither tells nor caches. -/
structure Tells (before after : Core T) (ok : Bool) : Prop where
  told : hudUpdates after.sent = hudUpdates before.sent ++
    (if ok then [(after.runtime.hudState, after.displaySnapshot)] else [])
  kept : ok = false → after.displaySnapshot = before.displaySnapshot

/-- Diagnostics leave the runtime and the display cache alone. -/
theorem deliverRefreshDiagnostics_kept (core : Core T) (errors : List String)
    (warnings : List Effect) :
    (core.deliverRefreshDiagnostics host errors warnings).runtime = core.runtime ∧
      (core.deliverRefreshDiagnostics host errors warnings).displaySnapshot =
        core.displaySnapshot := by
  obtain ⟨more, readings, framed⟩ := @deliverRefreshDiagnostics_frame _ host core errors warnings
  rw [framed]
  exact ⟨rfl, rfl⟩

/-- A success whose update is on the channel before its diagnostics tells what it leaves. -/
theorem Tells.delivered {before : Core T} {refreshed : Core T} (sent : refreshed.sent = before.sent)
    {hud : HudState T} (shows : hud = refreshed.runtime.hudState) (errors : List String)
    (warnings : List Effect) :
    Tells before ((refreshed.post (.hudUpdate hud refreshed.displaySnapshot)).deliverRefreshDiagnostics
      host errors warnings) true := by
  -- The diagnostics come after the update and are no updates themselves.
  obtain ⟨runtime, displays⟩ := @deliverRefreshDiagnostics_kept _ host
    (refreshed.post (.hudUpdate hud refreshed.displaySnapshot)) errors warnings
  constructor
  · rw [deliverRefreshDiagnostics_updates, runtime, displays, shows, ← sent]
    exact hudUpdates_append refreshed.sent _
  · intro failed
    cases failed

/-- A refresh tells what it leaves. -/
theorem rebindAndRefresh_tells {core next : Core T} {focus : Option FocusSnapshot}
    {result : Except EngineError Bool} (went : core.rebindAndRefresh host focus = (result, next)) :
    Tells core next result.toBool := by
  -- A refresh that is refused has told nothing, and one that goes through has told its HUD.
  unfold rebindAndRefresh at went
  dsimp only at went
  split at went
  · split at went
    · cases went
      exact ⟨(List.append_nil _).symm, fun _ => rfl⟩
    · cases went
      apply Tells.delivered
      · rfl
      · exact buildRefreshPlan_hud host.script host.defaultStyle _ _ focus
  · cases went
    exact ⟨(List.append_nil _).symm, fun _ => rfl⟩

/-- A prepared configuration shows the HUD of its runtime, and nothing was told meanwhile. -/
theorem prepareConfig_tells {core read : Core T} {path : String} {mode : ConfigInstall}
    {result : Except EngineError (Prepared T)}
    (went : core.prepareConfig host path mode = (result, read)) :
    Tells core read false ∧ ∀ prepared, result = .ok prepared →
      prepared.plan.hud = prepared.runtime.hudState := by
  -- Nothing is sent while a configuration is prepared.
  obtain ⟨readings, framed⟩ := @prepareConfig_frame _ host core path mode
  rw [went] at framed
  simp only at framed
  subst framed
  refine ⟨⟨(List.append_nil _).symm, fun _ => rfl⟩, ?_⟩
  intro prepared answered
  subst answered
  unfold prepareConfig at went
  split at went
  · cases went
  · dsimp only at went
    split at went
    · cases went
      exact buildLoadedRefreshPlan_hud host.script _ _
    · cases went

/-- A commit tells what it leaves. -/
theorem commitConfig_tells {core next : Core T} {prepared : Prepared T}
    (shows : prepared.plan.hud = prepared.runtime.hudState) {result : Except EngineError Bool}
    (went : core.commitConfig host prepared = (result, next)) :
    Tells core next result.toBool := by
  -- The update that is sent shows the runtime that is committed.
  unfold commitConfig at went
  dsimp only at went
  split at went
  · split at went
    · cases went
      exact ⟨(List.append_nil _).symm, fun _ => rfl⟩
    · cases went
      apply Tells.delivered
      · rfl
      · exact shows
  · cases went
    exact ⟨(List.append_nil _).symm, fun _ => rfl⟩

end Core

namespace HudMirror

/-- The UI was last told the cached displays and the HUD that the last successful refresh left. -/
def Mirrored (state : HudMirror T) : Prop :=
  ∀ hud displays, (hudUpdates state.core.sent).getLast? = some (hud, displays) →
    displays = state.core.displaySnapshot ∧ state.left = some hud

/-- Whether a choice keeps what the UI was told: a display refresh that publishes finds the HUD it
captured unchanged and room on the channel. -/
def Careful (host : Host T) (state : HudMirror T) : HudChoice T → Prop
  | .start _ => True
  | .resume index => ∀ hud snapshot, state.tasks[index]? = some (.publishing hud snapshot) →
      hud = state.core.runtime.hudState ∧ state.core.uiReady host = true

/-- Careful steps. -/
def CarefulSteps [BEq T.Displays] (host : Host T) (state : HudMirror T) (choice : HudChoice T)
    (next : HudMirror T) : Prop :=
  state.Steps host choice next ∧ state.Careful host choice

/-- What holds in every state. -/
structure Sound (state : HudMirror T) : Prop where
  mirrored : state.Mirrored
  /-- What is to be committed shows the HUD of its runtime. -/
  prepared : ∀ prepared, .committing prepared ∈ state.tasks →
    prepared.plan.hud = prepared.runtime.hudState

end HudMirror

/-- How an operation resumes: it returns having told what it left or having changed nothing, or it
goes on without having done anything the UI is told of. -/
structure HudResumption.Tidy (before : Core T) (resumed : HudResumption T) : Prop where
  told : ∃ ok, Core.Tells before resumed.core ok ∧
    resumed.refreshed = if ok then some resumed.core.runtime.hudState else none
  failed : ∀ ok, resumed.task = .returned ok → ok = false →
    resumed.core.displaySnapshot = before.displaySnapshot
  prepared : ∀ prepared, resumed.task = .committing prepared →
    prepared.plan.hud = prepared.runtime.hudState

namespace HudTask

/-- An operation that neither tells nor leaves anything is tidy. -/
theorem going_tidy {before after : Core T} {task : HudTask T}
    (told : Core.Tells before after false)
    (prepared : ∀ prepared, task = .committing prepared →
      prepared.plan.hud = prepared.runtime.hudState) :
    HudResumption.Tidy before ⟨task, after, none⟩ where
  told := ⟨false, told, rfl⟩
  failed _ _ _ := told.kept rfl
  prepared := prepared

/-- An operation that returns is tidy if it tells what it leaves. -/
theorem returning_tidy {α : Type} {before : Core T} {result : Except EngineError α × Core T}
    (told : Core.Tells before result.2 result.1.toBool) :
    HudResumption.Tidy before (returning result) := by
  -- The operation has told the HUD before its diagnostics, or has failed.
  obtain ⟨answer, after⟩ := result
  cases answer with
  | ok value =>
    refine ⟨⟨true, told, rfl⟩, ?_, ?_⟩
    · intro ok same failed
      cases same
      cases failed
    · intro prepared same
      cases same
  | error error =>
    refine ⟨⟨false, told, rfl⟩, fun _ _ _ => told.kept rfl, ?_⟩
    intro prepared same
    cases same

/-- Every operation resumes tidily, a display refresh if it finds what it captured and room. -/
theorem resume_tidy [BEq T.Displays] {host : Host T} {core : Core T} {task : HudTask T}
    (publishing : ∀ hud snapshot, task = .publishing hud snapshot →
      hud = core.runtime.hudState ∧ core.uiReady host = true)
    (committing : ∀ prepared, task = .committing prepared →
      prepared.plan.hud = prepared.runtime.hudState)
    {resumed : HudResumption T} (went : task.resume host core = some resumed) :
    resumed.Tidy core := by
  have still : Core.Tells core core false := ⟨(List.append_nil _).symm, fun _ => rfl⟩
  have read : Core.Tells core core.tally false := ⟨(List.append_nil _).symm, fun _ => rfl⟩
  cases task with
  | rebinding focus =>
    cases went
    exact going_tidy read fun _ same => by cases same
  | binding focus displays =>
    cases went
    exact returning_tidy (Core.rebindAndRefresh_tells (Prod.ext rfl rfl))
  -- A preparation may warn the user, but publishes no rows.
  | loading path mode =>
    simp only [resume] at went
    split at went
    · rename_i prepared after answered
      cases went
      obtain ⟨told, shows⟩ := Core.prepareConfig_tells answered
      refine going_tidy told fun other same => ?_
      cases same
      exact shows prepared rfl
    · rename_i error after answered
      cases went
      exact going_tidy (Core.prepareConfig_tells answered).1 fun _ same => by cases same
  -- What is published is the plan of the preparation, which the runtime then shows.
  | committing prepared =>
    cases went
    exact returning_tidy (Core.commitConfig_tells (committing prepared rfl) (Prod.ext rfl rfl))
  | polling =>
    cases went
    exact going_tidy read fun _ same => by cases same
  | checking snapshot =>
    simp only [resume] at went
    split at went <;> cases went <;> exact going_tidy still fun _ same => by cases same
  | capturing snapshot =>
    cases went
    exact going_tidy still fun _ same => by cases same
  | publishing hud snapshot =>
    obtain ⟨shows, ready⟩ := publishing hud snapshot rfl
    -- There is room, so what is cached is what is sent.
    have taken : ({ core with displaySnapshot := snapshot } : Core T).trySendUi host
        (.hudUpdate hud snapshot) =
        (.ok (), (({ core with displaySnapshot := snapshot } : Core T).tally.post
          (.hudUpdate hud snapshot))) := if_pos ready
    cases went
    rw [taken]
    refine returning_tidy ⟨?_, fun failed => by cases failed⟩
    rw [shows]
    exact hudUpdates_append core.sent _
  | returned ok => cases went

end HudTask

namespace HudMirror

variable [BEq T.Displays] {host : Host T}

/-- Every careful step keeps the UI told of what is cached and was left. -/
theorem Sound.step {state next : HudMirror T} {choice : HudChoice T}
    (stepped : CarefulSteps host state choice next) (sound : state.Sound) : next.Sound := by
  obtain ⟨stepped, careful⟩ := stepped
  cases choice with
  | start task =>
    simp only [Steps, HudMirror.step] at stepped
    split at stepped
    · rename_i fresh
      cases stepped
      refine ⟨sound.mirrored, fun prepared member => ?_⟩
      rcases List.mem_append.mp member with old | new
      · exact sound.prepared prepared old
      · rw [← List.mem_singleton.mp new] at fresh
        cases fresh
    · cases stepped
  | resume index =>
    -- One task goes on, and the plan or snapshot it carries is known to be that of the core.
    obtain ⟨task, found, rest⟩ := Option.bind_eq_some_iff.mp stepped
    obtain ⟨resumed, went, same⟩ := Option.bind_eq_some_iff.mp rest
    cases same
    have tidy : resumed.Tidy state.core := by
      apply HudTask.resume_tidy _ _ went
      · intro hud snapshot same
        exact careful hud snapshot (by rw [found, same])
      · intro prepared same
        subst same
        exact sound.prepared prepared (List.mem_of_getElem? found)
    constructor
    · obtain ⟨ok, told, refreshed⟩ := tidy.told
      intro hud displays last
      simp only [told.told] at last
      cases ok with
      | false =>
        -- Nothing was told, cached or left.
        rw [if_neg (by simp), List.append_nil] at last
        obtain ⟨cached, left⟩ := sound.mirrored hud displays last
        refine ⟨cached.trans (told.kept rfl).symm, ?_⟩
        rw [refreshed]
        exact left
      | true =>
        rw [if_pos rfl, List.getLast?_concat] at last
        cases last
        refine ⟨rfl, ?_⟩
        rw [refreshed]
        rfl
    · intro prepared member
      rcases List.mem_or_eq_of_mem_set member with old | new
      · exact sound.prepared prepared old
      · exact tidy.prepared prepared new.symm

/-- Whether a step ends an operation that failed. -/
def Fails (state : HudMirror T) (choice : HudChoice T) (next : HudMirror T) : Prop :=
  ∃ index, choice = .resume index ∧ state.tasks[index]? ≠ some (.returned false) ∧
    next.tasks[index]? = some (.returned false)

/--
In every run of refreshes, installs and display refreshes, interleaved in any way at their awaits,
in which every step is careful, the UI was last told the cached displays and the HUD that the last
successful refresh left; and an operation that fails leaves the cache as it was.
-/
theorem hud_mirrored (host : Host T) (api : T.Api) (displays : T.Displays)
    {choices : List (HudChoice T)} {state : HudMirror T}
    (run : Run (CarefulSteps host) { core := .initial host api displays } choices state) :
    state.Mirrored ∧ ∀ choice next, CarefulSteps host state choice next →
      state.Fails choice next → next.core.displaySnapshot = state.core.displaySnapshot := by
  -- The last update is that of the operation that returned last.
  have sound : state.Sound := run.invariant Sound
    (fun stepped before => before.step stepped) (by
      refine ⟨fun hud displays last => ?_, fun prepared member => by cases member⟩
      cases last)
  refine ⟨sound.mirrored, ?_⟩
  rintro _ next ⟨stepped, careful⟩ ⟨index, rfl, _, failed⟩
  obtain ⟨task, found, rest⟩ := Option.bind_eq_some_iff.mp stepped
  obtain ⟨resumed, went, same⟩ := Option.bind_eq_some_iff.mp rest
  cases same
  have tidy : resumed.Tidy state.core := by
    apply HudTask.resume_tidy _ _ went
    · intro hud snapshot same
      exact careful hud snapshot (by rw [found, same])
    · intro prepared same
      subst same
      exact sound.prepared prepared (List.mem_of_getElem? found)
  have ended : resumed.task = .returned false := by
    have inside := (List.getElem?_eq_some_iff.mp found).1
    rw [List.getElem?_set_self inside] at failed
    exact Option.some.inj failed
  exact tidy.failed false ended rfl

/-- A host that shows one row, whose displays change after a reading and whose UI is full at one. -/
private def rowHost (changes full : Nat) : Host Core.registryExternals where
  script := rendererHost fun _ _ =>
    .ok ([⟨⟨∅, .a⟩, "act", .handler ⟨2⟩, none, {}, false, none⟩], false)
  matching := ⟨fun items => items.length, fun matcher _ => matcher, fun matcher => (false, matcher),
    id, fun _ _ => none, fun _ _ _ => []⟩
  hotkeys := registryApi fun _ => none
  defaultStyle := false
  load _ _ := .ok ⟨⟨0, 0, none⟩, false, (), none, ∅⟩
  uiAccepts reading := reading != full
  displays reading := if reading < changes then (0 : Nat) else (1 : Nat)
  order _ := ⟨.stored _, .stored _, .stored _⟩

/-- The state before any operation under such a host. -/
private def rowStart (changes full : Nat) : HudMirror Core.registryExternals :=
  { core := .initial (rowHost changes full) ({} : RegistryApi) (0 : Nat) }

/-- What is seen of a state: the displays and the number of rows the UI was last told, the cache,
and the number of rows that were left. -/
private def glimpse (state : HudMirror Core.registryExternals) : List (Option Nat) :=
  let last := (hudUpdates state.core.sent).getLast?
  let cached : Nat := state.core.displaySnapshot
  [last.map Prod.snd, last.map fun update => update.1.rows.length, some cached,
    state.left.map fun hud => hud.rows.length]

/-- What is seen of a state whose UI was told the cached displays and the HUD that was left. -/
private theorem Mirrored.seen {state : HudMirror Core.registryExternals} (mirrored : state.Mirrored)
    {displays rows cached : Nat} {left : Option Nat}
    (seen : glimpse state = [some displays, some rows, some cached, left]) :
    displays = cached ∧ left = some rows := by
  -- The snapshot seen is the one of the last update, if there was any.
  simp only [glimpse, List.cons.injEq, and_true] at seen
  obtain ⟨shown, shownRows, same, sameLeft⟩ := seen
  cases last : (hudUpdates state.core.sent).getLast? with
  | none =>
    rw [last] at shown
    cases shown
  | some update =>
    obtain ⟨hud, told⟩ := update
    obtain ⟨current, kept⟩ := mirrored hud told last
    rw [last] at shown shownRows
    rw [kept] at sameLeft
    cases shown
    cases shownRows
    exact ⟨current.trans (Option.some.inj same), sameLeft.symm⟩

/--
A display refresh that finds the channel full leaves its displays in the cache, so that the next one
sends nothing; and one that is overtaken by an install sends the HUD of before the install.
-/
theorem hud_mirrored_broken :
    (∃ choices state, Run (Steps (rowHost 4 5)) (rowStart 4 5) choices state ∧ ¬ state.Mirrored) ∧
    ∃ choices state, Run (Steps (rowHost 0 99)) (rowStart 0 99) choices state ∧
      ¬ state.Mirrored := by
  -- Two runs: a channel that is full at the first refresh, and an install that overtakes a refresh.
  constructor
  · let choices : List (HudChoice Core.registryExternals) := [.start (.rebinding none), .resume 0,
      .resume 0, .start .polling, .resume 1, .resume 1, .resume 1, .resume 1, .start .polling,
      .resume 2, .resume 2]
    obtain ⟨state, seen, run⟩ := Run.of_foldlM (HudMirror.step (rowHost 4 5)) (rowStart 4 5)
      choices glimpse [some 0, some 0, some 1, some 0] (by decide +kernel)
    refine ⟨choices, state, run, fun mirrored => ?_⟩
    cases (mirrored.seen seen).1
  · let choices : List (HudChoice Core.registryExternals) := [.start .polling, .resume 0, .resume 0,
      .resume 0, .start (.loading "config.luau" .resetFocus), .resume 1, .resume 1, .resume 0]
    obtain ⟨state, seen, run⟩ := Run.of_foldlM (HudMirror.step (rowHost 0 99)) (rowStart 0 99)
      choices glimpse [some 1, some 0, some 1, some 1] (by decide +kernel)
    refine ⟨choices, state, run, fun mirrored => ?_⟩
    cases (mirrored.seen seen).2

/-- The conclusion at a run in which the displays changed and one display refresh told the UI. -/
theorem hud_mirrored_once :
    ∃ choices state, Run (CarefulSteps (rowHost 0 99)) (rowStart 0 99) choices state ∧
      (hudUpdates state.core.sent).length = 1 ∧ state.Mirrored := by
  let choices : List (HudChoice Core.registryExternals) :=
    [.start .polling, .resume 0, .resume 0, .resume 0, .resume 0]
  have told : ∃ state, Run (CarefulSteps (rowHost 0 99)) (rowStart 0 99) choices state ∧
      (hudUpdates state.core.sent).length = 1 := by
    -- Nothing comes between the capture and the publication.
    exact ⟨_, .cons ⟨rfl, trivial⟩ (.cons ⟨rfl, fun _ _ same => by cases same⟩
      (.cons ⟨rfl, fun _ _ same => by cases same⟩ (.cons ⟨rfl, fun _ _ same => by cases same⟩
      (.cons ⟨rfl, fun _ _ same => by cases same; exact ⟨rfl, rfl⟩⟩ (.nil _))))), by decide⟩
  obtain ⟨state, run, sent⟩ := told
  exact ⟨choices, state, run, sent, (hud_mirrored _ ({} : RegistryApi) (0 : Nat) run).1⟩

end HudMirror

end Hotki
