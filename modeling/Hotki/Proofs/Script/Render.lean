import Hotki.Proofs.Keycode.Chord
import Hotki.Script.Render
import Mathlib.Data.List.Chain

/-! Which frames a render keeps, and which binding a chord resolves to. -/

namespace Hotki

open Base

namespace Script

variable {T : Externals} {host : ScriptHost T} {ctx : ModeCtx}

/-- Frames rendered one after the other, each with the runtime the frame below it left. -/
inductive RendersTo (host : ScriptHost T) (ctx : ModeCtx) :
    LoadedConfig T → List ModeFrame → List ModeFrame → LoadedConfig T → Prop where
  | nil (cfg : LoadedConfig T) : RendersTo host ctx cfg [] [] cfg
  | cons {cfg next last : LoadedConfig T} {frame : ModeFrame} {view : ModeView}
      {warnings : List Effect} {above rendered : List ModeFrame} :
      renderMode host cfg frame ctx = (.ok (view, warnings), next) →
      RendersTo host ctx next above rendered last →
      RendersTo host ctx cfg (frame :: above) (withView frame view :: rendered) last

/-- Rendering changes nothing of a frame but its bindings and its capture flag. -/
theorem RendersTo.same_frames {cfg last : LoadedConfig T} {frames rendered : List ModeFrame}
    (renders : RendersTo host ctx cfg frames rendered last) :
    rendered.map (fun frame => (frame.title, frame.closure, frame.enteredVia)) =
      frames.map fun frame => (frame.title, frame.closure, frame.enteredVia) := by
  induction renders with
  | nil => rfl
  | cons _ _ ih => simp [ih, withView]

/-- What a successful render makes of a stack: it keeps a prefix, for a reason. -/
structure KeepsPrefix (host : ScriptHost T) (ctx : ModeCtx) (cfg : LoadedConfig T)
    (stack rendered : List ModeFrame) (kept dropped : List ModeFrame) (reached : LoadedConfig T) :
    Prop where
  /-- The frames kept are the lower part of the stack. -/
  split : stack = kept ++ dropped
  /-- The resulting stack is the kept frames as rendered in this pass. -/
  renders : RendersTo host ctx cfg kept rendered reached
  /-- The root stays. -/
  root : stack ≠ [] → kept ≠ []
  /-- Every frame above the root has a binding. -/
  bound : ∀ frame ∈ rendered.tail, frame.rendered ≠ []
  /-- Every frame entered through a parent's entry finds it among the parent's bindings. -/
  entered : rendered.IsChain fun parent child =>
    ∀ entry, child.enteredVia = some entry → entryExists parent entry = true
  /-- The frame above the prefix has lost its entry, or rendered to nothing. -/
  reason : ∀ next ∈ dropped.head?,
    (∃ parent ∈ rendered.getLast?, ∃ entry, next.enteredVia = some entry ∧
      entryExists parent entry = false) ∨
    ∃ view warnings after, renderMode host reached next ctx = (.ok (view, warnings), after) ∧
      view.bindings = []

/-- A child is no orphan exactly when the entry it came through, if any, exists. -/
theorem orphaned_eq_false {parent child : ModeFrame} : orphaned parent child = false ↔
    ∀ entry, child.enteredVia = some entry → entryExists parent entry = true := by
  unfold orphaned
  cases child.enteredVia <;> simp

/-- An orphan came through an entry that does not exist any more. -/
theorem orphaned_eq_true {parent child : ModeFrame} : orphaned parent child = true ↔
    ∃ entry, child.enteredVia = some entry ∧ entryExists parent entry = false := by
  unfold orphaned
  cases child.enteredVia <;> simp

/-- A render that succeeds above already rendered frames keeps a prefix of the rest. -/
theorem renderFrames_keeps {cfg last : LoadedConfig T} {warnings allWarnings : List Effect}
    {below stack result : List ModeFrame}
    (rendered : renderFrames host ctx cfg warnings below stack = (.ok allWarnings, result, last))
    (bound : ∀ frame ∈ below.tail, frame.rendered ≠ [])
    (linked : below.IsChain fun parent child => orphaned parent child = false)
    (next : ∀ parent ∈ below.getLast?, ∀ child ∈ stack.head?, orphaned parent child = false) :
    ∃ kept dropped added reached, stack = kept ++ dropped ∧ result = below ++ added ∧
      RendersTo host ctx cfg kept added reached ∧ (below = [] → stack ≠ [] → kept ≠ []) ∧
      (∀ frame ∈ result.tail, frame.rendered ≠ []) ∧
      (result.IsChain fun parent child => orphaned parent child = false) ∧
      ∀ child ∈ dropped.head?, (∃ parent ∈ result.getLast?, orphaned parent child = true) ∨
        ∃ view warnings after, renderMode host reached child ctx = (.ok (view, warnings), after) ∧
          view.bindings = [] := by
  -- The induction is on the frames still to render; those below already meet every condition.
  induction stack generalizing cfg warnings below with
  | nil =>
    cases rendered
    exact ⟨[], [], [], last, rfl, by simp, .nil last, by simp, bound, linked, by simp⟩
  | cons frame above ih =>
    unfold renderFrames at rendered
    split at rendered
    · cases rendered
    · rename_i view local_ after answered
      simp only at rendered
      split at rendered
      · -- A frame above the root that rendered to nothing is dropped with all above it.
        rename_i empty
        cases rendered
        simp only [Bool.and_eq_true, List.isEmpty_iff, Bool.not_eq_true',
          ← Bool.not_eq_true] at empty
        refine ⟨[], frame :: above, [], cfg, rfl, by simp, .nil cfg, fun root => ?_, bound, linked,
          fun child first => ?_⟩
        · exact absurd root empty.2
        · cases first
          exact .inr ⟨view, local_, last, answered, empty.1⟩
      · rename_i visible
        -- Above the root a frame that is kept shows something.
        have nonempty : below ≠ [] → (withView frame view).rendered ≠ [] := by
          intro inner hollow
          exact visible (by simp [hollow, inner])
        have boundNow : ∀ other ∈ (below ++ [withView frame view]).tail, other.rendered ≠ [] := by
          intro other member
          cases below with
          | nil => cases member
          | cons root rest =>
            rcases List.mem_append.mp member with old | new
            · exact bound other old
            · rw [List.mem_singleton.mp new]
              exact nonempty (by simp)
        have linkedNow : (below ++ [withView frame view]).IsChain
            fun parent child => orphaned parent child = false := by
          refine linked.append (List.isChain_singleton _) fun parent member child first => ?_
          cases first
          exact next parent member frame rfl
        split at rendered
        · -- The frame was the top of the stack, so all of it is kept.
          cases rendered
          exact ⟨[frame], [], [withView frame view], last, rfl, rfl,
            .cons answered (.nil last), by simp, boundNow, linkedNow, by simp⟩
        · rename_i child rest
          split at rendered
          · -- The frame above is an orphan of the fresh render, and goes with all above it.
            rename_i lost
            cases rendered
            refine ⟨[frame], child :: rest, [withView frame view], last, rfl, rfl,
              .cons answered (.nil last), by simp, boundNow, linkedNow, fun other first => ?_⟩
            cases first
            exact .inl ⟨withView frame view, by simp, lost⟩
          · rename_i present
            have nextNow : ∀ parent ∈ (below ++ [withView frame view]).getLast?,
                ∀ other ∈ (child :: rest).head?, orphaned parent other = false := by
              intro parent isLast other first
              simp only [List.getLast?_concat, Option.mem_def, Option.some.injEq] at isLast
              cases first
              rw [← isLast]
              simpa using present
            -- The frame is kept and the rest goes on above it.
            obtain ⟨kept, dropped, added, reached, parts, grown, renders, _, boundAll, linkedAll,
              reason⟩ := ih rendered boundNow linkedNow nextNow
            exact ⟨frame :: kept, dropped, withView frame view :: added, reached,
              by rw [parts]; rfl, by rw [grown]; simp, .cons answered renders, by simp, boundAll,
              linkedAll, reason⟩

/-- A successful pass over the frames keeps a prefix of the stack. -/
theorem renderFrames_keepsPrefix {cfg last : LoadedConfig T} {warnings : List Effect}
    {stack result : List ModeFrame}
    (rendered : renderFrames host ctx cfg [] [] stack = (.ok warnings, result, last)) :
    ∃ kept dropped reached, KeepsPrefix host ctx cfg stack result kept dropped reached := by
  -- What the pass keeps are the frames up to the first that is orphaned or hollow.
  obtain ⟨kept, dropped, added, reached, parts, grown, renders, root, bound, linked, reason⟩ :=
    renderFrames_keeps rendered (by simp) List.isChain_nil (by simp)
  rw [List.nil_append] at grown
  subst grown
  refine ⟨kept, dropped, reached, parts, renders, root rfl, bound, ?_, fun next first => ?_⟩
  · exact linked.imp fun parent child whole => orphaned_eq_false.mp whole
  · rcases reason next first with ⟨parent, isLast, lost⟩ | hollow
    · exact .inl ⟨parent, isLast, orphaned_eq_true.mp lost⟩
    · exact .inr hollow

/-- What a pass leaves that keeps frames: the first one dropped was asked too, but for an orphan. -/
def leftBy (host : ScriptHost T) (ctx : ModeCtx) (rendered dropped : List ModeFrame)
    (reached : LoadedConfig T) : LoadedConfig T :=
  match rendered.getLast?, dropped.head? with
  | some parent, some child =>
    if orphaned parent child then reached else (renderMode host reached child ctx).2
  | _, _ => reached

/-- A pass above already rendered frames succeeds when it keeps a part of the rest for a reason. -/
theorem RendersTo.pass {cfg reached : LoadedConfig T} {kept added : List ModeFrame}
    (renders : RendersTo host ctx cfg kept added reached) (kept_some : kept ≠ [])
    (warnings : List Effect) (below dropped : List ModeFrame)
    (bound : ∀ frame ∈ (below ++ added).tail, frame.rendered ≠ [])
    (linked : added.IsChain fun parent child => orphaned parent child = false)
    (reason : ∀ child ∈ dropped.head?,
      (∃ parent ∈ added.getLast?, orphaned parent child = true) ∨
        ∃ view warnings after, renderMode host reached child ctx = (.ok (view, warnings), after) ∧
          view.bindings = []) :
    ∃ all, renderFrames host ctx cfg warnings below (kept ++ dropped) =
      (.ok all, below ++ added, leftBy host ctx added dropped reached) := by
  -- The induction is on the frames kept; the last of them decides over the first one dropped.
  induction renders generalizing warnings below with
  | nil => exact absurd rfl kept_some
  | @cons cfg next last frame view local_ above rendered answered rest ih =>
    -- A frame that is kept is the root, or shows something.
    have visible : ((withView frame view).rendered.isEmpty && !below.isEmpty) = false := by
      cases below with
      | nil => simp
      | cons root others =>
        have nonempty := bound (withView frame view) (by simp)
        simp [nonempty]
    rw [List.cons_append, renderFrames]
    simp only [answered, visible, Bool.false_eq_true, if_false]
    cases above with
    | nil =>
      cases rest
      cases dropped with
      | nil => exact ⟨_, rfl⟩
      | cons child others =>
        show ∃ all, (if orphaned (withView frame view) child then _ else
          renderFrames host ctx next (warnings ++ local_) (below ++ [withView frame view])
            (child :: others)) = (.ok all, below ++ [withView frame view],
              if orphaned (withView frame view) child then next
              else (renderMode host next child ctx).2)
        by_cases lost : orphaned (withView frame view) child = true
        · -- The first frame dropped has lost its entry.
          rw [if_pos lost, if_pos lost]
          exact ⟨_, rfl⟩
        · -- Or its renderer is asked, and it has no bindings.
          rcases reason child rfl with
            ⟨parent, isLast, gone⟩ | ⟨hollow, local', after, empty, unbound⟩
          · cases isLast
            exact absurd gone lost
          · have dropped : ((withView child hollow).rendered.isEmpty &&
                !(below ++ [withView frame view]).isEmpty) = true := by
              simp [withView, unbound]
            rw [if_neg lost, if_neg lost, renderFrames]
            simp only [empty, dropped, if_true]
            exact ⟨_, rfl⟩
    | cons second others =>
      cases rest with
      | @cons _ between _ _ view' local' _ rendered' answered' rest' =>
        -- The next frame kept has its entry in this one.
        have present : orphaned (withView frame view) second = false := by
          have chain := linked
          rw [List.isChain_cons_cons] at chain
          exact chain.1
        simp only [List.cons_append, present, Bool.false_eq_true, if_false]
        obtain ⟨all, passed⟩ := ih (by simp) (warnings ++ local_)
          (below ++ [withView frame view]) (by simpa using bound) linked.tail
          (by simpa using reason)
        exact ⟨all, by simpa [leftBy] using passed⟩

/-- Keeping a prefix of a stack for a reason is what a successful pass does. -/
theorem KeepsPrefix.pass {cfg reached : LoadedConfig T}
    {stack rendered kept dropped : List ModeFrame} (nonempty : stack ≠ [])
    (keeps : KeepsPrefix host ctx cfg stack rendered kept dropped reached) :
    ∃ warnings, renderFrames host ctx cfg [] [] stack =
      (.ok warnings, rendered, leftBy host ctx rendered dropped reached) := by
  -- Rendering the kept frames again in the same order reaches the same place.
  have passed := keeps.renders.pass (keeps.root nonempty) [] [] dropped keeps.bound
    (keeps.entered.imp fun parent child whole => orphaned_eq_false.mpr whole) (by
      intro child first
      rcases keeps.reason child first with ⟨parent, isLast, lost⟩ | hollow
      · exact .inl ⟨parent, isLast, orphaned_eq_true.mpr lost⟩
      · exact .inr hollow)
  rw [keeps.split]
  exact passed

/-- A successful render is a successful pass over the frames and a settled runtime. -/
theorem renderStack_ok {cfg last : LoadedConfig T} {stack result : List ModeFrame}
    {state : RenderedState T} {warnings : List Effect}
    (rendered : renderStack host cfg stack ctx = (.ok (state, warnings), result, last)) :
    ∃ reached, renderFrames host ctx cfg [] [] stack = (.ok warnings, result, reached) ∧
      state = renderedState reached.baseStyle result ∧
        synchronizeCallbacks host reached = (.ok (), last) := by
  -- The pass succeeds and then the callbacks settle.
  unfold renderStack renderStackInner at rendered
  cases pass : renderFrames host ctx cfg [] [] stack with
  | mk outcome rest =>
    obtain ⟨frames, reached⟩ := rest
    rw [pass] at rendered
    cases outcome with
    | error error =>
      simp only at rendered
      split at rendered <;> cases rendered
    | ok passed =>
      simp only at rendered
      split at rendered
      · cases rendered
      · rename_i settled
        cases rendered
        exact ⟨reached, rfl, rfl, settled⟩

/-- What the renderers of a stack give when they are asked: the frames kept, as rendered. -/
def Yields (host : ScriptHost T) (ctx : ModeCtx) (cfg : LoadedConfig T)
    (stack rendered : List ModeFrame) : Prop :=
  ∃ kept dropped reached, KeepsPrefix host ctx cfg stack rendered kept dropped reached ∧
    (host.synchronizeCallbacks (leftBy host ctx rendered dropped reached).vm).1 = .ok ()

/-- A render succeeds just if the renderers of its stack give it frames. -/
theorem yields_iff {cfg : LoadedConfig T} {stack rendered : List ModeFrame}
    (nonempty : stack ≠ []) : Yields host ctx cfg stack rendered ↔
      ∃ state warnings last,
        renderStack host cfg stack ctx = (.ok (state, warnings), rendered, last) := by
  -- The pass is made of the renderers' answers, in both directions.
  constructor
  · rintro ⟨kept, dropped, reached, keeps, settles⟩
    obtain ⟨warnings, passed⟩ := keeps.pass nonempty
    unfold renderStack renderStackInner synchronizeCallbacks
    simp only [passed, settles]
    exact ⟨_, _, _, rfl⟩
  · rintro ⟨state, warnings, last, answered⟩
    obtain ⟨left, pass, _, settled⟩ := renderStack_ok answered
    obtain ⟨kept, dropped, reached, keeps⟩ := renderFrames_keepsPrefix pass
    obtain ⟨_, again⟩ := keeps.pass nonempty
    rw [pass] at again
    cases again
    exact ⟨kept, dropped, reached, keeps, congrArg Prod.fst settled⟩

/-- A pass over the frames never makes the stack longer. -/
theorem length_renderFrames_le (host : ScriptHost T) (ctx : ModeCtx) (cfg : LoadedConfig T)
    (warnings : List Effect) (below stack : List ModeFrame) :
    (renderFrames host ctx cfg warnings below stack).2.1.length ≤ below.length + stack.length := by
  -- The induction is on the frames; each is kept or ends the pass.
  induction stack generalizing cfg warnings below with
  | nil => exact Nat.le_refl _
  | cons frame above ih =>
    unfold renderFrames
    split
    · simp
    · rename_i view local_ next _
      simp only
      split
      · simp
      · split
        · simp
        · rename_i child rest _
          split
          · simp only [List.length_append, List.length_cons, List.length_nil]
            omega
          · have further := ih next (warnings ++ local_) (below ++ [withView frame view])
            simp only [List.length_append, List.length_cons, List.length_nil] at further ⊢
            omega

/-- The stack a render leaves is the one its pass over the frames leaves. -/
theorem renderStack_stack (host : ScriptHost T) (cfg : LoadedConfig T) (stack : List ModeFrame)
    (ctx : ModeCtx) : (renderStack host cfg stack ctx).2.1 =
      (renderFrames host ctx cfg [] [] stack).2.1 := by
  -- Settling the callbacks leaves the stack.
  have inner : (renderStackInner host cfg stack ctx).2.1 =
      (renderFrames host ctx cfg [] [] stack).2.1 := by
    unfold renderStackInner
    split <;> rename_i pass <;> rw [pass]
  rw [← inner]
  unfold renderStack
  split
  rename_i rendered
  rw [rendered]
  split <;> rfl

/-- Rendering one frame changes nothing of a configuration but the state of its runtime. -/
theorem renderMode_config (host : ScriptHost T) (cfg : LoadedConfig T) (frame : ModeFrame)
    (ctx : ModeCtx) : ∃ vm, (renderMode host cfg frame ctx).2 = { cfg with vm } := by
  unfold renderMode synchronizeCallbacks
  split
  · exact ⟨_, rfl⟩
  · simp only
    split <;> rename_i settled <;> rw [Prod.mk.injEq] at settled <;> exact ⟨_, settled.2.symm⟩

/-- A pass over the frames changes nothing of a configuration but the state of its runtime. -/
theorem renderFrames_config (host : ScriptHost T) (ctx : ModeCtx) (cfg : LoadedConfig T)
    (warnings : List Effect) (below stack : List ModeFrame) :
    ∃ vm, (renderFrames host ctx cfg warnings below stack).2.2 = { cfg with vm } := by
  -- The induction is on the frames still to render, each asked by the runtime left so far.
  induction stack generalizing cfg warnings below with
  | nil => exact ⟨cfg.vm, rfl⟩
  | cons frame above ih =>
    unfold renderFrames
    have same := renderMode_config host cfg frame ctx
    split <;> rename_i answered <;> rw [answered] at same
    · exact same
    · simp only
      split
      · exact same
      · split
        · exact same
        · split
          · exact same
          · rename_i next _ _ _ _ _
            obtain ⟨vm, left⟩ := same
            obtain ⟨final, last⟩ := ih next _ _
            exact ⟨final, last.trans (by rw [show next = { cfg with vm } from left])⟩

/-- A render changes nothing of a configuration but the state of its runtime. -/
theorem renderStack_config (host : ScriptHost T) (cfg : LoadedConfig T) (stack : List ModeFrame)
    (ctx : ModeCtx) : ∃ vm, (renderStack host cfg stack ctx).2.2 = { cfg with vm } := by
  -- After the pass the callbacks are settled once more, whatever the pass answered.
  obtain ⟨vm, same⟩ := renderFrames_config host ctx cfg [] [] stack
  have inner : (renderStackInner host cfg stack ctx).2.2 = { cfg with vm } := by
    rw [← same]
    unfold renderStackInner
    split <;> rename_i pass <;> rw [pass]
  unfold renderStack synchronizeCallbacks
  cases rendered : renderStackInner host cfg stack ctx with
  | mk result rest =>
    obtain ⟨frames, reached⟩ := rest
    rw [rendered] at inner
    simp only at inner ⊢
    subst inner
    split <;> rename_i settled <;> rw [Prod.mk.injEq] at settled <;> exact ⟨_, settled.2.symm⟩

/-- A pass over the frames leaves the style of the configuration alone. -/
theorem renderFrames_baseStyle (host : ScriptHost T) (ctx : ModeCtx) (cfg : LoadedConfig T)
    (warnings : List Effect) (below stack : List ModeFrame) :
    (renderFrames host ctx cfg warnings below stack).2.2.baseStyle = cfg.baseStyle := by
  obtain ⟨_, same⟩ := renderFrames_config host ctx cfg warnings below stack
  rw [same]

/--
A successful render keeps a prefix of the stack with the root, rendered in this pass.

Its frames above the root all have bindings and their entries, the first frame dropped lacks one
or the other, and the returned state is read off the kept frames.
-/
theorem renderStack_truncates {cfg last : LoadedConfig T} {stack result : List ModeFrame}
    {state : RenderedState T} {warnings : List Effect}
    (rendered : renderStack host cfg stack ctx = (.ok (state, warnings), result, last)) :
    (∃ kept dropped reached, KeepsPrefix host ctx cfg stack result kept dropped reached) ∧
      state.bindings = flattenBindings result ∧
      state = renderedState cfg.baseStyle result := by
  -- All parts are read off the successful pass.
  obtain ⟨reached, pass, described, _⟩ := renderStack_ok rendered
  have style := renderFrames_baseStyle host ctx cfg [] [] stack
  rw [pass] at style
  rw [style] at described
  exact ⟨renderFrames_keepsPrefix pass, by rw [described]; rfl, described⟩

/-- A host whose renderers are the given functions of their context and which runs nothing else. -/
def rendererHost (renderers : CallbackRef → ModeCtx → Except String (List Binding × Bool)) :
    ScriptHost T where
  callRenderer vm func ctx := (renderers func ctx, vm)
  callHandler vm _ _ _ := (.ok ⟨[], false⟩, vm)
  callSelection vm _ _ _ _ := (.ok ⟨[], false⟩, vm)
  callProvider vm _ _ := (.ok [], vm)
  synchronizeCallbacks vm := (.ok (), vm)

/-- Externals that carry no information, with a flag for the style. -/
def plainExternals : Externals := ⟨Unit, Bool, Nat, Nat, Unit⟩

/-- The same for a child that renders to nothing: it goes, and the grandchild goes with it. -/
theorem renderStack_truncates_empty_child :
    let entry : Binding := ⟨⟨∅, .a⟩, "child", .mode ⟨1, 1, none⟩, some 1, {}, false, none⟩
    let root : ModeFrame := ⟨"root", ⟨0, 0, none⟩, none, [], false⟩
    let child : ModeFrame := ⟨"child", ⟨1, 1, none⟩, some (⟨∅, .a⟩, 1), [], false⟩
    let cfg : LoadedConfig plainExternals := ⟨⟨0, 0, none⟩, false, (), none, ∅⟩
    let host : ScriptHost plainExternals :=
      rendererHost fun func _ => .ok (if func = 0 then [entry] else [], false)
    let result := [{ root with rendered := [entry] }]
    (∃ kept dropped reached,
      KeepsPrefix host ⟨none, true, 2⟩ cfg [root, child, child] result kept dropped reached) ∧
      (renderedState false result : RenderedState plainExternals).bindings =
        flattenBindings result ∧
      (renderedState false result : RenderedState plainExternals) =
        renderedState cfg.baseStyle result := by
  -- The second frame renders to nothing, so the third is dropped with it.
  intro entry root child cfg host result
  have rendered : renderStack host cfg [root, child, child] ⟨none, true, 2⟩ =
      (.ok (renderedState false result, []), result, cfg) := rfl
  exact renderStack_truncates rendered

section Precedence

/-- The first binding of a chord in a list. -/
def firstOf (chord : Chord) (bindings : List Binding) : Option Binding :=
  bindings.find? fun binding => decide (binding.chord = chord)

/-- The binding a chord should resolve to, given what each frame emitted from the top down. -/
def precedence (chord : Chord) : List (List Binding) → Option Binding
  | [] => none
  | top :: ancestors =>
    (firstOf chord top).or
      (ancestors.findSome? fun emitted =>
        (firstOf chord emitted).filter fun binding => binding.flags.isGlobal)

/-- A stack whose frames hold the bindings they emitted, without the duplicates. -/
def dedupedStack (cfg : LoadedConfig T) (stack : List (ModeFrame × List Binding)) :
    List ModeFrame :=
  stack.map fun entry => { entry.1 with rendered := (dedupModeBindings cfg entry.2).1 }

/-- Comparing printed chords is comparing chords. -/
theorem chordText_beq (binding : Binding) (chord : Chord) :
    (chordText binding == chord.display) = decide (binding.chord = chord) := by
  by_cases same : binding.chord = chord
  · simp [same, chordText]
  · have apart : chordText binding ≠ chord.display := fun alike =>
      same (Chord.display_injective alike)
    simp [same, apart]

/-- Deduplication by the printed chord does not change the first binding of any chord. -/
theorem firstOf_firsts (chord : Chord) (bindings : List Binding) :
    firstOf chord (firsts chordText bindings) = firstOf chord bindings := by
  have found := @find?_firsts _ _ _ chordText bindings chord.display
  simpa only [firstOf, ← chordText_beq] using found

/-- Among bindings of different chords, filtering first or looking up first is the same. -/
theorem firstOf_filter {bindings : List Binding} (distinct : (bindings.map chordText).Nodup)
    (chord : Chord) (permitted : Binding → Bool) :
    firstOf chord (bindings.filter permitted) = (firstOf chord bindings).filter permitted := by
  induction bindings with
  | nil => rfl
  | cons binding rest ih =>
    simp only [List.map_cons, List.nodup_cons] at distinct
    by_cases same : binding.chord = chord
    · cases allowed : permitted binding with
      | true => simp [firstOf, same, allowed, Option.filter]
      | false =>
        -- The only binding of the chord is filtered out, and none of the rest has it.
        have absent : firstOf chord (rest.filter permitted) = none := by
          rw [firstOf, List.find?_eq_none]
          intro other member
          have apart : other.chord ≠ chord := fun alike => distinct.1
            (List.mem_map.mpr ⟨other, List.mem_of_mem_filter member, by
              rw [chordText, chordText, alike, same]⟩)
          simpa using apart
        rw [List.filter_cons_of_neg (by simp [allowed]), absent]
        simp [firstOf, same, allowed, Option.filter]
    · have ahead := ih distinct.2
      cases allowed : permitted binding with
      | true => simpa [firstOf, same, allowed] using ahead
      | false => simpa [firstOf, same] using ahead

/-- Flattening lists no chord twice. -/
theorem nodup_flattenBindings (stack : List ModeFrame) :
    ((flattenBindings stack).map Prod.fst).Nodup := by
  unfold flattenBindings
  split
  · exact List.nodup_nil
  · rename_i top _
    rw [List.map_map]
    -- Bindings with different printed chords have different chords.
    refine List.Nodup.of_map Chord.display ?_
    rw [List.map_map]
    exact nodup_map_firsts _

/-- A chord that rendered frames offer: the top one binds it, or one below does for all above. -/
def Offers (stack : List ModeFrame) (chord : Chord) : Prop :=
  (∃ top ∈ stack.getLast?, ∃ binding ∈ top.rendered, binding.chord = chord) ∨
    ∃ frame ∈ stack.dropLast, ∃ binding ∈ frame.rendered,
      binding.flags.isGlobal = true ∧ binding.chord = chord

/-- Flattening lists the chords that the frames offer. -/
theorem mem_flattenBindings {stack : List ModeFrame} {chord : Chord} :
    chord ∈ (flattenBindings stack).map Prod.fst ↔ Offers stack chord := by
  -- Dropping the later bindings of a chord drops no chord.
  have listed : ∀ bindings : List Binding,
      chord ∈ ((firsts chordText bindings).map fun binding => (binding.chord, binding)).map
          Prod.fst ↔ ∃ binding ∈ bindings, binding.chord = chord := by
    intro bindings
    have printed := @mem_map_firsts _ _ _ chordText bindings chord.display
    rw [List.map_map]
    simpa [chordText, Chord.display_injective.eq_iff] using printed
  rcases List.eq_nil_or_concat' stack with none_ | ⟨ancestors, top, whole⟩
  · subst none_
    simp [flattenBindings, Offers]
  · subst whole
    simp only [flattenBindings, Offers, List.getLast?_concat, List.dropLast_concat, listed]
    simp only [List.mem_append, List.mem_flatMap, List.mem_reverse, List.mem_filter]
    constructor
    · rintro ⟨binding, own | ⟨frame, below, held, global⟩, same⟩
      · exact .inl ⟨top, rfl, binding, own, same⟩
      · exact .inr ⟨frame, below, binding, held, global, same⟩
    · rintro (⟨frame, isTop, binding, own, same⟩ | ⟨frame, below, binding, held, global, same⟩)
      · cases isTop
        exact ⟨binding, .inl own, same⟩
      · exact ⟨binding, .inr ⟨frame, below, held, global⟩, same⟩

/-- A chord resolves by precedence to what the frames emitted. -/
theorem resolveBinding_dedupedStack (cfg : LoadedConfig T)
    (stack : List (ModeFrame × List Binding)) (style : T.Style) (chord : Chord) :
    resolveBinding (renderedState style (dedupedStack cfg stack)) chord =
      precedence chord (stack.map Prod.snd).reverse := by
  rcases List.eq_nil_or_concat' stack with none_ | ⟨ancestors, top, whole⟩
  · subst none_
    rfl
  · subst whole
    have read : ∀ bindings : List Binding,
        ((bindings.map fun binding => (binding.chord, binding)).find? fun entry =>
          decide (entry.1 = chord)).map Prod.snd = firstOf chord bindings := by
      intro bindings
      rw [List.find?_map, Option.map_map]
      exact Option.map_id'
    have inherited : ∀ frame : ModeFrame × List Binding,
        firstOf chord ((dedupModeBindings cfg frame.2).1.filter fun binding =>
          binding.flags.isGlobal) =
        (firstOf chord frame.2).filter fun binding => binding.flags.isGlobal := by
      intro frame
      show firstOf chord ((firsts chordText frame.2).filter _) = _
      rw [firstOf_filter (nodup_map_firsts _)]
      exact congrArg _ (firstOf_firsts chord frame.2)
    simp only [resolveBinding, renderedState, flattenBindings, dedupedStack, List.map_append,
      List.map_cons, List.map_nil, List.getLast?_concat, List.dropLast_concat]
    rw [read, firstOf_firsts]
    -- The top frame comes first, then the ancestors from the nearest one down to the root.
    rw [firstOf, List.find?_append, ← firstOf, List.find?_flatMap]
    rw [List.reverse_append, List.reverse_singleton, List.singleton_append, precedence]
    congr 1
    · exact firstOf_firsts chord top.2
    · rw [← List.map_reverse, ← List.map_reverse, List.findSome?_map, List.findSome?_map]
      congr 1
      funext frame
      exact inherited frame

/-- A listed binding is what its chord resolves to. -/
theorem resolveBinding_of_mem {style : T.Style} {stack : List ModeFrame}
    {entry : Chord × Binding} (listed : entry ∈ flattenBindings stack) :
    resolveBinding (renderedState style stack) entry.1 = some entry.2 := by
  have distinct := nodup_flattenBindings stack
  unfold resolveBinding
  cases found : (renderedState style stack).bindings.find? fun other =>
      decide (other.1 = entry.1) with
  | none =>
    have missed := List.find?_eq_none.mp found entry listed
    simp at missed
  | some other =>
    -- No other binding is listed under the same chord.
    have same : other.1 = entry.1 := by simpa using List.find?_some found
    have member : other ∈ flattenBindings stack := List.mem_of_find?_eq_some found
    rw [List.inj_on_of_nodup_map distinct member listed same]
    rfl

/--
Flattening lists each chord once and gives it the binding that precedence demands.

The HUD shows the bindings that are not hidden, each under a chord that resolves to it.
-/
theorem flattening_precedence (cfg : LoadedConfig T) (stack : List (ModeFrame × List Binding))
    (style : T.Style) :
    let frames := dedupedStack cfg stack
    let state := renderedState style frames
    (state.bindings.map Prod.fst).Nodup ∧
    (∀ chord, resolveBinding state chord = precedence chord (stack.map Prod.snd).reverse) ∧
    state.hudRows = (state.bindings.filter fun entry => !entry.2.flags.hidden).map hudRow ∧
    ∀ row ∈ state.hudRows, ∃ binding, resolveBinding state row.chord = some binding ∧
      binding.flags.hidden = false ∧ row = hudRow (row.chord, binding) := by
  -- Distinctness and precedence were shown, and a row is a visible entry.
  refine ⟨nodup_flattenBindings _, resolveBinding_dedupedStack cfg stack style, rfl, ?_⟩
  intro row shown
  obtain ⟨entry, listed, same⟩ := List.mem_map.mp shown
  obtain ⟨member, visible⟩ := List.mem_filter.mp listed
  subst same
  exact ⟨entry.2, resolveBinding_of_mem member, by simpa using visible, rfl⟩

end Precedence

end Script

end Hotki
