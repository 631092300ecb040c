import Hotki.Base.Run
import Hotki.Script.Callback
import Mathlib.Data.List.Perm.Basic

/-! No callback is lost between its creation, its promotion and its release. -/

namespace Hotki.Script

open Base

variable {Vm Stash Handle : Type}

/-- How the retained runtime treats its handles: each is new when it is given, is retained until it
is released, and is stale only when it is not retained. -/
structure RetainedRuntime.Lawful (runtime : RetainedRuntime Vm Stash Handle)
    (given retains : Vm → Handle → Prop) : Prop where
  fresh : ∀ vm stash, ¬ given vm (runtime.retain vm stash).1
  gives : ∀ vm stash handle, given (runtime.retain vm stash).2 handle ↔
    given vm handle ∨ handle = (runtime.retain vm stash).1
  retained : ∀ vm stash handle, retains (runtime.retain vm stash).2 handle ↔
    retains vm handle ∨ handle = (runtime.retain vm stash).1
  remembers : ∀ vm handle other, given (runtime.release vm handle).2 other ↔ given vm other
  released : ∀ vm handle other, (runtime.release vm handle).1 = .ok () →
    (retains (runtime.release vm handle).2 other ↔ retains vm other ∧ other ≠ handle)
  refused : ∀ vm handle other error, (runtime.release vm handle).1 = .error error →
    (retains (runtime.release vm handle).2 other ↔ retains vm other)
  stale : ∀ vm handle, (runtime.release vm handle).1 = .error .staleHandle → ¬ retains vm handle

namespace Callbacks

/-- The handles that a synchronization took and has still to release. -/
def taken (state : Callbacks Vm Stash Handle) : List Handle :=
  state.call.elim [] Synchronizing.released

/-- The handles that are queued for release, by the registry or by a synchronization. -/
def queue (state : Callbacks Vm Stash Handle) : List Handle :=
  state.registry.released ++ state.taken

/-- Whether a callback is queued for promotion, by the registry or by a synchronization. -/
def Awaits (state : Callbacks Vm Stash Handle) (id : Nat) : Prop :=
  id ∈ state.registry.pending ∨ ∃ call, state.call = some call ∧
    (id ∈ call.pending ∨ call.held = some (id, false))

variable [DecidableEq Handle] (given retains : Vm → Handle → Prop)

/-- What holds of one callback. -/
structure Sound (state : Callbacks Vm Stash Handle) (id : Nat)
    (inner : CallbackInner Stash Handle) : Prop where
  /-- A pending callback has no handle yet, and its promotion is not forgotten. -/
  pending : ∀ stash, inner.target = some (.pending stash) → inner.handle = none ∧ state.Awaits id
  retained : ∀ handle, inner.target = some (.retained handle) → inner.handle = some handle
  owned : 0 < inner.owners → inner.target.isSome = true
  unowned : inner.owners = 0 → inner.target.isSome = true → state.holds id = true
  /-- Its handle is queued or released, and that once, if and only if it was dropped. -/
  counted : ∀ handle, inner.handle = some handle →
    (state.queue ++ state.releases).count handle = if inner.target.isSome then 0 else 1
  /-- The runtime retains its handle until it is released. -/
  kept : ∀ handle, inner.handle = some handle →
    given state.vm handle ∧ (handle ∉ state.releases → retains state.vm handle)

/-- What holds of all callbacks. -/
structure Intact (state : Callbacks Vm Stash Handle) : Prop where
  sound : ∀ id inner, state.inners[id]? = some inner → state.Sound given retains id inner
  /-- No two callbacks share a handle. -/
  distinct : ∀ (left right : Nat) (leftInner rightInner : CallbackInner Stash Handle) (handle : Handle),
    state.inners[left]? = some leftInner →
    state.inners[right]? = some rightInner → leftInner.handle = some handle →
    rightInner.handle = some handle → left = right
  /-- Every handle that is queued or was released belongs to a callback. -/
  queued : ∀ handle ∈ state.queue ++ state.releases, ∃ (id : Nat) (inner : CallbackInner Stash Handle),
    state.inners[id]? = some inner ∧ inner.handle = some handle

/-- What a step needs so that nothing is forgotten: a release does not fail, unless its handle is
stale. -/
def Careful (runtime : RetainedRuntime Vm Stash Handle) (state : Callbacks Vm Stash Handle) :
    CallbackOp Stash → Prop
  | .release => ∀ handle rest, state.taken = handle :: rest → ∀ message,
      (runtime.release state.vm handle).1 ≠ .error (.other message)
  | _ => True

/-- Steps that are careful. -/
def CarefulSteps (runtime : RetainedRuntime Vm Stash Handle) (state : Callbacks Vm Stash Handle)
    (op : CallbackOp Stash) (next : Callbacks Vm Stash Handle) : Prop :=
  state.Steps runtime op next ∧ state.Careful runtime op

variable {given retains} {runtime : RetainedRuntime Vm Stash Handle}
  {state next : Callbacks Vm Stash Handle} {id : Nat} {inner : CallbackInner Stash Handle}

/-- A callback that is as it was stays sound if its handle is where it was. -/
theorem Sound.frame (sound : state.Sound given retains id inner)
    (awaits : state.Awaits id → next.Awaits id)
    (holds : state.holds id = true → next.holds id = true) (counts : ∀ handle, inner.handle = some handle →
      (next.queue ++ next.releases).count handle = (state.queue ++ state.releases).count handle)
    (kept : ∀ handle, inner.handle = some handle → given state.vm handle ∧
      (handle ∉ state.releases → retains state.vm handle) →
      given next.vm handle ∧ (handle ∉ next.releases → retains next.vm handle)) :
    next.Sound given retains id inner where
  pending stash target := ⟨(sound.pending stash target).1, awaits (sound.pending stash target).2⟩
  retained := sound.retained
  owned := sound.owned
  unowned none present := holds (sound.unowned none present)
  counted handle has := (counts handle has).trans (sound.counted handle has)
  kept handle has := kept handle has (sound.kept handle has)

/-- An element of a list with one more is an earlier one or the new one. -/
theorem getElem?_concat_cases {Element : Type} {elements : List Element} {last found : Element}
    {index : Nat} (read : (elements ++ [last])[index]? = some found) :
    elements[index]? = some found ∨ index = elements.length ∧ found = last := by
  rcases Nat.lt_trichotomy index elements.length with before | same | after
  · rw [List.getElem?_append_left before] at read
    exact .inl read
  · subst same
    rw [List.getElem?_concat_length] at read
    exact .inr ⟨rfl, (Option.some.inj read).symm⟩
  · rw [List.getElem?_eq_none (by rw [List.length_append, List.length_singleton]; omega)] at read
    cases read

/-- An element of a list with one replaced is the new one or stands elsewhere. -/
theorem getElem?_set_cases {Element : Type} {elements : List Element} {fresh found : Element}
    {index other : Nat} (read : (elements.set index fresh)[other]? = some found) :
    (other = index ∧ found = fresh) ∨ (other ≠ index ∧ elements[other]? = some found) := by
  by_cases same : other = index
  · subst same
    have inside := (List.getElem?_eq_some_iff.mp read).1
    rw [List.length_set] at inside
    rw [List.getElem?_set_self inside] at read
    exact .inl ⟨rfl, (Option.some.inj read).symm⟩
  · rw [List.getElem?_set_ne (Ne.symm same)] at read
    exact .inr ⟨same, read⟩

/-- The callbacks stay intact when one of them changes and keeps its handle. -/
theorem Intact.modify (intact : state.Intact given retains) (found : state.inners[id]? = some inner)
    {changed : CallbackInner Stash Handle} (inners : next.inners = state.inners.set id changed)
    (handle : changed.handle = inner.handle)
    (others : ∀ other otherInner, other ≠ id → state.inners[other]? = some otherInner →
      next.Sound given retains other otherInner)
    (sound : next.Sound given retains id changed)
    (queue : ∀ handle ∈ next.queue ++ next.releases,
      handle ∈ state.queue ++ state.releases ∨ changed.handle = some handle) :
    next.Intact given retains := by
  have inside := (List.getElem?_eq_some_iff.mp found).1
  have here : next.inners[id]? = some changed := by
    rw [inners, List.getElem?_set_self inside]
  -- Whoever has a handle afterwards had it before.
  have before : ∀ (other : Nat) (otherInner : CallbackInner Stash Handle) (handle : Handle),
      next.inners[other]? = some otherInner → otherInner.handle = some handle →
      ∃ earlier : CallbackInner Stash Handle, state.inners[other]? = some earlier ∧
        earlier.handle = some handle := by
    intro other otherInner handle' read has
    rw [inners] at read
    rcases getElem?_set_cases read with ⟨rfl, rfl⟩ | ⟨_, kept⟩
    · exact ⟨inner, found, handle ▸ has⟩
    · exact ⟨otherInner, kept, has⟩
  refine ⟨fun other otherInner read => ?_, ?_, fun handle' member => ?_⟩
  · rw [inners] at read
    rcases getElem?_set_cases read with ⟨rfl, rfl⟩ | ⟨apart, kept⟩
    · exact sound
    · exact others other otherInner apart kept
  · intro left right leftInner rightInner handle' leftRead rightRead leftHas rightHas
    obtain ⟨first, firstRead, firstHas⟩ := before left leftInner handle' leftRead leftHas
    obtain ⟨second, secondRead, secondHas⟩ := before right rightInner handle' rightRead rightHas
    exact intact.distinct left right first second handle' firstRead secondRead firstHas secondHas
  · rcases queue handle' member with earlier | own
    · obtain ⟨other, otherInner, read, has⟩ := intact.queued handle' earlier
      by_cases same : other = id
      · subst same
        rw [found] at read
        cases read
        exact ⟨other, changed, here, handle.trans has⟩
      · refine ⟨other, otherInner, ?_, has⟩
        rw [inners, List.getElem?_set_ne (Ne.symm same)]
        exact read
    · exact ⟨id, changed, here, own⟩

/-- Dropping the body of a callback queues its handle, if it has one. -/
theorem Intact.dropInner (intact : state.Intact given retains)
    (found : state.inners[id]? = some inner) (present : inner.target.isSome = true) :
    (state.dropInner id { inner with owners := 0 }).Intact given retains := by
  have sound := intact.sound id inner found
  -- The queue has one handle more, that of the callback, if that has one.
  have queue : ∀ handle, (state.dropInner id { inner with owners := 0 }).queue.count handle =
      state.queue.count handle + if inner.handle = some handle then 1 else 0 := by
    intro handle
    cases target : inner.target with
    | none =>
      rw [target] at present
      cases present
    | some held =>
      cases held with
      | pending stash =>
        have none := (sound.pending stash target).1
        simp only [Callbacks.dropInner, Callbacks.queue, taken, none]
        rfl
      | retained own =>
        have has := sound.retained own target
        simp only [Callbacks.dropInner, Callbacks.queue, taken, has, List.count_append,
          List.count_singleton, Option.some.injEq, beq_iff_eq]
        omega
  refine intact.modify found rfl rfl (fun other otherInner apart read => ?_) ?_ ?_
  · refine (intact.sound other otherInner read).frame (fun awaits => ?_) (fun held => held) (fun handle has => ?_)
      (fun _ _ kept => kept)
    · cases inner.target with
      | none => exact awaits
      | some held => cases held <;> exact awaits
    · rw [List.count_append, List.count_append, queue, if_neg, Nat.add_zero]
      · rfl
      · intro own
        exact apart (intact.distinct other id otherInner inner handle read found has own)
  -- The dropped callback has no target left, so only its handle counts.
  · refine ⟨fun stash target => ?_, fun handle target => ?_, fun owned => ?_, fun _ target => ?_,
      fun handle has => ?_, fun handle has => sound.kept handle has⟩
    · cases target
    · cases target
    · cases owned
    · cases target
    · have before := sound.counted handle has
      rw [present, if_pos rfl] at before
      rw [List.count_append, queue, if_pos has]
      rw [List.count_append] at before
      show _ + List.count handle state.releases = 1
      omega
  -- What is queued is its handle, or was queued before.
  · intro handle member
    by_cases own : inner.handle = some handle
    · exact .inr own
    · have counted := List.count_pos_iff.mpr member
      rw [List.count_append, queue, if_neg own, Nat.add_zero] at counted
      rw [← List.count_pos_iff, List.count_append]
      exact .inl counted

/-- Counting references keeps the callbacks intact, and drops the body after the last one. -/
theorem Intact.setOwners (intact : state.Intact given retains)
    (found : state.inners[id]? = some inner) (present : inner.target.isSome = true)
    (owners : Nat) : (state.setOwners id inner owners).Intact given retains := by
  -- Either references remain, or the body goes with the last of them.
  unfold Callbacks.setOwners
  dsimp only
  split
  · rename_i last
    simp only [Bool.and_eq_true, decide_eq_true_eq, Bool.not_eq_true'] at last
    obtain ⟨rfl, _⟩ := last
    exact intact.dropInner found present
  · rename_i more
    have sound := intact.sound id inner found
    refine intact.modify found rfl rfl (fun other otherInner _ read => ?_) ?_ (fun _ => .inl)
    · exact (intact.sound other otherInner read).frame (fun awaits => awaits) (fun held => held)
        (fun _ _ => rfl) (fun _ _ kept => kept)
    · refine ⟨sound.pending, sound.retained, fun _ => present, fun none _ => ?_, sound.counted,
        sound.kept⟩
      simp only [Bool.and_eq_true, decide_eq_true_eq, Bool.not_eq_true', not_and,
        Bool.not_eq_false] at more
      exact more none

/-- A new callback awaits its promotion. -/
theorem Intact.create (intact : state.Intact given retains) (stash : Stash) :
    Intact given retains { state with
      inners := state.inners ++ [{ target := some (.pending stash) }]
      registry := { state.registry with
        pending := state.registry.pending ++ [state.inners.length] } } := by
  -- The other callbacks keep their places, and the new one is queued for promotion.
  refine ⟨fun id inner read => ?_, ?_, fun handle member => ?_⟩
  · rcases getElem?_concat_cases read with before | ⟨rfl, rfl⟩
    · refine (intact.sound id inner before).frame (fun awaits => ?_) (fun held => held) (fun _ _ => rfl)
        (fun _ _ kept => kept)
      rcases awaits with registered | taken
      · exact .inl (List.mem_append_left _ registered)
      · exact .inr taken
    · refine ⟨fun _ _ => ⟨rfl, .inl (by simp)⟩, fun handle target => ?_, fun _ => rfl,
        fun none => ?_, fun handle has => ?_, fun handle has => ?_⟩
      · cases target
      · cases none
      · cases has
      · cases has
  · intro left right leftInner rightInner handle leftRead rightRead leftHas rightHas
    rcases getElem?_concat_cases leftRead with first | ⟨rfl, rfl⟩
    · rcases getElem?_concat_cases rightRead with second | ⟨rfl, rfl⟩
      · exact intact.distinct left right leftInner rightInner handle first second leftHas rightHas
      · cases rightHas
    · cases leftHas
  · obtain ⟨id, inner, read, has⟩ := intact.queued handle member
    refine ⟨id, inner, ?_, has⟩
    rw [List.getElem?_append_left (List.getElem?_eq_some_iff.mp read).1]
    exact read

/-- Steps that change no callback keep them intact if no handle and no promotion is forgotten. -/
theorem Intact.sameInners (intact : state.Intact given retains)
    (inners : next.inners = state.inners)
    (awaits : ∀ id (inner : CallbackInner Stash Handle) stash, state.inners[id]? = some inner →
      inner.target = some (.pending stash) → state.Awaits id → next.Awaits id)
    (holds : ∀ id (inner : CallbackInner Stash Handle), state.inners[id]? = some inner →
      inner.owners = 0 → inner.target.isSome = true → state.holds id = true → next.holds id = true)
    (counts : ∀ handle, (next.queue ++ next.releases).count handle =
      (state.queue ++ state.releases).count handle)
    (kept : ∀ handle, given state.vm handle ∧ (handle ∉ state.releases → retains state.vm handle) →
      given next.vm handle ∧ (handle ∉ next.releases → retains next.vm handle)) :
    next.Intact given retains := by
  -- A pending callback still awaits its turn, and one without owners is still held or released.
  refine ⟨fun id inner read => ?_, ?_, fun handle member => ?_⟩
  · rw [inners] at read
    have sound := intact.sound id inner read
    refine ⟨fun stash target => ?_, sound.retained, sound.owned, fun none present => ?_,
      fun handle has => (counts handle).trans (sound.counted handle has),
      fun handle has => kept handle (sound.kept handle has)⟩
    · obtain ⟨none, waits⟩ := sound.pending stash target
      exact ⟨none, awaits id inner stash read target waits⟩
    · exact holds id inner read none present (sound.unowned none present)
  · rw [inners]
    exact intact.distinct
  · rw [inners]
    apply intact.queued
    rw [← List.count_pos_iff, ← counts]
    exact List.count_pos_iff.mpr member

/-- A synchronization takes the queues without forgetting anything. -/
theorem Intact.begin (intact : state.Intact given retains) (idle : state.call = none) :
    Intact given retains { state with
      call := some { released := state.registry.released, pending := state.registry.pending }
      registry := {} } := by
  -- What was registered moves into the call as a whole.
  have queue : state.queue = state.registry.released := by
    unfold Callbacks.queue taken
    rw [idle]
    exact List.append_nil _
  refine intact.sameInners rfl (fun id inner stash _ _ awaits => ?_) (fun id _ _ _ _ held => ?_)
    (fun handle => ?_) (fun _ kept => kept)
  · rcases awaits with registered | ⟨call, taken, _⟩
    · exact .inr ⟨_, rfl, .inl registered⟩
    · rw [idle] at taken
      cases taken
  · unfold Callbacks.holds at held
    rw [idle] at held
    cases held
  · rw [queue]
    rfl

/-- A handle that is queued for release is retained and was not released. -/
theorem Intact.queued_retained (intact : state.Intact given retains) {handle : Handle}
    (member : handle ∈ state.queue) :
    retains state.vm handle ∧ handle ∉ state.releases ∧
      ∃ (id : Nat) (inner : CallbackInner Stash Handle), state.inners[id]? = some inner ∧
        inner.handle = some handle ∧ inner.target = none := by
  -- The count is at most one, so a handle in the queue is nowhere else.
  obtain ⟨id, inner, read, has⟩ := intact.queued handle (List.mem_append_left _ member)
  have sound := intact.sound id inner read
  have counted := sound.counted handle has
  have queued := List.count_pos_iff.mpr member
  rw [List.count_append] at counted
  have once : List.count handle state.releases = 0 ∧ inner.target.isSome = false := by
    split at counted
    · omega
    · rename_i dropped
      exact ⟨by omega, Bool.not_eq_true _ ▸ dropped⟩
  have unreleased : handle ∉ state.releases := List.count_eq_zero.mp once.1
  refine ⟨(sound.kept handle has).2 unreleased, unreleased, id, inner, read, has, ?_⟩
  cases target : inner.target with
  | none => rfl
  | some target' =>
    rw [target] at once
    cases once.2

variable (laws : runtime.Lawful given retains)

include laws

/-- A release moves its handle from the queue to the log. -/
theorem Intact.release (intact : state.Intact given retains) {handle : Handle}
    {released : List Handle} {pending : List Nat}
    (call : state.call = some { released := handle :: released, pending })
    (succeeds : (runtime.release state.vm handle).1 = .ok ()) :
    Intact given retains { state with
      vm := (runtime.release state.vm handle).2
      call := some { released, pending }
      releases := state.releases ++ [handle] } := by
  -- The first handle of the queue is the one logged, so the counts agree.
  have taken : state.taken = handle :: released := by
    unfold Callbacks.taken
    rw [call]
    rfl
  refine intact.sameInners rfl (fun id inner stash _ _ awaits => ?_) (fun id _ _ _ _ held => ?_)
    (fun other => ?_) (fun other kept => ⟨?_, fun unreleased => ?_⟩)
  · rcases awaits with registered | ⟨before, same, waits⟩
    · exact .inl registered
    · rw [call] at same
      cases same
      exact .inr ⟨_, rfl, waits⟩
  · unfold Callbacks.holds at held
    rw [call] at held
    cases held
  · show List.count other ((state.registry.released ++ released) ++ (state.releases ++ [handle])) = _
    unfold queue
    rw [taken]
    simp only [List.count_append, List.count_cons, List.count_nil]
    omega
  · exact (laws.remembers _ _ _).mpr kept.1
  · simp only [List.mem_append, List.mem_singleton, not_or] at unreleased
    exact (laws.released _ _ _ succeeds).mpr ⟨kept.2 unreleased.1, unreleased.2⟩

/-- A promotion gives a callback a handle that nobody has. -/
theorem Intact.promoted (intact : state.Intact given retains) {released : List Handle}
    {pending : List Nat} {stash : Stash}
    (call : state.call = some { released, pending, held := some (id, false) })
    (found : state.inners[id]? = some inner) (target : inner.target = some (.pending stash)) :
    Intact given retains { state with
      vm := (runtime.retain state.vm stash).2
      inners := state.inners.set id { inner with
        target := some (.retained (runtime.retain state.vm stash).1)
        handle := some (runtime.retain state.vm stash).1 }
      call := some { released, pending, held := some (id, true) } } := by
  have sound := intact.sound id inner found
  have inside := (List.getElem?_eq_some_iff.mp found).1
  -- Nobody has the handle, as whatever anybody has was given before.
  have unknown : ∀ (other : Nat) (otherInner : CallbackInner Stash Handle),
      state.inners[other]? = some otherInner →
      otherInner.handle ≠ some (runtime.retain state.vm stash).1 := by
    intro other otherInner read has
    exact laws.fresh state.vm stash ((intact.sound other otherInner read).kept _ has).1
  -- The call holds the same callback, now promoted.
  have holds : ∀ other, Callbacks.holds { state with
      call := some { released, pending, held := some (id, true) } } other = state.holds other := by
    intro other
    unfold Callbacks.holds
    rw [call]
    rfl
  have same : Callbacks.queue { state with
      call := some { released, pending, held := some (id, true) } } = state.queue := by
    unfold Callbacks.queue taken
    rw [call]
    rfl
  refine ⟨fun other otherInner read => ?_, ?_, fun handle member => ?_⟩
  · rcases getElem?_set_cases read with ⟨rfl, rfl⟩ | ⟨apart, kept⟩
    · refine ⟨fun _ changed => ?_, fun handle changed => ?_, fun _ => rfl, fun _ _ => ?_,
        fun handle has => ?_, fun handle has => ?_⟩
      · cases changed
      · cases changed
        rfl
      · exact beq_self_eq_true other
      · cases has
        show List.count _ (queue _ ++ state.releases) = 0
        rw [List.count_eq_zero]
        intro member
        obtain ⟨owner, ownerInner, read, has⟩ := intact.queued _ (same ▸ member)
        exact unknown owner ownerInner read has
      · cases has
        exact ⟨(laws.gives _ _ _).mpr (.inr rfl), fun _ => (laws.retained _ _ _).mpr (.inr rfl)⟩
    · refine (intact.sound other otherInner kept).frame (fun awaits => ?_)
        (fun held => (holds other).trans held) (fun handle _ => ?_) (fun handle _ before => ?_)
      · rcases awaits with registered | ⟨before, same, waits⟩
        · exact .inl registered
        · rw [call] at same
          cases same
          rcases waits with later | own
          · exact .inr ⟨_, rfl, .inl later⟩
          · cases own
            exact absurd rfl apart
      · exact congrArg (fun queue => List.count handle (queue ++ state.releases)) same
      · exact ⟨(laws.gives _ _ _).mpr (.inl before.1),
          fun unreleased => (laws.retained _ _ _).mpr (.inl (before.2 unreleased))⟩
  -- The new handle is unlike all others.
  · intro left right leftInner rightInner handle leftRead rightRead leftHas rightHas
    rcases getElem?_set_cases leftRead with ⟨rfl, rfl⟩ | ⟨_, first⟩
    · cases leftHas
      rcases getElem?_set_cases rightRead with ⟨rfl, rfl⟩ | ⟨_, second⟩
      · rfl
      · exact absurd rightHas (unknown right rightInner second)
    · rcases getElem?_set_cases rightRead with ⟨rfl, rfl⟩ | ⟨_, second⟩
      · cases rightHas
        exact absurd leftHas (unknown left leftInner first)
      · exact intact.distinct left right leftInner rightInner handle first second leftHas rightHas
  · obtain ⟨owner, ownerInner, read, has⟩ := intact.queued handle (same ▸ member)
    refine ⟨owner, ownerInner, ?_, has⟩
    have apart : owner ≠ id := by
      rintro rfl
      rw [found] at read
      cases read
      rw [(sound.pending stash target).1] at has
      cases has
    rw [List.getElem?_set_ne (Ne.symm apart)]
    exact read

omit laws

/-- A change of what a synchronization works on keeps the callbacks intact, if it forgets no handle
and no pending callback, and holds whatever nobody else does. -/
theorem Intact.working (intact : state.Intact given retains) {before : Synchronizing Handle}
    {after : Option (Synchronizing Handle)} (call : state.call = some before)
    (released : after.elim [] Synchronizing.released = before.released)
    (awaits : ∀ id (inner : CallbackInner Stash Handle) stash, state.inners[id]? = some inner →
      inner.target = some (.pending stash) → id ∈ before.pending ∨ before.held = some (id, false) →
      ∃ call, after = some call ∧ (id ∈ call.pending ∨ call.held = some (id, false)))
    (holds : ∀ id (inner : CallbackInner Stash Handle), state.inners[id]? = some inner →
      inner.owners = 0 → inner.target.isSome = true →
      before.held.any (fun held => held.1 == id) = true →
      after.any (fun call => call.held.any fun held => held.1 == id) = true) :
    Intact given retains { state with call := after } := by
  -- Only the part of the synchronization that it has done is taken from its queues.
  have queue : Callbacks.queue { state with call := after } = state.queue := by
    unfold Callbacks.queue taken
    rw [call]
    exact congrArg (state.registry.released ++ ·) released
  refine intact.sameInners rfl (fun id inner stash read target waits => ?_)
    (fun id inner read none present held => ?_) (fun handle => ?_) (fun _ kept => kept)
  · rcases waits with registered | ⟨current, same, waits⟩
    · exact .inl registered
    · rw [call] at same
      cases same
      exact .inr (awaits id inner stash read target waits)
  · unfold Callbacks.holds at held
    rw [call] at held
    exact holds id inner read none present held
  · exact congrArg (fun queue => List.count handle (queue ++ state.releases)) queue

/-- A callback without owners that nobody holds was dropped. -/
theorem Intact.dropped (intact : state.Intact given retains) (found : state.inners[id]? = some inner)
    (unowned : inner.owners = 0) (unheld : state.holds id = false) : inner.target = none := by
  cases target : inner.target with
  | none => rfl
  | some held =>
    have kept := (intact.sound id inner found).unowned unowned (by rw [target]; rfl)
    rw [unheld] at kept
    cases kept

/-- Upgrading the next pending callback keeps the callbacks intact, whether or not it is alive. -/
theorem Intact.upgrade (intact : state.Intact given retains) {pending : List Nat}
    (call : state.call = some { released := [], pending := id :: pending })
    {held : Option (Nat × Bool)}
    (alive : (∃ inner, state.inners[id]? = some inner ∧ inner.owners ≠ 0) → held = some (id, false)) :
    Intact given retains { state with call := some { released := [], pending, held } } := by
  -- If the callback is alive the call holds it from now on, and if not nobody waits for it.
  refine intact.working call rfl (fun other inner stash read target waits => ?_)
    (fun other inner _ _ _ held => ?_)
  · refine ⟨_, rfl, ?_⟩
    rcases waits with queued | holding
    · rcases List.mem_cons.mp queued with rfl | later
      · -- A pending callback has an owner, as nobody holds it.
        refine .inr (alive ⟨inner, read, fun unowned => ?_⟩)
        have unheld : state.holds other = false := by
          unfold Callbacks.holds
          rw [call]
          rfl
        rw [intact.dropped read unowned unheld] at target
        cases target
      · exact .inl later
    · cases holding
  · cases held

/-- Letting go of a callback keeps the callbacks intact, and drops it if it was the last to go. -/
theorem Intact.letGo (intact : state.Intact given retains) {released : List Handle}
    {pending : List Nat} (call : state.call = some { released, pending, held := some (id, true) })
    (found : state.inners[id]? = some inner) :
    (Callbacks.setOwners { state with call := some { released, pending } } id inner
      inner.owners).Intact given retains := by
  have inside := (List.getElem?_eq_some_iff.mp found).1
  have same : state.inners.set id inner = state.inners := by
    rw [← (List.getElem?_eq_some_iff.mp found).2]
    exact List.set_getElem_self inside
  -- Whoever is left without owners and held is the one let go of.
  have held : ∀ (other : Nat), (Option.any (fun held => held.1 == other) (some (id, true))) = true →
      other = id := fun other held => (beq_iff_eq.mp held).symm
  have awaits : ∀ (other : Nat), other ∈ pending ∨ some (id, true) = some (other, false) →
      other ∈ pending := by
    intro other waits
    rcases waits with queued | holding
    · exact queued
    · cases holding
  have unheld : Callbacks.holds { state with call := some { released, pending } } id = false := rfl
  -- A callback that is still owned, or has lost its target, is not dropped.
  have spared : ¬ (inner.owners = 0 ∧ inner.target.isSome = true) →
      Intact given retains { state with call := some { released, pending } } := by
    intro spared
    refine intact.working call rfl
      (fun other _ _ _ _ waits => ⟨_, rfl, .inl (awaits other waits)⟩)
      (fun other otherInner read unowned present holding => ?_)
    cases held other holding
    rw [found] at read
    cases read
    exact absurd ⟨unowned, present⟩ spared
  unfold Callbacks.setOwners
  simp only [unheld, Bool.not_false, Bool.and_true, decide_eq_true_eq]
  split
  · rename_i unowned
    by_cases present : inner.target.isSome = true
    · have ownerless : ({ inner with owners := 0 } : CallbackInner Stash Handle) = inner := by
        rw [← unowned]
      have dropped := intact.dropInner found present
      rw [ownerless] at dropped
      have let_go : Intact given retains { state.dropInner id inner with
          call := some { released, pending } } := by
        refine dropped.working call rfl
          (fun other _ _ _ _ waits => ⟨_, rfl, .inl (awaits other waits)⟩)
          (fun other otherInner read _ remains holding => ?_)
        cases held other holding
        rcases getElem?_set_cases read with ⟨_, rfl⟩ | ⟨apart, _⟩
        · cases remains
        · exact absurd rfl apart
      exact let_go
    · -- Its body is gone already.
      have target : inner.target = none := Option.not_isSome_iff_eq_none.mp present
      have gone : ({ inner with target := none } : CallbackInner Stash Handle) = inner := by
        rw [← target]
      have unchanged : Callbacks.dropInner { state with call := some { released, pending } } id inner =
          { state with call := some { released, pending } } := by
        simp only [Callbacks.dropInner, gone, same, target]
      have let_go := spared fun both => present both.2
      rw [← unchanged] at let_go
      exact let_go
  · rename_i owned
    have unchanged : ({ state with call := some { released, pending }
                                   inners := state.inners.set id inner } :
        Callbacks Vm Stash Handle) = { state with call := some { released, pending } } := by
      rw [same]
    rw [unchanged]
    exact spared fun both => owned both.1

include laws

/-- Every careful step keeps the callbacks intact. -/
theorem Intact.step (intact : state.Intact given retains) {op : CallbackOp Stash}
    (stepped : state.CarefulSteps runtime op next) : next.Intact given retains := by
  -- One case for each operation, with the lemma about what it does to one callback.
  obtain ⟨taken, careful⟩ := stepped
  unfold Steps Callbacks.step at taken
  cases op with
  | create stash =>
    dsimp only at taken
    split at taken
    · cases taken
    · cases taken
      exact intact.create stash
  -- A reference can be added only where one exists.
  | clone id =>
    dsimp only at taken
    split at taken
    · rename_i inner found
      obtain ⟨owned, taken⟩ := Option.ite_none_left_eq_some.mp taken
      cases taken
      exact intact.setOwners found ((intact.sound id inner found).owned (Nat.pos_of_ne_zero owned)) _
    · cases taken
  | drop id =>
    dsimp only at taken
    split at taken
    · rename_i inner found
      obtain ⟨owned, taken⟩ := Option.ite_none_left_eq_some.mp taken
      cases taken
      exact intact.setOwners found ((intact.sound id inner found).owned (Nat.pos_of_ne_zero owned)) _
    · cases taken
  | begin =>
    dsimp only at taken
    obtain ⟨idle, taken⟩ := Option.ite_none_left_eq_some.mp taken
    cases taken
    exact intact.begin (Option.not_isSome_iff_eq_none.mp idle)
  | release =>
    dsimp only at taken
    split at taken
    · rename_i handle released pending call
      have first : state.taken = handle :: released := by
        unfold Callbacks.taken
        rw [call]
        rfl
      split at taken
      · rename_i vm answered
        cases taken
        have succeeds := congrArg Prod.fst answered
        have kept := intact.release laws call succeeds
        rw [answered] at kept
        exact kept
      · rename_i vm answered
        -- A queued handle is retained, so its release cannot find it gone.
        have stale := laws.stale _ _ (congrArg Prod.fst answered)
        have member : handle ∈ state.queue := by
          unfold queue
          rw [first]
          exact List.mem_append_right _ (List.mem_cons_self ..)
        exact absurd (intact.queued_retained member).1 stale
      · rename_i message vm answered
        exact absurd (congrArg Prod.fst answered) (careful handle released first message)
    · cases taken
  | upgrade =>
    dsimp only at taken
    split at taken
    · rename_i id pending call
      split at taken
      · rename_i inner found
        split at taken
        · rename_i unowned
          cases taken
          -- Without an owner the upgrade fails and the callback is passed over.
          refine intact.upgrade call fun alive => ?_
          obtain ⟨other, read, owned⟩ := alive
          rw [found] at read
          cases read
          exact absurd unowned owned
        · cases taken
          exact intact.upgrade call fun _ => rfl
      · rename_i absent
        cases taken
        refine intact.upgrade call fun alive => ?_
        obtain ⟨other, read, _⟩ := alive
        rw [absent] at read
        cases read
    · cases taken
  | promote =>
    dsimp only at taken
    split at taken
    · rename_i released pending id call
      split at taken
      · rename_i inner found
        cases taken
        unfold Callbacks.promote
        split
        · rename_i stash target
          exact intact.promoted laws call found target
        -- Only what is still pending is promoted.
        · rename_i unpending
          refine intact.working call rfl (fun other otherInner stash read target waits => ?_)
            (fun _ _ _ _ _ held => held)
          rcases waits with queued | holding
          · exact ⟨_, rfl, .inl queued⟩
          · cases holding
            rw [found] at read
            cases read
            exact absurd target (unpending stash)
      · cases taken
    · cases taken
  | letGo =>
    dsimp only at taken
    split at taken
    · rename_i released pending id call
      split at taken
      · rename_i inner found
        cases taken
        exact intact.letGo call found
      · cases taken
    · cases taken
  | finish =>
    dsimp only at taken
    split at taken
    · rename_i call
      cases taken
      refine intact.working call rfl (fun _ _ _ _ _ waits => ?_) (fun _ _ _ _ _ held => ?_)
      · rcases waits with queued | holding
        · cases queued
        · cases holding
      · cases held
    · cases taken

omit laws

/-- Callbacks start intact. -/
theorem Intact.initial (vm : Vm) :
    Intact given retains ({ vm } : Callbacks Vm Stash Handle) where
  sound _ _ read := by cases read
  distinct _ _ _ _ _ read := by cases read
  queued _ member := by cases member

/-- What has been promoted and released when no synchronization is in progress: nothing that waits
for the one or the other is forgotten. -/
structure Accounted (state : Callbacks Vm Stash Handle) : Prop where
  pending : ∀ (id : Nat) (inner : CallbackInner Stash Handle) (stash : Stash),
    state.inners[id]? = some inner → inner.target = some (.pending stash) →
    id ∈ state.registry.pending
  dropped : ∀ (id : Nat) (inner : CallbackInner Stash Handle) (handle : Handle),
    state.inners[id]? = some inner → inner.target = none → inner.handle = some handle →
    state.registry.released.count handle + state.releases.count handle = 1

/-- What a synchronization leaves behind that took the queues in an earlier state: every live
callback is retained and was not released, and what was dropped by then was released once. -/
structure Synchronized (retains : Vm → Handle → Prop) (taking state : Callbacks Vm Stash Handle) :
    Prop where
  live : ∀ (id : Nat) (inner : CallbackInner Stash Handle), state.inners[id]? = some inner →
    0 < inner.owners → ∃ handle, inner.target = some (.retained handle) ∧
      retains state.vm handle ∧ handle ∉ state.releases
  dropped : ∀ (id : Nat) (inner : CallbackInner Stash Handle) (handle : Handle),
    taking.inners[id]? = some inner → inner.target = none → inner.handle = some handle →
    state.releases.count handle = 1

/-- A handle that is retained and neither released nor queued, although its callback was dropped. -/
def Loses (retains : Vm → Handle → Prop) (state : Callbacks Vm Stash Handle) : Prop :=
  ∃ (id : Nat) (inner : CallbackInner Stash Handle) (handle : Handle),
    state.inners[id]? = some inner ∧ inner.target = none ∧ inner.handle = some handle ∧
      retains state.vm handle ∧ handle ∉ state.queue ∧ handle ∉ state.releases

/-- Between synchronizations nothing is forgotten. -/
theorem Intact.accounted (intact : state.Intact given retains) (idle : state.call = none) :
    state.Accounted where
  -- Outside of a call no handle is taken, so each is retained or in the registry's queues.
  pending id inner stash read target := by
    rcases ((intact.sound id inner read).pending stash target).2 with registered | ⟨call, same, _⟩
    · exact registered
    · rw [idle] at same
      cases same
  dropped id inner handle read target has := by
    have counted := (intact.sound id inner read).counted handle has
    have queue : state.queue = state.registry.released := by
      unfold Callbacks.queue taken
      rw [idle]
      exact List.append_nil _
    rw [List.count_append, queue, target] at counted
    exact counted

omit [DecidableEq Handle] in
/-- Dropping a body queues no promotion. -/
theorem dropInner_pending (state : Callbacks Vm Stash Handle) (id : Nat)
    (inner : CallbackInner Stash Handle) :
    (state.dropInner id inner).registry.pending = state.registry.pending := by
  unfold Callbacks.dropInner
  dsimp only
  split <;> rfl

omit [DecidableEq Handle] in
/-- Counting references concerns neither the synchronization nor the promotions and releases. -/
theorem setOwners_frame (state : Callbacks Vm Stash Handle) (id : Nat)
    (inner : CallbackInner Stash Handle) (owners : Nat) :
    (state.setOwners id inner owners).call = state.call ∧
      (state.setOwners id inner owners).registry.pending = state.registry.pending ∧
      (state.setOwners id inner owners).releases = state.releases := by
  unfold Callbacks.setOwners
  dsimp only
  split
  · exact ⟨rfl, dropInner_pending state id _, rfl⟩
  · exact ⟨rfl, rfl, rfl⟩

omit [DecidableEq Handle] in
/-- A promotion concerns neither the registry nor the releases. -/
theorem promote_frame (state : Callbacks Vm Stash Handle) (id : Nat)
    (inner : CallbackInner Stash Handle) :
    (state.promote runtime id inner).registry = state.registry ∧
      (state.promote runtime id inner).releases = state.releases := by
  unfold Callbacks.promote
  split
  · exact ⟨rfl, rfl⟩
  · exact ⟨rfl, rfl⟩

/-- What a step does to the queues: a synchronization empties that of promotions when it begins, and
nothing is queued for promotion until it ends. What it has taken is forgotten only by a release that
fails. -/
structure QueueFrame (runtime : RetainedRuntime Vm Stash Handle)
    (state : Callbacks Vm Stash Handle) (op : CallbackOp Stash) (next : Callbacks Vm Stash Handle) :
    Prop where
  pending : next.call.isSome = true →
    next.registry.pending = [] ∨
      (state.call.isSome = true ∧ next.registry.pending = state.registry.pending)
  owed : ∀ handle ∈ state.taken ++ state.releases, handle ∈ next.taken ++ next.releases ∨
    op = .release ∧ ∃ first rest error, state.taken = first :: rest ∧
      (runtime.release state.vm first).1 = .error error

omit [DecidableEq Handle] in
/-- A step that keeps the synchronization, the promotions and the releases. -/
theorem QueueFrame.of_same {op : CallbackOp Stash} (call : next.call = state.call)
    (pending : next.registry.pending = state.registry.pending)
    (releases : next.releases = state.releases) : QueueFrame runtime state op next where
  pending busy := .inr ⟨call ▸ busy, pending⟩
  owed handle member := by
    unfold taken at member ⊢
    rw [call, releases]
    exact .inl member

omit [DecidableEq Handle] in
/-- A step that changes only what a synchronization has to promote or holds. -/
theorem QueueFrame.of_working {op : CallbackOp Stash} {before : Synchronizing Handle}
    {after : Option (Synchronizing Handle)} (call : state.call = some before)
    (same : next.call = after) (released : after.elim [] Synchronizing.released = before.released)
    (pending : next.registry.pending = state.registry.pending)
    (releases : next.releases = state.releases) : QueueFrame runtime state op next where
  pending _ := .inr ⟨by rw [call]; rfl, pending⟩
  owed handle member := by
    unfold taken at member ⊢
    rw [call] at member
    rw [same, releases, released]
    exact .inl member

omit [DecidableEq Handle] in
/-- Every step respects the queues. -/
theorem Steps.queueFrame {op : CallbackOp Stash} (stepped : state.Steps runtime op next) :
    QueueFrame runtime state op next := by
  -- The operations outside of a synchronization only ever add to the registry's queues.
  unfold Steps Callbacks.step at stepped
  cases op with
  | create stash =>
    obtain ⟨idle, taken⟩ := Option.ite_none_left_eq_some.mp stepped
    cases taken
    refine ⟨fun busy => absurd busy idle, fun handle member => .inl member⟩
  | clone id =>
    dsimp only at stepped
    split at stepped
    · obtain ⟨_, taken⟩ := Option.ite_none_left_eq_some.mp stepped
      cases taken
      obtain ⟨call, pending, releases⟩ := setOwners_frame state id _ _
      exact .of_same call pending releases
    · cases stepped
  | drop id =>
    dsimp only at stepped
    split at stepped
    · obtain ⟨_, taken⟩ := Option.ite_none_left_eq_some.mp stepped
      cases taken
      obtain ⟨call, pending, releases⟩ := setOwners_frame state id _ _
      exact .of_same call pending releases
    · cases stepped
  | begin =>
    obtain ⟨idle, taken⟩ := Option.ite_none_left_eq_some.mp stepped
    cases taken
    refine ⟨fun _ => .inl rfl, fun handle member => ?_⟩
    unfold Callbacks.taken at member
    rw [Option.not_isSome_iff_eq_none.mp idle] at member
    exact .inl (List.mem_append_right _ member)
  -- A release moves its handle to the released ones, or fails and loses those left.
  | release =>
    dsimp only at stepped
    split at stepped
    · rename_i handle released pending call
      have first : state.taken = handle :: released := by
        unfold Callbacks.taken
        rw [call]
        rfl
      have busy : state.call.isSome = true := by rw [call]; rfl
      split at stepped
      · cases stepped
        refine ⟨fun _ => .inr ⟨busy, rfl⟩, fun other member => .inl ?_⟩
        rw [first] at member
        show other ∈ released ++ (state.releases ++ [handle])
        simp only [List.mem_append, List.mem_cons, List.not_mem_nil, or_false] at member ⊢
        tauto
      · rename_i vm answered
        cases stepped
        exact ⟨fun _ => .inr ⟨busy, rfl⟩,
          fun _ _ => .inr ⟨rfl, handle, released, _, first, congrArg Prod.fst answered⟩⟩
      · rename_i message vm answered
        cases stepped
        exact ⟨fun ended => (Bool.false_ne_true ended).elim,
          fun _ _ => .inr ⟨rfl, handle, released, _, first, congrArg Prod.fst answered⟩⟩
    · cases stepped
  | upgrade =>
    dsimp only at stepped
    split at stepped
    · rename_i id pending call
      split at stepped
      · split at stepped
        · cases stepped
          exact .of_working call rfl rfl rfl rfl
        · cases stepped
          exact .of_working call rfl rfl rfl rfl
      · cases stepped
        exact .of_working call rfl rfl rfl rfl
    · cases stepped
  -- Promoting retains a stash, and queues nothing.
  | promote =>
    dsimp only at stepped
    split at stepped
    · rename_i released pending id call
      split at stepped
      · rename_i inner found
        cases stepped
        obtain ⟨registry, releases⟩ := @promote_frame _ _ _ runtime state id inner
        exact .of_working call rfl rfl (congrArg CallbackRegistry.pending registry) releases
      · cases stepped
    · cases stepped
  | letGo =>
    dsimp only at stepped
    split at stepped
    · rename_i released pending id call
      split at stepped
      · rename_i inner found
        cases stepped
        obtain ⟨same, registered, releases⟩ := setOwners_frame
          { state with call := some { released, pending } } id inner inner.owners
        exact .of_working call same rfl registered releases
      · cases stepped
    · cases stepped
  | finish =>
    dsimp only at stepped
    split at stepped
    · rename_i call
      cases stepped
      exact .of_working call rfl rfl rfl rfl
    · cases stepped

omit [DecidableEq Handle] in
/-- While a synchronization is in progress no further promotion is queued. -/
theorem pending_nil {ops : List (CallbackOp Stash)} {vm : Vm}
    (run : Run (CarefulSteps runtime) { vm } ops state) (busy : state.call.isSome = true) :
    state.registry.pending = [] := by
  refine run.invariant (fun state => state.call.isSome = true → state.registry.pending = [])
    (fun {state op next} stepped before busy => ?_) (fun busy => by cases busy) busy
  rcases stepped.1.queueFrame.pending busy with emptied | ⟨already, same⟩
  · exact emptied
  · exact same.trans (before already)

/-- A release that begins with a queued handle does not fail, unless the step is not careful. -/
theorem Intact.no_error (laws : runtime.Lawful given retains) (intact : state.Intact given retains)
    (careful : state.Careful runtime .release) {first : Handle} {rest : List Handle}
    (taken : state.taken = first :: rest) (error : LifecycleError) :
    (runtime.release state.vm first).1 ≠ .error error := by
  have member : first ∈ state.queue := by
    unfold queue
    rw [taken]
    exact List.mem_append_right _ (List.mem_cons_self ..)
  cases error with
  | staleHandle => exact fun stale => laws.stale _ _ stale (intact.queued_retained member).1
  | other message => exact careful first rest taken message

/-- What a synchronization owes is released unless the synchronization still works on it. -/
theorem owed_or_released (laws : runtime.Lawful given retains) {ops : List (CallbackOp Stash)}
    {taking : Callbacks Vm Stash Handle} (intact : taking.Intact given retains)
    (run : Run (CarefulSteps runtime) taking ops state) {handle : Handle}
    (owed : handle ∈ taking.taken ++ taking.releases) : handle ∈ state.taken ++ state.releases := by
  -- What is owed stays owed or is released, step by step along the run.
  have kept := run.invariant
    (fun state => state.Intact given retains ∧ handle ∈ state.taken ++ state.releases)
    (fun {state op next} stepped before => ?_) ⟨intact, owed⟩
  · exact kept.2
  · refine ⟨before.1.step laws stepped, ?_⟩
    rcases stepped.1.queueFrame.owed handle before.2 with still | ⟨rfl, first, rest, error, taken, fails⟩
    · exact still
    · exact absurd fails (before.1.no_error laws stepped.2 taken error)

/-- A release that fails loses its handle. -/
theorem Intact.loses (laws : runtime.Lawful given retains) (intact : state.Intact given retains)
    (stepped : state.Steps runtime .release next) (failed : next.call = none) :
    next.Loses retains := by
  -- The failing release has taken its handle off the queue and put it nowhere.
  unfold Steps Callbacks.step at stepped
  dsimp only at stepped
  split at stepped
  · rename_i handle released pending call
    have taken : state.taken = handle :: released := by
      unfold Callbacks.taken
      rw [call]
      rfl
    split at stepped
    · cases stepped
      cases failed
    · cases stepped
      cases failed
    · rename_i message vm answered
      cases stepped
      have member : handle ∈ state.queue := by
        unfold queue
        rw [taken]
        exact List.mem_append_right _ (List.mem_cons_self ..)
      obtain ⟨retained, unreleased, id, inner, read, has, dropped⟩ := intact.queued_retained member
      refine ⟨id, inner, handle, read, dropped, has, ?_, ?_, unreleased⟩
      · have kept := laws.refused state.vm handle handle _ (congrArg Prod.fst answered)
        rw [answered] at kept
        exact kept.mpr retained
      · -- It was taken once, and so it is not queued a second time.
        have counted := (intact.sound id inner read).counted handle has
        rw [dropped, List.count_append] at counted
        unfold queue at counted
        rw [taken, List.count_append, List.count_cons_self] at counted
        show handle ∉ state.registry.released ++ []
        rw [List.append_nil, ← List.count_eq_zero]
        have once : List.count handle state.registry.released + (List.count handle released + 1) +
          List.count handle state.releases = 1 := counted
        omega
  · cases stepped

/-- A handle that was released was released once. -/
theorem Intact.released_once (intact : state.Intact given retains) {handle : Handle}
    (released : handle ∈ state.releases) : state.releases.count handle = 1 := by
  obtain ⟨id, inner, read, has⟩ := intact.queued handle (List.mem_append_right _ released)
  have counted := (intact.sound id inner read).counted handle has
  have some_ := List.count_pos_iff.mpr released
  rw [List.count_append] at counted
  split at counted <;> omega

/-- A live callback is retained and was not released, if no promotion is due. -/
theorem Intact.live (intact : state.Intact given retains) (idle : state.call = none)
    (promoted : state.registry.pending = []) (found : state.inners[id]? = some inner)
    (owned : 0 < inner.owners) : ∃ handle, inner.target = some (.retained handle) ∧
      retains state.vm handle ∧ handle ∉ state.releases := by
  -- A callback with an owner was promoted or is still pending, and it is not pending here.
  have sound := intact.sound id inner found
  cases target : inner.target with
  | none =>
    have present := sound.owned owned
    rw [target] at present
    cases present
  | some body =>
    cases body with
    | pending stash =>
      have due := (intact.accounted idle).pending id inner stash found target
      rw [promoted] at due
      cases due
    | retained handle =>
      have has := sound.retained handle target
      have counted := sound.counted handle has
      rw [target, List.count_append] at counted
      have unreleased : handle ∉ state.releases := by
        rw [← List.count_eq_zero]
        have none_ : _ + List.count handle state.releases = 0 := counted
        omega
      exact ⟨handle, rfl, (sound.kept handle has).2 unreleased, unreleased⟩

/--
The callback registry forgets nothing unless a release fails.

In every run in which no release fails with anything but a stale handle, whatever was created,
cloned and dropped before, between and during synchronizations: between synchronizations every
promotion and release that is due is queued, and what a synchronization leaves behind when it ends
is retained while it is live and released once if it was dropped when the queues were taken. A
release that fails loses a handle for good.
-/
theorem callbacks_kept (laws : runtime.Lawful given retains) {vm : Vm}
    {ops : List (CallbackOp Stash)} (run : Run (CarefulSteps runtime) { vm } ops state) :
    (state.call = none → state.Accounted) ∧
    (∀ before during, ops = before ++ .begin :: (during ++ [.finish]) →
      ∃ taking, Run (CarefulSteps runtime) { vm } before taking ∧
        Synchronized retains taking state) ∧
    ∀ next, state.Steps runtime .release next → next.call = none → next.Loses retains := by
  have kept : ∀ {ops : List (CallbackOp Stash)} {reached : Callbacks Vm Stash Handle},
      Run (CarefulSteps runtime) { vm } ops reached → reached.Intact given retains :=
    fun run => run.invariant (Intact given retains) (fun stepped intact => intact.step laws stepped)
      (.initial vm)
  refine ⟨(kept run).accounted, fun before during same => ?_,
    fun next stepped failed => (kept run).loses laws stepped failed⟩
  subst same
  obtain ⟨taking, started, run⟩ := run.split
  cases run with
  | @cons _ taken _ _ _ begun run =>
  obtain ⟨ended, working, finished⟩ := run.split_last
  refine ⟨taking, started, ?_⟩
  -- The synchronization ends with nothing left to release or to promote.
  obtain ⟨call, same⟩ : ended.call = some { released := [], pending := [] } ∧
      state = { ended with call := none } := by
    have stepped := finished.1
    unfold Steps Callbacks.step at stepped
    dsimp only at stepped
    split at stepped
    · rename_i call
      exact ⟨call, (Option.some.inj stepped).symm⟩
    · cases stepped
  have intact : state.Intact given retains :=
    (kept (started.append (.cons begun working))).step laws finished
  have idle : state.call = none := by rw [same]
  have promoted : state.registry.pending = [] := by
    have emptied := pending_nil (started.append (.cons begun working)) (by rw [call]; rfl)
    rw [same]
    exact emptied
  refine ⟨fun id inner read owned => intact.live idle promoted read owned,
    fun id inner handle read target has => ?_⟩
  -- What was dropped when the queues were taken was queued then or released before.
  obtain ⟨unbegun, begins⟩ := Option.ite_none_left_eq_some.mp begun.1
  have due := ((kept started).accounted (Option.not_isSome_iff_eq_none.mp unbegun)).dropped id inner
    handle read target has
  have owed : handle ∈ taken.taken ++ taken.releases := by
    cases begins
    rw [← List.count_pos_iff, List.count_append]
    exact Nat.lt_of_lt_of_eq Nat.zero_lt_one due.symm
  have later := owed_or_released laws ((kept started).step laws begun) working owed
  have none_left : ended.taken = [] := by
    unfold Callbacks.taken
    rw [call]
    rfl
  rw [none_left] at later
  apply intact.released_once
  rw [same]
  exact later

/-- A runtime that numbers its handles, and fails once to release one if it is busy. -/
private def numbered : RetainedRuntime (Nat × List Nat × Bool) Unit Nat where
  retain vm _ := (vm.1, (vm.1 + 1, vm.2.1 ++ [vm.1], vm.2.2))
  release vm handle :=
    if vm.2.2 then (.error (.other "busy"), (vm.1, vm.2.1, false))
    else if handle ∈ vm.2.1 then (.ok (), (vm.1, vm.2.1.filter (· ≠ handle), false))
    else (.error .staleHandle, vm)

/-- Such a runtime treats its handles as it should. -/
private theorem numbered_lawful :
    numbered.Lawful (fun vm handle => handle < vm.1) fun vm handle => handle ∈ vm.2.1 where
  -- Handles are numbered in turn, and a release takes its handle from the list.
  fresh vm _ := Nat.lt_irrefl vm.1
  gives vm _ handle := Nat.lt_succ_iff_lt_or_eq
  retained vm _ handle := by simp [numbered]
  remembers vm handle other := by
    unfold numbered
    dsimp only
    split
    · exact Iff.rfl
    · split <;> exact Iff.rfl
  released vm handle other succeeds := by
    unfold numbered at succeeds ⊢
    dsimp only at succeeds ⊢
    split at succeeds
    · cases succeeds
    · rename_i idle
      rw [if_neg idle]
      split at succeeds
      · rename_i member
        rw [if_pos member]
        simp
      · cases succeeds
  refused vm handle other error fails := by
    unfold numbered at fails ⊢
    dsimp only at fails ⊢
    split at fails
    · rename_i busy
      rw [if_pos busy]
    · rename_i idle
      rw [if_neg idle]
      split at fails
      · cases fails
      · rename_i absent
        rw [if_neg absent]
  stale vm handle fails := by
    unfold numbered at fails
    dsimp only at fails
    split at fails
    · cases fails
    · split at fails
      · cases fails
      · assumption

/-- A callback that is created, promoted and dropped beside another one that is created later. -/
private def lifetimes : List (CallbackOp Unit) :=
  [.create (), .begin, .upgrade, .promote, .letGo, .finish, .create (), .drop 0, .begin, .release]

/-- What is seen of callbacks: whether no synchronization is in progress and nothing is queued, the
handles that were released, those that are retained, and the callbacks. -/
private def overview (state : Callbacks (Nat × List Nat × Bool) Unit Nat) :
    Bool × List Nat × List Nat × List (CallbackInner Unit Nat) :=
  (state.call.isNone && decide (state.registry = {}), state.releases, state.vm.2.1, state.inners)

/--
A release that fails is not made up for.

After it another synchronization succeeds, and still the handle of the dropped callback is retained
and neither released nor queued, and the other callback is live and not promoted.
-/
theorem callbacks_kept_broken :
    ∃ state : Callbacks (Nat × List Nat × Bool) Unit Nat,
      Run (Steps numbered) { vm := (0, [], true) } (lifetimes ++ [.begin, .finish]) state ∧
      overview state = (true, [], [0], [⟨none, 0, some 0⟩, ⟨some (.pending ()), 1, none⟩]) := by
  obtain ⟨state, seen, run⟩ := Run.of_foldlM (step numbered) { vm := (0, [], true) }
    (lifetimes ++ [.begin, .finish]) overview
    (true, [], [0], [⟨none, 0, some 0⟩, ⟨some (.pending ()), 1, none⟩]) (by decide +kernel)
  exact ⟨state, run, seen⟩

/-- A step that is made only if no release can fail. -/
private def idleStep (state : Callbacks (Nat × List Nat × Bool) Unit Nat) (op : CallbackOp Unit) :
    Option (Callbacks (Nat × List Nat × Bool) Unit Nat) :=
  if state.vm.2.2 then none else state.step numbered op

/-- Such a step is careful. -/
private theorem idleStep_careful {state next : Callbacks (Nat × List Nat × Bool) Unit Nat}
    {op : CallbackOp Unit} (stepped : idleStep state op = some next) :
    state.CarefulSteps numbered op next := by
  -- In a runtime of this kind no release fails.
  obtain ⟨idle, taken⟩ := Option.ite_none_left_eq_some.mp stepped
  refine ⟨taken, ?_⟩
  cases op with
  | release =>
    intro handle rest _ message failed
    unfold numbered at failed
    dsimp only at failed
    rw [if_neg idle] at failed
    split at failed <;> cases failed
  | _ => exact trivial

/-- The conclusion at the same lifetimes with releases that succeed. -/
theorem callbacks_kept_once :
    ∃ taking state : Callbacks (Nat × List Nat × Bool) Unit Nat,
      overview state = (true, [0], [1], [⟨none, 0, some 0⟩, ⟨some (.retained 1), 1, some 1⟩]) ∧
      state.Accounted ∧ Synchronized (fun vm handle => handle ∈ vm.2.1) taking state := by
  -- The synchronization is the one that begins with the eighth operation.
  obtain ⟨state, seen, run⟩ := Run.of_foldlM idleStep { vm := (0, [], false) }
    (lifetimes ++ [.upgrade, .promote, .letGo, .finish]) overview
    (true, [0], [1], [⟨none, 0, some 0⟩, ⟨some (.retained 1), 1, some 1⟩]) (by decide +kernel)
  have careful := run.mono fun stepped => idleStep_careful stepped
  obtain ⟨accounted, synchronized, _⟩ := callbacks_kept numbered_lawful careful
  obtain ⟨taking, _, left⟩ := synchronized (lifetimes.take 8)
    [.release, .upgrade, .promote, .letGo] rfl
  have idle : state.call = none := by
    have quiet := (Prod.ext_iff.mp seen).1
    simp only [overview, Bool.and_eq_true, Option.isNone_iff_eq_none] at quiet
    exact quiet.1
  exact ⟨taking, state, seen, accounted idle, left⟩

end Callbacks

end Hotki.Script
