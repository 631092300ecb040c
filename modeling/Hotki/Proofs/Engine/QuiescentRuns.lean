import Hotki.Proofs.Engine.Quiescence

/-! The registered keys in whole runs: an operation that owes a refresh makes it before it ends. -/

namespace Hotki

open Base Script

variable {T : Externals} [BEq T.Displays] {α β : Type} {host : Surroundings T} {duty : Duty}

namespace Activity

/-- Whether a part of an operation keeps its end, given what it owes. -/
def Keeps (host : Surroundings T) (activity : Activity T α) (duty : Duty)
    (ends : Except EngineError α → Duty → Prop) : Prop :=
  Program.Keeps (Segment.perform host) (Duty.ownership host) ends activity.run duty

/-- A part that only returns ends with its value. -/
theorem keeps_pure {value : α} {ends : Except EngineError α → Duty → Prop}
    (ended : ends (.ok value) duty) : (pure value : Activity T α).Keeps host duty ends :=
  ended

/-- A part keeps a weaker end. -/
theorem Keeps.mono {activity : Activity T α} {ends weaker : Except EngineError α → Duty → Prop}
    (keeps : activity.Keeps host duty ends)
    (weakens : ∀ result after, ends result after → weaker result after) :
    activity.Keeps host duty weaker :=
  Program.Keeps.mono keeps weakens

/-- Two parts keep an end one after the other if the second does where the first may end. -/
theorem Keeps.bind {activity : Activity T α} {next : α → Activity T β}
    {ends : Except EngineError β → Duty → Prop}
    (keeps : activity.Keeps host duty
      (Continues ends fun value after => (next value).Keeps host after ends)) :
    (activity >>= next).Keeps host duty ends := by
  apply Program.Keeps.bind
  refine Program.Keeps.mono keeps fun result after continues => ?_
  cases result with
  | ok value => exact continues
  | error error => exact continues

/-- A part whose errors are handled keeps an end if the handler does. -/
theorem Keeps.tryCatch {activity : Activity T α} {handler : EngineError → Activity T α}
    {ends : Except EngineError α → Duty → Prop}
    (keeps : activity.Keeps host duty fun result after =>
      (handled handler result).Keeps host after ends) :
    (tryCatch activity handler).Keeps host duty ends := by
  apply Program.Keeps.bind
  refine Program.Keeps.mono keeps fun result after follows => ?_
  cases result with
  | ok value => exact follows
  | error error => exact follows

/-- A segment keeps what it leaves with due care. -/
theorem keeps_segment {segment : Segment T} {ends : Except EngineError segment.Answer → Duty → Prop}
    (allowed : (Duty.ownership host).allowed segment)
    (ended : ∀ engine, duty.Careful host engine segment →
      ends (.ok (segment.perform host engine).1) (duty.next host engine segment)) :
    (Activity.segment segment).Keeps host duty ends :=
  fun engine careful => ⟨allowed, ended engine careful⟩

/-- So does one that may fail. -/
theorem keeps_attempt {segment : Segment T} (fallible : segment.Answer = Except EngineError α)
    {ends : Except EngineError α → Duty → Prop} (allowed : (Duty.ownership host).allowed segment)
    (ended : ∀ engine, duty.Careful host engine segment →
      ends (fallible ▸ (segment.perform host engine).1) (duty.next host engine segment)) :
    (attempt segment fallible).Keeps host duty ends := by
  -- The equation only renames the type of the answer.
  have renamed : ∀ {Named : Type} (same : segment.Answer = Named) (ends : Named → Duty → Prop),
      (∀ engine, duty.Careful host engine segment →
        ends (same ▸ (segment.perform host engine).1) (duty.next host engine segment)) →
      Program.Keeps (Segment.perform host) (Duty.ownership host) ends
        (same ▸ (Program.perform segment : Program (@Segment.Answer T) segment.Answer)) duty := by
    intro Named same ends ended
    subst same
    exact fun engine careful => ⟨allowed, ended engine careful⟩
  exact renamed fallible ends ended

end Activity

namespace Duty

variable {segment : Segment T} {engine : LiveEngine T}

/-- Everything but a commit may be given. -/
theorem allowed_of_plain (plain : segment.installs = false) :
    (ownership host).allowed segment := by
  rintro config rfl
  cases plain

/-- A calm segment leaves what is owed. -/
theorem next_of_calm (calm : segment.calm = true) : duty.next host engine segment = duty := by
  have keeps : segment.renews = false := by
    cases segment with
    | commit | rebind => cases calm
    | _ => rfl
  cases duty with
  | tick => rfl
  | owing due =>
    unfold next
    dsimp only
    rw [if_neg (by simp [keeps]), Segment.disturbs_of_calm calm, Bool.or_false]

/-- A segment that renews what is registered makes no refresh due. -/
theorem due_of_renews (renews : segment.renews = true)
    (due : (duty.next host engine segment).due = true) :
    duty.due = true ∧ segment.fails host engine = true := by
  cases duty with
  | tick => cases due
  | owing owed =>
    unfold next at due
    dsimp only at due
    rw [if_pos renews] at due
    exact Bool.and_eq_true_iff.mp due

/-- What is due stays due when a segment is refused to renew it. -/
theorem due_of_refused (renews : segment.renews = true) (fails : segment.fails host engine = true)
    (due : duty.due = true) : (duty.next host engine segment).due = true := by
  cases duty with
  | tick => cases due
  | owing owed =>
    unfold next
    dsimp only
    rw [if_pos renews, fails, Bool.and_true]
    exact due

/-- What is due stays due after a segment that renews nothing. -/
theorem due_of_kept (keeps : segment.renews = false) (due : duty.due = true) :
    (duty.next host engine segment).due = true := by
  cases duty with
  | tick => cases due
  | owing owed =>
    obtain rfl : owed = true := due
    unfold next
    dsimp only
    rw [if_neg (by simp [keeps]), Bool.true_or]
    rfl

end Duty

namespace Activity

/-- Whether a part makes no refresh due. -/
def Still (host : Surroundings T) (activity : Activity T α) : Prop :=
  ∀ duty, activity.Keeps host duty fun _ after => after.due = true → duty.due = true

/-- Whether a part that fails leaves no refresh due. -/
def Heeds (host : Surroundings T) (activity : Activity T α) : Prop :=
  ∀ duty, activity.Keeps host duty fun result after => result.toBool = false → after.due = false

/-- Whether a part leaves no refresh due, whatever was due before. -/
def Clears (host : Surroundings T) (activity : Activity T α) : Prop :=
  ∀ duty, activity.Keeps host duty fun _ after => after.due = false

/-- Whether a part leaves no refresh due if none was. -/
def Settles (host : Surroundings T) (activity : Activity T α) : Prop :=
  ∀ duty, duty.due = false → activity.Keeps host duty fun _ after => after.due = false

section Rules

variable {activity : Activity T α} {next : α → Activity T β}

/-- A part that only returns makes no refresh due. -/
theorem still_pure (value : α) : (pure value : Activity T α).Still host := fun _ => id

/-- A part that only fails makes no refresh due. -/
theorem still_throw (error : EngineError) : (throw error : Activity T α).Still host := fun _ => id

/-- Two parts that make no refresh due make none one after the other. -/
theorem Still.bind (first : activity.Still host) (second : ∀ value, (next value).Still host) :
    (activity >>= next).Still host := by
  intro duty
  apply Keeps.bind
  refine (first duty).mono fun result after before => ?_
  cases result with
  | ok value => exact (second value after).mono fun _ _ later due => before (later due)
  | error error => exact before

/-- A calm segment makes no refresh due. -/
theorem still_segment {segment : Segment T} (calm : segment.calm = true)
    (plain : segment.installs = false) : (Activity.segment segment).Still host := by
  intro duty
  apply keeps_segment (Duty.allowed_of_plain plain)
  intro engine _
  rw [Duty.next_of_calm calm]
  exact id

/-- So does one that may fail. -/
theorem still_attempt {segment : Segment T} (fallible : segment.Answer = Except EngineError α)
    (calm : segment.calm = true) (plain : segment.installs = false) :
    (attempt segment fallible).Still host := by
  intro duty
  apply keeps_attempt fallible (Duty.allowed_of_plain plain)
  intro engine _
  rw [Duty.next_of_calm calm]
  exact id

/-- A part that makes no refresh due leaves none due if none was. -/
theorem Still.settles (still : activity.Still host) : activity.Settles host := by
  intro duty clear
  refine (still duty).mono fun _ after later => ?_
  cases due : after.due with
  | false => rfl
  | true => exact absurd (later due) (by rw [clear]; exact Bool.false_ne_true)

/-- A part that clears what is due leaves none due if none was. -/
theorem Clears.settles (clears : activity.Clears host) : activity.Settles host :=
  fun duty _ => clears duty

/-- Parts that settle settle one after the other. -/
theorem Settles.bind (first : activity.Settles host) (second : ∀ value, (next value).Settles host) :
    (activity >>= next).Settles host := by
  intro duty clear
  apply Keeps.bind
  refine (first duty clear).mono fun result after cleared => ?_
  cases result with
  | ok value => exact second value after cleared
  | error error => exact cleared

/-- A part that heeds clears what is due together with one that clears it. -/
theorem clears_after (first : activity.Heeds host) (second : ∀ value, (next value).Clears host) :
    (activity >>= next).Clears host := by
  intro duty
  apply Keeps.bind
  refine (first duty).mono fun result after failed => ?_
  cases result with
  | ok value => exact second value after
  | error error => exact failed rfl

/-- A choice of two parts settles if both do. -/
theorem Settles.ite {condition : Prop} [Decidable condition] {first second : Activity T α}
    (left : first.Settles host) (right : second.Settles host) :
    (if condition then first else second).Settles host := by
  split
  · exact left
  · exact right

/-- A part that only returns heeds. -/
theorem heeds_pure (value : α) : (pure value : Activity T α).Heeds host :=
  fun _ failed => by cases failed

/-- Two parts heed one after the other. -/
theorem Heeds.bind (first : activity.Heeds host) (second : ∀ value, (next value).Heeds host) :
    (activity >>= next).Heeds host := by
  intro duty
  apply Keeps.bind
  refine (first duty).mono fun result after failed => ?_
  cases result with
  | ok value => exact second value after
  | error error => exact fun _ => failed rfl

/-- A choice of two parts heeds if both do. -/
theorem Heeds.ite {condition : Prop} [Decidable condition] {first second : Activity T α}
    (left : first.Heeds host) (right : second.Heeds host) :
    (if condition then first else second).Heeds host := by
  split
  · exact left
  · exact right

/-- A segment that cannot fail heeds. -/
theorem heeds_segment {segment : Segment T} (plain : segment.installs = false) :
    (Activity.segment segment).Heeds host := by
  intro duty
  apply keeps_segment (Duty.allowed_of_plain plain)
  intro engine _ failed
  cases failed

/-- A segment that may fail heeds: with due care it fails only where no refresh is due. -/
theorem heeds_attempt {segment : Segment T} (fallible : segment.Answer = Except EngineError α)
    (plain : segment.installs = false)
    (fails : ∀ engine, Except.toBool (fallible ▸ (segment.perform host engine).1) = false →
      segment.fails host engine = true) :
    (attempt segment fallible).Heeds host := by
  intro duty
  apply keeps_attempt fallible (Duty.allowed_of_plain plain)
  intro engine careful failed
  exact careful.passes plain (fails engine failed)

end Rules

/-- Sending to the UI heeds. -/
theorem trySendUi_heeds (message : MsgToUI T) : (trySendUi message : Activity T Unit).Heeds host :=
  heeds_attempt rfl rfl fun _ failed => congrArg not failed

/-- Sending a notification heeds. -/
theorem sendNotification_heeds (kind : NotifyKind) (title text : String) :
    (sendNotification kind title text : Activity T Unit).Heeds host :=
  trySendUi_heeds _

/-- Sending an error heeds. -/
theorem sendError_heeds (title text : String) :
    (sendError title text : Activity T Unit).Heeds host :=
  sendNotification_heeds .error title text

/-- Reading the state makes no refresh due. -/
theorem look_still : (look : Activity T (LiveEngine T)).Still host := still_segment rfl rfl

/-- A refresh clears what is due: it goes through, or nothing was. -/
theorem rebindAndRefresh_clears (focus : Option FocusSnapshot) :
    (rebindAndRefresh focus : Activity T Unit).Clears host := by
  intro duty
  apply keeps_attempt rfl (Duty.allowed_of_plain rfl)
  intro engine careful
  cases due : (duty.next host engine (.rebind focus)).due with
  | false => rfl
  | true =>
    have failed := (Duty.due_of_renews rfl due).2
    rw [careful.passes rfl failed] at due
    cases due

/-- Preparing and committing a configuration makes no refresh due. -/
theorem installConfig_still (path : String) (mode : ConfigInstall) :
    (installConfig path mode : Activity T Unit).Still host := by
  intro duty
  apply Keeps.bind
  apply keeps_attempt rfl (fun config same => by cases same)
  intro engine _
  rw [Duty.next_of_calm rfl]
  show Continues _ _ (engine.core.prepare host path mode).1 duty
  cases answered : (engine.core.prepare host path mode).1 with
  | error error => exact id
  | ok config =>
    -- What is committed is what was prepared, with its plan.
    have planned : config.prepared.Planned host.toHost := by
      unfold Core.prepare at answered
      split at answered
      · rename_i prepares
        cases answered
        exact Core.prepareConfig_planned prepares
      · cases answered
    apply keeps_attempt rfl
    · intro other same
      cases same
      exact planned
    · exact fun later _ due => (Duty.due_of_renews rfl due).1

/-- A reload makes no refresh due. -/
theorem reloadDynamicConfig_still : (reloadDynamicConfig : Activity T Unit).Still host := by
  apply Still.bind look_still
  intro engine
  split
  · exact still_throw _
  · exact installConfig_still _ _

/-- A relay effect heeds. -/
theorem applyRelay_heeds (spec : RelaySpec) (run : EffectRun) :
    (applyRelay spec run : Activity T EffectApplication).Heeds host := by
  -- A chord that does not parse is told of, and a tick needs no destination.
  unfold applyRelay
  split
  · exact .bind (sendError_heeds _ _) fun _ => heeds_pure _
  · cases run with
    | repeatedTick => exact heeds_pure _
    | oneShot | repeatedFirst =>
      apply Heeds.bind
      · exact heeds_attempt rfl rfl fun _ failed => congrArg not failed
      · intro destination
        cases destination <;> exact heeds_pure _

/-- An action heeds: a reload that fails is told of, and is not the end. -/
theorem applyAction_heeds (ident : String) (action : Action) :
    (applyAction ident action : Activity T Engine.DispatchResult).Heeds host := by
  apply Heeds.bind (heeds_segment rfl)
  intro _
  split
  · exact .bind (applyRelay_heeds _ _) fun _ => heeds_pure _
  -- A reload runs as an attempt, so its failure only changes what is told.
  · apply Heeds.bind
    · intro duty
      apply Keeps.tryCatch
      refine (reloadDynamicConfig_still duty).mono fun result after _ => ?_
      cases result with
      | ok value =>
        show (pure value : Activity T Unit).Keeps host after _
        exact heeds_pure value after
      | error error => exact sendError_heeds _ _ after
    · exact fun _ => heeds_pure _
  · exact .bind (trySendUi_heeds _) fun _ => heeds_pure _
  · exact .bind (trySendUi_heeds _) fun _ => heeds_pure _
  · exact heeds_pure _

/-- Opening a selector heeds. -/
theorem openSelector_heeds (config : SelectorConfig) (ctx : ModeCtx) :
    (openSelector config ctx : Activity T Bool).Heeds host := by
  apply Heeds.bind
  · exact heeds_attempt rfl rfl fun _ failed => congrArg not failed
  · intro answer
    cases answer with
    | none => exact heeds_pure _
    | some items =>
      apply Heeds.bind
      · exact heeds_attempt rfl rfl fun _ failed => congrArg not failed
      · exact fun _ => heeds_pure _

section Queue

variable {held : HandlerRef → Activity T EffectApplication}

/-- An effect heeds if holding an action does. -/
theorem applyEffect_heeds (holds : ∀ action, (held action).Heeds host) (ident : String)
    (ctx : ModeCtx) (run : EffectRun) (effect : Effect) :
    (applyEffect held ident ctx run effect).Heeds host := by
  -- One goal for each kind of effect.
  unfold applyEffect
  split
  · split
    · exact holds _
    · exact .bind (sendError_heeds _ _) fun _ => heeds_pure _
  · exact applyRelay_heeds _ _
  · exact .bind (applyAction_heeds _ _) fun _ => heeds_pure _
  · exact .bind (sendNotification_heeds _ _ _) fun _ => heeds_pure _
  · exact .bind (heeds_segment rfl) fun _ => heeds_pure _
  · exact .bind (openSelector_heeds _ _) fun _ => heeds_pure _

/-- A queue of effects heeds if holding an action does. -/
theorem applyEffectQueue_heeds (holds : ∀ action, (held action).Heeds host) (ident : String)
    (ctx : ModeCtx) (run : EffectRun) (applied : EffectApplication) (effects : List Effect) :
    (applyEffectQueue held ident ctx run applied effects).Heeds host := by
  induction effects generalizing applied with
  | nil => exact heeds_pure _
  | cons effect rest ih =>
    apply Heeds.bind (applyEffect_heeds holds ident ctx run effect)
    intro outcome
    exact .ite (heeds_pure _) (ih _)

end Queue

/-- A repeated action heeds. -/
theorem runRepeatedAction_heeds (ident : String) (action : HandlerRef) (ctx : ModeCtx)
    (run : EffectRun) :
    (runRepeatedAction ident action ctx run : Activity T EffectApplication).Heeds host := by
  -- A handler that is gone has no effects to apply.
  apply Heeds.bind
  · exact heeds_attempt rfl rfl fun _ failed => congrArg not failed
  · intro answer
    cases answer with
    | none => exact heeds_pure _
    | some result =>
      apply Heeds.bind
      · exact applyEffectQueue_heeds (fun _ => heeds_pure _) ident ctx run {} result.effects
      · exact fun _ => heeds_pure _

/-- Holding an action until key-up heeds. -/
theorem startUntilKeyup_heeds (ident : String) (ctx : ModeCtx) (action : HandlerRef) :
    (startUntilKeyup ident ctx action : Activity T EffectApplication).Heeds host := by
  apply Heeds.bind (runRepeatedAction_heeds ident action ctx .repeatedFirst)
  intro first
  exact .ite (heeds_pure _) (.bind (heeds_segment rfl) fun _ => heeds_pure _)

/-- The effects of an activation heed. -/
theorem applyEffects_heeds (ident : String) (effects : List Effect) (ctx : ModeCtx) :
    (applyEffects ident effects ctx : Activity T Engine.DispatchResult).Heeds host :=
  .bind (applyEffectQueue_heeds (startUntilKeyup_heeds ident ctx) ident ctx .oneShot {} effects)
    fun _ => heeds_pure _

/-- What follows a closed selector ends with a refresh. -/
theorem completeClose_clears (ident : String) (focus : Option FocusSnapshot)
    (close : SelectorClose) : (completeClose ident focus close : Activity T Unit).Clears host := by
  apply clears_after
  · exact heeds_attempt rfl rfl fun _ failed => congrArg not failed
  · intro answer
    cases answer with
    | none => exact rebindAndRefresh_clears focus
    | some result =>
      exact clears_after (applyEffects_heeds _ _ _) fun _ => rebindAndRefresh_clears focus

/-- A key of a selector settles: it closes the selector and refreshes, or changes no modes. -/
theorem handleInput_settles (chord : Chord) (ident : String) (focus : Option FocusSnapshot) :
    (handleInput chord ident focus : Activity T Bool).Settles host := by
  -- An error is refused before anything changes; otherwise the answer decides.
  intro duty clear
  apply Keeps.bind
  apply keeps_attempt rfl (Duty.allowed_of_plain rfl)
  intro engine careful
  show Continues _ _ (engine.core.handleSelectorInput host chord).1 _
  cases answered : (engine.core.handleSelectorInput host chord).1 with
  | error error => exact careful.passes rfl (Segment.refused_of_error answered)
  | ok input =>
    have stays : (∀ close, input ≠ .close close) →
        (duty.next host engine (.selectorInput chord)).due = false := by
      intro stays
      have alike := (engine.core.handleSelectorInput_undisturbed chord
        (Core.handleSelectorInput_closes answered stays)).runtime.modes
      have still : (Segment.selectorInput chord).disturbs host engine = false :=
        decide_eq_false (not_not.mpr alike)
      cases duty with
      | tick => rfl
      | owing due =>
        show (due || (Segment.selectorInput chord).disturbs host engine) = false
        rw [still, Bool.or_false]
        exact clear
    cases input with
    | close close =>
      apply Keeps.bind
      refine (completeClose_clears ident focus close _).mono fun result after cleared => ?_
      cases result with
      | ok value => exact cleared
      | error error => exact cleared
    | inactive => exact stays fun _ same => by cases same
    | consumed => exact stays fun _ same => by cases same
    | update snapshot => exact stays fun _ same => by cases same

/-- A binding that is executed leaves no refresh due if it fails or asks for none. -/
theorem executeBinding_keeps (ident : String) (binding : Binding) (ctx : ModeCtx)
    (clear : duty.due = false) :
    (executeBinding ident binding ctx : Activity T (Option Engine.DispatchResult)).Keeps host duty
      fun result after => (∀ outcome, result ≠ .ok (some outcome)) → after.due = false := by
  unfold executeBinding
  split
  · -- Entering a mode asks for a refresh.
    apply Keeps.bind
    apply keeps_segment (Duty.allowed_of_plain rfl)
    exact fun engine _ => fun other => absurd rfl (other _)
  -- A handler that fails or returns nothing leaves the modes alone.
  · apply Keeps.bind
    apply keeps_attempt rfl (Duty.allowed_of_plain rfl)
    intro engine careful
    rw [Duty.next_of_calm rfl]
    show Continues _ _ (engine.core.callHandler host _ ctx .heldKey).1 duty
    cases (engine.core.callHandler host _ ctx .heldKey).1 with
    | error error => exact fun _ => clear
    | ok answer =>
      cases answer with
      | none => exact fun _ => clear
      | some result =>
        apply Keeps.bind
        refine (applyEffects_heeds ident result.effects ctx duty).mono
          fun outcome after failed => ?_
        cases outcome with
        | ok value => exact fun other => absurd rfl (other _)
        | error error => exact fun _ => failed rfl

/-- Taking a focus into the cache settles. -/
theorem applyWorldFocusSnapshot_settles (focus : Option FocusSnapshot) :
    (applyWorldFocusSnapshot focus : Activity T Unit).Settles host := by
  apply Settles.bind (still_segment rfl rfl).settles
  intro changed
  split
  · exact .bind look_still.settles fun _ => (rebindAndRefresh_clears _).settles
  · exact (still_pure ()).settles

/-- So does taking that of the world. -/
theorem refreshWorldFocus_settles : (refreshWorldFocus : Activity T Unit).Settles host := by
  apply Settles.bind (still_segment rfl rfl).settles
  intro changed
  split
  · exact .bind look_still.settles fun _ => (rebindAndRefresh_clears _).settles
  · exact (still_pure ()).settles

/-- Handling a key-down settles. -/
theorem handleKeyEvent_settles (chord : Chord) (ident : String)
    (refreshWorld allowPressFeedback : Bool) :
    (handleKeyEvent host chord ident refreshWorld allowPressFeedback).Settles host := by
  -- Whatever the binding did, the rebind at the end clears every duty.
  have finished : ∀ (result : Engine.DispatchResult) (focus : Option FocusSnapshot),
      ((do
        if result.shouldAutoExit then autoExit
        rebindAndRefresh focus) : Activity T Unit).Clears host := by
    intro result focus
    dsimp only
    split
    · apply clears_after
      · exact .bind (heeds_segment rfl) fun _ => heeds_pure _
      · exact fun _ => rebindAndRefresh_clears focus
    · exact rebindAndRefresh_clears focus
  -- Without looking at the world first, the event is handled for the focus the engine knows.
  have handled : (handleKeyEvent host chord ident false allowPressFeedback).Settles host := by
    unfold handleKeyEvent
    rw [Bool.false_and, if_neg Bool.false_ne_true]
    apply Settles.bind look_still.settles
    intro first
    apply Settles.bind look_still.settles
    intro second
    dsimp only
    split
    · exact (still_pure ()).settles
    · apply Settles.bind (handleInput_settles _ _ _)
      intro consumed
      split
      · exact (still_pure ()).settles
      · apply Settles.bind (still_segment rfl rfl).settles
        intro resolved
        cases resolved with
        | none => exact (still_pure ()).settles
        | some resolved =>
          -- Only an executed binding leaves a duty, and the event goes on to its end then.
          intro duty clear
          apply Keeps.bind
          refine (executeBinding_keeps ident resolved.1 resolved.2 clear).mono
            fun result after ended => ?_
          cases result with
          | error error => exact ended fun _ same => by cases same
          | ok executed =>
            cases executed with
            | none => exact ended fun _ same => by cases same
            | some result => exact finished result _ after
  unfold handleKeyEvent
  dsimp only
  split
  · exact .bind refreshWorldFocus_settles fun _ => handled
  · exact handled

/-- Dispatching a key event settles. -/
theorem dispatchResolved_settles (ident : String) (chord : Chord) (kind : EventKind)
    (repeated refreshWorld : Bool) :
    (dispatchResolved host ident chord kind repeated refreshWorld).Settles host := by
  -- A press executes its binding, a repeat is one for an open selector, and a key-up tells the HUD.
  cases kind with
  | keyDown =>
    cases repeated with
    | true =>
      apply Settles.bind look_still.settles
      intro engine
      split
      · exact handleKeyEvent_settles _ _ _ _
      · exact (still_pure ()).settles
    | false =>
      apply Settles.bind (still_segment rfl rfl).settles
      exact fun initialDown => handleKeyEvent_settles _ _ _ _
  | keyUp =>
    apply Settles.bind (still_segment rfl rfl).settles
    intro released
    apply Settles.bind (still_segment rfl rfl).settles
    intro _
    cases released with
    | none => exact (still_pure ()).settles
    | some state =>
      exact .ite (still_segment rfl rfl).settles (still_pure ()).settles

/-- Publishing the HUD for new displays makes no refresh due. -/
theorem refreshDisplaysIfChanged_still :
    (refreshDisplaysIfChanged : Activity T Unit).Still host := by
  apply Still.bind (still_segment rfl rfl)
  intro answer
  cases answer with
  | none => exact still_pure ()
  | some displays =>
    apply Still.bind look_still
    exact fun _ => still_attempt rfl rfl rfl

/-- A tick gives only what it may. -/
theorem tick_keeps (ident : String) (held : RepeatedAction) (duty : Duty) :
    (tick ident held : Activity T Unit).Keeps host duty fun _ _ => True := by
  -- A tick that fails ends its loop, and so does one that asks for it.
  have stopped : ∀ duty, (segment (.stopLoop ident) : Activity T Unit).Keeps host duty
      fun _ _ => True :=
    fun duty => keeps_segment (Duty.allowed_of_plain rfl) fun _ _ => trivial
  apply Keeps.tryCatch
  apply Keeps.bind
  refine (runRepeatedAction_heeds ident held.action held.ctx .repeatedTick duty).mono
    fun result after _ => ?_
  cases result with
  | error error => exact stopped after
  | ok applied =>
    show Keeps host (if applied.terminal then segment (.stopLoop ident) else pure ()) after _
    split
    · exact keeps_segment (Duty.allowed_of_plain rfl) fun _ _ => trivial
    · exact keeps_pure trivial

end Activity

/-- Every operation ends with no refresh due. -/
theorem engineOperations_settle (operation : EngineOperation) :
    ((engineOperations host).program operation).Keeps (Segment.perform host) (Duty.ownership host)
      (fun _ after => after.due = false) (Duty.fresh operation) := by
  cases operation with
  | dispatch ident chord kind repeated physical =>
    exact Activity.dispatchResolved_settles ident chord kind repeated physical _ rfl
  | focusChanged focus => exact Activity.applyWorldFocusSnapshot_settles focus _ rfl
  | tick ident held =>
    -- A tick owes nothing throughout.
    have tick := @Activity.tick_keeps T _ host ident held .tick
    have kept := Program.Keeps.along tick (fun duty => duty = .tick)
      (fun duty engine segment same => by rw [same]; rfl) rfl
    exact kept.mono fun _ after ended => by rw [ended.2]; rfl
  | selectorNotify =>
    exact (@Activity.still_attempt T _ Unit host .selectorNotify rfl rfl rfl).settles _ rfl
  | setConfigPath path => exact (Activity.installConfig_still path .resetFocus).settles _ rfl
  | refreshDisplays => exact Activity.refreshDisplaysIfChanged_still.settles _ rfl

/-- The registered keys follow the last plan, or some operation owes a refresh. -/
def LiveEngine.Attended (host : Surroundings T) (engine : LiveEngine T) (duties : List Duty) :
    Prop :=
  engine.core.FollowsPlan host.toHost ∨ ∃ duty ∈ duties, duty.due = true

/-- A duty that stays due when it changes leaves a refresh due if one was. -/
theorem due_of_set {duties : List Duty} {index : Nat} {own after : Duty}
    (owned : duties[index]? = some own) (stays : own.due = true → after.due = true)
    (owed : ∃ duty ∈ duties, duty.due = true) :
    ∃ duty ∈ duties.set index after, duty.due = true := by
  -- The duty that owes is either the one that changes or another one.
  obtain ⟨duty, member, due⟩ := owed
  obtain ⟨position, found⟩ := List.mem_iff_getElem?.mp member
  by_cases same : index = position
  · subst same
    cases owned.symm.trans found
    have within := (List.getElem?_eq_some_iff.mp found).1
    exact ⟨after, List.mem_of_getElem? (List.getElem?_set_self within), stays due⟩
  · exact ⟨duty, List.mem_of_getElem? ((List.getElem?_set_ne same).trans found), due⟩

/-- A careful segment keeps the registered keys attended. -/
theorem Segment.attended {segment : Segment T} {engine : LiveEngine T} {duties : List Duty}
    {index : Nat} {own : Duty} (owned : duties[index]? = some own)
    (careful : own.Careful host engine segment)
    (allowed : (Duty.ownership host).allowed segment) (attended : engine.Attended host duties) :
    (segment.perform host engine).2.Attended host
      (duties.set index (own.next host engine segment)) := by
  have within := (List.getElem?_eq_some_iff.mp owned).1
  cases renews : segment.renews with
  | true =>
    cases fails : segment.fails host engine with
    | false => exact .inl (segment.perform_renewed renews allowed fails)
    | true =>
      -- What is refused is undone, and what was due stays due.
      exact attended.imp
        (segment.perform_refused renews fails fun focus same => careful.restored focus same fails)
        (due_of_set owned (Duty.due_of_refused renews fails))
  | false =>
    cases disturbs : segment.disturbs host engine with
    | false =>
      exact attended.imp (segment.perform_undisturbed renews disturbs).follows
        (due_of_set owned (Duty.due_of_kept renews))
    | true =>
      -- Whoever changes the modes owes a refresh from then on.
      right
      refine ⟨_, List.mem_of_getElem? (List.getElem?_set_self within), ?_⟩
      cases own with
      | tick => cases (careful.calm rfl renews).symm.trans disturbs
      | owing due =>
        unfold Duty.next
        dsimp only
        rw [if_neg (by simp [renews]), disturbs]
        exact Bool.or_true due

/-- Along a run with due care, the registered keys follow the last plan unless an operation in
progress owes a refresh. -/
theorem attended_run (host : Surroundings T) (api : T.Api) (displays : T.Displays)
    {moves : List (PoolMove EngineOperation)}
    {last : Tracked (LiveEngine T) (@Segment.Answer T) (Except EngineError Unit) Duty}
    (run : Run (Tracked.Steps (engineOperations host) (Duty.ownership host) Duty.fresh)
      { pool := EnginePool.initial host.toHost api displays } moves last) :
    last.pool.state.core.FollowsPlan host.toHost ∨ last.Busy fun duty => duty.due = true := by
  obtain ⟨each, attended⟩ := Tracked.kept (LiveEngine.Attended host)
    (fun operation => engineOperations_settle operation)
    (fun operation attended => by
      apply attended.imp_right
      rintro ⟨duty, member, due⟩
      exact ⟨duty, List.mem_append_left _ member, due⟩)
    (fun owned careful allowed attended => Segment.attended owned careful allowed attended) run
    (.inl (Core.initial_follows api displays))
  -- What is owed is owed by an operation that has not ended.
  apply attended.imp_right
  rintro ⟨duty, member, due⟩
  apply Tracked.busy_of_owns each _ member due
  intro _ after clear
  rw [clear]
  exact Bool.false_ne_true

/--
The registered keys follow the modes.

In every run of the engine, with its operations interleaved at their awaits in any way and with due
care taken of every segment, the registered chords and the capture flag are those that the last plan
yielded for the current modes and rendered bindings, unless an operation that has changed the modes
is still in progress; and while no operation is in progress they are the selector's capture keys if
a selector is open, and those of the rendered bindings otherwise.
-/
theorem registered_keys_follow (host : Surroundings T) (api : T.Api) (displays : T.Displays)
    {moves : List (PoolMove EngineOperation)}
    {last : Tracked (LiveEngine T) (@Segment.Answer T) (Except EngineError Unit) Duty}
    (run : Run (Tracked.Steps (engineOperations host) (Duty.ownership host) Duty.fresh)
      { pool := EnginePool.initial host.toHost api displays } moves last) :
    (last.pool.state.core.FollowsPlan host.toHost ∨ last.Busy fun duty => duty.due = true) ∧
    (last.pool.Ended → last.pool.state.core.FollowsPlan host.toHost ∧
      (∀ ident, last.pool.state.core.manager.chordForIdent ident =
        (HashMap.collect last.pool.state.core.runtime.keyPairs).lookup ident) ∧
      last.pool.state.core.manager.captureGuard = last.pool.state.core.runtime.capturesAll) := by
  have follows := attended_run host api displays run
  refine ⟨follows, fun ended => ?_⟩
  have settled := follows.resolve_right (Tracked.not_busy ended _)
  exact ⟨settled, settled.keys⟩

namespace Duty

/-- What keeps the registered keys planned, said of the state before a segment: ticks leave the modes
alone, nothing but an install fails while a refresh is due, and a refresh is refused only where it
can be undone. -/
structure Prompt (host : Surroundings T) (duty : Duty) (engine : LiveEngine T)
    (segment : Segment T) : Prop where
  calm : duty = tick → segment.renews = false → segment.disturbs host engine = false
  passes : segment.installs = false → segment.fails host engine = true →
    (duty.next host engine segment).due = false
  undoable : ∀ focus, segment = .rebind focus → segment.fails host engine = true →
    engine.core.Undoable host.toHost (engine.core.firstPlan host.toHost focus).2.2

/-- What operations owe, and that what is due is seen to. -/
def promptness (host : Surroundings T) : Ownership (LiveEngine T) (Segment T) Duty :=
  { ownership host with careful := fun duty engine segment => duty.Prompt host engine segment }

/-- Whoever is prompt takes due care. -/
theorem Prompt.steps {operations : Operations (LiveEngine T) (Segment T) (@Segment.Answer T)
      EngineOperation (Except EngineError Unit)} {fresh : EngineOperation → Duty}
    {before after : Tracked (LiveEngine T) (@Segment.Answer T) (Except EngineError Unit) Duty}
    {move : PoolMove EngineOperation}
    (stepped : Tracked.Steps operations (promptness host) fresh before move after) :
    Tracked.Steps operations (ownership host) fresh before move after :=
  stepped.mono rfl fun _ _ _ prompt =>
    ⟨prompt.calm, prompt.passes, fun focus same fails => .inr (prompt.undoable focus same fails)⟩

end Duty

/--
The registered keys once the operations have ended.

In every run of the engine, with its operations interleaved in any way and every segment prompt, and
in every state in which no operation in progress owes a refresh, as after an operation that ended
alone, with or without an error: the registered chords and the capture flag are what the last plan
yielded for the current modes and rendered bindings. While a selector is open these are its capture
keys and the keyboard is captured; otherwise they are the chords of the rendered bindings, and the
keyboard is captured exactly if the HUD is shown and they ask for it.
-/
theorem keys_planned (host : Surroundings T) (api : T.Api) (displays : T.Displays)
    {moves : List (PoolMove EngineOperation)}
    {last : Tracked (LiveEngine T) (@Segment.Answer T) (Except EngineError Unit) Duty}
    (run : Run (Tracked.Steps (engineOperations host) (Duty.promptness host) Duty.fresh)
      { pool := EnginePool.initial host.toHost api displays } moves last)
    (settled : ¬ last.Busy fun duty => duty.due = true) :
    last.pool.state.core.FollowsPlan host.toHost ∧
    (last.pool.state.core.runtime.selector.isSome = true →
      (∀ ident, last.pool.state.core.manager.chordForIdent ident =
        (HashMap.collect selectorKeyPairs).lookup ident) ∧
      last.pool.state.core.manager.captureGuard = true) ∧
    (last.pool.state.core.runtime.selector.isSome = false →
      (∀ ident, last.pool.state.core.manager.chordForIdent ident = (HashMap.collect
        (bindingKeyPairs last.pool.state.core.runtime.rendered.bindings)).lookup ident) ∧
      last.pool.state.core.manager.captureGuard =
        (last.pool.state.core.runtime.hudVisible &&
          last.pool.state.core.runtime.rendered.capture)) := by
  have careful := run.mono fun stepped => Duty.Prompt.steps stepped
  have follows := (attended_run host api displays careful).resolve_right settled
  obtain ⟨chords, guard⟩ := follows.keys
  -- What should be registered depends on whether a selector is open.
  refine ⟨follows, fun open_ => ⟨fun ident => ?_, ?_⟩, fun closed => ⟨fun ident => ?_, ?_⟩⟩
  · rw [chords, RuntimeState.keyPairs, if_pos open_]
  · rw [guard, RuntimeState.capturesAll, open_, Bool.true_or]
  · rw [chords, RuntimeState.keyPairs, if_neg (by simp [closed])]
  · rw [guard, RuntimeState.capturesAll, closed, Bool.false_or]

/-- A configuration whose handler shows the HUD on a key. -/
private def showingHost : Surroundings Core.registryExternals where
  script := {
    rendererHost fun _ _ =>
      .ok ([⟨⟨∅, .a⟩, "show", .handler ⟨2⟩, none, {}, false, none⟩], true) with
    callHandler := fun vm _ _ _ => (.ok ⟨[.nav .showRoot], false⟩, vm) }
  matching := ⟨fun items => items.length, fun matcher _ => matcher, fun matcher => (false, matcher),
    id, fun _ _ => none, fun _ _ _ => []⟩
  hotkeys := registryApi fun _ => none
  defaultStyle := false
  load _ _ := .ok ⟨⟨0, 0, none⟩, false, (), none, ∅⟩
  uiAccepts _ := true
  displays _ := (0 : Nat)
  order _ := ⟨.stored _, .stored _, .stored _⟩
  worldFocus _ := none
  resolveApplication _ _ := .notRunning
  isHudMode style := style
  syncOnDispatch := false

/-- The operations in progress under that configuration, with what they owe. -/
private abbrev ShowingTracked : Type :=
  Tracked (LiveEngine Core.registryExternals) (@Segment.Answer Core.registryExternals)
    (Except EngineError Unit) Duty

/-- A step in which no segment fails, and that no tick makes. -/
private def passingStep (tracked : ShowingTracked) (move : PoolMove EngineOperation) :
    Option ShowingTracked :=
  match move with
  | .start operation =>
    (tracked.pool.step (engineOperations showingHost) move).map fun next =>
      ⟨next, tracked.owns ++ [Duty.fresh operation]⟩
  | .resume index =>
    match tracked.pool.tasks[index]?, tracked.owns[index]? with
    | some (.call segment _), some (.owing due) =>
      if segment.fails showingHost tracked.pool.state then none
      else (tracked.pool.step (engineOperations showingHost) move).map fun next =>
        ⟨next, tracked.owns.set index
          ((Duty.owing due).next showingHost tracked.pool.state segment)⟩
    | _, _ => none

/-- Such a step is prompt. -/
private theorem passingStep_prompt {tracked next : ShowingTracked}
    {move : PoolMove EngineOperation} (stepped : passingStep tracked move = some next) :
    Tracked.Steps (engineOperations showingHost) (Duty.promptness showingHost) Duty.fresh tracked
      move next := by
  -- The passing step checks the very permission that is asked for.
  unfold passingStep at stepped
  split at stepped
  · rename_i operation
    obtain ⟨pool, moved, rfl⟩ := Option.map_eq_some_iff.mp stepped
    exact Tracked.Steps.start operation moved
  · rename_i index
    split at stepped
    · rename_i segment further due found owned
      split at stepped
      · cases stepped
      · rename_i passes
        obtain ⟨pool, moved, rfl⟩ := Option.map_eq_some_iff.mp stepped
        have prompt : (Duty.owing due).Prompt showingHost tracked.pool.state segment :=
          { calm := Duty.noConfusion
            passes := fun _ fails => absurd fails passes
            undoable := fun _ _ fails => absurd fails passes }
        exact Tracked.Steps.resume index segment (Duty.owing due) ⟨index, further, rfl, found⟩
          owned prompt moved
    · cases stepped

/-- Whether an operation has ended. -/
private def hasEnded (program : Program (@Segment.Answer Core.registryExternals)
    (Except EngineError Unit)) : Bool :=
  match program with
  | .done _ => true
  | .call _ _ => false

/-- A pool has ended if each of its operations has. -/
private theorem ended_of_all {pool : EnginePool Core.registryExternals}
    (all : pool.tasks.all hasEnded = true) : pool.Ended := by
  intro program member
  have ended := List.all_eq_true.mp all program member
  cases program with
  | done result => exact ⟨result, rfl⟩
  | call segment further => cases ended

/-- A run that installs the configuration and shows the HUD, which has every key captured. -/
private theorem showing_run :
    ∃ moves last, Run (Tracked.Steps (engineOperations showingHost) (Duty.promptness showingHost)
        Duty.fresh) { pool := EnginePool.initial showingHost.toHost ({} : RegistryApi) (0 : Nat) }
        moves last ∧
      last.pool.state.core.runtime.hudVisible = true ∧
      last.pool.state.core.manager.captureGuard = true ∧ last.pool.Ended := by
  let moves : List (PoolMove EngineOperation) :=
    [.start (.setConfigPath "config.luau"), .resume 0, .resume 0,
      .start (.dispatch "a" ⟨∅, .a⟩ .keyDown false true)] ++ List.replicate 8 (.resume 1)
  obtain ⟨last, seen, run⟩ := Run.of_foldlM passingStep
    { pool := EnginePool.initial showingHost.toHost ({} : RegistryApi) (0 : Nat) } moves
    (fun tracked => (tracked.pool.state.core.runtime.hudVisible,
      tracked.pool.state.core.manager.captureGuard, tracked.pool.tasks.all hasEnded))
    (true, true, true) (by decide +kernel)
  have prompt := run.mono fun stepped => passingStep_prompt stepped
  obtain ⟨shown, captured, ended⟩ := Prod.mk.inj seen |>.imp_right Prod.mk.inj
  exact ⟨moves, last, prompt, shown, captured, ended_of_all ended⟩

/-- The conclusion at a run that installs the configuration and shows the HUD, which has every key
captured. -/
theorem registered_keys_follow_shown :
    ∃ moves last, Run (Tracked.Steps (engineOperations showingHost) (Duty.ownership showingHost)
        Duty.fresh) { pool := EnginePool.initial showingHost.toHost ({} : RegistryApi) (0 : Nat) }
        moves last ∧
      last.pool.state.core.runtime.hudVisible = true ∧
      last.pool.state.core.manager.captureGuard = true ∧ last.pool.Ended ∧
      ((last.pool.state.core.FollowsPlan showingHost.toHost ∨
        last.Busy fun duty => duty.due = true) ∧
      (last.pool.Ended → last.pool.state.core.FollowsPlan showingHost.toHost ∧
        (∀ ident, last.pool.state.core.manager.chordForIdent ident =
          (HashMap.collect last.pool.state.core.runtime.keyPairs).lookup ident) ∧
        last.pool.state.core.manager.captureGuard =
          last.pool.state.core.runtime.capturesAll)) := by
  obtain ⟨moves, last, prompt, shown, captured, ended⟩ := showing_run
  have careful := prompt.mono fun stepped => Duty.Prompt.steps stepped
  exact ⟨moves, last, careful, shown, captured, ended,
    registered_keys_follow showingHost ({} : RegistryApi) (0 : Nat) careful⟩

/-- The same run ends with the chord of the one rendered binding registered, and captures for it. -/
theorem keys_planned_shown :
    ∃ moves last, Run (Tracked.Steps (engineOperations showingHost) (Duty.promptness showingHost)
        Duty.fresh) { pool := EnginePool.initial showingHost.toHost ({} : RegistryApi) (0 : Nat) }
        moves last ∧
      last.pool.state.core.runtime.hudVisible = true ∧ last.pool.Ended ∧
      last.pool.state.core.FollowsPlan showingHost.toHost ∧
      (last.pool.state.core.runtime.selector.isSome = true →
        (∀ ident, last.pool.state.core.manager.chordForIdent ident =
          (HashMap.collect selectorKeyPairs).lookup ident) ∧
        last.pool.state.core.manager.captureGuard = true) ∧
      (last.pool.state.core.runtime.selector.isSome = false →
        (∀ ident, last.pool.state.core.manager.chordForIdent ident = (HashMap.collect
          (bindingKeyPairs last.pool.state.core.runtime.rendered.bindings)).lookup ident) ∧
        last.pool.state.core.manager.captureGuard =
          (last.pool.state.core.runtime.hudVisible &&
            last.pool.state.core.runtime.rendered.capture)) := by
  obtain ⟨moves, last, prompt, shown, _, ended⟩ := showing_run
  exact ⟨moves, last, prompt, shown, ended,
    keys_planned showingHost ({} : RegistryApi) (0 : Nat) prompt (Tracked.not_busy ended _)⟩

/-- The configuration with a handler that also notifies, which the UI channel does not take. -/
private def fullHost : Surroundings Core.registryExternals :=
  { showingHost with
    script := { showingHost.script with
      callHandler := fun vm _ _ _ =>
        (.ok ⟨[.nav .showRoot, .notify .info "Test" "body"], false⟩, vm) }
    uiAccepts := fun reading => reading != 4 }

/-- A configuration whose handler holds an action that hides the HUD, and then shows the HUD. -/
private def hidingHost : Surroundings Core.registryExternals :=
  { showingHost with
    script := { showingHost.script with
      callHandler := fun vm handler _ _ =>
        (.ok ⟨if handler = 2 then [.untilKeyUp ⟨3⟩ none, .nav .showRoot] else [.nav .hideHud],
          true⟩, vm) } }

/-- The install of a configuration, and a press of its key. -/
private def installedAndPressed : List (PoolMove EngineOperation) :=
  [.start (.setConfigPath "config.luau"), .resume 0, .resume 0,
    .start (.dispatch "a" ⟨∅, .a⟩ .keyDown false true)]

/-- What is seen at the end: whether every operation has ended, and whether the keyboard is captured
and should be. -/
private def seenCapture (pool : EnginePool Core.registryExternals) : Bool × Bool × Bool :=
  (pool.tasks.all hasEnded, pool.state.core.manager.captureGuard,
    pool.state.core.runtime.capturesAll)

/-- An error after a navigation ends a dispatch before its refresh, and a tick is never followed by
one: every operation has ended, and the keyboard is not captured though it should be, or captured
though it should not. -/
theorem keys_planned_unplanned :
    (∃ moves last, Run (Pool.Steps (engineOperations fullHost))
        (EnginePool.initial fullHost.toHost ({} : RegistryApi) (0 : Nat)) moves last ∧
      last.Ended ∧ last.state.core.manager.captureGuard = false ∧
      last.state.core.runtime.capturesAll = true) ∧
    ∃ moves last, Run (Pool.Steps (engineOperations hidingHost))
        (EnginePool.initial hidingHost.toHost ({} : RegistryApi) (0 : Nat)) moves last ∧
      last.Ended ∧ last.state.core.manager.captureGuard = true ∧
      last.state.core.runtime.capturesAll = false := by
  constructor
  · -- The handler shows the HUD, and its notice is refused.
    obtain ⟨last, seen, run⟩ := Run.of_foldlM (Pool.step (engineOperations fullHost))
      (EnginePool.initial fullHost.toHost ({} : RegistryApi) (0 : Nat))
      (installedAndPressed ++ List.replicate 8 (.resume 1)) seenCapture (true, false, true)
      (by decide +kernel)
    obtain ⟨ended, guard, captures⟩ := Prod.mk.inj seen |>.imp_right Prod.mk.inj
    exact ⟨_, last, run, ended_of_all ended, guard, captures⟩
  · -- The press ends with the HUD shown and captured, and the tick of the held action hides it.
    obtain ⟨last, seen, run⟩ := Run.of_foldlM (Pool.step (engineOperations hidingHost))
      (EnginePool.initial hidingHost.toHost ({} : RegistryApi) (0 : Nat))
      (installedAndPressed ++ List.replicate 11 (.resume 1) ++
        [.start (.tick "a" ⟨⟨3⟩, ⟨none, false, 0⟩⟩), .resume 2, .resume 2])
      seenCapture (true, true, false) (by decide +kernel)
    obtain ⟨ended, guard, captures⟩ := Prod.mk.inj seen |>.imp_right Prod.mk.inj
    exact ⟨_, last, run, ended_of_all ended, guard, captures⟩

end Hotki
