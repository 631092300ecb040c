import Hotki.Script.ActionContext
import Hotki.Script.Handler

/-! A handler's effects are exactly its accepted calls, in order, until its context is finished. -/

namespace Hotki

open Base

/-- The effect a call asks for. -/
def ContextCall.effect : ContextCall → Option Effect
  | .notify kind title body => some (.notify kind title body)
  | .stay => none
  | .push mode title => some (.nav (.push mode title))
  | .pop => some (.nav .pop)
  | .exit => some (.nav .exit)
  | .showRoot => some (.nav .showRoot)
  | .hideHud => some (.nav .hideHud)
  | .reloadConfig => some (.exec .reloadConfig)
  | .clearNotifications => some (.exec .clearNotifications)
  | .shell cmd opts => some (.exec (.shell (shellSpec cmd opts)))
  | .exec spec => some (.exec (.exec spec))
  | .openTarget target => some (.exec (.openTarget target))
  | .relay spec => some (.exec (.relay ⟨spec, .focused⟩))
  | .relayToApp appName spec => some (.exec (.relay ⟨spec, .applicationName appName⟩))
  | .showMainWindow switch => some (.exec (.showMainWindow switch))
  | .setVolume level => some (.exec (.setVolume level))
  | .changeVolume delta => some (.exec (.changeVolume delta))
  | .mute switch => some (.exec (.mute switch))
  | .untilKeyup action timing => some (.untilKeyUp action timing)
  | .select config => some (.select config)
  | .malformed _ => none

/-- Whether the arguments of a call are in order. -/
def ContextCall.isWellFormed : ContextCall → Bool
  | .malformed _ => false
  | .relayToApp appName _ => !appName.isEmpty
  | _ => true

/-- Whether an effect holds its action until the key is released. -/
def Effect.holds : Effect → Bool
  | .untilKeyUp _ _ => true
  | _ => false

namespace ContextLabel

/-- The effect of an accepted call. -/
def effect : ContextLabel → Option Effect
  | accepted call => call.effect
  | rejected _ _ | finished _ | invalidated => none

/-- Whether the context is unusable from here on. -/
def ends : ContextLabel → Bool
  | finished _ | invalidated => true
  | accepted _ | rejected _ _ => false

end ContextLabel

/-- The effects of the accepted calls, in call order. -/
def acceptedEffects (labels : List ContextLabel) : List Effect :=
  labels.filterMap ContextLabel.effect

namespace ActionCtx

variable {ctx next : ActionCtx} {label : ContextLabel}

/-- What an accepted call makes of a context. -/
def taking (ctx : ActionCtx) (call : ContextCall) : ActionCtx where
  permission := ctx.permission
  effects := ctx.effects ++ call.effect.toList
  stay := ctx.stay || call == .stay
  active := ctx.active
  untilKeyup := ctx.untilKeyup || call.effect.any Effect.holds

/-- A call is in order on a usable context, which it may ask once to hold its action. -/
structure Accepts (ctx : ActionCtx) (call : ContextCall) : Prop where
  active : ctx.active = true
  formed : call.isWellFormed = true
  held : call.effect.any Effect.holds → ctx.permission = .heldKey ∧ ctx.untilKeyup = false

/-- How a call was answered. -/
inductive Answered (ctx : ActionCtx) (call : ContextCall) : Except String Unit → ActionCtx → Prop
  | rejected (error : String) (refused : ¬ ctx.Accepts call) : Answered ctx call (.error error) ctx
  | accepted (accepts : ctx.Accepts call) : Answered ctx call (.ok ()) (ctx.taking call)

/-- Pushing an effect that holds nothing answers a call for that effect. -/
theorem pushEffect_answered {call : ContextCall} {effect : Effect}
    (asks : call.effect = some effect) (formed : call.isWellFormed = true)
    (holds : effect.holds = false) :
    ctx.Answered call (ctx.pushEffect effect).1 (ctx.pushEffect effect).2 := by
  -- The context is checked before the effect is pushed.
  unfold pushEffect ensureActive
  by_cases active : ctx.active
  · rw [if_pos active]
    have stay : (call == .stay) = false := by
      cases call <;> first | rfl | cases asks
    have taken :
        ({ ctx with effects := ctx.effects ++ [effect] } : ActionCtx) = ctx.taking call := by
      simp [taking, asks, holds, stay]
    dsimp only
    rw [taken]
    exact .accepted ⟨active, formed, by simp [asks, holds]⟩
  · rw [if_neg active]
    exact .rejected _ fun accepts => active accepts.active

/-- Asking to stay answers that call. -/
theorem setStay_answered (ctx : ActionCtx) : ctx.Answered .stay ctx.setStay.1 ctx.setStay.2 := by
  unfold setStay ensureActive
  by_cases active : ctx.active
  · rw [if_pos active]
    have taken : ({ ctx with stay := true } : ActionCtx) = ctx.taking .stay := by
      simp [taking, ContextCall.effect]
    dsimp only
    rw [taken]
    exact .accepted ⟨active, rfl, by simp [ContextCall.effect]⟩
  · rw [if_neg active]
    exact .rejected _ fun accepts => active accepts.active

/-- Asking to hold an action answers that call, once and only for a held key. -/
theorem pushUntilKeyup_answered (ctx : ActionCtx) (action : HandlerRef)
    (timing : Option ScriptRepeat) :
    ctx.Answered (.untilKeyup action timing) (ctx.pushUntilKeyup action timing).1
      (ctx.pushUntilKeyup action timing).2 := by
  unfold pushUntilKeyup ensureActive
  by_cases active : ctx.active
  · rw [if_pos active]
    dsimp only
    -- An accepted request would come from a held key, and be the first.
    have first : ctx.Accepts (.untilKeyup action timing) →
        ctx.permission = .heldKey ∧ ctx.untilKeyup = false := fun accepts => accepts.held rfl
    cases permission : ctx.permission with
    | keyless => exact .rejected _ fun accepts => by cases permission.symm.trans (first accepts).1
    | repeatedAction =>
      exact .rejected _ fun accepts => by cases permission.symm.trans (first accepts).1
    | heldKey =>
      dsimp only
      by_cases asked : ctx.untilKeyup
      · rw [if_pos asked]
        exact .rejected _ fun accepts => by cases asked.symm.trans (first accepts).2
      · rw [if_neg asked]
        have taken : ({ ctx with
            effects := ctx.effects ++ [.untilKeyUp action timing]
            untilKeyup := true } : ActionCtx) = ctx.taking (.untilKeyup action timing) := by
          simp [taking, ContextCall.effect, Effect.holds]
        dsimp only
        rw [← permission, taken]
        exact .accepted ⟨active, rfl, fun _ => ⟨permission, by simpa using asked⟩⟩
  · rw [if_neg active]
    exact .rejected _ fun accepts => active accepts.active

/-- Every call is rejected without a trace, or accepted on a context still usable. -/
theorem call_answered (ctx : ActionCtx) (call : ContextCall) :
    ctx.Answered call (ctx.call call).1 (ctx.call call).2 := by
  -- One case for each call, by what it asks for.
  cases call with
  | stay => exact ctx.setStay_answered
  | untilKeyup action timing => exact ctx.pushUntilKeyup_answered action timing
  | relayToApp appName spec =>
    unfold ActionCtx.call
    dsimp only
    split
    · rename_i nameless
      refine .rejected _ fun accepts => ?_
      have named : (!appName.isEmpty) = true := accepts.formed
      rw [nameless] at named
      cases named
    · rename_i named
      exact pushEffect_answered rfl (by simpa [ContextCall.isWellFormed] using named) rfl
  | malformed error => exact .rejected error fun accepts => by cases accepts.formed
  | _ => exact pushEffect_answered rfl rfl rfl

/-- What a context has collected, by what was seen of it. -/
structure Follows (permission : ActionRepeatPermission) (labels : List ContextLabel)
    (ctx : ActionCtx) : Prop where
  granted : ctx.permission = permission
  active : ctx.active = true ↔ ∀ label ∈ labels, label.ends = false
  effects : ctx.effects = if ctx.active then acceptedEffects labels else []
  stay : ctx.stay = true ↔ .accepted .stay ∈ labels
  held : (acceptedEffects labels).countP Effect.holds = if ctx.untilKeyup then 1 else 0
  permitted : ∀ effect ∈ acceptedEffects labels, effect.holds → permission = .heldKey

/-- A new context has collected nothing. -/
theorem Follows.new (permission : ActionRepeatPermission) :
    Follows permission [] { permission } where
  granted := rfl
  active := by simp
  effects := rfl
  stay := by simp
  held := rfl
  permitted := by simp [acceptedEffects]

/-- One more label accepts its own effect. -/
theorem acceptedEffects_concat (labels : List ContextLabel) (label : ContextLabel) :
    acceptedEffects (labels ++ [label]) = acceptedEffects labels ++ label.effect.toList := by
  unfold acceptedEffects
  rw [List.filterMap_append]
  cases effect : label.effect <;> simp [effect]

variable {permission : ActionRepeatPermission} {labels : List ContextLabel}

/-- A call is seen as it was answered. -/
theorem Follows.call (follows : Follows permission labels ctx) (call : ContextCall) :
    Follows permission (labels ++ [.ofAnswer call (ctx.call call).1]) (ctx.call call).2 := by
  have answered := ctx.call_answered call
  generalize (ctx.call call).1 = answer, (ctx.call call).2 = next at answered
  cases answered with
  | rejected error refused =>
    -- A rejected call is seen, and that is all.
    have none : acceptedEffects (labels ++ [.ofAnswer call (.error error)]) =
        acceptedEffects labels := by
      rw [acceptedEffects_concat]
      exact List.append_nil _
    refine ⟨follows.granted, ?_, ?_, ?_, ?_, ?_⟩
    · rw [follows.active, List.forall_mem_append, List.forall_mem_singleton]
      exact (and_iff_left rfl).symm
    · rw [none]
      exact follows.effects
    · rw [follows.stay]
      simp [ContextLabel.ofAnswer]
    · rw [none]
      exact follows.held
    · rw [none]
      exact follows.permitted
  | accepted accepts =>
    obtain ⟨active, formed, held⟩ := accepts
    have more : acceptedEffects (labels ++ [.ofAnswer call (.ok ())]) =
        acceptedEffects labels ++ call.effect.toList := acceptedEffects_concat ..
    refine ⟨follows.granted, ?_, ?_, ?_, ?_, ?_⟩
    · show ctx.active = true ↔ _
      rw [follows.active, List.forall_mem_append, List.forall_mem_singleton]
      exact (and_iff_left rfl).symm
    · rw [more]
      show ctx.effects ++ call.effect.toList = if ctx.active then _ else _
      rw [follows.effects, if_pos active, if_pos active]
    · show (ctx.stay || call == .stay) = true ↔ _
      rw [Bool.or_eq_true, follows.stay, beq_iff_eq]
      simp [ContextLabel.ofAnswer, eq_comm]
    · rw [more, List.countP_append, follows.held]
      show _ = if ctx.untilKeyup || call.effect.any Effect.holds then 1 else 0
      cases asks : call.effect with
      | none => simp
      | some effect =>
        cases holds : effect.holds with
        | false => simp [holds]
        | true =>
          -- The flag was unset, as only one such call is accepted.
          have unset := (held (by rw [asks]; exact holds)).2
          simp [holds, unset]
    · rw [more]
      intro effect among holds
      rcases List.mem_append.mp among with earlier | now
      · exact follows.permitted effect earlier holds
      · rw [← follows.granted]
        have asks : call.effect = some effect := Option.mem_toList.mp now
        exact (held (by rw [asks]; exact holds)).1

/-- Finishing and invalidating end a context. -/
theorem Follows.ended (follows : Follows permission labels ctx) {label : ContextLabel}
    (ends : label.ends) :
    Follows permission (labels ++ [label]) { ctx with active := false, effects := [] } := by
  -- Both ways to end a context leave its queue to whoever asked for it.
  have none : label.effect = none := by
    cases label with
    | accepted call => cases ends
    | rejected call error => cases ends
    | finished result => rfl
    | invalidated => rfl
  have same : acceptedEffects (labels ++ [label]) = acceptedEffects labels := by
    rw [acceptedEffects_concat, none]
    exact List.append_nil _
  refine ⟨follows.granted, ?_, rfl, ?_, ?_, ?_⟩
  · simp [ends]
  · show ctx.stay = true ↔ _
    rw [follows.stay, List.mem_append]
    refine ⟨.inl, fun seen => seen.elim id fun last => ?_⟩
    rw [← List.mem_singleton.mp last] at ends
    cases ends
  · rw [same]
    exact follows.held
  · rw [same]
    exact follows.permitted

/-- Every step is followed. -/
theorem Follows.step (follows : Follows permission labels ctx) (stepped : ctx.Steps label next) :
    Follows permission (labels ++ [label]) next := by
  -- A call is answered, and ending a context takes its queue.
  obtain ⟨event, taken⟩ := stepped
  cases event with
  | call call =>
    cases taken
    exact follows.call call
  | finish =>
    cases taken
    exact follows.ended rfl
  | invalidate =>
    cases taken
    exact follows.ended rfl

/-- Every run is followed. -/
theorem Follows.run (run : Run Steps { permission } labels ctx) :
    Follows permission labels ctx := by
  -- The induction takes the last step of the run, so that the labels before it are known.
  induction labels using List.reverseRecOn generalizing ctx with
  | nil =>
    cases run
    exact .new permission
  | append_singleton labels label ih =>
    obtain ⟨middle, before, stepped⟩ := run.split_last
    exact (ih before).step stepped

end ActionCtx

/-- The calls of a handler are a run of its context. -/
theorem HandlerScript.run_seen (handler : HandlerScript) (ctx : ActionCtx) :
    Run ActionCtx.Steps ctx (handler.seen ctx) (handler.played ctx).2 := by
  induction handler generalizing ctx with
  | done ended => exact .nil ctx
  | call command next ih => exact .cons ⟨.call command, rfl⟩ (ih _ _)

end Hotki
