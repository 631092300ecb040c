import Hotki.Base.Transcript
import Hotki.Script.Render

/-! The action context of a handler: its calls queue effects until it is finished. -/

namespace Hotki

open Base

/-- A call of an action context, with its arguments as they were parsed. -/
inductive ContextCall where
  | notify (kind : NotifyKind) (title body : String)
  | stay
  | push (mode : ModeRef) (title : Option String)
  | pop
  | exit
  | showRoot
  | hideHud
  | reloadConfig
  | clearNotifications
  | shell (cmd : String) (opts : Option (Option NotifyKind × Option NotifyKind))
  | exec (spec : ExecSpec)
  | openTarget (target : String)
  | relay (spec : String)
  | relayToApp (appName spec : String)
  | showMainWindow (switch : Toggle)
  | setVolume (level : UInt8)
  | changeVolume (delta : Int8)
  | mute (switch : Toggle)
  | untilKeyup (action : HandlerRef) (timing : Option ScriptRepeat)
  | select (config : SelectorConfig)
  /-- A call whose arguments were refused before it reached the context. -/
  | malformed (error : String)
  deriving DecidableEq

/-- What a handler's calls collect, shared by all clones of its context. -/
structure ActionCtx where
  /-- Whether this context may create an until-keyup loop. -/
  permission : ActionRepeatPermission
  /-- Queued side effects. -/
  effects : List Effect := []
  /-- Whether the handler requested stay-in-mode behavior. -/
  stay : Bool := false
  /-- Whether the context is still valid for host effects. -/
  active : Bool := true
  /-- Whether an until-keyup loop was already requested. -/
  untilKeyup : Bool := false

/-- Builds a shell spec from parsed options. -/
def shellSpec (cmd : String) (opts : Option (Option NotifyKind × Option NotifyKind)) : ShellSpec :=
  let defaults : ShellSpec := { command := cmd }
  match opts with
  | some (okNotify, errNotify) =>
    ⟨cmd, okNotify.getD defaults.okNotify, errNotify.getD defaults.errNotify⟩
  | none => defaults

namespace ActionCtx

/-- The error of a call on a context that is no longer usable. -/
def ensureActive (ctx : ActionCtx) : Except String Unit :=
  if ctx.active then .ok () else .error "ActionContext is no longer valid"

/-- Pushes a new effect into the queue. -/
def pushEffect (ctx : ActionCtx) (effect : Effect) : Except String Unit × ActionCtx :=
  match ctx.ensureActive with
  | .error error => (.error error, ctx)
  | .ok () => (.ok (), { ctx with effects := ctx.effects ++ [effect] })

/-- Pushes an ordered navigation effect into the queue. -/
def pushNav (ctx : ActionCtx) (request : NavRequest) : Except String Unit × ActionCtx :=
  ctx.pushEffect (.nav request)

/-- Pushes an action effect into the queue. -/
def pushExec (ctx : ActionCtx) (action : Action) : Except String Unit × ActionCtx :=
  ctx.pushEffect (.exec action)

/-- Pushes an until-keyup effect into the queue. -/
def pushUntilKeyup (ctx : ActionCtx) (action : HandlerRef) (timing : Option ScriptRepeat) :
    Except String Unit × ActionCtx :=
  match ctx.ensureActive with
  | .error error => (.error error, ctx)
  | .ok () =>
    match ctx.permission with
    | .keyless => (.error "ctx:until_keyup requires a held triggering key", ctx)
    | .repeatedAction => (.error "ctx:until_keyup cannot be nested inside a repeated action", ctx)
    | .heldKey =>
      if ctx.untilKeyup then (.error "ctx:until_keyup can only be called once per action", ctx)
      else
        let effects := ctx.effects ++ [.untilKeyUp action timing]
        (.ok (), { ctx with effects, untilKeyup := true })

/-- Requests that the engine stays in the current mode. -/
def setStay (ctx : ActionCtx) : Except String Unit × ActionCtx :=
  match ctx.ensureActive with
  | .error error => (.error error, ctx)
  | .ok () => (.ok (), { ctx with stay := true })

/-- Answers one call. -/
def call (ctx : ActionCtx) : ContextCall → Except String Unit × ActionCtx
  | .notify kind title body => ctx.pushEffect (.notify kind title body)
  | .stay => ctx.setStay
  | .push mode title => ctx.pushNav (.push mode title)
  | .pop => ctx.pushNav .pop
  | .exit => ctx.pushNav .exit
  | .showRoot => ctx.pushNav .showRoot
  | .hideHud => ctx.pushNav .hideHud
  | .reloadConfig => ctx.pushExec .reloadConfig
  | .clearNotifications => ctx.pushExec .clearNotifications
  | .shell cmd opts => ctx.pushExec (.shell (shellSpec cmd opts))
  | .exec spec => ctx.pushExec (.exec spec)
  | .openTarget target => ctx.pushExec (.openTarget target)
  | .relay spec => ctx.pushExec (.relay ⟨spec, .focused⟩)
  | .relayToApp appName spec =>
    if appName.isEmpty then (.error "ctx:relay_to_app app_name must not be empty", ctx)
    else ctx.pushExec (.relay ⟨spec, .applicationName appName⟩)
  | .showMainWindow switch => ctx.pushExec (.showMainWindow switch)
  | .setVolume level => ctx.pushExec (.setVolume level)
  | .changeVolume delta => ctx.pushExec (.changeVolume delta)
  | .mute switch => ctx.pushExec (.mute switch)
  | .untilKeyup action timing => ctx.pushUntilKeyup action timing
  | .select config => ctx.pushEffect (.select config)
  | .malformed error => (.error error, ctx)

/-- Finishes the context, invalidates it, and drains the queued effects. -/
def finish (ctx : ActionCtx) : HandlerResult × ActionCtx :=
  (⟨ctx.effects, ctx.stay⟩, { ctx with active := false, effects := [] })

/-- Invalidates the context without handing over its effects. -/
def invalidate (ctx : ActionCtx) : ActionCtx := { ctx with active := false, effects := [] }

end ActionCtx

/-- What may happen to a context, by any of its clones. -/
inductive ContextEvent where
  | call (call : ContextCall)
  | finish
  | invalidate

/-- What was seen of an event. -/
inductive ContextLabel where
  | accepted (call : ContextCall)
  | rejected (call : ContextCall) (error : String)
  | finished (result : HandlerResult)
  | invalidated

/-- What was seen of a call. -/
def ContextLabel.ofAnswer (call : ContextCall) : Except String Unit → ContextLabel
  | .ok () => .accepted call
  | .error error => .rejected call error

/-- What an event shows and makes of a context. -/
def ActionCtx.step (ctx : ActionCtx) : ContextEvent → ContextLabel × ActionCtx
  | .call call =>
    let (answer, next) := ctx.call call
    (.ofAnswer call answer, next)
  | .finish =>
    let (result, next) := ctx.finish
    (.finished result, next)
  | .invalidate => (.invalidated, ctx.invalidate)

/-- A step of a context. -/
def ActionCtx.Steps (ctx : ActionCtx) (label : ContextLabel) (next : ActionCtx) : Prop :=
  ∃ event, ctx.step event = (label, next)

/-- A handler closure: the calls it makes, going on with each answer, and how it ends. -/
abbrev HandlerScript := Program (fun _ : ContextCall => Except String Unit) (Except String Unit)

/-- The calls a handler makes on a context, each with its answer. -/
def HandlerScript.seen : HandlerScript → ActionCtx → List ContextLabel
  | .done _, _ => []
  | .call command next, ctx =>
    let (answer, after) := ctx.call command
    .ofAnswer command answer :: seen (next answer) after

/-- How a handler ends, and the context it leaves. -/
def HandlerScript.played (handler : HandlerScript) (ctx : ActionCtx) :
    Except String Unit × ActionCtx :=
  Program.run (fun call (ctx : ActionCtx) => ctx.call call) handler ctx

end Hotki
