import Hotki.Script.Render

/-! Running the handlers and selector callbacks of a loaded configuration. -/

namespace Hotki.Script

variable {T : Externals} (host : ScriptHost T)

/-- The answer of a callback, once the callbacks it made and dropped are synchronized. -/
def synchronized {α : Type} (cfg : LoadedConfig T) (called : Except String α × T.Vm) :
    Except String α × LoadedConfig T :=
  match synchronizeCallbacks host { cfg with vm := called.2 } with
  | (.error error, cfg) => (.error error, cfg)
  | (.ok (), cfg) => (called.1, cfg)

/-- Executes a handler closure with an explicit repeat permission. -/
def executeHandlerWithPermission (cfg : LoadedConfig T) (handler : HandlerRef) (ctx : ModeCtx)
    (permission : ActionRepeatPermission) : Except String HandlerResult × LoadedConfig T :=
  synchronized host cfg (host.callHandler cfg.vm handler.func ctx permission)

/-- Executes a handler closure using normal held-key repeat permissions. -/
def executeHandler (cfg : LoadedConfig T) (handler : HandlerRef) (ctx : ModeCtx) :
    Except String HandlerResult × LoadedConfig T :=
  executeHandlerWithPermission host cfg handler ctx .heldKey

/-- Executes a selector's selection callback with the chosen item and final query. -/
def executeSelectorSelection (cfg : LoadedConfig T) (selector : SelectorConfig) (ctx : ModeCtx)
    (item : SelectorItem) (query : String) : Except String HandlerResult × LoadedConfig T :=
  synchronized host cfg (host.callSelection cfg.vm selector.onSelect.func ctx item query)

/-- Executes a selector's cancel callback when one is configured. -/
def executeSelectorCancel (cfg : LoadedConfig T) (selector : SelectorConfig) (ctx : ModeCtx) :
    Except String (Option HandlerResult) × LoadedConfig T :=
  match selector.onCancel with
  | none => (.ok none, cfg)
  | some handler =>
    let (result, cfg) := executeHandler host cfg handler ctx
    (result.map some, cfg)

/-- Resolves the items of a selector, evaluating its provider when configured. -/
def resolveSelectorItems (cfg : LoadedConfig T) (selector : SelectorConfig) (ctx : ModeCtx) :
    Except String (List SelectorItem) × LoadedConfig T :=
  match selector.items with
  | .listed items => (.ok items, cfg)
  | .provider func => synchronized host cfg (host.callProvider cfg.vm func ctx)

end Hotki.Script
