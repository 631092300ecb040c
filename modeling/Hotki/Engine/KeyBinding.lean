import Hotki.Base.HashMap
import Hotki.Hotkey.Registry

/-! The binding manager: identifiers, their chords, and the system registrations behind them. -/

namespace Hotki

open Base

/-- The part of the hotkey manager the engine calls, over that manager's own state. -/
structure HotkeyApi (Api Error : Type*) where
  /-- Registers an intercepting hotkey and answers its id. -/
  intercept : Api → Chord → UInt32 × Api
  /-- Removes a registration, or refuses to. -/
  unregister : Api → UInt32 → Except Error Unit × Api
  /-- Opens a capture-all scope. -/
  captureAll : Api → Api
  /-- Closes the scope of a dropped capture guard. -/
  releaseCapture : Api → Api

/-- The chord bound to an identifier and the id of its registration. -/
structure BindingRegistration where
  id : UInt32
  chord : Chord
  deriving DecidableEq

/-- The binding manager, with its registrations by identifier and the reverse lookup by id. -/
structure KeyBindingManager (Api : Type*) where
  api : Api
  bindings : HashMap String BindingRegistration := ∅
  identsById : HashMap UInt32 String := ∅
  /-- Whether a capture guard is held. -/
  captureGuard : Bool := false
  /-- The capture state the engine asked for, tracked apart from the guard. -/
  captureAllActive : Bool := false

/-- The orders in which one update visits its three hash tables. -/
structure UpdateOrder where
  desired : IterationOrder String
  desiredIdents : IterationOrder String
  current : IterationOrder String

namespace KeyBindingManager

variable {Api Error : Type*} (hotkeys : HotkeyApi Api Error)

/-- A manager without bindings over a given API. -/
def newWithApi (api : Api) : KeyBindingManager Api := { api }

/-- The registration id of an identifier. -/
def idForIdent (manager : KeyBindingManager Api) (ident : String) : Option UInt32 :=
  (manager.bindings.lookup ident).map BindingRegistration.id

/-- The chord of an identifier. -/
def chordForIdent (manager : KeyBindingManager Api) (ident : String) : Option Chord :=
  (manager.bindings.lookup ident).map BindingRegistration.chord

/-- The identifier and chord a registration id stands for. -/
def resolve (manager : KeyBindingManager Api) (id : UInt32) : Option (String × Chord) := do
  let ident ← manager.identsById.lookup id
  let binding ← manager.bindings.lookup ident
  return (ident, binding.chord)

/-- Whether the bindings are already the desired ones. -/
def bindingsMatch (manager : KeyBindingManager Api) (desired : HashMap String Chord) : Bool :=
  manager.bindings.keys.length == desired.keys.length &&
    desired.keys.all fun ident => manager.chordForIdent ident == desired.lookup ident

/-- Intercepts a chord and records it under an identifier. -/
def registerBinding (manager : KeyBindingManager Api) (ident : String) (chord : Chord) :
    KeyBindingManager Api :=
  let (id, api) := hotkeys.intercept manager.api chord
  { manager with
    api
    bindings := manager.bindings.insert ident ⟨id, chord⟩
    identsById := manager.identsById.insert id ident }

/-- Removes an identifier and its registration, or leaves both when the API refuses. -/
def unregisterBinding (manager : KeyBindingManager Api) (ident : String) :
    Except Error (Option BindingRegistration) × KeyBindingManager Api :=
  match manager.bindings.lookup ident with
  | none => (.ok none, manager)
  | some binding =>
    match hotkeys.unregister manager.api binding.id with
    | (.error error, api) => (.error error, { manager with api })
    | (.ok (), api) =>
      (.ok (some binding), { manager with
        api
        bindings := manager.bindings.erase ident
        identsById := manager.identsById.erase binding.id })

/-- Registers removed bindings again, each under a new id. -/
def restoreBindings (manager : KeyBindingManager Api)
    (removed : List (String × BindingRegistration)) : KeyBindingManager Api :=
  removed.foldl (fun manager entry => manager.registerBinding hotkeys entry.1 entry.2.chord) manager

/-- Removes identifiers one by one, restoring all of them at the first refusal. -/
def removeBindings (removed : List (String × BindingRegistration)) :
    List String → KeyBindingManager Api → Except Error Unit × KeyBindingManager Api
  | [], manager => (.ok (), manager)
  | ident :: rest, manager =>
    match manager.unregisterBinding hotkeys ident with
    | (.ok (some binding), next) => removeBindings (removed ++ [(ident, binding)]) rest next
    | (.ok none, next) => removeBindings removed rest next
    | (.error error, next) => (.error error, next.restoreBindings hotkeys removed)

/-- Registers the listed identifiers with their desired chords. -/
def registerBindings (desired : HashMap String Chord) (idents : List String)
    (manager : KeyBindingManager Api) : KeyBindingManager Api :=
  idents.foldl (fun manager ident =>
    match desired.lookup ident with
    | some chord => manager.registerBinding hotkeys ident chord
    | none => manager) manager

/-- The identifiers bound to another chord than the desired one. -/
def replacedKeys (order : UpdateOrder) (manager : KeyBindingManager Api)
    (desired : HashMap String Chord) : List String :=
  (order.desired.arrange desired.keys).filter fun ident =>
    match manager.chordForIdent ident with
    | some chord => desired.lookup ident != some chord
    | none => false

/-- The desired identifiers that have no binding yet. -/
def addedKeys (order : UpdateOrder) (manager : KeyBindingManager Api)
    (desired : HashMap String Chord) : List String :=
  (order.desiredIdents.arrange desired.keys).filter fun ident => ident ∉ manager.bindings.keys

/-- The bound identifiers that are no longer desired. -/
def removedKeys (order : UpdateOrder) (manager : KeyBindingManager Api)
    (desired : HashMap String Chord) : List String :=
  (order.current.arrange manager.bindings.keys).filter fun ident => ident ∉ desired.keys

/-- Moves the bindings to the desired ones, reporting whether anything changed. -/
def updateBindings (order : UpdateOrder) (manager : KeyBindingManager Api)
    (keyPairs : List (String × Chord)) : Except Error Bool × KeyBindingManager Api :=
  let desired := HashMap.collect keyPairs
  if manager.bindingsMatch desired then (.ok false, manager)
  else
    let replaced := manager.replacedKeys order desired
    let added := manager.addedKeys order desired
    let removed := manager.removedKeys order desired
    match removeBindings hotkeys [] (removed ++ replaced) manager with
    | (.error error, next) => (.error error, next)
    | (.ok (), next) => (.ok true, next.registerBindings hotkeys desired (added ++ replaced))

/-- Turns capture-all on or off, holding a guard exactly while it is on. -/
def setCaptureAll (manager : KeyBindingManager Api) (active : Bool) : KeyBindingManager Api :=
  match active, manager.captureGuard with
  | true, false =>
    { manager with
      captureAllActive := active, captureGuard := true, api := hotkeys.captureAll manager.api }
  | false, true =>
    { manager with
      captureAllActive := active, captureGuard := false
      api := hotkeys.releaseCapture manager.api }
  | _, _ => { manager with captureAllActive := active }

end KeyBindingManager

/-- The hotkey manager's registry with a count of the removals asked of it. -/
structure RegistryApi where
  inner : Inner := {}
  unregisterCalls : Nat := 0

/-- The registry as the engine's API, refusing the removals of a given pattern. -/
def registryApi {Error : Type*} (refused : Nat → Option Error) : HotkeyApi RegistryApi Error where
  intercept api chord :=
    match api.inner.register chord true with
    | some (id, inner) => (id, { api with inner })
    -- Without a free id the search would go on for ever, so no answer stands for this call.
    | none => (0, api)
  unregister api id :=
    let counted := { api with unregisterCalls := api.unregisterCalls + 1 }
    match refused api.unregisterCalls with
    | some error => (.error error, counted)
    | none => (.ok (), { counted with inner := (api.inner.unregister id).2 })
  captureAll api := { api with inner := api.inner.enterCaptureAll }
  releaseCapture api := { api with inner := api.inner.leaveCaptureAll }

end Hotki
