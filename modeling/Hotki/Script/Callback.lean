import Mathlib.Data.List.Basic

/-! Retained callback ownership for the dynamic configuration runtime. -/

namespace Hotki.Script

/-- Why the retained runtime refused something. -/
inductive LifecycleError where
  /-- The handle stands for nothing any more. -/
  | staleHandle
  | other (message : String)
  deriving DecidableEq

/-- What callbacks ask of the retained runtime. -/
structure RetainedRuntime (Vm Stash Handle : Type) where
  retain : Vm → Stash → Handle × Vm
  release : Vm → Handle → Except LifecycleError Unit × Vm

/-- Callback state before and after promotion into the retained runtime. -/
inductive CallbackTarget (Stash Handle : Type) where
  /-- Stash created during the currently active invocation. -/
  | pending (stash : Stash)
  /-- Generational handle owned by the retained runtime. -/
  | retained (handle : Handle)
  deriving DecidableEq

/-- Shared callback body. Its final drop queues a retained handle for release. -/
structure CallbackInner (Stash Handle : Type) where
  /-- The target, which the final drop takes. -/
  target : Option (CallbackTarget Stash Handle)
  /-- How many references to the callback there are, but for that of a synchronization. -/
  owners : Nat := 1
  /-- The handle it was promoted to, which the drop does not forget. -/
  handle : Option Handle := none
  deriving DecidableEq

/-- Pending promotions and deferred releases for one retained runtime. -/
structure CallbackRegistry (Handle : Type) where
  /-- Callbacks awaiting promotion after their creating invocation closes. -/
  pending : List Nat := []
  /-- Retained handles whose final owner has dropped. -/
  released : List Handle := []
  deriving DecidableEq

/-- A synchronization in progress, with what it took and has still to work through. -/
structure Synchronizing (Handle : Type) where
  released : List Handle
  pending : List Nat
  /-- The callback it holds a reference to, and whether it has looked at its target. -/
  held : Option (Nat × Bool) := none
  deriving DecidableEq

/-- The callbacks of one configuration with its retained runtime. -/
structure Callbacks (Vm Stash Handle : Type) where
  vm : Vm
  inners : List (CallbackInner Stash Handle) := []
  registry : CallbackRegistry Handle := {}
  call : Option (Synchronizing Handle) := none
  /-- The handles the runtime released, in order. -/
  releases : List Handle := []

/-- What can happen to callbacks, one step of a synchronization after the other. -/
inductive CallbackOp (Stash : Type) where
  /-- A script function is stashed, while no synchronization has the runtime. -/
  | create (stash : Stash)
  | clone (id : Nat)
  | drop (id : Nat)
  /-- A synchronization takes the queues. -/
  | begin
  | release
  | upgrade
  | promote
  | letGo
  /-- A synchronization has worked through what it took. -/
  | finish

namespace Callbacks

variable {Vm Stash Handle : Type} (runtime : RetainedRuntime Vm Stash Handle)

/-- Whether a synchronization holds a reference to a callback. -/
def holds (state : Callbacks Vm Stash Handle) (id : Nat) : Bool :=
  state.call.any fun call => call.held.any fun held => held.1 == id

/-- Drops the body of a callback, queueing its handle if it has one. -/
def dropInner (state : Callbacks Vm Stash Handle) (id : Nat) (inner : CallbackInner Stash Handle) :
    Callbacks Vm Stash Handle :=
  { state with
    inners := state.inners.set id { inner with target := none }
    registry := match inner.target with
      | some (.retained handle) =>
        { state.registry with released := state.registry.released ++ [handle] }
      | _ => state.registry }

/-- Sets how many references there are to a callback, dropping its body after the last one. -/
def setOwners (state : Callbacks Vm Stash Handle) (id : Nat) (inner : CallbackInner Stash Handle)
    (owners : Nat) : Callbacks Vm Stash Handle :=
  let inner := { inner with owners }
  if owners = 0 && !state.holds id then state.dropInner id inner
  else { state with inners := state.inners.set id inner }

/-- Promotes a pending target into the retained runtime. -/
def promote (state : Callbacks Vm Stash Handle) (id : Nat) (inner : CallbackInner Stash Handle) :
    Callbacks Vm Stash Handle :=
  match inner.target with
  | some (.pending stash) =>
    let (handle, vm) := runtime.retain state.vm stash
    { state with
      vm
      inners := state.inners.set id
        { inner with target := some (.retained handle), handle := some handle } }
  | _ => state

/-- One operation, or none when it is not possible. -/
def step (state : Callbacks Vm Stash Handle) : CallbackOp Stash → Option (Callbacks Vm Stash Handle)
  | .create stash =>
    if state.call.isSome then none
    else some { state with
      inners := state.inners ++ [{ target := some (.pending stash) }]
      registry := { state.registry with
        pending := state.registry.pending ++ [state.inners.length] } }
  | .clone id =>
    match state.inners[id]? with
    | some inner =>
      if inner.owners = 0 then none else some (state.setOwners id inner (inner.owners + 1))
    | none => none
  | .drop id =>
    match state.inners[id]? with
    | some inner =>
      if inner.owners = 0 then none else some (state.setOwners id inner (inner.owners - 1))
    | none => none
  | .begin =>
    if state.call.isSome then none
    else some { state with
      call := some { released := state.registry.released, pending := state.registry.pending }
      registry := {} }
  | .release =>
    match state.call with
    | some { released := handle :: released, pending, held := none } =>
      match runtime.release state.vm handle with
      | (.ok (), vm) =>
        some { state with
          vm, call := some { released, pending }, releases := state.releases ++ [handle] }
      | (.error .staleHandle, vm) => some { state with vm, call := some { released, pending } }
      -- The call returns the error.
      | (.error (.other _), vm) => some { state with vm, call := none }
    | _ => none
  | .upgrade =>
    match state.call with
    | some { released := [], pending := id :: pending, held := none } =>
      match state.inners[id]? with
      | some inner =>
        if inner.owners = 0 then some { state with call := some { released := [], pending } }
        else some { state with
          call := some { released := [], pending, held := some (id, false) } }
      | none => some { state with call := some { released := [], pending } }
    | _ => none
  | .promote =>
    match state.call with
    | some { released, pending, held := some (id, false) } =>
      match state.inners[id]? with
      | some inner =>
        some { state.promote runtime id inner with
          call := some { released, pending, held := some (id, true) } }
      | none => none
    | _ => none
  | .letGo =>
    match state.call with
    | some { released, pending, held := some (id, true) } =>
      match state.inners[id]? with
      | some inner =>
        let state := { state with call := some { released, pending } }
        some (state.setOwners id inner inner.owners)
      | none => none
    | _ => none
  | .finish =>
    match state.call with
    | some { released := [], pending := [], held := none } => some { state with call := none }
    | _ => none

/-- The transition relation of callbacks. -/
def Steps (state : Callbacks Vm Stash Handle) (op : CallbackOp Stash)
    (next : Callbacks Vm Stash Handle) : Prop :=
  state.step runtime op = some next

end Callbacks

end Hotki.Script
