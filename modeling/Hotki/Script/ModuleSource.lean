import Hotki.Base.HashMap
import Hotki.Base.Utf8
import Mathlib.Data.Finset.Dedup

/-! The checked, cached source of a configuration's modules. -/

namespace Hotki.Script

open Base

/-- The identity of a module. -/
abbrev ModuleId := String

/-- Why a module was not resolved or read. -/
abbrev SourceError := String

/-- Requester and literal request bytes used to cache one resolution edge. -/
abbrev ResolutionKey := Option ModuleId × List UInt8

/-- Admission phase for one checked module graph. -/
inductive GraphPhase where
  /-- Resolution and source discovery are still building the graph. -/
  | building
  /-- Only modules in the checked graph may be resolved or read. -/
  | allowed (modules : Finset ModuleId)
  /-- Entry evaluation completed; only cached resolutions remain available. -/
  | sealed
  deriving DecidableEq

/-- Caches and admission policy advanced under one lock. -/
structure GraphState where
  /-- Resolution edges retained for runtime cache hits. -/
  resolutions : HashMap ResolutionKey ModuleId := ∅
  /-- Source bytes retained from graph preparation. -/
  bytes : HashMap ModuleId (List UInt8) := ∅
  phase : GraphPhase := .building

/-- The error for work attempted after entry evaluation. -/
def sealedError : SourceError := "module source is sealed after config entry evaluation"

/-- The error for a module outside the checked graph. -/
def outsideGraphError (id : ModuleId) : SourceError :=
  "module '" ++ id ++ "' is outside the checked config graph"

namespace GraphState

/-- Installs the checked graph allowlist, which cannot be done after sealing. -/
def installAllowlist (state : GraphState) (modules : List ModuleId) : Option GraphState :=
  match state.phase with
  | .sealed => none
  | _ => some { state with phase := .allowed modules.toFinset }

/-- Ends source loading while retaining cached resolution edges. -/
def sealGraph (state : GraphState) : GraphState := { state with phase := .sealed }

/-- Admits a resolution or answers its sealed cached result, given what the request stands for. -/
def resolveAdmission (state : GraphState) (key : ResolutionKey)
    (candidate : Except SourceError ModuleId) : Except SourceError (Option ModuleId) :=
  match state.phase with
  | .building => .ok none
  | .allowed modules =>
    match candidate with
    | .error error => .error error
    | .ok candidate =>
      if candidate ∈ modules then .ok none else .error (outsideGraphError candidate)
  | .sealed =>
    match state.resolutions.lookup key with
    | some id => .ok (some id)
    | none => .error sealedError

/-- Whether what a delegate answered for a module is still welcome. -/
def revalidate (state : GraphState) (id : ModuleId) : Except SourceError Unit :=
  match state.phase with
  | .building => .ok ()
  | .allowed modules => if id ∈ modules then .ok () else .error (outsideGraphError id)
  | .sealed => .error sealedError

/-- Revalidates and caches a delegated resolution. -/
def finishResolution (state : GraphState) (key : ResolutionKey) (id : ModuleId) :
    Except SourceError ModuleId × GraphState :=
  match state.revalidate id with
  | .error error => (.error error, state)
  | .ok () => (.ok id, { state with resolutions := state.resolutions.insert key id })

/-- Admits a source read or answers its retained bytes. -/
def readAdmission (state : GraphState) (id : ModuleId) :
    Except SourceError (Option (List UInt8)) :=
  match state.revalidate id with
  | .error error => .error error
  | .ok () => .ok (state.bytes.lookup id)

/-- Revalidates and caches delegated source bytes. -/
def finishRead (state : GraphState) (id : ModuleId) (source : List UInt8) :
    Except SourceError Unit × GraphState :=
  match state.revalidate id with
  | .error error => (.error error, state)
  | .ok () => (.ok (), { state with bytes := state.bytes.insert id source })

end GraphState

/-- What a module source is made over. -/
structure SourceHost where
  /-- The module a request of a requester stands for by its spelling. -/
  resolveRequest : Option ModuleId → List UInt8 → Except SourceError ModuleId
  /-- The name under which the delegate shows a module. -/
  displayName : ModuleId → String
  /-- Entry module identity used when a root request has no requester. -/
  graphRoot : ModuleId
  /-- Canonical directory used to expand diagnostic display paths. -/
  rootDir : String

/-- Whether a request has the only spelling accepted by configurations. -/
def requestIsRelative (request : List UInt8) : Bool :=
  "./".toUTF8.toList.isPrefixOf request || "../".toUTF8.toList.isPrefixOf request

/-- The error for a request with another spelling. -/
def requestError (request : List UInt8) : SourceError :=
  "module request '" ++ fromUtf8Lossy request ++ "' must begin with ./ or ../"

/-- Expands one source display name into its diagnostic filesystem path. -/
def sourcePath (host : SourceHost) (id : ModuleId) : String :=
  let path := host.displayName id
  if path.startsWith "/" then path
  else if host.rootDir.isEmpty || host.rootDir.endsWith "/" then host.rootDir ++ path
  else host.rootDir ++ "/" ++ path

/-- A future of the module source, up to its answer. -/
inductive SourceFuture where
  /-- A resolution that was answered when it was started. -/
  | resolved (result : Except SourceError ModuleId)
  /-- A resolution that waits for the delegate. -/
  | resolving (key : ResolutionKey)
  /-- A read that was answered when it was started. -/
  | loaded (id : ModuleId) (result : Except SourceError (List UInt8))
  /-- A read that waits for the delegate. -/
  | reading (id : ModuleId) (path : String)
  | ended

/-- A module source with the futures it gave out. -/
structure ModuleSource where
  graph : GraphState := {}
  /-- Text retained by path for runtime excerpts. -/
  sources : HashMap String String := ∅
  futures : List SourceFuture := []
  /-- The allowlist that was installed last, which sealing does not change. -/
  installed : Option (Finset ModuleId) := none

/-- What can happen to a module source. -/
inductive SourceOp where
  | resolve (requester : Option ModuleId) (request : List UInt8)
  | read (id : ModuleId)
  /-- A future that was answered when it was started is awaited. -/
  | await (index : Nat)
  /-- The delegate of a resolution answers. -/
  | resolveDone (index : Nat) (answer : Except SourceError ModuleId)
  /-- The delegate of a read answers. -/
  | readDone (index : Nat) (answer : Except SourceError (List UInt8))
  | allowOnly (modules : List ModuleId)
  | sealGraph

/-- What a future returned, if one did. -/
inductive SourceOutput where
  | silent
  | resolution (result : Except SourceError ModuleId)
  | source (id : ModuleId) (result : Except SourceError (List UInt8))
  deriving DecidableEq

namespace ModuleSource

variable (host : SourceHost)

/-- The edge under which a request is cached. -/
def resolutionKey (requester : Option ModuleId) (request : List UInt8) : ResolutionKey :=
  (requester.or (some host.graphRoot), request)

/-- The future of a resolution. -/
def resolve (source : ModuleSource) (requester : Option ModuleId) (request : List UInt8) :
    SourceFuture :=
  if requestIsRelative request then
    let key := resolutionKey host requester request
    match source.graph.resolveAdmission key (host.resolveRequest key.1 request) with
    | .ok (some cached) => .resolved (.ok cached)
    | .ok none => .resolving key
    | .error error => .resolved (.error error)
  else .resolved (.error (requestError request))

/-- The future of a read. -/
def read (source : ModuleSource) (id : ModuleId) : SourceFuture :=
  match source.graph.readAdmission id with
  | .ok (some bytes) => .loaded id (.ok bytes)
  | .ok none => .reading id (sourcePath host id)
  | .error error => .loaded id (.error error)

/-- Gives out a future. -/
def start (source : ModuleSource) (future : SourceFuture) : ModuleSource :=
  { source with futures := source.futures ++ [future] }

/-- Ends a future. -/
def finish (source : ModuleSource) (index : Nat) : ModuleSource :=
  { source with futures := source.futures.set index .ended }

/-- The end of a resolution that its delegate answered. -/
def completeResolve (source : ModuleSource) (key : ResolutionKey) :
    Except SourceError ModuleId → Except SourceError ModuleId × ModuleSource
  | .error error => (.error error, source)
  | .ok id =>
    let (result, graph) := source.graph.finishResolution key id
    (result, { source with graph })

/-- The end of a read that its delegate answered. -/
def completeRead (source : ModuleSource) (id : ModuleId) (path : String) :
    Except SourceError (List UInt8) → Except SourceError (List UInt8) × ModuleSource
  | .error error => (.error error, source)
  | .ok bytes =>
    match source.graph.finishRead id bytes with
    | (.error error, graph) => (.error error, { source with graph })
    | (.ok (), graph) =>
      let sources := match fromUtf8 bytes with
        | some text => source.sources.insert path text
        | none => source.sources
      (.ok bytes, { source with graph, sources })

/-- One operation, or none for an answer to a future that does not wait for it. -/
def step (source : ModuleSource) : SourceOp → Option (ModuleSource × SourceOutput)
  | .resolve requester request => some (source.start (source.resolve host requester request), .silent)
  | .read id => some (source.start (source.read host id), .silent)
  | .await index =>
    match source.futures[index]? with
    | some (.resolved result) => some (source.finish index, .resolution result)
    | some (.loaded id result) => some (source.finish index, .source id result)
    | _ => none
  | .resolveDone index answer =>
    match source.futures[index]? with
    | some (.resolving key) =>
      let (result, source) := source.completeResolve key answer
      some (source.finish index, .resolution result)
    | _ => none
  | .readDone index answer =>
    match source.futures[index]? with
    | some (.reading id path) =>
      let (result, source) := source.completeRead id path answer
      some (source.finish index, .source id result)
    | _ => none
  | .allowOnly modules =>
    match source.graph.installAllowlist modules with
    | some graph => some ({ source with graph, installed := some modules.toFinset }, .silent)
    -- The assertion ends the caller and changes nothing.
    | none => some (source, .silent)
  | .sealGraph => some ({ source with graph := source.graph.sealGraph }, .silent)

/-- The transition relation, each operation with what a future returned. -/
def Steps (source : ModuleSource) (label : SourceOp × SourceOutput) (next : ModuleSource) : Prop :=
  source.step host label.1 = some (next, label.2)

end ModuleSource

end Hotki.Script
