import Hotki.Base.Run
import Hotki.Script.ModuleSource
import Mathlib.Data.Finset.Basic

/-! What a module source returns and caches once its graph is checked, and once it is sealed. -/

namespace Hotki.Script

open Base

namespace ModuleSource

variable {host : SourceHost} {source next : ModuleSource} {op : SourceOp} {output : SourceOutput}

/-- Whether a module is in the allowlist that was installed last. -/
def InAllowlist (source : ModuleSource) (id : ModuleId) : Prop :=
  ∃ allowed, source.installed = some allowed ∧ id ∈ allowed

/-- What one step of a module source may return and cache. -/
structure Admitted (host : SourceHost) (source : ModuleSource) (output : SourceOutput)
    (next : ModuleSource) : Prop where
  /-- With an allowlist, nothing outside it is resolved. -/
  resolved : source.installed.isSome = true → ∀ id, output = .resolution (.ok id) →
    source.InAllowlist id
  /-- With an allowlist, nothing outside it is read. -/
  read : source.installed.isSome = true → ∀ id bytes, output = .source id (.ok bytes) →
    source.InAllowlist id
  /-- With an allowlist, no resolution outside it is cached. -/
  cachedResolution : source.installed.isSome = true → ∀ key id,
    next.graph.resolutions.lookup key = some id →
    source.graph.resolutions.lookup key = some id ∨ source.InAllowlist id
  /-- With an allowlist, no source bytes outside it are cached. -/
  cachedBytes : source.installed.isSome = true → ∀ id,
    next.graph.bytes.lookup id = source.graph.bytes.lookup id ∨ source.InAllowlist id
  /-- With an allowlist, no text of a module outside it is retained. -/
  retained : source.installed.isSome = true → ∀ path,
    next.sources.lookup path = source.sources.lookup path ∨
      ∃ id, path = sourcePath host id ∧ source.InAllowlist id
  /-- A future that fails leaves the caches as they are. -/
  rejected : (∃ error, output = .resolution (.error error)) ∨
    (∃ id error, output = .source id (.error error)) →
    next.graph = source.graph ∧ next.sources = source.sources
  /-- Once sealed, nothing is read. -/
  unread : source.graph.phase = .sealed → ∀ id bytes, output ≠ .source id (.ok bytes)
  /-- Once sealed, only what is in the allowlist is resolved. -/
  sealedResolution : source.graph.phase = .sealed → ∀ id, output = .resolution (.ok id) →
    source.InAllowlist id

/-- What a step needs so that it admits only modules of the checked graph: a future that found its
bytes in the cache is awaited while its module is still admitted, and no request is repeated after
sealing whose cached resolution is outside the allowlist. -/
def Careful (host : SourceHost) (source : ModuleSource) : SourceOp → Prop
  | .await index => ∀ id bytes, source.futures[index]? = some (.loaded id (.ok bytes)) →
      source.graph.revalidate id = .ok ()
  | .resolve requester request => source.graph.phase = .sealed → ∀ id,
      source.graph.resolutions.lookup (resolutionKey host requester request) = some id →
      source.InAllowlist id
  | _ => True

/-- Steps that are careful. -/
def CarefulSteps (host : SourceHost) (source : ModuleSource) (label : SourceOp × SourceOutput)
    (next : ModuleSource) : Prop :=
  source.Steps host label next ∧ source.Careful host label.1

/-- What holds of a module source along careful steps. -/
structure Checked (host : SourceHost) (source : ModuleSource) : Prop where
  building : source.graph.phase = .building → source.installed = none
  allowing : ∀ allowed, source.graph.phase = .allowed allowed → source.installed = some allowed
  /-- Only a sealed source answers a resolution at once, and then from the allowlist. -/
  answered : ∀ id, SourceFuture.resolved (.ok id) ∈ source.futures →
    source.graph.phase = .sealed ∧ source.InAllowlist id
  placed : ∀ id path, SourceFuture.reading id path ∈ source.futures → path = sourcePath host id

/-- A module that is still welcome is not met after sealing. -/
theorem revalidate_unsealed {graph : GraphState} {id : ModuleId}
    (welcome : graph.revalidate id = .ok ()) : graph.phase ≠ .sealed := by
  intro ended
  unfold GraphState.revalidate at welcome
  rw [ended] at welcome
  cases welcome

/-- A module that is still welcome is in the allowlist, if one is installed. -/
theorem Checked.welcome (checked : source.Checked host) (installed : source.installed.isSome = true)
    {id : ModuleId} (welcome : source.graph.revalidate id = .ok ()) : source.InAllowlist id := by
  -- While building nothing is installed yet, and an allowlist has just been asked.
  unfold GraphState.revalidate at welcome
  split at welcome
  · rename_i building
    rw [checked.building building] at installed
    cases installed
  · rename_i allowed admitted
    split at welcome
    · rename_i member
      exact ⟨allowed, checked.allowing allowed admitted, member⟩
    · cases welcome
  · cases welcome

/-- A future that is replaced by its end leaves the others. -/
theorem mem_of_mem_finish {index : Nat} {future : SourceFuture}
    (member : future ∈ (source.finish index).futures) (unended : future ≠ .ended) :
    future ∈ source.futures := by
  rcases List.mem_or_eq_of_mem_set member with before | ended
  · exact before
  · exact absurd ended unended

/-- What is awaited changes no cache. -/
theorem Checked.finish (checked : source.Checked host) (index : Nat) :
    (source.finish index).Checked host where
  building := checked.building
  allowing := checked.allowing
  answered id member := checked.answered id (mem_of_mem_finish member (by simp))
  placed id path member := checked.placed id path (mem_of_mem_finish member (by simp))

/-- A future that is given out keeps the source checked, if it is of the right kind. -/
theorem Checked.start (checked : source.Checked host) {future : SourceFuture}
    (answered : ∀ id, future = .resolved (.ok id) →
      source.graph.phase = .sealed ∧ source.InAllowlist id)
    (placed : ∀ id path, future = .reading id path → path = sourcePath host id) :
    (source.start future).Checked host where
  -- The new future comes last, behind those given out before.
  building := checked.building
  allowing := checked.allowing
  answered id member := by
    rcases List.mem_append.mp member with before | fresh
    · exact checked.answered id before
    · exact answered id (List.mem_singleton.mp fresh).symm
  placed id path member := by
    rcases List.mem_append.mp member with before | fresh
    · exact checked.placed id path before
    · exact placed id path (List.mem_singleton.mp fresh).symm

/-- A resolution is answered at once with a module only by a sealed cache. -/
theorem resolve_resolved {requester : Option ModuleId} {request : List UInt8} {id : ModuleId}
    (answered : source.resolve host requester request = .resolved (.ok id)) :
    source.graph.phase = .sealed ∧
      source.graph.resolutions.lookup (resolutionKey host requester request) = some id := by
  -- Only a sealed source answers from its cache.
  unfold resolve at answered
  split at answered
  · dsimp only at answered
    split at answered
    · rename_i cached admitted
      cases answered
      unfold GraphState.resolveAdmission at admitted
      split at admitted
      · cases admitted
      · split at admitted
        · cases admitted
        · split at admitted <;> cases admitted
      · rename_i ended
        split at admitted
        · rename_i found
          cases admitted
          exact ⟨ended, found⟩
        · cases admitted
    · cases answered
    · cases answered
  · cases answered

/-- A read waits for its delegate with the path of its module. -/
theorem read_reading {id asked : ModuleId} {path : String}
    (waiting : source.read host asked = .reading id path) : path = sourcePath host id := by
  unfold read at waiting
  split at waiting <;> cases waiting
  rfl

/-- A resolution that its delegate answered changes the caches only with a welcome module. -/
theorem completeResolve_cases (source : ModuleSource) (key : ResolutionKey)
    (answer : Except SourceError ModuleId) :
    (∃ error, source.completeResolve key answer = (.error error, source)) ∨
    ∃ id, source.graph.revalidate id = .ok () ∧ source.completeResolve key answer = (.ok id,
      { source with graph := { source.graph with
          resolutions := source.graph.resolutions.insert key id } }) := by
  -- The answer may be an error, or name a module that is not welcome any more.
  cases answer with
  | error error => exact .inl ⟨error, rfl⟩
  | ok id =>
    cases welcome : source.graph.revalidate id with
    | error error =>
      refine .inl ⟨error, ?_⟩
      simp only [completeResolve, GraphState.finishResolution, welcome]
    | ok _ =>
      refine .inr ⟨id, welcome, ?_⟩
      simp only [completeResolve, GraphState.finishResolution, welcome]

/-- A read that its delegate answered changes the caches only with a welcome module. -/
theorem completeRead_cases (source : ModuleSource) (id : ModuleId) (path : String)
    (answer : Except SourceError (List UInt8)) :
    (∃ error, source.completeRead id path answer = (.error error, source)) ∨
    ∃ bytes sources, source.graph.revalidate id = .ok () ∧
      (∀ other, other ≠ path → sources.lookup other = source.sources.lookup other) ∧
      source.completeRead id path answer = (.ok bytes, { source with
        graph := { source.graph with bytes := source.graph.bytes.insert id bytes }
        sources }) := by
  -- As for a resolution, with the bytes cached under the module's path.
  cases answer with
  | error error => exact .inl ⟨error, rfl⟩
  | ok bytes =>
    cases welcome : source.graph.revalidate id with
    | error error =>
      refine .inl ⟨error, ?_⟩
      simp only [completeRead, GraphState.finishRead, welcome]
    | ok _ =>
      cases decoded : fromUtf8 bytes with
      | none =>
        refine .inr ⟨bytes, source.sources, rfl, fun _ _ => rfl, ?_⟩
        simp only [completeRead, GraphState.finishRead, welcome, decoded]
      | some text =>
        refine .inr ⟨bytes, source.sources.insert path text, rfl,
          fun other apart => AList.lookup_insert_ne apart, ?_⟩
        simp only [completeRead, GraphState.finishRead, welcome, decoded]

/-- A step that returns nothing and leaves the caches alone admits nothing. -/
theorem Admitted.of_silent (graph : next.graph.resolutions = source.graph.resolutions ∧
    next.graph.bytes = source.graph.bytes) (sources : next.sources = source.sources) :
    Admitted host source .silent next where
  resolved _ id returned := by cases returned
  read _ id bytes returned := by cases returned
  cachedResolution _ key id cached := .inl (graph.1 ▸ cached)
  cachedBytes _ id := .inl (by rw [graph.2])
  retained _ path := .inl (by rw [sources])
  rejected failed := by
    rcases failed with ⟨error, returned⟩ | ⟨id, error, returned⟩ <;> cases returned
  unread _ id bytes returned := by cases returned
  sealedResolution _ id returned := by cases returned

/-- A future that fails changes no cache. -/
theorem Admitted.of_error {index : Nat} (failed : (∃ error, output = .resolution (.error error)) ∨
    ∃ id error, output = .source id (.error error)) :
    Admitted host source output (source.finish index) where
  -- A future that failed has returned no module.
  resolved _ id returned := by
    rcases failed with ⟨error, rfl⟩ | ⟨other, error, rfl⟩ <;> cases returned
  read _ id bytes returned := by
    rcases failed with ⟨error, rfl⟩ | ⟨other, error, rfl⟩ <;> cases returned
  cachedResolution _ key id cached := .inl cached
  cachedBytes _ id := .inl rfl
  retained _ path := .inl rfl
  rejected _ := ⟨rfl, rfl⟩
  unread _ id bytes returned := by
    rcases failed with ⟨error, rfl⟩ | ⟨other, error, rfl⟩ <;> cases returned
  sealedResolution _ id returned := by
    rcases failed with ⟨error, rfl⟩ | ⟨other, error, rfl⟩ <;> cases returned

/-- A resolution answered at once admits the module it was answered with. -/
theorem Checked.admits_answered (checked : source.Checked host) {index : Nat} {id : ModuleId}
    (given : source.futures[index]? = some (.resolved (.ok id))) :
    Admitted host source (.resolution (.ok id)) (source.finish index) := by
  -- The module was in the cache, and so admitted when it was put there.
  obtain ⟨_, member⟩ := checked.answered id (List.mem_of_getElem? given)
  exact {
    resolved := fun _ other returned => by cases returned; exact member
    read := fun _ other bytes returned => by cases returned
    cachedResolution := fun _ key other cached => .inl cached
    cachedBytes := fun _ other => .inl rfl
    retained := fun _ path => .inl rfl
    rejected := fun _ => ⟨rfl, rfl⟩
    unread := fun _ other bytes returned => by cases returned
    sealedResolution := fun _ other returned => by cases returned; exact member }

/-- A read of bytes from the cache admits a module that is still welcome. -/
theorem Checked.admits_loaded (checked : source.Checked host) {index : Nat} {id : ModuleId}
    {bytes : List UInt8} (welcome : source.graph.revalidate id = .ok ()) :
    Admitted host source (.source id (.ok bytes)) (source.finish index) where
  -- Loading asks the graph once more before it returns the bytes.
  resolved _ other returned := by cases returned
  read installed other more returned := by
    cases returned
    exact checked.welcome installed welcome
  cachedResolution _ key other cached := .inl cached
  cachedBytes _ other := .inl rfl
  retained _ path := .inl rfl
  rejected _ := ⟨rfl, rfl⟩
  unread ended := absurd ended (revalidate_unsealed welcome)
  sealedResolution ended := absurd ended (revalidate_unsealed welcome)

/-- A delegated resolution admits and caches a module that is still welcome. -/
theorem Checked.admits_resolution (checked : source.Checked host) {index : Nat} {id : ModuleId}
    {key : ResolutionKey} (welcome : source.graph.revalidate id = .ok ()) :
    Admitted host source (.resolution (.ok id)) (ModuleSource.finish { source with
      graph := { source.graph with
        resolutions := source.graph.resolutions.insert key id } } index) where
  -- The answer is asked of the graph before it is cached.
  resolved installed other returned := by
    cases returned
    exact checked.welcome installed welcome
  read _ other bytes returned := by cases returned
  cachedResolution installed other found cached := by
    by_cases same : other = key
    · -- The edge that was resolved has the module of the answer.
      subst same
      have answered : some id = some found := (AList.lookup_insert _).symm.trans cached
      cases answered
      exact .inr (checked.welcome installed welcome)
    · exact .inl ((AList.lookup_insert_ne same).symm.trans cached)
  cachedBytes _ other := .inl rfl
  retained _ path := .inl rfl
  rejected failed := by
    rcases failed with ⟨error, returned⟩ | ⟨other, error, returned⟩ <;> cases returned
  unread ended := absurd ended (revalidate_unsealed welcome)
  sealedResolution ended := absurd ended (revalidate_unsealed welcome)

/-- A delegated read admits and caches a module that is still welcome. -/
theorem Checked.admits_read (checked : source.Checked host) {index : Nat} {id : ModuleId}
    {bytes : List UInt8} {sources : HashMap String String}
    (welcome : source.graph.revalidate id = .ok ())
    (apart : ∀ other, other ≠ sourcePath host id → sources.lookup other = source.sources.lookup other) :
    Admitted host source (.source id (.ok bytes)) (ModuleSource.finish { source with
      graph := { source.graph with bytes := source.graph.bytes.insert id bytes }
      sources } index) where
  -- The module is asked of the graph before its bytes are cached.
  resolved _ other returned := by cases returned
  read installed other more returned := by
    cases returned
    exact checked.welcome installed welcome
  cachedResolution _ key other cached := .inl cached
  cachedBytes installed other := by
    by_cases same : other = id
    · subst same
      exact .inr (checked.welcome installed welcome)
    · exact .inl (AList.lookup_insert_ne same)
  retained installed path := by
    by_cases same : path = sourcePath host id
    · exact .inr ⟨id, same, checked.welcome installed welcome⟩
    · exact .inl (apart path same)
  rejected failed := by
    rcases failed with ⟨error, returned⟩ | ⟨other, error, returned⟩ <;> cases returned
  unread ended := absurd ended (revalidate_unsealed welcome)
  sealedResolution ended := absurd ended (revalidate_unsealed welcome)

/-- A welcome module that is cached keeps the source checked. -/
theorem Checked.cached (checked : source.Checked host) {graph : GraphState}
    {sources : HashMap String String} (phase : graph.phase = source.graph.phase) :
    ModuleSource.Checked host { source with graph, sources } where
  building building := checked.building (phase ▸ building)
  allowing allowed allowing := checked.allowing allowed (phase ▸ allowing)
  answered id member := by
    obtain ⟨ended, found⟩ := checked.answered id member
    exact ⟨phase.trans ended, found⟩
  placed := checked.placed

/-- Every careful step admits only what it may, and keeps the source checked. -/
theorem Checked.step (checked : source.Checked host)
    (stepped : source.CarefulSteps host (op, output) next) :
    next.Checked host ∧ Admitted host source output next := by
  -- One case for each operation; a cached answer and an awaited future are what admits modules.
  obtain ⟨taken, careful⟩ := stepped
  unfold Steps ModuleSource.step at taken
  cases op with
  | resolve requester request =>
    cases taken
    refine ⟨checked.start (fun id answered => ?_) (fun id path waiting => ?_),
      .of_silent ⟨rfl, rfl⟩ rfl⟩
    -- Only a sealed source answers from its cache, and with care only an allowed module.
    · obtain ⟨ended, found⟩ := resolve_resolved answered
      exact ⟨ended, careful ended id found⟩
    · unfold resolve at waiting
      split at waiting
      · dsimp only at waiting
        split at waiting <;> cases waiting
      · cases waiting
  | read id =>
    cases taken
    refine ⟨checked.start (fun other answered => ?_) (fun other path waiting => read_reading waiting),
      .of_silent ⟨rfl, rfl⟩ rfl⟩
    unfold read at answered
    split at answered <;> cases answered
  | await index =>
    dsimp only at taken
    split at taken
    · rename_i result given
      cases taken
      refine ⟨checked.finish index, ?_⟩
      cases result with
      | error error => exact .of_error (.inl ⟨error, rfl⟩)
      | ok id => exact checked.admits_answered given
    · rename_i id result given
      cases taken
      refine ⟨checked.finish index, ?_⟩
      cases result with
      | error error => exact .of_error (.inr ⟨id, error, rfl⟩)
      | ok bytes => exact checked.admits_loaded (careful id bytes given)
    · cases taken
  | resolveDone index answer =>
    dsimp only at taken
    split at taken
    · rename_i key given
      rcases source.completeResolve_cases key answer with ⟨error, done⟩ | ⟨id, welcome, done⟩
      · rw [done] at taken
        cases taken
        exact ⟨checked.finish index, .of_error (.inl ⟨error, rfl⟩)⟩
      · rw [done] at taken
        cases taken
        refine ⟨?_, checked.admits_resolution welcome⟩
        -- What enters the cache has just been validated again.
        apply Checked.finish
        exact @Checked.cached host source checked _ _ rfl
    · cases taken
  | readDone index answer =>
    dsimp only at taken
    split at taken
    · rename_i id path given
      rcases source.completeRead_cases id path answer with
        ⟨error, done⟩ | ⟨bytes, sources, welcome, apart, done⟩
      · rw [done] at taken
        cases taken
        exact ⟨checked.finish index, .of_error (.inr ⟨id, error, rfl⟩)⟩
      · rw [done] at taken
        cases taken
        rw [checked.placed id path (List.mem_of_getElem? given)] at apart
        refine ⟨?_, checked.admits_read welcome apart⟩
        apply Checked.finish
        exact @Checked.cached host source checked _ _ rfl
    · cases taken
  | allowOnly modules =>
    dsimp only at taken
    unfold GraphState.installAllowlist at taken
    split at taken
    · rename_i graph installed
      cases taken
      split at installed
      · cases installed
      -- A source that is not sealed has answered nothing from its cache.
      · rename_i unsealed
        cases installed
        refine ⟨⟨fun building => ?_, fun allowed same => ?_, fun id member => ?_, checked.placed⟩,
          .of_silent ⟨rfl, rfl⟩ rfl⟩
        · cases building
        · cases same
          rfl
        · exact absurd (checked.answered id member).1 unsealed
    · cases taken
      exact ⟨checked, .of_silent ⟨rfl, rfl⟩ rfl⟩
  | sealGraph =>
    cases taken
    refine ⟨⟨fun building => ?_, fun allowed same => ?_, fun id member => ?_, checked.placed⟩,
      .of_silent ⟨rfl, rfl⟩ rfl⟩
    · cases building
    · cases same
    · exact ⟨rfl, (checked.answered id member).2⟩

/-- A module source starts checked. -/
theorem Checked.initial : ModuleSource.Checked host {} where
  building _ := rfl
  allowing _ same := by cases same
  answered _ member := by cases member
  placed _ _ member := by cases member

/--
Module admission.

In every run of a module source whose steps are all careful, each further careful step admits only
modules of the allowlist, once one is installed, whichever phase its future was started in.
-/
theorem module_admission (host : SourceHost) {trace : List (SourceOp × SourceOutput)}
    {label : SourceOp × SourceOutput}
    (run : Run (CarefulSteps host) {} trace source)
    (stepped : source.CarefulSteps host label next) : Admitted host source label.2 next := by
  have checked := run.invariant (ModuleSource.Checked host)
    (fun {_ _ _} stepped before => (before.step stepped).1) .initial
  exact (checked.step stepped).2

/-- A delegate that knows every module by the bytes of its request. -/
private def spelledHost : SourceHost where
  resolveRequest _ _ := .ok "x"
  displayName id := id
  graphRoot := "config"
  rootDir := "/"

/-- The request of a module beside the entry. -/
private def spelled : List UInt8 := [46, 47, 120]

/--
Not everything a module source returns is in its allowlist.

After sealing, the resolution of a module that was cached before the allowlist left it out is still
answered. Bytes that a read found in the cache are returned although the allowlist that was installed
before it was awaited leaves their module out, and even after sealing.
-/
theorem module_admission_broken :
    (∃ trace source next, Run (Steps spelledHost) {} trace source ∧
      source.Steps spelledHost (.await 1, .resolution (.ok "x")) next ∧
      source.graph.phase = .sealed ∧ source.installed = some ∅) ∧
    ∃ trace source next, Run (Steps spelledHost) {} trace source ∧
      source.Steps spelledHost (.await 1, .source "x" (.ok [])) next ∧
      source.graph.phase = .sealed ∧ source.installed = some ∅ := by
  -- What is seen is the phase, the allowlist, and what the last future would return.
  let seen (reached : ModuleSource × List SourceOutput) :=
    (reached.1.graph.phase, reached.1.installed,
      (reached.1.step spelledHost (.await 1)).map Prod.snd)
  constructor
  · obtain ⟨source, _, same, run, _⟩ := Run.of_evaluate (step spelledHost) {}
      [.resolve none spelled, .resolveDone 0 (.ok "x"), .allowOnly [], .sealGraph,
        .resolve none spelled] seen
      (.sealed, some ∅, some (.resolution (.ok "x"))) (by decide +kernel)
    simp only [seen, Prod.mk.injEq, Option.map_eq_some_iff] at same
    obtain ⟨ended, installed, ⟨next, output⟩, taken, rfl⟩ := same
    exact ⟨_, source, next, run, taken, ended, installed⟩
  · obtain ⟨source, _, same, run, _⟩ := Run.of_evaluate (step spelledHost) {}
      [.read "x", .readDone 0 (.ok []), .read "x", .allowOnly [], .sealGraph] seen
      (.sealed, some ∅, some (.source "x" (.ok []))) (by decide +kernel)
    simp only [seen, Prod.mk.injEq, Option.map_eq_some_iff] at same
    obtain ⟨ended, installed, ⟨next, output⟩, taken, rfl⟩ := same
    exact ⟨_, source, next, run, taken, ended, installed⟩

/-- Whether an operation is careful, as a test. -/
private def isCareful (source : ModuleSource) : SourceOp → Bool
  | .await index =>
    match source.futures[index]? with
    | some (.loaded id (.ok _)) => decide (source.graph.revalidate id = .ok ())
    | _ => true
  | .resolve requester request =>
    match source.graph.resolutions.lookup (resolutionKey spelledHost requester request) with
    | some id => source.installed.any fun allowed => decide (id ∈ allowed)
    | none => true
  | _ => true

/-- A step that is made only if it is careful. -/
private def carefulStep (source : ModuleSource) (op : SourceOp) :
    Option (ModuleSource × SourceOutput) :=
  if isCareful source op then source.step spelledHost op else none

/-- Such a step is careful. -/
private theorem carefulStep_careful
    (stepped : carefulStep source op = some (next, output)) :
    source.CarefulSteps spelledHost (op, output) next := by
  -- The check is made before each awaited or direct resolution.
  obtain ⟨tested, taken⟩ := Option.ite_none_right_eq_some.mp stepped
  refine ⟨taken, ?_⟩
  cases op with
  | await index =>
    intro id bytes given
    simp only [isCareful, given, decide_eq_true_eq] at tested
    exact tested
  | resolve requester request =>
    intro _ id found
    simp only [isCareful, found, Option.any_eq_true, decide_eq_true_eq] at tested
    exact tested
  | _ => exact trivial

/-- The conclusion at a sealed source that answers a request for an allowed module from its cache. -/
theorem module_admission_once :
    ∃ source next, Admitted spelledHost source (.resolution (.ok "x")) next ∧
      source.graph.phase = .sealed ∧ source.installed = some {"x"} := by
  -- The source is sealed before the request that it answers from its cache.
  obtain ⟨source, _, same, run, _⟩ := Run.of_evaluate carefulStep {}
    [.resolve none spelled, .resolveDone 0 (.ok "x"), .allowOnly ["x"], .sealGraph,
      .resolve none spelled]
    (fun reached => (reached.1.graph.phase, reached.1.installed,
      (carefulStep reached.1 (.await 1)).map Prod.snd))
    (.sealed, some {"x"}, some (.resolution (.ok "x"))) (by decide +kernel)
  simp only [Prod.mk.injEq, Option.map_eq_some_iff] at same
  obtain ⟨ended, installed, ⟨next, output⟩, taken, rfl⟩ := same
  have careful := run.mono fun stepped => carefulStep_careful stepped
  exact ⟨source, next, module_admission spelledHost careful (carefulStep_careful taken), ended,
    installed⟩

end ModuleSource

end Hotki.Script
