import Hotki.Base.Run
import Hotki.Engine.KeyBinding
import Hotki.Proofs.Hotkey.Registry

/-! Updating the bindings either installs the desired ones or restores the ones before the call. -/

namespace Hotki

open Base

/-- What the binding manager relies on: fresh ids while there is room, and exact bookkeeping. -/
structure HotkeyApi.Lawful {Api Error : Type*} (hotkeys : HotkeyApi Api Error)
    (live : Api → Finset (UInt32 × Chord)) (capacity : Nat) : Prop where
  /-- A registration gets an id that is not live and adds itself to the live ones. -/
  intercept : ∀ api chord, (live api).card < capacity →
    (∀ other, ((hotkeys.intercept api chord).1, other) ∉ live api) ∧
      live (hotkeys.intercept api chord).2 =
        insert ((hotkeys.intercept api chord).1, chord) (live api)
  /-- A successful removal takes the id's registration away and nothing else. -/
  unregister_ok : ∀ {api id next}, hotkeys.unregister api id = (.ok (), next) →
    live next = (live api).filter fun entry => entry.1 ≠ id
  /-- A refused removal leaves every registration in place. -/
  unregister_error : ∀ {api id error next}, hotkeys.unregister api id = (.error error, next) →
    live next = live api
  /-- Capture scopes do not touch registrations. -/
  captureAll : ∀ api, live (hotkeys.captureAll api) = live api
  releaseCapture : ∀ api, live (hotkeys.releaseCapture api) = live api

/-- The registry is a lawful API with room for every nonzero id, whichever removals it refuses. -/
theorem registryApi_lawful {Error : Type*} (refused : Nat → Option Error) :
    (registryApi refused).Lawful (fun api => api.inner.registered) (UInt32.size - 1) where
  -- A fresh id is found as long as not all are taken.
  intercept api chord room := by
    obtain ⟨id, next, registered, fresh, grown⟩ := Inner.register_fresh room chord true
    simp only [registryApi, registered]
    refine ⟨fun other listed => ?_, grown⟩
    rw [Inner.mem_registered, AList.lookup_eq_none.mpr fresh] at listed
    cases listed
  unregister_ok := by
    intro api id next removed
    simp only [registryApi] at removed
    split at removed
    · cases removed
    · cases removed
      exact api.inner.unregister_registered id
  unregister_error := by
    intro api id error next kept
    simp only [registryApi] at kept
    split at kept <;> cases kept
    rfl
  captureAll _ := rfl
  releaseCapture api := by
    simp only [registryApi, Inner.leaveCaptureAll]
    split <;> rfl

namespace KeyBindingManager

variable {Api Error : Type*} {hotkeys : HotkeyApi Api Error}
  {live : Api → Finset (UInt32 × Chord)} {capacity : Nat}

/-- The two maps are inverse to each other and name exactly the live registrations. -/
structure Bijective (live : Api → Finset (UInt32 × Chord)) (manager : KeyBindingManager Api) :
    Prop where
  inverse : ∀ id ident,
    manager.identsById.lookup id = some ident ↔ manager.idForIdent ident = some id
  live : ∀ id chord,
    (id, chord) ∈ live manager.api ↔ ∃ ident, manager.bindings.lookup ident = some ⟨id, chord⟩

/-- There are at most as many live registrations as bindings. -/
theorem Bijective.card_le {manager : KeyBindingManager Api} (paired : manager.Bijective live) :
    (live manager.api).card ≤ manager.bindings.keys.length := by
  -- Every live registration is read off the binding of some identifier.
  let entries := manager.bindings.keys.filterMap fun ident =>
    (manager.bindings.lookup ident).map fun binding => (binding.id, binding.chord)
  have covered : live manager.api ⊆ entries.toFinset := by
    intro entry member
    obtain ⟨ident, found⟩ := (paired.live entry.1 entry.2).mp member
    refine List.mem_toFinset.mpr (List.mem_filterMap.mpr ⟨ident, ?_, by simp [found]⟩)
    exact AList.mem_keys.mp (AList.lookup_isSome.mp (by simp [found]))
  calc (live manager.api).card ≤ entries.toFinset.card := Finset.card_le_card covered
    _ ≤ entries.length := List.toFinset_card_le entries
    _ ≤ manager.bindings.keys.length := List.length_filterMap_le ..

/-- Identifiers with one id are one identifier. -/
theorem Bijective.ident_unique {manager : KeyBindingManager Api} (paired : manager.Bijective live)
    {id : UInt32} {ident other : String} (left : manager.idForIdent ident = some id)
    (right : manager.idForIdent other = some id) : ident = other := by
  -- Both are what the reverse map holds for the id.
  have found := (paired.inverse id ident).mpr left
  rw [(paired.inverse id other).mpr right] at found
  exact (Option.some.inj found).symm

/-- Registering a new identifier keeps the pairing and adds one binding. -/
theorem registerBinding_spec (lawful : hotkeys.Lawful live capacity)
    {manager : KeyBindingManager Api} (paired : manager.Bijective live) {ident : String}
    (absent : manager.bindings.lookup ident = none) (chord : Chord)
    (room : manager.bindings.keys.length < capacity) :
    (manager.registerBinding hotkeys ident chord).Bijective live ∧
      ∃ id, (manager.registerBinding hotkeys ident chord).bindings =
        manager.bindings.insert ident ⟨id, chord⟩ := by
  -- The API returns an id that is registered to nobody.
  obtain ⟨fresh, added⟩ := lawful.intercept manager.api chord (paired.card_le.trans_lt room)
  refine ⟨⟨fun id other => ?_, fun id other => ?_⟩, _, rfl⟩
  · -- The new id belonged to nobody, and the new identifier had no id.
    have unowned : manager.idForIdent other ≠ some (hotkeys.intercept manager.api chord).1 := by
      intro owned
      obtain ⟨binding, found, same⟩ := Option.map_eq_some_iff.mp owned
      refine fresh binding.chord ((paired.live _ _).mpr ⟨other, ?_⟩)
      rw [found, ← same]
    have unnamed : manager.identsById.lookup id ≠ some ident := by
      intro named
      simpa [idForIdent, absent] using (paired.inverse id ident).mp named
    simp only [registerBinding, idForIdent, HashMap.lookup_insert_ite]
    by_cases sameId : id = (hotkeys.intercept manager.api chord).1
    · by_cases same : other = ident
      · simp [sameId, same]
      · have apart : ident ≠ other := Ne.symm same
        have unowned' := unowned
        simp only [idForIdent] at unowned'
        simp [sameId, same, apart, unowned']
    · by_cases same : other = ident
      · subst same
        simpa [sameId, Ne.symm sameId] using unnamed
      · simpa [sameId, same, idForIdent] using paired.inverse id other
  · simp only [registerBinding, added, Finset.mem_insert, paired.live, Prod.mk.injEq,
      HashMap.lookup_insert_ite]
    constructor
    · rintro (⟨rfl, rfl⟩ | ⟨owner, found⟩)
      · exact ⟨ident, by simp⟩
      · have apart : owner ≠ ident := by
          rintro rfl
          simp [absent] at found
        exact ⟨owner, by simp [apart, found]⟩
    · rintro ⟨owner, found⟩
      by_cases same : owner = ident
      · simp only [same, if_true, Option.some.injEq, BindingRegistration.mk.injEq] at found
        exact .inl ⟨found.1.symm, found.2.symm⟩
      · exact .inr ⟨owner, by simpa [same] using found⟩

/-- A successful removal keeps the pairing and removes one binding. -/
theorem unregisterBinding_ok (lawful : hotkeys.Lawful live capacity)
    {manager next : KeyBindingManager Api} (paired : manager.Bijective live) {ident : String}
    {binding : BindingRegistration}
    (removed : manager.unregisterBinding hotkeys ident = (.ok (some binding), next)) :
    manager.bindings.lookup ident = some binding ∧ next.Bijective live ∧
      next.bindings = manager.bindings.erase ident := by
  -- The identifier has an id, which the API gives up.
  unfold unregisterBinding at removed
  cases found : manager.bindings.lookup ident with
  | none => simp [found] at removed
  | some old =>
    rcases answer : hotkeys.unregister manager.api old.id with ⟨_ | _, api⟩
    · simp [found, answer] at removed
    · simp only [found, answer, Prod.mk.injEq, Except.ok.injEq, Option.some.injEq] at removed
      obtain ⟨rfl, rfl⟩ := removed
      have owned : manager.idForIdent ident = some old.id := by simp [idForIdent, found]
      refine ⟨rfl, ⟨fun id other => ?_, fun id chord => ?_⟩, rfl⟩
      · -- The erased id is the one the erased identifier had, and no other identifier has it.
        simp only [idForIdent, HashMap.lookup_erase_ite]
        by_cases sameId : id = old.id
        · by_cases same : other = ident
          · simp [sameId, same]
          · simp only [sameId, if_true, same, if_false, reduceCtorEq, false_iff]
            exact fun also => same (paired.ident_unique also owned)
        · by_cases same : other = ident
          · subst same
            simp only [sameId, if_false, if_true, Option.map_none, reduceCtorEq, iff_false,
              paired.inverse, owned, Option.some.injEq]
            exact Ne.symm sameId
          · simpa [sameId, same, idForIdent] using paired.inverse id other
      · simp only [lawful.unregister_ok answer, Finset.mem_filter, paired.live,
          HashMap.lookup_erase_ite]
        constructor
        · rintro ⟨⟨owner, held⟩, apart⟩
          have other : owner ≠ ident := by
            rintro rfl
            rw [found] at held
            cases held
            exact apart rfl
          exact ⟨owner, by simp [other, held]⟩
        · rintro ⟨owner, held⟩
          by_cases same : owner = ident
          · simp [same] at held
          · simp only [same, if_false] at held
            refine ⟨⟨owner, held⟩, fun sameId => same (paired.ident_unique ?_ owned)⟩
            simpa [idForIdent, held] using sameId

/-- A refused removal keeps the pairing and every binding. -/
theorem unregisterBinding_error (lawful : hotkeys.Lawful live capacity)
    {manager next : KeyBindingManager Api} (paired : manager.Bijective live) {ident : String}
    {error : Error} (refused : manager.unregisterBinding hotkeys ident = (.error error, next)) :
    next.Bijective live ∧ next.bindings = manager.bindings := by
  -- A refusal leaves the id registered and the binding in place.
  unfold unregisterBinding at refused
  cases found : manager.bindings.lookup ident with
  | none => simp [found] at refused
  | some old =>
    rcases answer : hotkeys.unregister manager.api old.id with ⟨_ | _, api⟩
    · simp only [found, answer, Prod.mk.injEq] at refused
      obtain ⟨_, rfl⟩ := refused
      refine ⟨⟨paired.inverse, fun id chord => ?_⟩, rfl⟩
      rw [← paired.live, ← lawful.unregister_error answer]
    · simp [found, answer] at refused

/-- Registers pairs of an identifier and a chord one after the other. -/
def registerAll (hotkeys : HotkeyApi Api Error) (pairs : List (String × Chord))
    (manager : KeyBindingManager Api) : KeyBindingManager Api :=
  pairs.foldl (fun manager pair => manager.registerBinding hotkeys pair.1 pair.2) manager

/-- Registering new identifiers keeps the pairing and adds exactly their chords. -/
theorem registerAll_spec (lawful : hotkeys.Lawful live capacity) (pairs : List (String × Chord))
    (distinct : (pairs.map Prod.fst).Nodup) {manager : KeyBindingManager Api}
    (paired : manager.Bijective live)
    (absent : ∀ ident ∈ pairs.map Prod.fst, manager.bindings.lookup ident = none)
    (room : manager.bindings.keys.length + pairs.length ≤ capacity) :
    (registerAll hotkeys pairs manager).Bijective live ∧
      (∀ ident ∉ pairs.map Prod.fst,
        (registerAll hotkeys pairs manager).bindings.lookup ident =
          manager.bindings.lookup ident) ∧
      ∀ ident chord, (ident, chord) ∈ pairs →
        (registerAll hotkeys pairs manager).chordForIdent ident = some chord := by
  -- The first pair is registered while the others are still absent.
  induction pairs generalizing manager with
  | nil => exact ⟨paired, fun _ _ => rfl, by simp⟩
  | cons pair rest ih =>
    simp only [List.map_cons, List.nodup_cons] at distinct
    have new : manager.bindings.lookup pair.1 = none := absent pair.1 (by simp)
    simp only [List.length_cons] at room
    obtain ⟨kept, id, grown⟩ := registerBinding_spec lawful paired new pair.2 (by omega)
    obtain ⟨final, others, theirs⟩ := ih distinct.2 kept
      (by
        intro ident member
        have apart : ident ≠ pair.1 := by
          rintro rfl
          exact distinct.1 member
        rw [grown, HashMap.lookup_insert_ite, if_neg apart]
        exact absent ident (by simp [member]))
      (by
        rw [grown, HashMap.length_keys_insert (AList.lookup_eq_none.mp new)]
        omega)
    refine ⟨final, fun ident outside => ?_, fun ident chord member => ?_⟩
    · simp only [List.map_cons, List.mem_cons, not_or] at outside
      refine (others ident outside.2).trans ?_
      rw [grown, HashMap.lookup_insert_ite, if_neg outside.1]
    · rcases List.mem_cons.mp member with rfl | member
      · -- No later pair has this identifier, so its registration stays.
        have stays := others ident distinct.1
        simp only [grown, HashMap.lookup_insert_ite, if_true] at stays
        simp only [chordForIdent]
        exact (congrArg _ stays).trans rfl
      · exact theirs ident chord member

/-- Restoring removed bindings registers each identifier with its old chord. -/
theorem restoreBindings_eq (manager : KeyBindingManager Api)
    (removed : List (String × BindingRegistration)) :
    manager.restoreBindings hotkeys removed =
      registerAll hotkeys (removed.map fun entry => (entry.1, entry.2.chord)) manager := by
  simp [restoreBindings, registerAll, List.foldl_map]

/-- Registering desired identifiers registers each with its desired chord. -/
theorem registerBindings_eq (desired : HashMap String Chord) (idents : List String)
    (manager : KeyBindingManager Api) :
    manager.registerBindings hotkeys desired idents =
      registerAll hotkeys
        (idents.filterMap fun ident => (desired.lookup ident).map (Prod.mk ident)) manager := by
  -- An identifier that is not desired is skipped on both sides.
  induction idents generalizing manager with
  | nil => rfl
  | cons ident rest ih =>
    simp only [registerBindings, List.foldl_cons] at ih ⊢
    rw [ih]
    cases wanted : desired.lookup ident <;> simp [registerAll, wanted]

/-- The state of a removal loop: what it took away, and that the rest is as it was. -/
structure Removing (live : Api → Finset (UInt32 × Chord)) (origin : KeyBindingManager Api)
    (removed : List (String × BindingRegistration)) (manager : KeyBindingManager Api) : Prop where
  paired : manager.Bijective live
  distinct : (removed.map Prod.fst).Nodup
  taken : ∀ entry ∈ removed, origin.bindings.lookup entry.1 = some entry.2
  lookup : ∀ ident, manager.bindings.lookup ident =
    if ident ∈ removed.map Prod.fst then none else origin.bindings.lookup ident
  count : manager.bindings.keys.length + removed.length = origin.bindings.keys.length

/-- Restoring what a removal loop took away brings every chord back. -/
theorem Removing.restore (lawful : hotkeys.Lawful live capacity)
    {origin manager : KeyBindingManager Api} {removed : List (String × BindingRegistration)}
    (removing : Removing live origin removed manager)
    (fits : origin.bindings.keys.length ≤ capacity) :
    (manager.restoreBindings hotkeys removed).Bijective live ∧
      ∀ ident, (manager.restoreBindings hotkeys removed).chordForIdent ident =
        origin.chordForIdent ident := by
  -- What was removed is registered again, under new ids and the old chords.
  have idents : (removed.map fun entry => (entry.1, entry.2.chord)).map Prod.fst =
      removed.map Prod.fst := by simp
  obtain ⟨paired, others, theirs⟩ := registerAll_spec lawful
    (removed.map fun entry => (entry.1, entry.2.chord)) (idents ▸ removing.distinct) removing.paired
    (by
      intro ident member
      rw [removing.lookup, if_pos (idents ▸ member)])
    (by
      rw [List.length_map, removing.count]
      exact fits)
  rw [restoreBindings_eq]
  refine ⟨paired, fun ident => ?_⟩
  by_cases member : ident ∈ removed.map Prod.fst
  · obtain ⟨entry, inRemoved, rfl⟩ := List.mem_map.mp member
    rw [theirs entry.1 entry.2.chord (List.mem_map.mpr ⟨entry, inRemoved, rfl⟩), chordForIdent,
      removing.taken entry inRemoved]
    rfl
  · simp only [chordForIdent, others ident (idents ▸ member), removing.lookup, if_neg member]

/-- A removal loop ends with all its identifiers gone, or with every chord back. -/
theorem removeBindings_spec (lawful : hotkeys.Lawful live capacity)
    {origin : KeyBindingManager Api} (fits : origin.bindings.keys.length ≤ capacity)
    {idents : List String} (removed : List (String × BindingRegistration))
    {manager next : KeyBindingManager Api} (removing : Removing live origin removed manager)
    {result : Except Error Unit}
    (answered : removeBindings hotkeys removed idents manager = (result, next)) :
    next.Bijective live ∧
      (result = .ok () → ∀ ident, next.bindings.lookup ident =
        if ident ∈ removed.map Prod.fst ∨ ident ∈ idents then none
        else origin.bindings.lookup ident) ∧
      (∀ error, result = .error error →
        ∀ ident, next.chordForIdent ident = origin.chordForIdent ident) := by
  -- The loop keeps the record of what it removed exact, so a restore finds all of it.
  induction idents generalizing removed manager with
  | nil =>
    cases answered
    refine ⟨removing.paired, fun _ ident => ?_, nofun⟩
    simpa only [List.not_mem_nil, or_false] using removing.lookup ident
  | cons ident rest ih =>
    simp only [removeBindings] at answered
    split at answered
    · rename_i binding reached taken
      obtain ⟨found, paired, erased⟩ := unregisterBinding_ok lawful removing.paired taken
      have absent : ident ∉ removed.map Prod.fst := fun member => by
        simp [removing.lookup, member] at found
      have old : origin.bindings.lookup ident = some binding := by
        rw [← found, removing.lookup, if_neg absent]
      -- The record grows by what was just removed, which was as it had been at the start.
      have further := ih (removed ++ [(ident, binding)])
        { paired
          distinct := by
            rw [List.map_append, List.nodup_append]
            refine ⟨removing.distinct, by simp, fun other member last only same => absent ?_⟩
            rw [List.map_singleton, List.mem_singleton] at only
            rw [same, only] at member
            exact member
          taken := by
            intro entry member
            rcases List.mem_append.mp member with member | member
            · exact removing.taken entry member
            · cases List.mem_singleton.mp member
              exact old
          lookup := by
            intro other
            rw [erased, HashMap.lookup_erase_ite, removing.lookup, List.map_append]
            by_cases same : other = ident <;>
              simp only [same, if_true, if_false, List.map_cons, List.map_nil, List.mem_append,
                List.mem_singleton, or_true, or_false]
          count := by
            have present : ident ∈ manager.bindings := AList.lookup_isSome.mp (by simp [found])
            have shorter := HashMap.length_keys_erase present
            have total := removing.count
            simp only [erased, List.length_append, List.length_singleton]
            omega } answered
      refine ⟨further.1, fun ended other => ?_, further.2.2⟩
      rw [further.2.1 ended]
      simp only [List.map_append, List.map_cons, List.map_nil, List.mem_append, List.mem_cons,
        List.not_mem_nil, or_false, or_assoc]
    · -- An identifier without a binding is passed over.
      rename_i reached passed
      have same : reached = manager ∧ manager.bindings.lookup ident = none := by
        unfold unregisterBinding at passed
        split at passed
        · rename_i absent
          cases passed
          exact ⟨rfl, absent⟩
        · split at passed <;> cases passed
      obtain ⟨rfl, absent⟩ := same
      have further := ih removed removing answered
      refine ⟨further.1, fun ended other => ?_, further.2.2⟩
      rw [further.2.1 ended]
      by_cases same : other = ident
      · have gone := removing.lookup ident
        rw [absent] at gone
        subst same
        by_cases member : other ∈ removed.map Prod.fst
        · simp only [member, true_or, if_true]
        · rw [if_neg member] at gone
          simp only [← gone, ite_self]
      · simp only [List.mem_cons, same, false_or]
    -- A refusal changes nothing, so restoring the record restores the start.
    · rename_i error reached refused
      obtain ⟨paired, unchanged⟩ := unregisterBinding_error lawful removing.paired refused
      cases answered
      have restored := Removing.restore lawful
        { removing with
          paired
          lookup := by simpa only [unchanged] using removing.lookup
          count := by simpa only [unchanged] using removing.count } fits
      exact ⟨restored.1, nofun, fun _ _ => restored.2⟩

/-- An identifier has a chord exactly when it has a binding. -/
theorem chordForIdent_eq_none {manager : KeyBindingManager Api} {ident : String} :
    manager.chordForIdent ident = none ↔ ident ∉ manager.bindings.keys := by
  simp [chordForIdent, AList.lookup_eq_none, AList.mem_keys]

variable {order : UpdateOrder} {manager : KeyBindingManager Api} {desired : HashMap String Chord}
  {ident : String}

/-- The replaced identifiers are the bound and desired ones whose two chords differ. -/
theorem mem_replacedKeys : ident ∈ manager.replacedKeys order desired ↔
    manager.chordForIdent ident ≠ none ∧ desired.lookup ident ≠ none ∧
      desired.lookup ident ≠ manager.chordForIdent ident := by
  simp only [replacedKeys, List.mem_filter, IterationOrder.mem_arrange, ← AList.mem_keys,
    ← AList.lookup_isSome]
  cases manager.chordForIdent ident <;> cases desired.lookup ident <;> simp

/-- The added identifiers are the desired ones without a binding. -/
theorem mem_addedKeys : ident ∈ manager.addedKeys order desired ↔
    manager.chordForIdent ident = none ∧ desired.lookup ident ≠ none := by
  simp only [addedKeys, List.mem_filter, IterationOrder.mem_arrange, decide_eq_true_eq,
    chordForIdent_eq_none, ne_eq, AList.lookup_eq_none, AList.mem_keys, not_not]
  exact and_comm

/-- The removed identifiers are the bound ones that are not desired. -/
theorem mem_removedKeys : ident ∈ manager.removedKeys order desired ↔
    manager.chordForIdent ident ≠ none ∧ desired.lookup ident = none := by
  simp only [removedKeys, List.mem_filter, IterationOrder.mem_arrange, decide_eq_true_eq,
    chordForIdent_eq_none, ne_eq, AList.lookup_eq_none, AList.mem_keys, not_not]

/-- The identifiers unregistered by an update are the bound ones that do not match. -/
theorem mem_unregistered :
    ident ∈ manager.removedKeys order desired ++ manager.replacedKeys order desired ↔
      manager.chordForIdent ident ≠ none ∧
        desired.lookup ident ≠ manager.chordForIdent ident := by
  rw [List.mem_append, mem_removedKeys, mem_replacedKeys]
  cases desired.lookup ident <;> simp [eq_comm]

/-- The identifiers registered by an update are the desired ones that do not match. -/
theorem mem_registered :
    ident ∈ manager.addedKeys order desired ++ manager.replacedKeys order desired ↔
      desired.lookup ident ≠ none ∧ desired.lookup ident ≠ manager.chordForIdent ident := by
  rw [List.mem_append, mem_addedKeys, mem_replacedKeys]
  cases manager.chordForIdent ident <;> simp

/-- No identifier is added or replaced twice. -/
theorem nodup_added_replaced :
    (manager.addedKeys order desired ++ manager.replacedKeys order desired).Nodup := by
  -- An added identifier has no binding, and a replaced one has.
  refine List.nodup_append.mpr ⟨(order.desiredIdents.nodup_arrange desired.keys_nodup).filter _,
    (order.desired.nodup_arrange desired.keys_nodup).filter _, ?_⟩
  rintro ident added other replaced rfl
  exact (mem_replacedKeys.mp replaced).1 (mem_addedKeys.mp added).1

/-- Pairing identifiers with their desired chords keeps those that are desired. -/
theorem map_fst_desired (desired : HashMap String Chord) (idents : List String) (wanted : ∀ ident ∈ idents,
    desired.lookup ident ≠ none) :
    (idents.filterMap fun ident => (desired.lookup ident).map (Prod.mk ident)).map Prod.fst =
      idents := by
  induction idents with
  | nil => rfl
  | cons ident rest ih =>
    have tail := ih fun other member => wanted other (by simp [member])
    cases chord : desired.lookup ident with
    | none => exact absurd chord (wanted ident (by simp))
    | some chord => simp_all

/-- Bindings with the desired chords match and the others do not. -/
theorem bindingsMatch_iff : manager.bindingsMatch desired = true ↔
    ∀ ident, manager.chordForIdent ident = desired.lookup ident := by
  simp only [bindingsMatch, Bool.and_eq_true, beq_iff_eq, List.all_eq_true]
  constructor
  · -- Equally many keys that include the desired ones are the desired ones.
    rintro ⟨sizes, agree⟩ ident
    by_cases wanted : ident ∈ desired.keys
    · exact agree ident wanted
    · have included : desired.keys ⊆ manager.bindings.keys := by
        intro other member
        by_contra unbound
        have same := agree other member
        rw [chordForIdent_eq_none.mpr unbound] at same
        exact AList.lookup_eq_none.mp same.symm (AList.mem_keys.mpr member)
      have equal := (List.subperm_of_subset desired.keys_nodup included).perm_of_length_le
        sizes.le
      rw [chordForIdent_eq_none.mpr fun member => wanted (equal.mem_iff.mpr member),
        AList.lookup_eq_none.mpr fun member => wanted (AList.mem_keys.mp member)]
  · intro agree
    have same : ∀ ident, ident ∈ manager.bindings.keys ↔ ident ∈ desired.keys := by
      intro ident
      rw [← not_iff_not, ← chordForIdent_eq_none, agree, AList.lookup_eq_none, AList.mem_keys]
    exact ⟨((List.perm_ext_iff_of_nodup manager.bindings.keys_nodup desired.keys_nodup).mpr
      same).length_eq, fun ident _ => agree ident⟩

/-- Registering what is missing after the removals installs the desired bindings. -/
theorem registerBindings_spec (lawful : hotkeys.Lawful live capacity)
    {reached : KeyBindingManager Api} (paired : reached.Bijective live)
    (kept : ∀ ident, reached.bindings.lookup ident =
      if desired.lookup ident = manager.chordForIdent ident then manager.bindings.lookup ident
      else none)
    (room : desired.keys.length ≤ capacity) {next : KeyBindingManager Api}
    (registered : reached.registerBindings hotkeys desired
      (manager.addedKeys order desired ++ manager.replacedKeys order desired) = next) :
    next.Bijective live ∧ (∀ ident, next.chordForIdent ident = desired.lookup ident) ∧
      ∀ ident, desired.lookup ident = manager.chordForIdent ident →
        next.idForIdent ident = manager.idForIdent ident := by
  rw [registerBindings_eq] at registered
  have named := map_fst_desired desired
    (manager.addedKeys order desired ++ manager.replacedKeys order desired)
    fun ident member => (mem_registered.mp member).1
  have unbound : ∀ ident ∈ manager.addedKeys order desired ++ manager.replacedKeys order desired,
      reached.bindings.lookup ident = none := by
    intro ident member
    rw [kept, if_neg (mem_registered.mp member).2]
  -- What stays bound and what is to be registered are distinct desired identifiers.
  have sizes : reached.bindings.keys.length +
      (manager.addedKeys order desired ++ manager.replacedKeys order desired).length ≤
        capacity := by
    rw [← List.length_append]
    refine le_trans (List.subperm_of_subset ?_ ?_).length_le room
    · refine List.nodup_append.mpr ⟨reached.bindings.keys_nodup, nodup_added_replaced, ?_⟩
      rintro ident bound other member rfl
      exact AList.lookup_eq_none.mp (unbound ident member) (AList.mem_keys.mpr bound)
    · intro ident member
      refine AList.mem_keys.mp (AList.lookup_isSome.mp (Option.isSome_iff_ne_none.mpr ?_))
      rcases List.mem_append.mp member with bound | member
      · intro undesired
        refine AList.lookup_eq_none.mp ?_ (AList.mem_keys.mpr bound)
        rw [kept, undesired]
        split
        · rename_i free
          exact AList.lookup_eq_none.mpr fun bound =>
            chordForIdent_eq_none.mp free.symm (AList.mem_keys.mp bound)
        · rfl
      · exact (mem_registered.mp member).1
  -- So there is room for each of them, and none is refused.
  obtain ⟨final, others, theirs⟩ := registerAll_spec lawful _
    (by rw [named]; exact nodup_added_replaced) paired (by rwa [named])
    (by rwa [← List.length_map Prod.fst, named])
  rw [registered, named] at others
  rw [registered] at final theirs
  refine ⟨final, fun ident => ?_, fun ident same => ?_⟩
  · by_cases member :
        ident ∈ manager.addedKeys order desired ++ manager.replacedKeys order desired
    · obtain ⟨chord, found⟩ := Option.ne_none_iff_exists'.mp (mem_registered.mp member).1
      rw [found]
      exact theirs ident chord (List.mem_filterMap.mpr ⟨ident, member, by simp [found]⟩)
    · rw [chordForIdent, others ident member, kept]
      rw [mem_registered, not_and, not_not] at member
      split
      · rename_i same
        exact same.symm
      · rename_i differs
        -- What is neither added nor replaced is bound as desired already, or is not desired.
        by_contra wanted
        exact differs (member (Ne.symm wanted))
  · rw [idForIdent, others ident fun member => (mem_registered.mp member).2 same, kept, if_pos same]
    rfl

/-- An update installs the desired bindings and keeps the ids of unchanged ones, or undoes all. -/
theorem updateBindings_spec (order : UpdateOrder) (lawful : hotkeys.Lawful live capacity)
    (paired : manager.Bijective live) (fits : manager.bindings.keys.length ≤ capacity)
    {keyPairs : List (String × Chord)} (room : keyPairs.length ≤ capacity)
    {result : Except Error Bool} {next : KeyBindingManager Api}
    (answered : manager.updateBindings hotkeys order keyPairs = (result, next)) :
    next.Bijective live ∧
      (∀ changed, result = .ok changed →
        (∀ ident, next.chordForIdent ident = (HashMap.collect keyPairs).lookup ident) ∧
        ∀ ident, next.chordForIdent ident = manager.chordForIdent ident →
          next.idForIdent ident = manager.idForIdent ident) ∧
      ∀ error, result = .error error →
        ∀ ident, next.chordForIdent ident = manager.chordForIdent ident := by
  -- The removals come first; a refusal there has added nothing.
  unfold updateBindings at answered
  simp only at answered
  split at answered
  · -- Matching bindings are left alone.
    rename_i matched
    cases answered
    exact ⟨paired, fun _ _ => ⟨bindingsMatch_iff.mp matched, fun _ _ => rfl⟩, nofun⟩
  · rcases gone : removeBindings hotkeys [] (manager.removedKeys order (HashMap.collect keyPairs) ++
      manager.replacedKeys order (HashMap.collect keyPairs)) manager with ⟨refusal | _, reached⟩
    all_goals
      obtain ⟨kept, left, undone⟩ := removeBindings_spec lawful fits []
        ⟨paired, by simp, by simp, by simp, by simp⟩ gone
      simp only [gone, Prod.mk.injEq] at answered
      obtain ⟨rfl, registered⟩ := answered
    · -- The loop that met a refusal has restored every chord.
      subst registered
      exact ⟨kept, nofun, fun _ _ => undone refusal rfl⟩
    · obtain ⟨final, chords, ids⟩ := registerBindings_spec lawful kept
        (fun ident => by
          rw [left rfl, List.map_nil]
          simp only [List.not_mem_nil, false_or, mem_unregistered]
          cases bound : manager.bindings.lookup ident with
          | none => simp
          | some binding => simp [chordForIdent, bound])
        ((HashMap.length_keys_collect_le keyPairs).trans room) registered
      exact ⟨final, fun _ _ => ⟨chords, fun ident same => ids ident (by rw [← chords, same])⟩, nofun⟩

/-- Changing the capture state keeps the pairing and every binding. -/
theorem setCaptureAll_spec (lawful : hotkeys.Lawful live capacity)
    (paired : manager.Bijective live) (active : Bool) :
    (manager.setCaptureAll hotkeys active).Bijective live ∧
      (manager.setCaptureAll hotkeys active).bindings = manager.bindings := by
  unfold setCaptureAll
  split
  · exact ⟨⟨paired.inverse, by simpa only [lawful.captureAll] using paired.live⟩, rfl⟩
  · exact ⟨⟨paired.inverse, by simpa only [lawful.releaseCapture] using paired.live⟩, rfl⟩
  · exact ⟨⟨paired.inverse, paired.live⟩, rfl⟩

/-- The calls that change a binding manager. -/
inductive Call where
  /-- An update to some desired bindings, visiting its tables in some order. -/
  | updateBindings (order : UpdateOrder) (keyPairs : List (String × Chord))
  | setCaptureAll (active : Bool)

/-- One call on a binding manager, whose desired bindings have distinct identifiers and fit. -/
inductive Called (hotkeys : HotkeyApi Api Error) (capacity : Nat) :
    KeyBindingManager Api → Call → KeyBindingManager Api → Prop where
  | updateBindings (manager : KeyBindingManager Api) (order : UpdateOrder)
      {keyPairs : List (String × Chord)} (distinct : (keyPairs.map Prod.fst).Nodup)
      (room : keyPairs.length ≤ capacity) :
      Called hotkeys capacity manager (.updateBindings order keyPairs)
        (manager.updateBindings hotkeys order keyPairs).2
  | setCaptureAll (manager : KeyBindingManager Api) (active : Bool) :
      Called hotkeys capacity manager (.setCaptureAll active)
        (manager.setCaptureAll hotkeys active)

/-- Managers whose bindings have the same identifiers have equally many. -/
theorem length_keys_le_of_bound {left : KeyBindingManager Api} (idents : List String)
    (included : ∀ ident, left.chordForIdent ident ≠ none → ident ∈ idents) :
    left.bindings.keys.length ≤ idents.length :=
  (List.subperm_of_subset left.bindings.keys_nodup fun ident member =>
    included ident fun unbound => chordForIdent_eq_none.mp unbound member).length_le

/-- Every manager reached by calls is paired with its API and fits into it. -/
theorem reachable_bijective (lawful : hotkeys.Lawful live capacity) {calls : List Call}
    {start final : KeyBindingManager Api} (run : Run (Called hotkeys capacity) start calls final)
    (paired : start.Bijective live) (fits : start.bindings.keys.length ≤ capacity) :
    final.Bijective live ∧ final.bindings.keys.length ≤ capacity := by
  -- The pairing is kept by every call, and the order of visits does not matter to it.
  refine run.invariant (fun manager => manager.Bijective live ∧
    manager.bindings.keys.length ≤ capacity) ?_ ⟨paired, fits⟩
  rintro manager call next called ⟨paired, fits⟩
  cases called with
  | @updateBindings order keyPairs distinct room =>
    rcases answered : manager.updateBindings hotkeys order keyPairs with ⟨result, next⟩
    obtain ⟨kept, installed, undone⟩ := updateBindings_spec order lawful paired fits room answered
    refine ⟨kept, ?_⟩
    cases result with
    | ok changed =>
      refine le_trans (length_keys_le_of_bound (keyPairs.map Prod.fst) ?_) (by simpa)
      intro ident bound
      rw [(installed changed rfl).1, ← Option.isSome_iff_ne_none, AList.lookup_isSome,
        HashMap.mem_collect] at bound
      exact bound
    | error error =>
      refine le_trans (length_keys_le_of_bound manager.bindings.keys ?_) fits
      intro ident bound
      rw [undone error rfl] at bound
      by_contra unbound
      exact bound (chordForIdent_eq_none.mpr unbound)
  | setCaptureAll active =>
    obtain ⟨kept, same⟩ := setCaptureAll_spec lawful paired active
    exact ⟨kept, by rwa [same]⟩

/--
An update of any reachable manager is a transaction, whichever removals the API refuses.

On success the bindings are the desired ones and unchanged ones keep their ids. On failure every
identifier has its chord from before. Either way the ids are exactly the live registrations.
-/
theorem updateBindings_transaction (lawful : hotkeys.Lawful live capacity) {api : Api}
    (unused : live api = ∅) {calls : List Call} {manager : KeyBindingManager Api}
    (reachable : Run (Called hotkeys capacity) (newWithApi api) calls manager)
    (order : UpdateOrder) {keyPairs : List (String × Chord)}
    (distinct : (keyPairs.map Prod.fst).Nodup) (room : keyPairs.length ≤ capacity) :
    let (result, next) := manager.updateBindings hotkeys order keyPairs
    next.Bijective live ∧
      (∀ changed, result = .ok changed →
        (∀ ident chord, next.chordForIdent ident = some chord ↔ (ident, chord) ∈ keyPairs) ∧
        ∀ ident, next.chordForIdent ident = manager.chordForIdent ident →
          next.idForIdent ident = manager.idForIdent ident) ∧
      ∀ error, result = .error error →
        ∀ ident, next.chordForIdent ident = manager.chordForIdent ident := by
  -- Every reachable manager is paired, and an update of a paired one is all or nothing.
  have empty : (newWithApi api).Bijective live :=
    ⟨by simp [newWithApi, idForIdent], by simp [newWithApi, unused]⟩
  obtain ⟨paired, fits⟩ := reachable_bijective lawful reachable empty (by simp [newWithApi])
  obtain ⟨kept, installed, undone⟩ :=
    updateBindings_spec order lawful paired fits room rfl
  refine ⟨kept, fun changed ok => ?_, undone⟩
  refine ⟨fun ident chord => ?_, (installed changed ok).2⟩
  rw [(installed changed ok).1, HashMap.lookup_collect distinct]

/-- A registry that refuses the second removal it is asked for. -/
private def refusing : HotkeyApi RegistryApi String :=
  registryApi fun call => if call = 1 then some "refused" else none

/-- The order of every table as it is stored. -/
private def storedOrder : UpdateOrder := ⟨.stored _, .stored _, .stored _⟩

/-- Two bindings, of which the next update replaces one and removes the other. -/
private def boundTwice : KeyBindingManager RegistryApi :=
  ((newWithApi {}).updateBindings refusing storedOrder
    [("a", ⟨∅, .a⟩), ("b", ⟨∅, .b⟩)]).2

/-- A refusal after one removal ends in an error with both chords bound. -/
theorem updateBindings_transaction_refused :
    let (result, next) := boundTwice.updateBindings refusing storedOrder [("a", ⟨∅, .c⟩)]
    result = .error "refused" ∧ next.chordForIdent "a" = some ⟨∅, .a⟩ ∧
      next.chordForIdent "b" = some ⟨∅, .b⟩ := by
  -- The API refuses the second removal, and the first one is undone.
  have bound : Run (Called refusing (UInt32.size - 1)) (newWithApi {})
      [.updateBindings storedOrder [("a", ⟨∅, .a⟩), ("b", ⟨∅, .b⟩)]] boundTwice :=
    .cons (.updateBindings _ _ (by decide) (by decide)) (.nil _)
  have distinct : ([("a", (⟨∅, .c⟩ : Chord))].map Prod.fst).Nodup := by decide
  have transaction := updateBindings_transaction (registryApi_lawful _) rfl bound storedOrder
    distinct (by decide)
  have failed : (boundTwice.updateBindings refusing storedOrder [("a", ⟨∅, .c⟩)]).1 =
      .error "refused" := by decide +kernel
  have undone := transaction.2.2
  refine ⟨failed, (undone _ failed "a").trans ?_, (undone _ failed "b").trans ?_⟩ <;>
    decide +kernel

end KeyBindingManager

end Hotki
