import Hotki.Proofs.Engine.KeyBinding

/-! The chord of each identifier through an update, whatever the hotkey API answers. -/

namespace Hotki

open Base

namespace KeyBindingManager

variable {Api Error : Type*} {hotkeys : HotkeyApi Api Error} {order : UpdateOrder}

/-- Registering an identifier gives it its chord and changes no other. -/
theorem chordForIdent_registerBinding (manager : KeyBindingManager Api) (ident other : String)
    (chord : Chord) : (manager.registerBinding hotkeys ident chord).chordForIdent other =
      if other = ident then some chord else manager.chordForIdent other := by
  simp only [registerBinding, chordForIdent, HashMap.lookup_insert_ite]
  split <;> rfl

/-- Unregistering an identifier takes its chord and no other. -/
theorem chordForIdent_unregisterBinding {manager next : KeyBindingManager Api} {ident : String}
    {removed : Option BindingRegistration}
    (answered : manager.unregisterBinding hotkeys ident = (.ok removed, next)) :
    removed.map BindingRegistration.chord = manager.chordForIdent ident ∧
      ∀ other, next.chordForIdent other =
        if other = ident then none else manager.chordForIdent other := by
  unfold unregisterBinding at answered
  split at answered
  · -- Without a binding there is nothing to take.
    rename_i absent
    cases answered
    refine ⟨by simp [chordForIdent, absent], fun other => ?_⟩
    split
    · rename_i same
      rw [same, chordForIdent, absent]
      rfl
    · rfl
  · rename_i binding present
    split at answered <;> cases answered
    refine ⟨by simp [chordForIdent, present], fun other => ?_⟩
    simp only [chordForIdent, HashMap.lookup_erase_ite]
    split <;> rfl

/-- A refused removal takes nothing. -/
theorem chordForIdent_unregisterBinding_error {manager next : KeyBindingManager Api}
    {ident : String} {error : Error}
    (answered : manager.unregisterBinding hotkeys ident = (.error error, next)) (other : String) :
    next.chordForIdent other = manager.chordForIdent other := by
  unfold unregisterBinding at answered
  split at answered
  · cases answered
  · split at answered <;> cases answered
    rfl

/-- Restoring removed bindings gives back the chords they were removed with. -/
theorem chordForIdent_restoreBindings (before : String → Option Chord)
    (removed : List (String × BindingRegistration)) (manager : KeyBindingManager Api)
    (faithful : ∀ entry ∈ removed, before entry.1 = some entry.2.chord)
    (others : ∀ ident, ident ∉ removed.map Prod.fst →
      manager.chordForIdent ident = before ident) (ident : String) :
    (manager.restoreBindings hotkeys removed).chordForIdent ident = before ident := by
  -- The induction is on what was removed.
  unfold restoreBindings
  induction removed generalizing manager with
  | nil => exact others ident (by simp)
  | cons entry rest ih =>
    rw [List.foldl_cons]
    apply ih
    · intro later member
      exact faithful later (List.mem_cons_of_mem entry member)
    · -- After the first entry is back, only the rest may still be missing.
      intro other absent
      rw [chordForIdent_registerBinding]
      split
      · rename_i same
        rw [same, faithful entry List.mem_cons_self]
      · rename_i apart
        apply others
        simp only [List.map_cons, List.mem_cons, not_or]
        exact ⟨apart, absent⟩

/-- What is gone so far in a walk of removals is exactly what has been recorded. -/
structure Taken (before : String → Option Chord) (removed : List (String × BindingRegistration))
    (manager : KeyBindingManager Api) : Prop where
  faithful : ∀ entry ∈ removed, before entry.1 = some entry.2.chord
  left : ∀ ident, manager.chordForIdent ident =
    if ident ∈ removed.map Prod.fst then none else before ident

/-- Before the first removal nothing is gone. -/
theorem Taken.start (manager : KeyBindingManager Api) :
    Taken manager.chordForIdent [] manager :=
  ⟨fun _ absent => absurd absent List.not_mem_nil, fun _ => (if_neg List.not_mem_nil).symm⟩

/-- Recording a removal keeps the walk faithful. -/
theorem Taken.add {before : String → Option Chord} {removed : List (String × BindingRegistration)}
    {manager next : KeyBindingManager Api} {ident : String} {binding : BindingRegistration}
    (taken : Taken before removed manager)
    (answered : manager.unregisterBinding hotkeys ident = (.ok (some binding), next)) :
    Taken before (removed ++ [(ident, binding)]) next := by
  -- The removal that is recorded is the one just made.
  obtain ⟨had, left⟩ := chordForIdent_unregisterBinding answered
  constructor
  · intro entry member
    rcases List.mem_append.mp member with old | new
    · exact taken.faithful entry old
    · -- The chord it had is the one from before, since it was not gone yet.
      rw [List.mem_singleton.mp new]
      have present : manager.chordForIdent ident = some binding.chord := had.symm
      rw [taken.left] at present
      split at present
      · cases present
      · exact present
  · intro other
    rw [left, taken.left]
    by_cases same : other = ident
    · simp [same]
    · simp only [same, if_false, List.map_append, List.map_cons, List.map_nil, List.mem_append,
        List.mem_singleton, or_false]

/-- An identifier without a binding leaves the walk as it is. -/
theorem Taken.skip {before : String → Option Chord} {removed : List (String × BindingRegistration)}
    {manager next : KeyBindingManager Api} {ident : String} (taken : Taken before removed manager)
    (answered : manager.unregisterBinding hotkeys ident = (.ok none, next)) :
    Taken before removed next ∧ manager.chordForIdent ident = none := by
  -- Nothing was taken, so what is recorded is still what is gone.
  obtain ⟨had, left⟩ := chordForIdent_unregisterBinding answered
  refine ⟨⟨taken.faithful, fun other => ?_⟩, had.symm⟩
  rw [left, ← taken.left]
  split
  · rename_i same
    rw [same, ← had]
    rfl
  · rfl

/-- Removing identifiers takes exactly their chords. -/
theorem chordForIdent_removeBindings {before : String → Option Chord}
    {removed : List (String × BindingRegistration)} {idents : List String}
    {manager next : KeyBindingManager Api} (taken : Taken before removed manager)
    (answered : removeBindings hotkeys removed idents manager = (.ok (), next)) (ident : String) :
    next.chordForIdent ident =
      if ident ∈ removed.map Prod.fst ∨ ident ∈ idents then none else before ident := by
  induction idents generalizing removed manager with
  | nil =>
    cases answered
    rw [taken.left]
    simp only [List.not_mem_nil, or_false]
  | cons head rest ih =>
    unfold removeBindings at answered
    split at answered
    · rename_i binding after unregistered
      rw [ih (taken.add unregistered) answered]
      simp only [List.map_append, List.map_cons, List.map_nil, List.mem_append, List.mem_cons,
        List.not_mem_nil, or_false, or_assoc]
    · rename_i after unregistered
      obtain ⟨skipped, absent⟩ := taken.skip unregistered
      rw [ih skipped answered]
      -- An identifier without a chord is gone already.
      by_cases same : ident = head
      · rw [taken.left] at absent
        subst same
        split at absent
        · rename_i member
          simp only [member, true_or, if_true]
        · simp only [List.mem_cons, true_or, or_true, absent, ite_self]
      · simp only [List.mem_cons, same, false_or]
    · cases answered

/-- A refused walk of removals gives every chord back. -/
theorem chordForIdent_removeBindings_error {before : String → Option Chord}
    {removed : List (String × BindingRegistration)} {idents : List String}
    {manager next : KeyBindingManager Api} {error : Error} (taken : Taken before removed manager)
    (answered : removeBindings hotkeys removed idents manager = (.error error, next))
    (ident : String) : next.chordForIdent ident = before ident := by
  -- The induction is on the identifiers, and the refused one has everything recorded before it.
  induction idents generalizing removed manager with
  | nil => cases answered
  | cons head rest ih =>
    unfold removeBindings at answered
    split at answered
    · rename_i unregistered
      exact ih (taken.add unregistered) answered
    · rename_i unregistered
      exact ih (taken.skip unregistered).1 answered
    · rename_i refused
      cases answered
      apply chordForIdent_restoreBindings before removed _ taken.faithful
      intro other absent
      rw [chordForIdent_unregisterBinding_error refused, taken.left, if_neg absent]

/-- Registering identifiers gives them their desired chords and changes no others. -/
theorem chordForIdent_registerBindings (desired : HashMap String Chord) (idents : List String)
    (manager : KeyBindingManager Api) (ident : String) :
    (manager.registerBindings hotkeys desired idents).chordForIdent ident =
      if ident ∈ idents ∧ desired.lookup ident ≠ none then desired.lookup ident
      else manager.chordForIdent ident := by
  -- The induction is on the identifiers.
  unfold registerBindings
  induction idents generalizing manager with
  | nil => simp
  | cons head rest ih =>
    rw [List.foldl_cons, ih]
    by_cases same : ident = head
    · subst same
      cases wanted : desired.lookup ident with
      | none => simp
      | some chord => simp [chordForIdent_registerBinding]
    · simp only [List.mem_cons, same, false_or]
      congr 1
      cases wanted : desired.lookup head with
      | none => rfl
      | some chord => simp only [chordForIdent_registerBinding, same, if_false]

/-- A successful update leaves every identifier with its desired chord. -/
theorem updateBindings_ok {manager next : KeyBindingManager Api}
    {keyPairs : List (String × Chord)} {changed : Bool}
    (answered : manager.updateBindings hotkeys order keyPairs = (.ok changed, next))
    (ident : String) : next.chordForIdent ident = (HashMap.collect keyPairs).lookup ident := by
  unfold updateBindings at answered
  simp only at answered
  split at answered
  · rename_i matching
    cases answered
    exact bindingsMatch_iff.mp matching ident
  · split at answered
    · cases answered
    · rename_i emptied removal
      cases answered
      rw [chordForIdent_registerBindings, chordForIdent_removeBindings (.start manager) removal]
      simp only [List.map_nil, List.not_mem_nil, false_or, mem_unregistered, mem_registered]
      -- What was neither taken nor registered had its desired chord all along.
      cases wanted : (HashMap.collect keyPairs).lookup ident with
      | none => cases had : manager.chordForIdent ident <;> simp
      | some chord =>
        by_cases same : some chord = manager.chordForIdent ident
        · simp [← same]
        · simp [same]

/-- A refused update leaves every identifier with the chord it had. -/
theorem updateBindings_error {manager next : KeyBindingManager Api}
    {keyPairs : List (String × Chord)} {error : Error}
    (answered : manager.updateBindings hotkeys order keyPairs = (.error error, next))
    (ident : String) : next.chordForIdent ident = manager.chordForIdent ident := by
  -- The removals are undone, and nothing was registered yet.
  unfold updateBindings at answered
  simp only at answered
  split at answered
  · cases answered
  · split at answered
    · rename_i refusal
      cases answered
      exact chordForIdent_removeBindings_error (.start manager) refusal ident
    · cases answered

/-- An update to the chords already bound calls nothing and changes nothing. -/
theorem updateBindings_of_match {manager : KeyBindingManager Api}
    {keyPairs : List (String × Chord)}
    (bound : ∀ ident, manager.chordForIdent ident = (HashMap.collect keyPairs).lookup ident) :
    manager.updateBindings hotkeys order keyPairs = (.ok false, manager) := by
  unfold updateBindings
  simp only [bindingsMatch_iff.mpr bound, if_true]

/-- The capture flag has no part in the chords. -/
@[simp] theorem chordForIdent_setCaptureAll (manager : KeyBindingManager Api) (active : Bool)
    (ident : String) :
    (manager.setCaptureAll hotkeys active).chordForIdent ident = manager.chordForIdent ident := by
  unfold setCaptureAll
  split <;> rfl

end KeyBindingManager

end Hotki
