import Hotki.Hotkey.Registry

/-! Which registration a key event belongs to, and when the order of the table decides it. -/

namespace Hotki

open Base

/-- One entry of the registration table. -/
abbrev TableEntry := Sigma fun _ : UInt32 => Registration

/-- Whether a registration belongs to a key and normalized modifiers. -/
def Registration.matched (registration : Registration) (code : Key) (targetMods : UInt8) : Bool :=
  registration.hotkey.key == code && registration.normalizedMods == targetMods

/-- The matching entries of a table, in its order. -/
def matchingEntries (entries : List TableEntry) (code : Key) (targetMods : UInt8) :
    List TableEntry :=
  entries.filter fun entry => entry.2.matched code targetMods

/-- The first intercepting entry of a list, and the first of all when none intercepts. -/
def preferredEntry (entries : List TableEntry) : Option TableEntry :=
  (entries.find? fun entry => entry.2.intercept).or entries.head?

/-- Once an intercepting registration is found, the rest of the table does not displace it. -/
theorem foldl_preferIntercept_intercepting (entries : List TableEntry) (code : Key)
    (targetMods : UInt8) (id : UInt32) (registration : Registration)
    (intercepting : registration.intercept = true) :
    entries.foldl (fun best entry => preferIntercept code targetMods best entry.1 entry.2)
      (some (id, registration)) = some (id, registration) := by
  induction entries with
  | nil => rfl
  | cons entry rest ih =>
    -- A later registration is preferred only to one that does not intercept.
    have kept : preferIntercept code targetMods (some (id, registration)) entry.1 entry.2 =
        some (id, registration) := by
      simp [preferIntercept, intercepting]
    rw [List.foldl_cons, kept, ih]

/-- A watching registration is displaced by the first intercepting match after it, if any. -/
theorem foldl_preferIntercept_watching (entries : List TableEntry) (code : Key)
    (targetMods : UInt8) (id : UInt32) (registration : Registration)
    (watching : registration.intercept = false) :
    entries.foldl (fun best entry => preferIntercept code targetMods best entry.1 entry.2)
        (some (id, registration)) =
      (((matchingEntries entries code targetMods).find? fun entry => entry.2.intercept).map
        fun entry => (entry.1, entry.2)).or (some (id, registration)) := by
  induction entries with
  | nil => rfl
  | cons entry rest ih =>
    rw [List.foldl_cons]
    cases matched : entry.2.matched code targetMods with
    | false =>
      -- An entry of another chord is passed over on both sides.
      have kept : preferIntercept code targetMods (some (id, registration)) entry.1 entry.2 =
          some (id, registration) := by
        simp only [Registration.matched, Bool.and_eq_false_iff, beq_eq_false_iff_ne] at matched
        simp only [preferIntercept, ite_eq_right_iff]
        tauto
      simpa [kept, matchingEntries, matched] using ih
    | true =>
      have same : entry.2.hotkey.key = code ∧ entry.2.normalizedMods = targetMods := by
        simpa [Registration.matched] using matched
      cases intercepts : entry.2.intercept with
      | true =>
        -- The first intercepting match is taken, and stays.
        have taken : preferIntercept code targetMods (some (id, registration)) entry.1 entry.2 =
            some (entry.1, entry.2) := by
          simp [preferIntercept, same, watching, intercepts]
        rw [taken, foldl_preferIntercept_intercepting _ _ _ _ _ intercepts]
        simp [matchingEntries, matched, intercepts]
      | false =>
        have kept : preferIntercept code targetMods (some (id, registration)) entry.1 entry.2 =
            some (id, registration) := by
          simp [preferIntercept, same, watching, intercepts]
        simpa [kept, matchingEntries, matched, intercepts] using ih

/-- The match of an event is the preferred one among the matching entries of the table. -/
theorem matchEvent_eq (inner : Inner) (code : Key) (modifiers : Finset Modifier) :
    matchEvent inner code modifiers =
      (preferredEntry (matchingEntries inner.regs.entries code (normalizeMods modifiers))).map
        fun entry => (entry.1, entry.2) := by
  show inner.regs.entries.foldl
    (fun best entry => preferIntercept code (normalizeMods modifiers) best entry.1 entry.2) none = _
  generalize inner.regs.entries = entries
  generalize normalizeMods modifiers = targetMods
  induction entries with
  | nil => rfl
  | cons entry rest ih =>
    rw [List.foldl_cons]
    cases matched : entry.2.matched code targetMods with
    | false =>
      have passed : preferIntercept code targetMods none entry.1 entry.2 = none := by
        simp only [Registration.matched, Bool.and_eq_false_iff, beq_eq_false_iff_ne] at matched
        simp only [preferIntercept, ite_eq_right_iff]
        tauto
      simpa [passed, matchingEntries, matched] using ih
    | true =>
      have same : entry.2.hotkey.key = code ∧ entry.2.normalizedMods = targetMods := by
        simpa [Registration.matched] using matched
      have taken : preferIntercept code targetMods none entry.1 entry.2 =
          some (entry.1, entry.2) := by
        simp [preferIntercept, same]
      -- The first match is the candidate from here on, until an intercepting one replaces it.
      rw [taken]
      cases intercepts : entry.2.intercept with
      | true =>
        rw [foldl_preferIntercept_intercepting _ _ _ _ _ intercepts]
        simp [preferredEntry, matchingEntries, matched, intercepts]
      | false =>
        rw [foldl_preferIntercept_watching _ _ _ _ _ intercepts]
        have first : matchingEntries (entry :: rest) code targetMods =
            entry :: matchingEntries rest code targetMods := by
          simp [matchingEntries, matched]
        rw [first]
        cases found : (matchingEntries rest code targetMods).find? fun entry => entry.2.intercept <;>
          simp [preferredEntry, intercepts, found]

/-- Two registrations an event could equally belong to: neither is preferred to the other or any
other to them. -/
def AmbiguousMatch (inner : Inner) (code : Key) (modifiers : Finset Modifier) : Prop :=
  ∃ left ∈ matchingEntries inner.regs.entries code (normalizeMods modifiers),
    ∃ right ∈ matchingEntries inner.regs.entries code (normalizeMods modifiers),
      left.1 ≠ right.1 ∧ left.2.intercept = right.2.intercept ∧
        (left.2.intercept = false →
          ∀ other ∈ matchingEntries inner.regs.entries code (normalizeMods modifiers),
            other.2.intercept = false)

/-- A preferred entry is one of the entries, and intercepts when any of them does. -/
theorem preferredEntry_spec {entries : List TableEntry} {entry : TableEntry}
    (preferred : preferredEntry entries = some entry) :
    entry ∈ entries ∧
      (entry.2.intercept = false → ∀ other ∈ entries, other.2.intercept = false) := by
  -- The first intercepting entry is taken, and without one the first of all.
  unfold preferredEntry at preferred
  cases found : entries.find? fun entry => entry.2.intercept with
  | some first =>
    simp only [found, Option.some_or, Option.some.injEq] at preferred
    subst preferred
    refine ⟨List.mem_of_find?_eq_some found, fun watching => ?_⟩
    simp [List.find?_some found] at watching
  | none =>
    simp only [found, Option.none_or] at preferred
    refine ⟨List.mem_of_mem_head? preferred, fun _ other member => ?_⟩
    simpa using List.find?_eq_none.mp found other member

/-- There is a preferred entry unless there is none at all. -/
theorem preferredEntry_eq_none {entries : List TableEntry} :
    preferredEntry entries = none ↔ entries = [] := by
  cases entries with
  | nil => simp [preferredEntry]
  | cons entry rest => simp [preferredEntry]

/-- An entry that nothing is preferred to is the preferred one when it comes first. -/
theorem preferredEntry_cons {entry : TableEntry} {rest : List TableEntry}
    (top : entry.2.intercept = false → ∀ other ∈ rest, other.2.intercept = false) :
    preferredEntry (entry :: rest) = some entry := by
  -- The entry intercepts, or nothing else does.
  cases intercepts : entry.2.intercept with
  | true => simp [preferredEntry, intercepts]
  | false =>
    have watching : (rest.find? fun entry => entry.2.intercept) = none := by
      rw [List.find?_eq_none]
      intro other member
      simp [top intercepts other member]
    simp [preferredEntry, intercepts, watching]

/-- Matching entries are kept by every rearrangement of the table. -/
theorem matchingEntries_perm {left right : List TableEntry} (rearranged : left.Perm right)
    (code : Key) (targetMods : UInt8) :
    (matchingEntries left code targetMods).Perm (matchingEntries right code targetMods) :=
  rearranged.filter _

/-- An entry that nothing is preferred to is what some arrangement of the table answers. -/
theorem exists_arrangement {inner : Inner} {code : Key} {modifiers : Finset Modifier}
    {entry : TableEntry}
    (listed : entry ∈ matchingEntries inner.regs.entries code (normalizeMods modifiers))
    (top : entry.2.intercept = false →
      ∀ other ∈ matchingEntries inner.regs.entries code (normalizeMods modifiers),
        other.2.intercept = false) :
    ∃ regs : HashMap UInt32 Registration, regs.entries.Perm inner.regs.entries ∧
      matchEvent { inner with regs } code modifiers = some (entry.1, entry.2) := by
  -- The arrangement brings the entry to the front.
  obtain ⟨member, matched⟩ := List.mem_filter.mp listed
  obtain ⟨before, after, split⟩ := List.append_of_mem member
  have moved : (entry :: (before ++ after)).Perm inner.regs.entries := by
    rw [split]
    exact List.perm_middle.symm
  refine ⟨⟨entry :: (before ++ after), ?_⟩, moved, ?_⟩
  · exact (List.perm_nodupKeys moved).mpr inner.regs.nodupKeys
  · rw [matchEvent_eq]
    have first : matchingEntries (entry :: (before ++ after)) code (normalizeMods modifiers) =
        entry :: matchingEntries (before ++ after) code (normalizeMods modifiers) := by
      simp [matchingEntries, matched]
    show (preferredEntry (matchingEntries (entry :: (before ++ after)) code _)).map _ = _
    rw [first, preferredEntry_cons]
    · rfl
    · intro watching other member
      apply top watching other
      rw [← (matchingEntries_perm moved _ _).mem_iff, first]
      exact List.mem_cons_of_mem entry member

/-- The match of an event is the same for every order of the table unless it is ambiguous. -/
theorem matchEvent_perm (inner : Inner) (code : Key) (modifiers : Finset Modifier) :
    (∀ regs : HashMap UInt32 Registration, regs.entries.Perm inner.regs.entries →
      matchEvent { inner with regs } code modifiers = matchEvent inner code modifiers) ↔
        ¬ AmbiguousMatch inner code modifiers := by
  constructor
  · -- Two equal candidates are the answers of two arrangements.
    rintro independent ⟨left, leftListed, right, rightListed, apart, alike, top⟩
    obtain ⟨_, leftMoved, leftAnswer⟩ := exists_arrangement leftListed top
    obtain ⟨_, rightMoved, rightAnswer⟩ := exists_arrangement rightListed (alike ▸ top)
    rw [independent _ leftMoved] at leftAnswer
    rw [independent _ rightMoved, leftAnswer] at rightAnswer
    exact apart (congrArg (fun found => (found.getD (0, right.2)).1) rightAnswer)
  · intro unambiguous regs moved
    rw [matchEvent_eq, matchEvent_eq]
    have sameEntries := matchingEntries_perm moved code (normalizeMods modifiers)
    show (preferredEntry (matchingEntries regs.entries code _)).map _ = _
    cases preferred : preferredEntry
        (matchingEntries inner.regs.entries code (normalizeMods modifiers)) with
    | none =>
      -- Without a matching entry there is none in any order.
      rw [preferredEntry_eq_none] at preferred
      rw [preferred] at sameEntries
      rw [preferredEntry_eq_none.mpr sameEntries.eq_nil]
    | some entry =>
      obtain ⟨listed, top⟩ := preferredEntry_spec preferred
      cases other : preferredEntry (matchingEntries regs.entries code (normalizeMods modifiers)) with
      | none =>
        rw [preferredEntry_eq_none] at other
        rw [other] at sameEntries
        rw [sameEntries.symm.eq_nil] at listed
        cases listed
      | some found =>
        obtain ⟨member, foundTop⟩ := preferredEntry_spec other
        have foundListed := sameEntries.mem_iff.mp member
        -- Both are preferred to everything else, so they intercept alike.
        have alike : entry.2.intercept = found.2.intercept := by
          cases intercepts : entry.2.intercept with
          | false => exact (top intercepts found foundListed).symm
          | true =>
            cases watches : found.2.intercept with
            | true => rfl
            | false =>
              have watching := foundTop watches entry (sameEntries.mem_iff.mpr listed)
              rw [intercepts] at watching
              cases watching
        by_cases same : entry.1 = found.1
        · -- One id has one registration.
          rw [inner.regs.nodupKeys.eq_of_fst_eq (List.mem_of_mem_filter listed)
            (List.mem_of_mem_filter foundListed) same]
        · exact absurd ⟨entry, listed, found, foundListed, same, alike, top⟩ unambiguous

/-- Among registrations that all intercept, a match is ambiguous once there are two of them. -/
theorem ambiguousMatch_intercepting {inner : Inner} (code : Key) (modifiers : Finset Modifier)
    (intercepting : ∀ entry ∈ inner.regs.entries, entry.2.intercept = true) :
    AmbiguousMatch inner code modifiers ↔
      ∃ left ∈ matchingEntries inner.regs.entries code (normalizeMods modifiers),
        ∃ right ∈ matchingEntries inner.regs.entries code (normalizeMods modifiers),
          left.1 ≠ right.1 := by
  constructor
  · rintro ⟨left, leftListed, right, rightListed, apart, _⟩
    exact ⟨left, leftListed, right, rightListed, apart⟩
  · rintro ⟨left, leftListed, right, rightListed, apart⟩
    -- Every registration has the intercepting rank, so none of the two is preferred.
    have leftRank := intercepting left (List.mem_of_mem_filter leftListed)
    have rightRank := intercepting right (List.mem_of_mem_filter rightListed)
    refine ⟨left, leftListed, right, rightListed, apart, by rw [leftRank, rightRank], ?_⟩
    intro watching
    rw [leftRank] at watching
    cases watching

/--
The match of an event does not depend on the order of the table exactly when it is not ambiguous.

For registrations that all intercept, as the engine's do, that is when at most one matches.
-/
theorem matchEvent_order_independent (inner : Inner) (code : Key) (modifiers : Finset Modifier) :
    ((∀ regs : HashMap UInt32 Registration, regs.entries.Perm inner.regs.entries →
      matchEvent { inner with regs } code modifiers = matchEvent inner code modifiers) ↔
        ¬ AmbiguousMatch inner code modifiers) ∧
    ((∀ entry ∈ inner.regs.entries, entry.2.intercept = true) →
      (¬ AmbiguousMatch inner code modifiers ↔
        ∀ left ∈ matchingEntries inner.regs.entries code (normalizeMods modifiers),
          ∀ right ∈ matchingEntries inner.regs.entries code (normalizeMods modifiers),
            left.1 = right.1)) := by
  refine ⟨matchEvent_perm inner code modifiers, fun intercepting => ?_⟩
  rw [ambiguousMatch_intercepting code modifiers intercepting]
  push Not
  rfl

/-- The same with the left and the right command key bound: the order of the table decides. -/
theorem matchEvent_order_dependent :
    ∃ (inner : Inner) (regs : HashMap UInt32 Registration),
      (∀ left ∈ inner.regs.entries, ∀ right ∈ inner.regs.entries,
        left.2.hotkey.display = right.2.hotkey.display → left = right) ∧
      (∀ entry ∈ inner.regs.entries, entry.2.intercept = true ∧
        entry.2.normalizedMods = normalizeMods entry.2.hotkey.modifiers) ∧
      regs.entries.Perm inner.regs.entries ∧
      matchEvent { inner with regs } .k {.command} ≠ matchEvent inner .k {.command} := by
  -- The chords tell left and right apart, and the event does not.
  let empty : HashMap UInt32 Registration := ∅
  let left : Registration := ⟨⟨{.command}, .k⟩, true, 8⟩
  let right : Registration := ⟨⟨{.rightCommand}, .k⟩, true, 8⟩
  refine ⟨{ nextId := 2, regs := (empty.insert 1 left).insert 2 right },
    (empty.insert 2 right).insert 1 left, ?_, ?_, ?_, ?_⟩
  all_goals decide +kernel

end Hotki
