import Mathlib.Data.Option.Basic

/-! Patches of records: what each field of a record becomes under what a patch gives for it. -/

namespace Base

/-- A field of a record, with what a patch may give for it. -/
structure Field (Patch Record : Type) where
  Value : Type
  given : Patch → Option Value
  value : Record → Value

namespace Field

variable {Patch Record PatchPart RecordPart : Type}

/-- Whether a record has what a patch gives for a field. -/
def Takes (field : Field Patch Record) (patch : Patch) (result : Record) : Prop :=
  ∀ value, field.given patch = some value → field.value result = value

/-- Whether a record has a field from a patch that gives it, and else from a base. -/
def Inherits (field : Field Patch Record) (patch : Patch) (base result : Record) : Prop :=
  field.value result = (field.given patch).getD (field.value base)

/-- A field of a part of a record, which a patch may leave out as a whole. -/
def within (patchPart : Patch → Option PatchPart) (recordPart : Record → RecordPart)
    (field : Field PatchPart RecordPart) : Field Patch Record where
  Value := field.Value
  given patch := (patchPart patch).bind field.given
  value record := field.value (recordPart record)

/-- Whether records that agree on some fields are the same. -/
def Determine (fields : List (Field Patch Record)) : Prop :=
  ∀ first second, (∀ field ∈ fields, field.value first = field.value second) → first = second

variable {field : Field Patch Record} {patch other merged : Patch} {base once result twice : Record}

/-- A record that inherits a field has what the patch gives for it. -/
theorem Inherits.takes (inherits : field.Inherits patch base result) : field.Takes patch result := by
  intro value gives
  rw [Inherits, gives] at inherits
  exact inherits

/-- A field that a patch does not give is inherited from the base just if it is kept. -/
theorem inherits_of_omitted (omitted : field.given patch = none) :
    field.Inherits patch base result ↔ field.value result = field.value base := by
  rw [Inherits, omitted, Option.getD_none]

/-- A field is inherited just if it is taken where given, and kept elsewhere. -/
theorem inherits_iff : field.Inherits patch base result ↔
    field.Takes patch result ∧ (field.given patch = none → field.value result = field.value base) := by
  cases gives : field.given patch with
  | none => simp [Inherits, Takes, gives]
  | some value => simp [Inherits, Takes, gives]

/-- A field taken from a patch is not changed by inheriting it from the patch again. -/
theorem Inherits.again (takes : field.Takes patch once) (inherits : field.Inherits patch once twice) :
    field.value twice = field.value once := by
  cases gives : field.given patch with
  | none => exact (inherits_of_omitted gives).mp inherits
  | some value => rw [inherits.takes value gives, takes value gives]

/-- A field inherited from two patches in turn is inherited from one that gives what either does,
the second before the first. -/
theorem Inherits.compose (first : field.Inherits patch base once)
    (second : field.Inherits other once twice) (both : field.Inherits merged base result)
    (merges : field.given merged = (field.given other).or (field.given patch)) :
    field.value twice = field.value result := by
  rw [Inherits] at first second both
  rw [second, first, both, merges]
  cases field.given other <;> rfl

/-- A field of a part is inherited if the part is kept without a patch, and inherits under one. -/
theorem within_inherits {patchPart : Patch → Option PatchPart} {recordPart : Record → RecordPart}
    {overlay : PatchPart → RecordPart → RecordPart} {field : Field PatchPart RecordPart}
    (part : recordPart result = (patchPart patch).elim (recordPart base) fun given =>
      overlay given (recordPart base))
    (inherits : ∀ given, field.Inherits given (recordPart base) (overlay given (recordPart base))) :
    (field.within patchPart recordPart).Inherits patch base result := by
  show field.value (recordPart result) = ((patchPart patch).bind field.given).getD _
  rw [part]
  cases patchPart patch with
  | none => rfl
  | some given => exact inherits given

/-- A field of a part is taken if it is under a patch of the part. -/
theorem within_takes {patchPart : Patch → Option PatchPart} {recordPart : Record → RecordPart}
    {overlay : PatchPart → RecordPart → RecordPart} {field : Field PatchPart RecordPart}
    (part : recordPart result = (patchPart patch).elim (recordPart base) fun given =>
      overlay given (recordPart base))
    (takes : ∀ given, field.Takes given (overlay given (recordPart base))) :
    (field.within patchPart recordPart).Takes patch result := by
  -- The patch of the field is in a patch of its part.
  intro value gives
  obtain ⟨given, found, gives⟩ := Option.bind_eq_some_iff.mp gives
  rw [found] at part
  show field.value (recordPart result) = value
  rw [part]
  exact takes given value gives

/-- Whether merging gives for a field what either gives, the second before the first. -/
def Merges (merge : Patch → Patch → Patch) (field : Field Patch Record) : Prop :=
  ∀ first second, field.given (merge first second) = (field.given second).or (field.given first)

/-- What two patches of a part give together, if each may be left out. -/
def mergePart (merge : PatchPart → PatchPart → PatchPart) :
    Option PatchPart → Option PatchPart → Option PatchPart
  | some first, some second => some (merge first second)
  | first, second => second.or first

/-- Merged patches of a part give for its fields what either does, the second before the first. -/
theorem mergePart_given {merge : PatchPart → PatchPart → PatchPart}
    {field : Field PatchPart RecordPart} (merges : Merges merge field)
    (first second : Option PatchPart) :
    (mergePart merge first second).bind field.given =
      (second.bind field.given).or (first.bind field.given) := by
  -- A part that only one of the patches has is taken from it.
  cases first with
  | none => cases second <;> simp [mergePart]
  | some first =>
    cases second with
    | none => simp [mergePart]
    | some second => exact merges first second

/-- Merged patches of parts merge the fields of the parts. -/
theorem within_merges {fields : List (Field PatchPart RecordPart)} {merge : Patch → Patch → Patch}
    {mergeParts : PatchPart → PatchPart → PatchPart} {patchPart : Patch → Option PatchPart}
    {recordPart : Record → RecordPart}
    (part : ∀ first second, patchPart (merge first second) =
      mergePart mergeParts (patchPart first) (patchPart second))
    (merges : ∀ field ∈ fields, Merges mergeParts field) :
    ∀ field ∈ fields.map (within patchPart recordPart), Merges merge field := by
  -- The field is one of the part's, and the parts are merged by themselves.
  intro field member first second
  obtain ⟨inner, among, rfl⟩ := List.mem_map.mp member
  show (patchPart (merge first second)).bind inner.given = _
  rw [part]
  exact mergePart_given (merges inner among) _ _

/-- Fields of a part are inherited if those of the part are, and the part is kept without a patch. -/
theorem within_inherits_all {fields : List (Field PatchPart RecordPart)}
    {patchPart : Patch → Option PatchPart} {recordPart : Record → RecordPart} {overlay : PatchPart → RecordPart → RecordPart}
    (part : recordPart result = (patchPart patch).elim (recordPart base) fun given =>
      overlay given (recordPart base))
    (inherits : ∀ given, ∀ field ∈ fields,
      field.Inherits given (recordPart base) (overlay given (recordPart base))) :
    ∀ field ∈ fields.map (within patchPart recordPart), field.Inherits patch base result := by
  intro field member
  obtain ⟨inner, among, rfl⟩ := List.mem_map.mp member
  exact within_inherits part fun given => inherits given inner among

/-- Records that agree on the fields of a part agree on the part, if these determine it. -/
theorem part_eq {fields : List (Field PatchPart RecordPart)} {patchPart : Patch → Option PatchPart}
    {recordPart : Record → RecordPart} {first second : Record} (determine : Determine fields)
    (same : ∀ field ∈ fields.map (within patchPart recordPart),
      field.value first = field.value second) : recordPart first = recordPart second :=
  determine _ _ fun _ among => same _ (List.mem_map_of_mem among)

end Field

end Base
