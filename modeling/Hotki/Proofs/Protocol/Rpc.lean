import Hotki.Protocol.Rpc

/-! Which service errors decode to a failure, and to which one. -/

namespace Hotki

/-- The first entry of a map under a name. -/
def FirstEntry (map : List (WireValue × WireValue)) (name : String) (value : WireValue) : Prop :=
  ∃ before key after, map = before ++ (key, value) :: after ∧ key = wireString name ∧
    ∀ entry ∈ before, entry.1 ≠ wireString name

/-- An optional string is the first entry under its name, or there is no such entry. -/
def OptionalEntry (map : List (WireValue × WireValue)) (name : String) : Option String → Prop
  | some text => FirstEntry map name (wireString text)
  | none => ∀ value, ¬ FirstEntry map name value

/-- The fields made of the first entry under their name, or none without such an entry. -/
def FieldsMadeOf (payload : List (WireValue × WireValue)) (fields : RpcErrorFields) : Prop :=
  ((∀ value, ¬ FirstEntry payload "fields" value) ∧ fields = {}) ∨
    ∃ entries, FirstEntry payload "fields" (.map entries) ∧
      OptionalEntry entries "method" fields.method ∧
      OptionalEntry entries "expected" fields.expected ∧
      OptionalEntry entries "ident" fields.ident

/-- The failure made of a service error's name and of the first entries of its payload. -/
def MadeOf (service : ServiceError) (failure : RpcFailure) : Prop :=
  service.name = failure.code.asStr ∧ ∃ payload, service.value = .map payload ∧
    FirstEntry payload "message" (wireString failure.payload.message) ∧
    FieldsMadeOf payload failure.payload.fields

/-- The names of the structured fields. -/
def fieldNames : List String := ["method", "expected", "ident"]

/-- An entry of structured fields that is no map, or one of whose strings is none. -/
def FieldsRefused (value : WireValue) : Prop :=
  (∀ entries, value ≠ .map entries) ∨
    ∃ entries, value = .map entries ∧ ∃ name ∈ fieldNames, ∃ field,
      FirstEntry entries name field ∧ ∀ text, field ≠ wireString text

/-- A service error that is no failure. -/
def Refused (service : ServiceError) : Prop :=
  (∀ code : RpcErrorCode, service.name ≠ code.asStr) ∨
    (∀ payload, service.value ≠ .map payload) ∨
    ∃ payload, service.value = .map payload ∧
      ((∀ text, ¬ FirstEntry payload "message" (wireString text)) ∨
        ∃ value, FirstEntry payload "fields" value ∧ FieldsRefused value)

/-- A code is parsed from its own name and from no other. -/
theorem RpcErrorCode.fromServiceName_eq_some_iff {name : String} {code : RpcErrorCode} :
    fromServiceName name = some code ↔ name = code.asStr := by
  constructor
  · intro parsed
    unfold fromServiceName at parsed
    split at parsed <;> cases parsed <;> rfl
  · intro named
    rw [named]
    cases code <;> rfl

/-- A service-error name is read as the code it names. -/
theorem RpcErrorCode.fromStr_eq_ok_iff {name : String} {code : RpcErrorCode} :
    fromStr name = .ok code ↔ name = code.asStr := by
  rw [← fromServiceName_eq_some_iff]
  unfold fromStr
  cases fromServiceName name <;> simp

/-- A value's text is that of the string it is. -/
theorem WireValue.asStr_eq_some_iff {value : WireValue} {text : String} :
    value.asStr = some text ↔ value = wireString text := by
  -- Only a string has a text.
  constructor
  · intro read
    unfold asStr at read
    split at read
    · rw [Option.some.inj read]
      rfl
    · cases read
  · intro same
    rw [same]
    rfl

/-- The map is searched for the first entry under a name. -/
theorem mapValue_eq_some_iff {map : List (WireValue × WireValue)} {name : String}
    {value : WireValue} : mapValue map name = some value ↔ FirstEntry map name value := by
  -- The search stops at the first entry of the name.
  unfold mapValue
  rw [Option.map_eq_some_iff]
  constructor
  · intro ⟨⟨key, found⟩, search, same⟩
    obtain ⟨named, before, after, split, fresh⟩ := List.find?_eq_some_iff_append.mp search
    obtain rfl : found = value := same
    refine ⟨before, key, after, split, WireValue.asStr_eq_some_iff.mp (by simpa using named), ?_⟩
    intro entry among alike
    have unnamed := fresh entry among
    rw [alike] at unnamed
    simp [wireString, WireValue.asStr] at unnamed
  · intro ⟨before, key, after, split, named, fresh⟩
    refine ⟨(key, value), List.find?_eq_some_iff_append.mpr ⟨?_, before, after, split, ?_⟩, rfl⟩
    · simp [WireValue.asStr_eq_some_iff, named]
    · intro entry among
      simpa [WireValue.asStr_eq_some_iff] using fresh entry among

/-- The search fails exactly when no entry is under the name. -/
theorem mapValue_eq_none_iff {map : List (WireValue × WireValue)} {name : String} :
    mapValue map name = none ↔ ∀ value, ¬ FirstEntry map name value := by
  rw [Option.eq_none_iff_forall_ne_some]
  exact forall_congr' fun value => not_congr mapValue_eq_some_iff

/-- At most one entry is the first under a name. -/
theorem FirstEntry.unique {map : List (WireValue × WireValue)} {name : String}
    {left right : WireValue} (first : FirstEntry map name left)
    (second : FirstEntry map name right) : left = right := by
  have found := mapValue_eq_some_iff.mpr first
  rw [mapValue_eq_some_iff.mpr second] at found
  exact (Option.some.inj found).symm

/-- A required string is read when the first entry under its name is a string. -/
theorem requiredString_eq_ok_iff {map : List (WireValue × WireValue)} {name text : String} :
    requiredString map name = .ok text ↔ FirstEntry map name (wireString text) := by
  -- The entry may be missing, or be no string.
  rw [← mapValue_eq_some_iff]
  unfold requiredString
  cases found : mapValue map name with
  | none =>
    dsimp only
    split <;> simp
  | some value =>
    rw [Option.some.injEq, ← WireValue.asStr_eq_some_iff]
    dsimp only
    cases value.asStr with
    | none => exact iff_of_false (by simp) (by simp)
    | some read => simp

/-- An optional string is read unless the first entry under its name is no string. -/
theorem optionalString_eq_ok_iff {map : List (WireValue × WireValue)} {name : String}
    {found : Option String} : optionalString map name = .ok found ↔ OptionalEntry map name found := by
  -- A missing entry reads as no text, and one that is no string is refused.
  unfold optionalString OptionalEntry
  cases entry : mapValue map name with
  | none =>
    have absent := mapValue_eq_none_iff.mp entry
    cases found with
    | none => exact iff_of_true rfl absent
    | some text => exact iff_of_false (by simp) (absent _)
  | some value =>
    have first := mapValue_eq_some_iff.mp entry
    cases found with
    | none =>
      refine iff_of_false ?_ fun absent => absent _ first
      dsimp only
      cases value.asStr with
      | none => simp
      | some read => simp
    | some text =>
      have same : FirstEntry map name (wireString text) ↔ value = wireString text :=
        ⟨first.unique, fun same => same ▸ first⟩
      dsimp only
      rw [same, ← WireValue.asStr_eq_some_iff]
      cases value.asStr with
      | none => exact iff_of_false (by simp) (by simp)
      | some read => simp

/-- A computation that passes its results on succeeds when both parts do. -/
theorem bind_eq_ok_iff {α β : Type} {first : Except RpcErrorDecodeError α}
    {next : α → Except RpcErrorDecodeError β} {result : β} :
    first >>= next = .ok result ↔ ∃ value, first = .ok value ∧ next value = .ok result := by
  cases first with
  | error error => exact iff_of_false (by simp [bind, Except.bind]) (by simp)
  | ok value => simp [bind, Except.bind]

/-- The fields are read exactly when they are made of first entries. -/
theorem decodeFields_eq_ok_iff {payload : List (WireValue × WireValue)} {fields : RpcErrorFields} :
    decodeFields payload = .ok fields ↔ FieldsMadeOf payload fields := by
  unfold decodeFields
  split
  next absent =>
    -- Without an entry the fields are empty.
    have none := mapValue_eq_none_iff.mp absent
    constructor
    · intro read
      exact .inl ⟨none, (Except.ok.inj read).symm⟩
    · intro made
      rcases made with ⟨_, empty⟩ | ⟨entries, first, _⟩
      · rw [empty]
      · exact absurd first (none _)
  next entries found =>
    have first := mapValue_eq_some_iff.mp found
    simp only [bind_eq_ok_iff, optionalString_eq_ok_iff]
    constructor
    · intro ⟨method, methodRead, expected, expectedRead, ident, identRead, same⟩
      obtain rfl := Except.ok.inj same
      exact .inr ⟨entries, first, methodRead, expectedRead, identRead⟩
    · intro made
      rcases made with ⟨absent, _⟩ | ⟨others, second, method, expected, ident⟩
      · exact absurd first (absent _)
      · obtain rfl := WireValue.map.inj (second.unique first)
        exact ⟨_, method, _, expected, _, ident, rfl⟩
  next value found other =>
    have first := mapValue_eq_some_iff.mp other
    constructor
    · intro read
      cases read
    · intro made
      rcases made with ⟨absent, _⟩ | ⟨entries, second, _⟩
      · exact absurd first (absent _)
      · exact absurd (first.unique second) (found entries)

/-- A service error decodes exactly to the failure made of it. -/
theorem decodeRpcFailure_eq_ok_iff {service : ServiceError} {failure : RpcFailure} :
    decodeRpcFailure service = .ok failure ↔ MadeOf service failure := by
  -- The code, the message and the fields are read in turn, and each may be refused.
  unfold decodeRpcFailure MadeOf
  rw [bind_eq_ok_iff]
  constructor
  · intro ⟨code, named, rest⟩
    have name := RpcErrorCode.fromStr_eq_ok_iff.mp named
    split at rest
    next payload value =>
      obtain ⟨message, messageRead, rest⟩ := bind_eq_ok_iff.mp rest
      obtain ⟨fields, fieldsRead, same⟩ := bind_eq_ok_iff.mp rest
      obtain rfl := Except.ok.inj same
      exact ⟨name, payload, value, requiredString_eq_ok_iff.mp messageRead,
        decodeFields_eq_ok_iff.mp fieldsRead⟩
    next => cases rest
  · intro ⟨name, payload, value, message, fields⟩
    refine ⟨failure.code, RpcErrorCode.fromStr_eq_ok_iff.mpr name, ?_⟩
    rw [value]
    dsimp only
    rw [requiredString_eq_ok_iff.mpr message]
    show decodeFields payload >>= _ = _
    rw [decodeFields_eq_ok_iff.mpr fields]
    rfl

/-- An optional entry in terms of the search for it. -/
theorem optionalEntry_iff {map : List (WireValue × WireValue)} {name : String}
    {found : Option String} :
    OptionalEntry map name found ↔ mapValue map name = found.map wireString := by
  cases found with
  | none => exact mapValue_eq_none_iff.symm
  | some text => exact mapValue_eq_some_iff.symm

/-- A pushed field is found under its name, unless there was an entry before it. -/
theorem mapValue_pushStringField (fields : List (WireValue × WireValue)) (name other : String)
    (value : Option String) :
    mapValue (pushStringField fields name value) other =
      (mapValue fields other).or (if name = other then value.map wireString else none) := by
  -- Pushing comes last, so an entry of the same name before it is found first.
  unfold pushStringField mapValue
  cases value with
  | none => simp
  | some text =>
    dsimp only
    rw [List.find?_append, Option.map_or, List.find?_singleton]
    congr 1
    by_cases same : name = other
    · simp [same, wireString, WireValue.asStr]
    · simp [same, wireString, WireValue.asStr]

/-- An encoded failure is made of that failure. -/
theorem encodeRpcFailure_madeOf (failure : RpcFailure) :
    MadeOf (encodeRpcFailure failure) failure := by
  -- Every field is pushed once, so each is found under its own name.
  refine ⟨rfl, _, rfl, mapValue_eq_some_iff.mp rfl,
    .inr ⟨_, mapValue_eq_some_iff.mp rfl, ?_, ?_, ?_⟩⟩
  · rw [optionalEntry_iff, mapValue_pushStringField, mapValue_pushStringField,
      mapValue_pushStringField]
    simp [mapValue]
  · rw [optionalEntry_iff, mapValue_pushStringField, mapValue_pushStringField,
      mapValue_pushStringField]
    simp [mapValue]
  · rw [optionalEntry_iff, mapValue_pushStringField, mapValue_pushStringField,
      mapValue_pushStringField]
    simp [mapValue]

/-- Without a mistyped string the fields of a map are made of its entries. -/
theorem exists_optionalEntry {entries : List (WireValue × WireValue)} {name : String}
    (typed : ∀ field, FirstEntry entries name field → ∃ text, field = wireString text) :
    ∃ found, OptionalEntry entries name found := by
  cases entry : mapValue entries name with
  | none => exact ⟨none, mapValue_eq_none_iff.mp entry⟩
  | some field =>
    have first := mapValue_eq_some_iff.mp entry
    obtain ⟨text, same⟩ := typed field first
    rw [same] at first
    exact ⟨some text, first⟩

/-- An optional entry is a string whenever there is one. -/
theorem OptionalEntry.typed {entries : List (WireValue × WireValue)} {name : String}
    {found : Option String} (entry : OptionalEntry entries name found) {field : WireValue}
    (first : FirstEntry entries name field) : ∃ text, field = wireString text := by
  cases found with
  | none => exact absurd first (entry field)
  | some text => exact ⟨text, first.unique entry⟩

/-- Fields are made of an entry that is not refused, or of no entry. -/
theorem exists_fieldsMadeOf {payload : List (WireValue × WireValue)}
    (proper : ∀ entry, FirstEntry payload "fields" entry → ¬ FieldsRefused entry) :
    ∃ fields, FieldsMadeOf payload fields := by
  -- No entry makes no fields, and an entry must be a map of proper ones.
  cases found : mapValue payload "fields" with
  | none => exact ⟨{}, .inl ⟨mapValue_eq_none_iff.mp found, rfl⟩⟩
  | some entry =>
    have first := mapValue_eq_some_iff.mp found
    have mapped : ∃ entries, entry = .map entries := by
      by_contra noMap
      exact proper entry first (.inl fun entries same => noMap ⟨entries, same⟩)
    obtain ⟨entries, rfl⟩ := mapped
    have typed : ∀ name ∈ fieldNames, ∀ field, FirstEntry entries name field →
        ∃ text, field = wireString text := by
      intro name listed field fieldFirst
      by_contra mistyped
      exact proper _ first (.inr ⟨entries, rfl, name, listed, field, fieldFirst,
        fun text same => mistyped ⟨text, same⟩⟩)
    obtain ⟨method, methodEntry⟩ := exists_optionalEntry (typed "method" (by decide))
    obtain ⟨expected, expectedEntry⟩ := exists_optionalEntry (typed "expected" (by decide))
    obtain ⟨ident, identEntry⟩ := exists_optionalEntry (typed "ident" (by decide))
    exact ⟨⟨method, expected, ident⟩,
      .inr ⟨entries, first, methodEntry, expectedEntry, identEntry⟩⟩

/-- A service error makes a failure exactly when it is not refused. -/
theorem exists_madeOf_iff {service : ServiceError} :
    (∃ failure, MadeOf service failure) ↔ ¬ Refused service := by
  constructor
  · intro ⟨failure, name, payload, value, message, fields⟩ refused
    rcases refused with unknown | noMap | ⟨other, otherValue, wrong⟩
    · exact unknown _ name
    · exact noMap _ value
    obtain rfl : other = payload := WireValue.map.inj (otherValue.symm.trans value)
    rcases wrong with noMessage | ⟨entry, first, wrong⟩
    · exact noMessage _ message
    rcases fields with ⟨absent, _⟩ | ⟨entries, found, method, expected, ident⟩
    · exact absent _ first
    rcases wrong with noMap | ⟨others, same, fieldName, listed, field, fieldFirst, mistyped⟩
    · exact noMap entries (first.unique found)
    obtain rfl : others = entries := WireValue.map.inj (same.symm.trans (first.unique found))
    -- Each of the three names was read as a string.
    have read : ∃ text, field = wireString text := by
      simp only [fieldNames, List.mem_cons, List.not_mem_nil, or_false] at listed
      rcases listed with rfl | rfl | rfl
      · exact method.typed fieldFirst
      · exact expected.typed fieldFirst
      · exact ident.typed fieldFirst
    obtain ⟨text, isText⟩ := read
    exact mistyped text isText
  · intro accepted
    have named : ∃ code : RpcErrorCode, service.name = code.asStr := by
      by_contra unknown
      exact accepted (.inl fun code same => unknown ⟨code, same⟩)
    have mapped : ∃ payload, service.value = .map payload := by
      by_contra noMap
      exact accepted (.inr (.inl fun payload same => noMap ⟨payload, same⟩))
    obtain ⟨code, name⟩ := named
    obtain ⟨payload, value⟩ := mapped
    have messaged : ∃ text, FirstEntry payload "message" (wireString text) := by
      by_contra noMessage
      exact accepted (.inr (.inr ⟨payload, value,
        .inl fun text first => noMessage ⟨text, first⟩⟩))
    have proper : ∀ entry, FirstEntry payload "fields" entry → ¬ FieldsRefused entry :=
      fun entry first wrong => accepted (.inr (.inr ⟨payload, value, .inr ⟨entry, first, wrong⟩⟩))
    obtain ⟨message, messageFirst⟩ := messaged
    obtain ⟨fields, made⟩ := exists_fieldsMadeOf proper
    exact ⟨⟨code, message, fields⟩, name, payload, value, messageFirst, made⟩

/-- An encoded failure decodes to itself. A service error is rejected exactly when its name is no
code, its value is no map, it has no message string first, or its fields are refused. Any other one
decodes to the failure made of its first entries, which is encoded and decoded unchanged. -/
theorem failures_round_trip :
    (∀ failure, decodeRpcFailure (encodeRpcFailure failure) = .ok failure) ∧
      (∀ service, (∃ error, decodeRpcFailure service = .error error) ↔ Refused service) ∧
      ∀ service, ¬ Refused service → ∃ failure, decodeRpcFailure service = .ok failure ∧
        MadeOf service failure ∧ decodeRpcFailure (encodeRpcFailure failure) = .ok failure := by
  have back : ∀ failure, decodeRpcFailure (encodeRpcFailure failure) = .ok failure :=
    fun failure => decodeRpcFailure_eq_ok_iff.mpr (encodeRpcFailure_madeOf failure)
  refine ⟨back, fun service => ?_, fun service accepted => ?_⟩
  · -- It is rejected when it decodes to nothing, and refused when no failure is made of it.
    rw [← not_iff_not, ← exists_madeOf_iff]
    simp only [← decodeRpcFailure_eq_ok_iff]
    cases decodeRpcFailure service <;> simp
  · obtain ⟨failure, made⟩ := exists_madeOf_iff.mpr accepted
    exact ⟨failure, decodeRpcFailure_eq_ok_iff.mpr made, made, back failure⟩

end Hotki
