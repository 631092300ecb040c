import Hotki.Keycode.Parse
import Hotki.Proofs.Keycode.Chord

/-! What the chord parser accepts, and that it reads every printed chord back. -/

namespace Hotki

/-- The characters of a text with its ASCII letters lowered. -/
def loweredLetters (text : String) : List Char := text.toList.map Char.toLower

/-- A letter that was lowered once is not lowered again. -/
theorem toLower_toLower (letter : Char) : letter.toLower.toLower = letter.toLower := by
  unfold Char.toLower
  split
  next upper =>
    -- The lowered letter lies past the capitals.
    apply dif_neg
    simp only [ge_iff_le, UInt32.le_iff_toNat_le, UInt32.toNat_add] at upper ⊢
    simp at upper ⊢
    omega
  next => rfl

/-- Texts are lowered alike when their letters are. -/
theorem toAsciiLowercase_eq_iff {left right : String} :
    toAsciiLowercase left = toAsciiLowercase right ↔ loweredLetters left = loweredLetters right :=
  String.ofList_inj

namespace Key

/-- A text spells a key by its name or an alias in any case, or by its shorthand as it stands. -/
def SpelledBy (key : Key) (text : String) : Prop :=
  toAsciiLowercase key.name = toAsciiLowercase text ∨ (text, key) ∈ keySpecMap ∨
    (toAsciiLowercase text, key) ∈ keySpecAliases

instance (key : Key) (text : String) : Decidable (key.SpelledBy text) :=
  inferInstanceAs (Decidable (_ ∨ _ ∨ _))

/-- Every lowercase word that spells a key, with its key. -/
def words : List (List Char × Key) :=
  (all.map fun key => (loweredLetters key.name, key)) ++
    (keySpecMap ++ keySpecAliases).map fun entry => (entry.1.toList, entry.2)

/-- Shorthands have no letters to lower. -/
theorem loweredLetters_shorthand {text : String} {key : Key} (listed : (text, key) ∈ keySpecMap) :
    loweredLetters text = text.toList := by
  have every : ∀ entry ∈ keySpecMap, loweredLetters entry.1 = entry.1.toList := by decide +kernel
  exact every _ listed

/-- A text that spells a key is one of the words once its letters are lowered. -/
theorem SpelledBy.mem_words {key : Key} {text : String} (spelled : key.SpelledBy text) :
    (loweredLetters text, key) ∈ words := by
  -- The three ways to spell a key are three parts of the list.
  unfold words
  rw [List.mem_append]
  rcases spelled with named | shorthand | aliased
  · left
    rw [← toAsciiLowercase_eq_iff.mp named]
    exact List.mem_map_of_mem (mem_all key)
  · right
    rw [loweredLetters_shorthand shorthand]
    exact List.mem_map.mpr ⟨(text, key), List.mem_append_left _ shorthand, rfl⟩
  · right
    have lowered : (toAsciiLowercase text).toList = loweredLetters text := String.toList_ofList
    rw [← lowered]
    exact List.mem_map.mpr ⟨(toAsciiLowercase text, key), List.mem_append_right _ aliased, rfl⟩

/-- No word stands for two keys. -/
theorem words_functional {word : List Char} {left right : Key} (first : (word, left) ∈ words)
    (second : (word, right) ∈ words) : left = right := by
  -- One number for each word makes the comparison of all pairs cheap.
  have agree : (words.map fun entry => (spellingCode entry.1, entry.2)).Pairwise
      fun one other => one.1 = other.1 → one.2 = other.2 := by decide +kernel
  have backwards : (words.map fun entry => (spellingCode entry.1, entry.2)).Pairwise
      (flip fun one other => one.1 = other.1 → one.2 = other.2) :=
    agree.imp fun same back => (same back.symm).symm
  have every := List.Pairwise.forall_of_forall_of_flip (fun _ _ _ => rfl) agree backwards
  have coded : ∀ {key : Key}, (word, key) ∈ words →
      (spellingCode word, key) ∈ words.map fun entry => (spellingCode entry.1, entry.2) :=
    fun listed => List.mem_map.mpr ⟨_, listed, rfl⟩
  exact every (coded first) (coded second) rfl

/-- A text spells at most one key. -/
theorem SpelledBy.unique {left right : Key} {text : String} (first : left.SpelledBy text)
    (second : right.SpelledBy text) : left = right :=
  words_functional first.mem_words second.mem_words

/-- The three tables are searched for exactly the texts that spell a key. -/
theorem fromSpec_eq_some_iff {text : String} {key : Key} :
    fromSpec text = some key ↔ key.SpelledBy text := by
  -- Whatever the search returns spells the text, and it returns something when a key is spelled.
  have sound : ∀ found, fromSpec text = some found → found.SpelledBy text := by
    intro found search
    unfold fromSpec at search
    rcases Option.or_eq_some_iff.mp search with named | ⟨_, rest⟩
    · left
      unfold fromName at named
      have matched := List.find?_some named
      exact LawfulBEq.eq_of_beq matched
    · rcases Option.or_eq_some_iff.mp rest with shorthand | ⟨_, aliased⟩
      · right; left
        obtain ⟨before, after, split, _⟩ := List.lookup_eq_some_iff.mp shorthand
        simp [split]
      · right; right
        obtain ⟨before, after, split, _⟩ := List.lookup_eq_some_iff.mp aliased
        simp [split]
  constructor
  · exact sound key
  · intro spelled
    have answered : (fromSpec text).isSome := by
      unfold fromSpec
      rw [Option.isSome_or, Option.isSome_or, Bool.or_eq_true, Bool.or_eq_true]
      rcases spelled with named | shorthand | aliased
      · left
        exact List.find?_isSome.mpr ⟨key, mem_all key, by simp [named]⟩
      · right; left
        exact List.lookup_isSome_iff.mpr ⟨_, shorthand, by simp⟩
      · right; right
        exact List.lookup_isSome_iff.mpr ⟨_, aliased, by simp⟩
    obtain ⟨found, search⟩ := Option.isSome_iff_exists.mp answered
    rw [search, (sound found search).unique spelled]

/-- A key is written as a shorthand of it, or as its name. -/
theorem specOrName_cases (key : Key) :
    (key.specOrName, key) ∈ keySpecMap ∨ key.specOrName = key.name := by
  cases key <;> first | exact .inr rfl | exact .inl (by simp [keySpecMap, specOrName])

/-- A key is spelled by its own spec. -/
theorem spelledBy_toSpec (key : Key) : key.SpelledBy key.toSpec := by
  -- A key's spec is a shorthand of it or its name.
  rcases key.specOrName_cases with shorthand | named
  · right; left
    have unchanged : key.toSpec = key.specOrName := by
      apply String.toList_injective
      rw [toSpec_toList]
      exact loweredLetters_shorthand shorthand
    rw [unchanged]
    exact shorthand
  · left
    rw [toAsciiLowercase_eq_iff]
    show loweredLetters key.name = loweredLetters (toAsciiLowercase key.specOrName)
    rw [named]
    simp only [loweredLetters, toAsciiLowercase, String.toList_ofList, List.map_map,
      Function.comp_def, toLower_toLower]

end Key

namespace Modifier

/-- A text spells a modifier by spelling the key it is pressed with. -/
def SpelledBy (modifier : Modifier) (text : String) : Prop := modifier.toKey.SpelledBy text

/-- A key stands for the modifier that is pressed with it, and for no other. -/
theorem ofKey_eq_some_iff {key : Key} {modifier : Modifier} :
    ofKey key = some modifier ↔ modifier.toKey = key := by
  constructor
  · intro found
    unfold ofKey at found
    have matched := List.find?_some found
    exact LawfulBEq.eq_of_beq matched
  · rintro rfl
    cases modifier <;> rfl

/-- The modifier parser accepts exactly the texts that spell a modifier. -/
theorem fromSpec_eq_some_iff {text : String} {modifier : Modifier} :
    fromSpec text = some modifier ↔ modifier.SpelledBy text := by
  unfold fromSpec SpelledBy
  rw [Option.bind_eq_some_iff]
  constructor
  · intro ⟨key, parsed, stands⟩
    rw [ofKey_eq_some_iff.mp stands]
    exact Key.fromSpec_eq_some_iff.mp parsed
  · intro spelled
    exact ⟨modifier.toKey, Key.fromSpec_eq_some_iff.mpr spelled, ofKey_eq_some_iff.mpr rfl⟩

/-- A modifier is spelled by its own spec, which has no space around it. -/
theorem spelledBy_spelling (modifier : Modifier) :
    modifier.SpelledBy (String.ofList (trimmed modifier.spelling)) := by
  have every : ∀ modifier ∈ printOrder,
      modifier.toKey.SpelledBy (String.ofList (trimmed modifier.spelling)) := by decide +kernel
  exact every modifier (mem_printOrder modifier)

end Modifier

/-- A function reads every member of a list exactly when it reads them one by one. -/
theorem mapM_eq_some_iff {α β : Type} {read : α → Option β} {items : List α} {results : List β} :
    items.mapM read = some results ↔
      List.Forall₂ (fun item result => read item = some result) items results := by
  -- The induction is on the list, its head being read first.
  induction items generalizing results with
  | nil => simp [List.forall₂_nil_left_iff, eq_comm]
  | cons item rest ih =>
    rw [List.mapM_cons, Option.bind_eq_bind, Option.bind_eq_some_iff, List.forall₂_cons_left_iff]
    constructor
    · intro ⟨result, head, tail⟩
      obtain ⟨others, read, rfl⟩ :
          ∃ others, rest.mapM read = some others ∧ result :: others = results := by
        simpa [Option.bind_eq_some_iff] using tail
      exact ⟨result, others, head, ih.mp read, rfl⟩
    · intro ⟨result, others, head, tail, same⟩
      refine ⟨result, head, ?_⟩
      rw [ih.mpr tail, same]
      rfl

/-- A list relates member by member to some list exactly when each member relates to something. -/
theorem exists_forall₂_iff {α β : Type} {Rel : α → β → Prop} {items : List α} :
    (∃ results, List.Forall₂ Rel items results) ↔ ∀ item ∈ items, ∃ result, Rel item result := by
  -- The induction is on the list.
  induction items with
  | nil => simp
  | cons item rest ih =>
    rw [List.forall_mem_cons, ← ih]
    constructor
    · intro ⟨results, related⟩
      obtain ⟨result, others, head, tail, _⟩ := List.forall₂_cons_left_iff.mp related
      exact ⟨⟨result, head⟩, others, tail⟩
    · intro ⟨⟨result, head⟩, others, tail⟩
      exact ⟨result :: others, .cons head tail⟩

namespace Chord

/-- The word the last component of a chord is read as. -/
def keyWord (component : List Char) : String :=
  if component = [' '] then " " else String.ofList (trimmed component)

/-- The word a component before the last is read as. -/
def modifierWord (component : List Char) : String := String.ofList (trimmed component)

/-- Reads a component before the last as a modifier, which must not be blank. -/
def readModifier (component : List Char) : Option Modifier :=
  if (trimmed component).isEmpty then none
  else Modifier.fromSpec (String.ofList (trimmed component))

/-- A component is read as the modifier its word spells. -/
theorem readModifier_eq_some_iff {component : List Char} {modifier : Modifier} :
    readModifier component = some modifier ↔ modifier.SpelledBy (modifierWord component) := by
  rw [← Modifier.fromSpec_eq_some_iff]
  unfold readModifier modifierWord
  split
  next empty =>
    -- An empty word spells no modifier, so the check for one refuses nothing else.
    rw [List.isEmpty_iff.mp empty]
    have nameless : Modifier.fromSpec (String.ofList []) = none := by decide +kernel
    rw [nameless]
  next => rfl

/-- The parser reads the key from the last component and the modifiers from the others. -/
theorem parse_eq (text : String) :
    parse text = (text.toList.splitOn '+').getLast?.bind fun last =>
      (Key.fromSpec (keyWord last)).bind fun key =>
        ((text.toList.splitOn '+').dropLast.mapM readModifier).bind fun modifiers =>
          some ⟨modifiers.toFinset, key⟩ := by
  -- The text is cut at its separators, of which there may be none.
  unfold parse
  simp only [Option.bind_eq_bind]
  congr
  funext last
  unfold keyWord
  split
  · rfl
  · rfl

/-- A text is read as a chord exactly when its last component spells the key and the components
before spell the modifiers. -/
theorem parse_eq_some_iff {text : String} {chord : Chord} :
    parse text = some chord ↔
      ∃ last ∈ (text.toList.splitOn '+').getLast?, chord.key.SpelledBy (keyWord last) ∧
        ∃ modifiers : List Modifier, modifiers.toFinset = chord.modifiers ∧
          List.Forall₂ (fun component modifier => modifier.SpelledBy (modifierWord component))
            (text.toList.splitOn '+').dropLast modifiers := by
  -- Reading the key and reading the modifiers are independent of each other.
  simp only [parse_eq, Option.bind_eq_some_iff, mapM_eq_some_iff, readModifier_eq_some_iff,
    Key.fromSpec_eq_some_iff, Option.mem_def]
  constructor
  · intro ⟨last, final, key, spelled, modifiers, read, made⟩
    obtain rfl := Option.some.inj made
    exact ⟨last, final, spelled, modifiers, rfl, read⟩
  · intro ⟨last, final, spelled, modifiers, same, read⟩
    refine ⟨last, final, chord.key, spelled, modifiers, read, ?_⟩
    rw [same]

/-- A text is accepted exactly when its last component spells some key and every component before
spells some modifier. -/
theorem parse_isSome_iff {text : String} :
    (parse text).isSome ↔
      (∀ component ∈ (text.toList.splitOn '+').dropLast,
        ∃ modifier : Modifier, modifier.SpelledBy (modifierWord component)) ∧
      ∃ last ∈ (text.toList.splitOn '+').getLast?, ∃ key : Key, key.SpelledBy (keyWord last) := by
  -- Each part can be read by itself, so both can.
  rw [Option.isSome_iff_exists, ← exists_forall₂_iff]
  constructor
  · intro ⟨chord, parsed⟩
    obtain ⟨last, final, spelled, modifiers, _, read⟩ := parse_eq_some_iff.mp parsed
    exact ⟨⟨modifiers, read⟩, last, final, chord.key, spelled⟩
  · intro ⟨⟨modifiers, read⟩, last, final, key, spelled⟩
    exact ⟨⟨modifiers.toFinset, key⟩,
      parse_eq_some_iff.mpr ⟨last, final, spelled, modifiers, rfl, read⟩⟩

end Chord

/-- Words joined by a separator are interspersed with it. -/
theorem joinedBefore_eq_intercalate (separator : Char) (words : List (List Char))
    (final : List Char) :
    joinedBefore separator words final = [separator].intercalate (words ++ [final]) := by
  induction words with
  | nil => simp [joinedBefore]
  | cons word rest ih =>
    have further : rest ++ [final] ≠ [] := by simp
    rw [List.cons_append, List.intercalate_cons_of_ne_nil further, ← ih]
    simp [joinedBefore]

namespace Key

/-- A key's own spec, standing last in a chord, is read as that key. -/
theorem spelledBy_keyWord (key : Key) : key.SpelledBy (Chord.keyWord key.spelling) := by
  have every : ∀ key ∈ all, Chord.keyWord key.spelling = String.ofList key.spelling := by
    decide +kernel
  rw [every key (mem_all key)]
  exact key.spelledBy_toSpec

end Key

namespace Chord

/-- A printed chord is split into the specs it was printed from. -/
theorem splitOn_display (chord : Chord) :
    chord.display.toList.splitOn '+' =
      chord.printed.map Modifier.spelling ++ [chord.key.spelling] := by
  rw [display_toList, joinedBefore_eq_intercalate, List.splitOn_intercalate]
  · intro word among
    rcases List.mem_append.mp among with spec | final
    · obtain ⟨modifier, _, rfl⟩ := List.mem_map.mp spec
      exact modifier.plus_notMem_spelling
    · obtain rfl := List.mem_singleton.mp final
      exact chord.key.plus_notMem_spelling
  · simp

/-- The parser reads every printed chord back. -/
theorem parse_display (chord : Chord) : parse chord.display = some chord := by
  rw [parse_eq_some_iff, splitOn_display, List.getLast?_concat, List.dropLast_concat]
  refine ⟨chord.key.spelling, rfl, chord.key.spelledBy_keyWord, chord.printed, ?_, ?_⟩
  · ext modifier
    simp [printed, Modifier.mem_printOrder]
  · rw [List.forall₂_map_left_iff, List.forall₂_same]
    intro modifier _
    exact modifier.spelledBy_spelling

/--
A text is accepted exactly when every component but the last spells a modifier and the last one
spells a key, and it is read as the chord of these modifiers and that key. An accepted chord, as
every chord, is read back from its printed form, and no two chords print alike.
-/
theorem parsed_and_printed :
    (∀ text : String, (parse text).isSome ↔
      (∀ component ∈ (text.toList.splitOn '+').dropLast,
        ∃ modifier : Modifier, modifier.SpelledBy (modifierWord component)) ∧
      ∃ last ∈ (text.toList.splitOn '+').getLast?, ∃ key : Key, key.SpelledBy (keyWord last)) ∧
    (∀ (text : String) (chord : Chord), parse text = some chord ↔
      ∃ last ∈ (text.toList.splitOn '+').getLast?, chord.key.SpelledBy (keyWord last) ∧
        ∃ modifiers : List Modifier, modifiers.toFinset = chord.modifiers ∧
          List.Forall₂ (fun component modifier => modifier.SpelledBy (modifierWord component))
            (text.toList.splitOn '+').dropLast modifiers) ∧
    (∀ text chord, parse text = some chord → parse chord.display = some chord) ∧
    (∀ chord, parse chord.display = some chord) ∧ Function.Injective display :=
  ⟨fun _ => parse_isSome_iff, fun _ _ => parse_eq_some_iff, fun _ chord _ => chord.parse_display,
    parse_display, display_injective⟩

end Chord

end Hotki
