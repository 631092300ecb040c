import Hotki.Keycode.Chord
import Mathlib.Data.List.Basic

/-! The printed form of a chord determines the chord. -/

namespace Hotki

/-- A number that stands for a spelling. -/
def spellingCode (spelling : List Char) : Nat :=
  spelling.foldl (fun code letter => 256 * code + letter.toNat) 0

namespace Key

/-- Every key is in the table. -/
theorem mem_all (key : Key) : key ∈ all := by cases key <;> decide

/-- The spec of a key, character by character. -/
def spelling (key : Key) : List Char := key.specOrName.toList.map Char.toLower

/-- The characters of a spec are the spelling of its key. -/
theorem toSpec_toList (key : Key) : key.toSpec.toList = key.spelling :=
  String.toList_ofList

/-- No key spec contains the character that separates the parts of a chord. -/
theorem plus_notMem_spelling (key : Key) : '+' ∉ key.spelling := by
  have every : ∀ key ∈ all, '+' ∉ key.spelling := by decide +kernel
  exact every key (mem_all key)

/-- Different keys have different specs. -/
theorem spelling_injective : Function.Injective spelling := by
  -- One number for each spelling makes the comparison of all pairs cheap.
  have distinct : (all.map fun key => spellingCode key.spelling).Nodup := by decide +kernel
  intro left right same
  exact List.inj_on_of_nodup_map distinct (mem_all left) (mem_all right)
    (congrArg spellingCode same)

end Key

namespace Modifier

/-- Every modifier has a place in the print order. -/
theorem mem_printOrder (modifier : Modifier) : modifier ∈ printOrder := by cases modifier <;> decide

/-- The spec of a modifier, character by character. -/
def spelling (modifier : Modifier) : List Char := modifier.toSpec.toList

/-- No modifier spec contains the character that ends it. -/
theorem plus_notMem_spelling (modifier : Modifier) : '+' ∉ modifier.spelling := by
  have every : ∀ modifier ∈ printOrder, '+' ∉ modifier.spelling := by decide +kernel
  exact every modifier (mem_printOrder modifier)

/-- Different modifiers have different specs. -/
theorem spelling_injective : Function.Injective spelling := by
  have distinct : (printOrder.map spelling).Nodup := by decide +kernel
  intro left right same
  exact List.inj_on_of_nodup_map distinct (mem_printOrder left) (mem_printOrder right) same

end Modifier

/-- Words joined by a separator before a last word. -/
def joinedBefore (separator : Char) (words : List (List Char)) (final : List Char) : List Char :=
  words.foldr (fun word text => word ++ separator :: text) final

/-- A word without the separator is read back from the text up to the first separator. -/
theorem cut_injective {separator : Char} {left right leftRest rightRest : List Char}
    (leftFree : separator ∉ left) (rightFree : separator ∉ right)
    (same : left ++ separator :: leftRest = right ++ separator :: rightRest) :
    left = right ∧ leftRest = rightRest := by
  -- The induction is on the word, compared letter by letter.
  induction left generalizing right with
  | nil =>
    cases right with
    | nil => exact ⟨rfl, (List.cons.inj same).2⟩
    | cons head tail =>
      refine absurd ?_ rightFree
      rw [show separator = head from (List.cons.inj same).1]
      exact List.mem_cons_self
  | cons head tail ih =>
    simp only [List.mem_cons, not_or] at leftFree
    cases right with
    | nil => exact absurd (List.cons.inj same).1.symm leftFree.1
    | cons other others =>
      simp only [List.mem_cons, not_or] at rightFree
      obtain ⟨sameHead, sameTail⟩ := List.cons.inj same
      obtain ⟨words, rests⟩ := ih leftFree.2 rightFree.2 sameTail
      exact ⟨by rw [sameHead, words], rests⟩

/-- Words without the separator are read back from their joined text. -/
theorem joinedBefore_injective {separator : Char} {left right : List (List Char)}
    {leftLast rightLast : List Char} (leftFree : ∀ word ∈ left, separator ∉ word)
    (rightFree : ∀ word ∈ right, separator ∉ word) (leftLastFree : separator ∉ leftLast)
    (rightLastFree : separator ∉ rightLast)
    (same : joinedBefore separator left leftLast = joinedBefore separator right rightLast) :
    left = right ∧ leftLast = rightLast := by
  -- The first separator ends the first word on both sides.
  induction left generalizing right with
  | nil =>
    cases right with
    | nil => exact ⟨rfl, same⟩
    | cons word rest =>
      refine absurd ?_ leftLastFree
      rw [show leftLast = _ from same]
      simp [joinedBefore]
  | cons word rest ih =>
    cases right with
    | nil =>
      refine absurd ?_ rightLastFree
      rw [show rightLast = _ from same.symm]
      simp [joinedBefore]
    | cons other others =>
      simp only [List.mem_cons, forall_eq_or_imp] at leftFree rightFree
      have parts : word ++ separator :: joinedBefore separator rest leftLast =
          other ++ separator :: joinedBefore separator others rightLast := same
      obtain ⟨sameWord, sameRest⟩ := cut_injective leftFree.1 rightFree.1 parts
      obtain ⟨sameWords, sameLast⟩ := ih leftFree.2 rightFree.2 sameRest
      exact ⟨by rw [sameWord, sameWords], sameLast⟩

namespace Chord

/-- The modifiers of a chord in the order they are printed. -/
def printed (chord : Chord) : List Modifier :=
  Modifier.printOrder.filter fun modifier => modifier ∈ chord.modifiers

/-- A chord prints as its modifiers' specs, each ended by a plus, before its key's spec. -/
theorem display_toList (chord : Chord) :
    chord.display.toList =
      joinedBefore '+' (chord.printed.map Modifier.spelling) chord.key.spelling := by
  -- The induction is on the printed modifiers.
  show ((chord.printed).foldr (fun modifier text => modifier.toSpec ++ "+" ++ text)
    chord.key.toSpec).toList = _
  generalize chord.printed = modifiers
  induction modifiers with
  | nil => exact chord.key.toSpec_toList
  | cons modifier rest ih =>
    simp only [List.foldr_cons, String.toList_append, ih, List.map_cons, joinedBefore]
    simp [Modifier.spelling]

/-- Chords that print alike are the same chord. -/
theorem display_injective : Function.Injective display := by
  intro left right same
  have texts := congrArg String.toList same
  rw [display_toList, display_toList] at texts
  obtain ⟨sameModifiers, sameKey⟩ := joinedBefore_injective
    (by simp [Modifier.plus_notMem_spelling]) (by simp [Modifier.plus_notMem_spelling])
    (Key.plus_notMem_spelling _) (Key.plus_notMem_spelling _) texts
  have printedAlike := Modifier.spelling_injective.list_map sameModifiers
  have key : left.key = right.key := Key.spelling_injective sameKey
  have modifiers : left.modifiers = right.modifiers := by
    ext modifier
    -- A modifier of a chord is one of those it prints.
    have member : ∀ chord : Chord, modifier ∈ chord.printed ↔ modifier ∈ chord.modifiers := by
      intro chord
      simp [printed, Modifier.mem_printOrder]
    rw [← member, ← member, printedAlike]
  cases left
  cases right
  simp_all

end Chord

end Hotki
