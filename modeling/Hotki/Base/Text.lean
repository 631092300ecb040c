import Mathlib.Data.List.Basic

/-! The lines of a text, which end with line feeds that carriage returns may precede. -/

namespace Base

/-- A line without the carriage return of its line break. -/
def stripCarriageReturn (line : List Char) : List Char :=
  if line.getLast? = some '\r' then line.dropLast else line

/-- The lines of a text, without their line breaks. -/
def textLines (text : List Char) : List (List Char) :=
  let parts := text.splitOn '\n'
  let terminated := parts.dropLast.map stripCarriageReturn
  -- What follows the last line break is a line unless it is empty.
  terminated ++ parts.getLast?.toList.filter fun rest => !rest.isEmpty

/-- A text that ends with a line break. -/
def terminated (text : List Char) : List Char :=
  if text.getLast? = some '\n' then text else text ++ ['\n']

/-- No text has no lines. -/
@[simp] theorem textLines_nil : textLines [] = [] := rfl

/-- A line break separates the lines before it from those after it. -/
theorem textLines_append_break (before after : List Char) :
    textLines (before ++ '\n' :: after) = textLines (before ++ ['\n']) ++ textLines after := by
  have parts : ∀ rest, (before ++ '\n' :: rest).splitOn '\n' =
      before.splitOn '\n' ++ rest.splitOn '\n' :=
    fun rest => List.splitOn_append_cons_self before rest
  have parted : after.splitOn '\n' ≠ [] := List.splitOn_ne_nil '\n' after
  unfold textLines
  rw [parts after, parts []]
  dsimp only
  rw [List.dropLast_append_of_ne_nil parted, List.splitOn_nil, List.dropLast_concat,
    List.getLast?_append_of_ne_nil _ parted, List.getLast?_concat, List.map_append,
    List.append_assoc]
  simp

/-- A text that ends with a line break has the lines before its break. -/
theorem textLines_terminated {text : List Char} (ends : text.getLast? = some '\n')
    (after : List Char) : textLines (text ++ after) = textLines text ++ textLines after := by
  obtain ⟨before, rfl⟩ := List.getLast?_eq_some_iff.mp ends
  rw [List.append_assoc]
  exact textLines_append_break before after

/-- A line that does not end with a carriage return is kept as it is. -/
theorem stripCarriageReturn_eq {line : List Char} (plain : line.getLast? ≠ some '\r') :
    stripCarriageReturn line = line := if_neg plain

/-- A text with nothing but one line has that line, with a line break or without. -/
theorem textLines_single {line : List Char} (unbroken : '\n' ∉ line)
    (plain : line.getLast? ≠ some '\r') (filled : line ≠ []) :
    textLines (line ++ ['\n']) = [line] ∧ textLines line = [line] := by
  have parts : (line ++ ['\n']).splitOn '\n' = [line, []] := by
    rw [List.splitOn_append_cons_self, List.splitOn_eq_singleton unbroken]
    rfl
  constructor
  · unfold textLines
    rw [parts]
    simp [stripCarriageReturn_eq plain]
  · unfold textLines
    rw [List.splitOn_eq_singleton unbroken]
    simp [filled]

/-- The lines of a text do not change with a line break after it, unless its last line ends with a
carriage return, which then is part of the break. -/
theorem textLines_terminated_eq {text : List Char} (plain : text.getLast? ≠ some '\r')
    (filled : text ≠ []) : textLines (terminated text) = textLines text := by
  unfold terminated
  split
  next => rfl
  next ends =>
    by_cases broken : '\n' ∈ text
    · -- Only the line after the last break stands open, and it is not empty.
      obtain ⟨back, front, same, unbroken⟩ :=
        List.eq_append_cons_of_mem (List.mem_reverse.mpr broken)
      have split : text = front.reverse ++ '\n' :: back.reverse := by
        rw [← List.reverse_reverse text, same]
        simp
      have open_ : back.reverse ≠ [] := by
        intro closed
        rw [split, closed] at ends
        exact ends List.getLast?_concat
      have last : text.getLast? = back.reverse.getLast? := by
        rw [split, List.append_cons, List.getLast?_append_of_ne_nil _ open_]
      rw [last] at plain
      have whole : '\n' ∉ back.reverse := fun among => unbroken (List.mem_reverse.mp among)
      obtain ⟨closed, still⟩ := textLines_single whole plain open_
      rw [split, List.append_assoc, List.cons_append, textLines_append_break, closed,
        textLines_append_break _ back.reverse, still]
    · rw [(textLines_single broken plain filled).1, (textLines_single broken plain filled).2]

end Base
