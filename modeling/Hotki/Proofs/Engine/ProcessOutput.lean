import Hotki.Engine.ProcessOutput

/-! What is captured of a process's output, and which of its lines a notification shows. -/

namespace Hotki

open Base

/-- What is retained of the bytes read so far. -/
def retained (read : List UInt8) : CapturedStream :=
  ⟨read.take processStreamLimitBytes, decide (processStreamLimitBytes < read.length)⟩

/-- One more read is retained as far as the bound allows. -/
theorem retain_retained {read chunk : List UInt8} (filled : chunk ≠ []) :
    (retained read).retain chunk = retained (read ++ chunk) := by
  have positive := List.length_pos_iff.mpr filled
  unfold retained CapturedStream.retain
  simp only [List.length_take, CapturedStream.mk.injEq]
  constructor
  · rw [List.take_append, List.append_cancel_left_eq, List.take_eq_take_iff]
    omega
  · rw [List.length_append, ← Bool.decide_or, decide_eq_decide]
    omega

/-- Whatever the reads, the stream's first bytes are captured. -/
theorem readBounded_eq {reads : List (List UInt8)} (filled : ∀ chunk ∈ reads, chunk ≠ []) :
    readBounded (reads.map .ok) = .ok (retained reads.flatten) := by
  -- What was read before the remaining reads decides what was retained.
  have general : ∀ read, (retained read).readOn (reads.map .ok) =
      .ok (retained (read ++ reads.flatten)) := by
    induction reads with
    | nil =>
      intro read
      rw [List.flatten_nil, List.append_nil]
      rfl
    | cons chunk rest ih =>
      intro read
      rw [List.forall_mem_cons] at filled
      have more := ih filled.2 (read ++ chunk)
      rw [List.flatten_cons, ← List.append_assoc, ← more, ← retain_retained filled.1]
      cases chunk with
      | nil => exact absurd rfl filled.1
      | cons byte bytes => rfl
  exact general []

/-- The lines of both streams in order, with a line break between two streams that are not empty. -/
def outputLines (out err : List Char) : List (List Char) :=
  if out = [] ∨ err = [] then textLines out ++ textLines err
  else textLines (terminated out) ++ textLines err

/-- Where the last member that satisfies a condition stands. -/
theorem rposition_eq_some {α : Type} {condition : α → Bool} {items : List α} {index : Nat}
    (found : rposition condition items = some index) :
    ∃ inside : index < items.length, condition items[index] ∧
      ∀ later (below : later < items.length), index < later → ¬ condition items[later] := by
  -- The search from the back is a search of the reversed list.
  unfold rposition at found
  obtain ⟨back, search, rfl⟩ := Option.map_eq_some_iff.mp found
  obtain ⟨inside, holds, fails⟩ := List.findIdx?_eq_some_iff_getElem.mp search
  rw [List.length_reverse] at inside
  rw [List.getElem_reverse] at holds
  refine ⟨by omega, holds, fun later below after => ?_⟩
  have passed := fails (items.length - 1 - later) (by omega)
  rw [List.getElem_reverse] at passed
  have same : items.length - 1 - (items.length - 1 - later) = later := by omega
  simpa only [same] using passed

/-- Some member satisfies a condition when the first one does. -/
theorem rposition_isSome {α : Type} {condition : α → Bool} {items : List α} {item : α}
    (among : item ∈ items) (holds : condition item) :
    ∃ index, rposition condition items = some index := by
  unfold rposition
  cases search : items.reverse.findIdx? condition with
  | none =>
    have fails := List.findIdx?_eq_none_iff.mp search item (List.mem_reverse.mpr among)
    rw [holds] at fails
    cases fails
  | some index => exact ⟨_, rfl⟩

/-- The span is what is left of the lines without the blank ones at both ends. -/
theorem nonblankSpan_spec (lines : List (List Char)) :
    ∃ before after, lines = before ++ nonblankSpan lines ++ after ∧
      (∀ line ∈ before, ¬ nonblank line) ∧ (∀ line ∈ after, ¬ nonblank line) ∧
      (∀ line ∈ (nonblankSpan lines).head?, nonblank line) ∧
      ∀ line ∈ (nonblankSpan lines).getLast?, nonblank line := by
  -- Without a line that is not blank there is no span; else it starts at the first and ends at the
  -- last.
  unfold nonblankSpan
  cases first : lines.findIdx? nonblank with
  | none =>
    have blank := List.findIdx?_eq_none_iff.mp first
    exact ⟨lines, [], by simp, by simpa using blank, by simp, by simp, by simp⟩
  | some start =>
    obtain ⟨inside, holds, fails⟩ := List.findIdx?_eq_some_iff_getElem.mp first
    obtain ⟨final, last⟩ := rposition_isSome (List.getElem_mem inside) holds
    obtain ⟨within, ends, after⟩ := rposition_eq_some last
    rw [last]
    dsimp only
    have ordered : start ≤ final := by
      by_contra past
      exact after start inside (by omega) holds
    rw [if_pos ordered]
    refine ⟨lines.take start, lines.drop (final + 1), ?_, ?_, ?_, ?_, ?_⟩
    · have rest : (lines.drop start).drop (final + 1 - start) = lines.drop (final + 1) := by
        rw [List.drop_drop]
        congr 1
        omega
      rw [List.append_assoc, ← rest, List.take_append_drop, List.take_append_drop]
    · intro line among
      obtain ⟨index, below, rfl⟩ := List.mem_take_iff_getElem.mp among
      exact fails index (by omega)
    · intro line among
      obtain ⟨index, below, rfl⟩ := List.mem_drop_iff_getElem.mp among
      exact after (final + 1 + index) (by omega) (by omega)
    · intro line head
      rw [List.head?_take, List.head?_drop, if_neg (by omega),
        List.getElem?_eq_getElem inside] at head
      obtain rfl := Option.some.inj head
      exact holds
    · intro line tail
      have place : start + (final + 1 - start - 1) = final := by omega
      rw [List.getLast?_take, if_neg (by omega), List.getElem?_drop, place,
        List.getElem?_eq_getElem within] at tail
      obtain rfl := Option.some.inj tail
      exact ends

/-- The combined text has the lines of both streams. -/
theorem textLines_combineOutput (out err : List Char) :
    textLines (combineOutput out err) = outputLines out err := by
  -- A line break is put in between only where both streams have something.
  unfold combineOutput outputLines terminated
  by_cases silent : err = []
  · rw [if_pos silent, if_pos (.inr silent), silent, textLines_nil, List.append_nil]
  · rw [if_neg silent]
    by_cases quiet : out = []
    · rw [if_neg fun open_ => open_.1 quiet, if_pos (.inl quiet), quiet]
      rfl
    · rw [if_neg (not_or.mpr ⟨quiet, silent⟩)]
      by_cases ends : out.getLast? = some '\n'
      · rw [if_neg fun open_ => open_.2 ends, if_pos ends]
        exact textLines_terminated ends err
      · rw [if_pos ⟨quiet, ends⟩, if_neg ends]
        exact textLines_append_break out err

/-- Without a carriage return at the end of the first stream, its lines are followed by those of
the second as they are. -/
theorem outputLines_eq {out : List Char} (plain : out.getLast? ≠ some '\r') (err : List Char) :
    outputLines out err = textLines out ++ textLines err := by
  unfold outputLines
  split
  next => rfl
  next both => rw [textLines_terminated_eq plain fun quiet => both (.inl quiet)]

/-- A line that is not blank is not empty. -/
theorem nonblank_ne_nil {line : List Char} (shown : nonblank line) : line ≠ [] := by
  intro missing
  rw [missing] at shown
  cases shown

/-- Lines whose first is not empty make a text that is not empty. -/
theorem intercalate_eq_nil_iff {lines : List (List Char)}
    (shown : ∀ line ∈ lines.head?, nonblank line) :
    ['\n'].intercalate lines = [] ↔ lines = [] := by
  -- The first line is not empty, so the text is empty only without lines.
  cases lines with
  | nil => simp
  | cons line rest =>
    refine iff_of_false ?_ (by simp)
    have first := nonblank_ne_nil (shown line rfl)
    cases rest with
    | nil => simpa using first
    | cons other others => simp [List.intercalate_cons_cons, first]

/-- One more line follows a line break. -/
theorem intercalate_concat {lines : List (List Char)} (filled : lines ≠ []) (line : List Char) :
    ['\n'].intercalate (lines ++ [line]) = ['\n'].intercalate lines ++ '\n' :: line := by
  -- The induction is on the lines.
  induction lines with
  | nil => exact absurd rfl filled
  | cons first rest ih =>
    cases rest with
    | nil => simp [List.intercalate_cons_cons]
    | cons second others =>
      have more := ih (by simp)
      rw [List.cons_append, List.cons_append, List.intercalate_cons_cons, ← List.cons_append, more,
        List.intercalate_cons_cons]
      simp

/-- The marker stands on a line of its own, which is the only one when nothing else is shown. -/
theorem intercalate_marked {lines : List (List Char)} (shown : ∀ line ∈ lines.head?, nonblank line)
    (marker : List Char) :
    (if ['\n'].intercalate lines = [] then ['\n'].intercalate lines
      else ['\n'].intercalate lines ++ ['\n']) ++ marker =
      ['\n'].intercalate (lines ++ [marker]) := by
  by_cases missing : lines = []
  · rw [missing]
    simp
  · rw [if_neg fun empty => missing ((intercalate_eq_nil_iff shown).mp empty), intercalate_concat missing]
    simp

/-- The bytes captured of a stream are its first ones however it is read, and the stream is marked
as truncated when it is longer. The notification's lines are those of both streams, without the
blank ones at the ends, before the marker of a truncated stream. -/
theorem output_captured_and_cut :
    (∀ reads : List (List UInt8), (∀ chunk ∈ reads, chunk ≠ []) →
      readBounded (reads.map .ok) =
        .ok ⟨reads.flatten.take 32768, decide (32768 < reads.flatten.length)⟩) ∧
    (∀ stdout stderr : CapturedStream, ∃ before kept after,
      outputLines (lossyChars stdout.bytes) (lossyChars stderr.bytes) = before ++ kept ++ after ∧
      (∀ line ∈ before, ¬ nonblank line) ∧ (∀ line ∈ after, ¬ nonblank line) ∧
      (∀ line ∈ kept.head?, nonblank line) ∧ (∀ line ∈ kept.getLast?, nonblank line) ∧
      trimProcessOutput stdout stderr = String.ofList (['\n'].intercalate (kept ++
        if stdout.truncated || stderr.truncated then [truncationMarker] else []))) ∧
    ∀ out err : List Char, out.getLast? ≠ some '\r' →
      outputLines out err = textLines out ++ textLines err := by
  refine ⟨fun reads filled => readBounded_eq filled, fun stdout stderr => ?_,
    fun out err plain => outputLines_eq plain err⟩
  -- The marker is added just if something was cut.
  obtain ⟨before, after, split, blankBefore, blankAfter, first, last⟩ :=
    nonblankSpan_spec (outputLines (lossyChars stdout.bytes) (lossyChars stderr.bytes))
  refine ⟨before, _, after, split, blankBefore, blankAfter, first, last, ?_⟩
  unfold trimProcessOutput
  dsimp only
  rw [textLines_combineOutput]
  split
  next truncated =>
    rw [intercalate_marked first]
  next => rw [List.append_nil]

end Hotki
