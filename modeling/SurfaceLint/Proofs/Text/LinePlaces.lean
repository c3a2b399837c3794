import Mathlib.Data.List.DropRight
import SurfaceLint.Proofs.Text.LineIndex

/-!
# Places on the lines of a text

The place of an offset can be found in three ways. In the text in front of the offset, the
newlines give the line and the characters behind the last of them give the column. Among the
lines of the text, the place is that of the same character, or the end of a line. Among the
offsets at which lines start, which increase, the line is the last one that starts at the
offset or before it. The line index goes the third way and agrees with the others.
-/

namespace SurfaceLint

theorem Position.column_after (text : Text) :
    (after text).column = (text.rtakeWhile (· ≠ '\n')).length := by
  induction text using List.reverseRecOn with
  | nil => rfl
  | append_singleton text c ih =>
    rw [after_concat, List.rtakeWhile_concat, advance]
    by_cases hc : c = '\n' <;> simp [hc, ih]

namespace LineIndex

variable {text : Text}

theorem getElem?_concat_eq_some_iff {c d : Char} {offset : Nat} :
    (text ++ [c])[offset]? = some d ↔
      text[offset]? = some d ∨ offset = text.length ∧ c = d := by
  rcases Nat.lt_trichotomy offset text.length with hlt | rfl | hgt
  · rw [List.getElem?_append_left hlt]
    simp [Nat.ne_of_lt hlt]
  · simp
  · have hnone : text[offset]? = none := List.getElem?_eq_none (Nat.le_of_lt hgt)
    rw [List.getElem?_append_right (Nat.le_of_lt hgt), hnone]
    have hout : [c][offset - text.length]? = none := List.getElem?_eq_none (by simp; omega)
    simp [hout, Nat.ne_of_gt hgt]

theorem mem_startsOf_iff {start : Nat} :
    start ∈ startsOf text ↔
      start = 0 ∨ ∃ newline, text[newline]? = some '\n' ∧ start = newline + 1 := by
  induction text using List.reverseRecOn with
  | nil => simp [startsOf]
  | append_singleton text c ih =>
    simp only [getElem?_concat_eq_some_iff, or_and_right, exists_or, ← or_assoc, ← ih]
    rw [startsOf_concat]
    by_cases hc : c = '\n'
    · simp [hc]
    · simp [hc]

/-! ## Characters of lines -/

theorem character_at_place {offset : Nat} (h : offset ≤ text.length) :
    ∃ content, (splitLines text)[(Position.after (text.take offset)).line]? = some content ∧
      ((Position.after (text.take offset)).column < content.length ∧
          content[(Position.after (text.take offset)).column]? = text[offset]? ∨
        (Position.after (text.take offset)).column = content.length ∧
          (text[offset]? = some '\n' ∨ offset = text.length)) := by
  obtain ⟨content, hline, hcolumn, hdrop, -⟩ := line_at_after h
  refine ⟨content, hline, ?_⟩
  rcases Nat.lt_or_eq_of_le hcolumn with hlt | heq
  · refine .inl ⟨hlt, ?_⟩
    rw [List.drop_eq_getElem_cons hlt] at hdrop
    have hbegins := List.takeWhile_prefix (l := text.drop offset) (· ≠ '\n')
    rw [← hdrop] at hbegins
    obtain ⟨rest, hrest⟩ := hbegins
    rw [List.getElem?_eq_getElem hlt, ← List.head?_drop, ← hrest]
    rfl
  · refine .inr ⟨heq, ?_⟩
    rw [heq, List.drop_length] at hdrop
    rcases Nat.lt_or_eq_of_le h with hlt | hend
    · rw [List.drop_eq_getElem_cons hlt, List.takeWhile_cons] at hdrop
      have hnewline : text[offset] = '\n' := by
        by_contra hne
        rw [if_pos (by simpa using hne)] at hdrop
        contradiction
      exact .inl (by rw [List.getElem?_eq_getElem hlt, hnewline])
    · exact .inr hend

/-- The place that the index gives for an offset is the number of newlines before the offset and
of characters behind the last of them. On the line of that number the column holds the character
at the offset, or it is the end of the line, at a newline or at the end of the text. The index
has one increasing entry for each line, at the beginning and behind every newline; the search
counts the entries up to the offset, and the last of them is the start of the line. -/
theorem positionAt_addresses_lines (text : Text) {offset : Nat} (h : offset ≤ text.length) :
    ∃ place content, (ofText text).positionAt offset = .ok place ∧
      place.line = (text.take offset).count '\n' ∧
      place.column = ((text.take offset).rtakeWhile (· ≠ '\n')).length ∧
      (splitLines text)[place.line]? = some content ∧
      (place.column < content.length ∧ content[place.column]? = text[offset]? ∨
        place.column = content.length ∧ (text[offset]? = some '\n' ∨ offset = text.length)) ∧
      (ofText text).lineStarts.toList.Pairwise (· < ·) ∧
      (∀ start, start ∈ (ofText text).lineStarts ↔
        start = 0 ∨ ∃ newline, text[newline]? = some '\n' ∧ start = newline + 1) ∧
      (∀ number start, (ofText text).lineStarts[number]? = some start →
        (start ≤ offset ↔ number < (ofText text).linesUpTo offset)) ∧
      (ofText text).linesUpTo offset = place.line + 1 ∧
      (∃ start, (ofText text).lineStarts[place.line]? = some start ∧
        start + place.column = offset) ∧
      (ofText text).lineCount = (splitLines text).length ∧
      (ofText text).lineCount = text.count '\n' + 1 := by
  obtain ⟨content, hline, hcharacter⟩ := character_at_place h
  have hcount := lineCount_ofText text
  exact ⟨.after (text.take offset), content, positionAt_ofText h, Position.line_after _,
    Position.column_after _, hline, hcharacter, pairwise_startsOf text,
    fun _ => mem_startsOf_iff, fun _ _ => startsOf_le_iff_lt_linesUpTo, linesUpTo_ofText h,
    getElem?_startsOf_after h, hcount, hcount.trans (length_splitLines text)⟩

/-- The newline of an empty line, behind a carriage return that belongs to the line above. -/
theorem positionAt_addresses_lines_empty_line :
    3 ≤ "a\r\n\nb".toList.length ∧
      (ofText "a\r\n\nb".toList).positionAt 3 = .ok ⟨1, 0⟩ ∧
      (splitLines "a\r\n\nb".toList)[1]? = some [] ∧
      ("a\r\n\nb".toList[3]? = some '\n' ∨ 3 = "a\r\n\nb".toList.length) ∧
      (ofText "a\r\n\nb".toList).linesUpTo 3 = 2 ∧
      (ofText "a\r\n\nb".toList).lineStarts = #[0, 3, 4] := by
  have hoffset : 3 ≤ "a\r\n\nb".toList.length := by decide
  obtain ⟨place, content, hplace, hnumber, hcolumn, hline, hcharacter, -, -, -, hlines, -⟩ :=
    positionAt_addresses_lines "a\r\n\nb".toList hoffset
  obtain rfl : place = ⟨1, 0⟩ := by
    cases place
    exact congrArg₂ Position.mk hnumber hcolumn
  obtain rfl : [] = content := Option.some.inj hline
  have hend := hcharacter.resolve_left fun hinside => Nat.lt_irrefl _ hinside.1
  exact ⟨hoffset, hplace, hline, hend.2, hlines, by decide⟩

end LineIndex

end SurfaceLint
