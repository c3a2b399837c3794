import Mathlib.Data.List.Induction
import SurfaceLint.Proofs.Text.Position

/-!
# Offsets and positions in order

The pass over a text that collects the starts of its lines has at any moment the starts of
what was read so far; what it adds later lies further on. So the starts increase, those up to
an offset are the starts of the text in front of it, and the binary search among them finds
the line that reading leads to.

Reading on from a place always leads to a later place, so the places of a text are in the
order of their offsets. Every column of a line, up to its end, is such a place. The two
conversions of the line index are therefore inverse to each other, keep the order, and fail
exactly on what does not address the text.
-/

namespace SurfaceLint

/-! ## Binary search -/

/-- In increasing entries, those before the result of the search are at most the value, and the
others exceed it. -/
theorem le_iff_lt_bisectRight {entries : Array Nat} {value low high : Nat}
    (hsorted : entries.toList.Pairwise (· ≤ ·)) (h : high ≤ entries.size) (hle : low ≤ high)
    (hlow : ∀ i (hi : i < entries.size), i < low → entries[i] ≤ value)
    (hhigh : ∀ i (hi : i < entries.size), high ≤ i → value < entries[i])
    {i : Nat} (hi : i < entries.size) :
    entries[i] ≤ value ↔ i < bisectRight entries value low high h := by
  have hmono : ∀ {m n : Nat} (hm : m < entries.size) (hn : n < entries.size), m ≤ n →
      entries[m] ≤ entries[n] := by
    intro m n hm hn hmn
    rcases Nat.lt_or_eq_of_le hmn with hlt | rfl
    · exact List.pairwise_iff_getElem.mp hsorted m n (by simpa using hm) (by simpa using hn) hlt
    · exact Nat.le_refl _
  fun_induction bisectRight entries value low high h with
  | case1 low high h hlt middle hbelow ih =>
    refine ih (by omega) hlow ?_
    intro j hj hmiddle
    exact Nat.lt_of_lt_of_le hbelow (hmono _ hj hmiddle)
  | case2 low high h hlt middle habove ih =>
    refine ih (by omega) ?_ hhigh
    intro j hj hmiddle
    have hmiddle' : middle < entries.size := by omega
    have hbelow := hmono hj hmiddle' (by omega)
    omega
  | case3 low high h hlt =>
    constructor
    · intro hvalue
      by_contra hge
      have habove := hhigh i hi (by omega)
      omega
    · exact hlow i hi

/-! ## Starts of lines -/

namespace LineIndex

theorem startsOf_concat (text : Text) (c : Char) :
    startsOf (text ++ [c]) =
      if c = '\n' then (startsOf text).push (text.length + 1) else startsOf text := by
  simp [startsOf, List.zipIdx_append, addStart]

theorem size_startsOf (text : Text) :
    (startsOf text).size = (Position.after text).line + 1 := by
  induction text using List.reverseRecOn with
  | nil => rfl
  | append_singleton text c ih =>
    rw [startsOf_concat, Position.after_concat, Position.advance]
    split
    · rw [Array.size_push, ih]
    · exact ih

/-- The last line of a text starts as far before its end as the column says. -/
theorem getElem?_startsOf_line (text : Text) :
    ∃ start, (startsOf text)[(Position.after text).line]? = some start ∧
      start + (Position.after text).column = text.length := by
  induction text using List.reverseRecOn with
  | nil => exact ⟨0, rfl, rfl⟩
  | append_singleton text c ih =>
    rw [startsOf_concat, Position.after_concat, Position.advance, List.length_append]
    split
    · refine ⟨text.length + 1, ?_, rfl⟩
      rw [← size_startsOf, Array.getElem?_push_size]
    · obtain ⟨start, hstart, hlength⟩ := ih
      refine ⟨start, hstart, ?_⟩
      rw [← hlength]
      rfl

theorem size_startsOf_le_append (text rest : Text) :
    (startsOf text).size ≤ (startsOf (text ++ rest)).size := by
  rw [size_startsOf, size_startsOf, Position.after_append]
  simp only [Position.append]
  omega

theorem getElem?_startsOf_append {text : Text} {number : Nat}
    (h : number < (startsOf text).size) (rest : Text) :
    (startsOf (text ++ rest))[number]? = (startsOf text)[number]? := by
  induction rest using List.reverseRecOn with
  | nil => rw [List.append_nil]
  | append_singleton rest c ih =>
    have hsize := size_startsOf_le_append text rest
    rw [← List.append_assoc, startsOf_concat]
    split
    · rw [Array.getElem?_push, if_neg (by omega), ih]
    · exact ih

theorem length_lt_of_startsOf_append {text rest : Text} {number start : Nat}
    (hnumber : (startsOf text).size ≤ number)
    (h : (startsOf (text ++ rest))[number]? = some start) : text.length < start := by
  induction rest using List.reverseRecOn with
  | nil =>
    rw [List.append_nil] at h
    have hlt := (Array.getElem?_eq_some_iff.mp h).1
    omega
  | append_singleton rest c ih =>
    rw [← List.append_assoc, startsOf_concat] at h
    split at h
    · rw [Array.getElem?_push] at h
      split at h
      · obtain rfl := Option.some.inj h
        rw [List.length_append]
        omega
      · exact ih h
    · exact ih h

theorem le_length_of_mem_startsOf {text : Text} {start : Nat} (h : start ∈ startsOf text) :
    start ≤ text.length := by
  induction text using List.reverseRecOn with
  | nil => simp_all [startsOf]
  | append_singleton text c ih =>
    rw [startsOf_concat] at h
    rw [List.length_append, List.length_singleton]
    split at h
    · rcases Array.mem_push.mp h with hmem | rfl
      · have hle := ih hmem
        omega
      · exact Nat.le_refl _
    · have hle := ih h
      omega

theorem pairwise_startsOf (text : Text) : (startsOf text).toList.Pairwise (· < ·) := by
  induction text using List.reverseRecOn with
  | nil => simp [startsOf]
  | append_singleton text c ih =>
    rw [startsOf_concat]
    split
    · rw [Array.toList_push, List.pairwise_append]
      refine ⟨ih, List.pairwise_singleton _ _, ?_⟩
      intro start hstart last hlast
      have hle := le_length_of_mem_startsOf (Array.mem_toList_iff.mp hstart)
      rw [List.mem_singleton.mp hlast]
      omega
    · exact ih

theorem startsOf_le_iff {text : Text} {offset number start : Nat} (hoffset : offset ≤ text.length)
    (h : (startsOf text)[number]? = some start) :
    start ≤ offset ↔ number ≤ (Position.after (text.take offset)).line := by
  have hlength : (text.take offset).length = offset := List.length_take_of_le hoffset
  have hsize := size_startsOf (text.take offset)
  rw [← List.take_append_drop offset text] at h
  rcases Nat.lt_or_ge number (startsOf (text.take offset)).size with hlt | hge
  · rw [getElem?_startsOf_append hlt] at h
    have hle := le_length_of_mem_startsOf (Array.mem_of_getElem? h)
    omega
  · have hlater := length_lt_of_startsOf_append hge h
    omega

/-- The search among the starts finds how many are not behind an offset. -/
theorem startsOf_le_iff_lt_linesUpTo {text : Text} {offset number start : Nat}
    (h : (startsOf text)[number]? = some start) :
    start ≤ offset ↔ number < (ofText text).linesUpTo offset := by
  have hsorted : (startsOf text).toList.Pairwise (· ≤ ·) :=
    (pairwise_startsOf text).imp fun hlt => Nat.le_of_lt hlt
  obtain ⟨hnumber, rfl⟩ := Array.getElem?_eq_some_iff.mp h
  exact le_iff_lt_bisectRight hsorted (Nat.le_refl _) (Nat.zero_le _)
    (fun _ _ hlt => absurd hlt (Nat.not_lt_zero _)) (fun _ hi hle => absurd hi (by omega)) hnumber

theorem linesUpTo_ofText {text : Text} {offset : Nat} (h : offset ≤ text.length) :
    (ofText text).linesUpTo offset = (Position.after (text.take offset)).line + 1 := by
  have hsearch : ∀ number < (startsOf text).size,
      number < (ofText text).linesUpTo offset ↔
        number ≤ (Position.after (text.take offset)).line := by
    intro number hnumber
    have hstart := Array.getElem?_eq_getElem hnumber
    rw [← startsOf_le_iff_lt_linesUpTo hstart, startsOf_le_iff h hstart]
  have hupper : (ofText text).linesUpTo offset ≤ (startsOf text).size :=
    (ofText text).linesUpTo_le offset
  have hline : (Position.after (text.take offset)).line < (startsOf text).size := by
    rw [size_startsOf, Position.line_after, Position.line_after]
    have hcount := (List.take_sublist offset text).count_le '\n'
    omega
  rcases Nat.lt_trichotomy ((ofText text).linesUpTo offset)
    ((Position.after (text.take offset)).line + 1) with hlt | heq | hgt
  · have hself := hsearch _ (Nat.lt_of_lt_of_le hlt hline)
    omega
  · exact heq
  · have hself := hsearch _ (Nat.lt_of_lt_of_le hgt hupper)
    omega

theorem getElem?_startsOf_after {text : Text} {offset : Nat} (h : offset ≤ text.length) :
    ∃ start, (startsOf text)[(Position.after (text.take offset)).line]? = some start ∧
      start + (Position.after (text.take offset)).column = offset := by
  obtain ⟨start, hstart, hlength⟩ := getElem?_startsOf_line (text.take offset)
  rw [List.length_take_of_le h] at hlength
  have hkept := getElem?_startsOf_append (Array.getElem?_eq_some_iff.mp hstart).1 (text.drop offset)
  rw [List.take_append_drop] at hkept
  exact ⟨start, hkept.trans hstart, hlength⟩

/-- The index finds the place that reading the text leads to. -/
theorem positionAt_ofText {text : Text} {offset : Nat} (h : offset ≤ text.length) :
    (ofText text).positionAt offset = .ok (.after (text.take offset)) := by
  have hbound : ¬((offset : Int) < 0 ∨ ((ofText text).text.length : Int) < offset) := by
    change ¬((offset : Int) < 0 ∨ (text.length : Int) < offset)
    omega
  obtain ⟨start, hstart, hcolumn⟩ := getElem?_startsOf_after h
  obtain ⟨hline, hget⟩ := Array.getElem?_eq_some_iff.mp hstart
  rw [positionAt, if_neg hbound]
  simp only [Int.toNat_natCast, linesUpTo_ofText h, Nat.add_sub_cancel]
  change Except.ok (Position.mk _ (offset - (startsOf text)[_])) = _
  rw [hget, show offset - start = (Position.after (text.take offset)).column by omega]

/-- The pass finds the starts that follow from the lengths of the lines. -/
theorem getElem?_startsOf {text line : Text} {number : Nat}
    (h : (splitLines text)[number]? = some line) :
    (startsOf text)[number]? = some (lineStart (splitLines text) number) := by
  obtain ⟨hle, hafter⟩ := after_take_lineStart h (Nat.zero_le _)
  obtain ⟨start, hstart, hcolumn⟩ := getElem?_startsOf_after hle
  rw [hafter] at hstart hcolumn
  rw [hstart, ← Nat.add_right_cancel hcolumn]

theorem lineCount_ofText (text : Text) : (ofText text).lineCount = (splitLines text).length := by
  rw [length_splitLines, ← Position.line_after]
  exact size_startsOf text

theorem lineEnd_ofText {text line : Text} {number : Nat}
    (h : (splitLines text)[number]? = some line) :
    (ofText text).lineEnd number = lineStart (splitLines text) number + line.length := by
  rw [lineEnd]
  rcases Nat.lt_or_ge (number + 1) (splitLines text).length with hlt | hge
  · have hnext := getElem?_startsOf (List.getElem?_eq_getElem hlt)
    change (ofText text).lineStarts[number + 1]? = _ at hnext
    rw [hnext, lineStart_succ h]
    rfl
  · have hnone : (ofText text).lineStarts[number + 1]? = none := by
      rw [Array.getElem?_eq_none_iff, ← lineCount, lineCount_ofText]
      exact hge
    rw [hnone]
    exact (lineStart_add_length_of_last h hge).symm

theorem offsetAt_lineOutside {text : Text} {cursor : Cursor}
    (h : cursor.line < 0 ∨ (splitLines text).length ≤ cursor.line) :
    (ofText text).offsetAt cursor = .error (.lineOutside cursor.line) := by
  unfold offsetAt
  split
  · rfl
  · have hnone : (ofText text).lineStarts[cursor.line.toNat]? = none := by
      rw [Array.getElem?_eq_none_iff, ← lineCount, lineCount_ofText]
      omega
    rw [hnone]

theorem offsetAt_of_line {text line : Text} {cursor : Cursor} (hpos : 0 ≤ cursor.line)
    (hline : (splitLines text)[cursor.line.toNat]? = some line) :
    (ofText text).offsetAt cursor =
      if cursor.column < 0 ∨ (line.length : Int) < cursor.column then
        .error (.columnOutside cursor.column cursor.line)
      else .ok (lineStart (splitLines text) cursor.line.toNat + cursor.column.toNat) := by
  have hstart : (ofText text).lineStarts[cursor.line.toNat]? =
      some (lineStart (splitLines text) cursor.line.toNat) := getElem?_startsOf hline
  have hcolumn : ((lineStart (splitLines text) cursor.line.toNat + line.length : Nat) : Int) <
      lineStart (splitLines text) cursor.line.toNat + cursor.column ↔
      (line.length : Int) < cursor.column := by
    omega
  rw [offsetAt, if_neg (by omega), hstart, lineEnd_ofText hline]
  simp only [hcolumn]

theorem offsetAt_eq_ok_iff {text : Text} {p : Position} {offset : Nat} :
    (ofText text).offsetAt p.toCursor = .ok offset ↔
      ∃ line, (splitLines text)[p.line]? = some line ∧ p.column ≤ line.length ∧
        lineStart (splitLines text) p.line + p.column = offset := by
  cases hline : (splitLines text)[p.line]? with
  | none =>
    have hlength := List.getElem?_eq_none_iff.mp hline
    rw [offsetAt_lineOutside (.inr (by rw [Position.toCursor_line]; omega))]
    simp
  | some line =>
    have hnumber : (splitLines text)[p.toCursor.line.toNat]? = some line := by
      rw [Position.toCursor_line, Int.toNat_natCast, hline]
    rw [offsetAt_of_line (Int.natCast_nonneg _) hnumber]
    by_cases hcolumn : p.column ≤ line.length
    · rw [if_neg (by rw [Position.toCursor_column]; omega)]
      simp [hcolumn]
    · rw [if_pos (by rw [Position.toCursor_column]; omega)]
      simp [hcolumn]

theorem offsetAt_after {text : Text} {offset : Nat} (h : offset ≤ text.length) :
    (ofText text).offsetAt (Position.after (text.take offset)).toCursor = .ok offset := by
  obtain ⟨line, hget, hcolumn, -, hstart⟩ := line_at_after h
  exact offsetAt_eq_ok_iff.mpr ⟨line, hget, hcolumn, hstart⟩

end LineIndex

/-! ## The order of places -/

namespace Position

/-- The order of places in a text: by line, and on one line by column. -/
def Precedes (p q : Position) : Prop :=
  p.line < q.line ∨ p.line = q.line ∧ p.column < q.column

theorem Precedes.asymm {p q : Position} (h : p.Precedes q) : ¬q.Precedes p := by
  unfold Precedes at *
  omega

theorem advance_ne_origin (p : Position) (c : Char) : p.advance c ≠ origin := by
  by_cases hc : c = '\n' <;> simp [advance, origin, hc]

theorem after_ne_origin {text : Text} (h : text ≠ []) : after text ≠ origin := by
  rw [← List.dropLast_concat_getLast h, after_concat]
  exact advance_ne_origin _ _

theorem precedes_append {p q : Position} (h : q ≠ origin) : p.Precedes (p.append q) := by
  obtain ⟨line, column⟩ := q
  by_cases hline : line = 0
  · have hcolumn : column ≠ 0 := by
      rintro rfl
      exact h (by simp [origin, hline])
    right
    simp only [append, hline, ↓reduceIte, Nat.add_zero, true_and]
    omega
  · left
    simp only [append]
    omega

theorem precedes_after_append (before : Text) {word : Text} (h : word ≠ []) :
    (after before).Precedes (after (before ++ word)) := by
  rw [after_append]
  exact precedes_append (after_ne_origin h)

theorem after_take_precedes {text : Text} {m n : Nat} (h : m < n) (hn : n ≤ text.length) :
    (after (text.take m)).Precedes (after (text.take n)) := by
  have hsplit := List.take_append_drop m (text.take n)
  rw [List.take_take, Nat.min_eq_left (Nat.le_of_lt h)] at hsplit
  have hread : (text.take n).drop m ≠ [] := by
    apply List.ne_nil_of_length_pos
    rw [List.length_drop, List.length_take_of_le hn]
    omega
  rw [← hsplit]
  exact precedes_after_append _ hread

theorem after_take_precedes_iff {text : Text} {m n : Nat} (hm : m ≤ text.length)
    (hn : n ≤ text.length) :
    (after (text.take m)).Precedes (after (text.take n)) ↔ m < n := by
  constructor
  · intro h
    apply Nat.lt_of_not_le
    intro hle
    rcases Nat.lt_or_eq_of_le hle with hlt | rfl
    · exact h.asymm (after_take_precedes hlt hm)
    · exact h.asymm h
  · intro h
    exact after_take_precedes h hn

end Position

/-- A cursor stands on a line of a text, at or before its end. -/
def Cursor.StandsIn (text : Text) (cursor : Cursor) : Prop :=
  0 ≤ cursor.line ∧ 0 ≤ cursor.column ∧
    ∃ line, (splitLines text)[cursor.line.toNat]? = some line ∧ cursor.column ≤ line.length

namespace LineIndex

variable {text : Text}

theorem positionAt_eq_error {offset : Int} (h : offset < 0 ∨ text.length < offset) :
    (ofText text).positionAt offset = .error (.offsetOutside offset text.length) := by
  rw [positionAt]
  exact if_pos h

theorem positionAt_eq_ok_iff {offset : Int} {p : Position} :
    (ofText text).positionAt offset = .ok p ↔
      ∃ n : Nat, offset = n ∧ n ≤ text.length ∧ p = .after (text.take n) := by
  constructor
  · intro h
    by_cases hout : offset < 0 ∨ text.length < offset
    · rw [positionAt_eq_error hout] at h
      contradiction
    · obtain ⟨n, rfl⟩ := Int.eq_ofNat_of_zero_le (show 0 ≤ offset by omega)
      have hn : n ≤ text.length := by omega
      rw [positionAt_ofText hn] at h
      exact ⟨n, rfl, hn, (Except.ok.inj h).symm⟩
  · rintro ⟨n, rfl, hn, rfl⟩
    exact positionAt_ofText hn

theorem exists_positionAt_iff {offset : Int} :
    (∃ p, (ofText text).positionAt offset = .ok p) ↔ 0 ≤ offset ∧ offset ≤ text.length := by
  constructor
  · rintro ⟨p, hp⟩
    obtain ⟨n, rfl, hn, -⟩ := positionAt_eq_ok_iff.mp hp
    omega
  · rintro ⟨hpos, hle⟩
    obtain ⟨n, rfl⟩ := Int.eq_ofNat_of_zero_le hpos
    exact ⟨_, positionAt_ofText (by omega)⟩

theorem positionAt_lt_iff_precedes {offset offset' : Int} {p p' : Position}
    (hp : (ofText text).positionAt offset = .ok p)
    (hp' : (ofText text).positionAt offset' = .ok p') : offset < offset' ↔ p.Precedes p' := by
  obtain ⟨m, rfl, hm, rfl⟩ := positionAt_eq_ok_iff.mp hp
  obtain ⟨n, rfl, hn, rfl⟩ := positionAt_eq_ok_iff.mp hp'
  rw [Position.after_take_precedes_iff hm hn]
  omega

theorem offsetAt_columnOutside {cursor : Cursor} {line : Text} (hpos : 0 ≤ cursor.line)
    (hline : (splitLines text)[cursor.line.toNat]? = some line)
    (h : cursor.column < 0 ∨ line.length < cursor.column) :
    (ofText text).offsetAt cursor = .error (.columnOutside cursor.column cursor.line) := by
  rw [offsetAt_of_line hpos hline, if_pos h]

theorem exists_after_of_standsIn {cursor : Cursor} (h : cursor.StandsIn text) :
    ∃ n, n ≤ text.length ∧ cursor = (Position.after (text.take n)).toCursor := by
  obtain ⟨hline, hcolumn, line, hget, hle⟩ := h
  have hcolumn' : cursor.column.toNat ≤ line.length := by omega
  obtain ⟨hn, hafter⟩ := after_take_lineStart hget hcolumn'
  refine ⟨_, hn, ?_⟩
  rw [hafter]
  obtain ⟨number, column⟩ := cursor
  simp only [Position.toCursor, Int.toNat_of_nonneg hline, Int.toNat_of_nonneg hcolumn]

theorem standsIn_of_offsetAt {cursor : Cursor} {n : Nat}
    (h : (ofText text).offsetAt cursor = .ok n) : cursor.StandsIn text := by
  by_cases hline : cursor.line < 0 ∨ (splitLines text).length ≤ cursor.line
  · rw [offsetAt_lineOutside hline] at h
    contradiction
  · have hlt : cursor.line.toNat < (splitLines text).length := by omega
    have hget := List.getElem?_eq_getElem hlt
    by_cases hcolumn : cursor.column < 0 ∨
        (splitLines text)[cursor.line.toNat].length < cursor.column
    · rw [offsetAt_columnOutside (by omega) hget hcolumn] at h
      contradiction
    · exact ⟨by omega, by omega, _, hget, by omega⟩

theorem exists_offsetAt_iff {cursor : Cursor} :
    (∃ n, (ofText text).offsetAt cursor = .ok n) ↔ cursor.StandsIn text := by
  constructor
  · rintro ⟨n, hn⟩
    exact standsIn_of_offsetAt hn
  · intro h
    obtain ⟨n, hn, rfl⟩ := exists_after_of_standsIn h
    exact ⟨n, offsetAt_after hn⟩

theorem offsetAt_eq_ok_iff_after {cursor : Cursor} {n : Nat} :
    (ofText text).offsetAt cursor = .ok n ↔
      n ≤ text.length ∧ cursor = (Position.after (text.take n)).toCursor := by
  constructor
  · intro h
    obtain ⟨m, hm, rfl⟩ := exists_after_of_standsIn (standsIn_of_offsetAt h)
    rw [offsetAt_after hm] at h
    obtain rfl := Except.ok.inj h
    exact ⟨hm, rfl⟩
  · rintro ⟨hn, rfl⟩
    exact offsetAt_after hn

/-- The offsets of a text and the places in it correspond to each other, in the same order:
each conversion succeeds exactly on what addresses the text and is undone by the other. What
does not address the text is refused with its reason. -/
theorem offsets_positions_isomorphic (text : Text) :
    (∀ offset : Int, (∃ p, (ofText text).positionAt offset = .ok p) ↔
      0 ≤ offset ∧ offset ≤ text.length) ∧
    (∀ (offset : Int) (p : Position), (ofText text).positionAt offset = .ok p →
      ∃ n : Nat, (n : Int) = offset ∧ (ofText text).offsetAt p.toCursor = .ok n) ∧
    (∀ cursor : Cursor, (∃ n, (ofText text).offsetAt cursor = .ok n) ↔
      cursor.StandsIn text) ∧
    (∀ (cursor : Cursor) (n : Nat), (ofText text).offsetAt cursor = .ok n →
      ∃ p, (ofText text).positionAt n = .ok p ∧ p.toCursor = cursor) ∧
    (∀ (offset offset' : Int) (p p' : Position), (ofText text).positionAt offset = .ok p →
      (ofText text).positionAt offset' = .ok p' → (offset < offset' ↔ p.Precedes p')) ∧
    (∀ offset : Int, offset < 0 ∨ text.length < offset →
      (ofText text).positionAt offset = .error (.offsetOutside offset text.length)) ∧
    (∀ cursor : Cursor, cursor.line < 0 ∨ (splitLines text).length ≤ cursor.line →
      (ofText text).offsetAt cursor = .error (.lineOutside cursor.line)) ∧
    (∀ (cursor : Cursor) (line : Text), 0 ≤ cursor.line →
      (splitLines text)[cursor.line.toNat]? = some line →
      cursor.column < 0 ∨ line.length < cursor.column →
      (ofText text).offsetAt cursor = .error (.columnOutside cursor.column cursor.line)) := by
  refine ⟨fun _ => exists_positionAt_iff, ?_, fun _ => exists_offsetAt_iff, ?_,
    fun _ _ _ _ => positionAt_lt_iff_precedes, fun _ => positionAt_eq_error,
    fun _ => offsetAt_lineOutside, fun _ _ => offsetAt_columnOutside⟩
  · intro offset p hp
    obtain ⟨n, rfl, hn, rfl⟩ := positionAt_eq_ok_iff.mp hp
    exact ⟨n, rfl, offsetAt_after hn⟩
  · intro cursor n h
    obtain ⟨hn, rfl⟩ := offsetAt_eq_ok_iff_after.mp h
    exact ⟨_, positionAt_ofText hn, rfl⟩

end LineIndex

end SurfaceLint
