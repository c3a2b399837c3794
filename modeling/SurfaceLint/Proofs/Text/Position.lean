import SurfaceLint.Text.LineIndex

/-!
# Places and lines

The place reached by reading a text is computed character by character with
`Position.advance`. It lies on one of the lines that the text is cut into, as far behind the
start of the line as its column says. The proofs go line by line: a text is a line without
newline, or such a line, a newline and a shorter text.
-/

namespace SurfaceLint

/-- Texts are built from the last line backwards. -/
@[elab_as_elim]
theorem line_induction {motive : Text → Prop}
    (last : ∀ line, '\n' ∉ line → motive line)
    (cons : ∀ line rest, '\n' ∉ line → motive rest → motive (line ++ '\n' :: rest))
    (text : Text) : motive text := by
  suffices h : ∀ text line : Text, '\n' ∉ line → motive (line ++ text) from h text [] (by simp)
  intro text
  -- `line` collects what was read since the last newline
  induction text with
  | nil => intro line hline; simpa using last line hline
  | cons c rest ih =>
    intro line hline
    by_cases hc : c = '\n'
    · subst hc
      exact cons line rest hline (ih [] (by simp))
    · have hread := ih (line ++ [c]) (by simp [hline, Ne.symm hc])
      simpa using hread

theorem splitLines_of_notMem {line : Text} (h : '\n' ∉ line) : splitLines line = [line] :=
  List.splitOn_eq_singleton h

theorem splitLines_append_cons {line : Text} (h : '\n' ∉ line) (rest : Text) :
    splitLines (line ++ '\n' :: rest) = line :: splitLines rest :=
  List.splitOn_append_cons_self_of_not_mem h rest

theorem length_splitLines (text : Text) : (splitLines text).length = text.count '\n' + 1 := by
  induction text using line_induction with
  | last line hline => rw [splitLines_of_notMem hline, List.count_eq_zero.mpr hline]; rfl
  | cons line rest hline ih =>
    rw [splitLines_append_cons hline, List.length_cons, ih, List.count_append,
      List.count_eq_zero.mpr hline, List.count_cons_self, Nat.zero_add]

theorem takeWhile_ne_append {mark : Char} {text : Text} (h : mark ∉ text) (rest : Text) :
    (text ++ rest).takeWhile (· ≠ mark) = text ++ rest.takeWhile (· ≠ mark) := by
  apply List.takeWhile_append_of_pos
  intro c hc
  simpa using ne_of_mem_of_not_mem hc h

namespace Position

/-- The place behind a text that starts at the origin. -/
def after (text : Text) : Position :=
  text.foldl advance origin

/-- Places that follow each other: the columns add up as long as the second stays on its
first line. -/
def append (p q : Position) : Position :=
  ⟨p.line + q.line, if q.line = 0 then p.column + q.column else q.column⟩

@[simp] theorem toCursor_line (p : Position) : p.toCursor.line = p.line := rfl

@[simp] theorem toCursor_column (p : Position) : p.toCursor.column = p.column := rfl

@[simp] theorem after_nil : after [] = origin := rfl

theorem after_concat (text : Text) (c : Char) : after (text ++ [c]) = (after text).advance c := by
  simp [after]

@[simp] theorem append_origin (p : Position) : p.append origin = p := by
  simp [append, origin]

theorem append_advance (p q : Position) (c : Char) :
    p.append (q.advance c) = (p.append q).advance c := by
  by_cases hc : c = '\n'
  · simp [append, advance, hc, Nat.add_assoc]
  · by_cases hq : q.line = 0 <;> simp [append, advance, hc, hq, Nat.add_assoc]

theorem append_foldl_advance (p q : Position) (text : Text) :
    p.append (text.foldl advance q) = text.foldl advance (p.append q) := by
  induction text generalizing q with
  | nil => rfl
  | cons c rest ih => simp only [List.foldl_cons, ih, append_advance]

theorem after_append (a b : Text) : after (a ++ b) = (after a).append (after b) := by
  simp [after, append_foldl_advance]

theorem after_of_notMem {line : Text} (h : '\n' ∉ line) : after line = ⟨0, line.length⟩ := by
  suffices hread : ∀ column, line.foldl advance ⟨0, column⟩ = ⟨0, column + line.length⟩ by
    simpa [after, origin] using hread 0
  induction line with
  | nil => simp
  | cons c rest ih =>
    intro column
    simp only [List.mem_cons, not_or] at h
    simp only [List.foldl_cons, advance, if_neg (Ne.symm h.1), ih h.2, List.length_cons]
    congr 1
    omega

theorem after_line_cons {line : Text} (h : '\n' ∉ line) (rest : Text) :
    after (line ++ '\n' :: rest) = ⟨(after rest).line + 1, (after rest).column⟩ := by
  have hline : (after line).append (advance origin '\n') = ⟨1, 0⟩ := by
    simp [after_of_notMem h, append, advance, origin]
  have hsplit : line ++ '\n' :: rest = line ++ ['\n'] ++ rest := by simp
  rw [hsplit, after_append, after_append]
  change ((after line).append (advance origin '\n')).append (after rest) = _
  rw [hline]
  by_cases hr : (after rest).line = 0 <;> simp [append, hr, Nat.add_comm]

theorem line_after (text : Text) : (after text).line = text.count '\n' := by
  induction text using line_induction with
  | last line hline => rw [after_of_notMem hline, List.count_eq_zero.mpr hline]
  | cons line rest hline ih =>
    rw [after_line_cons hline, ih, List.count_append, List.count_eq_zero.mpr hline,
      List.count_cons_self, Nat.zero_add]

theorem after_append_of_notMem (before : Text) {word : Text} (h : '\n' ∉ word) :
    after (before ++ word) =
      ⟨(after before).line, (after before).column + word.length⟩ := by
  simp [after_append, after_of_notMem h, append]

end Position

theorem take_line_cons (line rest : Text) (offset : Nat) :
    (offset ≤ line.length ∧ (line ++ '\n' :: rest).take offset = line.take offset) ∨
      ∃ further, offset = line.length + 1 + further ∧
        (line ++ '\n' :: rest).take offset = line ++ '\n' :: rest.take further := by
  rcases Nat.lt_or_ge line.length offset with h | h
  · obtain ⟨further, rfl⟩ := Nat.exists_eq_add_of_lt h
    refine .inr ⟨further, by omega, ?_⟩
    have ho : line.length + further + 1 = line.length + (further + 1) := by omega
    rw [ho, List.take_length_add_append, List.take_succ_cons]
  · exact .inl ⟨h, List.take_append_of_le_length h⟩

theorem drop_line_cons (line rest : Text) (further : Nat) :
    (line ++ '\n' :: rest).drop (line.length + 1 + further) = rest.drop further := by
  rw [Nat.add_assoc, List.drop_length_add_append, Nat.add_comm 1, List.drop_succ_cons]

/-- The offset at which a line starts: each line above takes its length and a newline. -/
def lineStart : List Text → Nat → Nat
  | line :: below, number + 1 => line.length + 1 + lineStart below number
  | _, _ => 0

theorem lineStart_zero (lines : List Text) : lineStart lines 0 = 0 := by
  cases lines <;> rfl

theorem lineStart_succ {lines : List Text} {line : Text} {number : Nat}
    (h : lines[number]? = some line) :
    lineStart lines (number + 1) = lineStart lines number + line.length + 1 := by
  induction lines generalizing number with
  | nil => simp at h
  | cons first below ih =>
    cases number with
    | zero =>
      obtain rfl : first = line := by simpa using h
      simp only [lineStart, lineStart_zero]
      omega
    | succ number =>
      have hbelow := ih (by simpa using h)
      simp only [lineStart] at hbelow ⊢
      omega

/-- From any place on, a line goes on with the text up to the next newline. -/
theorem line_at_after {text : Text} {offset : Nat} (h : offset ≤ text.length) :
    ∃ line, (splitLines text)[(Position.after (text.take offset)).line]? = some line ∧
      (Position.after (text.take offset)).column ≤ line.length ∧
      line.drop (Position.after (text.take offset)).column =
        (text.drop offset).takeWhile (· ≠ '\n') ∧
      lineStart (splitLines text) (Position.after (text.take offset)).line +
        (Position.after (text.take offset)).column = offset := by
  induction text using line_induction generalizing offset with
  | last line hline =>
    have htake : '\n' ∉ line.take offset := fun hm => hline (List.mem_of_mem_take hm)
    have hdrop : (line.drop offset).takeWhile (· ≠ '\n') = line.drop offset := by
      simpa using takeWhile_ne_append (fun hm => hline (List.mem_of_mem_drop hm)) []
    refine ⟨line, ?_⟩
    rw [Position.after_of_notMem htake, splitLines_of_notMem hline, hdrop,
      List.length_take_of_le h]
    simp [h, lineStart]
  | cons line rest hline ih =>
    rw [splitLines_append_cons hline]
    rcases take_line_cons line rest offset with ⟨hle, htake⟩ | ⟨further, rfl, htake⟩
    · have hmem : '\n' ∉ line.take offset := fun hm => hline (List.mem_of_mem_take hm)
      have hdrop : '\n' ∉ line.drop offset := fun hm => hline (List.mem_of_mem_drop hm)
      refine ⟨line, ?_⟩
      rw [htake, Position.after_of_notMem hmem, List.drop_append_of_le_length hle,
        takeWhile_ne_append hdrop, List.length_take_of_le hle]
      simp [hle, lineStart]
    · have hfurther : further ≤ rest.length := by
        simp only [List.length_append, List.length_cons] at h
        omega
      obtain ⟨next, hget, hcolumn, hdrop, hstart⟩ := ih hfurther
      refine ⟨next, ?_⟩
      rw [htake, Position.after_line_cons hline, drop_line_cons]
      refine ⟨hget, hcolumn, hdrop, ?_⟩
      simp only [lineStart]
      omega

theorem lineStart_add_length_of_last {text line : Text} {number : Nat}
    (h : (splitLines text)[number]? = some line) (hlast : (splitLines text).length ≤ number + 1) :
    lineStart (splitLines text) number + line.length = text.length := by
  induction text using line_induction generalizing number with
  | last only honly =>
    rw [splitLines_of_notMem honly] at h ⊢
    obtain ⟨rfl, rfl⟩ : number = 0 ∧ only = line := by
      cases number <;> simp_all
    simp [lineStart]
  | cons first rest hfirst ih =>
    rw [splitLines_append_cons hfirst] at h hlast ⊢
    have hpos : 0 < (splitLines rest).length := by rw [length_splitLines]; omega
    rw [List.length_cons] at hlast
    cases number with
    | zero => omega
    | succ number =>
      have hrest := ih (by simpa using h) (by omega)
      simp only [lineStart, List.length_append, List.length_cons]
      omega

theorem extract_line {text line : Text} {number : Nat}
    (h : (splitLines text)[number]? = some line) :
    text.extract (lineStart (splitLines text) number)
      (lineStart (splitLines text) number + line.length) = line := by
  rw [List.extract_eq_take_drop, Nat.add_sub_cancel_left]
  induction text using line_induction generalizing number with
  | last only honly =>
    rw [splitLines_of_notMem honly] at h ⊢
    obtain ⟨rfl, rfl⟩ : number = 0 ∧ only = line := by
      cases number <;> simp_all
    simp [lineStart]
  | cons first rest hfirst ih =>
    rw [splitLines_append_cons hfirst] at h ⊢
    cases number with
    | zero =>
      obtain rfl : first = line := by simpa using h
      simp [lineStart]
    | succ number =>
      rw [lineStart, drop_line_cons]
      exact ih (by simpa using h)

/-- Reading the lines above and then some characters of a line leads to that column of it. -/
theorem after_take_lineStart {text line : Text} {number column : Nat}
    (h : (splitLines text)[number]? = some line) (hc : column ≤ line.length) :
    lineStart (splitLines text) number + column ≤ text.length ∧
      Position.after (text.take (lineStart (splitLines text) number + column)) =
        ⟨number, column⟩ := by
  induction text using line_induction generalizing number with
  | last only honly =>
    rw [splitLines_of_notMem honly] at h ⊢
    obtain ⟨rfl, rfl⟩ : number = 0 ∧ only = line := by
      cases number <;> simp_all
    have htake : '\n' ∉ only.take column := fun hm => honly (List.mem_of_mem_take hm)
    simp only [lineStart, Nat.zero_add]
    rw [Position.after_of_notMem htake, List.length_take_of_le hc]
    exact ⟨hc, rfl⟩
  | cons first rest hfirst ih =>
    rw [splitLines_append_cons hfirst] at h ⊢
    cases number with
    | zero =>
      obtain rfl : first = line := by simpa using h
      have htake : '\n' ∉ first.take column := fun hm => hfirst (List.mem_of_mem_take hm)
      simp only [lineStart, Nat.zero_add]
      rw [List.take_append_of_le_length hc, Position.after_of_notMem htake,
        List.length_take_of_le hc, List.length_append]
      exact ⟨by omega, rfl⟩
    | succ number =>
      obtain ⟨hle, hafter⟩ := ih (by simpa using h)
      rw [lineStart, Nat.add_assoc (first.length + 1), Nat.add_assoc first.length, Nat.add_comm 1,
        List.take_length_add_append, List.take_succ_cons, Position.after_line_cons hfirst, hafter]
      simp only [List.length_append, List.length_cons, and_true]
      omega

end SurfaceLint
