import SurfaceLint.Diagnostic
import SurfaceLint.Proofs.BlankLines.Names
import SurfaceLint.Proofs.Brackets.Grammar
import SurfaceLint.Proofs.Finding

/-!
# Diagnostics of a text between blank lines

Blank lines above a text move every diagnostic down by their number, and blank lines below
it change nothing. Blank lines hold no bracket and need no semicolon; what is found by
offset lies on a line further down, in the same column.
-/

namespace SurfaceLint

/-! ## Moving down -/

def Position.moveDown (lines : Nat) (position : Position) : Position :=
  ⟨position.line + lines, position.column⟩

def Range.moveDown (lines : Nat) (range : Range) : Range :=
  ⟨range.start.moveDown lines, range.stop.moveDown lines⟩

def BracketMark.moveDown (lines : Nat) (mark : BracketMark) : BracketMark :=
  { mark with position := mark.position.moveDown lines }

def Finding.moveDown (lines : Nat) (finding : Finding) : Finding :=
  { finding with range := finding.range.moveDown lines }

def Diagnostic.moveDown (lines : Nat) (diagnostic : Diagnostic) : Diagnostic :=
  { diagnostic with range := diagnostic.range.moveDown lines }

theorem Diagnostic.moveDown_zero (diagnostic : Diagnostic) :
    diagnostic.moveDown 0 = diagnostic := rfl

theorem Position.advance_moveDown (lines : Nat) (position : Position) (c : Char) :
    (position.moveDown lines).advance c = (position.advance c).moveDown lines := by
  by_cases hc : c = '\n'
  · simp [advance, moveDown, hc, Nat.add_right_comm]
  · simp [advance, moveDown, hc]

/-! ## Lines -/

theorem splitLines_append_newline_cons (text rest : Text) :
    splitLines (text ++ '\n' :: rest) = splitLines text ++ splitLines rest := by
  induction text using line_induction with
  | last line hline =>
    rw [splitLines_append_cons hline, splitLines_of_notMem hline, List.singleton_append]
  | cons line others hline ih =>
    rw [List.append_assoc, List.cons_append, splitLines_append_cons hline, ih,
      splitLines_append_cons hline, List.cons_append]

theorem isBlankText_of_mem_splitLines {text line : Text} (h : IsBlankText text)
    (hline : line ∈ splitLines text) : IsBlankText line := by
  induction text using line_induction with
  | last only honly =>
    rw [splitLines_of_notMem honly, List.mem_singleton] at hline
    rwa [hline]
  | cons first rest hfirst ih =>
    rw [splitLines_append_cons hfirst, List.mem_cons] at hline
    rcases hline with rfl | hline
    · exact fun c hc => h c (by simp [hc])
    · exact ih (fun c hc => h c (by simp [hc])) hline

theorem isTerminated_of_isBlankText {line : Text} (h : IsBlankText line) :
    isTerminated line = true := by
  have hskip : skipBlanks line = [] := List.dropWhile_eq_nil_iff.mpr h
  simp [isTerminated, trim, hskip, trimRightWhere]

theorem BlankFrame.exists_splitLines_around (frame : BlankFrame) (text : Text) :
    ∃ above below, (∀ line ∈ above, IsBlankText line) ∧ (∀ line ∈ below, IsBlankText line) ∧
      above.length = frame.height ∧
      splitLines (frame.around text) = above ++ splitLines text ++ below := by
  have hbelow : ∃ below, (∀ line ∈ below, IsBlankText line) ∧
      ∀ lines, splitLines (lines ++ frame.below) = splitLines lines ++ below := by
    rcases frame.below_closed with hnil | ⟨blanks, hblanks⟩
    · exact ⟨[], by simp, by simp [hnil]⟩
    · have hblank : IsBlankText blanks := fun c hc => frame.below_blank c (by simp [hblanks, hc])
      refine ⟨splitLines blanks, fun line => isBlankText_of_mem_splitLines hblank, ?_⟩
      intro lines
      rw [hblanks, splitLines_append_newline_cons]
  obtain ⟨below, hbelow, hlines⟩ := hbelow
  rcases frame.above_closed with hnil | ⟨blanks, hblanks⟩
  · exact ⟨[], below, by simp, hbelow, by simp [height, hnil], by simp [around, hlines, hnil]⟩
  · have hblank : IsBlankText blanks := fun c hc => frame.above_blank c (by simp [hblanks, hc])
    refine ⟨splitLines blanks, below, fun line => isBlankText_of_mem_splitLines hblank, hbelow,
      ?_, ?_⟩
    · rw [length_splitLines, height, hblanks, List.count_append, List.count_singleton_self]
    · rw [around, hlines, hblanks, List.append_assoc, List.singleton_append,
        splitLines_append_newline_cons]

/-! ## Places -/

theorem BlankFrame.after_above (frame : BlankFrame) :
    Position.after frame.above = Position.origin.moveDown frame.height := by
  rcases frame.above_closed with hnil | ⟨lines, hlines⟩
  · simp [height, hnil, Position.moveDown, Position.origin]
  · rw [height, hlines, Position.after_concat, Position.advance, if_pos rfl, Position.line_after,
      List.count_append, List.count_singleton_self, Position.moveDown, Position.origin,
      Nat.zero_add]

theorem BlankFrame.after_above_append (frame : BlankFrame) (text : Text) :
    Position.after (frame.above ++ text) = (Position.after text).moveDown frame.height := by
  rw [Position.after_append, after_above]
  simp [Position.append, Position.moveDown, Position.origin, Nat.add_comm]

theorem BlankFrame.between_around (frame : BlankFrame) {text : Text} {start stop : Nat}
    (hstart : start ≤ text.length) (hstop : stop ≤ text.length) :
    Range.between (frame.around text) (frame.width + start) (frame.width + stop) =
      (Range.between text start stop).moveDown frame.height := by
  have htake : ∀ offset ≤ text.length,
      (frame.around text).take (frame.width + offset) = frame.above ++ text.take offset := by
    intro offset hle
    rw [around, width, List.append_assoc, List.take_length_add_append,
      List.take_append_of_le_length hle]
  rw [Range.between, htake start hstart, htake stop hstop, after_above_append, after_above_append]
  rfl

/-! ## Brackets -/

theorem BracketMark.isBlank_char (mark : BracketMark) : isBlank mark.char = false := by
  obtain ⟨side, bracket, position⟩ := mark
  cases side <;> cases bracket <;> rfl

theorem bracketMark?_of_isBlank {c : Char} (h : isBlank c = true) (position : Position) :
    bracketMark? c position = none := by
  rw [Option.eq_none_iff_forall_ne_some]
  intro mark hmark
  have hchar := mark.isBlank_char
  rw [(bracketMark?_eq_some_iff.mp hmark).1, h] at hchar
  contradiction

theorem bracketMarksFrom_of_isBlankText {text : Text} (h : IsBlankText text)
    (position : Position) : bracketMarksFrom position text = [] := by
  induction text generalizing position with
  | nil => rfl
  | cons c text ih =>
    have hrest := ih fun d hd => h d (by simp [hd])
    rw [bracketMarksFrom, bracketMark?_of_isBlank (h c (by simp)), hrest]
    rfl

theorem bracketMarksFrom_moveDown (lines : Nat) (position : Position) (text : Text) :
    bracketMarksFrom (position.moveDown lines) text =
      (bracketMarksFrom position text).map (·.moveDown lines) :=
  bracketMarksFrom_move (Position.advance_moveDown lines) position text

theorem bracketMarks_around (frame : BlankFrame) (text : Text) :
    bracketMarks (frame.around text) = (bracketMarks text).map (·.moveDown frame.height) := by
  have habove : frame.above.foldl Position.advance .origin =
      Position.origin.moveDown frame.height := frame.after_above
  rw [bracketMarks, BlankFrame.around, bracketMarksFrom_append, bracketMarksFrom_append,
    bracketMarksFrom_of_isBlankText frame.above_blank,
    bracketMarksFrom_of_isBlankText frame.below_blank, habove, bracketMarksFrom_moveDown]
  simp [bracketMarks]

/-- Where a bracket stands does not matter for its partner. -/
theorem unmatchedFrom_moveDown (lines : Nat) (open_ marks : List BracketMark) :
    unmatchedFrom (open_.map (·.moveDown lines)) (marks.map (·.moveDown lines)) =
      (unmatchedFrom open_ marks).map (·.moveDown lines) := by
  have hmoved : ∀ marks : List BracketMark, List.Forall₂
      (fun mark moved => mark.moveDown lines = moved) marks (marks.map (·.moveDown lines)) := by
    intro marks
    rw [← List.forall₂_map_left_iff, List.forall₂_eq_eq_eq]
  have hchar : ∀ mark moved : BracketMark, mark.moveDown lines = moved →
      moved.char = mark.char := by
    rintro mark _ rfl
    rfl
  have hscan := unmatchedFrom_forall₂ hchar (hmoved open_) (hmoved marks)
  rw [← List.forall₂_map_left_iff, List.forall₂_eq_eq_eq] at hscan
  exact hscan.symm

/-! ## Findings -/

section Around

variable (frame : BlankFrame) (text : Text)

theorem bracketFindings_around :
    bracketFindings (frame.around text) =
      (bracketFindings text).map (·.moveDown frame.height) := by
  obtain ⟨above, below, -, -, hheight, hlines⟩ := frame.exists_splitLines_around text
  have hmarks : unmatchedBrackets (frame.around text) =
      (unmatchedBrackets text).map (·.moveDown frame.height) := by
    rw [unmatchedBrackets, bracketMarks_around]
    exact unmatchedFrom_moveDown frame.height [] (bracketMarks text)
  rw [bracketFindings, hmarks, bracketFindings, List.map_map, List.map_map]
  apply List.map_congr_left
  intro mark hmark
  obtain ⟨line, hget, -⟩ := exists_line_of_mem_unmatchedBrackets hmark
  have hlt := (List.getElem?_eq_some_iff.mp hget).1
  have hmoved : (splitLines (frame.around text))[mark.position.line + frame.height]? =
      some line := by
    rw [hlines, List.append_assoc, List.getElem?_append_right (by omega), hheight,
      Nat.add_sub_cancel, List.getElem?_append_left hlt, hget]
  simp only [Function.comp_apply, BracketMark.moveDown, Position.moveDown, hmoved, hget]
  rfl

theorem filter_zipIdx_of_isBlankText {lines : List Text} (h : ∀ line ∈ lines, IsBlankText line)
    (first : Nat) : ((lines.zipIdx first).filter fun entry => !isTerminated entry.1) = [] := by
  rw [List.filter_eq_nil_iff]
  intro entry hentry
  have hline := h entry.1 (List.fst_mem_of_mem_zipIdx hentry)
  simp [isTerminated_of_isBlankText hline]

theorem semicolonFindings_around :
    semicolonFindings (frame.around text) =
      (semicolonFindings text).map (·.moveDown frame.height) := by
  obtain ⟨above, below, habove, hbelow, hheight, hlines⟩ := frame.exists_splitLines_around text
  have hnumbers : (splitLines text).zipIdx (0 + frame.height) =
      (splitLines text).zipIdx.map (Prod.map id (· + frame.height)) := by
    rw [List.map_snd_add_zipIdx_eq_zipIdx, Nat.zero_add, Nat.add_zero]
  simp only [semicolonFindings, numberedLines, hlines, List.zipIdx_append, List.filter_append,
    filter_zipIdx_of_isBlankText habove, filter_zipIdx_of_isBlankText hbelow, List.nil_append,
    List.append_nil, hheight, hnumbers, List.filter_map, List.map_map]
  rfl

theorem undeclaredReferences_around (profile : Profile) :
    undeclaredReferences profile (frame.around text) =
      (undeclaredReferences profile text).map (·.shift frame.width) := by
  simp only [undeclaredReferences, Profile.references_around, Profile.declared_around,
    List.filter_map, Function.comp_def, Reference.shift]

theorem undefinedFindings_around (profile : Profile) :
    undefinedFindings profile (frame.around text) =
      (undefinedFindings profile text).map (·.moveDown frame.height) := by
  simp only [undefinedFindings, undeclaredReferences_around, List.map_map]
  apply List.map_congr_left
  intro reference hreference
  obtain ⟨hstart, hstop⟩ := (stands_of_mem_undeclaredReferences hreference).bounds
  have hrange := frame.between_around hstart hstop
  simp only [Function.comp_apply, Reference.finding, Reference.shift, Finding.moveDown, ← hrange]
  simp only [Reference.stop, Nat.add_assoc]

theorem unusedFindings_around :
    unusedFindings (frame.around text) =
      (unusedFindings text).map (·.moveDown frame.height) := by
  simp only [unusedFindings, unusedFunctions_around, List.map_map]
  apply List.map_congr_left
  intro declaration hdeclaration
  obtain ⟨hstart, hstop⟩ :=
    FunctionDeclaration.bounds (mem_functionDeclarations_of_unused hdeclaration)
  simp only [Function.comp_apply, FunctionDeclaration.finding, FunctionDeclaration.shift,
    Finding.moveDown, frame.between_around hstart hstop]

theorem familyFindings_around (profile : Profile) (family : CheckFamily) :
    familyFindings profile (frame.around text) family =
      (familyFindings profile text family).map (·.moveDown frame.height) := by
  cases family with
  | brackets => exact bracketFindings_around frame text
  | semicolons => exact semicolonFindings_around frame text
  | undefinedReferences => exact undefinedFindings_around frame text profile
  | unusedFunctions => exact unusedFindings_around frame text

theorem diagnose_around (dialect : Dialect) (language : Language) (selection : RuleSelection) :
    diagnose dialect (frame.around text) language selection =
      (diagnose dialect text language selection).map (·.moveDown frame.height) := by
  have hfindings : (collectFindings standardChecks dialect.profile (frame.around text)).value =
      (collectFindings standardChecks dialect.profile text).value.map
        (·.moveDown frame.height) := by
    rw [value_collectFindings, value_collectFindings, List.map_flatMap]
    congr 1
    funext family
    exact familyFindings_around frame text dialect.profile family
  simp only [diagnose, diagnoseWith, diagnoseLogged, hfindings, List.filter_map, List.map_map,
    Function.comp_def]
  rfl

end Around

/-- Blank lines above a text move its diagnostics down by their number, and blank lines below
it change none. -/
theorem diagnose_blank_lines_move_down (dialect : Dialect) (text : Text) (language : Language)
    (selection : RuleSelection) :
    (∀ blanks, IsBlankText blanks → blanks.getLast? = some '\n' →
      diagnose dialect (blanks ++ text) language selection =
        (diagnose dialect text language selection).map (·.moveDown (blanks.count '\n'))) ∧
    ∀ blanks, IsBlankText blanks →
      diagnose dialect (text ++ '\n' :: blanks) language selection =
        diagnose dialect text language selection := by
  constructor
  · intro blanks hblanks hlast
    have hmoved := diagnose_around (.ofAbove hblanks hlast) text dialect language selection
    rwa [BlankFrame.around_ofAbove] at hmoved
  · intro blanks hblanks
    have hkept := diagnose_around (.ofBelow hblanks) text dialect language selection
    rwa [BlankFrame.around_ofBelow, List.map_congr_left fun d _ => d.moveDown_zero, List.map_id']
      at hkept

/-- A text that breaks off in a declaration. -/
theorem diagnose_blank_lines_move_down_broken_off :
    let text := "function f(x) \x7b\n  console.log(y, x)\n  let".toList
    let above := " \t\n\n".toList
    let below := "  \n\r".toList
    (diagnose .typescript text .english .everything).length = 3 ∧
      diagnose .typescript (above ++ text) .english .everything =
        (diagnose .typescript text .english .everything).map (·.moveDown 2) ∧
      diagnose .typescript (text ++ '\n' :: below) .english .everything =
        diagnose .typescript text .english .everything := by
  intro text above below
  have h := diagnose_blank_lines_move_down .typescript text .english .everything
  exact ⟨by decide +kernel, h.1 above (by decide) (by decide), h.2 below (by decide)⟩

end SurfaceLint
