import SurfaceLint.CommandLine.Files
import SurfaceLint.Diagnostic
import SurfaceLint.Proofs.Finding
import SurfaceLint.Proofs.LineEnding.Names

/-!
# Diagnostics of a text with longer line ends

A text with a carriage return at each line end has the diagnostics of the text without them,
one for one and at the same starts. Ranges of names and of function heads do not change. A
range that covers a whole line covers its carriage return as well, and so ends one column
later, except on the last line, which has none.
-/

namespace SurfaceLint

/-! ## Lines -/

/-- What the longer text has in the place of a line: only the last one has no line end. -/
def lengthenLine (text : Text) (number : Nat) (line : Text) : Text :=
  if number + 1 = (splitLines text).length then line else line ++ ['\r']

theorem getElem?_splitLines_crlf (text : Text) (number : Nat) :
    (splitLines (crlf text))[number]? =
      (splitLines text)[number]?.map (lengthenLine text number) := by
  induction text using line_induction generalizing number with
  | last line hline =>
    rw [crlf_of_notMem hline, splitLines_of_notMem hline]
    cases number with
    | zero => simp [lengthenLine, splitLines_of_notMem hline]
    | succ number => rfl
  | cons line rest hline ih =>
    have hlong : '\n' ∉ line ++ ['\r'] := by simp [hline]
    rw [crlf_line_cons hline, splitLines_append_cons hlong, splitLines_append_cons hline]
    cases number with
    | zero =>
      have hpos : 0 < (splitLines rest).length := List.length_pos_iff.mpr (List.splitOn_ne_nil _ _)
      have hne : ¬ 0 + 1 = (splitLines (line ++ '\n' :: rest)).length := by
        rw [splitLines_append_cons hline, List.length_cons]
        omega
      simp [lengthenLine, if_neg hne]
    | succ number =>
      have hlater : lengthenLine (line ++ '\n' :: rest) (number + 1) =
          lengthenLine rest number := by
        funext other
        simp [lengthenLine, splitLines_append_cons hline]
      rw [List.getElem?_cons_succ, List.getElem?_cons_succ, ih, hlater]

theorem numberedLines_crlf (text : Text) :
    numberedLines (crlf text) =
      (numberedLines text).map fun (line, number) => (lengthenLine text number line, number) := by
  apply List.ext_getElem?
  intro number
  simp [numberedLines, List.getElem?_zipIdx, getElem?_splitLines_crlf, Function.comp_def]

theorem isTerminated_lengthenLine (text : Text) (number : Nat) (line : Text) :
    isTerminated (lengthenLine text number line) = isTerminated line := by
  unfold lengthenLine
  split
  · rfl
  · have hblank : IsBlankText ['\r'] := List.forall_mem_singleton.mpr rfl
    simp only [isTerminated, trim_append_blanks hblank]

/-! ## Findings -/

/-- The range of a whole line, with its line end if there is one. -/
def Range.lengthen (text : Text) (range : Range) : Range :=
  ⟨range.start, range.stop.line,
    if range.stop.line + 1 = (splitLines text).length then range.stop.column
    else range.stop.column + 1⟩

theorem Range.ofLine_lengthenLine (text : Text) (number : Nat) (line : Text) :
    Range.ofLine number (lengthenLine text number line) =
      (Range.ofLine number line).lengthen text := by
  unfold lengthenLine Range.lengthen Range.ofLine
  by_cases hlast : number + 1 = (splitLines text).length
  · simp [hlast]
  · simp [hlast]

/-- The finding in the longer text. -/
def Finding.lengthen (text : Text) (finding : Finding) : Finding :=
  match finding.issue with
  | .incompleteBlock | .missingSemicolon => ⟨finding.issue, finding.range.lengthen text⟩
  | .undefinedVariable _ | .unusedFunction _ => finding

theorem bracketMarksFrom_crlf (position : Position) (text : Text) :
    bracketMarksFrom position (crlf text) = bracketMarksFrom position text := by
  induction text generalizing position with
  | nil => rfl
  | cons c rest ih =>
    by_cases hc : c = '\n'
    · subst hc
      have hreturn : bracketMark? '\r' position = none := rfl
      have hnewline : ∀ place, bracketMark? '\n' place = none := fun _ => rfl
      simp only [crlf_newline_cons, bracketMarksFrom, hreturn, hnewline, ih,
        Position.advance_carriageReturn_newline]
      rfl
    · simp only [crlf_cons hc, bracketMarksFrom, ih]

theorem unmatchedBrackets_crlf (text : Text) :
    unmatchedBrackets (crlf text) = unmatchedBrackets text := by
  rw [unmatchedBrackets, bracketMarks, bracketMarksFrom_crlf]
  rfl

theorem bracketFindings_crlf (text : Text) :
    bracketFindings (crlf text) = (bracketFindings text).map (·.lengthen text) := by
  simp only [bracketFindings, unmatchedBrackets_crlf, List.map_map]
  apply List.map_congr_left
  intro mark hmark
  obtain ⟨line, hget, -⟩ := exists_line_of_mem_unmatchedBrackets hmark
  simp [getElem?_splitLines_crlf, hget, Finding.lengthen, Range.ofLine_lengthenLine]

theorem semicolonFindings_crlf (text : Text) :
    semicolonFindings (crlf text) = (semicolonFindings text).map (·.lengthen text) := by
  simp only [semicolonFindings, numberedLines_crlf, List.filter_map, List.map_map,
    Function.comp_def, isTerminated_lengthenLine, Range.ofLine_lengthenLine, Finding.lengthen]

theorem Range.between_crlf (text : Text) (start stop : Nat) :
    Range.between (crlf text) (crlfOffset text start) (crlfOffset text stop) =
      Range.between text start stop := by
  simp only [Range.between, take_crlfOffset, Position.after_crlf]

theorem undeclaredReferences_crlf (profile : Profile) (text : Text) :
    undeclaredReferences profile (crlf text) =
      (undeclaredReferences profile text).map (·.lengthen text) := by
  rw [undeclaredReferences, Profile.references_crlf, List.filter_map, undeclaredReferences]
  congr 1
  apply List.filter_congr
  intro reference hreference
  -- the declared names differ, but not on identifiers
  have hidentifier := (Profile.stands_of_mem_references hreference).isIdentifier
  have hmem := profile.mem_declared_crlf_iff text hidentifier
  have hcontains : (profile.declared (crlf text)).contains reference.name =
      (profile.declared text).contains reference.name := by
    rw [Bool.eq_iff_iff, List.contains_iff_mem, List.contains_iff_mem, hmem]
  simp only [Function.comp_apply, Reference.lengthen, hcontains]

theorem undefinedFindings_crlf (profile : Profile) (text : Text) :
    undefinedFindings profile (crlf text) =
      (undefinedFindings profile text).map (·.lengthen text) := by
  simp only [undefinedFindings, undeclaredReferences_crlf, List.map_map]
  apply List.map_congr_left
  intro reference hreference
  have hstop := (stands_of_mem_undeclaredReferences hreference).stop_lengthen
  simp only [Function.comp_apply, Reference.finding, Finding.lengthen, hstop]
  rw [Reference.lengthen, Range.between_crlf]

theorem unusedFindings_crlf (text : Text) :
    unusedFindings (crlf text) = (unusedFindings text).map (·.lengthen text) := by
  simp only [unusedFindings, unusedFunctions_crlf, List.map_map, Function.comp_def,
    FunctionDeclaration.finding, FunctionDeclaration.lengthen, Finding.lengthen,
    Range.between_crlf]

theorem familyFindings_crlf (profile : Profile) (text : Text) (family : CheckFamily) :
    familyFindings profile (crlf text) family =
      (familyFindings profile text family).map (·.lengthen text) := by
  cases family with
  | brackets => exact bracketFindings_crlf text
  | semicolons => exact semicolonFindings_crlf text
  | undefinedReferences => exact undefinedFindings_crlf profile text
  | unusedFunctions => exact unusedFindings_crlf text

theorem collectFindings_crlf (profile : Profile) (text : Text) :
    (collectFindings standardChecks profile (crlf text)).value =
      (collectFindings standardChecks profile text).value.map (·.lengthen text) := by
  rw [value_collectFindings, value_collectFindings, List.map_flatMap]
  congr 1
  funext family
  exact familyFindings_crlf profile text family

/-! ## Diagnostics -/

/-- A diagnostic of the longer text says what a diagnostic of the text says, from the same
place on, and differs from it at most in the line end that it covers. -/
structure Diagnostic.Matches (text : Text) (long short : Diagnostic) : Prop where
  rule : long.rule = short.rule
  severity : long.severity = short.severity
  name : long.name = short.name
  message : long.message = short.message
  start : long.range.start = short.range.start
  stop_of_name : short.rule = .undefinedVariable ∨ short.rule = .unusedFunction →
    long.range.stop = short.range.stop
  stop_of_line : short.rule = .incompleteBlock ∨ short.rule = .missingSemicolon →
    long.range.stop.line = short.range.stop.line ∧
      long.range.stop.column =
        if short.range.stop.line + 1 = (splitLines text).length then short.range.stop.column
        else short.range.stop.column + 1

theorem Finding.word_lengthen_matches (text : Text) (finding : Finding) (language : Language) :
    ((finding.lengthen text).word language).Matches text (finding.word language) := by
  obtain ⟨issue, range⟩ := finding
  cases issue with
  | incompleteBlock => exact ⟨rfl, rfl, rfl, rfl, rfl, nofun, fun _ => ⟨rfl, rfl⟩⟩
  | missingSemicolon => exact ⟨rfl, rfl, rfl, rfl, rfl, nofun, fun _ => ⟨rfl, rfl⟩⟩
  | undefinedVariable name => exact ⟨rfl, rfl, rfl, rfl, rfl, fun _ => rfl, nofun⟩
  | unusedFunction name => exact ⟨rfl, rfl, rfl, rfl, rfl, fun _ => rfl, nofun⟩

theorem Finding.rule_lengthen (text : Text) (finding : Finding) :
    (finding.lengthen text).issue.rule = finding.issue.rule :=
  (finding.word_lengthen_matches text .english).rule

theorem normalizeNewlines_crlf {text : Text} (h : '\r' ∉ text) :
    normalizeNewlines (crlf text) = text := by
  induction text with
  | nil => rfl
  | cons c rest ih =>
    simp only [List.mem_cons, not_or] at h
    by_cases hc : c = '\n'
    · subst hc
      rw [crlf_newline_cons, normalizeNewlines, ih h.2]
    · have hreturn : c ≠ '\r' := Ne.symm h.1
      rw [crlf_cons hc, normalizeNewlines, ih h.2]
      · exact fun _ heq _ => hreturn heq
      · exact hreturn

/-- Longer line ends change no diagnostic but for the line ends that it covers, whether the
carriage returns are kept or dropped when the text is read. -/
theorem diagnose_crlf_matches (dialect : Dialect) (text : Text) (language : Language)
    (selection : RuleSelection) :
    List.Forall₂ (Diagnostic.Matches text) (diagnose dialect (crlf text) language selection)
        (diagnose dialect text language selection) ∧
      ('\r' ∉ text → normalizeNewlines (crlf text) = text) := by
  refine ⟨?_, normalizeNewlines_crlf⟩
  simp only [diagnose, diagnoseWith, diagnoseLogged, collectFindings_crlf, List.filter_map,
    List.map_map, Function.comp_def, Finding.rule_lengthen, List.forall₂_map_left_iff,
    List.forall₂_map_right_iff, List.forall₂_same]
  intro finding _
  exact finding.word_lengthen_matches text language

end SurfaceLint
