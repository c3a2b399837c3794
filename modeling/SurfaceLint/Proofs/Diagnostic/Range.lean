import SurfaceLint.CommandLine.Report
import SurfaceLint.Proofs.Finding

/-!
# Ranges of diagnostics

Both ends of the range of a diagnostic are places of its text, the end behind the start, and
the text between them is what the diagnostic is about: the name that is not defined, the
head of the function that is not called, or a whole line. A report for people therefore
always finds the line to show and marks no more and no less than the range covers of it.
-/

namespace SurfaceLint

/-- A range has its ends in a text and a word, not empty, between them. -/
def Range.Covers (text : Text) (range : Range) (word : Text) : Prop :=
  ∃ start stop, (LineIndex.ofText text).offsetAt range.start.toCursor = .ok start ∧
    (LineIndex.ofText text).offsetAt range.stop.toCursor = .ok stop ∧
    start < stop ∧ text.extract start stop = word

namespace Range

theorem covers_between {text word : Text} {offset : Nat} (h : StandsAt text offset word)
    (hne : word ≠ []) :
    (Range.between text offset (offset + word.length)).Covers text word := by
  have hstop := h.stop_le
  have hpos : 0 < word.length := List.length_pos_iff.mpr hne
  refine ⟨offset, offset + word.length, ?_, ?_, by omega, h.extract_eq⟩
  · exact LineIndex.offsetAt_after (by omega)
  · exact LineIndex.offsetAt_after hstop

theorem covers_ofLine {text line : Text} {number : Nat}
    (h : (splitLines text)[number]? = some line) (hne : line ≠ []) :
    (Range.ofLine number line).Covers text line := by
  have hpos : 0 < line.length := List.length_pos_iff.mpr hne
  refine ⟨lineStart (splitLines text) number, lineStart (splitLines text) number + line.length,
    ?_, ?_, by omega, extract_line h⟩
  · exact LineIndex.offsetAt_eq_ok_iff.mpr ⟨line, h, Nat.zero_le _, rfl⟩
  · exact LineIndex.offsetAt_eq_ok_iff.mpr ⟨line, h, le_rfl, rfl⟩

theorem Covers.line_lt {text word : Text} {range : Range} (h : range.Covers text word) :
    range.start.line < (splitLines text).length := by
  obtain ⟨start, stop, hstart, -⟩ := h
  obtain ⟨line, hline, -⟩ := LineIndex.offsetAt_eq_ok_iff.mp hstart
  exact (List.getElem?_eq_some_iff.mp hline).1

/-- On a single line, the marks below the range end where the range ends. -/
theorem Covers.add_markWidth {text word : Text} {range : Range} (h : range.Covers text word)
    (hline : range.stop.line = range.start.line) :
    range.start.column + Report.markWidth range = range.stop.column := by
  obtain ⟨start, stop, hstart, hstop, hlt, -⟩ := h
  obtain ⟨-, -, -, hstart⟩ := LineIndex.offsetAt_eq_ok_iff.mp hstart
  obtain ⟨-, -, -, hstop⟩ := LineIndex.offsetAt_eq_ok_iff.mp hstop
  rw [hline] at hstop
  rw [Report.markWidth, if_pos hline]
  omega

end Range

/-- The range of a finding covers what its issue is about. -/
def Finding.Exact (text : Text) (finding : Finding) : Prop :=
  match finding.issue with
  | .incompleteBlock | .missingSemicolon =>
    finding.range.start.column = 0 ∧
      ∃ line, (splitLines text)[finding.range.start.line]? = some line ∧
        finding.range.Covers text line
  | .undefinedVariable name =>
    finding.range.stop.line = finding.range.start.line ∧ finding.range.Covers text name
  | .unusedFunction name =>
    ∃ gap, gap ≠ [] ∧ (∀ c ∈ gap, isBlank c = true) ∧
      finding.range.Covers text ("function".toList ++ gap ++ name)

theorem Finding.Exact.exists_covers {text : Text} {finding : Finding}
    (h : finding.Exact text) : ∃ word, finding.range.Covers text word := by
  obtain ⟨issue, range⟩ := finding
  cases issue with
  | incompleteBlock =>
    obtain ⟨-, line, -, hcovers⟩ := h
    exact ⟨line, hcovers⟩
  | missingSemicolon =>
    obtain ⟨-, line, -, hcovers⟩ := h
    exact ⟨line, hcovers⟩
  | undefinedVariable name => exact ⟨name, h.2⟩
  | unusedFunction name =>
    obtain ⟨gap, -, -, hcovers⟩ := h
    exact ⟨_, hcovers⟩

theorem exact_of_mem_bracketFindings {text : Text} {finding : Finding}
    (h : finding ∈ bracketFindings text) : finding.Exact text := by
  obtain ⟨mark, hmark, rfl⟩ := List.mem_map.mp h
  obtain ⟨line, hget, hne⟩ := exists_line_of_mem_unmatchedBrackets hmark
  refine ⟨rfl, line, hget, ?_⟩
  simpa [hget] using Range.covers_ofLine hget hne

theorem exact_of_mem_semicolonFindings {text : Text} {finding : Finding}
    (h : finding ∈ semicolonFindings text) : finding.Exact text := by
  obtain ⟨⟨line, number⟩, hmem, rfl⟩ := List.mem_map.mp h
  obtain ⟨hnumbered, hopen⟩ := List.mem_filter.mp hmem
  have hget : (splitLines text)[number]? = some line :=
    List.mk_mem_zipIdx_iff_getElem?.mp hnumbered
  have hne : line ≠ [] := by
    rintro rfl
    simp [isTerminated, trim, skipBlanks, trimRightWhere] at hopen
  exact ⟨rfl, line, hget, Range.covers_ofLine hget hne⟩

theorem exact_of_mem_undefinedFindings {profile : Profile} {text : Text} {finding : Finding}
    (h : finding ∈ undefinedFindings profile text) : finding.Exact text := by
  obtain ⟨reference, hreference, rfl⟩ := List.mem_map.mp h
  obtain ⟨hidentifier, hstands⟩ := stands_of_mem_undeclaredReferences hreference
  refine ⟨?_, Range.covers_between hstands (ne_nil_of_isIdentifier hidentifier)⟩
  have hnewline : '\n' ∉ reference.name := notMem_of_isIdentifier hidentifier (by decide)
  change (Position.after (text.take reference.stop)).line =
    (Position.after (text.take reference.offset)).line
  rw [Reference.stop, hstands.take_stop, Position.after_append_of_notMem _ hnewline]

theorem exact_of_mem_unusedFindings {text : Text} {finding : Finding}
    (h : finding ∈ unusedFindings text) : finding.Exact text := by
  obtain ⟨declaration, hdeclaration, rfl⟩ := List.mem_map.mp h
  obtain ⟨gap, hne, hblank, -, hstands, hstop⟩ :=
    FunctionDeclaration.standsAt (mem_functionDeclarations_of_unused hdeclaration)
  refine ⟨gap, hne, hblank, ?_⟩
  have hcovers := Range.covers_between hstands (by simp)
  rwa [← hstop] at hcovers

theorem exact_of_mem_familyFindings {profile : Profile} {text : Text} {family : CheckFamily}
    {finding : Finding} (h : finding ∈ familyFindings profile text family) :
    finding.Exact text := by
  cases family with
  | brackets => exact exact_of_mem_bracketFindings h
  | semicolons => exact exact_of_mem_semicolonFindings h
  | undefinedReferences => exact exact_of_mem_undefinedFindings h
  | unusedFunctions => exact exact_of_mem_unusedFindings h

theorem exists_family_of_mem_diagnose {dialect : Dialect} {text : Text} {language : Language}
    {selection : RuleSelection} {diagnostic : Diagnostic}
    (h : diagnostic ∈ diagnose dialect text language selection) :
    ∃ family, ∃ finding ∈ familyFindings dialect.profile text family,
      diagnostic = finding.word language := by
  obtain ⟨finding, hmem, rfl⟩ := List.mem_map.mp h
  have hcollected := (List.mem_filter.mp hmem).1
  rw [value_collectFindings] at hcollected
  obtain ⟨family, -, hfamily⟩ := List.mem_flatMap.mp hcollected
  exact ⟨family, finding, hfamily, rfl⟩

theorem exists_finding_of_mem_diagnose {dialect : Dialect} {text : Text} {language : Language}
    {selection : RuleSelection} {diagnostic : Diagnostic}
    (h : diagnostic ∈ diagnose dialect text language selection) :
    ∃ finding : Finding, finding.Exact text ∧ diagnostic = finding.word language := by
  obtain ⟨family, finding, hfamily, rfl⟩ := exists_family_of_mem_diagnose h
  exact ⟨finding, exact_of_mem_familyFindings hfamily, rfl⟩

/-- Every diagnostic covers exactly the text that it is about, and a report can show it. -/
theorem diagnose_range_covers {dialect : Dialect} {text : Text} {language : Language}
    {selection : RuleSelection} {diagnostic : Diagnostic}
    (h : diagnostic ∈ diagnose dialect text language selection) :
    ∃ word, diagnostic.range.Covers text word ∧
      (diagnostic.rule = .undefinedVariable →
        diagnostic.name = some word ∧
          diagnostic.range.stop.line = diagnostic.range.start.line) ∧
      (diagnostic.rule = .unusedFunction →
        ∃ gap name, diagnostic.name = some name ∧ gap ≠ [] ∧ (∀ c ∈ gap, isBlank c = true) ∧
          word = "function".toList ++ gap ++ name) ∧
      (diagnostic.rule = .incompleteBlock ∨ diagnostic.rule = .missingSemicolon →
        diagnostic.range.start.column = 0 ∧
          (splitLines text)[diagnostic.range.start.line]? = some word) ∧
      diagnostic.range.start.line < (splitLines text).length ∧
      (diagnostic.range.stop.line = diagnostic.range.start.line →
        diagnostic.range.start.column + Report.markWidth diagnostic.range =
          diagnostic.range.stop.column) := by
  obtain ⟨⟨issue, range⟩, hexact, rfl⟩ := exists_finding_of_mem_diagnose h
  cases issue with
  | incompleteBlock =>
    obtain ⟨hcolumn, line, hget, hcovers⟩ := hexact
    exact ⟨line, hcovers, nofun, nofun, fun _ => ⟨hcolumn, hget⟩, hcovers.line_lt,
      hcovers.add_markWidth⟩
  | missingSemicolon =>
    obtain ⟨hcolumn, line, hget, hcovers⟩ := hexact
    exact ⟨line, hcovers, nofun, nofun, fun _ => ⟨hcolumn, hget⟩, hcovers.line_lt,
      hcovers.add_markWidth⟩
  | undefinedVariable name =>
    obtain ⟨hline, hcovers⟩ := hexact
    exact ⟨name, hcovers, fun _ => ⟨rfl, hline⟩, nofun, nofun, hcovers.line_lt,
      hcovers.add_markWidth⟩
  | unusedFunction name =>
    obtain ⟨gap, hne, hblank, hcovers⟩ := hexact
    exact ⟨_, hcovers, nofun, fun _ => ⟨gap, name, rfl, hne, hblank, rfl⟩, nofun,
      hcovers.line_lt, hcovers.add_markWidth⟩

/-- The head of a function may run over a line end, and is then covered on both lines. -/
theorem diagnose_range_covers_broken_head :
    let text := "let a;\n  function \n  f(a) \x7b\x7d".toList
    let diagnostic := Finding.word ⟨.unusedFunction "f".toList, ⟨⟨1, 2⟩, ⟨2, 3⟩⟩⟩ .english
    diagnostic ∈ diagnose .javascript text .english .everything ∧
      ∃ gap, gap ≠ [] ∧ (∀ c ∈ gap, isBlank c = true) ∧
        diagnostic.range.Covers text ("function".toList ++ gap ++ "f".toList) := by
  intro text diagnostic
  have hmem : diagnostic ∈ diagnose .javascript text .english .everything := by decide +kernel
  obtain ⟨word, hcovers, -, hhead, -⟩ := diagnose_range_covers hmem
  obtain ⟨gap, name, hname, hne, hblank, rfl⟩ := hhead rfl
  obtain rfl := Option.some.inj hname
  exact ⟨hmem, gap, hne, hblank, hcovers⟩

end SurfaceLint
