import Mathlib.Data.List.Find
import SurfaceLint.Explanation
import SurfaceLint.Proofs.Diagnostic.Range

/-!
# Explanations agree with diagnostics

Each point query answers with the first finding of one family of checks on the line. Since
the queries are put in the order in which the families report, the explanation of a line is
the first enabled finding on it, missing semicolons aside, which are never explained.
-/

namespace SurfaceLint

/-- A finding starts on a line. -/
def Finding.isOnLine (number : Nat) (finding : Finding) : Bool :=
  finding.range.start.line == number

/-- What an explanation has in common with a diagnostic. -/
def Explanation.finding (explanation : Explanation) : Finding :=
  ⟨explanation.issue, explanation.range⟩

def Candidate.finding (text : Text) (candidate : Candidate) : Finding :=
  ⟨candidate.issue, Range.between text candidate.start candidate.stop⟩

theorem firstOnLine_eq {text : Text} {number : Nat} {candidates : List Candidate}
    (h : ∀ candidate ∈ candidates,
      candidate.start ≤ text.length ∧ candidate.stop ≤ text.length) :
    ∃ answer, firstOnLine (.ofText text) number candidates = .ok answer ∧
      answer.map Explanation.finding =
        ((candidates.filter (·.isIssue)).map (·.finding text)).find? (·.isOnLine number) := by
  induction candidates with
  | nil => exact ⟨none, rfl, rfl⟩
  | cons candidate rest ih =>
    obtain ⟨hstart, hstop⟩ := h candidate (by simp)
    obtain ⟨answer, hanswer, hfirst⟩ := ih fun other hother => h other (by simp [hother])
    have hon : (candidate.finding text).isOnLine number = true ↔
        (Position.after (text.take candidate.start)).line = number := beq_iff_eq
    simp only [firstOnLine, LineIndex.positionAt_ofText hstart,
      LineIndex.positionAt_ofText hstop]
    by_cases hissue : candidate.isIssue = true
    · rw [List.filter_cons_of_pos hissue, List.map_cons]
      by_cases hline : (Position.after (text.take candidate.start)).line = number
      · refine ⟨some ⟨candidate.issue, candidate.heading,
          Range.between text candidate.start candidate.stop⟩, if_pos ⟨hline, hissue⟩, ?_⟩
        rw [List.find?_cons_of_pos (hon.mpr hline)]
        rfl
      · refine ⟨answer, (if_neg fun hboth => hline hboth.1).trans hanswer, ?_⟩
        rw [List.find?_cons_of_neg (mt hon.mp hline), hfirst]
    · refine ⟨answer, (if_neg fun hboth => hissue hboth.2).trans hanswer, ?_⟩
      rw [List.filter_cons_of_neg hissue, hfirst]

/-! ## The three queries -/

theorem explainBlock_eq {text line : Text} {number : Nat}
    (hline : (splitLines text)[number]? = some line) :
    (explainBlock text number line).map Explanation.finding =
      (bracketFindings text).find? (·.isOnLine number) := by
  rw [bracketFindings, List.find?_map]
  have hon : (Finding.isOnLine number ∘ fun mark : BracketMark =>
      (⟨.incompleteBlock, Range.ofLine mark.position.line
        ((splitLines text)[mark.position.line]?.getD [])⟩ : Finding)) =
      fun mark : BracketMark => mark.position.line == number := rfl
  rw [hon]
  cases hfind : (unmatchedBrackets text).find? fun mark => mark.position.line == number with
  | none =>
    have hany : (unmatchedBrackets text).any (fun mark => mark.position.line == number) = false :=
      List.any_eq_false.mpr (List.find?_eq_none.mp hfind)
    simp [explainBlock, hany]
  | some mark =>
    have hmark : mark.position.line = number := by simpa using List.find?_some hfind
    have hany : (unmatchedBrackets text).any (fun mark => mark.position.line == number) = true :=
      List.any_eq_true.mpr ⟨mark, List.mem_of_find?_eq_some hfind, by simp [hmark]⟩
    simp [explainBlock, hany, Explanation.finding, hmark, hline]

theorem explainReference_eq (profile : Profile) (text : Text) (number : Nat) :
    ∃ answer, explainReference profile text number = .ok answer ∧
      answer.map Explanation.finding =
        (undefinedFindings profile text).find? (·.isOnLine number) := by
  obtain ⟨answer, hanswer, hfirst⟩ : ∃ answer, explainReference profile text number = .ok answer ∧
      answer.map Explanation.finding = _ := by
    apply firstOnLine_eq
    intro candidate hcandidate
    obtain ⟨reference, hreference, rfl⟩ := List.mem_map.mp hcandidate
    exact (Profile.stands_of_mem_references hreference).bounds
  refine ⟨answer, hanswer, hfirst.trans ?_⟩
  rw [List.filter_map, List.map_map]
  rfl

theorem explainFunction_eq {profile : Profile} (hprofile : profile.checksUnusedFunctions = true)
    (text : Text) (number : Nat) :
    ∃ answer, explainFunction profile text number = .ok answer ∧
      answer.map Explanation.finding = (unusedFindings text).find? (·.isOnLine number) := by
  obtain ⟨answer, hanswer, hfirst⟩ : ∃ answer, explainFunction profile text number = .ok answer ∧
      answer.map Explanation.finding = _ := by
    rw [explainFunction, if_pos hprofile]
    apply firstOnLine_eq
    intro candidate hcandidate
    obtain ⟨declaration, hdeclaration, rfl⟩ := List.mem_map.mp hcandidate
    exact FunctionDeclaration.bounds (mem_functionDeclarations_of_unused hdeclaration)
  refine ⟨answer, hanswer, hfirst.trans ?_⟩
  have hall : ((·.isIssue) ∘ fun declaration : FunctionDeclaration =>
      (⟨.unusedFunction declaration.name,
        "Function '" ++ String.ofList declaration.name ++ "' is declared but never called",
        declaration.start, declaration.stop, true⟩ : Candidate)) = fun _ => true := rfl
  rw [List.filter_map, hall, List.filter_true, List.map_map]
  rfl

/-- The family of checks whose findings a query looks for. -/
def PointQuery.family : PointQuery → CheckFamily
  | incompleteBlock => .brackets
  | undefinedVariable => .undefinedReferences
  | unusedFunction => .unusedFunctions

theorem standardAnswers_eq {text line : Text} {number : Nat}
    (hline : (splitLines text)[number]? = some line) (query : PointQuery) (profile : Profile) :
    ((standardAnswers query profile text number line).toOption.getD none).map
        Explanation.finding =
      if query.family ∈ profile.families then
        (familyFindings profile text query.family).find? (·.isOnLine number)
      else none := by
  cases query with
  | incompleteBlock =>
    have hmem : PointQuery.incompleteBlock.family ∈ profile.families := by
      cases profile <;> decide
    rw [if_pos hmem]
    exact explainBlock_eq hline
  | undefinedVariable =>
    have hmem : PointQuery.undefinedVariable.family ∈ profile.families := by
      cases profile <;> decide
    obtain ⟨answer, hanswer, hfirst⟩ := explainReference_eq profile text number
    rw [if_pos hmem, standardAnswers, hanswer]
    exact hfirst
  | unusedFunction =>
    cases profile with
    | script =>
      obtain ⟨answer, hanswer, hfirst⟩ :=
        explainFunction_eq (show Profile.script.checksUnusedFunctions = true from rfl) text number
      rw [if_pos (by decide), standardAnswers, hanswer]
      exact hfirst
    | java => rfl

/-! ## The first finding of all families -/

/-- The rule that the findings of a family belong to. -/
def CheckFamily.rule : CheckFamily → Rule
  | brackets => .incompleteBlock
  | semicolons => .missingSemicolon
  | undefinedReferences => .undefinedVariable
  | unusedFunctions => .unusedFunction

theorem rule_of_mem_familyFindings {profile : Profile} {text : Text} {family : CheckFamily}
    {finding : Finding} (h : finding ∈ familyFindings profile text family) :
    finding.issue.rule = family.rule := by
  cases family <;> obtain ⟨_, _, rfl⟩ := List.mem_map.mp h <;> rfl

/-- A finding that a query about a line may answer with. -/
def Finding.isExplained (selection : RuleSelection) (number : Nat) (finding : Finding) : Bool :=
  finding.issue.rule != .missingSemicolon && selection.isEnabled finding.issue.rule &&
    finding.isOnLine number

theorem find?_familyFindings (selection : RuleSelection) (number : Nat) (profile : Profile)
    (text : Text) (family : CheckFamily) :
    (familyFindings profile text family).find? (·.isExplained selection number) =
      if family.rule ≠ .missingSemicolon ∧ selection.isEnabled family.rule = true then
        (familyFindings profile text family).find? (·.isOnLine number)
      else none := by
  split
  · rename_i h
    apply List.find?_congr
    intro finding hfinding
    simp [Finding.isExplained, rule_of_mem_familyFindings hfinding, h.1, h.2]
  · rename_i h
    rw [List.find?_eq_none]
    intro finding hfinding hexplained
    simp only [Finding.isExplained, rule_of_mem_familyFindings hfinding, Bool.and_eq_true,
      bne_iff_ne] at hexplained
    exact h hexplained.1

theorem map_answer_eq {text line : Text} {number : Nat}
    (hline : (splitLines text)[number]? = some line) (selection : RuleSelection)
    (profile : Profile) (query : PointQuery) :
    (if selection.isEnabled query.rule then
        (standardAnswers query profile text number line).toOption.getD none
      else none).map Explanation.finding =
      if query.family ∈ profile.families then
        (familyFindings profile text query.family).find? (·.isExplained selection number)
      else none := by
  have hrule : query.family.rule = query.rule := by cases query <;> rfl
  have hexplained : query.rule ≠ .missingSemicolon := by cases query <;> decide
  rw [find?_familyFindings, hrule]
  by_cases henabled : selection.isEnabled query.rule = true
  · have hboth : query.rule ≠ .missingSemicolon ∧ selection.isEnabled query.rule = true :=
      ⟨hexplained, henabled⟩
    rw [if_pos henabled, if_pos hboth, standardAnswers_eq hline]
  · have hnot : ¬(query.rule ≠ .missingSemicolon ∧ selection.isEnabled query.rule = true) :=
      fun h => henabled h.2
    rw [if_neg henabled, if_neg hnot, ite_self]
    rfl

/-- The queries, put one after the other, find the first finding that may be explained. -/
theorem findSome?_queries {text line : Text} {number : Nat}
    (hline : (splitLines text)[number]? = some line) (selection : RuleSelection)
    (profile : Profile) :
    (PointQuery.all.findSome? fun query =>
        if selection.isEnabled query.rule then
          (standardAnswers query profile text number line).toOption.getD none
        else none).map Explanation.finding =
      (profile.families.flatMap (familyFindings profile text)).find?
        (·.isExplained selection number) := by
  have hsemicolons :
      (familyFindings profile text .semicolons).find? (·.isExplained selection number) = none := by
    rw [find?_familyFindings, if_neg (by simp [CheckFamily.rule])]
  rw [List.map_findSome?, List.find?_flatMap]
  simp only [Function.comp_def, map_answer_eq hline]
  cases profile with
  | script => simp [PointQuery.all, PointQuery.family, Profile.families, List.findSome?_cons,
      Profile.checksSemicolons, Profile.checksUnusedFunctions]
  | java => simp [PointQuery.all, PointQuery.family, Profile.families, List.findSome?_cons,
      Profile.checksSemicolons, Profile.checksUnusedFunctions, hsemicolons]

/-! ## Any cursor -/

theorem value_firstAnswer (selection : RuleSelection)
    (ask : PointQuery → Except CheckFailure (Option Explanation)) (queries : List PointQuery) :
    (firstAnswer selection ask queries).value =
      queries.findSome? fun query =>
        if selection.isEnabled query.rule then (ask query).toOption.getD none else none := by
  induction queries with
  | nil => rfl
  | cons query rest ih =>
    rw [firstAnswer, List.findSome?_cons, ← ih]
    split
    · cases ask query with
      | error failure => rfl
      | ok answer => cases answer <;> rfl
    · rfl

theorem explainWith_of_lineAt?_none {text : Text} {cursor : Cursor}
    (h : lineAt? text cursor = none) (answers : Answers) (dialect : Dialect)
    (selection : RuleSelection) : explainWith answers dialect text cursor selection = none := by
  rw [explainWith, explainLogged, h]

theorem explainWith_of_lineAt? {text line : Text} {cursor : Cursor} {number : Nat}
    (h : lineAt? text cursor = some (number, line)) (answers : Answers) (dialect : Dialect)
    (selection : RuleSelection) :
    explainWith answers dialect text cursor selection =
      PointQuery.all.findSome? fun query =>
        if selection.isEnabled query.rule then
          (answers query dialect.profile text number line).toOption.getD none
        else none := by
  rw [explainWith, explainLogged, h, value_firstAnswer]

theorem line_lt_of_mem_collectFindings {profile : Profile} {text : Text} {finding : Finding}
    (h : finding ∈ (collectFindings standardChecks profile text).value) :
    finding.range.start.line < (splitLines text).length := by
  rw [value_collectFindings] at h
  obtain ⟨family, -, hfamily⟩ := List.mem_flatMap.mp h
  obtain ⟨word, hcovers⟩ := (exact_of_mem_familyFindings hfamily).exists_covers
  exact hcovers.line_lt

theorem lineAt?_eq_some {text line : Text} {cursor : Cursor} {number : Nat}
    (h : lineAt? text cursor = some (number, line)) :
    cursor.line = number ∧ (splitLines text)[number]? = some line := by
  unfold lineAt? at h
  split at h
  · contradiction
  · obtain ⟨found, hfound, heq⟩ := Option.map_eq_some_iff.mp h
    obtain ⟨rfl, rfl⟩ := Prod.mk.inj heq
    exact ⟨by omega, hfound⟩

theorem lineAt?_eq_none_iff {text : Text} {cursor : Cursor} :
    lineAt? text cursor = none ↔ cursor.line < 0 ∨ (splitLines text).length ≤ cursor.line := by
  unfold lineAt?
  split
  · simp_all
  · simp only [Option.map_eq_none_iff, List.getElem?_eq_none_iff]
    omega

theorem map_finding_explain (dialect : Dialect) (text : Text) (cursor : Cursor)
    (selection : RuleSelection) :
    (explain dialect text cursor selection).map Explanation.finding =
      (collectFindings standardChecks dialect.profile text).value.find? fun finding =>
        finding.issue.rule != .missingSemicolon && selection.isEnabled finding.issue.rule &&
          decide ((finding.range.start.line : Int) = cursor.line) := by
  rw [explain]
  cases hline : lineAt? text cursor with
  | none =>
    symm
    rw [explainWith_of_lineAt?_none hline, Option.map_none, List.find?_eq_none]
    intro finding hfinding hexplained
    have hlt := line_lt_of_mem_collectFindings hfinding
    simp only [Bool.and_eq_true, decide_eq_true_eq] at hexplained
    rcases lineAt?_eq_none_iff.mp hline with h | h <;> omega
  | some found =>
    obtain ⟨number, line⟩ := found
    obtain ⟨hcursor, hget⟩ := lineAt?_eq_some hline
    rw [explainWith_of_lineAt? hline, findSome?_queries hget, value_collectFindings]
    apply List.find?_congr
    intro finding _
    have hon : finding.isOnLine number =
        decide ((finding.range.start.line : Int) = cursor.line) := by
      rw [Bool.eq_iff_iff, Finding.isOnLine, beq_iff_eq, decide_eq_true_eq, hcursor]
      omega
    rw [Finding.isExplained, hon]

theorem find?_diagnose (dialect : Dialect) (text : Text) (line : Int) (language : Language)
    (selection : RuleSelection) :
    ((diagnose dialect text language selection).find? fun diagnostic =>
        decide (diagnostic.rule ≠ .missingSemicolon ∧
          (diagnostic.range.start.line : Int) = line)) =
      ((collectFindings standardChecks dialect.profile text).value.find? fun finding =>
        finding.issue.rule != .missingSemicolon && selection.isEnabled finding.issue.rule &&
          decide ((finding.range.start.line : Int) = line)).map (·.word language) := by
  rw [diagnose, diagnoseWith, diagnoseLogged, List.find?_map, List.find?_filter]
  congr 1
  apply List.find?_congr
  intro finding _
  rw [Bool.eq_iff_iff, decide_eq_true_iff, Function.comp_apply, decide_eq_true_iff,
    Bool.and_eq_true, Bool.and_eq_true, bne_iff_ne, decide_eq_true_iff]
  constructor
  · rintro ⟨henabled, hrule, hline⟩
    exact ⟨⟨hrule, henabled⟩, hline⟩
  · rintro ⟨⟨hrule, henabled⟩, hline⟩
    exact ⟨henabled, hrule, hline⟩

/-- The explanation at a cursor is the first diagnostic that starts on its line, missing
semicolons aside; there is none exactly when there is no such diagnostic. The column does not
matter, and beyond the text nothing is explained. -/
theorem explain_eq_first_diagnostic (dialect : Dialect) (text : Text) (cursor : Cursor)
    (language : Language) (selection : RuleSelection) :
    (explain dialect text cursor selection = none ↔
      ∀ diagnostic ∈ diagnose dialect text language selection,
        diagnostic.rule ≠ .missingSemicolon →
          (diagnostic.range.start.line : Int) ≠ cursor.line) ∧
    ((explain dialect text cursor selection).map fun explanation =>
        (explanation.rule, explanation.range, explanation.name)) =
      (((diagnose dialect text language selection).find? fun diagnostic =>
        decide (diagnostic.rule ≠ .missingSemicolon ∧
          (diagnostic.range.start.line : Int) = cursor.line)).map fun diagnostic =>
        (diagnostic.rule, diagnostic.range, diagnostic.name)) ∧
    (∀ column, explain dialect text ⟨cursor.line, column⟩ selection =
      explain dialect text cursor selection) ∧
    (cursor.line < 0 ∨ (splitLines text).length ≤ cursor.line →
      explain dialect text cursor selection = none) := by
  have hfirst := map_finding_explain dialect text cursor selection
  have hdiagnose := find?_diagnose dialect text cursor.line language selection
  rw [← hfirst, Option.map_map] at hdiagnose
  refine ⟨?_, ?_, fun column => rfl, ?_⟩
  · rw [← Option.map_eq_none_iff, ← hdiagnose, List.find?_eq_none]
    simp
  · rw [hdiagnose, Option.map_map]
    rfl
  · intro hline
    exact explainWith_of_lineAt?_none (lineAt?_eq_none_iff.mpr hline) _ _ _

end SurfaceLint
