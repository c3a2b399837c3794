import SurfaceLint.Proofs.Explanation

/-!
# No text makes the checks fail

Every check and every point query returns a result, on any text: the places that they compute
exist, and an issue whose message mentions a name has one. So nothing is passed over when the
findings are collected, every finding can be put into words, and the diagnostics are the
enabled findings of the families that the dialect runs, in reporting order. The language
decides the messages and nothing else.
-/

namespace SurfaceLint

theorem Issue.exists_name_of_naming {issue : Issue} {language : Language} {text : Text → String}
    (h : issue.rule.kind.wording language = .naming text) : ∃ name, issue.name = some name := by
  cases issue with
  | incompleteBlock => cases language <;> contradiction
  | missingSemicolon => cases language <;> contradiction
  | undefinedVariable name => exact ⟨name, rfl⟩
  | unusedFunction name => exact ⟨name, rfl⟩

/-- A finding put into words by the catalog, which refuses to leave out a name. -/
def Finding.word? (language : Language) (finding : Finding) : Except MissingName Diagnostic :=
  (finding.issue.rule.kind.message language finding.issue.name).map fun message =>
    ⟨finding.issue, finding.range, message⟩

theorem Finding.word?_eq (language : Language) (finding : Finding) :
    finding.word? language = .ok (finding.word language) := by
  rw [Finding.word?, Issue.catalog_message]
  rfl

theorem standardAnswers_total (query : PointQuery) (profile : Profile) (text : Text)
    (number : Nat) (line : Text) :
    ∃ answer, standardAnswers query profile text number line = .ok answer := by
  cases query with
  | incompleteBlock => exact ⟨_, rfl⟩
  | undefinedVariable =>
    obtain ⟨answer, hanswer, -⟩ := explainReference_eq profile text number
    exact ⟨answer, by rw [standardAnswers, hanswer]; rfl⟩
  | unusedFunction =>
    by_cases hprofile : profile.checksUnusedFunctions = true
    · obtain ⟨answer, hanswer, -⟩ := explainFunction_eq hprofile text number
      exact ⟨answer, by rw [standardAnswers, hanswer]; rfl⟩
    · exact ⟨none, by rw [standardAnswers, explainFunction, if_neg hprofile]; rfl⟩

theorem value_collectFindings_eq_append (dialect : Dialect) (text : Text) :
    (collectFindings standardChecks dialect.profile text).value =
      familyFindings dialect.profile text .brackets ++
        (if dialect = .java then familyFindings dialect.profile text .semicolons else []) ++
        familyFindings dialect.profile text .undefinedReferences ++
        (if dialect.isScripting then familyFindings dialect.profile text .unusedFunctions
          else []) := by
  rw [value_collectFindings]
  cases dialect <;> simp [Profile.families, Dialect.profile, Dialect.isScripting,
    Profile.checksSemicolons, Profile.checksUnusedFunctions]

theorem diagnoseLogged_standardChecks (dialect : Dialect) (text : Text) (language : Language)
    (selection : RuleSelection) :
    diagnoseLogged standardChecks dialect text language selection =
      ⟨diagnose dialect text language selection, []⟩ := by
  simp only [diagnose, diagnoseWith, diagnoseLogged, collectFindings_standardChecks]

theorem log_firstAnswer {selection : RuleSelection}
    {ask : PointQuery → Except CheckFailure (Option Explanation)}
    (h : ∀ query, ∃ answer, ask query = .ok answer) (queries : List PointQuery) :
    (firstAnswer selection ask queries).log = [] := by
  induction queries with
  | nil => rfl
  | cons query rest ih =>
    obtain ⟨answer, hanswer⟩ := h query
    rw [firstAnswer]
    split
    · rw [hanswer]
      cases answer with
      | none => exact ih
      | some explanation => rfl
    · exact ih

theorem log_explainLogged_standardAnswers (dialect : Dialect) (text : Text) (cursor : Cursor)
    (selection : RuleSelection) :
    (explainLogged standardAnswers dialect text cursor selection).log = [] := by
  unfold explainLogged
  split
  · rfl
  · exact log_firstAnswer (fun query => standardAnswers_total query _ _ _ _) _

/-- Every check and every point query succeeds, so that nothing is logged, and every name that a
message needs is there. The diagnostics are the enabled findings of brackets, semicolons for
Java, undefined references, and unused functions for scripts, all put into words by the catalog;
in another language they differ in their messages alone. -/
theorem diagnose_never_fails (dialect : Dialect) (text : Text) (language : Language)
    (selection : RuleSelection) :
    (∃ report : CheckFamily → List Finding,
      (∀ family, standardChecks family dialect.profile text = .ok (report family)) ∧
      (∀ family, ∀ finding ∈ report family, ∀ wording,
        finding.issue.rule.kind.wording language = .naming wording →
          ∃ name, finding.issue.name = some name) ∧
      ((report .brackets ++ (if dialect = .java then report .semicolons else []) ++
          report .undefinedReferences ++
          (if dialect.isScripting then report .unusedFunctions else [])).filter
        fun finding => selection.isEnabled finding.issue.rule).mapM (·.word? language) =
          .ok (diagnose dialect text language selection)) ∧
    (∀ query number line, ∃ answer,
      standardAnswers query dialect.profile text number line = .ok answer) ∧
    (diagnoseLogged standardChecks dialect text language selection).log = [] ∧
    (∀ cursor, (explainLogged standardAnswers dialect text cursor selection).log = []) ∧
    (∀ other, diagnose dialect text other selection =
      (diagnose dialect text language selection).map fun diagnostic =>
        { diagnostic with message := diagnostic.issue.message other }) := by
  refine ⟨⟨familyFindings dialect.profile text, ?_, ?_, ?_⟩, ?_, ?_, ?_, ?_⟩
  · intro family
    exact standardChecks_eq family dialect.profile text
  · intro family finding _ wording hwording
    exact Issue.exists_name_of_naming hwording
  · rw [← value_collectFindings_eq_append]
    exact mapM_eq_ok fun finding _ => finding.word?_eq language
  · intro query number line
    exact standardAnswers_total query dialect.profile text number line
  · rw [diagnoseLogged_standardChecks]
  · intro cursor
    exact log_explainLogged_standardAnswers dialect text cursor selection
  · intro other
    simp only [diagnose, diagnoseWith, diagnoseLogged, List.map_map]
    rfl

end SurfaceLint
