import SurfaceLint.Proofs.Explanation
import SurfaceLint.Proofs.RuleSelection

/-!
# Switching rules off

Findings are dropped one by one when a report is put together, while a query of a rule that is
off is not even put to a line. Either way the result is what the checks and queries of the rules
that stay on would give if all others failed, and for a report it is the full report without the
entries of the rules that are off. So it does not matter by which ids, in which order and in
which way rules are switched off.
-/

namespace SurfaceLint

variable {ids : List String} {selection : RuleSelection}

/-! ## Reports -/

/-- The checks of the families whose rules are named fail, and all others are the standard
ones. -/
def Checks.BreakFor (checks : Checks) (ids : List String) : Prop :=
  ∀ family profile text,
    (family.rule.IsNamedIn ids → ∃ failure, checks family profile text = .error failure) ∧
    (¬family.rule.IsNamedIn ids →
      checks family profile text = standardChecks family profile text)

theorem interrupt_breakFor {broken : List CheckFamily}
    (h : ∀ family : CheckFamily, family ∈ broken ↔ family.rule.IsNamedIn ids) :
    (standardChecks.interrupt broken).BreakFor ids := by
  intro family profile text
  rw [← h family]
  refine ⟨fun hbroken => ⟨.interrupted, ?_⟩, fun hbroken => ?_⟩
  · rw [Checks.interrupt, if_pos hbroken]
  · rw [Checks.interrupt, if_neg hbroken]

theorem Checks.BreakFor.collectFindings_eq {checks : Checks} (h : checks.BreakFor ids)
    (profile : Profile) (text : Text) :
    (collectFindings checks profile text).value =
      (collectFindings standardChecks profile text).value.filter fun finding =>
        ¬finding.issue.rule.IsNamedIn ids := by
  rw [value_collectFindings, List.filter_flatMap]
  simp only [collectFindings, List.flatMap_map]
  congr 1
  funext family
  obtain ⟨hfails, hstandard⟩ := h family profile text
  by_cases hnamed : family.rule.IsNamedIn ids
  · obtain ⟨failure, hfailure⟩ := hfails hnamed
    have hnone : (familyFindings profile text family).filter (fun finding =>
        ¬finding.issue.rule.IsNamedIn ids) = [] := by
      rw [List.filter_eq_nil_iff]
      intro finding hfinding
      simpa [rule_of_mem_familyFindings hfinding] using hnamed
    rw [hfailure, hnone]
    rfl
  · have hall : (familyFindings profile text family).filter (fun finding =>
        ¬finding.issue.rule.IsNamedIn ids) = familyFindings profile text family := by
      rw [List.filter_eq_self]
      intro finding hfinding
      simpa [rule_of_mem_familyFindings hfinding] using hnamed
    rw [hstandard hnamed, standardChecks_eq, hall]
    rfl

theorem isEnabled_everything (rule : Rule) : RuleSelection.everything.isEnabled rule = true := by
  cases rule <;> rfl

theorem diagnoseWith_everything (checks : Checks) (dialect : Dialect) (text : Text)
    (language : Language) :
    diagnoseWith checks dialect text language .everything =
      (collectFindings checks dialect.profile text).value.map (·.word language) := by
  rw [diagnoseWith, diagnoseLogged,
    List.filter_eq_self.mpr fun finding _ => isEnabled_everything _]

theorem RuleSelection.SwitchesOff.diagnose_eq (h : selection.SwitchesOff ids) (dialect : Dialect)
    (text : Text) (language : Language) :
    diagnose dialect text language selection =
      (diagnose dialect text language .everything).filter fun diagnostic =>
        ¬diagnostic.rule.IsNamedIn ids := by
  rw [diagnose, diagnose, diagnoseWith_everything, List.filter_map]
  simp only [diagnoseWith, diagnoseLogged]
  congr 1
  apply List.filter_congr
  intro finding _
  rw [Bool.eq_iff_iff, h, Function.comp_apply, decide_eq_true_iff]
  rfl

theorem Checks.BreakFor.diagnoseWith_eq {checks : Checks} (h : checks.BreakFor ids)
    (dialect : Dialect) (text : Text) (language : Language) :
    diagnoseWith checks dialect text language .everything =
      (diagnose dialect text language .everything).filter fun diagnostic =>
        ¬diagnostic.rule.IsNamedIn ids := by
  rw [diagnose, diagnoseWith_everything, diagnoseWith_everything, h.collectFindings_eq,
    List.filter_map]
  rfl

/-! ## Explanations -/

/-- The queries of the rules that are named fail, and all others are the standard ones. -/
def Answers.BreakFor (answers : Answers) (ids : List String) : Prop :=
  ∀ query profile text number line,
    (query.rule.IsNamedIn ids →
      ∃ failure, answers query profile text number line = .error failure) ∧
    (¬query.rule.IsNamedIn ids →
      answers query profile text number line = standardAnswers query profile text number line)

theorem interrupt_answers_breakFor {broken : List PointQuery}
    (h : ∀ query : PointQuery, query ∈ broken ↔ query.rule.IsNamedIn ids) :
    (standardAnswers.interrupt broken).BreakFor ids := by
  intro query profile text number line
  rw [← h query]
  refine ⟨fun hbroken => ⟨.interrupted, ?_⟩, fun hbroken => ?_⟩
  · rw [Answers.interrupt, if_pos hbroken]
  · rw [Answers.interrupt, if_neg hbroken]

/-- A query that is not put answers as one that fails. -/
theorem Answers.BreakFor.explainWith_eq {answers : Answers} (h : answers.BreakFor ids)
    (hselection : selection.SwitchesOff ids) (dialect : Dialect) (text : Text) (cursor : Cursor) :
    explainWith answers dialect text cursor .everything =
      explain dialect text cursor selection := by
  rw [explain]
  cases hline : lineAt? text cursor with
  | none => rw [explainWith_of_lineAt?_none hline, explainWith_of_lineAt?_none hline]
  | some found =>
    obtain ⟨number, line⟩ := found
    rw [explainWith_of_lineAt? hline, explainWith_of_lineAt? hline]
    congr 1
    funext query
    obtain ⟨hfails, hstandard⟩ := h query dialect.profile text number line
    rw [if_pos (isEnabled_everything query.rule)]
    by_cases hnamed : query.rule.IsNamedIn ids
    · obtain ⟨failure, hfailure⟩ := hfails hnamed
      rw [hfailure, if_neg fun henabled => (hselection query.rule).mp henabled hnamed]
      rfl
    · rw [hstandard hnamed, if_pos ((hselection query.rule).mpr hnamed)]

/-! ## All ways at once -/

/-- Rules can be switched off by a list of ids with those passed over that name none, by all ids
as they are, and by allowing the ids that name a rule in any order and any number of times, which
always succeeds. Whichever way is taken, the report is the full one without the entries whose
rule has its code or its name among the ids, in the same order; it is also the full report of
checks of which those of the named rules fail. What is explained at a cursor is what is explained
when the queries of the named rules fail. -/
theorem ways_of_switching_off_agree (dialect : Dialect) (text : Text) (language : Language)
    (cursor : Cursor) {ids allowed : List String}
    (hallowed : ∀ id, id ∈ allowed ↔ id ∈ ids ∧ (Rule.ofId? id).isSome)
    {checks : Checks} (hchecks : checks.BreakFor ids)
    {answers : Answers} (hanswers : answers.BreakFor ids) :
    ∃ selection, allowed.foldlM RuleSelection.allow .everything = .ok selection ∧
      ∀ way ∈ [RuleSelection.ofDisabled ids, RuleSelection.ofRaw ids, selection],
        diagnose dialect text language way =
          ((diagnose dialect text language .everything).filter fun diagnostic =>
            ¬(diagnostic.rule.code ∈ ids ∨ diagnostic.rule.name ∈ ids)) ∧
        diagnose dialect text language way =
          diagnoseWith checks dialect text language .everything ∧
        explain dialect text cursor way =
          explainWith answers dialect text cursor .everything := by
  refine ⟨.ofDisabled allowed, ?_, ?_⟩
  · exact RuleSelection.foldlM_allow_eq_ok fun id hid => ((hallowed id).mp hid).2
  · have hways : ∀ way ∈ [RuleSelection.ofDisabled ids, RuleSelection.ofRaw ids,
        RuleSelection.ofDisabled allowed], way.SwitchesOff ids := by
      intro way hway
      simp only [List.mem_cons, List.not_mem_nil, or_false] at hway
      rcases hway with rfl | rfl | rfl
      · exact RuleSelection.switchesOff_ofDisabled ids
      · exact RuleSelection.switchesOff_ofRaw ids
      · exact (RuleSelection.switchesOff_ofDisabled allowed).congr hallowed
    intro way hway
    have hoff := hways way hway
    refine ⟨hoff.diagnose_eq dialect text language, ?_, ?_⟩
    · rw [hoff.diagnose_eq, hchecks.diagnoseWith_eq]
    · exact (hanswers.explainWith_eq hoff dialect text cursor).symm

/-- Two rules are switched off, one by its code and one by its name, beside an id that names
none, in a text that breaks both of them and a third. -/
theorem ways_of_switching_off_agree_mixed :
    let ids := ["E0003", "nothing", "unused-function"]
    let allowed := ["unused-function", "E0003", "unused-function"]
    let checks := standardChecks.interrupt [.undefinedReferences, .unusedFunctions]
    let answers := standardAnswers.interrupt [.undefinedVariable, .unusedFunction]
    let text := "function f() [console.log(x);".toList
    (∀ id, id ∈ allowed ↔ id ∈ ids ∧ (Rule.ofId? id).isSome) ∧ checks.BreakFor ids ∧
      answers.BreakFor ids ∧
      ∃ selection, allowed.foldlM RuleSelection.allow .everything = .ok selection ∧
        ∀ way ∈ [RuleSelection.ofDisabled ids, RuleSelection.ofRaw ids, selection],
          diagnose .javascript text .english way =
            ((diagnose .javascript text .english .everything).filter fun diagnostic =>
              ¬(diagnostic.rule.code ∈ ids ∨ diagnostic.rule.name ∈ ids)) ∧
          diagnose .javascript text .english way =
            diagnoseWith checks .javascript text .english .everything ∧
          explain .javascript text ⟨0, 0⟩ way =
            explainWith answers .javascript text ⟨0, 0⟩ .everything := by
  intro ids allowed checks answers text
  have hallowed : ∀ id, id ∈ allowed ↔ id ∈ ids ∧ (Rule.ofId? id).isSome := by
    intro id
    simp only [allowed, ids, List.mem_cons, List.not_mem_nil, or_false]
    constructor
    · rintro (rfl | rfl | rfl) <;> decide
    · rintro ⟨rfl | rfl | rfl, hknown⟩
      · decide
      · contradiction
      · decide
  have hchecks : checks.BreakFor ids := interrupt_breakFor fun family => by
    cases family <;> decide
  have hanswers : answers.BreakFor ids := interrupt_answers_breakFor fun query => by
    cases query <;> decide
  exact ⟨hallowed, hchecks, hanswers,
    ways_of_switching_off_agree .javascript text .english ⟨0, 0⟩ hallowed hchecks hanswers⟩

end SurfaceLint
