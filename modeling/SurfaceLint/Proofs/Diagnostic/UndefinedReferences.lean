import SurfaceLint.Proofs.Explanation
import SurfaceLint.Proofs.Names.EveryOccurrence
import SurfaceLint.Proofs.Names.SharedReference
import SurfaceLint.Proofs.Text.LineIndex

/-!
# Order and repetition of undefined references

Java text is scanned once, so its undefined references are found in text order and each of them
once. The calls of a script are read one after the other. Within a call the order is right, and
the findings are out of order exactly if a call inside the arguments of another passes an
undeclared name in front of one of the outer call. An occurrence is reported twice exactly if
two calls share it, the later of which stands in a literal of the earlier one.
-/

namespace SurfaceLint

/-! ## References in the order of the scan -/

/-- An undeclared name is an argument of the call that opens at an offset. -/
structure UndeclaredArgument (text : Text) (opening : Nat) (reference : Reference) : Prop where
  opens : OpensCall text opening
  mem : reference ∈ referencesFrom text opening
  undeclared : reference.name ∉ Profile.script.declared text

theorem pairwise_iff_of_increasing {offsets : List Nat} (h : offsets.Pairwise (· < ·))
    {relation : Nat → Nat → Prop} :
    offsets.Pairwise relation ↔ ∀ a ∈ offsets, ∀ b ∈ offsets, a < b → relation a b := by
  constructor
  · intro hrelation a ha b hb hlt
    obtain ⟨i, hi, rfl⟩ := List.getElem_of_mem ha
    obtain ⟨j, hj, rfl⟩ := List.getElem_of_mem hb
    rcases Nat.lt_trichotomy i j with hij | rfl | hji
    · exact List.pairwise_iff_getElem.mp hrelation i j hi hj hij
    · exact absurd hlt (Nat.lt_irrefl _)
    · exact absurd hlt (Nat.lt_asymm (List.pairwise_iff_getElem.mp h j i hj hi hji))
  · intro hrelation
    exact h.imp_of_mem fun ha hb => hrelation _ ha _ hb

/-- A relation that holds in text order holds along the undeclared references of a script if it
holds between any two calls. -/
theorem pairwise_undeclaredReferences_script_iff {relation : Reference → Reference → Prop}
    (h : ∀ r s, r.offset < s.offset → relation r s) (text : Text) :
    (undeclaredReferences .script text).Pairwise relation ↔
      ∀ first second, first < second → ∀ r s, UndeclaredArgument text first r →
        UndeclaredArgument text second s → relation r s := by
  obtain ⟨openings, horder, hopens, hreferences⟩ := exists_openings text
  have hundeclared : undeclaredReferences .script text = openings.flatMap fun opening =>
      (referencesFrom text opening).filter fun reference =>
        !(Profile.script.declared text).contains reference.name := by
    rw [← List.filter_flatMap, ← hreferences]
    rfl
  rw [hundeclared, List.pairwise_flatMap, pairwise_iff_of_increasing horder]
  simp only [hopens, List.mem_filter, Bool.not_eq_true', List.contains_eq_mem,
    decide_eq_false_iff_not]
  constructor
  · rintro ⟨-, hcalls⟩ first second hlt r s hr hs
    exact hcalls first hr.opens second hs.opens hlt r ⟨hr.mem, hr.undeclared⟩ s
      ⟨hs.mem, hs.undeclared⟩
  · intro hcalls
    refine ⟨?_, ?_⟩
    · intro opening _
      exact ((pairwise_referencesFrom text opening).filter _).imp (h _ _)
    · intro first hfirst second hsecond hlt r hr s hs
      exact hcalls first second hlt r s ⟨hfirst, hr.1, hr.2⟩ ⟨hsecond, hs.1, hs.2⟩

theorem pairwise_undeclaredReferences_java (text : Text) :
    (undeclaredReferences .java text).Pairwise fun r s => r.offset < s.offset :=
  (pairwise_printReferences text).filter _

/-! ## Findings in text order -/

/-- The offset at which a finding starts. -/
def Finding.StartsAt (text : Text) (finding : Finding) (offset : Nat) : Prop :=
  (LineIndex.ofText text).offsetAt finding.range.start.toCursor = .ok offset

def InTextOrder (text : Text) (findings : List Finding) : Prop :=
  findings.Pairwise fun a b => ∃ m n, a.StartsAt text m ∧ b.StartsAt text n ∧ m ≤ n

/-- Whenever a cursor has an undefined variable explained, it is the leftmost finding on the
line of the cursor. -/
def ExplainsLeftmost (dialect : Dialect) (text : Text) (findings : List Finding) : Prop :=
  ∀ cursor selection explanation, explain dialect text cursor selection = some explanation →
    explanation.rule = .undefinedVariable →
      explanation.finding ∈ findings ∧ (explanation.range.start.line : Int) = cursor.line ∧
        ∀ finding ∈ findings, (finding.range.start.line : Int) = cursor.line →
          explanation.range.start.column ≤ finding.range.start.column

theorem Reference.Stands.startsAt_iff {text : Text} {reference : Reference}
    (h : reference.Stands text) {offset : Nat} :
    (reference.finding text).StartsAt text offset ↔ reference.offset = offset := by
  have hoffset := LineIndex.offsetAt_after h.bounds.1
  rw [Finding.StartsAt]
  change (LineIndex.ofText text).offsetAt (Position.after (text.take reference.offset)).toCursor =
    .ok offset ↔ _
  rw [hoffset, Except.ok.injEq]

theorem inTextOrder_undefinedFindings_iff (profile : Profile) (text : Text) :
    InTextOrder text (undefinedFindings profile text) ↔
      (undeclaredReferences profile text).Pairwise fun r s => r.offset ≤ s.offset := by
  rw [InTextOrder, undefinedFindings, List.pairwise_map]
  apply List.Pairwise.iff_of_mem
  intro r s hr hs
  simp only [(stands_of_mem_undeclaredReferences hr).startsAt_iff,
    (stands_of_mem_undeclaredReferences hs).startsAt_iff]
  simp

theorem find?_undefinedFindings {dialect : Dialect} {text : Text} {cursor : Cursor}
    {selection : RuleSelection} {explanation : Explanation}
    (h : explain dialect text cursor selection = some explanation)
    (hrule : explanation.rule = .undefinedVariable) :
    (undefinedFindings dialect.profile text).find? (fun finding =>
      decide ((finding.range.start.line : Int) = cursor.line)) = some explanation.finding := by
  have hfirst := map_finding_explain dialect text cursor selection
  rw [h, Option.map_some, value_collectFindings, List.find?_flatMap] at hfirst
  obtain ⟨family, -, hfind⟩ := List.exists_of_findSome?_eq_some hfirst.symm
  obtain rfl : family = .undefinedReferences := by
    have hfamily := rule_of_mem_familyFindings (List.mem_of_find?_eq_some hfind)
    rw [show explanation.finding.issue.rule = .undefinedVariable from hrule] at hfamily
    cases family with
    | undefinedReferences => rfl
    | brackets | semicolons | unusedFunctions => contradiction
  have henabled : selection.isEnabled .undefinedVariable = true := by
    have hexplained := List.find?_some hfind
    rw [show explanation.finding.issue.rule = .undefinedVariable from hrule] at hexplained
    simp only [Bool.and_eq_true] at hexplained
    exact hexplained.1.2
  rw [← hfind]
  apply List.find?_congr
  intro finding hfinding
  have hundefined : finding.issue.rule = CheckFamily.undefinedReferences.rule :=
    rule_of_mem_familyFindings hfinding
  rw [hundefined, CheckFamily.rule, henabled]
  rfl

theorem Reference.Stands.column_le {text : Text} {r s : Reference} (hr : r.Stands text)
    (hs : s.Stands text) (hle : r.offset ≤ s.offset)
    (hline : (r.finding text).range.start.line = (s.finding text).range.start.line) :
    (r.finding text).range.start.column ≤ (s.finding text).range.start.column := by
  apply Nat.le_of_not_lt
  intro hlt
  have hprecedes : (Position.after (text.take s.offset)).Precedes
      (Position.after (text.take r.offset)) := .inr ⟨hline.symm, hlt⟩
  rw [Position.after_take_precedes_iff hs.bounds.1 hr.bounds.1] at hprecedes
  omega

theorem explainsLeftmost_of_inTextOrder {dialect : Dialect} {text : Text}
    (h : InTextOrder text (undefinedFindings dialect.profile text)) :
    ExplainsLeftmost dialect text (undefinedFindings dialect.profile text) := by
  intro cursor selection explanation hexplain hrule
  rw [inTextOrder_undefinedFindings_iff] at h
  have hfind := find?_undefinedFindings hexplain hrule
  have hline : (explanation.range.start.line : Int) = cursor.line := by
    have hon := List.find?_some hfind
    rwa [decide_eq_true_eq] at hon
  refine ⟨List.mem_of_find?_eq_some hfind, hline, ?_⟩
  intro finding hfinding honline
  obtain ⟨s, hs, rfl⟩ := List.mem_map.mp hfinding
  rw [undefinedFindings, List.find?_map] at hfind
  obtain ⟨r, hfirst, hr⟩ := Option.map_eq_some_iff.mp hfind
  obtain ⟨-, earlier, later, hsplit, hoff⟩ := List.find?_eq_some_iff_append.mp hfirst
  have hmem : r ∈ undeclaredReferences dialect.profile text := List.mem_of_find?_eq_some hfirst
  -- the other finding is not among the earlier ones, none of which is on the line
  have hle : r.offset ≤ s.offset := by
    rw [hsplit] at hs h
    rcases List.mem_append.mp hs with hs | hs
    · have hnot := hoff s hs
      simp [honline] at hnot
    · rcases List.mem_cons.mp hs with rfl | hs
      · exact Nat.le_refl _
      · exact (List.pairwise_cons.mp (List.pairwise_append.mp h).2.1).1 s hs
  have hcolumn := (stands_of_mem_undeclaredReferences hmem).column_le
    (stands_of_mem_undeclaredReferences hs) hle
  rw [hr] at hcolumn
  exact hcolumn (by simp only [Explanation.finding]; omega)

/-- The findings of undefined references are in text order, and what is explained on a line is
then the leftmost of them, unless in a script a call inside the arguments of another passes an
undeclared name in front of one that the outer call passes. -/
theorem undefined_in_text_order_iff (dialect : Dialect) (text : Text) :
    ∃ findings, checkUndefinedReferences dialect.profile text = .ok findings ∧
      (InTextOrder text findings ↔
        ¬(dialect.profile = .script ∧
          ∃ outer inner r s, UndeclaredArgument text outer r ∧ UndeclaredArgument text inner s ∧
            outer < inner ∧ inner ≤ s.offset ∧ s.offset < r.offset)) ∧
      (InTextOrder text findings → ExplainsLeftmost dialect text findings) := by
  refine ⟨_, checkUndefinedReferences_eq dialect.profile text, ?_,
    explainsLeftmost_of_inTextOrder⟩
  rw [inTextOrder_undefinedFindings_iff]
  cases dialect.profile with
  | java =>
    have horder := (pairwise_undeclaredReferences_java text).imp Nat.le_of_lt
    exact iff_of_true horder (by simp)
  | script =>
    rw [pairwise_undeclaredReferences_script_iff fun r s => Nat.le_of_lt]
    constructor
    · rintro h ⟨-, outer, inner, r, s, hr, hs, hlt, -, hbefore⟩
      exact absurd hbefore (Nat.not_lt_of_le (h outer inner hlt r s hr hs))
    · intro h outer inner hlt r s hr hs
      apply Nat.le_of_not_lt
      intro hbefore
      exact h ⟨rfl, outer, inner, r, s, hr, hs, hlt, opening_le_of_mem_referencesFrom hs.mem,
        hbefore⟩

/-- The outer call reports `b` before the inner one reports `a`, which stands further to the
left, and on the line it is `b` that is explained. -/
theorem undefined_out_of_order_nested :
    ∃ findings,
      checkUndefinedReferences .script "console.log(console.log(a), b)".toList = .ok findings ∧
      findings.map Finding.range = [⟨⟨0, 28⟩, ⟨0, 29⟩⟩, ⟨⟨0, 24⟩, ⟨0, 25⟩⟩] ∧
      ¬InTextOrder "console.log(console.log(a), b)".toList findings ∧
      ¬ExplainsLeftmost .javascript "console.log(console.log(a), b)".toList findings := by
  have hreferences : undeclaredReferences .script "console.log(console.log(a), b)".toList =
      [⟨['b'], 28⟩, ⟨['a'], 24⟩] := by
    decide +kernel
  refine ⟨_, checkUndefinedReferences_eq .script _, by decide +kernel, ?_, ?_⟩
  · rw [inTextOrder_undefinedFindings_iff, hreferences]
    decide
  · intro h
    have hexplain : explain .javascript "console.log(console.log(a), b)".toList ⟨0, 0⟩ .everything =
        some ⟨.undefinedVariable ['b'], "Variable 'b' is not defined", ⟨⟨0, 28⟩, ⟨0, 29⟩⟩⟩ := by
      decide +kernel
    obtain ⟨-, -, hleftmost⟩ := h _ _ _ hexplain rfl
    have hle := hleftmost ⟨.undefinedVariable ['a'], ⟨⟨0, 24⟩, ⟨0, 25⟩⟩⟩ (by decide +kernel) rfl
    exact absurd hle (by decide)

/-! ## One finding for each occurrence -/

theorem Position.after_take_inj {text : Text} {m n : Nat} (hm : m ≤ text.length)
    (hn : n ≤ text.length) (h : after (text.take m) = after (text.take n)) : m = n := by
  have hoffset := LineIndex.offsetAt_after hm
  rw [h, LineIndex.offsetAt_after hn] at hoffset
  exact (Except.ok.inj hoffset).symm

theorem Reference.Stands.range_eq_iff {text : Text} {r s : Reference} (hr : r.Stands text)
    (hs : s.Stands text) : (r.finding text).range = (s.finding text).range ↔ r = s := by
  constructor
  · intro h
    obtain ⟨hstart, hstop⟩ := Range.mk.inj h
    have hoffset := Position.after_take_inj hr.bounds.1 hs.bounds.1 hstart
    have hend := Position.after_take_inj hr.bounds.2 hs.bounds.2 hstop
    have hname : r.name = s.name := by
      rw [← hr.standsAt.extract_eq, ← hs.standsAt.extract_eq]
      exact congrArg₂ _ hoffset hend
    cases r
    cases s
    simp_all
  · rintro rfl
    rfl

theorem nodup_ranges_undefinedFindings_iff (profile : Profile) (text : Text) :
    ((undefinedFindings profile text).map Finding.range).Nodup ↔
      (undeclaredReferences profile text).Pairwise (· ≠ ·) := by
  rw [undefinedFindings, List.Nodup, List.map_map, List.pairwise_map]
  apply List.Pairwise.iff_of_mem
  intro r s hr hs
  exact not_congr ((stands_of_mem_undeclaredReferences hr).range_eq_iff
    (stands_of_mem_undeclaredReferences hs))

/-- The findings of undefined references have different ranges, unless in a script two calls
share an undeclared name; the parenthesis of the later one then stands between quotes in the
arguments of the earlier one. -/
theorem undefined_ranges_nodup_iff (profile : Profile) (text : Text) :
    ∃ findings, checkUndefinedReferences profile text = .ok findings ∧
      ((findings.map Finding.range).Nodup ↔
        ¬(profile = .script ∧
          ∃ first second reference, UndeclaredArgument text first reference ∧
            UndeclaredArgument text second reference ∧ first < second ∧
            InQuotes text first (second - 1))) := by
  refine ⟨_, checkUndefinedReferences_eq profile text, ?_⟩
  rw [nodup_ranges_undefinedFindings_iff]
  have hne : ∀ r s : Reference, r.offset < s.offset → r ≠ s := by
    rintro r _ hlt rfl
    exact Nat.lt_irrefl _ hlt
  cases profile with
  | java => exact iff_of_true ((pairwise_undeclaredReferences_java text).imp (hne _ _)) (by simp)
  | script =>
    rw [pairwise_undeclaredReferences_script_iff hne]
    constructor
    · rintro h ⟨-, first, second, reference, hfirst, hsecond, hlt, -⟩
      exact h first second hlt reference reference hfirst hsecond rfl
    · rintro h first second hlt reference _ hfirst hsecond rfl
      have hquotes := inQuotes_of_shared hlt hsecond.opens hfirst.mem hsecond.mem
      exact h ⟨rfl, first, second, reference, hfirst, hsecond, hlt, hquotes⟩

/-- The call in the literal is read as well. For it the quotes are the other way round, and it
reaches the same `x`. -/
theorem undefined_reported_twice_literal :
    ∃ findings,
      checkUndefinedReferences .script "console.log(\"console.log(\\\"a\\\")\", x)".toList =
        .ok findings ∧
      findings.map Finding.range = [⟨⟨0, 34⟩, ⟨0, 35⟩⟩, ⟨⟨0, 34⟩, ⟨0, 35⟩⟩] ∧
      ¬(findings.map Finding.range).Nodup :=
  ⟨_, checkUndefinedReferences_eq .script _, by decide +kernel, by decide +kernel⟩

end SurfaceLint
