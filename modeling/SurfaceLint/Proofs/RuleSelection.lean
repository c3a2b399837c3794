import SurfaceLint.Rule

/-!
# Which rules a selection switches off

A rule goes by two ids, its code and its name. A selection can be made from ids as they are,
from those ids that name a rule, or by switching off one rule after the other. The first keeps
codes, names and strangers side by side, the other two keep codes only; all of them switch off
the same rules, whatever the order of the ids and however often one is repeated.
-/

namespace SurfaceLint

namespace Rule

/-- The code or the name of a rule is among some ids. -/
def IsNamedIn (rule : Rule) (ids : List String) : Prop :=
  rule.code ∈ ids ∨ rule.name ∈ ids

instance (rule : Rule) (ids : List String) : Decidable (rule.IsNamedIn ids) :=
  inferInstanceAs (Decidable (_ ∨ _))

theorem code_injective {a b : Rule} (h : a.code = b.code) : a = b := by
  cases a <;> cases b <;> simp_all [code]

theorem code_ne_name (a b : Rule) : a.code ≠ b.name := by
  cases a <;> cases b <;> decide

theorem ofId?_eq_some_iff {id : String} {rule : Rule} :
    ofId? id = some rule ↔ id = rule.code ∨ id = rule.name := by
  constructor
  · intro h
    rw [ofId?, Option.orElse_eq_orElse, Option.orElse_eq_or, Option.or_eq_some_iff] at h
    rcases h with hcode | ⟨-, hname⟩
    · have hfound := List.find?_some hcode
      exact .inl (beq_iff_eq.mp hfound).symm
    · have hfound := List.find?_some hname
      exact .inr (beq_iff_eq.mp hfound).symm
  · rintro (rfl | rfl)
    · cases rule <;> decide
    · cases rule <;> decide

theorem isSome_ofId?_iff {id : String} :
    (ofId? id).isSome ↔ ∃ rule : Rule, id = rule.code ∨ id = rule.name := by
  simp only [Option.isSome_iff_exists, ofId?_eq_some_iff]

/-- The codes of the rules that some ids name. -/
def codesOf (ids : List String) : List String :=
  ids.filterMap fun id => (ofId? id).map code

theorem code_mem_codesOf_iff {rule : Rule} {ids : List String} :
    rule.code ∈ codesOf ids ↔ rule.IsNamedIn ids := by
  simp only [codesOf, List.mem_filterMap, Option.map_eq_some_iff, ofId?_eq_some_iff]
  constructor
  · rintro ⟨id, hid, other, hother, hcode⟩
    obtain rfl := code_injective hcode
    rcases hother with rfl | rfl
    · exact .inl hid
    · exact .inr hid
  · rintro (hid | hid)
    · exact ⟨_, hid, rule, .inl rfl, rfl⟩
    · exact ⟨_, hid, rule, .inr rfl, rfl⟩

theorem name_notMem_codesOf (rule : Rule) (ids : List String) : rule.name ∉ codesOf ids := by
  simp only [codesOf, List.mem_filterMap, Option.map_eq_some_iff]
  rintro ⟨id, -, other, -, hcode⟩
  exact code_ne_name other rule hcode

end Rule

namespace RuleSelection

theorem isEnabled_iff {selection : RuleSelection} {rule : Rule} :
    selection.isEnabled rule = true ↔ ¬rule.IsNamedIn selection.disabled := by
  simp [isEnabled, Rule.IsNamedIn]

theorem mem_insert_iff {selection : RuleSelection} {id other : String} :
    other ∈ (selection.insert id).disabled ↔ other ∈ selection.disabled ∨ other = id := by
  unfold insert
  split
  · rename_i hid
    constructor
    · exact .inl
    · rintro (hother | rfl)
      · exact hother
      · exact hid
  · simp

theorem mem_foldl_insert_iff {ids : List String} {selection : RuleSelection} {other : String} :
    other ∈ (ids.foldl insert selection).disabled ↔
      other ∈ selection.disabled ∨ other ∈ ids := by
  induction ids generalizing selection with
  | nil => simp
  | cons id rest ih => rw [List.foldl_cons, ih, mem_insert_iff, List.mem_cons, or_assoc]

theorem mem_ofRaw_iff {ids : List String} {id : String} :
    id ∈ (ofRaw ids).disabled ↔ id ∈ ids := by
  simp [ofRaw, mem_foldl_insert_iff, everything]

/-- Passing over ids that name no rule leaves the codes of the rules that the others name. -/
theorem ofDisabled_eq_ofRaw (ids : List String) : ofDisabled ids = ofRaw (Rule.codesOf ids) := by
  have hfold (selection : RuleSelection) :
      ids.foldl (fun selection id => (selection.allow id).toOption.getD selection) selection =
        (Rule.codesOf ids).foldl insert selection := by
    induction ids generalizing selection with
    | nil => rfl
    | cons id rest ih =>
      rw [List.foldl_cons, ih]
      cases hrule : Rule.ofId? id with
      | none => simp [Rule.codesOf, allow, hrule, Except.toOption]
      | some rule => simp [Rule.codesOf, allow, hrule, Except.toOption]
  exact hfold everything

theorem foldlM_allow_eq_ok {ids : List String} (h : ∀ id ∈ ids, (Rule.ofId? id).isSome) :
    ids.foldlM allow everything = .ok (ofDisabled ids) := by
  have hfold (selection : RuleSelection) :
      ids.foldlM allow selection =
        .ok (ids.foldl (fun selection id => (selection.allow id).toOption.getD selection)
          selection) := by
    induction ids generalizing selection with
    | nil => rfl
    | cons id rest ih =>
      obtain ⟨rule, hrule⟩ := Option.isSome_iff_exists.mp (h id (by simp))
      have hallow : selection.allow id = .ok (selection.insert rule.code) := by
        simp [allow, hrule]
      rw [List.foldlM_cons, List.foldl_cons, hallow]
      exact ih (fun other hother => h other (by simp [hother])) _
  exact hfold everything

theorem foldlM_allow_eq_error_iff {ids : List String} {selection : RuleSelection}
    {unknown : UnknownRule} :
    ids.foldlM allow selection = .error unknown ↔
      ∃ before after, ids = before ++ unknown.id :: after ∧
        (∀ earlier ∈ before, (Rule.ofId? earlier).isSome) ∧ Rule.ofId? unknown.id = none := by
  induction ids generalizing selection with
  | nil => simp [pure, Except.pure]
  | cons id rest ih =>
    rw [List.foldlM_cons]
    cases hrule : Rule.ofId? id with
    | none =>
      have hallow : selection.allow id = .error ⟨id⟩ := by simp [allow, hrule]
      rw [hallow]
      constructor
      · intro h
        obtain rfl := Except.error.inj h
        exact ⟨[], rest, rfl, by simp, hrule⟩
      · rintro ⟨before, after, hsplit, hbefore, -⟩
        cases before with
        | nil =>
          obtain ⟨rfl, -⟩ := List.cons.inj hsplit
          rfl
        | cons first before =>
          obtain ⟨rfl, -⟩ := List.cons.inj hsplit
          simp [hrule] at hbefore
    | some rule =>
      have hallow : selection.allow id = .ok (selection.insert rule.code) := by
        simp [allow, hrule]
      rw [hallow]
      refine ih.trans ⟨?_, ?_⟩
      · rintro ⟨before, after, rfl, hbefore, hnone⟩
        refine ⟨id :: before, after, rfl, ?_, hnone⟩
        exact List.forall_mem_cons.mpr ⟨by simp [hrule], hbefore⟩
      · rintro ⟨before, after, hsplit, hbefore, hnone⟩
        cases before with
        | nil =>
          obtain ⟨rfl, -⟩ := List.cons.inj hsplit
          simp [hrule] at hnone
        | cons first before =>
          obtain ⟨-, hrest⟩ := List.cons.inj hsplit
          exact ⟨before, after, hrest, (List.forall_mem_cons.mp hbefore).2, hnone⟩

theorem foldlM_allow_eq_ok_iff {ids : List String} {selection : RuleSelection} :
    ids.foldlM allow everything = .ok selection ↔
      (∀ id ∈ ids, (Rule.ofId? id).isSome) ∧ selection = ofDisabled ids := by
  refine ⟨fun h => ?_, fun ⟨hknown, hselection⟩ => hselection ▸ foldlM_allow_eq_ok hknown⟩
  cases hfirst : ids.find? (fun id => (Rule.ofId? id).isNone) with
  | none =>
    have hknown : ∀ id ∈ ids, (Rule.ofId? id).isSome := by
      simpa [Option.isSome_iff_ne_none] using hfirst
    rw [foldlM_allow_eq_ok hknown] at h
    exact ⟨hknown, (Except.ok.inj h).symm⟩
  | some id =>
    obtain ⟨hnone, before, after, hsplit, hbefore⟩ := List.find?_eq_some_iff_append.mp hfirst
    have herror : ids.foldlM allow everything = .error ⟨id⟩ :=
      foldlM_allow_eq_error_iff.mpr
        ⟨before, after, hsplit, by simpa using hbefore, by simpa using hnone⟩
    rw [herror] at h
    contradiction

/-- A selection switches off the rules that some ids name, and no others. -/
def SwitchesOff (selection : RuleSelection) (ids : List String) : Prop :=
  ∀ rule, selection.isEnabled rule = true ↔ ¬rule.IsNamedIn ids

theorem switchesOff_ofRaw (ids : List String) : (ofRaw ids).SwitchesOff ids := by
  intro rule
  simp only [isEnabled_iff, Rule.IsNamedIn, mem_ofRaw_iff]

theorem switchesOff_ofDisabled (ids : List String) : (ofDisabled ids).SwitchesOff ids := by
  intro rule
  rw [isEnabled_iff, ofDisabled_eq_ofRaw, Rule.IsNamedIn, mem_ofRaw_iff, mem_ofRaw_iff,
    Rule.code_mem_codesOf_iff]
  simp [Rule.name_notMem_codesOf]

/-- What is switched off depends on the ids that name a rule only. -/
theorem SwitchesOff.congr {selection : RuleSelection} {ids known : List String}
    (hknown : ∀ id, id ∈ known ↔ id ∈ ids ∧ (Rule.ofId? id).isSome)
    (h : selection.SwitchesOff known) : selection.SwitchesOff ids := by
  intro rule
  have hcode := Rule.isSome_ofId?_iff.mpr ⟨rule, .inl rfl⟩
  have hname := Rule.isSome_ofId?_iff.mpr ⟨rule, .inr rfl⟩
  rw [h rule, Rule.IsNamedIn, hknown, hknown, and_iff_left hcode, and_iff_left hname]
  rfl

end RuleSelection

end SurfaceLint
