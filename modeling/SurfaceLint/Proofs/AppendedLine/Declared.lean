import SurfaceLint.Proofs.AppendedLine.Scan
import SurfaceLint.Proofs.Finding

/-!
# Declared names with further lines below

Lines of any kind are put below a text. They can complete a declaration that the text breaks
off in, and what is completed may run far into them. It begins, however, behind all that was
found in the text: from a place on where a declaration still waits for its name or for a
parenthesis, the text declares nothing. So a scan finds first what it found in the text, and
every name that was declared stays so.
-/

namespace SurfaceLint

/-! ## Scans -/

/-- What is put behind a text changes nothing for a recogniser at its front, or else the text
itself has no hit there and none later. -/
def Recogniser.KeepsHits {α : Type} (recogniser : Recogniser α) (tail : Text) : Prop :=
  ∀ before text, recogniser before (text ++ tail) = recogniser before text ∨
    ∀ rest, rest <:+ text → ∀ other, recogniser other rest = none

/-- A recogniser that reads up to the first occurrence of a mark and looks no further. -/
def Recogniser.RunsUpTo {α : Type} (recogniser : Recogniser α) (mark : Char) : Prop :=
  ∀ before text hit, recogniser before text = some hit →
    ∃ word rest, mark ∉ word ∧ text = word ++ mark :: rest ∧
      ∀ other, recogniser before (word ++ mark :: other) = some hit

section Scans

variable {α : Type} {recogniser : Recogniser α} {mark : Char}

theorem scanFrom_prefix_append {tail : Text} (h : recogniser.KeepsHits tail) (text : Text)
    (before : Option Char) (offset skip : Nat) :
    scanFrom recogniser before offset skip text <+:
      scanFrom recogniser before offset skip (text ++ tail) := by
  induction text generalizing before offset skip with
  | nil => exact List.nil_prefix
  | cons c text ih =>
    cases skip with
    | succ skip => exact ih (some c) (offset + 1) skip
    | zero =>
      rcases h before (c :: text) with hsame | hnone
      · rw [List.cons_append] at hsame ⊢
        simp only [scanFrom, hsame]
        cases recogniser before (c :: text) with
        | none => exact ih (some c) (offset + 1) 0
        | some hit => exact (List.prefix_cons_inj _).mpr (ih (some c) (offset + 1) (hit.size - 1))
      · have hnil : scanFrom recogniser before offset 0 (c :: text) = [] := by
          apply scanFrom_eq_nil
          intro read rest htext
          exact hnone rest ⟨read, htext.symm⟩ _
        rw [hnil]
        exact List.nil_prefix

theorem scan_prefix_append {tail : Text} (h : recogniser.KeepsHits tail) (text : Text) :
    scan recogniser text <+: scan recogniser (text ++ tail) :=
  scanFrom_prefix_append h text none 0 0

theorem Recogniser.RunsUpTo.needs (h : recogniser.RunsUpTo mark) : recogniser.Needs mark := by
  intro before text hmark
  apply Option.eq_none_iff_forall_ne_some.mpr
  intro hit hhit
  obtain ⟨word, rest, -, rfl, -⟩ := h before text hit hhit
  simp at hmark

theorem Recogniser.RunsUpTo.eq_some (h : recogniser.RunsUpTo mark) {before : Option Char}
    {word rest : Text} {hit : Hit α} (hword : mark ∉ word)
    (hhit : recogniser before (word ++ mark :: rest) = some hit) (other : Text) :
    recogniser before (word ++ mark :: other) = some hit := by
  obtain ⟨word', rest', hword', htext, hother⟩ := h before _ hit hhit
  obtain rfl : word = word' := by
    rw [← takeWhile_ne_append_cons hword rest, htext, takeWhile_ne_append_cons hword']
  exact hother other

theorem Recogniser.RunsUpTo.keepsHits (h : recogniser.RunsUpTo mark) (tail : Text) :
    recogniser.KeepsHits tail := by
  intro before text
  by_cases hmark : mark ∈ text
  · left
    obtain ⟨word, rest, rfl, hword⟩ := List.eq_append_cons_of_mem hmark
    rw [List.append_assoc, List.cons_append]
    apply Option.ext
    intro hit
    exact ⟨fun hhit => h.eq_some hword hhit rest, fun hhit => h.eq_some hword hhit _⟩
  · right
    intro rest hsuffix other
    exact h.needs other rest fun hmem => hmark (hsuffix.subset hmem)

end Scans

/-! ## Patterns -/

theorem functionHead?_runsUpTo : functionHead?.RunsUpTo '(' := by
  intro before text hit hhit
  obtain ⟨hstart, gap, name, space, rest, hne, hgap, hname, hspace, rfl, rfl⟩ :=
    functionHead?_eq_some_iff.mp hhit
  refine ⟨_, rest, ?_, rfl, functionHead?_parts hstart hne hgap hname hspace⟩
  simp only [List.mem_append, not_or]
  exact ⟨⟨⟨by decide, hgap.notMem (by decide)⟩, notMem_of_isIdentifier hname (by decide)⟩,
    hspace.notMem (by decide)⟩

theorem parameterList?_runsUpTo : parameterList?.RunsUpTo ')' := by
  intro before text hit hhit
  obtain ⟨hstart, gap, run, space, inside, rest, hgap, hrun, hend, hspace, hinside, rfl, rfl⟩ :=
    parameterList?_eq_some_iff.mp hhit
  refine ⟨"function".toList ++ gap ++ run ++ space ++ '(' :: inside, rest, ?_, by simp, ?_⟩
  · have hrun' : ')' ∉ run := fun hmem => absurd (hrun _ hmem) (by decide)
    simp only [List.mem_append, List.mem_cons, not_or]
    exact ⟨⟨⟨⟨by decide, hgap.notMem (by decide)⟩, hrun'⟩, hspace.notMem (by decide)⟩, by decide,
      hinside⟩
  · intro other
    have hparts := parameterList?_parts hstart hgap hrun hend hspace hinside other
    simpa only [List.append_assoc, List.cons_append] using hparts

theorem isBlankText_of_solid_append {word gap left right : Text} {c : Char}
    (hword : ∀ d ∈ word, isBlank d = false) (hgap : IsBlankText gap) (hc : isBlank c = true)
    (h : word ++ gap = left ++ c :: right) : IsBlankText right := by
  rcases List.append_eq_append_iff.mp h with ⟨more, -, rfl⟩ | ⟨more, rfl, hmore⟩
  · intro d hd
    exact hgap d (by simp [hd])
  · cases more with
    | nil =>
      intro d hd
      exact hgap d (by rw [← List.nil_append gap, ← hmore]; simp [hd])
    | cons d more =>
      obtain ⟨rfl, -⟩ := List.cons.inj hmore
      rw [hword c (by simp)] at hc
      contradiction

/-- A gap that ends in a text is not prolonged by what stands behind the text. -/
theorem afterGap?_append {text : Text} (h : ¬ IsBlankText text) (tail : Text) :
    afterGap? (text ++ tail) = (afterGap? text).map (· ++ tail) := by
  cases text with
  | nil => exact absurd (by simp [IsBlankText]) h
  | cons c text =>
    cases hc : isBlank c with
    | false => simp [afterGap?, hc]
    | true =>
      have hrest : text.dropWhile isBlank ≠ [] := by
        intro hnil
        rw [List.dropWhile_eq_nil_iff] at hnil
        exact h (List.forall_mem_cons.mpr ⟨hc, hnil⟩)
      simp [afterGap?, hc, skipBlanks, List.dropWhile_append, hrest]

namespace Profile

variable {profile : Profile}

theorem declaration?_keyword_blanks {keyword gap rest : Text}
    (hkeyword : keyword ∈ profile.keywords.map String.toList) (hgap : IsBlankText gap)
    (hrest : rest <:+ keyword ++ gap) (before : Option Char) :
    profile.declaration? before rest = none := by
  apply Option.eq_none_iff_forall_ne_some.mpr
  intro hit hhit
  obtain ⟨-, word, space, behind, -, hne, hspace, hname, rfl, -⟩ :=
    declaration?_eq_some_iff.mp hhit
  obtain ⟨front, htext⟩ := hrest
  cases space with
  | nil => contradiction
  | cons c space =>
    have hsolid := (isSolid_of_isIdentifier (isIdentifier_of_keyword hkeyword)).2
    have hcut : keyword ++ gap = (front ++ word) ++ c :: (space ++ hit.value ++ behind) := by
      rw [← htext]
      simp
    have hblank := isBlankText_of_solid_append hsolid hgap (hspace c (by simp)) hcut
    obtain ⟨d, others, hvalue, hd, -⟩ := isIdentifier_iff.mp hname
    have hd' := isBlank_of_isIdentifierChar (isIdentifierChar_of_start hd)
    rw [hblank d (by simp [hvalue])] at hd'
    contradiction

theorem declaration?_keepsHits (profile : Profile) (more : Text) :
    profile.declaration?.KeepsHits ('\n' :: more) := by
  intro before text
  have hkeywords : ∀ keyword ∈ profile.keywords, '\n' ∉ keyword.toList := by
    cases profile <;> decide
  cases hfind : profile.keywords.findSome? fun keyword => after? keyword.toList text with
  | none =>
    left
    simp only [declaration?, keywordName?, findSome?_after?_append_cons hkeywords, hfind,
      Option.map_none, Option.bind_eq_bind, Option.bind_none]
  | some behind =>
    by_cases hblank : IsBlankText behind
    · right
      obtain ⟨keyword, hkeyword, rfl⟩ := findSome?_keyword_iff.mp hfind
      intro rest hrest other
      exact declaration?_keyword_blanks hkeyword hblank hrest other
    · left
      simp only [declaration?, keywordName?, findSome?_after?_append_cons hkeywords, hfind,
        Option.map_some, Option.bind_eq_bind, Option.bind_some, afterGap?_append hblank,
        identifier?_append_cons (show isIdentifierChar '\n' = false by decide), Option.bind_map,
        Function.comp_def, taken_append_append]

/-! ## Declared names -/

theorem declaredOtherwise_subset_append (profile : Profile) (text tail : Text) :
    profile.declaredOtherwise text ⊆ profile.declaredOtherwise (text ++ tail) := by
  cases profile with
  | java => exact List.Subset.refl _
  | script =>
    have hheads := scan_prefix_append (functionHead?_runsUpTo.keepsHits tail) text
    obtain ⟨lists, hlists⟩ := scan_prefix_append (parameterList?_runsUpTo.keepsHits tail) text
    have hfunctions : (functionDeclarations text).map FunctionDeclaration.name ⊆
        (functionDeclarations (text ++ tail)).map FunctionDeclaration.name :=
      List.map_subset _ (List.map_subset _ hheads.subset)
    have hparameters : parameterNames text ⊆ parameterNames (text ++ tail) := by
      rw [parameterNames, parameterNames, ← hlists, List.flatMap_append]
      exact List.subset_append_left _ _
    intro name
    simp only [declaredOtherwise, List.mem_append]
    rintro ((hbuiltin | hfunction) | hparameter)
    · exact .inl (.inl hbuiltin)
    · exact .inl (.inr (hfunctions hfunction))
    · exact .inr (hparameters hparameter)

theorem declared_subset_append (profile : Profile) (text more : Text) :
    profile.declared text ⊆ profile.declared (text ++ '\n' :: more) := by
  have hkeywords := (scan_prefix_append (profile.declaration?_keepsHits more) text).subset
  intro name hname
  rw [mem_declared_iff] at hname ⊢
  rcases hname with hname | hname
  · exact .inl (List.map_subset Prod.snd hkeywords hname)
  · exact .inr (declaredOtherwise_subset_append profile text _ hname)

end Profile

/-- Whatever lines are put below a text, the names that it declares stay declared, so that none
of them is reported as undefined. -/
theorem declared_survive_lines_below (profile : Profile) (text more : Text) :
    profile.declared text ⊆ profile.declared (text ++ '\n' :: more) ∧
      ∃ findings, checkUndefinedReferences profile (text ++ '\n' :: more) = .ok findings ∧
        ∀ finding ∈ findings, ∀ name ∈ profile.declared text,
          finding.issue.name ≠ some name := by
  refine ⟨profile.declared_subset_append text more, undefinedFindings profile _,
    checkUndefinedReferences_eq profile _, ?_⟩
  intro finding hfinding name hname heq
  exact notMem_declared_of_mem_undefinedFindings hfinding heq
    (profile.declared_subset_append text more hname)

end SurfaceLint
