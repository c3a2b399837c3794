import SurfaceLint.Proofs.AppendedLine.Scan
import SurfaceLint.Proofs.Finding

/-!
# Declaring a name on a new line

A line that declares a name is put behind a text. It adds this name to the declared ones and
nothing else, and it holds no reference, whatever the text breaks off in. The findings on
references are therefore those of the text, without the ones that concern the name.
-/

namespace SurfaceLint

/-- The text with a further line that declares a name. -/
def Profile.declare : Profile → Text → Text → Text
  | script, text, name => text ++ "\n;let ".toList ++ name ++ ";".toList
  | java, text, name => text ++ "\n;int ".toList ++ name ++ ";".toList

/-- The keyword of this line, with a blank behind it. -/
def Profile.declaring : Profile → Text
  | script => "let ".toList
  | java => "int ".toList

theorem Profile.declare_eq (profile : Profile) (text name : Text) :
    profile.declare text name = text ++ '\n' :: ';' :: (profile.declaring ++ name ++ [';']) := by
  cases profile <;>
    · rw [declare, List.append_assoc, List.append_assoc]
      rfl

theorem scanFrom_append_semicolon {α : Type} {recogniser : Recogniser α} {word : Text} {value : α}
    {before : Option Char} (hstops : recogniser.StopsBefore [';'])
    (hword : recogniser before word = some ⟨value, word.length⟩) (offset : Nat) :
    scanFrom recogniser before offset 0 (word ++ [';']) = [(offset, value)] := by
  have hne : word ≠ [] := (hstops.fits _ _ _ hword).1
  rw [scanFrom_append hstops _ _ _ (Nat.zero_le _),
    scanFrom_eq_singleton hne hword (Nat.le_refl _)]
  simp [scanFrom, hstops.eq_none]

section Declare

variable {name : Text} (h : isIdentifier name = true)
include h

theorem Profile.notMem_declaring (profile : Profile) {c : Char}
    (hc : isIdentifierChar c = false) (hblank : c ≠ ' ') (hsemicolon : c ≠ ';') :
    c ∉ profile.declaring ++ name ++ [';'] := by
  have hdeclaring : profile.declaring.all (fun d => isIdentifierChar d || d == ' ') = true := by
    cases profile <;> decide
  simp only [List.mem_append, List.mem_singleton, not_or]
  refine ⟨⟨?_, notMem_of_isIdentifier h hc⟩, hsemicolon⟩
  intro hmem
  have hlisted := List.all_eq_true.mp hdeclaring c hmem
  simp [hc, hblank] at hlisted

/-! ## Declared names -/

theorem Profile.declaration?_declaring (profile : Profile) :
    profile.declaration? (some ';') (profile.declaring ++ name) =
      some ⟨name, (profile.declaring ++ name).length⟩ := by
  obtain ⟨keyword, hkeyword, hdeclaring⟩ : ∃ keyword ∈ profile.keywords.map String.toList,
      profile.declaring = keyword ++ [' '] := by
    cases profile with
    | script => exact ⟨"let".toList, by decide, rfl⟩
    | java => exact ⟨"int".toList, by decide, rfl⟩
  refine declaration?_eq_some_iff.mpr ⟨?_, keyword, [' '], [], hkeyword, by simp, by decide, h, ?_,
    by simp, ?_⟩
  · cases profile <;> decide
  · simp [hdeclaring]
  · simp [hdeclaring]

variable (text : Text)

theorem Profile.scan_declaration?_declare (profile : Profile) :
    scan profile.declaration? (profile.declare text name) =
      scan profile.declaration? text ++ [(text.length + 2, name)] := by
  have hblanks : profile.declaration?.IgnoresBlanks := by
    cases profile with
    | script => exact scriptDeclaration?_ignoresBlanks
    | java => exact javaDeclaration?_ignoresBlanks
  rw [declare_eq, scan_append_semicolon_line (profile.declaration?_stopsBefore _) hblanks,
    scanFrom_append_semicolon (profile.declaration?_stopsBefore [])
      (profile.declaration?_declaring h)]

theorem Profile.scan_declare {α : Type} {recogniser : Recogniser α} (profile : Profile)
    (hstops : recogniser.StopsBefore (';' :: (profile.declaring ++ name ++ [';'])))
    (hblanks : recogniser.IgnoresBlanks) (hneeds : recogniser.Needs '(') :
    scan recogniser (profile.declare text name) = scan recogniser text := by
  have hparen : '(' ∉ profile.declaring ++ name ++ [';'] :=
    profile.notMem_declaring h (by decide) (by decide) (by decide)
  rw [declare_eq, scan_append_semicolon_line hstops hblanks,
    scanFrom_eq_nil_of_needs hneeds hparen, List.append_nil]

theorem Profile.declaredOtherwise_declare (profile : Profile) :
    profile.declaredOtherwise (profile.declare text name) = profile.declaredOtherwise text := by
  cases profile with
  | script =>
    have hclose : ')' ∉ script.declaring ++ name ++ [';'] :=
      script.notMem_declaring h (by decide) (by decide) (by decide)
    have hfunctions := script.scan_declare h text (functionHead?_stopsBefore _)
      functionHead?_ignoresBlanks functionHead?_needs
    have hparameters := script.scan_declare h text (parameterList?_stopsBefore _ hclose)
      parameterList?_ignoresBlanks parameterList?_needs
    rw [declaredOtherwise, functionDeclarations, parameterNames, hfunctions, hparameters]
    rfl
  | java => rfl

theorem Profile.mem_declared_declare (profile : Profile) (other : Text) :
    other ∈ profile.declared (profile.declare text name) ↔
      other ∈ profile.declared text ∨ other = name := by
  rw [mem_declared_iff, scan_declaration?_declare h, declaredOtherwise_declare h,
    mem_declared_iff, List.map_append, List.mem_append, List.map_cons, List.map_nil,
    List.mem_singleton, or_right_comm]

/-! ## References and findings -/

theorem Profile.references_declare (profile : Profile) :
    profile.references (profile.declare text name) = profile.references text := by
  cases profile with
  | script =>
    have hline : consoleReferences (';' :: (script.declaring ++ name ++ [';'])) = [] := by
      have hnewline : '\n' ∉ script.declaring ++ name ++ [';'] :=
        script.notMem_declaring h (by decide) (by decide) (by decide)
      have hparen : '(' ∉ script.declaring ++ name ++ [';'] :=
        script.notMem_declaring h (by decide) (by decide) (by decide)
      rw [consoleReferences_of_notMem (List.not_mem_cons_of_ne_of_not_mem (by decide) hnewline),
        consoleArguments, scan, scanFrom_eq_nil_of_needs consoleCall?_needs
          (List.not_mem_cons_of_ne_of_not_mem (by decide) hparen), List.flatMap_nil]
    rw [references, declare_eq, consoleReferences_append_newline_cons, hline, List.map_nil,
      List.append_nil]
  | java =>
    rw [references, printReferences, java.scan_declare h text (printCall?_stopsBefore _)
      printCall?_ignoresBlanks printCall?_needs, printReferences]

theorem undeclaredReferences_declare (profile : Profile) :
    undeclaredReferences profile (profile.declare text name) =
      (undeclaredReferences profile text).filter fun reference => reference.name ≠ name := by
  rw [undeclaredReferences, Profile.references_declare h, undeclaredReferences,
    List.filter_filter]
  apply List.filter_congr
  intro reference _
  simp [Profile.mem_declared_declare h, Bool.and_comm]

end Declare

theorem Reference.Stands.finding_append {text : Text} {reference : Reference}
    (h : reference.Stands text) (tail : Text) :
    reference.finding (text ++ tail) = reference.finding text := by
  obtain ⟨hoffset, hstop⟩ := h.bounds
  rw [finding, Range.between_append hoffset hstop, finding]

theorem undefinedFindings_declare {name : Text} (h : isIdentifier name = true) (text : Text)
    (profile : Profile) :
    undefinedFindings profile (profile.declare text name) =
      (undefinedFindings profile text).filter fun finding => finding.issue.name ≠ some name := by
  have hsame : ∀ reference ∈ undeclaredReferences profile text,
      reference.finding (profile.declare text name) = reference.finding text := by
    intro reference hreference
    rw [Profile.declare_eq]
    exact (stands_of_mem_undeclaredReferences hreference).finding_append _
  rw [undefinedFindings, undeclaredReferences_declare h, undefinedFindings,
    filter_name_map_finding fun _ => rfl]
  apply List.map_congr_left
  intro reference hreference
  exact hsame reference (List.mem_of_mem_filter hreference)

/-- Declaring a name on a further line removes exactly the findings on this name. The other
ones keep their order and their places. -/
theorem checkUndefinedReferences_declare (profile : Profile) (text : Text) {name : Text}
    (h : isIdentifier name = true) :
    ∃ findings, checkUndefinedReferences profile text = .ok findings ∧
      checkUndefinedReferences profile (profile.declare text name) =
        .ok (findings.filter fun finding => finding.issue.name ≠ some name) := by
  refine ⟨undefinedFindings profile text, checkUndefinedReferences_eq profile text, ?_⟩
  rw [checkUndefinedReferences_eq, undefinedFindings_declare h]

/-- The text breaks off inside a parameter list and inside a call. -/
theorem checkUndefinedReferences_declare_broken_off :
    isIdentifier "a".toList = true ∧
    checkUndefinedReferences .script
        (Profile.script.declare "console.log(a, b, a); function f(a, console.log(".toList
          "a".toList) =
      .ok [⟨.undefinedVariable "b".toList, ⟨⟨0, 15⟩, ⟨0, 16⟩⟩⟩] := by
  have hname : isIdentifier "a".toList = true := by decide
  have hbefore : checkUndefinedReferences .script
      "console.log(a, b, a); function f(a, console.log(".toList =
      .ok [⟨.undefinedVariable "a".toList, ⟨⟨0, 12⟩, ⟨0, 13⟩⟩⟩,
        ⟨.undefinedVariable "b".toList, ⟨⟨0, 15⟩, ⟨0, 16⟩⟩⟩,
        ⟨.undefinedVariable "a".toList, ⟨⟨0, 18⟩, ⟨0, 19⟩⟩⟩] := by
    decide +kernel
  obtain ⟨findings, hfindings, hdeclared⟩ := checkUndefinedReferences_declare .script
    "console.log(a, b, a); function f(a, console.log(".toList hname
  rw [hbefore] at hfindings
  obtain rfl := Except.ok.inj hfindings
  exact ⟨hname, hdeclared⟩

end SurfaceLint
