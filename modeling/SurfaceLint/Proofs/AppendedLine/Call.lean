import SurfaceLint.Proofs.AppendedLine.Scan
import SurfaceLint.Proofs.Finding
import SurfaceLint.Proofs.Names.CallSite

/-!
# Calling a function on a new line

A line that calls a function is put behind a text. It is a call site of this function and of
no other one, and it declares nothing, whatever the text breaks off in. The findings on
functions that are never called are therefore those of the text, without the ones that concern
the function.
-/

namespace SurfaceLint

/-- The text with a further line that calls a function. -/
def withCall (text name : Text) : Text :=
  text ++ "\n;".toList ++ name ++ "();".toList

theorem withCall_eq (text name : Text) :
    withCall text name = text ++ '\n' :: ';' :: (name ++ "();".toList) := by
  rw [withCall, List.append_assoc, List.append_assoc]
  rfl

/-! ## Declarations -/

section Declarations

variable {name : Text} (h : isIdentifier name = true)
include h

theorem functionHead?_call {read rest : Text} (hline : name ++ "();".toList = read ++ rest)
    (before : Option Char) : functionHead? before rest = none := by
  apply Option.eq_none_iff_forall_ne_some.mpr
  intro hit hhit
  obtain ⟨-, gap, word, space, behind, hne, hgap, -, -, rfl, -⟩ :=
    functionHead?_eq_some_iff.mp hhit
  cases gap with
  | nil => contradiction
  | cons c gap =>
    have hblank : isBlank c = true := hgap c (by simp)
    have hmem : c ∈ name ++ "();".toList := by
      rw [hline]
      simp
    rcases List.mem_append.mp hmem with hname | hmark
    · exact (isSolid_of_isIdentifier h).notMem hblank hname
    · have hsolid : IsSolid "();".toList := by decide
      exact hsolid.notMem hblank hmark

theorem functionDeclarations_withCall (text : Text) :
    functionDeclarations (withCall text name) = functionDeclarations text := by
  have hline : scanFrom functionHead? (some ';') (text.length + 2) 0
      (name ++ "();".toList) = [] := by
    apply scanFrom_eq_nil
    intro read rest hcut
    exact functionHead?_call h hcut _
  rw [functionDeclarations, withCall_eq, scan_append_semicolon_line (functionHead?_stopsBefore _)
    functionHead?_ignoresBlanks, hline, List.append_nil, functionDeclarations]

end Declarations

/-! ## Call sites -/

theorem callSite?_needs (name : Text) : (callSite? name).Needs '(' := by
  intro before text hmark
  apply Option.eq_none_iff_forall_ne_some.mpr
  intro hit hhit
  obtain ⟨-, gap, behind, -, rfl, -⟩ := callSite?_eq_some_iff.mp hhit
  simp at hmark

section Sites

variable {name : Text} (h : isIdentifier name = true)
include h

theorem callSite?_stopsBefore {c : Char} (hblank : isBlank c = false)
    (hidentifier : isIdentifierChar c = false) (hparen : '(' ≠ c) (rest : Text) :
    (callSite? name).StopsBefore (c :: rest) where
  fits before text hit hhit := by
    obtain ⟨-, gap, behind, -, rfl, rfl⟩ := callSite?_eq_some_iff.mp hhit
    exact ⟨by simp, by simp⟩
  append before text := by
    simp only [callSite?, after?_append_cons (notMem_of_isIdentifier h hidentifier),
      afterMark?_append_cons hblank hparen, Option.bind_eq_bind, Option.bind_map,
      Function.comp_def, taken_append_append]

theorem scanFrom_callSite?_self (offset : Nat) :
    scanFrom (callSite? name) (some ';') offset 0 (name ++ "();".toList) = [(offset, ())] := by
  have hline : name ++ "();".toList = (name ++ ['(']) ++ ");".toList := by simp
  have hsite : callSite? name (some ';') (name ++ ['(']) = some ⟨(), (name ++ ['(']).length⟩ :=
    callSite?_eq_some_iff.mpr ⟨by decide, [], [], by decide, by simp, by simp⟩
  have hstops : (callSite? name).StopsBefore ");".toList :=
    callSite?_stopsBefore h (by decide) (by decide) (by decide) _
  rw [hline, scanFrom_append hstops _ _ _ (Nat.zero_le _),
    scanFrom_eq_singleton (by simp) hsite (Nat.le_refl _),
    scanFrom_eq_nil_of_needs (callSite?_needs name) (by decide), List.append_nil]

/-- It is one of no other name: what is called up to the only parenthesis is the end of the
called name, and in front of a proper end stands a character of the name. -/
theorem eq_of_callSite?_call {other read rest : Text} {hit : Hit Unit}
    (hline : name ++ "();".toList = read ++ rest)
    (hhit : callSite? other (read.getLast?.or (some ';')) rest = some hit) : other = name := by
  obtain ⟨hstart, gap, behind, hgap, rfl, -⟩ := callSite?_eq_some_iff.mp hhit
  have hcut : name ++ '(' :: ");".toList = read ++ other ++ gap ++ '(' :: behind := by
    rw [← List.append_assoc, ← List.append_assoc] at hline
    exact hline
  obtain ⟨rfl, -⟩ := (List.append_cons_inj_of_notMem
    (notMem_of_isIdentifier h (by decide)) (by decide)).mp hcut
  have hmem : ∀ c ∈ read ++ other ++ gap, isIdentifierChar c = true := fun c hc =>
    isIdentifierChar_of_mem h hc
  have hgap' : gap = [] := by
    apply List.eq_nil_iff_forall_not_mem.mpr
    intro c hc
    have hc' := hmem c (by simp [hc])
    rw [isIdentifierChar_of_isBlank (hgap c hc)] at hc'
    contradiction
  have hread : read = [] := by
    by_contra hne
    have hlast := hmem (read.getLast hne) (by simp)
    rw [List.getLast?_eq_some_getLast hne] at hstart
    simp [atIdentifierStart, hlast] at hstart
  simp [hread, hgap']

theorem countCallSites_withCall {other : Text} (hother : isIdentifier other = true)
    (text : Text) :
    countCallSites (withCall text name) other =
      countCallSites text other + if other = name then 1 else 0 := by
  have hstops : (callSite? other).StopsBefore (';' :: (name ++ "();".toList)) :=
    callSite?_stopsBefore hother (by decide) (by decide) (by decide) _
  rw [countCallSites, withCall_eq,
    scan_append_semicolon_line hstops (callSite?_ignoresBlanks hother), List.length_append,
    countCallSites]
  by_cases hname : other = name
  · rw [if_pos hname, hname, scanFrom_callSite?_self h, List.length_singleton]
  · have hline : scanFrom (callSite? other) (some ';') (text.length + 2) 0
        (name ++ "();".toList) = [] := by
      apply scanFrom_eq_nil
      intro read rest hcut
      apply Option.eq_none_iff_forall_ne_some.mpr
      intro hit hhit
      exact hname (eq_of_callSite?_call h hcut hhit)
    rw [if_neg hname, hline, List.length_nil]

end Sites

/-! ## Unused functions and findings -/

section Unused

variable {name : Text} (h : isIdentifier name = true) (text : Text)
include h

theorem unusedFunctions_withCall :
    unusedFunctions (withCall text name) =
      (unusedFunctions text).filter fun declaration => declaration.name ≠ name := by
  rw [unusedFunctions_eq_filter, functionDeclarations_withCall h, unusedFunctions_eq_filter,
    List.filter_filter]
  apply List.filter_congr
  intro declaration hdeclaration
  obtain ⟨hidentifier, -, -⟩ := FunctionDeclaration.isCallSite hdeclaration
  have hpos := countCallSites_pos hdeclaration
  rw [countCallSites_withCall h hidentifier, ← Bool.decide_and, decide_eq_decide]
  by_cases hname : declaration.name = name
  · rw [if_pos hname]
    exact iff_of_false (by omega) fun hboth => hboth.1 hname
  · rw [if_neg hname, Nat.add_zero]
    exact ⟨fun hle => ⟨hname, hle⟩, And.right⟩

theorem unusedFindings_withCall :
    unusedFindings (withCall text name) =
      (unusedFindings text).filter fun finding => finding.issue.name ≠ some name := by
  have hsame : ∀ declaration ∈ unusedFunctions text,
      declaration.finding (withCall text name) = declaration.finding text := by
    intro declaration hunused
    obtain ⟨hstart, hstop⟩ :=
      FunctionDeclaration.bounds (mem_functionDeclarations_of_unused hunused)
    rw [withCall_eq, FunctionDeclaration.finding, Range.between_append hstart hstop,
      FunctionDeclaration.finding]
  rw [unusedFindings, unusedFunctions_withCall h, unusedFindings,
    filter_name_map_finding fun _ => rfl]
  apply List.map_congr_left
  intro declaration hdeclaration
  exact hsame declaration (List.mem_of_mem_filter hdeclaration)

end Unused

/-- Calling a function on a further line removes exactly the findings on this function. The
other ones keep their order and their places. -/
theorem checkUnusedFunctions_withCall (text : Text) {name : Text}
    (h : isIdentifier name = true) :
    ∃ findings, checkUnusedFunctions text = .ok findings ∧
      checkUnusedFunctions (withCall text name) =
        .ok (findings.filter fun finding => finding.issue.name ≠ some name) := by
  refine ⟨unusedFindings text, checkUnusedFunctions_eq text, ?_⟩
  rw [checkUnusedFunctions_eq, unusedFindings_withCall h]

/-- The called name is part of other names, and the text breaks off behind a keyword. -/
theorem checkUnusedFunctions_withCall_broken_off :
    isIdentifier "f".toList = true ∧
    checkUnusedFunctions
        (withCall "function f();\nfunction $f(); function ff(); function ".toList
          "f".toList) =
      .ok [⟨.unusedFunction "$f".toList, ⟨⟨1, 0⟩, ⟨1, 11⟩⟩⟩,
        ⟨.unusedFunction "ff".toList, ⟨⟨1, 15⟩, ⟨1, 26⟩⟩⟩] := by
  have hname : isIdentifier "f".toList = true := by decide
  have hbefore : checkUnusedFunctions
      "function f();\nfunction $f(); function ff(); function ".toList =
      .ok [⟨.unusedFunction "f".toList, ⟨⟨0, 0⟩, ⟨0, 10⟩⟩⟩,
        ⟨.unusedFunction "$f".toList, ⟨⟨1, 0⟩, ⟨1, 11⟩⟩⟩,
        ⟨.unusedFunction "ff".toList, ⟨⟨1, 15⟩, ⟨1, 26⟩⟩⟩] := by
    decide +kernel
  obtain ⟨findings, hfindings, hcalled⟩ := checkUnusedFunctions_withCall
    "function f();\nfunction $f(); function ff(); function ".toList hname
  rw [hbefore] at hfindings
  obtain rfl := Except.ok.inj hfindings
  exact ⟨hname, hcalled⟩

end SurfaceLint
