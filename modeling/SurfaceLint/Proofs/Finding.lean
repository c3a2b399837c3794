import SurfaceLint.Finding
import SurfaceLint.Proofs.Brackets.Pairs
import SurfaceLint.Proofs.Names.Occurrence
import SurfaceLint.Proofs.Traversal

/-!
# Findings without failure

The places that the checks compute always exist, so no family of checks ever fails. Each
family is given here as a plain list of findings, with ranges read off the text in front of
their ends, and shown to be what the check reports.
-/

namespace SurfaceLint

/-- The span between two offsets of a text. -/
def Range.between (text : Text) (start stop : Nat) : Range :=
  ⟨.after (text.take start), .after (text.take stop)⟩

theorem Range.between_append {text : Text} {start stop : Nat} (hstart : start ≤ text.length)
    (hstop : stop ≤ text.length) (tail : Text) :
    Range.between (text ++ tail) start stop = Range.between text start stop := by
  simp only [between, List.take_append_of_le_length hstart, List.take_append_of_le_length hstop]

theorem filter_name_map_finding {α : Type} {finding : α → Finding} {nameOf : α → Text}
    (h : ∀ x, (finding x).issue.name = some (nameOf x)) (xs : List α) (name : Text) :
    ((xs.map finding).filter fun found => found.issue.name ≠ some name) =
      (xs.filter fun x => nameOf x ≠ name).map finding := by
  rw [List.filter_map]
  congr 1
  apply List.filter_congr
  intro x _
  simp [h]

theorem Finding.between_ofText {text : Text} {start stop : Nat} (issue : Issue)
    (hstart : start ≤ text.length) (hstop : stop ≤ text.length) :
    Finding.between (.ofText text) issue start stop =
      .ok ⟨issue, Range.between text start stop⟩ := by
  have hrange : (LineIndex.ofText text).rangeAt start stop =
      .ok (Range.between text start stop) := by
    simp only [LineIndex.rangeAt, LineIndex.positionAt_ofText hstart,
      LineIndex.positionAt_ofText hstop]
    rfl
  simp only [Finding.between, hrange]

/-! ## Brackets -/

theorem exists_line_of_mem_unmatchedBrackets {text : Text} {mark : BracketMark}
    (h : mark ∈ unmatchedBrackets text) :
    ∃ line, (splitLines text)[mark.position.line]? = some line ∧ line ≠ [] := by
  have hmark := unmatchedBrackets_subset h
  have hlt := offset_lt_of_mem_bracketMarks hmark
  obtain ⟨hget, hposition⟩ := place_of_mem_bracketMarks hmark
  obtain ⟨line, hline, -, hdrop, -⟩ := line_at_after (Nat.le_of_lt hlt)
  refine ⟨line, by rw [hposition]; exact hline, ?_⟩
  rintro rfl
  -- from the bracket on, the line holds at least the bracket
  have hchar : text[mark.offset text] = mark.char := (List.getElem?_eq_some_iff.mp hget).2
  rw [List.drop_nil, List.drop_eq_getElem_cons hlt, hchar,
    List.takeWhile_cons_of_pos (by simpa using mark.char_ne_newline)] at hdrop
  contradiction

def bracketFindings (text : Text) : List Finding :=
  (unmatchedBrackets text).map fun mark =>
    ⟨.incompleteBlock,
      Range.ofLine mark.position.line ((splitLines text)[mark.position.line]?.getD [])⟩

theorem checkBrackets_eq (text : Text) : checkBrackets text = .ok (bracketFindings text) := by
  apply mapM_eq_ok
  intro mark hmark
  obtain ⟨line, hget, -⟩ := exists_line_of_mem_unmatchedBrackets hmark
  simp [hget]

/-! ## Semicolons, references and functions -/

def semicolonFindings (text : Text) : List Finding :=
  ((numberedLines text).filter fun (line, _) => !isTerminated line).map
    fun (line, number) => ⟨.missingSemicolon, Range.ofLine number line⟩

theorem checkSemicolons_eq (text : Text) :
    checkSemicolons text = .ok (semicolonFindings text) := rfl

/-- The references that nothing declares. -/
def undeclaredReferences (profile : Profile) (text : Text) : List Reference :=
  (profile.references text).filter fun reference =>
    !(profile.declared text).contains reference.name

def Reference.finding (text : Text) (reference : Reference) : Finding :=
  ⟨.undefinedVariable reference.name, Range.between text reference.offset reference.stop⟩

def undefinedFindings (profile : Profile) (text : Text) : List Finding :=
  (undeclaredReferences profile text).map (·.finding text)

theorem stands_of_mem_undeclaredReferences {profile : Profile} {text : Text}
    {reference : Reference} (h : reference ∈ undeclaredReferences profile text) :
    reference.Stands text :=
  Profile.stands_of_mem_references (List.mem_filter.mp h).1

theorem checkUndefinedReferences_eq (profile : Profile) (text : Text) :
    checkUndefinedReferences profile text = .ok (undefinedFindings profile text) := by
  apply mapM_eq_ok
  intro reference hreference
  obtain ⟨hoffset, hstop⟩ := (stands_of_mem_undeclaredReferences hreference).bounds
  exact Finding.between_ofText _ hoffset hstop

theorem notMem_declared_of_mem_undefinedFindings {profile : Profile} {text name : Text}
    {finding : Finding} (h : finding ∈ undefinedFindings profile text)
    (hname : finding.issue.name = some name) : name ∉ profile.declared text := by
  obtain ⟨reference, hreference, rfl⟩ := List.mem_map.mp h
  obtain rfl := Option.some.inj hname
  simpa using (List.mem_filter.mp hreference).2

def FunctionDeclaration.finding (text : Text) (declaration : FunctionDeclaration) : Finding :=
  ⟨.unusedFunction declaration.name, Range.between text declaration.start declaration.stop⟩

def unusedFindings (text : Text) : List Finding :=
  (unusedFunctions text).map (·.finding text)

theorem mem_functionDeclarations_of_unused {text : Text} {declaration : FunctionDeclaration}
    (h : declaration ∈ unusedFunctions text) : declaration ∈ functionDeclarations text :=
  (List.mem_filter.mp (unusedFunctions_eq_filter text ▸ h)).1

theorem FunctionDeclaration.bounds {text : Text} {declaration : FunctionDeclaration}
    (h : declaration ∈ functionDeclarations text) :
    declaration.start ≤ text.length ∧ declaration.stop ≤ text.length := by
  obtain ⟨gap, -, -, -, hstands, hstop⟩ := FunctionDeclaration.standsAt h
  have hle := hstands.stop_le
  omega

theorem checkUnusedFunctions_eq (text : Text) :
    checkUnusedFunctions text = .ok (unusedFindings text) := by
  apply mapM_eq_ok
  intro declaration hdeclaration
  obtain ⟨hstart, hstop⟩ :=
    FunctionDeclaration.bounds (mem_functionDeclarations_of_unused hdeclaration)
  exact Finding.between_ofText _ hstart hstop

/-! ## All families -/

def familyFindings (profile : Profile) (text : Text) : CheckFamily → List Finding
  | .brackets => bracketFindings text
  | .semicolons => semicolonFindings text
  | .undefinedReferences => undefinedFindings profile text
  | .unusedFunctions => unusedFindings text

theorem standardChecks_eq (family : CheckFamily) (profile : Profile) (text : Text) :
    standardChecks family profile text = .ok (familyFindings profile text family) := by
  cases family with
  | brackets => exact checkBrackets_eq text
  | semicolons => exact checkSemicolons_eq text
  | undefinedReferences => exact checkUndefinedReferences_eq profile text
  | unusedFunctions => exact checkUnusedFunctions_eq text

/-- No family is passed over, and nothing is logged. -/
theorem collectFindings_standardChecks (profile : Profile) (text : Text) :
    collectFindings standardChecks profile text =
      ⟨profile.families.flatMap (familyFindings profile text), []⟩ := by
  simp [collectFindings, standardChecks_eq, runIsolated, List.flatMap_map]

theorem value_collectFindings (profile : Profile) (text : Text) :
    (collectFindings standardChecks profile text).value =
      profile.families.flatMap (familyFindings profile text) := by
  rw [collectFindings_standardChecks]

end SurfaceLint
