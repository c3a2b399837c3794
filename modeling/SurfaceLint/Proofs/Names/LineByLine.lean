import SurfaceLint.Proofs.Names.ConsoleCall
import SurfaceLint.Proofs.Text.LineIndex

/-!
# Calls line by line

The references of a script are found in its lines, one line after the other, with a running
total of the lengths of the lines above. That total is where the line index starts a line, so
the place that the index gives for an end of a reference is the number of its line and the
column in it. Nothing is carried over a line end: texts on lines of their own can be read apart,
and a call that is not closed on its line has no references.
-/

namespace SurfaceLint

/-- The running total of the lengths of the lines is where each line starts. -/
theorem lineReferences_eq_flatMap (start : Nat) (lines : List Text) :
    lineReferences start lines = lines.zipIdx.flatMap fun numbered =>
      (consoleArguments numbered.1).map
        (·.shift (start + lineStart lines numbered.2)) := by
  induction lines generalizing start with
  | nil => rfl
  | cons line lines ih =>
    rw [lineReferences, ih, List.zipIdx_cons', List.flatMap_cons, List.flatMap_map]
    simp only [lineStart, Prod.map_fst, Prod.map_snd, id, Nat.add_zero,
      Nat.add_assoc]

theorem consoleReferences_eq_flatMap (text : Text) :
    consoleReferences text = (numberedLines text).flatMap fun numbered =>
      (consoleArguments numbered.1).map
        (·.shift (lineStart (splitLines text) numbered.2)) := by
  rw [consoleReferences, lineReferences_eq_flatMap]
  simp only [Nat.zero_add]
  rfl

theorem positionAt_lineStart_add {text line : Text} {number column : Nat}
    (h : (splitLines text)[number]? = some line) (hcolumn : column ≤ line.length) :
    (LineIndex.ofText text).positionAt
        ((lineStart (splitLines text) number + column : Nat) : Int) =
      .ok ⟨number, column⟩ := by
  obtain ⟨hle, hafter⟩ := after_take_lineStart h hcolumn
  rw [LineIndex.positionAt_ofText hle, hafter]

/-- The arguments of a call end before its line does. -/
def ClosesOnLine (text : Text) (opening : Nat) : Prop :=
  ∃ raws rest, ArgumentList (restOfLine text opening) raws rest

theorem referencesFrom_of_not_closesOnLine {text : Text} {opening : Nat}
    (h : ¬ClosesOnLine text opening) : referencesFrom text opening = [] := by
  have hnone : splitArguments (restOfLine text opening) = none := by
    apply Option.eq_none_iff_forall_ne_some.mpr
    intro raws hraws
    obtain ⟨rest, hlist⟩ := exists_argumentList hraws
    exact h ⟨raws, rest, hlist⟩
  rw [referencesFrom, hnone]
  rfl

/-- The references of a script, by the places of their ends, are those of its lines, by the
numbers of the lines and the columns in them. Texts with a line end between them keep their
references, and the calls that are not closed on their lines have none. -/
theorem console_references_line_by_line (text : Text) :
    ((consoleReferences text).map fun reference =>
        (reference.name, (LineIndex.ofText text).positionAt reference.offset,
          (LineIndex.ofText text).positionAt reference.stop)) =
      ((numberedLines text).flatMap fun numbered =>
        (consoleArguments numbered.1).map fun reference =>
          (reference.name, .ok ⟨numbered.2, reference.offset⟩,
            .ok ⟨numbered.2, reference.stop⟩)) ∧
    (∀ rest : Text, consoleReferences (text ++ '\n' :: rest) =
      consoleReferences text ++ (consoleReferences rest).map (·.shift (text.length + 1))) ∧
    ∃ openings : List Nat, openings.Pairwise (· < ·) ∧
      (∀ opening, opening ∈ openings ↔ OpensCall text opening) ∧
      consoleReferences text = openings.flatMap (referencesFrom text) ∧
      ∀ opening ∈ openings, ¬ClosesOnLine text opening → referencesFrom text opening = [] := by
  refine ⟨?_, consoleReferences_append_newline_cons text, ?_⟩
  · rw [consoleReferences_eq_flatMap, List.map_flatMap]
    apply List.flatMap_congr
    intro numbered hnumbered
    have hline := List.mem_zipIdx_iff_getElem?.mp hnumbered
    rw [List.map_map]
    apply List.map_congr_left
    intro reference hreference
    obtain ⟨hoffset, hstop⟩ := (stands_of_mem_consoleArguments hreference).bounds
    have hend := positionAt_lineStart_add hline hstop
    rw [Reference.stop, ← Nat.add_assoc] at hend
    exact congrArg _ (congrArg₂ _ (positionAt_lineStart_add hline hoffset) hend)
  · obtain ⟨openings, horder, hmem, hreferences⟩ := exists_openings text
    exact ⟨openings, horder, hmem, hreferences, fun _ _ => referencesFrom_of_not_closesOnLine⟩

end SurfaceLint
