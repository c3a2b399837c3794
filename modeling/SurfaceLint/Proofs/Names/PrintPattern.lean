import Mathlib.Data.List.Basic
import Mathlib.Data.Option.Basic
import SurfaceLint.Names.Reference
import SurfaceLint.Proofs.Text.Blank

/-!
# What the pattern of printing calls reads

A printing call is one of two methods, an opening parenthesis, a name and a closing one, with
blanks between them. The shorter method is the beginning of the longer one, and whichever of
them stands in front of the parenthesis is read.
-/

namespace SurfaceLint

/-- The methods that print. -/
def printMethods : List Text :=
  ["System.out.print".toList, "System.out.println".toList]

/-- A method that prints, with its parenthesis and the blanks around it. -/
def printHead (method gap space : Text) : Text :=
  method ++ gap ++ '(' :: space

theorem afterMethod_eq_some_iff {text inside : Text} :
    (∃ rest, after? "System.out.print".toList text = some rest ∧
      afterMark? '(' ((after? "ln".toList rest).getD rest) = some inside) ↔
    ∃ method ∈ printMethods, ∃ gap, IsBlankText gap ∧ text = method ++ gap ++ '(' :: inside := by
  have hlonger : "System.out.println".toList = "System.out.print".toList ++ "ln".toList := rfl
  simp only [after?_eq_some_iff, afterMark?_eq_some_iff (show isBlank '(' = false by decide)]
  constructor
  · rintro ⟨rest, rfl, gap, hgap, hrest⟩
    cases hln : after? "ln".toList rest with
    | none =>
      rw [hln, Option.getD_none] at hrest
      exact ⟨_, List.mem_cons_self, gap, hgap, by rw [hrest, List.append_assoc]⟩
    | some shorter =>
      rw [hln, Option.getD_some] at hrest
      refine ⟨_, List.mem_cons_of_mem _ List.mem_cons_self, gap, hgap, ?_⟩
      rw [after?_eq_some_iff.mp hln, hrest, hlonger]
      simp only [List.append_assoc]
  · rintro ⟨method, hmethod, gap, hgap, rfl⟩
    rcases List.mem_pair.mp hmethod with rfl | rfl
    · refine ⟨gap ++ '(' :: inside, List.append_assoc .., gap, hgap, ?_⟩
      rw [after?_gap_eq_none (by decide) hgap, Option.getD_none]
    · refine ⟨"ln".toList ++ (gap ++ '(' :: inside), ?_, gap, hgap, ?_⟩
      · rw [hlonger]
        simp only [List.append_assoc]
      · rw [after?_eq_some_iff.mpr rfl, Option.getD_some]

theorem printHead_append (method gap space name tail rest : Text) :
    printHead method gap space ++ name ++ tail ++ ')' :: rest =
      method ++ gap ++ '(' :: (space ++ (name ++ (tail ++ ')' :: rest))) := by
  simp [printHead]

section Print

variable {before : Option Char} {method gap space name tail : Text}

theorem printCall?_parts (hmethod : method ∈ printMethods) (hgap : IsBlankText gap)
    (hspace : IsBlankText space) (hname : isIdentifier name = true) (htail : IsBlankText tail)
    (rest : Text) :
    printCall? before (printHead method gap space ++ name ++ tail ++ ')' :: rest) =
      some ⟨⟨name, (printHead method gap space).length⟩,
        (printHead method gap space ++ name ++ tail ++ [')']).length⟩ := by
  obtain ⟨behind, hbehind, hopen⟩ := afterMethod_eq_some_iff.mpr
    ⟨method, hmethod, gap, hgap, printHead_append method gap space name tail rest⟩
  have hskip : skipBlanks (space ++ (name ++ (tail ++ ')' :: rest))) =
      name ++ (tail ++ ')' :: rest) :=
    dropWhile_append_of_stop hspace (head?_identifier_append hname _)
  have hread : identifier? (skipBlanks (space ++ (name ++ (tail ++ ')' :: rest)))) =
      some (name, tail ++ ')' :: rest) := by
    rw [hskip]
    exact identifier?_eq_some_iff.mpr ⟨hname, rfl, head?_gap_mark htail (by decide) rest⟩
  have hclose : afterMark? ')' (tail ++ ')' :: rest) = some rest :=
    (afterMark?_eq_some_iff (by decide)).mpr ⟨tail, htail, rfl⟩
  have hoffset : taken (printHead method gap space ++ name ++ tail ++ ')' :: rest)
      (name ++ (tail ++ ')' :: rest)) = (printHead method gap space).length := by
    rw [List.append_assoc, List.append_assoc, taken_append]
  have hsize : taken (printHead method gap space ++ name ++ tail ++ ')' :: rest) rest =
      (printHead method gap space ++ name ++ tail ++ [')']).length := by
    rw [List.append_cons, taken_append]
  simp only [printCall?, Option.bind_eq_bind, Option.bind_eq_some_iff, Option.pure_def]
  exact ⟨behind, hbehind, _, hopen, _, hread, rest, hclose, by rw [hskip, hoffset, hsize]⟩

theorem printCall?_eq_some_iff {text : Text} {hit : Hit Reference} :
    printCall? before text = some hit ↔
      ∃ method ∈ printMethods, ∃ gap space name tail rest, IsBlankText gap ∧ IsBlankText space ∧
        isIdentifier name = true ∧ IsBlankText tail ∧
        text = printHead method gap space ++ name ++ tail ++ ')' :: rest ∧
        hit = ⟨⟨name, (printHead method gap space).length⟩,
          (printHead method gap space ++ name ++ tail ++ [')']).length⟩ := by
  constructor
  · intro h
    have hparts : ∃ method ∈ printMethods, ∃ gap space name tail rest, IsBlankText gap ∧
        IsBlankText space ∧ isIdentifier name = true ∧ IsBlankText tail ∧
        text = printHead method gap space ++ name ++ tail ++ ')' :: rest := by
      simp only [printCall?, Option.bind_eq_bind, Option.bind_eq_some_iff,
        afterMark?_eq_some_iff (show isBlank ')' = false by decide)] at h
      obtain ⟨behind, hbehind, inside, hopen, ⟨name, _⟩, hread, rest, ⟨tail, htail, rfl⟩, -⟩ := h
      obtain ⟨method, hmethod, gap, hgap, rfl⟩ :=
        afterMethod_eq_some_iff.mp ⟨behind, hbehind, hopen⟩
      obtain ⟨hname, hargument, -⟩ := identifier?_eq_some_iff.mp hread
      refine ⟨method, hmethod, gap, inside.takeWhile isBlank, name, tail, rest, hgap,
        fun c hc => isBlank_of_mem_takeWhile hc, hname, htail, ?_⟩
      have hinside := skipBlanks_eq inside
      rw [hargument] at hinside
      rw [printHead_append, ← hinside]
    obtain ⟨method, hmethod, gap, space, name, tail, rest, hgap, hspace, hname, htail, rfl⟩ :=
      hparts
    rw [printCall?_parts hmethod hgap hspace hname htail] at h
    exact ⟨method, hmethod, gap, space, name, tail, rest, hgap, hspace, hname, htail, rfl,
      (Option.some.inj h).symm⟩
  · rintro ⟨method, hmethod, gap, space, name, tail, rest, hgap, hspace, hname, htail, rfl, rfl⟩
    exact printCall?_parts hmethod hgap hspace hname htail rest

end Print

end SurfaceLint
