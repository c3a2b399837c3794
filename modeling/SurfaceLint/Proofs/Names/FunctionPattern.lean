import Mathlib.Data.Option.Basic
import SurfaceLint.Names.Declaration
import SurfaceLint.Proofs.Text.Blank

/-!
# What the patterns of functions read

A function head is the keyword, a gap, a name, blanks and an opening parenthesis. A parameter
list is the keyword, blanks, any characters of identifiers, blanks, and all that stands between
an opening parenthesis and the next closing one. Both patterns read exactly these parts.
-/

namespace SurfaceLint

theorem head?_gap_parenthesis {gap : Text} (h : IsBlankText gap) (rest : Text) :
    ∀ c ∈ (gap ++ '(' :: rest).head?, isIdentifierChar c = false :=
  head?_gap_mark h (by decide) rest

/-! ## Heads -/

section Head

variable {before : Option Char} {gap name space : Text}

theorem functionHead?_parts (hstart : atWordStart before = true) (hne : gap ≠ [])
    (hgap : IsBlankText gap) (hname : isIdentifier name = true) (hspace : IsBlankText space)
    (rest : Text) :
    functionHead? before ("function".toList ++ gap ++ name ++ space ++ '(' :: rest) =
      some ⟨⟨name, ("function".toList ++ gap ++ name).length⟩,
        ("function".toList ++ gap ++ name ++ space ++ ['(']).length⟩ := by
  have hread := identifier?_eq_some_iff.mpr ⟨hname, rfl, head?_gap_parenthesis hspace rest⟩
  have hmark : afterMark? '(' (space ++ '(' :: rest) = some rest :=
    (afterMark?_eq_some_iff (by decide)).mpr ⟨space, hspace, rfl⟩
  have hwidth : taken ("function".toList ++ gap ++ name ++ space ++ '(' :: rest)
      (space ++ '(' :: rest) = ("function".toList ++ gap ++ name).length := by
    rw [List.append_assoc _ space, taken_append]
  have hsize : taken ("function".toList ++ gap ++ name ++ space ++ '(' :: rest) rest =
      ("function".toList ++ gap ++ name ++ space ++ ['(']).length := by
    rw [List.append_cons, taken_append]
  simp only [functionHead?, Option.bind_eq_bind, Option.bind_eq_some_iff, Option.pure_def,
    Option.some.injEq, Option.guard_eq_some', after?_eq_some_iff, afterGap?_eq_some_iff]
  exact ⟨(), hstart, _, by simp only [List.append_assoc], _,
    ⟨gap, hne, hgap, rfl, head?_identifier_append hname _⟩, _, hread, rest, hmark,
    by rw [hwidth, hsize]⟩

theorem functionHead?_eq_some_iff {text : Text} {hit : Hit FunctionHead} :
    functionHead? before text = some hit ↔
      atWordStart before = true ∧ ∃ gap name space rest, gap ≠ [] ∧ IsBlankText gap ∧
        isIdentifier name = true ∧ IsBlankText space ∧
        text = "function".toList ++ gap ++ name ++ space ++ '(' :: rest ∧
        hit = ⟨⟨name, ("function".toList ++ gap ++ name).length⟩,
          ("function".toList ++ gap ++ name ++ space ++ ['(']).length⟩ := by
  constructor
  · intro h
    have hparts : atWordStart before = true ∧ ∃ gap name space rest, gap ≠ [] ∧
        IsBlankText gap ∧ isIdentifier name = true ∧ IsBlankText space ∧
        text = "function".toList ++ gap ++ name ++ space ++ '(' :: rest := by
      simp only [functionHead?, Option.bind_eq_bind, Option.bind_eq_some_iff,
        Option.guard_eq_some', after?_eq_some_iff, afterGap?_eq_some_iff,
        afterMark?_eq_some_iff (show isBlank '(' = false by decide)] at h
      obtain ⟨_, hstart, _, rfl, _, ⟨gap, hne, hgap, rfl, -⟩, ⟨name, _⟩, hread, rest,
        ⟨space, hspace, rfl⟩, -⟩ := h
      obtain ⟨hname, rfl, -⟩ := identifier?_eq_some_iff.mp hread
      exact ⟨hstart, gap, name, space, rest, hne, hgap, hname, hspace, by simp⟩
    obtain ⟨hstart, gap, name, space, rest, hne, hgap, hname, hspace, rfl⟩ := hparts
    rw [functionHead?_parts hstart hne hgap hname hspace] at h
    exact ⟨hstart, gap, name, space, rest, hne, hgap, hname, hspace, rfl, (Option.some.inj h).symm⟩
  · rintro ⟨hstart, gap, name, space, rest, hne, hgap, hname, hspace, rfl, rfl⟩
    exact functionHead?_parts hstart hne hgap hname hspace rest

end Head

/-! ## Parameter lists -/

section List

variable {before : Option Char} {gap run space inside : Text}

theorem atWordEnd_append_of_stop {text rest : Text} (h : ∀ c ∈ rest.head?, isWord c = false) :
    atWordEnd (text ++ rest) = atWordEnd text := by
  cases text with
  | cons c text => rfl
  | nil =>
    cases rest with
    | nil => rfl
    | cons c rest => simp [atWordEnd, h c rfl]

/-- Blanks, characters of identifiers and blanks again are passed over up to the parenthesis. -/
theorem afterMark?_run (hgap : IsBlankText gap) (hrun : ∀ c ∈ run, isIdentifierChar c = true)
    (hspace : IsBlankText space) (rest : Text) :
    afterMark? '(' ((skipBlanks (gap ++ run ++ space ++ '(' :: rest)).dropWhile isIdentifierChar) =
      some rest := by
  have hstop := head?_gap_parenthesis hspace rest
  cases run with
  | nil =>
    have hskip : skipBlanks ('(' :: rest) = '(' :: rest := rfl
    rw [List.append_nil, List.append_assoc, skipBlanks_append hgap, skipBlanks_append hspace, hskip]
    rfl
  | cons c run =>
    have hsolid : ∀ d ∈ (c :: run ++ (space ++ '(' :: rest)).head?, isBlank d = false := by
      rintro d ⟨⟩
      exact isBlank_of_isIdentifierChar (hrun c (by simp))
    rw [List.append_assoc, List.append_assoc, skipBlanks, dropWhile_append_of_stop hgap hsolid,
      dropWhile_append_of_stop hrun hstop]
    exact (afterMark?_eq_some_iff (by decide)).mpr ⟨space, hspace, rfl⟩

theorem exists_gap_run (text : Text) :
    ∃ gap run, IsBlankText gap ∧ (∀ c ∈ run, isIdentifierChar c = true) ∧
      text = gap ++ run ++ (skipBlanks text).dropWhile isIdentifierChar := by
  refine ⟨text.takeWhile isBlank, (skipBlanks text).takeWhile isIdentifierChar,
    fun c hc => isBlank_of_mem_takeWhile hc, List.all_eq_true.mp List.all_takeWhile, ?_⟩
  rw [List.append_assoc, List.takeWhile_append_dropWhile]
  exact skipBlanks_eq text

theorem exists_of_dropWhile_ne_eq_cons {mark c : Char} {text rest : Text}
    (h : text.dropWhile (· ≠ mark) = c :: rest) :
    ∃ inside, mark ∉ inside ∧ text = inside ++ mark :: rest := by
  obtain rfl := eq_of_dropWhile_ne_eq_cons h
  refine ⟨text.takeWhile (· ≠ c), ?_, ?_⟩
  · intro hmem
    have hne := List.all_eq_true.mp List.all_takeWhile c hmem
    simp at hne
  · rw [← h, List.takeWhile_append_dropWhile]

theorem parameterList?_parts (hstart : atWordStart before = true) (hgap : IsBlankText gap)
    (hrun : ∀ c ∈ run, isIdentifierChar c = true) (hend : atWordEnd (gap ++ run) = true)
    (hspace : IsBlankText space) (hinside : ')' ∉ inside) (rest : Text) :
    parameterList? before
        ("function".toList ++ gap ++ run ++ space ++ '(' :: (inside ++ ')' :: rest)) =
      some ⟨inside,
        ("function".toList ++ gap ++ run ++ space ++ '(' :: (inside ++ [')'])).length⟩ := by
  have hend' : atWordEnd (gap ++ run ++ space ++ '(' :: (inside ++ ')' :: rest)) = true := by
    rw [List.append_assoc, atWordEnd_append_of_stop, hend]
    intro c hc
    exact (Bool.or_eq_false_iff.mp (head?_gap_parenthesis hspace _ c hc)).1
  have hopen := afterMark?_run hgap hrun hspace (inside ++ ')' :: rest)
  have hsize : taken ("function".toList ++ gap ++ run ++ space ++ '(' :: (inside ++ ')' :: rest))
      rest = ("function".toList ++ gap ++ run ++ space ++ '(' :: (inside ++ [')'])).length := by
    have hcut : "function".toList ++ gap ++ run ++ space ++ '(' :: (inside ++ ')' :: rest) =
        ("function".toList ++ gap ++ run ++ space ++ '(' :: (inside ++ [')'])) ++ rest := by
      simp only [List.append_assoc, List.cons_append, List.nil_append]
    rw [hcut, taken_append]
  simp only [parameterList?, Option.bind_eq_bind, Option.bind_eq_some_iff, Option.guard_eq_some',
    after?_eq_some_iff]
  refine ⟨(), hstart, _, by simp only [List.append_assoc], (), hend', _, hopen, ?_⟩
  rw [dropWhile_ne_append_cons hinside, takeWhile_ne_append_cons hinside, ← hsize]
  rfl

theorem parameterList?_eq_some_iff {text : Text} {hit : Hit Text} :
    parameterList? before text = some hit ↔
      atWordStart before = true ∧ ∃ gap run space inside rest, IsBlankText gap ∧
        (∀ c ∈ run, isIdentifierChar c = true) ∧ atWordEnd (gap ++ run) = true ∧
        IsBlankText space ∧ ')' ∉ inside ∧
        text = "function".toList ++ gap ++ run ++ space ++ '(' :: (inside ++ ')' :: rest) ∧
        hit = ⟨inside,
          ("function".toList ++ gap ++ run ++ space ++ '(' :: (inside ++ [')'])).length⟩ := by
  constructor
  · intro h
    have hparts : atWordStart before = true ∧ ∃ gap run space inside rest, IsBlankText gap ∧
        (∀ c ∈ run, isIdentifierChar c = true) ∧ atWordEnd (gap ++ run) = true ∧
        IsBlankText space ∧ ')' ∉ inside ∧
        text = "function".toList ++ gap ++ run ++ space ++ '(' :: (inside ++ ')' :: rest) := by
      simp only [parameterList?, Option.bind_eq_bind, Option.bind_eq_some_iff,
        Option.guard_eq_some', after?_eq_some_iff,
        afterMark?_eq_some_iff (show isBlank '(' = false by decide)] at h
      obtain ⟨_, hstart, behind, rfl, _, hend, list, ⟨space, hspace, hopen⟩, hclose⟩ := h
      split at hclose
      · contradiction
      · rename_i c rest hrest
        obtain ⟨inside, hinside, rfl⟩ := exists_of_dropWhile_ne_eq_cons hrest
        obtain ⟨gap, run, hgap, hrun, hbehind⟩ := exists_gap_run behind
        rw [hopen] at hbehind
        have hstop := head?_gap_parenthesis hspace (inside ++ ')' :: rest)
        rw [hbehind, atWordEnd_append_of_stop
          fun c hc => (Bool.or_eq_false_iff.mp (hstop c hc)).1] at hend
        exact ⟨hstart, gap, run, space, inside, rest, hgap, hrun, hend, hspace, hinside,
          by rw [hbehind]; simp only [List.append_assoc]⟩
    obtain ⟨hstart, gap, run, space, inside, rest, hgap, hrun, hend, hspace, hinside, rfl⟩ := hparts
    rw [parameterList?_parts hstart hgap hrun hend hspace hinside] at h
    exact ⟨hstart, gap, run, space, inside, rest, hgap, hrun, hend, hspace, hinside, rfl,
      (Option.some.inj h).symm⟩
  · rintro ⟨hstart, gap, run, space, inside, rest, hgap, hrun, hend, hspace, hinside, rfl, rfl⟩
    exact parameterList?_parts hstart hgap hrun hend hspace hinside rest

end List

end SurfaceLint
