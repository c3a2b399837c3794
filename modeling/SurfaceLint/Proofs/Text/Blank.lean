import SurfaceLint.Proofs.Text.Scan

/-!
# Blanks beside words

No blank is part of a word or of an identifier. A gap of blanks is therefore skipped as a
whole and never more than the gap, so that a mark or an identifier is found behind a gap
exactly where it stands behind one.
-/

namespace SurfaceLint

/-- A text of blanks only. -/
def IsBlankText (text : Text) : Prop :=
  ∀ c ∈ text, isBlank c = true

instance (text : Text) : Decidable (IsBlankText text) :=
  decidable_of_iff (text.all isBlank = true) List.all_eq_true

theorem IsBlankText.notMem {text : Text} (h : IsBlankText text) {c : Char}
    (hc : isBlank c = false) : c ∉ text := by
  intro hmem
  rw [h c hmem] at hc
  contradiction

/-- The code points of the blanks. -/
def blankCodes : List Nat :=
  [9, 10, 11, 12, 13, 0x1C, 0x1D, 0x1E, 0x1F, 0x20, 0x85, 0xA0, 0x1680, 0x2000, 0x2001, 0x2002,
    0x2003, 0x2004, 0x2005, 0x2006, 0x2007, 0x2008, 0x2009, 0x200A, 0x2028, 0x2029, 0x202F, 0x205F,
    0x3000]

theorem toNat_mem_blankCodes {c : Char} (h : isBlank c = true) : c.toNat ∈ blankCodes := by
  simp only [isBlank, Bool.or_eq_true, Bool.and_eq_true, decide_eq_true_eq, beq_iff_eq] at h
  simp only [blankCodes, List.mem_cons, List.not_mem_nil, or_false]
  omega

theorem isIdentifierChar_of_isBlank {c : Char} (h : isBlank c = true) :
    isIdentifierChar c = false := by
  have hcodes : ∀ n ∈ blankCodes, isIdentifierChar (Char.ofNat n) = false := by decide +kernel
  have hc := hcodes c.toNat (toNat_mem_blankCodes h)
  rwa [Char.ofNat_toNat] at hc

theorem isWord_of_isBlank {c : Char} (h : isBlank c = true) : isWord c = false :=
  (Bool.or_eq_false_iff.mp (isIdentifierChar_of_isBlank h)).1

theorem isBlank_of_isIdentifierChar {c : Char} (h : isIdentifierChar c = true) :
    isBlank c = false := by
  apply Bool.eq_false_iff.mpr
  intro hblank
  rw [isIdentifierChar_of_isBlank hblank] at h
  contradiction

/-! ## Words -/

/-- A word without blanks. -/
def IsSolid (word : Text) : Prop :=
  word ≠ [] ∧ ∀ c ∈ word, isBlank c = false

instance (word : Text) : Decidable (IsSolid word) :=
  decidable_of_iff (word ≠ [] ∧ word.all (!isBlank ·) = true) (by simp [IsSolid])

theorem isSolid_of_isIdentifier {name : Text} (h : isIdentifier name = true) : IsSolid name :=
  ⟨ne_nil_of_isIdentifier h,
    fun _ hc => isBlank_of_isIdentifierChar (isIdentifierChar_of_mem h hc)⟩

theorem IsSolid.notMem {word : Text} (h : IsSolid word) {c : Char} (hc : isBlank c = true) :
    c ∉ word := by
  intro hmem
  rw [h.2 c hmem] at hc
  contradiction

theorem IsSolid.after?_blank_cons {word : Text} (h : IsSolid word) {c : Char}
    (hc : isBlank c = true) (rest : Text) : after? word (c :: rest) = none := by
  have hnotMem := h.notMem hc
  cases word with
  | nil => exact absurd rfl h.1
  | cons l word =>
    simp only [List.mem_cons, not_or] at hnotMem
    simp [after?, Ne.symm hnotMem.1]

theorem skipBlanks_append {gap : Text} (h : IsBlankText gap) (rest : Text) :
    skipBlanks (gap ++ rest) = skipBlanks rest :=
  List.dropWhile_append_of_pos h

theorem afterMark?_eq_some_iff {mark : Char} (hmark : isBlank mark = false) {text rest : Text} :
    afterMark? mark text = some rest ↔ ∃ gap, IsBlankText gap ∧ text = gap ++ mark :: rest := by
  constructor
  · exact eq_of_afterMark?
  · rintro ⟨gap, hgap, rfl⟩
    have hskip : skipBlanks (mark :: rest) = mark :: rest :=
      List.dropWhile_cons_of_neg (by simp [hmark])
    rw [afterMark?, skipBlanks_append hgap, hskip]
    exact if_pos rfl

/-- A gap ends an identifier, and so does what stands there if the gap is empty. -/
theorem head?_gap_append {gap : Text} (h : IsBlankText gap) {rest : Text}
    (hrest : ∀ c ∈ rest.head?, isIdentifierChar c = false) :
    ∀ c ∈ (gap ++ rest).head?, isIdentifierChar c = false := by
  cases gap with
  | nil => exact hrest
  | cons d gap =>
    intro c hc
    obtain rfl := Option.some.inj hc
    exact isIdentifierChar_of_isBlank (h d (by simp))

theorem head?_gap_mark {gap : Text} (h : IsBlankText gap) {mark : Char}
    (hmark : isIdentifierChar mark = false) (rest : Text) :
    ∀ c ∈ (gap ++ mark :: rest).head?, isIdentifierChar c = false := by
  apply head?_gap_append h
  rintro c ⟨⟩
  exact hmark

theorem identifier?_eq_some_iff {text name rest : Text} :
    identifier? text = some (name, rest) ↔
      isIdentifier name = true ∧ text = name ++ rest ∧
        ∀ c ∈ rest.head?, isIdentifierChar c = false := by
  constructor
  · intro h
    obtain ⟨htext, hname⟩ := eq_of_identifier? h
    refine ⟨hname, htext, ?_⟩
    cases text with
    | nil => simp [identifier?] at h
    | cons c text =>
      simp only [identifier?] at h
      split at h
      · obtain ⟨-, rfl⟩ := Prod.mk.inj (Option.some.inj h)
        intro d hd
        exact of_mem_head?_dropWhile hd
      · contradiction
  · rintro ⟨hname, rfl, hrest⟩
    obtain ⟨c, others, rfl, hc, hothers⟩ := isIdentifier_iff.mp hname
    simp only [List.cons_append, identifier?, hc, ↓reduceIte,
      takeWhile_append_of_stop hothers hrest, dropWhile_append_of_stop hothers hrest]

theorem head?_identifier_append {name : Text} (h : isIdentifier name = true) (rest : Text) :
    ∀ c ∈ (name ++ rest).head?, isBlank c = false := by
  obtain ⟨c, others, rfl, -⟩ := isIdentifier_iff.mp h
  intro d hd
  obtain rfl := Option.some.inj hd
  exact (isSolid_of_isIdentifier h).2 c (by simp)

/-- Behind blanks there is an identifier or a mark that begins none, not both. -/
theorem gap_identifier_ne_gap_mark {gap name space rest behind : Text} {mark : Char}
    (hgap : IsBlankText gap) (hname : isIdentifier name = true) (hspace : IsBlankText space)
    (hblank : isBlank mark = false) (hmark : isIdentifierStart mark = false) :
    gap ++ (name ++ rest) ≠ space ++ mark :: behind := by
  intro heq
  have hskip := congrArg (List.dropWhile isBlank) heq
  rw [dropWhile_append_of_stop hgap (head?_identifier_append hname rest),
    dropWhile_append_of_stop hspace (by rintro c ⟨⟩; exact hblank)] at hskip
  obtain ⟨c, others, rfl, hc, -⟩ := isIdentifier_iff.mp hname
  obtain ⟨rfl, -⟩ := List.cons.inj hskip
  rw [hc] at hmark
  contradiction

/-- What stands behind a name and before a parenthesis does not begin like an identifier. -/
theorem after?_gap_eq_none {name gap rest : Text} (h : isIdentifier name = true)
    (hgap : IsBlankText gap) : after? name (gap ++ '(' :: rest) = none := by
  apply Option.eq_none_iff_forall_ne_some.mpr
  intro behind hbehind
  have htext : [] ++ (name ++ behind) = gap ++ '(' :: rest := (after?_eq_some_iff.mp hbehind).symm
  exact gap_identifier_ne_gap_mark (by simp [IsBlankText]) h hgap (by decide) (by decide) htext

theorem afterGap?_eq_some_iff {text rest : Text} :
    afterGap? text = some rest ↔
      ∃ gap, gap ≠ [] ∧ IsBlankText gap ∧ text = gap ++ rest ∧
        ∀ c ∈ rest.head?, isBlank c = false := by
  constructor
  · intro h
    obtain ⟨gap, hne, hgap, htext⟩ := eq_of_afterGap? h
    refine ⟨gap, hne, hgap, htext, ?_⟩
    cases text with
    | nil => simp [afterGap?] at h
    | cons c text =>
      simp only [afterGap?] at h
      split at h
      · obtain rfl := Option.some.inj h
        intro d hd
        exact of_mem_head?_dropWhile hd
      · contradiction
  · rintro ⟨gap, hne, hgap, rfl, hrest⟩
    obtain ⟨c, gap, rfl⟩ := List.exists_cons_of_ne_nil hne
    obtain ⟨hc, hothers⟩ := List.forall_mem_cons.mp hgap
    simp only [List.cons_append, afterGap?, hc, ↓reduceIte, skipBlanks,
      dropWhile_append_of_stop hothers hrest]

end SurfaceLint
