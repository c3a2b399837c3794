import Mathlib.Data.List.Forall2
import SurfaceLint.Proofs.Brackets.Marks

/-!
# Well-nested brackets

A word of brackets is well nested when it is empty, or a pair around a well-nested word with
a well-nested word behind it. A text has no unmatched bracket exactly when its brackets, with
everything else deleted, are such a word. One direction runs the scan over a well-nested word
and finds the stack as it was; the other reads off the stack what is still to come, a
well-nested word before each closing bracket.
-/

namespace SurfaceLint

/-- The words of the grammar `S → ε | ( S ) S | { S } S | [ S ] S`. -/
inductive WellNested : Text → Prop
  | nil : WellNested []
  | pair (bracket : Bracket) {inner rest : Text} : WellNested inner → WellNested rest →
      WellNested (bracket.opener :: (inner ++ bracket.closer :: rest))

/-! ## Steps of the scan -/

section Scan

variable {open_ below marks rest : List BracketMark} {top mark : BracketMark}

theorem unmatchedFrom_of_opening (h : mark.side = .opening) :
    unmatchedFrom open_ (mark :: rest) = unmatchedFrom (mark :: open_) rest := by
  simp only [unmatchedFrom, h]

theorem unmatchedFrom_of_partner (h : mark.side = .closing) (hfits : top.bracket = mark.bracket) :
    unmatchedFrom (top :: below) (mark :: rest) = unmatchedFrom below rest := by
  simp only [unmatchedFrom, h, hfits, ↓reduceIte]

theorem unmatchedFrom_of_stray (h : mark.side = .closing)
    (hstray : ∀ top ∈ open_.head?, top.bracket ≠ mark.bracket) :
    unmatchedFrom open_ (mark :: rest) = mark :: unmatchedFrom open_ rest := by
  cases open_ with
  | nil => simp only [unmatchedFrom, h]
  | cons top below => simp only [unmatchedFrom, h, hstray top rfl, ↓reduceIte]

/-- A scan ends, opens a bracket, closes the innermost open one, or meets a closing bracket
that does not fit it. -/
@[elab_as_elim]
theorem scan_induction {motive : List BracketMark → List BracketMark → Prop}
    (done : ∀ open_, motive open_ [])
    (opening : ∀ open_ mark rest, mark.side = .opening → motive (mark :: open_) rest →
      motive open_ (mark :: rest))
    (partner : ∀ top below mark rest, mark.side = .closing → top.bracket = mark.bracket →
      motive below rest → motive (top :: below) (mark :: rest))
    (stray : ∀ open_ mark rest, mark.side = .closing →
      (∀ top ∈ open_.head?, top.bracket ≠ mark.bracket) → motive open_ rest →
      motive open_ (mark :: rest))
    (open_ marks : List BracketMark) : motive open_ marks := by
  induction marks generalizing open_ with
  | nil => exact done open_
  | cons mark rest ih =>
    cases hside : mark.side with
    | opening => exact opening open_ mark rest hside (ih _)
    | closing =>
      cases open_ with
      | nil => exact stray [] mark rest hside (by simp) (ih _)
      | cons top below =>
        by_cases hfits : top.bracket = mark.bracket
        · exact partner top below mark rest hside hfits (ih _)
        · exact stray (top :: below) mark rest hside (by simpa using hfits) (ih _)

/-- A scan tells brackets apart by their characters only, wherever they stand. -/
theorem unmatchedFrom_forall₂ {R : BracketMark → BracketMark → Prop}
    {open' marks' : List BracketMark} (hchar : ∀ mark other, R mark other → other.char = mark.char)
    (hopen : List.Forall₂ R open_ open') (hmarks : List.Forall₂ R marks marks') :
    List.Forall₂ R (unmatchedFrom open_ marks) (unmatchedFrom open' marks') := by
  induction open_, marks using scan_induction generalizing open' marks' with
  | done open_ =>
    obtain rfl := List.forall₂_nil_left_iff.mp hmarks
    exact List.forall₂_reverse_iff.mpr hopen
  | opening open_ mark rest hside ih =>
    obtain ⟨other, rest', hmark, hrest, rfl⟩ := List.forall₂_cons_left_iff.mp hmarks
    obtain ⟨-, hother⟩ := BracketMark.kind_of_char_eq (hchar mark other hmark)
    rw [unmatchedFrom_of_opening hside, unmatchedFrom_of_opening (hother.trans hside)]
    exact ih (.cons hmark hopen) hrest
  | partner top below mark rest hside hfits ih =>
    obtain ⟨other, rest', hmark, hrest, rfl⟩ := List.forall₂_cons_left_iff.mp hmarks
    obtain ⟨top', below', htop, hbelow, rfl⟩ := List.forall₂_cons_left_iff.mp hopen
    obtain ⟨hbracket, hother⟩ := BracketMark.kind_of_char_eq (hchar mark other hmark)
    have hfits' : top'.bracket = other.bracket := by
      rw [(BracketMark.kind_of_char_eq (hchar top top' htop)).1, hfits, hbracket]
    rw [unmatchedFrom_of_partner hside hfits,
      unmatchedFrom_of_partner (hother.trans hside) hfits']
    exact ih hbelow hrest
  | stray open_ mark rest hside hstray ih =>
    obtain ⟨other, rest', hmark, hrest, rfl⟩ := List.forall₂_cons_left_iff.mp hmarks
    obtain ⟨hbracket, hother⟩ := BracketMark.kind_of_char_eq (hchar mark other hmark)
    have hstray' : ∀ top ∈ open'.head?, top.bracket ≠ other.bracket := by
      cases hopen with
      | nil => simp
      | @cons top top' below below' htop hbelow =>
        rintro _ ⟨⟩
        rw [(BracketMark.kind_of_char_eq (hchar top top' htop)).1, hbracket]
        exact hstray top rfl
    rw [unmatchedFrom_of_stray hside hstray, unmatchedFrom_of_stray (hother.trans hside) hstray']
    exact .cons hmark (ih hopen hrest)

/-! ## From words to scans -/

/-- Brackets that are well nested leave the stack as it was and are not reported. -/
theorem WellNested.unmatchedFrom_append {word : Text} (h : WellNested word)
    (hword : marks.map BracketMark.char = word) :
    unmatchedFrom open_ (marks ++ rest) = unmatchedFrom open_ rest := by
  induction h generalizing open_ marks rest with
  | nil =>
    obtain rfl := List.map_eq_nil_iff.mp hword
    rfl
  | pair bracket _ _ ihinner ihrest =>
    obtain ⟨mark, tail, rfl, hopener, htail⟩ := List.map_eq_cons_iff.mp hword
    obtain ⟨inner, tail, rfl, hinner, htail⟩ := List.map_eq_append_iff.mp htail
    obtain ⟨partner, after, rfl, hcloser, hafter⟩ := List.map_eq_cons_iff.mp htail
    have hmark : mark = ⟨.opening, bracket, mark.position⟩ :=
      BracketMark.eq_of_char_eq hopener rfl
    have hpartner : partner = ⟨.closing, bracket, partner.position⟩ :=
      BracketMark.eq_of_char_eq hcloser rfl
    have hfits : mark.bracket = partner.bracket := by rw [hmark, hpartner]
    rw [List.cons_append, List.append_assoc, unmatchedFrom_of_opening (by rw [hmark]),
      ihinner hinner, List.cons_append, unmatchedFrom_of_partner (by rw [hpartner]) hfits,
      ihrest hafter]

/-! ## From scans to words -/

/-- A word that closes the brackets of a stack, innermost first, and is well nested before,
between and behind the brackets that do so. -/
inductive Closes : List Bracket → Text → Prop
  | nil {word : Text} : WellNested word → Closes [] word
  | cons (bracket : Bracket) {below : List Bracket} {inner rest : Text} : WellNested inner →
      Closes below rest → Closes (bracket :: below) (inner ++ bracket.closer :: rest)

theorem Closes.wellNested {word : Text} (h : Closes [] word) : WellNested word := by
  cases h with
  | nil hword => exact hword

theorem Closes.opener_cons {bracket : Bracket} {stack : List Bracket} {word : Text}
    (h : Closes (bracket :: stack) word) : Closes stack (bracket.opener :: word) := by
  cases h with
  | cons _ hinner hrest =>
    cases hrest with
    | nil hrest => exact .nil (.pair bracket hinner hrest)
    | cons other hbetween hbelow =>
      have hopened := Closes.cons other (.pair bracket hinner hbetween) hbelow
      simpa using hopened

theorem closes_of_unmatchedFrom_eq_nil (h : unmatchedFrom open_ marks = []) :
    Closes (open_.map BracketMark.bracket) (marks.map BracketMark.char) := by
  induction open_, marks using scan_induction with
  | done open_ =>
    obtain rfl : open_ = [] := List.reverse_eq_nil_iff.mp h
    exact .nil .nil
  | opening open_ mark rest hside ih =>
    rw [unmatchedFrom_of_opening hside] at h
    rw [List.map_cons, mark.char_of_opening hside]
    exact (ih h).opener_cons
  | partner top below mark rest hside hfits ih =>
    rw [unmatchedFrom_of_partner hside hfits] at h
    rw [List.map_cons, List.map_cons, mark.char_of_closing hside, hfits]
    exact .cons mark.bracket .nil (ih h)
  | stray open_ mark rest hside hstray ih =>
    rw [unmatchedFrom_of_stray hside hstray] at h
    contradiction

end Scan

/-- The brackets of a text all have partners exactly when they are well nested. -/
theorem unmatchedBrackets_eq_nil_iff_wellNested (text : Text) :
    unmatchedBrackets text = [] ↔ WellNested (bracketWord text) := by
  have hword := map_char_bracketMarksFrom .origin text
  constructor
  · intro h
    have hcloses := closes_of_unmatchedFrom_eq_nil h
    rw [bracketMarks, hword] at hcloses
    exact hcloses.wellNested
  · intro h
    have hscan : unmatchedFrom [] (bracketMarks text ++ []) = unmatchedFrom [] [] :=
      h.unmatchedFrom_append hword
    rw [List.append_nil] at hscan
    exact hscan

end SurfaceLint
