import Mathlib.Data.List.Forall2
import SurfaceLint.Names.Declaration
import SurfaceLint.Proofs.Text.Position
import SurfaceLint.Proofs.Text.Trim

/-!
# Scanning a text with longer line ends

A carriage return is put before every newline. Both characters are blanks and neither occurs
in a word, so every part of a pattern reads the longer text as it reads the shorter one, and
leaves the longer form of what it left there. A scan then hits at the same places, with
offsets that count the additional characters.
-/

namespace SurfaceLint

/-- The text with a carriage return before each newline. -/
def crlf (text : Text) : Text :=
  text.flatMap fun c => if c = '\n' then ['\r', '\n'] else [c]

/-- The offset in the longer text at the place of an offset in the text. -/
def crlfOffset (text : Text) (offset : Nat) : Nat :=
  (crlf (text.take offset)).length

@[simp] theorem crlf_nil : crlf [] = [] := rfl

theorem crlf_append (a b : Text) : crlf (a ++ b) = crlf a ++ crlf b :=
  List.flatMap_append

theorem crlf_newline_cons (rest : Text) : crlf ('\n' :: rest) = '\r' :: '\n' :: crlf rest := rfl

theorem crlf_cons {c : Char} (h : c ≠ '\n') (rest : Text) : crlf (c :: rest) = c :: crlf rest := by
  simp [crlf, h]

theorem crlf_of_notMem {text : Text} (h : '\n' ∉ text) : crlf text = text := by
  induction text with
  | nil => rfl
  | cons c rest ih =>
    simp only [List.mem_cons, not_or] at h
    rw [crlf_cons (Ne.symm h.1), ih h.2]

theorem crlf_line_cons {line : Text} (h : '\n' ∉ line) (rest : Text) :
    crlf (line ++ '\n' :: rest) = (line ++ ['\r']) ++ '\n' :: crlf rest := by
  rw [crlf_append, crlf_of_notMem h, crlf_newline_cons]
  simp

@[simp] theorem crlf_eq_nil_iff {text : Text} : crlf text = [] ↔ text = [] := by
  cases text with
  | nil => simp
  | cons c rest => by_cases hc : c = '\n' <;> simp [crlf, hc]

theorem mem_crlf_iff {text : Text} {c : Char} (h : c ≠ '\r') : c ∈ crlf text ↔ c ∈ text := by
  induction text with
  | nil => simp
  | cons d rest ih =>
    by_cases hd : d = '\n'
    · subst hd
      simp [crlf_newline_cons, h, ih]
    · simp [crlf_cons hd, ih]

/-! ## Offsets -/

@[simp] theorem crlfOffset_zero (text : Text) : crlfOffset text 0 = 0 := rfl

@[simp] theorem crlfOffset_length_append (read rest : Text) :
    crlfOffset (read ++ rest) read.length = (crlf read).length := by
  simp [crlfOffset]

theorem crlfOffset_add (text : Text) (a b : Nat) :
    crlfOffset text (a + b) = crlfOffset text a + crlfOffset (text.drop a) b := by
  simp [crlfOffset, List.take_add, crlf_append]

theorem crlfOffset_of_notMem {line : Text} (h : '\n' ∉ line) (rest : Text) {offset : Nat}
    (hle : offset ≤ line.length) : crlfOffset (line ++ rest) offset = offset := by
  have htake : '\n' ∉ line.take offset := fun hm => h (List.mem_of_mem_take hm)
  rw [crlfOffset, List.take_append_of_le_length hle, crlf_of_notMem htake, List.length_take]
  omega

theorem take_crlfOffset (text : Text) (offset : Nat) :
    (crlf text).take (crlfOffset text offset) = crlf (text.take offset) := by
  have h : crlf text = crlf (text.take offset) ++ crlf (text.drop offset) := by
    rw [← crlf_append, List.take_append_drop]
  rw [h, crlfOffset, List.take_left]

@[simp] theorem Position.advance_carriageReturn_newline (position : Position) :
    (position.advance '\r').advance '\n' = position.advance '\n' := by
  simp [advance]

/-- Carriage returns at the ends of lines move no place. -/
theorem Position.after_crlf (text : Text) : after (crlf text) = after text := by
  suffices h : ∀ p : Position, (crlf text).foldl advance p = text.foldl advance p from h origin
  induction text with
  | nil => intro p; rfl
  | cons c rest ih =>
    intro p
    by_cases hc : c = '\n'
    · subst hc
      simp only [crlf_newline_cons, List.foldl_cons, advance_carriageReturn_newline, ih]
    · simp only [crlf_cons hc, List.foldl_cons, ih]

/-! ## Runs of a class and cuts -/

section Runs

variable {p : Char → Bool} (h : p '\r' = p '\n')
include h

theorem dropWhile_crlf (text : Text) : (crlf text).dropWhile p = crlf (text.dropWhile p) := by
  induction text with
  | nil => rfl
  | cons c rest ih =>
    by_cases hc : c = '\n'
    · subst hc
      cases hp : p '\n' <;> simp [crlf_newline_cons, h, hp, ih]
    · cases hp : p c <;> simp [crlf_cons hc, hp, ih]

theorem takeWhile_crlf (text : Text) : (crlf text).takeWhile p = crlf (text.takeWhile p) := by
  induction text with
  | nil => rfl
  | cons c rest ih =>
    by_cases hc : c = '\n'
    · subst hc
      cases hp : p '\n' <;> simp [crlf_newline_cons, h, hp, ih]
    · cases hp : p c <;> simp [crlf_cons hc, hp, ih]

theorem trimRightWhere_crlf (text : Text) :
    trimRightWhere p (crlf text) = crlf (trimRightWhere p text) := by
  induction text with
  | nil => rfl
  | cons c rest ih =>
    by_cases hc : c = '\n'
    · subst hc
      simp only [crlf_newline_cons, trimRightWhere_cons, ih, crlf_eq_nil_iff, h]
      by_cases hkept : trimRightWhere p rest = []
      · cases hp : p '\n' <;> simp [hkept, crlf_newline_cons]
      · simp [hkept, crlf_newline_cons]
    · simp only [crlf_cons hc, trimRightWhere_cons, ih, crlf_eq_nil_iff]
      by_cases hkept : trimRightWhere p rest = []
      · cases hp : p c <;> simp [hkept, crlf_cons hc]
      · simp [hkept, crlf_cons hc]

end Runs

theorem splitOn_crlf {separator : Char} (hn : separator ≠ '\n') (hr : separator ≠ '\r')
    (text : Text) : (crlf text).splitOn separator = (text.splitOn separator).map crlf := by
  induction text with
  | nil => rfl
  | cons c rest ih =>
    obtain ⟨piece, pieces, hp⟩ :=
      List.exists_cons_of_ne_nil (List.splitOn_ne_nil separator rest)
    by_cases hc : c = '\n'
    · subst hc
      simp [crlf_newline_cons, List.splitOn_cons_eq_if_modifyHead, hn.symm, hr.symm, ih, hp]
    · by_cases hs : c = separator
      · subst hs
        simp [crlf_cons hc, List.splitOn_cons_eq_if_modifyHead, ih]
      · simp [crlf_cons hc, List.splitOn_cons_eq_if_modifyHead, hs, ih, hp]

theorem skipBlanks_crlf (text : Text) : skipBlanks (crlf text) = crlf (skipBlanks text) :=
  dropWhile_crlf rfl text

theorem trim_crlf (text : Text) : trim (crlf text) = crlf (trim text) := by
  rw [trim, skipBlanks_crlf, trimRightWhere_crlf rfl]
  rfl

/-! ## Parts of a pattern -/

theorem after?_crlf {literal : Text} (hn : '\n' ∉ literal) (hr : '\r' ∉ literal) (text : Text) :
    after? literal (crlf text) = (after? literal text).map crlf := by
  induction literal generalizing text with
  | nil => rfl
  | cons l literal ih =>
    simp only [List.mem_cons, not_or] at hn hr
    cases text with
    | nil => rfl
    | cons c rest =>
      by_cases hc : c = '\n'
      · subst hc
        simp [crlf_newline_cons, after?, Ne.symm hn.1, Ne.symm hr.1]
      · by_cases hl : l = c
        · simp [crlf_cons hc, after?, hl, ih hn.2 hr.2]
        · simp [crlf_cons hc, after?, hl]

theorem afterGap?_crlf (text : Text) : afterGap? (crlf text) = (afterGap? text).map crlf := by
  cases text with
  | nil => rfl
  | cons c rest =>
    by_cases hc : c = '\n'
    · subst hc
      change some (skipBlanks ('\n' :: crlf rest)) = some (crlf (skipBlanks rest))
      rw [← skipBlanks_crlf]
      rfl
    · cases hb : isBlank c <;> simp [crlf_cons hc, afterGap?, hb, skipBlanks_crlf]

theorem afterMark?_crlf {mark : Char} (hn : mark ≠ '\n') (hr : mark ≠ '\r') (text : Text) :
    afterMark? mark (crlf text) = (afterMark? mark text).map crlf := by
  simp only [afterMark?, skipBlanks_crlf]
  cases skipBlanks text with
  | nil => rfl
  | cons c rest =>
    by_cases hc : c = '\n'
    · subst hc
      simp [crlf_newline_cons, hn.symm, hr.symm]
    · rw [crlf_cons hc]
      by_cases hm : c = mark <;> simp [hm]

theorem identifier?_crlf (text : Text) :
    identifier? (crlf text) = (identifier? text).map fun (name, rest) => (name, crlf rest) := by
  cases text with
  | nil => rfl
  | cons c rest =>
    by_cases hc : c = '\n'
    · subst hc
      rfl
    · have hname : (crlf rest).takeWhile isIdentifierChar = rest.takeWhile isIdentifierChar := by
        rw [takeWhile_crlf (by decide), crlf_of_notMem]
        intro hm
        have hnewline := List.all_eq_true.mp List.all_takeWhile _ hm
        contradiction
      have hrest : (crlf rest).dropWhile isIdentifierChar =
          crlf (rest.dropWhile isIdentifierChar) := dropWhile_crlf rfl rest
      cases hs : isIdentifierStart c <;> simp [crlf_cons hc, identifier?, hs, hname, hrest]

theorem atWordEnd_crlf (text : Text) : atWordEnd (crlf text) = atWordEnd text := by
  cases text with
  | nil => rfl
  | cons c rest =>
    by_cases hc : c = '\n'
    · subst hc
      rfl
    · simp [crlf_cons hc, atWordEnd]

theorem taken_crlf {text rest : Text} (h : rest <:+ text) :
    taken (crlf text) (crlf rest) = crlfOffset text (taken text rest) := by
  obtain ⟨read, rfl⟩ := h
  rw [crlf_append, taken_append, taken_append, crlfOffset_length_append]

theorem suffix_of_after? {literal text rest : Text} (h : after? literal text = some rest) :
    rest <:+ text :=
  ⟨literal, (after?_eq_some_iff.mp h).symm⟩

theorem suffix_of_afterGap? {text rest : Text} (h : afterGap? text = some rest) :
    rest <:+ text := by
  obtain ⟨gap, -, -, rfl⟩ := eq_of_afterGap? h
  exact List.suffix_append gap rest

theorem suffix_of_afterMark? {mark : Char} {text rest : Text}
    (h : afterMark? mark text = some rest) : rest <:+ text := by
  obtain ⟨gap, -, rfl⟩ := eq_of_afterMark? h
  exact ⟨gap ++ [mark], by simp⟩

theorem suffix_of_identifier? {text name rest : Text} (h : identifier? text = some (name, rest)) :
    rest <:+ text := by
  obtain ⟨rfl, -⟩ := eq_of_identifier? h
  exact List.suffix_append name rest

/-! ## Scans -/

/-- A recogniser that reads the longer text as it reads the text, up to a change of values,
and starts at no line end. -/
structure Recogniser.Stable {α : Type} (recogniser : Recogniser α) (lift : Text → α → α) :
    Prop where
  crlf : ∀ before text, recogniser before (crlf text) =
    (recogniser before text).map fun hit =>
      ⟨lift text hit.value, crlfOffset text hit.size⟩
  newline : ∀ before rest, recogniser before ('\n' :: rest) = none
  carriageReturn : ∀ before rest, recogniser before ('\r' :: rest) = none

section Scans

variable {α : Type} {recogniser : Recogniser α} {lift : Text → α → α}

/-- Two hits of a scan from corresponding places on. -/
def Corresponds (lift : Text → α → α) (text : Text) (offset' offset : Nat)
    (hit' hit : Nat × α) : Prop :=
  ∃ read rest, text = read ++ rest ∧ hit.1 = offset + read.length ∧
    hit'.1 = offset' + (crlf read).length ∧ hit'.2 = lift rest hit.2

theorem Corresponds.cons {text : Text} {offset' offset : Nat} {hit' hit : Nat × α} (c : Char)
    (h : Corresponds lift text (offset' + (crlf [c]).length) (offset + 1) hit' hit) :
    Corresponds lift (c :: text) offset' offset hit' hit := by
  obtain ⟨read, rest, rfl, hhit, hhit', hvalue⟩ := h
  refine ⟨c :: read, rest, rfl, ?_, ?_, hvalue⟩
  · rw [hhit, List.length_cons]
    omega
  · have hlength : (crlf (c :: read)).length = (crlf [c]).length + (crlf read).length := by
      rw [← List.singleton_append, crlf_append, List.length_append]
    omega

/-- From corresponding places on, the hits correspond one by one. -/
theorem scanFrom_crlf (hstable : recogniser.Stable lift) (text : Text) (before : Option Char)
    (offset' offset skip : Nat) :
    List.Forall₂ (Corresponds lift text offset' offset)
      (scanFrom recogniser before offset' (crlfOffset text skip) (crlf text))
      (scanFrom recogniser before offset skip text) := by
  induction text generalizing before offset' offset skip with
  | nil => exact .nil
  | cons c text ih =>
    have hrest : ∀ skip, List.Forall₂ (Corresponds lift (c :: text) offset' offset)
        (scanFrom recogniser (some c) (offset' + (crlf [c]).length) (crlfOffset text skip)
          (crlf text))
        (scanFrom recogniser (some c) (offset + 1) skip text) := by
      intro skip
      exact (ih (some c) (offset' + (crlf [c]).length) (offset + 1) skip).imp
        fun _ _ h => h.cons c
    by_cases hc : c = '\n'
    · subst hc
      rw [crlf_newline_cons]
      cases skip with
      | succ skip =>
        have hskip : crlfOffset ('\n' :: text) (skip + 1) = crlfOffset text skip + 1 + 1 := by
          simp [crlfOffset, crlf_newline_cons]
        rw [hskip]
        exact hrest skip
      | zero =>
        simp only [crlfOffset_zero, scanFrom, hstable.newline, hstable.carriageReturn]
        exact hrest 0
    · have hlength : (crlf [c]).length = 1 := by rw [crlf_cons hc]; rfl
      have htake : ∀ size, crlfOffset (c :: text) (size + 1) = crlfOffset text size + 1 := by
        intro size
        simp [crlfOffset, crlf_cons hc]
      simp only [hlength] at hrest
      rw [crlf_cons hc]
      cases skip with
      | succ skip =>
        rw [htake]
        exact hrest skip
      | zero =>
        have hhere := hstable.crlf before (c :: text)
        rw [crlf_cons hc] at hhere
        simp only [crlfOffset_zero, scanFrom, hhere]
        cases hhit : recogniser before (c :: text) with
        | none => exact hrest 0
        | some hit =>
          refine .cons ⟨[], c :: text, rfl, rfl, rfl, rfl⟩ ?_
          have hsize : crlfOffset (c :: text) hit.size - 1 = crlfOffset text (hit.size - 1) := by
            cases hit.size with
            | zero => rfl
            | succ size => rw [htake, Nat.add_sub_cancel, Nat.add_sub_cancel]
          change List.Forall₂ _ (scanFrom recogniser (some c) (offset' + 1)
            (crlfOffset (c :: text) hit.size - 1) (crlf text)) _
          rw [hsize]
          exact hrest (hit.size - 1)

theorem scan_crlf (hstable : recogniser.Stable lift) (text : Text) :
    scan recogniser (crlf text) =
      (scan recogniser text).map fun (offset, value) =>
        (crlfOffset text offset, lift (text.drop offset) value) := by
  have h := scanFrom_crlf hstable text none 0 0 0
  rw [← List.forall₂_eq_eq_eq, List.forall₂_map_right_iff]
  refine h.imp ?_
  rintro ⟨offset', value'⟩ ⟨offset, value⟩ ⟨read, rest, rfl, hoffset, hoffset', hvalue⟩
  simp only [Nat.zero_add] at hoffset hoffset' hvalue
  subst hoffset hoffset' hvalue
  simp

end Scans

end SurfaceLint
