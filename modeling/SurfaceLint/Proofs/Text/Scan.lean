import Mathlib.Data.List.TakeWhile
import SurfaceLint.Text.Scan

/-!
# What a scan finds

A word stands at an offset of a text when the text can be cut around it. Every hit of a
scan comes from a cut of the text at its offset, and every part of a pattern takes off the
characters that it names from the front of what is left.
-/

namespace SurfaceLint

/-- A word is written in a text from an offset on. -/
def StandsAt (text : Text) (offset : Nat) (word : Text) : Prop :=
  ∃ before rest, text = before ++ word ++ rest ∧ before.length = offset

namespace StandsAt

variable {text word part : Text} {offset distance : Nat}

theorem stop_le (h : StandsAt text offset word) : offset + word.length ≤ text.length := by
  obtain ⟨before, rest, rfl, rfl⟩ := h
  simp

theorem take_stop (h : StandsAt text offset word) :
    text.take (offset + word.length) = text.take offset ++ word := by
  obtain ⟨before, rest, rfl, rfl⟩ := h
  have hlength : before.length + word.length = (before ++ word).length := by simp
  rw [hlength, List.take_left, List.append_assoc, List.take_left]

theorem extract_eq (h : StandsAt text offset word) :
    text.extract offset (offset + word.length) = word := by
  obtain ⟨before, rest, rfl, rfl⟩ := h
  simp

theorem trans (h : StandsAt text offset word) (hp : StandsAt word distance part) :
    StandsAt text (offset + distance) part := by
  obtain ⟨before, rest, rfl, rfl⟩ := h
  obtain ⟨left, right, rfl, rfl⟩ := hp
  exact ⟨before ++ left, right ++ rest, by simp, by simp⟩

theorem append {rest : Text} (h : StandsAt text offset word) :
    StandsAt (text ++ rest) offset word := by
  obtain ⟨before, behind, rfl, rfl⟩ := h
  exact ⟨before, behind ++ rest, by simp, rfl⟩

theorem suffix {before : Text} (h : StandsAt text offset word) :
    StandsAt (before ++ text) (before.length + offset) word :=
  trans ⟨before, [], by simp, rfl⟩ h

end StandsAt

theorem standsAt_line_cons_iff {line rest word : Text} {place : Nat} (hword : '\n' ∉ word) :
    StandsAt (line ++ '\n' :: rest) place word ↔
      StandsAt line place word ∨
        ∃ further, place = line.length + 1 + further ∧ StandsAt rest further word := by
  constructor
  · rintro ⟨before, behind, htext, rfl⟩
    rcases List.append_eq_append_iff.mp htext with ⟨left, hleft, hrest⟩ | ⟨right, rfl, -⟩
    · cases left with
      | nil => exact .inl ⟨before, [], by simpa using hleft.symm, rfl⟩
      | cons c left =>
        obtain ⟨rfl, rfl⟩ := List.cons.inj hrest
        rcases List.append_eq_append_iff.mp hleft with ⟨beyond, -, rfl⟩ | ⟨beyond, rfl, hbeyond⟩
        · simp at hword
        · cases beyond with
          | nil =>
            obtain rfl : '\n' :: left = word := hbeyond
            simp at hword
          | cons d beyond =>
            obtain ⟨rfl, rfl⟩ := List.cons.inj hbeyond
            exact .inr ⟨beyond.length, by simp; omega, beyond, behind, rfl, rfl⟩
    · exact .inl ⟨before, right, rfl, rfl⟩
  · rintro (h | ⟨further, rfl, before, behind, rfl, rfl⟩)
    · exact h.append
    · exact ⟨line ++ '\n' :: before, behind, by simp, by simp; omega⟩

section Scan

variable {α : Type} {recogniser : Recogniser α}

/-- Every hit from a place on was recognised at a cut of the text that follows. -/
theorem exists_of_mem_scanFrom {before : Option Char} {offset skip at_ : Nat} {value : α}
    {text : Text} (h : (at_, value) ∈ scanFrom recogniser before offset skip text) :
    ∃ read rest hit, text = read ++ rest ∧ at_ = offset + read.length ∧
      recogniser (read.getLast?.or before) rest = some hit ∧ hit.value = value := by
  induction text generalizing before offset skip with
  | nil => simp [scanFrom] at h
  | cons c text ih =>
    have hlater : ∀ skip, (at_, value) ∈ scanFrom recogniser (some c) (offset + 1) skip text →
        ∃ read rest hit, c :: text = read ++ rest ∧ at_ = offset + read.length ∧
          recogniser (read.getLast?.or before) rest = some hit ∧ hit.value = value := by
      intro skip hmem
      obtain ⟨read, rest, hit, rfl, rfl, hrec, hvalue⟩ := ih hmem
      refine ⟨c :: read, rest, hit, rfl, by simp; omega, ?_, hvalue⟩
      rw [← hrec]
      cases read <;> simp [List.getLast?_cons]
    cases skip with
    | succ skip => exact hlater skip h
    | zero =>
      simp only [scanFrom] at h
      cases hrec : recogniser before (c :: text) with
      | none => exact hlater 0 (by simpa [hrec] using h)
      | some hit =>
        simp only [hrec, List.mem_cons] at h
        rcases h with h | h
        · obtain ⟨rfl, rfl⟩ := Prod.mk.inj h
          exact ⟨[], c :: text, hit, rfl, rfl, by simpa using hrec, rfl⟩
        · exact hlater _ h

theorem exists_of_mem_scan {offset : Nat} {value : α} {text : Text}
    (h : (offset, value) ∈ scan recogniser text) :
    ∃ before rest hit, text = before ++ rest ∧ before.length = offset ∧
      recogniser before.getLast? rest = some hit ∧ hit.value = value := by
  obtain ⟨before, rest, hit, htext, hoffset, hrec, hvalue⟩ := exists_of_mem_scanFrom h
  exact ⟨before, rest, hit, htext, by omega, by simpa using hrec, hvalue⟩

end Scan

@[simp] theorem taken_append (read rest : Text) : taken (read ++ rest) rest = read.length := by
  simp [taken]

theorem taken_append_append (text rest tail : Text) :
    taken (text ++ tail) (rest ++ tail) = taken text rest := by
  simp only [taken, List.length_append]
  omega

theorem skipBlanks_eq (text : Text) : text = text.takeWhile isBlank ++ skipBlanks text :=
  List.takeWhile_append_dropWhile.symm

theorem isBlank_of_mem_takeWhile {text : Text} {c : Char} (h : c ∈ text.takeWhile isBlank) :
    isBlank c = true :=
  List.all_eq_true.mp (List.all_takeWhile) c h

theorem eq_of_afterGap? {text rest : Text} (h : afterGap? text = some rest) :
    ∃ gap, gap ≠ [] ∧ (∀ c ∈ gap, isBlank c = true) ∧ text = gap ++ rest := by
  cases text with
  | nil => simp [afterGap?] at h
  | cons c text =>
    simp only [afterGap?] at h
    split at h
    · rename_i hc
      obtain rfl := Option.some.inj h
      refine ⟨c :: text.takeWhile isBlank, by simp, ?_, ?_⟩
      · intro d hd
        rcases List.mem_cons.mp hd with rfl | hd
        · exact hc
        · exact isBlank_of_mem_takeWhile hd
      · rw [List.cons_append, ← skipBlanks_eq]
    · contradiction

theorem eq_of_afterMark? {mark : Char} {text rest : Text} (h : afterMark? mark text = some rest) :
    ∃ gap, (∀ c ∈ gap, isBlank c = true) ∧ text = gap ++ mark :: rest := by
  refine ⟨text.takeWhile isBlank, fun c hc => isBlank_of_mem_takeWhile hc, ?_⟩
  have htext := skipBlanks_eq text
  unfold afterMark? at h
  split at h
  · contradiction
  · rename_i c tail htail
    split at h
    · rename_i hc
      obtain rfl := Option.some.inj h
      rw [htail, hc] at htext
      exact htext
    · contradiction

theorem isIdentifier_iff {name : Text} :
    isIdentifier name = true ↔
      ∃ c rest, name = c :: rest ∧ isIdentifierStart c = true ∧
        ∀ d ∈ rest, isIdentifierChar d = true := by
  cases name with
  | nil => simp [isIdentifier, identifier?]
  | cons c rest =>
    by_cases hc : isIdentifierStart c = true
    · have hall : isIdentifier (c :: rest) = true ↔ rest.dropWhile isIdentifierChar = [] := by
        cases hd : rest.dropWhile isIdentifierChar <;> simp [isIdentifier, identifier?, hc, hd]
      rw [hall, List.dropWhile_eq_nil_iff]
      constructor
      · intro hrest
        exact ⟨c, rest, rfl, hc, hrest⟩
      · rintro ⟨d, tail, heq, -, htail⟩
        obtain ⟨rfl, rfl⟩ := List.cons.inj heq
        exact htail
    · simp [isIdentifier, identifier?, hc]

theorem eq_of_identifier? {text name rest : Text} (h : identifier? text = some (name, rest)) :
    text = name ++ rest ∧ isIdentifier name = true := by
  cases text with
  | nil => simp [identifier?] at h
  | cons c text =>
    simp only [identifier?] at h
    split at h
    · rename_i hc
      obtain ⟨rfl, rfl⟩ := Prod.mk.inj (Option.some.inj h)
      refine ⟨by simp, isIdentifier_iff.mpr ⟨c, _, rfl, hc, ?_⟩⟩
      exact List.all_eq_true.mp List.all_takeWhile
    · contradiction

theorem isIdentifierChar_of_start {c : Char} (h : isIdentifierStart c = true) :
    isIdentifierChar c = true := by
  simp only [isIdentifierStart, Bool.or_eq_true] at h
  simp only [isIdentifierChar, isWord, Bool.or_eq_true]
  rcases h with (h | h) | h
  · left
    have hascii : c.toNat < 0x80 := by
      rcases Bool.or_eq_true_iff.mp h with hupper | hlower
      · have hle : c.val ≤ 'Z'.val := (of_decide_eq_true hupper).2
        exact Nat.lt_of_le_of_lt (UInt32.le_iff_toNat_le.mp hle) (by decide)
      · have hle : c.val ≤ 'z'.val := of_decide_eq_true (Bool.and_eq_true_iff.mp hlower).2
        exact Nat.lt_of_le_of_lt (UInt32.le_iff_toNat_le.mp hle) (by decide)
    simp [hascii, Char.isAlphanum, h]
  · left
    obtain rfl : c = '_' := by simpa using h
    decide
  · exact .inr h

theorem isIdentifierChar_of_mem {name : Text} {c : Char} (h : isIdentifier name = true)
    (hc : c ∈ name) : isIdentifierChar c = true := by
  obtain ⟨d, rest, rfl, hd, hrest⟩ := isIdentifier_iff.mp h
  rcases List.mem_cons.mp hc with rfl | hc
  · exact isIdentifierChar_of_start hd
  · exact hrest c hc

theorem ne_nil_of_isIdentifier {name : Text} (h : isIdentifier name = true) : name ≠ [] := by
  obtain ⟨c, rest, rfl, -⟩ := isIdentifier_iff.mp h
  simp

theorem notMem_of_isIdentifier {name : Text} {c : Char} (h : isIdentifier name = true)
    (hc : isIdentifierChar c = false) : c ∉ name := by
  intro hm
  simp [isIdentifierChar_of_mem h hm] at hc

/-! ## Runs of characters -/

section Runs

variable {p : Char → Bool} {word rest : Text}

theorem takeWhile_append_of_stop (hword : ∀ c ∈ word, p c = true)
    (hrest : ∀ c ∈ rest.head?, p c = false) : (word ++ rest).takeWhile p = word := by
  rw [List.takeWhile_append_of_pos hword]
  cases rest with
  | nil => simp
  | cons c rest => simp [hrest c rfl]

theorem dropWhile_append_of_stop (hword : ∀ c ∈ word, p c = true)
    (hrest : ∀ c ∈ rest.head?, p c = false) : (word ++ rest).dropWhile p = rest := by
  rw [List.dropWhile_append_of_pos hword]
  cases rest with
  | nil => rfl
  | cons c rest => simp [hrest c rfl]

section UpTo

variable {mark : Char} (h : mark ∉ word) (behind : Text)
include h

theorem takeWhile_ne_append_cons : (word ++ mark :: behind).takeWhile (· ≠ mark) = word := by
  apply takeWhile_append_of_stop
  · intro c hc
    simpa using ne_of_mem_of_not_mem hc h
  · rintro c ⟨⟩
    simp

theorem dropWhile_ne_append_cons :
    (word ++ mark :: behind).dropWhile (· ≠ mark) = mark :: behind := by
  apply dropWhile_append_of_stop
  · intro c hc
    simpa using ne_of_mem_of_not_mem hc h
  · rintro c ⟨⟩
    simp

end UpTo

theorem of_mem_head?_dropWhile {text : Text} {c : Char} (h : c ∈ (text.dropWhile p).head?) :
    p c = false := by
  have hnot := List.head?_dropWhile_not p text
  rw [h] at hnot
  simpa using hnot

/-- The characters of an identifier from a place on. -/
def identifierRun (text : Text) (place : Nat) : Text :=
  (text.drop place).takeWhile isIdentifierChar

/-- Inside a word of such characters, the run is the rest of the word. -/
theorem identifierRun_eq_drop {text before : Text} {place : Nat}
    (htext : text = before ++ (word ++ rest)) (hword : ∀ c ∈ word, isIdentifierChar c = true)
    (hrest : ∀ c ∈ rest.head?, isIdentifierChar c = false) (hle : before.length ≤ place)
    (hplace : place ≤ before.length + word.length) :
    identifierRun text place = word.drop (place - before.length) := by
  obtain ⟨distance, rfl⟩ := Nat.exists_eq_add_of_le hle
  have hdistance : distance ≤ word.length := by omega
  rw [identifierRun, htext, List.drop_length_add_append, List.drop_append_of_le_length hdistance,
    Nat.add_sub_cancel_left]
  exact takeWhile_append_of_stop (fun c hc => hword c (List.mem_of_mem_drop hc)) hrest

end Runs

theorem eq_of_dropWhile_ne_eq_cons {mark c : Char} {text rest : Text}
    (h : text.dropWhile (· ≠ mark) = c :: rest) : c = mark := by
  have hstop : decide (c ≠ mark) = false := of_mem_head?_dropWhile (by rw [h]; rfl)
  simpa using hstop

/-! ## Text behind a character that ends a part of a pattern -/

section Behind

variable {c : Char}

theorem dropWhile_append_cons {p : Char → Bool} (h : p c = false) (text rest : Text) :
    (text ++ c :: rest).dropWhile p = text.dropWhile p ++ c :: rest := by
  rw [List.dropWhile_append]
  cases text.dropWhile p <;> simp [h]

theorem takeWhile_append_cons {p : Char → Bool} (h : p c = false) (text rest : Text) :
    (text ++ c :: rest).takeWhile p = text.takeWhile p := by
  induction text with
  | nil => simp [h]
  | cons d text ih => simp only [List.cons_append, List.takeWhile_cons, ih]

theorem after?_append_cons {literal : Text} (h : c ∉ literal) (text rest : Text) :
    after? literal (text ++ c :: rest) = (after? literal text).map (· ++ c :: rest) := by
  induction literal generalizing text with
  | nil => rfl
  | cons l literal ih =>
    simp only [List.mem_cons, not_or] at h
    cases text with
    | nil => simp [after?, Ne.symm h.1]
    | cons d text =>
      by_cases hl : l = d
      · simp [after?, hl, ih h.2]
      · simp [after?, hl]

theorem findSome?_after?_append_cons {keywords : List String}
    (h : ∀ keyword ∈ keywords, c ∉ keyword.toList) (text rest : Text) :
    (keywords.findSome? fun keyword => after? keyword.toList (text ++ c :: rest)) =
      (keywords.findSome? fun keyword => after? keyword.toList text).map (· ++ c :: rest) := by
  induction keywords with
  | nil => rfl
  | cons keyword others ih =>
    have hothers := ih fun other hother => h other (by simp [hother])
    simp only [List.findSome?_cons, after?_append_cons (h keyword (by simp)), hothers]
    cases after? keyword.toList text <;> rfl

theorem identifier?_append_cons (h : isIdentifierChar c = false) (text rest : Text) :
    identifier? (text ++ c :: rest) =
      (identifier? text).map fun named => (named.1, named.2 ++ c :: rest) := by
  cases text with
  | nil =>
    have hstart : isIdentifierStart c = false := by
      apply Bool.eq_false_iff.mpr
      intro hstart
      rw [isIdentifierChar_of_start hstart] at h
      contradiction
    simp [identifier?, hstart]
  | cons d text =>
    cases hd : isIdentifierStart d <;>
      simp [identifier?, hd, takeWhile_append_cons h, dropWhile_append_cons h]

end Behind

end SurfaceLint
