import SurfaceLint.Proofs.Text.Blank

/-!
# Trimming

Trimming on the right keeps a text up to the last character that is not dropped. Trimming blanks
on both sides leaves the part of a text that begins and ends with no blank, so that blanks in
front of a text or behind it make no difference.
-/

namespace SurfaceLint

section Right

variable {drop : Char → Bool}

theorem trimRightWhere_cons (drop : Char → Bool) (c : Char) (rest : Text) :
    trimRightWhere drop (c :: rest) =
      if trimRightWhere drop rest = [] then if drop c then [] else [c]
      else c :: trimRightWhere drop rest := by
  rw [trimRightWhere]
  cases trimRightWhere drop rest <;> simp

theorem trimRightWhere_append (drop : Char → Bool) (text tail : Text) :
    trimRightWhere drop (text ++ tail) =
      if trimRightWhere drop tail = [] then trimRightWhere drop text
      else text ++ trimRightWhere drop tail := by
  induction text with
  | nil =>
    by_cases h : trimRightWhere drop tail = [] <;> simp [h, trimRightWhere]
  | cons c text ih =>
    rw [List.cons_append, trimRightWhere_cons, ih, trimRightWhere_cons]
    by_cases h : trimRightWhere drop tail = [] <;> simp [h]

theorem trimRightWhere_eq_nil_iff {text : Text} :
    trimRightWhere drop text = [] ↔ ∀ c ∈ text, drop c = true := by
  induction text with
  | nil => simp [trimRightWhere]
  | cons c rest ih =>
    rw [trimRightWhere_cons, List.forall_mem_cons, ← ih]
    by_cases hrest : trimRightWhere drop rest = [] <;> simp [hrest]

/-- What is kept ends with a character that is not dropped, and all that follows is dropped. -/
theorem trimRightWhere_eq_iff {text kept : Text} :
    trimRightWhere drop text = kept ↔
      (∀ c ∈ kept.getLast?, drop c = false) ∧
        ∃ dropped, (∀ c ∈ dropped, drop c = true) ∧ text = kept ++ dropped := by
  constructor
  · rintro rfl
    induction text with
    | nil => simp [trimRightWhere]
    | cons c rest ih =>
      obtain ⟨hlast, dropped, hdropped, hrest⟩ := ih
      rw [trimRightWhere_cons]
      split_ifs with hnil hc
      · exact ⟨by simp, c :: rest, by simpa [hc] using trimRightWhere_eq_nil_iff.mp hnil, rfl⟩
      · exact ⟨by simpa using hc, rest, trimRightWhere_eq_nil_iff.mp hnil, rfl⟩
      · rw [List.getLast?_cons_of_ne_nil hnil]
        exact ⟨hlast, dropped, hdropped, by rw [List.cons_append, ← hrest]⟩
  · rintro ⟨hlast, dropped, hdropped, rfl⟩
    rw [trimRightWhere_append, if_pos (trimRightWhere_eq_nil_iff.mpr hdropped)]
    rcases List.eq_nil_or_concat kept with rfl | ⟨front, c, rfl⟩
    · rfl
    · have hkept : trimRightWhere drop [c] = [c] := by
        simp [trimRightWhere, hlast c (by simp)]
      rw [List.concat_eq_append, trimRightWhere_append, hkept, if_neg (by simp)]

end Right

/-- What is left of a text is its part between blanks that begins and ends with none. -/
theorem trim_eq_iff {text kept : Text} :
    trim text = kept ↔
      (∀ c ∈ kept.head?, isBlank c = false) ∧ (∀ c ∈ kept.getLast?, isBlank c = false) ∧
        ∃ lead trail, IsBlankText lead ∧ IsBlankText trail ∧ text = lead ++ (kept ++ trail) := by
  rw [trim, trimRightWhere_eq_iff]
  constructor
  · rintro ⟨hlast, trail, htrail, hskip⟩
    refine ⟨?_, hlast, text.takeWhile isBlank, trail, fun c => isBlank_of_mem_takeWhile, htrail, ?_⟩
    · intro c hc
      have hfirst : c ∈ (skipBlanks text).head? := by
        rw [hskip, List.head?_append, hc]
        rfl
      exact of_mem_head?_dropWhile hfirst
    · rw [← hskip]
      exact skipBlanks_eq text
  · rintro ⟨hhead, hlast, lead, trail, hlead, htrail, rfl⟩
    refine ⟨hlast, ?_⟩
    rw [skipBlanks_append hlead]
    cases kept with
    | nil => exact ⟨[], by simp, List.dropWhile_eq_nil_iff.mpr htrail⟩
    | cons c kept =>
      refine ⟨trail, htrail, List.dropWhile_cons_of_neg ?_⟩
      simpa using hhead c rfl

theorem trim_blanks_append {lead : Text} (h : IsBlankText lead) (text : Text) :
    trim (lead ++ text) = trim text := by
  rw [trim, skipBlanks_append h, trim]

theorem trim_append_blanks {trail : Text} (h : IsBlankText trail) (text : Text) :
    trim (text ++ trail) = trim text := by
  obtain ⟨hhead, hlast, lead, behind, hlead, hbehind, htext⟩ := trim_eq_iff.mp (Eq.refl (trim text))
  refine trim_eq_iff.mpr ⟨hhead, hlast, lead, behind ++ trail, hlead, ?_, ?_⟩
  · exact List.forall_mem_append.mpr ⟨hbehind, h⟩
  · have hlonger := congrArg (· ++ trail) htext
    simpa only [List.append_assoc] using hlonger

theorem standsAt_trim (raw : Text) : StandsAt raw (raw.takeWhile isBlank).length (trim raw) := by
  obtain ⟨-, dropped, -, hdropped⟩ := trimRightWhere_eq_iff.mp (Eq.refl (trim raw))
  refine ⟨raw.takeWhile isBlank, dropped, ?_, rfl⟩
  rw [List.append_assoc, ← hdropped, ← skipBlanks_eq]

end SurfaceLint
