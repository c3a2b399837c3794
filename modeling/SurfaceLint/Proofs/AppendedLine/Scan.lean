import SurfaceLint.Proofs.BlankLines.Names
import SurfaceLint.Proofs.Names.FunctionPattern
import SurfaceLint.Proofs.Names.KeywordDeclaration

/-!
# Scanning a text with a line behind it

A line that begins with a semicolon is put behind a text. No pattern of the library reads over
the semicolon, the parameter list apart, which runs to the next closing parenthesis wherever
that is. Where nothing is read over it, a scan finds in the longer text what it finds in the
text, and behind that what it finds in the line.
-/

namespace SurfaceLint

/-! ## Scans -/

/-- A recogniser that takes characters of the text only, and none of what is put behind it. -/
structure Recogniser.StopsBefore {α : Type} (recogniser : Recogniser α) (tail : Text) :
    Prop where
  fits : ∀ before text hit, recogniser before text = some hit →
    text ≠ [] ∧ hit.size ≤ text.length
  append : ∀ before text, recogniser before (text ++ tail) = recogniser before text

/-- A recogniser that succeeds nowhere in a text without a certain character. -/
def Recogniser.Needs {α : Type} (recogniser : Recogniser α) (mark : Char) : Prop :=
  ∀ before text, mark ∉ text → recogniser before text = none

section Scans

variable {α : Type} {recogniser : Recogniser α}

theorem Recogniser.StopsBefore.eq_none {tail : Text} (h : recogniser.StopsBefore tail)
    (before : Option Char) : recogniser before tail = none := by
  rw [← List.nil_append tail, h.append]
  cases hhit : recogniser before [] with
  | none => rfl
  | some hit => exact absurd rfl (h.fits _ _ _ hhit).1

theorem scanFrom_append {tail : Text} (h : recogniser.StopsBefore tail) (text : Text)
    (before : Option Char) (offset : Nat) {skip : Nat} (hskip : skip ≤ text.length) :
    scanFrom recogniser before offset skip (text ++ tail) =
      scanFrom recogniser before offset skip text ++
        scanFrom recogniser (text.getLast?.or before) (offset + text.length) 0 tail := by
  induction text generalizing before offset skip with
  | nil =>
    obtain rfl : skip = 0 := Nat.le_zero.mp hskip
    rfl
  | cons c text ih =>
    have hrest : ∀ skip ≤ text.length,
        scanFrom recogniser (some c) (offset + 1) skip (text ++ tail) =
          scanFrom recogniser (some c) (offset + 1) skip text ++
            scanFrom recogniser ((c :: text).getLast?.or before) (offset + (c :: text).length) 0
              tail := by
      intro skip hle
      have hlast : (c :: text).getLast?.or before = text.getLast?.or (some c) := by
        cases text <;> simp [List.getLast?_cons]
      rw [ih (some c) (offset + 1) hle, hlast, List.length_cons, Nat.add_assoc, Nat.add_comm 1]
    cases skip with
    | succ skip => exact hrest skip (Nat.le_of_succ_le_succ hskip)
    | zero =>
      have hhere := h.append before (c :: text)
      rw [List.cons_append] at hhere ⊢
      simp only [scanFrom, hhere]
      cases hhit : recogniser before (c :: text) with
      | none => exact hrest 0 (Nat.zero_le _)
      | some hit =>
        have hsize := (h.fits _ _ _ hhit).2
        rw [List.length_cons] at hsize
        simp only [hrest (hit.size - 1) (by omega), List.cons_append]

/-- A line of its own that begins with a semicolon is scanned apart from the text. -/
theorem scan_append_semicolon_line {rest : Text} (h : recogniser.StopsBefore (';' :: rest))
    (hblanks : recogniser.IgnoresBlanks) (text : Text) :
    scan recogniser (text ++ '\n' :: ';' :: rest) =
      scan recogniser text ++ scanFrom recogniser (some ';') (text.length + 2) 0 rest := by
  have htext : text ++ '\n' :: ';' :: rest = (text ++ ['\n']) ++ ';' :: rest := by simp
  have hnewline : IsBlankText ['\n'] := by decide
  have hfirst : scanFrom recogniser none 0 0 (text ++ ['\n']) = scan recogniser text :=
    scan_append_blanks hblanks hnewline text
  rw [scan, htext, scanFrom_append h _ none 0 (Nat.zero_le _), hfirst, scanFrom, h.eq_none]
  simp

theorem scanFrom_of_length_le {text : Text} {skip : Nat} (h : text.length ≤ skip)
    (before : Option Char) (offset : Nat) :
    scanFrom recogniser before offset skip text = [] := by
  induction text generalizing before offset skip with
  | nil => rfl
  | cons c text ih =>
    cases skip with
    | zero => simp at h
    | succ skip => exact ih (Nat.le_of_succ_le_succ h) _ _

theorem scanFrom_eq_singleton {text : Text} {before : Option Char} {hit : Hit α}
    (hne : text ≠ []) (hhit : recogniser before text = some hit) (hsize : text.length ≤ hit.size)
    (offset : Nat) : scanFrom recogniser before offset 0 text = [(offset, hit.value)] := by
  cases text with
  | nil => contradiction
  | cons c text =>
    rw [List.length_cons] at hsize
    simp only [scanFrom, hhit]
    rw [scanFrom_of_length_le (by omega)]

theorem scanFrom_eq_nil {text : Text} {before : Option Char}
    (h : ∀ read rest, text = read ++ rest → recogniser (read.getLast?.or before) rest = none)
    (offset skip : Nat) : scanFrom recogniser before offset skip text = [] := by
  rw [List.eq_nil_iff_forall_not_mem]
  rintro ⟨place, value⟩ hmem
  obtain ⟨read, rest, hit, htext, -, hhit, -⟩ := exists_of_mem_scanFrom hmem
  rw [h read rest htext] at hhit
  contradiction

theorem scanFrom_eq_nil_of_needs {mark : Char} (h : recogniser.Needs mark) {text : Text}
    (hmark : mark ∉ text) (before : Option Char) (offset : Nat) :
    scanFrom recogniser before offset 0 text = [] := by
  apply scanFrom_eq_nil
  rintro read rest rfl
  exact h _ rest fun hmem => hmark (List.mem_append_right read hmem)

end Scans

/-! ## Parts of a pattern and a semicolon behind the text -/

theorem isIdentifierChar_semicolon : isIdentifierChar ';' = false := by decide

theorem afterMark?_append_cons {mark c : Char} (hc : isBlank c = false) (hne : mark ≠ c)
    (text rest : Text) :
    afterMark? mark (text ++ c :: rest) = (afterMark? mark text).map (· ++ c :: rest) := by
  simp only [afterMark?, skipBlanks, dropWhile_append_cons hc]
  cases text.dropWhile isBlank with
  | nil => simp [hne.symm]
  | cons d behind => by_cases hd : d = mark <;> simp [hd]

section Semicolon

variable (text rest : Text)

theorem skipBlanks_append_semicolon :
    skipBlanks (text ++ ';' :: rest) = skipBlanks text ++ ';' :: rest :=
  dropWhile_append_cons (by decide) text rest

theorem afterGap?_append_semicolon :
    afterGap? (text ++ ';' :: rest) = (afterGap? text).map (· ++ ';' :: rest) := by
  cases text with
  | nil => rfl
  | cons c text => cases hc : isBlank c <;> simp [afterGap?, hc, skipBlanks_append_semicolon]

theorem afterMark?_append_semicolon {mark : Char} (h : mark ≠ ';') :
    afterMark? mark (text ++ ';' :: rest) = (afterMark? mark text).map (· ++ ';' :: rest) :=
  afterMark?_append_cons (by decide) h text rest

theorem atWordEnd_append_semicolon : atWordEnd (text ++ ';' :: rest) = atWordEnd text := by
  cases text with
  | nil => rfl
  | cons c text => rfl

end Semicolon

/-! ## Patterns -/

theorem taken_le (text rest : Text) : taken text rest ≤ text.length :=
  Nat.sub_le _ _

section Patterns

variable (rest : Text)

theorem Profile.declaration?_stopsBefore (profile : Profile) :
    profile.declaration?.StopsBefore (';' :: rest) where
  fits before text hit hhit := by
    obtain ⟨-, keyword, gap, behind, -, hne, -, -, rfl, -, hsize⟩ :=
      declaration?_eq_some_iff.mp hhit
    exact ⟨by simp [hne], by simp [hsize]⟩
  append before text := by
    have hkeywords : ∀ keyword ∈ profile.keywords, ';' ∉ keyword.toList := by
      cases profile <;> decide
    simp only [declaration?, keywordName?, findSome?_after?_append_cons hkeywords,
      afterGap?_append_semicolon, identifier?_append_cons isIdentifierChar_semicolon,
      Option.bind_eq_bind, Option.bind_map, Function.comp_def, taken_append_append]

theorem functionHead?_stopsBefore : functionHead?.StopsBefore (';' :: rest) where
  fits before text hit hhit := by
    obtain ⟨-, gap, name, space, behind, -, -, -, -, rfl, rfl⟩ :=
      functionHead?_eq_some_iff.mp hhit
    exact ⟨by simp, by simp⟩
  append before text := by
    simp only [functionHead?, after?_append_cons (show ';' ∉ "function".toList by decide),
      afterGap?_append_semicolon, identifier?_append_cons isIdentifierChar_semicolon,
      afterMark?_append_semicolon _ _ (show '(' ≠ ';' by decide), Option.bind_eq_bind,
      Option.bind_map, Function.comp_def, taken_append_append]

theorem parameterList?_stopsBefore (h : ')' ∉ rest) :
    parameterList?.StopsBefore (';' :: rest) where
  fits before text hit hhit := by
    obtain ⟨-, gap, run, space, inside, behind, -, -, -, -, -, rfl, rfl⟩ :=
      parameterList?_eq_some_iff.mp hhit
    exact ⟨by simp, by simp⟩
  append before text := by
    simp only [parameterList?, after?_append_cons (show ';' ∉ "function".toList by decide),
      atWordEnd_append_semicolon, skipBlanks_append_semicolon,
      dropWhile_append_cons isIdentifierChar_semicolon,
      afterMark?_append_semicolon _ _ (show '(' ≠ ';' by decide), Option.bind_eq_bind,
      Option.bind_map, Function.comp_def]
    refine Option.bind_congr fun _ _ => ?_
    refine Option.bind_congr fun behind _ => ?_
    refine Option.bind_congr fun _ _ => ?_
    refine Option.bind_congr fun inside _ => ?_
    have htail : (';' :: rest).dropWhile (· ≠ ')') = [] := by
      rw [List.dropWhile_eq_nil_iff]
      intro c hc
      rw [decide_eq_true_eq]
      rintro rfl
      rcases List.mem_cons.mp hc with heq | hmem
      · exact absurd heq (by decide)
      · exact h hmem
    rw [List.dropWhile_append]
    cases hend : inside.dropWhile (· ≠ ')') with
    | nil => simp only [List.isEmpty_nil, ↓reduceIte, htail]
    | cons d tail =>
      have hclosed : (inside ++ ';' :: rest).takeWhile (· ≠ ')') =
          inside.takeWhile (· ≠ ')') :=
        takeWhile_append_of_dropWhile_ne_nil (by rw [hend]; exact List.cons_ne_nil d tail) _
      rw [hclosed]
      simp [taken_append_append]

theorem printCall?_stopsBefore : printCall?.StopsBefore (';' :: rest) where
  fits before text hit hhit := by
    simp only [printCall?, Option.bind_eq_bind, Option.bind_eq_some_iff, Option.pure_def,
      Option.some.injEq, after?_eq_some_iff] at hhit
    obtain ⟨behind, rfl, inside, -, named, -, last, -, rfl⟩ := hhit
    exact ⟨by simp, taken_le _ _⟩
  append before text := by
    simp only [printCall?, after?_append_cons (show ';' ∉ "System.out.print".toList by decide),
      after?_append_cons (show ';' ∉ "ln".toList by decide), Option.getD_map,
      afterMark?_append_semicolon _ _ (show '(' ≠ ';' by decide),
      afterMark?_append_semicolon _ _ (show ')' ≠ ';' by decide), skipBlanks_append_semicolon,
      identifier?_append_cons isIdentifierChar_semicolon, Option.bind_eq_bind, Option.bind_map,
      Function.comp_def, taken_append_append]

end Patterns

/-! ## Marks that a pattern needs -/

theorem mem_of_afterMark? {mark : Char} {text rest : Text}
    (h : afterMark? mark text = some rest) : mark ∈ text := by
  obtain ⟨gap, -, rfl⟩ := eq_of_afterMark? h
  simp

theorem functionHead?_needs : functionHead?.Needs '(' := by
  intro before text hmark
  apply Option.eq_none_iff_forall_ne_some.mpr
  intro hit hhit
  obtain ⟨-, gap, name, space, rest, -, -, -, -, rfl, -⟩ := functionHead?_eq_some_iff.mp hhit
  simp at hmark

theorem parameterList?_needs : parameterList?.Needs '(' := by
  intro before text hmark
  apply Option.eq_none_iff_forall_ne_some.mpr
  intro hit hhit
  obtain ⟨-, gap, run, space, inside, rest, -, -, -, -, -, rfl, -⟩ :=
    parameterList?_eq_some_iff.mp hhit
  simp at hmark

theorem printCall?_needs : printCall?.Needs '(' := by
  intro before text hmark
  apply Option.eq_none_iff_forall_ne_some.mpr
  intro hit hhit
  simp only [printCall?, Option.bind_eq_bind, Option.bind_eq_some_iff] at hhit
  obtain ⟨behind, hcall, inside, hopen, -⟩ := hhit
  have hending : (after? "ln".toList behind).getD behind <:+ behind := by
    cases hln : after? "ln".toList behind with
    | none => exact List.suffix_rfl
    | some shorter => exact suffix_of_after? hln
  have hsuffix := hending.trans (suffix_of_after? hcall)
  exact hmark (hsuffix.subset (mem_of_afterMark? hopen))

theorem consoleCall?_needs : consoleCall?.Needs '(' := by
  intro before text hmark
  apply Option.eq_none_iff_forall_ne_some.mpr
  intro hit hhit
  simp only [consoleCall?, Option.bind_eq_bind, Option.bind_eq_some_iff] at hhit
  obtain ⟨behind, hcall, inside, hopen, -⟩ := hhit
  exact hmark ((suffix_of_after? hcall).subset (mem_of_afterMark? hopen))

end SurfaceLint
