import Mathlib.Tactic.Tauto
import SurfaceLint.Dialect
import SurfaceLint.Proofs.Text.Blank
import SurfaceLint.Proofs.Text.ScanPlaces

/-!
# Names declared by a keyword

A declaration is a keyword, a gap and a name. A keyword is a word itself, so a declaration may
begin inside another one, but only where its keyword is the end of the name of the other, as
the second `let` in `let let x`. The scan passes such a declaration over if it found the other
one. In a chain of declarations that begin inside each other the scan thus finds the first,
passes over the second, finds the third, and so on.
-/

namespace SurfaceLint

namespace Profile

def keywords : Profile → List String
  | script => scriptKeywords
  | java => javaKeywords

/-- Whether a declaration may begin behind a character. -/
def declaresBehind : Profile → Option Char → Bool
  | script, before => atWordStart before
  | java, _ => true

def declaration? (profile : Profile) : Recogniser Text := fun before text =>
  if profile.declaresBehind before then keywordName? profile.keywords text else none

/-- The names that are declared without a keyword. -/
def declaredOtherwise : Profile → Text → List Text
  | script, text => scriptBuiltins.map String.toList ++
      (functionDeclarations text).map FunctionDeclaration.name ++ parameterNames text
  | java, _ => javaBuiltins.map String.toList

theorem mem_declared_iff (profile : Profile) (text name : Text) :
    name ∈ profile.declared text ↔
      name ∈ (scan profile.declaration? text).map Prod.snd ∨
        name ∈ profile.declaredOtherwise text := by
  cases profile with
  | script =>
    have hscan : scan script.declaration? text = scan scriptDeclaration? text := rfl
    simp only [declared, declaredInScript, declaredOtherwise, hscan, List.mem_append]
    tauto
  | java =>
    have hscan : scan java.declaration? text = scan javaDeclaration? text := rfl
    simp only [declared, declaredInJava, declaredOtherwise, hscan, List.mem_append]
    tauto

/-- No keyword begins or ends with another one. -/
theorem eq_of_keyword_inside {profile : Profile} {a b : Text}
    (ha : a ∈ profile.keywords.map String.toList) (hb : b ∈ profile.keywords.map String.toList)
    (h : a <+: b ∨ a <:+ b) : a = b := by
  have hall : ∀ a ∈ profile.keywords.map String.toList,
      ∀ b ∈ profile.keywords.map String.toList, a <+: b ∨ a <:+ b → a = b := by
    cases profile <;> decide
  exact hall a ha b hb h

theorem isIdentifier_of_keyword {profile : Profile} {keyword : Text}
    (h : keyword ∈ profile.keywords.map String.toList) : isIdentifier keyword = true := by
  have hall : ∀ keyword ∈ profile.keywords.map String.toList, isIdentifier keyword = true := by
    cases profile <;> decide
  exact hall keyword h

end Profile

/-- A keyword at a place of a text, the gap behind it and the name behind the gap. -/
@[ext]
structure KeywordDeclaration where
  place : Nat
  keyword : Text
  gap : Text
  name : Text
deriving DecidableEq

namespace KeywordDeclaration

def word (declaration : KeywordDeclaration) : Text :=
  declaration.keyword ++ declaration.gap ++ declaration.name

def keywordStop (declaration : KeywordDeclaration) : Nat :=
  declaration.place + declaration.keyword.length

def stop (declaration : KeywordDeclaration) : Nat :=
  declaration.place + declaration.word.length

/-- The keyword stands at its place, where a declaration may begin, with blanks and a name
behind it that is as long as possible. -/
structure StandsIn (profile : Profile) (text : Text) (declaration : KeywordDeclaration) :
    Prop where
  isKeyword : declaration.keyword ∈ profile.keywords.map String.toList
  gap_ne_nil : declaration.gap ≠ []
  isBlankText : IsBlankText declaration.gap
  isIdentifier : isIdentifier declaration.name = true
  cut : ∃ before rest, text = before ++ (declaration.word ++ rest) ∧
    before.length = declaration.place ∧ profile.declaresBehind before.getLast? = true ∧
    ∀ c ∈ rest.head?, isIdentifierChar c = false

/-- The keyword of a declaration is the end of the name of another one. -/
def EndsNameOf (declaration other : KeywordDeclaration) : Prop :=
  other.place < declaration.place ∧ declaration.keywordStop = other.stop

end KeywordDeclaration

/-! ## Where the recogniser succeeds -/

namespace Profile

variable {profile : Profile} {text : Text}

theorem findSome?_keyword_iff {rest : Text} :
    (profile.keywords.findSome? fun keyword => after? keyword.toList text) = some rest ↔
      ∃ keyword ∈ profile.keywords.map String.toList, text = keyword ++ rest := by
  constructor
  · intro h
    obtain ⟨keyword, hmem, hafter⟩ := List.exists_of_findSome?_eq_some h
    exact ⟨keyword.toList, List.mem_map_of_mem hmem, after?_eq_some_iff.mp hafter⟩
  · rintro ⟨keyword, hmem, rfl⟩
    cases hfound :
        profile.keywords.findSome? fun other => after? other.toList (keyword ++ rest) with
    | none =>
      obtain ⟨word, hword, rfl⟩ := List.mem_map.mp hmem
      have hnone := List.findSome?_eq_none_iff.mp hfound word hword
      rw [after?_eq_some_iff.mpr rfl] at hnone
      contradiction
    | some behind =>
      obtain ⟨word, hword, hafter⟩ := List.exists_of_findSome?_eq_some hfound
      have htext := after?_eq_some_iff.mp hafter
      have hbegins : word.toList <+: keyword ++ rest := htext ▸ List.prefix_append _ _
      have hsame : word.toList = keyword := by
        rcases List.prefix_or_prefix_of_prefix hbegins (List.prefix_append keyword rest) with h | h
        · exact eq_of_keyword_inside (List.mem_map_of_mem hword) hmem (.inl h)
        · exact (eq_of_keyword_inside hmem (List.mem_map_of_mem hword) (.inl h)).symm
      rw [hsame] at htext
      rw [List.append_cancel_left htext]

theorem declaration?_eq_some_iff {before : Option Char} {hit : Hit Text} :
    profile.declaration? before text = some hit ↔
      profile.declaresBehind before = true ∧ ∃ keyword gap rest,
        keyword ∈ profile.keywords.map String.toList ∧ gap ≠ [] ∧ IsBlankText gap ∧
        isIdentifier hit.value = true ∧ text = keyword ++ gap ++ hit.value ++ rest ∧
        (∀ c ∈ rest.head?, isIdentifierChar c = false) ∧
        hit.size = (keyword ++ gap ++ hit.value).length := by
  unfold declaration?
  constructor
  · intro h
    split at h
    · rename_i hbefore
      simp only [keywordName?, Option.bind_eq_bind, Option.bind_eq_some_iff, Option.pure_def,
        Option.some.injEq, findSome?_keyword_iff, afterGap?_eq_some_iff] at h
      obtain ⟨_, ⟨keyword, hkeyword, rfl⟩, _, ⟨gap, hne, hgap, rfl, -⟩, ⟨name, rest⟩, hname, rfl⟩ :=
        h
      obtain ⟨hidentifier, rfl, hrest⟩ := identifier?_eq_some_iff.mp hname
      refine ⟨hbefore, keyword, gap, rest, hkeyword, hne, hgap, hidentifier, by simp, hrest, ?_⟩
      have htext : keyword ++ (gap ++ (name ++ rest)) = (keyword ++ gap ++ name) ++ rest := by simp
      rw [htext, taken_append]
    · contradiction
  · rintro ⟨hbefore, keyword, gap, rest, hkeyword, hne, hgap, hidentifier, rfl, hrest, hsize⟩
    rw [if_pos hbefore]
    obtain ⟨name, size⟩ := hit
    simp only at hidentifier hsize
    simp only [keywordName?, Option.bind_eq_bind, Option.bind_eq_some_iff, Option.pure_def,
      Option.some.injEq, findSome?_keyword_iff, afterGap?_eq_some_iff]
    refine ⟨gap ++ (name ++ rest), ⟨keyword, hkeyword, by simp⟩, name ++ rest,
      ⟨gap, hne, hgap, rfl, head?_identifier_append hidentifier rest⟩, (name, rest),
      identifier?_eq_some_iff.mpr ⟨hidentifier, rfl, hrest⟩, ?_⟩
    rw [taken_append, hsize]

theorem declaration?_succeedsAt_iff {place : Nat} {hit : Hit Text} :
    profile.declaration?.SucceedsAt text place hit ↔
      ∃ declaration : KeywordDeclaration, declaration.StandsIn profile text ∧
        declaration.place = place ∧ hit = ⟨declaration.name, declaration.word.length⟩ := by
  constructor
  · rintro ⟨before, _, rfl, rfl, hhit⟩
    obtain ⟨hbefore, keyword, gap, rest, hkeyword, hne, hgap, hidentifier, rfl, hrest, hsize⟩ :=
      declaration?_eq_some_iff.mp hhit
    refine ⟨⟨before.length, keyword, gap, hit.value⟩,
      ⟨hkeyword, hne, hgap, hidentifier, before, rest, rfl, rfl, hbefore, hrest⟩, rfl, ?_⟩
    rw [KeywordDeclaration.word, ← hsize]
  · rintro ⟨declaration, ⟨hkeyword, hne, hgap, hidentifier, before, rest, htext, hplace, hbefore,
      hrest⟩, rfl, rfl⟩
    refine ⟨before, declaration.word ++ rest, htext, hplace, ?_⟩
    exact declaration?_eq_some_iff.mpr ⟨hbefore, declaration.keyword, declaration.gap, rest,
      hkeyword, hne, hgap, hidentifier, rfl, hrest, rfl⟩

end Profile

/-! ## Declarations inside each other -/

namespace KeywordDeclaration

variable {profile : Profile} {text : Text} {declaration other : KeywordDeclaration}

theorem StandsIn.keyword_length_pos (h : declaration.StandsIn profile text) :
    0 < declaration.keyword.length :=
  List.length_pos_iff.mpr (ne_nil_of_isIdentifier (Profile.isIdentifier_of_keyword h.isKeyword))

theorem StandsIn.keywordStop_lt (h : declaration.StandsIn profile text) :
    declaration.keywordStop < declaration.stop := by
  have hgap : 0 < declaration.gap.length := List.length_pos_iff.mpr h.gap_ne_nil
  simp only [keywordStop, stop, word, List.length_append]
  omega

/-- What begins with blanks of the gap does not begin like an identifier. -/
theorem StandsIn.head?_gap (h : declaration.StandsIn profile text) {distance : Nat}
    (hlt : distance < declaration.gap.length) (rest : Text) :
    ∀ c ∈ (declaration.gap.drop distance ++ rest).head?, isIdentifierChar c = false := by
  intro c hc
  rw [List.drop_eq_getElem_cons hlt, List.cons_append, List.head?_cons] at hc
  obtain rfl := Option.some.inj hc
  exact isIdentifierChar_of_isBlank (h.isBlankText _ (List.getElem_mem hlt))

theorem StandsIn.identifierRun_keyword (h : declaration.StandsIn profile text) {place : Nat}
    (hle : declaration.place ≤ place) (hlt : place ≤ declaration.keywordStop) :
    identifierRun text place = declaration.keyword.drop (place - declaration.place) := by
  obtain ⟨before, rest, htext, hplace, -, -⟩ := h.cut
  have hgap := h.head?_gap (List.length_pos_iff.mpr h.gap_ne_nil) (declaration.name ++ rest)
  rw [← hplace] at hle ⊢
  refine identifierRun_eq_drop (by simpa [word] using htext) ?_ hgap hle ?_
  · intro c hc
    exact isIdentifierChar_of_mem (Profile.isIdentifier_of_keyword h.isKeyword) hc
  · rwa [keywordStop, ← hplace] at hlt

theorem StandsIn.identifierRun_place (h : declaration.StandsIn profile text) :
    identifierRun text declaration.place = declaration.keyword := by
  have hrun := h.identifierRun_keyword (Nat.le_refl _) (Nat.le_add_right _ _)
  rwa [Nat.sub_self, List.drop_zero] at hrun

theorem StandsIn.identifierRun_gap (h : declaration.StandsIn profile text) {place : Nat}
    (hle : declaration.keywordStop ≤ place)
    (hlt : place < declaration.keywordStop + declaration.gap.length) :
    identifierRun text place = [] := by
  obtain ⟨before, rest, htext, hplace, -, -⟩ := h.cut
  obtain ⟨distance, rfl⟩ := Nat.exists_eq_add_of_le hle
  have hgap := h.head?_gap (show distance < declaration.gap.length by omega)
    (declaration.name ++ rest)
  have hcut : text = (before ++ declaration.keyword ++ declaration.gap.take distance) ++
      ([] ++ (declaration.gap.drop distance ++ (declaration.name ++ rest))) := by
    rw [htext, word, List.nil_append, List.append_assoc _ (List.take _ _),
      ← List.append_assoc (List.take _ _), List.take_append_drop]
    simp
  have hlength : (before ++ declaration.keyword ++ declaration.gap.take distance).length =
      declaration.keywordStop + distance := by
    simp only [List.length_append, List.length_take, keywordStop, hplace]
    omega
  have hrun := identifierRun_eq_drop hcut (by simp) hgap (Nat.le_of_eq hlength)
    (Nat.le_of_eq (by simpa using hlength.symm))
  rwa [List.drop_nil] at hrun

theorem StandsIn.identifierRun_name (h : declaration.StandsIn profile text) {place : Nat}
    (hle : declaration.keywordStop + declaration.gap.length ≤ place)
    (hlt : place ≤ declaration.stop) :
    place + (identifierRun text place).length = declaration.stop := by
  obtain ⟨before, rest, htext, hplace, -, hrest⟩ := h.cut
  have hcut : text = (before ++ declaration.keyword ++ declaration.gap) ++
      (declaration.name ++ rest) := by
    rw [htext, word]
    simp
  have hlength : (before ++ declaration.keyword ++ declaration.gap).length =
      declaration.keywordStop + declaration.gap.length := by
    simp only [List.length_append, keywordStop, hplace]
  have hstop : declaration.stop =
      declaration.keywordStop + declaration.gap.length + declaration.name.length := by
    simp only [stop, word, keywordStop, List.length_append]
    omega
  rw [identifierRun_eq_drop hcut (fun c hc => isIdentifierChar_of_mem h.isIdentifier hc) hrest
    (by omega) (by omega), List.length_drop, hlength]
  omega

/-- A declaration begins inside another one only where its keyword ends the name of the other. -/
theorem StandsIn.endsNameOf (h : declaration.StandsIn profile text)
    (hother : other.StandsIn profile text) (hlt : other.place < declaration.place)
    (hinside : declaration.place < other.stop) : declaration.EndsNameOf other := by
  refine ⟨hlt, ?_⟩
  have hpos := h.keyword_length_pos
  have hrun := h.identifierRun_place
  by_cases hkeyword : declaration.place < other.keywordStop
  · -- the keyword would be the end of the other keyword
    exfalso
    rw [hother.identifierRun_keyword (Nat.le_of_lt hlt) (Nat.le_of_lt hkeyword)] at hrun
    have hsuffix : declaration.keyword <:+ other.keyword := hrun ▸ List.drop_suffix _ _
    have hsame := Profile.eq_of_keyword_inside h.isKeyword hother.isKeyword (.inr hsuffix)
    have hlength := congrArg List.length hrun
    rw [List.length_drop, hsame] at hlength
    rw [hsame] at hpos
    omega
  · by_cases hgap : declaration.place < other.keywordStop + other.gap.length
    · rw [hother.identifierRun_gap (Nat.le_of_not_lt hkeyword) hgap] at hrun
      simp [← hrun] at hpos
    · have hname := hother.identifierRun_name (Nat.le_of_not_lt hgap) (Nat.le_of_lt hinside)
      rwa [hrun] at hname

theorem StandsIn.eq_of_place_eq (h : declaration.StandsIn profile text)
    (hother : other.StandsIn profile text) (hplace : declaration.place = other.place) :
    declaration = other := by
  obtain ⟨before, rest, htext, hbefore, -, hrest⟩ := h.cut
  obtain ⟨before', rest', htext', hbefore', -, hrest'⟩ := hother.cut
  have hkeyword : declaration.keyword = other.keyword := by
    rw [← h.identifierRun_place, ← hother.identifierRun_place, hplace]
  have hcut := List.append_inj (htext.symm.trans htext') (by rw [hbefore, hbefore', hplace])
  have hbehind : declaration.gap ++ (declaration.name ++ rest) =
      other.gap ++ (other.name ++ rest') := by
    have hwords := hcut.2
    simp only [word, hkeyword, List.append_assoc] at hwords
    exact List.append_cancel_left hwords
  have hgap : declaration.gap = other.gap := by
    have hblanks := congrArg (List.takeWhile isBlank) hbehind
    rwa [takeWhile_append_of_stop h.isBlankText (head?_identifier_append h.isIdentifier rest),
      takeWhile_append_of_stop hother.isBlankText
        (head?_identifier_append hother.isIdentifier rest')] at hblanks
  have hname : declaration.name = other.name := by
    rw [hgap] at hbehind
    have hrun := congrArg (List.takeWhile isIdentifierChar) (List.append_cancel_left hbehind)
    rwa [takeWhile_append_of_stop (fun c hc => isIdentifierChar_of_mem h.isIdentifier hc) hrest,
      takeWhile_append_of_stop (fun c hc => isIdentifierChar_of_mem hother.isIdentifier hc)
        hrest'] at hrun
  exact KeywordDeclaration.ext hplace hkeyword hgap hname

theorem StandsIn.place_le_of_stop_eq (h : declaration.StandsIn profile text)
    (hother : other.StandsIn profile text) (hstop : declaration.stop = other.stop) :
    declaration.place ≤ other.place := by
  apply Nat.le_of_not_lt
  intro hlt
  have hkeyword := h.keywordStop_lt
  have hinside : declaration.place < other.stop := by
    rw [← hstop]
    exact Nat.lt_of_le_of_lt (Nat.le_add_right _ _) hkeyword
  have hends := (h.endsNameOf hother hlt hinside).2
  omega

/-- The keyword of a declaration ends the name of one other declaration at most. -/
theorem EndsNameOf.unique {first second : KeywordDeclaration} (h : declaration.EndsNameOf first)
    (h' : declaration.EndsNameOf second) (hfirst : first.StandsIn profile text)
    (hsecond : second.StandsIn profile text) : first = second := by
  have hstop : first.stop = second.stop := h.2.symm.trans h'.2
  apply hfirst.eq_of_place_eq hsecond
  exact Nat.le_antisymm (hfirst.place_le_of_stop_eq hsecond hstop)
    (hsecond.place_le_of_stop_eq hfirst hstop.symm)

end KeywordDeclaration

/-! ## Found and passed over by turns -/

/-- Whether a declaration is found. One whose keyword does not end another name is, and of two
of which one ends the name of the other either is. -/
inductive FoundInTurn (profile : Profile) (text : Text) : KeywordDeclaration → Bool → Prop
  | first {declaration : KeywordDeclaration} : declaration.StandsIn profile text →
      (∀ other : KeywordDeclaration, other.StandsIn profile text →
        ¬declaration.EndsNameOf other) →
      FoundInTurn profile text declaration true
  | next {declaration other : KeywordDeclaration} {found : Bool} :
      FoundInTurn profile text other found → declaration.StandsIn profile text →
      declaration.EndsNameOf other → FoundInTurn profile text declaration !found

section Turns

variable {profile : Profile} {text : Text} {declaration : KeywordDeclaration}

theorem FoundInTurn.standsIn {found : Bool} (h : FoundInTurn profile text declaration found) :
    declaration.StandsIn profile text := by
  cases h with
  | first hstands _ => exact hstands
  | next _ hstands _ => exact hstands

theorem exists_foundInTurn (h : declaration.StandsIn profile text) :
    ∃ found, FoundInTurn profile text declaration found := by
  induction hplace : declaration.place using Nat.strongRecOn generalizing declaration with
  | ind place ih =>
    by_cases hends : ∃ other : KeywordDeclaration, other.StandsIn profile text ∧
        declaration.EndsNameOf other
    · obtain ⟨other, hother, hends⟩ := hends
      obtain ⟨found, hfound⟩ := ih other.place (hplace ▸ hends.1) hother rfl
      exact ⟨!found, .next hfound h hends⟩
    · refine ⟨true, .first h ?_⟩
      intro other hother hend
      exact hends ⟨other, hother, hend⟩

/-- What the scan reports of a declaration. -/
def KeywordDeclaration.entry (declaration : KeywordDeclaration) : Nat × Hit Text :=
  (declaration.place, ⟨declaration.name, declaration.word.length⟩)

theorem exists_entry_of_mem_scan {entry : Nat × Hit Text}
    (h : entry ∈ scan profile.declaration?.sized text) :
    ∃ declaration : KeywordDeclaration, declaration.StandsIn profile text ∧
      entry = declaration.entry := by
  obtain ⟨place, hit⟩ := entry
  obtain ⟨declaration, hstands, rfl, rfl⟩ :=
    Profile.declaration?_succeedsAt_iff.mp (succeedsAt_of_mem_scan_sized h)
  exact ⟨declaration, hstands, rfl⟩

theorem Profile.declaration?_nil (before : Option Char) :
    profile.declaration? before [] = none := by
  apply Option.eq_none_iff_forall_ne_some.mpr
  intro hit hhit
  obtain ⟨-, keyword, gap, rest, -, hne, -, -, htext, -⟩ := declaration?_eq_some_iff.mp hhit
  simp [hne] at htext

/-- A declaration is found, or its keyword ends the name of one that is found. -/
theorem KeywordDeclaration.StandsIn.mem_scan_or_endsNameOf
    (h : declaration.StandsIn profile text) :
    declaration.entry ∈ scan profile.declaration?.sized text ∨
      ∃ other : KeywordDeclaration, other.StandsIn profile text ∧
        other.entry ∈ scan profile.declaration?.sized text ∧ declaration.EndsNameOf other := by
  have hat := Profile.declaration?_succeedsAt_iff.mpr ⟨declaration, h, rfl, rfl⟩
  rcases mem_scan_or_hidden Profile.declaration?_nil hat with hmem | ⟨entry, hmem, hlt, hinside⟩
  · exact .inl hmem
  · obtain ⟨other, hother, rfl⟩ := exists_entry_of_mem_scan hmem
    exact .inr ⟨other, hother, hmem, h.endsNameOf hother hlt hinside⟩

theorem FoundInTurn.mem_scan_iff {found : Bool} (h : FoundInTurn profile text declaration found) :
    declaration.entry ∈ scan profile.declaration?.sized text ↔ found = true := by
  induction h with
  | first hstands halone =>
    refine iff_of_true ?_ rfl
    rcases hstands.mem_scan_or_endsNameOf with hmem | ⟨other, hother, -, hends⟩
    · exact hmem
    · exact absurd hends (halone other hother)
  | @next declaration other found hfound hstands hends ih =>
    cases found with
    | true =>
      have hinside : declaration.place < other.stop := by
        rw [← hends.2]
        exact Nat.lt_add_of_pos_right hstands.keyword_length_pos
      exact iff_of_false (notMem_scan_of_hidden (ih.mpr rfl) hends.1 hinside) (by simp)
    | false =>
      refine iff_of_true ?_ rfl
      rcases hstands.mem_scan_or_endsNameOf with hmem | ⟨second, hsecond, hmem, hends'⟩
      · exact hmem
      · -- a keyword ends one name only, and the declaration of this name was passed over
        obtain rfl := hends.unique hends' hfound.standsIn hsecond
        exact absurd (ih.mp hmem) (by simp)

theorem FoundInTurn.unique {found found' : Bool} (h : FoundInTurn profile text declaration found)
    (h' : FoundInTurn profile text declaration found') : found = found' := by
  rw [Bool.eq_iff_iff, ← h.mem_scan_iff, h'.mem_scan_iff]

theorem Profile.mem_map_scan_declaration?_iff {name : Text} :
    name ∈ (scan profile.declaration? text).map Prod.snd ↔
      ∃ declaration, FoundInTurn profile text declaration true ∧ declaration.name = name := by
  rw [scan_eq_map_sized, List.map_map, List.mem_map]
  constructor
  · rintro ⟨entry, hmem, rfl⟩
    obtain ⟨declaration, hstands, rfl⟩ := exists_entry_of_mem_scan hmem
    obtain ⟨found, hfound⟩ := exists_foundInTurn hstands
    obtain rfl := hfound.mem_scan_iff.mp hmem
    exact ⟨declaration, hfound, rfl⟩
  · rintro ⟨declaration, hfound, rfl⟩
    exact ⟨declaration.entry, hfound.mem_scan_iff.mpr rfl, rfl⟩

end Turns

/-- The declared names are the names of the declarations that are found in their turn, and those
declared without a keyword. Each declaration has one turn. All declarations are collected
exactly when the names of those that are passed over are declared in another way. -/
theorem declared_eq_found_in_turn (profile : Profile) (text : Text) :
    (∀ declaration : KeywordDeclaration, declaration.StandsIn profile text →
      ∃! found, FoundInTurn profile text declaration found) ∧
    (∀ name, name ∈ profile.declared text ↔
      (∃ declaration, FoundInTurn profile text declaration true ∧ declaration.name = name) ∨
        name ∈ profile.declaredOtherwise text) ∧
    ((∀ declaration : KeywordDeclaration, declaration.StandsIn profile text →
        declaration.name ∈ profile.declared text) ↔
      ∀ declaration, FoundInTurn profile text declaration false →
        (∃ other, FoundInTurn profile text other true ∧ other.name = declaration.name) ∨
          declaration.name ∈ profile.declaredOtherwise text) := by
  have hdeclared : ∀ name, name ∈ profile.declared text ↔
      (∃ declaration, FoundInTurn profile text declaration true ∧ declaration.name = name) ∨
        name ∈ profile.declaredOtherwise text := by
    intro name
    rw [Profile.mem_declared_iff, Profile.mem_map_scan_declaration?_iff]
  refine ⟨?_, hdeclared, ?_, ?_⟩
  · intro declaration hstands
    obtain ⟨found, hfound⟩ := exists_foundInTurn hstands
    exact ⟨found, hfound, fun other hother => hother.unique hfound⟩
  · intro h declaration hpassed
    exact (hdeclared _).mp (h declaration hpassed.standsIn)
  · intro h declaration hstands
    obtain ⟨found, hfound⟩ := exists_foundInTurn hstands
    cases found with
    | true => exact (hdeclared _).mpr (.inl ⟨declaration, hfound, rfl⟩)
    | false => exact (hdeclared _).mpr (h declaration hfound)

/-- A word in a comment takes the next keyword for its name: `x` and `p` are lost. -/
theorem declared_loses_names_behind_keywords :
    (¬∀ text (declaration : KeywordDeclaration), declaration.StandsIn .script text →
      declaration.name ∈ declaredInScript text) ∧
    ¬∀ text (declaration : KeywordDeclaration), declaration.StandsIn .java text →
      declaration.name ∈ declaredInJava text := by
  constructor
  · intro h
    have hstands : (⟨7, "let".toList, " ".toList, "x".toList⟩ : KeywordDeclaration).StandsIn .script
        "// let\nlet x = 1;".toList := by
      refine ⟨by decide, by decide, by decide, by decide, "// let\n".toList, " = 1;".toList,
        by decide, by decide, by decide, ?_⟩
      rintro c ⟨⟩
      decide
    exact absurd (h _ _ hstands) (by decide +kernel)
  · intro h
    have hstands : (⟨9, "int".toList, " ".toList, "p".toList⟩ : KeywordDeclaration).StandsIn .java
        "// int\nPoint p;".toList := by
      refine ⟨by decide, by decide, by decide, by decide, "// int\nPo".toList, ";".toList,
        by decide, by decide, by decide, ?_⟩
      rintro c ⟨⟩
      decide
    exact absurd (h _ _ hstands) (by decide +kernel)

end SurfaceLint
