import Mathlib.Data.List.Basic
import SurfaceLint.Proofs.Names.CallSite

/-!
# Declarations and printing calls at every place

The scan for function declarations and the scan for printing calls look on behind what they
have read. Nothing is lost by that: a second declaration or call could only begin with the end
of the name in the first one, where blanks and a parenthesis follow, and these do not follow the
first word of a declaration or a call. The names are never cut short, since what follows them
ends an identifier.
-/

namespace SurfaceLint

section Second

variable {name space rest word tail : Text} {mark : Char} (hname : isIdentifier name = true)
  (hspace : IsBlankText space) (hmark : isIdentifierChar mark = false)
  (hword : isIdentifier word = true) (htail : ∀ c ∈ tail.head?, isIdentifierChar c = false)
include hname hspace hmark hword htail

/-- A word that begins inside a name, or in the blanks and the mark behind it, is the end of the
name. -/
theorem eq_behind_name {further : Text}
    (h : name ++ (space ++ mark :: rest) = further ++ (word ++ tail))
    (hlt : further.length < (name ++ space ++ [mark]).length) :
    tail = space ++ mark :: rest := by
  have hrun : ∀ left later, (∀ c ∈ left, isIdentifierChar c = true) → IsBlankText later →
      word ++ tail = left ++ (later ++ mark :: rest) → word = left := by
    intro left later hleft hlater heq
    have htake := congrArg (List.takeWhile isIdentifierChar) heq
    rwa [takeWhile_append_of_stop (fun c hc => isIdentifierChar_of_mem hword hc) htail,
      takeWhile_append_of_stop hleft (head?_gap_mark hlater hmark rest)] at htake
  have hne := ne_nil_of_isIdentifier hword
  rcases List.append_eq_append_iff.mp h with ⟨more, rfl, hmore⟩ | ⟨left, rfl, hleft⟩
  · rcases List.append_eq_append_iff.mp hmore with ⟨beyond, rfl, hbeyond⟩ | ⟨later, rfl, hlater⟩
    · have hnil : beyond = [] := by
        simp only [List.length_append, List.length_singleton] at hlt
        exact List.length_eq_zero_iff.mp (by omega)
      rw [hnil, List.nil_append] at hbeyond
      exact absurd (hrun [] [] (by simp) (by simp [IsBlankText]) hbeyond.symm) hne
    · have hblank : IsBlankText later := fun c hc => hspace c (List.mem_append_right _ hc)
      exact absurd (hrun [] later (by simp) hblank hlater) hne
  · have hsame := hrun left space
      (fun c hc => isIdentifierChar_of_mem hname (List.mem_append_right _ hc)) hspace hleft
    rw [hsame] at hleft
    exact List.append_cancel_left hleft

/-- Where a pattern of a head, a name, blanks and a mark is read, a word that begins like the head
is the end of the name. -/
theorem eq_behind_head {c : Char} {head letters read : Text}
    (h : c :: head ++ (name ++ (space ++ mark :: rest)) = read ++ (word ++ tail))
    (hletters : word = c :: letters) (hhead : c ∉ head) (hne : read ≠ [])
    (hlt : read.length < (c :: head ++ name ++ space ++ [mark]).length) :
    tail = space ++ mark :: rest := by
  subst hletters
  obtain ⟨further, rfl, hbody⟩ := exists_behind_head h hhead hne
  apply eq_behind_name hname hspace hmark hword htail hbody
  simpa only [List.append_assoc, List.length_append, Nat.add_lt_add_iff_left] using hlt

end Second

/-! ## Function declarations -/

/-- A declaration is written in a text: the keyword, not behind a word character, a gap, the
longest identifier there, blanks and an opening parenthesis. -/
def FunctionDeclaration.WrittenIn (text : Text) (declaration : FunctionDeclaration) : Prop :=
  ∃ gap space, gap ≠ [] ∧ IsBlankText gap ∧ IsBlankText space ∧
    isIdentifier declaration.name = true ∧
    (∀ c ∈ (text.take declaration.start).getLast?, isWord c = false) ∧
    StandsAt text declaration.start
      ("function".toList ++ gap ++ declaration.name ++ space ++ ['(']) ∧
    identifierRun text (declaration.start + ("function".toList ++ gap).length) =
      declaration.name ∧
    declaration.stop = declaration.start + ("function".toList ++ gap ++ declaration.name).length

theorem atWordStart_iff {before : Option Char} :
    atWordStart before = true ↔ ∀ c ∈ before, isWord c = false := by
  cases before <;> simp [atWordStart]

theorem functionHead?_isSeparate : functionHead?.IsSeparate where
  empty before := by
    apply Option.eq_none_iff_forall_ne_some.mpr
    intro hit hhit
    obtain ⟨-, gap, name, space, rest, -, -, -, -, htext, -⟩ := functionHead?_eq_some_iff.mp hhit
    simp at htext
  inside before read rest hit hhit hne hlt := by
    obtain ⟨-, gap, name, space, behind, -, hgap, hname, hspace, htext, rfl⟩ :=
      functionHead?_eq_some_iff.mp hhit
    apply Option.eq_none_iff_forall_ne_some.mpr
    intro other hother
    obtain ⟨-, gap', name', space', behind', hne', hgap', hname', -, rfl, -⟩ :=
      functionHead?_eq_some_iff.mp hother
    have hcut : 'f' :: ("unction".toList ++ gap) ++ (name ++ (space ++ '(' :: behind)) =
        read ++ ("function".toList ++ (gap' ++ (name' ++ (space' ++ '(' :: behind')))) := by
      simpa using htext.symm
    have hhead : 'f' ∉ "unction".toList ++ gap := by
      simp only [List.mem_append, not_or]
      exact ⟨by decide, hgap.notMem (by decide)⟩
    have hstop : ∀ c ∈ (gap' ++ (name' ++ (space' ++ '(' :: behind'))).head?,
        isIdentifierChar c = false := by
      obtain ⟨d, gap', rfl⟩ := List.exists_cons_of_ne_nil hne'
      rintro c ⟨⟩
      exact isIdentifierChar_of_isBlank (hgap' d List.mem_cons_self)
    -- the second keyword ends the first name, and a second name would stand behind it
    have hend := eq_behind_head hname hspace (by decide) (by decide) hstop hcut rfl hhead hne
      (by simpa using hlt)
    exact gap_identifier_ne_gap_mark hgap' hname' hspace (by decide) (by decide) hend

/-- The longest identifier between two parts of a text, the second of which begins with none of
its characters. -/
theorem identifierRun_between (before : Text) {name rest : Text} (hname : isIdentifier name = true)
    (hrest : ∀ c ∈ rest.head?, isIdentifierChar c = false) :
    identifierRun (before ++ (name ++ rest)) before.length = name := by
  have hrun := identifierRun_eq_drop rfl (fun c hc => isIdentifierChar_of_mem hname hc) hrest
    (Nat.le_refl before.length) (Nat.le_add_right _ _)
  rwa [Nat.sub_self, List.drop_zero] at hrun

theorem mem_functionDeclarations_iff {text : Text} {declaration : FunctionDeclaration} :
    declaration ∈ functionDeclarations text ↔ declaration.WrittenIn text := by
  constructor
  · intro h
    obtain ⟨⟨offset, head⟩, hmem, rfl⟩ := List.mem_map.mp h
    obtain ⟨before, _, hit, rfl, rfl, hhit, rfl⟩ := exists_of_mem_scan hmem
    obtain ⟨hstart, gap, name, space, rest, hne, hgap, hname, hspace, rfl, rfl⟩ :=
      functionHead?_eq_some_iff.mp hhit
    refine ⟨gap, space, hne, hgap, hspace, hname, ?_, ⟨before, rest, by simp, rfl⟩, ?_, rfl⟩
    · rw [List.take_left]
      exact atWordStart_iff.mp hstart
    · have hrun := identifierRun_between (before ++ ("function".toList ++ gap)) hname
        (head?_gap_parenthesis hspace rest)
      rw [List.length_append] at hrun
      simpa only [List.append_assoc] using hrun
  · rintro ⟨gap, space, hne, hgap, hspace, hname, hstart, ⟨before, rest, rfl, hplace⟩, -, hstop⟩
    obtain ⟨name, start, stop⟩ := declaration
    obtain rfl : before.length = start := hplace
    obtain rfl : stop = before.length + ("function".toList ++ gap ++ name).length := hstop
    have hcut : before ++ ("function".toList ++ gap ++ name ++ space ++ ['(']) ++ rest =
        before ++ ("function".toList ++ gap ++ name ++ space ++ '(' :: rest) := by
      simp
    rw [hcut, List.take_left, ← atWordStart_iff] at hstart
    have hhit := functionHead?_parts hstart hne hgap hname hspace rest
    have hmem := (mem_scan_iff functionHead?_isSeparate).mpr ⟨before, _, _, rfl, rfl, hhit, rfl⟩
    rw [hcut, functionDeclarations, List.mem_map]
    exact ⟨_, hmem, rfl⟩

/-! ## Printing calls -/

/-- A reference is printed in a text: a method that prints, blanks, an opening parenthesis,
blanks, the longest identifier at the offset, blanks and a closing parenthesis. -/
def Reference.PrintedIn (text : Text) (reference : Reference) : Prop :=
  ∃ method ∈ printMethods, ∃ gap space tail place, IsBlankText gap ∧ IsBlankText space ∧
    IsBlankText tail ∧ isIdentifier reference.name = true ∧
    StandsAt text place (printHead method gap space ++ reference.name ++ tail ++ [')']) ∧
    reference.offset = place + (printHead method gap space).length ∧
    identifierRun text reference.offset = reference.name

/-- A method begins with a name, a dot behind it, and a letter that it does not hold again. -/
theorem exists_method_eq {method : Text} (h : method ∈ printMethods) :
    ∃ rest, method = "System".toList ++ '.' :: rest ∧ 'S' ∉ '.' :: rest := by
  rcases List.mem_pair.mp h with rfl | rfl
  · exact ⟨"out.print".toList, rfl, by decide⟩
  · exact ⟨"out.println".toList, rfl, by decide⟩

theorem printCall?_isSeparate : printCall?.IsSeparate where
  empty before := rfl
  inside before read rest hit hhit hne hlt := by
    obtain ⟨method, hmethod, gap, space, name, tail, behind, hgap, hspace, hname, htail, htext,
      rfl⟩ := printCall?_eq_some_iff.mp hhit
    apply Option.eq_none_iff_forall_ne_some.mpr
    intro other hother
    obtain ⟨method', hmethod', gap', space', name', tail', behind', -, -, -, -, rfl, -⟩ :=
      printCall?_eq_some_iff.mp hother
    obtain ⟨more, rfl, hmore⟩ := exists_method_eq hmethod
    obtain ⟨more', rfl, -⟩ := exists_method_eq hmethod'
    have hcut : 'S' :: ("ystem".toList ++ ('.' :: more) ++ gap ++ '(' :: space) ++
          (name ++ (tail ++ ')' :: behind)) =
        read ++ ("System".toList ++ ('.' :: (more' ++ gap' ++ '(' :: (space' ++ name' ++ tail' ++
          ')' :: behind')))) := by
      simpa [printHead] using htext.symm
    have hhead : 'S' ∉ "ystem".toList ++ ('.' :: more) ++ gap ++ '(' :: space := by
      have hopen : 'S' ∉ '(' :: space :=
        List.not_mem_cons_of_ne_of_not_mem (by decide) (hspace.notMem (by decide))
      simp only [List.mem_append, not_or]
      exact ⟨⟨⟨by decide, hmore⟩, hgap.notMem (by decide)⟩, hopen⟩
    -- the second method begins with the end of the name, and no dot stands behind that
    have hend := eq_behind_head hname htail (by decide) (by decide) (by rintro c ⟨⟩; decide) hcut
      rfl hhead hne (by simpa [printHead] using hlt)
    cases tail with
    | nil => exact absurd (List.cons.inj hend).1 (by decide)
    | cons d tail =>
      obtain ⟨rfl, -⟩ := List.cons.inj hend
      exact absurd (htail '.' List.mem_cons_self) (by decide)

theorem mem_printReferences_iff {text : Text} {reference : Reference} :
    reference ∈ printReferences text ↔ reference.PrintedIn text := by
  constructor
  · intro h
    obtain ⟨⟨place, value⟩, hmem, rfl⟩ := List.mem_map.mp h
    obtain ⟨before, _, hit, rfl, rfl, hhit, rfl⟩ := exists_of_mem_scan hmem
    obtain ⟨method, hmethod, gap, space, name, tail, rest, hgap, hspace, hname, htail, rfl, rfl⟩ :=
      printCall?_eq_some_iff.mp hhit
    refine ⟨method, hmethod, gap, space, tail, before.length, hgap, hspace, htail, hname,
      ⟨before, rest, by simp [Reference.shift], rfl⟩, rfl, ?_⟩
    have hrun := identifierRun_between (before ++ printHead method gap space) hname
      (head?_gap_mark htail (show isIdentifierChar ')' = false by decide) rest)
    rw [List.length_append] at hrun
    simpa only [Reference.shift, List.append_assoc] using hrun
  · rintro ⟨method, hmethod, gap, space, tail, place, hgap, hspace, htail, hname,
      ⟨before, rest, rfl, rfl⟩, hoffset, -⟩
    obtain ⟨name, offset⟩ := reference
    obtain rfl : offset = before.length + (printHead method gap space).length := hoffset
    have hcut : before ++ (printHead method gap space ++ name ++ tail ++ [')']) ++ rest =
        before ++ (printHead method gap space ++ name ++ tail ++ ')' :: rest) := by
      simp
    have hmem := (mem_scan_iff printCall?_isSeparate).mpr ⟨before, _, _, rfl, rfl,
      printCall?_parts hmethod hgap hspace hname htail rest, rfl⟩
    rw [hcut, printReferences, List.mem_map]
    exact ⟨_, hmem, rfl⟩

theorem offset_lt_size_of_printCall? {before : Option Char} {text : Text} {hit : Hit Reference}
    (h : printCall? before text = some hit) : hit.value.offset + 1 ≤ hit.size := by
  obtain ⟨method, -, gap, space, name, tail, rest, -, -, -, -, -, rfl⟩ :=
    printCall?_eq_some_iff.mp h
  simp only [List.length_append, List.length_singleton]
  omega

theorem pairwise_printReferences (text : Text) :
    (printReferences text).Pairwise fun r s => r.offset < s.offset := by
  rw [printReferences, List.pairwise_map]
  refine (pairwise_scan (fun reference => reference.offset + 1)
    (fun _ _ _ => offset_lt_size_of_printCall?) text).imp ?_
  intro a b horder
  simp only [Reference.shift]
  omega

/-- The function declarations of a text are all that are written in it, in text order and apart
from each other; the printed references are all names that are printed in it, in text order. -/
theorem every_declaration_and_print_found (text : Text) :
    ((functionDeclarations text).Pairwise fun a b => a.start < b.start ∧ a.stop ≤ b.start) ∧
      (∀ declaration, declaration ∈ functionDeclarations text ↔ declaration.WrittenIn text) ∧
      ((printReferences text).Pairwise fun r s => r.offset < s.offset) ∧
      ∀ reference, reference ∈ printReferences text ↔ reference.PrintedIn text := by
  refine ⟨?_, fun _ => mem_functionDeclarations_iff, pairwise_printReferences text,
    fun _ => mem_printReferences_iff⟩
  refine (pairwise_functionDeclarations text).imp_of_mem ?_
  intro a b ha _ hle
  obtain ⟨-, hwidth, -⟩ := FunctionDeclaration.isCallSite ha
  exact ⟨by omega, hle⟩

end SurfaceLint
