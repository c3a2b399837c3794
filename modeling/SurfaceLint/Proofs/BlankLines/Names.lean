import Mathlib.Data.List.Basic
import SurfaceLint.Proofs.LineEnding.Names
import SurfaceLint.Proofs.Text.Blank

/-!
# Names in a text between blank lines

No pattern of the library begins with a blank, looks behind at one, or takes in one at the
end of a text. Blank lines above a text therefore move what is found by their length, and
blank lines below it change nothing. The lines of a `console.log` call are read one by one,
so there the blank lines are lines of their own without references.
-/

namespace SurfaceLint

/-- Blank lines around a text, with the newlines that separate them from it. -/
structure BlankFrame where
  above : Text
  below : Text
  above_blank : IsBlankText above
  below_blank : IsBlankText below
  above_closed : above = [] ∨ ∃ lines, above = lines ++ ['\n']
  below_closed : below = [] ∨ ∃ lines, below = '\n' :: lines

namespace BlankFrame

def around (frame : BlankFrame) (text : Text) : Text :=
  frame.above ++ text ++ frame.below

/-- How far the text is moved. -/
def width (frame : BlankFrame) : Nat :=
  frame.above.length

/-- How many lines are put above the text. -/
def height (frame : BlankFrame) : Nat :=
  frame.above.count '\n'

/-- Lines above the text only. -/
def ofAbove {blanks : Text} (hblank : IsBlankText blanks) (hlast : blanks.getLast? = some '\n') :
    BlankFrame where
  above := blanks
  below := []
  above_blank := hblank
  below_blank := by simp [IsBlankText]
  above_closed := .inr (List.getLast?_eq_some_iff.mp hlast)
  below_closed := .inl rfl

/-- Lines below the text only, behind the newline that ends it. -/
def ofBelow {blanks : Text} (hblank : IsBlankText blanks) : BlankFrame where
  above := []
  below := '\n' :: blanks
  above_blank := by simp [IsBlankText]
  below_blank := List.forall_mem_cons.mpr ⟨rfl, hblank⟩
  above_closed := .inl rfl
  below_closed := .inr ⟨blanks, rfl⟩

@[simp] theorem around_ofAbove {blanks : Text} (hblank : IsBlankText blanks)
    (hlast : blanks.getLast? = some '\n') (text : Text) :
    (ofAbove hblank hlast).around text = blanks ++ text :=
  List.append_nil _

@[simp] theorem around_ofBelow {blanks : Text} (hblank : IsBlankText blanks) (text : Text) :
    (ofBelow hblank).around text = text ++ '\n' :: blanks := rfl

end BlankFrame

/-! ## Parts of a pattern and a blank behind the text -/

theorem takeWhile_append_of_dropWhile_ne_nil {p : Char → Bool} {text : Text}
    (h : text.dropWhile p ≠ []) (tail : Text) :
    (text ++ tail).takeWhile p = text.takeWhile p := by
  have hlength : (text.takeWhile p).length + (text.dropWhile p).length = text.length := by
    rw [← List.length_append, List.takeWhile_append_dropWhile]
  have hpos := List.length_pos_iff.mpr h
  rw [List.takeWhile_append, if_neg (by omega)]

section Blank

variable {c : Char} (hc : isBlank c = true)
include hc

theorem IsSolid.after?_append_blank {word : Text} (h : IsSolid word) (text : Text) :
    after? word (text ++ [c]) = (after? word text).map (· ++ [c]) :=
  after?_append_cons (h.notMem hc) text []

theorem findSome?_after?_blank_cons {keywords : List String}
    (h : ∀ keyword ∈ keywords, IsSolid keyword.toList) (rest : Text) :
    (keywords.findSome? fun keyword => after? keyword.toList (c :: rest)) = none := by
  rw [List.findSome?_eq_none_iff]
  intro keyword hkeyword
  exact (h keyword hkeyword).after?_blank_cons hc rest

theorem atWordStart_blank : atWordStart (some c) = atWordStart none := by
  simp [atWordStart, isWord_of_isBlank hc]

theorem atIdentifierStart_blank : atIdentifierStart (some c) = atIdentifierStart none := by
  simp [atIdentifierStart, isIdentifierChar_of_isBlank hc]

theorem atWordEnd_append_blank (text : Text) : atWordEnd (text ++ [c]) = atWordEnd text := by
  cases text with
  | nil => simp [atWordEnd, isWord_of_isBlank hc]
  | cons d text => rfl

theorem skipBlanks_append_blank (text : Text) :
    (skipBlanks text = [] ∧ skipBlanks (text ++ [c]) = []) ∨
      skipBlanks (text ++ [c]) = skipBlanks text ++ [c] := by
  simp only [skipBlanks, List.dropWhile_append]
  cases htext : text.dropWhile isBlank with
  | nil => exact .inl ⟨rfl, by simp [hc]⟩
  | cons d rest => exact .inr (by simp)

theorem identifier?_skipBlanks_append_blank (text : Text) :
    identifier? (skipBlanks (text ++ [c])) =
      (identifier? (skipBlanks text)).map fun named => (named.1, named.2 ++ [c]) := by
  rcases skipBlanks_append_blank hc text with ⟨hnil, hnil'⟩ | hmore
  · rw [hnil, hnil']
    rfl
  · rw [hmore, identifier?_append_cons (isIdentifierChar_of_isBlank hc)]

/-- A gap that ends the text grows, but no name stands behind it. -/
theorem gapName_append_blank (text : Text) :
    (afterGap? (text ++ [c])).bind identifier? =
      ((afterGap? text).bind identifier?).map fun named => (named.1, named.2 ++ [c]) := by
  cases text with
  | nil => simp [afterGap?, hc, skipBlanks, identifier?]
  | cons d text =>
    cases hd : isBlank d with
    | false => simp [afterGap?, hd]
    | true => simp [afterGap?, hd, identifier?_skipBlanks_append_blank hc]

end Blank

/-! ## Patterns -/

/-- A recogniser that begins at no blank. -/
def Recogniser.RefusesBlanks {α : Type} (recogniser : Recogniser α) : Prop :=
  ∀ c, isBlank c = true → ∀ before rest, recogniser before (c :: rest) = none

/-- A recogniser that begins at no blank, takes a blank before it for the start of the text,
and finds the same with a blank behind the text. -/
structure Recogniser.IgnoresBlanks {α : Type} (recogniser : Recogniser α) : Prop where
  front : recogniser.RefusesBlanks
  border : ∀ c, isBlank c = true → ∀ text, recogniser (some c) text = recogniser none text
  back : ∀ c, isBlank c = true → ∀ before text,
    recogniser before (text ++ [c]) = recogniser before text

theorem keywordName?_blank_cons {keywords : List String}
    (h : ∀ keyword ∈ keywords, IsSolid keyword.toList) {c : Char} (hc : isBlank c = true)
    (rest : Text) : keywordName? keywords (c :: rest) = none := by
  rw [keywordName?, findSome?_after?_blank_cons hc h]
  rfl

theorem keywordName?_append_blank {keywords : List String}
    (h : ∀ keyword ∈ keywords, IsSolid keyword.toList) {c : Char} (hc : isBlank c = true)
    (text : Text) : keywordName? keywords (text ++ [c]) = keywordName? keywords text := by
  have hkeywords : ∀ keyword ∈ keywords, c ∉ keyword.toList :=
    fun keyword hkeyword => (h keyword hkeyword).notMem hc
  simp only [keywordName?, findSome?_after?_append_cons hkeywords, Option.bind_eq_bind,
    Option.bind_map, Function.comp_def]
  refine Option.bind_congr fun rest _ => ?_
  rw [← Option.bind_assoc, ← Option.bind_assoc, gapName_append_blank hc, Option.bind_map]
  simp only [Function.comp_def, taken_append_append]

theorem scriptDeclaration?_ignoresBlanks : scriptDeclaration?.IgnoresBlanks where
  front c hc before rest := by
    rw [scriptDeclaration?, keywordName?_blank_cons (by decide) hc, ite_self]
  border c hc text := by
    simp only [scriptDeclaration?, atWordStart_blank hc]
  back c hc before text := by
    rw [scriptDeclaration?, keywordName?_append_blank (by decide) hc]
    rfl

theorem javaDeclaration?_ignoresBlanks : javaDeclaration?.IgnoresBlanks where
  front _ hc _ rest := keywordName?_blank_cons (by decide) hc rest
  border _ _ _ := rfl
  back _ hc _ text := keywordName?_append_blank (by decide) hc text

theorem isSolid_function : IsSolid "function".toList := by decide

theorem functionHead?_ignoresBlanks : functionHead?.IgnoresBlanks where
  front c hc before rest := by
    simp only [functionHead?, isSolid_function.after?_blank_cons hc, Option.bind_eq_bind,
      Option.bind_none, Option.bind_fun_none]
  border c hc text := by
    simp only [functionHead?, atWordStart_blank hc]
  back c hc before text := by
    simp only [functionHead?, isSolid_function.after?_append_blank hc, Option.bind_eq_bind,
      Option.bind_map, Function.comp_def]
    refine Option.bind_congr fun _ _ => ?_
    refine Option.bind_congr fun rest _ => ?_
    rw [← Option.bind_assoc, ← Option.bind_assoc, gapName_append_blank hc, Option.bind_map]
    simp only [Function.comp_def, afterMark?_append_singleton hc, Option.bind_map,
      taken_append_append]

theorem callSite?_ignoresBlanks {name : Text} (h : isIdentifier name = true) :
    (callSite? name).IgnoresBlanks where
  front c hc before rest := by
    simp only [callSite?, (isSolid_of_isIdentifier h).after?_blank_cons hc, Option.bind_eq_bind,
      Option.bind_none, Option.bind_fun_none]
  border c hc text := by
    simp only [callSite?, atIdentifierStart_blank hc]
  back c hc before text := by
    simp only [callSite?, (isSolid_of_isIdentifier h).after?_append_blank hc,
      afterMark?_append_singleton hc, Option.bind_eq_bind, Option.bind_map, Function.comp_def,
      taken_append_append]

theorem parameterList?_ignoresBlanks : parameterList?.IgnoresBlanks where
  front c hc before rest := by
    simp only [parameterList?, isSolid_function.after?_blank_cons hc, Option.bind_eq_bind,
      Option.bind_none, Option.bind_fun_none]
  border c hc text := by
    simp only [parameterList?, atWordStart_blank hc]
  back c hc before text := by
    have hopen : ∀ rest, afterMark? '(' ((skipBlanks (rest ++ [c])).dropWhile isIdentifierChar) =
        (afterMark? '(' ((skipBlanks rest).dropWhile isIdentifierChar)).map (· ++ [c]) := by
      intro rest
      rcases skipBlanks_append_blank hc rest with ⟨hnil, hnil'⟩ | hmore
      · rw [hnil, hnil']
        rfl
      · rw [hmore, dropWhile_append_cons (isIdentifierChar_of_isBlank hc),
          afterMark?_append_singleton hc]
    have hparen : c ≠ ')' := by
      rintro rfl
      contradiction
    simp only [parameterList?, isSolid_function.after?_append_blank hc,
      atWordEnd_append_blank hc, hopen, Option.bind_eq_bind, Option.bind_map, Function.comp_def]
    refine Option.bind_congr fun _ _ => ?_
    refine Option.bind_congr fun rest _ => ?_
    refine Option.bind_congr fun _ _ => ?_
    refine Option.bind_congr fun inside _ => ?_
    rw [List.dropWhile_append]
    cases hend : inside.dropWhile (· ≠ ')') with
    | nil => simp [hparen]
    | cons d tail =>
      have hclosed : (inside ++ [c]).takeWhile (· ≠ ')') = inside.takeWhile (· ≠ ')') :=
        takeWhile_append_of_dropWhile_ne_nil (by rw [hend]; exact List.cons_ne_nil d tail) [c]
      rw [hclosed]
      simp [taken_append_append]

theorem printCall?_ignoresBlanks : printCall?.IgnoresBlanks where
  front c hc before rest := by
    have hcall : IsSolid "System.out.print".toList := by decide
    simp only [printCall?, hcall.after?_blank_cons hc, Option.bind_eq_bind, Option.bind_none]
  border _ _ _ := rfl
  back c hc before text := by
    have hcall : IsSolid "System.out.print".toList := by decide
    have hending : IsSolid "ln".toList := by decide
    simp only [printCall?, hcall.after?_append_blank hc, hending.after?_append_blank hc,
      Option.getD_map, afterMark?_append_singleton hc, Option.bind_eq_bind, Option.bind_map,
      Function.comp_def]
    refine Option.bind_congr fun rest _ => ?_
    refine Option.bind_congr fun inside _ => ?_
    rcases skipBlanks_append_blank hc inside with ⟨hnil, hnil'⟩ | hmore
    · rw [hnil, hnil']
      rfl
    · simp only [hmore, identifier?_append_cons (isIdentifierChar_of_isBlank hc),
        afterMark?_append_singleton hc, Option.bind_map, Function.comp_def, taken_append_append]

theorem consoleCall?_refusesBlanks : consoleCall?.RefusesBlanks := by
  intro c hc before rest
  have hcall : IsSolid "console.log".toList := by decide
  simp only [consoleCall?, hcall.after?_blank_cons hc, Option.bind_eq_bind, Option.bind_none]

/-! ## Scans -/

section Scans

variable {α : Type} {recogniser : Recogniser α}

theorem scanFrom_add (before : Option Char) (distance offset skip : Nat) (text : Text) :
    scanFrom recogniser before (distance + offset) skip text =
      (scanFrom recogniser before offset skip text).map fun hit => (distance + hit.1, hit.2) := by
  induction text generalizing before offset skip with
  | nil => rfl
  | cons c text ih =>
    cases skip with
    | succ skip => exact ih (some c) (offset + 1) skip
    | zero =>
      simp only [scanFrom]
      cases recogniser before (c :: text) with
      | none => exact ih (some c) (offset + 1) 0
      | some hit => exact congrArg (_ :: ·) (ih (some c) (offset + 1) (hit.size - 1))

theorem scanFrom_blanks_append (h : recogniser.RefusesBlanks) {blanks : Text}
    (hblanks : IsBlankText blanks) (text : Text) (before : Option Char) (offset : Nat) :
    scanFrom recogniser before offset 0 (blanks ++ text) =
      scanFrom recogniser (blanks.getLast?.or before) (blanks.length + offset) 0 text := by
  induction blanks generalizing before offset with
  | nil => simp
  | cons c blanks ih =>
    have hrest := ih (fun d hd => hblanks d (by simp [hd])) (some c) (offset + 1)
    have hlast : (c :: blanks).getLast?.or before = blanks.getLast?.or (some c) := by
      cases blanks <;> simp [List.getLast?_cons]
    simp only [List.cons_append, scanFrom, h c (hblanks c (by simp)), hrest, hlast,
      List.length_cons]
    congr 1
    omega

theorem scan_of_isBlankText (h : recogniser.RefusesBlanks) {text : Text}
    (htext : IsBlankText text) : scan recogniser text = [] := by
  have hnothing := scanFrom_blanks_append h htext [] none 0
  rwa [List.append_nil] at hnothing

theorem scan_blanks_append (h : recogniser.IgnoresBlanks) {blanks : Text}
    (hblanks : IsBlankText blanks) (text : Text) :
    scan recogniser (blanks ++ text) =
      (scan recogniser text).map fun hit => (blanks.length + hit.1, hit.2) := by
  have hborder : scanFrom recogniser blanks.getLast? 0 0 text = scan recogniser text := by
    cases hlast : blanks.getLast? with
    | none => rfl
    | some c =>
      have hc := hblanks c (List.mem_of_getLast? hlast)
      cases text with
      | nil => rfl
      | cons d text => simp only [scan, scanFrom, h.border c hc]
  rw [scan, scanFrom_blanks_append h.front hblanks, Option.or_none, scanFrom_add, hborder]

theorem scan_append_blanks (h : recogniser.IgnoresBlanks) {blanks : Text}
    (hblanks : IsBlankText blanks) (text : Text) :
    scan recogniser (text ++ blanks) = scan recogniser text := by
  induction blanks generalizing text with
  | nil => rw [List.append_nil]
  | cons c blanks ih =>
    have hc := hblanks c (by simp)
    have hextends : recogniser.Extends c id := {
      append := fun before text => by simp [h.back c hc]
      alone := fun before => h.front c hc before [] }
    have hone : scan recogniser (text ++ [c]) = scan recogniser text := by
      simp [scan, scanFrom_append_singleton hextends]
    have hrest := ih (fun d hd => hblanks d (by simp [hd])) (text ++ [c])
    rwa [List.append_assoc, List.singleton_append, hone] at hrest

theorem scan_around (h : recogniser.IgnoresBlanks) (frame : BlankFrame) (text : Text) :
    scan recogniser (frame.around text) =
      (scan recogniser text).map fun hit => (frame.width + hit.1, hit.2) := by
  rw [BlankFrame.around, scan_append_blanks h frame.below_blank,
    scan_blanks_append h frame.above_blank]
  rfl

end Scans

/-! ## Declared names -/

def FunctionDeclaration.shift (distance : Nat) (declaration : FunctionDeclaration) :
    FunctionDeclaration :=
  ⟨declaration.name, distance + declaration.start, distance + declaration.stop⟩

section Around

variable (frame : BlankFrame) (text : Text)

theorem functionDeclarations_around :
    functionDeclarations (frame.around text) =
      (functionDeclarations text).map (·.shift frame.width) := by
  simp only [functionDeclarations, scan_around functionHead?_ignoresBlanks, List.map_map,
    Function.comp_def, FunctionDeclaration.shift, Nat.add_assoc]

theorem parameterNames_around : parameterNames (frame.around text) = parameterNames text := by
  simp only [parameterNames, scan_around parameterList?_ignoresBlanks, List.flatMap_map]

theorem Profile.declared_around (profile : Profile) :
    profile.declared (frame.around text) = profile.declared text := by
  cases profile with
  | script =>
    simp only [declared, declaredInScript, scan_around scriptDeclaration?_ignoresBlanks,
      functionDeclarations_around, parameterNames_around, List.map_map, Function.comp_def,
      FunctionDeclaration.shift]
  | java =>
    simp only [declared, declaredInJava, scan_around javaDeclaration?_ignoresBlanks,
      List.map_map, Function.comp_def]

theorem countCallSites_around {name : Text} (h : isIdentifier name = true) :
    countCallSites (frame.around text) name = countCallSites text name := by
  rw [countCallSites, scan_around (callSite?_ignoresBlanks h), List.length_map, countCallSites]

theorem unusedFunctions_around :
    unusedFunctions (frame.around text) =
      (unusedFunctions text).map (·.shift frame.width) := by
  rw [unusedFunctions_eq_filter, functionDeclarations_around, List.filter_map,
    unusedFunctions_eq_filter]
  congr 1
  apply List.filter_congr
  intro declaration hdeclaration
  obtain ⟨gap, -, -, hidentifier, -⟩ := FunctionDeclaration.standsAt hdeclaration
  simp only [Function.comp_apply, FunctionDeclaration.shift,
    countCallSites_around frame text hidentifier]

/-! ## References -/

theorem printReferences_around :
    printReferences (frame.around text) = (printReferences text).map (·.shift frame.width) := by
  simp only [printReferences, scan_around printCall?_ignoresBlanks, List.map_map,
    Function.comp_def, Reference.shift_shift]

end Around

theorem consoleReferences_of_isBlankText {text : Text} (h : IsBlankText text) :
    consoleReferences text = [] := by
  have hline : ∀ {line : Text}, IsBlankText line → consoleArguments line = [] := by
    intro line hblank
    rw [consoleArguments, scan_of_isBlankText consoleCall?_refusesBlanks hblank, List.flatMap_nil]
  induction text using line_induction with
  | last line hlast => rw [consoleReferences_of_notMem hlast, hline h]
  | cons line rest hfirst ih =>
    have hrest : IsBlankText rest := fun c hc => h c (by simp [hc])
    rw [consoleReferences_append_cons hfirst, hline fun c hc => h c (by simp [hc]), ih hrest]
    rfl

theorem consoleReferences_around (frame : BlankFrame) (text : Text) :
    consoleReferences (frame.around text) =
      (consoleReferences text).map (·.shift frame.width) := by
  have hbelow : ∀ lines, consoleReferences (lines ++ frame.below) = consoleReferences lines := by
    intro lines
    rcases frame.below_closed with hnil | ⟨blanks, hblanks⟩
    · rw [hnil, List.append_nil]
    · have hblank : IsBlankText blanks := fun c hc => frame.below_blank c (by simp [hblanks, hc])
      rw [hblanks, consoleReferences_append_newline_cons, consoleReferences_of_isBlankText hblank]
      simp
  rw [BlankFrame.around, hbelow, BlankFrame.width]
  rcases frame.above_closed with hnil | ⟨blanks, hblanks⟩
  · simp [hnil, Reference.shift]
  · have hblank : IsBlankText blanks := fun c hc => frame.above_blank c (by simp [hblanks, hc])
    rw [hblanks, List.append_assoc, List.singleton_append, consoleReferences_append_newline_cons,
      consoleReferences_of_isBlankText hblank]
    simp

theorem Profile.references_around (profile : Profile) (frame : BlankFrame) (text : Text) :
    profile.references (frame.around text) =
      (profile.references text).map (·.shift frame.width) := by
  cases profile with
  | script => exact consoleReferences_around frame text
  | java => exact printReferences_around frame text

end SurfaceLint
