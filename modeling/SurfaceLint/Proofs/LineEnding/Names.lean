import SurfaceLint.Proofs.LineEnding.Scan
import SurfaceLint.Proofs.Names.Occurrence

/-!
# Names in a text with longer line ends

Every pattern of the library reads a text with carriage returns at the line ends as it reads
the text without them. The same functions and references are found, at offsets that count
the carriage returns. A parameter may hold a line end of its own and then changes with it,
but an identifier holds none, so the same identifiers are declared.
-/

namespace SurfaceLint

/-! ## Patterns -/

/-- No line end is written in a word. -/
def IsInline (word : Text) : Prop :=
  '\n' ∉ word ∧ '\r' ∉ word

instance (word : Text) : Decidable (IsInline word) :=
  inferInstanceAs (Decidable (_ ∧ _))

theorem isInline_of_isIdentifier {name : Text} (h : isIdentifier name = true) : IsInline name :=
  ⟨notMem_of_isIdentifier h rfl, notMem_of_isIdentifier h rfl⟩

theorem findSome?_after?_crlf {keywords : List String}
    (h : ∀ keyword ∈ keywords, IsInline keyword.toList) (text : Text) :
    (keywords.findSome? fun keyword => after? keyword.toList (crlf text)) =
      (keywords.findSome? fun keyword => after? keyword.toList text).map crlf := by
  induction keywords with
  | nil => rfl
  | cons keyword rest ih =>
    have hkeyword := h keyword (by simp)
    have hrest := ih fun other hother => h other (by simp [hother])
    simp only [List.findSome?_cons, after?_crlf hkeyword.1 hkeyword.2, hrest]
    cases after? keyword.toList text <;> rfl

theorem keywordName?_crlf {keywords : List String}
    (h : ∀ keyword ∈ keywords, IsInline keyword.toList) (text : Text) :
    keywordName? keywords (crlf text) =
      (keywordName? keywords text).map fun hit => ⟨hit.value, crlfOffset text hit.size⟩ := by
  simp only [keywordName?, findSome?_after?_crlf h, Option.bind_eq_bind, Option.bind_map,
    Option.map_bind, Function.comp_def, afterGap?_crlf, identifier?_crlf, Option.pure_def,
    Option.map_some]
  refine Option.bind_congr fun rest hrest => ?_
  refine Option.bind_congr fun inside hinside => ?_
  refine Option.bind_congr fun named hname => ?_
  obtain ⟨name, tail⟩ := named
  obtain ⟨keyword, -, hafter⟩ := List.exists_of_findSome?_eq_some hrest
  have hsuffix := (suffix_of_identifier? hname).trans
    ((suffix_of_afterGap? hinside).trans (suffix_of_after? hafter))
  simp [taken_crlf hsuffix]

theorem scriptDeclaration?_stable : scriptDeclaration?.Stable fun _ name => name where
  crlf before text := by
    unfold scriptDeclaration?
    split
    · exact keywordName?_crlf (by decide) text
    · rfl
  newline before rest := by
    unfold scriptDeclaration?
    split <;> rfl
  carriageReturn before rest := by
    unfold scriptDeclaration?
    split <;> rfl

theorem javaDeclaration?_stable : javaDeclaration?.Stable fun _ name => name where
  crlf _ text := keywordName?_crlf (by decide) text
  newline _ _ := rfl
  carriageReturn _ _ := rfl

theorem functionHead?_stable :
    functionHead?.Stable fun text head => ⟨head.name, crlfOffset text head.width⟩ where
  crlf before text := by
    simp (disch := decide) only [functionHead?, after?_crlf, afterMark?_crlf, afterGap?_crlf,
      identifier?_crlf, Option.bind_eq_bind, Option.bind_map, Option.map_bind, Function.comp_def,
      Option.pure_def, Option.map_some]
    refine Option.bind_congr fun _ _ => ?_
    refine Option.bind_congr fun rest hrest => ?_
    refine Option.bind_congr fun inside hinside => ?_
    refine Option.bind_congr fun named hname => ?_
    obtain ⟨name, tail⟩ := named
    refine Option.bind_congr fun last hlast => ?_
    have htail := (suffix_of_identifier? hname).trans
      ((suffix_of_afterGap? hinside).trans (suffix_of_after? hrest))
    simp [taken_crlf htail, taken_crlf ((suffix_of_afterMark? hlast).trans htail)]
  newline before rest := by
    unfold functionHead?
    cases atWordStart before <;> rfl
  carriageReturn before rest := by
    unfold functionHead?
    cases atWordStart before <;> rfl

theorem callSite?_stable {name : Text} (h : isIdentifier name = true) :
    (callSite? name).Stable fun _ value => value where
  crlf before text := by
    have hinline := isInline_of_isIdentifier h
    simp (disch := decide) only [callSite?, after?_crlf hinline.1 hinline.2, afterMark?_crlf,
      Option.bind_eq_bind, Option.bind_map, Option.map_bind, Function.comp_def, Option.pure_def,
      Option.map_some]
    refine Option.bind_congr fun _ _ => ?_
    refine Option.bind_congr fun rest hrest => ?_
    refine Option.bind_congr fun last hlast => ?_
    simp [taken_crlf ((suffix_of_afterMark? hlast).trans (suffix_of_after? hrest))]
  newline before rest := by
    obtain ⟨c, others, rfl, -⟩ := isIdentifier_iff.mp h
    have hc : c ≠ '\n' := fun heq => (isInline_of_isIdentifier h).1 (by simp [heq])
    simp [callSite?, after?, hc]
  carriageReturn before rest := by
    obtain ⟨c, others, rfl, -⟩ := isIdentifier_iff.mp h
    have hc : c ≠ '\r' := fun heq => (isInline_of_isIdentifier h).2 (by simp [heq])
    simp [callSite?, after?, hc]

theorem printCall?_stable :
    printCall?.Stable fun text reference =>
      ⟨reference.name, crlfOffset text reference.offset⟩ where
  crlf before text := by
    simp (disch := decide) only [printCall?, after?_crlf, Option.getD_map, afterMark?_crlf,
      skipBlanks_crlf, identifier?_crlf, Option.bind_eq_bind, Option.bind_map, Option.map_bind,
      Function.comp_def, Option.pure_def, Option.map_some]
    refine Option.bind_congr fun rest hrest => ?_
    refine Option.bind_congr fun inside hinside => ?_
    refine Option.bind_congr fun named hname => ?_
    obtain ⟨name, tail⟩ := named
    refine Option.bind_congr fun last hlast => ?_
    have hshort : (after? "ln".toList rest).getD rest <:+ rest := by
      cases hln : after? "ln".toList rest with
      | none => exact List.suffix_rfl
      | some shorter => exact suffix_of_after? hln
    have hargument : skipBlanks inside <:+ text :=
      (List.dropWhile_suffix isBlank).trans
        ((suffix_of_afterMark? hinside).trans (hshort.trans (suffix_of_after? hrest)))
    have hend : last <:+ text :=
      (suffix_of_afterMark? hlast).trans ((suffix_of_identifier? hname).trans hargument)
    simp [taken_crlf hargument, taken_crlf hend]
  newline _ _ := rfl
  carriageReturn _ _ := rfl

/-- What stands behind a run that ends at a mark starts with the mark. -/
theorem parameterList?_stable : parameterList?.Stable fun _ inside => crlf inside where
  crlf before text := by
    have hname : ∀ rest, (crlf rest).dropWhile isIdentifierChar =
        crlf (rest.dropWhile isIdentifierChar) := dropWhile_crlf rfl
    have hinside : ∀ rest, (crlf rest).takeWhile (· ≠ ')') = crlf (rest.takeWhile (· ≠ ')')) :=
      takeWhile_crlf (by decide)
    have hclose : ∀ rest, (crlf rest).dropWhile (· ≠ ')') = crlf (rest.dropWhile (· ≠ ')')) :=
      dropWhile_crlf (by decide)
    simp (disch := decide) only [parameterList?, after?_crlf, afterMark?_crlf, atWordEnd_crlf,
      skipBlanks_crlf, hname, hinside, hclose, Option.bind_eq_bind, Option.bind_map,
      Option.map_bind, Function.comp_def]
    refine Option.bind_congr fun _ _ => ?_
    refine Option.bind_congr fun rest hrest => ?_
    refine Option.bind_congr fun _ _ => ?_
    refine Option.bind_congr fun inside hlist => ?_
    cases hend : inside.dropWhile (· ≠ ')') with
    | nil => rfl
    | cons c tail =>
      obtain rfl := eq_of_dropWhile_ne_eq_cons hend
      have htail : tail <:+ inside :=
        (List.suffix_cons _ tail).trans (hend ▸ List.dropWhile_suffix _)
      have hlist : inside <:+ text :=
        (suffix_of_afterMark? hlist).trans ((List.dropWhile_suffix _).trans
          ((List.dropWhile_suffix _).trans (suffix_of_after? hrest)))
      rw [crlf_cons (by decide)]
      simp [taken_crlf (htail.trans hlist)]
  newline before rest := by
    unfold parameterList?
    cases atWordStart before <;> rfl
  carriageReturn before rest := by
    unfold parameterList?
    cases atWordStart before <;> rfl

/-! ## Declared names -/

theorem upTo_crlf {mark : Char} (hn : mark ≠ '\n') (hr : mark ≠ '\r') (text : Text) :
    upTo mark (crlf text) = crlf (upTo mark text) :=
  takeWhile_crlf (by simp [hn.symm, hr.symm]) text

theorem dropRestMarker_crlf (text : Text) :
    dropRestMarker (crlf text) = crlf (dropRestMarker text) := by
  rw [dropRestMarker, after?_crlf (by decide) (by decide), Option.getD_map, dropRestMarker]

theorem parameterName_crlf (piece : Text) :
    parameterName (crlf piece) = crlf (parameterName piece) := by
  simp only [parameterName, trim_crlf, dropRestMarker_crlf]
  rw [upTo_crlf (by decide) (by decide), upTo_crlf (by decide) (by decide), trim_crlf,
    trimRightWhere_crlf (by decide)]

theorem parameterNames_crlf (text : Text) :
    parameterNames (crlf text) = (parameterNames text).map crlf := by
  have hpieces : ∀ inside, (((crlf inside).splitOn ',').map parameterName).filter (!·.isEmpty) =
      (((inside.splitOn ',').map parameterName).filter (!·.isEmpty)).map crlf := by
    intro inside
    have hempty : ∀ name : Text, (crlf name).isEmpty = name.isEmpty := by
      intro name
      rw [Bool.eq_iff_iff, List.isEmpty_iff, List.isEmpty_iff, crlf_eq_nil_iff]
    rw [splitOn_crlf (by decide) (by decide)]
    simp only [List.map_map, List.filter_map, Function.comp_def, parameterName_crlf, hempty]
  simp only [parameterNames, scan_crlf parameterList?_stable, List.flatMap_map, List.map_flatMap,
    hpieces]

/-- The declaration at the same place of the longer text. -/
def FunctionDeclaration.lengthen (text : Text) (declaration : FunctionDeclaration) :
    FunctionDeclaration :=
  ⟨declaration.name, crlfOffset text declaration.start, crlfOffset text declaration.stop⟩

theorem functionDeclarations_crlf (text : Text) :
    functionDeclarations (crlf text) = (functionDeclarations text).map (·.lengthen text) := by
  simp only [functionDeclarations, scan_crlf functionHead?_stable, List.map_map, Function.comp_def,
    FunctionDeclaration.lengthen, crlfOffset_add]

/-- An identifier holds no line end, so it is the longer form of itself only. -/
theorem mem_map_crlf_iff {name : Text} (h : isIdentifier name = true) {names : List Text} :
    name ∈ names.map crlf ↔ name ∈ names := by
  have hname := isInline_of_isIdentifier h
  constructor
  · intro hmem
    obtain ⟨other, hother, rfl⟩ := List.mem_map.mp hmem
    have hline : '\n' ∉ other := fun hm => hname.1 ((mem_crlf_iff (by decide)).mpr hm)
    rwa [crlf_of_notMem hline]
  · intro hmem
    exact List.mem_map.mpr ⟨name, hmem, crlf_of_notMem hname.1⟩

theorem Profile.mem_declared_crlf_iff (profile : Profile) (text : Text) {name : Text}
    (h : isIdentifier name = true) :
    name ∈ profile.declared (crlf text) ↔ name ∈ profile.declared text := by
  cases profile with
  | script =>
    simp only [Profile.declared, declaredInScript, scan_crlf scriptDeclaration?_stable,
      functionDeclarations_crlf, FunctionDeclaration.lengthen, parameterNames_crlf,
      List.mem_append, mem_map_crlf_iff h, List.map_map, Function.comp_def]
  | java =>
    simp only [Profile.declared, declaredInJava, scan_crlf javaDeclaration?_stable, List.map_map,
      Function.comp_def]

theorem countCallSites_crlf {name : Text} (h : isIdentifier name = true) (text : Text) :
    countCallSites (crlf text) name = countCallSites text name := by
  rw [countCallSites, scan_crlf (callSite?_stable h), List.length_map, countCallSites]

theorem unusedFunctions_crlf (text : Text) :
    unusedFunctions (crlf text) = (unusedFunctions text).map (·.lengthen text) := by
  rw [unusedFunctions_eq_filter, functionDeclarations_crlf, List.filter_map,
    unusedFunctions_eq_filter]
  congr 1
  apply List.filter_congr
  intro declaration hdeclaration
  obtain ⟨gap, -, -, hidentifier, -⟩ := FunctionDeclaration.standsAt hdeclaration
  simp only [Function.comp_apply, FunctionDeclaration.lengthen, countCallSites_crlf hidentifier]

/-! ## References -/

/-- The reference at the same place of the longer text. -/
def Reference.lengthen (text : Text) (reference : Reference) : Reference :=
  ⟨reference.name, crlfOffset text reference.offset⟩

theorem printReferences_crlf (text : Text) :
    printReferences (crlf text) = (printReferences text).map (·.lengthen text) := by
  simp only [printReferences, scan_crlf printCall?_stable, List.map_map, Function.comp_def,
    Reference.shift, Reference.lengthen, crlfOffset_add]

/-- A recogniser that takes a line with one more character as it takes the line, up to a
change of values, and not that character alone. -/
structure Recogniser.Extends {α : Type} (recogniser : Recogniser α) (c : Char) (lift : α → α) :
    Prop where
  append : ∀ before text, recogniser before (text ++ [c]) =
    (recogniser before text).map fun hit => ⟨lift hit.value, hit.size⟩
  alone : ∀ before, recogniser before [c] = none

theorem scanFrom_append_singleton {α : Type} {recogniser : Recogniser α} {c : Char} {lift : α → α}
    (hextends : recogniser.Extends c lift) (text : Text) (before : Option Char)
    (offset skip : Nat) :
    scanFrom recogniser before offset skip (text ++ [c]) =
      (scanFrom recogniser before offset skip text).map fun (at_, value) => (at_, lift value) := by
  induction text generalizing before offset skip with
  | nil => cases skip <;> simp [scanFrom, hextends.alone]
  | cons d text ih =>
    cases skip with
    | succ skip => exact ih (some d) (offset + 1) skip
    | zero =>
      have hhere := hextends.append before (d :: text)
      simp only [List.cons_append] at hhere ⊢
      simp only [scanFrom, hhere]
      cases recogniser before (d :: text) with
      | none => exact ih (some d) (offset + 1) 0
      | some hit => simp [ih]

theorem afterMark?_append_singleton {mark c : Char} (hblank : isBlank c = true) (text : Text) :
    afterMark? mark (text ++ [c]) = (afterMark? mark text).map (· ++ [c]) := by
  simp only [afterMark?, skipBlanks, List.dropWhile_append]
  cases hrest : text.dropWhile isBlank with
  | nil => simp [hblank]
  | cons d rest => by_cases hd : d = mark <;> simp [hd]

theorem consoleCall?_extends :
    consoleCall?.Extends '\r' fun call => ⟨call.width, call.inside ++ ['\r']⟩ where
  append before text := by
    have hopen : ∀ rest, afterMark? '(' (rest ++ ['\r']) =
        (afterMark? '(' rest).map (· ++ ['\r']) := afterMark?_append_singleton rfl
    have hcall : after? "console.log".toList (text ++ ['\r']) =
        (after? "console.log".toList text).map (· ++ ['\r']) :=
      after?_append_cons (by decide) text []
    simp only [consoleCall?, hcall, hopen, Option.bind_eq_bind, Option.bind_map, Option.map_bind,
      Function.comp_def, taken_append_append, Option.pure_def, Option.map_some]
  alone _ := rfl

theorem ArgumentState.exists_inside_of_carriageReturn (state : ArgumentState) :
    ∃ next, state.step '\r' = .inside next := by
  cases state with
  | code depth => exact ⟨.code depth, by simp [step, isQuote, isOpener, isCloser]⟩
  | quoted quote depth =>
    by_cases h : '\r' = quote
    · exact ⟨.code depth, by rw [step, if_neg (by decide), if_pos h]⟩
    · exact ⟨.quoted quote depth, by rw [step, if_neg (by decide), if_neg h]⟩
  | escaped quote depth => exact ⟨_, rfl⟩

theorem splitArgumentsFrom_append_carriageReturn (state : ArgumentState) (text : Text) :
    splitArgumentsFrom state (text ++ ['\r']) = splitArgumentsFrom state text := by
  induction text generalizing state with
  | nil =>
    obtain ⟨next, hnext⟩ := state.exists_inside_of_carriageReturn
    simp [splitArgumentsFrom, hnext]
  | cons c text ih => simp only [List.cons_append, splitArgumentsFrom, ih]

/-- A carriage return at the end of a line hides no argument and adds none. -/
theorem consoleArguments_append_carriageReturn (line : Text) :
    consoleArguments (line ++ ['\r']) = consoleArguments line := by
  have hcall : ∀ offset (call : CallHead),
      callReferences offset ⟨call.width, call.inside ++ ['\r']⟩ = callReferences offset call := by
    intro offset call
    simp only [callReferences, splitArguments, splitArgumentsFrom_append_carriageReturn]
  simp only [consoleArguments, scan, scanFrom_append_singleton consoleCall?_extends,
    List.flatMap_map, hcall]

theorem map_lengthen_consoleArguments {line : Text} (hline : '\n' ∉ line) (rest : Text) :
    (consoleArguments line).map (·.lengthen (line ++ rest)) = consoleArguments line := by
  have hsame : ∀ reference ∈ consoleArguments line,
      reference.lengthen (line ++ rest) = reference := by
    intro reference hreference
    have hle := (stands_of_mem_consoleArguments hreference).bounds.1
    rw [Reference.lengthen, crlfOffset_of_notMem hline rest hle]
  rw [List.map_congr_left hsame, List.map_id']

theorem Reference.lengthen_shift {line : Text} (hline : '\n' ∉ line) (rest : Text)
    (reference : Reference) :
    (reference.shift (line.length + 1)).lengthen (line ++ '\n' :: rest) =
      (reference.lengthen rest).shift ((line ++ ['\r']).length + 1) := by
  have htext : line ++ '\n' :: rest = (line ++ ['\n']) ++ rest := by simp
  have hlength : line.length + 1 = (line ++ ['\n']).length := by simp
  have hend : crlf (line ++ ['\n']) = line ++ ['\r', '\n'] := by
    rw [crlf_append, crlf_of_notMem hline]
    rfl
  rw [lengthen, shift, htext, hlength, crlfOffset_add, crlfOffset_length_append, hend,
    List.drop_left]
  simp [lengthen, shift]

theorem consoleReferences_crlf (text : Text) :
    consoleReferences (crlf text) = (consoleReferences text).map (·.lengthen text) := by
  induction text using line_induction with
  | last line hline =>
    have hsame := map_lengthen_consoleArguments hline []
    rw [List.append_nil] at hsame
    rw [crlf_of_notMem hline, consoleReferences_of_notMem hline, hsame]
  | cons line rest hline ih =>
    have hlong : '\n' ∉ line ++ ['\r'] := by simp [hline]
    rw [crlf_line_cons hline, consoleReferences_append_cons hlong,
      consoleArguments_append_carriageReturn, ih, consoleReferences_append_cons hline,
      List.map_append, map_lengthen_consoleArguments hline]
    simp only [List.map_map, Function.comp_def, Reference.lengthen_shift hline]

theorem Profile.references_crlf (profile : Profile) (text : Text) :
    profile.references (crlf text) = (profile.references text).map (·.lengthen text) := by
  cases profile with
  | script => exact consoleReferences_crlf text
  | java => exact printReferences_crlf text

/-- The name of a reference grows by nothing, so its end moves as its start does. -/
theorem Reference.Stands.stop_lengthen {text : Text} {reference : Reference}
    (h : reference.Stands text) :
    (reference.lengthen text).stop = crlfOffset text reference.stop := by
  obtain ⟨hidentifier, before, rest, rfl, hoffset⟩ := h
  have hinline := isInline_of_isIdentifier hidentifier
  rw [Reference.stop, Reference.stop, crlfOffset_add, Reference.lengthen, ← hoffset,
    List.append_assoc, List.drop_left, crlfOffset_of_notMem hinline.1 rest le_rfl]

end SurfaceLint
