import SurfaceLint.Proofs.Explanation
import SurfaceLint.Proofs.Names.EveryOccurrence
import SurfaceLint.Proofs.Names.ParameterPiece

/-!
# Parameters are declared

A parameter is written as a name with optional parts around it. The list of parameters is read
up to its parenthesis and cut at its commas, which no part may hold. A question mark follows the
name at once, so that the name of each piece is that of the parameter.
-/

namespace SurfaceLint

/-- A parameter as it is written: blanks, a rest marker, blanks, the name, a question mark,
blanks, a type and a default. All but the name may be missing. -/
structure Parameter where
  lead : Text
  isRest : Bool
  space : Text
  name : Text
  isOptional : Bool
  trail : Text
  type? : Option Text
  default? : Option Text
  lead_blank : IsBlankText lead
  space_blank : IsBlankText space
  trail_blank : IsBlankText trail
  isIdentifier_name : isIdentifier name = true
  type_inside : ∀ type ∈ type?, ',' ∉ type ∧ ')' ∉ type
  default_inside : ∀ value ∈ default?, ',' ∉ value ∧ ')' ∉ value

namespace Parameter

variable (parameter : Parameter)

def marker : Text :=
  if parameter.isRest then "...".toList else []

def question : Text :=
  if parameter.isOptional then ['?'] else []

/-- What stands behind the name. -/
def tail : Text :=
  parameter.question ++ parameter.trail ++
    (parameter.type?.elim [] (':' :: ·) ++ parameter.default?.elim [] ('=' :: ·))

def text : Text :=
  parameter.lead ++ parameter.marker ++ parameter.space ++ (parameter.name ++ parameter.tail)

end Parameter

/-! ## The name of a parameter -/

namespace Parameter

variable (parameter : Parameter)

theorem parameterName_text : parameterName parameter.text = parameter.name := by
  have hmarks : ∀ c ∈ parameter.question, c = '?' := by
    unfold question
    split <;> simp
  have htail : ∀ c ∈ (parameter.type?.elim [] (':' :: ·) ++
      parameter.default?.elim [] ('=' :: ·)).head?, c = '=' ∨ c = ':' := by
    cases parameter.type? with
    | some type => simp
    | none => cases parameter.default? <;> simp
  have hgap : IsBlankText [] := by simp [IsBlankText]
  have hname := parameterName_of_identifier parameter.isRest parameter.lead_blank
    parameter.space_blank parameter.isIdentifier_name hgap hmarks (absurd rfl)
    parameter.trail_blank htail
  simpa [text, marker, tail, restMarker] using hname

theorem notMem_text {mark : Char} (hblank : isBlank mark = false)
    (hidentifier : isIdentifierChar mark = false) (hmarks : mark ∉ ['.', '?', ':', '='])
    (htype : ∀ type ∈ parameter.type?, mark ∉ type)
    (hdefault : ∀ value ∈ parameter.default?, mark ∉ value) : mark ∉ parameter.text := by
  simp only [List.mem_cons, List.not_mem_nil, or_false, not_or] at hmarks
  obtain ⟨hdot, hquestion, hcolon, hequals⟩ := hmarks
  simp only [text, tail, List.mem_append, not_or]
  refine ⟨⟨⟨parameter.lead_blank.notMem hblank, ?_⟩, parameter.space_blank.notMem hblank⟩,
    notMem_of_isIdentifier parameter.isIdentifier_name hidentifier,
    ⟨?_, parameter.trail_blank.notMem hblank⟩, ?_, ?_⟩
  · unfold marker
    split <;> simp [hdot]
  · unfold question
    split <;> simp [hquestion]
  · cases h : parameter.type? with
    | none => simp
    | some type => simpa [hcolon] using htype type h
  · cases h : parameter.default? with
    | none => simp
    | some value => simpa [hequals] using hdefault value h

theorem comma_notMem_text : ',' ∉ parameter.text :=
  parameter.notMem_text (by decide) (by decide) (by decide)
    (fun type h => (parameter.type_inside type h).1)
    (fun value h => (parameter.default_inside value h).1)

theorem parenthesis_notMem_text : ')' ∉ parameter.text :=
  parameter.notMem_text (by decide) (by decide) (by decide)
    (fun type h => (parameter.type_inside type h).2)
    (fun value h => (parameter.default_inside value h).2)

end Parameter

/-! ## The list of parameters -/

theorem notMem_intercalate {mark separator : Char} {pieces : List Text} (hne : mark ≠ separator)
    (h : ∀ piece ∈ pieces, mark ∉ piece) : mark ∉ [separator].intercalate pieces := by
  induction pieces with
  | nil => simp
  | cons piece pieces ih =>
    obtain ⟨hpiece, hpieces⟩ := List.forall_mem_cons.mp h
    cases pieces with
    | nil => simpa using hpiece
    | cons next pieces =>
      rw [List.intercalate_cons_of_ne_nil (by simp)]
      simp only [List.mem_append, List.mem_singleton, not_or]
      exact ⟨⟨hpiece, hne⟩, ih hpieces⟩

/-- What may stand between the keyword and the parenthesis: blanks, or a name between blanks. -/
inductive FunctionGap : Text → Prop
  | unnamed {gap : Text} : IsBlankText gap → FunctionGap gap
  | named {gap name space : Text} : gap ≠ [] → IsBlankText gap → isIdentifier name = true →
      IsBlankText space → FunctionGap (gap ++ name ++ space)

theorem atWordEnd_of_isBlankText {gap : Text} (h : IsBlankText gap) : atWordEnd gap = true := by
  cases gap with
  | nil => rfl
  | cons c gap => simp [atWordEnd, isWord_of_isBlank (h c List.mem_cons_self)]

theorem FunctionGap.exists_parts {between : Text} (h : FunctionGap between) :
    ∃ gap run space, IsBlankText gap ∧ (∀ c ∈ run, isIdentifierChar c = true) ∧
      atWordEnd (gap ++ run) = true ∧ IsBlankText space ∧ between = gap ++ run ++ space := by
  cases h with
  | unnamed hgap =>
    refine ⟨between, [], [], hgap, by simp, ?_, by simp [IsBlankText], by simp⟩
    rw [List.append_nil]
    exact atWordEnd_of_isBlankText hgap
  | @named gap name space hne hgap hname hspace =>
    refine ⟨gap, name, space, hgap, fun c hc => isIdentifierChar_of_mem hname hc, ?_, hspace, rfl⟩
    obtain ⟨c, gap, rfl⟩ := List.exists_cons_of_ne_nil hne
    have hend : atWordEnd (c :: gap) = true := atWordEnd_of_isBlankText hgap
    exact hend

def parametersText (parameters : List Parameter) : Text :=
  [','].intercalate (parameters.map Parameter.text)

/-- A function with its parameters, and what follows it. -/
def functionText (between : Text) (parameters : List Parameter) (behind : Text) : Text :=
  "function".toList ++ (between ++ '(' :: (parametersText parameters ++ ')' :: behind))

theorem parameterList?_functionText {before : Option Char} (hbefore : atWordStart before = true)
    {between : Text} (hbetween : FunctionGap between) (parameters : List Parameter)
    (behind : Text) :
    ∃ size, parameterList? before (functionText between parameters behind) =
      some ⟨parametersText parameters, size⟩ := by
  obtain ⟨gap, run, space, hgap, hrun, hend, hspace, rfl⟩ := hbetween.exists_parts
  have hinside : ')' ∉ parametersText parameters := by
    apply notMem_intercalate (by decide)
    intro piece hpiece
    obtain ⟨parameter, -, rfl⟩ := List.mem_map.mp hpiece
    exact parameter.parenthesis_notMem_text
  have htext : functionText (gap ++ run ++ space) parameters behind =
      "function".toList ++ gap ++ run ++ space ++
        '(' :: (parametersText parameters ++ ')' :: behind) := by
    unfold functionText
    simp only [List.append_assoc]
  rw [htext, parameterList?_parts hbefore hgap hrun hend hspace hinside]
  exact ⟨_, rfl⟩

theorem map_parameterName_splitOn {parameters : List Parameter} (hne : parameters ≠ []) :
    ((parametersText parameters).splitOn ',').map parameterName =
      parameters.map Parameter.name := by
  have hsplit : (parametersText parameters).splitOn ',' = parameters.map Parameter.text := by
    refine List.splitOn_intercalate ',' ?_ (by simpa using hne)
    intro piece hpiece
    obtain ⟨parameter, -, rfl⟩ := List.mem_map.mp hpiece
    exact parameter.comma_notMem_text
  rw [hsplit, List.map_map]
  exact List.map_congr_left fun parameter _ => parameter.parameterName_text

theorem mem_scan_parameterList? {before rest : Text} {hit : Hit Text}
    (hbefore : ¬"function".toList <:+: before)
    (hhit : parameterList? before.getLast? ("function".toList ++ rest) = some hit) :
    (before.length, hit.value) ∈ scan parameterList? (before ++ ("function".toList ++ rest)) := by
  have hempty : ∀ before, parameterList? before [] = none := by
    intro before
    apply Option.eq_none_iff_forall_ne_some.mpr
    intro hit hhit
    obtain ⟨-, gap, run, space, inside, rest, -, -, -, -, -, htext, -⟩ :=
      parameterList?_eq_some_iff.mp hhit
    simp at htext
  rw [scan_eq_map_sized]
  rcases mem_scan_or_hidden hempty ⟨before, _, rfl, rfl, hhit⟩ with hmem | ⟨entry, hmem, hlt, -⟩
  · exact List.mem_map.mpr ⟨_, hmem, rfl⟩
  · -- an earlier one would have its keyword in front of this one
    exfalso
    obtain ⟨start, read, rfl, hne, -, hfirst⟩ :=
      (succeedsAt_of_mem_scan_sized hmem).exists_read hlt
    obtain ⟨-, gap, run, space, inside, behind, -, -, -, -, -, htext, -⟩ :=
      parameterList?_eq_some_iff.mp hfirst
    have hcut : 'f' :: "unction".toList ++
        (gap ++ run ++ space ++ '(' :: (inside ++ ')' :: behind)) =
        read ++ 'f' :: ("unction".toList ++ rest) := by
      simpa using htext.symm
    obtain ⟨further, rfl, -⟩ := exists_behind_head hcut (by decide) hne
    exact hbefore ⟨start, further, by simp⟩

theorem mem_parameterNames {before between : Text} (hbefore : ¬"function".toList <:+: before)
    (hstart : ∀ c ∈ before.getLast?, isWord c = false) (hbetween : FunctionGap between)
    {parameters : List Parameter} {parameter : Parameter} (h : parameter ∈ parameters)
    (behind : Text) :
    parameter.name ∈ parameterNames (before ++ functionText between parameters behind) := by
  obtain ⟨size, hhit⟩ :=
    parameterList?_functionText (atWordStart_iff.mpr hstart) hbetween parameters behind
  have hne := ne_nil_of_isIdentifier parameter.isIdentifier_name
  apply List.mem_flatMap.mpr
  refine ⟨_, mem_scan_parameterList? hbefore hhit, List.mem_filter.mpr ⟨?_, by simpa using hne⟩⟩
  rw [map_parameterName_splitOn (List.ne_nil_of_mem h)]
  exact List.mem_map_of_mem h

/-! ## What is reported -/

theorem notMem_declared_of_mem_diagnose {dialect : Dialect} {text name : Text}
    {language : Language} {selection : RuleSelection} {diagnostic : Diagnostic}
    (h : diagnostic ∈ diagnose dialect text language selection)
    (hissue : diagnostic.issue = .undefinedVariable name) :
    name ∉ dialect.profile.declared text := by
  obtain ⟨family, finding, hfamily, rfl⟩ := exists_family_of_mem_diagnose h
  have hfinding : finding.issue = .undefinedVariable name := hissue
  have hrule := rule_of_mem_familyFindings hfamily
  rw [hfinding] at hrule
  cases family with
  | undefinedReferences =>
    exact notMem_declared_of_mem_undefinedFindings hfamily (by rw [hfinding]; rfl)
  | _ => contradiction

/-- Whatever stands around a name in the parameter list of the first function of a text, the name
is declared, so that no reference to it is reported as undefined. -/
theorem parameters_are_declared {before between : Text}
    (hbefore : ¬"function".toList <:+: before)
    (hstart : ∀ c ∈ before.getLast?, isWord c = false) (hbetween : FunctionGap between)
    (parameters : List Parameter) (behind : Text) :
    let text := before ++ functionText between parameters behind
    ∀ parameter ∈ parameters,
      parameter.name ∈ declaredInScript text ∧
      (∃ findings, checkUndefinedReferences .script text = .ok findings ∧
        ∀ finding ∈ findings, finding.issue ≠ .undefinedVariable parameter.name) ∧
      ∀ (dialect : Dialect) (language : Language) (selection : RuleSelection),
        dialect.profile = .script →
          ∀ diagnostic ∈ diagnose dialect text language selection,
            diagnostic.issue ≠ .undefinedVariable parameter.name := by
  intro text parameter hparameter
  have hdeclared : parameter.name ∈ declaredInScript text :=
    List.mem_append_right _ (mem_parameterNames hbefore hstart hbetween hparameter behind)
  refine ⟨hdeclared, ⟨_, checkUndefinedReferences_eq .script text, ?_⟩, ?_⟩
  · intro finding hfinding hissue
    have hname : finding.issue.name = some parameter.name := by rw [hissue]; rfl
    exact notMem_declared_of_mem_undefinedFindings hfinding hname hdeclared
  · intro dialect language selection hprofile diagnostic hdiagnostic hissue
    apply notMem_declared_of_mem_diagnose hdiagnostic hissue
    rw [hprofile]
    exact hdeclared

/-- A rest marker on a line of its own, and marks inside the type and the default. -/
theorem parameters_are_declared_marked :
    let text := "(function\t$f (a,\n...\n items? : T? = u:v= x ? y : z)console.log(items, x)".toList
    "items".toList ∈ declaredInScript text ∧
      ∀ diagnostic ∈ diagnose .typescript text .hindi .everything,
        diagnostic.issue ≠ .undefinedVariable "items".toList := by
  let first : Parameter := ⟨[], false, [], "a".toList, false, [], none, none, by decide, by decide,
    by decide, by decide, by simp, by simp⟩
  let second : Parameter := ⟨"\n".toList, true, "\n ".toList, "items".toList, true, " ".toList,
    some " T? = u:v".toList, some " x ? y : z".toList, by decide, by decide, by decide, by decide,
    by decide, by decide⟩
  let behind : Text := "console.log(items, x)".toList
  have hbetween : FunctionGap "\t$f ".toList :=
    @FunctionGap.named "\t".toList "$f".toList " ".toList (by decide) (by decide) (by decide)
      (by decide)
  have hbefore : ¬"function".toList <:+: "(".toList := by decide
  have hstart : ∀ c ∈ "(".toList.getLast?, isWord c = false := by
    rintro c ⟨⟩
    decide
  have htext : "(".toList ++ functionText "\t$f ".toList [first, second] behind =
      "(function\t$f (a,\n...\n items? : T? = u:v= x ? y : z)console.log(items, x)".toList := by
    decide +kernel
  have hdeclared := parameters_are_declared hbefore hstart hbetween [first, second] behind
    second (by simp)
  rw [htext] at hdeclared
  exact ⟨hdeclared.1, hdeclared.2.2 .typescript .hindi .everything rfl⟩

end SurfaceLint
