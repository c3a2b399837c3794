import Mathlib.Data.List.DropRight
import SurfaceLint.Names.Declaration
import SurfaceLint.Proofs.Finding
import SurfaceLint.Proofs.Text.Trim

/-!
# What a piece of a parameter list binds

Every piece of a parameter list can be cut into blanks, a rest marker, blanks, a core, blanks,
question marks, blanks, and a type or a default. The name that it binds is the core with the
blanks in front of the question marks: these are taken off last, when the blanks at the end are
gone already. A name is thus free of blanks around it exactly if no blank stands in front of the
question marks, and only then can a reference have the name.
-/

namespace SurfaceLint

def restMarker (isRest : Bool) : Text :=
  if isRest then "...".toList else []

/-- A piece of a parameter list in its parts. The core begins and ends with no blank. Blanks behind
it belong to the gap if question marks follow, and to the trail otherwise. -/
structure ParameterPiece where
  lead : Text
  isRest : Bool
  space : Text
  core : Text
  gap : Text
  marks : Text
  trail : Text
  tail : Text
  lead_blank : IsBlankText lead
  space_blank : IsBlankText space
  gap_blank : IsBlankText gap
  trail_blank : IsBlankText trail
  marks_question : ∀ c ∈ marks, c = '?'
  tail_begins : ∀ c ∈ tail.head?, c = '=' ∨ c = ':'
  core_uncut : '=' ∉ core ∧ ':' ∉ core
  core_head : ∀ c ∈ core.head?, isBlank c = false
  core_last : ∀ c ∈ core.getLast?, isBlank c = false
  gap_inside : gap ≠ [] → core ≠ [] ∧ marks ≠ []
  marks_whole : gap = [] → ∀ c ∈ core.getLast?, c ≠ '?'
  rest_whole : isRest = false → ¬"...".toList <+: core

namespace ParameterPiece

variable (piece : ParameterPiece)

/-- What stands behind the core and in front of a type or a default. -/
def behind : Text :=
  piece.gap ++ piece.marks ++ piece.trail

def text : Text :=
  piece.lead ++ (restMarker piece.isRest ++
    (piece.space ++ (piece.core ++ piece.behind ++ piece.tail)))

end ParameterPiece

/-! ## Cutting a piece -/

theorem upTo_eq_append {mark : Char} {word : Text} (h : mark ∉ word) (rest : Text) :
    upTo mark (word ++ rest) = word ++ upTo mark rest :=
  takeWhile_ne_append h rest

theorem upTo_skipBlanks {mark : Char} (h : isBlank mark = false) (text : Text) :
    upTo mark (skipBlanks text) = skipBlanks (upTo mark text) := by
  induction text with
  | nil => rfl
  | cons c rest ih =>
    by_cases hc : isBlank c = true
    · have hne : c ≠ mark := by
        rintro rfl
        rw [hc] at h
        contradiction
      simpa [upTo, skipBlanks, hc, hne] using ih
    · by_cases hne : c = mark <;> simp [upTo, skipBlanks, hc, hne, h]

theorem exists_upTo_append {trail : Text} (h : IsBlankText trail) (mark : Char) (text : Text) :
    ∃ left, IsBlankText left ∧ upTo mark (text ++ trail) = upTo mark text ++ left := by
  rw [upTo, upTo, List.takeWhile_append]
  split
  · rename_i hlength
    rw [(List.takeWhile_prefix _).eq_of_length hlength]
    exact ⟨_, fun c hc => h c ((List.takeWhile_prefix _).subset hc), rfl⟩
  · exact ⟨[], by simp [IsBlankText], by simp⟩

theorem dropRestMarker_append {rest : Text} (h : ∀ c ∈ rest.head?, c ≠ '.') (text : Text) :
    dropRestMarker (text ++ rest) = dropRestMarker text ++ rest := by
  cases rest with
  | nil => simp
  | cons c rest =>
    have hc : c ∉ "...".toList := by simpa using h c rfl
    rw [dropRestMarker, dropRestMarker, after?_append_cons hc]
    cases after? "...".toList text <;> rfl

/-- The blanks at the end of a piece may as well stay until the last trimming. -/
theorem parameterName_eq (text : Text) :
    parameterName text = trimRightWhere (· == '?')
      (trim (upTo ':' (upTo '=' (dropRestMarker (skipBlanks text))))) := by
  obtain ⟨-, trail, htrail, hskip⟩ := trimRightWhere_eq_iff.mp (Eq.refl (trim text))
  have hdot : ∀ c ∈ trail.head?, c ≠ '.' := by
    rintro c hc rfl
    exact absurd (htrail _ (List.mem_of_mem_head? hc)) (by decide)
  obtain ⟨left, hleft, hequals⟩ := exists_upTo_append htrail '=' (dropRestMarker (trim text))
  obtain ⟨last, hlast, hcolon⟩ :=
    exists_upTo_append hleft ':' (upTo '=' (dropRestMarker (trim text)))
  rw [hskip, dropRestMarker_append hdot, hequals, hcolon, trim_append_blanks hlast]
  rfl

theorem exists_cut (text : Text) :
    ∃ body tail, text = body ++ tail ∧ '=' ∉ body ∧ ':' ∉ body ∧
      ∀ c ∈ tail.head?, c = '=' ∨ c = ':' := by
  let inside : Char → Bool := fun c => c ≠ '=' && c ≠ ':'
  have hinside : ∀ c ∈ text.takeWhile inside, inside c = true :=
    List.all_eq_true.mp List.all_takeWhile
  refine ⟨text.takeWhile inside, text.dropWhile inside, List.takeWhile_append_dropWhile.symm,
    fun h => absurd (hinside _ h) (by decide), fun h => absurd (hinside _ h) (by decide), ?_⟩
  intro c hc
  have hstop : inside c = false := of_mem_head?_dropWhile hc
  simp only [inside, ne_eq, decide_not, Bool.and_eq_false_iff, Bool.not_eq_false',
    decide_eq_true_eq] at hstop
  exact hstop

namespace ParameterPiece

variable (piece : ParameterPiece)

/-! ## The name of a piece in its parts -/

theorem mem_behind {c : Char} (h : c ∈ piece.behind) : isBlank c = true ∨ c = '?' := by
  rcases List.mem_append.mp h with h | h
  · rcases List.mem_append.mp h with h | h
    · exact .inl (piece.gap_blank c h)
    · exact .inr (piece.marks_question c h)
  · exact .inl (piece.trail_blank c h)

theorem notMem_behind {c : Char} (hblank : isBlank c = false) (hquestion : c ≠ '?') :
    c ∉ piece.behind := by
  intro h
  rcases piece.mem_behind h with h | h
  · rw [h] at hblank
    contradiction
  · exact hquestion h

theorem upTo_tail : upTo ':' (upTo '=' piece.tail) = [] := by
  have hbegins := piece.tail_begins
  cases htail : piece.tail with
  | nil => rfl
  | cons c rest =>
    rw [htail] at hbegins
    rcases hbegins c rfl with rfl | rfl <;> simp [upTo]

theorem upTo_front {front : Text} (h : IsBlankText front) :
    upTo ':' (upTo '=' (front ++ (piece.core ++ piece.behind ++ piece.tail))) =
      front ++ (piece.core ++ piece.behind) := by
  have hfree : ∀ mark, isBlank mark = false → mark ≠ '?' → mark ∉ piece.core →
      mark ∉ front ++ (piece.core ++ piece.behind) := by
    intro mark hblank hquestion hcore
    simp only [List.mem_append, not_or]
    exact ⟨h.notMem hblank, hcore, piece.notMem_behind hblank hquestion⟩
  rw [← List.append_assoc, upTo_eq_append (hfree '=' (by decide) (by decide) piece.core_uncut.1),
    upTo_eq_append (hfree ':' (by decide) (by decide) piece.core_uncut.2), upTo_tail,
    List.append_nil]

/-- Blanks in front of the core are skipped, or all blanks in front of the marks if there is no
core. -/
theorem exists_skipBlanks :
    ∃ part, (∀ c ∈ part, c ∈ piece.behind) ∧
      skipBlanks (piece.core ++ piece.behind ++ piece.tail) =
        piece.core ++ (part ++ piece.tail) := by
  have hhead := piece.core_head
  cases hcore : piece.core with
  | nil =>
    refine ⟨skipBlanks piece.behind, fun c hc => (List.dropWhile_suffix _).subset hc, ?_⟩
    have htail : ∀ c ∈ piece.tail.head?, isBlank c = false := by
      intro c hc
      rcases piece.tail_begins c hc with rfl | rfl <;> decide
    cases hend : piece.tail with
    | nil => simp
    | cons c rest =>
      rw [hend] at htail
      exact dropWhile_append_cons (htail c rfl) piece.behind rest
  | cons c core =>
    rw [hcore] at hhead
    refine ⟨piece.behind, fun c hc => hc, ?_⟩
    rw [List.append_assoc]
    exact List.dropWhile_cons_of_neg (by simpa using hhead c rfl)

theorem dropRestMarker_skipBlanks (h : piece.isRest = false) :
    dropRestMarker (skipBlanks (piece.core ++ piece.behind ++ piece.tail)) =
      skipBlanks (piece.core ++ piece.behind ++ piece.tail) := by
  obtain ⟨part, hpart, hskip⟩ := piece.exists_skipBlanks
  have hdot : ∀ c ∈ (part ++ piece.tail).head?, c ≠ '.' := by
    rintro c hc rfl
    rw [List.head?_append] at hc
    rcases Option.or_eq_some_iff.mp hc with hc | ⟨-, hc⟩
    · exact piece.notMem_behind (by decide) (by decide) (hpart _ (List.mem_of_mem_head? hc))
    · exact absurd (piece.tail_begins _ hc) (by decide)
  have hnone : after? "...".toList piece.core = none := by
    apply Option.eq_none_iff_forall_ne_some.mpr
    intro rest hrest
    exact piece.rest_whole h ⟨rest, (after?_eq_some_iff.mp hrest).symm⟩
  rw [hskip, dropRestMarker_append hdot, dropRestMarker, hnone, Option.getD_none]

theorem trim_cut :
    trim (upTo ':' (upTo '=' (dropRestMarker (skipBlanks piece.text)))) =
      trim (piece.core ++ piece.behind) := by
  cases hrest : piece.isRest with
  | true =>
    have hskip : skipBlanks piece.text =
        "...".toList ++ (piece.space ++ (piece.core ++ piece.behind ++ piece.tail)) := by
      rw [text, skipBlanks_append piece.lead_blank, hrest]
      rfl
    rw [hskip, dropRestMarker, after?_eq_some_iff.mpr rfl, Option.getD_some,
      piece.upTo_front piece.space_blank, trim_blanks_append piece.space_blank]
  | false =>
    have hskip : skipBlanks piece.text =
        skipBlanks (piece.core ++ piece.behind ++ piece.tail) := by
      rw [text, skipBlanks_append piece.lead_blank, hrest]
      exact skipBlanks_append piece.space_blank _
    have hcut := piece.upTo_front (show IsBlankText [] by simp [IsBlankText])
    rw [List.nil_append, List.nil_append] at hcut
    rw [hskip, piece.dropRestMarker_skipBlanks hrest, upTo_skipBlanks (by decide),
      upTo_skipBlanks (by decide), hcut, trim, trim, skipBlanks, skipBlanks,
      List.dropWhile_idempotent]

theorem gap_eq_nil (h : piece.core = [] ∨ piece.marks = []) : piece.gap = [] := by
  by_contra hne
  obtain ⟨hcore, hmarks⟩ := piece.gap_inside hne
  exact h.elim hcore hmarks

theorem trim_core_behind :
    trim (piece.core ++ piece.behind) = piece.core ++ piece.gap ++ piece.marks := by
  have hmarks : ∀ c ∈ piece.marks, isBlank c = false := by
    intro c hc
    rw [piece.marks_question c hc]
    decide
  refine trim_eq_iff.mpr ⟨?_, ?_, [], piece.trail, by simp [IsBlankText], piece.trail_blank,
    by simp [behind]⟩
  · intro c hc
    rcases eq_or_ne piece.core [] with hcore | hcore
    · rw [hcore, piece.gap_eq_nil (.inl hcore)] at hc
      exact hmarks c (List.mem_of_mem_head? hc)
    · rw [List.append_assoc, List.head?_append_of_ne_nil _ hcore] at hc
      exact piece.core_head c hc
  · intro c hc
    rcases eq_or_ne piece.marks [] with hnone | hsome
    · rw [hnone, piece.gap_eq_nil (.inr hnone), List.append_nil, List.append_nil] at hc
      exact piece.core_last c hc
    · rw [List.getLast?_append_of_ne_nil _ hsome] at hc
      exact hmarks c (List.mem_of_getLast? hc)

theorem parameterName_text : parameterName piece.text = piece.core ++ piece.gap := by
  rw [parameterName_eq, piece.trim_cut, piece.trim_core_behind]
  refine trimRightWhere_eq_iff.mpr ⟨?_, piece.marks, ?_, rfl⟩
  · intro c hc
    have hne : c ≠ '?' := by
      rcases eq_or_ne piece.gap [] with hgap | hgap
      · rw [hgap, List.append_nil] at hc
        exact piece.marks_whole hgap c hc
      · rw [List.getLast?_append_of_ne_nil _ hgap] at hc
        rintro rfl
        exact absurd (piece.gap_blank _ (List.mem_of_getLast? hc)) (by decide)
    simpa using hne
  · intro c hc
    simpa using piece.marks_question c hc

end ParameterPiece

/-! ## Every piece has parts -/

theorem IsBlankText.eq_nil_of_head {gap rest : Text} (hgap : IsBlankText gap)
    (h : ∀ c ∈ (gap ++ rest).head?, isBlank c = false) : gap = [] := by
  cases gap with
  | nil => rfl
  | cons c gap => exact absurd (hgap c List.mem_cons_self) (by simp [h c rfl])

theorem IsBlankText.eq_nil_of_last {front gap : Text} (hgap : IsBlankText gap)
    (h : ∀ c ∈ (front ++ gap).getLast?, isBlank c = false) : gap = [] := by
  by_contra hne
  have hlast := h (gap.getLast hne) (by simp [List.getLast?_eq_some_getLast hne])
  exact absurd (hgap _ (List.getLast_mem hne)) (by simp [hlast])

/-- A text that begins and ends with no blank is a core, a gap and question marks. -/
theorem exists_core_gap_marks {kept : Text} (hhead : ∀ c ∈ kept.head?, isBlank c = false)
    (hlast : ∀ c ∈ kept.getLast?, isBlank c = false) :
    ∃ core gap marks, kept = core ++ gap ++ marks ∧ IsBlankText gap ∧ (∀ c ∈ marks, c = '?') ∧
      (∀ c ∈ core.head?, isBlank c = false) ∧ (∀ c ∈ core.getLast?, isBlank c = false) ∧
      (gap ≠ [] → core ≠ [] ∧ marks ≠ []) ∧ (gap = [] → ∀ c ∈ core.getLast?, c ≠ '?') := by
  obtain ⟨hend, marks, hmarks, hkept⟩ :=
    trimRightWhere_eq_iff.mp (Eq.refl (trimRightWhere (· == '?') kept))
  obtain ⟨hcore, gap, hgap, hname⟩ := trimRightWhere_eq_iff.mp
    (Eq.refl (trimRightWhere isBlank (trimRightWhere (· == '?') kept)))
  generalize trimRightWhere isBlank (trimRightWhere (· == '?') kept) = core at hcore hname
  generalize trimRightWhere (· == '?') kept = name at hend hkept hname
  subst hname hkept
  refine ⟨core, gap, marks, rfl, hgap, fun c hc => by simpa using hmarks c hc, ?_, hcore, ?_, ?_⟩
  · intro c hc
    have hne := List.ne_nil_of_mem (List.mem_of_mem_head? hc)
    apply hhead
    rwa [List.append_assoc, List.head?_append_of_ne_nil _ hne]
  · intro hne
    constructor
    · rintro rfl
      exact hne (IsBlankText.eq_nil_of_head hgap hhead)
    · rintro rfl
      rw [List.append_nil] at hlast
      exact hne (IsBlankText.eq_nil_of_last hgap hlast)
  · rintro rfl c hc
    rw [List.append_nil] at hend
    simpa using hend c hc

theorem ParameterPiece.exists_of_rest {lead : Text} (hlead : IsBlankText lead) (isRest : Bool)
    {rest : Text} (hhead : isRest = false → ∀ c ∈ rest.head?, isBlank c = false)
    (hrest : isRest = false → ¬"...".toList <+: rest) :
    ∃ piece : ParameterPiece,
      piece.text = lead ++ (restMarker isRest ++ rest) := by
  obtain ⟨body, tail, rfl, hequals, hcolon, htail⟩ := exists_cut rest
  obtain ⟨hfirst, hlast, space, trail, hspace, htrail, hbody⟩ :=
    trim_eq_iff.mp (Eq.refl (trim body))
  obtain ⟨core, gap, marks, hkept, hgap, hmarks, hcorehead, hcorelast, hinside, hwhole⟩ :=
    exists_core_gap_marks hfirst hlast
  rw [hkept] at hbody
  subst hbody
  simp only [List.mem_append, not_or] at hequals hcolon
  have hmarker : isRest = false → ¬"...".toList <+: core := by
    intro hnone hmarker
    have hstart := hhead hnone
    rw [List.append_assoc] at hstart
    apply hrest hnone
    rw [hspace.eq_nil_of_head hstart, List.nil_append, List.append_assoc, List.append_assoc,
      List.append_assoc]
    exact hmarker.trans (List.prefix_append _ _)
  exact ⟨⟨lead, isRest, space, core, gap, marks, trail, tail, hlead, hspace, hgap, htrail, hmarks,
    htail, ⟨hequals.2.1.1.1, hcolon.2.1.1.1⟩, hcorehead, hcorelast, hinside, hwhole, hmarker⟩,
    by simp [text, behind]⟩

theorem ParameterPiece.exists_text (text : Text) :
    ∃ piece : ParameterPiece, piece.text = text := by
  have hlead : IsBlankText (text.takeWhile isBlank) := fun c => isBlank_of_mem_takeWhile
  rw [skipBlanks_eq text]
  cases hmarker : after? "...".toList (skipBlanks text) with
  | some rest =>
    rw [after?_eq_some_iff.mp hmarker]
    exact exists_of_rest hlead true (by simp) (by simp)
  | none =>
    have hhead : ∀ c ∈ (skipBlanks text).head?, isBlank c = false :=
      fun c hc => of_mem_head?_dropWhile hc
    have hnone : ¬"...".toList <+: skipBlanks text := by
      rintro ⟨rest, hrest⟩
      rw [after?_eq_some_iff.mpr hrest.symm] at hmarker
      contradiction
    exact exists_of_rest hlead false (fun _ => hhead) (fun _ => hnone)

/-! ## Blanks around a name -/

theorem isBlank_head?_parameterName (text : Text) :
    ∀ c ∈ (parameterName text).head?, isBlank c = false := by
  obtain ⟨piece, rfl⟩ := ParameterPiece.exists_text text
  intro c hc
  rw [piece.parameterName_text] at hc
  rcases eq_or_ne piece.core [] with hcore | hcore
  · rw [hcore, piece.gap_eq_nil (.inl hcore)] at hc
    contradiction
  · rw [List.head?_append_of_ne_nil _ hcore] at hc
    exact piece.core_head c hc

theorem isBlank_getLast?_parameterName_iff (text : Text) :
    (∃ c ∈ (parameterName text).getLast?, isBlank c = true) ↔
      ∃ piece : ParameterPiece, piece.text = text ∧ piece.gap ≠ [] := by
  constructor
  · rintro ⟨c, hc, hblank⟩
    obtain ⟨piece, rfl⟩ := ParameterPiece.exists_text text
    refine ⟨piece, rfl, ?_⟩
    intro hgap
    rw [piece.parameterName_text, hgap, List.append_nil] at hc
    rw [piece.core_last c hc] at hblank
    contradiction
  · rintro ⟨piece, rfl, hgap⟩
    refine ⟨piece.gap.getLast hgap, ?_, piece.gap_blank _ (List.getLast_mem hgap)⟩
    rw [piece.parameterName_text, List.getLast?_append_of_ne_nil _ hgap]
    exact List.getLast?_eq_some_getLast hgap

/-- Where the core is an identifier, all that has to be said of the parts is what they hold. -/
theorem parameterName_of_identifier {lead space name gap marks trail tail : Text} (isRest : Bool)
    (hlead : IsBlankText lead) (hspace : IsBlankText space) (hname : isIdentifier name = true)
    (hgap : IsBlankText gap) (hmarks : ∀ c ∈ marks, c = '?') (hmarked : gap ≠ [] → marks ≠ [])
    (htrail : IsBlankText trail) (htail : ∀ c ∈ tail.head?, c = '=' ∨ c = ':') :
    parameterName (lead ++ (restMarker isRest ++
      (space ++ (name ++ (gap ++ marks ++ trail) ++ tail)))) = name ++ gap := by
  have hfree : ∀ c, isIdentifierChar c = false → c ∉ name :=
    fun c hc => notMem_of_isIdentifier hname hc
  have hsolid := isSolid_of_isIdentifier hname
  let piece : ParameterPiece :=
    { lead, isRest, space, core := name, gap, marks, trail, tail
      lead_blank := hlead
      space_blank := hspace
      gap_blank := hgap
      trail_blank := htrail
      marks_question := hmarks
      tail_begins := htail
      core_uncut := ⟨hfree _ (by decide), hfree _ (by decide)⟩
      core_head := fun c hc => hsolid.2 c (List.mem_of_mem_head? hc)
      core_last := fun c hc => hsolid.2 c (List.mem_of_getLast? hc)
      gap_inside := fun hne => ⟨hsolid.1, hmarked hne⟩
      marks_whole := by
        rintro - c hc rfl
        exact hfree _ (by decide) (List.mem_of_getLast? hc)
      rest_whole := fun _ hmarker => hfree '.' (by decide) (hmarker.subset (by simp)) }
  exact piece.parameterName_text

/-- An optional parameter with its type. -/
def optionalParameter (lead name gap trail type : Text) : Text :=
  lead ++ name ++ gap ++ ['?'] ++ trail ++ [':'] ++ type

theorem parameterName_optionalParameter {lead name gap trail : Text} (hlead : IsBlankText lead)
    (hname : isIdentifier name = true) (hgap : IsBlankText gap) (htrail : IsBlankText trail)
    (type : Text) : parameterName (optionalParameter lead name gap trail type) = name ++ gap := by
  have hnil : IsBlankText [] := by simp [IsBlankText]
  have htail : ∀ c ∈ (':' :: type).head?, c = '=' ∨ c = ':' := by simp
  have hmain := parameterName_of_identifier false hlead hnil hname hgap
    (List.forall_mem_singleton.mpr rfl) (fun _ => List.cons_ne_nil _ _) htrail htail
  simpa [optionalParameter, restMarker] using hmain

/-! ## References to parameters -/

/-- A parameter list of a text binds a name: the name is the core of one of its pieces, and no
blank stands between it and the question marks. -/
def BindsParameter (text name : Text) : Prop :=
  ∃ entry ∈ scan parameterList? text, ∃ piece : ParameterPiece,
    piece.text ∈ entry.2.splitOn ',' ∧ piece.core = name ∧ piece.gap = []

theorem mem_parameterNames_iff {text name : Text} (h : isIdentifier name = true) :
    name ∈ parameterNames text ↔ BindsParameter text name := by
  have hne := ne_nil_of_isIdentifier h
  constructor
  · intro hmem
    obtain ⟨entry, hentry, hmem⟩ := List.mem_flatMap.mp hmem
    obtain ⟨written, hwritten, rfl⟩ := List.mem_map.mp (List.mem_filter.mp hmem).1
    obtain ⟨piece, rfl⟩ := ParameterPiece.exists_text written
    rw [piece.parameterName_text] at h ⊢
    have hgap : piece.gap = [] := by
      apply List.eq_nil_iff_forall_not_mem.mpr
      intro c hc
      exact (isSolid_of_isIdentifier h).notMem (piece.gap_blank c hc) (List.mem_append_right _ hc)
    refine ⟨entry, hentry, piece, hwritten, ?_, hgap⟩
    rw [hgap, List.append_nil]
  · rintro ⟨entry, hentry, piece, hpiece, rfl, hgap⟩
    apply List.mem_flatMap.mpr
    have hname : parameterName piece.text = piece.core := by
      rw [piece.parameterName_text, hgap, List.append_nil]
    refine ⟨entry, hentry, List.mem_filter.mpr ⟨?_, by simpa using hne⟩⟩
    exact List.mem_map.mpr ⟨_, hpiece, hname⟩

/-- The names that a script declares without a parameter list. -/
def declaredOutsideParameters (text : Text) : List Text :=
  scriptBuiltins.map String.toList ++ (scan scriptDeclaration? text).map Prod.snd ++
    (functionDeclarations text).map FunctionDeclaration.name

theorem exists_undefinedVariable_iff {profile : Profile} {text name : Text} :
    (∃ finding ∈ undefinedFindings profile text, finding.issue = .undefinedVariable name) ↔
      (∃ reference ∈ profile.references text, reference.name = name) ∧
        name ∉ profile.declared text := by
  constructor
  · rintro ⟨finding, hfinding, hissue⟩
    refine ⟨?_, notMem_declared_of_mem_undefinedFindings hfinding (by rw [hissue]; rfl)⟩
    obtain ⟨reference, hreference, rfl⟩ := List.mem_map.mp hfinding
    exact ⟨reference, (List.mem_filter.mp hreference).1, Issue.undefinedVariable.inj hissue⟩
  · rintro ⟨⟨reference, hreference, rfl⟩, hundeclared⟩
    have hmem : reference ∈ undeclaredReferences profile text :=
      List.mem_filter.mpr ⟨hreference, by simpa using hundeclared⟩
    exact ⟨reference.finding text, List.mem_map_of_mem hmem, rfl⟩

/-- The name that a piece of a parameter list binds never begins with a blank, and it ends with one
exactly if the piece has a blank in front of its closing question marks. Of an optional parameter
the blanks in front of the question mark belong to the name. In a script a reference is then
reported as undefined, unless the name is bound without such blanks or declared otherwise. -/
theorem parameterName_keeps_gap_before_marks (text : Text) :
    (∀ c ∈ (parameterName text).head?, isBlank c = false) ∧
    ((∃ c ∈ (parameterName text).getLast?, isBlank c = true) ↔
      ∃ piece : ParameterPiece, piece.text = text ∧ piece.gap ≠ []) ∧
    (∀ lead name gap trail type : Text, IsBlankText lead → isIdentifier name = true →
      IsBlankText gap → IsBlankText trail → text = optionalParameter lead name gap trail type →
        parameterName text = name ++ gap) ∧
    ∀ name : Text, isIdentifier name = true →
      ∃ findings, checkUndefinedReferences .script text = .ok findings ∧
        ((∃ finding ∈ findings, finding.issue = .undefinedVariable name) ↔
          (∃ reference ∈ consoleReferences text, reference.name = name) ∧
            name ∉ declaredOutsideParameters text ∧ ¬BindsParameter text name) := by
  refine ⟨isBlank_head?_parameterName text, isBlank_getLast?_parameterName_iff text, ?_, ?_⟩
  · rintro lead name gap trail type hlead hname hgap htrail rfl
    exact parameterName_optionalParameter hlead hname hgap htrail type
  · intro name hname
    refine ⟨_, checkUndefinedReferences_eq .script text, ?_⟩
    have hdeclared : name ∉ Profile.script.declared text ↔
        name ∉ declaredOutsideParameters text ∧ ¬BindsParameter text name := by
      rw [← mem_parameterNames_iff hname, ← not_or, ← List.mem_append]
      rfl
    rw [exists_undefinedVariable_iff, hdeclared]
    rfl

/-- The gap of `a` makes it an undefined variable, while the blank behind the mark of `b` does not
matter. -/
theorem parameterName_keeps_gap_before_marks_two_parameters :
    let text := "function f(a ?: T, b? : U) { console.log(a, b) }".toList
    parameterName "a ?: T".toList = "a ".toList ∧
      ∃ findings, checkUndefinedReferences .script text = .ok findings ∧
        (∃ finding ∈ findings, finding.issue = .undefinedVariable "a".toList) ∧
        ¬∃ finding ∈ findings, finding.issue = .undefinedVariable "b".toList := by
  intro text
  obtain ⟨-, -, hoptional, -⟩ := parameterName_keeps_gap_before_marks "a ?: T".toList
  obtain ⟨-, -, -, hreported⟩ := parameterName_keeps_gap_before_marks text
  have ha : isIdentifier "a".toList = true := by decide
  have hb : isIdentifier "b".toList = true := by decide
  obtain ⟨findings, hcheck, hundefined⟩ := hreported "a".toList ha
  obtain ⟨same, hsame, hbound⟩ := hreported "b".toList hb
  obtain rfl := Except.ok.inj (hcheck.symm.trans hsame)
  have hname := hoptional [] "a".toList " ".toList [] " T".toList (by decide) ha (by decide)
    (by decide) rfl
  refine ⟨hname, findings, hcheck, ?_, ?_⟩
  · have hunbound : ¬BindsParameter text "a".toList := by
      rw [← mem_parameterNames_iff ha]
      decide +kernel
    exact hundefined.mpr ⟨⟨⟨"a".toList, 41⟩, by decide +kernel, rfl⟩, by decide +kernel, hunbound⟩
  · intro hfound
    apply (hbound.mp hfound).2.2
    rw [← mem_parameterNames_iff hb]
    decide +kernel

/-- Not every name is free of blanks: of `a ?` the blank stays, and a reference to `a` is reported
as undefined. -/
theorem parameterName_ends_with_blank_before_mark :
    (¬∀ text : Text, (∀ c ∈ (parameterName text).head?, isBlank c = false) ∧
      ∀ c ∈ (parameterName text).getLast?, isBlank c = false) ∧
    (¬∀ lead name gap trail type : Text, IsBlankText lead → isIdentifier name = true →
      IsBlankText gap → IsBlankText trail →
        parameterName (optionalParameter lead name gap trail type) = name) ∧
    checkUndefinedReferences .script "function f(a ?: number) { console.log(a); }".toList =
      .ok [⟨.undefinedVariable "a".toList, ⟨⟨0, 38⟩, ⟨0, 39⟩⟩⟩] := by
  refine ⟨?_, ?_, by decide +kernel⟩
  · intro h
    have hlast := (h "a ?".toList).2 ' ' (by decide)
    exact absurd hlast (by decide)
  · intro h
    have hname := h [] "a".toList " ".toList [] " number".toList (by decide) (by decide) (by decide)
      (by decide)
    exact absurd hname (by decide)

end SurfaceLint
