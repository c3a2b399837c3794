import Mathlib.Data.Set.Card
import SurfaceLint.Proofs.Names.Occurrence
import SurfaceLint.Proofs.Text.Blank
import SurfaceLint.Proofs.Text.ScanPlaces

/-!
# Functions that are never called

A call site of a name is a place where the name stands, not behind a character of an
identifier, with blanks and an opening parenthesis behind it. Inside a call site of an
identifier no other one begins, so the scan counts them all. The name of a declaration is a
call site itself; a function is reported as unused exactly when it has no other one.
-/

namespace SurfaceLint

/-- A name stands at a place in the shape of a call. -/
def IsCallSite (text name : Text) (place : Nat) : Prop :=
  ∃ before gap rest, text = before ++ name ++ gap ++ '(' :: rest ∧ before.length = place ∧
    IsBlankText gap ∧ ∀ c ∈ before.getLast?, isWord c = false ∧ c ≠ '$'

theorem atIdentifierStart_iff {before : Option Char} :
    atIdentifierStart before = true ↔ ∀ c ∈ before, isWord c = false ∧ c ≠ '$' := by
  cases before with
  | none => simp [atIdentifierStart]
  | some c => simp [atIdentifierStart, isIdentifierChar]

/-! ## Counting call sites -/

section Sites

variable {text name : Text}

theorem callSite?_eq_some_iff {before : Option Char} {hit : Hit Unit} :
    callSite? name before text = some hit ↔
      atIdentifierStart before = true ∧ ∃ gap rest, IsBlankText gap ∧
        text = name ++ gap ++ '(' :: rest ∧ hit = ⟨(), (name ++ gap ++ ['(']).length⟩ := by
  simp only [callSite?, Option.bind_eq_bind, Option.bind_eq_some_iff, Option.pure_def,
    Option.some.injEq, Option.guard_eq_some', after?_eq_some_iff,
    afterMark?_eq_some_iff (show isBlank '(' = false by decide)]
  constructor
  · rintro ⟨_, hstart, behind, rfl, rest, ⟨gap, hgap, rfl⟩, rfl⟩
    refine ⟨hstart, gap, rest, hgap, by simp, ?_⟩
    have htext : name ++ (gap ++ '(' :: rest) = (name ++ gap ++ ['(']) ++ rest := by simp
    rw [htext, taken_append]
  · rintro ⟨hstart, gap, rest, hgap, rfl, rfl⟩
    refine ⟨(), hstart, gap ++ '(' :: rest, by simp, rest, ⟨gap, hgap, rfl⟩, ?_⟩
    have htext : name ++ gap ++ '(' :: rest = (name ++ gap ++ ['(']) ++ rest := by simp
    rw [htext, taken_append]

/-- Inside a call site, the name goes on or the gap and the parenthesis follow. -/
theorem callSite?_isSeparate (h : isIdentifier name = true) : (callSite? name).IsSeparate where
  empty before := by
    obtain ⟨c, others, rfl, -⟩ := isIdentifier_iff.mp h
    simp [callSite?, after?]
  inside before read rest hit hhit hne hlt := by
    obtain ⟨-, gap, behind, hgap, htext, rfl⟩ := callSite?_eq_some_iff.mp hhit
    rw [List.append_assoc] at htext
    apply Option.eq_none_iff_forall_ne_some.mpr
    intro other hother
    obtain ⟨hstart, gap', behind', -, hrest, -⟩ := callSite?_eq_some_iff.mp hother
    rcases List.append_eq_append_iff.mp htext with ⟨left, hname, -⟩ | ⟨left, rfl, hbehind⟩
    · have hlast : read.getLast hne ∈ name := by
        rw [hname]
        exact List.mem_append_left _ (List.getLast_mem hne)
      rw [List.getLast?_eq_some_getLast hne, atIdentifierStart, Option.any_some,
        isIdentifierChar_of_mem h hlast] at hstart
      contradiction
    · have hnone : ∀ later, IsBlankText later → rest ≠ later ++ '(' :: behind := by
        intro later hlater heq
        rw [heq] at hrest
        have hname : after? name (later ++ '(' :: behind) = none := after?_gap_eq_none h hlater
        rw [after?_eq_some_iff.mpr (hrest.trans (List.append_assoc _ _ _))] at hname
        contradiction
      rcases List.append_eq_append_iff.mp hbehind with ⟨more, rfl, hmore⟩ | ⟨later, rfl, hlater⟩
      · have hmore' : more = [] := by
          simp only [List.length_append, List.length_cons, List.length_nil] at hlt
          exact List.length_eq_zero_iff.mp (by omega)
        rw [hmore', List.nil_append] at hmore
        exact hnone [] (by simp [IsBlankText]) hmore.symm
      · exact hnone later (fun c hc => hgap c (List.mem_append_right _ hc)) hlater

theorem mem_scan_callSite?_iff (h : isIdentifier name = true) {place : Nat} {value : Unit} :
    (place, value) ∈ scan (callSite? name) text ↔ IsCallSite text name place := by
  rw [mem_scan_iff (callSite?_isSeparate h)]
  constructor
  · rintro ⟨before, rest, hit, rfl, hplace, hhit, -⟩
    obtain ⟨hstart, gap, behind, hgap, rfl, -⟩ := callSite?_eq_some_iff.mp hhit
    exact ⟨before, gap, behind, by simp, hplace, hgap, atIdentifierStart_iff.mp hstart⟩
  · rintro ⟨before, gap, behind, rfl, hplace, hgap, hstart⟩
    have hhit : callSite? name before.getLast? (name ++ gap ++ '(' :: behind) =
        some ⟨(), (name ++ gap ++ ['(']).length⟩ :=
      callSite?_eq_some_iff.mpr ⟨atIdentifierStart_iff.mpr hstart, gap, behind, hgap, rfl, rfl⟩
    exact ⟨before, name ++ gap ++ '(' :: behind, _, by simp, hplace, hhit, rfl⟩

theorem encard_callSites (h : isIdentifier name = true) (text : Text) :
    {place | IsCallSite text name place}.encard = countCallSites text name := by
  have hplaces : {place | IsCallSite text name place} =
      (((scan (callSite? name) text).map Prod.fst).toFinset : Set Nat) := by
    ext place
    simp [mem_scan_callSite?_iff h]
  rw [hplaces, Set.encard_coe_eq_coe_finsetCard,
    List.toFinset_card_of_nodup (nodup_scan_places _ text), List.length_map, countCallSites]

theorem countCallSites_le_one_iff (h : isIdentifier name = true) (text : Text) :
    countCallSites text name ≤ 1 ↔
      ∀ place other, IsCallSite text name place → IsCallSite text name other → place = other := by
  have hcast : countCallSites text name ≤ 1 ↔ (countCallSites text name : ℕ∞) ≤ 1 :=
    Nat.cast_le_one.symm
  rw [hcast, ← encard_callSites h, Set.encard_le_one_iff]
  rfl

end Sites

/-! ## Declarations -/

theorem exists_call_of_functionHead? {before : Option Char} {text : Text} {hit : Hit FunctionHead}
    (h : functionHead? before text = some hit) :
    ∃ keyword gap rest, keyword ≠ [] ∧ (∀ c ∈ keyword.getLast?, isBlank c = true) ∧
      isIdentifier hit.value.name = true ∧ IsBlankText gap ∧
      text = keyword ++ hit.value.name ++ gap ++ '(' :: rest ∧
      hit.value.width = (keyword ++ hit.value.name).length ∧ hit.value.width ≤ hit.size := by
  obtain ⟨-, space, name, gap, rest, hne, hspace, hname, hgap, rfl, rfl⟩ :=
    functionHead?_eq_some_iff.mp h
  refine ⟨"function".toList ++ space, gap, rest, by simp, ?_, hname, hgap, rfl, rfl, ?_⟩
  · intro c hc
    rw [List.getLast?_append_of_ne_nil _ hne] at hc
    exact hspace c (List.mem_of_getLast? hc)
  · simp only [List.length_append]
    omega

section Declarations

variable {text : Text} {declaration : FunctionDeclaration}

/-- Where the name of a declaration stands. -/
def FunctionDeclaration.place (declaration : FunctionDeclaration) : Nat :=
  declaration.stop - declaration.name.length

theorem FunctionDeclaration.isCallSite (h : declaration ∈ functionDeclarations text) :
    isIdentifier declaration.name = true ∧
      declaration.start + declaration.name.length < declaration.stop ∧
      IsCallSite text declaration.name declaration.place := by
  obtain ⟨⟨offset, head⟩, hmem, rfl⟩ := List.mem_map.mp h
  obtain ⟨before, rest, hit, rfl, rfl, hhit, rfl⟩ := exists_of_mem_scan hmem
  obtain ⟨keyword, gap, behind, hne, hlast, hidentifier, hgap, rfl, hwidth, -⟩ :=
    exists_call_of_functionHead? hhit
  have hpos : 0 < keyword.length := List.length_pos_iff.mpr hne
  rw [List.length_append] at hwidth
  refine ⟨hidentifier, ?_, before ++ keyword, gap, behind, by simp, ?_, hgap, ?_⟩
  · change before.length + hit.value.name.length < before.length + hit.value.width
    omega
  · change (before ++ keyword).length = before.length + hit.value.width - hit.value.name.length
    rw [List.length_append]
    omega
  · intro c hc
    rw [List.getLast?_append_of_ne_nil _ hne] at hc
    have hblank := hlast c hc
    refine ⟨isWord_of_isBlank hblank, ?_⟩
    rintro rfl
    contradiction

theorem pairwise_functionDeclarations (text : Text) :
    (functionDeclarations text).Pairwise fun a b => a.stop ≤ b.start := by
  have hwidth : ∀ before text hit, functionHead? before text = some hit →
      hit.value.width ≤ hit.size := by
    intro before text hit hhit
    obtain ⟨-, -, -, -, -, -, -, -, -, hle⟩ := exists_call_of_functionHead? hhit
    exact hle
  rw [functionDeclarations, List.pairwise_map]
  exact (pairwise_scan FunctionHead.width hwidth text).imp fun h => h.2

theorem place_lt_of_stop_le {a b : FunctionDeclaration} (ha : a ∈ functionDeclarations text)
    (hb : b ∈ functionDeclarations text) (h : a.stop ≤ b.start) : a.place < b.place := by
  obtain ⟨-, hwidth, -⟩ := FunctionDeclaration.isCallSite ha
  obtain ⟨-, hwidth', -⟩ := FunctionDeclaration.isCallSite hb
  have hpos : 0 < a.name.length :=
    List.length_pos_iff.mpr (ne_nil_of_isIdentifier (FunctionDeclaration.isCallSite ha).1)
  unfold FunctionDeclaration.place
  omega

theorem countCallSites_pos (h : declaration ∈ functionDeclarations text) :
    1 ≤ countCallSites text declaration.name := by
  obtain ⟨hidentifier, -, hsite⟩ := FunctionDeclaration.isCallSite h
  have hmem : (declaration.place, ()) ∈ scan (callSite? declaration.name) text :=
    (mem_scan_callSite?_iff hidentifier).mpr hsite
  exact List.length_pos_of_mem hmem

/-- A function is unused when the name in its declaration is its only call site. -/
theorem mem_unusedFunctions_iff :
    declaration ∈ unusedFunctions text ↔
      declaration ∈ functionDeclarations text ∧
        ∀ place, IsCallSite text declaration.name place → place = declaration.place := by
  rw [unusedFunctions_eq_filter, List.mem_filter, decide_eq_true_eq, and_congr_right_iff]
  intro hmem
  obtain ⟨hidentifier, -, hsite⟩ := FunctionDeclaration.isCallSite hmem
  rw [countCallSites_le_one_iff hidentifier]
  constructor
  · intro h place hplace
    exact h place declaration.place hplace hsite
  · intro h place other hplace hother
    rw [h place hplace, h other hother]

theorem existsUnique_callSite_iff (h : declaration ∈ functionDeclarations text) :
    (∃! place, IsCallSite text declaration.name place) ↔
      countCallSites text declaration.name ≤ 1 := by
  obtain ⟨hidentifier, -, hsite⟩ := FunctionDeclaration.isCallSite h
  rw [countCallSites_le_one_iff hidentifier]
  constructor
  · intro hunique place other hplace hother
    exact hunique.unique hplace hother
  · intro hle
    exact ⟨declaration.place, hsite, fun place hplace => hle _ _ hplace hsite⟩

theorem exists_declared_twice {name : Text}
    (h : 2 ≤ (functionDeclarations text).countP (·.name == name)) :
    ∃ a ∈ functionDeclarations text, ∃ b ∈ functionDeclarations text,
      a.stop ≤ b.start ∧ a.name = name ∧ b.name = name := by
  have horder : ((functionDeclarations text).filter (·.name == name)).Pairwise
      fun a b => a.stop ≤ b.start := (pairwise_functionDeclarations text).filter _
  rw [List.countP_eq_length_filter] at h
  have hnamed : ∀ a ∈ (functionDeclarations text).filter (·.name == name),
      a ∈ functionDeclarations text ∧ a.name = name := by
    intro a ha
    obtain ⟨hmem, hname⟩ := List.mem_filter.mp ha
    exact ⟨hmem, beq_iff_eq.mp hname⟩
  generalize (functionDeclarations text).filter (·.name == name) = named at h horder hnamed
  cases named with
  | nil => simp at h
  | cons a named =>
    cases named with
    | nil => simp at h
    | cons b named =>
      obtain ⟨ha, haname⟩ := hnamed a (by simp)
      obtain ⟨hb, hbname⟩ := hnamed b (by simp)
      exact ⟨a, ha, b, hb, List.rel_of_pairwise_cons horder (by simp), haname, hbname⟩

theorem name_ne_of_declared_twice {a b : FunctionDeclaration}
    (ha : a ∈ functionDeclarations text) (hb : b ∈ functionDeclarations text)
    (horder : a.stop ≤ b.start) (hname : a.name = b.name)
    (h : declaration ∈ unusedFunctions text) : declaration.name ≠ a.name := by
  intro heq
  obtain ⟨-, honly⟩ := mem_unusedFunctions_iff.mp h
  have hfirst := honly a.place (heq ▸ (FunctionDeclaration.isCallSite ha).2.2)
  have hsecond := honly b.place (heq ▸ hname ▸ (FunctionDeclaration.isCallSite hb).2.2)
  have hlt := place_lt_of_stop_le ha hb horder
  omega

end Declarations

open Classical in
/-- The functions reported as unused are the declared ones whose name has a single call site,
which is then the one in the declaration. All call sites of an identifier are counted, and
each declaration has one. No name is reported twice, and none that is declared twice. -/
theorem unusedFunctions_eq_filter_existsUnique (text : Text) :
    unusedFunctions text = (functionDeclarations text).filter (fun declaration =>
        ∃! place, IsCallSite text declaration.name place) ∧
      (∀ declaration ∈ unusedFunctions text, ∀ place,
        IsCallSite text declaration.name place ↔
          place = declaration.stop - declaration.name.length) ∧
      (∀ declaration ∈ functionDeclarations text, isIdentifier declaration.name = true ∧
        1 ≤ countCallSites text declaration.name) ∧
      (∀ name, isIdentifier name = true →
        {place | IsCallSite text name place}.encard = countCallSites text name) ∧
      (unusedFunctions text).Pairwise (fun a b => a.name ≠ b.name) ∧
      ∀ name, 2 ≤ (functionDeclarations text).countP (·.name == name) →
        ∀ declaration ∈ unusedFunctions text, declaration.name ≠ name := by
  refine ⟨?_, ?_, ?_, fun name hname => encard_callSites hname text, ?_, ?_⟩
  · rw [unusedFunctions_eq_filter]
    apply List.filter_congr
    intro declaration hmem
    rw [decide_eq_decide, existsUnique_callSite_iff hmem]
  · intro declaration hmem place
    obtain ⟨hdeclared, honly⟩ := mem_unusedFunctions_iff.mp hmem
    refine ⟨honly place, ?_⟩
    rintro rfl
    exact (FunctionDeclaration.isCallSite hdeclared).2.2
  · intro declaration hmem
    exact ⟨(FunctionDeclaration.isCallSite hmem).1, countCallSites_pos hmem⟩
  · have horder : (unusedFunctions text).Pairwise fun a b => a.stop ≤ b.start := by
      rw [unusedFunctions_eq_filter]
      exact (pairwise_functionDeclarations text).filter _
    refine horder.imp_of_mem ?_
    intro a b ha hb hle hname
    have ha' := (mem_unusedFunctions_iff.mp ha).1
    have hb' := (mem_unusedFunctions_iff.mp hb).1
    exact name_ne_of_declared_twice ha' hb' hle hname ha rfl
  · intro name htwice declaration hmem
    obtain ⟨a, ha, b, hb, hle, rfl, hname⟩ := exists_declared_twice htwice
    exact name_ne_of_declared_twice ha hb hle hname.symm hmem

end SurfaceLint
