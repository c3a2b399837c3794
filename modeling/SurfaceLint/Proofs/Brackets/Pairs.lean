import Mathlib.Data.List.Nodup
import SurfaceLint.Proofs.Brackets.Grammar

/-!
# The pairs that a scan closes

Beside the brackets that it reports, a scan of brackets closes pairs: a closing bracket that
fits goes with the innermost open one. Every bracket is reported or belongs to a pair, none
to two of them. If the brackets are read in the order of their places, a pair closes behind
its opening bracket, and a pair that opens inside another closes inside it. A closing bracket
is reported only if it does not fit the innermost bracket open at its place. A scan that
leaves out the reported brackets reports nothing.
-/

namespace SurfaceLint

/-- The two members of a pair. -/
def pairEnds {α : Type} (pair : α × α) : List α := [pair.1, pair.2]

/-- The pairs that are closed, `open_` being the stack of open brackets, innermost first. -/
def pairedFrom (open_ : List BracketMark) : List BracketMark → List (BracketMark × BracketMark)
  | [] => []
  | mark :: rest =>
    match mark.side, open_ with
    | .opening, _ => pairedFrom (mark :: open_) rest
    | .closing, top :: below =>
      if top.bracket = mark.bracket then (top, mark) :: pairedFrom below rest
      else pairedFrom open_ rest
    | .closing, [] => pairedFrom [] rest

/-- The brackets that a scan deals with, in the order in which it reads them. -/
def scanOrder (open_ marks : List BracketMark) : List BracketMark :=
  open_.reverse ++ marks

section Scan

variable {open_ below marks rest : List BracketMark} {top mark : BracketMark}
  {p q : BracketMark × BracketMark}

theorem pairedFrom_of_opening (h : mark.side = .opening) :
    pairedFrom open_ (mark :: rest) = pairedFrom (mark :: open_) rest := by
  simp only [pairedFrom, h]

theorem pairedFrom_of_partner (h : mark.side = .closing) (hfits : top.bracket = mark.bracket) :
    pairedFrom (top :: below) (mark :: rest) = (top, mark) :: pairedFrom below rest := by
  simp only [pairedFrom, h, hfits, ↓reduceIte]

theorem pairedFrom_of_stray (h : mark.side = .closing)
    (hstray : ∀ top ∈ open_.head?, top.bracket ≠ mark.bracket) :
    pairedFrom open_ (mark :: rest) = pairedFrom open_ rest := by
  cases open_ with
  | nil => simp only [pairedFrom, h]
  | cons top below => simp only [pairedFrom, h, hstray top rfl, ↓reduceIte]

theorem scanOrder_opening : scanOrder (mark :: open_) rest = scanOrder open_ (mark :: rest) := by
  simp [scanOrder]

theorem scanOrder_stray : (scanOrder open_ rest).Sublist (scanOrder open_ (mark :: rest)) :=
  (List.sublist_cons_self mark rest).append_left _

theorem scanOrder_partner :
    (scanOrder below rest).Sublist (scanOrder (top :: below) (mark :: rest)) := by
  have hreverse : below.reverse.Sublist (top :: below).reverse := by simp
  exact hreverse.append (List.sublist_cons_self mark rest)

theorem scanOrder_partner_perm :
    (scanOrder (top :: below) (mark :: rest)).Perm (top :: mark :: scanOrder below rest) := by
  have horder : scanOrder (top :: below) (mark :: rest) =
      below.reverse ++ ([top, mark] ++ rest) := by
    simp [scanOrder]
  rw [horder]
  exact List.perm_append_comm_assoc _ _ _

/-! ## Reported or paired -/

/-- The reported brackets are closing ones in the order of the text, then opening ones in the
order in which they were opened. -/
theorem exists_unmatchedFrom_eq_append (h : ∀ mark ∈ open_, mark.side = .opening) :
    ∃ closers openers, unmatchedFrom open_ marks = closers ++ openers ∧
      (∀ mark ∈ closers, mark.side = .closing) ∧ (∀ mark ∈ openers, mark.side = .opening) ∧
      closers.Sublist marks ∧ openers.Sublist (scanOrder open_ marks) := by
  induction open_, marks using scan_induction with
  | done open_ =>
    refine ⟨[], open_.reverse, rfl, by simp, by simpa using h, .slnil, ?_⟩
    simp [scanOrder]
  | opening open_ mark rest hside ih =>
    obtain ⟨closers, openers, heq, hclosing, hopening, hclosers, hopeners⟩ :=
      ih (List.forall_mem_cons.mpr ⟨hside, h⟩)
    rw [scanOrder_opening] at hopeners
    exact ⟨closers, openers, (unmatchedFrom_of_opening hside).trans heq, hclosing, hopening,
      hclosers.cons mark, hopeners⟩
  | partner top below mark rest hside hfits ih =>
    obtain ⟨closers, openers, heq, hclosing, hopening, hclosers, hopeners⟩ :=
      ih (List.forall_mem_cons.mp h).2
    exact ⟨closers, openers, (unmatchedFrom_of_partner hside hfits).trans heq, hclosing,
      hopening, hclosers.cons mark, hopeners.trans scanOrder_partner⟩
  | stray open_ mark rest hside hstray ih =>
    obtain ⟨closers, openers, heq, hclosing, hopening, hclosers, hopeners⟩ := ih h
    refine ⟨mark :: closers, openers, ?_, List.forall_mem_cons.mpr ⟨hside, hclosing⟩, hopening,
      hclosers.cons_cons mark, hopeners.trans scanOrder_stray⟩
    rw [unmatchedFrom_of_stray hside hstray, heq, List.cons_append]

/-- Every bracket is reported or belongs to a pair, as often as it was read. -/
theorem unmatchedFrom_append_pairedFrom_perm (open_ marks : List BracketMark) :
    (unmatchedFrom open_ marks ++ (pairedFrom open_ marks).flatMap pairEnds).Perm
      (scanOrder open_ marks) := by
  induction open_, marks using scan_induction with
  | done open_ => simp [unmatchedFrom, pairedFrom, scanOrder]
  | opening open_ mark rest hside ih =>
    rw [unmatchedFrom_of_opening hside, pairedFrom_of_opening hside, ← scanOrder_opening]
    exact ih
  | partner top below mark rest hside hfits ih =>
    rw [unmatchedFrom_of_partner hside hfits, pairedFrom_of_partner hside hfits]
    refine .trans ?_ scanOrder_partner_perm.symm
    exact (List.perm_append_comm_assoc _ [top, mark] _).trans (ih.append_left [top, mark])
  | stray open_ mark rest hside hstray ih =>
    rw [unmatchedFrom_of_stray hside hstray, pairedFrom_of_stray hside hstray]
    exact (ih.cons mark).trans List.perm_middle.symm

/-! ## Kinds, order and nesting -/

theorem mem_of_mem_pairedFrom (h : p ∈ pairedFrom open_ marks) :
    p.1 ∈ scanOrder open_ marks ∧ p.2 ∈ marks := by
  induction open_, marks using scan_induction with
  | done open_ => contradiction
  | opening open_ mark rest hside ih =>
    rw [pairedFrom_of_opening hside] at h
    rw [← scanOrder_opening]
    exact ⟨(ih h).1, List.mem_cons_of_mem mark (ih h).2⟩
  | partner top below mark rest hside hfits ih =>
    rw [pairedFrom_of_partner hside hfits] at h
    rcases List.mem_cons.mp h with rfl | h
    · simp [scanOrder]
    · exact ⟨scanOrder_partner.mem (ih h).1, List.mem_cons_of_mem mark (ih h).2⟩
  | stray open_ mark rest hside hstray ih =>
    rw [pairedFrom_of_stray hside hstray] at h
    exact ⟨scanOrder_stray.mem (ih h).1, List.mem_cons_of_mem mark (ih h).2⟩

theorem kinds_of_mem_pairedFrom (hopen : ∀ mark ∈ open_, mark.side = .opening)
    (h : p ∈ pairedFrom open_ marks) :
    p.1.side = .opening ∧ p.2.side = .closing ∧ p.1.bracket = p.2.bracket := by
  induction open_, marks using scan_induction with
  | done open_ => contradiction
  | opening open_ mark rest hside ih =>
    rw [pairedFrom_of_opening hside] at h
    exact ih (List.forall_mem_cons.mpr ⟨hside, hopen⟩) h
  | partner top below mark rest hside hfits ih =>
    rw [pairedFrom_of_partner hside hfits] at h
    obtain ⟨htop, hbelow⟩ := List.forall_mem_cons.mp hopen
    rcases List.mem_cons.mp h with rfl | h
    · exact ⟨htop, hside, hfits⟩
    · exact ih hbelow h
  | stray open_ mark rest hside hstray ih =>
    rw [pairedFrom_of_stray hside hstray] at h
    exact ih hopen h

variable {place : BracketMark → Nat}

/-- A pair that is closed now lies in front of all brackets to come and behind all that stay
open. -/
theorem partner_between (hplace : (scanOrder (top :: below) (mark :: rest)).Pairwise
      fun a b => place a < place b) :
    place top < place mark ∧ (∀ other ∈ rest, place mark < place other) ∧
      ∀ other ∈ below, place other < place top := by
  simp only [scanOrder, List.reverse_cons, List.pairwise_append, List.pairwise_cons] at hplace
  obtain ⟨⟨-, -, hbelow⟩, ⟨hrest, -⟩, hacross⟩ := hplace
  refine ⟨hacross top (by simp) mark (by simp), hrest, ?_⟩
  intro other hother
  exact hbelow other (by simpa using hother) top (by simp)

theorem place_lt_of_mem_pairedFrom
    (hplace : (scanOrder open_ marks).Pairwise fun a b => place a < place b)
    (h : p ∈ pairedFrom open_ marks) : place p.1 < place p.2 := by
  induction open_, marks using scan_induction with
  | done open_ => contradiction
  | opening open_ mark rest hside ih =>
    rw [pairedFrom_of_opening hside] at h
    exact ih (scanOrder_opening ▸ hplace) h
  | partner top below mark rest hside hfits ih =>
    rw [pairedFrom_of_partner hside hfits] at h
    rcases List.mem_cons.mp h with rfl | h
    · exact (partner_between hplace).1
    · exact ih (hplace.sublist scanOrder_partner) h
  | stray open_ mark rest hside hstray ih =>
    rw [pairedFrom_of_stray hside hstray] at h
    exact ih (hplace.sublist scanOrder_stray) h

/-- A pair that opens inside another one closes inside it. -/
theorem nested_of_mem_pairedFrom
    (hplace : (scanOrder open_ marks).Pairwise fun a b => place a < place b)
    (hp : p ∈ pairedFrom open_ marks) (hq : q ∈ pairedFrom open_ marks)
    (hopens : place p.1 < place q.1) (hinside : place q.1 < place p.2) :
    place q.2 < place p.2 := by
  induction open_, marks using scan_induction with
  | done open_ => contradiction
  | opening open_ mark rest hside ih =>
    rw [pairedFrom_of_opening hside] at hp hq
    exact ih (scanOrder_opening ▸ hplace) hp hq
  | partner top below mark rest hside hfits ih =>
    rw [pairedFrom_of_partner hside hfits] at hp hq
    obtain ⟨-, hrest, hbelow⟩ := partner_between hplace
    rcases List.mem_cons.mp hq with rfl | hq
    · -- the pair closed now closes before every other one
      rcases List.mem_cons.mp hp with rfl | hp
      · omega
      · exact hrest _ (mem_of_mem_pairedFrom hp).2
    · rcases List.mem_cons.mp hp with rfl | hp
      · -- nothing that is closed later opens between the members of the pair closed now
        rcases List.mem_append.mp (mem_of_mem_pairedFrom hq).1 with hbefore | hbehind
        · have hlt := hbelow _ (List.mem_reverse.mp hbefore)
          exact absurd hopens (Nat.lt_asymm hlt)
        · have hlt := hrest _ hbehind
          exact absurd hinside (Nat.lt_asymm hlt)
      · exact ih (hplace.sublist scanOrder_partner) hp hq
  | stray open_ mark rest hside hstray ih =>
    rw [pairedFrom_of_stray hside hstray] at hp hq
    exact ih (hplace.sublist scanOrder_stray) hp hq

/-! ## Closing brackets that do not fit -/

theorem mem_scanOrder_of_mem_unmatchedFrom (h : mark ∈ unmatchedFrom open_ marks) :
    mark ∈ scanOrder open_ marks :=
  (unmatchedFrom_append_pairedFrom_perm open_ marks).mem_iff.mp (List.mem_append_left _ h)

/-- An opening bracket that is read before another bracket and is not closed before it. -/
def OpenBefore (place : BracketMark → Nat) (open_ marks : List BracketMark)
    (mark opener : BracketMark) : Prop :=
  opener ∈ scanOrder open_ marks ∧ opener.side = .opening ∧ place opener < place mark ∧
    ∀ closer, (opener, closer) ∈ pairedFrom open_ marks → place mark < place closer

theorem openBefore_opening_iff {other opener : BracketMark} (h : mark.side = .opening) :
    OpenBefore place open_ (mark :: rest) other opener ↔
      OpenBefore place (mark :: open_) rest other opener := by
  rw [OpenBefore, OpenBefore, scanOrder_opening, pairedFrom_of_opening h]

theorem openBefore_stray_iff {other opener : BracketMark} (h : mark.side = .closing)
    (hstray : ∀ top ∈ open_.head?, top.bracket ≠ mark.bracket) :
    OpenBefore place open_ (mark :: rest) other opener ↔
      OpenBefore place open_ rest other opener := by
  rw [OpenBefore, OpenBefore, pairedFrom_of_stray h hstray]
  refine and_congr_left ?_
  rintro ⟨hopening, -⟩
  have hne : opener ≠ mark := by
    rintro rfl
    rw [hopening] at h
    contradiction
  simp [scanOrder, hne]

theorem openBefore_partner_iff {other opener : BracketMark} (h : mark.side = .closing)
    (hfits : top.bracket = mark.bracket)
    (hplace : (scanOrder (top :: below) (mark :: rest)).Pairwise fun a b => place a < place b)
    (hother : other ∈ rest) :
    OpenBefore place (top :: below) (mark :: rest) other opener ↔
      OpenBefore place below rest other opener := by
  obtain ⟨hpair, hrest, hbelow⟩ := partner_between hplace
  rw [OpenBefore, OpenBefore, pairedFrom_of_partner h hfits, scanOrder_partner_perm.mem_iff]
  constructor
  · rintro ⟨hread, hopening, hbefore, hpending⟩
    refine ⟨?_, hopening, hbefore, fun closer hcloser =>
      hpending closer (List.mem_cons_of_mem _ hcloser)⟩
    rcases List.mem_cons.mp hread with rfl | hread
    · have hlt := hpending mark List.mem_cons_self
      exact absurd hlt (Nat.lt_asymm (hrest other hother))
    · rcases List.mem_cons.mp hread with rfl | hread
      · rw [hopening] at h
        contradiction
      · exact hread
  · rintro ⟨hread, hopening, hbefore, hpending⟩
    refine ⟨by simp [hread], hopening, hbefore, ?_⟩
    intro closer hcloser
    rcases List.mem_cons.mp hcloser with heq | hcloser
    · obtain ⟨rfl, rfl⟩ := Prod.mk.inj heq
      rcases List.mem_append.mp hread with hmem | hmem
      · exact absurd (hbelow opener (List.mem_reverse.mp hmem)) (Nat.lt_irrefl _)
      · have hlt := hrest opener hmem
        omega
    · exact hpending closer hcloser

/-- The innermost bracket open before the next one is the top of the stack. -/
theorem head?_eq_of_innermost {opener : BracketMark}
    (hopen : ∀ mark ∈ open_, mark.side = .opening)
    (hplace : (scanOrder open_ (mark :: rest)).Pairwise fun a b => place a < place b)
    (hopener : OpenBefore place open_ rest mark opener)
    (hinnermost : ∀ between, OpenBefore place open_ rest mark between →
      place between ≤ place opener) : open_.head? = some opener := by
  simp only [scanOrder, List.pairwise_append, List.pairwise_reverse, List.pairwise_cons,
    List.mem_reverse] at hplace
  obtain ⟨hstack, ⟨hrest, -⟩, hacross⟩ := hplace
  obtain ⟨hread, -, hbefore, -⟩ := hopener
  have hmem : opener ∈ open_ := by
    rcases List.mem_append.mp hread with hmem | hmem
    · exact List.mem_reverse.mp hmem
    · exact absurd hbefore (Nat.lt_asymm (hrest opener hmem))
  cases open_ with
  | nil => contradiction
  | cons top below =>
    have htop : OpenBefore place (top :: below) rest mark top := by
      refine ⟨by simp [scanOrder], hopen top (by simp), hacross top (by simp) mark (by simp), ?_⟩
      intro closer hcloser
      exact hrest closer (mem_of_mem_pairedFrom hcloser).2
    have hle := hinnermost top htop
    rcases List.mem_cons.mp hmem with rfl | hmem
    · rfl
    · have hlt := (List.pairwise_cons.mp hstack).1 opener hmem
      omega

/-- A reported closing bracket does not fit the innermost bracket open before it. -/
theorem bracket_ne_of_mem_unmatchedFrom {other opener : BracketMark}
    (hopen : ∀ mark ∈ open_, mark.side = .opening)
    (hplace : (scanOrder open_ marks).Pairwise fun a b => place a < place b)
    (hother : other ∈ unmatchedFrom open_ marks) (hclosing : other.side = .closing)
    (hopener : OpenBefore place open_ marks other opener)
    (hinnermost : ∀ between, OpenBefore place open_ marks other between →
      place between ≤ place opener) :
    opener.bracket ≠ other.bracket := by
  induction open_, marks using scan_induction with
  | done open_ =>
    have hopening := hopen other (List.mem_reverse.mp hother)
    rw [hopening] at hclosing
    contradiction
  | opening open_ mark rest hside ih =>
    rw [unmatchedFrom_of_opening hside] at hother
    simp only [openBefore_opening_iff hside] at hopener hinnermost
    exact ih (List.forall_mem_cons.mpr ⟨hside, hopen⟩) (scanOrder_opening ▸ hplace) hother hopener
      hinnermost
  | partner top below mark rest hside hfits ih =>
    rw [unmatchedFrom_of_partner hside hfits] at hother
    have hbelow := (List.forall_mem_cons.mp hopen).2
    have hrest : other ∈ rest := by
      rcases List.mem_append.mp (mem_scanOrder_of_mem_unmatchedFrom hother) with hmem | hmem
      · rw [hbelow other (List.mem_reverse.mp hmem)] at hclosing
        contradiction
      · exact hmem
    simp only [openBefore_partner_iff hside hfits hplace hrest] at hopener hinnermost
    exact ih hbelow (hplace.sublist scanOrder_partner) hother hopener hinnermost
  | stray open_ mark rest hside hstray ih =>
    rw [unmatchedFrom_of_stray hside hstray] at hother
    simp only [openBefore_stray_iff hside hstray] at hopener hinnermost
    rcases List.mem_cons.mp hother with rfl | hother
    · exact hstray opener (head?_eq_of_innermost hopen hplace hopener hinnermost)
    · exact ih hopen (hplace.sublist scanOrder_stray) hother hopener hinnermost

/-! ## Without the reported brackets -/

theorem unmatchedFrom_filter_eq_nil {kept : BracketMark → Bool}
    (hnodup : (scanOrder open_ marks).Nodup)
    (hkept : ∀ mark ∈ scanOrder open_ marks,
      (kept mark = true ↔ mark ∉ unmatchedFrom open_ marks)) :
    unmatchedFrom (open_.filter kept) (marks.filter kept) = [] := by
  induction open_, marks using scan_induction with
  | done open_ =>
    have hnone : open_.filter kept = [] := by
      rw [List.filter_eq_nil_iff]
      intro mark hmark hkeep
      have hnot := (hkept mark (by simpa [scanOrder] using hmark)).mp hkeep
      exact hnot (by simpa [unmatchedFrom] using hmark)
    rw [hnone]
    rfl
  | opening open_ mark rest hside ih =>
    rw [unmatchedFrom_of_opening hside, ← scanOrder_opening] at hkept
    rw [← scanOrder_opening] at hnodup
    have hscan := ih hnodup hkept
    by_cases hkeep : kept mark = true
    · rw [List.filter_cons_of_pos hkeep] at hscan ⊢
      rwa [unmatchedFrom_of_opening hside]
    · rwa [List.filter_cons_of_neg hkeep] at hscan ⊢
  | partner top below mark rest hside hfits ih =>
    rw [unmatchedFrom_of_partner hside hfits] at hkept
    -- the members of the pair are read once, so the scan of the others does not report them
    have hfresh := scanOrder_partner_perm.nodup_iff.mp hnodup
    simp only [List.nodup_cons, List.mem_cons, not_or] at hfresh
    obtain ⟨⟨-, hfreshtop⟩, hfreshmark, -⟩ := hfresh
    have htop : kept top = true :=
      (hkept top (by simp [scanOrder])).mpr fun h =>
        hfreshtop (mem_scanOrder_of_mem_unmatchedFrom h)
    have hmark : kept mark = true :=
      (hkept mark (by simp [scanOrder])).mpr fun h =>
        hfreshmark (mem_scanOrder_of_mem_unmatchedFrom h)
    rw [List.filter_cons_of_pos htop, List.filter_cons_of_pos hmark,
      unmatchedFrom_of_partner hside hfits]
    apply ih (hnodup.sublist scanOrder_partner)
    intro other hother
    exact hkept other (scanOrder_partner.mem hother)
  | stray open_ mark rest hside hstray ih =>
    rw [unmatchedFrom_of_stray hside hstray] at hkept
    have hfresh : mark ∉ scanOrder open_ rest := by
      have hmiddle := List.perm_middle.nodup_iff.mp hnodup
      exact (List.nodup_cons.mp hmiddle).1
    have hmark : ¬kept mark = true := fun h => (hkept mark (by simp [scanOrder])).mp h (by simp)
    rw [List.filter_cons_of_neg hmark]
    apply ih (hnodup.sublist scanOrder_stray)
    intro other hother
    have hne : other ≠ mark := fun h => hfresh (h ▸ hother)
    simpa [hne] using hkept other (scanOrder_stray.mem hother)

end Scan

theorem unmatchedBrackets_subset {text : Text} {mark : BracketMark}
    (h : mark ∈ unmatchedBrackets text) : mark ∈ bracketMarks text :=
  mem_scanOrder_of_mem_unmatchedFrom h

end SurfaceLint
