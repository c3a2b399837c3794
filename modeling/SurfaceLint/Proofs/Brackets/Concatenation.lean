import SurfaceLint.Proofs.Brackets.Pairs

/-!
# Unmatched brackets of texts put together

Behind a text, the scan goes on with the brackets that the text leaves open, as if it had
started with them. What comes later neither takes back a closing bracket that was reported nor
closes an open bracket before those inside it, so that text put behind can only shorten the list
of open brackets from its end. A text whose brackets all have partners leaves any open brackets
as they were; put between two texts, it moves what is reported of the second one and changes
nothing else.
-/

namespace SurfaceLint

/-- The marks that open brackets, or those that close them. -/
def onSide (side : Side) (marks : List BracketMark) : List BracketMark :=
  marks.filter fun mark => mark.side = side

/-- The closing brackets of a text that close nothing. -/
def unexpectedClosers (text : Text) : List BracketMark :=
  onSide .closing (unmatchedBrackets text)

/-- The opening brackets of a text that nothing closes. -/
def unclosedOpeners (text : Text) : List BracketMark :=
  onSide .opening (unmatchedBrackets text)

section Side

variable {side : Side} {marks : List BracketMark} {mark : BracketMark}

theorem mem_onSide_iff : mark ∈ onSide side marks ↔ mark ∈ marks ∧ mark.side = side := by
  rw [onSide, List.mem_filter, decide_eq_true_eq]

theorem onSide_append (marks more : List BracketMark) :
    onSide side (marks ++ more) = onSide side marks ++ onSide side more :=
  List.filter_append ..

theorem onSide_cons_of_eq (h : mark.side = side) :
    onSide side (mark :: marks) = mark :: onSide side marks :=
  List.filter_cons_of_pos (decide_eq_true h)

theorem onSide_cons_of_ne (h : mark.side ≠ side) :
    onSide side (mark :: marks) = onSide side marks :=
  List.filter_cons_of_neg (by simpa using h)

theorem onSide_of_forall (h : ∀ mark ∈ marks, mark.side = side) : onSide side marks = marks :=
  List.filter_eq_self.mpr fun mark hmark => decide_eq_true (h mark hmark)

theorem onSide_eq_nil (h : ∀ mark ∈ marks, mark.side ≠ side) : onSide side marks = [] :=
  List.filter_eq_nil_iff.mpr fun mark hmark hside => h mark hmark (of_decide_eq_true hside)

end Side

/-! ## A scan that goes on -/

section Scan

variable {open_ marks : List BracketMark}

theorem unmatchedFrom_append (hopen : ∀ mark ∈ open_, mark.side = .opening)
    (more : List BracketMark) :
    unmatchedFrom open_ (marks ++ more) =
      onSide .closing (unmatchedFrom open_ marks) ++
        unmatchedFrom (onSide .opening (unmatchedFrom open_ marks)).reverse more := by
  induction open_, marks using scan_induction with
  | done open_ =>
    have hleft : ∀ mark ∈ open_.reverse, mark.side = .opening := by simpa using hopen
    have hnone : onSide .closing open_.reverse = [] :=
      onSide_eq_nil fun mark hmark => by simp [hleft mark hmark]
    rw [List.nil_append, unmatchedFrom, hnone, onSide_of_forall hleft, List.nil_append,
      List.reverse_reverse]
  | opening open_ mark rest hside ih =>
    rw [List.cons_append, unmatchedFrom_of_opening hside, unmatchedFrom_of_opening hside]
    exact ih (List.forall_mem_cons.mpr ⟨hside, hopen⟩)
  | partner top below mark rest hside hfits ih =>
    rw [List.cons_append, unmatchedFrom_of_partner hside hfits,
      unmatchedFrom_of_partner hside hfits]
    exact ih (List.forall_mem_cons.mp hopen).2
  | stray open_ mark rest hside hstray ih =>
    rw [List.cons_append, unmatchedFrom_of_stray hside hstray,
      unmatchedFrom_of_stray hside hstray, onSide_cons_of_eq hside,
      onSide_cons_of_ne (by simp [hside]), ih hopen, List.cons_append]

/-- Of the brackets that are open, a scan keeps the outermost ones; what else it leaves open it
opened itself. -/
theorem exists_onSide_opening_eq_append (hopen : ∀ mark ∈ open_, mark.side = .opening)
    (marks : List BracketMark) :
    ∃ kept opened, onSide .opening (unmatchedFrom open_ marks) = kept ++ opened ∧
      kept <+: open_.reverse ∧ opened.Sublist marks := by
  induction open_, marks using scan_induction with
  | done open_ =>
    refine ⟨open_.reverse, [], ?_, List.prefix_rfl, .slnil⟩
    rw [unmatchedFrom, List.append_nil, onSide_of_forall (by simpa using hopen)]
  | opening open_ mark rest hside ih =>
    obtain ⟨kept, opened, heq, hkept, hopened⟩ := ih (List.forall_mem_cons.mpr ⟨hside, hopen⟩)
    rw [unmatchedFrom_of_opening hside]
    rw [List.reverse_cons, List.prefix_concat_iff] at hkept
    rcases hkept with rfl | hkept
    · exact ⟨open_.reverse, mark :: opened, by simpa using heq, List.prefix_rfl,
        hopened.cons_cons mark⟩
    · exact ⟨kept, opened, heq, hkept, hopened.cons mark⟩
  | partner top below mark rest hside hfits ih =>
    obtain ⟨kept, opened, heq, hkept, hopened⟩ := ih (List.forall_mem_cons.mp hopen).2
    refine ⟨kept, opened, ?_, ?_, hopened.cons mark⟩
    · rw [unmatchedFrom_of_partner hside hfits, heq]
    · rw [List.reverse_cons]
      exact hkept.trans (List.prefix_append _ _)
  | stray open_ mark rest hside hstray ih =>
    obtain ⟨kept, opened, heq, hkept, hopened⟩ := ih hopen
    refine ⟨kept, opened, ?_, hkept, hopened.cons mark⟩
    rw [unmatchedFrom_of_stray hside hstray, onSide_cons_of_ne (by simp [hside]), heq]

end Scan

/-! ## Two texts -/

section Texts

variable {front back : Text} {mark : BracketMark}

theorem side_of_mem_unclosedOpeners :
    ∀ mark ∈ (unclosedOpeners front).reverse, mark.side = .opening := by
  intro mark hmark
  exact (mem_onSide_iff.mp (List.mem_reverse.mp hmark)).2

/-- The scan of the second text starts with what the first one leaves open. -/
theorem unmatchedBrackets_append (front back : Text) :
    unmatchedBrackets (front ++ back) =
      unexpectedClosers front ++
        unmatchedFrom (unclosedOpeners front).reverse (bracketMarksBehind front back) := by
  have hopen : ∀ mark ∈ ([] : List BracketMark), mark.side = .opening := by simp
  rw [unmatchedBrackets, bracketMarks_append, unmatchedFrom_append hopen]
  rfl

theorem unexpectedClosers_append (front back : Text) :
    unexpectedClosers (front ++ back) =
      unexpectedClosers front ++ onSide .closing
        (unmatchedFrom (unclosedOpeners front).reverse (bracketMarksBehind front back)) := by
  have hclosers : onSide .closing (unexpectedClosers front) = unexpectedClosers front :=
    onSide_of_forall fun mark hmark => (mem_onSide_iff.mp hmark).2
  rw [unexpectedClosers, unmatchedBrackets_append, onSide_append, hclosers]

theorem unclosedOpeners_append (front back : Text) :
    unclosedOpeners (front ++ back) = onSide .opening
      (unmatchedFrom (unclosedOpeners front).reverse (bracketMarksBehind front back)) := by
  have hnone : onSide .opening (unexpectedClosers front) = [] :=
    onSide_eq_nil fun mark hmark => by simp [(mem_onSide_iff.mp hmark).2]
  rw [unclosedOpeners, unmatchedBrackets_append, onSide_append, hnone, List.nil_append]

/-! ## Places in two texts -/

theorem position_of_mem_front (h : mark ∈ bracketMarks front) (back : Text) :
    mark.position = .after ((front ++ back).take (mark.offset front)) := by
  have hlt := offset_lt_of_mem_bracketMarks h
  rw [List.take_append_of_le_length (Nat.le_of_lt hlt)]
  exact (place_of_mem_bracketMarks h).2

theorem position_of_mem_back (h : mark ∈ bracketMarks back) (front : Text) :
    (Position.after front).append mark.position =
      .after ((front ++ back).take (front.length + mark.offset back)) := by
  rw [List.take_length_add_append, Position.after_append, ← (place_of_mem_bracketMarks h).2]

theorem offset_lt_of_mem_front (h : mark ∈ bracketMarks front) (back : Text) :
    mark.offset (front ++ back) < front.length := by
  have hlt := offset_lt_of_mem_bracketMarks h
  rw [BracketMark.offset_eq (by rw [List.length_append]; omega) (position_of_mem_front h back)]
  exact hlt

theorem length_le_offset_of_mem_behind (h : mark ∈ bracketMarksBehind front back) :
    front.length ≤ mark.offset (front ++ back) := by
  obtain ⟨original, horiginal, rfl⟩ := List.mem_map.mp h
  have hlt := offset_lt_of_mem_bracketMarks horiginal
  rw [BracketMark.offset_eq (by rw [List.length_append]; omega)
    (position_of_mem_back horiginal front)]
  exact Nat.le_add_right _ _

theorem mem_bracketMarks_of_unmatched {side : Side}
    (h : mark ∈ onSide side (unmatchedBrackets front)) : mark ∈ bracketMarks front :=
  unmatchedBrackets_subset (mem_onSide_iff.mp h).1

theorem mem_behind_of_closing
    (h : mark ∈ onSide .closing
      (unmatchedFrom (unclosedOpeners front).reverse (bracketMarksBehind front back))) :
    mark ∈ bracketMarksBehind front back := by
  obtain ⟨hmem, hside⟩ := mem_onSide_iff.mp h
  rcases List.mem_append.mp (mem_scanOrder_of_mem_unmatchedFrom hmem) with hopen | hbehind
  · rw [side_of_mem_unclosedOpeners mark (List.mem_reverse.mp hopen)] at hside
    contradiction
  · exact hbehind

end Texts

/-! ## Text put behind -/

/-- The marks that stand in the first of two texts. -/
def withinFront (front back : Text) (marks : List BracketMark) : List BracketMark :=
  marks.filter fun mark => mark.offset (front ++ back) < front.length

section Front

variable {front back : Text} {marks : List BracketMark}

theorem withinFront_append (front back : Text) (marks more : List BracketMark) :
    withinFront front back (marks ++ more) =
      withinFront front back marks ++ withinFront front back more :=
  List.filter_append ..

theorem withinFront_of_front (h : ∀ mark ∈ marks, mark ∈ bracketMarks front) :
    withinFront front back marks = marks :=
  List.filter_eq_self.mpr fun mark hmark =>
    decide_eq_true (offset_lt_of_mem_front (h mark hmark) back)

theorem withinFront_eq_nil (h : ∀ mark ∈ marks, mark ∈ bracketMarksBehind front back) :
    withinFront front back marks = [] := by
  rw [withinFront, List.filter_eq_nil_iff]
  intro mark hmark hlt
  exact Nat.not_lt.mpr (length_le_offset_of_mem_behind (h mark hmark)) (of_decide_eq_true hlt)

end Front

/-- Text put behind another one keeps the closing brackets reported in it, which are the first
ones reported then. Of the opening brackets reported in it, those still reported are the first
ones, in the same order. -/
theorem unmatchedBrackets_append_stable (front back : Text) :
    unexpectedClosers front <+: unexpectedClosers (front ++ back) ∧
    withinFront front back (unexpectedClosers (front ++ back)) = unexpectedClosers front ∧
    withinFront front back (unclosedOpeners (front ++ back)) <+: unclosedOpeners front := by
  refine ⟨?_, ?_, ?_⟩
  · rw [unexpectedClosers_append]
    exact List.prefix_append _ _
  · have hclosers : withinFront front back (unexpectedClosers front) = unexpectedClosers front :=
      withinFront_of_front fun mark hmark => mem_bracketMarks_of_unmatched hmark
    rw [unexpectedClosers_append, withinFront_append, hclosers,
      withinFront_eq_nil fun mark hmark => mem_behind_of_closing hmark, List.append_nil]
  · obtain ⟨kept, opened, heq, hkept, hopened⟩ :=
      exists_onSide_opening_eq_append side_of_mem_unclosedOpeners (bracketMarksBehind front back)
    rw [List.reverse_reverse] at hkept
    rw [unclosedOpeners_append, heq, withinFront_append,
      withinFront_of_front fun mark hmark => mem_bracketMarks_of_unmatched (hkept.subset hmark),
      withinFront_eq_nil fun mark hmark => hopened.subset hmark, List.append_nil]
    exact hkept

-- The second text closes the inner bracket and opens one of its own.
example : (unclosedOpeners "([".toList).map BracketMark.char = ['(', '['] ∧
    (unclosedOpeners "([]\x7b".toList).map BracketMark.char = ['(', '\x7b'] := by
  decide

/-! ## Text put between -/

/-- A bracket of `front ++ back` and the same bracket with a text put between the two. -/
structure BracketMark.MovedBy (front inserted back : Text) (mark moved : BracketMark) : Prop where
  char : moved.char = mark.char
  side : moved.side = mark.side
  offset : ∃ offset,
    (LineIndex.ofText (front ++ back)).offsetAt mark.position.toCursor = .ok offset ∧
      (LineIndex.ofText (front ++ inserted ++ back)).offsetAt moved.position.toCursor =
        .ok (if offset < front.length then offset else offset + inserted.length)

section Inserted

variable {front inserted back : Text} {mark : BracketMark}

theorem BracketMark.movedBy_front (h : mark ∈ bracketMarks front) (inserted back : Text) :
    mark.MovedBy front inserted back mark where
  char := rfl
  side := rfl
  offset := by
    have hlt := offset_lt_of_mem_bracketMarks h
    refine ⟨mark.offset front, ?_, ?_⟩
    · rw [position_of_mem_front h back]
      exact LineIndex.offsetAt_after (by rw [List.length_append]; omega)
    · rw [if_pos hlt, List.append_assoc, position_of_mem_front h (inserted ++ back)]
      exact LineIndex.offsetAt_after (by rw [List.length_append]; omega)

theorem BracketMark.movedBy_back (h : mark ∈ bracketMarks back) (front inserted : Text) :
    (mark.move (Position.after front).append).MovedBy front inserted back
      (mark.move (Position.after (front ++ inserted)).append) where
  char := rfl
  side := rfl
  offset := by
    have hlt := offset_lt_of_mem_bracketMarks h
    refine ⟨front.length + mark.offset back, ?_, ?_⟩
    · rw [BracketMark.move, position_of_mem_back h front]
      exact LineIndex.offsetAt_after (by rw [List.length_append]; omega)
    · have hlength : front.length + mark.offset back + inserted.length =
          (front ++ inserted).length + mark.offset back := by
        rw [List.length_append]
        omega
      rw [if_neg (by omega), hlength, BracketMark.move, position_of_mem_back h]
      exact LineIndex.offsetAt_after (by simp only [List.length_append]; omega)

theorem unmatchedFrom_balanced_append {open_ : List BracketMark}
    (h : unmatchedBrackets inserted = []) (front : Text) (more : List BracketMark) :
    unmatchedFrom open_ (bracketMarksBehind front inserted ++ more) = unmatchedFrom open_ more := by
  have hword := (closes_of_unmatchedFrom_eq_nil h).wellNested
  apply hword.unmatchedFrom_append
  simp only [bracketMarksBehind, List.map_map, Function.comp_def, BracketMark.char_move]

end Inserted

/-- Text whose brackets all have partners can be put anywhere: the same brackets are reported in
the same order, those behind it moved by its length. -/
theorem unmatchedBrackets_insert_balanced (front back : Text) {inserted : Text}
    (h : unmatchedBrackets inserted = []) :
    List.Forall₂ (BracketMark.MovedBy front inserted back) (unmatchedBrackets (front ++ back))
      (unmatchedBrackets (front ++ inserted ++ back)) := by
  have hfront : ∀ marks : List BracketMark, (∀ mark ∈ marks, mark ∈ bracketMarks front) →
      List.Forall₂ (BracketMark.MovedBy front inserted back) marks marks := by
    intro marks hmarks
    exact List.forall₂_same.mpr fun mark hmark =>
      BracketMark.movedBy_front (hmarks mark hmark) inserted back
  have hback : List.Forall₂ (BracketMark.MovedBy front inserted back)
      (bracketMarksBehind front back) (bracketMarksBehind (front ++ inserted) back) := by
    rw [bracketMarksBehind, bracketMarksBehind, List.forall₂_map_left_iff,
      List.forall₂_map_right_iff, List.forall₂_same]
    intro mark hmark
    exact BracketMark.movedBy_back hmark front inserted
  rw [List.append_assoc, unmatchedBrackets_append, unmatchedBrackets_append,
    bracketMarksBehind_append, unmatchedFrom_balanced_append h]
  refine List.rel_append (hfront _ fun mark hmark => mem_bracketMarks_of_unmatched hmark) ?_
  apply unmatchedFrom_forall₂ (fun mark moved hmoved => hmoved.char) (hfront _ ?_) hback
  intro mark hmark
  exact mem_bracketMarks_of_unmatched (List.mem_reverse.mp hmark)

/-- The text put between has a line end, so the closing bracket behind it changes its line; the
open bracket in front stays. -/
theorem unmatchedBrackets_insert_balanced_line :
    unmatchedBrackets "\x7b()\n\x7d".toList = [] ∧
    unmatchedBrackets ("[ (".toList ++ " ] )".toList) =
      [⟨.closing, .square, ⟨0, 4⟩⟩, ⟨.opening, .square, ⟨0, 0⟩⟩] ∧
    unmatchedBrackets ("[ (".toList ++ "\x7b()\n\x7d".toList ++ " ] )".toList) =
      [⟨.closing, .square, ⟨1, 2⟩⟩, ⟨.opening, .square, ⟨0, 0⟩⟩] ∧
    List.Forall₂ (BracketMark.MovedBy "[ (".toList "\x7b()\n\x7d".toList " ] )".toList)
      (unmatchedBrackets ("[ (".toList ++ " ] )".toList))
      (unmatchedBrackets ("[ (".toList ++ "\x7b()\n\x7d".toList ++ " ] )".toList)) :=
  ⟨by decide, by decide, by decide, unmatchedBrackets_insert_balanced _ _ (by decide)⟩

end SurfaceLint
