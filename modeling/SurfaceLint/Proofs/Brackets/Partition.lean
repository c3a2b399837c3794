import Mathlib.Data.List.Pairwise
import Mathlib.Logic.ExistsUnique
import SurfaceLint.Proofs.Brackets.Pairs

/-!
# Unmatched brackets and pairs make up the brackets

Every bracket of a text stands at one offset, and the brackets are read in the order of their
offsets. What holds of a scan of brackets therefore holds of the offsets in the text: each
bracket is reported once or belongs to one pair, and the pairs are nested. Deleting the
characters at the reported offsets leaves a text whose brackets are well nested.
-/

namespace SurfaceLint

/-- The offsets of the brackets without partner, in reporting order. -/
def unmatchedOffsets (text : Text) : List Nat :=
  (unmatchedBrackets text).map (·.offset text)

/-- A text without the characters at some offsets. -/
def eraseAt (offsets : List Nat) (text : Text) : Text :=
  (text.zipIdx.filter fun entry => !offsets.contains entry.2).map Prod.fst

/-- An opening bracket is open at an offset: it stands before it, and no pair closes it up to
there. -/
def OpenAt (text : Text) (pairs : List (Nat × Nat)) (offset opener : Nat) : Prop :=
  opener < offset ∧ (∃ bracket : Bracket, text[opener]? = some bracket.opener) ∧
    ∀ closer, (opener, closer) ∈ pairs → offset < closer

/-- Pairs of offsets that match the brackets of a text, except for those left over. A pair is
an opening bracket and a later closing one of the same kind; of two pairs, one that opens
inside the other closes inside it; each bracket is left over or belongs to exactly one pair;
and a closing bracket is left over only where it does not fit the innermost open one. -/
structure Pairing (text : Text) (left : List Nat) (pairs : List (Nat × Nat)) : Prop where
  matched : ∀ pair ∈ pairs, pair.1 < pair.2 ∧
    ∃ bracket : Bracket, text[pair.1]? = some bracket.opener ∧ text[pair.2]? = some bracket.closer
  nested : ∀ outer ∈ pairs, ∀ inner ∈ pairs, outer.1 < inner.1 → inner.1 < outer.2 →
    inner.2 < outer.2
  covers : ∀ offset c, text[offset]? = some c → isBracket c = true →
    (offset ∈ left ∧ ∀ pair ∈ pairs, offset ≠ pair.1 ∧ offset ≠ pair.2) ∨
      (offset ∉ left ∧ ∃! pair, pair ∈ pairs ∧ (offset = pair.1 ∨ offset = pair.2))
  misfit : ∀ offset ∈ left, ∀ opener, OpenAt text pairs offset opener →
    (∀ between, OpenAt text pairs offset between → between ≤ opener) →
      ∀ bracket : Bracket, text[offset]? = some bracket.closer →
        text[opener]? ≠ some bracket.opener

/-! ## Deleting brackets -/

theorem bracketWord_eraseAt (offsets : List Nat) (text : Text) :
    bracketWord (eraseAt offsets text) =
      ((bracketMarks text).filter fun mark => !offsets.contains (mark.offset text)).map
        BracketMark.char := by
  rw [bracketWord, eraseAt, List.filter_map, List.filter_filter, bracketMarks_eq_filterMap,
    List.filter_filterMap, List.map_filterMap, ← List.filterMap_eq_map, List.filterMap_filter]
  apply List.filterMap_congr
  intro entry hentry
  have hget := List.mem_zipIdx_iff_getElem?.mp hentry
  cases hmark : bracketMark? entry.1 (.after (text.take entry.2)) with
  | none =>
    have hc : ¬isBracket entry.1 = true := by
      simp [isBracket_iff (.after (text.take entry.2)), hmark]
    simp [hc]
  | some mark =>
    have hc : isBracket entry.1 = true := (isBracket_iff _).mpr ⟨mark, hmark⟩
    obtain ⟨hchar, hoffset⟩ := offset_of_bracketMark? hget hmark
    by_cases hmem : entry.2 ∈ offsets <;> simp [hc, hchar, hoffset, hmem, Option.filter]

/-! ## The scan of a text -/

theorem mem_unmatchedOffsets_iff {text : Text} {mark : BracketMark}
    (h : mark ∈ bracketMarks text) :
    mark.offset text ∈ unmatchedOffsets text ↔ mark ∈ unmatchedBrackets text := by
  constructor
  · intro hoffset
    obtain ⟨other, hother, heq⟩ := List.mem_map.mp hoffset
    have hsame := List.inj_on_of_nodup_map (nodup_offset_bracketMarks text)
      (unmatchedBrackets_subset hother) h heq
    exact hsame ▸ hother
  · intro hmark
    exact List.mem_map.mpr ⟨mark, hmark, rfl⟩

theorem wellNested_eraseAt_unmatchedOffsets (text : Text) :
    WellNested (bracketWord (eraseAt (unmatchedOffsets text) text)) := by
  have hnodup : (scanOrder [] (bracketMarks text)).Nodup :=
    (nodup_offset_bracketMarks text).of_map _
  have hkept : ∀ mark ∈ scanOrder [] (bracketMarks text),
      ((!(unmatchedOffsets text).contains (mark.offset text)) = true ↔
        mark ∉ unmatchedFrom [] (bracketMarks text)) := by
    intro mark hmark
    rw [Bool.not_eq_true', List.contains_eq_mem, decide_eq_false_iff_not]
    exact not_congr (mem_unmatchedOffsets_iff hmark)
  rw [bracketWord_eraseAt]
  exact (closes_of_unmatchedFrom_eq_nil (unmatchedFrom_filter_eq_nil hnodup hkept)).wellNested

/-- The pairs that the scan of a text closes, by their offsets. -/
def pairOffsets (text : Text) : List (Nat × Nat) :=
  (pairedFrom [] (bracketMarks text)).map fun pair => (pair.1.offset text, pair.2.offset text)

theorem unmatchedOffsets_append_pairOffsets_perm (text : Text) :
    (unmatchedOffsets text ++ (pairOffsets text).flatMap pairEnds).Perm
      ((bracketMarks text).map (·.offset text)) := by
  have hperm := (unmatchedFrom_append_pairedFrom_perm [] (bracketMarks text)).map (·.offset text)
  rw [List.map_append, List.map_flatMap] at hperm
  rw [pairOffsets, List.flatMap_map]
  exact hperm

theorem existsUnique_pair_of_nodup {pairs : List (Nat × Nat)} {offset : Nat}
    (hnodup : (pairs.flatMap pairEnds).Nodup) (h : offset ∈ pairs.flatMap pairEnds) :
    ∃! pair, pair ∈ pairs ∧ (offset = pair.1 ∨ offset = pair.2) := by
  obtain ⟨pair, hpair, hoffset⟩ := List.mem_flatMap.mp h
  refine ⟨pair, ⟨hpair, by simpa [pairEnds] using hoffset⟩, ?_⟩
  rintro other ⟨hother, hoffset'⟩
  by_contra hne
  have : Std.Symm (Function.onFun List.Disjoint (pairEnds : Nat × Nat → List Nat)) :=
    ⟨fun _ _ h _ ha hb => h hb ha⟩
  have hdisjoint := (List.nodup_flatMap.mp hnodup).2.forall hother hpair hne
  exact hdisjoint (by simpa [pairEnds] using hoffset') hoffset

section Pairs

variable {text : Text}

theorem matched_of_mem_pairOffsets {pair : Nat × Nat} (h : pair ∈ pairOffsets text) :
    pair.1 < pair.2 ∧ ∃ bracket : Bracket,
      text[pair.1]? = some bracket.opener ∧ text[pair.2]? = some bracket.closer := by
  obtain ⟨⟨a, b⟩, hab, rfl⟩ := List.mem_map.mp h
  obtain ⟨hopening, hclosing, hkind⟩ := kinds_of_mem_pairedFrom (by simp) hab
  obtain ⟨ha, hb⟩ := mem_of_mem_pairedFrom hab
  refine ⟨place_lt_of_mem_pairedFrom (pairwise_offset_bracketMarks text) hab, a.bracket, ?_, ?_⟩
  · rw [(place_of_mem_bracketMarks ha).1, a.char_of_opening hopening]
  · rw [(place_of_mem_bracketMarks hb).1, b.char_of_closing hclosing, hkind]

theorem nodup_unmatchedOffsets_append_pairOffsets (text : Text) :
    (unmatchedOffsets text ++ (pairOffsets text).flatMap pairEnds).Nodup :=
  (unmatchedOffsets_append_pairOffsets_perm text).nodup_iff.mpr (nodup_offset_bracketMarks text)

theorem unmatched_or_paired {offset : Nat} {c : Char} (hget : text[offset]? = some c)
    (hc : isBracket c = true) :
    (offset ∈ unmatchedOffsets text ∧
        ∀ pair ∈ pairOffsets text, offset ≠ pair.1 ∧ offset ≠ pair.2) ∨
      (offset ∉ unmatchedOffsets text ∧
        ∃! pair, pair ∈ pairOffsets text ∧ (offset = pair.1 ∨ offset = pair.2)) := by
  obtain ⟨-, hpairs, hdisjoint⟩ :=
    List.nodup_append'.mp (nodup_unmatchedOffsets_append_pairOffsets text)
  obtain ⟨mark, hmark, rfl⟩ := exists_mem_bracketMarks hget hc
  have hmem := (unmatchedOffsets_append_pairOffsets_perm text).mem_iff.mpr
    (List.mem_map.mpr ⟨mark, hmark, rfl⟩)
  rcases List.mem_append.mp hmem with hleft | hends
  · refine .inl ⟨hleft, fun pair hpair => ?_⟩
    have hnot : mark.offset text ∉ pairEnds pair := fun h =>
      hdisjoint hleft (List.mem_flatMap.mpr ⟨pair, hpair, h⟩)
    simpa [pairEnds] using hnot
  · exact .inr ⟨fun hleft => hdisjoint hleft hends, existsUnique_pair_of_nodup hpairs hends⟩

theorem exists_opening_mark {offset : Nat} {bracket : Bracket}
    (h : text[offset]? = some bracket.opener) :
    ∃ mark ∈ bracketMarks text, mark.offset text = offset ∧ mark.side = .opening ∧
      mark.bracket = bracket := by
  have hbracket : isBracket bracket.opener = true := by cases bracket <;> rfl
  obtain ⟨mark, hmark, rfl⟩ := exists_mem_bracketMarks h hbracket
  have hchar := (place_of_mem_bracketMarks hmark).1.symm.trans h
  have heq : mark = ⟨.opening, bracket, mark.position⟩ :=
    BracketMark.eq_of_char_eq (Option.some.inj hchar) rfl
  exact ⟨mark, hmark, rfl, by rw [heq], by rw [heq]⟩

/-- A bracket is open at the offset of another one exactly when the scan has it open there. -/
theorem openAt_pairOffsets_iff {mark : BracketMark} {opener : Nat} :
    OpenAt text (pairOffsets text) (mark.offset text) opener ↔
      ∃ other, other.offset text = opener ∧
        OpenBefore (·.offset text) [] (bracketMarks text) mark other := by
  constructor
  · rintro ⟨hbefore, ⟨bracket, hget⟩, hpending⟩
    obtain ⟨other, hother, rfl, hside, -⟩ := exists_opening_mark hget
    refine ⟨other, rfl, hother, hside, hbefore, fun closer hcloser => ?_⟩
    exact hpending _ (List.mem_map.mpr ⟨(other, closer), hcloser, rfl⟩)
  · rintro ⟨other, rfl, hother, hside, hbefore, hpending⟩
    refine ⟨hbefore, ⟨other.bracket, ?_⟩, ?_⟩
    · rw [(place_of_mem_bracketMarks hother).1, other.char_of_opening hside]
    · intro closer hcloser
      obtain ⟨⟨a, b⟩, hab, heq⟩ := List.mem_map.mp hcloser
      obtain ⟨ha, rfl⟩ := Prod.mk.inj heq
      obtain rfl : a = other := List.inj_on_of_nodup_map (nodup_offset_bracketMarks text)
        (mem_of_mem_pairedFrom hab).1 hother ha
      exact hpending b hab

theorem opener_ne_of_mem_unmatchedOffsets {offset opener : Nat} {bracket : Bracket}
    (hoffset : offset ∈ unmatchedOffsets text)
    (hopener : OpenAt text (pairOffsets text) offset opener)
    (hinnermost : ∀ between, OpenAt text (pairOffsets text) offset between → between ≤ opener)
    (hcloser : text[offset]? = some bracket.closer) : text[opener]? ≠ some bracket.opener := by
  intro hget
  obtain ⟨mark, hmark, rfl⟩ := List.mem_map.mp hoffset
  have hchar := (place_of_mem_bracketMarks (unmatchedBrackets_subset hmark)).1.symm.trans hcloser
  have heq : mark = ⟨.closing, bracket, mark.position⟩ :=
    BracketMark.eq_of_char_eq (Option.some.inj hchar) rfl
  obtain ⟨other, rfl, hother⟩ := openAt_pairOffsets_iff.mp hopener
  have hfits : other.bracket = mark.bracket := by
    obtain ⟨same, hsame, hplace, -, hbracket⟩ := exists_opening_mark hget
    obtain rfl : same = other := List.inj_on_of_nodup_map (nodup_offset_bracketMarks text)
      hsame hother.1 hplace
    rw [hbracket, heq]
  refine bracket_ne_of_mem_unmatchedFrom (by simp) (pairwise_offset_bracketMarks text) hmark
    (by rw [heq]) hother ?_ hfits
  intro between hbetween
  exact hinnermost _ (openAt_pairOffsets_iff.mpr ⟨between, rfl, hbetween⟩)

theorem pairing_pairOffsets (text : Text) :
    Pairing text (unmatchedOffsets text) (pairOffsets text) where
  matched _ h := matched_of_mem_pairOffsets h
  nested outer houter inner hinner := by
    obtain ⟨p, hp, rfl⟩ := List.mem_map.mp houter
    obtain ⟨q, hq, rfl⟩ := List.mem_map.mp hinner
    exact nested_of_mem_pairedFrom (pairwise_offset_bracketMarks text) hp hq
  covers _ _ hget hc := unmatched_or_paired hget hc
  misfit _ hoffset _ hopener hinnermost _ hcloser :=
    opener_ne_of_mem_unmatchedOffsets hoffset hopener hinnermost hcloser

end Pairs

/-- The reported brackets are those that no pair takes up. Each is a bracket of the text at
its position and is reported once: first closing brackets, then opening ones, both in the
order of the text. Without them the brackets are well nested, and the remaining brackets form
nested pairs, each bracket in exactly one. No closing bracket is reported that fits the
innermost open one. -/
theorem unmatchedBrackets_partition (text : Text) :
    (∀ mark ∈ unmatchedBrackets text,
      (LineIndex.ofText text).offsetAt mark.position.toCursor = .ok (mark.offset text) ∧
        text[mark.offset text]? = some mark.char) ∧
    (unmatchedOffsets text).Nodup ∧
    (∃ closers openers, unmatchedBrackets text = closers ++ openers ∧
      (∀ mark ∈ closers, mark.side = .closing) ∧ (∀ mark ∈ openers, mark.side = .opening) ∧
      (closers.Pairwise fun a b => a.offset text < b.offset text) ∧
      (openers.Pairwise fun a b => a.offset text < b.offset text)) ∧
    WellNested (bracketWord (eraseAt (unmatchedOffsets text) text)) ∧
    ∃ pairs, Pairing text (unmatchedOffsets text) pairs := by
  have hplace := pairwise_offset_bracketMarks text
  refine ⟨?_, ?_, ?_, wellNested_eraseAt_unmatchedOffsets text, _, pairing_pairOffsets text⟩
  · intro mark hmark
    have hmem := unmatchedBrackets_subset hmark
    exact ⟨offsetAt_of_mem_bracketMarks hmem, (place_of_mem_bracketMarks hmem).1⟩
  · exact (List.nodup_append'.mp (nodup_unmatchedOffsets_append_pairOffsets text)).1
  · have hopen : ∀ mark ∈ ([] : List BracketMark), mark.side = .opening := by simp
    obtain ⟨closers, openers, heq, hclosing, hopening, hclosers, hopeners⟩ :=
      exists_unmatchedFrom_eq_append hopen
    exact ⟨closers, openers, heq, hclosing, hopening, hplace.sublist hclosers,
      hplace.sublist hopeners⟩

-- The square brackets cross the round pair: both are reported, the closing one first.
example : (unmatchedBrackets "[(])".toList).map BracketMark.char = [']', '['] := by
  decide

end SurfaceLint
