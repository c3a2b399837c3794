import SurfaceLint.Brackets
import SurfaceLint.Proofs.Text.LineIndex

/-!
# Brackets and where they stand

The marks of a text are its bracket characters, each with the place that reading up to it
leads to. They come in the order of their offsets, and every bracket character has one.
-/

namespace SurfaceLint

/-- A character that opens or closes a bracket. -/
def isBracket (c : Char) : Bool :=
  Bracket.all.any fun bracket => c == bracket.opener || c == bracket.closer

/-- The brackets of a text, everything else deleted. -/
def bracketWord (text : Text) : Text :=
  text.filter isBracket

/-- Where a bracket stands in a text, counted in characters. -/
def BracketMark.offset (text : Text) (mark : BracketMark) : Nat :=
  lineStart (splitLines text) mark.position.line + mark.position.column

/-! ## Characters and marks -/

theorem bracketMark?_eq_some_iff {c : Char} {position : Position} {mark : BracketMark} :
    bracketMark? c position = some mark ↔ mark.char = c ∧ mark.position = position := by
  constructor
  · intro h
    unfold bracketMark? at h
    split at h
    · rename_i bracket hopener
      obtain rfl := Option.some.inj h
      have hc := List.find?_some hopener
      exact ⟨beq_iff_eq.mp hc, rfl⟩
    · obtain ⟨bracket, hcloser, rfl⟩ := Option.map_eq_some_iff.mp h
      have hc := List.find?_some hcloser
      exact ⟨beq_iff_eq.mp hc, rfl⟩
  · rintro ⟨rfl, rfl⟩
    obtain ⟨side, bracket, position⟩ := mark
    cases side <;> cases bracket <;> rfl

theorem BracketMark.eq_of_char_eq {mark other : BracketMark} (hchar : mark.char = other.char)
    (hposition : mark.position = other.position) : mark = other := by
  have hmark := bracketMark?_eq_some_iff.mpr ⟨hchar, hposition⟩
  rw [bracketMark?_eq_some_iff.mpr ⟨rfl, rfl⟩] at hmark
  exact (Option.some.inj hmark).symm

theorem BracketMark.char_of_opening {mark : BracketMark} (h : mark.side = .opening) :
    mark.char = mark.bracket.opener := by
  rw [BracketMark.char, h]

theorem BracketMark.char_of_closing {mark : BracketMark} (h : mark.side = .closing) :
    mark.char = mark.bracket.closer := by
  rw [BracketMark.char, h]

theorem BracketMark.char_ne_newline (mark : BracketMark) : mark.char ≠ '\n' := by
  intro h
  have hmark := bracketMark?_eq_some_iff.mpr ⟨h, rfl⟩
  have hnone : bracketMark? '\n' mark.position = none := rfl
  rw [hnone] at hmark
  contradiction

theorem isBracket_iff {c : Char} (position : Position) :
    isBracket c = true ↔ ∃ mark, bracketMark? c position = some mark := by
  simp only [bracketMark?_eq_some_iff, isBracket, List.any_eq_true, Bool.or_eq_true, beq_iff_eq]
  constructor
  · rintro ⟨bracket, -, rfl | rfl⟩
    · exact ⟨⟨.opening, bracket, position⟩, rfl, rfl⟩
    · exact ⟨⟨.closing, bracket, position⟩, rfl, rfl⟩
  · rintro ⟨mark, rfl, -⟩
    have hall : mark.bracket ∈ Bracket.all := by
      cases mark.bracket <;> decide
    cases hside : mark.side with
    | opening => exact ⟨_, hall, .inl (mark.char_of_opening hside)⟩
    | closing => exact ⟨_, hall, .inr (mark.char_of_closing hside)⟩

/-! ## Other places -/

/-- The same bracket at another place. -/
def BracketMark.move (place : Position → Position) (mark : BracketMark) : BracketMark :=
  { mark with position := place mark.position }

@[simp] theorem BracketMark.char_move (place : Position → Position) (mark : BracketMark) :
    (mark.move place).char = mark.char := rfl

theorem BracketMark.kind_of_char_eq {mark other : BracketMark} (h : mark.char = other.char) :
    mark.bracket = other.bracket ∧ mark.side = other.side := by
  have hsame : mark.move (fun _ => other.position) = other := BracketMark.eq_of_char_eq h rfl
  rw [← hsame]
  exact ⟨rfl, rfl⟩

theorem bracketMark?_move (place : Position → Position) (c : Char) (position : Position) :
    bracketMark? c (place position) = (bracketMark? c position).map (·.move place) := by
  unfold bracketMark?
  cases Bracket.ofOpener? c with
  | some bracket => rfl
  | none => cases Bracket.ofCloser? c <;> rfl

theorem bracketMarksFrom_move {place : Position → Position}
    (h : ∀ position c, (place position).advance c = place (position.advance c))
    (position : Position) (text : Text) :
    bracketMarksFrom (place position) text =
      (bracketMarksFrom position text).map (·.move place) := by
  induction text generalizing position with
  | nil => rfl
  | cons c text ih =>
    rw [bracketMarksFrom, bracketMark?_move, h, ih, bracketMarksFrom, List.map_append]
    cases bracketMark? c position <;> rfl

theorem bracketMarksFrom_append (position : Position) (text rest : Text) :
    bracketMarksFrom position (text ++ rest) =
      bracketMarksFrom position text ++
        bracketMarksFrom (text.foldl Position.advance position) rest := by
  induction text generalizing position with
  | nil => rfl
  | cons c text ih =>
    simp only [List.cons_append, bracketMarksFrom, ih, List.append_assoc, List.foldl_cons]

/-- The brackets of a text that stands behind another one. -/
def bracketMarksBehind (front text : Text) : List BracketMark :=
  (bracketMarks text).map (·.move (Position.after front).append)

theorem bracketMarks_append (front text : Text) :
    bracketMarks (front ++ text) = bracketMarks front ++ bracketMarksBehind front text := by
  have hbehind : bracketMarksFrom ((Position.after front).append .origin) text =
      bracketMarksBehind front text :=
    bracketMarksFrom_move (fun position c => (Position.append_advance _ position c).symm) _ text
  rw [Position.append_origin] at hbehind
  rw [bracketMarks, bracketMarksFrom_append, ← hbehind]
  rfl

theorem bracketMarksBehind_append (front text rest : Text) :
    bracketMarksBehind front (text ++ rest) =
      bracketMarksBehind front text ++ bracketMarksBehind (front ++ text) rest := by
  have hmarks : bracketMarks front ++ bracketMarksBehind front (text ++ rest) =
      bracketMarks front ++ (bracketMarksBehind front text ++
        bracketMarksBehind (front ++ text) rest) := by
    calc
      _ = bracketMarks (front ++ text ++ rest) := by rw [← bracketMarks_append, List.append_assoc]
      _ = _ := by rw [bracketMarks_append, bracketMarks_append, List.append_assoc]
  exact List.append_cancel_left hmarks

/-! ## The word of brackets -/

theorem map_char_bracketMarksFrom (position : Position) (text : Text) :
    (bracketMarksFrom position text).map BracketMark.char = bracketWord text := by
  induction text generalizing position with
  | nil => rfl
  | cons c rest ih =>
    rw [bracketMarksFrom, List.map_append, ih, bracketWord, bracketWord]
    cases hmark : bracketMark? c position with
    | none =>
      have hc : ¬isBracket c = true := by simp [isBracket_iff position, hmark]
      rw [List.filter_cons_of_neg hc]
      rfl
    | some mark =>
      have hc : isBracket c = true := (isBracket_iff position).mpr ⟨mark, hmark⟩
      rw [List.filter_cons_of_pos hc, ← (bracketMark?_eq_some_iff.mp hmark).1]
      rfl

/-! ## Offsets -/

theorem bracketMarksFrom_eq_filterMap (read text : Text) :
    bracketMarksFrom (.after read) text = (text.zipIdx read.length).filterMap fun entry =>
      bracketMark? entry.1 (.after ((read ++ text).take entry.2)) := by
  induction text generalizing read with
  | nil => rfl
  | cons c rest ih =>
    have hadvance : (Position.after read).advance c = .after (read ++ [c]) := by
      simp [Position.after]
    have hrest := ih (read ++ [c])
    rw [List.length_append, List.append_assoc] at hrest
    rw [bracketMarksFrom, hadvance, hrest, List.zipIdx_cons, List.filterMap_cons, List.take_left]
    cases bracketMark? c (.after read) <;> rfl

theorem bracketMarks_eq_filterMap (text : Text) :
    bracketMarks text = text.zipIdx.filterMap fun entry =>
      bracketMark? entry.1 (.after (text.take entry.2)) :=
  bracketMarksFrom_eq_filterMap [] text

section Offset

variable {text : Text} {mark : BracketMark} {offset : Nat}

theorem BracketMark.offset_eq (hle : offset ≤ text.length)
    (h : mark.position = .after (text.take offset)) : mark.offset text = offset := by
  obtain ⟨_, -, -, hoffset⟩ := LineIndex.offsetAt_eq_ok_iff.mp (LineIndex.offsetAt_after hle)
  rw [BracketMark.offset, h, hoffset]

theorem offset_of_bracketMark? {c : Char} (hget : text[offset]? = some c)
    (h : bracketMark? c (.after (text.take offset)) = some mark) :
    mark.char = c ∧ mark.offset text = offset := by
  obtain ⟨hchar, hposition⟩ := bracketMark?_eq_some_iff.mp h
  have hlt := (List.getElem?_eq_some_iff.mp hget).1
  exact ⟨hchar, BracketMark.offset_eq (Nat.le_of_lt hlt) hposition⟩

/-- A bracket stands at its offset, which is where its position leads to. -/
theorem place_of_mem_bracketMarks (h : mark ∈ bracketMarks text) :
    text[mark.offset text]? = some mark.char ∧
      mark.position = .after (text.take (mark.offset text)) := by
  rw [bracketMarks_eq_filterMap] at h
  obtain ⟨⟨c, offset⟩, hentry, hmark⟩ := List.mem_filterMap.mp h
  have hget := List.mk_mem_zipIdx_iff_getElem?.mp hentry
  obtain ⟨hchar, hoffset⟩ := offset_of_bracketMark? hget hmark
  rw [hoffset, hchar]
  exact ⟨hget, (bracketMark?_eq_some_iff.mp hmark).2⟩

theorem offset_lt_of_mem_bracketMarks (h : mark ∈ bracketMarks text) :
    mark.offset text < text.length :=
  (List.getElem?_eq_some_iff.mp (place_of_mem_bracketMarks h).1).1

theorem offsetAt_of_mem_bracketMarks (h : mark ∈ bracketMarks text) :
    (LineIndex.ofText text).offsetAt mark.position.toCursor = .ok (mark.offset text) := by
  rw [(place_of_mem_bracketMarks h).2]
  exact LineIndex.offsetAt_after (Nat.le_of_lt (offset_lt_of_mem_bracketMarks h))

theorem exists_mem_bracketMarks {c : Char} (hget : text[offset]? = some c)
    (hc : isBracket c = true) : ∃ mark ∈ bracketMarks text, mark.offset text = offset := by
  obtain ⟨mark, hmark⟩ := (isBracket_iff (.after (text.take offset))).mp hc
  refine ⟨mark, ?_, (offset_of_bracketMark? hget hmark).2⟩
  rw [bracketMarks_eq_filterMap]
  exact List.mem_filterMap.mpr ⟨(c, offset), List.mk_mem_zipIdx_iff_getElem?.mpr hget, hmark⟩

theorem pairwise_offset_bracketMarks (text : Text) :
    (bracketMarks text).Pairwise fun a b => a.offset text < b.offset text := by
  have hentries : text.zipIdx.Pairwise fun a b => a.2 < b.2 := by
    rw [← List.pairwise_map, List.zipIdx_map_snd]
    exact List.pairwise_lt_range'
  rw [bracketMarks_eq_filterMap, List.pairwise_filterMap]
  refine hentries.imp_of_mem ?_
  intro a b ha hb hlt mark hmark other hother
  rw [(offset_of_bracketMark? (List.mem_zipIdx_iff_getElem?.mp ha) hmark).2,
    (offset_of_bracketMark? (List.mem_zipIdx_iff_getElem?.mp hb) hother).2]
  exact hlt

theorem nodup_offset_bracketMarks (text : Text) :
    ((bracketMarks text).map (·.offset text)).Nodup := by
  rw [List.Nodup, List.pairwise_map]
  exact (pairwise_offset_bracketMarks text).imp Nat.ne_of_lt

end Offset

end SurfaceLint
