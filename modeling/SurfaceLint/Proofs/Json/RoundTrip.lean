import Mathlib.Data.List.Nodup
import SurfaceLint.Proofs.Json.Scalar

/-!
# Reading what was printed

A value whose objects repeat no key is read back from its print, in either layout. Every item
and every field has a mark of its own in front of it, so the length of a print bounds the calls
that reading it takes.
-/

namespace SurfaceLint.Json

/-! ## Gaps -/

theorem skipGaps_cons {c : Char} (h : isGap c = false) (text : Text) :
    skipGaps (c :: text) = c :: text :=
  List.dropWhile_cons_of_neg (by simp [h])

theorem isGap_of_mem_lineBreak {layout : Layout} {depth : Nat} {c : Char}
    (h : c ∈ layout.lineBreak depth) : isGap c = true := by
  cases layout with
  | compact => simp [Layout.lineBreak] at h
  | indented =>
    simp only [Layout.lineBreak, List.mem_cons, List.mem_replicate] at h
    rcases h with rfl | ⟨-, rfl⟩ <;> rfl

section Gap

variable {gap : Text} (hgap : ∀ c ∈ gap, isGap c = true)

include hgap

theorem skipGaps_append (text : Text) : skipGaps (gap ++ text) = skipGaps text :=
  List.dropWhile_append_of_pos hgap

theorem endsNumber_gap_append {rest : Text} (hrest : EndsNumber rest) :
    EndsNumber (gap ++ rest) := by
  cases gap with
  | nil => exact hrest
  | cons c gap =>
    intro d hd
    obtain rfl : c = d := by simpa using hd
    have hc := hgap c List.mem_cons_self
    simp only [isGap, Bool.or_eq_true, beq_iff_eq] at hc
    rcases hc with ((rfl | rfl) | rfl) | rfl <;> decide

theorem readValue?_gap_append (fuel : Nat) (text : Text) :
    readValue? fuel (gap ++ text) = readValue? fuel text := by
  cases fuel with
  | zero => simp [readValue?]
  | succ fuel => simp only [readValue?, skipGaps_append hgap]

theorem readItems?_gap_append (fuel : Nat) (text : Text) :
    readItems? fuel (gap ++ text) = readItems? fuel text := by
  cases fuel with
  | zero => simp [readItems?]
  | succ fuel => simp only [readItems?, readValue?_gap_append hgap]

theorem readFields?_gap_append (fuel : Nat) (fields : List (String × Json)) (text : Text) :
    readFields? fuel fields (gap ++ text) = readFields? fuel fields text := by
  cases fuel with
  | zero => simp [readFields?]
  | succ fuel => simp only [readFields?, skipGaps_append hgap]

end Gap

/-! ## Values -/

/-- No object in a value has two fields of one name. -/
inductive HasDistinctKeys : Json → Prop
  | null : HasDistinctKeys .null
  | bool (value : Bool) : HasDistinctKeys (.bool value)
  | int (value : Int) : HasDistinctKeys (.int value)
  | real (value : Decimal) : HasDistinctKeys (.real value)
  | string (value : String) : HasDistinctKeys (.string value)
  | array {items : List Json} :
      (∀ item ∈ items, HasDistinctKeys item) → HasDistinctKeys (.array items)
  | object {fields : List (String × Json)} :
      (fields.map Prod.fst).Nodup → (∀ field ∈ fields, HasDistinctKeys field.2) →
        HasDistinctKeys (.object fields)

/-- A value is read from its print, with whatever stands behind it left over. -/
def ReadsBack (layout : Layout) (value : Json) : Prop :=
  ∀ (depth fuel : Nat) (rest : Text), EndsNumber rest →
    (render layout depth value).length ≤ fuel →
      readValue? (fuel + 1) (render layout depth value ++ rest) = some (value, rest)

theorem insertField_of_notMem {key : String} {fields : List (String × Json)}
    (h : key ∉ fields.map Prod.fst) (value : Json) :
    insertField key value fields = fields ++ [(key, value)] := by
  induction fields with
  | nil => rfl
  | cons field fields ih =>
    rw [List.map_cons, List.mem_cons, not_or] at h
    rw [insertField, if_neg (Ne.symm h.1), ih h.2, List.cons_append]

theorem insertField_of_nodup {key : String} {value : Json} {before after : List (String × Json)}
    (h : ((before ++ (key, value) :: after).map Prod.fst).Nodup) :
    insertField key value before = before ++ [(key, value)] := by
  rw [List.map_append, List.map_cons] at h
  refine insertField_of_notMem (fun hmem => ?_) value
  exact List.disjoint_of_nodup_append h hmem List.mem_cons_self

/-- The character is a minus sign or a digit. -/
def StartsNumber (c : Char) : Prop :=
  c = '-' ∨ c.isDigit = true

instance (c : Char) : Decidable (StartsNumber c) :=
  inferInstanceAs (Decidable (_ ∨ _))

theorem StartsNumber.ne {c : Char} (h : StartsNumber c) (other : Char)
    (hother : ¬StartsNumber other) : c ≠ other :=
  fun heq => hother (heq ▸ h)

theorem StartsNumber.isGap {c : Char} (h : StartsNumber c) : isGap c = false := by
  simp [Json.isGap, h.ne ' ' (by decide), h.ne '\n' (by decide), h.ne '\t' (by decide),
    h.ne '\r' (by decide)]

theorem exists_signedDigits_eq_cons (negative : Bool) (n : Nat) :
    ∃ c text, signedDigits negative n = c :: text ∧ StartsNumber c := by
  cases negative with
  | true => exact ⟨'-', _, rfl, .inl rfl⟩
  | false =>
    obtain ⟨digit, digits, hdigits, hdigit⟩ := exists_toDigits_eq_cons n
    exact ⟨digit, digits, hdigits, .inr hdigit⟩

theorem StartsNumber.readValue? {c : Char} (h : StartsNumber c) (fuel : Nat) (text : Text) :
    readValue? (fuel + 1) (c :: text) = readNumber? (c :: text) := by
  simp [Json.readValue?, skipGaps_cons h.isGap, h.ne 'n' (by decide), h.ne 't' (by decide),
    h.ne 'f' (by decide), h.ne '"' (by decide), h.ne '[' (by decide), h.ne '\x7b' (by decide)]

theorem readValue?_signedDigits (negative : Bool) (n fuel : Nat) (rest : Text) :
    readValue? (fuel + 1) (signedDigits negative n ++ rest) =
      readNumber? (signedDigits negative n ++ rest) := by
  obtain ⟨c, text, htext, hc⟩ := exists_signedDigits_eq_cons negative n
  rw [htext, List.cons_append, hc.readValue?]

/-- A text starts with something else than a gap or the end of an array. -/
def StartsItem (text : Text) : Prop :=
  ∃ c rest, text = c :: rest ∧ isGap c = false ∧ c ≠ ']'

theorem startsItem_render (layout : Layout) (depth : Nat) (value : Json) (rest : Text) :
    StartsItem (render layout depth value ++ rest) := by
  have hnumber (negative : Bool) (n : Nat) (rest : Text) :
      StartsItem (signedDigits negative n ++ rest) := by
    obtain ⟨c, text, htext, hc⟩ := exists_signedDigits_eq_cons negative n
    exact ⟨c, text ++ rest, by rw [htext, List.cons_append], hc.isGap, hc.ne ']' (by decide)⟩
  cases value with
  | null => exact ⟨'n', _, by rw [render]; rfl, rfl, by decide⟩
  | bool value =>
    cases value with
    | true => exact ⟨'t', _, by rw [render]; rfl, rfl, by decide⟩
    | false => exact ⟨'f', _, by rw [render]; rfl, rfl, by decide⟩
  | int n =>
    rw [render, renderInt_eq]
    exact hnumber _ _ _
  | real d =>
    rw [render, renderDecimal_eq, List.append_assoc]
    exact hnumber _ _ _
  | string s => exact ⟨'"', _, by rw [render]; rfl, rfl, by decide⟩
  | array items =>
    cases items with
    | nil => exact ⟨'[', _, by rw [render]; rfl, rfl, by decide⟩
    | cons item rest => exact ⟨'[', _, by rw [render]; rfl, rfl, by decide⟩
  | object fields =>
    cases fields with
    | nil => exact ⟨'\x7b', _, by rw [render]; rfl, rfl, by decide⟩
    | cons field rest => exact ⟨'\x7b', _, by rw [render]; rfl, rfl, by decide⟩

theorem readItems?_last {fuel : Nat} {item : Json} {text gap rest : Text}
    (hgap : ∀ c ∈ gap, isGap c = true)
    (h : readValue? fuel text = some (item, gap ++ ']' :: rest)) :
    readItems? (fuel + 1) text = some ([item], rest) := by
  simp [readItems?, h, skipGaps_append hgap, skipGaps_cons (c := ']') rfl]

theorem readItems?_next {fuel : Nat} {item : Json} {items : List Json} {text behind rest : Text}
    (h : readValue? fuel text = some (item, ',' :: behind))
    (hitems : readItems? fuel behind = some (items, rest)) :
    readItems? (fuel + 1) text = some (item :: items, rest) := by
  simp [readItems?, h, skipGaps_cons (c := ',') rfl, hitems]

theorem readItems?_render {layout : Layout} (depth : Nat) {item : Json} {items : List Json}
    (hitem : ReadsBack layout item) (hitems : ∀ item ∈ items, ReadsBack layout item) {gap : Text}
    (hgap : ∀ c ∈ gap, isGap c = true) (rest : Text) {fuel : Nat}
    (hfuel : (render layout depth item).length + (renderItems layout depth items).length ≤ fuel) :
    readItems? (fuel + 2) (render layout depth item ++ (renderItems layout depth items ++
      (gap ++ ']' :: rest))) = some (item :: items, rest) := by
  induction items generalizing item fuel with
  | nil =>
    have hends : EndsNumber (gap ++ ']' :: rest) :=
      endsNumber_gap_append hgap (by simp [EndsNumber])
    rw [renderItems, List.nil_append]
    exact readItems?_last hgap (hitem depth fuel _ hends (by omega))
  | cons next items ih =>
    obtain ⟨hnext, hitems⟩ := List.forall_mem_cons.mp hitems
    rw [renderItems] at hfuel ⊢
    simp only [List.length_cons, List.length_append] at hfuel
    simp only [List.cons_append, List.append_assoc]
    obtain ⟨fuel, rfl⟩ := Nat.exists_eq_add_one_of_ne_zero (by omega : fuel ≠ 0)
    refine readItems?_next (hitem depth _ _ (by simp [EndsNumber]) (by omega)) ?_
    rw [readItems?_gap_append fun _ => isGap_of_mem_lineBreak]
    exact ih hnext hitems (by omega)

theorem readString?_renderString (key : String) (rest : Text) :
    ∃ text, renderString key ++ rest = '"' :: text ∧ readString? text = some (key, rest) :=
  ⟨_, by rw [renderString, List.cons_append, List.append_assoc]; rfl, readString?_escaped key rest⟩

theorem expect?_colon (layout : Layout) (text : Text) :
    ∃ gap, expect? [':'] (skipGaps (layout.colon ++ text)) = some (gap ++ text) ∧
      ∀ c ∈ gap, isGap c = true := by
  cases layout with
  | compact => exact ⟨[], rfl, by simp⟩
  | indented => exact ⟨[' '], rfl, List.forall_mem_singleton.mpr rfl⟩

theorem readFields?_last {layout : Layout} {fuel : Nat} {value : Json} {text gap rest : Text}
    (hgap : ∀ c ∈ gap, isGap c = true)
    (h : readValue? fuel text = some (value, gap ++ '\x7d' :: rest)) (key : String)
    (fields : List (String × Json)) :
    readFields? (fuel + 1) fields (renderString key ++ (layout.colon ++ text)) =
      some (insertField key value fields, rest) := by
  obtain ⟨behind, hbehind, hkey⟩ := readString?_renderString key (layout.colon ++ text)
  obtain ⟨blank, hblank, hblanks⟩ := expect?_colon layout text
  simp [hbehind, readFields?, skipGaps_cons (c := '"') rfl, hkey, hblank,
    readValue?_gap_append hblanks, h, skipGaps_append hgap,
    skipGaps_cons (c := '\x7d') rfl]

theorem readFields?_next {layout : Layout} {fuel : Nat} {value : Json} {text behind : Text}
    (h : readValue? fuel text = some (value, ',' :: behind)) (key : String)
    (fields : List (String × Json)) :
    readFields? (fuel + 1) fields (renderString key ++ (layout.colon ++ text)) =
      readFields? fuel (insertField key value fields) behind := by
  obtain ⟨opened, hopened, hkey⟩ := readString?_renderString key (layout.colon ++ text)
  obtain ⟨blank, hblank, hblanks⟩ := expect?_colon layout text
  simp [hopened, readFields?, skipGaps_cons (c := '"') rfl, hkey, hblank,
    readValue?_gap_append hblanks, h, skipGaps_cons (c := ',') rfl]

theorem readFields?_render {layout : Layout} (depth : Nat) {key : String} {value : Json}
    {before fields : List (String × Json)} (hvalue : ReadsBack layout value)
    (hfields : ∀ field ∈ fields, ReadsBack layout field.2)
    (hkeys : ((before ++ (key, value) :: fields).map Prod.fst).Nodup) {gap : Text}
    (hgap : ∀ c ∈ gap, isGap c = true) (rest : Text) {fuel : Nat}
    (hfuel : (render layout depth value).length + (renderFields layout depth fields).length ≤
      fuel) :
    readFields? (fuel + 2) before (renderString key ++ (layout.colon ++
      (render layout depth value ++ (renderFields layout depth fields ++
        (gap ++ '\x7d' :: rest))))) = some (before ++ (key, value) :: fields, rest) := by
  -- `before` holds the fields read so far; since no key repeats, the next one joins its end
  induction fields generalizing key value before fuel with
  | nil =>
    have hends : EndsNumber (gap ++ '\x7d' :: rest) :=
      endsNumber_gap_append hgap (by simp [EndsNumber])
    rw [renderFields, List.nil_append,
      readFields?_last hgap (hvalue depth fuel _ hends (by omega)), insertField_of_nodup hkeys]
  | cons next fields ih =>
    obtain ⟨nextKey, nextValue⟩ := next
    obtain ⟨hnext : ReadsBack layout nextValue, hfields⟩ := List.forall_mem_cons.mp hfields
    rw [renderFields] at hfuel ⊢
    simp only [List.length_cons, List.length_append] at hfuel
    simp only [List.cons_append, List.append_assoc]
    obtain ⟨fuel, rfl⟩ := Nat.exists_eq_add_one_of_ne_zero (by omega : fuel ≠ 0)
    rw [readFields?_next (hvalue depth _ _ (by simp [EndsNumber]) (by omega)),
      readFields?_gap_append fun _ => isGap_of_mem_lineBreak, insertField_of_nodup hkeys]
    rw [List.append_cons before (key, value)] at hkeys
    rw [List.append_cons before (key, value) (_ :: fields)]
    exact ih hnext hfields hkeys (by omega)

theorem readValue?_array {fuel : Nat} {items : List Json} {gap text rest : Text}
    (hgap : ∀ c ∈ gap, isGap c = true) (htext : StartsItem text)
    (h : readItems? fuel text = some (items, rest)) :
    readValue? (fuel + 1) ('[' :: (gap ++ text)) = some (.array items, rest) := by
  obtain ⟨c, text, rfl, hc, hclose⟩ := htext
  simp [readValue?, skipGaps_cons (c := '[') rfl, skipGaps_append hgap,
    skipGaps_cons hc, hclose, h]

theorem readsBack_array {layout : Layout} {items : List Json}
    (h : ∀ item ∈ items, ReadsBack layout item) : ReadsBack layout (.array items) := by
  intro depth fuel rest _ hfuel
  cases items with
  | nil =>
    rw [render]
    rfl
  | cons item items =>
    obtain ⟨hitem, hitems⟩ := List.forall_mem_cons.mp h
    rw [render] at hfuel ⊢
    simp only [List.length_cons, List.length_append] at hfuel
    simp only [List.cons_append, List.append_assoc]
    -- the two brackets pay for the call that reads the items and the one for the first of them
    obtain ⟨fuel, rfl⟩ := Nat.exists_eq_add_of_le' (by omega : 2 ≤ fuel)
    refine readValue?_array (fun _ => isGap_of_mem_lineBreak) (startsItem_render _ _ _ _) ?_
    exact readItems?_render _ hitem hitems (fun _ => isGap_of_mem_lineBreak) rest (by omega)

theorem readValue?_object {fuel : Nat} {fields : List (String × Json)} {key : String}
    {gap text rest : Text} (hgap : ∀ c ∈ gap, isGap c = true)
    (h : readFields? fuel [] (renderString key ++ text) = some (fields, rest)) :
    readValue? (fuel + 1) ('\x7b' :: (gap ++ (renderString key ++ text))) =
      some (.object fields, rest) := by
  obtain ⟨opened, hopened, -⟩ := readString?_renderString key text
  rw [hopened] at h ⊢
  simp [readValue?, skipGaps_cons (c := '\x7b') rfl, skipGaps_append hgap,
    skipGaps_cons (c := '"') rfl, h]

theorem readsBack_object {layout : Layout} {fields : List (String × Json)}
    (hkeys : (fields.map Prod.fst).Nodup) (h : ∀ field ∈ fields, ReadsBack layout field.2) :
    ReadsBack layout (.object fields) := by
  intro depth fuel rest _ hfuel
  cases fields with
  | nil =>
    rw [render]
    rfl
  | cons field fields =>
    obtain ⟨key, value⟩ := field
    obtain ⟨hvalue : ReadsBack layout value, hfields⟩ := List.forall_mem_cons.mp h
    rw [render] at hfuel ⊢
    simp only [List.length_cons, List.length_append] at hfuel
    simp only [List.cons_append, List.append_assoc]
    obtain ⟨fuel, rfl⟩ := Nat.exists_eq_add_of_le' (by omega : 2 ≤ fuel)
    refine readValue?_object (fun _ => isGap_of_mem_lineBreak) ?_
    exact readFields?_render _ hvalue hfields hkeys (fun _ => isGap_of_mem_lineBreak) rest
      (by omega)

theorem HasDistinctKeys.readsBack {value : Json} (h : value.HasDistinctKeys) (layout : Layout) :
    ReadsBack layout value := by
  -- the predicate brings the hypotheses on items and fields that recursion on the value lacks
  induction h with
  | null =>
    intro depth fuel rest _ _
    rw [render]
    rfl
  | bool value =>
    intro depth fuel rest _ _
    cases value <;> rw [render] <;> rfl
  | int n =>
    intro depth fuel rest hrest _
    rw [render, ← readNumber?_renderInt n hrest, renderInt_eq, readValue?_signedDigits]
  | real d =>
    intro depth fuel rest hrest _
    rw [render, ← readNumber?_renderDecimal d hrest, renderDecimal_eq, List.append_assoc,
      readValue?_signedDigits]
  | string s =>
    intro depth fuel rest _ _
    obtain ⟨text, htext, hs⟩ := readString?_renderString s rest
    rw [render, htext, readValue?]
    simp [skipGaps_cons (c := '"') rfl, hs]
  | array _ ih => exact readsBack_array ih
  | object hkeys _ ih => exact readsBack_object hkeys ih

theorem HasDistinctKeys.ofText?_render {value : Json} (h : value.HasDistinctKeys)
    (layout : Layout) {gap : Text} (hgap : ∀ c ∈ gap, isGap c = true) :
    ofText? (render layout 0 value ++ gap) = some value := by
  have hends : EndsNumber gap := by
    rw [← List.append_nil gap]
    exact endsNumber_gap_append hgap (by simp [EndsNumber])
  have hskip : skipGaps gap = [] := by
    rw [← List.append_nil gap]
    exact skipGaps_append hgap []
  rw [ofText?, h.readsBack layout 0 _ gap hends (by rw [List.length_append]; omega)]
  simp [hskip]

end SurfaceLint.Json
