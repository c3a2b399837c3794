import SurfaceLint.Proofs.Text.Scan

/-!
# Where a scan hits

The hits of a scan come in text order and do not overlap. A hit hides whatever begins inside
the characters that it takes, and nothing else is lost; a recogniser that never succeeds at two
overlapping places is therefore found at every place where it succeeds.
-/

namespace SurfaceLint

section Order

variable {α : Type} {recogniser : Recogniser α}

theorem le_of_mem_scanFrom {before : Option Char} {offset skip : Nat} {text : Text}
    {entry : Nat × α} (h : entry ∈ scanFrom recogniser before offset skip text) :
    offset + skip ≤ entry.1 := by
  induction text generalizing before offset skip with
  | nil => simp [scanFrom] at h
  | cons c text ih =>
    cases skip with
    | succ skip =>
      have hle := ih h
      omega
    | zero =>
      simp only [scanFrom] at h
      split at h
      · have hle := ih h
        omega
      · rcases List.mem_cons.mp h with rfl | h
        · exact Nat.le_refl _
        · have hle := ih h
          omega

/-- A hit begins behind all earlier hits, each of which takes at least its width. -/
theorem pairwise_scan (width : α → Nat)
    (hwidth : ∀ before text hit, recogniser before text = some hit → width hit.value ≤ hit.size)
    (text : Text) :
    (scan recogniser text).Pairwise fun a b => a.1 < b.1 ∧ a.1 + width a.2 ≤ b.1 := by
  suffices h : ∀ before offset skip, (scanFrom recogniser before offset skip text).Pairwise
      fun a b => a.1 < b.1 ∧ a.1 + width a.2 ≤ b.1 from h none 0 0
  induction text with
  | nil => intro before offset skip; exact .nil
  | cons c text ih =>
    intro before offset skip
    cases skip with
    | succ skip => exact ih _ _ _
    | zero =>
      simp only [scanFrom]
      split
      · exact ih _ _ _
      · rename_i hit hhit
        refine .cons ?_ (ih _ _ _)
        intro later hlater
        have hle := le_of_mem_scanFrom hlater
        have hfits := hwidth _ _ _ hhit
        constructor
        · change offset < later.1
          omega
        · change offset + width hit.value ≤ later.1
          omega

theorem nodup_scan_places (recogniser : Recogniser α) (text : Text) :
    ((scan recogniser text).map Prod.fst).Nodup := by
  have horder : (scan recogniser text).Pairwise fun a b => a.1 < b.1 ∧ a.1 + 0 ≤ b.1 :=
    pairwise_scan (fun _ => 0) (fun _ _ hit _ => Nat.zero_le hit.size) text
  rw [List.Nodup, List.pairwise_map]
  exact horder.imp fun h => Nat.ne_of_lt h.1

end Order

/-! ## Hidden places -/

section Hidden

variable {α : Type}

/-- A recogniser that also reports how many characters it took. -/
def Recogniser.sized (recogniser : Recogniser α) : Recogniser (Hit α) := fun before text =>
  (recogniser before text).map fun hit => ⟨hit, hit.size⟩

/-- A recogniser succeeds at a place of a text. -/
def Recogniser.SucceedsAt (recogniser : Recogniser α) (text : Text) (place : Nat) (hit : Hit α) :
    Prop :=
  ∃ before rest, text = before ++ rest ∧ before.length = place ∧
    recogniser before.getLast? rest = some hit

variable {recogniser : Recogniser α}

theorem scan_eq_map_sized (recogniser : Recogniser α) (text : Text) :
    scan recogniser text =
      (scan recogniser.sized text).map fun entry => (entry.1, entry.2.value) := by
  suffices h : ∀ before offset skip, scanFrom recogniser before offset skip text =
      (scanFrom recogniser.sized before offset skip text).map fun entry =>
        (entry.1, entry.2.value) from h none 0 0
  induction text with
  | nil => intro before offset skip; rfl
  | cons c text ih =>
    intro before offset skip
    cases skip with
    | succ skip => exact ih _ _ _
    | zero =>
      simp only [scanFrom, Recogniser.sized]
      cases recogniser before (c :: text) with
      | none => exact ih _ _ _
      | some hit => exact congrArg (_ :: ·) (ih _ _ _)

theorem pairwise_scan_sized (recogniser : Recogniser α) (text : Text) :
    (scan recogniser.sized text).Pairwise fun a b => a.1 < b.1 ∧ a.1 + a.2.size ≤ b.1 := by
  apply pairwise_scan Hit.size
  intro before text sized hsized
  obtain ⟨hit, -, rfl⟩ := Option.map_eq_some_iff.mp hsized
  exact Nat.le_refl _

theorem succeedsAt_of_mem_scan_sized {text : Text} {place : Nat} {hit : Hit α}
    (h : (place, hit) ∈ scan recogniser.sized text) : recogniser.SucceedsAt text place hit := by
  obtain ⟨before, rest, sized, htext, hplace, hsized, rfl⟩ := exists_of_mem_scan h
  obtain ⟨found, hfound, rfl⟩ := Option.map_eq_some_iff.mp hsized
  exact ⟨before, rest, htext, hplace, hfound⟩

theorem mem_scanFrom_or_hidden (hempty : ∀ before, recogniser before [] = none)
    {read rest : Text} {hit : Hit α} {before : Option Char} {skip : Nat} (offset : Nat)
    (hhit : recogniser (read.getLast?.or before) rest = some hit) (hskip : skip ≤ read.length) :
    (offset + read.length, hit) ∈
        scanFrom recogniser.sized before offset skip (read ++ rest) ∨
      ∃ entry ∈ scanFrom recogniser.sized before offset skip (read ++ rest),
        entry.1 < offset + read.length ∧ offset + read.length < entry.1 + entry.2.size := by
  induction read generalizing before offset skip with
  | nil =>
    obtain rfl : skip = 0 := Nat.le_zero.mp hskip
    left
    cases rest with
    | nil => simp [hempty] at hhit
    | cons c rest =>
      have hhere : recogniser before (c :: rest) = some hit := by simpa using hhit
      simp [scanFrom, Recogniser.sized, hhere]
  | cons c read ih =>
    have hlater : ∀ skip ≤ read.length,
        (offset + (c :: read).length, hit) ∈
            scanFrom recogniser.sized (some c) (offset + 1) skip (read ++ rest) ∨
          ∃ entry ∈ scanFrom recogniser.sized (some c) (offset + 1) skip (read ++ rest),
            entry.1 < offset + (c :: read).length ∧
              offset + (c :: read).length < entry.1 + entry.2.size := by
      intro skip hle
      have hrest : recogniser (read.getLast?.or (some c)) rest = some hit := by
        rw [← hhit]
        cases read <;> simp [List.getLast?_cons]
      have hmem := ih (offset + 1) hrest hle
      rwa [Nat.add_assoc, Nat.add_comm 1] at hmem
    cases skip with
    | succ skip => exact hlater skip (Nat.le_of_succ_le_succ hskip)
    | zero =>
      rw [List.cons_append]
      cases hfirst : recogniser before (c :: (read ++ rest)) with
      | none =>
        simp only [scanFrom, Recogniser.sized, hfirst, Option.map_none]
        exact hlater 0 (Nat.zero_le _)
      | some first =>
        simp only [scanFrom, Recogniser.sized, hfirst, Option.map_some]
        by_cases hfits : first.size - 1 ≤ read.length
        · rcases hlater _ hfits with hmem | ⟨entry, hentry, hinside⟩
          · exact .inl (List.mem_cons_of_mem _ hmem)
          · exact .inr ⟨entry, List.mem_cons_of_mem _ hentry, hinside⟩
        · refine .inr ⟨(offset, first), List.mem_cons_self, ?_, ?_⟩ <;>
            · simp only [List.length_cons]
              omega

/-- Where a recogniser succeeds, it is found or the place lies inside what is found. -/
theorem mem_scan_or_hidden (hempty : ∀ before, recogniser before [] = none) {text : Text}
    {place : Nat} {hit : Hit α} (h : recogniser.SucceedsAt text place hit) :
    (place, hit) ∈ scan recogniser.sized text ∨
      ∃ entry ∈ scan recogniser.sized text,
        entry.1 < place ∧ place < entry.1 + entry.2.size := by
  obtain ⟨before, rest, rfl, rfl, hhit⟩ := h
  have hhere : recogniser (before.getLast?.or none) rest = some hit := by simpa using hhit
  have hmem := mem_scanFrom_or_hidden hempty 0 hhere (Nat.zero_le _)
  rwa [Nat.zero_add] at hmem

/-- Where a recogniser succeeds before a cut of the text, it reads on from there. -/
theorem Recogniser.SucceedsAt.exists_read {before rest : Text} {place : Nat} {hit : Hit α}
    (h : recogniser.SucceedsAt (before ++ rest) place hit) (hlt : place < before.length) :
    ∃ start read, before = start ++ read ∧ read ≠ [] ∧ start.length = place ∧
      recogniser start.getLast? (read ++ rest) = some hit := by
  obtain ⟨start, behind, htext, rfl, hhit⟩ := h
  obtain ⟨read, rfl⟩ : start <+: before :=
    List.prefix_of_prefix_length_le (htext ▸ List.prefix_append start behind)
      (List.prefix_append before rest) (Nat.le_of_lt hlt)
  rw [List.append_assoc] at htext
  obtain rfl := List.append_cancel_left htext
  refine ⟨start, read, rfl, ?_, rfl, hhit⟩
  rintro rfl
  simp at hlt

theorem notMem_scan_of_hidden {text : Text} {place : Nat} {hit : Hit α} {entry : Nat × Hit α}
    (hentry : entry ∈ scan recogniser.sized text) (hlt : entry.1 < place)
    (hinside : place < entry.1 + entry.2.size) : (place, hit) ∉ scan recogniser.sized text := by
  intro hmem
  obtain ⟨i, hi, rfl⟩ := List.getElem_of_mem hentry
  obtain ⟨j, hj, hplace⟩ := List.getElem_of_mem hmem
  have horder := List.pairwise_iff_getElem.mp (pairwise_scan_sized recogniser text)
  rcases Nat.lt_trichotomy i j with hij | rfl | hji
  · have hbehind := (horder i j hi hj hij).2
    rw [hplace] at hbehind
    exact Nat.not_lt_of_le hbehind hinside
  · rw [hplace] at hlt
    exact Nat.lt_irrefl _ hlt
  · have hbefore := (horder j i hj hi hji).1
    rw [hplace] at hbefore
    exact Nat.lt_asymm hlt hbefore

end Hidden

/-! ## Recognisers that hide nothing -/

/-- Where a recogniser succeeds, it does not succeed at a second place inside what it takes. -/
structure Recogniser.IsSeparate {α : Type} (recogniser : Recogniser α) : Prop where
  empty : ∀ before, recogniser before [] = none
  inside : ∀ before read rest hit, recogniser before (read ++ rest) = some hit → read ≠ [] →
    read.length < hit.size → recogniser read.getLast? rest = none

/-- What begins with a character that its head does not hold again begins a second time behind
the head at the earliest. -/
theorem exists_behind_head {c : Char} {head body read tail : Text}
    (h : c :: head ++ body = read ++ c :: tail) (hhead : c ∉ head) (hne : read ≠ []) :
    ∃ further, read = c :: head ++ further ∧ body = further ++ c :: tail := by
  rcases List.append_eq_append_iff.mp h with ⟨further, hread, hbody⟩ | ⟨left, hleft, hbody⟩
  · exact ⟨further, hread, hbody⟩
  · obtain ⟨d, read, rfl⟩ := List.exists_cons_of_ne_nil hne
    obtain ⟨rfl, rfl⟩ := List.cons.inj hleft
    cases left with
    | nil => exact ⟨[], by simp, hbody.symm⟩
    | cons d left =>
      obtain ⟨rfl, -⟩ := List.cons.inj hbody
      simp at hhead

section Complete

variable {α : Type} {recogniser : Recogniser α}

theorem mem_scan_iff (h : recogniser.IsSeparate) {text : Text} {place : Nat} {value : α} :
    (place, value) ∈ scan recogniser text ↔
      ∃ before rest hit, text = before ++ rest ∧ before.length = place ∧
        recogniser before.getLast? rest = some hit ∧ hit.value = value := by
  constructor
  · exact exists_of_mem_scan
  · rintro ⟨before, rest, hit, rfl, rfl, hhit, rfl⟩
    have hat : recogniser.SucceedsAt (before ++ rest) before.length hit :=
      ⟨before, rest, rfl, rfl, hhit⟩
    rw [scan_eq_map_sized]
    rcases mem_scan_or_hidden h.empty hat with hmem | ⟨⟨earlier, first⟩, hmem, hlt, hinside⟩
    · exact List.mem_map.mpr ⟨_, hmem, rfl⟩
    · -- the text between the two places would be read and leave a second success
      exfalso
      obtain ⟨start, read, rfl, hread, rfl, hfirst⟩ :=
        (succeedsAt_of_mem_scan_sized hmem).exists_read hlt
      have hnone := h.inside _ read rest first hfirst hread
        (by simp only [List.length_append] at hinside; omega)
      rw [List.getLast?_append, Option.or_of_isSome (by simp [hread]), hnone] at hhit
      contradiction

end Complete

end SurfaceLint
