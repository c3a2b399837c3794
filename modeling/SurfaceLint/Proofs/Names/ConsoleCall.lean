import SurfaceLint.Proofs.Names.ArgumentGrammar
import SurfaceLint.Proofs.Text.Blank
import SurfaceLint.Proofs.Text.ScanPlaces

/-!
# The calls of a script

The references of a script are collected call by call. A call of `console.log` is known by the
offset at which its arguments begin, and is read up to the end of its line. The offsets of the
calls increase, and so do those of the references in one call; a call inside the arguments of
another comes after all of these arguments.
-/

namespace SurfaceLint

/-- The name of the function with blanks and the parenthesis behind it. -/
def callHead (gap : Text) : Text :=
  "console.log".toList ++ gap ++ ['(']

/-- The arguments of a `console.log` call begin at an offset. -/
def OpensCall (text : Text) (opening : Nat) : Prop :=
  ∃ place gap, IsBlankText gap ∧ '\n' ∉ gap ∧ StandsAt text place (callHead gap) ∧
    opening = place + (callHead gap).length

def restOfLine (text : Text) (offset : Nat) : Text :=
  (text.drop offset).takeWhile (· ≠ '\n')

/-- The references in the call whose arguments begin at an offset. -/
def referencesFrom (text : Text) (opening : Nat) : List Reference :=
  (argumentOffsets opening ((splitArguments (restOfLine text opening)).getD [])).filterMap
    fun argument => bareArgument? argument.1 argument.2

/-! ## Calls of one line -/

theorem callHead_append (gap inside : Text) :
    callHead gap ++ inside = "console.log".toList ++ (gap ++ '(' :: inside) := by
  unfold callHead
  simp

theorem consoleCall?_eq_some_iff {before : Option Char} {text : Text} {hit : Hit CallHead} :
    consoleCall? before text = some hit ↔
      ∃ gap, IsBlankText gap ∧ text = callHead gap ++ hit.value.inside ∧
        hit.value.width = (callHead gap).length ∧ hit.size = (callHead gap).length := by
  simp only [consoleCall?, Option.bind_eq_bind, Option.bind_eq_some_iff, Option.pure_def,
    Option.some.injEq, after?_eq_some_iff,
    afterMark?_eq_some_iff (show isBlank '(' = false by decide)]
  constructor
  · rintro ⟨_, rfl, inside, ⟨gap, hgap, rfl⟩, rfl⟩
    have hwidth := taken_append (callHead gap) inside
    rw [callHead_append] at hwidth
    exact ⟨gap, hgap, (callHead_append gap inside).symm, hwidth, hwidth⟩
  · rintro ⟨gap, hgap, rfl, hwidth, hsize⟩
    refine ⟨_, callHead_append gap _, hit.value.inside, ⟨gap, hgap, rfl⟩, ?_⟩
    rw [taken_append]
    nth_rewrite 1 [← hwidth]
    rw [← hsize]

theorem callHead_eq_cons (gap : Text) :
    callHead gap = 'c' :: ("onsole.log".toList ++ gap ++ ['(']) := by
  unfold callHead
  simp

/-- The head of a call begins with a letter that does not occur in it again. -/
theorem notMem_callHead {gap : Text} (hgap : IsBlankText gap) :
    'c' ∉ "onsole.log".toList ++ gap ++ ['('] := by
  simp only [List.mem_append, not_or]
  exact ⟨⟨by decide, hgap.notMem (by decide)⟩, by decide⟩

theorem consoleCall?_isSeparate : consoleCall?.IsSeparate where
  empty before := rfl
  inside before read rest hit hhit hne hlt := by
    obtain ⟨gap, hgap, htext, -, hsize⟩ := consoleCall?_eq_some_iff.mp hhit
    apply Option.eq_none_iff_forall_ne_some.mpr
    intro other hother
    obtain ⟨gap', -, rfl, -⟩ := consoleCall?_eq_some_iff.mp hother
    rw [callHead_eq_cons, callHead_eq_cons] at htext
    obtain ⟨further, rfl, -⟩ := exists_behind_head htext.symm (notMem_callHead hgap) hne
    rw [hsize, callHead_eq_cons, List.length_append] at hlt
    omega

def lineOpenings (line : Text) : List Nat :=
  (scan consoleCall? line).map fun hit => hit.1 + hit.2.width

theorem mem_lineOpenings_iff {line : Text} (h : '\n' ∉ line) {opening : Nat} :
    opening ∈ lineOpenings line ↔ OpensCall line opening := by
  rw [lineOpenings, List.mem_map]
  constructor
  · rintro ⟨⟨place, head⟩, hmem, rfl⟩
    obtain ⟨before, rest, hit, rfl, rfl, hhit, rfl⟩ :=
      (mem_scan_iff consoleCall?_isSeparate).mp hmem
    obtain ⟨gap, hgap, rfl, hwidth, -⟩ := consoleCall?_eq_some_iff.mp hhit
    have hstands : StandsAt (before ++ (callHead gap ++ hit.value.inside)) before.length
        (callHead gap) := ⟨before, hit.value.inside, (List.append_assoc ..).symm, rfl⟩
    refine ⟨before.length, gap, hgap, ?_, hstands, congrArg _ hwidth⟩
    intro hmem
    apply h
    rw [callHead_append]
    simp only [List.mem_append]
    exact .inr (.inr (.inl hmem))
  · rintro ⟨place, gap, hgap, -, ⟨before, rest, rfl, rfl⟩, rfl⟩
    have hhit : consoleCall? before.getLast? (callHead gap ++ rest) =
        some ⟨⟨(callHead gap).length, rest⟩, (callHead gap).length⟩ :=
      consoleCall?_eq_some_iff.mpr ⟨gap, hgap, rfl, rfl, rfl⟩
    have hmem := (mem_scan_iff consoleCall?_isSeparate).mpr
      ⟨before, callHead gap ++ rest, _, rfl, rfl, hhit, rfl⟩
    rw [← List.append_assoc] at hmem
    exact ⟨_, hmem, rfl⟩

theorem pairwise_lineOpenings (line : Text) : (lineOpenings line).Pairwise (· < ·) := by
  have hwidth : ∀ before text hit, consoleCall? before text = some hit →
      hit.value.width ≤ hit.size := by
    intro before text hit hhit
    obtain ⟨gap, -, -, hwidth, hsize⟩ := consoleCall?_eq_some_iff.mp hhit
    rw [hwidth, hsize]
  rw [lineOpenings, List.pairwise_map]
  refine (pairwise_scan CallHead.width hwidth line).imp_of_mem ?_
  rintro a ⟨place, head⟩ _ hmem ⟨-, hbehind⟩
  obtain ⟨before, rest, hit, -, -, hhit, rfl⟩ := exists_of_mem_scan hmem
  obtain ⟨gap, -, -, hlength, -⟩ := consoleCall?_eq_some_iff.mp hhit
  have hpos : 0 < hit.value.width := by
    rw [hlength, callHead_eq_cons]
    exact Nat.zero_lt_succ _
  exact Nat.lt_of_le_of_lt hbehind (Nat.lt_add_of_pos_right hpos)

theorem restOfLine_of_notMem {line : Text} (h : '\n' ∉ line) (offset : Nat) :
    restOfLine line offset = line.drop offset := by
  have hrest : '\n' ∉ line.drop offset := fun hmem => h (List.mem_of_mem_drop hmem)
  have htake := takeWhile_ne_append hrest []
  simpa [restOfLine] using htake

theorem consoleArguments_eq_flatMap {line : Text} (h : '\n' ∉ line) :
    consoleArguments line = (lineOpenings line).flatMap (referencesFrom line) := by
  rw [consoleArguments_eq_flatMap_argumentsAt, lineOpenings, List.flatMap_map]
  apply List.flatMap_congr
  intro hit _
  rw [referencesFrom, restOfLine_of_notMem h, argumentsAt]
  cases splitArguments (line.drop (hit.1 + hit.2.width)) <;> rfl

/-! ## Calls of a text -/

theorem newline_notMem_callHead {gap : Text} (h : '\n' ∉ gap) : '\n' ∉ callHead gap := by
  rw [callHead_eq_cons]
  simp only [List.mem_cons, List.mem_append, not_or]
  exact ⟨by decide, ⟨by decide, h⟩, by decide⟩

theorem opensCall_line_cons_iff {line rest : Text} {opening : Nat} :
    OpensCall (line ++ '\n' :: rest) opening ↔
      OpensCall line opening ∨
        ∃ further, opening = line.length + 1 + further ∧ OpensCall rest further := by
  constructor
  · rintro ⟨place, gap, hgap, hnewline, hstands, rfl⟩
    rcases (standsAt_line_cons_iff (newline_notMem_callHead hnewline)).mp hstands with
      hfirst | ⟨further, rfl, hbehind⟩
    · exact .inl ⟨place, gap, hgap, hnewline, hfirst, rfl⟩
    · exact .inr ⟨_, Nat.add_assoc .., further, gap, hgap, hnewline, hbehind, rfl⟩
  · rintro (⟨place, gap, hgap, hnewline, hstands, rfl⟩ |
      ⟨_, rfl, place, gap, hgap, hnewline, hstands, rfl⟩)
    · exact ⟨place, gap, hgap, hnewline, hstands.append, rfl⟩
    · refine ⟨line.length + 1 + place, gap, hgap, hnewline, ?_, (Nat.add_assoc ..).symm⟩
      exact (standsAt_line_cons_iff (newline_notMem_callHead hnewline)).mpr
        (.inr ⟨place, rfl, hstands⟩)

theorem OpensCall.le_length {text : Text} {opening : Nat} (h : OpensCall text opening) :
    opening ≤ text.length := by
  obtain ⟨place, gap, -, -, hstands, rfl⟩ := h
  exact hstands.stop_le

theorem referencesFrom_line_cons {line : Text} (hline : '\n' ∉ line) (rest : Text) {opening : Nat}
    (h : opening ≤ line.length) :
    referencesFrom (line ++ '\n' :: rest) opening = referencesFrom line opening := by
  have hdrop : '\n' ∉ line.drop opening := fun hmem => hline (List.mem_of_mem_drop hmem)
  have hrest : restOfLine (line ++ '\n' :: rest) opening = restOfLine line opening := by
    rw [restOfLine_of_notMem hline, restOfLine, List.drop_append_of_le_length h,
      takeWhile_ne_append hdrop, List.takeWhile_cons_of_neg (by simp), List.append_nil]
  rw [referencesFrom, referencesFrom, hrest]

theorem argumentOffsets_add (distance start : Nat) (raws : List Text) :
    argumentOffsets (distance + start) raws =
      (argumentOffsets start raws).map fun argument => (argument.1, distance + argument.2) := by
  induction raws generalizing start with
  | nil => rfl
  | cons raw others ih =>
    have hothers := ih (start + raw.length + 1)
    simp only [← Nat.add_assoc] at hothers
    simp only [argumentOffsets, List.map_cons, hothers]

theorem bareArgument?_add (raw : Text) (distance offset : Nat) :
    bareArgument? raw (distance + offset) =
      (bareArgument? raw offset).map (·.shift distance) := by
  simp only [bareArgument?, Nat.add_assoc]
  split <;> rfl

theorem referencesFrom_behind_line (line rest : Text) (further : Nat) :
    referencesFrom (line ++ '\n' :: rest) (line.length + 1 + further) =
      (referencesFrom rest further).map (·.shift (line.length + 1)) := by
  rw [referencesFrom, restOfLine, drop_line_cons, argumentOffsets_add, List.filterMap_map,
    referencesFrom, List.map_filterMap]
  simp only [Function.comp_def, bareArgument?_add]
  rfl

/-- The references of a script are those of its calls, call by call in the order in which the
calls open. -/
theorem exists_openings (text : Text) :
    ∃ openings : List Nat, openings.Pairwise (· < ·) ∧
      (∀ opening, opening ∈ openings ↔ OpensCall text opening) ∧
      consoleReferences text = openings.flatMap (referencesFrom text) := by
  induction text using line_induction with
  | last line hline =>
    refine ⟨lineOpenings line, pairwise_lineOpenings line, fun _ => mem_lineOpenings_iff hline, ?_⟩
    rw [consoleReferences_of_notMem hline, consoleArguments_eq_flatMap hline]
  | cons line rest hline ih =>
    obtain ⟨openings, horder, hmem, hreferences⟩ := ih
    refine ⟨lineOpenings line ++ openings.map (line.length + 1 + ·), ?_, ?_, ?_⟩
    · rw [List.pairwise_append, List.pairwise_map]
      refine ⟨pairwise_lineOpenings line, horder.imp fun h => Nat.add_lt_add_left h _, ?_⟩
      intro opening hopening later hlater
      obtain ⟨further, -, rfl⟩ := List.mem_map.mp hlater
      have hle := ((mem_lineOpenings_iff hline).mp hopening).le_length
      omega
    · intro opening
      rw [List.mem_append, mem_lineOpenings_iff hline, List.mem_map, opensCall_line_cons_iff]
      simp only [hmem, eq_comm, and_comm]
    · rw [consoleReferences_append_cons hline, consoleArguments_eq_flatMap hline, hreferences,
        List.flatMap_append, List.flatMap_map, List.map_flatMap]
      simp only [referencesFrom_behind_line]
      congr 1
      apply List.flatMap_congr
      intro opening hopening
      have hle := ((mem_lineOpenings_iff hline).mp hopening).le_length
      exact (referencesFrom_line_cons hline rest hle).symm

/-! ## References of one call -/

theorem bounds_of_bareArgument? {raw : Text} {offset : Nat} {reference : Reference}
    (h : bareArgument? raw offset = some reference) :
    offset ≤ reference.offset ∧ reference.stop ≤ offset + raw.length := by
  simp only [bareArgument?] at h
  split at h
  · obtain rfl := Option.some.inj h
    have hle := (standsAt_trim raw).stop_le
    simp only [Reference.stop]
    omega
  · contradiction

theorem le_of_mem_argumentOffsets {start : Nat} {raws : List Text} {argument : Text × Nat}
    (h : argument ∈ argumentOffsets start raws) : start ≤ argument.2 := by
  obtain ⟨raw, offset⟩ := argument
  obtain ⟨distance, rfl, -⟩ := standsAt_of_mem_argumentOffsets h
  exact Nat.le_add_right start distance

theorem pairwise_argumentOffsets (start : Nat) (raws : List Text) :
    (argumentOffsets start raws).Pairwise fun a b => a.2 + a.1.length < b.2 := by
  induction raws generalizing start with
  | nil => exact .nil
  | cons raw others ih =>
    refine .cons ?_ (ih _)
    intro later hlater
    exact le_of_mem_argumentOffsets hlater

theorem opening_le_of_mem_referencesFrom {text : Text} {opening : Nat} {reference : Reference}
    (h : reference ∈ referencesFrom text opening) : opening ≤ reference.offset := by
  obtain ⟨argument, hargument, hreference⟩ := List.mem_filterMap.mp h
  have hstart := le_of_mem_argumentOffsets hargument
  have hoffset := (bounds_of_bareArgument? hreference).1
  exact Nat.le_trans hstart hoffset

theorem pairwise_referencesFrom (text : Text) (opening : Nat) :
    (referencesFrom text opening).Pairwise fun r s => r.offset < s.offset := by
  rw [referencesFrom, List.pairwise_filterMap]
  refine (pairwise_argumentOffsets opening _).imp ?_
  intro a b hlt r hr s hs
  have hstop := (bounds_of_bareArgument? hr).2
  have hstart := (bounds_of_bareArgument? hs).1
  simp only [Reference.stop] at hstop
  omega

end SurfaceLint
