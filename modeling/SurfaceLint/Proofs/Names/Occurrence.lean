import Mathlib.Data.Option.Basic
import SurfaceLint.Dialect
import SurfaceLint.Names.Declaration
import SurfaceLint.Proofs.Names.FunctionPattern
import SurfaceLint.Proofs.Names.PrintPattern
import SurfaceLint.Proofs.Text.LineIndex
import SurfaceLint.Proofs.Text.Trim

/-!
# Names stand where they are reported

A function declaration covers the keyword, a gap and its name. A reference covers its name,
whether it was read by the pattern of a printing call or cut out of the arguments of a
`console.log` call, where the place is computed from the lengths of the raw arguments and
the blanks in front of the name.
-/

namespace SurfaceLint

/-! ## Function declarations -/

theorem eq_of_functionHead? {before : Option Char} {text : Text} {hit : Hit FunctionHead}
    (h : functionHead? before text = some hit) :
    ∃ gap rest, gap ≠ [] ∧ (∀ c ∈ gap, isBlank c = true) ∧
      isIdentifier hit.value.name = true ∧
      text = "function".toList ++ gap ++ hit.value.name ++ rest ∧
      hit.value.width = ("function".toList ++ gap ++ hit.value.name).length := by
  obtain ⟨-, gap, name, space, rest, hne, hgap, hname, -, rfl, rfl⟩ :=
    functionHead?_eq_some_iff.mp h
  exact ⟨gap, space ++ '(' :: rest, hne, hgap, hname, by rw [List.append_assoc _ space], rfl⟩

theorem FunctionDeclaration.standsAt {text : Text} {declaration : FunctionDeclaration}
    (h : declaration ∈ functionDeclarations text) :
    ∃ gap, gap ≠ [] ∧ (∀ c ∈ gap, isBlank c = true) ∧
      isIdentifier declaration.name = true ∧
      StandsAt text declaration.start ("function".toList ++ gap ++ declaration.name) ∧
      declaration.stop =
        declaration.start + ("function".toList ++ gap ++ declaration.name).length := by
  obtain ⟨⟨offset, head⟩, hmem, rfl⟩ := List.mem_map.mp h
  obtain ⟨before, rest, hit, rfl, rfl, hhit, rfl⟩ := exists_of_mem_scan hmem
  obtain ⟨gap, tail, hne, hblank, hidentifier, rfl, hwidth⟩ := eq_of_functionHead? hhit
  refine ⟨gap, hne, hblank, hidentifier, ⟨before, tail, by simp, rfl⟩, ?_⟩
  change before.length + hit.value.width = _
  rw [hwidth]

/-! ## Arguments of printing calls -/

/-- A reference is an identifier and stands at its offset. -/
structure Reference.Stands (text : Text) (reference : Reference) : Prop where
  isIdentifier : isIdentifier reference.name = true
  standsAt : StandsAt text reference.offset reference.name

theorem Reference.Stands.bounds {text : Text} {reference : Reference}
    (h : reference.Stands text) :
    reference.offset ≤ text.length ∧ reference.stop ≤ text.length := by
  have hstop := h.standsAt.stop_le
  simp only [Reference.stop]
  omega

theorem stands_of_printCall? {before : Option Char} {text : Text} {hit : Hit Reference}
    (h : printCall? before text = some hit) : hit.value.Stands text := by
  obtain ⟨method, -, gap, space, name, tail, rest, -, -, hname, -, rfl, rfl⟩ :=
    printCall?_eq_some_iff.mp h
  exact ⟨hname, printHead method gap space, tail ++ ')' :: rest, by simp, rfl⟩

theorem stands_of_mem_printReferences {text : Text} {reference : Reference}
    (h : reference ∈ printReferences text) : reference.Stands text := by
  obtain ⟨⟨offset, value⟩, hmem, rfl⟩ := List.mem_map.mp h
  obtain ⟨before, rest, hit, rfl, rfl, hhit, rfl⟩ := exists_of_mem_scan hmem
  have hstands := stands_of_printCall? hhit
  exact ⟨hstands.isIdentifier, hstands.standsAt.suffix⟩

/-! ## Arguments of `console.log` -/

theorem eq_of_consoleCall? {before : Option Char} {text : Text} {hit : Hit CallHead}
    (h : consoleCall? before text = some hit) :
    ∃ head, text = head ++ hit.value.inside ∧ hit.value.width = head.length := by
  simp only [consoleCall?, Option.bind_eq_bind, Option.bind_eq_some_iff, Option.pure_def,
    Option.some.injEq] at h
  obtain ⟨rest, hcall, inside, hopen, rfl⟩ := h
  obtain ⟨gap, -, rfl⟩ := eq_of_afterMark? hopen
  have htext : text = ("console.log".toList ++ gap ++ ['(']) ++ inside := by
    rw [after?_eq_some_iff.mp hcall]
    simp
  refine ⟨_, htext, ?_⟩
  change taken text inside = _
  rw [htext, taken_append]

theorem ArgumentState.eq_comma_of_step {state : ArgumentState} {c : Char}
    (h : state.step c = .comma) : c = ',' := by
  cases state <;> simp only [step] at h <;> grind

theorem ArgumentState.eq_paren_of_step {state : ArgumentState} {c : Char}
    (h : state.step c = .close) : c = ')' := by
  cases state <;> simp only [step] at h <;> grind

/-- The raw arguments with commas between them make up the text up to the end of the call. -/
theorem eq_of_splitArgumentsFrom {state : ArgumentState} {text : Text} {raws : List Text}
    (h : splitArgumentsFrom state text = some raws) :
    raws ≠ [] ∧ ∃ rest, text = [','].intercalate raws ++ ')' :: rest := by
  induction text generalizing state raws with
  | nil => simp [splitArgumentsFrom] at h
  | cons c text ih =>
    simp only [splitArgumentsFrom] at h
    split at h
    · obtain ⟨shorter, hshorter, rfl⟩ := Option.map_eq_some_iff.mp h
      obtain ⟨hne, rest, rfl⟩ := ih hshorter
      obtain ⟨raw, others, rfl⟩ := List.exists_cons_of_ne_nil hne
      refine ⟨by simp, rest, ?_⟩
      simp [List.intercalate_cons_cons_left]
    · rename_i hstep
      obtain ⟨others, hothers, rfl⟩ := Option.map_eq_some_iff.mp h
      obtain ⟨hne, rest, rfl⟩ := ih hothers
      refine ⟨by simp, rest, ?_⟩
      rw [List.intercalate_cons_of_ne_nil hne, ArgumentState.eq_comma_of_step hstep]
      simp
    · rename_i hstep
      obtain rfl := Option.some.inj h
      refine ⟨by simp, text, ?_⟩
      simp [ArgumentState.eq_paren_of_step hstep]
    · contradiction

/-- Counting the raw arguments and the commas leads to where each argument stands. -/
theorem standsAt_of_mem_argumentOffsets {raws : List Text} {raw : Text} {start offset : Nat}
    (h : (raw, offset) ∈ argumentOffsets start raws) :
    ∃ distance, offset = start + distance ∧ StandsAt ([','].intercalate raws) distance raw := by
  induction raws generalizing start with
  | nil => simp [argumentOffsets] at h
  | cons first others ih =>
    simp only [argumentOffsets, List.mem_cons] at h
    rcases h with h | h
    · obtain ⟨rfl, rfl⟩ := Prod.mk.inj h
      refine ⟨0, rfl, ?_⟩
      cases others with
      | nil => exact ⟨[], [], by simp, rfl⟩
      | cons second others =>
        exact ⟨[], ',' :: [','].intercalate (second :: others), by simp, rfl⟩
    · obtain ⟨distance, rfl, hstands⟩ := ih h
      have hne : others ≠ [] := by
        rintro rfl
        simp [argumentOffsets] at h
      refine ⟨(first ++ [',']).length + distance, by simp; omega, ?_⟩
      rw [List.intercalate_cons_of_ne_nil hne]
      exact hstands.suffix

theorem stands_of_bareArgument? {text raw : Text} {offset : Nat} {reference : Reference}
    (hraw : StandsAt text offset raw) (h : bareArgument? raw offset = some reference) :
    reference.Stands text := by
  simp only [bareArgument?] at h
  split at h
  · rename_i hidentifier
    obtain rfl := Option.some.inj h
    exact ⟨hidentifier, hraw.trans (standsAt_trim raw)⟩
  · contradiction

theorem stands_of_mem_callReferences {before head : Text} {call : CallHead}
    (hwidth : call.width = head.length) {reference : Reference}
    (h : reference ∈ callReferences before.length call) :
    reference.Stands (before ++ (head ++ call.inside)) := by
  simp only [callReferences] at h
  split at h
  · simp at h
  · rename_i raws hraws
    obtain ⟨⟨raw, offset⟩, hmem, hreference⟩ := List.mem_filterMap.mp h
    obtain ⟨-, rest, hinside⟩ := eq_of_splitArgumentsFrom hraws
    obtain ⟨distance, rfl, hstands⟩ := standsAt_of_mem_argumentOffsets hmem
    refine stands_of_bareArgument? ?_ hreference
    rw [hwidth, ← List.length_append, ← List.append_assoc, hinside]
    exact hstands.append.suffix

theorem stands_of_mem_consoleArguments {line : Text} {reference : Reference}
    (h : reference ∈ consoleArguments line) : reference.Stands line := by
  obtain ⟨⟨offset, call⟩, hmem, hreference⟩ := List.mem_flatMap.mp h
  obtain ⟨before, rest, hit, rfl, rfl, hhit, rfl⟩ := exists_of_mem_scan hmem
  obtain ⟨head, rfl, hwidth⟩ := eq_of_consoleCall? hhit
  exact stands_of_mem_callReferences hwidth hreference

@[simp] theorem Reference.shift_shift (a b : Nat) (reference : Reference) :
    (reference.shift b).shift a = reference.shift (a + b) := by
  simp [Reference.shift, Nat.add_assoc]

theorem lineReferences_eq_map_shift (start : Nat) (lines : List Text) :
    lineReferences start lines = (lineReferences 0 lines).map (·.shift start) := by
  suffices h : ∀ a b, lineReferences (a + b) lines = (lineReferences b lines).map (·.shift a) from
    h start 0
  induction lines with
  | nil => intro a b; rfl
  | cons line rest ih =>
    intro a b
    have hrest := ih a (b + (line.length + 1))
    simp only [lineReferences, List.map_append, List.map_map, Function.comp_def,
      Reference.shift_shift, Nat.add_assoc, hrest]

theorem consoleReferences_of_notMem {line : Text} (h : '\n' ∉ line) :
    consoleReferences line = consoleArguments line := by
  have hshift : ∀ reference : Reference, reference.shift 0 = reference := by
    intro reference
    simp [Reference.shift]
  simp [consoleReferences, splitLines_of_notMem h, lineReferences, hshift]

theorem consoleReferences_append_cons {line : Text} (h : '\n' ∉ line) (rest : Text) :
    consoleReferences (line ++ '\n' :: rest) =
      consoleArguments line ++ (consoleReferences rest).map (·.shift (line.length + 1)) := by
  rw [← consoleReferences_of_notMem h]
  simp only [consoleReferences, splitLines_append_cons h, splitLines_of_notMem h, lineReferences,
    List.append_nil]
  rw [lineReferences_eq_map_shift, Nat.zero_add]

theorem consoleReferences_append_newline_cons (text rest : Text) :
    consoleReferences (text ++ '\n' :: rest) =
      consoleReferences text ++ (consoleReferences rest).map (·.shift (text.length + 1)) := by
  induction text using line_induction with
  | last line hline => rw [consoleReferences_append_cons hline, consoleReferences_of_notMem hline]
  | cons line others hline ih =>
    have hlength : (line ++ '\n' :: others).length + 1 =
        line.length + 1 + (others.length + 1) := by
      simp only [List.length_append, List.length_cons]
      omega
    rw [List.append_assoc, List.cons_append, consoleReferences_append_cons hline, ih,
      consoleReferences_append_cons hline, hlength]
    simp only [List.map_append, List.map_map, Function.comp_def, Reference.shift_shift,
      List.append_assoc]

theorem stands_of_mem_consoleReferences {text : Text} {reference : Reference}
    (h : reference ∈ consoleReferences text) : reference.Stands text := by
  induction text using line_induction generalizing reference with
  | last line hline =>
    rw [consoleReferences_of_notMem hline] at h
    exact stands_of_mem_consoleArguments h
  | cons line rest hline ih =>
    rw [consoleReferences_append_cons hline] at h
    rcases List.mem_append.mp h with h | h
    · have hstands := stands_of_mem_consoleArguments h
      exact ⟨hstands.isIdentifier, hstands.standsAt.append⟩
    · obtain ⟨inner, hinner, rfl⟩ := List.mem_map.mp h
      have hstands : StandsAt (line ++ ['\n'] ++ rest) ((line ++ ['\n']).length + inner.offset)
          inner.name := (ih hinner).standsAt.suffix
      exact ⟨(ih hinner).isIdentifier, by simpa [Reference.shift] using hstands⟩

theorem Profile.stands_of_mem_references {profile : Profile} {text : Text}
    {reference : Reference} (h : reference ∈ profile.references text) :
    reference.Stands text := by
  cases profile with
  | script => exact stands_of_mem_consoleReferences h
  | java => exact stands_of_mem_printReferences h

end SurfaceLint
