import SurfaceLint.Proofs.Names.ConsoleCall

/-!
# References that two calls share

The arguments of a call are read from its parenthesis on, and quotes that open before it are
not seen. Two calls read the same text behind the parenthesis of the second, and both take an
argument for a reference only where they stand outside all brackets. The second parenthesis is
a bracket inside the first call unless that call has it between quotes; so it is only there
that the two can share a reference.
-/

namespace SurfaceLint

namespace ArgumentState

/-- The state behind a character that does not end the call. -/
def next? (state : ArgumentState) (c : Char) : Option ArgumentState :=
  match state.step c with
  | .inside next => some next
  | .comma => some (.code 0)
  | .close => none
  | .broken => none

def isQuoted : ArgumentState → Bool
  | code _ => false
  | quoted _ _ => true
  | escaped _ _ => true

/-- The same state with more brackets open around it. -/
def deeper (more : Nat) : ArgumentState → ArgumentState
  | code depth => code (depth + more)
  | quoted quote depth => quoted quote (depth + more)
  | escaped quote depth => escaped quote (depth + more)

variable {state next : ArgumentState} {c : Char}

theorem next?_of_inside (h : state.step c = .inside next) : state.next? c = some next := by
  rw [next?, h]

theorem next?_of_comma (h : state.step c = .comma) : state.next? c = some (.code 0) := by
  rw [next?, h]

theorem next?_blank (depth : Nat) (h : isBlank c = true) :
    (code depth).next? c = some (code depth) := by
  have hsolid : IsSolid "\"'`([\x7b)]\x7d,".toList := by decide
  have hnotMem := hsolid.notMem h
  apply next?_of_inside
  simp_all [step, isQuote, isOpener, isCloser]

theorem foldlM_next?_blanks (depth : Nat) {gap : Text} (h : IsBlankText gap) :
    gap.foldlM next? (code depth) = some (code depth) := by
  induction gap with
  | nil => rfl
  | cons c gap ih =>
    obtain ⟨hc, hgap⟩ := List.forall_mem_cons.mp h
    rw [List.foldlM_cons, next?_blank depth hc]
    exact ih hgap

theorem next?_parenthesis (h : state.next? '(' = some next) :
    state.isQuoted = true ∨ ∃ depth, next = code (depth + 1) := by
  cases state with
  | code depth => exact .inr ⟨depth, (Option.some.inj h).symm⟩
  | quoted quote depth => exact .inl rfl
  | escaped quote depth => exact .inl rfl

/-- Further brackets around a call do not change what a character does inside it. -/
theorem next?_deeper {more : Nat} (hmore : 0 < more) (h : state.next? c = some next) :
    (state.deeper more).next? c = some (next.deeper more) := by
  cases state with
  | escaped quote depth =>
    obtain rfl := Option.some.inj h
    rfl
  | quoted quote depth =>
    simp only [next?, step, deeper] at h ⊢
    split at h <;> grind [deeper]
  | code depth =>
    simp only [next?, step, deeper] at h ⊢
    grind [deeper]

theorem foldlM_next?_deeper {more : Nat} (hmore : 0 < more) {word : Text}
    (h : word.foldlM next? state = some next) :
    word.foldlM next? (state.deeper more) = some (next.deeper more) := by
  induction word generalizing state with
  | nil =>
    obtain rfl := Option.some.inj h
    rfl
  | cons c word ih =>
    rw [List.foldlM_cons, Option.bind_eq_bind, Option.bind_eq_some_iff] at h
    obtain ⟨middle, hmiddle, hnext⟩ := h
    rw [List.foldlM_cons, next?_deeper hmore hmiddle]
    exact ih hnext

end ArgumentState

/-! ## What is read before a reference -/

/-- Where a reader stands at a place that it reaches inside a call. -/
def readerAt (text : Text) (opening place : Nat) : Option ArgumentState :=
  (text.extract opening place).foldlM ArgumentState.next? (.code 0)

/-- A place stands between quotes inside the arguments of a call. -/
def InQuotes (text : Text) (opening place : Nat) : Prop :=
  ∃ state, readerAt text opening place = some state ∧ state.isQuoted = true

/-- Reading the arguments in front of another one, each with its comma, leads out of all
brackets. -/
theorem read_of_splitArgumentsFrom {state : ArgumentState} {text raw : Text}
    {left right : List Text} (h : splitArgumentsFrom state text = some (left ++ raw :: right)) :
    left.flatMap (· ++ [',']) ++ raw <+: text ∧
      (left.flatMap (· ++ [','])).foldlM ArgumentState.next? state =
        some (if left = [] then state else .code 0) := by
  induction text generalizing state left raw with
  | nil => simp [splitArgumentsFrom] at h
  | cons c text ih =>
    simp only [splitArgumentsFrom] at h
    split at h
    · rename_i next hstep
      obtain ⟨shorter, hshorter, hraws⟩ := Option.map_eq_some_iff.mp h
      obtain ⟨first, others, rfl⟩ :=
        List.exists_cons_of_ne_nil (eq_of_splitArgumentsFrom hshorter).1
      rw [List.modifyHead_cons] at hraws
      cases left with
      | nil =>
        obtain ⟨rfl, rfl⟩ := List.cons.inj hraws
        have hnone : splitArgumentsFrom next text = some ([] ++ first :: others) := hshorter
        exact ⟨List.cons_prefix_cons.mpr ⟨rfl, (ih hnone).1⟩, rfl⟩
      | cons whole left =>
        obtain ⟨rfl, rfl⟩ := List.cons.inj hraws
        have hmore : splitArgumentsFrom next text = some ((first :: left) ++ raw :: right) :=
          hshorter
        obtain ⟨hbegins, hread⟩ := ih hmore
        refine ⟨List.cons_prefix_cons.mpr ⟨rfl, hbegins⟩, ?_⟩
        simp only [List.flatMap_cons, List.cons_append, List.foldlM_cons,
          ArgumentState.next?_of_inside hstep]
        exact hread
    · rename_i hstep
      obtain ⟨later, hlater, hraws⟩ := Option.map_eq_some_iff.mp h
      obtain rfl := ArgumentState.eq_comma_of_step hstep
      cases left with
      | nil =>
        obtain ⟨rfl, rfl⟩ := List.cons.inj hraws
        exact ⟨List.nil_prefix, rfl⟩
      | cons whole left =>
        obtain ⟨rfl, rfl⟩ := List.cons.inj hraws
        obtain ⟨hbegins, hread⟩ := ih hlater
        refine ⟨List.cons_prefix_cons.mpr ⟨rfl, hbegins⟩, ?_⟩
        rw [ite_self] at hread
        simp only [List.flatMap_cons, List.nil_append, List.cons_append, List.foldlM_cons,
          ArgumentState.next?_of_comma hstep]
        exact hread
    · obtain ⟨rfl, rfl, rfl⟩ : left = [] ∧ raw = [] ∧ right = [] := by
        have hraws := Option.some.inj h
        cases left <;> simp_all
      exact ⟨List.nil_prefix, rfl⟩
    · contradiction

theorem exists_left_of_mem_argumentOffsets {start : Nat} {raws : List Text}
    {argument : Text × Nat} (h : argument ∈ argumentOffsets start raws) :
    ∃ left right, raws = left ++ argument.1 :: right ∧
      argument.2 = start + (left.flatMap (· ++ [','])).length := by
  induction raws generalizing start with
  | nil => simp [argumentOffsets] at h
  | cons raw others ih =>
    rcases List.mem_cons.mp h with rfl | h
    · exact ⟨[], others, rfl, rfl⟩
    · obtain ⟨left, right, rfl, hoffset⟩ := ih h
      refine ⟨raw :: left, right, rfl, ?_⟩
      rw [hoffset]
      simp
      omega

/-- A call takes an argument for a reference where it stands outside all brackets. -/
theorem readerAt_of_mem_referencesFrom {text : Text} {opening : Nat} {reference : Reference}
    (h : reference ∈ referencesFrom text opening) :
    readerAt text opening reference.offset = some (.code 0) := by
  obtain ⟨argument, hargument, hreference⟩ := List.mem_filterMap.mp h
  cases hsplit : splitArguments (restOfLine text opening) with
  | none => simp [hsplit, argumentOffsets] at hargument
  | some raws =>
    rw [hsplit, Option.getD_some] at hargument
    obtain ⟨left, right, rfl, hoffset⟩ := exists_left_of_mem_argumentOffsets hargument
    obtain ⟨hbegins, hread⟩ := read_of_splitArgumentsFrom hsplit
    rw [ite_self] at hread
    have hgap : IsBlankText (argument.1.takeWhile isBlank) := fun c hc => List.mem_takeWhile_imp hc
    have hstart : reference.offset = opening +
        (left.flatMap (· ++ [',']) ++ argument.1.takeWhile isBlank).length := by
      simp only [bareArgument?] at hreference
      split at hreference
      · obtain rfl := Option.some.inj hreference
        rw [hoffset, List.length_append, Nat.add_assoc]
      · contradiction
    have hdrop : left.flatMap (· ++ [',']) ++ argument.1.takeWhile isBlank <+:
        text.drop opening := by
      refine List.IsPrefix.trans ?_ (hbegins.trans (List.takeWhile_prefix _))
      exact (List.prefix_append_right_inj _).mpr (List.takeWhile_prefix _)
    have hextract : text.extract opening reference.offset =
        left.flatMap (· ++ [',']) ++ argument.1.takeWhile isBlank := by
      rw [List.extract_eq_take_drop, hstart, Nat.add_sub_cancel_left]
      exact (List.prefix_iff_eq_take.mp hdrop).symm
    rw [readerAt, hextract, List.foldlM_append, hread]
    exact ArgumentState.foldlM_next?_blanks 0 hgap

/-! ## Two calls -/

theorem extract_append_extract (text : Text) {a b c : Nat} (hab : a ≤ b) (hbc : b ≤ c) :
    text.extract a b ++ text.extract b c = text.extract a c := by
  have hlength : c - a = (b - a) + (c - b) := by omega
  have hdrop : text.drop b = (text.drop a).drop (b - a) := by
    rw [List.drop_drop, Nat.add_sub_cancel' hab]
  rw [List.extract_eq_take_drop, List.extract_eq_take_drop, List.extract_eq_take_drop, hlength,
    List.take_add, hdrop]

theorem OpensCall.extract_parenthesis {text : Text} {opening : Nat} (h : OpensCall text opening) :
    text.extract (opening - 1) opening = ['('] := by
  obtain ⟨place, gap, -, -, hstands, rfl⟩ := h
  have hlast : StandsAt (callHead gap) ("console.log".toList ++ gap).length ['('] :=
    ⟨_, [], (List.append_nil _).symm, rfl⟩
  have hextract := (hstands.trans hlast).extract_eq
  have hlength : (callHead gap).length = ("console.log".toList ++ gap).length + 1 :=
    List.length_append
  rwa [hlength, ← Nat.add_assoc, Nat.add_sub_cancel]

/-- If two calls share a reference, the parenthesis of the later one stands between quotes in
the arguments of the earlier one. -/
theorem inQuotes_of_shared {text : Text} {first second : Nat} {reference : Reference}
    (hlt : first < second) (hopens : OpensCall text second)
    (hfirst : reference ∈ referencesFrom text first)
    (hsecond : reference ∈ referencesFrom text second) : InQuotes text first (second - 1) := by
  have hle := opening_le_of_mem_referencesFrom hsecond
  -- the first call reads up to the second parenthesis, this parenthesis and what both read
  have hread := readerAt_of_mem_referencesFrom hfirst
  rw [readerAt, ← extract_append_extract text (Nat.le_of_lt hlt) hle,
    ← extract_append_extract text (Nat.le_sub_one_of_lt hlt) (Nat.sub_le second 1),
    hopens.extract_parenthesis, List.foldlM_append, List.foldlM_append] at hread
  simp only [Option.bind_eq_bind, Option.bind_eq_some_iff, List.foldlM_cons, List.foldlM_nil,
    Option.pure_def, Option.some.injEq] at hread
  obtain ⟨_, ⟨before, hbefore, inside, hopen, rfl⟩, hend⟩ := hread
  refine ⟨before, hbefore, ?_⟩
  rcases ArgumentState.next?_parenthesis hopen with hquoted | ⟨depth, rfl⟩
  · exact hquoted
  · -- outside quotes the first call would still stand inside the second parenthesis
    exfalso
    have hdeeper := ArgumentState.foldlM_next?_deeper (Nat.zero_lt_succ depth)
      (readerAt_of_mem_referencesFrom hsecond)
    simp only [ArgumentState.deeper, Nat.zero_add, hend] at hdeeper
    simp at hdeeper

end SurfaceLint
