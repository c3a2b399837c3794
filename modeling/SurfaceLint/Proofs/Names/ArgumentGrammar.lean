import Mathlib.Data.List.Basic
import SurfaceLint.Proofs.Names.Occurrence

/-!
# The grammar of call arguments

An argument is a sequence of items: plain characters, quoted literals, and groups in brackets,
in which commas are allowed as well. The arguments of a call are such sequences with commas
between them and a closing parenthesis behind the last one. The splitter accepts exactly the
texts that begin with such a list and returns its arguments. One direction follows the
grammar and shows that an item leaves the state of the reader as it was; the other follows
the reader and says, for each of its states, what the text still has to complete.
-/

namespace SurfaceLint

/-! ## Items -/

/-- What stands between two quotes: a backslash takes the character behind it along. -/
inductive QuotedBody (quote : Char) : Text → Prop
  | nil : QuotedBody quote []
  | char {c : Char} {rest : Text} : c ≠ quote → c ≠ '\\' → QuotedBody quote rest →
      QuotedBody quote (c :: rest)
  | escape (c : Char) {rest : Text} : QuotedBody quote rest → QuotedBody quote ('\\' :: c :: rest)

/-- A plain character, a quoted literal, or a group of items and commas in brackets, which need
not be of one kind. -/
inductive ArgumentItem : Text → Prop
  | char {c : Char} : isQuote c = false → isOpener c = false → isCloser c = false → c ≠ ',' →
      ArgumentItem [c]
  | literal {quote : Char} {body : Text} : isQuote quote = true → QuotedBody quote body →
      ArgumentItem (quote :: (body ++ [quote]))
  | group {opener closer : Char} {parts : List Text} : isOpener opener = true →
      isCloser closer = true → (∀ part ∈ parts, part ≠ [','] → ArgumentItem part) →
      ArgumentItem (opener :: (parts.flatten ++ [closer]))

/-- A sequence of items. -/
def SelfContained (text : Text) : Prop :=
  ∃ items : List Text, (∀ item ∈ items, ArgumentItem item) ∧ text = items.flatten

/-- A sequence of items and commas. -/
def GroupBody (text : Text) : Prop :=
  ∃ parts : List Text, (∀ part ∈ parts, part ≠ [','] → ArgumentItem part) ∧ text = parts.flatten

/-- A text begins with arguments, commas between them and a closing parenthesis. -/
structure ArgumentList (text : Text) (raws : List Text) (rest : Text) : Prop where
  ne_nil : raws ≠ []
  selfContained : ∀ raw ∈ raws, SelfContained raw
  eq : text = [','].intercalate raws ++ ')' :: rest

theorem SelfContained.nil : SelfContained [] :=
  ⟨[], by simp, rfl⟩

theorem SelfContained.item_append {item text : Text} (hitem : ArgumentItem item)
    (h : SelfContained text) : SelfContained (item ++ text) := by
  obtain ⟨items, hitems, rfl⟩ := h
  exact ⟨item :: items, List.forall_mem_cons.mpr ⟨hitem, hitems⟩, rfl⟩

theorem GroupBody.nil : GroupBody [] :=
  ⟨[], by simp, rfl⟩

theorem GroupBody.part_append {part text : Text} (hpart : part ≠ [','] → ArgumentItem part)
    (h : GroupBody text) : GroupBody (part ++ text) := by
  obtain ⟨parts, hparts, rfl⟩ := h
  exact ⟨part :: parts, List.forall_mem_cons.mpr ⟨hpart, hparts⟩, rfl⟩

theorem GroupBody.argumentItem {opener closer : Char} {body : Text} (h : GroupBody body)
    (hopener : isOpener opener = true) (hcloser : isCloser closer = true) :
    ArgumentItem (opener :: (body ++ [closer])) := by
  obtain ⟨parts, hparts, rfl⟩ := h
  exact .group hopener hcloser hparts

/-! ## Classes of characters -/

theorem isQuote_eq_false_of_isOpener {c : Char} (h : isOpener c = true) : isQuote c = false := by
  have hc : c = '(' ∨ c = '[' ∨ c = '\x7b' := by simpa [isOpener] using h
  rcases hc with rfl | rfl | rfl <;> decide

theorem class_of_isCloser {c : Char} (h : isCloser c = true) :
    isQuote c = false ∧ isOpener c = false := by
  have hc : c = ')' ∨ c = ']' ∨ c = '\x7d' := by simpa [isCloser] using h
  rcases hc with rfl | rfl | rfl <;> decide

theorem ne_backslash_of_isQuote {c : Char} (h : isQuote c = true) : c ≠ '\\' := by
  rintro rfl
  contradiction

/-! ## From the grammar to the reader -/

/-- Reading a word leads from one state to another and ends no argument on the way. -/
def ArgumentState.Passes (state : ArgumentState) (word : Text) (next : ArgumentState) : Prop :=
  ∀ rest, splitArgumentsFrom state (word ++ rest) =
    (splitArgumentsFrom next rest).map (·.modifyHead (word ++ ·))

namespace ArgumentState

variable {state next last : ArgumentState} {word more : Text}

theorem passes_nil (state : ArgumentState) : state.Passes [] state := by
  intro rest
  have hsame : (fun raws : List Text => raws.modifyHead ([] ++ ·)) = id := by
    funext raws
    cases raws <;> rfl
  rw [hsame, Option.map_id, List.nil_append, id]

theorem Passes.append (h : state.Passes word next) (hmore : next.Passes more last) :
    state.Passes (word ++ more) last := by
  intro rest
  rw [List.append_assoc, h, hmore, Option.map_map]
  congr 1
  funext raws
  simp [List.modifyHead_modifyHead, Function.comp_def]

theorem passes_of_step {c : Char} (h : state.step c = .inside next) : state.Passes [c] next := by
  intro rest
  simp only [List.cons_append, List.nil_append, splitArgumentsFrom, h]

theorem Passes.cons {c : Char} (h : state.step c = .inside next) (hword : next.Passes word last) :
    state.Passes (c :: word) last :=
  (passes_of_step h).append hword

theorem passes_flatten {parts : List Text} (h : ∀ part ∈ parts, state.Passes part state) :
    state.Passes parts.flatten state := by
  induction parts with
  | nil => exact passes_nil state
  | cons part parts ih =>
    obtain ⟨hpart, hparts⟩ := List.forall_mem_cons.mp h
    exact hpart.append (ih hparts)

end ArgumentState

theorem QuotedBody.passes {quote : Char} {body : Text} (h : QuotedBody quote body) (depth : Nat) :
    (ArgumentState.quoted quote depth).Passes body (.quoted quote depth) := by
  induction h with
  | nil => exact ArgumentState.passes_nil _
  | char hquote hbackslash _ ih =>
    refine .cons ?_ ih
    rw [ArgumentState.step, if_neg hbackslash, if_neg hquote]
  | escape c _ ih =>
    have hbackslash : (ArgumentState.quoted quote depth).step '\\' =
        .inside (.escaped quote depth) := by
      rw [ArgumentState.step, if_pos rfl]
    have hescaped : (ArgumentState.escaped quote depth).step c = .inside (.quoted quote depth) :=
      rfl
    exact .cons hbackslash (.cons hescaped ih)

/-- An item is read inside one argument, and what was open before it is open after it. -/
theorem ArgumentItem.passes {item : Text} (h : ArgumentItem item) (depth : Nat) :
    (ArgumentState.code depth).Passes item (.code depth) := by
  induction h generalizing depth with
  | char hquote hopener hcloser hcomma =>
    apply ArgumentState.passes_of_step
    simp [ArgumentState.step, hquote, hopener, hcloser, hcomma]
  | @literal quote body hquote hbody =>
    have hopens : (ArgumentState.code depth).step quote = .inside (.quoted quote depth) := by
      simp [ArgumentState.step, hquote]
    have hcloses : (ArgumentState.quoted quote depth).step quote = .inside (.code depth) := by
      rw [ArgumentState.step, if_neg (ne_backslash_of_isQuote hquote), if_pos rfl]
    exact .cons hopens ((hbody.passes depth).append (ArgumentState.passes_of_step hcloses))
  | @group opener closer parts hopener hcloser _ ih =>
    have hopens : (ArgumentState.code depth).step opener = .inside (.code (depth + 1)) := by
      simp [ArgumentState.step, isQuote_eq_false_of_isOpener hopener, hopener]
    have hcloses : (ArgumentState.code (depth + 1)).step closer = .inside (.code depth) := by
      simp [ArgumentState.step, class_of_isCloser hcloser, hcloser]
    have hcomma : (ArgumentState.code (depth + 1)).step ',' = .inside (.code (depth + 1)) := by
      simp [ArgumentState.step, isQuote, isOpener, isCloser]
    have hparts : (ArgumentState.code (depth + 1)).Passes parts.flatten (.code (depth + 1)) := by
      apply ArgumentState.passes_flatten
      intro part hpart
      by_cases heq : part = [',']
      · subst heq
        exact ArgumentState.passes_of_step hcomma
      · exact ih part hpart heq (depth + 1)
    exact .cons hopens (hparts.append (ArgumentState.passes_of_step hcloses))

theorem SelfContained.passes {raw : Text} (h : SelfContained raw) :
    (ArgumentState.code 0).Passes raw (.code 0) := by
  obtain ⟨items, hitems, rfl⟩ := h
  exact ArgumentState.passes_flatten fun item hitem => (hitems item hitem).passes 0

theorem ArgumentList.splitArguments_eq {text rest : Text} {raws : List Text}
    (h : ArgumentList text raws rest) : splitArguments text = some raws := by
  obtain ⟨hne, hraws, rfl⟩ := h
  unfold splitArguments
  induction raws with
  | nil => contradiction
  | cons raw others ih =>
    obtain ⟨hraw, hothers⟩ := List.forall_mem_cons.mp hraws
    cases others with
    | nil =>
      have hend : splitArgumentsFrom (.code 0) (')' :: rest) = some [[]] := rfl
      simp [hraw.passes (')' :: rest), hend]
    | cons next others =>
      have hcomma : ∀ behind, splitArgumentsFrom (.code 0) (',' :: behind) =
          (splitArgumentsFrom (.code 0) behind).map ([] :: ·) := fun _ => rfl
      rw [List.intercalate_cons_of_ne_nil (by simp), List.append_assoc, List.append_assoc,
        hraw.passes, List.singleton_append, hcomma, ih (by simp) hothers]
      simp

/-! ## From the reader to the grammar -/

/-- A text that closes a number of open groups, one after the other, and is otherwise a
sequence of items. -/
def ClosesGroups : Nat → Text → Prop
  | 0, text => SelfContained text
  | depth + 1, text =>
    ∃ body closer rest, GroupBody body ∧ isCloser closer = true ∧ text = body ++ closer :: rest ∧
      ClosesGroups depth rest

/-- A text that brings to its end the argument in which the reader stands. -/
def ArgumentState.Completes : ArgumentState → Text → Prop
  | .code depth, text => ClosesGroups depth text
  | .quoted quote depth, text =>
    ∃ body rest, QuotedBody quote body ∧ text = body ++ quote :: rest ∧ ClosesGroups depth rest
  | .escaped quote depth, text =>
    ∃ c body rest, QuotedBody quote body ∧ text = c :: (body ++ quote :: rest) ∧
      ClosesGroups depth rest

theorem ClosesGroups.item_append {depth : Nat} {item text : Text} (hitem : ArgumentItem item)
    (h : ClosesGroups depth text) : ClosesGroups depth (item ++ text) := by
  cases depth with
  | zero => exact SelfContained.item_append hitem h
  | succ depth =>
    obtain ⟨body, closer, rest, hbody, hcloser, rfl, hrest⟩ := h
    exact ⟨item ++ body, closer, rest, hbody.part_append fun _ => hitem, hcloser, by simp, hrest⟩

theorem ClosesGroups.comma_cons {depth : Nat} {text : Text} (h : ClosesGroups (depth + 1) text) :
    ClosesGroups (depth + 1) (',' :: text) := by
  obtain ⟨body, closer, rest, hbody, hcloser, rfl, hrest⟩ := h
  have hcomma : GroupBody ([','] ++ body) := hbody.part_append fun hne => absurd rfl hne
  exact ⟨[','] ++ body, closer, rest, hcomma, hcloser, rfl, hrest⟩

theorem ClosesGroups.opener_cons {depth : Nat} {opener : Char} {text : Text}
    (hopener : isOpener opener = true) (h : ClosesGroups (depth + 1) text) :
    ClosesGroups depth (opener :: text) := by
  obtain ⟨body, closer, rest, hbody, hcloser, rfl, hrest⟩ := h
  have hgroup := hrest.item_append (hbody.argumentItem hopener hcloser)
  simpa using hgroup

theorem ClosesGroups.literal_append {depth : Nat} {quote : Char} {body rest : Text}
    (hquote : isQuote quote = true) (hbody : QuotedBody quote body)
    (h : ClosesGroups depth rest) : ClosesGroups depth (quote :: (body ++ quote :: rest)) := by
  have hliteral := h.item_append (.literal hquote hbody)
  simpa using hliteral

namespace ArgumentState

variable {state next : ArgumentState} {c : Char} {text : Text}

/-- What is to be completed before a character is that character and what is to be completed
behind it. -/
theorem Completes.cons (hstep : state.step c = .inside next) (h : next.Completes text) :
    state.Completes (c :: text) := by
  cases state with
  | escaped quote depth =>
    obtain rfl := ArgumentStep.inside.inj hstep
    obtain ⟨body, rest, hbody, rfl, hrest⟩ := h
    exact ⟨c, body, rest, hbody, rfl, hrest⟩
  | quoted quote depth =>
    simp only [step] at hstep
    split at hstep
    · rename_i hbackslash
      obtain rfl := ArgumentStep.inside.inj hstep
      obtain ⟨d, body, rest, hbody, rfl, hrest⟩ := h
      exact ⟨c :: d :: body, rest, hbackslash ▸ .escape d hbody, rfl, hrest⟩
    · rename_i hbackslash
      split at hstep
      · rename_i hquote
        obtain rfl := ArgumentStep.inside.inj hstep
        exact ⟨[], text, .nil, by rw [hquote]; rfl, h⟩
      · rename_i hquote
        obtain rfl := ArgumentStep.inside.inj hstep
        obtain ⟨body, rest, hbody, rfl, hrest⟩ := h
        exact ⟨c :: body, rest, .char hquote hbackslash hbody, rfl, hrest⟩
  | code depth =>
    simp only [step] at hstep
    split at hstep
    · rename_i hquote
      obtain rfl := ArgumentStep.inside.inj hstep
      obtain ⟨body, rest, hbody, rfl, hrest⟩ := h
      exact ClosesGroups.literal_append hquote hbody hrest
    · rename_i hquote
      split at hstep
      · rename_i hopener
        obtain rfl := ArgumentStep.inside.inj hstep
        exact ClosesGroups.opener_cons hopener h
      · rename_i hopener
        split at hstep
        · rename_i hcloser
          cases depth with
          | zero =>
            simp only at hstep
            split at hstep <;> contradiction
          | succ depth =>
            obtain rfl := ArgumentStep.inside.inj hstep
            exact ⟨[], c, text, .nil, hcloser, rfl, h⟩
        · rename_i hcloser
          split at hstep
          · contradiction
          · rename_i hcomma
            obtain rfl := ArgumentStep.inside.inj hstep
            by_cases hc : c = ','
            · subst hc
              cases depth with
              | zero => exact absurd ⟨rfl, rfl⟩ hcomma
              | succ depth => exact ClosesGroups.comma_cons h
            · have hitem : ArgumentItem [c] :=
                .char (by simpa using hquote) (by simpa using hopener) (by simpa using hcloser) hc
              exact ClosesGroups.item_append hitem h

theorem eq_code_of_step_comma (h : state.step c = .comma) : state = .code 0 := by
  cases state <;> simp only [step] at h <;> grind

theorem eq_code_of_step_close (h : state.step c = .close) : state = .code 0 := by
  cases state <;> simp only [step] at h <;> grind

end ArgumentState

/-- The first piece completes the argument in which the reader stands, and every further one is
an argument of its own. -/
theorem completes_of_splitArgumentsFrom {state : ArgumentState} {text : Text} {raws : List Text}
    (h : splitArgumentsFrom state text = some raws) :
    ∃ first others, raws = first :: others ∧ state.Completes first ∧
      ∀ raw ∈ others, SelfContained raw := by
  induction text generalizing state raws with
  | nil => simp [splitArgumentsFrom] at h
  | cons c text ih =>
    simp only [splitArgumentsFrom] at h
    split at h
    · rename_i next hstep
      obtain ⟨shorter, hshorter, rfl⟩ := Option.map_eq_some_iff.mp h
      obtain ⟨first, others, rfl, hfirst, hothers⟩ := ih hshorter
      exact ⟨c :: first, others, rfl, hfirst.cons hstep, hothers⟩
    · rename_i hstep
      obtain ⟨later, hlater, rfl⟩ := Option.map_eq_some_iff.mp h
      obtain ⟨first, others, rfl, hfirst, hothers⟩ := ih hlater
      obtain rfl := ArgumentState.eq_code_of_step_comma hstep
      exact ⟨[], first :: others, rfl, .nil, List.forall_mem_cons.mpr ⟨hfirst, hothers⟩⟩
    · rename_i hstep
      obtain rfl := Option.some.inj h
      obtain rfl := ArgumentState.eq_code_of_step_close hstep
      exact ⟨[], [], rfl, .nil, by simp⟩
    · contradiction

theorem exists_argumentList {text : Text} {raws : List Text}
    (h : splitArguments text = some raws) : ∃ rest, ArgumentList text raws rest := by
  obtain ⟨hne, rest, htext⟩ := eq_of_splitArgumentsFrom h
  obtain ⟨first, others, rfl, hfirst, hothers⟩ := completes_of_splitArgumentsFrom h
  exact ⟨rest, hne, List.forall_mem_cons.mpr ⟨hfirst, hothers⟩, htext⟩

theorem ArgumentList.unique {text rest rest' : Text} {raws raws' : List Text}
    (h : ArgumentList text raws rest) (h' : ArgumentList text raws' rest') :
    raws' = raws ∧ rest' = rest := by
  obtain rfl : raws' = raws := Option.some.inj (h'.splitArguments_eq.symm.trans h.splitArguments_eq)
  have htail := List.append_cancel_left (h'.eq.symm.trans h.eq)
  exact ⟨rfl, (List.cons.inj htail).2⟩

/-! ## Offsets of arguments -/

/-- The arguments of a call whose parenthesis is opened right before an offset of a line, each
with its own offset. -/
def argumentsAt (line : Text) (start : Nat) : Option (List (Text × Nat)) :=
  (splitArguments (line.drop start)).map (argumentOffsets start)

theorem consoleArguments_eq_flatMap_argumentsAt (line : Text) :
    consoleArguments line = (scan consoleCall? line).flatMap fun hit =>
      ((argumentsAt line (hit.1 + hit.2.width)).getD []).filterMap fun argument =>
        bareArgument? argument.1 argument.2 := by
  apply List.flatMap_congr
  intro entry hmem
  obtain ⟨offset, call⟩ := entry
  obtain ⟨before, rest, hit, rfl, rfl, hhit, rfl⟩ := exists_of_mem_scan hmem
  obtain ⟨head, rfl, hwidth⟩ := eq_of_consoleCall? hhit
  have hinside : (before ++ (head ++ hit.value.inside)).drop (before.length + hit.value.width) =
      hit.value.inside := by
    rw [List.drop_length_add_append, hwidth, List.drop_left]
  simp only [callReferences, argumentsAt, hinside]
  cases splitArguments hit.value.inside <;> rfl

theorem map_fst_argumentOffsets (start : Nat) (raws : List Text) :
    (argumentOffsets start raws).map Prod.fst = raws := by
  induction raws generalizing start with
  | nil => rfl
  | cons raw others ih => rw [argumentOffsets, List.map_cons, ih]

theorem isChain_argumentOffsets (start : Nat) (raws : List Text) :
    (argumentOffsets start raws).IsChain fun a b => b.2 = a.2 + a.1.length + 1 := by
  induction raws generalizing start with
  | nil => exact .nil
  | cons raw others ih =>
    cases others with
    | nil => exact .singleton _
    | cons next others => exact .cons_cons rfl (ih (start + raw.length + 1))

theorem ArgumentList.standsAt {line rest : Text} {start : Nat} {raws : List Text}
    (h : ArgumentList (line.drop start) raws rest) {argument : Text × Nat}
    (hmem : argument ∈ argumentOffsets start raws) : StandsAt line argument.2 argument.1 := by
  obtain ⟨raw, offset⟩ := argument
  obtain ⟨distance, rfl, hstands⟩ := standsAt_of_mem_argumentOffsets hmem
  have hle : start ≤ line.length := by
    apply Nat.le_of_not_lt
    intro hlt
    have heq := h.eq
    rw [List.drop_of_length_le (Nat.le_of_lt hlt)] at heq
    simp at heq
  have htext : StandsAt (line.drop start) distance raw := by
    rw [h.eq]
    exact hstands.append
  have hline : StandsAt (line.take start ++ line.drop start)
      ((line.take start).length + distance) raw := htext.suffix
  rwa [List.take_append_drop, List.length_take_of_le hle] at hline

/-- The splitter returns a result exactly on the lists of the grammar. Such a list is unique,
and the result pairs its arguments with their offsets: the first argument starts where the
call was opened, and each further one behind the comma behind the one before. -/
theorem argumentsAt_iff_argumentList (line : Text) (start : Nat) :
    ((argumentsAt line start).isSome = true ↔
      ∃ raws rest, ArgumentList (line.drop start) raws rest) ∧
    ∀ raws rest, ArgumentList (line.drop start) raws rest →
      (∀ raws' rest', ArgumentList (line.drop start) raws' rest' → raws' = raws ∧ rest' = rest) ∧
      ∃ arguments, argumentsAt line start = some arguments ∧ arguments.map Prod.fst = raws ∧
        (∀ argument ∈ arguments.head?, argument.2 = start) ∧
        (arguments.IsChain fun a b => b.2 = a.2 + a.1.length + 1) ∧
        ∀ argument ∈ arguments,
          line.extract argument.2 (argument.2 + argument.1.length) = argument.1 := by
  refine ⟨⟨?_, ?_⟩, ?_⟩
  · intro h
    rw [argumentsAt, Option.isSome_map] at h
    obtain ⟨raws, hraws⟩ := Option.isSome_iff_exists.mp h
    obtain ⟨rest, hlist⟩ := exists_argumentList hraws
    exact ⟨raws, rest, hlist⟩
  · rintro ⟨raws, rest, hlist⟩
    simp [argumentsAt, hlist.splitArguments_eq]
  · intro raws rest hlist
    refine ⟨fun raws' rest' => hlist.unique, argumentOffsets start raws, ?_,
      map_fst_argumentOffsets start raws, ?_, isChain_argumentOffsets start raws,
      fun argument hargument => (hlist.standsAt hargument).extract_eq⟩
    · rw [argumentsAt, hlist.splitArguments_eq]
      rfl
    · obtain ⟨raw, others, rfl⟩ := List.exists_cons_of_ne_nil hlist.ne_nil
      intro argument hargument
      obtain rfl := Option.some.inj hargument
      rfl

end SurfaceLint
