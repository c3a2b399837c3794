import SurfaceLint.CommandLine.Program
import SurfaceLint.Proofs.Diagnostic.Total
import SurfaceLint.Proofs.RuleSelection

/-!
# Checking files is all or nothing

A check first switches off the rules that are to be allowed, then loads and checks the inputs
one after the other, and only then prints. The first thing that goes wrong on the way decides
how it ends: with one message and the exit status 1, or with the failure to read a file. Nothing
is printed then, however many inputs have been checked before. If nothing goes wrong, the
reports of all inputs are printed and there is no message. The checks themselves could only add
to the messages by failing, which they never do.
-/

namespace SurfaceLint

/-! ## Writing -/

namespace Action

variable {ε δ α β : Type}

theorem resume_bind_ok {action : Action ε α} {written after : Written} {a : α}
    (h : action.resume written = (.ok a, after)) (next : α → Action ε β) :
    (action >>= next).resume written = (next a).resume after := by
  simp only [resume, ExceptT.run_bind, StateT.run_bind] at h ⊢
  rw [h]
  rfl

theorem resume_bind_error {action : Action ε α} {written after : Written} {error : ε}
    (h : action.resume written = (.error error, after)) (next : α → Action ε β) :
    (action >>= next).resume written = (.error error, after) := by
  simp only [resume, ExceptT.run_bind, StateT.run_bind] at h ⊢
  rw [h]
  rfl

theorem resume_print (text : String) (written : Written) :
    (print text : Action ε Unit).resume written =
      (.ok (), { written with out := written.out ++ [text] }) := rfl

theorem resume_forM_print (text : α → String) (xs : List α) (written : Written) :
    Action.resume (xs.forM fun x => (print (text x) : Action ε Unit)) written =
      (.ok (), { written with out := written.out ++ xs.map text }) := by
  induction xs generalizing written with
  | nil =>
    rw [List.map_nil, List.append_nil]
    rfl
  | cons x xs ih =>
    have hcons : ((x :: xs).forM fun x => (print (text x) : Action ε Unit)) =
        (do print (text x); xs.forM fun x => print (text x)) := rfl
    rw [hcons, resume_bind_ok (resume_print (text x) written), ih, List.map_cons,
      List.append_assoc]
    rfl

theorem resume_tell (value : α) (written : Written) :
    (tell ⟨value, []⟩ : Action ε α).resume written = (.ok value, written) := rfl

theorem resume_lift (result : Except ε α) (written : Written) :
    (liftM result : Action ε α).resume written = (result, written) := by
  cases result <;> rfl

theorem resume_attempt (action : Action ε α) (written : Written) :
    (attempt action : Action δ (Except ε α)).resume written =
      (.ok (action.resume written).1, (action.resume written).2) := rfl

/-- A traversal that writes nothing is one of plain results. -/
theorem resume_mapM {f : α → Action ε β} {g : α → Except ε β}
    (h : ∀ x written, (f x).resume written = (g x, written)) (xs : List α) (written : Written) :
    Action.resume (xs.mapM f) written = (xs.mapM g, written) := by
  induction xs with
  | nil => rfl
  | cons x xs ih =>
    rw [List.mapM_cons, List.mapM_cons]
    cases hx : g x with
    | error error => rw [resume_bind_error ((h x written).trans (by rw [hx]))]; rfl
    | ok y =>
      rw [resume_bind_ok ((h x written).trans (by rw [hx])), ok_bind]
      cases hxs : xs.mapM g with
      | error error => rw [resume_bind_error (ih.trans (by rw [hxs]))]; rfl
      | ok ys => rw [resume_bind_ok (ih.trans (by rw [hxs]))]; rfl

end Action

namespace Program

open SurfaceLint.Action

/-! ## Loading an input -/

/-- A file cannot be read, be it that looking it up fails or reading what is there. -/
def CannotRead (files : Files) (path : Path) (failure : ReadFailure) : Prop :=
  files path = .error failure ∨ ∃ node, files path = .ok (some node) ∧ node.read = .error failure

/-- The dialect of a file is known, and the file is there and can be read. -/
structure Loads (files : Files) (requested : Option String) (path : Path) (dialect : Dialect)
    (source : Text) : Prop where
  dialect : resolveDialect path requested = .ok dialect
  source : ∃ node, files path = .ok (some node) ∧ node.read = .ok source

/-- Why a file is not loaded. The file is looked for only if its dialect is known, and read only
if it is there. -/
inductive Hinders (files : Files) (requested : Option String) (path : Path) : Trouble → Prop
  | dialect {complaint : Complaint} :
      resolveDialect path requested = .error complaint →
        Hinders files requested path (.complaint complaint)
  | missing {dialect : Dialect} :
      resolveDialect path requested = .ok dialect → files path = .ok none →
        Hinders files requested path (.complaint ⟨"File not found: " ++ path.render, none⟩)
  | unreadable {dialect : Dialect} {failure : ReadFailure} :
      resolveDialect path requested = .ok dialect → CannotRead files path failure →
        Hinders files requested path (.failure (.read path failure))

section Loading

variable {files : Files} {requested : Option String} {path : Path}

theorem Loads.loadFile_eq_ok {dialect : Dialect} {source : Text}
    (h : Loads files requested path dialect source) :
    loadFile files path requested = .ok (dialect, source) := by
  obtain ⟨hdialect, node, hnode, hsource⟩ := h
  simp only [loadFile, findSource, hdialect, hnode, hsource, Except.mapError, ok_bind]
  rfl

theorem Hinders.loadFile_eq_error {trouble : Trouble} (h : Hinders files requested path trouble) :
    loadFile files path requested = .error trouble := by
  cases h with
  | dialect hdialect => simp only [loadFile, hdialect, Except.mapError, error_bind]
  | missing hdialect hmissing =>
    simp only [loadFile, findSource, hdialect, hmissing, Except.mapError, ok_bind, error_bind]
  | unreadable hdialect hunreadable =>
    rcases hunreadable with hlookup | ⟨node, hnode, hread⟩
    · simp only [loadFile, findSource, hdialect, hlookup, Except.mapError, ok_bind, error_bind]
    · simp only [loadFile, findSource, hdialect, hnode, hread, Except.mapError, ok_bind,
        error_bind]

theorem loads_or_hinders (files : Files) (requested : Option String) (path : Path) :
    (∃ dialect source, Loads files requested path dialect source) ∨
      ∃ trouble, Hinders files requested path trouble := by
  cases hdialect : resolveDialect path requested with
  | error complaint => exact .inr ⟨_, .dialect hdialect⟩
  | ok dialect =>
    cases hfound : files path with
    | error failure => exact .inr ⟨_, .unreadable hdialect (.inl hfound)⟩
    | ok found =>
      cases found with
      | none => exact .inr ⟨_, .missing hdialect hfound⟩
      | some node =>
        cases hread : node.read with
        | error failure =>
          exact .inr ⟨_, .unreadable hdialect (.inr ⟨node, hfound, hread⟩)⟩
        | ok source => exact .inl ⟨dialect, source, hdialect, node, hfound, hread⟩

theorem loadFile_eq_ok_iff {dialect : Dialect} {source : Text} :
    loadFile files path requested = .ok (dialect, source) ↔
      Loads files requested path dialect source := by
  refine ⟨fun h => ?_, Loads.loadFile_eq_ok⟩
  rcases loads_or_hinders files requested path with ⟨_, _, hloads⟩ | ⟨_, hhinders⟩
  · rw [hloads.loadFile_eq_ok] at h
    obtain ⟨rfl, rfl⟩ := Prod.mk.inj (Except.ok.inj h)
    exact hloads
  · rw [hhinders.loadFile_eq_error] at h
    contradiction

theorem loadFile_eq_error_iff {trouble : Trouble} :
    loadFile files path requested = .error trouble ↔ Hinders files requested path trouble := by
  refine ⟨fun h => ?_, Hinders.loadFile_eq_error⟩
  rcases loads_or_hinders files requested path with ⟨_, _, hloads⟩ | ⟨_, hhinders⟩
  · rw [hloads.loadFile_eq_ok] at h
    contradiction
  · rw [hhinders.loadFile_eq_error] at h
    obtain rfl := Except.error.inj h
    exact hhinders

end Loading

/-- What the check of an input finds. -/
structure Finds (files : Files) (requested : Option String) (language : Language)
    (selection : RuleSelection) (input : String) (file : CheckedFile) : Prop where
  path : file.path = Path.ofString input
  loads : Loads files requested (Path.ofString input) file.dialect file.source
  diagnostics : file.diagnostics = diagnose file.dialect file.source language selection

theorem Loads.finds {files : Files} {requested : Option String} {input : String}
    {dialect : Dialect} {source : Text}
    (h : Loads files requested (Path.ofString input) dialect source) (language : Language)
    (selection : RuleSelection) :
    Finds files requested language selection input
      ⟨Path.ofString input, dialect, source, diagnose dialect source language selection⟩ :=
  ⟨rfl, h, rfl⟩

section Inputs

variable {files : Files} {requested : Option String} {language : Language}
  {selection : RuleSelection} {input : String}

/-- The check of an input as a plain result. -/
def checked (files : Files) (requested : Option String) (language : Language)
    (selection : RuleSelection) (input : String) : Except Trouble CheckedFile :=
  (loadFile files (Path.ofString input) requested).map fun loaded =>
    ⟨Path.ofString input, loaded.1, loaded.2, diagnose loaded.1 loaded.2 language selection⟩

/-- No check fails, so there is nothing to write on the way. -/
theorem resume_checkFile (files : Files) (requested : Option String) (language : Language)
    (selection : RuleSelection) (input : String) (written : Written) :
    (checkFile files requested language selection input).resume written =
      (checked files requested language selection input, written) := by
  simp only [checkFile, checked, diagnoseLogged_standardChecks]
  cases loadFile files (Path.ofString input) requested with
  | error trouble => exact resume_bind_error (resume_lift _ _) _
  | ok loaded =>
    rw [resume_bind_ok (resume_lift _ _), resume_bind_ok (resume_tell _ _)]
    rfl

theorem checked_eq_ok_iff {file : CheckedFile} :
    checked files requested language selection input = .ok file ↔
      Finds files requested language selection input file := by
  rw [checked]
  constructor
  · intro h
    cases hload : loadFile files (Path.ofString input) requested with
    | error trouble =>
      rw [hload] at h
      contradiction
    | ok loaded =>
      rw [hload] at h
      obtain rfl := Except.ok.inj h
      exact ⟨rfl, loadFile_eq_ok_iff.mp hload, rfl⟩
  · intro h
    rw [h.loads.loadFile_eq_ok, Except.map, ← h.path, ← h.diagnostics]

theorem checked_eq_error_iff {trouble : Trouble} :
    checked files requested language selection input = .error trouble ↔
      Hinders files requested (Path.ofString input) trouble := by
  rw [checked, ← loadFile_eq_error_iff]
  cases loadFile files (Path.ofString input) requested with
  | error other => simp [Except.map]
  | ok loaded => simp [Except.map]

end Inputs

/-! ## The first trouble -/

section Request

variable {environment : Environment} {inputs ids : List String}
  {dialect language : Option String} {json : Bool}

/-- The first thing that goes wrong in a check: an id that names no rule where all before it do,
or, if all ids name rules, what hinders an input where all before it are loaded. -/
inductive FirstTrouble (files : Files) (requested : Option String) (inputs ids : List String) :
    Trouble → Prop
  | rule {id : String} {before after : List String} :
      ids = before ++ id :: after → (∀ earlier ∈ before, (Rule.ofId? earlier).isSome) →
        Rule.ofId? id = none → FirstTrouble files requested inputs ids (.unknownRule ⟨id⟩)
  | input {input : String} {before after : List String} {trouble : Trouble} :
      (∀ id ∈ ids, (Rule.ofId? id).isSome) → inputs = before ++ input :: after →
        (∀ earlier ∈ before, ∃ dialect source,
          Loads files requested (Path.ofString earlier) dialect source) →
        Hinders files requested (Path.ofString input) trouble →
          FirstTrouble files requested inputs ids trouble

theorem foldlM_allowRule (ids : List String) (selection : RuleSelection) :
    (ids.map some).foldlM allowRule selection =
      (ids.foldlM RuleSelection.allow selection).mapError .unknownRule := by
  induction ids generalizing selection with
  | nil => rfl
  | cons id rest ih =>
    rw [List.map_cons, List.foldlM_cons, List.foldlM_cons, allowRule]
    cases selection.allow id with
    | error unknown => rfl
    | ok next => exact ih next

variable {output : Language}

/-- The check of all inputs as a plain result. -/
def checkedFiles (environment : Environment) (language : Language) (request : CheckRequest) :
    Except Trouble (List CheckedFile) := do
  let selection ← allowRules request.allowed
  request.inputs.mapM (checked environment.files request.dialect language selection)

theorem resume_checkFiles (environment : Environment) (language : Language)
    (request : CheckRequest) (written : Written) :
    (checkFiles environment language request).resume written =
      (checkedFiles environment language request, written) := by
  unfold checkFiles checkedFiles
  cases allowRules request.allowed with
  | error trouble => exact resume_bind_error (resume_lift _ _) _
  | ok selection =>
    rw [resume_bind_ok (resume_lift _ _)]
    exact resume_mapM (resume_checkFile _ _ _ _) _ _

theorem checkedFiles_of_known (hknown : ∀ id ∈ ids, (Rule.ofId? id).isSome) :
    checkedFiles environment output ⟨inputs, dialect, language, ids.map some, json⟩ =
      inputs.mapM (checked environment.files dialect output (.ofDisabled ids)) := by
  rw [checkedFiles, allowRules, foldlM_allowRule, RuleSelection.foldlM_allow_eq_ok hknown]
  rfl

theorem checkedFiles_of_unknown {unknown : UnknownRule}
    (h : ids.foldlM RuleSelection.allow .everything = .error unknown) :
    checkedFiles environment output ⟨inputs, dialect, language, ids.map some, json⟩ =
      .error (.unknownRule unknown) := by
  rw [checkedFiles, allowRules, foldlM_allowRule, h]
  rfl

theorem checkedFiles_eq_ok_iff {files : List CheckedFile} :
    checkedFiles environment output ⟨inputs, dialect, language, ids.map some, json⟩ = .ok files ↔
      (∀ id ∈ ids, (Rule.ofId? id).isSome) ∧
        List.Forall₂ (Finds environment.files dialect output (.ofDisabled ids)) inputs files := by
  cases hids : ids.foldlM RuleSelection.allow .everything with
  | error unknown =>
    rw [checkedFiles_of_unknown hids]
    refine ⟨fun h => by contradiction, fun h => ?_⟩
    rw [RuleSelection.foldlM_allow_eq_ok h.1] at hids
    contradiction
  | ok selection =>
    have hknown := (RuleSelection.foldlM_allow_eq_ok_iff.mp hids).1
    rw [checkedFiles_of_known hknown, mapM_eq_ok_iff, and_iff_right hknown]
    simp only [checked_eq_ok_iff]

theorem checkedFiles_eq_error_iff {trouble : Trouble} :
    checkedFiles environment output ⟨inputs, dialect, language, ids.map some, json⟩ =
        .error trouble ↔
      FirstTrouble environment.files dialect inputs ids trouble := by
  cases hids : ids.foldlM RuleSelection.allow .everything with
  | error unknown =>
    rw [checkedFiles_of_unknown hids]
    constructor
    · intro h
      obtain rfl := Except.error.inj h
      obtain ⟨before, after, hsplit, hbefore, hnone⟩ :=
        RuleSelection.foldlM_allow_eq_error_iff.mp hids
      exact .rule hsplit hbefore hnone
    · rintro (⟨hsplit, hbefore, hnone⟩ | ⟨hknown, -, -, -⟩)
      · rw [RuleSelection.foldlM_allow_eq_error_iff.mpr ⟨_, _, hsplit, hbefore, hnone⟩] at hids
        obtain rfl := Except.error.inj hids
        rfl
      · rw [RuleSelection.foldlM_allow_eq_ok hknown] at hids
        contradiction
  | ok selection =>
    have hknown := (RuleSelection.foldlM_allow_eq_ok_iff.mp hids).1
    rw [checkedFiles_of_known hknown, mapM_eq_error_iff]
    simp only [checked_eq_ok_iff, checked_eq_error_iff]
    constructor
    · rintro ⟨before, input, after, hsplit, hbefore, hhinders⟩
      refine .input hknown hsplit (fun earlier hearlier => ?_) hhinders
      obtain ⟨file, hfile⟩ := hbefore earlier hearlier
      exact ⟨_, _, hfile.loads⟩
    · rintro (⟨hsplit, -, hnone⟩ | ⟨-, hsplit, hbefore, hhinders⟩)
      · have hsome := hknown _ (hsplit ▸ List.mem_append_right _ List.mem_cons_self)
        simp [hnone] at hsome
      · refine ⟨_, _, _, hsplit, fun earlier hearlier => ?_, hhinders⟩
        obtain ⟨found, source, hloads⟩ := hbefore earlier hearlier
        exact ⟨_, hloads.finds output (.ofDisabled ids)⟩

end Request

/-! ## How a check ends -/

/-- The texts that report checked files: one for all of them, or one for each. -/
def reports (palette : Palette) (language : Language) (json : Bool) (files : List CheckedFile) :
    List String :=
  if json then [(Report.json files).pretty ++ "\n"] else files.map (Report.file palette language)

theorem resume_printReports (palette : Palette) (language : Language) (json : Bool)
    (files : List CheckedFile) (written : Written) :
    (printReports palette language json files).resume written =
      (.ok (), { written with out := written.out ++ reports palette language json files }) := by
  cases json with
  | true => exact resume_print _ written
  | false => exact resume_forM_print _ files written

theorem resume_attempt_checkFiles (environment : Environment) (request : CheckRequest) :
    (attempt (checkFiles environment (environment.messageLanguage request.language) request) :
        Action Failure (Except Trouble (List CheckedFile))).resume ⟨[], []⟩ =
      (.ok (checkedFiles environment (environment.messageLanguage request.language) request),
        ⟨[], []⟩) := by
  rw [resume_attempt, resume_checkFiles]

theorem perform_check_of_ok {environment : Environment} {request : CheckRequest}
    {files : List CheckedFile}
    (h : checkedFiles environment (environment.messageLanguage request.language) request =
      .ok files) :
    (check environment request).perform =
      (.ok (if hasErrors files then 1 else 0),
        ⟨reports environment.palette (environment.messageLanguage request.language) request.json
          files, []⟩) := by
  have hattempt := resume_attempt_checkFiles environment request
  rw [h] at hattempt
  rw [check, perform, resume_bind_ok hattempt, resume_bind_ok (resume_printReports _ _ _ _ _),
    List.nil_append]
  rfl

theorem perform_check_of_error {environment : Environment} {request : CheckRequest}
    {trouble : Trouble}
    (h : checkedFiles environment (environment.messageLanguage request.language) request =
      .error trouble) :
    (check environment request).perform = (trouble.report environment.palette).perform := by
  have hattempt := resume_attempt_checkFiles environment request
  rw [h] at hattempt
  rw [check, perform, resume_bind_ok hattempt]
  rfl

/-- The message that trouble is reported with. A failure has none. -/
def Trouble.message? (palette : Palette) : Trouble → Option String
  | .unknownRule unknown => some ("Error: Unknown rule '" ++ unknown.id ++ "'\n")
  | .complaint what =>
    some (palette.red ++ "Error:" ++ palette.reset ++ " " ++ what.render ++ "\n")
  | .failure _ => none

/-- The dialect of a file is not known, the file is not there, or it cannot be read. -/
def Obstructed (files : Files) (requested : Option String) (path : Path) : Prop :=
  (∃ complaint, resolveDialect path requested = .error complaint) ∨ files path = .ok none ∨
    ∃ failure, CannotRead files path failure

theorem Loads.not_obstructed {files : Files} {requested : Option String} {path : Path}
    {dialect : Dialect} {source : Text} (h : Loads files requested path dialect source) :
    ¬Obstructed files requested path := by
  obtain ⟨hdialect, node, hnode, hsource⟩ := h
  rintro (⟨complaint, hcomplaint⟩ | hmissing | ⟨failure, hlookup | ⟨other, hother, hread⟩⟩)
  · simp [hdialect] at hcomplaint
  · simp [hnode] at hmissing
  · simp [hnode] at hlookup
  · obtain rfl : node = other := by simpa [hnode] using hother
    simp [hsource] at hread

theorem Hinders.obstructed {files : Files} {requested : Option String} {path : Path}
    {trouble : Trouble} (h : Hinders files requested path trouble) :
    Obstructed files requested path := by
  cases h with
  | dialect hdialect => exact .inl ⟨_, hdialect⟩
  | missing _ hmissing => exact .inr (.inl hmissing)
  | unreadable _ hunreadable => exact .inr (.inr ⟨_, hunreadable⟩)

/-- Some id names no rule, or some input is obstructed. -/
def CannotCheck (files : Files) (requested : Option String) (inputs ids : List String) : Prop :=
  (∃ id ∈ ids, Rule.ofId? id = none) ∨
    ∃ input ∈ inputs, Obstructed files requested (Path.ofString input)

section Ending

variable {files : Files} {requested : Option String} {inputs ids : List String}

theorem FirstTrouble.cannotCheck {trouble : Trouble}
    (h : FirstTrouble files requested inputs ids trouble) :
    CannotCheck files requested inputs ids := by
  cases h with
  | rule hsplit _ hnone => exact .inl ⟨_, by simp [hsplit], hnone⟩
  | input _ hsplit _ hhinders => exact .inr ⟨_, by simp [hsplit], hhinders.obstructed⟩

theorem FirstTrouble.exists_read {failure : Failure}
    (h : FirstTrouble files requested inputs ids (.failure failure)) :
    ∃ path why, failure = .read path why := by
  obtain - | ⟨-, -, -, hhinders⟩ := h
  obtain - | - | - := hhinders
  exact ⟨_, _, rfl⟩

theorem not_cannotCheck {language : Language} {selection : RuleSelection}
    {found : List CheckedFile} (hknown : ∀ id ∈ ids, (Rule.ofId? id).isSome)
    (hfound : List.Forall₂ (Finds files requested language selection) inputs found) :
    ¬CannotCheck files requested inputs ids := by
  have hclear := ((List.forall₂_and_left inputs found).mp
    (hfound.imp fun _ _ hfinds => ⟨hfinds.loads.not_obstructed, hfinds⟩)).1
  rintro (⟨id, hid, hnone⟩ | ⟨input, hinput, hobstructed⟩)
  · have hsome := hknown id hid
    simp [hnone] at hsome
  · exact hclear input hinput hobstructed

end Ending

/-- A check prints nothing if some id to allow names no rule, or if some input has no known
dialect, is not there or cannot be read. It then ends with the exit status 1 and one message on
the first of these, ids before inputs and the dialect of an input before the file, or, if the
first is a failure to read, with that failure and no message. Otherwise no message is written:
the findings of all inputs are printed in order, and the status is 1 if an error is among
them. -/
theorem check_all_or_nothing (environment : Environment) (inputs ids : List String)
    (dialect language : Option String) (json : Bool) :
    let run := (check environment ⟨inputs, dialect, language, ids.map some, json⟩).perform
    let output := environment.messageLanguage language
    (CannotCheck environment.files dialect inputs ids →
      run.2.out = [] ∧ (∃ trouble, FirstTrouble environment.files dialect inputs ids trouble) ∧
      ∀ trouble, FirstTrouble environment.files dialect inputs ids trouble →
        (run.1 = .ok 1 ∧ ∃ message,
          trouble.message? environment.palette = some message ∧ run.2.err = [message]) ∨
        ∃ path failure, trouble = .failure (.read path failure) ∧
          run.1 = .error (.read path failure) ∧ run.2.err = []) ∧
    (¬CannotCheck environment.files dialect inputs ids →
      run.2.err = [] ∧ ∃ files,
        List.Forall₂ (Finds environment.files dialect output (.ofDisabled ids)) inputs files ∧
        run.1 = .ok (if hasErrors files then 1 else 0) ∧
        run.2.out = reports environment.palette output json files) := by
  intro run output
  cases hfiles :
      checkedFiles environment output ⟨inputs, dialect, language, ids.map some, json⟩ with
  | error trouble =>
    have hfirst := checkedFiles_eq_error_iff.mp hfiles
    have hrun : run = (trouble.report environment.palette).perform := perform_check_of_error hfiles
    refine ⟨fun _ => ⟨?_, ⟨trouble, hfirst⟩, ?_⟩, fun h => absurd hfirst.cannotCheck h⟩
    · rw [hrun]
      cases trouble <;> rfl
    · intro other hother
      obtain rfl : trouble = other :=
        Except.error.inj (hfiles.symm.trans (checkedFiles_eq_error_iff.mpr hother))
      rw [hrun]
      cases trouble with
      | unknownRule unknown => exact .inl ⟨rfl, _, rfl, rfl⟩
      | complaint what => exact .inl ⟨rfl, _, rfl, rfl⟩
      | failure failure =>
        obtain ⟨path, why, rfl⟩ := hfirst.exists_read
        exact .inr ⟨path, why, rfl, rfl, rfl⟩
  | ok files =>
    obtain ⟨hknown, hfound⟩ := checkedFiles_eq_ok_iff.mp hfiles
    have hrun := perform_check_of_ok hfiles
    refine ⟨fun h => absurd h (not_cannotCheck hknown hfound), fun _ => ?_⟩
    exact ⟨congrArg (·.2.err) hrun, files, hfound, congrArg Prod.fst hrun,
      congrArg (·.2.out) hrun⟩

end Program

end SurfaceLint
