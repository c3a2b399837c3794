import SurfaceLint.Proofs.CommandLine.Check
import SurfaceLint.Proofs.Json.RoundTrip

/-!
# What the reports of a check tell

The report for machines is read back field by field and gives what was found: the files in
their order, each with its diagnostics, and how many errors and warnings there are. The reports
for people close with the counts of one file each, and these add up to the same totals. The
exit status follows the errors.
-/

namespace SurfaceLint

/-! ## Decoding the report for machines -/

namespace Json

def string? : Json → Option String
  | .string value => some value
  | _ => none

def nat? : Json → Option Nat
  | .int (.ofNat value) => some value
  | _ => none

def array? : Json → Option (List Json)
  | .array items => some items
  | _ => none

end Json

namespace Report

/-- A diagnostic as it is told to machines. -/
structure DiagnosticEntry where
  code : String
  name : String
  category : String
  severity : String
  message : String
  start : Position
  stop : Position
deriving DecidableEq

/-- A file as it is told to machines. -/
structure FileEntry where
  path : String
  dialect : String
  diagnostics : List DiagnosticEntry
deriving DecidableEq

/-- What the report for machines tells. -/
structure Decoded where
  files : List FileEntry
  totals : Tally
deriving DecidableEq

def decodePosition? (json : Json) : Option Position := do
  return ⟨← (← json.get? "line").nat?, ← (← json.get? "column").nat?⟩

def DiagnosticEntry.ofJson? (json : Json) : Option DiagnosticEntry := do
  let rule ← json.get? "rule"
  let range ← json.get? "range"
  return ⟨← (← rule.get? "code").string?, ← (← rule.get? "name").string?,
    ← (← rule.get? "category").string?, ← (← json.get? "severity").string?,
    ← (← json.get? "message").string?, ← decodePosition? (← range.get? "start"),
    ← decodePosition? (← range.get? "end")⟩

def FileEntry.ofJson? (json : Json) : Option FileEntry := do
  let diagnostics ← (← json.get? "diagnostics").array?
  return ⟨← (← json.get? "file").string?, ← (← json.get? "dialect").string?,
    ← diagnostics.mapM DiagnosticEntry.ofJson?⟩

def Decoded.ofJson? (json : Json) : Option Decoded := do
  let files ← (← json.get? "files").array?
  let summary ← json.get? "summary"
  return ⟨← files.mapM FileEntry.ofJson?,
    ⟨← (← summary.get? "errors").nat?, ← (← summary.get? "warnings").nat?⟩⟩

def DiagnosticEntry.ofDiagnostic (diagnostic : Diagnostic) : DiagnosticEntry :=
  ⟨diagnostic.rule.code, diagnostic.rule.name, diagnostic.rule.category.label,
    diagnostic.severity.label, diagnostic.message, diagnostic.range.start, diagnostic.range.stop⟩

def FileEntry.ofChecked (file : CheckedFile) : FileEntry :=
  ⟨file.path.render, file.dialect.languageId,
    file.diagnostics.map DiagnosticEntry.ofDiagnostic⟩

theorem mapM_map_eq_some {α β γ : Type} {write : α → β} {read : β → Option γ} {tell : α → γ}
    (h : ∀ a, read (write a) = some (tell a)) (as : List α) :
    (as.map write).mapM read = some (as.map tell) := by
  induction as with
  | nil => rfl
  | cons a as ih => rw [List.map_cons, List.mapM_cons, h, ih]; rfl

theorem ofJson?_diagnosticJson (diagnostic : Diagnostic) :
    DiagnosticEntry.ofJson? (diagnosticJson diagnostic) =
      some (DiagnosticEntry.ofDiagnostic diagnostic) := rfl

theorem ofJson?_fileJson (file : CheckedFile) :
    FileEntry.ofJson? (fileJson file) = some (FileEntry.ofChecked file) := by
  have hopen : FileEntry.ofJson? (fileJson file) =
      ((file.diagnostics.map diagnosticJson).mapM DiagnosticEntry.ofJson?).bind
        (some ⟨file.path.render, file.dialect.languageId, ·⟩) := rfl
  rw [hopen, mapM_map_eq_some ofJson?_diagnosticJson]
  rfl

theorem ofJson?_json (files : List CheckedFile) :
    Decoded.ofJson? (json files) = some ⟨files.map FileEntry.ofChecked, tally files⟩ := by
  have hopen : Decoded.ofJson? (json files) =
      ((files.map fileJson).mapM FileEntry.ofJson?).bind (some ⟨·, tally files⟩) := rfl
  rw [hopen, mapM_map_eq_some ofJson?_fileJson]
  rfl

theorem hasDistinctKeys_positionJson (position : Position) :
    (positionJson position).HasDistinctKeys := by
  refine .object (by simp) ?_
  simp [Json.HasDistinctKeys.int]

theorem hasDistinctKeys_diagnosticJson (diagnostic : Diagnostic) :
    (diagnosticJson diagnostic).HasDistinctKeys := by
  refine .object (by simp) ?_
  simp only [List.forall_mem_cons, List.not_mem_nil, false_implies, implies_true, and_true]
  refine ⟨.object (by simp) ?_, .string _, .string _, .object (by simp) ?_⟩
  · simp [Json.HasDistinctKeys.string]
  · simp [hasDistinctKeys_positionJson]

theorem hasDistinctKeys_fileJson (file : CheckedFile) : (fileJson file).HasDistinctKeys := by
  refine .object (by simp) ?_
  simp only [List.forall_mem_cons, List.not_mem_nil, false_implies, implies_true, and_true]
  refine ⟨.string _, .string _, .array ?_⟩
  simp [hasDistinctKeys_diagnosticJson]

theorem hasDistinctKeys_json (files : List CheckedFile) : (json files).HasDistinctKeys := by
  refine .object (by simp) ?_
  simp only [List.forall_mem_cons, List.not_mem_nil, false_implies, implies_true, and_true]
  refine ⟨.array ?_, .object (by simp) ?_⟩
  · simp [hasDistinctKeys_fileJson]
  · simp [Json.HasDistinctKeys.int]

theorem decoded_pretty_json (files : List CheckedFile) :
    (Json.ofText? ((json files).pretty ++ "\n").toList).bind Decoded.ofJson? =
      some ⟨files.map FileEntry.ofChecked, tally files⟩ := by
  have hread : Json.ofText? ((json files).pretty ++ "\n").toList = some (json files) := by
    rw [String.toList_append, Json.pretty, String.toList_ofList]
    exact (hasDistinctKeys_json files).ofText?_render .indented (List.forall_mem_singleton.mpr rfl)
  rw [hread, Option.bind_some, ofJson?_json]

/-! ## Counting -/

/-- How many errors and how many warnings there are. -/
def counts (diagnostics : List Diagnostic) : Tally :=
  ⟨diagnostics.countP (·.severity == .error), diagnostics.countP (·.severity == .warning)⟩

def Tally.add (a b : Tally) : Tally :=
  ⟨a.errors + b.errors, a.warnings + b.warnings⟩

theorem foldl_count (diagnostics : List Diagnostic) (start : Tally) :
    diagnostics.foldl Tally.count start = start.add (counts diagnostics) := by
  induction diagnostics generalizing start with
  | nil => rfl
  | cons diagnostic diagnostics ih =>
    rw [List.foldl_cons, ih]
    cases hseverity : diagnostic.severity <;>
      simp [Tally.count, Tally.add, counts, hseverity, Nat.add_assoc, Nat.add_comm 1]

theorem tally_eq_counts (files : List CheckedFile) :
    tally files = counts (files.flatMap (·.diagnostics)) := by
  rw [tally, ← List.foldl_flatMap, foldl_count]
  simp [Tally.add]

theorem foldl_add_counts (files : List CheckedFile) :
    (files.map (counts ·.diagnostics)).foldl Tally.add ⟨0, 0⟩ =
      counts (files.flatMap (·.diagnostics)) := by
  rw [← tally_eq_counts, tally, List.foldl_map]
  simp only [foldl_count]

theorem errorCount_eq (diagnostics : List Diagnostic) :
    errorCount diagnostics = diagnostics.countP (·.severity == .error) :=
  List.countP_eq_length_filter.symm

theorem length_sub_errorCount (diagnostics : List Diagnostic) :
    diagnostics.length - errorCount diagnostics =
      diagnostics.countP (·.severity == .warning) := by
  have hother (diagnostic : Diagnostic) :
      (decide ¬(diagnostic.severity == .error) = true) = (diagnostic.severity == .warning) := by
    cases diagnostic.severity <;> rfl
  rw [List.length_eq_countP_add_countP (·.severity == .error), errorCount_eq,
    Nat.add_sub_cancel_left]
  simp only [hother]

theorem hasErrors_iff (files : List CheckedFile) :
    Program.hasErrors files = true ↔ 0 < (counts (files.flatMap (·.diagnostics))).errors := by
  simp only [Program.hasErrors, counts, List.any_eq_true, List.countP_pos_iff, List.mem_flatMap]
  constructor
  · rintro ⟨file, hfile, diagnostic, hdiagnostic, herror⟩
    exact ⟨diagnostic, ⟨file, hfile, hdiagnostic⟩, herror⟩
  · rintro ⟨diagnostic, ⟨file, hfile, hdiagnostic⟩, herror⟩
    exact ⟨file, hfile, diagnostic, hdiagnostic, herror⟩

/-! ## The closing line of a report for people -/

/-- The counts at the front of a text that is written backwards. -/
def backwardCounts? (text : Text) : Option Tally := do
  let text ← Json.expect? " warning(s)\n".toList.reverse text
  let (warnings, text) ← Json.readDigits? text
  let text ← Json.expect? " error(s) and ".toList.reverse text
  let (errors, _) ← Json.readDigits? text
  return ⟨Json.digitsValue errors.reverse, Json.digitsValue warnings.reverse⟩

/-- The counts that close a report, read from its end. A report without issues counts none. -/
def closing? (report : String) : Option Tally :=
  let text := report.toList.reverse
  if (Json.expect? ": No issues found\n".toList.reverse text).isSome then some ⟨0, 0⟩
  else backwardCounts? text

theorem expect?_append (literal rest : Text) :
    Json.expect? literal (literal ++ rest) = some rest := by
  induction literal with
  | nil => cases rest <;> rfl
  | cons c literal ih => simpa [Json.expect?] using ih

theorem readDigits?_reverse (n : Nat) {rest : Text} (h : ∀ c ∈ rest.head?, c.isDigit = false) :
    Json.readDigits? ((toString n).toList.reverse ++ rest) =
      some ((Nat.toDigits 10 n).reverse, rest) := by
  rw [Nat.toString_eq_ofList_toDigits, String.toList_ofList]
  refine Json.readDigits?_append (fun c hc => ?_) ?_ h
  · exact Json.isDigit_of_mem_toDigits (List.mem_reverse.mp hc)
  · exact fun hnil => Nat.toDigits_ne_nil (List.reverse_eq_nil_iff.mp hnil)

theorem closing?_of_counts {report : String} (front : Text) {errors warnings : Nat}
    (h : report.toList = front ++ (": ".toList ++ ((toString errors).toList ++
      (" error(s) and ".toList ++ ((toString warnings).toList ++ " warning(s)\n".toList))))) :
    closing? report = some ⟨errors, warnings⟩ := by
  have hreverse : report.toList.reverse =
      " warning(s)\n".toList.reverse ++ ((toString warnings).toList.reverse ++
        (" error(s) and ".toList.reverse ++ ((toString errors).toList.reverse ++
          (": ".toList.reverse ++ front.reverse)))) := by
    simp only [h, List.reverse_append, List.append_assoc]
  have hissues (rest : Text) : Json.expect? ": No issues found\n".toList.reverse
      (" warning(s)\n".toList.reverse ++ rest) = none := rfl
  have hand (rest : Text) :
      ∀ c ∈ (" error(s) and ".toList.reverse ++ rest).head?, c.isDigit = false := by simp
  have hcolon (rest : Text) : ∀ c ∈ (": ".toList.reverse ++ rest).head?, c.isDigit = false := by
    simp
  rw [closing?, hreverse]
  simp only [hissues, Option.isSome_none, Bool.false_eq_true, if_false, backwardCounts?,
    expect?_append, readDigits?_reverse warnings (hand _), readDigits?_reverse errors (hcolon _),
    Option.bind_eq_bind, Option.bind_some, List.reverse_reverse, Json.digitsValue_toDigits]
  rfl

theorem closing?_of_no_issues {report : String} (front : Text)
    (h : report.toList = front ++ ": No issues found\n".toList) :
    closing? report = some ⟨0, 0⟩ := by
  rw [closing?, h, List.reverse_append, expect?_append]
  rfl

theorem closing?_file (palette : Palette) (language : Language) (checked : CheckedFile) :
    closing? (file palette language checked) = some (counts checked.diagnostics) := by
  rw [file]
  split
  case isTrue hnone =>
    rw [List.isEmpty_iff.mp hnone]
    refine closing?_of_no_issues
      (palette.green ++ "[ok]" ++ palette.reset ++ " " ++ checked.path.render).toList ?_
    simp [unlines]
  case isFalse =>
    rw [counts, ← errorCount_eq, ← length_sub_errorCount]
    refine closing?_of_counts
      ((unlines (checked.diagnostics.flatMap (entry palette language checked))).toList ++
        checked.path.render.toList) ?_
    simp [unlines, summary]

end Report

namespace Program

open Report

theorem exists_finds {files : Files} {requested : Option String} {inputs : List String}
    (h : ∀ input ∈ inputs, ∃ dialect source,
      Loads files requested (Path.ofString input) dialect source)
    (language : Language) (selection : RuleSelection) :
    ∃ found, List.Forall₂ (Finds files requested language selection) inputs found := by
  induction inputs with
  | nil => exact ⟨[], .nil⟩
  | cons input inputs ih =>
    obtain ⟨⟨dialect, source, hloads⟩, hrest⟩ := List.forall_mem_cons.mp h
    obtain ⟨found, hfound⟩ := ih hrest
    exact ⟨_ :: found, .cons (hloads.finds language selection) hfound⟩

/-- The reports of a check are faithful. If all inputs are loaded, the report for machines is
decoded to one entry for each input in order, with its path, its dialect and its diagnostics,
and to the numbers of errors and warnings among all of them. The reports for people close with
the numbers of one input each, which add up to the same. The exit status is 1 if and only if
there are errors, whichever report is asked for. -/
theorem check_reports_faithful (environment : Environment) (inputs ids : List String)
    (dialect language : Option String) (hknown : ∀ id ∈ ids, (Rule.ofId? id).isSome)
    (hloads : ∀ input ∈ inputs, ∃ found source,
      Loads environment.files dialect (Path.ofString input) found source) :
    let run (json : Bool) :=
      (check environment ⟨inputs, dialect, language, ids.map some, json⟩).perform
    let output := environment.messageLanguage language
    ∃ files,
      List.Forall₂ (Finds environment.files dialect output (.ofDisabled ids)) inputs files ∧
      let totals := counts (files.flatMap (·.diagnostics))
      (Json.ofText? (String.join (run true).2.out).toList).bind Decoded.ofJson? =
        some ⟨files.map FileEntry.ofChecked, totals⟩ ∧
      (run false).2.out.mapM closing? = some (files.map (counts ·.diagnostics)) ∧
      (files.map (counts ·.diagnostics)).foldl Tally.add ⟨0, 0⟩ = totals ∧
      ∀ json, (run json).1 = .ok (if 0 < totals.errors then 1 else 0) := by
  intro run output
  obtain ⟨files, hfound⟩ := exists_finds hloads output (.ofDisabled ids)
  have hrun (json : Bool) : run json =
      (.ok (if hasErrors files then 1 else 0),
        ⟨reports environment.palette output json files, []⟩) :=
    perform_check_of_ok (checkedFiles_eq_ok_iff.mpr ⟨hknown, hfound⟩)
  refine ⟨files, hfound, ?_, ?_, foldl_add_counts files, fun json => ?_⟩
  · rw [hrun]
    simp only [reports, if_true, String.join_cons, String.join_nil, String.append_empty]
    rw [decoded_pretty_json, tally_eq_counts]
  · rw [hrun]
    exact mapM_map_eq_some (closing?_file environment.palette output) files
  · simp only [hrun, hasErrors_iff]

/-- The reports on a file with quotes and a line break in its name, which holds an open
parenthesis, and on an empty file with a backslash in its name. -/
theorem check_reports_faithful_odd_names :
    let environment : Environment :=
      ⟨FileTree.find ⟨[(["say \"hi\"\n.js"], .file [40]), (["a\\b.ts"], .file [])]⟩, none, none,
        false⟩
    let inputs := ["say \"hi\"\n.js", "a\\b.ts"]
    let ids := ["missing-semicolon"]
    let run (json : Bool) :=
      (check environment ⟨inputs, none, none, ids.map some, json⟩).perform
    (∀ id ∈ ids, (Rule.ofId? id).isSome) ∧
      (∀ input ∈ inputs, ∃ found source,
        Loads environment.files none (Path.ofString input) found source) ∧
      ∃ files,
        List.Forall₂ (Finds environment.files none .english (.ofDisabled ids)) inputs files ∧
        let totals := counts (files.flatMap (·.diagnostics))
        (Json.ofText? (String.join (run true).2.out).toList).bind Decoded.ofJson? =
          some ⟨files.map FileEntry.ofChecked, totals⟩ ∧
        (run false).2.out.mapM closing? = some (files.map (counts ·.diagnostics)) ∧
        (files.map (counts ·.diagnostics)).foldl Tally.add ⟨0, 0⟩ = totals ∧
        ∀ json, (run json).1 = .ok (if 0 < totals.errors then 1 else 0) := by
  intro environment inputs ids run
  have hknown : ∀ id ∈ ids, (Rule.ofId? id).isSome := by decide
  have hloads : ∀ input ∈ inputs, ∃ found source,
      Loads environment.files none (Path.ofString input) found source := by
    rw [List.forall_mem_cons, List.forall_mem_singleton]
    exact ⟨⟨.javascript, ['('], rfl, _, rfl, rfl⟩, ⟨.typescript, [], rfl, _, rfl, rfl⟩⟩
  exact ⟨hknown, hloads, check_reports_faithful environment inputs ids none none hknown hloads⟩

end Program

end SurfaceLint
