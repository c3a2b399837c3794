import Mathlib.Data.Option.Basic
import SurfaceLint.Server.Settings

/-!
# Updates of the settings

A payload gives a value for a key if its section does, be the section wrapped or bare. An update
that succeeds takes over every value that is given and keeps the rest. It fails exactly on rules
that are `true` or a number other than zero; the rules are then as before, but a language that
is given with them has been taken over already. So an update is all or nothing unless it fails
and its payload asks for a language other than the current one.
-/

namespace SurfaceLint

/-! ## What a payload gives -/

/-- The section of a payload: the object under its name, or the payload if nothing has that name. -/
inductive SectionOf : Json → Json → Prop
  | wrapped {fields inner : List (String × Json)} :
      fields.lookup "hoverErrors" = some (.object inner) →
        SectionOf (.object fields) (.object inner)
  | bare {fields : List (String × Json)} :
      fields.lookup "hoverErrors" = none → SectionOf (.object fields) (.object fields)

theorem sectionOf?_eq_some_iff {payload part : Json} :
    Settings.sectionOf? payload = some part ↔ SectionOf payload part := by
  constructor
  · intro h
    cases payload with
    | object fields =>
      simp only [Settings.sectionOf?] at h
      cases hlookup : fields.lookup "hoverErrors" with
      | none =>
        rw [hlookup] at h
        obtain rfl := Option.some.inj h
        exact .bare hlookup
      | some value =>
        rw [hlookup] at h
        cases value with
        | object inner =>
          obtain rfl := Option.some.inj h
          exact .wrapped hlookup
        | _ => contradiction
    | _ => contradiction
  · rintro (hlookup | hlookup)
    · simp [Settings.sectionOf?, hlookup]
    · simp [Settings.sectionOf?, hlookup]

namespace Json

/-- The section of a payload has a value under a key. -/
def Gives (payload : Json) (key : String) (value : Json) : Prop :=
  ∃ part, SectionOf payload part ∧ part.get? key = some value

def given? (payload : Json) (key : String) : Option Json :=
  (Settings.sectionOf? payload).bind (·.get? key)

variable {payload : Json} {key : String}

theorem given?_eq_some_iff {value : Json} :
    payload.given? key = some value ↔ payload.Gives key value := by
  simp only [given?, Option.bind_eq_some_iff, sectionOf?_eq_some_iff, Gives]

theorem given?_eq_none_iff : payload.given? key = none ↔ ∀ value, ¬payload.Gives key value := by
  simp only [Option.eq_none_iff_forall_ne_some, ne_eq, given?_eq_some_iff]

/-- A setting is read off the value that a payload gives for its key, and kept if there is none. -/
def Determines {α : Type} (payload : Json) (key : String) (reads : Json → α → Prop)
    (before after : α) : Prop :=
  (∀ value, payload.Gives key value → reads value after) ∧
    ((∀ value, ¬payload.Gives key value) → after = before)

theorem determines_of_eq_some {α : Type} {reads : Json → α → Prop} {before after : α} {value : Json}
    (h : payload.given? key = some value) :
    payload.Determines key reads before after ↔ reads value after := by
  simp only [Determines, ← given?_eq_some_iff, h, Option.some.injEq]
  constructor
  · rintro ⟨hreads, -⟩
    exact hreads value rfl
  · intro hreads
    refine ⟨?_, fun hnone => absurd rfl (hnone value)⟩
    rintro _ rfl
    exact hreads

theorem determines_of_eq_none {α : Type} {reads : Json → α → Prop} {before after : α}
    (h : payload.given? key = none) :
    payload.Determines key reads before after ↔ after = before := by
  have hnone := given?_eq_none_iff.mp h
  exact ⟨fun hdetermines => hdetermines.2 hnone,
    fun heq => ⟨fun value hvalue => absurd hvalue (hnone value), fun _ => heq⟩⟩

/-- The value `true` and the numbers other than zero. -/
def isNonzeroScalar : Json → Bool
  | .bool value => value
  | .int value => value ≠ 0
  | .real value => !value.isZero
  | _ => false

/-- The rules that a payload gives are no collection. -/
def HasUnreadableRules (payload : Json) : Prop :=
  ∃ value, payload.Gives "disabledRules" value ∧ value.isNonzeroScalar = true

end Json

theorem ruleIds_eq_error_iff {value : Json} {error : SettingsError} :
    ruleIds value = .error error ↔ value.isNonzeroScalar = true := by
  cases error
  cases value with
  | bool value => cases value <;> simp [ruleIds, Json.isNonzeroScalar]
  | int value => by_cases h : value = 0 <;> simp [ruleIds, Json.isNonzeroScalar, h]
  | real value => cases h : value.isZero <;> simp [ruleIds, Json.isNonzeroScalar, h]
  | _ => simp [ruleIds, Json.isNonzeroScalar]

namespace Settings

variable {settings : Settings} {payload : Json}

/-! ## What an update does -/

/-- The language is the one that a payload gives, or else as before. -/
def TakesLanguage (payload : Json) (before after : Settings) : Prop :=
  payload.Determines "language" (fun value language => language = .ofJson value)
    before.language after.language

/-- The rules are those that a payload gives, or else as before. -/
def TakesRules (payload : Json) (before after : Settings) : Prop :=
  payload.Determines "disabledRules" (fun value ids => ruleIds value = .ok ids)
    before.disabledRules after.disabledRules

/-- Every value that a payload gives is taken over, and what it does not give is kept. -/
def Applied (payload : Json) (before after : Settings) : Prop :=
  TakesLanguage payload before after ∧ TakesRules payload before after

def languageAfter (settings : Settings) (payload : Json) : Language :=
  (payload.given? "language").elim settings.language .ofJson

def rulesAfter (settings : Settings) (payload : Json) : Except SettingsError (List String) :=
  (payload.given? "disabledRules").elim (.ok settings.disabledRules) ruleIds

theorem update_eq (settings : Settings) (payload : Json) :
    settings.update payload =
      match settings.rulesAfter payload with
      | .ok ids => (⟨settings.languageAfter payload, ids⟩, .ok ())
      | .error error =>
        (⟨settings.languageAfter payload, settings.disabledRules⟩, .error error) := by
  unfold update rulesAfter languageAfter Json.given?
  cases sectionOf? payload with
  | none => rfl
  | some part =>
    have hlanguage : settings.updateLanguage part =
        ⟨(part.get? "language").elim settings.language .ofJson, settings.disabledRules⟩ := by
      unfold updateLanguage
      cases part.get? "language" <;> rfl
    simp only [hlanguage, Option.bind_some]
    cases part.get? "disabledRules" <;> rfl

theorem takesLanguage_languageAfter (settings : Settings) (payload : Json) (ids : List String) :
    TakesLanguage payload settings ⟨settings.languageAfter payload, ids⟩ := by
  unfold TakesLanguage languageAfter
  cases h : payload.given? "language" with
  | none => exact (Json.determines_of_eq_none h).mpr rfl
  | some value => exact (Json.determines_of_eq_some h).mpr rfl

theorem takesRules_of_rulesAfter {ids : List String} (h : settings.rulesAfter payload = .ok ids)
    (language : Language) : TakesRules payload settings ⟨language, ids⟩ := by
  unfold rulesAfter at h
  cases hgiven : payload.given? "disabledRules" with
  | none =>
    rw [hgiven] at h
    exact (Json.determines_of_eq_none hgiven).mpr (Except.ok.inj h).symm
  | some value =>
    rw [hgiven] at h
    exact (Json.determines_of_eq_some hgiven).mpr h

theorem rulesAfter_eq_error_iff {error : SettingsError} :
    settings.rulesAfter payload = .error error ↔ payload.HasUnreadableRules := by
  simp only [Json.HasUnreadableRules, ← Json.given?_eq_some_iff]
  unfold rulesAfter
  cases payload.given? "disabledRules" with
  | none => simp
  | some value => simp [ruleIds_eq_error_iff]

theorem languageAfter_eq_iff :
    settings.languageAfter payload = settings.language ↔
      ∀ value, payload.Gives "language" value → Language.ofJson value = settings.language := by
  simp only [← Json.given?_eq_some_iff]
  unfold languageAfter
  cases payload.given? "language" with
  | none => simp
  | some value => simp

theorem exists_update_eq_ok (settings : Settings) (h : ¬payload.HasUnreadableRules) :
    ∃ after, settings.update payload = (after, .ok ()) ∧ Applied payload settings after := by
  cases hrules : settings.rulesAfter payload with
  | error error => exact absurd (rulesAfter_eq_error_iff.mp hrules) h
  | ok ids =>
    refine ⟨⟨settings.languageAfter payload, ids⟩, by rw [update_eq, hrules], ?_⟩
    exact ⟨takesLanguage_languageAfter settings payload ids, takesRules_of_rulesAfter hrules _⟩

theorem update_eq_error (settings : Settings) (h : payload.HasUnreadableRules) :
    settings.update payload =
      (⟨settings.languageAfter payload, settings.disabledRules⟩, .error .notACollection) := by
  rw [update_eq, rulesAfter_eq_error_iff.mpr h]

/-- An update succeeds and is applied, or it fails and changes nothing. -/
def AllOrNothing (settings : Settings) (payload : Json) : Prop :=
  ((settings.update payload).2 = .ok () ∧
      Applied payload settings (settings.update payload).1) ∨
    ((∃ error, (settings.update payload).2 = .error error) ∧
      (settings.update payload).1 = settings)

theorem allOrNothing_iff_of_unreadable (h : payload.HasUnreadableRules) :
    settings.AllOrNothing payload ↔
      ∀ value, payload.Gives "language" value → Language.ofJson value = settings.language := by
  rw [← languageAfter_eq_iff, AllOrNothing, update_eq_error settings h]
  constructor
  · rintro (⟨hok, -⟩ | ⟨-, hsame⟩)
    · contradiction
    · exact congrArg language hsame
  · intro hlanguage
    exact .inr ⟨⟨_, rfl⟩, by rw [hlanguage]⟩

/-- An update is all or nothing unless its rules cannot be read and it asks for another language.
It fails only on such rules, and leaves them as they were; a language is taken over in any
case. -/
theorem update_all_or_nothing_iff (settings : Settings) (payload : Json) :
    (settings.AllOrNothing payload ↔
      ¬(payload.HasUnreadableRules ∧
        ∃ value, payload.Gives "language" value ∧ Language.ofJson value ≠ settings.language)) ∧
    ((settings.update payload).2 = .error .notACollection ↔ payload.HasUnreadableRules) ∧
    (¬payload.HasUnreadableRules → (settings.update payload).2 = .ok () ∧
      Applied payload settings (settings.update payload).1) ∧
    (payload.HasUnreadableRules →
      (settings.update payload).1.disabledRules = settings.disabledRules ∧
      TakesLanguage payload settings (settings.update payload).1) := by
  by_cases h : payload.HasUnreadableRules
  · have hlanguage := takesLanguage_languageAfter settings payload settings.disabledRules
    rw [allOrNothing_iff_of_unreadable h, update_eq_error settings h]
    refine ⟨?_, ⟨fun _ => h, fun _ => rfl⟩, fun hnot => absurd h hnot, fun _ => ⟨rfl, hlanguage⟩⟩
    simp [h]
  · obtain ⟨after, hupdate, happlied⟩ := exists_update_eq_ok settings h
    have hall : settings.AllOrNothing payload := by
      rw [AllOrNothing, hupdate]
      exact .inl ⟨rfl, happlied⟩
    rw [hupdate]
    refine ⟨⟨fun _ hboth => h hboth.1, fun _ => hall⟩, ⟨?_, fun hrules => absurd hrules h⟩,
      fun _ => ⟨rfl, happlied⟩, fun hrules => absurd hrules h⟩
    intro herror
    contradiction

/-- The language is changed although the rules are refused. -/
theorem update_takes_language_with_unreadable_rules :
    let payload := Json.object [("language", .string "hi"), ("disabledRules", .bool true)]
    initial.update payload = (⟨.hindi, []⟩, .error .notACollection) ∧
      ¬initial.AllOrNothing payload := by
  intro payload
  have hupdate : initial.update payload = (⟨.hindi, []⟩, .error .notACollection) := rfl
  refine ⟨hupdate, ?_⟩
  rintro (⟨hok, -⟩ | ⟨-, hsame⟩)
  · rw [hupdate] at hok
    contradiction
  · rw [hupdate] at hsame
    contradiction

end Settings

end SurfaceLint
