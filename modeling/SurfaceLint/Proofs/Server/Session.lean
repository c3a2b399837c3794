import Mathlib.Data.List.Induction
import SurfaceLint.Server.Session

/-!
# What the server holds for an address

A session is a sequence of steps, each an event that meets a server in some world. A step
keeps quiet, publishes the notices of the document that it checks, or clears an address. What
the server holds for an address is therefore decided by the last step that sent something for
it: by the text of that step's document and the settings of that moment, whatever came before
and whatever the worlds refuse or have on their disks.
-/

namespace SurfaceLint

/-- A delivery, with the server that it meets. -/
structure Step where
  before : Server
  delivery : Delivery

def Step.outcome (step : Step) : Outcome :=
  step.before.handle step.delivery

namespace Server

/-- The server that a sequence of deliveries leaves. -/
def after (server : Server) (deliveries : List Delivery) : Server :=
  deliveries.foldl (fun server delivery => (server.handle delivery).server) server

def steps (server : Server) : List Delivery → List Step
  | [] => []
  | delivery :: rest => ⟨server, delivery⟩ :: (server.handle delivery).server.steps rest

/-- The open document with an address. -/
def document? (server : Server) (address : String) : Option Document :=
  server.documents.bind fun documents => documents.get? (documentKey address)

/-- The document that is found for an address, open or on the disk. -/
def fetched? (server : Server) (world : World) (address : String) : Option Document :=
  server.documents.bind fun documents => (fetch world documents address).toOption

/-- What is found for an address after changes of its document. -/
theorem fetch_applyChanges {world : World} {documents changed : Table String Document}
    {address : String} {changes : List Change}
    (h : applyChanges world documents address changes = .ok changed) :
    fetch world changed address =
      match documents.get? (documentKey address), changes.getLast? with
      | some document, some change => .ok ⟨change.text, document.languageId⟩
      | _, _ => fetch world documents address := by
  unfold applyChanges at h
  cases hlast : changes.getLast? with
  | none =>
    rw [hlast] at h
    obtain rfl := Except.ok.inj h
    cases documents.get? (documentKey address) <;> rfl
  | some change =>
    rw [hlast] at h
    cases hget : documents.get? (documentKey address) with
    | none =>
      rw [hget] at h
      cases hcheck : world.checkChange address with
      | error failure => simp [hcheck, Except.map] at h
      | ok _ =>
        obtain rfl : documents = changed := by simpa [hcheck, Except.map] using h
        rfl
    | some document =>
      simp only [hget, Except.ok.injEq] at h
      simp only [fetch, ← h, Table.get?_insert, ↓reduceIte]

@[simp] theorem after_append_singleton (server : Server) (deliveries : List Delivery)
    (delivery : Delivery) :
    server.after (deliveries ++ [delivery]) =
      ((server.after deliveries).handle delivery).server := by
  simp [after]

theorem steps_append_singleton (server : Server) (deliveries : List Delivery)
    (delivery : Delivery) :
    server.steps (deliveries ++ [delivery]) =
      server.steps deliveries ++ [⟨server.after deliveries, delivery⟩] := by
  induction deliveries generalizing server with
  | nil => rfl
  | cons first rest ih => exact congrArg (_ :: ·) (ih (server.handle first).server)

theorem map_outcome_steps (server : Server) (deliveries : List Delivery) :
    (server.steps deliveries).map Step.outcome = server.run deliveries := by
  induction deliveries generalizing server with
  | nil => rfl
  | cons delivery rest ih => exact congrArg (_ :: ·) (ih (server.handle delivery).server)

end Server

/-- The event asks, starts the server or configures it. -/
def Event.isPassive : Event → Bool
  | .start _ | .ready | .shutDown | .configured _ => true
  | .hovered _ _ | .hoveredText _ _ _ | .inspected _ => true
  | _ => false

/-- The language of a document is one of those that are checked. -/
def Document.isSupported (document : Document) : Bool :=
  (Dialect.ofLanguageId? document.languageId).isSome

namespace Step

/-- The document that a step checks: the one that it brings, the open one with the text of the
last change, or the one that is found for its address. -/
def document? (step : Step) : Option Document :=
  match step.delivery.event with
  | .opened _ languageId text => some ⟨text, languageId⟩
  | .refreshed _ languageId text => some ⟨text, languageId⟩
  | .changed address changes =>
    match step.before.document? address, changes.getLast? with
    | some document, some change => some ⟨change.text, document.languageId⟩
    | _, _ => step.before.fetched? step.delivery.world address
  | .saved address => step.before.fetched? step.delivery.world address
  | _ => none

/-- The notices of a document under the settings that a step meets. -/
def notices (step : Step) (document : Document) : List Notice :=
  documentNotices document.languageId document.text step.before.settings.language
    (.ofDisabled step.before.settings.disabledRules)

/-- The address is closed or deleted, or the document that is checked is in no known
language. -/
def Clears (step : Step) (address : String) : Prop :=
  step.delivery.event = .closed address ∨ step.delivery.event = .cleared address ∨
    ∃ document, step.document? = some document ∧ document.isSupported = false

/-- Something is sent for an address. -/
def sendsFor (step : Step) (address : String) : Bool :=
  step.outcome.sent.any (·.address == address)

/-- Nothing is sent and no entry changes. -/
def IsQuiet (step : Step) : Prop :=
  step.outcome.sent = [] ∧ step.outcome.server.notices = step.before.notices

/-- The notices of a checked document are sent and replace those of the address, which is not
that of an untitled document. -/
def Publishes (step : Step) (address : String) (document : Document) : Prop :=
  step.document? = some document ∧ document.isSupported = true ∧
    Server.isUntitled address = false ∧
    step.outcome.sent = [⟨address, step.notices document⟩] ∧
    step.outcome.server.notices = step.before.notices.insert address (step.notices document) ∧
    step.outcome.reply = .ok .nothing

/-- An empty list is sent and the entry of the address is dropped. -/
def Empties (step : Step) (address : String) : Prop :=
  step.Clears address ∧ step.outcome.sent = [⟨address, []⟩] ∧
    step.outcome.server.notices = step.before.notices.erase address ∧
    step.outcome.reply = .ok .nothing

/-- All that a step can do. -/
def HasEffect (step : Step) : Prop :=
  step.IsQuiet ∨ (∃ address document, step.Publishes address document) ∨
    ∃ address, step.Empties address

/-! ## What one step does -/

theorem hasEffect_of_quiet {step : Step} {server : Server} {reply : Except ServerError Reply}
    (h : step.outcome = server.quiet reply) (hnotices : server.notices = step.before.notices) :
    step.HasEffect := by
  refine .inl ?_
  rw [IsQuiet, h, ← hnotices]
  exact ⟨rfl, rfl⟩

theorem hasEffect_of_configure {step : Step} {server : Server} {payload : Json}
    (h : step.outcome = server.configure payload)
    (hnotices : server.notices = step.before.notices) : step.HasEffect := by
  refine .inl ?_
  rw [IsQuiet, h, ← hnotices]
  unfold Server.configure
  split <;> exact ⟨rfl, rfl⟩

theorem hasEffect_of_clear {step : Step} {server : Server} {address : String}
    (h : step.outcome = server.clear address) (hclears : step.Clears address)
    (hnotices : server.notices = step.before.notices) : step.HasEffect := by
  refine .inr (.inr ⟨address, hclears, ?_, ?_, ?_⟩)
  · rw [h]; rfl
  · rw [h, ← hnotices]; rfl
  · rw [h]; rfl

/-- A check leaves an untitled document alone and clears one in an unknown language. -/
theorem hasEffect_of_refresh (document : Document) {step : Step} {server : Server}
    {address : String}
    (h : step.outcome = server.refresh address document.languageId document.text)
    (hdocument : step.document? = some document)
    (hnotices : server.notices = step.before.notices)
    (hsettings : server.settings = step.before.settings) : step.HasEffect := by
  unfold Server.refresh at h
  split at h
  · rename_i hlanguage
    have hunsupported : document.isSupported = false := by
      simpa [Document.isSupported] using hlanguage
    exact hasEffect_of_clear h (.inr (.inr ⟨document, hdocument, hunsupported⟩)) hnotices
  · rename_i hlanguage
    split at h
    · exact hasEffect_of_quiet h hnotices
    · rename_i huntitled
      have hsupported : document.isSupported = true := by
        simpa [Document.isSupported, Option.isSome_iff_ne_none] using hlanguage
      refine .inr (.inl ⟨address, document, hdocument, hsupported,
        Bool.eq_false_iff.mpr huntitled, ?_, ?_, ?_⟩)
      · rw [h, hsettings]; rfl
      · rw [h, ← hnotices, hsettings]; rfl
      · rw [h]; rfl

theorem hasEffect_of_recheck {step : Step} {server : Server} {documents : Table String Document}
    {address : String}
    (h : step.outcome = server.recheck step.delivery.world documents address)
    (hdocument : step.document? = (Server.fetch step.delivery.world documents address).toOption)
    (hnotices : server.notices = step.before.notices)
    (hsettings : server.settings = step.before.settings) : step.HasEffect := by
  unfold Server.recheck at h
  split at h
  · rename_i document hfetch
    refine hasEffect_of_refresh document h ?_ hnotices hsettings
    rw [hdocument, hfetch]
    rfl
  · exact hasEffect_of_quiet h hnotices

section Documents

variable {server : Server} {world : World} {address : String}

theorem hasEffect_opened {languageId : String} {text : Text}
    (h : (Step.mk server ⟨world, .opened address languageId text⟩).outcome =
      server.respond world (.opened address languageId text)) :
    (Step.mk server ⟨world, .opened address languageId text⟩).HasEffect := by
  simp only [Server.respond] at h
  split at h
  · exact hasEffect_of_quiet h rfl
  · split at h
    · exact hasEffect_of_refresh ⟨text, languageId⟩ h rfl rfl rfl
    · exact hasEffect_of_quiet h rfl

theorem hasEffect_changed {changes : List Change}
    (h : (Step.mk server ⟨world, .changed address changes⟩).outcome =
      server.respond world (.changed address changes)) :
    (Step.mk server ⟨world, .changed address changes⟩).HasEffect := by
  simp only [Server.respond] at h
  split at h
  · exact hasEffect_of_quiet h rfl
  · rename_i documents hdocuments
    split at h
    · rename_i changed hchanged
      refine hasEffect_of_recheck h ?_ rfl rfl
      rw [Server.fetch_applyChanges hchanged]
      simp only [document?, Server.document?, Server.fetched?, hdocuments, Option.bind_some]
      split
      · rfl
      · rfl
    · exact hasEffect_of_quiet h rfl

theorem hasEffect_saved
    (h : (Step.mk server ⟨world, .saved address⟩).outcome =
      server.respond world (.saved address)) :
    (Step.mk server ⟨world, .saved address⟩).HasEffect := by
  simp only [Server.respond] at h
  split at h
  · exact hasEffect_of_quiet h rfl
  · rename_i documents hdocuments
    refine hasEffect_of_recheck h ?_ rfl rfl
    simp only [document?, Server.fetched?, hdocuments, Option.bind_some]

theorem hasEffect_closed
    (h : (Step.mk server ⟨world, .closed address⟩).outcome =
      server.respond world (.closed address)) :
    (Step.mk server ⟨world, .closed address⟩).HasEffect := by
  simp only [Server.respond] at h
  split at h
  · exact hasEffect_of_quiet h rfl
  · exact hasEffect_of_clear h (.inl rfl) rfl

theorem hasEffect_hovered {cursor : Cursor}
    (h : (Step.mk server ⟨world, .hovered address cursor⟩).outcome =
      server.respond world (.hovered address cursor)) :
    (Step.mk server ⟨world, .hovered address cursor⟩).HasEffect := by
  simp only [Server.respond] at h
  split at h
  · exact hasEffect_of_quiet h rfl
  · split at h
    · exact hasEffect_of_quiet h rfl
    · exact hasEffect_of_quiet h rfl

end Documents

/-- A step keeps quiet, publishes the notices of a document, or empties an address. -/
theorem hasEffect (step : Step) : step.HasEffect := by
  obtain ⟨server, world, event⟩ := step
  cases hcheck : event.cursors.forM world.checkCursor with
  | error failure =>
    have h : (Step.mk server ⟨world, event⟩).outcome = server.quiet (.error (.outer failure)) := by
      simp [outcome, Server.handle, hcheck]
    exact hasEffect_of_quiet h rfl
  | ok _ =>
    have h : (Step.mk server ⟨world, event⟩).outcome = server.respond world event := by
      simp [outcome, Server.handle, hcheck]
    cases event with
    | start options => exact hasEffect_of_configure h rfl
    | ready => exact hasEffect_of_quiet h rfl
    | shutDown => exact hasEffect_of_quiet h rfl
    | opened address languageId text => exact hasEffect_opened h
    | changed address changes => exact hasEffect_changed h
    | saved address => exact hasEffect_saved h
    | closed address => exact hasEffect_closed h
    | hovered address cursor => exact hasEffect_hovered h
    | configured payload => exact hasEffect_of_configure h rfl
    | refreshed address languageId text =>
      exact hasEffect_of_refresh ⟨text, languageId⟩ h rfl rfl rfl
    | hoveredText languageId text cursor => exact hasEffect_of_quiet h rfl
    | cleared address => exact hasEffect_of_clear h (.inr (.inl rfl)) rfl
    | inspected address => exact hasEffect_of_quiet h rfl

/-- The event asks, starts or configures, or the step fails. -/
def IsSilent (step : Step) : Prop :=
  step.delivery.event.isPassive = true ∨ ∃ error, step.outcome.reply = .error error

theorem isQuiet_of_isSilent {step : Step} (h : step.IsSilent) : step.IsQuiet := by
  rcases step.hasEffect with hquiet | ⟨_, _, hdocument, -, -, -, -, hreply⟩ |
    ⟨_, hclears, -, -, hreply⟩
  · exact hquiet
  · rcases h with hpassive | ⟨error, herror⟩
    · cases hevent : step.delivery.event <;> simp_all [Event.isPassive, document?]
    · simp [hreply] at herror
  · rcases h with hpassive | ⟨error, herror⟩
    · cases hevent : step.delivery.event <;> simp_all [Event.isPassive, Clears, document?]
    · simp [hreply] at herror

theorem not_clears_of_supported {step : Step} {address : String} {document : Document}
    (hdocument : step.document? = some document) (hsupported : document.isSupported = true) :
    ¬step.Clears address := by
  rintro (hevent | hevent | ⟨other, hother, hunsupported⟩)
  · simp [document?, hevent] at hdocument
  · simp [document?, hevent] at hdocument
  · obtain rfl : document = other := Option.some.inj (hdocument.symm.trans hother)
    simp [hsupported] at hunsupported

/-- A server holds for an address what a step sent for it. -/
def Settles (step : Step) (address : String) (server : Server) : Prop :=
  (∃ document, step.document? = some document ∧ document.isSupported = true ∧
    step.outcome.sent = [⟨address, step.notices document⟩] ∧
    server.notices.get? address = some (step.notices document)) ∨
  (step.Clears address ∧ step.outcome.sent = [⟨address, []⟩] ∧
    server.notices.get? address = none)

theorem settles_of_sendsFor {step : Step} {address : String}
    (h : step.sendsFor address = true) : step.Settles address step.outcome.server := by
  rcases step.hasEffect with ⟨hsent, -⟩ |
    ⟨other, document, hdocument, hsupported, -, hsent, hheld, -⟩ |
    ⟨other, hclears, hsent, hheld, -⟩
  · simp [sendsFor, hsent] at h
  · obtain rfl : other = address := by simpa [sendsFor, hsent] using h
    refine .inl ⟨document, hdocument, hsupported, hsent, ?_⟩
    rw [hheld, Table.get?_insert, if_pos rfl]
  · obtain rfl : other = address := by simpa [sendsFor, hsent] using h
    refine .inr ⟨hclears, hsent, ?_⟩
    rw [hheld, Table.get?_erase, if_pos rfl]

theorem get?_of_not_sendsFor {step : Step} {address : String}
    (h : step.sendsFor address = false) :
    step.outcome.server.notices.get? address = step.before.notices.get? address := by
  rcases step.hasEffect with ⟨-, hheld⟩ | ⟨other, document, -, -, -, hsent, hheld, -⟩ |
    ⟨other, -, hsent, hheld, -⟩
  · rw [hheld]
  · have hne : other ≠ address := by simpa [sendsFor, hsent] using h
    rw [hheld, Table.get?_insert, if_neg hne.symm]
  · have hne : other ≠ address := by simpa [sendsFor, hsent] using h
    rw [hheld, Table.get?_erase, if_neg hne.symm]

end Step

/-! ## What a session does -/

/-- The last step that sent something for an address. -/
def lastSender? (steps : List Step) (address : String) : Option Step :=
  (steps.filter (·.sendsFor address)).getLast?

/-- The notices last sent for an address. -/
def lastSent? (outcomes : List Outcome) (address : String) : Option (List Notice) :=
  ((outcomes.flatMap Outcome.sent).filter (·.address == address)).getLast?.map
    Publication.notices

theorem lastSender?_append_singleton (steps : List Step) (step : Step) (address : String) :
    lastSender? (steps ++ [step]) address =
      if step.sendsFor address then some step else lastSender? steps address := by
  by_cases h : step.sendsFor address = true <;> simp [lastSender?, List.filter_append, h]

theorem lastSent?_append_singleton (outcomes : List Outcome) (step : Step) (address : String) :
    lastSent? (outcomes ++ [step.outcome]) address =
      if step.sendsFor address then
        (step.outcome.sent.filter (·.address == address)).getLast?.map Publication.notices
      else lastSent? outcomes address := by
  simp only [lastSent?, List.flatMap_append, List.flatMap_singleton, List.filter_append,
    List.getLast?_append]
  by_cases h : step.sendsFor address = true
  · obtain ⟨publication, hmem, haddress⟩ := List.any_eq_true.mp h
    have hne : step.outcome.sent.filter (·.address == address) ≠ [] :=
      List.ne_nil_of_mem (List.mem_filter.mpr ⟨hmem, haddress⟩)
    rw [if_pos h, Option.or_of_isSome (by simpa using hne)]
  · have hnil : step.outcome.sent.filter (·.address == address) = [] :=
      List.filter_eq_nil_iff.mpr (List.any_eq_false.mp (Bool.eq_false_iff.mpr h))
    rw [if_neg h, hnil]
    rfl

theorem Server.run_append_singleton (server : Server) (deliveries : List Delivery)
    (delivery : Delivery) :
    server.run (deliveries ++ [delivery]) =
      server.run deliveries ++ [(Step.mk (server.after deliveries) delivery).outcome] := by
  simp [← map_outcome_steps, steps_append_singleton]

theorem settles_of_lastSender? {deliveries : List Delivery} {address : String} {step : Step}
    (h : lastSender? (Server.fresh.steps deliveries) address = some step) :
    step.Settles address (Server.fresh.after deliveries) := by
  induction deliveries using List.reverseRecOn with
  | nil => simp [Server.steps, lastSender?] at h
  | append_singleton deliveries delivery ih =>
    rw [Server.steps_append_singleton, lastSender?_append_singleton] at h
    rw [Server.after_append_singleton]
    split at h
    · rename_i hsends
      obtain rfl := Option.some.inj h
      exact Step.settles_of_sendsFor hsends
    · rename_i hsends
      have hkept : ((Server.fresh.after deliveries).handle delivery).server.notices.get? address =
          (Server.fresh.after deliveries).notices.get? address :=
        Step.get?_of_not_sendsFor (Bool.eq_false_iff.mpr hsends)
      rw [Step.Settles, hkept]
      exact ih h

theorem held_eq_lastSent (deliveries : List Delivery) (address : String) :
    ((Server.fresh.after deliveries).notices.get? address).getD [] =
      (lastSent? (Server.fresh.run deliveries) address).getD [] := by
  induction deliveries using List.reverseRecOn with
  | nil => rfl
  | append_singleton deliveries delivery ih =>
    let step : Step := ⟨Server.fresh.after deliveries, delivery⟩
    have hafter : Server.fresh.after (deliveries ++ [delivery]) = step.outcome.server :=
      Server.after_append_singleton _ _ _
    have hrun : Server.fresh.run (deliveries ++ [delivery]) =
        Server.fresh.run deliveries ++ [step.outcome] := Server.run_append_singleton _ _ _
    rw [hafter, hrun, lastSent?_append_singleton]
    by_cases hsends : step.sendsFor address = true
    · rw [if_pos hsends]
      rcases Step.settles_of_sendsFor hsends with ⟨document, -, -, hsent, hheld⟩ |
        ⟨-, hsent, hheld⟩
      · simp [hheld, hsent]
      · simp [hheld, hsent]
    · rw [if_neg hsends, Step.get?_of_not_sendsFor (Bool.eq_false_iff.mpr hsends)]
      exact ih

/-- After any session, an inspection of an address shows the notices last sent for it. If the
last step that sent something checked a document in a known language, these are the notices of
that document's text under the settings of that step; if it closed, deleted or found a language
unknown, they are none and the address has no entry; one of the two is the case. Questions,
settings and failures send nothing and change no entry. -/
theorem session_invariant (deliveries : List Delivery) (world : World) (address : String) :
    ((Server.fresh.after deliveries).handle ⟨world, .inspected address⟩).reply =
      .ok (.held ((Server.fresh.after deliveries).notices.contains address)
        ((lastSent? (Server.fresh.run deliveries) address).getD [])) ∧
    (∀ step, lastSender? (Server.fresh.steps deliveries) address = some step →
      (∀ document, step.document? = some document → document.isSupported = true →
        step.outcome.sent = [⟨address, step.notices document⟩] ∧
          (Server.fresh.after deliveries).notices.get? address = some (step.notices document)) ∧
      (step.Clears address →
        step.outcome.sent = [⟨address, []⟩] ∧
          (Server.fresh.after deliveries).notices.contains address = false) ∧
      ((∃ document, step.document? = some document ∧ document.isSupported = true) ∨
        step.Clears address)) ∧
    (∀ step ∈ Server.fresh.steps deliveries, step.IsSilent →
      step.outcome.sent = [] ∧ step.outcome.server.notices = step.before.notices) := by
  refine ⟨?_, ?_, fun step _ hsilent => Step.isQuiet_of_isSilent hsilent⟩
  · rw [← held_eq_lastSent]
    rfl
  · intro step hstep
    rcases settles_of_lastSender? hstep with ⟨document, hdocument, hsupported, hsent, hheld⟩ |
      ⟨hclears, hsent, hheld⟩
    · refine ⟨?_, ?_, .inl ⟨document, hdocument, hsupported⟩⟩
      · intro other hother _
        obtain rfl : document = other := Option.some.inj (hdocument.symm.trans hother)
        exact ⟨hsent, hheld⟩
      · intro hclears
        exact absurd hclears (Step.not_clears_of_supported hdocument hsupported)
    · refine ⟨?_, ?_, .inr hclears⟩
      · intro document hdocument hsupported
        exact absurd hclears (Step.not_clears_of_supported hdocument hsupported)
      · intro _
        exact ⟨hsent, by simp [Table.contains, hheld]⟩

end SurfaceLint
