import SurfaceLint.Proofs.Server.Session

/-!
# Documents do not interfere

Two clients take turns at one server, each with an address of its own. The open documents are
kept by decoded address and the notices by the address as given, so addresses that differ when
decoded have nothing in common in either table. What a step for one address does depends on
the settings, on what the server holds for that address and on the world of the step, and a
step for another address leaves all of this as it is. Whatever the order of the turns, each
client therefore sees what it would see alone.
-/

namespace SurfaceLint

/-! ## Taking turns -/

/-- A way to take turns between two sequences, each of which keeps its order. -/
inductive Interleaving {α : Type} : List α → List α → Type
  | done : Interleaving [] []
  | first (x : α) {xs ys : List α} : Interleaving xs ys → Interleaving (x :: xs) ys
  | second (y : α) {xs ys : List α} : Interleaving xs ys → Interleaving xs (y :: ys)

namespace Interleaving

variable {α β : Type}

/-- Both sequences, in the order of the turns. -/
def merged {xs ys : List α} : Interleaving xs ys → List α
  | done => []
  | first x turns => x :: turns.merged
  | second y turns => y :: turns.merged

/-- The entries of a list that stand where the turns are those of the first sequence. -/
def firstPart {xs ys : List α} : Interleaving xs ys → List β → List β
  | first _ turns, entry :: rest => entry :: turns.firstPart rest
  | second _ turns, _ :: rest => turns.firstPart rest
  | _, _ => []

end Interleaving

/-- The event tells or asks something about the document with an address. A question about a
text at hand may come with any document. -/
def Event.IsAbout (address : String) : Event → Prop
  | .opened other _ _ | .changed other _ | .saved other | .closed other | .hovered other _ =>
    other = address
  | .refreshed other _ _ | .cleared other | .inspected other => other = address
  | .hoveredText _ _ _ => True
  | .start _ | .ready | .shutDown | .configured _ => False

/-- The lists of notices sent for an address, in the order of sending. -/
def publishedFor (address : String) (outcomes : List Outcome) : List (List Notice) :=
  ((outcomes.flatMap Outcome.sent).filter (·.address == address)).map Publication.notices

theorem publishedFor_cons (address : String) (outcome : Outcome) (rest : List Outcome) :
    publishedFor address (outcome :: rest) =
      publishedFor address [outcome] ++ publishedFor address rest := by
  simp [publishedFor]

/-- Two servers cannot be told apart by what concerns one address. -/
structure Server.AgreeOn (address : String) (a b : Server) : Prop where
  settings : a.settings = b.settings
  started : a.documents.isSome = b.documents.isSome
  document : a.document? address = b.document? address
  held : a.notices.get? address = b.notices.get? address

/-- Two outcomes are alike, and so are the servers they leave, as far as one address goes. -/
structure Outcome.AgreeOn (address : String) (a b : Outcome) : Prop where
  reply : a.reply = b.reply
  sent : a.sent = b.sent
  server : a.server.AgreeOn address b.server

/-- An outcome leaves a server as it was for one address and sends nothing but to another. -/
structure Outcome.Spares (address other : String) (server : Server) (outcome : Outcome) :
    Prop where
  server : outcome.server.AgreeOn address server
  sent : ∀ publication ∈ outcome.sent, publication.address = other

namespace Server

theorem AgreeOn.refl (address : String) (server : Server) : server.AgreeOn address server :=
  ⟨rfl, rfl, rfl, rfl⟩

theorem AgreeOn.trans {address : String} {a b c : Server} (hab : a.AgreeOn address b)
    (hbc : b.AgreeOn address c) : a.AgreeOn address c :=
  ⟨hab.settings.trans hbc.settings, hab.started.trans hbc.started,
    hab.document.trans hbc.document, hab.held.trans hbc.held⟩

/-! ## A step for the address -/

section Tables

variable {address : String} {left right : Table String Document}

theorem fetch_congr (world : World)
    (h : left.get? (documentKey address) = right.get? (documentKey address)) :
    fetch world left address = fetch world right address := by
  rw [fetch, fetch, h]

/-- Changes are refused for both tables, or taken over with the same result for the address. -/
theorem applyChanges_cases (world : World)
    (h : left.get? (documentKey address) = right.get? (documentKey address))
    (changes : List Change) :
    (∃ failure, applyChanges world left address changes = .error failure ∧
      applyChanges world right address changes = .error failure) ∨
    ∃ newLeft newRight, applyChanges world left address changes = .ok newLeft ∧
      applyChanges world right address changes = .ok newRight ∧
      newLeft.get? (documentKey address) = newRight.get? (documentKey address) := by
  unfold applyChanges
  rw [h]
  split
  · exact .inr ⟨left, right, rfl, rfl, h⟩
  · split
    · refine .inr ⟨_, _, rfl, rfl, ?_⟩
      simp only [Table.get?_insert, ↓reduceIte]
    · cases world.checkChange address with
      | error failure => exact .inl ⟨failure, rfl, rfl⟩
      | ok _ => exact .inr ⟨left, right, rfl, rfl, h⟩

/-- Changes of a document leave the others as they are. -/
theorem get?_of_applyChanges {other : String} {world : World} {changes : List Change}
    (hkeys : documentKey address ≠ documentKey other)
    (h : applyChanges world left other changes = .ok right) :
    right.get? (documentKey address) = left.get? (documentKey address) := by
  unfold applyChanges at h
  split at h
  · rw [Except.ok.inj h]
  · split at h
    · rw [← Except.ok.inj h, Table.get?_insert, if_neg hkeys]
    · cases hcheck : world.checkChange other with
      | error failure => simp [hcheck, Except.map] at h
      | ok _ =>
        obtain rfl : left = right := by simpa [hcheck, Except.map] using h
        rfl

end Tables

section Own

variable {address : String} {a b : Server} (h : a.AgreeOn address b)
include h

theorem AgreeOn.documents_cases :
    (a.documents = none ∧ b.documents = none) ∨
      ∃ left right, a.documents = some left ∧ b.documents = some right ∧
        left.get? (documentKey address) = right.get? (documentKey address) := by
  have hstarted := h.started
  have hdocument := h.document
  cases ha : a.documents with
  | none =>
    cases hb : b.documents with
    | none => exact .inl ⟨rfl, rfl⟩
    | some right => simp [ha, hb] at hstarted
  | some left =>
    cases hb : b.documents with
    | none => simp [ha, hb] at hstarted
    | some right =>
      refine .inr ⟨left, right, rfl, rfl, ?_⟩
      simpa [document?, ha, hb] using hdocument

theorem AgreeOn.quiet (reply : Except ServerError Reply) :
    (a.quiet reply).AgreeOn address (b.quiet reply) :=
  ⟨rfl, rfl, h⟩

theorem AgreeOn.publish (notices : List Notice) :
    (a.publish address notices).AgreeOn address (b.publish address notices) := by
  refine ⟨rfl, rfl, h.settings, h.started, h.document, ?_⟩
  simp only [Server.publish, Table.get?_insert, ↓reduceIte]

theorem AgreeOn.clear : (a.clear address).AgreeOn address (b.clear address) := by
  refine ⟨rfl, rfl, h.settings, h.started, h.document, ?_⟩
  simp only [Server.clear, Table.get?_erase, ↓reduceIte]

theorem AgreeOn.refresh (languageId : String) (text : Text) :
    (a.refresh address languageId text).AgreeOn address (b.refresh address languageId text) := by
  unfold Server.refresh
  rw [h.settings]
  split
  · exact h.clear
  · split
    · exact h.quiet _
    · exact h.publish _

theorem AgreeOn.hover_eq (languageId : String) (text : Text) (cursor : Cursor) :
    a.hover languageId text cursor = b.hover languageId text cursor := by
  simp only [Server.hover, h.settings]

theorem AgreeOn.withDocuments {left right : Table String Document}
    (hget : left.get? (documentKey address) = right.get? (documentKey address)) :
    Server.AgreeOn address { a with documents := some left }
      { b with documents := some right } :=
  ⟨h.settings, rfl, hget, h.held⟩

theorem AgreeOn.recheck {left right : Table String Document} (world : World)
    (hget : left.get? (documentKey address) = right.get? (documentKey address)) :
    (a.recheck world left address).AgreeOn address (b.recheck world right address) := by
  unfold Server.recheck
  rw [fetch_congr world hget]
  split
  · exact h.refresh _ _
  · exact h.quiet _

/-- A step for the address goes the same way on servers that agree on it. -/
theorem AgreeOn.respond {event : Event} (world : World) (hevent : event.IsAbout address) :
    (a.respond world event).AgreeOn address (b.respond world event) := by
  cases event with
  | start options => exact hevent.elim
  | ready => exact hevent.elim
  | shutDown => exact hevent.elim
  | configured payload => exact hevent.elim
  | opened other languageId text =>
    obtain rfl := hevent
    rcases h.documents_cases with ⟨ha, hb⟩ | ⟨left, right, ha, hb, -⟩
    · simp only [Server.respond, ha, hb]
      exact h.quiet _
    · simp only [Server.respond, ha, hb]
      split
      · refine AgreeOn.refresh (h.withDocuments ?_) languageId text
        simp only [Table.get?_insert, ↓reduceIte]
      · exact h.quiet _
  | changed other changes =>
    obtain rfl := hevent
    rcases h.documents_cases with ⟨ha, hb⟩ | ⟨left, right, ha, hb, hget⟩
    · simp only [Server.respond, ha, hb]
      exact h.quiet _
    · simp only [Server.respond, ha, hb]
      rcases applyChanges_cases world hget changes with
        ⟨failure, hleft, hright⟩ | ⟨newLeft, newRight, hleft, hright, hnew⟩
      · simp only [hleft, hright]
        exact h.quiet _
      · simp only [hleft, hright]
        exact (h.withDocuments hnew).recheck world hnew
  | saved other =>
    obtain rfl := hevent
    rcases h.documents_cases with ⟨ha, hb⟩ | ⟨left, right, ha, hb, hget⟩
    · simp only [Server.respond, ha, hb]
      exact h.quiet _
    · simp only [Server.respond, ha, hb]
      exact h.recheck world hget
  | closed other =>
    obtain rfl := hevent
    rcases h.documents_cases with ⟨ha, hb⟩ | ⟨left, right, ha, hb, -⟩
    · simp only [Server.respond, ha, hb]
      exact h.quiet _
    · simp only [Server.respond, ha, hb]
      refine AgreeOn.clear (h.withDocuments ?_)
      simp only [Table.get?_erase, ↓reduceIte]
  | hovered other cursor =>
    obtain rfl := hevent
    rcases h.documents_cases with ⟨ha, hb⟩ | ⟨left, right, ha, hb, hget⟩
    · simp only [Server.respond, ha, hb]
      exact h.quiet _
    · simp only [Server.respond, ha, hb, fetch_congr world hget, h.hover_eq]
      split
      · exact h.quiet _
      · exact h.quiet _
  | refreshed other languageId text =>
    obtain rfl := hevent
    exact h.refresh languageId text
  | hoveredText languageId text cursor =>
    simp only [Server.respond, h.hover_eq]
    exact h.quiet _
  | cleared other =>
    obtain rfl := hevent
    exact h.clear
  | inspected other =>
    obtain rfl := hevent
    simp only [Server.respond, Table.contains, h.held]
    exact h.quiet _

theorem AgreeOn.handle {delivery : Delivery} (hevent : delivery.event.IsAbout address) :
    (a.handle delivery).AgreeOn address (b.handle delivery) := by
  unfold Server.handle
  split
  · exact h.respond delivery.world hevent
  · exact h.quiet _

end Own

/-! ## A step for another address -/

section Other

variable {address other : String} {before server : Server} (h : before.AgreeOn address server)
include h

theorem spares_quiet (reply : Except ServerError Reply) :
    (before.quiet reply).Spares address other server :=
  ⟨h, by simp [quiet]⟩

variable (hne : address ≠ other)
include hne

theorem spares_publish (notices : List Notice) :
    (before.publish other notices).Spares address other server := by
  refine ⟨⟨h.settings, h.started, h.document, ?_⟩, by simp [publish]⟩
  simp only [publish, Table.get?_insert, if_neg hne, h.held]

theorem spares_clear : (before.clear other).Spares address other server := by
  refine ⟨⟨h.settings, h.started, h.document, ?_⟩, by simp [clear]⟩
  simp only [clear, Table.get?_erase, if_neg hne, h.held]

theorem spares_refresh (languageId : String) (text : Text) :
    (before.refresh other languageId text).Spares address other server := by
  unfold refresh
  split
  · exact spares_clear h hne
  · split
    · exact spares_quiet h _
    · exact spares_publish h hne _

theorem spares_recheck (world : World) (documents : Table String Document) :
    (before.recheck world documents other).Spares address other server := by
  unfold recheck
  split
  · exact spares_refresh h hne _ _
  · exact spares_quiet h _

end Other

/-- Tables with the same document for an address make servers that agree on it. -/
theorem withDocuments_agreeOn {address : String} {server : Server}
    {documents changed : Table String Document} (h : server.documents = some documents)
    (hget : changed.get? (documentKey address) = documents.get? (documentKey address)) :
    Server.AgreeOn address { server with documents := some changed } server := by
  refine ⟨rfl, by rw [h]; rfl, ?_, rfl⟩
  simp only [document?, h, Option.bind_some, hget]

/-- A step for an address leaves another one alone if the two differ when decoded. -/
theorem respond_spares {address other : String} {event : Event} (server : Server) (world : World)
    (hkeys : documentKey address ≠ documentKey other) (hevent : event.IsAbout other) :
    (server.respond world event).Spares address other server := by
  have hne : address ≠ other := fun heq => hkeys (congrArg documentKey heq)
  have hsame := AgreeOn.refl address server
  cases event with
  | start options => exact hevent.elim
  | ready => exact hevent.elim
  | shutDown => exact hevent.elim
  | configured payload => exact hevent.elim
  | opened given languageId text =>
    obtain rfl := hevent
    simp only [respond]
    split
    · exact spares_quiet hsame _
    · rename_i documents hdocuments
      split
      · refine spares_refresh (withDocuments_agreeOn hdocuments ?_) hne languageId text
        rw [Table.get?_insert, if_neg hkeys]
      · exact spares_quiet hsame _
  | changed given changes =>
    obtain rfl := hevent
    simp only [respond]
    split
    · exact spares_quiet hsame _
    · rename_i documents hdocuments
      split
      · rename_i changed hchanged
        have hget := get?_of_applyChanges hkeys hchanged
        exact spares_recheck (withDocuments_agreeOn hdocuments hget) hne world changed
      · exact spares_quiet hsame _
  | saved given =>
    obtain rfl := hevent
    simp only [respond]
    split
    · exact spares_quiet hsame _
    · exact spares_recheck hsame hne world _
  | closed given =>
    obtain rfl := hevent
    simp only [respond]
    split
    · exact spares_quiet hsame _
    · rename_i documents hdocuments
      refine spares_clear (withDocuments_agreeOn hdocuments ?_) hne
      rw [Table.get?_erase, if_neg hkeys]
  | hovered given cursor =>
    simp only [respond]
    split
    · exact spares_quiet hsame _
    · split
      · exact spares_quiet hsame _
      · exact spares_quiet hsame _
  | refreshed given languageId text =>
    obtain rfl := hevent
    exact spares_refresh hsame hne languageId text
  | hoveredText languageId text cursor => exact spares_quiet hsame _
  | cleared given =>
    obtain rfl := hevent
    exact spares_clear hsame hne
  | inspected given => exact spares_quiet hsame _

theorem handle_spares {address other : String} {delivery : Delivery} (server : Server)
    (hkeys : documentKey address ≠ documentKey other)
    (hevent : delivery.event.IsAbout other) :
    (server.handle delivery).Spares address other server := by
  unfold handle
  split
  · exact respond_spares server delivery.world hkeys hevent
  · exact spares_quiet (.refl address server) _

end Server

/-! ## Runs -/

theorem publishedFor_eq_nil_of_spares {address other : String} {server : Server}
    {outcome : Outcome} (hne : address ≠ other) (h : outcome.Spares address other server) :
    publishedFor address [outcome] = [] := by
  have hsent : outcome.sent.filter (·.address == address) = [] := by
    rw [List.filter_eq_nil_iff]
    intro publication hmem
    rw [h.sent publication hmem]
    simpa using hne.symm
  simp [publishedFor, hsent]

section Runs

variable {address other : String} {own foreign : List Delivery}

/-- Where one server meets the turns of two clients and another, which agrees with it on an
address, meets those for that address only, they answer and send alike for it and agree on it
in the end. -/
theorem agreeOn_run (turns : Interleaving own foreign) {a b : Server}
    (hkeys : Server.documentKey address ≠ Server.documentKey other)
    (hown : ∀ delivery ∈ own, delivery.event.IsAbout address)
    (hforeign : ∀ delivery ∈ foreign, delivery.event.IsAbout other) (h : a.AgreeOn address b) :
    (turns.firstPart (a.run turns.merged)).map Outcome.reply = (b.run own).map Outcome.reply ∧
      publishedFor address (a.run turns.merged) = publishedFor address (b.run own) ∧
      (a.after turns.merged).AgreeOn address (b.after own) := by
  induction turns generalizing a b with
  | done => exact ⟨rfl, rfl, h⟩
  | first delivery turns ih =>
    obtain ⟨hevent, hown⟩ := List.forall_mem_cons.mp hown
    obtain ⟨hreply, hsent, hserver⟩ := h.handle hevent
    obtain ⟨hreplies, hpublished, hafter⟩ := ih hown hforeign hserver
    have hhere : publishedFor address [a.handle delivery] =
        publishedFor address [b.handle delivery] := by
      simp only [publishedFor, List.flatMap_singleton, hsent]
    refine ⟨?_, ?_, hafter⟩
    · simp only [Interleaving.merged, Server.run, Interleaving.firstPart, List.map_cons, hreply,
        hreplies]
    · simp only [Interleaving.merged, Server.run]
      rw [publishedFor_cons, hhere, hpublished, ← publishedFor_cons]
  | second delivery turns ih =>
    obtain ⟨hevent, hforeign⟩ := List.forall_mem_cons.mp hforeign
    have hne : address ≠ other := fun heq => hkeys (congrArg Server.documentKey heq)
    have hspares := a.handle_spares hkeys hevent
    obtain ⟨hreplies, hpublished, hafter⟩ := ih hown hforeign (hspares.server.trans h)
    refine ⟨hreplies, ?_, hafter⟩
    simp only [Interleaving.merged, Server.run]
    rw [publishedFor_cons, publishedFor_eq_nil_of_spares hne hspares, hpublished,
      List.nil_append]

/-- Whatever another client does in between with an address that differs when decoded, and
whatever world each step finds, a client gets the replies and errors that it would get alone,
the same notices are sent for its address in the same order, and in the end the server holds
the same notices and the same document for it. -/
theorem interleaved_run_eq_alone (server : Server) (turns : Interleaving own foreign)
    (hkeys : Server.documentKey address ≠ Server.documentKey other)
    (hown : ∀ delivery ∈ own, delivery.event.IsAbout address)
    (hforeign : ∀ delivery ∈ foreign, delivery.event.IsAbout other) :
    (turns.firstPart (server.run turns.merged)).map Outcome.reply =
        (server.run own).map Outcome.reply ∧
      publishedFor address (server.run turns.merged) = publishedFor address (server.run own) ∧
      (server.after turns.merged).notices.get? address =
        (server.after own).notices.get? address ∧
      (server.after turns.merged).document? address = (server.after own).document? address := by
  obtain ⟨hreplies, hpublished, hafter⟩ :=
    agreeOn_run turns hkeys hown hforeign (.refl address server)
  exact ⟨hreplies, hpublished, hafter.held, hafter.document⟩

/-- A file is opened, asked about, closed, and saved when only the disk has it, while another is
changed before it is open and opened after that. -/
theorem interleaved_run_eq_alone_two_files :
    let server : Server := ⟨some .empty, .initial, .empty⟩
    let address := "file:///a%20b.js"
    let other := "file:///c.java"
    let disk : World := { World.bare with read := fun _ => .ok "f(x".toList }
    let own : List Delivery := [⟨.bare, .opened address "javascript" "f(x".toList⟩,
      ⟨.bare, .hovered address ⟨0, 0⟩⟩, ⟨.bare, .closed address⟩, ⟨disk, .saved address⟩]
    let foreign : List Delivery := [⟨disk, .changed other [⟨[], "int x".toList⟩]⟩,
      ⟨.bare, .opened other "java" "int x".toList⟩]
    let turns : Interleaving own foreign :=
      .second _ (.first _ (.first _ (.second _ (.first _ (.first _ .done)))))
    Server.documentKey address ≠ Server.documentKey other ∧
      (∀ delivery ∈ own, delivery.event.IsAbout address) ∧
      (∀ delivery ∈ foreign, delivery.event.IsAbout other) ∧
      (turns.firstPart (server.run turns.merged)).map Outcome.reply =
        (server.run own).map Outcome.reply ∧
      publishedFor address (server.run turns.merged) = publishedFor address (server.run own) ∧
      (server.after turns.merged).notices.get? address =
        (server.after own).notices.get? address ∧
      (server.after turns.merged).document? address =
        (server.after own).document? address := by
  intro server address other disk own foreign turns
  have hkeys : Server.documentKey address ≠ Server.documentKey other := by decide +kernel
  have hown : ∀ delivery ∈ own, delivery.event.IsAbout address := by
    simp [own, Event.IsAbout]
  have hforeign : ∀ delivery ∈ foreign, delivery.event.IsAbout other := by
    simp [foreign, Event.IsAbout]
  exact ⟨hkeys, hown, hforeign, interleaved_run_eq_alone server turns hkeys hown hforeign⟩

end Runs

end SurfaceLint
