import SurfaceLint.Explanation
import SurfaceLint.Server.Notice
import SurfaceLint.Server.Settings
import SurfaceLint.Server.World
import SurfaceLint.Table

/-!
# A session with an editor

The server keeps the open documents, the settings and the notices last sent for each
document. Documents are known by their percent-decoded address, notices by the address as
given. A document that is not open is looked for on the disk, and since nobody has told its
language, it is in none. Whenever a document is opened, changed or saved, all its notices
are worked out anew with the settings of that moment and replace those sent before. A
message that names a place which cannot be is refused, whatever else is wrong with it.
-/

namespace SurfaceLint

structure Document where
  text : Text
  languageId : String

/-- Notices sent for an address. -/
structure Publication where
  address : String
  notices : List Notice

/-- An explanation in the form that an editor shows. -/
structure Hover where
  markdown : String
  range : Range

inductive ServerError where
  | outer (failure : OuterFailure)
  | notStarted
  | settings (error : SettingsError)

/-- The text of an error, where it has one. -/
def ServerError.message : ServerError → Option String
  | outer failure => failure.message
  | notStarted => some "The workspace is not available - has the server been initialized?"
  | settings _ => none

/-- What a request returns. -/
inductive Reply where
  | nothing
  | hover (answer : Option Hover)
  | held (present : Bool) (notices : List Notice)

/-- A change replaces the whole text, whatever the ends of the range that it names. -/
structure Change where
  ends : List Cursor
  text : Text

/-- What an editor tells or asks the server. -/
inductive Event where
  | start (options : Json)
  | ready
  | shutDown
  | opened (address languageId : String) (text : Text)
  | changed (address : String) (changes : List Change)
  | saved (address : String)
  | closed (address : String)
  | hovered (address : String) (cursor : Cursor)
  | configured (payload : Json)
  | refreshed (address languageId : String) (text : Text)
  | hoveredText (languageId : String) (text : Text) (cursor : Cursor)
  | cleared (address : String)
  | inspected (address : String)

/-- The places that a message names. A question about a text at hand is no message. -/
def Event.cursors : Event → List Cursor
  | changed _ changes => changes.flatMap Change.ends
  | hovered _ cursor => [cursor]
  | _ => []

/-- An event, with the world in which it reaches the server. -/
structure Delivery where
  world : World
  event : Event

/-- There are no documents at all before the server is started. -/
structure Server where
  documents : Option (Table String Document)
  settings : Settings
  notices : Table String (List Notice)

/-- The state after an event, what was sent on the way, and the reply. -/
structure Outcome where
  server : Server
  sent : List Publication
  reply : Except ServerError Reply

namespace Server

def fresh : Server := ⟨none, .initial, .empty⟩

def untitledScheme : String := "untitled:"

def isUntitled (address : String) : Bool :=
  untitledScheme.toList.isPrefixOf address.toList

/-- Replaces the notices of an address and sends them. -/
def publish (server : Server) (address : String) (notices : List Notice) : Outcome :=
  ⟨{ server with notices := server.notices.insert address notices }, [⟨address, notices⟩],
    .ok .nothing⟩

/-- Drops the notices of an address and sends an empty list. -/
def clear (server : Server) (address : String) : Outcome :=
  ⟨{ server with notices := server.notices.erase address }, [⟨address, []⟩], .ok .nothing⟩

def quiet (server : Server) (reply : Except ServerError Reply) : Outcome :=
  ⟨server, [], reply⟩

/-- Works out the notices of a document. One in an unknown language is cleared; an untitled
one is left alone. -/
def refresh (server : Server) (address languageId : String) (text : Text) : Outcome :=
  if (Dialect.ofLanguageId? languageId).isNone then server.clear address
  else if isUntitled address then server.quiet (.ok .nothing)
  else
    server.publish address
      (documentNotices languageId text server.settings.language server.settings.selection)

def hover (server : Server) (languageId : String) (text : Text) (cursor : Cursor) :
    Option Hover := do
  let dialect ← Dialect.ofLanguageId? languageId
  let explanation ← explain dialect text cursor server.settings.selection
  return ⟨explanation.markdown, explanation.range⟩

def configure (server : Server) (payload : Json) : Outcome :=
  match server.settings.update payload with
  | (settings, .ok ()) => { server with settings }.quiet (.ok .nothing)
  | (settings, .error error) => { server with settings }.quiet (.error (.settings error))

/-- The key of an open document. -/
def documentKey (address : String) : String := percentDecode address

/-- The document with an address: the open one, or else the file on the disk. -/
def fetch (world : World) (documents : Table String Document) (address : String) :
    Except OuterFailure Document :=
  match documents.get? (documentKey address) with
  | some document => .ok document
  | none => (world.read address).map fun text => ⟨text, ""⟩

/-- Works out the notices of the document with an address. -/
def recheck (server : Server) (world : World) (documents : Table String Document)
    (address : String) : Outcome :=
  match fetch world documents address with
  | .ok document => server.refresh address document.languageId document.text
  | .error failure => server.quiet (.error (.outer failure))

/-- Opens or replaces a document. -/
def store (server : Server) (documents : Table String Document) (address : String)
    (document : Document) : Server :=
  { server with documents := some (documents.insert (documentKey address) document) }

/-- The documents after changes of one of them, the last of which decides. One that is not open
stays as it is on the disk. -/
def applyChanges (world : World) (documents : Table String Document) (address : String)
    (changes : List Change) : Except OuterFailure (Table String Document) :=
  match changes.getLast? with
  | none => .ok documents
  | some change =>
    match documents.get? (documentKey address) with
    | some document =>
      .ok (documents.insert (documentKey address) ⟨change.text, document.languageId⟩)
    | none => (world.checkChange address).map fun _ => documents

/-- Answers an event that names no place which cannot be. -/
def respond (server : Server) (world : World) : Event → Outcome
  | .start options => { server with documents := some .empty }.configure options
  | .ready => server.quiet (.ok .nothing)
  | .shutDown => server.quiet (.ok .nothing)
  | .configured payload => server.configure payload
  | .refreshed address languageId text => server.refresh address languageId text
  | .hoveredText languageId text cursor =>
    server.quiet (.ok (.hover (server.hover languageId text cursor)))
  | .cleared address => server.clear address
  | .inspected address =>
    server.quiet (.ok (.held (server.notices.contains address)
      ((server.notices.get? address).getD [])))
  | .opened address languageId text =>
    match server.documents with
    | none => server.quiet (.error .notStarted)
    | some documents =>
      match world.checkAddress address with
      | .ok _ =>
        (server.store documents address ⟨text, languageId⟩).refresh address languageId text
      | .error failure => server.quiet (.error (.outer failure))
  | .changed address changes =>
    match server.documents with
    | none => server.quiet (.error .notStarted)
    | some documents =>
      match applyChanges world documents address changes with
      | .ok changed => { server with documents := some changed }.recheck world changed address
      | .error failure => server.quiet (.error (.outer failure))
  | .saved address =>
    match server.documents with
    | none => server.quiet (.error .notStarted)
    | some documents => server.recheck world documents address
  | .closed address =>
    match server.documents with
    | none => server.quiet (.error .notStarted)
    | some documents =>
      { server with documents := some (documents.erase (documentKey address)) }.clear address
  | .hovered address cursor =>
    match server.documents with
    | none => server.quiet (.error .notStarted)
    | some documents =>
      match fetch world documents address with
      | .ok document =>
        server.quiet (.ok (.hover (server.hover document.languageId document.text cursor)))
      | .error failure => server.quiet (.error (.outer failure))

def handle (server : Server) (delivery : Delivery) : Outcome :=
  match delivery.event.cursors.forM delivery.world.checkCursor with
  | .ok () => server.respond delivery.world delivery.event
  | .error failure => server.quiet (.error (.outer failure))

/-- The outcomes of a sequence of deliveries, each to the state that the one before left. -/
def run (server : Server) : List Delivery → List Outcome
  | [] => []
  | delivery :: rest =>
    let outcome := server.handle delivery
    outcome :: outcome.server.run rest

end Server

end SurfaceLint
