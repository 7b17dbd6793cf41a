import CrossRef.Config.Files
import CrossRef.Declaration
import CrossRef.Listing
import CrossRef.MarkupParser
import CrossRef.XmlDeclaration

/-! # Sessions

A session owns the index of one document. It starts *empty*; a build takes it through *building* to
*ready*. A build that fails puts the session back where it was, with whatever index it had.

A build has three steps: `begin` marks the session as building, `attempt` runs the markup parser and
builds an index without touching the session, and `commit` or `rollback` ends it. Lookups are served
only while the session is ready, so never in the middle of a build.

`Session.step` is one operation on a session in one world, and `Session.run` a sequence of them,
each in a world of its own.
-/

namespace CrossRef

/-- **The index of one document and its phase.** -/
structure Session where
  path : Path
  settings : Table
  parser : MarkupParser
  phase : Phase := .empty
  index : Option Index := none
  anomalies : List Anomaly := []
  builtAt : Option Nat := none

/-- What can be told about a session. -/
structure Status where
  path : String
  phase : Phase
  identifiers : Nat
  declarations : Nat
  anomalies : List String
  builtAt : Option Nat
  deriving DecidableEq, Repr

namespace Session

/-- **A fresh session** with the given settings, else with those that hold for the document. -/
def start (w : World) (path : Path) (settings : Option Table) : Noted Session := do
  let settings ←
    match settings with
    | some t => pure t
    | none => Config.effective w none path.parent true
  let parser ← Traced.ofFault (MarkupParser.ofConfig settings)
  pure { path, settings, parser }

/-! ### Building -/

/-- How many characters of a document are looked at for its XML declaration. -/
def headSize : Nat := 256

/-- The document is XML by its beginning; one that cannot be read is not. -/
def looksLikeXml (w : World) (path : Path) : Except Fault Bool :=
  match w.readText path with
  | .ok text => .ok (declaresXml (text.take headSize))
  | .error (.system _) => .ok false
  | .error f => .error f

/-- **The case policy in force.** A truth value settles it; the word `auto` asks the document; of
all other values only the word `true` makes the index case-sensitive. -/
def caseSensitive (w : World) (s : Session) : Except Fault Bool := do
  let t ← MarkupParser.sectionOf s.settings "index"
  match MarkupParser.getD t "case_sensitive" (.str "auto") with
  | .bool b => pure b
  | .str word =>
    let word := Text.lower word
    if word = "auto" then looksLikeXml w s.path else pure (word = "true")
  | _ => pure false

/-- Whether anomalies make a build fail. -/
def strict (s : Session) : Except Fault Bool := do
  let t ← MarkupParser.sectionOf s.settings "index"
  pure (MarkupParser.getD t "strict" (.bool false)).isTruthy

/-- What is told about a new index. -/
def buildNotes (b : Build) : List Note :=
  b.anomalies.map (fun a => ⟨.warning, "Dropped " ++ a.text⟩) ++
    [⟨.debug, "Indexed " ++ toString b.index.entries.length ++ " declarations (" ++
      toString b.index.size ++ " identifiers)"⟩]

/-- The index of a sequence of events; with anomalies it is refused if `strict`. -/
def indexEvents (caseSensitive strict : Bool) (events : List Event) : Noted Build :=
  let b := Index.build caseSensitive events
  if strict && !b.ok then .fail (.problem (.dangling b.anomalies))
  else do Traced.tell (buildNotes b); pure b

/-- **An attempt at a build.** The session itself is not changed. -/
def attempt (w : World) (s : Session) : Noted Build := do
  let events ← s.parser.events w s.path.text
  let policy ← Traced.ofFault (s.caseSensitive w)
  let strict ← Traced.ofFault s.strict
  indexEvents policy strict events

/-- The session while a build is going on. -/
def begin (s : Session) : Session := { s with phase := .building }

/-- The session after a build that succeeded. -/
def commit (w : World) (s : Session) (b : Build) : Session :=
  { s with
    phase := .ready
    index := some b.index
    anomalies := b.anomalies
    builtAt := some w.clock }

/-- The session after a build that failed, given the phase in which it began. -/
def rollback (s : Session) (before : Phase) : Session := { s with phase := before }

/-- The end of a build that began in the phase `before`. -/
def finish (w : World) (s : Session) (before : Phase) (outcome : Except Failure Build) : Session :=
  match outcome with
  | .ok b => s.commit w b
  | .error _ => s.rollback before

/-- What is told about a finished build. -/
def finishNote (s : Session) (b : Build) : Note :=
  ⟨.info, "Indexed " ++ toString b.index.size ++ " identifiers in " ++ s.path.text ++ " (" ++
    toString b.anomalies.length ++ " anomalies)"⟩

/-- A build as it is told. -/
def build (w : World) (s : Session) : Noted Build := do
  Traced.note .info ("Building identifier index for " ++ s.path.text)
  let b ← s.attempt w
  Traced.tell [s.finishNote b]
  pure b

/-- **A rebuild:** what is told and comes of it, and the session afterwards. -/
def rebuild (w : World) (s : Session) : Noted Build × Session :=
  let result := s.begin.build w
  (result, s.begin.finish w s.phase result.outcome)

/-! ### Lookups -/

/-- **The index that lookups are served from.** -/
def readyIndex (s : Session) : Except Failure Index :=
  match s.phase, s.index with
  | .ready, some x => .ok x
  | _, _ => .error (.problem (.notReady s.path.text s.phase))

/-- The declaration of an identifier in a text. -/
def locate (x : Index) (identifier : String) (text : List Char) : Except Failure Span :=
  (Declaration.resolve x identifier text).mapError fun m => .problem (.missing m)

/-- **The declaration of an identifier** in a given text, or in the document as it is on disk. -/
def resolve (w : World) (s : Session) (identifier : String) (text : Option String) :
    Except Failure Span := do
  let x ← s.readyIndex
  match text with
  | some text => locate x identifier text.toList
  | none =>
    match w.readText s.path with
    | .ok text => locate x identifier text
    | .error f => .error (.fault f)

/-- The listing of the index. -/
def render (s : Session) : Except Failure (List String) := s.readyIndex.map Listing.render

/-- What can be told about the session. -/
def status (s : Session) : Status where
  path := s.path.text
  phase := s.phase
  identifiers := (s.index.map (·.size)).getD 0
  declarations := (s.index.map (·.entries.length)).getD 0
  anomalies := s.anomalies.map (·.text)
  builtAt := s.builtAt

/-- The index, built first unless the session is ready, and the session afterwards. -/
def ensureReady (w : World) (s : Session) : Noted Index × Session :=
  if s.phase = .ready then (.ofExcept s.readyIndex, s)
  else
    let (result, s') := s.rebuild w
    (result >>= fun _ => .ofExcept s'.readyIndex, s')

/-! ### Operations -/

/-- An operation on a session. -/
inductive Op where
  | rebuild
  | ensureReady
  | resolve (identifier : String) (text : Option String)
  | render
  | status
  | assign (section_ key : String) (value : Value)
  | setLimit (limit : Option Double)

/-- What an operation answers. -/
inductive Reply where
  | built (b : Build)
  | ready (x : Index) (same : Bool)
  | span (s : Span)
  | lines (ls : List String)
  | status (s : Status)
  | done
  deriving DecidableEq, Repr

/-- The session with one setting changed in place. -/
def assign (s : Session) (section_ key : String) (v : Value) : Except Fault Session :=
  (Config.assign s.settings section_ key v).map fun t => { s with settings := t }

/-- **One operation in one world:** the answer, and the session afterwards. -/
def step (w : World) (s : Session) : Op → Noted Reply × Session
  | .rebuild =>
    let (result, s') := s.rebuild w
    (result >>= fun b => pure (.built b), s')
  | .ensureReady =>
    let (result, s') := s.ensureReady w
    (result >>= fun x => pure (.ready x (s.phase = .ready)), s')
  | .resolve identifier text => (.ofExcept ((s.resolve w identifier text).map .span), s)
  | .render => (.ofExcept (s.render.map .lines), s)
  | .status => (pure (.status s.status), s)
  | .assign section_ key v =>
    match s.assign section_ key v with
    | .ok s' => (pure .done, s')
    | .error f => (.fail (.fault f), s)
  | .setLimit limit => (pure .done, { s with parser := { s.parser with limit } })

/-- **A sequence of operations,** each in a world of its own. -/
def run (s : Session) : List (World × Op) → Session
  | [] => s
  | (w, op) :: rest => run (s.step w op).2 rest

end Session

end CrossRef
