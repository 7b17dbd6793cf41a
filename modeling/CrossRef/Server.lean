import CrossRef.Registry

/-! # The server

A server offers the operations on documents as tools to other programs. It has one registry, whose
sessions share the configuration that holds in its working directory, and reads relative paths from
there. A tool never builds an index on its own account: only `rebuild_index` does.

A tool answers with a table. Problems are answers too, with `success` false; faults are not, and
pass through.
-/

namespace CrossRef

/-- **A server:** its working directory and its registry. -/
structure Server where
  workingDirectory : Path
  registry : Registry

namespace Server

/-- A server in a working directory, or in the current one. It cannot be had without the library
that speaks to clients. -/
def create (w : World) (available : Bool) (workingDirectory : Option Path) :
    Noted Server :=
  if available then do
    let directory := workingDirectory.getD (.ofLocation w.cwd)
    let config ← Config.effective w none directory true
    pure ⟨directory, { shared := some config }⟩
  else .fail (.fault .serverMissing)

/-- **The location of a document** whose path is read from a working directory. -/
def locate (w : World) (workingDirectory path : Path) : Except Fault Path :=
  (w.locate (workingDirectory.join path)).map .ofLocation

/-! ### Answers -/

/-- The status of a session as a table. -/
def statusFields (s : Status) : Table :=
  [("path", .str s.path), ("state", .str s.phase.name), ("identifiers", .int s.identifiers),
   ("declarations", .int s.declarations), ("anomalies", .array (s.anomalies.map .str)),
   ("built_at", (s.builtAt.map fun t => Value.int t).getD .null)]

/-- A problem as a table. -/
def problemFields (p : Problem) : Table :=
  [("success", .bool false), ("error", .str p.message), ("error_type", .str p.kind)]

/-- A declaration of the index as a table. -/
def entryFields (e : Entry) : Table :=
  [("identifier", .str e.identifier), ("attribute", .str e.attr), ("element", .str e.element)]

/-- A span as a table. -/
def spanFields (s : Span) : Table :=
  [("start", .int s.start), ("end", .int s.stop), ("text", .str s.text), ("line", .int s.line),
   ("column", .int s.column)]

/-- The answer that a success gives. -/
def success (fields : Table) : Table := ("success", .bool true) :: fields

/-- An outcome as an answer: problems become answers. -/
def answer {α : Type} (ok : α → Table) (problem : Problem → Table) :
    Except Failure α → Except Failure Table
  | .ok a => .ok (ok a)
  | .error (.problem p) => .ok (problem p)
  | .error e => .error e

/-! ### Tools -/

/-- A request for a tool, with its arguments. -/
inductive Request where
  | rebuildIndex (path : String)
  | indexStatus (path : String)
  | listIdentifiers (path : String)
  | resolveIdentifier (path identifier : String)
  | identifierAtLine (line : String)
  deriving DecidableEq, Repr

/-- The request for the tool with a name. -/
def Request.of? (name : String) (arguments : Assoc String String) : Option Request :=
  let get key := (Assoc.get? arguments key).getD ""
  match name with
  | "rebuild_index" => some (.rebuildIndex (get "path"))
  | "index_status" => some (.indexStatus (get "path"))
  | "list_identifiers" => some (.listIdentifiers (get "path"))
  | "resolve_identifier" => some (.resolveIdentifier (get "path") (get "identifier"))
  | "identifier_at_line" => some (.identifierAtLine (get "line"))
  | _ => none

/-- The answer to a rebuild. -/
def builtFields (b : Build) : Table :=
  success
    [("identifiers", .int b.index.size), ("declarations", .int b.index.entries.length),
     ("anomalies", .array (b.anomalies.map fun a => .str a.text))]

/-- The answer to a request for the listing. -/
def listingFields (x : Index) : Table :=
  success
    [("lines", .array ((Listing.render x).map .str)),
     ("entries", .array (x.entries.map fun e => .table (entryFields e)))]

/-- The answer to the extraction of an identifier from a line. -/
def lineFields : Option String → Table
  | none => [("success", .bool false), ("error", .str "No identifier on this line")]
  | some identifier => success [("identifier", .str identifier)]

/-- The session of a document, and the server afterwards. -/
def session (w : World) (server : Server) (path : String) :
    Except Failure (Nat × Session) × Path × Server :=
  let path := Path.ofString path
  match locate w server.workingDirectory path with
  | .error f => (.error (.fault f), path, server)
  | .ok path =>
    let (found, registry) := server.registry.get w path
    (found, path, { server with registry })

/-- **One call of a tool:** the answer, and the server afterwards. -/
def call (w : World) (server : Server) : Request → Except Failure Table × Server
  | .rebuildIndex path =>
    match server.session w path with
    | (.error e, _, server) => (.error e, server)
    | (.ok (serial, s), path, server) =>
      let (result, s') := s.rebuild w
      (answer builtFields
          (fun p => problemFields p ++ [("status", .table (statusFields s'.status))])
          result.outcome,
        { server with registry := server.registry.store w path serial s' })
  | .indexStatus path =>
    match server.session w path with
    | (.error e, _, server) => (.error e, server)
    | (.ok (_, s), _, server) => (.ok (success (statusFields s.status)), server)
  | .listIdentifiers path =>
    match server.session w path with
    | (.error e, _, server) => (.error e, server)
    | (.ok (_, s), _, server) => (answer listingFields problemFields s.readyIndex, server)
  | .resolveIdentifier path identifier =>
    match server.session w path with
    | (.error e, _, server) => (.error e, server)
    | (.ok (_, s), _, server) =>
      (answer (fun span => success (("path", .str s.path.text) :: spanFields span)) problemFields
        (s.resolve w identifier none), server)
  | .identifierAtLine line => (.ok (lineFields (Listing.identifierOnLine? line)), server)

/-- A call by the name of a tool. -/
def callByName (w : World) (server : Server) (name : String) (arguments : Assoc String String) :
    Except Failure Table × Server :=
  match Request.of? name arguments with
  | some request => server.call w request
  | none => (.error (.fault (.unknownTool name)), server)

end Server

end CrossRef
