import CrossRef.Session

/-! # Registries

A registry holds one session for each document, under the location of the document, whatever way its
path is spelled. The sessions of a registry share one configuration if the registry has one; else
each has the one that holds for its document.

Every session has a serial number, given in the order in which sessions were started, so that two
answers can be compared for the session they came from.
-/

namespace CrossRef

/-- **A registry:** the configuration that its sessions share, if any, the sessions by location, and
the number of sessions that were ever started. -/
structure Registry where
  shared : Option Table := none
  sessions : Assoc Location (Nat × Session) := []
  started : Nat := 0

namespace Registry

/-- The number of documents with a session. -/
def size (r : Registry) : Nat := r.sessions.length

/-- The session of the document at a location. -/
def getAt (w : World) (r : Registry) (l : Location) : Except Failure (Nat × Session) × Registry :=
  match Assoc.get? r.sessions l with
  | some found => (.ok found, r)
  | none =>
    match (Session.start w (.ofLocation l) r.shared).outcome with
    | .error e => (.error e, r)
    | .ok s =>
      (.ok (r.started, s),
        { r with sessions := Assoc.put r.sessions l (r.started, s), started := r.started + 1 })

/-- **The session of a document,** started if there is none, and the registry afterwards. If it
cannot be started the registry stays as it is. -/
def get (w : World) (r : Registry) (path : Path) : Except Failure (Nat × Session) × Registry :=
  match w.locate path with
  | .error f => (.error (.fault f), r)
  | .ok l => r.getAt w l

/-- **The registry without the session of a document.** -/
def discard (w : World) (r : Registry) (path : Path) : Except Fault Registry := do
  let l ← w.locate path
  pure { r with sessions := Assoc.erase r.sessions l }

/-- The registry with another state of the session of a document. -/
def store (w : World) (r : Registry) (path : Path) (serial : Nat) (s : Session) : Registry :=
  { r with sessions := Assoc.put r.sessions (path.resolve w.cwd) (serial, s) }

/-- The registry with another shared configuration, if its sessions share one. -/
def share (r : Registry) (t : Table) : Registry :=
  match r.shared with
  | none => r
  | some _ =>
    { r with
      shared := some t
      sessions := r.sessions.map fun (l, n, s) => (l, n, { s with settings := t }) }

/-- **One operation on the session of a document,** which is started if need be. -/
def step (w : World) (r : Registry) (path : Path) (op : Session.Op) :
    Except Failure Session.Reply × Registry :=
  match r.get w path with
  | (.error e, r) => (.error e, r)
  | (.ok (serial, s), r) =>
    let (reply, s') := s.step w op
    (reply.outcome, (r.store w path serial s').share s'.settings)

end Registry

end CrossRef
