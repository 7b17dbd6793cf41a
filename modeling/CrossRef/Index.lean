import CrossRef.Assoc
import CrossRef.Event
import CrossRef.Text.LowerCase

/-! # The index of identifiers

An index maps each declared identifier to the attribute that declares it and the element that owns
the attribute, and lists every declaration in the order of the document. An attribute is owned by
the first element start that follows it. In an index that is not case-sensitive, names and
identifiers are kept in lower case.

Building is a fold over the events: `Building` carries the index so far and the attributes that
still wait for an element start. Those that wait at the end are *anomalies* and are not indexed.
-/

namespace CrossRef

/-- One declaration of an identifier, in the case of its index. -/
structure Entry where
  identifier : String
  attr : String
  element : String
  deriving DecidableEq, Repr

/-- An attribute that declares an identifier and that no element start follows. -/
structure Anomaly where
  identifier : String
  attr : String
  deriving DecidableEq, Repr

/-- An anomaly as it is reported. -/
def Anomaly.text (a : Anomaly) : String :=
  a.attr ++ "=" ++ a.identifier ++ ": ID attribute has no following element start"

/-- **An index of identifiers:** the attribute and the element of each identifier, and every
declaration in order. -/
structure Index where
  mapping : Assoc String (String × String) := []
  entries : List Entry := []
  caseSensitive : Bool := false
  deriving DecidableEq, Repr

namespace Index

/-- A name in the case under which a case policy keeps it. -/
def foldCase (caseSensitive : Bool) (name : String) : String :=
  if caseSensitive then name else Text.lower name

/-- A name in the case of the index. -/
def fold (x : Index) (name : String) : String := foldCase x.caseSensitive name

/-- The index with one more declaration, which overrides an earlier one of its identifier. -/
def add (x : Index) (e : Entry) : Index :=
  { x with
    mapping := Assoc.put x.mapping e.identifier (e.attr, e.element)
    entries := x.entries ++ [e] }

/-- The attribute and the element of an identifier, given in any case that the index accepts. -/
def lookup? (x : Index) (identifier : String) : Option (String × String) :=
  Assoc.get? x.mapping (x.fold identifier)

/-- The identifier is declared. -/
def contains (x : Index) (identifier : String) : Bool := (x.lookup? identifier).isSome

/-- The number of distinct identifiers. -/
def size (x : Index) : Nat := x.mapping.length

/-- The items of a list without those that came before. -/
def distinct : List String → List String
  | [] => []
  | s :: rest => s :: (distinct rest).filter (· != s)

/-- The distinct identifiers in the order of their first declarations. -/
def identifiers (x : Index) : List String := distinct (x.entries.map (·.identifier))

end Index

/-! ### Building -/

/-- An index together with the anomalies of the events that it was built from. -/
structure Build where
  index : Index
  anomalies : List Anomaly
  deriving DecidableEq, Repr

namespace Build

/-- Every identifier attribute found its element. -/
def ok (b : Build) : Bool := b.anomalies.isEmpty

end Build

/-- An index under construction, with the names and values of the attributes that wait for an
element start. -/
structure Building where
  index : Index
  waiting : List (String × String) := []

namespace Building

/-- The entry for a waiting attribute that the element `element` owns. -/
def entryOf (caseSensitive : Bool) (element : String) (pair : String × String) : Entry :=
  ⟨Index.foldCase caseSensitive pair.2, Index.foldCase caseSensitive pair.1,
    Index.foldCase caseSensitive element⟩

/-- **One event:** an identifier attribute waits; an element start takes all that wait. -/
def step (b : Building) : Event → Building
  | .attr name value kind =>
    if kind = Event.idKind then { b with waiting := b.waiting ++ [(name, value)] } else b
  | .element name =>
    { index := (b.waiting.map (entryOf b.index.caseSensitive name)).foldl Index.add b.index }

/-- The anomaly for an attribute that still waits at the end. -/
def anomalyOf (caseSensitive : Bool) (pair : String × String) : Anomaly :=
  ⟨Index.foldCase caseSensitive pair.2, Index.foldCase caseSensitive pair.1⟩

/-- The end of the events. -/
def finish (b : Building) : Build :=
  ⟨b.index, b.waiting.map (anomalyOf b.index.caseSensitive)⟩

end Building

/-- **The index of a sequence of events** under a case policy. -/
def Index.build (caseSensitive : Bool) (events : List Event) : Build :=
  (events.foldl Building.step { index := { caseSensitive } }).finish

end CrossRef
