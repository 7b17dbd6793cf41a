import CrossRef.Text.Lines

/-! # Paths

A path is read from its text into parts between slashes. Empty parts and single points are left out,
double points are kept. A path that begins with one slash, or with three or more, starts at the
root; one that begins with exactly two slashes starts at the root too, and keeps both in its text.

A *location* is where a path leads: the parts from the root down, without double points. There are
no links between locations, so a path leads where its parts say (`Path.resolve`).
-/

namespace CrossRef

/-- Where a path starts. -/
inductive Anchor where
  | relative
  | root
  | doubleRoot
  deriving DecidableEq, Repr

/-- **A path:** where it starts, and its parts. -/
structure Path where
  anchor : Anchor
  parts : List String
  deriving DecidableEq, Repr

/-- **A location:** the parts of an absolute path without double points. -/
abbrev Location := List String

namespace Path

/-- Where a path with this text starts. -/
def anchorOf : List Char → Anchor
  | '/' :: '/' :: '/' :: _ => .root
  | '/' :: '/' :: _ => .doubleRoot
  | '/' :: _ => .root
  | _ => .relative

/-- What stands between the slashes of a text. -/
def pieces (s : String) : List String := (Text.cutAt '/' s.toList).map String.ofList

/-- The piece leads nowhere: it is empty or a single point. -/
def isIdle (piece : String) : Bool := piece == "" || piece == "."

/-- The path with a text. -/
def ofString (s : String) : Path where
  anchor := anchorOf s.toList
  parts := (pieces s).filter fun piece => !isIdle piece

/-- What stands in front of the parts of a path in its text. -/
def anchorText : Anchor → String
  | .relative => ""
  | .root => "/"
  | .doubleRoot => "//"

/-- **The text of a path.** -/
def text (p : Path) : String :=
  if p.anchor = .relative ∧ p.parts = [] then "."
  else anchorText p.anchor ++ Text.joined "/" p.parts

/-- The path of a location. -/
def ofLocation (l : Location) : Path := ⟨.root, l⟩

/-- The path starts at the root. -/
def isAbsolute (p : Path) : Bool := p.anchor != .relative

/-- A path without its last part. -/
def parent (p : Path) : Path := { p with parts := p.parts.dropLast }

/-- The path `q`, seen from `p`. -/
def join (p q : Path) : Path :=
  if q.isAbsolute then q else { p with parts := p.parts ++ q.parts }

/-- There is a zero character in the path. -/
def hasNul (p : Path) : Bool := p.parts.any (·.toList.contains '\x00')

/-- One step from a location: a double point goes up, and stays at the root. -/
def step (l : Location) (piece : String) : Location :=
  if isIdle piece then l else if piece = ".." then l.dropLast else l ++ [piece]

/-- The location at which a path starts, seen from `cwd`. -/
def start (cwd : Location) (p : Path) : Location := if p.isAbsolute then [] else cwd

/-- **The location of a path,** seen from `cwd`. -/
def resolve (cwd : Location) (p : Path) : Location := p.parts.foldl step (p.start cwd)

end Path

end CrossRef
