import CrossRef.Text.Blank

/-! # Events of a parsed document

A markup parser reports a document as lines. Two shapes of line matter for cross-references: an
attribute line, `A` with a name, a kind and a value, and an element start, `(` with a name. A line
gives an event if it is an attribute of the kind `ID` or an element start; every other line, data,
end tags and attributes of other kinds among them, gives none.

Names and kinds are runs of characters other than white space. The value is what follows the kind,
without white space around it. A line feed may stand in the white space before the value, but not
in the value.
-/

namespace CrossRef

/-- **What a line reports:** an attribute with its value and declared kind, which belongs to the
next element start, or the start of an element. -/
inductive Event where
  | attr (name value kind : String)
  | element (name : String)
  deriving DecidableEq, Repr

namespace Event

/-- The kind of the attributes that declare identifiers. -/
def idKind : String := "ID"

/-- The characters that may end a line. -/
def isLineEnd (c : Char) : Bool := c == '\r' || c == '\n'

/-- A run of characters other than white space, and what follows it. -/
def word (cs : List Char) : List Char × List Char :=
  (cs.takeWhile Text.isSolid, cs.dropWhile Text.isSolid)

/-- The value in what follows the kind of an attribute: `none` if it would hold a line feed. -/
def value? (cs : List Char) : Option (List Char) :=
  if (Text.trimLeft cs).contains '\n' then none else some (Text.trim cs)

/-- The attribute on a line, given what follows its `A`. -/
def attr? (cs : List Char) : Option Event :=
  let (name, afterName) := word cs
  let (kind, afterKind) := word (Text.trimLeft afterName)
  if name.isEmpty || kind != idKind.toList then none
  else (value? afterKind).map fun value =>
    .attr (String.ofList name) (String.ofList value) idKind

/-- The element start on a line, given what follows its bracket. -/
def element? (cs : List Char) : Option Event :=
  let name := (word cs).1
  if name.isEmpty then none else some (.element (String.ofList name))

/-- The event on a line without its line end. -/
def ofChars? : List Char → Option Event
  | 'A' :: cs => attr? cs
  | '(' :: cs => element? cs
  | _ => none

/-- **The event that a line reports, if any.** The line may carry its line end. -/
def ofLine? (line : String) : Option Event := ofChars? (Text.dropEnd isLineEnd line.toList)

/-- The events of a list of lines, in order. -/
def ofLines (lines : List String) : List Event := lines.filterMap ofLine?

end Event

end CrossRef
