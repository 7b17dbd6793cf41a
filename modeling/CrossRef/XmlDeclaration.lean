import CrossRef.Text.Blank

/-! # The XML declaration

A document is taken for XML, whose names are case-sensitive, if it begins with an XML declaration.
A byte order mark and white space may stand in front of it, and its name has to end there: with
white space or a question mark.
-/

namespace CrossRef

/-- What follows `pattern` in a text that begins with it. -/
def afterLiteral? (pattern : String) (cs : List Char) : Option (List Char) :=
  if pattern.toList.isPrefixOf cs then some (cs.drop pattern.length) else none

/-- A text without a byte order mark at its beginning. -/
def dropMark : List Char → List Char
  | '\uFEFF' :: cs => cs
  | cs => cs

/-- **The text begins with an XML declaration.** -/
def declaresXml (cs : List Char) : Bool :=
  match afterLiteral? "<?xml" (Text.trimLeft (dropMark cs)) with
  | some (c :: _) => Text.isBlank c || c == '?'
  | _ => false

end CrossRef
