import CrossRef.Text.Lines
import CrossRef.Text.LowerCase

/-! # The language of a document

Which language a document is taken for: an XML declaration settles it; else the name of the file
does, if it is known elsewhere; else SGML endings are accepted in any case; and all else is text.
-/

namespace CrossRef.View

/-- The text begins with an XML declaration, after blanks, tabs, line ends and byte order marks. -/
def beginsAsXml (cs : List Char) : Bool :=
  "<?xml".toList.isPrefixOf
    (cs.dropWhile fun c => c == '\uFEFF' || c == ' ' || c == '\t' || c == '\r' || c == '\n')

/-- Endings of SGML files. -/
def sgmlEndings : List String := [".sgml", ".sgm", ".dtd"]

/-- The path has an ending of an SGML file, in any case. -/
def endsAsSgml (path : String) : Bool :=
  sgmlEndings.any fun e => e.toList.isSuffixOf (Text.lower path).toList

/-- **What a document is taken for,** by its text and its path, where `named?` is what the name of
the file is known for. -/
def languageOf {L : Type} (xml sgml text : L) (named? : Option L) (path : String)
    (cs : List Char) : L :=
  if beginsAsXml cs then xml
  else match named? with
    | some l => l
    | none => if endsAsSgml path then sgml else text

/-! ### Names of files -/

/-- What follows the last slash of a path. -/
def baseName (cs : List Char) : List Char := (Text.cutAt '/' cs).getLast?.getD []

/-- What a file is known for by the ending of its name, in the case in which it is given. -/
def byEnding? {L : Type} (endings : List (String × L)) (path : String) : Option L :=
  (endings.find? fun e => e.1.toList.isSuffixOf (baseName path.toList)).map (·.2)

end CrossRef.View
