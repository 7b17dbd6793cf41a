import CrossRef.Span
import CrossRef.View.Highlighter

/-! # A declaration in context

The lines around a span, with their numbers, and a mark on the line of the span itself. The header
has the path, the line and the column. All numbers are as wide as the last one. In colours, the
lines are those of the coloured document, unless that has another number of lines.
-/

namespace CrossRef.View

/-- The mark on the line of the span. -/
def mark : Char := '>'

/-- A number at the right end of a field. -/
def rightAligned (width : Nat) (n : Nat) : List Char :=
  let ds := Nat.toDigits 10 n
  List.replicate (width - ds.length) ' ' ++ ds

/-- One numbered line. -/
def numberedLine (width : Nat) (marked : Bool) (number : Nat) (line : List Char) : List Char :=
  (if marked then mark else ' ') :: ' ' :: rightAligned width number ++ [' ', '|', ' '] ++ line

/-- The header of a view. -/
def headerLine (path : String) (s : Span) : List Char :=
  (path ++ ":" ++ toString s.line ++ ":" ++ toString s.column).toList

/-- The first line of a view. -/
def firstLine (line context : Int) : Int := max (line - context) 1

/-- The last line of a view of a document with `count` lines. -/
def lastLine (line context : Int) (count : Nat) : Int := min (line + context) count

/-- The numbers of the lines of a view. -/
def lineNumbers (line context : Int) (count : Nat) : List Nat :=
  let first := (firstLine line context).toNat
  (List.range ((lastLine line context count).toNat + 1 - first)).map (first + ·)

/-- **The lines around a span,** taken from `lines`. -/
def contextLines (path : String) (s : Span) (context : Int) (lines : List (List Char)) :
    List (List Char) :=
  let width := (Nat.toDigits 10 (lastLine s.line context lines.length).toNat).length
  headerLine path s :: (lineNumbers s.line context lines.length).map fun (number : Nat) =>
    numberedLine width ((number : Int) = s.line) number (lines.getD (number - 1) [])

/-- The lines that a view shows: those in colours if there is a style and they are as many. -/
def shownLines (h : Highlighter) (path : String) (cs : List Char) (style : Option Style) :
    List (List Char) :=
  let raw := Text.feedLines cs
  match style with
  | none => raw
  | some style =>
    let inColours := colouredLines h style path cs
    if inColours.length = raw.length then inColours else raw

/-- **A view of a document around a span.** -/
def render (h : Highlighter) (path : String) (cs : List Char) (s : Span) (context : Int)
    (style : Option Style) : List (List Char) :=
  contextLines path s context (shownLines h path cs style)

end CrossRef.View
