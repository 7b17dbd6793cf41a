import CrossRef.Index
import CrossRef.Text.Blank

/-! # The listing of an index

A listing has two header lines and then one line for each declaration, the identifier and, in
brackets, the element. `identifierOnLine?` reads the identifier back from such a line.
-/

namespace CrossRef.Listing

/-- The header lines. -/
def header : List String := ["Identifier (element)", "--------------------"]

/-- The line of a declaration. -/
def line (e : Entry) : String := e.identifier ++ " (" ++ e.element ++ ")"

/-- **The listing of an index.** -/
def render (x : Index) : List String := header ++ x.entries.map line

/-- What stands between a pair of brackets that ends the text; `none` if it holds a bracket. -/
def bracketed? : List Char → Option (List Char)
  | '(' :: cs =>
    if cs.getLast? = some ')' && !cs.dropLast.any (fun c => c == '(' || c == ')') then
      some cs.dropLast
    else none
  | _ => none

/-- The identifier on a line without outer white space: a run of characters other than white
space, one blank, and the element in brackets. -/
def identifier? (cs : List Char) : Option (List Char) :=
  match cs.dropWhile Text.isSolid with
  | ' ' :: rest =>
    if (cs.takeWhile Text.isSolid).isEmpty || (bracketed? rest).isNone then none
    else some (cs.takeWhile Text.isSolid)
  | _ => none

/-- **The identifier that a listing line shows;** `none` for the header lines and for any other
line. -/
def identifierOnLine? (line : String) : Option String :=
  let s := Text.stripped line
  if s ∈ header then none else (identifier? s.toList).map String.ofList

end CrossRef.Listing
