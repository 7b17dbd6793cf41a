import CrossRef.Index
import CrossRef.Span
import CrossRef.Text.CaseClass

/-! # Finding a declaration in a document

An indexed identifier is looked for in the text of its document as an assignment: the name of the
attribute, an equals sign, and the identifier, with or without a double quote on either side of it.
The first place in the text that reads so is the declaration. Nothing has to end the identifier, so
a longer one that begins with it is found as well.

* `Target.match?`: how much of a text the assignment takes at its very beginning.
* `Target.search`: the first place where it matches.
* `Declaration.resolve`: from an index, an identifier and a text to a span.
-/

namespace CrossRef

/-- **What is looked for:** the assignment of an identifier to an attribute. -/
structure Target where
  attr : String
  identifier : String
  deriving DecidableEq, Repr

namespace Target

/-- What follows `pattern` in a text that begins with it, character by character under `same`. -/
def after? (same : Char → Char → Bool) : List Char → List Char → Option (List Char)
  | [], cs => some cs
  | _ :: _, [] => none
  | p :: ps, c :: cs => if same p c then after? same ps cs else none

/-- The identifier after an opening quote if it reads so, else without one. -/
def afterValue? (same : Char → Char → Bool) (identifier : List Char) :
    List Char → Option (List Char)
  | '"' :: cs => (after? same identifier cs).or (after? same identifier ('"' :: cs))
  | cs => after? same identifier cs

/-- A text without a double quote at its beginning. -/
def dropQuote : List Char → List Char
  | '"' :: cs => cs
  | cs => cs

/-- What follows the assignment in a text that begins with it. -/
def rest? (t : Target) (same : Char → Char → Bool) (cs : List Char) : Option (List Char) :=
  (after? same (t.attr.toList ++ ['=']) cs).bind fun cs =>
    (afterValue? same t.identifier.toList cs).map dropQuote

/-- **The number of characters that the assignment takes** at the beginning of a text. -/
def match? (t : Target) (same : Char → Char → Bool) (cs : List Char) : Option Nat :=
  (t.rest? same cs).map fun rest => cs.length - rest.length

/-- The first place at or after offset `i` where the assignment matches, and its length; the text
from `i` on is `cs`. -/
def searchFrom (t : Target) (same : Char → Char → Bool) (i : Nat) :
    List Char → Option (Nat × Nat)
  | [] => (t.match? same []).map (i, ·)
  | c :: cs =>
    match t.match? same (c :: cs) with
    | some n => some (i, n)
    | none => searchFrom t same (i + 1) cs

/-- **The first assignment in a text**, as a span. -/
def search (t : Target) (caseSensitive : Bool) (cs : List Char) : Option Span :=
  (t.searchFrom (Text.sameChar caseSensitive) 0 cs).map fun (i, n) => Span.between cs i (i + n)

end Target

/-! ### Resolving an identifier -/

/-- Why an identifier has no declaration: the index does not know it, or the text does not hold the
assignment that the index asks for. -/
inductive Declaration.Missing where
  | unknown (identifier : String)
  | stale (target : Target)
  deriving DecidableEq, Repr

/-- What the index says to look for. -/
def Declaration.target? (x : Index) (identifier : String) : Option Target :=
  (x.lookup? identifier).map fun (attr, _) => ⟨attr, x.fold identifier⟩

/-- **The declaration of an identifier in a text.** -/
def Declaration.resolve (x : Index) (identifier : String) (text : List Char) :
    Except Declaration.Missing Span :=
  match target? x identifier with
  | none => .error (.unknown identifier)
  | some target =>
    match target.search x.caseSensitive text with
    | none => .error (.stale target)
    | some span => .ok span

end CrossRef
