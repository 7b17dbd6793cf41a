import CrossRef.Text.Lines

/-! # Spans of text

A span is a stretch of a document with the line and the column of its beginning, both counted from
one. Lines end at line feeds and at nothing else. Offsets outside the text are allowed: one below
zero counts from the end of the text, and one past the end stands for the end, as far as the text
and the line of the span go; the column is counted from the offset as given.
-/

namespace CrossRef

/-- **A stretch of text** between two offsets, with the line and the column of its beginning. -/
structure Span where
  start : Int
  stop : Int
  text : String
  line : Int
  column : Int
  deriving DecidableEq, Repr

namespace Span

/-- The place in a text of `n` characters that an offset stands for. -/
def place (n : Nat) (offset : Int) : Nat :=
  if offset < 0 then (offset + n).toNat else min offset.toNat n

/-- The characters between two offsets. -/
def slice (cs : List Char) (start stop : Int) : List Char :=
  let i := place cs.length start
  (cs.drop i).take (place cs.length stop - i)

/-- How many characters stand before the last line feed; `none` if there is no line feed. -/
def lastFeed? : List Char → Option Nat
  | [] => none
  | c :: cs =>
    match lastFeed? cs with
    | some i => some (i + 1)
    | none => if c = '\n' then some 0 else none

/-- The offset at which the last line of a text begins. -/
def lineStart (cs : List Char) : Nat :=
  match lastFeed? cs with
  | some i => i + 1
  | none => 0

/-- **The span between two offsets** of a text. -/
def between (cs : List Char) (start stop : Int) : Span :=
  let before := cs.take (place cs.length start)
  { start, stop
    text := String.ofList (slice cs start stop)
    line := before.count '\n' + 1
    column := start - lineStart before + 1 }

end Span

end CrossRef
