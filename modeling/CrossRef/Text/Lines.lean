import CrossRef.Text.Ranges

/-! # Lines of a text

Three ways to see lines, all of which the program needs:

* `unixLines`: every carriage return, alone or before a line feed, becomes one line feed. Files and
  tool output are read this way.
* `cutAtFeeds`: the pieces of a text between line feeds. A text with `n` line feeds has `n + 1`
  pieces, the last one possibly empty. Spans and views count lines this way.
* `wideLines`: the lines of a text under the wide set of line breaks, which has also the vertical
  tab, the form feed, the information separators `U+001C` to `U+001E`, the next-line control and the
  separators `U+2028` and `U+2029`. A break ends a line, so no empty line follows a final break.
-/

namespace CrossRef.Text

/-- Every carriage return, with the line feed after it if there is one, becomes a line feed. -/
def unixLines : List Char → List Char
  | [] => []
  | '\r' :: '\n' :: cs => '\n' :: unixLines cs
  | c :: cs => (if c = '\r' then '\n' else c) :: unixLines cs

/-- Put `c` in front of the first piece, or open a piece with it. -/
def consPiece (c : Char) : List (List Char) → List (List Char)
  | [] => [[c]]
  | p :: ps => (c :: p) :: ps

/-- The pieces of a text between separators. -/
def cutAt (sep : Char) : List Char → List (List Char)
  | [] => [[]]
  | c :: cs => if c = sep then [] :: cutAt sep cs else consPiece c (cutAt sep cs)

/-- **The pieces of a text between line feeds.** -/
def cutAtFeeds (cs : List Char) : List (List Char) := cutAt '\n' cs

/-- The pieces between line feeds, where a final empty piece does not count as a line. -/
def feedLines (cs : List Char) : List (List Char) :=
  let pieces := cutAtFeeds cs
  if pieces.getLast? = some [] then pieces.dropLast else pieces

/-- The characters that end a line in the wide sense. -/
def isWideBreak (c : Char) : Bool :=
  inTable [(0x0A, 0x0D), (0x1C, 0x1E), (0x85, 0x85), (0x2028, 0x2029)] c

/-- **The lines of a text under the wide set of breaks.** A carriage return and the line feed after
it are one break. -/
def wideLines : List Char → List (List Char)
  | [] => []
  | '\r' :: '\n' :: cs => [] :: wideLines cs
  | c :: cs => if isWideBreak c then [] :: wideLines cs else consPiece c (wideLines cs)

/-- Texts joined with `sep` between them. -/
def joined (sep : String) (parts : List String) : String := sep.intercalate parts

end CrossRef.Text
