import CrossRef.Text.Hex
import CrossRef.Text.Printable

/-! # Quoted texts in messages

A message shows a name or a value between quotes. Single quotes are used, unless the text holds one
and no double quote. The quote in use, the backslash and everything that does not print are written
as escapes.
-/

namespace CrossRef.Text

/-- The escape of a character by its code point, in the shortest of the three widths. -/
def codeEscape (c : Char) : List Char :=
  let n := c.toNat
  if n < 0x100 then '\\' :: 'x' :: hexDigits 2 n
  else if n < 0x10000 then '\\' :: 'u' :: hexDigits 4 n
  else '\\' :: 'U' :: hexDigits 8 n

/-- How `c` is written between two `quote`s. -/
def quotedChar (quote c : Char) : List Char :=
  if c = quote ∨ c = '\\' then ['\\', c]
  else if c = '\n' then ['\\', 'n']
  else if c = '\r' then ['\\', 'r']
  else if c = '\t' then ['\\', 't']
  else if isPrintable c then [c]
  else codeEscape c

/-- The quote to put around a text. -/
def quoteFor (cs : List Char) : Char :=
  if cs.contains '\'' && !cs.contains '"' then '"' else '\''

/-- **A text between quotes**, as messages show it. -/
def quoted (s : String) : String :=
  let quote := quoteFor s.toList
  String.ofList (quote :: s.toList.flatMap (quotedChar quote) ++ [quote])

end CrossRef.Text
