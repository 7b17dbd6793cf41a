import CrossRef.Number.Layout
import CrossRef.Text.Lines
import CrossRef.Text.Quoted
import CrossRef.Value.Basic

/-! # Writing JSON

Reports for other programs are written with one item or field on a line, each level of nesting
indented by two blanks. The text is ASCII: every other character is written as one or two
sixteen-bit units.
-/

namespace CrossRef.Json

/-- The escape of a sixteen-bit unit. -/
def unitText (n : Nat) : List Char := '\\' :: 'u' :: Text.hexDigits 4 n

/-- How a character is written in a string. -/
def escaped (c : Char) : List Char :=
  let n := c.toNat
  if c = '"' then ['\\', '"']
  else if c = '\\' then ['\\', '\\']
  else if c = '\n' then ['\\', 'n']
  else if c = '\r' then ['\\', 'r']
  else if c = '\t' then ['\\', 't']
  else if c = '\x0C' then ['\\', 'f']
  else if c = '\x08' then ['\\', 'b']
  else if 0x20 ≤ n ∧ n < 0x7F then [c]
  else if n < 0x10000 then unitText n
  else unitText (0xD800 + (n - 0x10000) / 0x400) ++ unitText (0xDC00 + (n - 0x10000) % 0x400)

/-- A string between double quotes. -/
def stringText (s : String) : String :=
  String.ofList ('"' :: s.toList.flatMap escaped ++ ['"'])

/-- A code point in a string. -/
def escapedPoint : CodePoint → List Char
  | .char c => escaped c
  | .lone unit => unitText unit

/-- A string of code points between double quotes. -/
def pointsText (s : List CodePoint) : String :=
  String.ofList ('"' :: s.flatMap escapedPoint ++ ['"'])

/-- A number with a fraction. -/
def floatText : Double → String
  | .nan => "NaN"
  | .infinite negative => if negative then "-Infinity" else "Infinity"
  | x => x.text

/-- Blanks for a depth of nesting. -/
def indent (depth : Nat) : String := String.ofList (List.replicate (2 * depth) ' ')

/-- Parts between brackets, each on a line of its own one level deeper than the brackets. -/
def bracketed (opening closing : String) (depth : Nat) (parts : List String) : String :=
  if parts.isEmpty then opening ++ closing
  else
    opening ++ "\n" ++ Text.joined ",\n" (parts.map (indent (depth + 1) ++ ·)) ++ "\n" ++
      indent depth ++ closing

mutual

/-- JSON data at a depth of nesting. -/
def dataAt (depth : Nat) : Data → String
  | .null => "null"
  | .bool b => if b then "true" else "false"
  | .int n => toString n
  | .float x => floatText x
  | .text s => pointsText s
  | .array items => bracketed "[" "]" depth (dataItemsAt (depth + 1) items)
  | .object fields => bracketed "\x7b" "\x7d" depth (dataFieldsAt (depth + 1) fields)

/-- The items of an array of data at a depth of nesting. -/
def dataItemsAt (depth : Nat) : List Data → List String
  | [] => []
  | d :: ds => dataAt depth d :: dataItemsAt depth ds

/-- The fields of an object of data at a depth of nesting. -/
def dataFieldsAt (depth : Nat) : List (List CodePoint × Data) → List String
  | [] => []
  | (k, d) :: rest => (pointsText k ++ ": " ++ dataAt depth d) :: dataFieldsAt depth rest

end

mutual

/-- A value at a depth of nesting. -/
def textAt (depth : Nat) : Value → String
  | .null => "null"
  | .bool b => if b then "true" else "false"
  | .int n => toString n
  | .float x => floatText x
  | .str s => stringText s
  | .moment m => stringText m.iso
  | .array items => bracketed "[" "]" depth (itemsAt (depth + 1) items)
  | .table entries => bracketed "\x7b" "\x7d" depth (fieldsAt (depth + 1) entries)
  | .json d => dataAt depth d

/-- The items of an array at a depth of nesting. -/
def itemsAt (depth : Nat) : List Value → List String
  | [] => []
  | v :: vs => textAt depth v :: itemsAt depth vs

/-- The fields of an object at a depth of nesting. -/
def fieldsAt (depth : Nat) : List (String × Value) → List String
  | [] => []
  | (k, v) :: rest => (stringText k ++ ": " ++ textAt depth v) :: fieldsAt depth rest

end

/-- **A value as indented text.** -/
def print (v : Value) : String := textAt 0 v

end CrossRef.Json
