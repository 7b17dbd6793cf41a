import CrossRef.Assoc
import CrossRef.Json.Data
import CrossRef.Number.Reader
import CrossRef.Text.Hex

/-! # Reading JSON

Values of environment variables may be written in JSON. Beside the standard language the words
`NaN`, `Infinity` and `-Infinity` are numbers. Of several fields with one name the last stands. A
whole number with more digits than `Number.digitLimit` ends the reading with an error of its own,
which tells it from text that is not JSON; and so does an array or an object inside so many others
that the stack has no room left for it. How much room there is depends on the callers.
-/

namespace CrossRef.Json

/-- Why a text is not read: it is no JSON, a whole number in it has too many digits, or an array or
an object, as `kind` says, stands inside too many others. -/
inductive Refusal where
  | malformed
  | longInteger (digits : Nat)
  | tooDeep (kind : String)
  deriving DecidableEq, Repr

/-- A result and the rest of the text, or a refusal. -/
abbrev Reading (α : Type) := Except Refusal (α × List Char)

/-- The fields of an object that is read. -/
abbrev Fields := Assoc (List CodePoint) Data

/-- A blank, a tab or a line end. -/
def isSpace (c : Char) : Bool := c == ' ' || c == '\t' || c == '\n' || c == '\r'

/-- A text without white space at its beginning. -/
def skipSpace (cs : List Char) : List Char := cs.dropWhile isSpace

/-! ### Strings -/

/-- The character of a short escape. -/
def shortEscape? : Char → Option Char
  | '"' => some '"'
  | '\\' => some '\\'
  | '/' => some '/'
  | 'b' => some '\x08'
  | 'f' => some '\x0C'
  | 'n' => some '\n'
  | 'r' => some '\r'
  | 't' => some '\t'
  | _ => none

/-- The character that a pair of sixteen-bit units stands for. -/
def pairChar? (high low : Nat) : Option Char :=
  if 0xD800 ≤ high ∧ high < 0xDC00 ∧ 0xDC00 ≤ low ∧ low < 0xE000 then
    some (Char.ofNat (0x10000 + (high - 0xD800) * 0x400 + (low - 0xDC00)))
  else none

/-- The code point that one sixteen-bit unit stands for: a character, unless it is a surrogate. -/
def unitPoint (n : Nat) : CodePoint := if n.isValidChar then .char (Char.ofNat n) else .lone n

/-- The code point of an escaped unit, from its hexadecimal digits. -/
def unit? (digits : List Char) : Option CodePoint := (Text.hexNumber? digits).map unitPoint

/-- The character of an escaped pair of units, from their hexadecimal digits. -/
def pair? (high low : List Char) : Option Char :=
  (Text.hexNumber? high).bind fun high => (Text.hexNumber? low).bind (pairChar? high)

/-- A string after its opening quote. Two escaped units that are a pair are one character. -/
def string : List Char → Reading (List CodePoint)
  | [] => .error .malformed
  | '"' :: cs => .ok ([], cs)
  | '\\' :: 'u' :: a :: b :: c :: d :: '\\' :: 'u' :: e :: f :: g :: h :: cs =>
    match pair? [a, b, c, d] [e, f, g, h] with
    | some x => (string cs).map fun (s, r) => (.char x :: s, r)
    | none =>
      match unit? [a, b, c, d] with
      | some x =>
        (string ('\\' :: 'u' :: e :: f :: g :: h :: cs)).map fun (s, r) => (x :: s, r)
      | none => .error .malformed
  | '\\' :: 'u' :: a :: b :: c :: d :: cs =>
    match unit? [a, b, c, d] with
    | some x => (string cs).map fun (s, r) => (x :: s, r)
    | none => .error .malformed
  | '\\' :: c :: cs =>
    match shortEscape? c with
    | some x => (string cs).map fun (s, r) => (.char x :: s, r)
    | none => .error .malformed
  | c :: cs =>
    if c.toNat < 0x20 ∨ c = '\\' then .error .malformed
    else (string cs).map fun (s, r) => (.char c :: s, r)

/-! ### Numbers and words -/

/-- The decimal digits at the beginning of a text, and the rest, if there is a digit. -/
def digits? (cs : List Char) : Option (List Nat × List Char) :=
  let run := cs.takeWhile Char.isDigit
  if run.isEmpty then none
  else some (run.map fun c => c.toNat - '0'.toNat, cs.dropWhile Char.isDigit)

/-- The whole part of a number: a zero alone, or digits without a zero in front. -/
def whole : List Char → Option (List Nat × List Char)
  | '0' :: rest => some ([0], rest)
  | cs => digits? cs

/-- The places of a number, if a point and a digit follow. -/
def places : List Char → Option (List Nat × List Char)
  | '.' :: cs => digits? cs
  | _ => none

/-- The exponent of a number, if its mark and a digit follow. -/
def exponent? : List Char → Option (Int × List Char)
  | c :: cs =>
    if c = 'e' ∨ c = 'E' then
      let (negative, body) := Number.sign cs
      (digits? body).map fun (ds, rest) =>
        (if negative then -(Number.ofDigits ds : Int) else Number.ofDigits ds, rest)
    else none
  | [] => none

/-- A number after its sign. -/
def number (negative : Bool) (cs : List Char) : Reading Data :=
  match whole cs with
  | none => .error .malformed
  | some (ds, rest) =>
    match places rest, exponent? (((places rest).map (·.2)).getD rest) with
    | none, none =>
      match Number.limited negative ds with
      | .ok n => .ok (.int n, rest)
      | .error (.tooLong count) => .error (.longInteger count)
      | .error .malformed => .error .malformed
    | fraction, power =>
      let (fs, afterFraction) := fraction.getD ([], rest)
      let (e, after) := power.getD (0, afterFraction)
      .ok (.float (Double.ofDecimal negative (Number.ofDigits (ds ++ fs)) (e - fs.length)), after)

/-- The words of the language and what they say. -/
def words : List (String × Data) :=
  [("null", .null), ("true", .bool true), ("false", .bool false), ("NaN", .float .nan),
   ("Infinity", .float (.infinite false)), ("-Infinity", .float (.infinite true))]

/-- A word or a number. -/
def scalar (cs : List Char) : Reading Data :=
  match words.find? fun w => w.1.toList.isPrefixOf cs with
  | some w => .ok (w.2, cs.drop w.1.length)
  | none =>
    match cs with
    | '-' :: rest => number true rest
    | _ => number false cs

/-! ### Arrays and objects -/

mutual

/-- **A value.** There is room for `room` arrays and objects inside one another. Each nested value
takes one unit of fuel. -/
def value : Nat → Nat → List Char → Reading Data
  | 0, _, _ => .error .malformed
  | fuel + 1, room, cs =>
    match cs with
    | '"' :: rest => (string rest).map fun (s, r) => (.text s, r)
    | '[' :: rest =>
      match room with
      | 0 => .error (.tooDeep "array")
      | room + 1 =>
        match skipSpace rest with
        | ']' :: after => .ok (.array [], after)
        | rest => (items fuel room rest).map fun (vs, r) => (.array vs, r)
    | '\x7b' :: rest =>
      match room with
      | 0 => .error (.tooDeep "object")
      | room + 1 =>
        match skipSpace rest with
        | '\x7d' :: after => .ok (.object [], after)
        | rest => (fields fuel room [] rest).map fun (t, r) => (.object t, r)
    | _ => scalar cs

/-- The items of an array, from the first to the closing bracket. -/
def items : Nat → Nat → List Char → Reading (List Data)
  | 0, _, _ => .error .malformed
  | fuel + 1, room, cs =>
    (value fuel room cs).bind fun (v, r) =>
      match skipSpace r with
      | ']' :: after => .ok ([v], after)
      | ',' :: after => (items fuel room (skipSpace after)).map fun (vs, r) => (v :: vs, r)
      | _ => .error .malformed

/-- The fields of an object, from the first to the closing brace, put into those before. -/
def fields : Nat → Nat → Fields → List Char → Reading Fields
  | 0, _, _, _ => .error .malformed
  | fuel + 1, room, t, cs =>
    match cs with
    | '"' :: rest =>
      (string rest).bind fun (k, r) =>
        match skipSpace r with
        | ':' :: after =>
          (value fuel room (skipSpace after)).bind fun (v, r) =>
            let t := Assoc.put t k v
            match skipSpace r with
            | '\x7d' :: after => .ok (t, after)
            | ',' :: after => fields fuel room t (skipSpace after)
            | _ => .error .malformed
        | _ => .error .malformed
    | _ => .error .malformed

end

/-- **What a text says,** read with room for `room` arrays and objects inside one another. -/
def parse (room : Nat) (cs : List Char) : Except Refusal Data :=
  (value (2 * cs.length + 1) room (skipSpace cs)).bind fun (v, rest) =>
    if (skipSpace rest).isEmpty then .ok v else .error .malformed

end CrossRef.Json
