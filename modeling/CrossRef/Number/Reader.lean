import CrossRef.Number.Double
import CrossRef.Text.Blank

/-! # Numbers read from text

Whole numbers and numbers with a fraction, as a user types them: white space around them, other than
the four separators of information, is ignored, a sign may stand in front, the digits are decimal
digits of any script, and a single underscore may stand between two digits. A number with a fraction
may also have a point, an exponent, or be one of the words `inf`, `infinity` and `nan` in any case.

Reading a whole number is refused above `digitLimit` digits, leading zeros included.
-/

namespace CrossRef.Number

/-- The code points of the digit zero in each script. -/
def zeroDigits : List Nat :=
  [0x30, 0x660, 0x6F0, 0x7C0, 0x966, 0x9E6, 0xA66, 0xAE6, 0xB66, 0xBE6, 0xC66, 0xCE6, 0xD66,
   0xDE6, 0xE50, 0xED0, 0xF20, 0x1040, 0x1090, 0x17E0, 0x1810, 0x1946, 0x19D0, 0x1A80, 0x1A90,
   0x1B50, 0x1BB0, 0x1C40, 0x1C50, 0xA620, 0xA8D0, 0xA900, 0xA9D0, 0xA9F0, 0xAA50, 0xABF0,
   0xFF10, 0x104A0, 0x10D30, 0x11066, 0x110F0, 0x11136, 0x111D0, 0x112F0, 0x11450, 0x114D0,
   0x11650, 0x116C0, 0x11730, 0x118E0, 0x11950, 0x11C50, 0x11D50, 0x11DA0, 0x16A60, 0x16AC0,
   0x16B50, 0x1D7CE, 0x1D7D8, 0x1D7E2, 0x1D7EC, 0x1D7F6, 0x1E140, 0x1E2F0, 0x1E950, 0x1FBF0]

/-- The value of a decimal digit of any script. -/
def digit? (c : Char) : Option Nat :=
  (zeroDigits.find? fun z => z ≤ c.toNat && c.toNat < z + 10).map (c.toNat - ·)

/-- The number that a list of decimal digits spells. -/
def ofDigits (ds : List Nat) : Nat := ds.foldl (fun n d => 10 * n + d) 0

/-- The digits that go on a run of digits, and what follows the run. An underscore belongs to the
run if a digit follows it. -/
def moreDigits : List Char → List Nat × List Char
  | [] => ([], [])
  | c :: cs =>
    match digit? c with
    | some d => let (ds, rest) := moreDigits cs; (d :: ds, rest)
    | none =>
      if c = '_' && (cs.head?.bind digit?).isSome then moreDigits cs else ([], c :: cs)

/-- A run of digits at the beginning of a text, and what follows it. -/
def digitRun (cs : List Char) : List Nat × List Char :=
  if (cs.head?.bind digit?).isSome then moreDigits cs else ([], cs)

/-- White space that may stand around a number: not the separators of information. -/
def isPadding (c : Char) : Bool := Text.isBlank c && !(0x1C ≤ c.toNat && c.toNat ≤ 0x1F)

/-- A text without padding at either end. -/
def unpadded (cs : List Char) : List Char := Text.dropEnd isPadding (cs.dropWhile isPadding)

/-- A sign at the beginning of a text: whether it is a minus, and what follows it. -/
def sign : List Char → Bool × List Char
  | '-' :: cs => (true, cs)
  | '+' :: cs => (false, cs)
  | cs => (false, cs)

/-! ### Whole numbers -/

/-- The greatest count of digits that a whole number may be written with. -/
def digitLimit : Nat := 4300

/-- Why a text is no whole number: it has another form, or too many digits. -/
inductive Refusal where
  | malformed
  | tooLong (digits : Nat)
  deriving DecidableEq, Repr

/-- The whole number that a list of digits spells, unless there are too many. -/
def limited (negative : Bool) (ds : List Nat) : Except Refusal Int :=
  if ds.length > digitLimit then .error (.tooLong ds.length)
  else .ok (if negative then -(ofDigits ds : Int) else ofDigits ds)

/-- **The whole number that a text spells.** -/
def readInt (cs : List Char) : Except Refusal Int :=
  let (negative, body) := sign (unpadded cs)
  match digitRun body with
  | ([], _) => .error .malformed
  | (ds, []) => limited negative ds
  | _ => .error .malformed

/-! ### Numbers with a fraction -/

/-- The exponent at the beginning of a text, zero if there is none, and what follows it. -/
def exponent (cs : List Char) : Int × List Char :=
  match cs with
  | c :: rest =>
    if c = 'e' ∨ c = 'E' then
      let (negative, body) := sign rest
      match digitRun body with
      | ([], _) => (0, cs)
      | (ds, after) => (if negative then -(ofDigits ds : Int) else ofDigits ds, after)
    else (0, cs)
  | [] => (0, [])

/-- The digits after a point at the beginning of a text, and what follows them. -/
def fraction : List Char → List Nat × List Char
  | '.' :: cs => digitRun cs
  | cs => ([], cs)

/-- The decimal that a text without sign spells. -/
def readDecimal (negative : Bool) (cs : List Char) : Option Double :=
  let (whole, afterWhole) := digitRun cs
  let (places, afterPlaces) := fraction afterWhole
  if whole.isEmpty && places.isEmpty then none
  else match exponent afterPlaces with
    | (e, []) =>
      some (Double.ofDecimal negative (ofDigits (whole ++ places)) (e - places.length))
    | _ => none

/-- The number that a word spells. -/
def readWord (negative : Bool) (cs : List Char) : Option Double :=
  let word := cs.map Char.toLower
  if word = "inf".toList ∨ word = "infinity".toList then some (.infinite negative)
  else if word = "nan".toList then some .nan
  else none

/-- **The number that a text spells.** -/
def readDouble (cs : List Char) : Option Double :=
  let (negative, body) := sign (unpadded cs)
  (readWord negative body).or (readDecimal negative body)

end CrossRef.Number
