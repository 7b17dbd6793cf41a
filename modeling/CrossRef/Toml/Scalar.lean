import CrossRef.Toml.Reading
import CrossRef.Value.Basic

/-! # Scalars without quotes

Numbers, truth values and moments are written as one word: a run of letters, digits and the
characters `_ + - . :`. A date and a time may also be divided by one blank. The word is read whole,
so a scalar is a partial function of its word.
-/

namespace CrossRef.Toml

/-- A character of a scalar without quotes. -/
def isWordChar (c : Char) : Bool :=
  c.isAlphanum || c == '_' || c == '+' || c == '-' || c == '.' || c == ':'

/-- The digits of a run in which single underscores stand between digits, each digit read by
`digit?`. -/
def digits? (digit? : Char → Option Nat) : List Char → Option (List Nat)
  | [] => none
  | [c] => (digit? c).map ([·])
  | c :: '_' :: cs => do let d ← digit? c; let ds ← digits? digit? cs; pure (d :: ds)
  | c :: cs => do let d ← digit? c; let ds ← digits? digit? cs; pure (d :: ds)

/-- The value of a digit in a base of at most sixteen. -/
def digitIn (base : Nat) (c : Char) : Option Nat := (Text.hexDigit? c).filter (· < base)

/-- The number that digits spell in a base. -/
def ofDigits (base : Nat) (ds : List Nat) : Nat := ds.foldl (fun n d => base * n + d) 0

/-- A sign in front of a word: whether it is a minus, and the rest. -/
def signed : List Char → Bool × List Char
  | '-' :: cs => (true, cs)
  | '+' :: cs => (false, cs)
  | cs => (false, cs)

/-- Decimal digits without a zero in front of others. -/
def plainDigits? (cs : List Char) : Option (List Nat) :=
  match cs with
  | '0' :: _ :: _ => none
  | _ => digits? (digitIn 10) cs

/-- A whole number: decimal with a sign, or without one in base sixteen, eight or two. -/
def integer? (cs : List Char) : Option Int :=
  match cs with
  | '0' :: 'x' :: ds => (digits? (digitIn 16) ds).map fun ds => ofDigits 16 ds
  | '0' :: 'o' :: ds => (digits? (digitIn 8) ds).map fun ds => ofDigits 8 ds
  | '0' :: 'b' :: ds => (digits? (digitIn 2) ds).map fun ds => ofDigits 2 ds
  | _ =>
    let (negative, body) := signed cs
    (plainDigits? body).map fun ds =>
      if negative then -(ofDigits 10 ds : Int) else ofDigits 10 ds

/-- A word cut before the first character that satisfies `p`. -/
def cutAt (p : Char → Bool) (cs : List Char) : List Char × List Char :=
  (cs.takeWhile (!p ·), cs.dropWhile (!p ·))

/-- The exponent part of a number, absent or with its mark. -/
def exponent? : List Char → Option Int
  | [] => some 0
  | _ :: cs =>
    let (negative, body) := signed cs
    (digits? (digitIn 10) body).map fun ds =>
      if negative then -(ofDigits 10 ds : Int) else ofDigits 10 ds

/-- A number with places, an exponent or both. -/
def decimal? (cs : List Char) : Option Double := do
  let (negative, body) := signed cs
  let (mantissa, exponentPart) := cutAt (fun c => c == 'e' || c == 'E') body
  let (whole, fraction) := cutAt (· == '.') mantissa
  let wholeDigits ← plainDigits? whole
  let places ←
    match fraction with
    | [] => if exponentPart.isEmpty then none else some []
    | _ :: ds => digits? (digitIn 10) ds
  let e ← exponent? exponentPart
  pure (Double.ofDecimal negative (ofDigits 10 (wholeDigits ++ places)) (e - places.length))

/-- A number with a fraction, infinite or no number at all. -/
def float? (cs : List Char) : Option Double :=
  let (negative, body) := signed cs
  if body = "inf".toList then some (.infinite negative)
  else if body = "nan".toList then some .nan
  else decimal? cs

/-! ### Moments -/

/-- Exactly `n` decimal digits at the beginning of a word, and the rest. -/
def fixed? (n : Nat) (cs : List Char) : Option (Nat × List Char) :=
  let ds := (cs.take n).filterMap (digitIn 10)
  if ds.length = n then some (ofDigits 10 ds, cs.drop n) else none

/-- What follows the character `c` at the beginning of a word. -/
def after? (c : Char) : List Char → Option (List Char)
  | d :: cs => if c = d then some cs else none
  | [] => none

/-- A date at the beginning of a word, and the rest. -/
def date? (cs : List Char) : Option (Date × List Char) := do
  let (year, cs) ← fixed? 4 cs
  let cs ← after? '-' cs
  let (month, cs) ← fixed? 2 cs
  let cs ← after? '-' cs
  let (day, cs) ← fixed? 2 cs
  let date ← Date.of? year month day
  pure (date, cs)

/-- The microseconds of a fraction of a second; further digits are cut off. -/
def microseconds (ds : List Nat) : Nat :=
  ofDigits 10 (ds.take 6 ++ List.replicate (6 - ds.length) 0)

/-- A fraction of a second at the beginning of a word, zero if there is none, and the rest. -/
def fraction? : List Char → Option (Nat × List Char)
  | '.' :: cs =>
    let ds := (cs.takeWhile Char.isDigit).filterMap (digitIn 10)
    if ds.isEmpty then none else some (microseconds ds, cs.dropWhile Char.isDigit)
  | cs => some (0, cs)

/-- A time of day at the beginning of a word, and the rest. -/
def time? (cs : List Char) : Option (TimeOfDay × List Char) := do
  let (hour, cs) ← fixed? 2 cs
  let cs ← after? ':' cs
  let (minute, cs) ← fixed? 2 cs
  let cs ← after? ':' cs
  let (second, cs) ← fixed? 2 cs
  let (micro, cs) ← fraction? cs
  let time ← TimeOfDay.of? hour minute second micro
  pure (time, cs)

/-- The offset of a time from universal time, absent, the letter for none, or signed hours and
minutes. -/
def offset? : List Char → Option (Option Int)
  | [] => some none
  | ['Z'] | ['z'] => some (some 0)
  | c :: cs => do
    let (hours, cs) ← fixed? 2 cs
    let cs ← after? ':' cs
    let (minutes, cs) ← fixed? 2 cs
    if cs.isEmpty && hours < 24 && minutes < 60 then
      if c = '+' then pure (some (60 * hours + minutes : Nat))
      else if c = '-' then pure (some (-(60 * hours + minutes : Nat)))
      else none
    else none

/-- A moment that fills a word. -/
def moment? (cs : List Char) : Option Moment :=
  match date? cs with
  | some (d, []) => some (.date d)
  | some (d, c :: rest) =>
    if c = 'T' ∨ c = 't' ∨ c = ' ' then do
      let (t, rest) ← time? rest
      let offset ← offset? rest
      pure (.instant d t offset)
    else none
  | none =>
    match time? cs with
    | some (t, []) => some (.time t)
    | _ => none

/-- **The value that a word spells.** -/
def scalar? (word : List Char) : Option Value :=
  if word = "true".toList then some (.bool true)
  else if word = "false".toList then some (.bool false)
  else ((integer? word).map Value.int).or <|
    ((float? word).map Value.float).or ((moment? word).map Value.moment)

/-- The word at the beginning of a text, and the rest. A date and a time with one blank between them
are one word. -/
def word (cs : List Char) : List Char × List Char :=
  let first := cs.takeWhile isWordChar
  match cs.dropWhile isWordChar with
  | ' ' :: rest =>
    if (moment? first).isSome && first.length = 10 && (rest.head?.any Char.isDigit) then
      (first ++ ' ' :: rest.takeWhile isWordChar, rest.dropWhile isWordChar)
    else (first, ' ' :: rest)
  | rest => (first, rest)

end CrossRef.Toml
