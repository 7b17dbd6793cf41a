import CrossRef.Number.Digits

/-! # Numbers as text

A number is written from its digits, without trailing zeros. Where the exponent of the first digit
lies in the range of the layout the number is written positionally, else with an exponent of at
least two digits and a sign.

* `Layout.value`: the layout of values, with the shortest digits and at least one place.
* `Layout.limit`: the layout of time limits in messages, with six digits and no empty places.
-/

namespace CrossRef

/-- How a number is laid out: the exponents that are written positionally, from `least` up to but
not including `most`, and whether a whole number keeps one decimal place. -/
structure Layout where
  least : Int
  most : Int
  keepPlace : Bool

namespace Layout

/-- Values are positional from `10 ^ -4` up to `10 ^ 16` and always show a point or an exponent. -/
def value : Layout := ⟨-4, 16, true⟩

/-- Time limits are positional from `10 ^ -4` up to `10 ^ 6`, and whole ones show no point. -/
def limit : Layout := ⟨-4, 6, false⟩

/-- `n` zeros. -/
def zeros (n : Int) : List Char := List.replicate n.toNat '0'

/-- The digits of a natural number without the zeros at their end. -/
def significant (n : Nat) : List Char :=
  let ds := (Nat.toDigits 10 n).reverse.dropWhile (· == '0')
  if ds.isEmpty then ['0'] else ds.reverse

/-- The digits `ds` with the point after the first `point` of them. -/
def positional (keepPlace : Bool) (ds : List Char) (point : Int) : List Char :=
  if point ≤ 0 then '0' :: '.' :: zeros (-point) ++ ds
  else if ds.length ≤ point then
    ds ++ zeros (point - ds.length) ++ (if keepPlace then ['.', '0'] else [])
  else ds.take point.toNat ++ '.' :: ds.drop point.toNat

/-- The digits `ds` with an exponent. -/
def scientific (ds : List Char) (exponent : Int) : List Char :=
  let e := Nat.toDigits 10 exponent.natAbs
  ds.take 1 ++ (if ds.length ≤ 1 then [] else '.' :: ds.drop 1)
    ++ 'e' :: (if exponent < 0 then '-' else '+') :: zeros (2 - e.length) ++ e

/-- A decimal written in a layout. -/
def write (l : Layout) (d : Double.Digits) : List Char :=
  let ds := significant d.value
  let exponent : Int := (Nat.toDigits 10 d.value).length - 1 + d.scale
  if l.least ≤ exponent ∧ exponent < l.most then positional l.keepPlace ds (exponent + 1)
  else scientific ds exponent

/-- A number written in a layout, with digits chosen by `digits`. -/
def writeNumber (l : Layout) (digits : Nat → Int → Double.Digits) : Double → List Char
  | .nan => "nan".toList
  | .infinite negative => (if negative then "-inf" else "inf").toList
  | .finite negative m e =>
    (if negative then ['-'] else []) ++
      (if m = 0 then l.write ⟨0, 0⟩ else l.write (digits m e))

end Layout

/-- **The text of a number as a value:** the fewest digits that read back. -/
def Double.text (x : Double) : String :=
  String.ofList (Layout.value.writeNumber Double.shortest x)

/-- **The text of a number as a time limit:** six digits. -/
def Double.limitText (x : Double) : String :=
  String.ofList (Layout.limit.writeNumber (Double.rounded 6) x)

end CrossRef
