/-! # Binary floating-point numbers

Numbers with a fraction are the numbers of the 64-bit binary format: not-a-number, the two
infinities, and signed multiples `mantissa · 2 ^ exponent` with a mantissa below `2 ^ 53`. They are
kept in *normal form*: the mantissa is at least `2 ^ 52`, or the exponent is the least one. All
arithmetic on them is exact arithmetic on natural numbers.

* `Double.ofRatio`: the number nearest to a fraction; of two that are equally near, the one with the
  even mantissa.
* `Double.ofDecimal`: the number nearest to a decimal.
-/

namespace CrossRef

/-- **A number of the 64-bit binary format.** -/
inductive Double where
  | nan
  | infinite (negative : Bool)
  | finite (negative : Bool) (mantissa : Nat) (exponent : Int)
  deriving DecidableEq, Repr

namespace Double

/-- The bits of a mantissa. -/
def precision : Nat := 53

/-- The exponent of the smallest positive number. -/
def leastExponent : Int := -1074

/-- The exponent of the largest number. -/
def greatestExponent : Int := 971

/-- Zero with a sign. -/
def zero (negative : Bool) : Double := .finite negative 0 leastExponent

/-- `base` to the power `k`, and one if `k` is below zero. So `power base k / power base (-k)` is
the power for every integer `k`. -/
def power (base : Nat) (k : Int) : Nat := Nat.pow base k.toNat

/-- `num / den` rounded to the nearest natural number, a half to the even neighbour. -/
def roundDiv (num den : Nat) : Nat :=
  let q := num / den
  let r := num % den
  if 2 * r > den ∨ (2 * r = den ∧ q % 2 = 1) then q + 1 else q

/-- `num / (den · 2 ^ e)` rounded to the nearest natural number. -/
def roundShifted (num den : Nat) (e : Int) : Nat :=
  roundDiv (num * power 2 (-e)) (den * power 2 e)

/-- The greatest `e` with `2 ^ e ≤ num / den`, for positive `num` and `den`. -/
def log2Ratio (num den : Nat) : Int :=
  let e : Int := (num.log2 : Int) - (den.log2 : Int)
  if den * power 2 e ≤ num * power 2 (-e) then e else e - 1

/-- The number `mantissa · 2 ^ exponent` for a mantissa up to `2 ^ 53`, or the infinity if it is too
large. -/
def normal (negative : Bool) (mantissa : Nat) (exponent : Int) : Double :=
  let (m, e) :=
    if mantissa = Nat.pow 2 precision then (Nat.pow 2 (precision - 1), exponent + 1)
    else (mantissa, exponent)
  if e > greatestExponent then .infinite negative else .finite negative m e

/-- **The number nearest to `num / den`.** -/
def ofRatio (negative : Bool) (num den : Nat) : Double :=
  if num = 0 then zero negative
  else
    let e := max (log2Ratio num den - (precision - 1 : Nat)) leastExponent
    normal negative (roundShifted num den e) e

/-- **The number nearest to `digits · 10 ^ scale`.** Scales far outside the format are settled
without computing the power. -/
def ofDecimal (negative : Bool) (digits : Nat) (scale : Int) : Double :=
  if digits = 0 then zero negative
  else if scale > 400 then .infinite negative
  else if scale + (Nat.toDigits 10 digits).length < -400 then zero negative
  else ofRatio negative (digits * power 10 scale) (power 10 (-scale))

/-- The number nearest to an integer; `none` if the integer is too large for the format. -/
def ofInt? (n : Int) : Option Double :=
  match ofRatio (n < 0) n.natAbs 1 with
  | .infinite _ => none
  | x => some x

/-- `x` is zero, with either sign. -/
def isZero : Double → Bool
  | .finite _ m _ => m == 0
  | _ => false

/-- `x` is below zero or zero. -/
def isNotPositive : Double → Bool
  | .nan => false
  | .infinite negative => negative
  | .finite negative m _ => negative || m == 0

/-- The magnitude of a finite number as a fraction. -/
def magnitude (mantissa : Nat) (exponent : Int) : Nat × Nat :=
  (mantissa * power 2 exponent, power 2 (-exponent))

/-- The integer part of a finite number, toward zero. -/
def truncate (negative : Bool) (mantissa : Nat) (exponent : Int) : Int :=
  let (num, den) := magnitude mantissa exponent
  let n : Int := (num / den : Nat)
  if negative then -n else n

/-- The number nearest to `k` times `x`. -/
def scaled (x : Double) (k : Nat) : Double :=
  match x with
  | .finite negative m e =>
    let (num, den) := magnitude m e
    ofRatio negative (num * k) den
  | x => x

/-- The least integer not below a finite number that is not negative. -/
def ceiling (mantissa : Nat) (exponent : Int) : Nat :=
  let (num, den) := magnitude mantissa exponent
  (num + den - 1) / den

end Double

end CrossRef
