import CrossRef.Number.Double

/-! # Decimal digits of a number

Two ways to choose the decimal digits of a positive number `mantissa · 2 ^ exponent`:

* `shortest`: the fewest digits that read back as the same number, and of those the nearest to it.
  The reals that read back as the number fill the interval between the midpoints to its neighbours,
  ends included if the mantissa is even. For one digit, two digits and so on, the two decimals
  around the number on that grid are tested against the interval.
* `rounded`: a fixed count of digits, rounded to nearest, a half to the even digit.

Both give `Digits`: a natural number and the power of ten that it is a multiple of.
-/

namespace CrossRef.Double

/-- **The decimal `value · 10 ^ scale`.** -/
structure Digits where
  value : Nat
  scale : Int
  deriving DecidableEq, Repr

/-- The greatest `k` with `10 ^ k ≤ num / den`, for positive `num` and `den`. The estimate from the
binary logarithm is off by one at most. -/
def log10Ratio (num den : Nat) : Int :=
  let fits (k : Int) : Bool := den * power 10 k ≤ num * power 10 (-k)
  let k := (log2Ratio num den * 30103).fdiv 100000
  if fits (k + 1) then k + 1 else if fits k then k else k - 1

/-- The interval of reals that read back as a number, as multiples of a quarter of its last binary
place, ends included or not. -/
structure Interval where
  low : Nat
  high : Nat
  closed : Bool

/-- The interval around `mantissa · 2 ^ exponent`. Below a power of two the numbers are denser. -/
def interval (mantissa : Nat) (exponent : Int) : Interval where
  low :=
    if mantissa = Nat.pow 2 (precision - 1) ∧ exponent > leastExponent then 4 * mantissa - 1
    else 4 * mantissa - 2
  high := 4 * mantissa + 2
  closed := mantissa % 2 = 0

/-- `d · 10 ^ k` lies in the interval, whose unit is `2 ^ e / 4`. -/
def Interval.holds (i : Interval) (e : Int) (d : Nat) (k : Int) : Bool :=
  let x := 4 * d * power 10 k * power 2 (-e)
  let unit := power 2 e * power 10 (-k)
  if i.closed then i.low * unit ≤ x && x ≤ i.high * unit
  else i.low * unit < x && x < i.high * unit

/-- The decimal on the grid of `10 ^ k` that reads back as the number and is nearest to it, if there
is one. -/
def onGrid? (mantissa : Nat) (exponent k : Int) : Option Digits :=
  let i := interval mantissa exponent
  let num := mantissa * power 2 exponent * power 10 (-k)
  let den := power 2 (-exponent) * power 10 k
  let below := num / den
  let nearest := roundDiv num den
  if i.holds exponent nearest k then some ⟨nearest, k⟩
  else if i.holds exponent below k then some ⟨below, k⟩
  else if i.holds exponent (below + 1) k then some ⟨below + 1, k⟩
  else none

/-- **The shortest digits** of a positive number. Seventeen digits always suffice. -/
def shortest (mantissa : Nat) (exponent : Int) : Digits :=
  let (num, den) := magnitude mantissa exponent
  let top := log10Ratio num den
  ((List.range 17).findSome? fun (n : Nat) => onGrid? mantissa exponent (top - n)).getD
    ⟨roundDiv (num * power 10 (-(top - 17))) (den * power 10 (top - 17)), top - 17⟩

/-- **The first `count` digits** of a positive number, rounded. -/
def rounded (count mantissa : Nat) (exponent : Int) : Digits :=
  let (num, den) := magnitude mantissa exponent
  let k := log10Ratio num den - count + 1
  ⟨roundDiv (num * power 10 (-k)) (den * power 10 k), k⟩

end CrossRef.Double
