/-! # Hexadecimal digits

Code points are written and read with hexadecimal digits: lower-case ones are written, and both
cases are read.
-/

namespace CrossRef.Text

/-- The lower-case hexadecimal digits of `n`, at least `width` of them. -/
def hexDigits (width n : Nat) : List Char :=
  let ds := Nat.toDigits 16 n
  List.replicate (width - ds.length) '0' ++ ds

/-- The value of a hexadecimal digit. -/
def hexDigit? (c : Char) : Option Nat :=
  if '0' ≤ c ∧ c ≤ '9' then some (c.toNat - '0'.toNat)
  else if 'a' ≤ c ∧ c ≤ 'f' then some (c.toNat - 'a'.toNat + 10)
  else if 'A' ≤ c ∧ c ≤ 'F' then some (c.toNat - 'A'.toNat + 10)
  else none

/-- The number that hexadecimal digits spell. -/
def hexNumber? (cs : List Char) : Option Nat :=
  cs.foldl (fun n c => do let n ← n; let d ← hexDigit? c; pure (16 * n + d)) (some 0)

end CrossRef.Text
