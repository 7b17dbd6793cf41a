/-! # Classes of characters given by tables

A class of characters is written as a table of closed ranges of code points, and a character is in
the class if one of the ranges holds its code point. The tables are small enough to be searched
from the front.
-/

namespace CrossRef.Text

/-- A closed range of code points, first and last. -/
abbrev CodeRange := Nat × Nat

/-- The code point `n` lies in the range. -/
def CodeRange.holds (r : CodeRange) (n : Nat) : Bool := r.1 ≤ n && n ≤ r.2

/-- **Membership in a class:** some range of the table holds the code point of `c`. -/
def inTable (table : List CodeRange) (c : Char) : Bool := table.any (·.holds c.toNat)

theorem inTable_iff {table : List CodeRange} {c : Char} :
    inTable table c = true ↔ ∃ r ∈ table, r.1 ≤ c.toNat ∧ c.toNat ≤ r.2 := by
  simp [inTable, CodeRange.holds]

end CrossRef.Text
