import CrossRef.Text.LowerCase

/-! # Characters alike but for case

A search that disregards case compares character by character. Two characters are *alike* if their
one-character lower-case forms are equal or stand in one class of characters that share a capital,
such as the two small sigmas, or the long and the round `s`. In this comparison the dotted capital
`I` counts as `i`.
-/

namespace CrossRef.Text

/-- Lower-case characters that share a capital with another lower-case character. -/
def sharedCapitals : List (List Nat) :=
  [[0x69, 0x131], [0x73, 0x17F], [0xB5, 0x3BC], [0x345, 0x3B9, 0x1FBE], [0x390, 0x1FD3],
   [0x3B0, 0x1FE3], [0x3B2, 0x3D0], [0x3B5, 0x3F5], [0x3B8, 0x3D1], [0x3BA, 0x3F0],
   [0x3C0, 0x3D6], [0x3C1, 0x3F1], [0x3C2, 0x3C3], [0x3C6, 0x3D5], [0x432, 0x1C80],
   [0x434, 0x1C81], [0x43E, 0x1C82], [0x441, 0x1C83], [0x442, 0x1C84, 0x1C85], [0x44A, 0x1C86],
   [0x463, 0x1C87], [0xA64B, 0x1C88], [0x1E61, 0x1E9B], [0xFB05, 0xFB06]]

/-- The code point by which a search compares `c`. -/
def searchCode (c : Char) : Nat := if c = '\u0130' then 0x69 else lowerCode c.toNat

/-- **`c` and `d` are alike** in a search that disregards case. -/
def alike (c d : Char) : Bool :=
  let m := searchCode c
  let n := searchCode d
  m == n || sharedCapitals.any fun cls => cls.contains m && cls.contains n

/-- The relation under which a search compares characters. -/
def sameChar (caseSensitive : Bool) (c d : Char) : Bool :=
  if caseSensitive then c == d else alike c d

end CrossRef.Text
