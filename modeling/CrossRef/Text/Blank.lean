import CrossRef.Text.Ranges

/-! # White space

The white space of names, values and numbers: the ASCII controls that move the carriage, the
information separators, the blank, and the spaces and separators of Unicode. Trimming removes it
from one end of a text or from both.

* `mem_trim_right`: trimming only removes.
-/

namespace CrossRef.Text

/-- The code points that count as white space. -/
def blankRanges : List CodeRange :=
  [(0x09, 0x0D), (0x1C, 0x20), (0x85, 0x85), (0xA0, 0xA0), (0x1680, 0x1680), (0x2000, 0x200A),
   (0x2028, 0x2029), (0x202F, 0x202F), (0x205F, 0x205F), (0x3000, 0x3000)]

/-- `c` is white space. -/
def isBlank (c : Char) : Bool := inTable blankRanges c

/-- `c` is not white space. -/
def isSolid (c : Char) : Bool := !isBlank c

/-! ### Trimming -/

/-- `cs` without the characters at its end that satisfy `p`. -/
def dropEnd (p : Char → Bool) (cs : List Char) : List Char := (cs.reverse.dropWhile p).reverse

/-- `cs` without its leading white space. -/
def trimLeft (cs : List Char) : List Char := cs.dropWhile isBlank

/-- `cs` without its trailing white space. -/
def trimRight (cs : List Char) : List Char := dropEnd isBlank cs

/-- **`cs` without white space at either end.** -/
def trim (cs : List Char) : List Char := trimRight (trimLeft cs)

/-- A text without white space at either end. -/
def stripped (s : String) : String := String.ofList (trim s.toList)

theorem mem_dropEnd {p : Char → Bool} {c : Char} {cs : List Char} (h : c ∈ dropEnd p cs) :
    c ∈ cs := by
  have := (List.dropWhile_suffix (l := cs.reverse) p).subset (List.mem_reverse.1 h)
  exact List.mem_reverse.1 this

theorem mem_trim_right {c : Char} {cs : List Char} (h : c ∈ trimRight cs) : c ∈ cs :=
  mem_dropEnd h

end CrossRef.Text
