import CrossRef.Text.LowerCase.Table

/-! # Lower case

The lower-case form of a text. Most characters have a form of one character, whatever stands around
them. There are two exceptions. The dotted capital `I` becomes two characters, `i` and a combining
dot. A capital sigma takes its final form when it ends a word: a cased letter stands before it and
none after it, where ignored characters on either side are passed over.
-/

namespace CrossRef.Text

/-- The lower-case form that a run gives to the code point `n`, if `n` is in the run. -/
def LowerRun.image? (r : LowerRun) (n : Nat) : Option Nat :=
  if r.first ≤ n ∧ n ≤ r.last ∧ (n - r.first) % r.step = 0 then some (r.target + (n - r.first))
  else none

/-- The code point of the lower-case form of the code point `n`. -/
def lowerCode (n : Nat) : Nat := (lowerRuns.findSome? (·.image? n)).getD n

/-- The one-character lower-case form of `c`, outside of any text. -/
def lowerChar (c : Char) : Char := Char.ofNat (lowerCode c.toNat)

/-- `c` is ignored when a capital sigma looks for letters around it. -/
def isIgnored (c : Char) : Bool := inTable ignoredRanges c

/-- `c` is a cased letter, and not ignored. -/
def isCased (c : Char) : Bool := inTable casedRanges c

/-- The first character that is not ignored is a cased letter. -/
def startsCased (cs : List Char) : Bool :=
  match cs.dropWhile isIgnored with
  | [] => false
  | c :: _ => isCased c

/-- Whether the last character that is not ignored is a cased letter, after `c` is read too. -/
def endsCased (before : Bool) (c : Char) : Bool := if isIgnored c then before else isCased c

/-- The lower-case form of `c` in a text that goes on with `after`; `before` tells whether the last
character before `c` that is not ignored is a cased letter. -/
def lowerAt (before : Bool) (c : Char) (after : List Char) : List Char :=
  if c = 'Σ' then [if before && !startsCased after then 'ς' else 'σ']
  else if c = '\u0130' then ['i', '\u0307']
  else [lowerChar c]

/-- The lower-case form of a text whose beginning has been read. -/
def lowerFrom (before : Bool) : List Char → List Char
  | [] => []
  | c :: cs => lowerAt before c cs ++ lowerFrom (endsCased before c) cs

/-- **The lower-case form of a text.** -/
def lower (s : String) : String := String.ofList (lowerFrom false s.toList)

end CrossRef.Text
