/-! # UTF-8

A byte string is read byte by byte. Between two bytes the reader is either *ready* for the first
byte of a character or *within* a sequence that still owes continuation bytes (`Sequence`). Each
byte gives the pieces that it completes: a character, or a fault, which covers the longest beginning
of a well-formed sequence or one byte. A byte that cannot continue a sequence ends it with a fault
and is then read as a first byte.

Well-formed means the shortest form, no surrogate and nothing above `U+10FFFF`, so the second byte
of a sequence has a range of its own for some first bytes (`secondRange`).

* `decodeReplacing` writes one replacement character for each fault and never fails.
* `decode?` stops at the first fault and reports its place.
-/

namespace CrossRef.Text.Utf8

/-- What is wrong with a byte sequence. -/
inductive FaultKind where
  | badStart
  | badContinuation
  | cutShort
  deriving DecidableEq, Repr

/-- A well-formed character with the number of its bytes, or a fault with its first byte and the
number of bytes that it covers. -/
inductive Piece where
  | char (c : Char) (width : Nat)
  | fault (kind : FaultKind) (first : UInt8) (width : Nat)
  deriving DecidableEq, Repr

/-- A sequence that has begun: its first byte, the bytes and payload bits read so far, the
continuation bytes that it owes, and the range of the next of them. -/
structure Sequence where
  first : UInt8
  width : Nat
  payload : Nat
  owed : Nat
  range : Nat × Nat
  deriving DecidableEq, Repr

/-- How many continuation bytes a first byte asks for; `none` if it starts no character. -/
def owed (b : UInt8) : Option Nat :=
  let n := b.toNat
  if n < 0x80 then some 0
  else if n < 0xC2 then none
  else if n < 0xE0 then some 1
  else if n < 0xF0 then some 2
  else if n < 0xF5 then some 3
  else none

/-- The range of the second byte of a sequence with the first byte `b`. -/
def secondRange (b : UInt8) : Nat × Nat :=
  match b.toNat with
  | 0xE0 => (0xA0, 0xBF)
  | 0xED => (0x80, 0x9F)
  | 0xF0 => (0x90, 0xBF)
  | 0xF4 => (0x80, 0x8F)
  | _ => (0x80, 0xBF)

/-- The payload bits of a first byte that owes `n` continuation bytes. -/
def payload (b : UInt8) (n : Nat) : Nat := b.toNat % Nat.pow 2 (6 - n)

/-- Read `b` as a first byte. -/
def begin (b : UInt8) : List Piece × Option Sequence :=
  match owed b with
  | none => ([.fault .badStart b 1], none)
  | some 0 => ([.char (Char.ofNat b.toNat) 1], none)
  | some n => ([], some ⟨b, 1, payload b n, n, secondRange b⟩)

/-- **One step of the reader**: the pieces that `b` completes, and what the reader is within
afterwards. -/
def feed (state : Option Sequence) (b : UInt8) : List Piece × Option Sequence :=
  match state with
  | none => begin b
  | some s =>
    if s.range.1 ≤ b.toNat ∧ b.toNat ≤ s.range.2 then
      let next := s.payload * 64 + (b.toNat - 0x80)
      if s.owed = 1 then ([.char (Char.ofNat next) (s.width + 1)], none)
      else ([], some ⟨s.first, s.width + 1, next, s.owed - 1, (0x80, 0xBF)⟩)
    else
      let (pieces, state) := begin b
      (.fault .badContinuation s.first s.width :: pieces, state)

/-- The pieces of a byte string, read on from `state`. -/
def piecesFrom (state : Option Sequence) : List UInt8 → List Piece
  | [] =>
    match state with
    | none => []
    | some s => [.fault .cutShort s.first s.width]
  | b :: bs => (feed state b).1 ++ piecesFrom (feed state b).2 bs

/-- The pieces of a byte string. -/
def pieces (bs : List UInt8) : List Piece := piecesFrom none bs

/-- What a piece is written as when faults are replaced. -/
def Piece.replaced : Piece → Char
  | .char c _ => c
  | .fault _ _ _ => '\uFFFD'

/-- **Decoding that never fails:** each fault becomes one replacement character. -/
def decodeReplacing (bs : List UInt8) : List Char := (pieces bs).map Piece.replaced

/-- The place and nature of the first fault of a byte string. -/
structure Fault where
  kind : FaultKind
  first : UInt8
  position : Nat
  width : Nat
  deriving DecidableEq, Repr

/-- The characters of a list of pieces that starts at byte `position`, or its first fault. -/
def charsFrom (position : Nat) : List Piece → Except Fault (List Char)
  | [] => .ok []
  | .char c width :: ps => (charsFrom (position + width) ps).map (c :: ·)
  | .fault kind first width :: _ => .error ⟨kind, first, position, width⟩

/-- **Decoding that stops at the first fault.** -/
def decode? (bs : List UInt8) : Except Fault (List Char) := charsFrom 0 (pieces bs)

end CrossRef.Text.Utf8
