/-! # Tokens of a coloured view

A document is cut into tokens, each with a kind that decides its colour. A grammar gives, for each
state, rules that are tried in order at the current place. A rule is a sequence of groups, each a
sequence of pieces that take as many characters as they can; a group becomes one token. After a rule
the state may change: the tokenizer keeps a stack of states.

Where no rule applies, a line feed becomes white space and brings the tokenizer back to the outer
state, and any other character becomes an error token. So every character ends up in one token:

* `flatMap_tokens`: the tokens, one after the other, are the text.
-/

namespace CrossRef.View

/-- What a token is. Kinds that the grammars here do not tell apart have names. -/
inductive Kind where
  | text
  | whitespace
  | entity
  | preprocessor
  | comment
  | tag
  | attr
  | string
  | operator
  | punctuation
  | error
  | other (name : String)
  deriving DecidableEq, Repr

/-- **A token:** a stretch of text and what it is. -/
structure Token where
  kind : Kind
  text : List Char
  deriving DecidableEq, Repr

/-- Where in the markup the tokenizer is. -/
inductive State where
  | outer
  | inTag
  | inValue
  deriving DecidableEq, Repr

/-- What a rule does to the stack of states. -/
inductive Move where
  | stay
  | enter (s : State)
  | leave
  deriving DecidableEq, Repr

/-- The stack after a move. The last state is never left. -/
def Move.applied (stack : List State) : Move → List State
  | .stay => stack
  | .enter s => s :: stack
  | .leave => if stack.length ≤ 1 then stack else stack.drop 1

/-! ### Patterns -/

/-- A piece of a pattern. -/
inductive Piece where
  /-- At least `least` characters that satisfy `p`, as many as there are. -/
  | run (p : Char → Bool) (least : Nat)
  /-- The characters of `s`, each compared by `same`. -/
  | literal (same : Char → Char → Bool) (s : List Char)
  /-- The character `c`, if it is there. -/
  | optional (c : Char)
  /-- Everything up to and including the first occurrence of `s`. -/
  | upTo (s : List Char)

/-- The characters of `s` stand at the beginning of a text. -/
def startsWith (same : Char → Char → Bool) : List Char → List Char → Bool
  | [], _ => true
  | _ :: _, [] => false
  | p :: ps, c :: cs => same p c && startsWith same ps cs

/-- The length of a text up to and including the first occurrence of `s`. -/
def lengthUpTo (s : List Char) : List Char → Option Nat
  | [] => if s.isEmpty then some 0 else none
  | c :: cs =>
    if s.isPrefixOf (c :: cs) then some s.length else (lengthUpTo s cs).map (· + 1)

/-- How many characters a piece takes at the beginning of a text. -/
def Piece.width : Piece → List Char → Option Nat
  | .run p least, cs =>
    let n := (cs.takeWhile p).length
    if least ≤ n then some n else none
  | .literal same s, cs => if startsWith same s cs then some s.length else none
  | .optional c, cs => some (if cs.head? = some c then 1 else 0)
  | .upTo s, cs => lengthUpTo s cs

/-- How many characters a sequence of pieces takes. -/
def piecesWidth : List Piece → List Char → Option Nat
  | [], _ => some 0
  | p :: ps, cs => do
    let n ← p.width cs
    let m ← piecesWidth ps (cs.drop n)
    pure (n + m)

/-- A group of pieces that becomes one token. -/
structure Group where
  kind : Kind
  pieces : List Piece

/-- **A rule:** groups one after the other, and a move. -/
structure Rule where
  groups : List Group
  move : Move := .stay

/-- The widths of the groups of a rule. -/
def widths : List Group → List Char → Option (List (Kind × Nat))
  | [], _ => some []
  | g :: gs, cs => do
    let n ← piecesWidth g.pieces cs
    let rest ← widths gs (cs.drop n)
    pure ((g.kind, n) :: rest)

/-- The tokens of the given widths at the beginning of a text; empty ones are left out. -/
def cut : List (Kind × Nat) → List Char → List Token
  | [], _ => []
  | (kind, n) :: rest, cs =>
    let tokens := cut rest (cs.drop n)
    if (cs.take n).isEmpty then tokens else ⟨kind, cs.take n⟩ :: tokens

/-- The number of characters that the widths cover. -/
def total (ws : List (Kind × Nat)) : Nat := ws.foldr (fun w n => w.2 + n) 0

/-- What the first rule that takes at least one character takes, and its move. -/
def firstMatch? (rules : List Rule) (cs : List Char) : Option (List (Kind × Nat) × Move) :=
  rules.findSome? fun r =>
    match widths r.groups cs with
    | some ws => if 0 < total ws then some (ws, r.move) else none
    | none => none

/-! ### The tokenizer -/

/-- The rules of each state. -/
abbrev Grammar := State → List Rule

/-- The tokens of a text, at most `fuel` rules long, with a stack of states. -/
def tokensFrom (g : Grammar) : Nat → List State → List Char → List Token
  | 0, _, _ => []
  | _, _, [] => []
  | fuel + 1, stack, c :: cs =>
    match firstMatch? (g (stack.headD .outer)) (c :: cs) with
    | some (ws, move) =>
      cut ws (c :: cs) ++ tokensFrom g fuel (move.applied stack) ((c :: cs).drop (total ws))
    | none =>
      if c = '\n' then ⟨.whitespace, ['\n']⟩ :: tokensFrom g fuel [.outer] cs
      else ⟨.error, [c]⟩ :: tokensFrom g fuel stack cs

/-- **The tokens of a text.** -/
def tokens (g : Grammar) (cs : List Char) : List Token := tokensFrom g cs.length [.outer] cs

/-! ### Nothing is lost -/

theorem flatMap_cut (ws : List (Kind × Nat)) (cs : List Char) :
    (cut ws cs).flatMap (·.text) = cs.take (total ws) := by
  induction ws generalizing cs with
  | nil => simp [cut, total]
  | cons w ws ih =>
    obtain ⟨kind, n⟩ := w
    have htotal : total ((kind, n) :: ws) = n + total ws := by simp [total]
    simp only [cut, htotal, List.take_add]
    split
    · rename_i h
      rw [ih, List.isEmpty_iff.1 h, List.nil_append]
    · rw [List.flatMap_cons, ih]

theorem firstMatch?_pos {rules : List Rule} {cs : List Char} {ws : List (Kind × Nat)}
    {move : Move} (h : firstMatch? rules cs = some (ws, move)) : 0 < total ws := by
  obtain ⟨r, -, hr⟩ := List.exists_of_findSome?_eq_some h
  split at hr
  · split at hr
    · rename_i hpos
      obtain ⟨rfl, -⟩ := Prod.mk.inj (Option.some.inj hr)
      exact hpos
    · cases hr
  · cases hr

theorem flatMap_tokensFrom (g : Grammar) (fuel : Nat) (stack : List State) (cs : List Char)
    (h : cs.length ≤ fuel) : (tokensFrom g fuel stack cs).flatMap (·.text) = cs := by
  induction fuel generalizing stack cs with
  | zero => simp [tokensFrom, List.eq_nil_of_length_eq_zero (Nat.le_zero.1 h)]
  | succ fuel ih =>
    cases cs with
    | nil => simp [tokensFrom]
    | cons c cs =>
      have hcs : cs.length ≤ fuel := Nat.le_of_succ_le_succ h
      simp only [tokensFrom]
      split
      · rename_i ws move hm
        have hpos := firstMatch?_pos hm
        have hlen : ((c :: cs).drop (total ws)).length ≤ fuel := by
          simp only [List.length_drop, List.length_cons]; omega
        rw [List.flatMap_append, flatMap_cut, ih _ _ hlen, List.take_append_drop]
      · split
        · rename_i hc
          simp [ih _ _ hcs, hc]
        · simp [ih _ _ hcs]

/-- **The tokens, one after the other, are the text.** -/
theorem flatMap_tokens (g : Grammar) (cs : List Char) :
    (tokens g cs).flatMap (·.text) = cs := flatMap_tokensFrom g _ _ _ (Nat.le_refl _)

end CrossRef.View
