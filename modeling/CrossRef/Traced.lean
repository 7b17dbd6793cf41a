import CrossRef.Failure

/-! # Computations that leave a trace

An operation on documents tells what it does in *notes* of four levels, and ends with a value or
with a failure. `Traced ω α` holds both: what was told in order, up to the failure if there is one,
and the outcome. What is told are notes (`Noted`) or whatever an outer layer makes of them.
-/

namespace CrossRef

/-- The level of a note. -/
inductive Level where
  | debug
  | info
  | warning
  | error
  deriving DecidableEq, Repr

namespace Level

/-- The word for a level in front of a note. -/
def label : Level → String
  | .debug => "DEBUG"
  | .info => "INFO"
  | .warning => "WARNING"
  | .error => "ERROR"

/-- Levels in order, the least first. -/
def rank : Level → Nat
  | .debug => 0
  | .info => 1
  | .warning => 2
  | .error => 3

end Level

/-- One remark on what is done. -/
structure Note where
  level : Level
  text : String
  deriving DecidableEq, Repr

/-- A note as a line of output. -/
def Note.line (n : Note) : String := n.level.label ++ ": " ++ n.text

/-- **A computation that leaves a trace** and ends with a value or a failure. -/
structure Traced (ω α : Type) where
  trace : List ω
  outcome : Except Failure α

/-- A computation that leaves notes. -/
abbrev Noted := Traced Note

namespace Traced

variable {ω ψ α β : Type}

/-- One computation after the other; a failure ends the trace. -/
def bind (x : Traced ω α) (f : α → Traced ω β) : Traced ω β :=
  match x.outcome with
  | .ok a => ⟨x.trace ++ (f a).trace, (f a).outcome⟩
  | .error e => ⟨x.trace, .error e⟩

instance : Monad (Traced ω) where
  pure a := ⟨[], .ok a⟩
  bind := bind

/-- An outcome without a trace. -/
def ofExcept (x : Except Failure α) : Traced ω α := ⟨[], x⟩

/-- The outcome of a computation that can only go wrong by a fault. -/
def ofFault (x : Except Fault α) : Traced ω α := ofExcept (x.mapError .fault)

/-- A failure. -/
def fail (e : Failure) : Traced ω α := ⟨[], .error e⟩

/-- Tell something. -/
def tell (items : List ω) : Traced ω Unit := ⟨items, .ok ()⟩

/-- The same computation with another trace. -/
def retell (f : ω → List ψ) (x : Traced ω α) : Traced ψ α := ⟨x.trace.flatMap f, x.outcome⟩

/-- The same computation, with a problem as a value. -/
def caught (x : Traced ω α) : Traced ω (Except Problem α) where
  trace := x.trace
  outcome :=
    match x.outcome with
    | .ok a => .ok (.ok a)
    | .error (.problem p) => .ok (.error p)
    | .error e => .error e

/-- Leave a note. -/
def note (level : Level) (text : String) : Noted Unit := tell [⟨level, text⟩]

/-! ### Outcomes

The outcome of a computation does not depend on what is told, so it can be computed without. -/

@[simp] theorem outcome_pure (a : α) : (pure a : Traced ω α).outcome = .ok a := rfl

@[simp] theorem outcome_ofExcept (x : Except Failure α) :
    (ofExcept x : Traced ω α).outcome = x := rfl

@[simp] theorem outcome_tell (items : List ω) : (tell items).outcome = .ok () := rfl

@[simp] theorem outcome_fail (e : Failure) : (fail e : Traced ω α).outcome = .error e := rfl

@[simp] theorem outcome_retell (f : ω → List ψ) (x : Traced ω α) :
    (x.retell f).outcome = x.outcome := rfl

/-- **The outcome of one computation after the other.** -/
@[simp] theorem outcome_bind (x : Traced ω α) (f : α → Traced ω β) :
    (x >>= f).outcome = x.outcome.bind fun a => (f a).outcome := by
  show (bind x f).outcome = _
  unfold bind
  cases x.outcome <;> rfl

end Traced

end CrossRef
