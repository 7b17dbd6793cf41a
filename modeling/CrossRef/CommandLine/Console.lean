import CrossRef.CommandLine.Invocation
import CrossRef.Traced
import CrossRef.View.Highlighter
import CrossRef.World

/-! # The console

A command acts by writing to standard output, by writing to standard error, and by starting a
server. The acts of a command are in order, so that what it writes to the two outputs can be told
apart and still be put side by side. Notes of the operations on documents become lines on standard
error if their level is high enough.

Standard output may be unable to take a text, for one because its encoding has no code for a
character of it. Nothing of the text is then written, and the write fails. Standard error takes
everything, since it writes escapes in place of what it cannot encode.
-/

namespace CrossRef.CommandLine

/-- **What a command does to the outside.** -/
inductive Act where
  | out (text : String)
  | err (text : String)
  | serve (transport : String)
  deriving DecidableEq, Repr

/-- **A command that is carried out.** -/
abbrev Console := Traced Act

/-- **Where the program runs.** It sees the outside as it is in `world` until the index of a document
is built, and as it is in `later` when it reads the document after that. `refusal?` says why
standard output does not take a text, if it does not. Beside that: what is known elsewhere about
languages and colours, whether standard output is a terminal, which of the optional parts are
installed, and whether the user interrupts the server once it runs. -/
structure Host where
  world : World
  later : World
  refusal? : String → Option String
  highlighter : View.Highlighter
  terminal : Bool
  hasCompletion : Bool
  hasServer : Bool
  interruptsServer : Bool

/-- **Standard output takes every text,** as it does with an encoding that has a code for every
character. -/
def Host.TakesAll (h : Host) : Prop := ∀ text, h.refusal? text = none

/-- **Write a text to standard output.** -/
def write (h : Host) (text : String) : Console Unit :=
  match h.refusal? text with
  | none => .tell [.out text]
  | some reason => .fail (.fault (.notTaken reason))

/-- Write a line to standard output. -/
def say (h : Host) (line : String) : Console Unit := write h (line ++ "\n")

/-- Write a line to standard error. -/
def report (line : String) : Console Unit := .tell [.err (line ++ "\n")]

/-- Write lines to standard output, up to the first one that it does not take. -/
def sayAll (h : Host) : List String → Console Unit
  | [] => pure ()
  | line :: lines => do say h line; sayAll h lines

/-- Write lines to standard error. -/
def reportAll (lines : List String) : Console Unit := .tell (lines.map fun l => .err (l ++ "\n"))

/-- The least level of the notes that are shown. -/
def Globals.threshold (g : Globals) : Level :=
  if g.verbose then .debug else if g.quiet then .error else .warning

/-- A note as it is shown. -/
def Globals.shown (g : Globals) (n : Note) : List Act :=
  if g.threshold.rank ≤ n.level.rank then [.err (n.line ++ "\n")] else []

/-- An operation on documents, with its notes shown. -/
def heard {α : Type} (g : Globals) (x : Noted α) : Console α := x.retell g.shown

end CrossRef.CommandLine
