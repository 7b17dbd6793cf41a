import CrossRef.CommandLine.Commands
import CrossRef.CommandLine.Help
import CrossRef.CommandLine.Reader

/-! # The program

A run of the program reads its command line and carries out the command. It *exits* at once for
help, for the version and for a command line that is refused, and *returns* a status otherwise. A
failure that leaves a command is reported with status one; with verbose output it is *raised*. An
interrupt has a status of its own. A command that waits for another one without end never gives the
run an ending.

* `run`: what a command line does and how it ends.
* `completions`: the identifiers that can stand at the place of a word.
-/

namespace CrossRef.CommandLine

/-- How a run ends, if it does. -/
inductive Ending where
  | returned (status : Nat)
  | exited (status : Nat)
  | raised (e : Failure)
  | never
  deriving DecidableEq, Repr

/-- **What a run does, and how it ends.** -/
structure Report where
  acts : List Act
  ending : Ending
  deriving DecidableEq, Repr

namespace Report

/-- What was written to standard output. -/
def output (r : Report) : String :=
  String.join (r.acts.filterMap fun | .out s => some s | _ => none)

/-- What was written to standard error. -/
def errors (r : Report) : String :=
  String.join (r.acts.filterMap fun | .err s => some s | _ => none)

/-- How the servers that were started speak to their clients. -/
def served (r : Report) : List String :=
  r.acts.filterMap fun | .serve t => some t | _ => none

end Report

/-- A text on standard output and an ending. No command is there yet to fail, so a text that is not
taken is raised. -/
def printed (h : Host) (text : String) (ending : Ending) : Report :=
  match h.refusal? text with
  | none => ⟨[.out text], ending⟩
  | some reason => ⟨[], .raised (.fault (.notTaken reason))⟩

/-- What is done where the reading of a command line stops. -/
def stopped (h : Host) : Stop → Report
  | .help m => printed h m.help (.exited 0)
  | .version => printed h (versionLine ++ "\n") (.exited 0)
  | .refused m r => ⟨[.err (m.usage ++ m.program ++ ": error: " ++ r.message ++ "\n")], .exited 2⟩

/-- **The end of a command.** -/
def conclude (g : Globals) (x : Console Nat) : Report :=
  match x.outcome with
  | .ok status => ⟨x.trace, .returned status⟩
  | .error .interrupt => ⟨x.trace ++ [.err "\nOperation cancelled.\n"], .returned cancelled⟩
  | .error .endless => ⟨x.trace, .never⟩
  | .error e =>
    if g.verbose then ⟨x.trace, .raised e⟩
    else ⟨x.trace ++ [.err ("Error: " ++ e.message ++ "\n")], .returned failed⟩

/-- **An invocation carried out.** Without a command there is help. -/
def Invocation.run (h : Host) (i : Invocation) : Report :=
  match i.command with
  | none => printed h Menu.top.help (.returned 0)
  | some c => conclude i.globals (c.run h i.globals)

/-- **A run of the program.** -/
def run (h : Host) (args : List String) : Report :=
  match read args with
  | .error stop => stopped h stop
  | .ok i => i.run h

/-! ### Completion -/

/-- The identifiers of an index that go on what was typed. -/
def continuations (x : Index) (typed : String) : List String :=
  x.identifiers.filter fun i => startsWith i (x.fold typed)

/-- **The identifiers that can stand at the place of a word.** Where the document cannot be indexed
because of a problem, there are none. -/
def completions (w : World) (i : Invocation) (typed : String) : Except Failure (List String) :=
  match i.command.bind Command.document? with
  | none => .ok []
  | some d =>
    match w.isFile d.file with
    | .error f => .error (.fault f)
    | .ok false => .ok []
    | .ok true =>
      match (openSession w i.globals d >>= fun s => (s.ensureReady w).1).outcome with
      | .ok x => .ok (continuations x typed)
      | .error (.problem _) => .ok []
      | .error e => .error e

end CrossRef.CommandLine
