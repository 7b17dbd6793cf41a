import CrossRef.CommandLine.Program
import CrossRef.Snapshot

/-! # The command

The program as a command. It looks at the files that an invocation may need, writes them down in a
snapshot, and carries the invocation out there. It does not start other commands itself: the stream
of the markup parser is the one recorded beside the document, in the file with the name of the
document and the ending `.esis`. Completion and the server are not part of it.
-/

namespace CrossRef.CommandLine

/-! ### What an invocation may read -/

/-- The configuration files that may count from a location on. -/
def configCandidates (l : Location) : List Path :=
  (Config.upward l).map fun above => .ofLocation (above ++ [Config.fileName])

/-- The path of the stream recorded beside a document. -/
def recordedPath (document : Path) : Path := .ofString (document.text ++ ".esis")

/-- **The paths that an invocation may read.** -/
def Invocation.reads (cwd : Location) (i : Invocation) : List Path :=
  let documents := ((i.command.bind Command.document?).map fun d => d.file).toList
  documents ++ documents.map recordedPath ++ i.globals.config.toList ++
    documents.flatMap (fun p => configCandidates (p.resolve cwd)) ++ configCandidates cwd

/-- The world of a snapshot in which every command prints the stream recorded beside its last
argument, if there is one. -/
def recordedWorld (s : Snapshot) : World :=
  { s.toWorld with
    launch := fun command =>
      let path := recordedPath (.ofString (command.getLast?.getD ""))
      match s.toWorld.isFile path with
      | .ok true => s.runTool {} command.tail
      | _ => .failed .notFound }

/-! ### Looking outside -/

/-- A snapshot with what stands at a path. -/
def look (s : Snapshot) (p : Path) : IO Snapshot := do
  let l := p.resolve s.cwd
  match ← (IO.FS.readBinFile (Path.ofLocation l).text).toBaseIO with
  | .ok bytes => pure (s.write l bytes.toList)
  | .error (.inappropriateType ..) => pure (s.makeDirectory l)
  | .error _ => pure s

/-- The variables in the text of an environment, whose entries end with zero characters. -/
def environmentOf (text : List Char) : List (String × String) :=
  (Text.cutAt '\x00' text).filterMap fun entry =>
    match cutAtEquals entry with
    | (name, some value) => some (name, value)
    | _ => none

/-- The variables of the environment. -/
def environment : IO (List (String × String)) := do
  match ← (IO.FS.readBinFile "/proc/self/environ").toBaseIO with
  | .ok bytes => pure (environmentOf (Text.Utf8.decodeReplacing bytes.toList))
  | .error _ => pure []

/-- The host that a command line finds. -/
def hostFor (args : List String) : IO Host := do
  let cwd := (Path.ofString (← IO.currentDir).toString).parts
  let start : Snapshot := { cwd, environment := ← environment }
  let paths := match read args with
    | .ok i => i.reads cwd
    | .error _ => []
  let filled ← paths.foldlM look (start.makeDirectory cwd)
  pure {
    world := recordedWorld filled
    later := recordedWorld filled
    refusal? := fun _ => none
    highlighter := .small
    terminal := ← (← IO.getStdout).isTty
    hasCompletion := false
    hasServer := false
    interruptsServer := false }

/-- Do what a report says. -/
def Act.perform : Act → IO Unit
  | .out text => IO.print text
  | .err text => IO.eprint text
  | .serve _ => pure ()

/-- The status that a run leaves, and what is said about a failure that was raised. No command of a
recorded world runs without end. -/
def Ending.leave : Ending → IO UInt32
  | .returned status | .exited status => pure status.toUInt32
  | .raised e => do
    IO.eprintln ("Error: " ++ e.message)
    pure failed.toUInt32
  | .never => pure failed.toUInt32

end CrossRef.CommandLine

/-- **The command.** -/
def main (args : List String) : IO UInt32 := do
  let r := CrossRef.CommandLine.run (← CrossRef.CommandLine.hostFor args) args
  r.acts.forM CrossRef.CommandLine.Act.perform
  r.ending.leave
