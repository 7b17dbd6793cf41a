import CrossRef.Assoc
import CrossRef.World

/-! # Worlds given by data

A *snapshot* writes a world down: a finite tree of files, the commands that can be started, and how
each of them behaves. A command follows a script: it may echo its arguments, print given bytes, or
print the stream that was recorded beside the document, in the file with the name of the last
argument and the ending `.esis`.

`write`, `delete` and `setTool` are the changes that the outside makes between two operations.
-/

namespace CrossRef

/-- What a scripted command prints. -/
inductive Script where
  | recorded
  | echo
  | prints (bytes : List UInt8)
  | hangs
  deriving DecidableEq, Repr

/-- **A scripted command:** what it prints, what it leaves on standard error, the status it ends
with, whether it may be started, and whether the user interrupts at its start. -/
structure Tool where
  script : Script := .recorded
  errors : List UInt8 := []
  status : Int := 0
  executable : Bool := true
  interrupts : Bool := false
  deriving DecidableEq, Repr

/-- **A world written down.** -/
structure Snapshot where
  cwd : Location
  nodes : Assoc Location Node := []
  tools : Assoc String Tool := []
  environment : List (String × String) := []
  clock : Nat := 0
  room : Nat := 100

namespace Snapshot

/-! ### Files -/

/-- What stands at a location; the root is always there. -/
def node? (s : Snapshot) (l : Location) : Option Node :=
  if l = [] then some .directory else Assoc.get? s.nodes l

/-- Make the directories along a path, where nothing stands. -/
def makeDirectory (s : Snapshot) (l : Location) : Snapshot :=
  { s with
    nodes := (List.range (l.length + 1)).foldl (fun nodes n =>
      let above := l.take n
      if (Assoc.get? nodes above).isSome then nodes else Assoc.put nodes above .directory)
      s.nodes }

/-- Put a file at a location, with the directories above it. -/
def write (s : Snapshot) (l : Location) (bytes : List UInt8) : Snapshot :=
  let s := s.makeDirectory l.dropLast
  { s with nodes := Assoc.put s.nodes l (.file bytes) }

/-- Take away what stands at a location or below it. -/
def delete (s : Snapshot) (l : Location) : Snapshot :=
  { s with nodes := s.nodes.filter fun p => !l.isPrefixOf p.1 }

/-- Replace a command, or take it away. -/
def setTool (s : Snapshot) (name : String) (tool : Option Tool) : Snapshot :=
  match tool with
  | some tool => { s with tools := Assoc.put s.tools name tool }
  | none => { s with tools := Assoc.erase s.tools name }

/-! ### Commands -/

/-- The world in which no command can be started. -/
def quietWorld (s : Snapshot) : World where
  cwd := s.cwd
  node? := s.node?
  environment := s.environment
  launch _ := .failed .notFound
  clock := s.clock
  room := s.room

/-- The output of a command that echoes its arguments. -/
def echoOutput (arguments : List String) : String :=
  String.join ((List.range arguments.length).map fun i =>
    "AARG" ++ toString i ++ " ID " ++ arguments.getD i "" ++ "\n") ++ "(ARGS\n"

/-- The stream recorded beside the last argument. -/
def recordedOutput (s : Snapshot) (arguments : List String) : List UInt8 :=
  match s.quietWorld.read (Path.ofString (arguments.getLast?.getD "" ++ ".esis")) with
  | .ok bytes => bytes
  | .error _ => []

/-- What a scripted command does with its arguments. -/
def runTool (s : Snapshot) (tool : Tool) (arguments : List String) : Launch :=
  if !tool.executable then .failed .denied
  else if tool.interrupts then .interrupted
  else match tool.script with
    | .hangs => .endless
    | .echo => .finished tool.status (echoOutput arguments).toUTF8.toList tool.errors
    | .prints bytes => .finished tool.status bytes tool.errors
    | .recorded => .finished tool.status (s.recordedOutput arguments) tool.errors

/-- What comes of starting the file at a path: none of the files here may be started. The path is
followed as it is written, so only a directory can have a slash or a point behind it. -/
def runPath (s : Snapshot) (command : String) : Launch :=
  let start := (Path.ofString command).start s.cwd
  if command.utf8ByteSize > longestPath then .failed .nameTooLong
  else match s.quietWorld.walk start (Path.pieces command) with
    | .ok _ => .failed .denied
    | .error reason => .failed reason

/-- What comes of starting a command line. A name without a slash is looked up among the commands;
the names that lead to a directory of commands are refused. -/
def launch (s : Snapshot) : List String → Launch
  | [] => .failed .notFound
  | command :: arguments =>
    if command.toList.contains '/' then s.runPath command
    else if command ∈ ["", ".", ".."] then .failed .denied
    else if command.utf8ByteSize > longestName then .failed .nameTooLong
    else match Assoc.get? s.tools command with
      | some tool => s.runTool tool arguments
      | none => .failed .notFound

/-- **The world that a snapshot writes down.** -/
def toWorld (s : Snapshot) : World := { s.quietWorld with launch := s.launch }

end Snapshot

end CrossRef
