import CrossRef.Failure
import CrossRef.Path
import CrossRef.Text.Utf8

/-! # The surroundings of the program

What the program can see of the outside: the current directory, what stands at each location, the
variables of the environment in order, what comes of starting a command, the clock, and the room
that its callers leave it on the stack. A world is one moment of the outside; an operation sees one
world, and the next operation may see another.

Opening a path goes through its parts one by one, so each part but the last has to lead to a
directory. A part or a path can be too long to be looked up, and a zero character cannot be part of
a path. A file can be there and still be closed to the program, for lack of a permission or because
the device that it is on fails.
-/

namespace CrossRef

/-- What stands at a location. A *closed* file is one that cannot be read, for the given reason. -/
inductive Node where
  | file (bytes : List UInt8)
  | closed (reason : OsError.Reason)
  | directory
  deriving DecidableEq, Repr

/-- **What comes of starting a command:** it cannot be started, the user interrupts, it never ends,
or it ends with a status and its output. -/
inductive Launch where
  | failed (reason : OsError.Reason)
  | interrupted
  | endless
  | finished (status : Int) (output errors : List UInt8)
  deriving DecidableEq, Repr

/-- **The outside at one moment.** There is room on the stack for reading `room` arrays and objects
of JSON inside one another. -/
structure World where
  cwd : Location
  node? : Location → Option Node
  environment : List (String × String)
  launch : List String → Launch
  clock : Nat
  room : Nat

/-- The most bytes that a part of a path can have. -/
def longestName : Nat := 255

/-- The most bytes that the text of a path can have. -/
def longestPath : Nat := 4095

namespace World

/-- What stands at the end of a walk from `l` through `parts`. -/
def walk (w : World) (l : Location) : List String → Except OsError.Reason Node
  | [] =>
    match w.node? l with
    | some node => .ok node
    | none => .error .notFound
  | part :: parts =>
    match w.node? l with
    | some .directory =>
      if part.utf8ByteSize > longestName then .error .nameTooLong
      else walk w (Path.step l part) parts
    | some (.file _) | some (.closed _) => .error .notDirectory
    | none => .error .notFound

/-- What a path leads to. -/
def find (w : World) (p : Path) : Except OsError.Reason Node :=
  if p.text.utf8ByteSize > longestPath then .error .nameTooLong
  else w.walk (p.start w.cwd) p.parts

/-- **The location of a path.** -/
def locate (w : World) (p : Path) : Except Fault Location :=
  if p.hasNul then .error .nulCharacter else .ok (p.resolve w.cwd)

/-- Whether a path leads to a file, closed or not; one that is too long cannot be asked about. -/
def isFile (w : World) (p : Path) : Except Fault Bool :=
  if p.hasNul then .ok false
  else match w.find p with
    | .ok (.file _) | .ok (.closed _) => .ok true
    | .error .nameTooLong => .error (.system ⟨.nameTooLong, p.text⟩)
    | _ => .ok false

/-- **The bytes of a file.** -/
def read (w : World) (p : Path) : Except Fault (List UInt8) :=
  if p.hasNul then .error .nulCharacter
  else match w.find p with
    | .ok (.file bytes) => .ok bytes
    | .ok (.closed reason) => .error (.system ⟨reason, p.text⟩)
    | .ok .directory => .error (.system ⟨.isDirectory, p.text⟩)
    | .error reason => .error (.system ⟨reason, p.text⟩)

/-- Bytes as text: what cannot be decoded is replaced, and lines end with line feeds. -/
def decoded (bytes : List UInt8) : List Char := Text.unixLines (Text.Utf8.decodeReplacing bytes)

/-- **The text of a document.** -/
def readText (w : World) (p : Path) : Except Fault (List Char) := (w.read p).map decoded

end World

end CrossRef
