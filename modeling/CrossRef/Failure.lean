import CrossRef.Declaration
import CrossRef.Number.Layout
import CrossRef.Text.Lines
import CrossRef.Text.Quoted
import CrossRef.Text.Utf8

/-! # What can go wrong

Failures come in four kinds. A *problem* is foreseen and reported: a configuration that cannot be
used, a tool that does not answer, an identifier that is not there. A *fault* is not foreseen, such
as a setting of the wrong kind or a file that cannot be opened; it passes through the operations
that report problems. The third kind is the user's interrupt. The last one is no end at all: the
operation waits for a command that never ends, and whatever would come after it does not come.

The constructors name causes. The wording of each is in `message`, and the name under which a
problem is reported is in `Problem.kind`.
-/

namespace CrossRef

/-! ### Refusals of the operating system -/

/-- Why the operating system refuses a path. The reasons that the program itself tells apart or
that a path alone can have are named; any other one has its number and its words. -/
inductive OsError.Reason where
  | notFound
  | denied
  | notDirectory
  | isDirectory
  | nameTooLong
  | other (number : Nat) (words : String)
  deriving DecidableEq, Repr

/-- A refusal of the operating system, and the path it is about as it was given. -/
structure OsError where
  reason : OsError.Reason
  subject : String
  deriving DecidableEq, Repr

/-- The number and the words of a refusal. -/
def OsError.Reason.text : OsError.Reason → String
  | .notFound => "[Errno 2] No such file or directory"
  | .denied => "[Errno 13] Permission denied"
  | .notDirectory => "[Errno 20] Not a directory"
  | .isDirectory => "[Errno 21] Is a directory"
  | .nameTooLong => "[Errno 36] File name too long"
  | .other number words => "[Errno " ++ toString number ++ "] " ++ words

/-- The wording of a refusal. -/
def OsError.message (e : OsError) : String := e.reason.text ++ ": " ++ Text.quoted e.subject

/-! ### Problems -/

/-- The phase of a session's index. -/
inductive Phase where
  | empty
  | building
  | ready
  deriving DecidableEq, Repr

/-- The word for a phase. -/
def Phase.name : Phase → String
  | .empty => "empty"
  | .building => "building"
  | .ready => "ready"

/-- Why a run of the markup parser gave no events: the command is not there, it could not be
started, or it ended with a status that is not accepted, having left the given end of its standard
error. -/
inductive ToolTrouble where
  | notFound
  | notStarted (e : OsError)
  | exited (status : Int) (errors : String)
  deriving DecidableEq, Repr

/-- The status of a command that was started. -/
def ToolTrouble.status? : ToolTrouble → Option Int
  | .exited status _ => some status
  | _ => none

/-- The end of a command's standard error, which is empty if it was not started. -/
def ToolTrouble.errors : ToolTrouble → String
  | .exited _ errors => errors
  | _ => ""

/-- **A failure that is foreseen and reported.** -/
inductive Problem where
  | unreadableConfig (path : String) (e : OsError)
  | invalidConfig (path : Option String) (line : Nat)
  | tool (command : List String) (trouble : ToolTrouble)
  | timeout (command : List String) (limit : Double)
  | dangling (anomalies : List Anomaly)
  | missing (m : Declaration.Missing)
  | notReady (path : String) (phase : Phase)
  deriving DecidableEq, Repr

namespace Problem

/-- The name under which a problem is reported. -/
def kind : Problem → String
  | .unreadableConfig .. | .invalidConfig .. => "ConfigError"
  | .tool .. => "ToolInvocationError"
  | .timeout .. => "ToolTimeoutError"
  | .dangling _ => "MalformedStreamError"
  | .missing (.unknown _) => "UnknownIdentifierError"
  | .missing (.stale _) => "StaleIndexError"
  | .notReady .. => "IndexNotReadyError"

/-- The last line of a text under the wide set of line breaks. -/
def lastLine (s : String) : String :=
  String.ofList ((Text.wideLines s.toList).getLast?.getD [])

/-- What the trouble with the command `name` is. -/
def troubleText (name : String) : ToolTrouble → String
  | .notFound => name ++ " not found on PATH"
  | .notStarted e => "Could not start " ++ name ++ ": " ++ e.message
  | .exited status errors =>
    name ++ " exited with status " ++ toString status ++
      (if errors.isEmpty then "" else ": " ++ lastLine errors)

/-- **The wording of a problem.** -/
def message : Problem → String
  | .unreadableConfig path e => "Cannot read " ++ path ++ ": " ++ e.message
  | .invalidConfig path line =>
    (path.map (· ++ ": ")).getD "" ++ "Invalid TOML: line " ++ toString line ++
      " cannot be read"
  | .tool command trouble => troubleText (command.headD "") trouble
  | .timeout command limit =>
    command.headD "parser" ++ " timed out after " ++ limit.limitText ++ "s"
  | .dangling anomalies =>
    "ID attribute(s) without an owning element: " ++
      Text.joined ", " (anomalies.map (·.identifier))
  | .missing (.unknown identifier) => "Unknown identifier: " ++ identifier
  | .missing (.stale target) =>
    "Declaration " ++ target.attr ++ "=" ++ target.identifier ++
      " not found in document text; the index may be stale, rebuild it"
  | .notReady path phase =>
    "Index for " ++ path ++ " is not ready (state: " ++ phase.name ++ ")"

end Problem

/-! ### Faults -/

/-- **A failure that is not foreseen.** `kind` is the word for the kind of a value. -/
inductive Fault where
  /-- A value that is no table was asked for an entry. -/
  | noEntries (kind : String)
  /-- A value that is neither table nor array was to take an entry. -/
  | noAssignment (kind : String)
  /-- An array was to take an entry under a name. -/
  | namedIndex
  /-- A value that holds no items was to be gone through. -/
  | noItems (kind : String)
  /-- A value of this kind is no number with a fraction. -/
  | noFloat (kind : String)
  /-- A value of this kind is no whole number. -/
  | noInt (kind : String)
  /-- The item at this place of a command line is no text. -/
  | notText (place : Nat) (kind : String)
  | badFloat (text : String)
  | badInt (text : String)
  | longInteger (digits : Nat)
  /-- An array or an object stands inside too many others. -/
  | deepNesting (kind : String)
  | largeInteger
  | infiniteToInt
  | nanToInt
  /-- The time limit is more than the operating system can wait for. -/
  | longLimit
  /-- The time limit is more than a clock can show. -/
  | vastLimit
  /-- A zero character stands in a path or a command line. -/
  | nulCharacter
  | undecodable (f : Text.Utf8.Fault)
  | system (e : OsError)
  | unknownStyle (name : String)
  /-- A table with nothing in it somewhere cannot be written. A table with a string that is no text
  cannot be written either; its wording is this one here, too. -/
  | unwritable
  /-- A string with surrogates that stand alone cannot be encoded: the first of them, its place, and
  how many of them stand there in a row. -/
  | loneSurrogates (unit place count : Nat)
  /-- Standard output does not take a text, for the given reason. -/
  | notTaken (reason : String)
  /-- A list stands where a name is to be folded. -/
  | listAsName
  /-- A list stands where a key is to be looked up. -/
  | listAsKey
  | serverMissing
  | unknownTool (name : String)
  /-- What a part from elsewhere fails with: the kind of the failure and its wording. -/
  | foreign (kind wording : String)
  deriving DecidableEq, Repr

namespace Fault

/-- The words for what is wrong with a byte sequence. -/
def decodingReason : Text.Utf8.FaultKind → String
  | .badStart => "invalid start byte"
  | .badContinuation => "invalid continuation byte"
  | .cutShort => "unexpected end of data"

/-- The wording of a decoding fault. -/
def decodingMessage (f : Text.Utf8.Fault) : String :=
  (if f.width = 1 then
    "'utf-8' codec can't decode byte 0x" ++ String.ofList (Text.hexDigits 2 f.first.toNat) ++
      " in position " ++ toString f.position
  else
    "'utf-8' codec can't decode bytes in position " ++ toString f.position ++ "-" ++
      toString (f.position + f.width - 1)) ++
  ": " ++ decodingReason f.kind

/-- The wording of a fault of encoding. -/
def encodingMessage (unit place count : Nat) : String :=
  (if count = 1 then
    "'utf-8' codec can't encode character '\\u" ++ String.ofList (Text.hexDigits 4 unit) ++
      "' in position " ++ toString place
  else
    "'utf-8' codec can't encode characters in position " ++ toString place ++ "-" ++
      toString (place + count - 1)) ++
  ": surrogates not allowed"

/-- **The wording of a fault.** -/
def message : Fault → String
  | .noEntries kind => "'" ++ kind ++ "' object has no attribute 'get'"
  | .noAssignment kind => "'" ++ kind ++ "' object does not support item assignment"
  | .namedIndex => "list indices must be integers or slices, not str"
  | .noItems kind => "'" ++ kind ++ "' object is not iterable"
  | .noFloat kind =>
    "float() argument must be a string or a real number, not '" ++ kind ++ "'"
  | .noInt kind =>
    "int() argument must be a string, a bytes-like object or a real number, not '" ++ kind ++ "'"
  | .notText place kind =>
    "sequence item " ++ toString place ++ ": expected str instance, " ++ kind ++ " found"
  | .badFloat text => "could not convert string to float: " ++ Text.quoted text
  | .badInt text =>
    "invalid literal for int() with base 10: " ++
      String.ofList ((Text.quoted text).toList.take 200)
  | .longInteger digits =>
    "Exceeds the limit (4300 digits) for integer string conversion: value has " ++
      toString digits ++ " digits; use sys.set_int_max_str_digits() to increase the limit"
  | .deepNesting kind =>
    "maximum recursion depth exceeded while decoding a JSON " ++ kind ++ " from a unicode string"
  | .largeInteger => "int too large to convert to float"
  | .infiniteToInt => "cannot convert float infinity to integer"
  | .nanToInt => "cannot convert float NaN to integer"
  | .longLimit => "timeout is too large"
  | .vastLimit => "timestamp too large to convert to C _PyTime_t"
  | .nulCharacter => "embedded null byte"
  | .undecodable f => decodingMessage f
  | .system e => e.message
  | .unknownStyle name =>
    "Could not find style module " ++ Text.quoted ("pygments.styles." ++ name) ++ "."
  | .unwritable => "Unable to convert an object of <class 'NoneType'> to a TOML item"
  | .loneSurrogates unit place count => encodingMessage unit place count
  | .notTaken reason => reason
  | .listAsName => "'list' object has no attribute 'lower'"
  | .listAsKey => "unhashable type: 'list'"
  | .serverMissing =>
    "MCP dependencies not installed. Install with: pip install esisref[mcp]"
  | .unknownTool name => "Unknown tool: " ++ name
  | .foreign _ wording => wording

end Fault

/-! ### Failures -/

/-- **A failure of an operation.** An operation that is `endless` never comes to its end. -/
inductive Failure where
  | problem (p : Problem)
  | fault (f : Fault)
  | interrupt
  | endless
  deriving DecidableEq, Repr

/-- The wording of a failure; an interrupt has none, and neither has what never ends. -/
def Failure.message : Failure → String
  | .problem p => p.message
  | .fault f => f.message
  | .interrupt | .endless => ""

end CrossRef
