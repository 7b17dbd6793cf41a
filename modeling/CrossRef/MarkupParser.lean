import CrossRef.Number.Reader
import CrossRef.Traced
import CrossRef.Value.Basic
import CrossRef.World

/-! # Running the markup parser

The events of a document come from a command outside the program. Which command, with which
arguments and for how long is a matter of settings, and settings may hold values of any kind: those
that cannot be used at all are refused when the settings are read, and a command or argument that is
no text when the command is to be started.

A run gives events if the command ends with status zero, or with status one and some output if the
parser is tolerant of errors in documents.
-/

namespace CrossRef

/-- **How the markup parser is run.** -/
structure MarkupParser where
  command : Value
  arguments : List Value
  limit : Option Double
  tolerant : Bool

namespace MarkupParser

/-! ### Settings -/

/-- A number with a fraction, from a value. -/
def toDouble : Value → Except Fault Double
  | .float x => .ok x
  | .bool b => .ok (Double.ofRatio false (if b then 1 else 0) 1)
  | .int n =>
    match Double.ofInt? n with
    | some x => .ok x
    | none => .error .largeInteger
  | .str s =>
    match Number.readDouble s.toList with
    | some x => .ok x
    | none => .error (.badFloat s)
  | v => .error (.noFloat v.kindName)

/-- The time limit that a value sets: none if it does not count as set. -/
def limitOf (v : Value) : Except Fault (Option Double) :=
  if v.isTruthy then (toDouble v).map some else .ok none

/-- The items of JSON data, if it has items. -/
def dataItems? : Json.Data → Option (List Json.Data)
  | .array items => some items
  | .text s => some (s.map fun c => .text [c])
  | .object fields => some (fields.map fun p => .text p.1)
  | _ => none

/-- The items of a value: those of an array, the characters of a text, or the keys of a table. -/
def itemsOf : Value → Except Fault (List Value)
  | .array items => .ok items
  | .str s => .ok (s.toList.map fun c => .str (String.ofList [c]))
  | .table entries => .ok (entries.map fun p => .str p.1)
  | .json d =>
    match dataItems? d with
    | some items => .ok (items.map Json.Data.toValue)
    | none => .error (.noItems d.kindName)
  | v => .error (.noItems v.kindName)

/-- The entries of a section of a configuration; a missing section has none. -/
def sectionOf (config : Table) (name : String) : Except Fault Table :=
  match Assoc.get? config name with
  | none => .ok []
  | some (.table t) => .ok t
  | some v => .error (.noEntries v.kindName)

/-- The value under a key, or the value to use if it is missing. -/
def getD (t : Table) (key : String) (default_ : Value) : Value :=
  (Assoc.get? t key).getD default_

/-- **The parser that a configuration describes.** -/
def ofConfig (config : Table) : Except Fault MarkupParser := do
  let t ← sectionOf config "parser"
  let limit ← limitOf (getD t "timeout" (.float (Double.ofDecimal false 30 0)))
  let arguments ← itemsOf (getD t "args" (.array [.str "-oline", .str "-oid"]))
  pure {
    command := getD t "command" (.str "nsgmls")
    arguments, limit
    tolerant := (getD t "tolerate_errors" (.bool false)).isTruthy }

/-! ### The command line -/

/-- The command line for the document at a path. -/
def commandLine (p : MarkupParser) (path : String) : List Value :=
  p.command :: p.arguments ++ [.str path]

/-- What is wrong with a string of a command line that is no text: its first surrogates. -/
def stringFault (s : List Json.CodePoint) : Fault :=
  let place := s.findIdx fun c => c.lone?.isSome
  let run := (s.drop place).takeWhile fun c => c.lone?.isSome
  .loneSurrogates ((run.head?.bind Json.CodePoint.lone?).getD 0) place run.length

/-- The texts of a command line whose first item has the place `i`. A string that is no text counts
only if all items are strings. -/
def textsFrom (i : Nat) : List Value → Except Fault (List String)
  | [] => .ok []
  | .str s :: rest => (textsFrom (i + 1) rest).map (s :: ·)
  | .json (.text s) :: rest =>
    match textsFrom (i + 1) rest with
    | .error (.notText place kind) => .error (.notText place kind)
    | _ => .error (stringFault s)
  | v :: _ => .error (.notText i v.kindName)

/-- **The command line as texts.** -/
def commandTexts (p : MarkupParser) (path : String) : Except Fault (List String) :=
  textsFrom 0 (p.commandLine path)

/-! ### A run -/

/-- The longest time in milliseconds that the operating system can wait for. -/
def longestWait : Nat := 0x7FFFFFFF

/-- The most nanoseconds that a clock can show. -/
def clockRange : Nat := 0x7FFFFFFFFFFFFFFF

/-- Whether a number of milliseconds can be waited for. -/
def checkWait : Double → Except Fault Unit
  | .nan => .error .nanToInt
  | .infinite _ => .error .infiniteToInt
  | .finite _ m e =>
    let wait := Double.ceiling m e
    if wait * 1000000 > clockRange then .error .vastLimit
    else if wait > longestWait then .error .longLimit
    else .ok ()

/-- Whether a time limit can be waited for, and whether it is over at once. -/
def checkLimit (limit : Double) : Except Fault Bool :=
  if limit.isNotPositive then .ok true else (checkWait (limit.scaled 1000)).map fun _ => false

/-- What a command left: its status and its texts. -/
structure Output where
  status : Int
  text : List Char
  errors : List Char

/-- The time limit passed. A limit of zero is reported without a sign. -/
def timedOut (command : List String) (limit : Double) : Failure :=
  .problem (.timeout command (if limit.isZero then .zero false else limit))

/-- The output of a command that was started, if it ends within the limit. A command that never ends
is waited for without end if there is no limit. -/
def await (command : List String) (limit : Option Double) (ending : Option Output) :
    Except Failure Output :=
  match limit, ending with
  | none, none => .error .endless
  | none, some output => .ok output
  | some limit, ending =>
    match checkLimit limit, ending with
    | .error f, _ => .error (.fault f)
    | .ok true, _ => .error (timedOut command limit)
    | .ok false, none => .error (timedOut command limit)
    | .ok false, some output => .ok output

/-- **The output of a command line,** or why there is none. -/
def run (w : World) (command : List String) (limit : Option Double) : Except Failure Output :=
  if command.any (·.toList.contains '\x00') then .error (.fault .nulCharacter)
  else match w.launch command with
    | .failed .notFound => .error (.problem (.tool command .notFound))
    | .failed reason =>
      .error (.problem (.tool command (.notStarted ⟨reason, command.headD ""⟩)))
    | .interrupted => .error .interrupt
    | .endless => await command limit none
    | .finished status output errors =>
      await command limit (some ⟨status, World.decoded output, World.decoded errors⟩)

/-- How many lines of standard error are kept. -/
def errorLines : Nat := 20

/-- The end of a standard error: its last lines, without white space around the whole. -/
def errorTail (errors : List Char) : String :=
  let lines := Text.wideLines (Text.trim errors)
  Text.joined "\n" ((lines.drop (lines.length - errorLines)).map String.ofList)

/-- The events of an output. -/
def eventsOf (output : List Char) : List Event :=
  Event.ofLines ((Text.wideLines output).map String.ofList)

/-- The output is accepted although the command did not end with status zero. -/
def accepts (p : MarkupParser) (o : Output) : Bool :=
  p.tolerant && o.status == 1 && !o.text.isEmpty

/-- What is told about an output that is accepted in spite of errors. -/
def toleranceNotes (name path errors : String) : List Note :=
  ⟨.warning, name ++ " reported errors in " ++ path ++ "; indexing partial output"⟩ ::
    (if errors.isEmpty then [] else [⟨.debug, name ++ " stderr:\n" ++ errors⟩])

/-- The events of a finished run. -/
def judge (p : MarkupParser) (command : List String) (path : String) (o : Output) :
    Noted (List Event) :=
  let errors := errorTail o.errors
  if o.status = 0 then pure (eventsOf o.text)
  else if p.accepts o then do
    Traced.tell (toleranceNotes (command.headD "") path errors)
    pure (eventsOf o.text)
  else .fail (.problem (.tool command (.exited o.status errors)))

/-- **The events of the document at a path.** -/
def events (w : World) (p : MarkupParser) (path : String) : Noted (List Event) := do
  let command ← Traced.ofFault (p.commandTexts path)
  Traced.note .debug ("Running " ++ Text.joined " " command)
  let output ← Traced.ofExcept (run w command p.limit)
  p.judge command path output

end MarkupParser

end CrossRef
