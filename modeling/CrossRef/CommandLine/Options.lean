import CrossRef.CommandLine.Invocation
import CrossRef.Number.Reader
import CrossRef.Text.Lines
import CrossRef.Text.Quoted

/-! # Options

An option has one or more names and an effect. A *mark* changes the draft by its presence, an option
that *stores* takes a value and may refuse it, and two options end the reading: one asks for help,
one for the version. Two options that exclude each other are *rivals*.

Arguments without a name fill the *slots* of a menu in order.
-/

namespace CrossRef.CommandLine

/-! ### What is wrong with a command line -/

/-- What is wrong with one option or argument. -/
inductive Complaint where
  | noValue
  | unusedValue (value : String)
  | notWhole (value : String)
  | notAmong (value : String) (choices : List String)
  | rival (other : String)
  deriving DecidableEq, Repr

/-- The wording of a complaint. -/
def Complaint.message : Complaint → String
  | .noValue => "expected one argument"
  | .unusedValue value => "ignored explicit argument " ++ Text.quoted value
  | .notWhole value => "invalid int value: " ++ Text.quoted value
  | .notAmong value choices =>
    "invalid choice: " ++ Text.quoted value ++ " (choose from " ++
      Text.joined ", " (choices.map Text.quoted) ++ ")"
  | .rival other => "not allowed with argument " ++ other

/-- **Why a command line is refused.** -/
inductive Refusal where
  | about (label : String) (c : Complaint)
  | ambiguous (word : String) (names : List String)
  | required (names : List String)
  | unrecognised (words : List String)
  deriving DecidableEq, Repr

/-- The wording of a refusal. -/
def Refusal.message : Refusal → String
  | .about label c => "argument " ++ label ++ ": " ++ c.message
  | .ambiguous word names =>
    "ambiguous option: " ++ word ++ " could match " ++ Text.joined ", " names
  | .required names => "the following arguments are required: " ++ Text.joined ", " names
  | .unrecognised words => "unrecognized arguments: " ++ Text.joined " " words

/-! ### Options -/

/-- What an option does. -/
inductive Effect where
  | mark (f : Draft → Draft)
  | store (f : String → Draft → Except Complaint Draft)
  | help
  | version

/-- **An option:** its names, what it does, and the labels of its rivals. -/
structure Opt where
  names : List String
  effect : Effect
  rivals : List String := []

namespace Opt

/-- The label of an option in messages. -/
def label (o : Opt) : String := Text.joined "/" o.names

/-- The option takes a value. -/
def takesValue (o : Opt) : Bool :=
  match o.effect with
  | .store _ => true
  | _ => false

end Opt

/-- A whole number as a value. -/
def wholeValue (s : String) : Except Complaint Int :=
  match Number.readInt s.toList with
  | .ok n => .ok n
  | .error _ => .error (.notWhole s)

/-- A value that has to be one of `choices`. -/
def chosenValue (choices : List String) (s : String) : Except Complaint String :=
  if s ∈ choices then .ok s else .error (.notAmong s choices)

/-- The shells that completion knows. -/
def shells : List String := ["bash", "zsh", "fish", "tcsh"]

/-- The ways in which a server can speak to its clients. -/
def transports : List String := ["stdio", "sse", "streamable-http"]

/-- The option that asks for help. -/
def helpOption : Opt := { names := ["-h", "--help"], effect := .help }

/-- The options of the top menu. -/
def globalOptions : List Opt :=
  [{ names := ["--version"], effect := .version },
   { names := ["--config"],
     effect := .store fun s d => .ok { d with config := some (Path.ofString s) } },
   { names := ["-v", "--verbose"], effect := .mark fun d => { d with verbose := true } },
   { names := ["-q", "--quiet"], effect := .mark fun d => { d with quiet := true } }]

/-- The options of the commands that index a document. -/
def documentOptions : List Opt :=
  [{ names := ["--case-sensitive"]
     effect := .mark fun d => { d with caseSensitive := some true }
     rivals := ["--case-insensitive"] },
   { names := ["--case-insensitive"]
     effect := .mark fun d => { d with caseSensitive := some false }
     rivals := ["--case-sensitive"] },
   { names := ["--strict"], effect := .mark fun d => { d with strict := true } }]

/-- The option that asks for output in JSON. -/
def jsonOption : Opt :=
  { names := ["-j", "--json"], effect := .mark fun d => { d with json := true } }

/-- The options of the view. -/
def viewOptions : List Opt :=
  [{ names := ["-C", "--context"],
     effect := .store fun s d => do
       let n ← wholeValue s
       pure { d with context := some n } },
   { names := ["--plain"], effect := .mark fun d => { d with plain := true } }]

/-- The option that names a shell. -/
def shellOption : Opt :=
  { names := ["--shell"]
    effect := .store fun s d => do
      let shell ← chosenValue shells s
      pure { d with shell := some shell } }

/-- The option that says how a server speaks to its clients. -/
def transportOption : Opt :=
  { names := ["--transport"]
    effect := .store fun s d => do
      let transport ← chosenValue transports s
      pure { d with transport } }

/-- **The options of a menu.** -/
def Menu.options : Menu → List Opt
  | .top => helpOption :: globalOptions
  | .list | .resolve => helpOption :: documentOptions ++ [jsonOption]
  | .view => helpOption :: documentOptions ++ viewOptions
  | .completion => [helpOption, shellOption]
  | .serve => [helpOption, transportOption]
  | _ => [helpOption]

/-! ### Arguments -/

/-- **A place for an argument.** -/
structure Slot where
  name : String
  store : Given String → Draft → Draft

/-- The place for a document. -/
def fileSlot : Slot where
  name := "file"
  store
    | .value s, d => { d with file := Path.ofString s }
    | .void, d => d

/-- The place for an identifier. -/
def identifierSlot : Slot where
  name := "identifier"
  store g d := { d with identifier := g }

/-- **The places for arguments at a menu,** in order. -/
def Menu.slots : Menu → List Slot
  | .list => [fileSlot]
  | .resolve | .view => [fileSlot, identifierSlot]
  | _ => []

end CrossRef.CommandLine
