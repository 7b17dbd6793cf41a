import CrossRef.CommandLine.Console
import CrossRef.Json.Printer
import CrossRef.Server
import CrossRef.Toml.Printer
import CrossRef.View.Context
import CrossRef.View.Settings

/-! # The commands

Each command is carried out on a host under the options that hold for all commands, and ends with a
status. A command on a document opens a session, with the settings that hold for the document and
the options of the command laid over them, and builds the index. A document that is not there and a
build that fails with a problem are reported, with status one. All other failures leave the command.
A command that looks a declaration up then reads the document, which may have changed by that time.
-/

namespace CrossRef.CommandLine

/-! ### Statuses -/

/-- The status of a command that cannot be carried out. -/
def failed : Nat := 1

/-- The status for an identifier that is not declared. -/
def notDeclared : Nat := 2

/-- The status for a declaration that is not in the text. -/
def notInText : Nat := 3

/-- The status after an interrupt. -/
def cancelled : Nat := 130

/-! ### Documents -/

/-- The settings for a start path, with the configuration file that was asked for. -/
def settingsFrom (w : World) (g : Globals) (start : Path) (quiet : Bool) : Noted Table :=
  Config.effective w g.config start quiet

/-- The options of a document laid over a configuration. -/
def Document.settings (d : Document) (config : Table) : Except Fault Table := do
  let config ←
    match d.caseSensitive with
    | none => pure config
    | some b => Config.assign config "index" "case_sensitive" (.bool b)
  if d.strict then Config.assign config "index" "strict" (.bool true) else pure config

/-- The directory of a document. -/
def Document.directory (w : World) (d : Document) : Except Fault Path :=
  (w.locate d.file).map fun l => (Path.ofLocation l).parent

/-- **A fresh session for a document.** -/
def openSession (w : World) (g : Globals) (d : Document) : Noted Session := do
  let directory ← Traced.ofFault (d.directory w)
  let config ← settingsFrom w g directory (!g.verbose)
  let config ← Traced.ofFault (d.settings config)
  Session.start w d.file (some config)

/-- **The first build of a session,** with what is wrong reported. -/
def buildOrReport (w : World) (g : Globals) (s : Session) :
    Console (Option (Session × Build)) := do
  if ← Traced.ofFault (w.isFile s.path) then
    let (result, s') := s.rebuild w
    match ← (heard g result).caught with
    | .error p =>
      report ("Error: could not index " ++ s.path.text ++ ": " ++ p.message)
      pure none
    | .ok b =>
      reportAll (b.anomalies.map fun a => "Warning: " ++ a.text)
      pure (some (s', b))
  else
    report ("Error: no such file: " ++ s.path.text)
    pure none

/-- A command on a document whose index could be built. -/
def onDocument (w : World) (g : Globals) (d : Document) (k : Session → Build → Console Nat) :
    Console Nat := do
  let s ← heard g (openSession w g d)
  match ← buildOrReport w g s with
  | none => pure failed
  | some (s, b) => k s b

/-! ### Listing -/

/-- The listing of a document for other programs. -/
def listingReport (s : Session) (b : Build) : Value :=
  .table
    [("file", .str s.path.text), ("case_sensitive", .bool b.index.caseSensitive),
     ("entries", .array (b.index.entries.map fun e => .table (Server.entryFields e))),
     ("anomalies", .array (b.anomalies.map fun a => .str a.text))]

/-- **List the identifiers of a document.** -/
def list (h : Host) (g : Globals) (d : Document) (json : Bool) : Console Nat :=
  onDocument h.world g d fun s b => do
    if json then say h (Json.print (listingReport s b))
    else if b.index.entries.isEmpty then
      if !g.quiet then report ("No ID attributes declared in " ++ s.path.text)
    else sayAll h (Listing.render b.index)
    pure 0

/-! ### Declarations -/

/-- The declaration of an identifier as it was given. What is void can neither be folded nor looked
up. -/
def locate (w : World) (s : Session) (identifier : Given String) (text : Option String) :
    Except Failure Span :=
  match identifier with
  | .value i => s.resolve w i text
  | .void => do
    let x ← s.readyIndex
    if text.isNone then
      let _ ← (w.readText s.path).mapError Failure.fault
    .error (.fault (if x.caseSensitive then .listAsKey else .listAsName))

/-- **Look for a declaration,** with a failed lookup reported under its own status. `remark` is what
is added about an identifier that is not declared. -/
def withDeclaration (found : Except Failure Span) (remark : String) (k : Span → Console Nat) :
    Console Nat := do
  match ← (Traced.ofExcept found).caught with
  | .ok span => k span
  | .error (.missing (.unknown i)) =>
    report ("Error: " ++ (Problem.missing (.unknown i)).message ++ remark)
    pure notDeclared
  | .error (.missing (.stale t)) =>
    report ("Error: " ++ (Problem.missing (.stale t)).message)
    pure notInText
  | .error p => .fail (.problem p)

/-- A declaration for other programs. -/
def declarationReport (s : Session) (x : Index) (identifier : String) (span : Span) : Value :=
  let (attr, element) := (x.lookup? identifier).getD ("", "")
  .table
    [("file", .str s.path.text), ("identifier", .str (x.fold identifier)), ("attribute", .str attr),
     ("element", .str element), ("span", .table (Server.spanFields span))]

/-- Where a declaration is. -/
def placeOf (s : Session) (span : Span) : String :=
  s.path.text ++ ":" ++ toString span.line ++ ":" ++ toString span.column

/-- What is said of a declaration that was found. -/
def answerLine (s : Session) (x : Index) (identifier : String) (json : Bool) (span : Span) :
    String :=
  if json then Json.print (declarationReport s x identifier span)
  else placeOf s span ++ ": " ++ span.text

/-- **Show where an identifier is declared.** -/
def resolve (h : Host) (g : Globals) (d : Document) (identifier : Given String) (json : Bool) :
    Console Nat :=
  onDocument h.world g d fun s b =>
    withDeclaration (locate h.later s identifier none)
      (" (not declared as an ID in " ++ s.path.text ++ ")") fun span => do
        say h (answerLine s b.index (identifier.value?.getD "") json span)
        pure 0

/-! ### Views -/

/-- The lines of a view. The setting counts where no number of lines is asked for; a style is looked
for only where there are colours. -/
def viewLines (p : View.Highlighter) (config : Table) (context : Option Int) (colours : Bool)
    (path : String) (text : List Char) (span : Span) : Except Fault (List (List Char)) := do
  let t ← View.settings config
  let context ←
    match context with
    | some n => pure n
    | none => View.linesAround t
  let style ← if colours then (p.style (View.styleSetting t)).map some else pure none
  pure (View.render p path text span context style)

/-- **Show the declaration of an identifier in context.** -/
def view (h : Host) (g : Globals) (d : Document) (identifier : Given String)
    (context : Option Int) (plain : Bool) : Console Nat :=
  onDocument h.world g d fun s _ => do
    let text ← Traced.ofFault (h.later.readText s.path)
    withDeclaration (locate h.later s identifier (some (String.ofList text))) "" fun span => do
      let lines ← Traced.ofFault
        (viewLines h.highlighter s.settings context (!plain && h.terminal) s.path.text text span)
      sayAll h (lines.map String.ofList)
      pure 0

/-! ### Configuration -/

/-- The configuration file in use in the current directory. -/
def fileInUse (w : World) (g : Globals) : Except Fault (Option Path) :=
  match g.config with
  | some p => .ok (some p)
  | none => Config.findFile w (.ofLocation w.cwd)

/-- **Show the configuration.** -/
def config (h : Host) (g : Globals) : Option ConfigAction → Console Nat
  | some .path => do
    match ← Traced.ofFault (fileInUse h.world g) with
    | some p => say h p.text; pure 0
    | none => say h "No .esisref.toml found; using built-in defaults."; pure failed
  | some .settings => do
    let t ← heard g (settingsFrom h.world g (.ofLocation h.world.cwd) true)
    if Table.isWritable t then do write h (Toml.print t); pure 0
    else .fail (.fault .unwritable)
  | none => do report "Usage: esisref config <show|path>"; pure failed

/-! ### Completion -/

/-- How completion is set up. -/
def completionSetup : List String :=
  ["Shell completion for esisref",
   "============================",
   "",
   "Commands, options and document paths complete in every shell. For",
   "`resolve` and `show`, the identifier argument completes to the IDs declared",
   "in the document already on the command line; this runs the configured",
   "parser ([parser] in .esisref.toml) on each request.",
   "",
   "Bash (add to ~/.bashrc):",
   "  eval \"$(register-python-argcomplete esisref)\"",
   "",
   "Zsh (add to ~/.zshrc):",
   "  eval \"$(register-python-argcomplete --shell zsh esisref)\"",
   "",
   "Fish (add to ~/.config/fish/config.fish):",
   "  register-python-argcomplete --shell fish esisref | source",
   "",
   "Print the script for one shell:",
   "  esisref completion --shell bash"]

/-- The command that writes completion scripts. -/
def completionCommand : String := "register-python-argcomplete"

/-- Output of a command that has to be UTF-8. -/
def strictText (bytes : List UInt8) : Except Fault (List Char) :=
  ((Text.Utf8.decode? bytes).map Text.unixLines).mapError .undecodable

/-- What a finished command left is shown: its output, or why there is no script. -/
def showScript (h : Host) (status : Int) (output errors : List UInt8) : Console Nat := do
  let output ← Traced.ofFault (strictText output)
  let errors ← Traced.ofFault (strictText errors)
  if status = 0 then do write h (String.ofList output); pure 0
  else do
    report ("Error generating completion script: " ++ String.ofList (Text.trim errors))
    pure failed

/-- The completion script for a shell. Nothing limits the time of the command that writes it. -/
def completionScript (h : Host) (shell : String) : Console Nat :=
  match h.world.launch [completionCommand, "--shell=" ++ shell, "esisref"] with
  | .failed .notFound => do report ("Error: " ++ completionCommand ++ " not found."); pure failed
  | .failed reason => .fail (.fault (.system ⟨reason, completionCommand⟩))
  | .interrupted => .fail .interrupt
  | .endless => .fail .endless
  | .finished status output errors => showScript h status output errors

/-- **Help with completion.** -/
def completion (h : Host) (shell : Option String) : Console Nat :=
  if h.hasCompletion then
    match shell with
    | none => do write h (String.join (completionSetup.map (· ++ "\n"))); pure 0
    | some shell => completionScript h shell
  else do
    reportAll ["Error: argcomplete not installed.",
      "Install with: pip install esisref[completion]"]
    pure failed

/-! ### The server -/

/-- Run a server in the current directory until it ends. -/
def serve (h : Host) (g : Globals) (transport : String) : Console Nat := do
  let directory := Path.ofLocation h.world.cwd
  reportAll ["Starting esisref MCP server...", "Working directory: " ++ directory.text]
  let _ ← heard g (Server.create h.world h.hasServer (some directory))
  Traced.tell [.serve transport]
  if h.interruptsServer then report "\nServer stopped."
  pure 0

/-- **Offer the tools to other programs.** -/
def server (h : Host) (g : Globals) (transport : Option String) : Console Nat :=
  if h.hasServer then
    match transport with
    | some transport => serve h g transport
    | none => do report "Usage: esisref mcp serve"; pure failed
  else do
    reportAll ["Error: MCP dependencies not installed.", "Install with: pip install esisref[mcp]"]
    pure failed

/-! ### All commands -/

/-- What the program says about its version. -/
def versionLine : String := "esisref 0.3.0"

/-- **A command carried out.** -/
def Command.run (h : Host) (g : Globals) : Command → Console Nat
  | .list d json => CommandLine.list h g d json
  | .resolve d identifier json => CommandLine.resolve h g d identifier json
  | .view d identifier context plain => CommandLine.view h g d identifier context plain
  | .config action => CommandLine.config h g action
  | .version => do say h versionLine; pure 0
  | .completion shell => CommandLine.completion h shell
  | .server transport => CommandLine.server h g transport

end CrossRef.CommandLine
