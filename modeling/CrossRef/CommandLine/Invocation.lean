import CrossRef.Path

/-! # Invocations

An invocation of the program has options that hold for every command and at most one command. The
commands form a tree of *menus*: the top menu offers the commands, and two of these offer further
ones. Reading the words of a command line fills a *draft*; the menu at which the words end says
which command the draft stands for.

An argument may be given by nothing but the mark that ends options. It is then *void*: it is there,
and holds no text.
-/

namespace CrossRef

/-- What was given as an argument. -/
inductive Given (α : Type) where
  | value (a : α)
  | void
  deriving DecidableEq, Repr

/-- What was given, if it holds a value. -/
def Given.value? {α : Type} : Given α → Option α
  | .value a => some a
  | .void => none

namespace CommandLine

/-! ### Commands -/

/-- A document, and how it is to be indexed. -/
structure Document where
  file : Path
  caseSensitive : Option Bool
  strict : Bool
  deriving DecidableEq, Repr

/-- What can be shown of the configuration. -/
inductive ConfigAction where
  | settings
  | path
  deriving DecidableEq, Repr

/-- **A command.** -/
inductive Command where
  | list (document : Document) (json : Bool)
  | resolve (document : Document) (identifier : Given String) (json : Bool)
  | view (document : Document) (identifier : Given String) (context : Option Int) (plain : Bool)
  | config (action : Option ConfigAction)
  | version
  | completion (shell : Option String)
  | server (transport : Option String)
  deriving DecidableEq, Repr

/-- The document that a command is about. -/
def Command.document? : Command → Option Document
  | .list d _ | .resolve d _ _ | .view d _ _ _ => some d
  | _ => none

/-- The options that hold for every command. -/
structure Globals where
  config : Option Path
  verbose : Bool
  quiet : Bool
  deriving DecidableEq, Repr

/-- **An invocation of the program.** -/
structure Invocation where
  globals : Globals
  command : Option Command
  deriving DecidableEq, Repr

/-! ### Menus -/

/-- **A place of the command line at which words are read.** -/
inductive Menu where
  | top
  | list
  | resolve
  | view
  | config
  | configSettings
  | configPath
  | version
  | completion
  | server
  | serve
  deriving DecidableEq, Repr

namespace Menu

/-- The words that lead to a menu. -/
def program : Menu → String
  | .top => "esisref"
  | .list => "esisref list"
  | .resolve => "esisref resolve"
  | .view => "esisref show"
  | .config => "esisref config"
  | .configSettings => "esisref config show"
  | .configPath => "esisref config path"
  | .version => "esisref version"
  | .completion => "esisref completion"
  | .server => "esisref mcp"
  | .serve => "esisref mcp serve"

/-- What a menu offers. -/
def entries : Menu → List (String × Menu)
  | .top =>
    [("list", .list), ("resolve", .resolve), ("show", .view), ("config", .config),
     ("version", .version), ("completion", .completion), ("mcp", .server)]
  | .config => [("show", .configSettings), ("path", .configPath)]
  | .server => [("serve", .serve)]
  | _ => []

/-- The name of the choice that a menu asks for. -/
def choiceName : Menu → String
  | .config => "config_action"
  | .server => "mcp_action"
  | _ => "command"

/-- The menu behind an entry. -/
def entry? (m : Menu) (name : String) : Option Menu :=
  (m.entries.find? fun e => e.1 = name).map (·.2)

/-- How many choices can follow at a menu. -/
def height : Menu → Nat
  | .top => 2
  | .config | .server => 1
  | _ => 0

/-- A menu offers lower menus only. -/
theorem height_lt_of_mem {m : Menu} {e : String × Menu} (h : e ∈ m.entries) :
    e.2.height < m.height := by
  cases m <;> simp only [entries, List.mem_cons, List.not_mem_nil, or_false] at h
  case top => rcases h with rfl | rfl | rfl | rfl | rfl | rfl | rfl <;> decide
  case config => rcases h with rfl | rfl <;> decide
  case server => subst h; decide

/-- The menu behind an entry is lower. -/
theorem height_entry? {m n : Menu} {name : String} (h : m.entry? name = some n) :
    n.height < m.height := by
  obtain ⟨e, he, rfl⟩ := Option.map_eq_some_iff.1 h
  exact height_lt_of_mem (List.mem_of_find?_eq_some he)

end Menu

/-! ### Drafts -/

/-- **What the words read so far have set.** -/
structure Draft where
  config : Option Path := none
  verbose : Bool := false
  quiet : Bool := false
  file : Path := ⟨.relative, []⟩
  identifier : Given String := .void
  caseSensitive : Option Bool := none
  strict : Bool := false
  json : Bool := false
  context : Option Int := none
  plain : Bool := false
  shell : Option String := none
  transport : String := "stdio"
  deriving DecidableEq, Repr

namespace Draft

/-- The document of a draft. -/
def document (d : Draft) : Document := ⟨d.file, d.caseSensitive, d.strict⟩

/-- The command that a draft stands for at a menu. -/
def command (d : Draft) : Menu → Option Command
  | .top => none
  | .list => some (.list d.document d.json)
  | .resolve => some (.resolve d.document d.identifier d.json)
  | .view => some (.view d.document d.identifier d.context d.plain)
  | .config => some (.config none)
  | .configSettings => some (.config (some .settings))
  | .configPath => some (.config (some .path))
  | .version => some .version
  | .completion => some (.completion d.shell)
  | .server => some (.server none)
  | .serve => some (.server (some d.transport))

/-- **The invocation that a draft stands for** at a menu. -/
def invocation (d : Draft) (m : Menu) : Invocation :=
  ⟨⟨d.config, d.verbose, d.quiet⟩, d.command m⟩

end Draft

end CommandLine

end CrossRef
