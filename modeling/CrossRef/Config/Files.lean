import CrossRef.Config.Environment
import CrossRef.Toml.Reader
import CrossRef.World

/-! # Settings from files

The settings of a user stand in a file `.esisref.toml`, in the directory of the document or in one
above it; the nearest one counts. They are laid over the built-in ones, and the environment is laid
over both.

* `findFile`: the configuration file for a start path.
* `load`: the built-in settings with those of one file laid over them.
* `effective`: the settings that hold.
-/

namespace CrossRef.Config

/-- The name of a configuration file. -/
def fileName : String := ".esisref.toml"

/-- **The built-in settings.** -/
def defaults : Table :=
  [("parser", .table
      [("command", .str "nsgmls"),
       ("args", .array [.str "-oline", .str "-oid"]),
       ("timeout", .float (Double.ofDecimal false 30 0)),
       ("tolerate_errors", .bool false)]),
   ("index", .table
      [("case_sensitive", .str "auto"),
       ("strict", .bool false)]),
   ("view", .table
      [("context_lines", .int 3),
       ("style", .str "default")])]

/-! ### Finding the file -/

/-- A location and those above it, up to the root. -/
def upward (l : Location) : List Location :=
  (List.range (l.length + 1)).map fun n => l.take (l.length - n)

/-- The directory in which the search from a path starts: that of the path, if it is a file. -/
def startDirectory (w : World) (start : Path) : Except Fault Location := do
  let l ← w.locate start
  let isFile ← w.isFile (.ofLocation l)
  pure (if isFile then l.dropLast else l)

/-- **The nearest configuration file** from a path upward. -/
def findFile (w : World) (start : Path) : Except Fault (Option Path) := do
  let directory ← startDirectory w start
  ((upward directory).map fun l => Path.ofLocation (l ++ [fileName])).findM? w.isFile

/-! ### Loading -/

/-- The text of a configuration file. What is not UTF-8 is a fault. -/
def readFile (w : World) (p : Path) : Except Failure String :=
  match w.read p with
  | .error (.system e) => .error (.problem (.unreadableConfig p.text e))
  | .error f => .error (.fault f)
  | .ok bytes =>
    match Text.Utf8.decode? bytes with
    | .error f => .error (.fault (.undecodable f))
    | .ok cs => .ok (String.ofList (Text.unixLines cs))

/-- The table of a text. -/
def parse (s : String) : Except Failure Table :=
  match Toml.parse s with
  | .ok t => .ok t
  | .error line => .error (.problem (.invalidConfig none line))

/-- The table of the text of a file. -/
def parseFile (p : Path) (s : String) : Except Failure Table :=
  match Toml.parse s with
  | .ok t => .ok t
  | .error line => .error (.problem (.invalidConfig (some p.text) line))

/-- **The built-in settings with those of a file laid over them.** -/
def load (w : World) (p : Path) : Except Failure Table :=
  (readFile w p).bind fun s => (parseFile p s).map (Table.merge defaults)

/-- The file that counts: the one that is given, else the one that is found. -/
def chosenFile (w : World) (given : Option Path) (start : Path) : Except Fault (Option Path) :=
  match given with
  | some file => .ok (some file)
  | none => findFile w start

/-- **The settings that hold** for a start path, with the file in use noted unless `quiet`. -/
def effective (w : World) (given : Option Path) (start : Path) (quiet : Bool) : Noted Table := do
  let base ←
    match ← Traced.ofFault (chosenFile w given start) with
    | none => pure defaults
    | some file => do
      let config ← Traced.ofExcept (load w file)
      if !quiet then Traced.note .info ("Using config " ++ file.text)
      pure config
  overridden w.room base w.environment

end CrossRef.Config
