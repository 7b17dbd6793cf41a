import CrossRef.Number.Layout
import CrossRef.Text.Lines
import CrossRef.Text.Quoted
import CrossRef.Value.Basic

/-! # Writing configuration files

A table is written as sections. The first section has no header and holds the settings of the outer
table; every other section has the path of its table as a header. Within a table plain settings come
first, then the tables and the arrays of tables, each in the order of the table's keys. In an item
of an array of tables the arrays come before the tables. A table that holds only tables has no
section of its own.

An array whose items are all tables is an array of tables if it stands directly in a table; in every
other place a table is written inside the line: with commas and spaces between its fields if it is
an item of an array, and with commas alone if it is a field of a table inside the line.

A blank line stands in front of a section, with three exceptions. There is none in front of the
first section of a table without settings, none between an item of an array that is empty and the
next item, and none in front of an array that comes before all settings and tables of its table,
though it is written behind the settings.

Nothing cannot be written, and neither can JSON data whose strings are no texts: `Value.isWritable`
finds both, at any depth.
-/

namespace CrossRef

mutual

/-- There is no `null` in the value, and all of it is made of texts. -/
def Value.isWritable : Value → Bool
  | .null | .json _ => false
  | .array items => Value.allWritable items
  | .table entries => Table.isWritable entries
  | _ => true

/-- All values can be written. -/
def Value.allWritable : List Value → Bool
  | [] => true
  | v :: vs => v.isWritable && Value.allWritable vs

/-- All values of the table can be written. -/
def Table.isWritable : List (String × Value) → Bool
  | [] => true
  | (_, v) :: rest => v.isWritable && Table.isWritable rest

end

namespace Toml

/-- How a character is written in a string. -/
def escaped (c : Char) : List Char :=
  if c = '"' then ['\\', '"']
  else if c = '\\' then ['\\', '\\']
  else if c = '\x08' then ['\\', 'b']
  else if c = '\t' then ['\\', 't']
  else if c = '\n' then ['\\', 'n']
  else if c = '\x0C' then ['\\', 'f']
  else if c = '\r' then ['\\', 'r']
  else if c.toNat < 0x20 ∨ c.toNat = 0x7F then '\\' :: 'u' :: Text.hexDigits 4 c.toNat
  else [c]

/-- A string between double quotes. -/
def stringText (s : String) : String :=
  String.ofList ('"' :: s.toList.flatMap escaped ++ ['"'])

/-- A key: bare if it can be, else a string. -/
def keyText (k : String) : String :=
  if !k.isEmpty && k.toList.all (fun c => c.isAlphanum || c == '_' || c == '-') then k
  else stringText k

/-- A table inside a line, from the texts of its fields. -/
def braced (separator : String) (fields : List String) : String :=
  "\x7b" ++ Text.joined separator fields ++ "\x7d"

mutual

/-- A value inside a line, as it is written behind its key. -/
def inlineText : Value → String
  | .null | .json _ => ""
  | .bool b => if b then "true" else "false"
  | .int n => toString n
  | .float x => x.text
  | .str s => stringText s
  | .moment m => m.isoWith "Z"
  | .array items => "[" ++ Text.joined ", " (itemTexts items) ++ "]"
  | .table entries => braced "," (fieldTexts entries)

/-- The items of an array inside a line. -/
def itemTexts : List Value → List String
  | [] => []
  | .table entries :: vs => braced ", " (fieldTexts entries) :: itemTexts vs
  | v :: vs => inlineText v :: itemTexts vs

/-- The fields of a table inside a line. -/
def fieldTexts : List (String × Value) → List String
  | [] => []
  | (k, v) :: rest => (keyText k ++ " = " ++ inlineText v) :: fieldTexts rest

end

/-- The value is a table. -/
def isTable : Value → Bool
  | .table _ => true
  | _ => false

/-- The value is written as sections: it is a table, or an array of tables. -/
def isSectioned : Value → Bool
  | .table _ => true
  | .array items => !items.isEmpty && items.all isTable
  | _ => false

/-! ### The order of entries -/

/-- The entries of a table with the tables behind all others. -/
def tablesLast (t : Table) : Table :=
  t.filter (fun e => !isTable e.2) ++ t.filter fun e => isTable e.2

mutual

/-- A value with its entries in the order in which they are written. -/
def arranged : Value → Value
  | .table entries => .table (arrangedEntries entries)
  | .array items =>
    if isSectioned (.array items) then .array (arrangedItems items) else .array items
  | v => v

/-- The entries of a table, each arranged. -/
def arrangedEntries : List (String × Value) → List (String × Value)
  | [] => []
  | (k, v) :: rest => (k, arranged v) :: arrangedEntries rest

/-- The items of an array of tables, each arranged, with its tables last. -/
def arrangedItems : List Value → List Value
  | [] => []
  | .table entries :: rest => .table (tablesLast (arrangedEntries entries)) :: arrangedItems rest
  | v :: rest => v :: arrangedItems rest

end

/-! ### Sections -/

/-- The plain settings of a table, a line for each. -/
def settingLines (t : Table) : List String :=
  fieldTexts (t.filter fun e => !isSectioned e.2)

/-- A section: whether a blank line stands in front of it, its header, and its settings. -/
structure Section where
  spaced : Bool
  header : String
  settings : List String

/-- The header of the table at a path. -/
def tableHeader (path : List String) : String :=
  "[" ++ Text.joined "." (path.map keyText) ++ "]"

/-- The header of an item of the array of tables at a path. -/
def itemHeader (path : List String) : String := "[" ++ tableHeader path ++ "]"

/-- Sections, the first of them spaced or not. -/
def withSpace (spaced : Bool) : List Section → List Section
  | [] => []
  | s :: rest => { s with spaced } :: rest

mutual

/-- The sections of the tables and arrays of tables in the table at a path. `filled` says whether
the table has something in front of the entries. -/
def innerSections (path : List String) (filled : Bool) : List (String × Value) → List Section
  | [] => []
  | (k, .table entries) :: rest =>
    withSpace (filled || rest.any fun e => !isSectioned e.2)
        (tableSections (path ++ [k]) entries) ++
      innerSections path true rest
  | (k, .array items) :: rest =>
    (if isSectioned (.array items) then withSpace filled (itemSections (path ++ [k]) items)
      else []) ++
      innerSections path true rest
  | _ :: rest => innerSections path true rest

/-- The sections of the table at a path; it has a header unless all it holds is tables. -/
def tableSections (path : List String) (entries : List (String × Value)) : List Section :=
  let settings := settingLines entries
  if settings.isEmpty && !entries.isEmpty then innerSections path false entries
  else ⟨false, tableHeader path, settings⟩ :: innerSections path false entries

/-- The sections of an array of tables at a path. -/
def itemSections (path : List String) : List Value → List Section
  | [] => []
  | .table entries :: rest =>
    ⟨false, itemHeader path, settingLines entries⟩ :: innerSections path false entries ++
      withSpace (!entries.isEmpty) (itemSections path rest)
  | _ :: rest => itemSections path rest

end

/-- Lines as a text. -/
def linesText (lines : List String) : String := String.join (lines.map (· ++ "\n"))

/-- A section as text. -/
def Section.text (s : Section) : String :=
  linesText ((if s.spaced then [""] else []) ++ s.header :: s.settings)

/-- **A table as the text of a configuration file.** -/
def print (t : Table) : String :=
  let t := arrangedEntries t
  linesText (settingLines t) ++ String.join ((innerSections [] false t).map Section.text)

end Toml

end CrossRef
