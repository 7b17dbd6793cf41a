import CrossRef.Value.Basic

/-! # A configuration file under construction

The statements of a configuration file add to a tree of tables. The tree remembers how each table
came about, because a table may be opened by a header only once, and a key with several parts may
not reach into a table that a header opened:

* *passed*: a header named a table inside it;
* *opened*: a header named it;
* *dotted*: a key with several parts made it or passed it.

`open?`, `append?` and `set?` are the three kinds of statement. They give `none` where the statement
would say something twice.
-/

namespace CrossRef.Toml

/-- How a table came about. -/
inductive Origin where
  | passed
  | opened
  | dotted
  deriving DecidableEq, Repr

/-- **A tree of tables:** a value, a table with its origin, or an array of tables that headers
extend. -/
inductive Tree where
  | value (v : Value)
  | table (origin : Origin) (entries : List (String × Tree))
  | tables (items : List (List (String × Tree)))

/-- The entries of a table under construction. -/
abbrev Branches := List (String × Tree)

namespace Branches

/-- Change the table at which the header path `k` ends, or the last table of an array there, for a
header that goes further. -/
def descend? (t : Option Tree) (f : Branches → Option Branches) : Option Tree :=
  match t with
  | none => (f []).map (.table .passed)
  | some (.table origin entries) => (f entries).map (.table origin)
  | some (.tables items) =>
    match items.getLast? with
    | some last => (f last).map fun last => .tables (items.dropLast ++ [last])
    | none => none
  | some (.value _) => none

/-- Replace the branch under `k` by what `f` makes of it. -/
def alter? (b : Branches) (k : String) (f : Option Tree → Option Tree) : Option Branches :=
  (f (Assoc.get? b k)).map (Assoc.put b k)

/-- Apply `f` to the table at the end of a header path. -/
def reach? (b : Branches) (f : Branches → Option Branches) : List String → Option Branches
  | [] => f b
  | k :: path => alter? b k fun t => descend? t fun inner => reach? inner f path

/-- What a header makes of the branch that it names. -/
def opened? : Option Tree → Option Tree
  | none => some (.table .opened [])
  | some (.table .passed entries) => some (.table .opened entries)
  | _ => none

/-- What a header of an array makes of the branch that it names. -/
def appended? : Option Tree → Option Tree
  | none => some (.tables [[]])
  | some (.tables items) => some (.tables (items ++ [[]]))
  | _ => none

/-- Change the branch that a path names. -/
def atPath? (b : Branches) (f : Option Tree → Option Tree) : List String → Option Branches
  | [] => none
  | [k] => alter? b k f
  | k :: path => alter? b k fun t => descend? t fun inner => atPath? inner f path

/-- **A header** opens the table that it names. -/
def open? (b : Branches) (path : List String) : Option Branches := atPath? b opened? path

/-- **A header of an array** adds a table to the array that it names. -/
def append? (b : Branches) (path : List String) : Option Branches := atPath? b appended? path

/-- Put a value under a key of several parts, inside one table. -/
def put? (b : Branches) (v : Value) : List String → Option Branches
  | [] => none
  | [k] => alter? b k fun t => if t.isNone then some (.value v) else none
  | k :: path =>
    alter? b k fun t =>
      match t with
      | none => (put? [] v path).map (.table .dotted)
      | some (.table .opened _) => none
      | some (.table _ entries) => (put? entries v path).map (.table .dotted)
      | _ => none

/-- **A setting:** the value `v` under the key `k`, in the table at `header`. -/
def set? (b : Branches) (header k : List String) (v : Value) : Option Branches :=
  reach? b (fun inner => put? inner v k) header

end Branches

mutual

/-- The value that a tree stands for. -/
def Tree.toValue : Tree → Value
  | .value v => v
  | .table _ entries => .table (Branches.toTable entries)
  | .tables items => .array (Branches.toTables items)

/-- **The table that branches stand for.** -/
def Branches.toTable : List (String × Tree) → List (String × Value)
  | [] => []
  | (k, t) :: rest => (k, t.toValue) :: Branches.toTable rest

/-- The tables of an array of tables. -/
def Branches.toTables : List (List (String × Tree)) → List Value
  | [] => []
  | b :: rest => .table (Branches.toTable b) :: Branches.toTables rest

end

end CrossRef.Toml
