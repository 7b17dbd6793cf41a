import CrossRef.Toml.Scalar
import CrossRef.Toml.Tree

/-! # Reading configuration files

A configuration file is a sequence of statements on lines of their own: settings, headers of tables
and headers of arrays of tables. Arrays may run over several lines; tables inside a line may not.

Reading a text ends with a table or with the error of a parser. There is always room for an array
inside others: a parser that runs out of stack on a deep one is left out here.

* `value`: a value of any form.
* `parse`: from a text to its table, or to the number of the line at which it stops making sense.
-/

namespace CrossRef.Toml

mutual

/-- **A value.** Each nested value takes one unit of fuel. -/
def value : Nat → List Char → Reading Value
  | 0, cs => .error cs
  | fuel + 1, cs =>
    match cs with
    | '[' :: rest => (items fuel rest).map fun (vs, r) => (.array vs, r)
    | '\x7b' :: rest =>
      match skipSpace rest with
      | '\x7d' :: after => .ok (.table [], after)
      | rest => (fields fuel [] rest).map fun (b, r) => (.table (Branches.toTable b), r)
    | _ =>
      match string? cs with
      | some reading => reading.map fun (s, r) => (.str (String.ofList s), r)
      | none =>
        let (w, rest) := word cs
        match scalar? w with
        | some v => .ok (v, rest)
        | none => .error cs

/-- The items of an array up to its closing bracket. -/
def items : Nat → List Char → Reading (List Value)
  | 0, cs => .error cs
  | fuel + 1, cs =>
    match skipLines cs.length cs with
    | ']' :: rest => .ok ([], rest)
    | rest =>
      (value fuel rest).bind fun (v, r) =>
        match skipLines r.length r with
        | ',' :: after => (items fuel after).map fun (vs, r) => (v :: vs, r)
        | ']' :: after => .ok ([v], after)
        | after => .error after

/-- The fields of a table inside a line, up to its closing brace. -/
def fields : Nat → Branches → List Char → Reading Branches
  | 0, _, cs => .error cs
  | fuel + 1, b, cs =>
    (setting fuel cs).bind fun ((k, v), r) =>
      match b.put? v k with
      | none => .error cs
      | some b =>
        match skipSpace r with
        | ',' :: after => fields fuel b after
        | '\x7d' :: after => .ok (b, after)
        | after => .error after

/-- A key, an equals sign and a value. -/
def setting : Nat → List Char → Reading (List String × Value)
  | 0, cs => .error cs
  | fuel + 1, cs =>
    (key cs.length cs).bind fun (k, r) =>
      match skipSpace r with
      | '=' :: after => (value fuel (skipSpace after)).map fun (v, r) => ((k, v), r)
      | after => .error after

end

/-- The header of a table or of an array of tables, after its first bracket: whether it is of an
array, and its key. -/
def header (cs : List Char) : Reading (Bool × List String) :=
  match cs with
  | '[' :: rest =>
    (key rest.length rest).bind fun (k, r) =>
      match skipSpace r with
      | ']' :: ']' :: after => .ok ((true, k), after)
      | after => .error after
  | _ =>
    (key cs.length cs).bind fun (k, r) =>
      match skipSpace r with
      | ']' :: after => .ok ((false, k), after)
      | after => .error after

/-- What has been read of a file: the tree, and the path of the last header. -/
structure File where
  tree : Branches := []
  section_ : List String := []

/-- One statement, read from a text that begins with it. -/
def statement (file : File) (cs : List Char) : Reading File :=
  match cs with
  | '[' :: rest =>
    (header rest).bind fun ((isArray, k), r) =>
      match if isArray then file.tree.append? k else file.tree.open? k with
      | some tree => .ok (⟨tree, k⟩, r)
      | none => .error cs
  | _ =>
    (setting (cs.length + 1) cs).bind fun ((k, v), r) =>
      match file.tree.set? file.section_ k v with
      | some tree => .ok ({ file with tree }, r)
      | none => .error cs

/-- The statements of a text, at most `fuel` of them. -/
def statements : Nat → File → List Char → Except (List Char) File
  | 0, file, cs => if cs.isEmpty then .ok file else .error cs
  | fuel + 1, file, cs =>
    match skipLines cs.length cs with
    | [] => .ok file
    | rest =>
      (statement file rest).bind fun (file, r) =>
        (lineEnd r).bind fun ((), after) => statements fuel file after

/-- **The table of a configuration file,** or the number of the line at which it cannot be read. -/
def parse (s : String) : Except Nat Table :=
  let cs := s.toList
  match statements (cs.length + 1) {} cs with
  | .ok file => .ok (Branches.toTable file.tree)
  | .error rest => .error ((cs.take (cs.length - rest.length)).count '\n' + 1)

end CrossRef.Toml
