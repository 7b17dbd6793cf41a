import CrossRef.Json.Reader
import CrossRef.Text.LowerCase
import CrossRef.Traced
import CrossRef.Value.Merge

/-! # Settings from the environment

A variable whose name begins with `ESISREF_` may override a setting: what follows, in lower case and
cut at its first underscore, names the section and the key. The text of the variable is read as a
JSON array or object, a truth value or a number if it is one, and stands for itself otherwise.

* `interpret`: the value that the text of a variable stands for.
* `target?`: the section and the key that a variable names.
* `overridden`: a configuration with all overrides applied, in the order of the environment.
-/

namespace CrossRef.Config

/-- What the name of an overriding variable begins with. -/
def variableMark : String := "ESISREF_"

/-! ### Values -/

/-- The number that a text spells: whole if it can be, else with a fraction. -/
def number? (cs : List Char) : Option Value :=
  match Number.readInt cs with
  | .ok n => some (.int n)
  | .error _ => (Number.readDouble cs).map .float

/-- The value of a text that begins with a bracket or a brace: what it says in JSON, or itself. -/
def structured (room : Nat) (raw : String) (cs : List Char) : Except Fault Value :=
  match Json.parse room cs with
  | .ok d => .ok d.toValue
  | .error .malformed => .ok (.str raw)
  | .error (.longInteger digits) => .error (.longInteger digits)
  | .error (.tooDeep kind) => .error (.deepNesting kind)

/-- The value of any other text. -/
def plain (raw : String) (cs : List Char) : Value :=
  let word := Text.lower (String.ofList cs)
  if word = "true" then .bool true
  else if word = "false" then .bool false
  else (number? cs).getD (.str raw)

/-- **The value that the text of a variable stands for,** where the stack has room for reading
`room` arrays and objects inside one another. -/
def interpret (room : Nat) (raw : String) : Except Fault Value :=
  let cs := Text.trim raw.toList
  match cs.head? with
  | some '[' | some '\x7b' => structured room raw cs
  | _ => .ok (plain raw cs)

/-! ### Names -/

/-- A text cut at its first underscore. -/
def cutAtUnderscore (cs : List Char) : Option (List Char × List Char) :=
  match cs.dropWhile (· != '_') with
  | [] => none
  | _ :: rest => some (cs.takeWhile (· != '_'), rest)

/-- **The section and the key that a variable names,** if it is an overriding one. -/
def target? (name : String) : Option (String × String) :=
  if variableMark.toList.isPrefixOf name.toList then
    let rest := Text.lower (String.ofList (name.toList.drop variableMark.length))
    match cutAtUnderscore rest.toList with
    | some (section_, key) =>
      if section_.isEmpty || key.isEmpty then none
      else some (String.ofList section_, String.ofList key)
    | none => none
  else none

/-! ### Overrides -/

/-- **A configuration with one setting changed.** A missing section is made; one that is no table
cannot take the setting. -/
def assign (config : Table) (section_ key : String) (v : Value) : Except Fault Table :=
  match Assoc.get? config section_ with
  | none => .ok (Assoc.put config section_ (.table [(key, v)]))
  | some (.table t) => .ok (Assoc.put config section_ (.table (Assoc.put t key v)))
  | some (.array _) => .error .namedIndex
  | some other => .error (.noAssignment other.kindName)

/-- A configuration after one variable of the environment. -/
def override (room : Nat) (config : Table) (variable_ : String × String) : Noted Table :=
  match target? variable_.1 with
  | none => pure config
  | some (section_, key) => do
    let v ← Traced.ofFault (interpret room variable_.2)
    let config ← Traced.ofFault (assign config section_ key v)
    Traced.note .debug ("Config override from " ++ variable_.1)
    pure config

/-- **A configuration after all variables of the environment,** in order. -/
def overridden (room : Nat) (config : Table) : List (String × String) → Noted Table
  | [] => pure config
  | v :: rest => do overridden room (← override room config v) rest

end CrossRef.Config
