import CrossRef.Assoc
import CrossRef.Json.Data
import CrossRef.Number.Double
import CrossRef.Value.Calendar

/-! # Values of settings

A setting is a value of a small data language: nothing, a truth value, a number, a text, a moment of
the calendar, an array, or a table of named values. Tables keep the order in which their keys came.
Settings come from files and from the environment, so any setting may hold a value of any kind.

Texts and keys are made of characters. Only JSON has strings that are not, and JSON data with such a
string in it is kept as it was read: as a value of its own kind, which no file can hold.
-/

namespace CrossRef

/-- **The value of a setting.** What is kept as `json` has a string somewhere that is no text. -/
inductive Value where
  | null
  | bool (b : Bool)
  | int (n : Int)
  | float (x : Double)
  | str (s : String)
  | moment (m : Moment)
  | array (items : List Value)
  | table (entries : List (String × Value))
  | json (d : Json.Data)
  deriving Repr, Inhabited

/-- The entries of a table. -/
abbrev Table := Assoc String Value

namespace Value

/-- The word for the kind of a value in messages. -/
def kindName : Value → String
  | .null => "NoneType"
  | .bool _ => "bool"
  | .int _ => "int"
  | .float _ => "float"
  | .str _ => "str"
  | .moment (.date _) => "datetime.date"
  | .moment (.time _) => "datetime.time"
  | .moment (.instant ..) => "datetime.datetime"
  | .array _ => "list"
  | .table _ => "dict"
  | .json d => d.kindName

/-- **Whether a value counts as set:** nothing, zero and whatever is empty do not. -/
def isTruthy : Value → Bool
  | .null => false
  | .bool b => b
  | .int n => n != 0
  | .float x => !x.isZero
  | .str s => !s.isEmpty
  | .moment _ => true
  | .array items => !items.isEmpty
  | .table entries => !entries.isEmpty
  | .json _ => true

end Value

/-! ### JSON data as values -/

namespace Json

mutual

/-- The value that JSON data stands for, if all strings in it are texts. -/
def Data.plain? : Data → Option Value
  | .null => some .null
  | .bool b => some (.bool b)
  | .int n => some (.int n)
  | .float x => some (.float x)
  | .text s => (textOf? s).map .str
  | .array items => (plainItems? items).map .array
  | .object fields => (plainFields? fields).map .table

/-- The values of the items of an array, if all strings in them are texts. -/
def plainItems? : List Data → Option (List Value)
  | [] => some []
  | d :: ds => d.plain?.bind fun v => (plainItems? ds).map (v :: ·)

/-- The entries that the fields of an object stand for, if all strings in them are texts. -/
def plainFields? : List (List CodePoint × Data) → Option (List (String × Value))
  | [] => some []
  | (k, d) :: rest =>
    (textOf? k).bind fun k => d.plain?.bind fun v => (plainFields? rest).map ((k, v) :: ·)

end

/-- **JSON data as a value.** -/
def Data.toValue (d : Data) : Value := d.plain?.getD (.json d)

end Json

end CrossRef
