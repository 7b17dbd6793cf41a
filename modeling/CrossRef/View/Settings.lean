import CrossRef.MarkupParser

/-! # The settings of the view

The section `view` of a configuration says how many lines are shown around a declaration and in
which style. Both settings may hold values of any kind.

* `wholeOf`: the whole number that a value stands for.
* `linesAround`: the number of lines of context.
* `styleSetting`: the value that names the style.
-/

namespace CrossRef.View

/-- **The whole number that a value stands for.** A fraction is cut off. -/
def wholeOf : Value → Except Fault Int
  | .int n => .ok n
  | .bool b => .ok (if b then 1 else 0)
  | .float .nan => .error .nanToInt
  | .float (.infinite _) => .error .infiniteToInt
  | .float (.finite negative m e) => .ok (Double.truncate negative m e)
  | .str s =>
    match Number.readInt s.toList with
    | .ok n => .ok n
    | .error .malformed => .error (.badInt s)
    | .error (.tooLong digits) => .error (.longInteger digits)
  | v => .error (.noInt v.kindName)

/-- The section of a configuration that is about the view. -/
def settings (config : Table) : Except Fault Table := MarkupParser.sectionOf config "view"

/-- **The number of lines around a declaration.** -/
def linesAround (t : Table) : Except Fault Int :=
  wholeOf (MarkupParser.getD t "context_lines" (.int 3))

/-- **The value that names the style.** -/
def styleSetting (t : Table) : Value := MarkupParser.getD t "style" (.str "default")

end CrossRef.View
