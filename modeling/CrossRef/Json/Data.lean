import CrossRef.Number.Double

/-! # What JSON says

A string of JSON is a sequence of code points. Escapes are written for sixteen-bit units, and a unit
that is half of a pair may stand there without its other half. Such a surrogate is a code point of
the string like any other, and yet no character; a string with one in it is no text.

* `CodePoint`: a character, or a surrogate that stands alone.
* `Data`: what a JSON text says.
-/

namespace CrossRef.Json

/-- **A code point of a string:** a character, or a surrogate that stands alone. -/
inductive CodePoint where
  | char (c : Char)
  | lone (unit : Nat)
  deriving DecidableEq, Repr

/-- The character of a code point, if it is one. -/
def CodePoint.char? : CodePoint → Option Char
  | .char c => some c
  | .lone _ => none

/-- The unit of a surrogate that stands alone. -/
def CodePoint.lone? : CodePoint → Option Nat
  | .char _ => none
  | .lone unit => some unit

/-- The text of a string, if all its code points are characters. -/
def textOf? (s : List CodePoint) : Option String := (s.mapM CodePoint.char?).map String.ofList

theorem eq_of_mapM_char? : ∀ {s : List CodePoint} {cs : List Char},
    s.mapM CodePoint.char? = some cs → s = cs.map .char
  | [], cs, h => by
    cases h
    rfl
  | .lone _ :: s, cs, h => by
    simp [CodePoint.char?] at h
  | .char c :: s, cs, h => by
    simp only [List.mapM_cons, CodePoint.char?, Option.pure_def, Option.bind_eq_bind,
      Option.bind_some, Option.bind_eq_some_iff, Option.some.injEq] at h
    obtain ⟨cs, hcs, rfl⟩ := h
    rw [eq_of_mapM_char? hcs, List.map_cons]

/-- A string that is a text is known from it. -/
theorem eq_of_textOf? {s : List CodePoint} {text : String} (h : textOf? s = some text) :
    s = text.toList.map .char := by
  obtain ⟨cs, hcs, rfl⟩ := Option.map_eq_some_iff.mp h
  rw [String.toList_ofList, eq_of_mapM_char? hcs]

/-- **What a JSON text says.** The fields of an object stand in the order in which their names
came. -/
inductive Data where
  | null
  | bool (b : Bool)
  | int (n : Int)
  | float (x : Double)
  | text (s : List CodePoint)
  | array (items : List Data)
  | object (fields : List (List CodePoint × Data))
  deriving Repr, Inhabited

/-- The word for the kind of data in messages. -/
def Data.kindName : Data → String
  | .null => "NoneType"
  | .bool _ => "bool"
  | .int _ => "int"
  | .float _ => "float"
  | .text _ => "str"
  | .array _ => "list"
  | .object _ => "dict"

end CrossRef.Json
