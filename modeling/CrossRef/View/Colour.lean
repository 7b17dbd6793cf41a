import CrossRef.Text.Lines
import CrossRef.View.Token

/-! # Colours

A style gives a colour to the kinds of tokens. A coloured token is written between the escape
sequences that turn its colour on and off, each of its lines by itself, so that no colour runs over
the end of a line.

* `colouredToken`: a token in its colour.
* `defaultStyle`, `colourless`: two styles.
-/

namespace CrossRef.View

/-- The sequences that turn a colour on and off. -/
structure Colour where
  on : List Char
  off : List Char

/-- **A style:** the colours of the kinds of tokens. -/
abbrev Style := Kind → Option Colour

/-- The escape sequence with the given parameters. -/
def escapeSequence (parameters : String) : List Char :=
  '\x1b' :: '[' :: parameters.toList ++ ['m']

/-- A colour of the terminal's palette. -/
def paletteColour (n : Nat) : Colour :=
  ⟨escapeSequence ("38;5;" ++ toString n), escapeSequence "39"⟩

/-- A colour of the terminal's palette with a second attribute, such as bold. -/
def paletteColourWith (n : Nat) (attr : String) : Colour :=
  ⟨escapeSequence ("38;5;" ++ toString n ++ ";" ++ attr), escapeSequence "39;00"⟩

/-- The style that is used unless another is asked for. -/
def defaultStyle : Style
  | .whitespace => some (paletteColour 250)
  | .entity => some (paletteColourWith 242 "01")
  | .tag => some (paletteColourWith 28 "01")
  | .attr => some (paletteColour 64)
  | .preprocessor => some (paletteColour 130)
  | .comment => some (paletteColourWith 66 "03")
  | .string => some (paletteColour 124)
  | .operator => some (paletteColour 241)
  | .text | .punctuation | .error | .other _ => none

/-- The style without colours. -/
def colourless : Style := fun _ => none

/-! ### Coloured text -/

/-- One line of a token in its colour; an empty line stays empty. -/
def colouredLine (c : Option Colour) (line : List Char) : List Char :=
  match c with
  | none => line
  | some c => if line.isEmpty then [] else c.on ++ line ++ c.off

/-- Pieces of text with line feeds between them. -/
def joinLines : List (List Char) → List Char
  | [] => []
  | [l] => l
  | l :: ls => l ++ '\n' :: joinLines ls

/-- A token in its colour. -/
def colouredToken (style : Style) (t : Token) : List Char :=
  joinLines ((Text.cutAtFeeds t.text).map (colouredLine (style t.kind)))

end CrossRef.View
