import CrossRef.Text.Hex
import CrossRef.Text.Ranges

/-! # Readers of configuration text

A reader takes characters from the front of a text and gives a result and the rest of the text, or
fails with the rest at which it stopped. This module has the readers of blank space, comments,
line ends, strings and keys.

* Blank space inside a line is the blank and the tab.
* Control characters other than the tab stand nowhere in comments and strings, except that
  strings of several lines hold line ends.
-/

namespace CrossRef.Toml

/-- **A reading:** a result and the rest of the text, or the rest at which it failed. -/
abbrev Reading (α : Type) := Except (List Char) (α × List Char)

/-- A blank or a tab. -/
def isSpace (c : Char) : Bool := c == ' ' || c == '\t'

/-- A control character other than the tab. -/
def isControl (c : Char) : Bool :=
  Text.inTable [(0x00, 0x08), (0x0A, 0x1F), (0x7F, 0x7F)] c

/-- A text without the blank space at its beginning. -/
def skipSpace (cs : List Char) : List Char := cs.dropWhile isSpace

/-- What follows a line end at the beginning of a text. -/
def afterLineEnd? : List Char → Option (List Char)
  | '\n' :: cs => some cs
  | '\r' :: '\n' :: cs => some cs
  | _ => none

/-- A text without a comment at its beginning. The comment ends before its line end. -/
def skipComment : List Char → List Char
  | '#' :: cs => cs.dropWhile fun c => !isControl c
  | cs => cs

/-- The end of a line: blank space, perhaps a comment, and a line end or the end of the text. -/
def lineEnd (cs : List Char) : Reading Unit :=
  let rest := skipComment (skipSpace cs)
  match rest with
  | [] => .ok ((), [])
  | _ =>
    match afterLineEnd? rest with
    | some after => .ok ((), after)
    | none => .error rest

/-- A text without blank space, line ends and comments at its beginning; at most `fuel` lines are
passed. -/
def skipLines : Nat → List Char → List Char
  | 0, cs => cs
  | fuel + 1, cs =>
    let rest := skipComment (skipSpace cs)
    match afterLineEnd? rest with
    | some after => skipLines fuel after
    | none => rest

/-! ### Strings -/

/-- Put a character in front of the string that a reading gives. -/
def consChar (c : Char) (r : Reading (List Char)) : Reading (List Char) :=
  r.map fun (s, rest) => (c :: s, rest)

/-- The character of a short escape. -/
def shortEscape? : Char → Option Char
  | 'b' => some '\x08'
  | 't' => some '\t'
  | 'n' => some '\n'
  | 'f' => some '\x0C'
  | 'r' => some '\r'
  | '"' => some '"'
  | '\\' => some '\\'
  | _ => none

/-- The character with the code point that hexadecimal digits spell. -/
def hexChar? (cs : List Char) : Option Char :=
  (Text.hexNumber? cs).bind fun n => if n.isValidChar then some (Char.ofNat n) else none

/-- A string between double quotes on one line, after its opening quote. -/
def basicString : List Char → Reading (List Char)
  | [] => .error []
  | '"' :: cs => .ok ([], cs)
  | '\\' :: 'u' :: a :: b :: c :: d :: cs =>
    match hexChar? [a, b, c, d] with
    | some x => consChar x (basicString cs)
    | none => .error cs
  | '\\' :: 'U' :: a :: b :: c :: d :: e :: f :: g :: h :: cs =>
    match hexChar? [a, b, c, d, e, f, g, h] with
    | some x => consChar x (basicString cs)
    | none => .error cs
  | '\\' :: c :: cs =>
    match shortEscape? c with
    | some x => consChar x (basicString cs)
    | none => .error cs
  | c :: cs => if isControl c || c == '\\' then .error cs else consChar c (basicString cs)

/-- A string between single quotes on one line, after its opening quote. It has no escapes. -/
def literalString : List Char → Reading (List Char)
  | [] => .error []
  | '\'' :: cs => .ok ([], cs)
  | c :: cs => if isControl c then .error cs else consChar c (literalString cs)

/-- After a backslash, only blank space stands before the end of the line. -/
def lineContinues (cs : List Char) : Bool := (afterLineEnd? (skipSpace cs)).isSome

/-- A string between triple double quotes, after its opening quotes. While `skipping`, blank space
and line ends are left out, as they are after a backslash that ends a line. -/
def basicText (skipping : Bool) : List Char → Reading (List Char)
  | [] => .error []
  | '"' :: '"' :: '"' :: '"' :: '"' :: cs => .ok (['"', '"'], cs)
  | '"' :: '"' :: '"' :: '"' :: cs => .ok (['"'], cs)
  | '"' :: '"' :: '"' :: cs => .ok ([], cs)
  | '\\' :: 'u' :: a :: b :: c :: d :: cs =>
    match hexChar? [a, b, c, d] with
    | some x => consChar x (basicText false cs)
    | none => .error cs
  | '\\' :: 'U' :: a :: b :: c :: d :: e :: f :: g :: h :: cs =>
    match hexChar? [a, b, c, d, e, f, g, h] with
    | some x => consChar x (basicText false cs)
    | none => .error cs
  | '\\' :: c :: cs =>
    match shortEscape? c with
    | some x => consChar x (basicText false cs)
    | none => if lineContinues (c :: cs) then basicText true cs else .error cs
  | '\r' :: '\n' :: cs =>
    if skipping then basicText true cs
    else consChar '\r' (consChar '\n' (basicText false cs))
  | c :: cs =>
    if skipping && (isSpace c || c == '\n') then basicText true cs
    else if (isControl c && c != '\n') || c == '\\' then .error cs
    else consChar c (basicText false cs)

/-- A string between triple single quotes, after its opening quotes. -/
def literalText : List Char → Reading (List Char)
  | [] => .error []
  | '\'' :: '\'' :: '\'' :: '\'' :: '\'' :: cs => .ok (['\'', '\''], cs)
  | '\'' :: '\'' :: '\'' :: '\'' :: cs => .ok (['\''], cs)
  | '\'' :: '\'' :: '\'' :: cs => .ok ([], cs)
  | '\r' :: '\n' :: cs => consChar '\r' (consChar '\n' (literalText cs))
  | c :: cs => if isControl c && c != '\n' then .error cs else consChar c (literalText cs)

/-- A text without a line end at its beginning. -/
def dropLineEnd (cs : List Char) : List Char := (afterLineEnd? cs).getD cs

/-- **A string of any of the four forms;** `none` if the text does not begin with a quote. -/
def string? : List Char → Option (Reading (List Char))
  | '"' :: '"' :: '"' :: cs => some (basicText false (dropLineEnd cs))
  | '"' :: cs => some (basicString cs)
  | '\'' :: '\'' :: '\'' :: cs => some (literalText (dropLineEnd cs))
  | '\'' :: cs => some (literalString cs)
  | _ => none

/-! ### Keys -/

/-- A character of a key without quotes. -/
def isBareChar (c : Char) : Bool := c.isAlphanum || c == '_' || c == '-'

/-- One part of a key: bare, or a string on one line. -/
def keyPart (cs : List Char) : Reading String :=
  match cs with
  | '"' :: rest => (basicString rest).map fun (s, r) => (String.ofList s, r)
  | '\'' :: rest => (literalString rest).map fun (s, r) => (String.ofList s, r)
  | _ =>
    let word := cs.takeWhile isBareChar
    if word.isEmpty then .error cs else .ok (String.ofList word, cs.dropWhile isBareChar)

/-- **A key:** parts with points between them, and blank space around the parts; at most `fuel`
parts. -/
def key : Nat → List Char → Reading (List String)
  | 0, cs => .error cs
  | fuel + 1, cs =>
    (keyPart (skipSpace cs)).bind fun (part, rest) =>
      match skipSpace rest with
      | '.' :: after => (key fuel after).map fun (parts, r) => (part :: parts, r)
      | after => .ok ([part], after)

end CrossRef.Toml
