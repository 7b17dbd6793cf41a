import CrossRef.CommandLine.Options

/-! # The words of a command line

Every word is an option, an argument, or the mark `--` that ends options, after which all words are
arguments. A long option may be cut short as long as it stays clear which one is meant, and has its
value in the next word or after an equals sign. A short option may have its value right behind it.

A word that begins with a hyphen and names no option counts as an argument if it is a negative
number or has a blank in it; otherwise it is *unknown* here, and perhaps known at a menu further
down.
-/

namespace CrossRef.CommandLine

/-- **What a word is.** -/
inductive Word where
  | argument
  | ending
  | option (o : Opt) (name : String) (value : Option String)
  | unknown

/-- The mark that ends options. -/
def endMark : String := "--"

/-! ### Names of options -/

/-- Each name of each option, with the option. -/
def namesOf (os : List Opt) : List (String × Opt) :=
  os.flatMap fun o => o.names.map fun name => (name, o)

/-- The option with a name. -/
def named? (os : List Opt) (name : String) : Option Opt :=
  ((namesOf os).find? fun p => p.1 = name).map (·.2)

/-- A word cut at its first equals sign. -/
def cutAtEquals (cs : List Char) : String × Option String :=
  match cs.dropWhile (· != '=') with
  | [] => (String.ofList cs, none)
  | _ :: value => (String.ofList (cs.takeWhile (· != '=')), some (String.ofList value))

/-- `s` begins with `t`. -/
def startsWith (s t : String) : Bool := t.toList.isPrefixOf s.toList

/-- What a word with two hyphens may stand for: the names that it cuts short. -/
def longReadings (os : List Opt) (cs : List Char) : List (Opt × String × Option String) :=
  let (short, value) := cutAtEquals cs
  (namesOf os).filterMap fun (name, o) =>
    if startsWith name short then some (o, name, value) else none

/-- What a word with one hyphen may stand for: a short name with a value behind it, or a name that
it cuts short. -/
def shortReadings (os : List Opt) (cs : List Char) : List (Opt × String × Option String) :=
  (namesOf os).filterMap fun (name, o) =>
    if name = String.ofList (cs.take 2) then some (o, name, some (String.ofList (cs.drop 2)))
    else if startsWith name (String.ofList cs) then some (o, name, none)
    else none

/-- What a word that begins with a hyphen and is no name may stand for. -/
def readings (os : List Opt) (cs : List Char) : List (Opt × String × Option String) :=
  if "--".toList.isPrefixOf cs then longReadings os cs else shortReadings os cs

/-! ### Negative numbers -/

/-- All characters are decimal digits. -/
def allDigits (cs : List Char) : Bool := cs.all fun c => (Number.digit? c).isSome

/-- The text is a whole number or a decimal without sign or exponent; a decimal may begin with its
point. -/
def isPlainNumber (cs : List Char) : Bool :=
  let (whole, rest) := cs.span fun c => (Number.digit? c).isSome
  match rest with
  | [] => !whole.isEmpty
  | '.' :: places => !places.isEmpty && allDigits places
  | _ => false

/-- A text without the line feed at its end, if there is one. -/
def dropFeed (cs : List Char) : List Char :=
  if cs.getLast? = some '\n' then cs.dropLast else cs

/-- The word is a negative number. -/
def isNegativeNumber : List Char → Bool
  | '-' :: cs => isPlainNumber (dropFeed cs)
  | _ => false

/-! ### Words -/

/-- A word that begins with a hyphen, is longer than that, and is no name of an option. -/
def hyphenWord (os : List Opt) (s : String) : Except Refusal Word :=
  match readings os s.toList with
  | [] =>
    if isNegativeNumber s.toList || s.toList.contains ' ' then .ok .argument else .ok .unknown
  | [(o, name, value)] => .ok (.option o name value)
  | several => .error (.ambiguous s (several.map fun r => r.2.1))

/-- The option that stands with its value in one word, with an equals sign between them. -/
def withValue? (os : List Opt) (s : String) : Option Word :=
  match cutAtEquals s.toList with
  | (name, some value) => (named? os name).map fun o => .option o name (some value)
  | _ => none

/-- **What a word in front of the mark that ends options is.** -/
def wordOf (os : List Opt) (s : String) : Except Refusal Word :=
  if s.toList.head? != some '-' then .ok .argument
  else match named? os s with
    | some o => .ok (.option o s none)
    | none =>
      if s = "-" then .ok .argument
      else match withValue? os s with
        | some w => .ok w
        | none => hyphenWord os s

/-- **The words of a command line,** each with its text. -/
def wordsOf (os : List Opt) : List String → Except Refusal (List (String × Word))
  | [] => .ok []
  | s :: rest =>
    if s = endMark then .ok ((s, .ending) :: rest.map fun t => (t, .argument))
    else do
      let w ← wordOf os s
      let ws ← wordsOf os rest
      pure ((s, w) :: ws)

end CrossRef.CommandLine
