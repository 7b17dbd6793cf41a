import CrossRef.CommandLine.Word

/-! # Reading a command line

The words are read from left to right. Options change the draft, arguments fill the open slots, and
at a menu with entries the first argument is the choice of one, to which all words behind it belong.
What has no place is kept and refused at the end, after the missing arguments have been asked for.

The mark that ends options is left out where it stands beside an argument that fills a slot. Without
such a mark beside it, an argument that reads like the mark is void. The value of an option is taken
as it is.
-/

namespace CrossRef.CommandLine

/-- Why reading ends without an invocation. -/
inductive Stop where
  | help (m : Menu)
  | version
  | refused (m : Menu) (r : Refusal)
  deriving DecidableEq, Repr

/-- **How far the reading at a menu has come.** -/
structure Progress where
  draft : Draft
  seen : List String := []
  slots : List Slot
  extras : List String := []

namespace Progress

/-- Keep a word that has no place. -/
def keep (p : Progress) (s : String) : Progress := { p with extras := p.extras ++ [s] }

/-- Fill the first of the open slots. -/
def fill (p : Progress) (slot : Slot) (open_ : List Slot) (g : Given String) : Progress :=
  { p with draft := slot.store g p.draft, slots := open_ }

end Progress

/-- What an argument stands for: the mark that ends options is void. -/
def given (s : String) : Given String := if s = endMark then .void else .value s

/-- One option is wrong. -/
def complain {α : Type} (m : Menu) (o : Opt) (c : Complaint) : Except Stop α :=
  .error (.refused m (.about o.label c))

/-- The effect of an option with a value; a mark has none and looks at none. -/
def applied (m : Menu) (o : Opt) (value : String) (d : Draft) : Except Stop Draft :=
  match o.effect with
  | .help => .error (.help m)
  | .version => .error .version
  | .mark f => .ok (f d)
  | .store f =>
    match f value d with
    | .ok d => .ok d
    | .error c => complain m o c

/-- **One option,** unless a rival came before it. -/
def take (m : Menu) (o : Opt) (value : String) (p : Progress) : Except Stop Progress :=
  match o.rivals.find? (· ∈ p.seen) with
  | some other => complain m o (.rival other)
  | none =>
    (applied m o value p.draft).map fun d => { p with draft := d, seen := o.label :: p.seen }

/-- **Short options joined in one word:** the marks in front, and the last option with what is left
as its value. A long option that takes no value has nothing behind it. -/
def unbundle (m : Menu) (o : Opt) (short : Bool) :
    List Char → Except Stop (List Opt × Opt × Option String)
  | [] => if o.takesValue then .ok ([], o, some "") else complain m o (.unusedValue "")
  | c :: cs =>
    if o.takesValue then .ok ([], o, some (String.ofList (c :: cs)))
    else if short then
      match named? m.options (String.ofList ['-', c]) with
      | none => complain m o (.unusedValue (String.ofList (c :: cs)))
      | some next =>
        if cs.isEmpty then .ok ([o], next, none)
        else (unbundle m next true cs).map fun (marks, last, value) => (o :: marks, last, value)
    else complain m o (.unusedValue (String.ofList (c :: cs)))

/-- The name has one hyphen. -/
def isShort (name : String) : Bool := !startsWith name "--"

/-- The options of one word. -/
def optionsOf (m : Menu) (o : Opt) (name : String) :
    Option String → Except Stop (List Opt × Opt × Option String)
  | none => .ok ([], o, none)
  | some value => unbundle m o (isShort name) value.toList

/-- Marks one after the other, and the option behind them. -/
def takeAll (m : Menu) (marks : List Opt) (last : Opt) (value : String) (p : Progress) :
    Except Stop Progress := do
  let p ← marks.foldlM (fun p o => take m o "" p) p
  take m last value p

/-- The choice of an entry, and the words that belong to it. -/
structure Choice where
  name : String
  rest : List String
  deriving DecidableEq, Repr

/-- **The words at a menu,** up to a choice if there is one. -/
def consume (m : Menu) (p : Progress) :
    List (String × Word) → Except Stop (Progress × Option Choice)
  | [] => .ok (p, none)
  | (s, .unknown) :: rest => consume m (p.keep s) rest
  | (_, .option o name value) :: rest =>
    match optionsOf m o name value with
    | .error stop => .error stop
    | .ok (marks, last, some value) =>
      (takeAll m marks last value p).bind fun p => consume m p rest
    | .ok (marks, last, none) =>
      if last.takesValue then
        match rest with
        | (s, .argument) :: rest =>
          (takeAll m marks last s p).bind fun p => consume m p rest
        | _ => complain m last .noValue
      else (takeAll m marks last "" p).bind fun p => consume m p rest
  | (s, .argument) :: (t, .ending) :: rest =>
    if !m.entries.isEmpty then .ok (p, some ⟨s, t :: rest.map (·.1)⟩)
    else match p.slots with
      | [] => consume m (p.keep s) ((t, .ending) :: rest)
      | slot :: open_ => consume m (p.fill slot open_ (given s)) rest
  | (s, .argument) :: rest =>
    if !m.entries.isEmpty then .ok (p, some ⟨s, rest.map (·.1)⟩)
    else match p.slots with
      | [] => consume m (p.keep s) rest
      | slot :: open_ => consume m (p.fill slot open_ (given s)) rest
  | (s, .ending) :: (t, w) :: rest =>
    if !m.entries.isEmpty then .ok (p, some ⟨s, t :: rest.map (·.1)⟩)
    else match p.slots with
      | [] => consume m (p.keep s) ((t, w) :: rest)
      | slot :: open_ => consume m (p.fill slot open_ (.value t)) rest
  | [(s, .ending)] => .ok (p.keep s, none)

/-- **A command line from a menu on:** the menu at which it ends, the draft, and the words that have
no place. -/
def readFrom (m : Menu) (d : Draft) (args : List String) :
    Except Stop (Menu × Draft × List String) :=
  match wordsOf m.options args with
  | .error r => .error (.refused m r)
  | .ok words =>
    match consume m { draft := d, slots := m.slots } words with
    | .error stop => .error stop
    | .ok (p, none) =>
      if p.slots.isEmpty then .ok (m, p.draft, p.extras)
      else .error (.refused m (.required (p.slots.map (·.name))))
    | .ok (p, some choice) =>
      match _h : m.entry? choice.name with
      | none =>
        .error (.refused m
          (.about m.choiceName (.notAmong choice.name (m.entries.map (·.1)))))
      | some n =>
        (readFrom n p.draft choice.rest).map fun (end_, d, extras) => (end_, d, p.extras ++ extras)
termination_by m.height
decreasing_by exact Menu.height_entry? _h

/-- **The invocation that a command line asks for.** -/
def read (args : List String) : Except Stop Invocation :=
  match readFrom .top {} args with
  | .error stop => .error stop
  | .ok (m, d, []) => .ok (d.invocation m)
  | .ok (_, _, extras) => .error (.refused .top (.unrecognised extras))

end CrossRef.CommandLine
