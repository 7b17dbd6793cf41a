/-! # Dates and times

Dates of the Gregorian calendar, times of day to the microsecond, and both together, with or without
an offset from universal time. `Moment.iso` writes them in the extended ISO form; a fraction of a
second is written with six digits, and only if it is not zero.
-/

namespace CrossRef

/-- A date of the Gregorian calendar. -/
structure Date where
  year : Nat
  month : Nat
  day : Nat
  deriving DecidableEq, Repr

/-- A time of day. -/
structure TimeOfDay where
  hour : Nat
  minute : Nat
  second : Nat
  microsecond : Nat
  deriving DecidableEq, Repr

/-- **A point of the calendar:** a date, a time of day, or both with an optional offset from
universal time in minutes. -/
inductive Moment where
  | date (d : Date)
  | time (t : TimeOfDay)
  | instant (d : Date) (t : TimeOfDay) (offset : Option Int)
  deriving DecidableEq, Repr

/-- The decimal digits of `n`, at least `width` of them. -/
def padded (width n : Nat) : String :=
  let ds := Nat.toDigits 10 n
  String.ofList (List.replicate (width - ds.length) '0' ++ ds)

namespace Date

/-- `year` has a day more. -/
def isLeap (year : Nat) : Bool := year % 4 == 0 && (year % 100 != 0 || year % 400 == 0)

/-- The number of days of a month. -/
def daysIn (year month : Nat) : Nat :=
  if month = 2 then (if isLeap year then 29 else 28)
  else if month = 4 ∨ month = 6 ∨ month = 9 ∨ month = 11 then 30
  else 31

/-- The date with these parts, if there is one. -/
def of? (year month day : Nat) : Option Date :=
  if 1 ≤ year ∧ 1 ≤ month ∧ month ≤ 12 ∧ 1 ≤ day ∧ day ≤ daysIn year month then
    some ⟨year, month, day⟩
  else none

/-- A date in the form `2024-02-29`. -/
def iso (d : Date) : String :=
  padded 4 d.year ++ "-" ++ padded 2 d.month ++ "-" ++ padded 2 d.day

end Date

namespace TimeOfDay

/-- The time of day with these parts, if there is one. -/
def of? (hour minute second microsecond : Nat) : Option TimeOfDay :=
  if hour < 24 ∧ minute < 60 ∧ second < 60 ∧ microsecond < 1000000 then
    some ⟨hour, minute, second, microsecond⟩
  else none

/-- A time of day in the form `07:32:00`. -/
def iso (t : TimeOfDay) : String :=
  padded 2 t.hour ++ ":" ++ padded 2 t.minute ++ ":" ++ padded 2 t.second ++
    (if t.microsecond = 0 then "" else "." ++ padded 6 t.microsecond)

end TimeOfDay

namespace Moment

/-- An offset from universal time in the form `+01:30`. -/
def offsetText (minutes : Int) : String :=
  (if minutes < 0 then "-" else "+") ++ padded 2 (minutes.natAbs / 60) ++ ":" ++
    padded 2 (minutes.natAbs % 60)

/-- A moment in the extended form, with `utc` for a zero offset. -/
def isoWith (utc : String) : Moment → String
  | .date d => d.iso
  | .time t => t.iso
  | .instant d t offset =>
    d.iso ++ "T" ++ t.iso ++
      match offset with
      | none => ""
      | some m => if m = 0 then utc else offsetText m

/-- **A moment in the extended ISO form.** -/
def iso (m : Moment) : String := isoWith "+00:00" m

end Moment

end CrossRef
