import Runbook.Number.Layout

namespace Runbook

def isLeapYear (y : Nat) : Bool :=
  y % 4 == 0 && (y % 100 != 0 || y % 400 == 0)

def daysInMonth (y m : Nat) : Nat :=
  if m == 2 then (if isLeapYear y then 29 else 28)
  else if m == 4 || m == 6 || m == 9 || m == 11 then 30
  else 31

/-- A day of the years 1 to 9999. -/
structure Date where
  year : Nat
  month : Nat
  day : Nat
  valid : (1 ≤ year ∧ year ≤ 9999) ∧ (1 ≤ month ∧ month ≤ 12) ∧ 1 ≤ day ∧ day ≤ daysInMonth year month
deriving DecidableEq

/-- A time on a day, with the distance from universal time in minutes where one is known. -/
structure DateTime where
  date : Date
  hour : Nat
  minute : Nat
  second : Nat
  micro : Nat
  offset : Option Int
deriving DecidableEq

def paddedDigits (width n : Nat) : String :=
  let ds := natDigits n
  String.ofList (List.replicate (width - ds.length) '0' ++ ds)

namespace Date

def ofParts? (year month day : Nat) : Option Date :=
  if h : (1 ≤ year ∧ year ≤ 9999) ∧ (1 ≤ month ∧ month ≤ 12) ∧ 1 ≤ day ∧ day ≤ daysInMonth year month
  then some ⟨year, month, day, h⟩
  else none

def text (d : Date) : String :=
  paddedDigits 4 d.year ++ "-" ++ paddedDigits 2 d.month ++ "-" ++ paddedDigits 2 d.day

def dayNumber (d : Date) : Nat :=
  let y := d.year - 1
  let before := (List.range (d.month - 1)).foldl (fun n m => n + daysInMonth d.year (m + 1)) 0
  365 * y + y / 4 - y / 100 + y / 400 + before + d.day

end Date

namespace DateTime

/-- A time has to exist on a clock, and an offset has to be shorter than a day. -/
def ofParts? (date : Date) (hour minute second micro : Nat) (offset : Option Int) : Option DateTime :=
  if hour < 24 && minute < 60 && second < 60 && micro < 1000000 &&
      (offset.all fun o => -1440 < o && o < 1440) then
    some ⟨date, hour, minute, second, micro, offset⟩
  else none

def offsetText : Option Int → String
  | none => ""
  | some o =>
    (if o < 0 then "-" else "+") ++ paddedDigits 2 (o.natAbs / 60) ++ ":" ++
      paddedDigits 2 (o.natAbs % 60)

def clockText (t : DateTime) : String :=
  paddedDigits 2 t.hour ++ ":" ++ paddedDigits 2 t.minute ++ ":" ++ paddedDigits 2 t.second ++
    (if t.micro = 0 then "" else "." ++ paddedDigits 6 t.micro)

def text (t : DateTime) (separator : String) : String :=
  t.date.text ++ separator ++ t.clockText ++ offsetText t.offset

/-- Microseconds since the start of year 1, in universal time if the offset is known. -/
def instant (t : DateTime) : Int :=
  let minutes : Int := (t.date.dayNumber * 24 + t.hour : Nat) * 60 + t.minute - t.offset.getD 0
  (minutes * 60 + t.second) * 1000000 + t.micro

/-- Two times with known offsets are the same if they are one instant. -/
def same (a b : DateTime) : Bool :=
  a.offset.isSome == b.offset.isSome && a.instant == b.instant

end DateTime

end Runbook
