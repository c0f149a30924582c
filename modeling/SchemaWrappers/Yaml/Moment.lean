import SchemaWrappers.Text.Character
import SchemaWrappers.Yaml.Error

namespace SchemaWrappers.Yaml

/-- The time of a day, and by how many minutes the clock is ahead, if that is told. -/
structure Clock where
  hour : Nat
  minute : Nat
  second : Nat
  ahead : Int := 0
  deriving DecidableEq, Repr

/-- A day, and a time on it if one is given. -/
structure Moment where
  year : Nat
  month : Nat
  day : Nat
  clock : Option Clock
  deriving DecidableEq, Repr

namespace Moment

def digits? (least most : Nat) (cs : List Char) : Option (Nat × List Char) :=
  let ds := (cs.take most).takeWhile (·.isDigit)
  if least ≤ ds.length then some (Text.natOf ds, cs.drop ds.length) else none

def skip? (c : Char) : List Char → Option (List Char)
  | d :: cs => if c == d then some cs else none
  | [] => none

/-- Hours, or hours and minutes, in minutes. -/
def distance? (cs : List Char) : Option Nat := do
  let (hours, cs) ← digits? 1 2 cs
  match cs with
  | [] => return hours * 60
  | ':' :: cs =>
    let (minutes, []) ← digits? 2 2 cs | none
    return hours * 60 + minutes
  | _ => none

/-- By how many minutes the clock is ahead, as told behind a time: by nothing, or a `Z` or the
distance from it. -/
def zone? (cs : List Char) : Option Int :=
  if cs.isEmpty then some 0
  else
    match cs.dropWhile fun c => c == ' ' || c == '\t' with
    | ['Z'] => some 0
    | '+' :: cs => (distance? cs).map Int.ofNat
    | '-' :: cs => (distance? cs).map fun n => -(n : Int)
    | _ => none

def clock? (cs : List Char) : Option Clock := do
  let (hour, cs) ← digits? 1 2 cs
  let (minute, cs) ← digits? 2 2 (← skip? ':' cs)
  let (second, cs) ← digits? 2 2 (← skip? ':' cs)
  let cs := match cs with
    | '.' :: cs => cs.dropWhile (·.isDigit)
    | cs => cs
  return { hour, minute, second, ahead := ← zone? cs }

/-- The moment that a text has the form of, whether there was such a day or not. -/
def ofText? (cs : List Char) : Option Moment := do
  let (year, cs) ← digits? 4 4 cs
  let (month, cs) ← digits? 1 2 (← skip? '-' cs)
  let (day, cs) ← digits? 1 2 (← skip? '-' cs)
  match cs with
  | [] => return { year, month, day, clock := none }
  | 't' :: cs | 'T' :: cs => return { year, month, day, clock := some (← clock? cs) }
  | cs =>
    let rest := cs.dropWhile fun c => c == ' ' || c == '\t'
    if rest.length == cs.length then none
    else return { year, month, day, clock := some (← clock? rest) }

/-- A day alone is told from other texts only if it is written with two digits throughout. -/
def isWritten (cs : List Char) : Bool :=
  match ofText? cs with
  | some m => m.clock.isSome || cs.length == 10
  | none => false

def isLeap (year : Nat) : Bool := year % 4 == 0 && (year % 100 != 0 || year % 400 == 0)

def daysIn (year month : Nat) : Nat :=
  if month == 2 then if isLeap year then 29 else 28
  else if [4, 6, 9, 11].contains month then 30
  else 31

def spanText (minutes : Int) : String :=
  let parts := [("days", minutes / 1440), ("seconds", minutes % 1440 * 60)]
  let shown := (parts.filter (·.2 != 0)).map fun p => s!"{p.1}={p.2}"
  "datetime.timedelta(" ++ ", ".intercalate shown ++ ")"

/-- What is out of its range first. -/
def fault? (m : Moment) : Option Error :=
  let clock : Clock := m.clock.getD { hour := 0, minute := 0, second := 0 }
  if 1440 ≤ clock.ahead.natAbs then
    some (.noMoment ("offset must be a timedelta strictly between -timedelta(hours=24) and " ++
      s!"timedelta(hours=24), not {spanText clock.ahead}."))
  else if m.year == 0 then some (.noMoment "year 0 is out of range")
  else if m.month == 0 || 12 < m.month then some (.noMoment "month must be in 1..12")
  else if m.day == 0 || daysIn m.year m.month < m.day then
    some (.noMoment "day is out of range for month")
  else if 23 < clock.hour then some (.noMoment "hour must be in 0..23")
  else if 59 < clock.minute then some (.noMoment "minute must be in 0..59")
  else if 59 < clock.second then some (.noMoment "second must be in 0..59")
  else none

end Moment
end SchemaWrappers.Yaml
