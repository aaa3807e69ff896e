import Flowplan.Text.Numeral
import Flowplan.Time

/-!
# Timestamps of block documents

A date, or a date with a time of the day, a fraction of a second and an offset from universal time.
A text of the right shape may still name no day or no time.
-/

namespace Flowplan.Block

structure Clock where
  hour : Nat
  minute : Nat
  second : Nat
  microsecond : Nat
  offset : Option Int
deriving DecidableEq

structure Timestamp where
  date : Time.Date
  clock : Option Clock
deriving DecidableEq

inductive TimestampError
  | year (number : Nat)
  | month
  | day
  | hour
  | minute
  | second
  | offset (seconds : Int)
deriving DecidableEq

def spanText (seconds : Int) : String :=
  let days := seconds / 86400
  let rest := seconds % 86400
  let parts := (if days == 0 then [] else [s!"days={days}"])
    ++ (if rest == 0 then [] else [s!"seconds={rest}"])
  "datetime.timedelta(" ++ (if parts.isEmpty then "0" else ", ".intercalate parts) ++ ")"

def TimestampError.message : TimestampError → String
  | .year number => s!"year {number} is out of range"
  | .month => "month must be in 1..12"
  | .day => "day is out of range for month"
  | .hour => "hour must be in 0..23"
  | .minute => "minute must be in 0..59"
  | .second => "second must be in 0..59"
  | .offset seconds =>
    "offset must be a timedelta strictly between -timedelta(hours=24) and timedelta(hours=24), not "
      ++ spanText seconds ++ "."

namespace Timestamp

def digits (least most : Nat) (cs : List Char) : Option (Nat × List Char) :=
  let run := (cs.take most).takeWhile Char.isDigit
  if run.length < least then none
  else some (Text.ofDigits 10 (run.map fun c => c.toNat - '0'.toNat), cs.drop run.length)

def after (marks : List Char) : List Char → Option (List Char)
  | c :: cs => if marks.contains c then some cs else none
  | [] => none

def isPad (c : Char) : Bool := c == ' ' || c == '\t'

def dateOf? (least : Nat) (cs : List Char) : Option (Time.Date × List Char) := do
  let (year, cs) ← digits 4 4 cs
  let (month, cs) ← digits least 2 (← after ['-'] cs)
  let (day, cs) ← digits least 2 (← after ['-'] cs)
  return (⟨year, month, day⟩, cs)

def fraction : List Char → Nat × List Char
  | '.' :: cs =>
    let run := cs.takeWhile Char.isDigit
    let six := (run ++ List.replicate 6 '0').take 6
    (Text.ofDigits 10 (six.map fun c => c.toNat - '0'.toNat), cs.drop run.length)
  | cs => (0, cs)

def offsetOf? (cs : List Char) : Option (Option Int) :=
  match cs, cs.dropWhile isPad with
  | [], _ => some none
  | _, ['Z'] => some (some 0)
  | _, cs => do
    let east := cs.head? != some '-'
    let (hours, cs) ← digits 1 2 (← after ['+', '-'] cs)
    let (minutes, cs) ← match cs with
      | ':' :: cs => digits 2 2 cs
      | cs => some (0, cs)
    let seconds : Int := 3600 * hours + 60 * minutes
    if cs.isEmpty then some (some (if east then seconds else -seconds)) else none

def clockOf? (cs : List Char) : Option Clock := do
  let cs ← match cs with
    | c :: cs =>
      if c == 'T' || c == 't' then some cs else if isPad c then some (cs.dropWhile isPad) else none
    | [] => none
  let (hour, cs) ← digits 1 2 cs
  let (minute, cs) ← digits 2 2 (← after [':'] cs)
  let (second, cs) ← digits 2 2 (← after [':'] cs)
  let (microsecond, cs) := fraction cs
  return ⟨hour, minute, second, microsecond, ← offsetOf? cs⟩

/-- A text in the shape of a timestamp. A date on its own has two
digits for the month and for the day. -/
def ofText? (cs : List Char) : Option Timestamp :=
  match dateOf? 2 cs with
  | some (date, []) => some ⟨date, none⟩
  | _ => do
    let (date, cs) ← dateOf? 1 cs
    return ⟨date, some (← clockOf? cs)⟩

def isLeap (year : Nat) : Bool := year % 4 == 0 && (year % 100 != 0 || year % 400 == 0)

def daysIn (year month : Nat) : Nat :=
  if month == 2 then (if isLeap year then 29 else 28)
  else if [4, 6, 9, 11].contains month then 30
  else 31

def fault? (t : Timestamp) : Option TimestampError :=
  let offset := (t.clock.bind Clock.offset).getD 0
  let clock := t.clock.getD ⟨0, 0, 0, 0, none⟩
  if 86400 ≤ offset.natAbs then some (.offset offset)
  else if t.date.year == 0 then some (.year t.date.year)
  else if t.date.month == 0 || 12 < t.date.month then some .month
  else if t.date.day == 0 || daysIn t.date.year t.date.month < t.date.day then some .day
  else if 23 < clock.hour then some .hour
  else if 59 < clock.minute then some .minute
  else if 59 < clock.second then some .second
  else none

def offsetText (seconds : Int) : String :=
  let minutes := seconds.natAbs / 60
  (if seconds < 0 then "-" else "+")
    ++ s!"{Time.padded 2 (minutes / 60)}:{Time.padded 2 (minutes % 60)}"

def clockText (clock : Clock) : String :=
  let fraction := if clock.microsecond == 0 then "" else "." ++ Time.padded 6 clock.microsecond
  s!"{Time.padded 2 clock.hour}:{Time.padded 2 clock.minute}:{Time.padded 2 clock.second}{fraction}"
    ++ (clock.offset.map offsetText).getD ""

def dateText (date : Time.Date) : String :=
  s!"{Time.padded 4 date.year}-{Time.padded 2 date.month}-{Time.padded 2 date.day}"

def display (t : Timestamp) : String :=
  dateText t.date ++ (t.clock.map fun clock => " " ++ clockText clock).getD ""

def kindName (t : Timestamp) : String :=
  if t.clock.isSome then "datetime.datetime" else "datetime.date"

def inspect (t : Timestamp) : String :=
  let date := [t.date.year, t.date.month, t.date.day]
  let parts := match t.clock with
    | none => date
    | some c =>
      date ++ [c.hour, c.minute] ++ (if c.second == 0 && c.microsecond == 0 then [] else [c.second])
        ++ (if c.microsecond == 0 then [] else [c.microsecond])
  let zone := match t.clock.bind Clock.offset with
    | none => []
    | some 0 => ["tzinfo=datetime.timezone.utc"]
    | some seconds => [s!"tzinfo=datetime.timezone({spanText seconds})"]
  t.kindName ++ "(" ++ ", ".intercalate (parts.map toString ++ zone) ++ ")"

end Timestamp

end Flowplan.Block
