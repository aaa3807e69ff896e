namespace Flowplan

structure Time where
  seconds : Nat
deriving DecidableEq

namespace Time

def secondsPerDay : Nat := 86400

structure Date where
  year : Nat
  month : Nat
  day : Nat
deriving DecidableEq

/-- The date of a day since the beginning of 1970. Years are counted from March, so that the leap
day is the last one, in eras of 400 years. -/
def dateOfDay (day : Nat) : Date :=
  let shifted := day + 719468
  let era := shifted / 146097
  let dayOfEra := shifted % 146097
  let yearOfEra := (dayOfEra - dayOfEra / 1460 + dayOfEra / 36524 - dayOfEra / 146096) / 365
  let dayOfYear := dayOfEra - (365 * yearOfEra + yearOfEra / 4 - yearOfEra / 100)
  let marchMonth := (5 * dayOfYear + 2) / 153
  let month := if marchMonth < 10 then marchMonth + 3 else marchMonth - 9
  ⟨yearOfEra + era * 400 + (if month ≤ 2 then 1 else 0), month,
    dayOfYear - (153 * marchMonth + 2) / 5 + 1⟩

def padded (width n : Nat) : String :=
  let digits := Nat.toDigits 10 n
  String.ofList (List.replicate (width - digits.length) '0' ++ digits)

def clockText (time : Time) : String :=
  let rest := time.seconds % secondsPerDay
  s!"{padded 2 (rest / 3600)}:{padded 2 (rest / 60 % 60)}:{padded 2 (rest % 60)}"

def text (time : Time) : String :=
  let date := dateOfDay (time.seconds / secondsPerDay)
  s!"{padded 4 date.year}-{padded 2 date.month}-{padded 2 date.day}T{time.clockText}"

def after (time : Time) (seconds : Nat) : Time := ⟨time.seconds + seconds⟩

end Time

end Flowplan
