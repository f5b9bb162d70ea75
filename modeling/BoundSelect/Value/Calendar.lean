set_option autoImplicit false

namespace BoundSelect

structure Date where
  year : Int
  month : Nat
  day : Nat
  deriving DecidableEq, Repr

-- In a leap second the count stays, and the nanoseconds go on beyond `10 ^ 9`.
structure Timestamp where
  seconds : Int
  nanoseconds : Nat
  deriving DecidableEq, Repr

def padLeft (width : Nat) (n : Nat) : String :=
  let digits := toString n
  "".pushn '0' (width - digits.length) ++ digits

namespace Date

-- Years are counted from March, in eras of 400 years or 146097 days.
def ofDay (day : Int) : Date :=
  let shifted := day + 719468
  let era := shifted / 146097
  let dayOfEra := (shifted % 146097).toNat
  let yearOfEra := (dayOfEra - dayOfEra / 1460 + dayOfEra / 36524 - dayOfEra / 146096) / 365
  let dayOfYear := dayOfEra - (365 * yearOfEra + yearOfEra / 4 - yearOfEra / 100)
  let fromMarch := (5 * dayOfYear + 2) / 153
  let month := if fromMarch < 10 then fromMarch + 3 else fromMarch - 9
  { year := era * 400 + yearOfEra + (if month ≤ 2 then 1 else 0)
    month
    day := dayOfYear - (153 * fromMarch + 2) / 5 + 1 }

def yearText (year : Int) : String :=
  let sign := if year < 0 then "-" else if year > 9999 then "+" else ""
  sign ++ padLeft 4 year.natAbs

def text (d : Date) : String :=
  yearText d.year ++ "-" ++ padLeft 2 d.month ++ "-" ++ padLeft 2 d.day

end Date

namespace Timestamp

def secondsPerDay : Nat := 86400

def nanosecondsPerSecond : Nat := 1000000000

-- As many of 0, 3, 6 and 9 digits as it takes.
def fractionText (nanoseconds : Nat) : String :=
  if nanoseconds = 0 then ""
  else if nanoseconds % 1000000 = 0 then "." ++ padLeft 3 (nanoseconds / 1000000)
  else if nanoseconds % 1000 = 0 then "." ++ padLeft 6 (nanoseconds / 1000)
  else "." ++ padLeft 9 nanoseconds

def timeText (t : Timestamp) : String :=
  let ofDay := (t.seconds % secondsPerDay).toNat
  let second := ofDay % 60 + t.nanoseconds / nanosecondsPerSecond
  padLeft 2 (ofDay / 3600) ++ ":" ++ padLeft 2 (ofDay / 60 % 60) ++ ":" ++ padLeft 2 second ++
    fractionText (t.nanoseconds % nanosecondsPerSecond)

def text (zone : String) (t : Timestamp) : String :=
  (Date.ofDay (t.seconds / secondsPerDay)).text ++ "T" ++ t.timeText ++ zone

end Timestamp

end BoundSelect
