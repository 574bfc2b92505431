import Notebook.Text.Basic

/-! # Timestamps

Times are counted from the start of 1970 in seconds, without leap seconds; a leap second is a
fraction of a second that goes on past one second at the end of a minute.
-/

namespace Notebook

/-! ## The calendar -/

structure Date where
  year : Int
  month : Nat
  day : Nat
  deriving DecidableEq, Repr

/-- The date of a day counted from the first of January 1970. Years are counted from March, so that the
leap day is the last day of its year, and in eras of 400 years, which are all of one length. -/
def Date.ofDay (days : Int) : Date :=
  let shifted := days + 719468
  let era := shifted.fdiv 146097
  let dayOfEra := (shifted - era * 146097).toNat
  let yearOfEra := (dayOfEra - dayOfEra / 1460 + dayOfEra / 36524 - dayOfEra / 146096) / 365
  let dayOfYear := dayOfEra - (365 * yearOfEra + yearOfEra / 4 - yearOfEra / 100)
  let marchMonth := (5 * dayOfYear + 2) / 153
  let day := dayOfYear - (153 * marchMonth + 2) / 5 + 1
  let month := if marchMonth < 10 then marchMonth + 3 else marchMonth - 9
  ⟨yearOfEra + era * 400 + (if month ≤ 2 then 1 else 0), month, day⟩

/-- The number of a day in its week, which starts on Sunday; the first of January 1970 was a Thursday. -/
def weekday (days : Int) : Nat := ((days + 4).fmod 7).toNat

def weekdayNames : List String :=
  ["Sunday", "Monday", "Tuesday", "Wednesday", "Thursday", "Friday", "Saturday"]

def monthNames : List String :=
  ["January", "February", "March", "April", "May", "June", "July", "August", "September", "October",
    "November", "December"]

def nameIn (names : List String) (i : Nat) : Text := (names[i]?.getD "").toList

/-! ## Moments -/

structure Moment where
  date : Date
  weekday : Nat
  hour : Nat
  minute : Nat
  second : Nat
  microsecond : Nat
  deriving DecidableEq, Repr

/-- Years beyond these have no dates. -/
def firstYear : Int := -262143
def lastYear : Int := 262142

/-- A moment from seconds and nanoseconds. Only the last second of a minute can go on for longer than a
second, and for less than two. -/
def Moment.ofUnix? (seconds : Int) (nanoseconds : Nat) : Option Moment :=
  let days := seconds.fdiv 86400
  let secondOfDay := (seconds - days * 86400).toNat
  let date := Date.ofDay days
  let isLeap := 1000000000 ≤ nanoseconds
  if isLeap && (secondOfDay % 60 ≠ 59 || 2000000000 ≤ nanoseconds) then none
  else if date.year < firstYear || lastYear < date.year then none
  else
    let second := secondOfDay % 60 + nanoseconds / 1000000000
    some ⟨date, Notebook.weekday days, secondOfDay / 3600, secondOfDay / 60 % 60, second,
      nanoseconds % 1000000000 / 1000⟩

/-! ## Texts -/

def zeroPadded (width n : Nat) : Text :=
  let digits := Nat.toDigits 10 n
  List.replicate (width - digits.length) '0' ++ digits

/-- Four digits, and a sign for years that need more or come before the year zero. -/
def yearText (year : Int) : Text :=
  if year < 0 then '-' :: zeroPadded 4 year.natAbs
  else if 9999 < year then '+' :: zeroPadded 4 year.natAbs
  else zeroPadded 4 year.natAbs

def dropZeros : Text → Text
  | ' ' :: '0' :: rest => ' ' :: dropZeros rest
  | c :: rest => c :: dropZeros rest
  | [] => []

namespace Moment

/-- The form in the archive, such as `2019-09-17 Tue 8:16:02.123456`. -/
def stamp (m : Moment) : Text :=
  dropZeros <| yearText m.date.year ++ '-' :: zeroPadded 2 m.date.month ++ '-' :: zeroPadded 2 m.date.day
    ++ ' ' :: (nameIn weekdayNames m.weekday).take 3 ++ ' ' :: zeroPadded 2 m.hour
    ++ ':' :: zeroPadded 2 m.minute ++ ':' :: zeroPadded 2 m.second ++ '.' :: zeroPadded 6 m.microsecond

/-- The form for people, such as `Tuesday 17 September 2019 at 8:16 AM`. -/
def journal (m : Moment) : Text :=
  dropZeros <| nameIn weekdayNames m.weekday ++ ' ' :: zeroPadded 2 m.date.day
    ++ ' ' :: nameIn monthNames (m.date.month - 1) ++ ' ' :: yearText m.date.year ++ " at ".toList
    ++ zeroPadded 2 (if m.hour % 12 = 0 then 12 else m.hour % 12) ++ ':' :: zeroPadded 2 m.minute
    ++ (if m.hour < 12 then " AM".toList else " PM".toList)

end Moment

end Notebook
