/-! Days of the Gregorian calendar, extended into the past, and their numbers: how many days
they are after the first of 1970. -/

namespace BackendRegistrar.Calendar

structure Day where
  year : Int
  month : Nat
  day : Nat
deriving DecidableEq, Repr

namespace Day

/-- The day with a number. Years are counted from March here, in eras of four hundred. -/
def ofNumber (days : Int) : Day :=
  let shifted := days + 719468
  let era := Int.fdiv shifted 146097
  let dayOfEra := (Int.fmod shifted 146097).toNat
  let yearOfEra := (dayOfEra - dayOfEra / 1460 + dayOfEra / 36524 - dayOfEra / 146096) / 365
  let dayOfYear := dayOfEra - (365 * yearOfEra + yearOfEra / 4 - yearOfEra / 100)
  let monthFromMarch := (5 * dayOfYear + 2) / 153
  let day := dayOfYear - (153 * monthFromMarch + 2) / 5 + 1
  let month := if monthFromMarch < 10 then monthFromMarch + 3 else monthFromMarch - 9
  let year := era * 400 + yearOfEra
  ⟨if month ≤ 2 then year + 1 else year, month, day⟩

def number (d : Day) : Int :=
  let year := if d.month ≤ 2 then d.year - 1 else d.year
  let era := Int.fdiv year 400
  let yearOfEra := (Int.fmod year 400).toNat
  let monthFromMarch := if d.month ≤ 2 then d.month + 9 else d.month - 3
  let dayOfYear := (153 * monthFromMarch + 2) / 5 + d.day - 1
  let dayOfEra := yearOfEra * 365 + yearOfEra / 4 - yearOfEra / 100 + dayOfYear
  era * 146097 + dayOfEra - 719468

example : (⟨1970, 1, 1⟩ : Day).number = 0 := by decide
example : ofNumber (⟨2024, 2, 29⟩ : Day).number = ⟨2024, 2, 29⟩ := by decide
example : ofNumber (⟨-1, 12, 31⟩ : Day).number = ⟨-1, 12, 31⟩ := by decide

def isLeapYear (year : Int) : Bool :=
  Int.fmod year 4 = 0 && (Int.fmod year 100 ≠ 0 || Int.fmod year 400 = 0)

/-- How many days a month has; none if there is no such month. -/
def monthLength (year : Int) (month : Nat) : Nat :=
  if month = 2 then (if isLeapYear year then 29 else 28)
  else [31, 0, 31, 30, 31, 30, 31, 31, 30, 31, 30, 31].getD (month - 1) 0

def isReal (d : Day) : Bool :=
  1 ≤ d.month && 1 ≤ d.day && d.day ≤ monthLength d.year d.month

end Day

def padded (width n : Nat) : String :=
  let digits := Nat.toDigits 10 n
  String.ofList (List.replicate (width - digits.length) '0' ++ digits)

end BackendRegistrar.Calendar
