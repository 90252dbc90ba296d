import BackendRegistrar.Calendar.Day
import BackendRegistrar.Text.Characters

/-! Points in time as documents write them: a date, a time and an offset from Greenwich, with
blanks allowed between the parts. They are written again in Greenwich time, to the second. -/

namespace BackendRegistrar.Calendar

/-- A second in Greenwich time, counted from the start of 1970. A leap second is counted like the
second before it. -/
structure Timestamp where
  second : Int
  isLeap : Bool
deriving DecidableEq, Repr

namespace Timestamp

/-- Reads parts off the front of a text. -/
abbrev Scan := StateT (List Char) Option

def skipBlanks : Scan Unit := modify fun cs => cs.dropWhile Text.isBlank

def oneOf (test : Char → Bool) : Scan Char := do
  match ← get with
  | c :: rest =>
    if test c then
      set rest
      return c
    else failure
  | [] => failure

/-- A character after blanks. -/
def mark (c : Char) : Scan Unit := do
  skipBlanks
  let _ ← oneOf (· == c)

def numberOf (digits : List Char) : Nat := digits.foldl (fun n c => n * 10 + (c.toNat - 48)) 0

def digits (limit : Nat) : Scan (List Char) := do
  let cs ← get
  let ds := (cs.take limit).takeWhile Char.isDigit
  if ds.isEmpty then failure
  set (cs.drop ds.length)
  return ds

def number (limit : Nat) : Scan Nat := do
  skipBlanks
  return numberOf (← digits limit)

def within (least most : Nat) (n : Nat) : Scan Unit := if least ≤ n ∧ n ≤ most then pure () else failure

/-- A year, of four digits at most unless it has a sign. -/
def year : Scan Int := do
  skipBlanks
  let cs ← get
  match cs with
  | '-' :: rest =>
    set rest
    return -(numberOf (← digits rest.length))
  | '+' :: rest =>
    set rest
    return numberOf (← digits rest.length)
  | _ => return numberOf (← digits 4)

def firstYear : Int := -262143

def lastYear : Int := 262142

def date : Scan Day := do
  let y ← year
  mark '-'
  let m ← number 2
  mark '-'
  let d ← number 2
  let day : Day := ⟨y, m, d⟩
  if firstYear ≤ y ∧ y ≤ lastYear ∧ day.isReal then return day else failure

/-- The second of a day, and whether it is a leap second. Fractions are read over. -/
def time : Scan (Nat × Bool) := do
  let h ← number 2
  mark ':'
  let m ← number 2
  mark ':'
  let s ← number 2
  within 0 23 h
  within 0 59 m
  within 0 60 s
  match ← get with
  | '.' :: rest =>
    set rest
    let _ ← digits rest.length
  | _ => pure ()
  return (h * 3600 + m * 60 + min s 59, s == 60)

def twoDigits : Scan Nat := do
  let a ← oneOf Char.isDigit
  let b ← oneOf Char.isDigit
  return numberOf [a, b]

def offset : Scan Int := do
  skipBlanks
  let cs ← get
  if (cs.take 3).map Char.toLower = "utc".toList then
    set (cs.drop 3)
    return 0
  else if (cs.take 1).map Char.toLower = ['z'] then
    set (cs.drop 1)
    return 0
  else
    let sign ← oneOf fun c => c == '+' || c == '-' || c == '−'
    let h ← twoDigits
    modify fun rest => rest.dropWhile fun c => c == ':' || Text.isBlank c
    let m ← twoDigits
    within 0 23 h
    within 0 59 m
    let seconds : Int := h * 3600 + m * 60
    return if sign == '+' then seconds else -seconds

def scan : Scan Timestamp := do
  let day ← date
  let _ ← oneOf fun c => c == 't' || c == 'T' || c == ' '
  let (second, isLeap) ← time
  let ahead ← offset
  skipBlanks
  let universal := day.number * 86400 + second - ahead
  if (⟨firstYear, 1, 1⟩ : Day).number * 86400 ≤ universal ∧
      universal < (⟨lastYear + 1, 1, 1⟩ : Day).number * 86400 then
    return ⟨universal, isLeap⟩
  else failure

def parse? (s : String) : Option Timestamp :=
  match scan.run s.toList with
  | some (t, []) => some t
  | _ => none

/-- A year of four digits, or of more with a sign. -/
def yearText (year : Int) : String :=
  if year < 0 then "-" ++ padded 4 year.natAbs
  else if 9999 < year then "+" ++ padded 4 year.natAbs
  else padded 4 year.natAbs

def text (t : Timestamp) : String :=
  let day := Day.ofNumber (Int.fdiv t.second 86400)
  let rest := (Int.fmod t.second 86400).toNat
  yearText day.year ++ "-" ++ padded 2 day.month ++ "-" ++ padded 2 day.day ++ "T"
    ++ padded 2 (rest / 3600) ++ ":" ++ padded 2 (rest / 60 % 60) ++ ":"
    ++ padded 2 (rest % 60 + if t.isLeap then 1 else 0) ++ "Z"

end Timestamp

end BackendRegistrar.Calendar
