import BackendRegistrar.Calendar.Day

/-! Dates of requests, in Greenwich time, from seconds since the start of 1970. -/

namespace BackendRegistrar.Http

open Calendar

/-- The days of the week, from the first of 1970 on. -/
def weekdays : List String := ["Thu", "Fri", "Sat", "Sun", "Mon", "Tue", "Wed"]

def months : List String :=
  ["Jan", "Feb", "Mar", "Apr", "May", "Jun", "Jul", "Aug", "Sep", "Oct", "Nov", "Dec"]

/-- The date of a second; there is none before the year zero. -/
def date? (second : Int) : Option String :=
  let days := Int.fdiv second 86400
  let rest := (Int.fmod second 86400).toNat
  let d := Day.ofNumber days
  if d.year < 0 then none
  else
    let weekday := weekdays.getD (Int.fmod days 7).toNat ""
    let month := months.getD (d.month - 1) ""
    some (weekday ++ ", " ++ padded 2 d.day ++ " " ++ month ++ " " ++ padded 4 d.year.toNat ++ " "
      ++ padded 2 (rest / 3600) ++ ":" ++ padded 2 (rest / 60 % 60) ++ ":" ++ padded 2 (rest % 60)
      ++ " GMT")

def firstSecond : Int := -377705023201

def lastSecond : Int := 253402207200

/-- The second in which an instant lies, given by seconds and billionths of either sign. -/
def secondOf? (seconds billionths : Int) : Option Int :=
  if seconds < firstSecond ∨ lastSecond < seconds ∨ billionths.natAbs ≥ 1000000000 then none
  else
    let second := if billionths < 0 then seconds - 1 else seconds
    if second < firstSecond then none else some second

end BackendRegistrar.Http
