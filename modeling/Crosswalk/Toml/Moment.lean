import Crosswalk.Toml.Text

/-!
# Dates and times

A moment is a date, a time of day, or both; with both there may be an offset from
universal time. The fields of a date must name a day of the calendar. A minute
may have a sixty-first second.
-/

namespace Crosswalk.Toml

/-- Whether a year has a twenty-ninth of February. -/
def isLeapYear (year : Nat) : Bool := year % 4 = 0 && (year % 100 ≠ 0 || year % 400 = 0)

/-- The number of days of a month. -/
def daysInMonth (year month : Nat) : Nat :=
  match month with
  | 2 => if isLeapYear year then 29 else 28
  | 4 | 6 | 9 | 11 => 30
  | _ => 31

namespace Scan

/-- A number of exactly `n` digits that is at least `low` and at most `high`. -/
def field (n low high : Nat) : Scan Nat := fun cs =>
  if cs.length < n then none
  else
    ((ofDigits? 10 (cs.take n)).filter (fun v => low ≤ v && v ≤ high)).map
      (fun v => (v, cs.drop n))

/-- A day of the calendar. -/
def date : Scan Unit := do
  let year ← field 4 0 9999
  char '-'
  let month ← field 2 1 12
  char '-'
  let _ ← field 2 1 (daysInMonth year month)

/-- A time of day, perhaps with a fraction of a second. -/
def time : Scan Unit := do
  let _ ← field 2 0 23
  char ':'
  let _ ← field 2 0 59
  char ':'
  let _ ← field 2 0 60
  let _ ← optional (do char '.'; someRun Char.isDigit)

/-- An offset from universal time. -/
def offset : Scan Unit :=
  (do let _ ← one (fun c => c = 'Z' || c = 'z')) <|>
  (do
    let _ ← one (fun c => c = '+' || c = '-')
    let _ ← field 2 0 23
    char ':'
    let _ ← field 2 0 59)

/-- A time of day that follows a date. -/
def timeOfDate : Scan Unit := do
  let _ ← one (fun c => c = 'T' || c = 't' || c = ' ')
  time
  let _ ← optional offset

/-- **A moment.** -/
def moment : Scan String :=
  lexeme ((do date; let _ ← optional timeOfDate) <|> time)

end Scan

end Crosswalk.Toml
