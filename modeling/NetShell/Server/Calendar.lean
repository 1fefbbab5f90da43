import NetShell.Text.Numeral

/-! Dates and times of day in the proleptic Gregorian calendar, in universal time. -/
namespace NetShell.Calendar

/-- The names of the months, three letters each. -/
def monthName : Nat → List Char
  | 1 => ['J', 'a', 'n']
  | 2 => ['F', 'e', 'b']
  | 3 => ['M', 'a', 'r']
  | 4 => ['A', 'p', 'r']
  | 5 => ['M', 'a', 'y']
  | 6 => ['J', 'u', 'n']
  | 7 => ['J', 'u', 'l']
  | 8 => ['A', 'u', 'g']
  | 9 => ['S', 'e', 'p']
  | 10 => ['O', 'c', 't']
  | 11 => ['N', 'o', 'v']
  | _ => ['D', 'e', 'c']

/-- The day of the 400-year era that begins on the first of March of a year divisible by
400, for a number of days since 1970. -/
def dayOfEra (days : Int) : Nat := ((days + 719468) % 146097).toNat

/-- The day of the year that begins on the first of March. -/
def dayOfYear (dayOfEra : Nat) : Nat :=
  let year := (dayOfEra - dayOfEra / 1460 + dayOfEra / 36524 - dayOfEra / 146096) / 365
  dayOfEra - (365 * year + year / 4 - year / 100)

/-- The month and the day of the month, for a number of days since 1970. -/
def monthAndDay (days : Int) : Nat × Nat :=
  let day := dayOfYear (dayOfEra days)
  let month := (5 * day + 2) / 153
  (if month < 10 then month + 3 else month - 9, day - (153 * month + 2) / 5 + 1)

/-- Day, month and time of day of a second since 1970, fifteen characters long. -/
def stamp (seconds : Int) : String :=
  let (month, day) := monthAndDay (seconds / 86400)
  let second := (seconds % 86400).toNat
  String.ofList (Text.twoDigits day ++ ' ' :: monthName month ++
    ' ' :: Text.twoDigits (second / 3600) ++
    ':' :: Text.twoDigits (second / 60 % 60) ++ ':' :: Text.twoDigits (second % 60))

end NetShell.Calendar
