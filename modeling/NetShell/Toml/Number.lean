import NetShell.Toml.Reader
import NetShell.Text.Numeral

/-! Numbers, and dates and times of day, which begin like numbers.

An integer has 64 bits. A float is kept as it is written; what is checked is that it
can be had at all, that is, that a positive one does not round to infinity. -/
namespace NetShell.Toml

/-! ### Digits -/

def isDigit (base : Nat) (c : Char) : Bool := (Text.digitValue? base c).isSome

/-- More digits; a `_` may stand before one of them. -/
def moreDigits (base : Nat) : List Char → Option (List Char × List Char)
  | '_' :: c :: rest =>
    if isDigit base c then (moreDigits base rest).map fun (more, left) => (c :: more, left)
    else none
  | c :: rest =>
    if isDigit base c then (moreDigits base rest).map fun (more, left) => (c :: more, left)
    else if c = '_' then none
    else some ([], c :: rest)
  | [] => some ([], [])

/-- One digit or more. -/
def digits (base : Nat) : Reader (List Char)
  | c :: rest =>
    if isDigit base c then (moreDigits base rest).map fun (more, left) => (c :: more, left)
    else none
  | [] => none

/-- A decimal number without needless zeros in front. -/
def wholeDigits : Reader (List Char)
  | '0' :: rest => some (['0'], rest)
  | text => digits 10 text

/-- The number that digits spell, zero if they spell none. -/
def value (base : Nat) (spelled : List Char) : Nat := (Text.numberOf? base spelled).getD 0

/-- A sign, if there is one; says whether it is a minus. -/
def sign : List Char → Bool × List Char
  | '+' :: rest => (false, rest)
  | '-' :: rest => (true, rest)
  | text => (false, text)

/-! ### Integers -/

/-- A number that fits into 64 bits with a sign. -/
def fitting (negative : Bool) (magnitude : Nat) : Option Int :=
  if negative then if magnitude ≤ 0x8000000000000000 then some (-magnitude) else none
  else if magnitude < 0x8000000000000000 then some magnitude else none

/-- The base that a number's first characters ask for. -/
def marked? : List Char → Option (Nat × List Char)
  | '0' :: 'x' :: rest => some (16, rest)
  | '0' :: 'o' :: rest => some (8, rest)
  | '0' :: 'b' :: rest => some (2, rest)
  | _ => none

/-! ### Floats -/

/-- Whether a positive decimal number, digits times a power of ten, is nearer to infinity
than to the greatest double. -/
def isInfinite (spelled : List Char) (exponent : Int) : Bool :=
  let significant := spelled.dropWhile (· == '0')
  let limit := Nat.pow 2 1024 - Nat.pow 2 970
  if significant.isEmpty then false
  else if significant.length + exponent < 309 then false
  else if 309 < significant.length + exponent then true
  else limit * Nat.pow 10 (-exponent).toNat ≤ value 10 significant * Nat.pow 10 exponent.toNat

/-- The digits after a decimal point, if there is one. -/
def fraction : Reader (List Char)
  | '.' :: rest => digits 10 rest
  | text => some ([], text)

/-- The size of a power of ten. Digits that come after it has reached `0x10000` are not
looked at. -/
def power (spelled : List Char) : Nat :=
  spelled.foldl (fun n c => if n < 0x10000 then n * 10 + value 10 [c] else n) 0

/-- A power of ten, if there is one. -/
def exponent : Reader Int
  | 'e' :: rest | 'E' :: rest =>
    let (negative, rest) := sign rest
    (digits 10 rest).map fun (spelled, left) =>
      (if negative then -power spelled else power spelled, left)
  | text => some (0, text)

/-- What a number is. -/
inductive Number
  | integer (value : Int)
  | float
  deriving DecidableEq, Repr

/-- A number. -/
def number (text : List Char) : Option (Number × List Char) :=
  match marked? text with
  | some (base, rest) => do
    let (spelled, left) ← digits base rest
    let n ← fitting false (value base spelled)
    pure (.integer n, left)
  | none =>
    let (negative, unsigned) := sign text
    match unsigned with
    | 'i' :: 'n' :: 'f' :: rest | 'n' :: 'a' :: 'n' :: rest => some (.float, rest)
    | _ => do
      let (whole, rest) ← wholeDigits unsigned
      if rest.head?.any fun c => c == '.' || c == 'e' || c == 'E' then
        let (part, rest) ← fraction rest
        let (power, left) ← exponent rest
        if !negative && isInfinite (whole ++ part) (power - part.length) then none
        else pure (.float, left)
      else
        let n ← fitting negative (value 10 whole)
        pure (.integer n, rest)

/-! ### Dates and times of day -/

/-- A number of exactly so many digits within bounds. -/
def fixed (width low high : Nat) (text : List Char) : Option (Nat × List Char) :=
  let spelled := text.take width
  if spelled.length = width ∧ spelled.all (isDigit 10) ∧ low ≤ value 10 spelled ∧
    value 10 spelled ≤ high then
    some (value 10 spelled, text.drop width)
  else none

/-- How many days a month has. -/
def daysIn (year month : Nat) : Nat :=
  if month = 2 then
    if year % 4 = 0 ∧ (year % 100 ≠ 0 ∨ year % 400 = 0) then 29 else 28
  else if month = 4 ∨ month = 6 ∨ month = 9 ∨ month = 11 then 30
  else 31

/-- Hours and minutes. -/
def hourAndMinute (text : List Char) : Option (List Char) := do
  let (_, rest) ← fixed 2 0 23 text
  let rest ← char ':' rest
  let (_, rest) ← fixed 2 0 59 rest
  pure rest

/-- A time of day; there may be a leap second and a part of a second. -/
def timeOfDay (text : List Char) : Option (List Char) := do
  let rest ← hourAndMinute text
  let rest ← char ':' rest
  let (_, rest) ← fixed 2 0 60 rest
  match rest with
  | '.' :: c :: more => if c.isDigit then pure (more.dropWhile (·.isDigit)) else pure rest
  | _ => pure rest

/-- How far a time of day is from universal time, if that is said. -/
def offset : List Char → Option (List Char)
  | 'Z' :: rest | 'z' :: rest => some rest
  | '+' :: rest | '-' :: rest => hourAndMinute rest
  | rest => some rest

/-- A date of the Gregorian calendar. -/
def date (text : List Char) : Option (List Char) := do
  let (year, rest) ← fixed 4 0 9999 text
  let rest ← char '-' rest
  let (month, rest) ← fixed 2 1 12 rest
  let rest ← char '-' rest
  let (_, rest) ← fixed 2 1 (daysIn year month) rest
  pure rest

/-- So many digits and a mark after them begin a text. -/
def beginsWith (width : Nat) (mark : Char) (text : List Char) : Bool :=
  (fixed width 0 (Nat.pow 10 width) text).any fun (_, rest) => (char mark rest).isSome

/-- A date, a time of day or both; the text is known to begin with one of them. -/
def dateTime (text : List Char) : Option (List Char) :=
  if beginsWith 2 ':' text then timeOfDay text
  else do
    let rest ← date text
    match rest with
    | c :: more =>
      if (c == 'T' || c == 't' || c == ' ') && beginsWith 2 ':' more then do
        let rest ← timeOfDay more
        offset rest
      else pure rest
    | [] => pure []

/-- Whether a text begins with a date or a time of day and not with a number. -/
def isDateTime (text : List Char) : Bool := beginsWith 4 '-' text || beginsWith 2 ':' text

end NetShell.Toml
