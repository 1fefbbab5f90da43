import NetShell.Text.Blank
import NetShell.Text.Letter
import NetShell.Text.Numeral

/-! Patterns for the values of fields: regular expressions, as far as it matters whether
one can be read.

A pattern is read part by part. Between parts the reader knows the options in force,
those to return to at the end of each open group, the names that groups have been given,
and whether something that can be repeated stands just before. Characters are those of
Unicode unless an option says bytes; there are no tables of Unicode classes, so what
would need one (`\d`, `\b`, letters of either case) can be had for bytes only, and what
could then match no character cannot be had at all. -/
namespace NetShell.Log.Pattern

/-- What an option of a group turns on or off. -/
structure Options where
  unicode : Bool := true
  /-- letters match in either case -/
  caseless : Bool := false
  /-- blanks and comments may stand between the parts -/
  spaced : Bool := false

/-- What may be between two parts; `comment` says whether the text begins in a comment. -/
def skip (comment : Bool) : List Char → List Char
  | [] => []
  | c :: rest =>
    if comment then skip (c != '\n') rest
    else if Text.isBlank c then skip false rest
    else if c = '#' then skip true rest
    else c :: rest

/-- The next part. -/
def Options.next (o : Options) (text : List Char) : List Char :=
  if o.spaced then skip false text else text

/-! ### Escapes -/

/-- What a backslash and the characters after it stand for. -/
inductive Escape
  | char (code : Nat)
  /-- a class of characters -/
  | several
  /-- a place between characters -/
  | border

/-- So many hexadecimal digits. -/
def hexDigits (o : Options) : (count value : Nat) → List Char → Option (Nat × List Char)
  | 0, value, text => some (value, o.next text)
  | count + 1, value, text =>
    match o.next text with
    | c :: rest => (Text.digitValue? 16 c).bind fun d => hexDigits o count (value * 16 + d) rest
    | [] => none

/-- A character by its number; a byte past ASCII is no character. -/
def numbered (o : Options) (count : Nat) (text : List Char) : Option (Escape × List Char) :=
  match hexDigits o count 0 text with
  | some (code, rest) =>
    if code.isValidChar ∧ (o.unicode ∨ count ≠ 2 ∨ code < 0x80) then some (.char code, rest)
    else none
  | none => none

/-- What follows a backslash. -/
def escape (o : Options) : List Char → Option (Escape × List Char)
  | [] => none
  | c :: rest =>
    if c = 'x' then numbered o 2 rest
    else if c = 'u' then numbered o 4 rest
    else if c = 'U' then numbered o 8 rest
    else if c = 'd' ∨ c = 's' ∨ c = 'w' then if o.unicode then none else some (.several, rest)
    else if c = 'b' ∨ c = 'B' ∨ c = '<' ∨ c = '>' then
      if o.unicode then none else some (.border, rest)
    else if c = 'A' ∨ c = 'z' then some (.border, rest)
    else if c = 'a' ∨ c = 'f' ∨ c = 't' ∨ c = 'n' ∨ c = 'r' ∨ c = 'v' then
      some (.char c.toNat, rest)
    else if c.isAlphanum ∨ '\x7f' < c then none
    else some (.char c.toNat, rest)

/-! ### Sets -/

/-- The names of the classes of ASCII characters. -/
def className : List String :=
  ["alnum", "alpha", "ascii", "blank", "cntrl", "digit", "graph", "lower", "print", "punct",
    "space", "upper", "word", "xdigit"]

/-- A class of ASCII characters by its name, after its first bracket. Its complement has
bytes that are no characters. -/
def namedClass (text : List Char) : Option (Bool × List Char) :=
  match text with
  | ':' :: rest =>
    let complement := rest.head? == some '^'
    let name := (if complement then rest.tail else rest).takeWhile (· != ':')
    match (if complement then rest.tail else rest).drop name.length with
    | ':' :: ']' :: left =>
      if className.contains (String.ofList name) then some (complement, left) else none
    | _ => none
  | _ => none

/-- A member of a set. -/
def member (o : Options) : List Char → Option (Escape × List Char)
  | [] => none
  | '\\' :: rest => escape o rest
  | c :: rest => some (.char c.toNat, rest)

/-- A member of a set, or two with a hyphen between them and all characters from the
first to the second. -/
def range (o : Options) (text : List Char) : Option (List Char) :=
  match member o text with
  | none | some (.border, _) => none
  | some (.several, rest) => ending none (o.next rest)
  | some (.char code, rest) =>
    if o.unicode ∨ code < 0x80 then ending (some code) (o.next rest) else none
where
  ending (first : Option Nat) : List Char → Option (List Char)
    | [] => none
    | '-' :: rest =>
      match o.next rest with
      | ']' :: _ | '-' :: _ => some ('-' :: rest)
      | rest =>
        match first, member o rest with
        | some low, some (.char high, left) =>
          if low ≤ high ∧ (o.unicode ∨ high < 0x80) then some left else none
        | _, _ => none
    | rest => some rest

/-- The beginning of a set, after its bracket: hyphens there, or else a bracket that
closes, are members. Says whether the set is a complement. -/
def opened (o : Options) (text : List Char) : Bool × List Char :=
  let inside := fun (text : List Char) =>
    let hyphens := text.takeWhile fun c => c == '-' || (o.spaced && Text.isBlank c)
    if hyphens.contains '-' then text.drop hyphens.length
    else match text with
      | ']' :: rest => rest
      | _ => text
  match o.next text with
  | '^' :: rest => (true, inside (o.next rest))
  | rest => (false, inside rest)

/-- What is left after a set; `depth` more sets are open around the one that the text
is in. -/
def setEnd (o : Options) (depth : Nat) (text : List Char) : Option (List Char) :=
  let step : Option (Option Nat × List Char) :=
    match o.next text with
    | [] => none
    | '[' :: rest =>
      match namedClass rest with
      | some (complement, left) =>
        if complement && !o.unicode then none else some (some depth, left)
      | none =>
        let (complement, left) := opened o rest
        if complement && !o.unicode then none else some (some (depth + 1), left)
    | ']' :: rest =>
      match depth with
      | 0 => some (none, rest)
      | outer + 1 => some (some outer, rest)
    | '&' :: '&' :: rest | '-' :: '-' :: rest | '~' :: '~' :: rest => some (some depth, rest)
    | other => (range o other).map fun left => (some depth, left)
  match step with
  | none => none
  | some (none, rest) => some rest
  | some (some depth, rest) => if rest.length < text.length then setEnd o depth rest else none
termination_by text.length

/-- A set, after its bracket. Without tables no set can be had in either case. -/
def wholeSet (o : Options) (text : List Char) : Option (List Char) :=
  let (complement, rest) := opened o text
  if o.unicode then if o.caseless then none else setEnd o 0 rest
  else if complement then none
  else setEnd o 0 rest

/-! ### Groups -/

/-- Options as a group lists them: each at most once, those after a hyphen turned off.
Says what ended the list. -/
def listed (seen : List Char) (off : Bool) (o : Options) :
    List Char → Option (Options × Char × List Char)
  | [] => none
  | c :: rest =>
    if c = ':' ∨ c = ')' then
      if seen.head? = some '-' ∨ (c = ')' ∧ seen.isEmpty) then none else some (o, c, rest)
    else if seen.contains c then none
    else if c = '-' then listed ('-' :: seen) true o rest
    else if c = 'i' then listed ('i' :: seen) off { o with caseless := !off } rest
    else if c = 'u' then listed ('u' :: seen) off { o with unicode := !off } rest
    else if c = 'x' then listed ('x' :: seen) off { o with spaced := !off } rest
    else if c = 'm' ∨ c = 's' ∨ c = 'U' ∨ c = 'R' then listed (c :: seen) off o rest
    else none

/-- The name of a group and what follows it. -/
def groupName (text : List Char) : Option (String × List Char) :=
  let name := text.takeWhile (· != '>')
  match name, text.drop name.length with
  | c :: more, '>' :: rest =>
    if (c == '_' || Text.isLetter c) &&
        more.all fun d => d == '_' || d == '.' || d == '[' || d == ']' || Text.isWordPart d then
      some (String.ofList name, rest)
    else none
  | _, _ => none

/-! ### Patterns -/

/-- Where a reader is between two parts. -/
structure Scan where
  options : Options := {}
  /-- the options around each open group, the innermost first -/
  outer : List Options := []
  /-- something that can be repeated stands just before -/
  repeatable : Bool := false
  names : List String := []

namespace Scan

/-- What follows an opening parenthesis. -/
def group (s : Scan) (text : List Char) : Option (Scan × List Char) :=
  let inside : Scan := { s with outer := s.options :: s.outer, repeatable := false }
  let named := fun rest => (groupName rest).bind fun (name, left) =>
    if s.names.contains name then none else some ({ inside with names := name :: s.names }, left)
  match text with
  | '?' :: '=' :: _ | '?' :: '!' :: _ | '?' :: '<' :: '=' :: _ | '?' :: '<' :: '!' :: _ => none
  | '?' :: 'P' :: '<' :: rest | '?' :: '<' :: rest => named rest
  | '?' :: rest =>
    (listed [] false s.options rest).map fun (options, ending, left) =>
      if ending = ')' then ({ s with options, repeatable := false }, left)
      else ({ inside with options }, left)
  | rest => some (inside, rest)

/-- A character that stands for itself. -/
def char (s : Scan) (rest : List Char) : Option (Scan × List Char) :=
  if s.options.caseless && s.options.unicode then none
  else some ({ s with repeatable := true }, rest)

/-- A part. -/
def part (s : Scan) : List Char → Option (Scan × List Char)
  | [] => none
  | '(' :: rest => s.group (s.options.next rest)
  | ')' :: rest =>
    match s.outer with
    | [] => none
    | options :: outer => some ({ s with options, outer, repeatable := true }, rest)
  | '|' :: rest => some ({ s with repeatable := false }, rest)
  | '[' :: rest => (wholeSet s.options rest).map fun left => ({ s with repeatable := true }, left)
  | '\x7b' :: _ => none
  | '\\' :: rest =>
    match escape s.options rest with
    | none => none
    | some (.char _, left) => s.char left
    | some (_, left) => some ({ s with repeatable := true }, left)
  | c :: rest =>
    if c = '?' ∨ c = '*' ∨ c = '+' then
      if s.repeatable then some (s, if rest.head? = some '?' then rest.tail else rest) else none
    else if c = '.' then
      if s.options.unicode then some ({ s with repeatable := true }, rest) else none
    else if c = '^' ∨ c = '$' then some ({ s with repeatable := true }, rest)
    else s.char rest

/-- Whether the rest of a pattern can be read. -/
def reads (s : Scan) (text : List Char) : Bool :=
  match s.options.next text with
  | [] => s.outer.isEmpty
  | c :: rest =>
    match s.part (c :: rest) with
    | none => false
    | some (s, left) => if left.length < text.length then s.reads left else false
termination_by text.length

end Scan

/-- Whether a text is a decimal fraction, infinite or no number, with a sign or not. -/
def isNumber (text : List Char) : Bool :=
  let unsigned := match text with
    | '+' :: rest | '-' :: rest => rest
    | all => all
  let word := (String.ofList unsigned).toLower
  let whole := unsigned.takeWhile (·.isDigit)
  let rest := unsigned.drop whole.length
  let fraction : List Char := match rest with
    | '.' :: more => more.takeWhile (·.isDigit)
    | _ => []
  let rest : List Char := match rest with
    | '.' :: more => more.drop fraction.length
    | other => other
  let ends := match rest with
    | [] => true
    | e :: more =>
      let digits : List Char := match more with
        | '+' :: digits | '-' :: digits => digits
        | digits => digits
      (e == 'e' || e == 'E') && !digits.isEmpty && digits.all (·.isDigit)
  word == "inf" || word == "infinity" || word == "nan" ||
    ((!whole.isEmpty || !fraction.isEmpty) && ends)

/-- Whether a text can be asked for as a value: a number, or a pattern that can be read. -/
def isReadable (text : String) : Bool := isNumber text.toList || ({} : Scan).reads text.toList

end NetShell.Log.Pattern
