/-! Reading from the front of a text.

A reader says what it found and what is left of the text, or that the text is
malformed. This file holds what the readers of the TOML format share: its character
classes, the space between its parts, and lists of parts. -/
namespace NetShell.Toml

/-- Reads something from the front of a text and says what is left. -/
abbrev Reader (α : Type) := List Char → Option (α × List Char)

/-! ### Characters -/

/-- Space within a line. -/
def isSpace (c : Char) : Bool := c == ' ' || c == '\t'

/-- What may stand in a comment or a string: no control character but the tab. -/
def isPlain (c : Char) : Bool := c == '\t' || (' ' ≤ c && c != '\x7f')

def skipSpace (text : List Char) : List Char := text.dropWhile isSpace

/-- A character that has to be next. -/
def char (c : Char) : List Char → Option (List Char)
  | d :: rest => if d = c then some rest else none
  | [] => none

/-! ### Ends of lines -/

/-- A line feed, with a carriage return before it or not. -/
def newline : List Char → Option (List Char)
  | '\n' :: rest => some rest
  | '\r' :: '\n' :: rest => some rest
  | _ => none

/-- What follows a statement on its line: space and a comment. -/
def lineEnd (text : List Char) : Option (List Char) :=
  let rest := match skipSpace text with
    | '#' :: comment => comment.dropWhile isPlain
    | rest => rest
  if rest.isEmpty then some [] else newline rest

/-- Space, ends of lines and comments, in any number; `comment` says whether the text
begins in a comment. -/
def gap (comment : Bool) : List Char → Option (List Char)
  | [] => if comment then none else some []
  | '\n' :: rest => gap false rest
  | '\r' :: '\n' :: rest => gap false rest
  | c :: rest =>
    if comment then if isPlain c then gap true rest else none
    else if isSpace c then gap false rest
    else if c = '#' then gap true rest
    else if c = '\r' then none
    else some (c :: rest)

/-! ### Lists -/

variable {α : Type}

/-- One part or more with a mark between each two, but at most so many. A mark that no
part follows is left where it is. -/
def separated (mark : Char) (part : Reader α) :
    (most : Nat) → List Char → Option (List α × List Char)
  | 0, _ => none
  | most + 1, text =>
    match part text with
    | none => none
    | some (a, []) => some ([a], [])
    | some (a, c :: rest) =>
      if c = mark then
        match separated mark part most rest with
        | some (more, left) => some (a :: more, left)
        | none => some ([a], c :: rest)
      else some ([a], c :: rest)

/-- The parts that `separated` finds, or none at all. -/
def separatedOrNone (mark : Char) (part : Reader α) (most : Nat) (text : List Char) :
    List α × List Char :=
  (separated mark part most text).getD ([], text)

end NetShell.Toml
