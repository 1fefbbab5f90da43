import NetShell.Toml.Item
import NetShell.Toml.Number
import NetShell.Toml.Quoted

/-! Reading a TOML document.

The text is a sequence of statements: a key and its value, or a header that begins a
table. They are read first and then carried out one after another, each on the document
that the ones before it made. -/
namespace NetShell.Toml

/-! ### Keys -/

/-- What may stand in a key without quotes. -/
def isBare (c : Char) : Bool := c.isAlphanum || c == '_' || c == '-'

/-- One part of a key, and the space around it. -/
def name (text : List Char) : Option (String × List Char) :=
  let text := skipSpace text
  let found := match text with
    | '"' :: rest => Quoted.basic rest
    | '\'' :: rest => Quoted.literal rest
    | _ =>
      let bare := text.takeWhile isBare
      if bare.isEmpty then none else some (bare, text.drop bare.length)
  found.map fun (spelled, rest) => (String.ofList spelled, skipSpace rest)

/-- So deep values may be nested, and so many parts a key may have. -/
def maxDepth : Nat := 79

/-- A key of one part or more. -/
def key (text : List Char) : Option (List String × List Char) := separated '.' name maxDepth text

/-! ### Values -/

/-- A value that holds no other: a string, a number, a truth value or a date. -/
def scalar (text : List Char) : Option (Item × List Char) :=
  match text with
  | '"' :: _ | '\'' :: _ => (Quoted.string text).map fun (content, rest) => (.string content, rest)
  | 't' :: 'r' :: 'u' :: 'e' :: rest => some (.boolean true, rest)
  | 'f' :: 'a' :: 'l' :: 's' :: 'e' :: rest => some (.boolean false, rest)
  | _ =>
    if isDateTime text then (dateTime text).map fun rest => (.dateTime, rest)
    else (number text).map fun (found, rest) =>
      (match found with | .integer n => .integer n | .float => .float, rest)

/-- An array, after its opening bracket: at most so many values with commas between them,
and a comma after the last one or not. -/
def array (value : Reader Item) (most : Nat) (text : List Char) :
    Option (List Item × List Char) := do
  let (items, rest) := separatedOrNone ',' (fun text => do
    let start ← gap false text
    let (item, rest) ← value start
    let rest ← gap false rest
    pure (item, rest)) most text
  let rest := if items.isEmpty then rest else (char ',' rest).getD rest
  let rest ← gap false rest
  let rest ← char ']' rest
  pure (items, rest)

/-- A key, an equals sign and a value. -/
def pair (value : Reader Item) (text : List Char) : Option ((List String × Item) × List Char) := do
  let (path, rest) ← key text
  let rest ← char '=' rest
  let (item, rest) ← value (skipSpace rest)
  pure ((path, item), skipSpace rest)

/-- A table of at most so many items on one line, after its opening brace. -/
def inlineTable (value : Reader Item) (most : Nat) (text : List Char) :
    Option (Entries × List Char) := do
  let (pairs, rest) := separatedOrNone ',' (pair value) most text
  let entries ← pairs.foldlM (fun entries (path, item) => Entries.assign? path item .header entries) []
  let rest ← char '\x7d' (skipSpace rest)
  pure (entries, rest)

/-- A value with at most so many others around the innermost one, and at most so many
beside any. -/
def valueWithin (most : Nat) : (depth : Nat) → Reader Item
  | 0, text => if text.head?.any fun c => c == '[' || c == '\x7b' then none else scalar text
  | depth + 1, text =>
    match text with
    | '[' :: rest =>
      (array (valueWithin most depth) most rest).map fun (items, rest) => (.array items, rest)
    | '\x7b' :: rest =>
      (inlineTable (valueWithin most depth) most rest).map fun (entries, rest) =>
        (.inline entries, rest)
    | _ => scalar text

/-! ### Statements -/

inductive Statement
  | assign (path : List String) (item : Item)
  /-- the header of a table -/
  | table (path : List String)
  /-- the header of the next element of an array of tables -/
  | element (path : List String)

/-- A statement without the end of its line; `most` bounds its lists. -/
def statement (most : Nat) (text : List Char) : Option (Statement × List Char) :=
  match text with
  | '[' :: '[' :: rest => do
    let (path, rest) ← key rest
    let rest ← char ']' rest
    let rest ← char ']' rest
    pure (.element path, rest)
  | '[' :: rest => do
    let (path, rest) ← key rest
    let rest ← char ']' rest
    pure (.table path, rest)
  | _ =>
    (pair (valueWithin most maxDepth) text).map fun ((path, item), rest) =>
      (.assign path item, rest)

/-- The statements of at most so many lines; a line may be empty. -/
def statementsWithin (most : Nat) : (lines : Nat) → List Char → Option (List Statement)
  | 0, text => if (skipSpace text).isEmpty then some [] else none
  | lines + 1, text =>
    let start := skipSpace text
    match start with
    | [] => some []
    | _ =>
      match lineEnd start with
      | some rest => statementsWithin most lines rest
      | none => do
        let (first, rest) ← statement most start
        let rest ← lineEnd rest
        let more ← statementsWithin most lines rest
        pure (first :: more)

/-- The statements of a text. It has no more lines, and no list in it more parts, than it
has characters. -/
def statements (text : List Char) : Option (List Statement) :=
  statementsWithin text.length text.length text

/-! ### Carrying statements out -/

/-- A document so far, and the path of the table that keys go into. -/
structure Draft where
  entries : Entries := []
  current : List String := []

def Draft.apply? (d : Draft) : Statement → Option Draft
  | .assign path item =>
    (d.entries.within .implied (Entries.assign? path item) d.current .header).map fun entries =>
      { d with entries }
  | .table path => (d.entries.open? path).map fun entries => ⟨entries, path⟩
  | .element path => (d.entries.append? path).map fun entries => ⟨entries, path⟩

/-- The document that a text spells. A byte order mark may begin it. -/
def parse? (text : String) : Option Entries := do
  let text := match text.toList with
    | '\uFEFF' :: rest => rest
    | text => text
  let found ← statements text
  let draft ← found.foldlM Draft.apply? {}
  pure draft.entries

end NetShell.Toml
