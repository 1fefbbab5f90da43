import NetShell.Toml.Reader
import NetShell.Text.Numeral

/-! Strings: basic ones in double quotes, with escapes, and literal ones in single
quotes, each on one line or between triple quotes on many. -/
namespace NetShell.Toml.Quoted

/-! ### Escapes -/

/-- The character whose number is spelled by so many hexadecimal digits. -/
def numbered (width : Nat) (text : List Char) : Option (Char × List Char) :=
  if (text.take width).length = width then
    match Text.numberOf? 16 (text.take width) with
    | none => none
    | some n => if n.isValidChar then some (Char.ofNat n, text.drop width) else none
  else none

/-- What an escape stands for, after its backslash. -/
def escaped : Reader Char
  | 'b' :: rest => some ('\x08', rest)
  | 't' :: rest => some ('\t', rest)
  | 'n' :: rest => some ('\n', rest)
  | 'f' :: rest => some ('\x0c', rest)
  | 'r' :: rest => some ('\r', rest)
  | '"' :: rest => some ('"', rest)
  | '\\' :: rest => some ('\\', rest)
  | 'u' :: rest => numbered 4 rest
  | 'U' :: rest => numbered 8 rest
  | _ => none

theorem length_numbered {width : Nat} {text rest : List Char} {c : Char}
    (h : numbered width text = some (c, rest)) : rest.length ≤ text.length := by
  unfold numbered at h
  split at h
  · split at h
    · simp at h
    · split at h
      · simp only [Option.some.injEq, Prod.mk.injEq] at h
        simp [← h.2]
      · simp at h
  · simp at h

/-- An escape takes at least one character. -/
theorem length_escaped {text rest : List Char} {c : Char} (h : escaped text = some (c, rest)) :
    rest.length < text.length := by
  unfold escaped at h
  split at h
  case h_8 | h_9 =>
    have := length_numbered h
    simp
    omega
  case h_10 => simp at h
  all_goals
    simp only [Option.some.injEq, Prod.mk.injEq] at h
    simp [← h.2]

/-! ### One line -/

/-- The rest of a basic string on one line, and its closing quote. -/
def basic (text : List Char) : Option (List Char × List Char) :=
  match text with
  | [] => none
  | '"' :: rest => some ([], rest)
  | '\\' :: rest =>
    match _h : escaped rest with
    | none => none
    | some (c, left) => (basic left).map fun (more, left) => (c :: more, left)
  | c :: rest => if isPlain c then (basic rest).map fun (more, left) => (c :: more, left) else none
termination_by text.length
decreasing_by
  · have := length_escaped _h
    simp
    omega
  · simp

/-- The rest of a literal string on one line, and its closing quote. -/
def literal : List Char → Option (List Char × List Char)
  | [] => none
  | '\'' :: rest => some ([], rest)
  | c :: rest =>
    if isPlain c then (literal rest).map fun (more, left) => (c :: more, left) else none

/-! ### Many lines -/

/-- The end of a string between triple quotes: up to two more quotes belong to it. -/
def ending (quote : Char) (text : List Char) : List Char × List Char :=
  let quotes := (text.take 2).takeWhile (· == quote)
  (quotes, text.drop quotes.length)

/-- Space and ends of lines, in any number. -/
def skipLines : List Char → List Char
  | '\n' :: rest => skipLines rest
  | '\r' :: '\n' :: rest => skipLines rest
  | c :: rest => if isSpace c then skipLines rest else c :: rest
  | [] => []

theorem length_skipLines (text : List Char) : (skipLines text).length ≤ text.length := by
  fun_induction skipLines text <;> grind

theorem length_newline {text rest : List Char} (h : newline text = some rest) :
    rest.length < text.length := by
  unfold newline at h
  split at h <;> grind

theorem length_skipSpace (text : List Char) : (skipSpace text).length ≤ text.length :=
  (List.dropWhile_sublist _).length_le

/-- The rest of a basic string on many lines. A line feed may be written with a carriage
return; a backslash at the end of a line hides the space up to the next word. -/
def basicLines (text : List Char) : Option (List Char × List Char) :=
  match text with
  | [] => none
  | '"' :: '"' :: '"' :: rest => some (ending '"' rest)
  | '\\' :: rest =>
    match _h : newline (skipSpace rest) with
    | some left => basicLines (skipLines left)
    | none =>
      match _h : escaped rest with
      | none => none
      | some (c, left) => (basicLines left).map fun (more, left) => (c :: more, left)
  | '\r' :: '\n' :: rest => (basicLines rest).map fun (more, left) => ('\n' :: more, left)
  | c :: rest =>
    if c = '\n' || isPlain c then (basicLines rest).map fun (more, left) => (c :: more, left)
    else none
termination_by text.length
decreasing_by
  · have := length_skipLines left
    have := length_newline _h
    have := length_skipSpace rest
    simp
    omega
  · have := length_escaped _h
    simp
    omega
  · simp only [List.length_cons]
    omega
  · simp

/-- The rest of a literal string on many lines. -/
def literalLines : List Char → Option (List Char × List Char)
  | [] => none
  | '\'' :: '\'' :: '\'' :: rest => some (ending '\'' rest)
  | '\r' :: '\n' :: rest => (literalLines rest).map fun (more, left) => ('\n' :: more, left)
  | c :: rest =>
    if c = '\n' || isPlain c then (literalLines rest).map fun (more, left) => (c :: more, left)
    else none

/-! ### Any string -/

/-- A line feed right after the opening triple quotes is not part of the string. -/
def opened (text : List Char) : List Char := (newline text).getD text

/-- A string, from its opening quotes. -/
def string (text : List Char) : Option (String × List Char) :=
  let found := match text with
    | '"' :: '"' :: '"' :: rest => basicLines (opened rest)
    | '\'' :: '\'' :: '\'' :: rest => literalLines (opened rest)
    | '"' :: rest => basic rest
    | '\'' :: rest => literal rest
    | _ => none
  found.map fun (content, left) => (String.ofList content, left)

end NetShell.Toml.Quoted
