import NetShell.Connection.Notice
import NetShell.Log.Pattern

/-! Directives: which notices are written to the log, in words.

A directive is a level; or the beginning of a target's name; or a span of work and the
fields that are asked for, in brackets, with or without such a beginning before them.
After an equals sign the last two take a level; without one they let everything through.

Blanks before and after a directive are not looked at, but the places of its parts are
counted without the blanks before it and used with them. So a directive with blanks
before it does not say what it seems to, and where a part would begin or end inside a
character it cannot be dealt with at all. -/
namespace NetShell.Log

/-- What is asked of a field. -/
structure FieldRule where
  name : String
  /-- its value is asked for as well -/
  valued : Bool
  deriving DecidableEq, Repr

structure Directive where
  target : Option String := none
  span : Option String := none
  fields : List FieldRule := []
  /-- notices up to this rank are let through -/
  rank : Nat := Level.trace.rank
  deriving DecidableEq, Repr

/-- Why there is no directive. -/
inductive Refusal
  | malformed
  /-- a part begins or ends inside a character -/
  | torn
  deriving DecidableEq, Repr

/-- The rank that a level's number, or its name in letters of either case, stands for. -/
def rank? (text : String) : Option Nat :=
  match (Text.unsigned? 0x10000000000000000 text).filter (· ≤ Level.trace.rank) with
  | some rank => some rank
  | none =>
    match text.toLower with
    | "off" => some 0
    | "error" => some Level.error.rank
    | "warn" => some Level.warn.rank
    | "info" => some Level.info.rank
    | "debug" => some Level.debug.rank
    | "trace" => some Level.trace.rank
    | _ => none

/-- A field's name, or its name, an equals sign and a pattern for its value. -/
def FieldRule.parse (text : String) : Except Refusal FieldRule :=
  match text.splitOn "=" with
  | name :: value :: _ => if Pattern.isReadable value then .ok ⟨name, true⟩ else .error .malformed
  | _ => if text.isEmpty then .error .malformed else .ok ⟨text, false⟩

namespace Directive

/-! ### Reading -/

/-- Whether a character begins at a place among the bytes of a text, or the text ends. -/
def isBorder (data : Bytes) (i : Nat) : Bool := (data[i]?).all fun b => b < 0x80 || 0xC0 ≤ b

/-- The part of a text between two places. -/
def slice (data : Bytes) (first last : Nat) : Except Refusal String :=
  if isBorder data first && isBorder data last then .ok (Text.lossy ((data.take last).drop first))
  else .error .torn

/-- Where the reader of a directive is, and at which place the part began that it is in. -/
inductive Place
  | front
  /-- in a level or a target -/
  | word (first : Nat)
  | span (first : Nat)
  | field (first : Nat)
  /-- behind the fields -/
  | fields
  /-- behind the brackets -/
  | brackets
  | level (first : Nat)

/-- What may begin a level or a target. -/
def beginsWord (c : Char) : Bool := c == '-' || c == ':' || c == '_' || Text.isWordPart c

/-- The next character, which begins at the place `i`. -/
def step (data : Bytes) (p : Place) (d : Directive) (i : Nat) (c : Char) :
    Except Refusal (Place × Directive) :=
  match p with
  | .front =>
    if c = '[' then .ok (.span (i + 1), d)
    else if beginsWord c then .ok (.word i, d)
    else .error .malformed
  | .word first =>
    if c = '=' then do pure (.level (i + 1), { d with target := some (← slice data first i) })
    else if c = '[' then do pure (.span (i + 1), { d with target := some (← slice data first i) })
    else .ok (p, d)
  | .span first =>
    if c = ']' then do pure (.brackets, { d with span := some (← slice data first i) })
    else if c = '\x7b' then do
      let name ← slice data first i
      pure (.field (i + 1), { d with span := if name.isEmpty then none else some name })
    else .ok (p, d)
  | .field first =>
    if c = '\x7d' then do
      let rule ← FieldRule.parse (← slice data first i)
      pure (.fields, { d with fields := d.fields ++ [rule] })
    else .ok (p, d)
  | .fields => if c = ']' then .ok (.brackets, d) else .error .malformed
  | .brackets => if c = '=' then .ok (.level (i + 1), d) else .error .malformed
  | .level _ => .ok (p, d)

/-- The end of a directive. -/
def finish (data : Bytes) (p : Place) (d : Directive) : Except Refusal Directive :=
  match p with
  | .word first => do
    let word ← slice data first data.length
    pure <| match rank? word with
      | some rank => { d with rank }
      | none => { d with target := some word }
  | .level first => do
    let level ← slice data first data.length
    if level.isEmpty then pure d
    else match rank? level with
      | some rank => pure { d with rank }
      | none => .error .malformed
  | .brackets => .ok d
  | _ => .error .malformed

/-- The rest of a directive from the place `i` on. -/
def read (data : Bytes) (p : Place) (d : Directive) (i : Nat) : List Char → Except Refusal Directive
  | [] => finish data p d
  | c :: rest => do
    let (p, d) ← step data p d i c
    read data p d (i + c.utf8Size) rest

/-- The directive that a text spells. -/
def parse (text : String) : Except Refusal Directive :=
  read (Bytes.ofText text) .front {} 0 (Text.trim text).toList

/-! ### Deciding -/

/-- Whether a directive is about notices. One that names a span or asks for a value is
about spans of work; the program has none. -/
def isGeneral (d : Directive) : Bool := d.span.isNone && d.fields.all fun f => !f.valued

/-- Whether a directive fits a notice: the target's name begins as it says, and the
notice has the fields. -/
def fits (d : Directive) (n : Notice) : Bool :=
  d.isGeneral && (d.target.all fun t => t.toList.isPrefixOf n.target.toList) &&
    d.fields.all fun f => f.name == "message" || n.fields.any (·.1 == f.name)

/-- How much of a target's name a directive gives. -/
def reach (d : Directive) : Nat :=
  match d.target with
  | none => 0
  | some t => t.toList.length + 1

/-- Whether, of two directives that fit one notice, the first decides wherever the second
stands: it gives more of the target's name, or as much and more fields, or as many and
later names. -/
def outranks (first second : Directive) : Bool :=
  second.reach < first.reach || first.reach == second.reach &&
    (second.fields.length < first.fields.length || first.fields.length == second.fields.length &&
      decide (second.fields.map (·.name) < first.fields.map (·.name)))

end Directive
end NetShell.Log
