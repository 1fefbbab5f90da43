import NetShell.Log.Filter

/-! A notice as a line of the log: its level, its message, and each field as a name, an
equals sign and a value. -/
namespace NetShell.Log

/-- A level in capital letters, as it begins a line. -/
def levelMark (level : Level) : String := level.label.toUpper

def fieldText : Field → String
  | .text value => value
  | .number value => Text.decimal value
  | .flag value => if value then "true" else "false"

/-- The line of a notice, without a line feed. -/
def line (n : Notice) : String :=
  String.intercalate " "
    (levelMark n.level :: n.message ::
      n.fields.map fun (name, value) => name ++ "=" ++ fieldText value)

/-- The lines of the notices that a filter lets through. -/
def lines (f : Filter) (notices : List Notice) : List String :=
  (notices.filter f.allows).map line

end NetShell.Log
