import NetShell.Log.Directive

/-! Which notices are written to the log.

A filter is a list of directives with commas between them. Of the directives that fit a
notice the most particular one decides, and of two that ask for the same the last; where
there are directives but none fits, nothing is written. -/
namespace NetShell.Log

structure Filter where
  directives : List Directive
  deriving DecidableEq, Repr

namespace Filter

/-! ### Reading -/

/-- Without directives, errors are written. -/
def ofDirectives (found : List Directive) : Filter :=
  ⟨if found.isEmpty then [{ rank := Level.error.rank }] else found⟩

/-- The directives of a text, still to be read. -/
def spelled (text : String) : List String := (text.splitOn ",").filter (· != "")

/-- The filter that a text spells, if all of it can be read. -/
def parse (text : String) : Except Refusal Filter := do
  pure (ofDirectives (← (spelled text).mapM Directive.parse))

/-- The filter that a text spells, without the directives that are malformed. -/
def lenient (text : String) : Except Refusal Filter := do
  let found ← (spelled text).mapM fun part =>
    match Directive.parse part with
    | .ok d => .ok (some d)
    | .error .malformed => .ok none
    | .error .torn => .error .torn
  pure (ofDirectives (found.filterMap id))

/-- The filter that the environment asks for, or else the one that is configured. -/
def choose (environment : Option String) (configured : String) : Except Refusal Filter :=
  match environment.map parse with
  | some (.ok f) => .ok f
  | some (.error .torn) => .error .torn
  | some (.error .malformed) | none => lenient configured

/-! ### Deciding -/

/-- The directive that decides on a notice. -/
def deciding? (f : Filter) (n : Notice) : Option Directive :=
  match f.directives.filter (·.fits n) with
  | [] => none
  | d :: rest => some (rest.foldl (fun best d => if best.outranks d then best else d) d)

/-- Whether a notice is written. -/
def allows (f : Filter) (n : Notice) : Bool := (f.deciding? n).any fun d => n.level.rank ≤ d.rank

end Filter
end NetShell.Log
