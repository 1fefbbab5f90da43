/-! What a TOML document says: tables of named items.

A table can come about in three ways, and how it did decides whether a later statement
may add to it. `within` finds a table by its path, making those that are missing, and
changes it; everything that a statement can do to a document goes through it. -/
namespace NetShell.Toml

/-- How a table came about. -/
inductive Origin
  /-- it has a header of its own, or is an element of an array of tables -/
  | header
  /-- a header names a table inside it -/
  | implied
  /-- a dotted key names an item inside it -/
  | dotted
  deriving DecidableEq, Repr

/-- What a name stands for. -/
inductive Item
  | string (value : String)
  | integer (value : Int)
  | boolean (value : Bool)
  /-- a float; its value is not kept -/
  | float
  /-- a date, a time of day or both; which one is not kept -/
  | dateTime
  | array (items : List Item)
  /-- a table that was written as a value and is complete -/
  | inline (entries : List (String × Item))
  | table (origin : Origin) (entries : List (String × Item))
  /-- an array of tables, each begun by a header, the last one first -/
  | tables (elements : List (List (String × Item)))

/-- The names in a table and what they stand for, in the order in which they were given. -/
abbrev Entries := List (String × Item)

namespace Entries

/-- Give a name that is already there another item. -/
def replace (name : String) (item : Item) (entries : Entries) : Entries :=
  entries.map fun entry => if entry.1 = name then (name, item) else entry

/-- Give a new name an item. -/
def insert? (name : String) (item : Item) (entries : Entries) : Option Entries :=
  if (entries.lookup name).isSome then none else some (entries ++ [(name, item)])

/-- A new name stands for its item, and every other for what it stood for. -/
theorem lookup_of_insert? {name : String} {item : Item} {entries changed : Entries}
    (h : entries.insert? name item = some changed) (other : String) :
    changed.lookup other = if other = name then some item else entries.lookup other := by
  unfold insert? at h
  split at h
  · simp at h
  · rename_i hn
    cases h
    have hn : entries.lookup name = none := Option.not_isSome_iff_eq_none.1 hn
    by_cases ho : other = name
    · subst ho
      simp [List.lookup_append, hn]
    · have : (other == name) = false := beq_false_of_ne ho
      simp [List.lookup_append, List.lookup_cons, ho, this]

/-- Change the table at a path. Tables that are missing are made, as `made` says; of an
array of tables the last one is meant. A dotted key does not lead through a table with
a header of its own. -/
def within (made : Origin) (change : Origin → Entries → Option Entries) :
    (path : List String) → Origin → Entries → Option Entries
  | [], origin, entries => change origin entries
  | name :: path, _, entries =>
    match entries.lookup name with
    | none => do
      let inner ← within made change path made []
      pure (entries ++ [(name, .table made inner)])
    | some (.table origin inner) =>
      if made = .dotted ∧ origin = .header then none
      else do
        let inner ← within made change path origin inner
        pure (entries.replace name (.table origin inner))
    | some (.tables elements) => do
      let inner ← within made change path .header (elements.headD [])
      pure (entries.replace name (.tables (inner :: elements.tail)))
    | some _ => none

/-- A path's last name, and the names before it. -/
def splitLast : List String → Option (List String × String)
  | [] => none
  | path@(_ :: _) => path.getLast?.map fun last => (path.dropLast, last)

/-- Give a dotted key an item. The table it ends in was made by dotted keys, or the key
is a single name. -/
def assign? (path : List String) (item : Item) (origin : Origin) (entries : Entries) :
    Option Entries := do
  let (outer, name) ← splitLast path
  entries.within .dotted (fun origin inner =>
      if decide (origin = .dotted) = outer.isEmpty then none else inner.insert? name item)
    outer origin

/-- Begin a table: its name is new, or was implied. -/
def open? (path : List String) (entries : Entries) : Option Entries := do
  let (outer, name) ← splitLast path
  entries.within .implied (fun _ inner =>
    match inner.lookup name with
    | none => some (inner ++ [(name, .table .header [])])
    | some (.table .implied found) => some (inner.replace name (.table .header found))
    | some _ => none) outer .header

/-- Begin the next element of an array of tables. -/
def append? (path : List String) (entries : Entries) : Option Entries := do
  let (outer, name) ← splitLast path
  entries.within .implied (fun _ inner =>
    match inner.lookup name with
    | none => some (inner ++ [(name, .tables [[]])])
    | some (.tables elements) => some (inner.replace name (.tables ([] :: elements)))
    | some _ => none) outer .header

end Entries
end NetShell.Toml
