import NetShell.Toml.Document

/-! The configuration file.

A file has three sections, each a table of settings under fixed names. A section may
also be given as an array of its settings in their order. Names that mean nothing here
are passed over; a setting of the wrong type makes the file wrong. -/
namespace NetShell

/-- The settings that a file makes. -/
structure FileSettings where
  console : Option String := none
  websocket : Option String := none
  maxConnections : Option Nat := none
  readBuffer : Option Nat := none
  prompt : Option String := none
  logLevel : Option String := none
  deriving DecidableEq, Repr

namespace FileSettings
open Toml

/-- A section's items by name or by place. A date stands for a table of none. -/
inductive Section
  | named (entries : Entries)
  | placed (items : List Item)

def Section.ofItem? : Item → Option Section
  | .table _ entries | .inline entries => some (.named entries)
  | .array items => some (.placed items)
  | .tables elements => some (.placed (elements.reverse.map (.table .header)))
  | .dateTime => some (.named [])
  | _ => none

/-- The item with a name, which in a section given as an array has a place. -/
def Section.item? (s : Section) (name : String) (place : Nat) : Option Item :=
  match s with
  | .named entries => entries.lookup name
  | .placed items => items[place]?

/-- A setting that a section makes or not: `none` if it is of the wrong type. -/
def Section.setting {α : Type} (read : Item → Option α) (s : Section) (name : String)
    (place : Nat) : Option (Option α) :=
  match s.item? name place with
  | none => some none
  | some item => (read item).map some

def text? : Item → Option String
  | .string value => some value
  | _ => none

def count? : Item → Option Nat
  | .integer (.ofNat n) => some n
  | _ => none

/-- A document's section, without items if it is missing. -/
def sectionOf (document : Entries) (name : String) : Option Section :=
  match document.lookup name with
  | none => some (.named [])
  | some item => Section.ofItem? item

/-- The settings that a document makes. -/
def ofDocument? (document : Entries) : Option FileSettings := do
  let server ← sectionOf document "server"
  let console ← server.setting text? "console" 0
  let websocket ← server.setting text? "websocket" 1
  let maxConnections ← server.setting count? "max_connections" 2
  let readBuffer ← server.setting count? "read_buffer" 3
  let shell ← sectionOf document "shell"
  let prompt ← shell.setting text? "prompt" 0
  let logging ← sectionOf document "logging"
  let logLevel ← logging.setting text? "level" 0
  pure { console, websocket, maxConnections, readBuffer, prompt, logLevel }

/-- The settings that a file's text makes. -/
def parse? (text : String) : Option FileSettings := do
  let document ← Toml.parse? text
  ofDocument? document

end FileSettings
end NetShell
