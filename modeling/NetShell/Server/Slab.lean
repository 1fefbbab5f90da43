/-! A table with keys of its own.

A value put in gets a key: the key freed last, or the next one never used. So keys stay
small, and a key that was freed may come to stand for another value. -/
namespace NetShell

structure Slab (α : Type) where
  /-- what stands at each key used so far -/
  slots : List (Option α) := []
  /-- the freed keys, the one freed last first -/
  vacant : List Nat := []

namespace Slab

variable {α : Type}

/-- The entries with their keys, in the order of the keys. -/
def entries (s : Slab α) : List (Nat × α) :=
  s.slots.zipIdx.filterMap fun (slot, key) => slot.map (key, ·)

/-- The values in the order of their keys. -/
def toList (s : Slab α) : List α := s.slots.filterMap id

def size (s : Slab α) : Nat := s.toList.length

def get? (s : Slab α) (key : Nat) : Option α := (s.slots[key]?).join

/-- Put a value in; says its key. -/
def insert (s : Slab α) (a : α) : Nat × Slab α :=
  match s.vacant with
  | key :: vacant => (key, { slots := s.slots.set key (some a), vacant })
  | [] => (s.slots.length, { s with slots := s.slots ++ [some a] })

/-- Free a key. A key that stands for nothing stays as it is. -/
def erase (s : Slab α) (key : Nat) : Slab α :=
  match s.get? key with
  | none => s
  | some _ => { slots := s.slots.set key none, vacant := key :: s.vacant }

end Slab
end NetShell
