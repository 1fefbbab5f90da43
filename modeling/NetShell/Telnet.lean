import NetShell.Bytes

/-! Lines as a telnet client sends them.

A line ends at a newline, at an end of transmission (ctrl-D) and, once an IAC byte
has been seen in it, at the next byte that is not above `0xF0`: so ctrl-D and the
commands a telnet client sends on ctrl-C reach the shell at once instead of waiting
for a newline. The newline is dropped with one carriage return before it; every
other boundary byte stays in its line, for the shell to act on.

`boundary` finds where the first line of a buffer ends, `cut` takes it off, and
`remainder` is what an ended stream leaves. -/
namespace NetShell.Telnet

/-- Interpret As Command: what follows is for the terminal, not for the reader. -/
def iac : UInt8 := 0xFF
/-- Interrupt Process, what a client sends on ctrl-C. -/
def interrupt : UInt8 := 0xF4
/-- End of transmission, what a terminal sends on ctrl-D. -/
def eot : UInt8 := 0x04
def newline : UInt8 := 0x0A
def carriageReturn : UInt8 := 0x0D

/-- Whether a byte ends a line; `command` says that an IAC stands before or at it. -/
def ends (command : Bool) (b : UInt8) : Bool := b == newline || b == eot || (command && b ≤ 0xF0)

/-- The scan for a boundary, from a byte at `index`. -/
def scan (command : Bool) (index : Nat) : Bytes → Option Nat
  | [] => none
  | b :: rest =>
    let command := command || b == iac
    if ends command b then some index else scan command (index + 1) rest

/-- Where the first line of a buffer ends. -/
def boundary (buffer : Bytes) : Option Nat := scan false 0 buffer

/-- A line without a carriage return at its end. -/
def stripReturn (line : Bytes) : Bytes :=
  if line.getLast? = some carriageReturn then line.dropLast else line

/-- The line that ends at an index, and the buffer after it; nothing if the buffer does
not reach that far. -/
def cut (buffer : Bytes) (index : Nat) : Option (Bytes × Bytes) :=
  match buffer[index]? with
  | none => none
  | some b =>
    let line := buffer.take (if b = newline then index else index + 1)
    some (stripReturn line, buffer.drop (index + 1))

/-- What an ended stream leaves as a last line: nothing if it is only a carriage
return. -/
def remainder (buffer : Bytes) : Option Bytes :=
  let line := stripReturn buffer
  if line.isEmpty then none else some line

/-! ### Taking lines until none ends -/

theorem length_of_cut {buffer line rest : Bytes} {index : Nat}
    (h : cut buffer index = some (line, rest)) :
    index < buffer.length ∧ rest.length + index + 1 = buffer.length := by
  unfold cut at h
  split at h
  · cases h
  · rename_i b hb
    obtain ⟨hlt, -⟩ := List.getElem?_eq_some_iff.1 hb
    simp only [Option.some.injEq, Prod.mk.injEq] at h
    rw [← h.2, List.length_drop]
    exact ⟨hlt, by omega⟩

/-- The first line of a buffer and the buffer after it. -/
def next? (buffer : Bytes) : Option (Bytes × Bytes) := (boundary buffer).bind (cut buffer)

theorem length_of_next? {buffer line rest : Bytes} (h : next? buffer = some (line, rest)) :
    rest.length < buffer.length := by
  obtain ⟨index, -, hc⟩ := Option.bind_eq_some_iff.1 h
  have := length_of_cut hc
  omega

/-- The lines of a buffer, and what stays because no line ends in it. -/
def drain (buffer : Bytes) : List Bytes × Bytes :=
  match h : next? buffer with
  | none => ([], buffer)
  | some (line, rest) =>
    have := length_of_next? h
    let (lines, left) := drain rest
    (line :: lines, left)
termination_by buffer.length

end NetShell.Telnet
