import NetShell.Bytes

/-! Reading bytes as UTF-8 text without ever failing.

A decoder takes one byte at a time. Between bytes it holds the characters it has
emitted and, inside a multi-byte character, which continuation bytes may follow.
A byte that cannot continue the character it is inside ends it: the bytes read of
it become one replacement character, and the byte is looked at afresh. So every
maximal prefix of a character that is not completed becomes one U+FFFD, and every
well-formed character is itself. -/
namespace NetShell.Text

/-- What stands for bytes that spell no character. -/
def replacement : Char := '\uFFFD'

/-- Inside a multi-byte character: how many bytes are missing, the range the next
one must lie in, and the value spelled so far. -/
structure Pending where
  missing : Nat
  low : Nat
  high : Nat
  value : Nat

/-- What a byte that is not ASCII may begin. The ranges of the second byte leave out
overlong spellings, surrogates and values past U+10FFFF. -/
def Pending.begin? (b : Nat) : Option Pending :=
  if b < 0xC2 then none
  else if b < 0xE0 then some ⟨1, 0x80, 0xBF, b - 0xC0⟩
  else if b = 0xE0 then some ⟨2, 0xA0, 0xBF, 0⟩
  else if b = 0xED then some ⟨2, 0x80, 0x9F, 0xD⟩
  else if b < 0xF0 then some ⟨2, 0x80, 0xBF, b - 0xE0⟩
  else if b = 0xF0 then some ⟨3, 0x90, 0xBF, 0⟩
  else if b < 0xF4 then some ⟨3, 0x80, 0xBF, b - 0xF0⟩
  else if b = 0xF4 then some ⟨3, 0x80, 0x8F, 4⟩
  else none

/-- The characters emitted, newest first, and the character being read. -/
structure Decoder where
  emitted : List Char := []
  pending : Option Pending := none

namespace Decoder

def emit (d : Decoder) (c : Char) : Decoder := ⟨c :: d.emitted, none⟩

/-- A byte between characters. -/
def start (d : Decoder) (b : UInt8) : Decoder :=
  if b.toNat < 0x80 then d.emit (Char.ofNat b.toNat)
  else match Pending.begin? b.toNat with
    | none => d.emit replacement
    | some p => { d with pending := some p }

/-- One byte. -/
def feed (d : Decoder) (b : UInt8) : Decoder :=
  match d.pending with
  | none => d.start b
  | some p =>
    if p.low ≤ b.toNat ∧ b.toNat ≤ p.high then
      let value := p.value * 64 + b.toNat % 64
      if p.missing = 1 then d.emit (Char.ofNat value)
      else { d with pending := some ⟨p.missing - 1, 0x80, 0xBF, value⟩ }
    else (d.emit replacement).start b

/-- The end of the bytes cuts the character being read. -/
def finish (d : Decoder) : List Char :=
  match d.pending with
  | none => d.emitted.reverse
  | some _ => (replacement :: d.emitted).reverse

end Decoder

/-- The text that bytes spell, with U+FFFD for what spells none. -/
def lossy (data : Bytes) : String := String.ofList (data.foldl Decoder.feed {}).finish

/-- The text that bytes spell, if they are well-formed UTF-8. -/
def strict? (data : Bytes) : Option String :=
  let text := lossy data
  if Bytes.ofText text = data then some text else none

end NetShell.Text
