import NetShell.WebSocket.Mask
import NetShell.WebSocket.Violation

/-! WebSocket frames: reading what a client sends, writing what the server sends.

```text
 0                   1                   2                   3
+-+-+-+-+-------+-+-------------+-------------------------------+
|F|R|R|R| opcode|M| Payload len |    Extended payload length    |
|I|S|S|S|  (4)  |A|     (7)     |             (16/64)           |
|N|V|V|V|       |S|             |   (if payload len==126/127)   |
+-+-+-+-+-------+-+-------------+-------------------------------+
|     Masking-key (client frames only)  |    Payload Data ...   |
+---------------------------------------+-----------------------+
```

`Frame.parse` looks at the front of a buffer and takes nothing until a whole frame is
there. Each rule is checked as soon as its bytes are present: first the opcode, then
the length, then the mask bit. `Frame.header` is the front of a server frame, which is
final and not masked. -/
namespace NetShell.WebSocket

/-- What a frame is for. -/
inductive Opcode
  | continuation
  | text
  | binary
  | close
  | ping
  | pong
  | reserved (code : Nat)
  deriving DecidableEq, Repr

namespace Opcode

/-- The opcode of a number below sixteen. -/
def ofCode : Nat → Opcode
  | 0 => continuation
  | 1 => text
  | 2 => binary
  | 8 => close
  | 9 => ping
  | 10 => pong
  | code => reserved code

def code : Opcode → Nat
  | continuation => 0
  | text => 1
  | binary => 2
  | close => 8
  | ping => 9
  | pong => 10
  | reserved code => code

/-- The opcode in the low half of a frame's first byte. -/
def ofByte (b : UInt8) : Opcode := ofCode (b.toNat % 16)

def label : Opcode → String
  | continuation => "Continuation"
  | text => "Text"
  | binary => "Binary"
  | close => "Close"
  | ping => "Ping"
  | pong => "Pong"
  | reserved code => "Other(" ++ Text.decimal code ++ ")"

end Opcode

/-- A frame from a client, its payload unmasked. -/
structure Frame where
  opcode : Opcode
  final : Bool
  mask : Mask
  payload : Bytes
  deriving DecidableEq, Repr

/-- What stands at the front of a buffer. -/
inductive Parsed
  /-- a text, ping or pong frame, and how many bytes it took -/
  | complete (frame : Frame) (size : Nat)
  | incomplete
  | close
  | violation (cause : Violation)
  deriving DecidableEq, Repr

namespace Frame

/-- The largest payload length taken from a 64-bit length field, two to the fortieth. -/
def maxLength : Nat := 0x10000000000

/-- How many bytes extend the seven-bit length. -/
def extension (short : Nat) : Nat := if short = 126 then 2 else if short = 127 then 8 else 0

/-- The key and the payload, after the length field. -/
def parseBody (opcode : Opcode) (final : Bool) (length start : Nat) : Bytes → Parsed
  | k0 :: k1 :: k2 :: k3 :: rest =>
    let mask : Mask := ⟨k0, k1, k2, k3⟩
    let payload := rest.take length
    if payload.length < length then .incomplete
    else .complete ⟨opcode, final, mask, mask.apply .little payload⟩ (start + 4 + length)
  | _ => .incomplete

/-- The announced payload length: seven bits, or the bytes that extend them, if they are
all there. -/
def announced (b : UInt8) (rest : Bytes) : Option Nat :=
  let short := b.toNat % 128
  let field := rest.take (extension short)
  if field.length < extension short then none
  else some (if extension short = 0 then short else Bytes.toNat field)

/-- The length field and what follows, after the first byte. -/
def parseLength (opcode : Opcode) (final : Bool) : Bytes → Parsed
  | [] => .incomplete
  | b :: rest =>
    let wide := extension (b.toNat % 128)
    match announced b rest with
    | none => .incomplete
    | some length =>
      if wide = 8 ∧ maxLength < length then .violation (.oversizedFrame length)
      else if b.toNat < 128 then .violation .unmaskedFrame
      else parseBody opcode final length (2 + wide) (rest.drop wide)

/-- One client frame from the front of a buffer. -/
def parse : Bytes → Parsed
  | [] => .incomplete
  | b :: rest =>
    match Opcode.ofByte b with
    | .text => parseLength .text (128 ≤ b.toNat) rest
    | .ping => parseLength .ping (128 ≤ b.toNat) rest
    | .pong => parseLength .pong (128 ≤ b.toNat) rest
    | .close => .close
    | other => .violation (.unsupportedOpcode other.code)

/-- The front of a server frame: final, not masked, its length in the smallest form that
carries it. Only the low half of the opcode byte counts. -/
def header (opcode : UInt8) (length : Nat) : Bytes :=
  let first := 0x80 ||| (opcode &&& 0x0F)
  if length < 126 then [first, UInt8.ofNat length]
  else if length < 65536 then first :: 126 :: Bytes.ofNat 2 length
  else first :: 127 :: Bytes.ofNat 8 length

/-! ### A buffer full of frames -/

theorem size_of_parseBody {opcode : Opcode} {final : Bool} {length start size : Nat} {data : Bytes}
    {frame : Frame} (h : parseBody opcode final length start data = .complete frame size) :
    start + 4 ≤ size ∧ size ≤ start + data.length := by
  unfold parseBody at h
  split at h
  · dsimp only at h
    split at h
    · cases h
    · rename_i hl
      simp only [Parsed.complete.injEq] at h
      simp only [List.length_take, List.length_cons] at hl ⊢
      omega
  · cases h

theorem size_of_parseLength {opcode : Opcode} {final : Bool} {size : Nat} {data : Bytes}
    {frame : Frame} (h : parseLength opcode final data = .complete frame size) :
    6 ≤ size ∧ size ≤ data.length + 1 := by
  unfold parseLength at h
  split at h
  · cases h
  · rename_i b rest
    dsimp only at h
    split at h
    · cases h
    · rename_i length ha
      split at h
      · cases h
      · split at h
        · cases h
        · have hb := size_of_parseBody h
          have hf : ¬ (rest.take (extension (b.toNat % 128))).length <
              extension (b.toNat % 128) := by
            intro hlt
            unfold announced at ha
            rw [if_pos hlt] at ha
            cases ha
          simp only [List.length_take, List.length_drop, List.length_cons] at hf hb ⊢
          omega

/-- A complete frame takes at least six bytes, and no more than there are. -/
theorem size_of_parse {data : Bytes} {frame : Frame} {size : Nat}
    (h : parse data = .complete frame size) :
    6 ≤ size ∧ size ≤ data.length := by
  unfold parse at h
  split at h
  · cases h
  · split at h
    · exact size_of_parseLength h
    · exact size_of_parseLength h
    · exact size_of_parseLength h
    · cases h
    · cases h

/-- The frames at the front of a buffer, with the bytes each took, what comes after
them, and the bytes from there on. -/
def parseAll (data : Bytes) : List (Frame × Nat) × Parsed × Bytes :=
  match h : parse data with
  | .complete frame size =>
    have : data.length - size < data.length := by
      have := size_of_parse h
      omega
    let (frames, last, rest) := parseAll (data.drop size)
    ((frame, size) :: frames, last, rest)
  | other => ([], other, data)
termination_by data.length

end Frame
end NetShell.WebSocket
