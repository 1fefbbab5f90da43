import NetShell.Bytes

/-! Masking of client payloads.

The rule is on bytes: byte `i` is combined with byte `i mod 4` of a four-byte key
(`byBytes`). Payloads are unmasked four bytes at a time, as one word, with the bytes
left over after the last whole word done singly (`apply`); the words are packed in the
byte order of the host. -/
namespace NetShell.WebSocket

/-- Which byte of a word is the least significant. -/
inductive ByteOrder
  | little
  | big
  deriving DecidableEq, Repr

/-- A masking key. -/
structure Mask where
  k0 : UInt8
  k1 : UInt8
  k2 : UInt8
  k3 : UInt8
  deriving DecidableEq, Repr

/-- Four bytes as one word. -/
def ByteOrder.pack : ByteOrder → UInt8 → UInt8 → UInt8 → UInt8 → BitVec 32
  | little, a, b, c, d => d.toBitVec ++ c.toBitVec ++ b.toBitVec ++ a.toBitVec
  | big, a, b, c, d => a.toBitVec ++ b.toBitVec ++ c.toBitVec ++ d.toBitVec

/-- The four bytes of a word. -/
def ByteOrder.unpack (order : ByteOrder) (w : BitVec 32) : Bytes :=
  let b := fun i => UInt8.ofBitVec (w.extractLsb' (8 * i) 8)
  match order with
  | little => [b 0, b 1, b 2, b 3]
  | big => [b 3, b 2, b 1, b 0]

namespace Mask

def toList (key : Mask) : Bytes := [key.k0, key.k1, key.k2, key.k3]

/-- The key byte for an index. -/
def byte (key : Mask) (i : Nat) : UInt8 :=
  match i % 4 with
  | 0 => key.k0
  | 1 => key.k1
  | 2 => key.k2
  | _ => key.k3

/-- The rule: each byte with the key byte for its index. -/
def byBytes (key : Mask) (data : Bytes) : Bytes := data.mapIdx fun i b => b ^^^ key.byte i

/-- The key as a word. -/
def word (order : ByteOrder) (key : Mask) : BitVec 32 := order.pack key.k0 key.k1 key.k2 key.k3

/-- Masking, or unmasking, a word at a time. -/
def apply (order : ByteOrder) (key : Mask) : Bytes → Bytes
  | a :: b :: c :: d :: rest =>
    order.unpack (order.pack a b c d ^^^ key.word order) ++ apply order key rest
  | rest => List.zipWith (· ^^^ ·) rest key.toList

end Mask
end NetShell.WebSocket
