/-! Byte strings and the numbers written in them.

Everything that crosses a connection is a list of bytes. Lengths on the wire are
written most significant byte first: `ofNat` writes a number in a fixed number of
bytes and `toNat` reads one back (`toNat_ofNat`). -/
namespace NetShell

/-- A byte string. -/
abbrev Bytes := List UInt8

namespace Bytes

/-- The UTF-8 bytes of a text. -/
def ofText (text : String) : Bytes := text.toList.flatMap String.utf8EncodeChar

/-! ### Numbers, most significant byte first -/

/-- How many numbers fit into so many bytes. -/
def capacity : (width : Nat) → Nat
  | 0 => 1
  | width + 1 => capacity width * 256

/-- The low `width` bytes of a number, most significant first. -/
def ofNat : (width n : Nat) → Bytes
  | 0, _ => []
  | width + 1, n => ofNat width (n / 256) ++ [UInt8.ofNat (n % 256)]

/-- The number a byte string spells, most significant byte first. -/
def toNat (data : Bytes) : Nat := data.foldl (fun n b => n * 256 + b.toNat) 0

@[simp] theorem length_ofNat (width n : Nat) : (ofNat width n).length = width := by
  induction width generalizing n with
  | zero => rfl
  | succ width ih => simp [ofNat, ih]

theorem toNat_concat (data : Bytes) (b : UInt8) :
    toNat (data ++ [b]) = toNat data * 256 + b.toNat := by
  simp [toNat]

/-- A number that fits into `width` bytes is read back from them. -/
theorem toNat_ofNat (width n : Nat) (h : n < capacity width) : toNat (ofNat width n) = n := by
  induction width generalizing n with
  | zero =>
    have : n = 0 := by simpa [capacity] using h
    simp [ofNat, toNat, this]
  | succ width ih =>
    have hq : n / 256 < capacity width := by
      rw [Nat.div_lt_iff_lt_mul (by decide)]
      exact h
    have hb : (UInt8.ofNat (n % 256)).toNat = n % 256 := by
      rw [UInt8.toNat_ofNat']
      omega
    rw [ofNat, toNat_concat, ih _ hq, hb]
    omega

end Bytes
end NetShell
