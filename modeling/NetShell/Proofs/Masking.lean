import Mathlib.Data.List.Rotate
import Mathlib.Data.Option.NAry
import NetShell.WebSocket.Mask

/-! Masking a word at a time is masking byte by byte.

A word of the payload and the key are packed in one and the same byte order, so their
combination is packed from the combined bytes (`ByteOrder.pack_xor`), and unpacking gives
those back whichever the order is (`ByteOrder.unpack_pack`). The bytes left over after the
last whole word start at an index that is a multiple of four, where the key starts again.
So `Mask.apply` follows the rule on bytes in either order (`Mask.apply_eq_byBytes`), and the
rule undoes itself.

When a payload is masked in two parts, the second starts where the key has got to after the
first: its key is the same one, turned to the left by the length of the first
(`Mask.byBytes_append`). `Mask.apply_by_index` says all of this of masking by words. -/
namespace NetShell.WebSocket

/-! ### Words -/

theorem append_xor_append (w x y z w' x' y' z' : BitVec 8) :
    (w ++ x ++ y ++ z) ^^^ (w' ++ x' ++ y' ++ z') = (w ^^^ w') ++ (x ^^^ x') ++ (y ^^^ y') ++
      (z ^^^ z') := by
  rw [BitVec.xor_append, BitVec.xor_append, BitVec.xor_append]

/-- The bytes of a word, least significant first. -/
theorem extract_append (w x y z : BitVec 8) :
    let word := w ++ x ++ y ++ z
    word.extractLsb' (8 * 0) 8 = z ∧ word.extractLsb' (8 * 1) 8 = y ∧
      word.extractLsb' (8 * 2) 8 = x ∧
      word.extractLsb' (8 * 3) 8 = w := by
  have hlast : ∀ {m : Nat} (u : BitVec m) (v : BitVec 8), (u ++ v).extractLsb' 0 8 = v := fun u v =>
    BitVec.extractLsb'_append_eq_right
  have hnext : ∀ {m : Nat} (u : BitVec m) (v : BitVec 8) (k : Nat),
      (u ++ v).extractLsb' (8 * (k + 1)) 8 = u.extractLsb' (8 * k) 8 := fun u v k =>
    BitVec.extractLsb'_append_eq_of_le (Nat.le_add_left 8 (8 * k))
  refine ⟨hlast .., ?_, ?_, ?_⟩
  · rw [hnext, hlast]
  · rw [hnext, hnext, hlast]
  · rw [hnext, hnext, hnext, BitVec.extractLsb'_eq_self]

namespace ByteOrder

variable (order : ByteOrder) (a b c d : UInt8)

theorem pack_xor (k0 k1 k2 k3 : UInt8) :
    order.pack a b c d ^^^ order.pack k0 k1 k2 k3 =
      order.pack (a ^^^ k0) (b ^^^ k1) (c ^^^ k2) (d ^^^ k3) := by
  cases order with
  | little => exact append_xor_append ..
  | big => exact append_xor_append ..

theorem unpack_pack : order.unpack (order.pack a b c d) = [a, b, c, d] := by
  cases order with
  | little =>
    obtain ⟨h0, h1, h2, h3⟩ := extract_append d.toBitVec c.toBitVec b.toBitVec a.toBitVec
    simp only [unpack, pack, h0, h1, h2, h3]
  | big =>
    obtain ⟨h0, h1, h2, h3⟩ := extract_append a.toBitVec b.toBitVec c.toBitVec d.toBitVec
    simp only [unpack, pack, h0, h1, h2, h3]

end ByteOrder

/-! ### Keys -/

namespace Mask

variable (key : Mask)

theorem getElem?_toList (i : Nat) : key.toList[i % 4]? = some (key.byte i) := by
  have hi : i % 4 < 4 := Nat.mod_lt i (by decide)
  unfold byte
  generalize i % 4 = place at hi ⊢
  match place, hi with
  | 0, _ | 1, _ | 2, _ | 3, _ => rfl

/-- The key turned to the left by `n` places, as it stands after `n` bytes. -/
def rotate (key : Mask) : Nat → Mask
  | 0 => key
  | n + 1 => rotate ⟨key.k1, key.k2, key.k3, key.k0⟩ n

theorem toList_rotate (n : Nat) : (key.rotate n).toList = key.toList.rotate n := by
  induction n generalizing key with
  | zero => exact (List.rotate_zero _).symm
  | succ n ih =>
    rw [rotate, ih, toList, toList, List.rotate_cons_succ]
    rfl

theorem byte_rotate (n i : Nat) : (key.rotate n).byte i = key.byte (i + n) := by
  -- both bytes are read off the lists, where a rotated index is known
  have hi : i % 4 < key.toList.length := Nat.mod_lt i (by decide)
  refine Option.some.inj ?_
  rw [← getElem?_toList, ← getElem?_toList, toList_rotate, List.getElem?_rotate hi]
  exact congrArg (key.toList[·]?) (Nat.mod_add_mod i 4 n)

/-! ### Payloads -/

@[simp] theorem byte_add_four (i : Nat) : key.byte (i + 4) = key.byte i := by
  simp only [byte, Nat.add_mod_right]

@[simp] theorem length_byBytes (data : Bytes) : (key.byBytes data).length = data.length :=
  List.length_mapIdx

theorem byBytes_word (a b c d : UInt8) (rest : Bytes) :
    key.byBytes (a :: b :: c :: d :: rest) =
      [a ^^^ key.k0, b ^^^ key.k1, c ^^^ key.k2, d ^^^ key.k3] ++ key.byBytes rest := by
  simp only [byBytes, List.mapIdx_cons, byte_add_four, Nat.add_assoc, List.cons_append,
    List.nil_append]
  rfl

/-- **A word at a time comes to the same as a byte at a time**, in either byte order. -/
theorem apply_eq_byBytes (order : ByteOrder) : ∀ data, key.apply order data = key.byBytes data
  | a :: b :: c :: d :: rest => by
    rw [apply, apply_eq_byBytes order rest, word, ByteOrder.pack_xor, ByteOrder.unpack_pack,
      byBytes_word]
  | [] | [_] | [_, _] | [_, _, _] => rfl

theorem getElem?_byBytes (data : Bytes) (i : Nat) :
    (key.byBytes data)[i]? = Option.map₂ (· ^^^ ·) data[i]? key.toList[i % 4]? := by
  rw [getElem?_toList, byBytes, List.getElem?_mapIdx]
  exact (Option.map₂_coe_right ..).symm

theorem byBytes_append (front back : Bytes) :
    key.byBytes (front ++ back) = key.byBytes front ++ (key.rotate front.length).byBytes back := by
  simp only [byBytes, List.mapIdx_append, byte_rotate]

/-- Masking twice with one key restores the payload. -/
theorem byBytes_byBytes (data : Bytes) : key.byBytes (key.byBytes data) = data := by
  refine List.ext_getElem (by simp only [length_byBytes]) fun i _ _ => ?_
  simp only [byBytes, List.getElem_mapIdx, UInt8.xor_assoc, UInt8.xor_self, UInt8.xor_zero]

/-- **Masking by words puts each byte together with the key byte of its index**, in either byte
order, and neither adds nor drops any. So it undoes itself, and a payload may be masked in two
parts if the key is turned by the length of the first. -/
theorem apply_by_index (order : ByteOrder) (key : Mask) :
    (∀ data, (key.apply order data).length = data.length ∧
      ∀ i : Nat, (key.apply order data)[i]? = Option.map₂ (· ^^^ ·) data[i]? key.toList[i % 4]?) ∧
    (∀ data, key.apply order (key.apply order data) = data) ∧
    ∀ front back, ∃ turned : Mask, turned.toList = key.toList.rotate (front.length % 4) ∧
      key.apply order (front ++ back) = key.apply order front ++ turned.apply order back := by
  simp only [apply_eq_byBytes]
  refine ⟨fun data => ⟨key.length_byBytes data, key.getElem?_byBytes data⟩, key.byBytes_byBytes,
    fun front back => ?_⟩
  have hturned : (key.rotate front.length).toList = key.toList.rotate (front.length % 4) :=
    (key.toList_rotate front.length).trans (List.rotate_mod key.toList front.length).symm
  exact ⟨key.rotate front.length, hturned, key.byBytes_append front back⟩

/-- One word and a byte left over, with the first byte of the word as its most significant. -/
example :
    apply .big ⟨0x37, 0xFA, 0x21, 0x3D⟩ [0x7F, 0x9F, 0x4D, 0x51, 0x58] = Bytes.ofText "Hello" := by
  decide

end Mask
end NetShell.WebSocket
