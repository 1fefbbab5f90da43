import Mathlib.Data.List.Induction
import Mathlib.Order.Bounds.Defs
import NetShell.Proofs.Grammar

/-! Headers and the lengths that are read back from them.

A client can make its frames with the server's own header: it sets the mask bit, and the key
and the masked payload follow (`Frame.fromClient`). The header's length field announces the
length that the header was made for, and no shorter field does (`Frame.header_announces`,
`Frame.header_least`). So such a frame comes back as it was made whatever comes after it, unless
it is too long; then the front of it is enough to have it refused (`Frame.parse_fromClient`). -/
namespace NetShell

/-- A byte string spells a number for which it has room. -/
theorem Bytes.toNat_lt_capacity (data : Bytes) : Bytes.toNat data < Bytes.capacity data.length := by
  induction data using List.reverseRecOn with
  | nil => exact Nat.zero_lt_one
  | append_singleton data b ih =>
    have hb := b.toNat_lt
    rw [Bytes.toNat_concat, List.length_append, List.length_singleton, Bytes.capacity]
    omega

namespace WebSocket.Frame

variable {opcode : UInt8} {length : Nat}

/-! ### Bits -/

theorem toNat_mark {b : UInt8} (hb : b.toNat < 128) : (0x80 ||| b).toNat = 128 + b.toNat := by
  have hsum := Nat.two_pow_add_eq_or_of_lt (i := 7) hb 1
  rw [UInt8.toNat_or]
  exact hsum.symm

theorem toNat_low (b : UInt8) : (b &&& 0x0F).toNat = b.toNat % 16 := by
  rw [UInt8.toNat_and]
  exact Nat.and_two_pow_sub_one_eq_mod b.toNat 4

/-- The first byte of a header: the final bit, and the low half of the opcode byte. -/
theorem toNat_first (opcode : UInt8) :
    (0x80 ||| (opcode &&& 0x0F)).toNat = 128 + opcode.toNat % 16 := by
  have hlow := toNat_low opcode
  rw [toNat_mark (by omega), hlow]

/-! ### Headers -/

/-- A length field of a header of some size can announce a length. -/
def Carries (size length : Nat) : Prop :=
  ∃ second field, Announces second field length ∧ size = 2 + field.length

theorem length_header (opcode : UInt8) (length : Nat) :
    (header opcode length).length = if length < 126 then 2 else if length <
      65536 then 4 else 10 := by
  simp only [header]
  split
  · rfl
  · split <;> simp

/-- A header announces the length that it is made for. -/
theorem header_announces (opcode : UInt8) (h : length < 1 <<< 64) :
    ∃ second field, header opcode length = (0x80 ||| (opcode &&& 0x0F)) :: second :: field ∧
      second.toNat < 128 ∧ Announces second field length := by
  by_cases hshort : length < 126
  · have hsecond : (UInt8.ofNat length).toNat = length := by
      rw [UInt8.toNat_ofNat']
      omega
    have hsmall : (UInt8.ofNat length).toNat % 128 = length := by omega
    refine ⟨UInt8.ofNat length, [], by rw [header, if_pos hshort], by omega, ?_⟩
    have hannounces : Announces (UInt8.ofNat length) [] ((UInt8.ofNat length).toNat % 128) :=
      .short (by omega)
    rwa [hsmall] at hannounces
  · by_cases hmiddle : length < 65536
    · refine ⟨126, Bytes.ofNat 2 length,
        by rw [header, if_neg hshort, if_pos hmiddle], by decide, ?_⟩
      have hannounces : Announces 126 (Bytes.ofNat 2 length) _ :=
        .middle rfl (Bytes.length_ofNat ..)
      rwa [Bytes.toNat_ofNat 2 length hmiddle] at hannounces
    · refine ⟨127, Bytes.ofNat 8 length,
        by rw [header, if_neg hshort, if_neg hmiddle], by decide, ?_⟩
      have hannounces : Announces 127 (Bytes.ofNat 8 length) _ := .long rfl (Bytes.length_ofNat ..)
      rwa [Bytes.toNat_ofNat 8 length h] at hannounces

/-- What each length field has room for. -/
theorem Announces.room {second : UInt8} {field : Bytes} (h : Announces second field length) :
    field.length = 0 ∧ length < 126 ∨ field.length = 2 ∧ length < 65536 ∨ field.length = 8 := by
  cases h with
  | short h => exact .inl ⟨rfl, h⟩
  | middle _ hlen =>
    have hroom := Bytes.toNat_lt_capacity field
    rw [hlen] at hroom
    exact .inr (.inl ⟨hlen, hroom⟩)
  | long _ hlen => exact .inr (.inr hlen)

/-- No header that can carry a length is shorter than the one that is made for it. -/
theorem header_least (opcode : UInt8) {size : Nat} (h : Carries size length) :
    (header opcode length).length ≤ size := by
  obtain ⟨second, field, hannounces, rfl⟩ := h
  rw [length_header]
  rcases hannounces.room with ⟨hlen, hroom⟩ | ⟨hlen, hroom⟩ | hlen
  · rw [if_pos hroom]
    omega
  · split <;> omega
  · split
    · omega
    · split <;> omega

/-- Of all headers that can carry a length, the one that is made for it is the shortest. -/
theorem isLeast_header (opcode : UInt8) (h : length < 1 <<< 64) :
    IsLeast {size ∈ ({2, 4, 10} : Set Nat) | Carries size length}
      (header opcode length).length := by
  obtain ⟨second, field, hheader, -, hannounces⟩ := header_announces opcode h
  refine ⟨⟨?_, second, field, hannounces,
    by rw [hheader, List.length_cons, List.length_cons]; omega⟩,
    fun size hsize => header_least opcode hsize.2⟩
  rw [length_header]
  split
  · exact .inl rfl
  · split
    · exact .inr (.inl rfl)
    · exact .inr (.inr rfl)

/-- A length field announces one length only. -/
theorem Announces.unique {second : UInt8} {field : Bytes} {n m : Nat}
    (hn : Announces second field n) (hm : Announces second field m) : n = m := by
  have h := announced_of_announces hn []
  rw [announced_of_announces hm []] at h
  exact (Option.some.inj h).symm

/-! ### Frames made with a header -/

/-- A header with the mask bit set. -/
def markedHeader (opcode : UInt8) (length : Nat) : Bytes :=
  (header opcode length).modify 1 (0x80 ||| ·)

/-- A frame as a client makes it with a header of the server: the payload is masked. -/
def fromClient (opcode : UInt8) (key : Mask) (payload : Bytes) : Bytes :=
  markedHeader opcode payload.length ++ key.toList ++ key.byBytes payload

theorem markedHeader_announces (opcode : UInt8) (h : length < 1 <<< 64) :
    ∃ second field, markedHeader opcode length = (0x80 ||| (opcode &&& 0x0F)) :: second :: field ∧
      128 ≤ second.toNat ∧ Announces second field length := by
  obtain ⟨second, field, hheader, hsecond, hannounces⟩ := header_announces opcode h
  have hmark := toNat_mark hsecond
  refine ⟨0x80 ||| second, field, ?_, by omega, hannounces.congr (by omega)⟩
  rw [markedHeader, hheader]
  rfl

theorem Served.congr {first first' : UInt8} {kind : Opcode}
    (hsame : first'.toNat % 16 = first.toNat % 16) (h : Served first kind) :
    Served first' kind := by
  cases h with
  | text h => exact .text (hsame.trans h)
  | ping h => exact .ping (hsame.trans h)
  | pong h => exact .pong (hsame.trans h)

variable {kind : Opcode}

theorem Served.header (h : Served opcode kind) : Served (0x80 ||| (opcode &&& 0x0F)) kind :=
  h.congr (by rw [toNat_first]; omega)

theorem written_fromClient (h : Served opcode kind) (key : Mask) {payload : Bytes}
    (hlen : payload.length ≤ 1 <<< 40) :
    Written (fromClient opcode key payload) ⟨kind, true, key, payload⟩
      (fromClient opcode key payload).length := by
  obtain ⟨second, field, hheader, hmask, hannounces⟩ :=
    markedHeader_announces opcode (Nat.lt_of_le_of_lt hlen (by decide))
  have hw :=
    Written.frame key h.header hmask hannounces (fun _ => hlen) (key.length_byBytes payload)
  have hfinal : decide (128 ≤ (0x80 ||| (opcode &&& 0x0F)).toNat) = true := by
    rw [toNat_first]
    exact decide_eq_true (Nat.le_add_right ..)
  rw [← hheader, key.byBytes_byBytes, hfinal] at hw
  exact hw.length.symm ▸ hw

/-- **A frame made with a header comes back as it was made**, whatever comes after it, and if it
is too long its header is enough to have it refused. The header is the shortest that can carry
its length, and announces no other. -/
theorem parse_fromClient (h : Served opcode kind) (key : Mask) :
    (∀ payload rest : Bytes, payload.length ≤ 1 <<< 40 →
      parse (fromClient opcode key payload ++ rest) =
        .complete ⟨kind, true, key, payload⟩ (fromClient opcode key payload).length) ∧
    (∀ (length : Nat) (rest : Bytes), 1 <<< 40 < length → length < 1 <<< 64 →
      parse (markedHeader opcode length ++ rest) = .violation (.oversizedFrame length)) ∧
    ∀ length : Nat, length < 1 <<< 64 →
      IsLeast {size ∈ ({2, 4, 10} : Set Nat) | Carries size length} (header opcode length).length ∧
      ∃ first second field, header opcode length = first :: second :: field ∧
        ∀ n, Announces second field n ↔ n = length := by
  refine ⟨fun payload rest hlen => ?_, fun length rest hover hlen => ?_, fun length hlen => ?_⟩
  · exact (Verdict.complete (written_fromClient h key hlen)).parse_eq
  · obtain ⟨second, field, hheader, -, hannounces⟩ := markedHeader_announces opcode hlen
    have hwide : field.length = 8 := by
      rcases hannounces.room with ⟨-, hroom⟩ | ⟨-, hroom⟩ | hwide
      · omega
      · omega
      · exact hwide
    rw [hheader]
    exact (Verdict.oversized h.header hannounces hwide hover).parse_eq
  · obtain ⟨second, field, hheader, -, hannounces⟩ := header_announces opcode hlen
    exact ⟨isLeast_header opcode hlen, _, second, field, hheader, fun n =>
      ⟨fun hn => hn.unique hannounces, fun hn => hn ▸ hannounces⟩⟩

/-- A ping of three bytes with more after it, a length that is one too large, and the smallest
length that takes eight bytes. -/
theorem parse_fromClient_ping :
    let key : Mask := ⟨0x37, 0xFA, 0x21, 0x3D⟩
    Served 0x39 .ping ∧ ([1, 2, 3] : Bytes).length ≤ 1 <<< 40 ∧
      parse (fromClient 0x39 key [1, 2, 3] ++ [0x88, 0x80]) =
        .complete ⟨.ping, true, key, [1, 2, 3]⟩ (fromClient 0x39 key [1, 2, 3]).length ∧
      1 <<< 40 < (1 <<< 40) + 1 ∧ (1 <<< 40) + 1 < 1 <<< 64 ∧
      parse (markedHeader 0x39 ((1 <<< 40) + 1) ++ [0]) =
        .violation (.oversizedFrame ((1 <<< 40) + 1)) ∧
      65536 < 1 <<< 64 ∧
      IsLeast {size ∈ ({2, 4, 10} : Set Nat) | Carries size 65536} (header 0x39 65536).length ∧
      ∃ first second field, header 0x39 65536 = first :: second :: field ∧
        ∀ n, Announces second field n ↔ n = 65536 := by
  intro key
  have hserved : Served 0x39 .ping := .ping rfl
  obtain ⟨hcomplete, hover, hheader⟩ := parse_fromClient hserved key
  have hsmall : ([1, 2, 3] : Bytes).length ≤ 1 <<< 40 := by decide
  exact ⟨hserved, hsmall, hcomplete _ _ hsmall,
    by decide, by decide, hover _ _ (by decide) (by decide), by decide,
    hheader _ (by decide)⟩

end WebSocket.Frame
end NetShell
