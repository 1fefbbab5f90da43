import NetShell.WebSocket.Frame

/-! The frames at the front of a byte string do not depend on what follows.

What `Frame.parse` has made of a buffer, other than to wait, it makes of the buffer with
more bytes after it (`parse_append`): so a frame is the same frame whether the bytes after
it have arrived or not. `parseAll` takes the frames off one after another. -/
namespace NetShell.WebSocket.Frame

theorem parseBody_append {opcode : Opcode} {final : Bool} {length start : Nat} {data : Bytes}
    {p : Parsed} (h : parseBody opcode final length start data = p) (hp : p ≠ .incomplete)
    (more : Bytes) :
    parseBody opcode final length start (data ++ more) = p := by
  match data, h with
  | k0 :: k1 :: k2 :: k3 :: rest, h =>
    simp only [parseBody, List.cons_append] at h ⊢
    by_cases hshort : (rest.take length).length < length
    · rw [if_pos hshort] at h
      exact absurd h.symm hp
    · have hlen : length ≤ rest.length := by
        rw [List.length_take] at hshort
        omega
      rw [List.take_append_of_le_length hlen]
      exact h
  | [], h => exact absurd h.symm hp
  | [_], h => exact absurd h.symm hp
  | [_, _], h => exact absurd h.symm hp
  | [_, _, _], h => exact absurd h.symm hp

theorem announced_append {b : UInt8} {rest : Bytes} {length : Nat}
    (h : announced b rest = some length) (more : Bytes) :
    announced b (rest ++ more) = some length ∧ extension (b.toNat % 128) ≤ rest.length := by
  simp only [announced] at h ⊢
  by_cases hshort : (rest.take (extension (b.toNat % 128))).length < extension (b.toNat % 128)
  · rw [if_pos hshort] at h
    cases h
  · have hlen : extension (b.toNat % 128) ≤ rest.length := by
      rw [List.length_take] at hshort
      omega
    rw [List.take_append_of_le_length hlen]
    exact ⟨h, hlen⟩

theorem parseLength_append {opcode : Opcode} {final : Bool} {data : Bytes} {p : Parsed}
    (h : parseLength opcode final data = p) (hp : p ≠ .incomplete) (more : Bytes) :
    parseLength opcode final (data ++ more) = p := by
  cases data with
  | nil => exact absurd h.symm hp
  | cons b rest =>
    cases ha : announced b rest with
    | none =>
      simp only [parseLength, ha] at h
      exact absurd h.symm hp
    | some length =>
      obtain ⟨hmore, hlen⟩ := announced_append ha more
      simp only [parseLength, List.cons_append, ha, hmore] at h ⊢
      rw [List.drop_append_of_le_length hlen]
      split
      · rw [if_pos ‹_›] at h
        exact h
      · rw [if_neg ‹_›] at h
        split
        · rw [if_pos ‹_›] at h
          exact h
        · rw [if_neg ‹_›] at h
          exact parseBody_append h hp more

/-- **What stands at the front of a buffer stays, whatever follows.** -/
theorem parse_append {data : Bytes} {p : Parsed} (h : parse data = p) (hp : p ≠ .incomplete)
    (more : Bytes) :
    parse (data ++ more) = p := by
  cases data with
  | nil => exact absurd h.symm hp
  | cons b rest =>
    simp only [parse, List.cons_append] at h ⊢
    cases ho : Opcode.ofByte b with
    | text | ping | pong =>
      rw [ho] at h
      exact parseLength_append h hp more
    | _ =>
      rw [ho] at h
      exact h

theorem opcode_of_parseBody {opcode : Opcode} {final : Bool} {length start size : Nat}
    {data : Bytes} {f : Frame} (h : parseBody opcode final length start data = .complete f size) :
    f.opcode = opcode := by
  unfold parseBody at h
  split at h
  · dsimp only at h
    split at h
    · cases h
    · simp only [Parsed.complete.injEq] at h
      rw [← h.1]
  · cases h

theorem opcode_of_parseLength {opcode : Opcode} {final : Bool} {size : Nat} {data : Bytes}
    {f : Frame} (h : parseLength opcode final data = .complete f size) : f.opcode = opcode := by
  unfold parseLength at h
  split at h
  · cases h
  · dsimp only at h
    split at h
    · cases h
    · split at h
      · cases h
      · split at h
        · cases h
        · exact opcode_of_parseBody h

/-- A frame that is taken is a text, a ping or a pong. -/
theorem opcode_of_parse {data : Bytes} {f : Frame} {size : Nat}
    (h : parse data = .complete f size) :
    f.opcode = .text ∨ f.opcode = .ping ∨ f.opcode = .pong := by
  unfold parse at h
  split at h
  · cases h
  · split at h
    · exact .inl (opcode_of_parseLength h)
    · exact .inr (.inl (opcode_of_parseLength h))
    · exact .inr (.inr (opcode_of_parseLength h))
    · cases h
    · cases h

theorem parseAll_complete {data : Bytes} {f : Frame} {size : Nat}
    (h : parse data = .complete f size) :
    parseAll data = ((f, size) :: (parseAll (data.drop size)).1,
      (parseAll (data.drop size)).2) := by
  rw [parseAll]
  split
  · rename_i f' size' h'
    rw [h] at h'
    cases h'
    rfl
  · rename_i hother
    exact absurd h (hother f size)

theorem parseAll_other {data : Bytes} (h : ∀ f size, parse data ≠ .complete f size) :
    parseAll data = ([], parse data, data) := by
  rw [parseAll]
  split
  · exact absurd ‹_› (h _ _)
  · rfl

/-- The frame at the front of a buffer comes first, whatever follows it. -/
theorem parseAll_append {data : Bytes} {f : Frame} {size : Nat} (h : parse data = .complete f size)
    (more : Bytes) :
    parseAll (data ++ more) =
      ((f, size) :: (parseAll (data.drop size ++ more)).1,
        (parseAll (data.drop size ++ more)).2) := by
  have hmore := parse_append h (by simp) more
  rw [parseAll_complete hmore, List.drop_append_of_le_length (size_of_parse h).2]

end NetShell.WebSocket.Frame
