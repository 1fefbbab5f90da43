import NetShell.Proofs.Pieces
import NetShell.Proofs.Segments

/-! Draining the lines of a buffer while bytes are appended to it.

The scan for a boundary keeps nothing between two looks at a buffer and starts from its front
each time. So it makes no difference when the bytes are appended, not within a command and not
between a carriage return and its newline: the lines and what stays are those of one draining
of all the bytes. Whatever leaves the buffer with a line, with what stays, is every byte there
was (`drained_in_pieces`). An IAC counts until the line it stands in ends, also in bytes that
come later, and no further. -/
namespace NetShell.Telnet
open Bytes

/-! ### The bytes that a line takes -/

/-- The first line of a buffer with the bytes that leave the buffer for it, and the buffer after
it. -/
def piece? (buffer : Bytes) : Option ((Bytes × Bytes) × Bytes) :=
  (next? buffer).map fun (line, rest) => ((buffer.take (buffer.length - rest.length), line), rest)

theorem piece?_eq_some_iff {buffer raw line rest : Bytes} :
    piece? buffer = some ((raw, line), rest) ↔ next? buffer = some (line, rest) ∧
      buffer = raw ++ rest := by
  constructor
  · intro h
    obtain ⟨⟨line', rest'⟩, hnext, heq⟩ := Option.map_eq_some_iff.1 h
    simp only [Prod.mk.injEq] at heq
    obtain ⟨⟨hraw, rfl⟩, rfl⟩ := heq
    obtain ⟨segment, -, hsplit, -⟩ := next?_eq_some_iff.1 hnext
    refine ⟨hnext, ?_⟩
    rw [← hraw, hsplit]
    simp
  · rintro ⟨hnext, rfl⟩
    simp [piece?, hnext]

theorem piece?_eq_none_iff {buffer : Bytes} : piece? buffer = none ↔ next? buffer = none :=
  Option.map_eq_none_iff

theorem length_of_piece? {buffer rest : Bytes} {piece : Bytes × Bytes}
    (h : piece? buffer = some (piece, rest)) :
    rest.length < buffer.length :=
  length_of_next? (piece?_eq_some_iff.1 h).1

/-- The lines of a buffer, each with the bytes that leave the buffer for it, and what stays
because no line ends in it. -/
def taken (buffer : Bytes) : List (Bytes × Bytes) × Bytes :=
  match h : piece? buffer with
  | none => ([], buffer)
  | some (piece, rest) =>
    have := length_of_piece? h
    let (pieces, left) := taken rest
    (piece :: pieces, left)
termination_by buffer.length

theorem drains_drain : Drains next? drain where
  shorter := length_of_next?
  stable := next?_append
  last h := by
    rw [drain]
    split <;> simp_all
  turn h := by
    rw [drain]
    split <;> simp_all

theorem drains_taken : Drains piece? taken where
  shorter := length_of_piece?
  stable h more := by
    obtain ⟨hnext, rfl⟩ := piece?_eq_some_iff.1 h
    exact piece?_eq_some_iff.2 ⟨next?_append hnext more, List.append_assoc ..⟩
  last h := by
    rw [taken]
    split <;> simp_all
  turn h := by
    rw [taken]
    split <;> simp_all

/-- The lines are those that the buffer is drained of. -/
theorem drain_eq_taken (buffer : Bytes) :
    drain buffer = ((taken buffer).1.map Prod.snd, (taken buffer).2) := by
  cases hn : piece? buffer with
  | none => rw [drains_drain.last (piece?_eq_none_iff.1 hn), drains_taken.last hn, List.map_nil]
  | some found =>
    obtain ⟨⟨raw, line⟩, rest⟩ := found
    have := length_of_piece? hn
    rw [drains_drain.turn (piece?_eq_some_iff.1 hn).1, drains_taken.turn hn, drain_eq_taken rest,
      List.map_cons]
termination_by buffer.length

/-- The bytes that leave a buffer are its segments. -/
theorem segmented_taken (buffer : Bytes) :
    Segmented buffer ((taken buffer).1.map Prod.fst) (taken buffer).2 := by
  cases hn : piece? buffer with
  | none =>
    rw [drains_taken.last hn]
    exact .tail (next?_eq_none_iff.1 (piece?_eq_none_iff.1 hn))
  | some found =>
    obtain ⟨⟨raw, line⟩, rest⟩ := found
    have := length_of_piece? hn
    obtain ⟨hnext, rfl⟩ := piece?_eq_some_iff.1 hn
    obtain ⟨segment, hsegment, heq, -⟩ := next?_eq_some_iff.1 hnext
    obtain rfl := List.append_cancel_right heq
    rw [drains_taken.turn hn]
    exact .cut hsegment (segmented_taken rest)
termination_by buffer.length

/-! ### A command that comes in two pieces -/

variable {front above : Bytes} {b : UInt8}

theorem Unended.concat (h : Unended front) (hb : ¬ Ended (front ++ [b])) :
    Unended (front ++ [b]) := by
  intro p hp
  rcases List.prefix_concat_iff.1 hp with rfl | hp
  · exact hb
  · exact h p hp

theorem Unended.isSegment (h : Unended front) (hb : Ended (front ++ [b])) :
    IsSegment (front ++ [b]) where
  ended := hb
  shortest p hp hended :=
    (List.prefix_concat_iff.1 hp).resolve_right fun hfront => h p hfront hended

/-- A byte above `0xF0` ends no line, whatever stands before it. -/
theorem not_ended_above (hb : 0xF0 < b) : ¬ Ended (front ++ [b]) := by
  rintro ⟨init, last, heq, hlast⟩
  obtain ⟨-, hsame⟩ := List.append_inj' heq rfl
  obtain rfl := List.singleton_inj.1 hsame
  rcases hlast with rfl | rfl | ⟨-, hle⟩
  · exact absurd hb (by decide)
  · exact absurd hb (by decide)
  · exact absurd hle (UInt8.not_le.2 hb)

theorem Unended.append_above (h : Unended front) (ha : ∀ c ∈ above, 0xF0 < c) :
    Unended (front ++ above) := by
  induction above generalizing front with
  | nil => rwa [List.append_nil]
  | cons c above ih =>
    rw [List.append_cons]
    exact ih (h.concat (not_ended_above (ha c (List.mem_cons_self ..)))) fun d hd =>
      ha d (List.mem_cons_of_mem c hd)

/-- A buffer in which no line ends keeps an IAC that is appended to it. -/
theorem drain_iac (h : Unended front) : drain (front ++ [iac]) = ([], front ++ [iac]) :=
  drains_drain.last (next?_eq_none_iff.2 (h.append_above (List.forall_mem_singleton.2 (by decide))))

/-- After an IAC the next byte that is not above `0xF0` ends the line, and the bytes after it are
drained as if there was nothing before them. -/
theorem drain_command (h : Unended front) (ha : ∀ c ∈ above, 0xF0 < c) (hb : b ≤ 0xF0)
    (more : Bytes) :
    drain (front ++ [iac] ++ (above ++ b :: more)) =
      (lineOf (front ++ iac :: above ++ [b]) :: (drain more).1, (drain more).2) := by
  have hopen : Unended (front ++ iac :: above) := by
    rw [List.append_cons]
    exact (h.append_above (List.forall_mem_singleton.2 (by decide))).append_above ha
  have hsegment : IsSegment (front ++ iac :: above ++ [b]) :=
    hopen.isSegment ⟨_, b, rfl, .inr (.inr ⟨by simp, hb⟩)⟩
  exact drains_drain.turn (next?_eq_some_iff.2 ⟨_, hsegment, by simp, rfl⟩)

/-- **However the bytes of a buffer are cut into pieces, draining it after each gives the lines and
leaves the bytes that draining all of them at once does**; the bytes that were taken for the lines
and those that stay are the bytes there were, and no line ends in what stays. An IAC at the end
of one piece makes a line end in the next, and the bytes after that end are drained as by
themselves. -/
theorem drained_in_pieces (pieces : List Bytes) :
    let data := pieces.flatten
    drainEach drain [] pieces = drain data ∧ drainEach taken [] pieces = taken data ∧
      drain data = ((taken data).1.map Prod.snd, (taken data).2) ∧
      ((taken data).1.map Prod.fst).flatten ++ (taken data).2 = data ∧
        boundary (taken data).2 = none ∧
      ∀ front above b more, (∀ c ∈ above, 0xF0 < c) → b ≤ 0xF0 →
        ∃ lines kept, drainEach drain [] (pieces ++ [front ++ [iac]]) = (lines, kept ++ [iac]) ∧
          drainEach drain [] (pieces ++ [front ++ [iac], above ++ b :: more]) =
            (lines ++ lineOf (kept ++ iac :: above ++ [b]) :: (drain more).1, (drain more).2) := by
  intro data
  obtain ⟨hsplit, hunended⟩ := (segmented_taken data).eq
  refine ⟨drains_drain.each rfl pieces, drains_taken.each rfl pieces, drain_eq_taken data,
    hsplit.symm, next?_eq_none_of_boundary.2 (next?_eq_none_iff.2 hunended),
    fun front above b more ha hb => ?_⟩
  let before := data ++ front
  have hkept : Unended (drain before).2 := next?_eq_none_iff.1 (drains_drain.idle before)
  have hfirst : drain (before ++ [iac]) = ((drain before).1, (drain before).2 ++ [iac]) := by
    rw [drains_drain.append, drain_iac hkept, List.append_nil]
  refine ⟨(drain before).1, (drain before).2, ?_, ?_⟩
  · rw [drains_drain.each rfl]
    simpa [before, data] using hfirst
  · rw [drains_drain.each rfl]
    have hsecond := drains_drain.append (before ++ [iac]) (above ++ b :: more)
    rw [hfirst, drain_command hkept ha hb] at hsecond
    simpa [before, data] using hsecond

/-- A client's interrupt comes cut after its second IAC, and the line before it between its carriage
return and its newline. -/
theorem drained_in_pieces_interrupted :
    let pieces : List Bytes := [[0x61, carriageReturn], [newline, 0x78]]
    let above : Bytes := [0xFD]
    (∀ c ∈ above, 0xF0 < c) ∧ (0x06 : UInt8) ≤ 0xF0 ∧
      drainEach drain [] (pieces ++ [[iac, interrupt] ++ [iac], above ++ 0x06 :: [0x79, newline]]) =
        ([[0x61], [0x78, iac, interrupt, iac, 0xFD, 0x06], [0x79]], []) := by
  intro pieces above
  have ha : ∀ c ∈ above, 0xF0 < c := List.forall_mem_singleton.2 (by decide)
  have hb : (0x06 : UInt8) ≤ 0xF0 := by decide
  obtain ⟨lines, kept, hfirst, hsecond⟩ :=
    (drained_in_pieces pieces).2.2.2.2.2 [iac, interrupt] above 0x06 [0x79, newline] ha hb
  have hbefore : drainEach drain [] (pieces ++ [[iac, interrupt] ++ [iac]]) =
      ([[0x61]], [0x78, iac, interrupt] ++ [iac]) := by
    decide +kernel
  rw [hbefore] at hfirst
  obtain ⟨rfl, hkept⟩ := Prod.mk.inj hfirst
  obtain rfl := List.append_cancel_right hkept
  have hafter : drain [0x79, newline] = ([[0x79]], []) := by decide +kernel
  rw [hafter] at hsecond
  exact ⟨ha, hb, hsecond⟩

end NetShell.Telnet
