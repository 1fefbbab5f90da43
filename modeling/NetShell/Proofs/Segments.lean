import Mathlib.Data.List.Basic
import NetShell.Telnet

/-! The lines of a byte string, as a client means them.

A *segment* is the shortest prefix whose last byte ends a line: a newline, an end of
transmission, or a byte not above `0xF0` with an IAC somewhere before it. A byte string is
cut into segments from its front (`Segmented`), in one way only; the tail that remains has
no segment. Nothing here runs the scanner. What it finds are the segments
(`next?_eq_some_iff`, `next?_eq_none_iff`), so a line that has been found stays the same
whatever follows it (`next?_append`). -/
namespace NetShell.Telnet

/-- The last byte ends a line. -/
def Ended (s : Bytes) : Prop :=
  ∃ front b, s = front ++ [b] ∧ (b = newline ∨ b = eot ∨ (iac ∈ front ∧ b ≤ 0xF0))

/-- A byte string that ends a line and no part of which, from its front, does. -/
structure IsSegment (s : Bytes) : Prop where
  ended : Ended s
  shortest : ∀ p, p <+: s → Ended p → p = s

/-- No line ends in a byte string. -/
def Unended (s : Bytes) : Prop := ∀ p, p <+: s → ¬ Ended p

/-- A byte string as segments and a tail. -/
inductive Segmented : Bytes → List Bytes → Bytes → Prop
  | tail {tail : Bytes} : Unended tail → Segmented tail [] tail
  | cut {segment rest tail : Bytes} {segments : List Bytes} : IsSegment segment →
      Segmented rest segments tail → Segmented (segment ++ rest) (segment :: segments) tail

/-- The line of a segment: without a newline at its end, and then without a carriage
return. -/
def lineOf (segment : Bytes) : Bytes :=
  stripReturn (if segment.getLast? = some newline then segment.dropLast else segment)

/-- What a tail counts for once nothing follows it: nothing if it is at most a carriage
return. -/
def lastLine (tail : Bytes) : List Bytes := if stripReturn tail = [] then [] else [stripReturn tail]

/-- The segments and the tail are all there is, and no line ends in the tail. -/
theorem Segmented.eq {s tail : Bytes} {segments : List Bytes} (h : Segmented s segments tail) :
    s = segments.flatten ++ tail ∧ Unended tail := by
  induction h with
  | tail hu => exact ⟨rfl, hu⟩
  | cut _ _ ih =>
    obtain ⟨rfl, hu⟩ := ih
    exact ⟨by rw [List.flatten_cons, List.append_assoc], hu⟩

/-! ### Ends of lines -/

/-- Two segments at the front of one byte string are the same. -/
theorem IsSegment.unique {s t u : Bytes} (hs : IsSegment s) (ht : IsSegment t) (hu : s <+: u)
    (hu' : t <+: u) :
    s = t := by
  rcases List.prefix_or_prefix_of_prefix hu hu' with h | h
  · exact ht.shortest s h hs.ended
  · exact (hs.shortest t h ht.ended).symm

/-- **A byte string is cut in one way only.** -/
theorem Segmented.unique {s tail tail' : Bytes} {segments segments' : List Bytes}
    (h : Segmented s segments tail) (h' : Segmented s segments' tail') :
    segments = segments' ∧ tail = tail' := by
  induction h generalizing segments' tail' with
  | tail hu =>
    cases h' with
    | tail => exact ⟨rfl, rfl⟩
    | cut hs => exact absurd hs.ended (hu _ (List.prefix_append ..))
  | @cut segment rest tail segments hs hr ih =>
    generalize he : segment ++ rest = s at h'
    cases h' with
    | tail hu => exact absurd hs.ended (hu _ (he ▸ List.prefix_append ..))
    | @cut segment' rest' _ segments' hs' hr' =>
      have hsame : segment = segment' :=
        hs.unique hs' (List.prefix_append segment rest) (he ▸ List.prefix_append ..)
      subst hsame
      obtain rfl := List.append_cancel_left he
      obtain ⟨rfl, rfl⟩ := ih hr'
      exact ⟨rfl, rfl⟩

theorem Segmented.append {s rest tail : Bytes} {segments : List Bytes} (done : List Bytes)
    (hd : ∀ segment ∈ done, IsSegment segment) (hs : s = done.flatten ++ rest)
    (h : Segmented rest segments tail) :
    Segmented s (done ++ segments) tail := by
  subst hs
  induction done with
  | nil => exact h
  | cons segment done ih =>
    rw [List.flatten_cons, List.append_assoc]
    exact .cut (hd _ (List.mem_cons_self ..)) (ih fun t ht => hd t (List.mem_cons_of_mem _ ht))

/-! ### The scanner finds the segments -/

/-- The last byte ends a line; `command` says that an IAC stands before the byte string. -/
def EndedAfter (command : Bool) (s : Bytes) : Prop :=
  ∃ front b, s = front ++ [b] ∧
    (b = newline ∨ b = eot ∨ ((command = true ∨ iac ∈ front) ∧ b ≤ 0xF0))

theorem endedAfter_false {s : Bytes} : EndedAfter false s ↔ Ended s := by
  simp [EndedAfter, Ended]

theorem endedAfter_singleton {command : Bool} {b : UInt8} :
    EndedAfter command [b] ↔ ends (command || b == iac) b = true := by
  have hiac : b = iac → ¬ b ≤ 0xF0 := by
    rintro rfl
    decide
  constructor
  · rintro ⟨front, b', he, h⟩
    obtain ⟨rfl, rfl⟩ : front = [] ∧ b' = b := by
      have hsplit : [] ++ [b] = front ++ [b'] := he
      have := List.append_inj' hsplit rfl
      exact ⟨this.1.symm, by simpa using this.2.symm⟩
    simp only [List.not_mem_nil, or_false] at h
    rcases h with rfl | rfl | ⟨rfl, h⟩
    · rfl
    · rfl
    · simp [ends, h]
  · intro h
    refine ⟨[], b, rfl, ?_⟩
    simp only [ends, Bool.or_eq_true, beq_iff_eq, Bool.and_eq_true, decide_eq_true_eq] at h
    rcases h with (h | h) | ⟨h | h, hle⟩
    · exact .inl h
    · exact .inr (.inl h)
    · exact .inr (.inr ⟨.inl h, hle⟩)
    · exact absurd hle (hiac h)

theorem endedAfter_cons {command : Bool} {b : UInt8} {s : Bytes} (hs : s ≠ []) :
    EndedAfter command (b :: s) ↔ EndedAfter (command || b == iac) s := by
  constructor
  · rintro ⟨front, last, he, h⟩
    cases front with
    | nil =>
      simp only [List.nil_append, List.cons.injEq] at he
      exact absurd he.2 hs
    | cons a front =>
      simp only [List.cons_append, List.cons.injEq] at he
      obtain ⟨rfl, rfl⟩ := he
      refine ⟨front, last, rfl, ?_⟩
      simpa [or_assoc, eq_comm (a := b)] using h
  · rintro ⟨front, last, rfl, h⟩
    exact ⟨b :: front, last, rfl, by simpa [or_assoc, eq_comm (a := b)] using h⟩

theorem prefix_cons_cases {p s : Bytes} {b : UInt8} (h : p <+: b :: s) :
    p = [] ∨ p = [b] ∨ ∃ q, q ≠ [] ∧ p = b :: q ∧ q <+: s := by
  cases p with
  | nil => exact .inl rfl
  | cons a q =>
    obtain ⟨rfl, hq⟩ := List.cons_prefix_cons.1 h
    cases q with
    | nil => exact .inr (.inl rfl)
    | cons a' q => exact .inr (.inr ⟨a' :: q, by simp, rfl, hq⟩)

theorem not_endedAfter_nil {command : Bool} : ¬ EndedAfter command [] := by
  rintro ⟨front, b, he, -⟩
  simp at he

/-- What the scan says: the index of the first byte that ends a line, if there is one. -/
theorem scan_spec (command : Bool) (index : Nat) (data : Bytes) :
    match scan command index data with
    | none => ∀ p, p <+: data → ¬ EndedAfter command p
    | some found => ∃ k, found = index + k ∧ k < data.length ∧
      EndedAfter command (data.take (k + 1)) ∧
        ∀ p, p <+: data.take (k + 1) → EndedAfter command p → p = data.take (k + 1) := by
  induction data generalizing command index with
  | nil =>
    intro p hp
    rw [List.prefix_nil.1 hp]
    exact not_endedAfter_nil
  | cons b rest ih =>
    simp only [scan]
    by_cases hb : ends (command || b == iac) b = true
    · rw [if_pos hb]
      refine ⟨0, rfl, by simp, by simpa using endedAfter_singleton.2 hb, ?_⟩
      intro p hp hended
      rcases prefix_cons_cases hp with rfl | rfl | ⟨q, hq, rfl, hqr⟩
      · exact absurd hended not_endedAfter_nil
      · rfl
      · exact absurd (List.prefix_nil.1 hqr) hq
    · rw [if_neg hb]
      have hlone : ¬ EndedAfter command [b] := fun h => hb (endedAfter_singleton.1 h)
      have hrest := ih (command || b == iac) (index + 1)
      cases hfound : scan (command || b == iac) (index + 1) rest with
      | none =>
        rw [hfound] at hrest
        intro p hp
        rcases prefix_cons_cases hp with rfl | rfl | ⟨q, hq, rfl, hqr⟩
        · exact not_endedAfter_nil
        · exact hlone
        · rw [endedAfter_cons hq]
          exact hrest q hqr
      | some found =>
        rw [hfound] at hrest
        obtain ⟨k, rfl, hk, hended, hshort⟩ := hrest
        have hne : rest.take (k + 1) ≠ [] := by
          rw [Ne, List.take_eq_nil_iff]
          rintro (h | rfl)
          · omega
          · simp at hk
        refine ⟨k + 1, by omega, by simpa using hk, ?_, ?_⟩
        · rw [List.take_succ_cons, endedAfter_cons hne]
          exact hended
        · intro p hp hp'
          rw [List.take_succ_cons] at hp ⊢
          rcases prefix_cons_cases hp with rfl | rfl | ⟨q, hq, rfl, hqr⟩
          · exact absurd hp' not_endedAfter_nil
          · exact absurd hp' hlone
          · rw [hshort q hqr ((endedAfter_cons hq).1 hp')]

theorem boundary_eq_some {buffer : Bytes} {index : Nat} (h : boundary buffer = some index) :
    index < buffer.length ∧ IsSegment (buffer.take (index + 1)) := by
  have hs := scan_spec false 0 buffer
  rw [show scan false 0 buffer = some index from h] at hs
  obtain ⟨k, hk, hlt, hended, hshort⟩ := hs
  obtain rfl : index = k := by omega
  exact ⟨hlt, endedAfter_false.1 hended, fun p hp hp' => hshort p hp (endedAfter_false.2 hp')⟩

theorem boundary_eq_none {buffer : Bytes} (h : boundary buffer = none) : Unended buffer := by
  have hs := scan_spec false 0 buffer
  rw [show scan false 0 buffer = none from h] at hs
  exact fun p hp hp' => hs p hp (endedAfter_false.2 hp')

/-- Cutting at the end of a segment leaves its line and what follows it. -/
theorem cut_at {buffer : Bytes} {index : Nat} (h : index < buffer.length) :
    cut buffer index = some (lineOf (buffer.take (index + 1)), buffer.drop (index + 1)) := by
  have hlast : (buffer.take (index + 1)).getLast? = some buffer[index] := by
    rw [List.take_succ_eq_append_getElem h, List.getLast?_concat]
  have hdrop : (buffer.take (index + 1)).dropLast = buffer.take index := by
    rw [List.take_succ_eq_append_getElem h, List.dropLast_concat]
  simp only [cut, List.getElem?_eq_getElem h, lineOf, hlast, hdrop, Option.some.injEq]
  by_cases hb : buffer[index] = newline
  · simp [hb]
  · simp [hb]

/-- **The first line of a buffer is the line of its first segment.** -/
theorem next?_eq_some_iff {buffer line rest : Bytes} :
    next? buffer = some (line, rest) ↔
      ∃ segment, IsSegment segment ∧ buffer = segment ++ rest ∧ line = lineOf segment := by
  constructor
  · intro h
    obtain ⟨index, hb, hc⟩ := Option.bind_eq_some_iff.1 h
    obtain ⟨hlt, hseg⟩ := boundary_eq_some hb
    rw [cut_at hlt] at hc
    simp only [Option.some.injEq, Prod.mk.injEq] at hc
    obtain ⟨rfl, rfl⟩ := hc
    exact ⟨_, hseg, (List.take_append_drop ..).symm, rfl⟩
  · rintro ⟨segment, hseg, rfl, rfl⟩
    cases hb : boundary (segment ++ rest) with
    | none => exact absurd hseg.ended (boundary_eq_none hb _ (List.prefix_append ..))
    | some index =>
      obtain ⟨hlt, hseg'⟩ := boundary_eq_some hb
      have hsame : segment = (segment ++ rest).take (index + 1) :=
        hseg.unique hseg' (List.prefix_append ..) (List.take_prefix ..)
      have hdrop : (segment ++ rest).drop (index + 1) = rest := by
        have := List.take_append_drop (index + 1) (segment ++ rest)
        rw [← hsame] at this
        exact List.append_cancel_left this
      rw [next?, hb]
      show cut (segment ++ rest) index = _
      rw [cut_at hlt, ← hsame, hdrop]

theorem next?_eq_none_iff {buffer : Bytes} : next? buffer = none ↔ Unended buffer := by
  constructor
  · intro h
    cases hb : boundary buffer with
    | none => exact boundary_eq_none hb
    | some index =>
      rw [next?, hb] at h
      have : cut buffer index = none := h
      rw [cut_at (boundary_eq_some hb).1] at this
      cases this
  · intro h
    cases hn : next? buffer with
    | none => rfl
    | some found =>
      obtain ⟨segment, hseg, rfl, -⟩ := next?_eq_some_iff.1 hn
      exact absurd hseg.ended (h _ (List.prefix_append ..))

/-- A line that has been found stays, whatever follows. -/
theorem next?_append {buffer line rest : Bytes} (h : next? buffer = some (line, rest))
    (more : Bytes) :
    next? (buffer ++ more) = some (line, rest ++ more) := by
  obtain ⟨segment, hseg, rfl, rfl⟩ := next?_eq_some_iff.1 h
  rw [List.append_assoc]
  exact next?_eq_some_iff.2 ⟨segment, hseg, rfl, rfl⟩

theorem next?_eq_none_of_boundary {buffer : Bytes} :
    boundary buffer = none ↔ next? buffer = none := by
  constructor
  · intro h
    rw [next?, h]
    rfl
  · intro h
    cases hb : boundary buffer with
    | none => rfl
    | some index =>
      rw [next?, hb] at h
      have : cut buffer index = none := h
      rw [cut_at (boundary_eq_some hb).1] at this
      cases this

/-- Every byte string can be cut. -/
theorem exists_segmented (s : Bytes) : ∃ segments tail, Segmented s segments tail := by
  cases hs : next? s with
  | none => exact ⟨[], s, .tail (next?_eq_none_iff.1 hs)⟩
  | some found =>
    obtain ⟨line, rest⟩ := found
    have hlt := length_of_next? hs
    obtain ⟨segments, tail, h⟩ := exists_segmented rest
    obtain ⟨segment, hseg, rfl, -⟩ := next?_eq_some_iff.1 hs
    exact ⟨segment :: segments, tail, .cut hseg h⟩
termination_by s.length

theorem lastLine_of_remainder (tail : Bytes) : (remainder tail).toList = lastLine tail := by
  cases h : stripReturn tail with
  | nil => simp [remainder, lastLine, h]
  | cons => simp [remainder, lastLine, h]

end NetShell.Telnet
