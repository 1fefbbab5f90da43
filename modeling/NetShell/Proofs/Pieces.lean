import NetShell.Bytes

/-! Bytes that come in pieces.

A loop takes one thing after another off the front of a buffer, as long as there is one. What it
owes (`Drains`) is that each thing takes bytes with it, and that bytes which come later do not
change what is taken now. From these, however the bytes are cut and whenever the buffer is
drained between the pieces, the same things are taken and the same bytes are left as if all of
them had come at once (`Drains.each`). -/
namespace NetShell.Bytes

variable {α : Type}

/-- What a loop owes that drains a buffer: `next` is what one turn of it takes, with the buffer
that it leaves, and `drain` is what all turns take. -/
structure Drains (next : Bytes → Option (α × Bytes)) (drain : Bytes → List α × Bytes) : Prop where
  /-- each turn takes bytes -/
  shorter : ∀ {data rest : Bytes} {a : α}, next data = some (a, rest) → rest.length < data.length
  /-- what is taken is the same whatever follows -/
  stable : ∀ {data rest : Bytes} {a : α}, next data = some (a, rest) →
    ∀ more, next (data ++ more) = some (a, rest ++ more)
  last : ∀ {data : Bytes}, next data = none → drain data = ([], data)
  turn : ∀ {data rest : Bytes} {a : α}, next data = some (a, rest) →
    drain data = (a :: (drain rest).1, (drain rest).2)

/-- Pieces that are appended to a buffer, which is drained after each. -/
def drainEach (drain : Bytes → List α × Bytes) (buffer : Bytes) : List Bytes → List α × Bytes
  | [] => ([], buffer)
  | piece :: more =>
    let (taken, left) := drain (buffer ++ piece)
    let (later, left) := drainEach drain left more
    (taken ++ later, left)

namespace Drains

variable {next : Bytes → Option (α × Bytes)} {drain : Bytes → List α × Bytes}

/-- Nothing can be taken off what is left. -/
theorem idle (h : Drains next drain) (data : Bytes) : next (drain data).2 = none := by
  cases hn : next data with
  | none => rwa [h.last hn]
  | some found =>
    obtain ⟨a, rest⟩ := found
    have := h.shorter hn
    rw [h.turn hn]
    exact h.idle rest
termination_by data.length

/-- What is left is drained again with the bytes that follow, and nothing else of what came
before. -/
theorem append (h : Drains next drain) (data more : Bytes) :
    drain (data ++ more) =
      ((drain data).1 ++ (drain ((drain data).2 ++ more)).1,
        (drain ((drain data).2 ++ more)).2) := by
  cases hn : next data with
  | none => simp only [h.last hn, List.nil_append]
  | some found =>
    obtain ⟨a, rest⟩ := found
    have := h.shorter hn
    have hrest := h.append rest more
    simp only [h.turn (h.stable hn more), h.turn hn, hrest, List.cons_append]
termination_by data.length

/-- **Draining after each piece is draining once.** -/
theorem each (h : Drains next drain) {buffer : Bytes} (hb : next buffer = none)
    (pieces : List Bytes) :
    drainEach drain buffer pieces = drain (buffer ++ pieces.flatten) := by
  induction pieces generalizing buffer with
  | nil => rw [List.flatten_nil, List.append_nil, h.last hb, drainEach]
  | cons piece more ih =>
    rw [List.flatten_cons, ← List.append_assoc, h.append (buffer ++ piece) more.flatten]
    simp only [drainEach, ih (h.idle (buffer ++ piece))]

end Drains
end NetShell.Bytes
