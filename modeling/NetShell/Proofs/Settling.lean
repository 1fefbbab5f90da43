import NetShell.Proofs.Frames
import NetShell.Proofs.Grammar
import NetShell.Proofs.Pieces

/-! What the front of a buffer amounts to is settled once, whatever comes later.

A frame, a close or a violation stays what it is when more bytes follow, so no part of a frame
short of all its bytes amounts to anything; and there is no buffer that nothing could ever be
made of (`Frame.exists_settled`). So the frames that are taken off a buffer as it grows, up to
the first close or violation, are those of all the bytes at once (`Frame.parseEach_eq`), however
the bytes were cut on their way (`Frame.parse_settles`). -/
namespace NetShell.WebSocket.Frame
open Bytes

/-! ### Frames in pieces -/

/-- The frame at the front of a buffer with the number of its bytes, and the buffer after it. -/
def first? (buffer : Bytes) : Option ((Frame × Nat) × Bytes) :=
  match parse buffer with
  | .complete f size => some ((f, size), buffer.drop size)
  | _ => none

/-- The frames at the front of a buffer, and what stays because no frame stands there. -/
def frames (buffer : Bytes) : List (Frame × Nat) × Bytes :=
  ((parseAll buffer).1, (parseAll buffer).2.2)

theorem first?_eq_some_iff {buffer rest : Bytes} {f : Frame} {size : Nat} :
    first? buffer = some ((f, size), rest) ↔ parse buffer = .complete f size ∧
      rest = buffer.drop size := by
  unfold first?
  cases hp : parse buffer with
  | complete f' size' =>
    simp only [Option.some.injEq, Prod.mk.injEq, Parsed.complete.injEq]
    constructor
    · rintro ⟨⟨rfl, rfl⟩, rfl⟩
      exact ⟨⟨rfl, rfl⟩, rfl⟩
    · rintro ⟨⟨rfl, rfl⟩, rfl⟩
      exact ⟨⟨rfl, rfl⟩, rfl⟩
  | _ => simp

theorem first?_eq_none_iff {buffer : Bytes} :
    first? buffer = none ↔ ∀ f size, parse buffer ≠ .complete f size := by
  unfold first?
  cases parse buffer <;> simp

theorem drains_frames : Drains first? frames where
  shorter {data _ a} h := by
    obtain ⟨hp, rfl⟩ := first?_eq_some_iff.1 h
    have := size_of_parse hp
    rw [List.length_drop]
    omega
  stable h more := by
    obtain ⟨hp, rfl⟩ := first?_eq_some_iff.1 h
    refine first?_eq_some_iff.2 ⟨parse_append hp (by simp) more, ?_⟩
    rw [List.drop_append_of_le_length (size_of_parse hp).2]
  last h := by
    rw [frames, parseAll_other (first?_eq_none_iff.1 h)]
  turn h := by
    obtain ⟨hp, rfl⟩ := first?_eq_some_iff.1 h
    rw [frames, parseAll_complete hp, frames]

/-- The frames, and what the front of the bytes after them amounts to. -/
theorem parseAll_eq (buffer : Bytes) :
    parseAll buffer = ((frames buffer).1, parse (frames buffer).2, (frames buffer).2) := by
  cases hf : first? buffer with
  | none => rw [drains_frames.last hf, parseAll_other (first?_eq_none_iff.1 hf)]
  | some found =>
    obtain ⟨⟨f, size⟩, rest⟩ := found
    have := drains_frames.shorter hf
    have hrest := parseAll_eq rest
    obtain ⟨hp, rfl⟩ := first?_eq_some_iff.1 hf
    rw [drains_frames.turn hf, parseAll_complete hp, hrest]
termination_by buffer.length

/-- Pieces that are appended to a buffer, after each of which the frames at its front are taken
off, until something other than a frame is settled there. -/
def parseEach (buffer : Bytes) : List Bytes → List (Frame × Nat) × Parsed × Bytes
  | [] => ([], parse buffer, buffer)
  | piece :: more =>
    let (taken, verdict, left) := parseAll (buffer ++ piece)
    if verdict = .incomplete then
      let (later, last, left) := parseEach left more
      (taken ++ later, last, left)
    else (taken, verdict, left ++ more.flatten)

/-- A close or a violation is what is left at the front, and stays so. -/
theorem frames_settled {buffer : Bytes} (hf : first? buffer = none)
    (hp : parse buffer ≠ .incomplete) (more : Bytes) :
    frames (buffer ++ more) = ([], buffer ++ more) := by
  refine drains_frames.last (first?_eq_none_iff.2 fun f size => ?_)
  rw [parse_append rfl hp more]
  exact first?_eq_none_iff.1 hf f size

theorem parseEach_eq {buffer : Bytes} (hb : first? buffer = none) (pieces : List Bytes) :
    parseEach buffer pieces = parseAll (buffer ++ pieces.flatten) := by
  induction pieces generalizing buffer with
  | nil => rw [List.flatten_nil, List.append_nil, parseAll_eq, drains_frames.last hb, parseEach]
  | cons piece more ih =>
    have hidle := drains_frames.idle (buffer ++ piece)
    rw [List.flatten_cons, ← List.append_assoc, parseAll_eq,
      drains_frames.append (buffer ++ piece) more.flatten]
    simp only [parseEach, parseAll_eq (buffer ++ piece)]
    generalize (frames (buffer ++ piece)).2 = left at hidle ⊢
    by_cases hwait : parse left = .incomplete
    · rw [if_pos hwait, ih hidle, parseAll_eq]
    · rw [if_neg hwait, frames_settled hidle hwait, List.append_nil, parse_append rfl hwait]

/-! ### Before and after a verdict -/

/-- A part of a frame amounts to nothing. -/
theorem parse_prefix {wire front : Bytes} {f : Frame} (hw : parse wire = .complete f wire.length)
    (hp : front <+: wire) (hne : front ≠ wire) : parse front = .incomplete := by
  refine Decidable.byContradiction fun hsettled => ?_
  obtain ⟨more, rfl⟩ := hp
  rw [parse_append rfl hsettled more] at hw
  have hsize := (size_of_parse hw).2
  rw [List.length_append] at hsize
  have hmore : more = [] := List.eq_nil_of_length_eq_zero (by omega)
  exact hne (by rw [hmore, List.append_nil])

/-- The key and a payload of the announced length are all that is waited for. -/
theorem parseBody_ne_incomplete (opcode : Opcode) (final : Bool) {length : Nat} (start : Nat)
    {data : Bytes} (h : 4 + length ≤ data.length) :
    parseBody opcode final length start data ≠ .incomplete := by
  rcases data with _ | ⟨k0, _ | ⟨k1, _ | ⟨k2, _ | ⟨k3, rest⟩⟩⟩⟩
  case cons.cons.cons.cons =>
    have hlen : length ≤ rest.length := by
      simp only [List.length_cons] at h
      omega
    simp [parseBody, hlen]
  all_goals
    simp only [List.length_cons, List.length_nil] at h
    omega

/-- Eight bytes are enough to announce any length. -/
theorem exists_announces (second : UInt8) {data : Bytes} (h : 8 ≤ data.length) :
    ∃ field rest length, data = field ++ rest ∧ Announces second field length := by
  have hwide : extension (second.toNat % 128) ≤ 8 := by
    unfold extension
    split
    · decide
    · split <;> decide
  have hthere : ¬ (data.take (extension (second.toNat % 128))).length <
      extension (second.toNat % 128) := by
    rw [List.length_take]
    omega
  obtain ⟨length, hannounced⟩ : ∃ length, announced second data = some length := ⟨_, if_neg hthere⟩
  obtain ⟨field, rest, hsplit, hlen⟩ := announces_of_announced hannounced
  exact ⟨field, rest, length, hsplit, hlen⟩

/-- **From any buffer a verdict can still be reached.** -/
theorem exists_settled (data : Bytes) : ∃ more, parse (data ++ more) ≠ .incomplete := by
  match data with
  | [] => exact ⟨[0x88], by decide⟩
  | first :: rest =>
    rcases served_or first with ⟨opcode, hserved⟩ | hclose | hother
    · -- zeros for the second byte and what extends the length, and then for the key and the payload
      obtain ⟨second, behind, hcons⟩ :=
        List.exists_cons_of_ne_nil (l := rest ++ List.replicate 9 0) (by simp)
      have hlong : 8 ≤ behind.length := by
        have := congrArg List.length hcons
        simp only [List.length_append, List.length_replicate, List.length_cons] at this
        omega
      obtain ⟨field, tail, length, rfl, hlen⟩ := exists_announces second hlong
      refine ⟨List.replicate 9 0 ++ List.replicate (4 + length) 0, ?_⟩
      rw [← List.append_assoc, List.cons_append, hcons, List.cons_append, parse_served hserved,
        ← List.cons_append, List.append_assoc, parseLength_announces hlen]
      split
      · exact nofun
      · split
        · exact nofun
        · exact parseBody_ne_incomplete _ _ _ (by simp)
    · exact ⟨[], by simp [parse_close hclose]⟩
    · exact ⟨[], by simp [parse_unsupported hother]⟩

/-- **Once the front of a buffer amounts to something, it does whatever follows**: a frame takes at
least six bytes and none that are not there, no part of it amounts to anything, and where there
is nothing yet there can still be. So frames that come in pieces, up to the first close or
violation, are taken as if they had come at once. -/
theorem parse_settles (data : Bytes) :
    (parse data ≠ .incomplete → ∀ more, parse (data ++ more) = parse data) ∧
      (∀ f size, parse data = .complete f size → 6 ≤ size ∧ size ≤ data.length) ∧
      (∀ f, parse data = .complete f data.length →
        ∀ front, front <+: data → front ≠ data → parse front = .incomplete) ∧
      (parse data = .incomplete → ∃ more, parse (data ++ more) ≠ .incomplete) ∧
      ∀ pieces, pieces.flatten = data → parseEach [] pieces = parseAll data := by
  refine ⟨parse_append rfl, fun _ _ => size_of_parse, fun _ hw _ => parse_prefix hw,
    fun _ => exists_settled data, ?_⟩
  rintro pieces rfl
  exact parseEach_eq rfl pieces

/-- A greeting comes in two pieces, cut within its key, and a close behind it. -/
theorem parse_settles_greeting :
    let wire : Bytes := [0x81, 0x82, 0x01, 0x02, 0x03, 0x04, 0x69, 0x6B]
    let front := wire.take 4
    let greeting : Frame := ⟨.text, true, ⟨0x01, 0x02, 0x03, 0x04⟩, [0x68, 0x69]⟩
    parse wire = .complete greeting wire.length ∧
      parse (wire ++ [0x88]) = .complete greeting wire.length ∧
      6 ≤ wire.length ∧ front <+: wire ∧ front ≠ wire ∧ parse front = .incomplete ∧
      (∃ more, parse (front ++ more) ≠ .incomplete) ∧
      parseEach [] [front, wire.drop 4 ++ [0x88]] =
        ([(greeting, wire.length)], .close, [0x88]) := by
  intro wire front greeting
  have hwire : parse wire = .complete greeting wire.length := by decide
  have hfront : front <+: wire := List.take_prefix ..
  have hne : front ≠ wire := by decide
  obtain ⟨hstable, hsize, hpart, -, -⟩ := parse_settles wire
  obtain ⟨-, -, -, hmore, -⟩ := parse_settles front
  obtain ⟨-, -, -, -, hpieces⟩ := parse_settles (wire ++ [0x88])
  have hincomplete := hpart greeting hwire front hfront hne
  refine ⟨hwire, (hstable (by rw [hwire]; exact nofun) [0x88]).trans hwire, (hsize _ _ hwire).1,
    hfront, hne, hincomplete, hmore hincomplete, ?_⟩
  rw [hpieces _ rfl]
  decide +kernel

end NetShell.WebSocket.Frame
