import NetShell.Proofs.Segments
import NetShell.WebSocket.Frame
import NetShell.WebSocket.Upgrade

/-! Reading and writing bytes place by place.

The codecs are written on lists, and nothing that is done to a list can fail. What they are read off
does the same to a block of memory, place by place, and a place past the end, a slice that does not
lie within its block or a number that does not fit a machine word would stop the worker on the spot:
a *lapse*. The codecs are repeated here in that way, and each of them comes to what it comes to on
lists, without a lapse, whatever bytes it is given (`Checked.parse_eq`, `Checked.takeLine_eq`,
`Checked.feed_eq`, `Checked.front_eq`). -/
namespace NetShell
open WebSocket

/-- What stops a worker on the spot. -/
inductive Lapse
  | pastEnd (place size : Nat)
  /-- a slice that ends before it starts, or past the end of its block -/
  | badSlice (start stop size : Nat)
  /-- a copy between slices of different lengths -/
  | badCopy (source target : Nat)
  /-- the buffer is to be moved on past its end -/
  | badAdvance (count size : Nat)
  /-- a sum that does not fit a machine word -/
  | overflow (a b : Nat)
  | underflow (a b : Nat)
  /-- a block that is larger than any can be -/
  | tooLarge (size : Nat)
  /-- sending after the outlet was released -/
  | released (conn : Nat)
  deriving DecidableEq, Repr

namespace Checked

/-! ### Blocks of memory -/

/-- How many numbers a machine word holds. -/
def word : Nat := 0x10000000000000000

/-- The size of the largest block of memory. -/
def memory : Nat := 0x7FFFFFFFFFFFFFFF

def index (data : Bytes) (place : Nat) : Except Lapse UInt8 :=
  match data[place]? with
  | some b => .ok b
  | none => .error (.pastEnd place data.length)

def slice (data : Bytes) (start stop : Nat) : Except Lapse Bytes :=
  if start ≤ stop ∧ stop ≤ data.length then .ok ((data.take stop).drop start)
  else .error (.badSlice start stop data.length)

/-- What a copy makes of its target. -/
def copy (target source : Bytes) : Except Lapse Bytes :=
  if target.length = source.length then .ok source else .error
    (.badCopy source.length target.length)

/-- Put a byte in its place. -/
def put (data : Bytes) (place : Nat) (b : UInt8) : Except Lapse Bytes :=
  if place < data.length then .ok (data.set place b) else .error (.pastEnd place data.length)

/-- Copy over a slice. -/
def overwrite (data : Bytes) (start stop : Nat) (source : Bytes) : Except Lapse Bytes := do
  let target ← slice data start stop
  let filled ← copy target source
  return data.take start ++ filled ++ data.drop stop

/-- The buffer without so many bytes at its front. -/
def advance (buffer : Bytes) (count : Nat) : Except Lapse Bytes :=
  if count ≤ buffer.length then .ok (buffer.drop count) else .error
    (.badAdvance count buffer.length)

/-- The buffer with zeros at its end. -/
def grow (buffer : Bytes) (size : Nat) : Except Lapse Bytes :=
  if size ≤ memory then .ok (buffer ++ List.replicate (size - buffer.length) 0) else .error
    (.tooLarge size)

def add (a b : Nat) : Except Lapse Nat :=
  if a + b < word then .ok (a + b) else .error (.overflow a b)

def sub (a b : Nat) : Except Lapse Nat := if b ≤ a then .ok (a - b) else .error (.underflow a b)

variable {data source : Bytes} {start stop count size place a b : Nat}

theorem index_of_drop {k : Nat} {b : UInt8} (h : (data.drop start)[k]? = some b) :
    index data (start + k) = .ok b := by
  rw [List.getElem?_drop] at h
  simp [index, h]

theorem slice_ok (hs : start ≤ stop) (h : stop ≤ data.length) :
    slice data start stop = .ok ((data.take stop).drop start) := by
  simp [slice, hs, h]

/-- The front of a block. -/
theorem slice_front (a b : Bytes) : slice (a ++ b) 0 a.length = .ok a := by
  rw [slice_ok (Nat.zero_le _) (by simp)]
  simp

theorem copy_ok (h : data.length = source.length) : copy data source = .ok source := by
  simp [copy, h]

theorem overwrite_ok (hs : start ≤ stop) (h : stop ≤ data.length)
    (hl : source.length = stop - start) :
    overwrite data start stop source = .ok (data.take start ++ source ++ data.drop stop) := by
  have hcopy : copy ((data.take stop).drop start) source = .ok source :=
    copy_ok (by simp only [List.length_drop, List.length_take]; omega)
  simp only [overwrite, slice_ok hs h, hcopy, bind, Except.bind]
  rfl

/-- Bytes are copied over the first of the zeros that a buffer was grown by, and the others are cut
off. -/
theorem overwrite_zeros (buffer : Bytes) {data : Bytes} {room : Nat} (h : data.length ≤ room) :
    ∃ filled, overwrite (buffer ++ List.replicate room 0) buffer.length
      (buffer.length + data.length) data = .ok filled ∧
      filled.take (buffer.length + data.length) = buffer ++ data := by
  have hstop : buffer.length + data.length ≤
      (buffer ++ List.replicate room (0 : UInt8)).length := by
    rw [List.length_append, List.length_replicate]
    omega
  refine ⟨_, overwrite_ok (Nat.le_add_right ..) hstop (Nat.add_sub_cancel_left ..).symm, ?_⟩
  rw [List.take_left, ← List.length_append, List.take_left]

theorem advance_ok (h : count ≤ data.length) : advance data count = .ok (data.drop count) := by
  simp [advance, h]

theorem grow_ok (h : size ≤ memory) :
    grow data size = .ok (data ++ List.replicate (size - data.length) 0) := by
  simp [grow, h]

theorem add_ok (h : a + b < word) : add a b = .ok (a + b) := by simp [add, h]

theorem sub_ok (h : b ≤ a) : sub a b = .ok (a - b) := by simp [sub, h]

/-! ### Frames from a client -/

/-- A payload unmasked four bytes at a time, each word taken out of its chunk and copied back. -/
def unmask (key : Mask) : Bytes → Except Lapse Bytes
  | a :: b :: c :: d :: rest => do
    let chunk := [a, b, c, d]
    let packed :=
      ByteOrder.little.pack (← index chunk 0) (← index chunk 1) (← index chunk 2) (← index chunk 3)
    let done ← copy chunk (ByteOrder.little.unpack (packed ^^^ key.word .little))
    return done ++ (← unmask key rest)
  | rest => .ok (List.zipWith (· ^^^ ·) rest key.toList)

/-- The mask bit, the key at `pos` and the payload after it. -/
def parseBody (opcode : Opcode) (final : Bool) (second : UInt8) (length pos : Nat) (input : Bytes) :
    Except Lapse Parsed :=
  if second.toNat < 128 then .ok (.violation .unmaskedFrame)
  else do
    let start ← add pos 4
    if input.length < start then return .incomplete
    let mask : Mask := ⟨← index input pos, ← index input (← add pos 1), ← index input (← add pos 2),
      ← index input (← add pos 3)⟩
    if (← sub input.length start) < length then return .incomplete
    let stop ← add start length
    let payload ← unmask mask (← slice input start stop)
    return .complete ⟨opcode, final, mask, payload⟩ stop

/-- The second byte, and the length field if there is one. -/
def parseLength (opcode : Opcode) (final : Bool) (input : Bytes) : Except Lapse Parsed :=
  match input[1]? with
  | none => .ok .incomplete
  | some second =>
    let short := second.toNat % 128
    if short = 126 then
      if input.length < 4 then .ok .incomplete
      else do
        let field := [← index input 2, ← index input 3]
        parseBody opcode final second (Bytes.toNat field) 4 input
    else if short = 127 then
      if input.length < 10 then .ok .incomplete
      else do
        let field ← copy (List.replicate 8 0) (← slice input 2 10)
        if Frame.maxLength < Bytes.toNat field then
          return .violation (.oversizedFrame (Bytes.toNat field))
        parseBody opcode final second (Bytes.toNat field) 10 input
    else parseBody opcode final second short 2 input

/-- One client frame from the front of a buffer. -/
def parse (input : Bytes) : Except Lapse Parsed :=
  match input[0]? with
  | none => .ok .incomplete
  | some first =>
    match Opcode.ofByte first with
    | .text => parseLength .text (128 ≤ first.toNat) input
    | .ping => parseLength .ping (128 ≤ first.toNat) input
    | .pong => parseLength .pong (128 ≤ first.toNat) input
    | .close => .ok .close
    | other => .ok (.violation (.unsupportedOpcode other.code))

theorem unmask_eq (key : Mask) : ∀ data, unmask key data = .ok (key.apply .little data)
  | a :: b :: c :: d :: rest => by
    rw [unmask, unmask_eq key rest]
    rfl
  | [] | [_] | [_, _] | [_, _, _] => rfl

/-- **No announced length is too large to be read up to.** -/
theorem parseBody_eq (opcode : Opcode) (final : Bool) (second : UInt8) (length pos : Nat)
    {input : Bytes} (hpos : pos ≤ input.length) (hfits : input.length ≤ memory) :
    parseBody opcode final second length pos input =
      .ok (if second.toNat < 128 then .violation .unmaskedFrame
        else Frame.parseBody opcode final length pos (input.drop pos)) := by
  have hroom : input.length + 4 < word :=
    Nat.lt_of_le_of_lt (Nat.add_le_add_right hfits 4) (by decide)
  have hsum : ∀ k, k ≤ 4 → add pos k = .ok (pos + k) := fun k hk => add_ok (by omega)
  have hat : ∀ {k : Nat} {b : UInt8}, (input.drop pos)[k]? = some b →
      index input (pos + k) = .ok b := index_of_drop
  have hlen : (input.drop pos).length = input.length - pos := List.length_drop ..
  have hrest : input.drop (pos + 4) = (input.drop pos).drop 4 := by rw [List.drop_drop]
  unfold parseBody
  by_cases hmask : second.toNat < 128
  · simp only [if_pos hmask]
  simp only [if_neg hmask, hsum 4 (by omega), bind, Except.bind]
  by_cases hshort : input.length < pos + 4
  · -- the key has not come in
    have hfew : Frame.parseBody opcode final length pos (input.drop pos) = .incomplete := by
      unfold Frame.parseBody
      split
      · rename_i heq
        rw [heq] at hlen
        simp only [List.length_cons] at hlen
        omega
      · rfl
    rw [if_pos hshort, hfew]
    rfl
  generalize hfront : input.drop pos = front at hat hlen hrest ⊢
  match front with
  | k0 :: k1 :: k2 :: k3 :: rest =>
    have h0 : index input pos = .ok k0 := hat (k := 0) rfl
    have h1 : index input (pos + 1) = .ok k1 := hat rfl
    have h2 : index input (pos + 2) = .ok k2 := hat rfl
    have h3 : index input (pos + 3) = .ok k3 := hat rfl
    simp only [List.length_cons] at hlen
    have hleft : sub input.length (pos + 4) = .ok rest.length := by
      rw [sub_ok (by omega)]
      exact congrArg _ (by omega)
    simp only [if_neg hshort, hsum 1 (by omega), hsum 2 (by omega), hsum 3 (by omega), h0, h1, h2,
      h3, hleft]
    simp only [Frame.parseBody, List.length_take]
    by_cases hless : rest.length < length
    · rw [if_pos hless, if_pos (by omega)]
      rfl
    · have hpayload : slice input (pos + 4) (pos + 4 + length) = .ok (rest.take length) := by
        rw [slice_ok (by omega) (by omega), List.drop_take, hrest, Nat.add_sub_cancel_left]
        rfl
      rw [if_neg hless, if_neg (by omega), add_ok (by omega)]
      simp only [hpayload, unmask_eq]
      rfl
  | [] | [_] | [_, _] | [_, _, _] =>
    simp only [List.length_cons, List.length_nil] at hlen
    omega

theorem announced_none {b : UInt8} {rest : Bytes}
    (h : rest.length < Frame.extension (b.toNat % 128)) :
    Frame.announced b rest = none := by
  simp only [Frame.announced, List.length_take]
  rw [if_pos (by omega)]

theorem announced_some {b : UInt8} {rest : Bytes}
    (h : Frame.extension (b.toNat % 128) ≤ rest.length) :
    Frame.announced b rest = some (if Frame.extension (b.toNat % 128) = 0 then b.toNat % 128
      else Bytes.toNat (rest.take (Frame.extension (b.toNat % 128)))) := by
  simp only [Frame.announced, List.length_take]
  rw [if_neg (by omega)]

theorem parseLength_eq (opcode : Opcode) (final : Bool) (first : UInt8) {input : Bytes}
    (hfits : (first :: input).length ≤ memory) :
    parseLength opcode final (first :: input) = .ok (Frame.parseLength opcode final input) := by
  cases input with
  | nil => rfl
  | cons second rest =>
    have hbody := fun length pos hpos => parseBody_eq opcode final second length pos hpos hfits
    simp only [List.length_cons] at hbody
    simp only [parseLength, Frame.parseLength, List.getElem?_cons_succ,
      List.getElem?_cons_zero, List.length_cons]
    by_cases hmid : second.toNat % 128 = 126
    · have hext : Frame.extension (second.toNat % 128) = 2 := by rw [hmid]; rfl
      match rest with
      | [] | [_] =>
        rw [announced_none (by rw [hext]; simp)]
        simp [hmid]
      | a :: b :: rest =>
        have ha : index (first :: second :: a :: b :: rest) 2 = .ok a := rfl
        have hb : index (first :: second :: a :: b :: rest) 3 = .ok b := rfl
        have hread := hbody (Bytes.toNat [a, b]) 4 (by simp only [List.length_cons]; omega)
        rw [announced_some (by rw [hext]; simp)]
        simp only [hext, if_pos hmid, List.length_cons]
        rw [if_neg (by omega), if_neg (by simp)]
        simp only [ha, hb, bind, Except.bind, hread]
        rfl
    · by_cases hbig : second.toNat % 128 = 127
      · have hext : Frame.extension (second.toNat % 128) = 8 := by rw [hbig]; rfl
        rw [if_neg hmid, if_pos hbig]
        by_cases hshort : rest.length < 8
        · rw [announced_none (by rw [hext]; exact hshort), if_pos (by omega)]
        · have hfield : slice (first :: second :: rest) 2 10 = .ok (rest.take 8) :=
            slice_ok (by omega) (by simp only [List.length_cons]; omega)
          have hcopy : copy (List.replicate 8 0) (rest.take 8) = .ok (rest.take 8) :=
            copy_ok (by simp only [List.length_replicate, List.length_take]; omega)
          have hread := hbody (Bytes.toNat (rest.take 8)) 10 (by omega)
          rw [announced_some (by rw [hext]; omega), if_neg (by omega)]
          simp only [hext, hfield, hcopy, bind, Except.bind, hread]
          by_cases hover : Frame.maxLength < Bytes.toNat (rest.take 8)
          · simp [hover, pure, Except.pure]
          · simp [hover]
      · have hext : Frame.extension (second.toNat % 128) = 0 := by
          rw [Frame.extension, if_neg hmid, if_neg hbig]
        have hread := hbody (second.toNat % 128) 2 (by omega)
        rw [if_neg hmid, if_neg hbig, hread, announced_some (by rw [hext]; exact Nat.zero_le _)]
        simp [hext]

/-- **A frame is read without a lapse**, whatever the bytes. -/
theorem parse_eq {input : Bytes} (hfits : input.length ≤ memory) :
    parse input = .ok (Frame.parse input) := by
  cases input with
  | nil => rfl
  | cons first rest =>
    simp only [parse, Frame.parse, List.getElem?_cons_zero]
    cases Opcode.ofByte first with
    | text | ping | pong => exact parseLength_eq _ _ first hfits
    | _ => rfl

/-! ### Frames from the server -/

/-- The front of a server frame, built in a block of ten bytes, and how many of them it takes. -/
def encodeHeader (opcode : UInt8) (length : Nat) : Except Lapse (Bytes × Nat) := do
  let header ← put (List.replicate 10 0) 0 (0x80 ||| (opcode &&& 0x0F))
  if length < 126 then return (← put header 1 (UInt8.ofNat length), 2)
  else if length < 65536 then
    let header ← put header 1 126
    return (← overwrite header 2 4 (Bytes.ofNat 2 length), 4)
  else
    let header ← put header 1 127
    return (← overwrite header 2 10 (Bytes.ofNat 8 length), 10)

/-- The part of the block that is sent. -/
def front (opcode : UInt8) (length : Nat) : Except Lapse Bytes := do
  let (header, size) ← encodeHeader opcode length
  slice header 0 size

theorem front_eq (opcode : UInt8) (length : Nat) :
    front opcode length = .ok (Frame.header opcode length) := by
  -- the length field goes where the zeros are, right after the first two bytes
  have hfield : ∀ (first second : UInt8) (field : Bytes), field.length ≤ 8 → ∀ stop,
      stop = field.length + 2 →
      (do slice (← overwrite (first :: second :: List.replicate 8 0) 2 stop field) 0 stop) =
        .ok (first :: second :: field) := by
    rintro first second field hlen stop rfl
    have hover : overwrite (first :: second :: List.replicate 8 0) 2 (field.length + 2) field = _ :=
      overwrite_ok (by omega) (by simp only [List.length_cons, List.length_replicate]; omega) rfl
    rw [hover]
    exact slice_front (first :: second :: field) _
  unfold front encodeHeader Frame.header
  by_cases hshort : length < 126
  · simp only [if_pos hshort]
    rfl
  · by_cases hmid : length < 65536
    · simp only [if_neg hshort, if_pos hmid]
      exact hfield _ _ (Bytes.ofNat 2 length) (by simp) 4 (by simp)
    · simp only [if_neg hshort, if_neg hmid]
      exact hfield _ _ (Bytes.ofNat 8 length) (by simp) 10 (by simp)

/-! ### Lines -/

/-- The line that ends at a boundary, and the buffer after it. -/
def takeLine (buffer : Bytes) (boundary : Nat) : Except Lapse (Bytes × Bytes) := do
  let b ← index buffer boundary
  let stop ← if b = Telnet.newline then pure boundary else add boundary 1
  let line ← slice buffer 0 stop
  let rest ← advance buffer (← add boundary 1)
  return (Telnet.stripReturn line, rest)

/-- **A line is taken without a lapse**: its end lies in the buffer. -/
theorem takeLine_eq {buffer : Bytes} {boundary : Nat} (hb : Telnet.boundary buffer = some boundary)
    (hfits : buffer.length ≤ memory) :
    ∃ found, Telnet.cut buffer boundary = some found ∧ takeLine buffer boundary = .ok found := by
  have hlt := (Telnet.boundary_eq_some hb).1
  have hroom : boundary + 1 < word :=
    Nat.lt_of_le_of_lt (Nat.le_trans hlt hfits) (by decide)
  have hat : buffer[boundary]? = some buffer[boundary] := List.getElem?_eq_getElem hlt
  let stop := if buffer[boundary] = Telnet.newline then boundary else boundary + 1
  refine ⟨(Telnet.stripReturn (buffer.take stop), buffer.drop (boundary + 1)),
    by simp only [Telnet.cut, hat, stop], ?_⟩
  have hindex : index buffer boundary = .ok buffer[boundary] := by simp only [index, hat]
  simp only [takeLine, hindex, add_ok hroom,
    advance_ok (show boundary + 1 ≤ buffer.length from hlt), bind, Except.bind]
  by_cases hnewline : buffer[boundary] = Telnet.newline
  · simp only [stop, if_pos hnewline, pure, Except.pure,
      slice_ok (Nat.zero_le boundary) (Nat.le_of_lt hlt), List.drop_zero]
  · simp only [stop, if_neg hnewline, slice_ok (Nat.zero_le (boundary + 1))
      (show boundary + 1 ≤ buffer.length from hlt), List.drop_zero]
    rfl

/-! ### Request lines -/

/-- The target of a request, up to the space after it. -/
def target (rest : Bytes) : Except Lapse Bytes :=
  slice rest 0 ((rest.findIdx? (· == 0x20)).getD rest.length)

/-- One line of a request. -/
def feed (u : Upgrade) (line : Bytes) : Except Lapse (Step × Upgrade) :=
  match u.stage with
  | .needRequestLine =>
    match after? Upgrade.requestFront line with
    | none => .ok (.reject .malformedRequestLine, u)
    | some rest => do
      let path := Text.lossy (← target rest)
      return (.continue, { stage := .readingHeaders, request := { u.request with path } })
  | _ => .ok (u.feed line)

theorem target_eq (rest : Bytes) : target rest = .ok (rest.takeWhile (· != 0x20)) := by
  have hstop : (rest.findIdx? (· == 0x20)).getD rest.length = rest.findIdx (· == 0x20) :=
    List.findIdx_eq_getD_findIdx?.symm
  have hneg : (fun b : UInt8 => !(b != 0x20)) = (· == 0x20) := by funext b; simp [bne]
  rw [target, hstop, slice_ok (Nat.zero_le _) List.findIdx_le_length, List.drop_zero,
    List.takeWhile_eq_take_findIdx_not, hneg]

theorem feed_eq (u : Upgrade) (line : Bytes) : feed u line = .ok (u.feed line) := by
  unfold feed
  cases hstage : u.stage with
  | needRequestLine =>
    cases hafter : after? Upgrade.requestFront line with
    | none => simp only [Upgrade.feed, hstage, hafter]
    | some rest => simp only [Upgrade.feed, hstage, hafter, target_eq, bind, Except.bind, pure,
      Except.pure]
  | readingHeaders | headersDone => rfl

end Checked
end NetShell
