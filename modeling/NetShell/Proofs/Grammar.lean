import NetShell.Proofs.Masking
import NetShell.WebSocket.Frame

/-! The grammar of the frames that a client may send, and what comes of everything else.

`Written` says which bytes are a frame, and which frame they are; `Verdict` says what the front
of a buffer amounts to as soon as it amounts to something, each rule with just the bytes that it
looks at. Neither knows of the parser. What the parser makes of a buffer is the verdict on it,
and it waits just where there is none yet (`Frame.parse_eq_iff`); so there is never more than
one verdict, and the order in which the rules are checked is the order in which one makes
another impossible. -/
namespace NetShell.WebSocket.Frame

/-! ### The grammar -/

/-- A first byte that asks for a frame that is served. -/
inductive Served (first : UInt8) : Opcode → Prop
  | text : first.toNat % 16 = 1 → Served first .text
  | ping : first.toNat % 16 = 9 → Served first .ping
  | pong : first.toNat % 16 = 10 → Served first .pong

/-- The low seven bits of a frame's second byte, and the bytes that extend them, announce a
payload length. -/
inductive Announces (second : UInt8) : Bytes → Nat → Prop
  | short : second.toNat % 128 < 126 → Announces second [] (second.toNat % 128)
  | middle {field : Bytes} : second.toNat % 128 = 126 → field.length = 2 →
      Announces second field (Bytes.toNat field)
  | long {field : Bytes} : second.toNat % 128 = 127 → field.length = 8 →
      Announces second field (Bytes.toNat field)

/-- The bytes of a frame, the frame that they are, and how many they are. -/
inductive Written : Bytes → Frame → Nat → Prop
  | frame {first second : UInt8} {opcode : Opcode} {field body : Bytes} {length : Nat}
      (key : Mask) :
      Served first opcode → 128 ≤ second.toNat → Announces second field length →
      (field.length = 8 → length ≤ 1 <<< 40) → body.length = length →
      Written (first :: second :: field ++ key.toList ++ body)
        ⟨opcode, 128 ≤ first.toNat, key, key.byBytes body⟩ (2 + field.length + 4 + length)

/-- What the front of a buffer amounts to, whatever follows. -/
inductive Verdict : Bytes → Parsed → Prop
  | complete {wire rest : Bytes} {f : Frame} {size : Nat} :
      Written wire f size → Verdict (wire ++ rest) (.complete f size)
  | close {first : UInt8} {rest : Bytes} : first.toNat % 16 = 8 → Verdict (first :: rest) .close
  | unsupported {first : UInt8} {rest : Bytes} : first.toNat % 16 ∉ [1, 8, 9, 10] →
      Verdict (first :: rest) (.violation (.unsupportedOpcode (first.toNat % 16)))
  | oversized {first second : UInt8} {opcode : Opcode} {field rest : Bytes} {length : Nat} :
      Served first opcode → Announces second field length → field.length = 8 → 1 <<< 40 < length →
      Verdict (first :: second :: field ++ rest) (.violation (.oversizedFrame length))
  | unmasked {first second : UInt8} {opcode : Opcode} {field rest : Bytes} {length : Nat} :
      Served first opcode → Announces second field length →
      ¬ (field.length = 8 ∧ 1 <<< 40 < length) →
      second.toNat < 128 → Verdict (first :: second :: field ++ rest) (.violation .unmaskedFrame)

theorem Written.length {wire : Bytes} {f : Frame} {size : Nat} (h : Written wire f size) :
    wire.length = size := by
  cases h with
  | frame key _ _ _ _ hbody =>
    simp only [Mask.toList, List.length_cons, List.length_append, List.length_nil, hbody]
    omega

theorem maxLength_eq : maxLength = 1 <<< 40 := rfl

/-! ### The first byte -/

variable {first second : UInt8} {opcode : Opcode} {field rest : Bytes} {length : Nat}

theorem served_or (first : UInt8) :
    (∃ opcode, Served first opcode) ∨ first.toNat % 16 = 8 ∨ first.toNat % 16 ∉ [1, 8, 9, 10] := by
  by_cases htext : first.toNat % 16 = 1
  · exact .inl ⟨_, .text htext⟩
  by_cases hping : first.toNat % 16 = 9
  · exact .inl ⟨_, .ping hping⟩
  by_cases hpong : first.toNat % 16 = 10
  · exact .inl ⟨_, .pong hpong⟩
  by_cases hclose : first.toNat % 16 = 8
  · exact .inr (.inl hclose)
  · exact .inr (.inr (by simp [htext, hclose, hping, hpong]))

theorem parse_served (h : Served first opcode) (rest : Bytes) :
    parse (first :: rest) = parseLength opcode (128 ≤ first.toNat) rest := by
  cases h with
  | text h | ping h | pong h =>
    simp only [parse, Opcode.ofByte, h]
    rfl

theorem parse_close (h : first.toNat % 16 = 8) (rest : Bytes) : parse (first :: rest) = .close := by
  simp only [parse, Opcode.ofByte, h]
  rfl

theorem parse_unsupported (h : first.toNat % 16 ∉ [1, 8, 9, 10]) (rest : Bytes) :
    parse (first :: rest) = .violation (.unsupportedOpcode (first.toNat % 16)) := by
  simp only [parse, Opcode.ofByte]
  generalize first.toNat % 16 = code at h ⊢
  fun_cases Opcode.ofCode code with
  -- continuations, binary frames and the reserved codes
  | case1 | case3 | case7 => rfl
  | case2 | case4 | case5 | case6 => exact absurd h (by decide)

/-! ### The length -/

theorem Announces.length_field (h : Announces second field length) :
    field.length = extension (second.toNat % 128) := by
  cases h with
  | short h =>
    rw [extension, if_neg (by omega), if_neg (by omega)]
    rfl
  | middle h hlen =>
    rw [hlen, extension, if_pos h]
  | long h hlen =>
    rw [hlen, extension, if_neg (by omega), if_pos h]

/-- Only the low seven bits of the second byte count. -/
theorem Announces.congr {second' : UInt8} (hsame : second'.toNat % 128 = second.toNat % 128)
    (h : Announces second field length) : Announces second' field length := by
  cases h with
  | short h => exact hsame ▸ .short (hsame ▸ h)
  | middle h hlen => exact .middle (hsame ▸ h) hlen
  | long h hlen => exact .long (hsame ▸ h) hlen

theorem announced_of_announces (h : Announces second field length) (rest : Bytes) :
    announced second (field ++ rest) = some length := by
  simp only [announced, ← h.length_field, List.take_left, Nat.lt_irrefl, if_false]
  cases h with
  | short => rfl
  | middle _ hlen | long _ hlen => rw [if_neg (by omega)]

theorem announces_of_announced {data : Bytes} (h : announced second data = some length) :
    ∃ field rest, data = field ++ rest ∧ Announces second field length := by
  refine ⟨_, _, (List.take_append_drop (extension (second.toNat % 128)) data).symm, ?_⟩
  simp only [announced] at h
  split at h
  · cases h
  · rename_i hlong
    simp only [Option.some.injEq] at h
    subst h
    have hlen : (data.take (extension (second.toNat % 128))).length =
        extension (second.toNat % 128) := by
      rw [List.length_take] at hlong ⊢
      omega
    by_cases hmiddle : second.toNat % 128 = 126
    · have hext : extension (second.toNat % 128) = 2 := by rw [extension, if_pos hmiddle]
      rw [hext] at hlen ⊢
      exact .middle hmiddle hlen
    · by_cases hbig : second.toNat % 128 = 127
      · have hext : extension (second.toNat % 128) = 8 := by
          rw [extension, if_neg hmiddle, if_pos hbig]
        rw [hext] at hlen ⊢
        exact .long hbig hlen
      · have hext : extension (second.toNat % 128) = 0 := by
          rw [extension, if_neg hmiddle, if_neg hbig]
        rw [hext]
        exact .short (by omega)

/-- Once the length is announced, it is looked at first, then the mask bit, then the rest. -/
theorem parseLength_announces (h : Announces second field length) (opcode : Opcode) (final : Bool)
    (rest : Bytes) :
    parseLength opcode final (second :: field ++ rest) =
      if field.length = 8 ∧ 1 <<< 40 < length then .violation (.oversizedFrame length)
      else if second.toNat < 128 then .violation .unmaskedFrame
      else parseBody opcode final length (2 + field.length) rest := by
  simp only [List.cons_append, parseLength, announced_of_announces h, ← h.length_field,
    maxLength_eq, List.drop_left]

/-! ### The key and the payload -/

theorem parseBody_complete (opcode : Opcode) (final : Bool) (start : Nat) (key : Mask)
    {body : Bytes} (hbody : body.length = length) (rest : Bytes) :
    parseBody opcode final length start (key.toList ++ (body ++ rest)) =
      .complete ⟨opcode, final, key, key.byBytes body⟩ (start + 4 + length) := by
  have htake : (body ++ rest).take length = body := by rw [← hbody, List.take_left]
  simp only [Mask.toList, List.cons_append, List.nil_append, parseBody, htake, hbody,
    Nat.lt_irrefl, if_false, Mask.apply_eq_byBytes]

/-- After the length nothing can be wrong: the key and the payload are there, or are waited for. -/
theorem parseBody_cases (opcode : Opcode) (final : Bool) (length start : Nat) (data : Bytes) :
    parseBody opcode final length start data = .incomplete ∨
      ∃ key body rest, data = Mask.toList key ++ (body ++ rest) ∧ body.length = length := by
  match data with
  | k0 :: k1 :: k2 :: k3 :: rest =>
    by_cases hshort : (rest.take length).length < length
    · exact .inl (by simp only [parseBody, if_pos hshort])
    · have hlen : (rest.take length).length = length := by
        rw [List.length_take] at hshort ⊢
        omega
      refine .inr ⟨⟨k0, k1, k2, k3⟩, rest.take length, rest.drop length, ?_, hlen⟩
      rw [List.take_append_drop]
      rfl
  | [] | [_] | [_, _] | [_, _, _] => exact .inl rfl

/-! ### Verdicts -/

/-- Each rule holds of the parser. -/
theorem Verdict.parse_eq {data : Bytes} {p : Parsed} (h : Verdict data p) : parse data = p := by
  cases h with
  | complete hw =>
    cases hw with
    | @frame first second opcode field body length key hserved hmask hlen hbound hbody =>
      have hsized : ¬ (field.length = 8 ∧ 1 <<< 40 < length) :=
        fun h => Nat.not_lt.2 (hbound h.1) h.2
      rw [List.append_assoc, List.append_assoc, List.cons_append, parse_served hserved,
        parseLength_announces hlen, if_neg hsized, if_neg (Nat.not_lt.2 hmask)]
      exact parseBody_complete _ _ _ key hbody _
  | close h => exact parse_close h _
  | unsupported h => exact parse_unsupported h _
  | oversized hserved hlen hwide hover =>
    rw [List.cons_append, parse_served hserved, parseLength_announces hlen, if_pos ⟨hwide, hover⟩]
  | unmasked hserved hlen hsized hmask =>
    rw [List.cons_append, parse_served hserved, parseLength_announces hlen, if_neg hsized,
      if_pos hmask]

/-- Unless the parser waits, one of the rules applies. -/
theorem verdict_of_parse {data : Bytes} (h : parse data ≠ .incomplete) : ∃ p, Verdict data p := by
  match data with
  | [] => exact absurd rfl h
  | first :: rest =>
    rcases served_or first with ⟨opcode, hserved⟩ | hclose | hother
    · match rest with
      | [] => exact absurd (parse_served hserved []) h
      | second :: rest =>
        cases ha : announced second rest with
        | none =>
          refine absurd ?_ h
          rw [parse_served hserved]
          simp only [parseLength, ha]
        | some length =>
          obtain ⟨field, rest, rfl, hlen⟩ := announces_of_announced ha
          by_cases hover : field.length = 8 ∧ 1 <<< 40 < length
          · exact ⟨_, .oversized hserved hlen hover.1 hover.2⟩
          by_cases hmask : second.toNat < 128
          · exact ⟨_, .unmasked hserved hlen hover hmask⟩
          rcases parseBody_cases opcode (128 ≤ first.toNat) length (2 + field.length) rest
            with hwait | ⟨key, body, more, rfl, hbody⟩
          · rw [parse_served hserved, ← List.cons_append, parseLength_announces hlen, if_neg hover,
              if_neg hmask] at h
            exact absurd hwait h
          · have hw := Written.frame key hserved (Nat.not_lt.1 hmask) hlen
              (fun hwide => Nat.not_lt.1 fun hlt => hover ⟨hwide, hlt⟩) hbody
            have hv : Verdict (first :: second :: field ++ key.toList ++ body ++ more) _ :=
              .complete hw
            rw [List.append_assoc, List.append_assoc] at hv
            exact ⟨_, hv⟩
    · exact ⟨_, .close hclose⟩
    · exact ⟨_, .unsupported hother⟩

/-- **What the parser makes of a buffer is the verdict on it**, and it waits for more just as
long as there is none. -/
theorem parse_eq_iff (data : Bytes) (p : Parsed) :
    parse data = p ↔ Verdict data p ∨ p = .incomplete ∧ ∀ q, ¬ Verdict data q := by
  constructor
  · rintro rfl
    by_cases hwait : parse data = .incomplete
    · refine .inr ⟨hwait, fun q hq => ?_⟩
      rw [← hq.parse_eq, hwait] at hq
      cases hq
    · obtain ⟨p, hp⟩ := verdict_of_parse hwait
      exact .inl (hp.parse_eq ▸ hp)
  · rintro (hp | ⟨rfl, hnone⟩)
    · exact hp.parse_eq
    · by_cases hwait : parse data = .incomplete
      · exact hwait
      · obtain ⟨q, hq⟩ := verdict_of_parse hwait
        exact absurd hq (hnone q)

/-- Not masked and too long: its length is what it is refused for. -/
example : parse [0x81, 0x7F, 0, 0, 2, 0, 0, 0, 0, 0] = .violation (.oversizedFrame 0x20000000000) :=
  by decide

end NetShell.WebSocket.Frame
