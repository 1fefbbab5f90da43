import NetShell.Proofs.ShellFrames

/-! What becomes of the telnet commands in a line.

The bytes of a command are above `0xF0`, and the first byte after an IAC that is not ends the
line: so up to the last byte of a line there is nothing but commands after its first IAC
(`Telnet.Emits.above`). The byte that ends a line stays in it for the shell to see. That holds
of each one but the newline, which is meant to go, and the carriage return, which is taken for
half a line end (`Telnet.boundary_kept_iff`).

An interrupt may come after other commands of its line. The shell looks at the first command
only: it answers an interrupt that is the first, and passes over one that is not
(`Shell.interrupt_answered`). -/
namespace NetShell
open WebSocket Event

namespace Telnet

/-! ### The byte that ends a line -/

theorem above_of_not_ended {front : Bytes} {c : UInt8} (hiac : iac ∈ front)
    (h : ¬ Ended (front ++ [c])) :
    0xF0 < c := by
  by_contra hle
  exact h ⟨front, c, rfl, .inr (.inr ⟨hiac, UInt8.not_lt.1 hle⟩)⟩

/-- Up to the last byte of a segment, what follows an IAC is above `0xF0`. -/
theorem IsSegment.above {front rest : Bytes} {c : UInt8} (h : IsSegment (front ++ c :: rest))
    (hiac : iac ∈ front) (hrest : rest ≠ []) : 0xF0 < c := by
  refine above_of_not_ended hiac fun hended => hrest ?_
  have hwhole := h.shortest (front ++ [c]) ⟨rest, by simp⟩ hended
  simpa using hwhole

theorem Unended.above {front rest : Bytes} {c : UInt8} (h : Unended (front ++ c :: rest))
    (hiac : iac ∈ front) :
    0xF0 < c :=
  above_of_not_ended hiac (h _ ⟨rest, by simp⟩)

theorem stripReturn_concat (front : Bytes) (b : UInt8) :
    stripReturn (front ++ [b]) = if b = carriageReturn then front else front ++ [b] := by
  simp only [stripReturn, List.getLast?_concat, List.dropLast_concat, Option.some.injEq]

theorem lineOf_concat (front : Bytes) (b : UInt8) :
    lineOf (front ++ [b]) = if b = newline then stripReturn front
      else if b = carriageReturn then front else front ++ [b] := by
  simp only [lineOf, List.getLast?_concat, List.dropLast_concat, Option.some.injEq]
  split
  · rfl
  · exact stripReturn_concat front b

/-- A line that a carriage return ends has no other before that one. -/
theorem IsSegment.last_ne_return {front : Bytes} (h : IsSegment (front ++ [carriageReturn])) :
    front.getLast? ≠ some carriageReturn := by
  intro hlast
  obtain ⟨front, rfl⟩ := List.getLast?_eq_some_iff.1 hlast
  obtain ⟨front', b, heq, hended⟩ := h.ended
  obtain ⟨rfl, hb⟩ := List.append_inj' heq rfl
  obtain rfl := List.singleton_inj.1 hb
  rcases hended with hb | hb | ⟨hiac, -⟩
  · exact absurd hb (by decide)
  · exact absurd hb (by decide)
  · have hbefore : iac ∈ front := (List.mem_append.1 hiac).resolve_right (by decide)
    rw [List.append_assoc] at h
    exact absurd (h.above hbefore (by simp)) (by decide)

/-- **The byte that ends a line is the last of the line**, unless it is a carriage return; and a
newline is left out with one carriage return before it. -/
theorem boundary_kept_iff {buffer : Bytes} {index : Nat} (h : boundary buffer = some index) :
    ∃ b line, buffer[index]? = some b ∧ cut buffer index = some (line, buffer.drop (index + 1)) ∧
      (b ≠ newline → (line.getLast? = some b ↔ b ≠ carriageReturn)) ∧
      line = if b = newline then stripReturn (buffer.take index)
        else if b = carriageReturn then buffer.take index else buffer.take (index + 1) := by
  obtain ⟨hlt, hsegment⟩ := boundary_eq_some h
  have hsplit : buffer.take (index + 1) = buffer.take index ++ [buffer[index]] :=
    List.take_succ_eq_append_getElem hlt
  refine ⟨buffer[index], _, List.getElem?_eq_getElem hlt, cut_at hlt, fun hne => ?_, ?_⟩
  · rw [hsplit, lineOf_concat, if_neg hne]
    rw [hsplit] at hsegment
    by_cases hreturn : buffer[index] = carriageReturn
    · rw [hreturn] at hsegment ⊢
      simpa using hsegment.last_ne_return
    · rw [if_neg hreturn, List.getLast?_concat]
      exact iff_of_true rfl hreturn
  · rw [hsplit, lineOf_concat]

/-- The line that ctrl-D ends holds it still. -/
theorem boundary_kept_iff_eot :
    let buffer : Bytes := [0x71, eot, 0x0A]
    boundary buffer = some 1 ∧
      ∃ b line, buffer[1]? = some b ∧ cut buffer 1 = some (line, buffer.drop 2) ∧
        (b ≠ newline → (line.getLast? = some b ↔ b ≠ carriageReturn)) ∧
        line = if b = newline then stripReturn (buffer.take 1)
          else if b = carriageReturn then buffer.take 1 else buffer.take 2 := by
  intro buffer
  have hb : boundary buffer = some 1 := by decide
  exact ⟨hb, boundary_kept_iff hb⟩

/-- A client offers its option 13, whose number is that of a carriage return: it ends the line
and is not in it. -/
theorem return_dropped :
    let buffer : Bytes := [iac, 0xFB, carriageReturn]
    boundary buffer = some 2 ∧ buffer[2]? = some carriageReturn ∧ carriageReturn ≠ newline ∧
      cut buffer 2 = some ([iac, 0xFB], []) ∧
        ([iac, 0xFB] : Bytes).getLast? ≠ some carriageReturn := by
  decide

/-! ### The commands of a line -/

/-- What is taken off a buffer as a line: its first line, or once no line ends in it, all of it. -/
def Emits (buffer line : Bytes) : Prop :=
  (∃ rest, next? buffer = some (line, rest)) ∨ next? buffer = none ∧ remainder buffer = some line

theorem isPrefix_stripReturn (s : Bytes) : stripReturn s <+: s := by
  unfold stripReturn
  split
  · exact List.dropLast_prefix s
  · exact List.prefix_rfl

theorem isPrefix_lineOf (s : Bytes) : lineOf s <+: s := by
  refine (isPrefix_stripReturn _).trans ?_
  split
  · exact List.dropLast_prefix s
  · exact List.prefix_rfl

theorem eq_stripReturn_of_remainder {buffer line : Bytes} (h : remainder buffer = some line) :
    line = stripReturn buffer := by
  simp only [remainder] at h
  split at h
  · cases h
  · exact (Option.some.inj h).symm

/-- **After its first IAC a line holds nothing but commands**, up to its last byte. -/
theorem Emits.above {buffer front rest : Bytes} {c : UInt8} (h : Emits buffer (front ++ c :: rest))
    (hiac : iac ∈ front) (hrest : rest ≠ []) : 0xF0 < c := by
  have hsplit : ∀ {s tail : Bytes}, front ++ c :: rest ++ tail = s →
      s = front ++ c :: (rest ++ tail) := by
    rintro _ _ rfl
    simp
  rcases h with ⟨left, hnext⟩ | ⟨hnone, hremainder⟩
  · obtain ⟨segment, hsegment, -, hline⟩ := next?_eq_some_iff.1 hnext
    obtain ⟨tail, htail⟩ := hline ▸ isPrefix_lineOf segment
    rw [hsplit htail] at hsegment
    exact hsegment.above hiac (by simp [hrest])
  · have hunended := next?_eq_none_iff.1 hnone
    obtain ⟨tail, htail⟩ := eq_stripReturn_of_remainder hremainder ▸ isPrefix_stripReturn buffer
    rw [hsplit htail] at hunended
    exact hunended.above hiac

/-- A line with an interrupt in it has a first command, and more after that one unless it is the
interrupt. -/
theorem first_command {line : Bytes} (h : [iac, interrupt] <:+: line) :
    ∃ front c rest, line = front ++ iac :: c :: rest ∧ iac ∉ front ∧
      (c ≠ interrupt → rest ≠ []) := by
  obtain ⟨before, after, hline⟩ := h
  have hmem : iac ∈ line := by simp [← hline]
  obtain ⟨front, rest, rfl, hfirst⟩ := List.eq_append_cons_of_mem hmem
  rw [List.append_assoc, List.cons_append, List.cons_append, List.nil_append,
    List.append_eq_append_iff] at hline
  rcases hline with ⟨gap, hfront, hrest⟩ | ⟨gap, -, hrest⟩
  · cases gap with
    | nil =>
      obtain ⟨-, rfl⟩ := List.cons.inj hrest
      exact ⟨front, interrupt, after, rfl, hfirst, fun hne => absurd rfl hne⟩
    | cons b gap =>
      obtain ⟨rfl, -⟩ := List.cons.inj hrest
      exact absurd (by simp [hfront]) hfirst
  · cases gap with
    | nil =>
      obtain ⟨-, rfl⟩ := List.cons.inj hrest
      exact ⟨front, interrupt, after, rfl, hfirst, fun hne => absurd rfl hne⟩
    | cons b gap =>
      obtain ⟨-, rfl⟩ := List.cons.inj hrest
      cases gap with
      | nil => exact ⟨front, iac, interrupt :: after, rfl, hfirst, by simp⟩
      | cons c gap => exact ⟨front, c, gap ++ iac :: interrupt :: after, rfl, hfirst, by simp⟩

end Telnet

/-! ### What the shell does -/

namespace Desk

variable {d : Desk}

/-- Messages that are sent raw over a willing transport are taken one after another. -/
theorem accepted_sends (hr : d.Ready) (hw : d.Willing) (ho : d.link.isOpen = true)
    (messages : List Bytes) :
    accepted (d.perform (messages.map .send)).events = messages.flatten := by
  induction messages generalizing d with
  | nil => rfl
  | cons data rest ih =>
    obtain ⟨htaken, hwilling, hlink⟩ := transmit_willing hr hw [data] data
    have hready := (moves_transmit hr [data] data).ready hr
    have hrest := ih hready hwilling (hlink ▸ ho)
    rw [ho, if_pos rfl, List.flatten_singleton] at htaken
    rw [List.map_cons, perform_cons hr.unreleased, accepted_append, List.flatten_cons]
    exact congrArg₂ (· ++ ·) htaken hrest

end Desk

namespace Shell

/-- **A line with an interrupt in it is answered by a newline and the prompt just if the interrupt
is its first command**, and by nothing at all if another command comes before. In no case is
any of it echoed, or the session ended. -/
theorem interrupt_answered (prompt : String) {line : Bytes} (heot : Telnet.eot ∉ line)
    (hi : [Telnet.iac, Telnet.interrupt] <:+: line) :
    ∃ front c rest, line = front ++ Telnet.iac :: c :: rest ∧ Telnet.iac ∉ front ∧
      (∀ buffer, Telnet.Emits buffer line → 0xF0 < c) ∧
      let r := (handler ⟨prompt, .line⟩).message () line
      r.flow = .continue ∧
      r.acts = (if c = Telnet.interrupt then [.send [Telnet.newline],
        .send (Bytes.ofText prompt)] else []) ∧
      ∀ d : Desk, d.Ready → d.Willing → d.link.isOpen = true →
        accepted (d.perform r.acts).events =
          if c = Telnet.interrupt then Telnet.newline :: Bytes.ofText prompt else [] := by
  obtain ⟨front, c, rest, rfl, hfirst, hmore⟩ := Telnet.first_command hi
  have hnewline : Bytes.ofText "\n" = [Telnet.newline] := by decide
  have hacts : ((handler ⟨prompt, .line⟩).message () (front ++ Telnet.iac :: c :: rest)).acts =
      if c = Telnet.interrupt then [.send [Telnet.newline],
      .send (Bytes.ofText prompt)] else [] := by
    simp [handler, message, heot, interrupted_append hfirst, hnewline, prompting]
  have hflow : ((handler ⟨prompt, .line⟩).message () (front ++ Telnet.iac :: c :: rest)).flow =
      .continue := by
    simp [handler, message, heot]
  refine ⟨front, c, rest, rfl, hfirst, fun buffer hemits => ?_, hflow, hacts, fun d hr hw ho => ?_⟩
  · by_cases hc : c = Telnet.interrupt
    · rw [hc]
      decide
    · rw [← List.singleton_append, ← List.append_assoc] at hemits
      exact hemits.above (by simp) (hmore hc)
  · rw [hacts]
    split
    · exact Desk.accepted_sends hr hw ho [[Telnet.newline], Bytes.ofText prompt] |>.trans (by simp)
    · rfl

/-- A client types, and then interrupts as telnet clients do. -/
theorem interrupt_answered_typed :
    let hub : Hub := { capacity := 1 }
    let line : Bytes := [0x78, 0xFF, 0xF4, 0xFF, 0xFD, 0x06]
    Telnet.eot ∉ line ∧ [Telnet.iac, Telnet.interrupt] <:+: line ∧ Telnet.Emits line line ∧
      ∃ s : Session Unit, Session.accept? .line 64 () {} { started := 0 } hub = some s ∧
        s.desk.Ready ∧ s.desk.Willing ∧ s.desk.link.isOpen = true ∧
        ∃ front c rest, line = front ++ Telnet.iac :: c :: rest ∧ Telnet.iac ∉ front ∧ 0xF0 < c ∧
          let r := (handler ⟨"> ", .line⟩).message () line
          r.flow = .continue ∧
          r.acts = (if c = Telnet.interrupt then [.send [Telnet.newline],
            .send (Bytes.ofText "> ")] else []) ∧
          accepted (s.desk.perform r.acts).events =
            if c = Telnet.interrupt then Telnet.newline :: Bytes.ofText "> " else [] := by
  intro hub line
  have heot : Telnet.eot ∉ line := by decide
  have hi : [Telnet.iac, Telnet.interrupt] <:+: line := ⟨[0x78], [0xFF, 0xFD, 0x06], rfl⟩
  have hemits : Telnet.Emits line line := .inl ⟨[], by decide +kernel⟩
  have hs : hub.Sound := Hub.sound_empty 1
  have hready : ∀ {s : Session Unit}, Session.accept? .line 64 () {} { started := 0 } hub = some s →
    s.desk.Ready :=
    fun ha => (Session.accepted_of_accept? hs ha).ready
  have hwilling : ∀ {s : Session Unit},
      Session.accept? .line 64 () {} { started := 0 } hub = some s →
      s.desk.Willing := by
    intro s ha a hmem
    rw [Session.script_of_accept? ha] at hmem
    cases hmem
  obtain ⟨front, c, rest, hline, hfirst, habove, hflow, hacts, hsent⟩ :=
    interrupt_answered "> " heot hi
  exact ⟨heot, hi, hemits, _, rfl, hready rfl, hwilling rfl, rfl, front, c, rest, hline, hfirst,
    habove line hemits, hflow, hacts, hsent _ (hready rfl) (hwilling rfl) rfl⟩

/-- A client sends a command that means nothing, and then interrupts: the framer makes one line of
it, and the shell does nothing. -/
theorem interrupt_missed :
    let line : Bytes := [0x78, 0xFF, 0xF1, 0xFF, 0xF4, 0xFF, 0xFD, 0x06]
    let r := (handler ⟨"> ", .line⟩).message () line
    Telnet.Emits line line ∧ Telnet.eot ∉ line ∧ [Telnet.iac, Telnet.interrupt] <:+: line ∧
      r.acts = [] ∧ r.flow = .continue := by
  intro line r
  exact ⟨.inl ⟨[], by decide +kernel⟩,
    by decide, ⟨[0x78, 0xFF, 0xF1], [0xFF, 0xFD, 0x06], rfl⟩, rfl, rfl⟩

end Shell
end NetShell
