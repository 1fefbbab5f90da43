import NetShell.Proofs.Turns

/-! What the transport is offered, message by message.

A handler sends messages one after another, over a transport that does as it likes: it
takes some of what it is offered, takes nothing, is interrupted, or fails, and someone may
ask for the connection's end in the middle of a write. Whatever it does, the bytes it takes
during one message are a front of that message's encoding. Each write offers what is left of
the part that the bytes taken before it have come to (`restAt`), so that nothing is lost,
repeated or reordered; a *refusal*, a write that takes nothing or fails otherwise than by being
interrupted, is the last write of its message. `Outlet.drain` goes through one part (`Orderly`), a
message through its parts, and `Outlet.sent_postAll` is about any number of messages. -/
namespace NetShell
open WebSocket Event

/-! ### Reading a history of writes -/

namespace Event

def isWrite : Event → Bool
  | .write .. => true
  | _ => false

/-- The notice that a message could not be sent. -/
def isReport : Event → Bool
  | .log (.sendFailed ..) => true
  | _ => false

/-- How many bytes a write takes. -/
def takes : Except Fault Nat → Nat
  | .ok count => count
  | .error _ => 0

/-- The fault that a write ends its message with, if it does. -/
def refusal? : Except Fault Nat → Option Fault
  | .ok 0 => some (.plain .writeZero)
  | .ok _ => none
  | .error fault => if fault.isInterrupted then none else some fault

/-- The faults that writes ended their messages with. -/
def refusals (events : List Event) : List Fault :=
  events.filterMap fun
    | .write _ _ outcome => refusal? outcome
    | _ => none

@[simp] theorem refusals_nil : refusals [] = [] := rfl

@[simp] theorem refusals_append (a b : List Event) : refusals (a ++ b) = refusals a ++ refusals b :=
  List.filterMap_append

theorem refusals_of_isWrite {events : List Event} (h : ∀ e ∈ events, e.isWrite = false) :
    refusals events = [] := by
  rw [refusals, List.filterMap_eq_nil_iff]
  intro e he
  have := h e he
  cases e with
  | write => cases this
  | _ => rfl

theorem accepted_of_isWrite {events : List Event} (h : ∀ e ∈ events, e.isWrite = false) :
    accepted events = [] := by
  rw [accepted, List.flatMap_eq_nil_iff]
  intro e he
  have := h e he
  cases e with
  | write => cases this
  | _ => rfl

theorem isWrite_of_isFarewell {e : Event} (h : e.isFarewell = true) : e.isWrite = false := by
  cases e with
  | write => cases h
  | _ => rfl

theorem isReport_of_isFarewell {e : Event} (h : e.isFarewell = true) : e.isReport = false := by
  cases e with
  | log n => cases n <;> first | rfl | cases h
  | _ => rfl

end Event

/-! ### Messages and their parts -/

/-- One thing that is sent to the peer. -/
inductive Message
  /-- the bytes as they are -/
  | raw (data : Bytes)
  | text (data : Bytes)
  | pong (data : Bytes)
  /-- a text frame after an upgrade, the bytes as they are before it -/
  | reply (data : Bytes)

namespace Message

def data : Message → Bytes
  | raw data | text data | pong data | reply data => data

/-- A server frame in its two parts: the front, which says how long the payload is, and the
payload. -/
def frameParts (first : UInt8) (payload : Bytes) : List Bytes :=
  [first :: lengthField payload.length, payload]

/-- The encoding of a message, part by part. -/
def parts (framed : Bool) : Message → List Bytes
  | raw data => [data]
  | text data => frameParts 0x81 data
  | pong data => frameParts 0x8A data
  | reply data => if framed then frameParts 0x81 data else [data]

end Message

/-- What is left, where so many bytes of the parts have been taken, of the part that comes next:
the part is never empty while there are bytes left. -/
def restAt : List Bytes → Nat → Bytes
  | [], _ => []
  | part :: parts, taken => if taken < part.length then part.drop taken else restAt parts
    (taken - part.length)

theorem restAt_one (part : Bytes) (taken : Nat) : restAt [part] taken = part.drop taken := by
  simp only [restAt]
  split
  · rfl
  · exact (List.drop_eq_nil_of_le (by omega)).symm

theorem restAt_past (part : Bytes) (parts : List Bytes) (taken : Nat) :
    restAt (part :: parts) (part.length + taken) = restAt parts taken := by
  rw [restAt, if_neg (by omega), Nat.add_sub_cancel_left]

theorem restAt_within {part : Bytes} {parts : List Bytes} {taken : Nat} (h : part.drop taken ≠ []) :
    restAt (part :: parts) taken = part.drop taken := by
  rw [restAt, if_pos]
  by_contra hle
  exact h (List.drop_eq_nil_of_le (by omega))

namespace Outlet

/-! ### One write -/

/-- A write in a history of writing `parts` to the transport of a link. -/
structure InPlace (link : Nat) (parts : List Bytes) (before : List Event) (sink : Nat)
    (offered : Bytes) (outcome : Except Fault Nat) (after : List Event) : Prop where
  link : sink = link
  /-- an empty part is not written -/
  offers : offered ≠ []
  /-- exactly what has not been taken of the current part -/
  rest : offered = restAt parts (accepted before).length
  within : ∀ count, outcome = .ok count → count ≤ offered.length
  /-- after a refusal nothing more is offered -/
  last : ∀ fault, refusal? outcome = some fault → ∀ e ∈ after, e.isWrite = false

/-! ### Writing parts -/

/-- What writing `parts` comes to, up to the first refusal. -/
structure Orderly (link : Nat) (parts : List Bytes) (events : List Event)
    (failure : Option Fault) : Prop where
  writes : ∀ before sink offered outcome after,
    events = before ++ .write sink offered outcome :: after →
    InPlace link parts before sink offered outcome after
  taken : accepted events <+: parts.flatten
  whole : accepted events = parts.flatten ↔ failure = none
  refused : refusals events = failure.toList
  others : ∀ e ∈ events, e.isWrite = true ∨ e.isFarewell = true

namespace Orderly

variable {link : Nat} {parts : List Bytes} {part data : Bytes} {events a b : List Event}
  {failure : Option Fault}
  {fault : Fault} {outcome : Except Fault Nat}

theorem nothing (h : parts.flatten = []) : Orderly link parts [] none where
  writes := fun before sink offered outcome after heq => by simp at heq
  taken := List.nil_prefix
  whole := by simp [h]
  refused := rfl
  others := by simp

/-- Someone asks for the connection's end first. -/
theorem ask (ha : ∀ e ∈ a, e.isFarewell = true) (h : Orderly link parts events failure) :
    Orderly link parts (a ++ events) failure := by
  have hnone : ∀ e ∈ a, e.isWrite = false := fun e he => isWrite_of_isFarewell (ha e he)
  have htaken : accepted (a ++ events) = accepted events := by
    rw [accepted_append, accepted_of_isWrite hnone, List.nil_append]
  refine ⟨?_, htaken ▸ h.taken, htaken ▸ h.whole, ?_, ?_⟩
  · intro before sink offered outcome after heq
    rcases split_append heq with ⟨front, rfl, hrest⟩ | ⟨back, rfl, -⟩
    · have hw := h.writes front sink offered outcome after hrest
      refine ⟨hw.link, hw.offers, ?_, hw.within, hw.last⟩
      rw [accepted_append, accepted_of_isWrite hnone, List.nil_append]
      exact hw.rest
    · cases hnone (.write sink offered outcome) (by simp)
  · rw [refusals_append, refusals_of_isWrite hnone, List.nil_append]
    exact h.refused
  · exact List.forall_mem_append.2 ⟨fun e he => .inr (ha e he), h.others⟩

/-- A write of one part is refused. -/
theorem refuse (hd : data ≠ []) (hf : refusal? outcome = some fault) :
    Orderly link [data] [.write link data outcome] (some fault) := by
  have hnone : accepted [.write link data outcome] = [] := by
    rcases outcome with fault | _ | count
    · rfl
    · rfl
    · cases hf
  refine ⟨?_, hnone ▸ List.nil_prefix,
    by simp [hnone, hd.symm], by simp [refusals, hf], by simp [isWrite]⟩
  intro before sink offered outcome' after heq
  cases before with
  | nil =>
    simp only [List.nil_append, List.cons.injEq, Event.write.injEq] at heq
    obtain ⟨⟨rfl, rfl, rfl⟩, rfl⟩ := heq
    refine ⟨rfl, hd, (restAt_one data 0).symm, ?_, by simp⟩
    rintro count rfl
    cases count with
    | zero => exact Nat.zero_le _
    | succ => cases hf
  | cons => simp at heq

/-- A write of one part is taken in part, or is to be made again; then the rest is written. -/
theorem write (hd : data ≠ []) (hn : takes outcome ≤ data.length) (hf : refusal? outcome = none)
    (h : Orderly link [data.drop (takes outcome)] events failure) :
    Orderly link [data] (.write link data outcome :: events) failure := by
  have hfirst : accepted [.write link data outcome] = data.take (takes outcome) := by
    cases outcome with
    | ok count => rw [accepted_write, accepted_nil, List.append_nil, takes]
    | error => rfl
  have hsplit : accepted (.write link data outcome :: events) = data.take (takes outcome) ++
      accepted events := by
    rw [← List.singleton_append, accepted_append, hfirst]
  have hdata : [data].flatten = data.take (takes outcome) ++ [data.drop (takes outcome)].flatten :=
    by simp
  refine ⟨?_, ?_, ?_, ?_, List.forall_mem_cons.2 ⟨.inl rfl, h.others⟩⟩
  · intro before sink offered outcome' after heq
    cases before with
    | nil =>
      simp only [List.nil_append, List.cons.injEq, Event.write.injEq] at heq
      obtain ⟨⟨rfl, rfl, rfl⟩, rfl⟩ := heq
      refine ⟨rfl, hd, (restAt_one data 0).symm, ?_, fun _ ho => ?_⟩
      · rintro count rfl
        exact hn
      · cases hf.symm.trans ho
    | cons first before =>
      simp only [List.cons_append, List.cons.injEq] at heq
      obtain ⟨rfl, heq⟩ := heq
      have hw := h.writes before sink offered outcome' after heq
      refine ⟨hw.link, hw.offers, ?_, hw.within, hw.last⟩
      have hlen : (accepted (.write link data outcome :: before)).length =
          takes outcome + (accepted before).length := by
        rw [← List.singleton_append, accepted_append, hfirst, List.length_append,
          List.length_take_of_le hn]
      rw [hw.rest, restAt_one, restAt_one, hlen, List.drop_drop]
  · rw [hsplit, hdata]
    exact (List.prefix_append_right_inj _).2 h.taken
  · rw [hsplit, hdata, List.append_cancel_left_eq]
    exact h.whole
  · rw [← List.singleton_append, refusals_append, h.refused]
    simp [refusals, hf]

/-- A part that is refused ends the message. -/
theorem stop (h : Orderly link [part] events (some fault)) (parts : List Bytes) :
    Orderly link (part :: parts) events (some fault) := by
  have htaken : accepted events <+: part := by simpa using h.taken
  have hnot : accepted events ≠ part := by simpa using h.whole
  have hlt : (accepted events).length < part.length := by
    have := htaken.length_le
    rcases Nat.lt_or_eq_of_le this with hlt | heq
    · exact hlt
    · exact absurd (htaken.eq_of_length heq) hnot
  refine ⟨?_, htaken.trans (by simp), ?_, h.refused, h.others⟩
  · intro before sink offered outcome after heq
    have hw := h.writes before sink offered outcome after heq
    have hrest := hw.rest
    rw [restAt_one] at hrest
    exact ⟨hw.link, hw.offers, hrest.trans (restAt_within (hrest ▸ hw.offers)).symm,
      hw.within, hw.last⟩
  · refine ⟨fun heq => ?_, by simp⟩
    have := congrArg List.length heq
    simp only [List.flatten_cons, List.length_append] at this
    omega

/-- After a part that has been taken whole come the others. -/
theorem append (ha : Orderly link [part] a none) (hb : Orderly link parts b failure) :
    Orderly link (part :: parts) (a ++ b) failure := by
  have hpart : accepted a = part := by simpa using ha.whole
  have hsplit : accepted (a ++ b) = part ++ accepted b := by rw [accepted_append, hpart]
  have hnone : refusals a = [] := ha.refused
  refine ⟨?_, ?_, ?_, ?_, List.forall_mem_append.2 ⟨ha.others, hb.others⟩⟩
  · intro before sink offered outcome after heq
    rcases split_append heq with ⟨front, rfl, hrest⟩ | ⟨back, rfl, rfl⟩
    · have hw := hb.writes front sink offered outcome after hrest
      refine ⟨hw.link, hw.offers, ?_, hw.within, hw.last⟩
      rw [accepted_append, hpart, List.length_append, restAt_past]
      exact hw.rest
    · have hw := ha.writes before sink offered outcome back rfl
      have hat := hw.rest
      rw [restAt_one] at hat
      have hrest : offered = restAt (part :: parts) (accepted before).length :=
        hat.trans (restAt_within (hat ▸ hw.offers)).symm
      refine ⟨hw.link, hw.offers, hrest, hw.within, fun fault hf => ?_⟩
      -- no write of a part that is taken whole is refused
      simp [refusals, hf] at hnone
  · rw [hsplit, List.flatten_cons]
    exact (List.prefix_append_right_inj _).2 hb.taken
  · rw [hsplit, List.flatten_cons, List.append_cancel_left_eq]
    exact hb.whole
  · rw [refusals_append, hnone, List.nil_append, hb.refused]

end Orderly

/-- Going through one part writes it in order. -/
theorem orderly_drain (script : List Acceptance) (data : Bytes) (l : Link) :
    Orderly l.id [data] (drain script data l).events (drain script data l).value.failure ∧
      (drain script data l).value.link.id = l.id := by
  induction script generalizing data l with
  | nil =>
    cases data with
    | nil => exact ⟨.nothing rfl, rfl⟩
    | cons b data =>
      cases ho : l.isOpen with
      | true =>
        simp only [drain, ho, if_true]
        exact ⟨.write (by simp) (Nat.le_refl _) rfl (.nothing (by simp [takes])), rfl⟩
      | false =>
        simp only [drain, ho]
        exact ⟨.refuse (by simp) rfl, rfl⟩
  | cons a script ih =>
    cases data with
    | nil => exact ⟨.nothing rfl, rfl⟩
    | cons b data =>
      cases ho : l.isOpen with
      | false =>
        simp only [drain, ho]
        exact ⟨.refuse (by simp) rfl, rfl⟩
      | true =>
        have hbound : l.hook = none → l.torn = true := fun hh => by simp [Link.isOpen, hh] at ho
        cases a with
        | shutdown =>
          simp only [drain, ho, if_true, Traced.value_bind, Traced.events_bind]
          obtain ⟨horderly, hid⟩ := ih (b :: data) l.shutdown.value
          rw [Link.id_shutdown] at horderly hid
          exact ⟨horderly.ask (Link.isFarewell_of_shutdown hbound), hid⟩
        | fault fault =>
          simp only [drain, ho, if_true]
          cases hi : fault.isInterrupted with
          | true =>
            obtain ⟨horderly, hid⟩ := ih (b :: data) l
            exact ⟨.write (by simp) (Nat.zero_le _) (by simp [refusal?, hi]) horderly, hid⟩
          | false => exact ⟨.refuse (by simp) (by simp [refusal?, hi]), rfl⟩
        | upTo count =>
          simp only [drain, ho, if_true]
          cases htaken : min count (b :: data).length with
          | zero => exact ⟨.refuse (by simp) rfl, rfl⟩
          | succ n =>
            obtain ⟨horderly, hid⟩ := ih ((b :: data).drop (n + 1)) l
            exact ⟨.write (by simp) (htaken ▸ Nat.min_le_right ..) rfl horderly, hid⟩

/-- Going through the parts of a message writes them in order. -/
theorem orderly_drainAll (parts : List Bytes) (script : List Acceptance) (l : Link) :
    Orderly l.id parts (drainAll parts script l).events (drainAll parts script l).value.failure ∧
      (drainAll parts script l).value.link.id = l.id := by
  induction parts generalizing script l with
  | nil => exact ⟨.nothing rfl, rfl⟩
  | cons part parts ih =>
    obtain ⟨hpart, hid⟩ := orderly_drain script part l
    simp only [drainAll, Traced.value_bind, Traced.events_bind]
    cases hf : (drain script part l).value.failure with
    | none =>
      obtain ⟨hrest, hid'⟩ := ih (drain script part l).value.left (drain script part l).value.link
      rw [hid] at hrest hid'
      exact ⟨(hf ▸ hpart).append hrest, hid'⟩
    | some fault =>
      simp only [Traced.value_pure, Traced.events_pure, List.append_nil, hf]
      exact ⟨(hf ▸ hpart).stop parts, hid⟩

/-! ### Messages -/

/-- Send one message. -/
def post : Message → Outlet → Link → Except Misuse (Traced (Outlet × Link))
  | .raw data => send data
  | .text data => sendFrame data
  | .pong data => sendPong data
  | .reply data => reply data

/-- Send one message after another, up to the first misuse; what happened during each of them. -/
def postAll : List Message → Outlet → Link → Except Misuse (List (List Event) × Outlet × Link)
  | [], o, l => .ok ([], o, l)
  | m :: rest, o, l => do
    let sent ← post m o l
    let (histories, o, l) ← postAll rest sent.value.1 sent.value.2
    pure (sent.events :: histories, o, l)

/-- A message is sent in its parts. -/
theorem post_eq (m : Message) (o : Outlet) : post m o = transmit (m.parts o.framed) m.data o := by
  cases m with
  | raw data => rfl
  | text data => rw [post, sendFrame_eq]; rfl
  | pong data => rw [post, sendPong_eq]; rfl
  | reply data =>
    cases ho : o.framed with
    | true =>
      funext l
      simp only [post, reply, ho, if_true, sendFrame_eq]
      rfl
    | false =>
      funext l
      simp only [post, reply, ho]
      rfl

/-- What sending `data` in `parts` comes to: the parts are written in order, up to the first
refusal, and the refusal is reported once, with the data but without the front of a frame, unless it
was to be expected. -/
structure Sent (conn link : Nat) (parts : List Bytes) (data : Bytes)
    (events : List Event) : Prop where
  writes : ∀ before sink offered outcome after,
    events = before ++ .write sink offered outcome :: after →
    InPlace link parts before sink offered outcome after
  taken : accepted events <+: parts.flatten
  whole : accepted events = parts.flatten ↔ refusals events = []
  once : (refusals events).length ≤ 1
  reports : events.filter isReport =
    ((refusals events).filter fun fault => !fault.isTeardown).map fun fault =>
      .log (.sendFailed conn fault data)
  others : ∀ e ∈ events, e.isWrite = true ∨ e.isReport = true ∨ e.isFarewell = true

/-- A failed message is reported unless the failure was to be expected. -/
theorem noteFailure_eq (conn : Nat) (data : Bytes) (failure : Option Fault) :
    (noteFailure conn data failure).events =
      (failure.toList.filter fun fault => !fault.isTeardown).map fun fault =>
        .log (.sendFailed conn fault data) := by
  cases failure with
  | none => rfl
  | some fault =>
    cases ht : fault.isTeardown with
    | true => simp [noteFailure, ht]
    | false => simp [noteFailure, ht]

theorem InPlace.followed {link : Nat} {parts : List Bytes} {before : List Event} {sink : Nat}
    {offered : Bytes} {outcome : Except Fault Nat} {a b : List Event}
    (h : InPlace link parts before sink offered outcome a) (hb : ∀ e ∈ b, e.isWrite = false) :
    InPlace link parts before sink offered outcome (a ++ b) :=
  ⟨h.link, h.offers, h.rest, h.within, fun fault hf =>
    List.forall_mem_append.2 ⟨h.last fault hf, hb⟩⟩

/-- Parts that are written in order, and then the report of what refused them. -/
theorem Orderly.sent {link : Nat} {parts : List Bytes} {events : List Event}
    {failure : Option Fault} (h : Orderly link parts events failure) (conn : Nat) (data : Bytes) :
    Sent conn link parts data (events ++ (noteFailure conn data failure).events) := by
  have hreport : ∀ e ∈ (noteFailure conn data failure).events, e.isReport = true := by
    rw [noteFailure_eq]
    exact List.forall_mem_map.2 fun _ _ => rfl
  have hnone : ∀ e ∈ (noteFailure conn data failure).events, e.isWrite = false := by
    rw [noteFailure_eq]
    exact List.forall_mem_map.2 fun _ _ => rfl
  have hwritten : ∀ e ∈ events, e.isReport = false := fun e he => by
    rcases h.others e he with hw | hf
    · cases e with
      | write => rfl
      | _ => cases hw
    · exact isReport_of_isFarewell hf
  have htaken : accepted (events ++ (noteFailure conn data failure).events) = accepted events := by
    rw [accepted_append, accepted_of_isWrite hnone, List.append_nil]
  have hrefused : refusals (events ++ (noteFailure conn data failure).events) = failure.toList := by
    rw [refusals_append, refusals_of_isWrite hnone, List.append_nil, h.refused]
  refine ⟨?_, htaken ▸ h.taken, ?_, ?_, ?_, ?_⟩
  · intro before sink offered outcome after heq
    rcases split_append heq with ⟨front, -, hrest⟩ | ⟨back, rfl, rfl⟩
    · cases hnone (.write sink offered outcome) (by simp [hrest])
    · exact (h.writes before sink offered outcome back rfl).followed hnone
  · rw [htaken, h.whole, hrefused]
    cases failure <;> simp
  · rw [hrefused]
    cases failure <;> simp
  · rw [List.filter_append, List.filter_eq_nil_iff.2 fun e he => by simp [hwritten e he],
      List.nil_append, List.filter_eq_self.2 hreport, hrefused, noteFailure_eq]
  · refine List.forall_mem_append.2 ⟨fun e he => ?_, fun e he => .inr (.inl (hreport e he))⟩
    rcases h.others e he with hw | hf
    · exact .inl hw
    · exact .inr (.inr hf)

/-- One message, from an outlet that has not been released. -/
theorem sent_post (m : Message) {o : Outlet} (ho : o.released = false) (l : Link) :
    ∃ sent script, post m o l = .ok sent ∧ sent.value.1 = { o with script } ∧
      sent.value.2.id = l.id ∧
      Sent o.conn l.id (m.parts o.framed) m.data sent.events := by
  obtain ⟨horderly, hid⟩ := orderly_drainAll (m.parts o.framed) o.script l
  have hpost : post m o l = .ok
      ⟨({ o with script := (drainAll (m.parts o.framed) o.script l).value.left },
          (drainAll (m.parts o.framed) o.script l).value.link),
        (drainAll (m.parts o.framed) o.script l).events ++
          (noteFailure o.conn m.data
            (drainAll (m.parts o.framed) o.script l).value.failure).events⟩ := by
    rw [post_eq]
    simp [transmit, ho, bind, pure]
  exact ⟨_, _, hpost, rfl, hid, horderly.sent o.conn m.data⟩

/-- **What is sent.** Any messages can be sent one after another from an outlet that has not been
released, over any transport, and what happens during each of them is that its parts are written in
order. -/
theorem sent_postAll (messages : List Message) {o : Outlet} (ho : o.released = false) (l : Link) :
    ∃ histories script l', postAll messages o l = .ok (histories, { o with script }, l') ∧
      l'.id = l.id ∧
      List.Forall₂ (fun m events => Sent o.conn l.id (m.parts o.framed) m.data events) messages
        histories := by
  induction messages generalizing o l with
  | nil => exact ⟨[], o.script, l, rfl, rfl, .nil⟩
  | cons m rest ih =>
    obtain ⟨⟨⟨o', l'⟩, events⟩, script, hpost, rfl, hid, hsent⟩ := sent_post m ho l
    obtain ⟨histories, script', l'', hrest, hid', hall⟩ := ih (o := { o with script }) ho l'
    refine ⟨events :: histories, script', l'', ?_, hid'.trans hid, ?_⟩
    · simp [postAll, hpost, hrest, bind, Except.bind, pure, Except.pure]
    · exact .cons hsent (by rwa [hid] at hall)

/-- A newline is taken after an interruption; of a reply the front is taken piece by piece and the
payload refused, and a pong is sent after it. -/
theorem sent_partly :
    let o : Outlet :=
      { conn := 3, framed := true, script :=
      [.fault (.plain .interrupted), .upTo 9, .upTo 1, .upTo 1, .upTo 0] }
    let messages : List Message := [.raw [10], .reply [104, 105], .pong []]
    o.released = false ∧
      ∃ histories script l', postAll messages o {} = .ok (histories, { o with script }, l') ∧
      l'.id = 0 ∧
        List.Forall₂ (fun m events => Sent 3 0 (m.parts true) m.data events) messages histories :=
  ⟨rfl, sent_postAll [.raw [10], .reply [104, 105], .pong []] rfl {}⟩

/-- The same, event by event. -/
example :
    (postAll [.raw [10], .reply [104, 105], .pong []]
        { conn := 3, framed := true, script :=
          [.fault (.plain .interrupted), .upTo 9, .upTo 1, .upTo 1, .upTo 0] }
        {}).map (·.1) =
      .ok [[.write 0 [10] (.error (.plain .interrupted)), .write 0 [10] (.ok 1)],
        [.write 0 [0x81, 2] (.ok 1), .write 0 [2] (.ok 1), .write 0 [104, 105] (.ok 0),
          .log (.sendFailed 3 (.plain .writeZero) [104, 105])],
        [.write 0 [0x8A, 0] (.ok 2)]] := rfl

end Outlet
end NetShell
