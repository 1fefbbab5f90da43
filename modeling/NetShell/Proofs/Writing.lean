import NetShell.Proofs.Conduct

/-! What sending a message writes.

Whatever the transport does, the first write of a part offers all of it (`Outlet.drain_offers`)
and the later ones offer what is left (`Outlet.offered_drain`); nothing else happens but that
someone asks for the connection's end. A transport that is *willing* takes some bytes at each write
or is interrupted: then a message is taken whole if the transport is open when it is sent, and
not at all if it has been closed (`Desk.transmit_willing`). -/
namespace NetShell
open WebSocket Event

/-- A write that takes something, or is to be made again. -/
def Acceptance.isWilling : Acceptance → Bool
  | .upTo count => count != 0
  | .fault f => f.isInterrupted
  | .shutdown => false

/-! ### One part -/

namespace Outlet

/-- The first write of a part offers all of it. -/
theorem drain_offers (script : List Acceptance) {data : Bytes} (hd : data ≠ []) {l : Link}
    (hb : l.hook = none → l.torn = true) :
    ∃ asks outcome rest, (drain script data l).events = asks ++ .write l.id data outcome :: rest ∧
      ∀ e ∈ asks, e.isFarewell = true := by
  obtain ⟨b, rest, rfl⟩ := List.exists_cons_of_ne_nil hd
  induction script generalizing l with
  | nil =>
    simp only [drain]
    split <;> exact ⟨[], _, _, rfl, by simp⟩
  | cons a script ih =>
    simp only [drain]
    split
    · cases a with
      | shutdown =>
        obtain ⟨asks, outcome, more, hevents, hasks⟩ := ih (Link.bound_shutdown hb)
        refine ⟨l.shutdown.events ++ asks, outcome, more, ?_, ?_⟩
        · rw [Link.id_shutdown] at hevents
          simp [bind, hevents]
        · exact List.forall_mem_append.2 ⟨Link.isFarewell_of_shutdown hb, hasks⟩
      | fault fault => exact ⟨[], _, _, rfl, by simp⟩
      | upTo count => exact ⟨[], _, _, rfl, by simp⟩
    · exact ⟨[], _, _, rfl, by simp⟩

/-- A write of what is left of a part, or something that is neither a write nor told to the
handler. -/
def Offers (part : Bytes) (e : Event) : Prop :=
  e.isIdle = true ∨ ∃ link offered outcome, e = .write link offered outcome ∧ offered <:+ part

theorem offered_drain (script : List Acceptance) (data : Bytes) {l : Link}
    (hb : l.hook = none → l.torn = true) :
    ∀ e ∈ (drain script data l).events, Offers data e := by
  have hwrite : ∀ {l : Link} {data : Bytes} {outcome}, Offers data (.write l.id data outcome) :=
    fun {_ _ _} =>
    .inr ⟨_, _, _, rfl, List.suffix_rfl⟩
  induction script generalizing data l with
  | nil =>
    cases data with
    | nil => simp [drain]
    | cons b data =>
      simp only [drain]
      split <;> simpa using hwrite
  | cons a script ih =>
    cases data with
    | nil => simp [drain]
    | cons b data =>
      simp only [drain]
      split
      · cases a with
        | shutdown =>
          refine List.forall_mem_append.2 ⟨fun e he => .inl ?_, ih _ (Link.bound_shutdown hb)⟩
          exact isIdle_of_isFarewell (Link.isFarewell_of_shutdown hb e he)
        | fault fault =>
          refine List.forall_mem_append.2 ⟨by simpa using hwrite, ?_⟩
          split
          · exact ih _ hb
          · simp
        | upTo count =>
          refine List.forall_mem_append.2 ⟨by simpa using hwrite, ?_⟩
          split
          · simp
          · intro e he
            rcases ih _ hb e he with hidle | ⟨link, offered, outcome, rfl, hsuffix⟩
            · exact .inl hidle
            · exact .inr ⟨link, offered, outcome, rfl, hsuffix.trans (List.drop_suffix ..)⟩
      · simpa using hwrite

theorem isIdle_of_noteFailure (conn : Nat) (data : Bytes) (failure : Option Fault) :
    ∀ e ∈ (noteFailure conn data failure).events, e.isIdle = true := by
  intro e he
  cases failure with
  | none => cases he
  | some fault =>
    simp only [noteFailure] at he
    split at he
    · cases he
    · rw [Traced.events_note, List.mem_singleton] at he
      subst he
      rfl

/-! ### Willing transports -/

/-- What a willing transport makes of bytes that are offered: it takes them all if it is open,
and none if it has been closed. -/
structure Took (data : Bytes) (l : Link) (d : Traced Drained) : Prop where
  link : d.value.link = l
  left : ∀ a ∈ d.value.left, a.isWilling = true
  taken : accepted d.events = if l.isOpen then data else []
  failure : l.isOpen = true → d.value.failure = none

theorem drain_willing {script : List Acceptance} (hw : ∀ a ∈ script, a.isWilling = true)
    (data : Bytes) (l : Link) :
    Took data l (drain script data l) := by
  induction script generalizing data with
  | nil =>
    cases data with
    | nil => exact ⟨rfl, hw, by simp [drain], fun _ => rfl⟩
    | cons b data =>
      cases ho : l.isOpen with
      | true => exact ⟨by simp [drain, ho],
        by simp [drain, ho], by simp [drain, ho, accepted], by simp [drain, ho]⟩
      | false => exact ⟨by simp [drain, ho],
        by simp [drain, ho], by simp [drain, ho, accepted], by simp [ho]⟩
  | cons a script ih =>
    have hrest : ∀ a ∈ script, a.isWilling = true := fun a ha => hw a (List.mem_cons_of_mem _ ha)
    have ha := hw a (List.mem_cons_self ..)
    cases data with
    | nil => exact ⟨rfl, hw, by simp [drain], fun _ => rfl⟩
    | cons b data =>
      cases ho : l.isOpen with
      | false =>
        exact ⟨by simp [drain, ho],
          by simpa [drain, ho] using hw, by simp [drain, ho, accepted], by simp [ho]⟩
      | true =>
        cases a with
        | shutdown => cases ha
        | fault fault =>
          have hi : fault.isInterrupted = true := by simpa [Acceptance.isWilling] using ha
          have hdrain : drain (.fault fault :: script) (b :: data) l =
              ⟨(drain script (b :: data) l).value,
                .write l.id (b :: data) (.error fault) :: (drain script (b :: data) l).events⟩ := by
            simp [drain, ho, hi, bind, Traced.record]
          obtain ⟨hlink, hleft, htaken, hfailure⟩ := ih hrest (b :: data)
          rw [hdrain]
          exact ⟨hlink, hleft, htaken, hfailure⟩
        | upTo count =>
          have hcount : count ≠ 0 := by simpa [Acceptance.isWilling] using ha
          let taken := min count (b :: data).length
          have hne : taken ≠ 0 := by
            simp only [taken, List.length_cons]
            omega
          have hdrain : drain (.upTo count :: script) (b :: data) l =
              ⟨(drain script ((b :: data).drop taken) l).value,
                .write l.id (b :: data) (.ok taken) ::
                (drain script ((b :: data).drop taken) l).events⟩ := by
            simp only [drain, ho, if_true, bind, Traced.record]
            rw [if_neg hne]
            rfl
          obtain ⟨hlink, hleft, htaken, hfailure⟩ := ih hrest ((b :: data).drop taken)
          have hboth : (b :: data).take taken ++ (b :: data).drop taken = b :: data :=
            List.take_append_drop ..
          rw [hdrain]
          refine ⟨hlink, hleft, ?_, hfailure⟩
          rw [ho, if_pos rfl] at htaken
          rw [accepted_write, htaken, ho, if_pos rfl, hboth]

theorem drainAll_willing (parts : List Bytes) {script : List Acceptance}
    (hw : ∀ a ∈ script, a.isWilling = true) (l : Link) :
    Took parts.flatten l (drainAll parts script l) := by
  induction parts generalizing script with
  | nil => exact ⟨rfl, hw, by simp [drainAll], fun _ => rfl⟩
  | cons part parts ih =>
    obtain ⟨hlink, hleft, htaken, hfailure⟩ := drain_willing hw part l
    cases hf : (drain script part l).value.failure with
    | none =>
      have hdrain : drainAll (part :: parts) script l =
          ⟨(drainAll parts (drain script part l).value.left l).value,
            (drain script part l).events ++
            (drainAll parts (drain script part l).value.left l).events⟩ := by
        simp only [drainAll, bind, hf, hlink]
      obtain ⟨hlink', hleft', htaken', hfailure'⟩ := ih hleft
      rw [hdrain]
      refine ⟨hlink', hleft', ?_, hfailure'⟩
      rw [accepted_append, htaken, htaken']
      cases l.isOpen <;> simp
    | some fault =>
      have hclosed : l.isOpen = false := by
        cases ho : l.isOpen with
        | false => rfl
        | true => cases hf.symm.trans (hfailure ho)
      have hdrain : drainAll (part :: parts) script l = drain script part l := by
        simp [drainAll, bind, hf]
      rw [hdrain]
      refine ⟨hlink, hleft, ?_, fun ho => by cases hclosed.symm.trans ho⟩
      rw [htaken, hclosed]
      rfl

end Outlet

/-! ### Messages -/

namespace Desk

variable {d : Desk}

/-- The transport of a desk is willing for whatever is sent from it. -/
def Willing (d : Desk) : Prop := ∀ a ∈ d.outlet.script, a.isWilling = true

/-- **A willing transport takes a message whole, or if it has been closed, nothing of it.** -/
theorem transmit_willing (hr : d.Ready) (hw : d.Willing) (parts : List Bytes) (data : Bytes) :
    let t := d.transmit (Outlet.transmit parts data)
    accepted t.events = (if d.link.isOpen then parts.flatten else []) ∧ t.value.desk.Willing ∧
      t.value.desk.link = d.link := by
  obtain ⟨hlink, hleft, htaken, -⟩ := Outlet.drainAll_willing parts hw d.link
  have hid : d.link.id = d.id := hr.sound.link_id hr.known
  rw [transmit_eq hr.unreleased]
  refine ⟨?_, hleft, ?_⟩
  · rw [accepted_append, htaken, accepted_of_isIdle (Outlet.isIdle_of_noteFailure _ _ _),
      List.append_nil]
  · show (d.hub.setLink _).link d.id = d.link
    rw [hlink]
    exact Hub.link_setLink hid hr.known

/-- A message in one part is drained, and a failure may be noted. -/
theorem events_send (hr : d.outlet.released = false) (data : Bytes) :
    ∃ failure, (d.transmit (Outlet.send data)).events =
      (Outlet.drain d.outlet.script data d.link).events ++
        (Outlet.noteFailure d.outlet.conn data failure).events := by
  have hone : (Outlet.drainAll [data] d.outlet.script d.link).events =
      (Outlet.drain d.outlet.script data d.link).events := by
    simp only [Outlet.drainAll, Traced.events_bind]
    split <;> simp
  have ht := congrArg Traced.events (transmit_eq hr [data] data)
  exact ⟨_, ht.trans (congrArg (· ++ _) hone)⟩

/-- The first write of a message in one part offers all of it. -/
theorem transmit_offers (hr : d.Ready) {data : Bytes} (hd : data ≠ []) :
    ∃ asks outcome rest, (d.transmit (Outlet.send data)).events =
      asks ++ .write d.id data outcome :: rest ∧
      ∀ e ∈ asks, e.isFarewell = true := by
  have hid : d.link.id = d.id := hr.sound.link_id hr.known
  obtain ⟨failure, hsent⟩ := events_send hr.unreleased data
  obtain ⟨asks, outcome, rest, hevents, hasks⟩ :=
    Outlet.drain_offers d.outlet.script (l := d.link) hd (hr.sound.link_bound hr.known)
  rw [hid] at hevents
  exact ⟨asks, outcome, rest ++ _,
    by rw [hsent, hevents, List.append_assoc, List.cons_append], hasks⟩

/-- What sending a message in one part gives rise to. -/
theorem offered_transmit (hr : d.Ready) (data : Bytes) :
    ∀ e ∈ (d.transmit (Outlet.send data)).events, Outlet.Offers data e := by
  obtain ⟨failure, hsent⟩ := events_send hr.unreleased data
  rw [hsent]
  exact List.forall_mem_append.2 ⟨Outlet.offered_drain d.outlet.script data
    (hr.sound.link_bound hr.known),
    fun e he => .inl (Outlet.isIdle_of_noteFailure _ _ _ e he)⟩

end Desk
end NetShell
