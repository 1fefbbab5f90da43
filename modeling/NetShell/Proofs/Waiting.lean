import NetShell.Proofs.Conduct

/-! That a worker has waited does not show in what it does next.

Reading moves the status to waiting, and a message moves it on to running before the handler
sees it. In between, sending and requests to shut down do not look at the status: what they
do from a desk that waits is what they do from the desk as it was, and the desk they leave
waits (`Desk.transmit_transition`, `Desk.ask_transition`). So two desks that differ in the
status alone (`Desk.Alike`) do the same. -/
namespace NetShell

/-! ### Links -/

namespace Link

variable {l : Link} {next : Status}

@[simp] theorem id_transition : (l.transition next).id = l.id := rfl
@[simp] theorem isOpen_transition : (l.transition next).isOpen = l.isOpen := rfl

theorem transition_transition (hn : next.isClosing = false) (then' : Status) :
    (l.transition next).transition then' = l.transition then' := by
  cases hs : l.status.isClosing <;> simp [transition, Status.moved, hs, hn]

theorem shutdown_transition (next : Status) (hn : next.isClosing = false) :
    (l.transition next).shutdown = l.shutdown := by
  have hclaimed : (l.transition next).status.claimed = l.status.claimed := by
    cases hs : l.status <;> cases next <;> simp [transition, Status.moved, Status.isClosing,
      Status.claimed, hs] at hn ⊢
  have hlink : { l.transition next with status := (l.transition next).status.claimed } =
      { l with status := l.status.claimed } := by
    rw [hclaimed]
    rfl
  rw [shutdown, shutdown, hlink]

/-- A request claims the status, and the worker cannot move it on any more. -/
theorem transition_shutdown : l.shutdown.value.transition next = l.shutdown.value := by
  rw [transition, Status.moved, if_pos (isClosing_shutdown l)]

end Link

/-! ### Writing -/

namespace Outlet

variable {next : Status}

/-- Where writes have come to, the worker having moved its status on. -/
def Drained.transition (d : Drained) (next : Status) : Drained :=
  { d with link := d.link.transition next }

theorem drain_transition (hn : next.isClosing = false) (script : List Acceptance) (data : Bytes)
    (l : Link) :
    drain script data (l.transition next) =
      ⟨(drain script data l).value.transition next, (drain script data l).events⟩ := by
  induction script generalizing data l with
  | nil =>
    cases data with
    | nil => rfl
    | cons b data =>
      simp only [drain, Link.isOpen_transition]
      by_cases ho : l.isOpen = true
      · simp only [ho, if_true]
        rfl
      · simp only [ho, Bool.false_eq_true, if_false]
        rfl
  | cons a rest ih =>
    cases data with
    | nil => rfl
    | cons b data =>
      simp only [drain, Link.isOpen_transition]
      by_cases ho : l.isOpen = true
      · simp only [ho, if_true, bind, Traced.record, Link.id_transition]
        cases a with
        | shutdown =>
          -- the request claims the status, so there is nothing left to move on
          have hsame := ih (b :: data) l.shutdown.value
          rw [Link.transition_shutdown] at hsame
          have hvalue : (drain rest (b :: data) l.shutdown.value).value =
            (drain rest (b :: data) l.shutdown.value).value.transition next :=
            congrArg Traced.value hsame
          simp only [Link.shutdown_transition next hn]
          rw [← hvalue]
        | fault fault =>
          by_cases hi : fault.isInterrupted = true
          · simp only [if_pos hi, ih]
          · simp only [if_neg hi]
            rfl
        | upTo count =>
          by_cases ht : min count (b :: data).length = 0
          · simp only [if_pos ht]
            rfl
          · simp only [if_neg ht, ih]
      · simp only [ho, Bool.false_eq_true, if_false]
        rfl

theorem drainAll_transition (hn : next.isClosing = false) (parts : List Bytes)
    (script : List Acceptance) (l : Link) :
    drainAll parts script (l.transition next) =
      ⟨(drainAll parts script l).value.transition next, (drainAll parts script l).events⟩ := by
  induction parts generalizing script l with
  | nil => rfl
  | cons part parts ih =>
    simp only [drainAll, bind, drain_transition hn]
    cases hf : (drain script part l).value.failure with
    | none => simp only [Drained.transition, hf, ih]
    | some fault =>
      simp only [Drained.transition, hf, Traced.value_pure, Traced.events_pure]

end Outlet

/-! ### Desks -/

namespace Desk

variable {d : Desk} {next : Status}

@[simp] theorem outlet_update (o : Outlet) (l : Link) : (d.update o l).outlet = o := rfl

theorem link_update (hr : d.Ready) {l : Link} (hl : l.id = d.id) (o : Outlet) :
    (d.update o l).link = l :=
  Hub.link_setLink hl hr.known

theorem link_id (hr : d.Ready) : d.link.id = d.id := hr.sound.link_id hr.known

theorem link_transition (hr : d.Ready) (next : Status) :
    (d.transition next).link = d.link.transition next :=
  link_update hr (l := d.link.transition next) (link_id hr) _

theorem update_link (hr : d.Ready) : d.update d.outlet d.link = d := by
  rw [update, link, Hub.setLink_link hr.sound hr.known]

/-- What is written over is gone. -/
theorem update_update {l m : Link} (hl : l.id = m.id) (o p : Outlet) :
    (d.update o l).update p m = d.update p m := by
  rw [update, update, update]
  simp only [Hub.setLink_setLink hl]

theorem transition_transition (hr : d.Ready) (next : Status) (hn : next.isClosing = false)
    (then' : Status) :
    (d.transition next).transition then' = d.transition then' := by
  have hlink := link_transition hr next
  rw [transition, hlink, Link.transition_transition hn]
  exact update_update (l := d.link.transition next) (m := d.link.transition then') rfl _ _

/-- It does not matter whether the worker moves on before or after its thread is noted. -/
theorem begin_transition (hr : d.Ready) (next : Status) (thread : Nat) :
    (d.transition next).update (d.transition next).outlet { (d.transition next).link with thread } =
      (d.update d.outlet { d.link with thread }).transition next := by
  have hbegun : (d.update d.outlet { d.link with thread }).link = { d.link with thread } :=
    link_update hr (l := { d.link with thread }) (link_id hr) _
  have hmoved : (d.update d.outlet { d.link with thread }).transition next =
      d.update d.outlet { d.link.transition next with thread } := by
    rw [transition, hbegun]
    exact update_update (l := { d.link with thread })
      (m := { d.link.transition next with thread }) rfl _ _
  rw [hmoved, link_transition hr]
  exact update_update (l := d.link.transition next)
    (m := { d.link.transition next with thread }) rfl _ _

theorem transmit_transition (hr : d.Ready) (next : Status) (hn : next.isClosing = false)
    (parts : List Bytes) (data : Bytes) :
    (d.transition next).transmit (Outlet.transmit parts data) =
      ⟨⟨(d.transmit (Outlet.transmit parts data)).value.desk.transition next, none⟩,
        (d.transmit (Outlet.transmit parts data)).events⟩ := by
  have hready := (moves_transition Event.isWork d next hn).ready hr
  let sent := Outlet.drainAll parts d.outlet.script d.link
  let o := { d.outlet with script := sent.value.left }
  have hsent : sent.value.link.id = d.id :=
    (Outlet.course_drainAll parts d.outlet.script d.link).id_eq.trans (link_id hr)
  have hmoved : Outlet.drainAll parts (d.transition next).outlet.script (d.transition next).link =
      ⟨sent.value.transition next, sent.events⟩ := by
    rw [link_transition hr]
    exact Outlet.drainAll_transition hn parts d.outlet.script d.link
  have hleft : (d.update o sent.value.link).transition next =
      d.update o (sent.value.link.transition next) := by
    rw [transition, link_update hr hsent]
    exact update_update (l := sent.value.link) (m := sent.value.link.transition next) rfl _ _
  rw [transmit_eq hready.unreleased, transmit_eq hr.unreleased, hmoved, hleft]
  have hover :=
    update_update (d := d) (l := d.link.transition next) (m := sent.value.link.transition next)
    (by rw [Link.id_transition, link_id hr]; exact hsent.symm) d.outlet o
  exact congrArg (fun desk => (⟨⟨desk, none⟩, _⟩ : Traced Worked)) hover

/-- The desk when someone has asked for the connection's end. -/
def ask (d : Desk) : Traced Desk :=
  ⟨{ d with hub := (d.hub.shutdown d.id).value }, (d.hub.shutdown d.id).events⟩

theorem ask_eq (d : Desk) :
    d.ask = ⟨d.update d.outlet d.link.shutdown.value, d.link.shutdown.events⟩ := by
  rw [ask, Hub.shutdown_eq]
  rfl

theorem ask_transition (hr : d.Ready) (next : Status) (hn : next.isClosing = false) :
    (d.transition next).ask = d.ask := by
  have hover := update_update (d := d) (l := d.link.transition next) (m := d.link.shutdown.value)
    (by rw [Link.id_transition, Link.id_shutdown]) d.outlet d.outlet
  rw [ask_eq, ask_eq, link_transition hr, Link.shutdown_transition next hn]
  exact congrArg (fun desk => (⟨desk, _⟩ : Traced Desk)) hover

/-- After a request there is no moving on. -/
theorem transition_ask (hr : d.Ready) : d.ask.value.transition next = d.ask.value := by
  have hid : d.link.shutdown.value.id = d.id := Link.id_shutdown.trans (link_id hr)
  have hover :=
    update_update (d := d) (l := d.link.shutdown.value) (m := d.link.shutdown.value) rfl
      d.outlet d.outlet
  rw [ask_eq, transition, link_update hr hid, Link.transition_shutdown]
  exact hover

theorem moves_ask (Own : Event → Bool) (hr : d.Ready) : Moves Own d d.ask.events d.ask.value :=
  ⟨rfl, rfl, rfl, Hub.course_shutdown _ d.hub d.id hr.known⟩

/-! ### Desks that differ in the status alone -/

/-- Two desks that differ at most in whether the worker waits. -/
def Alike (d d' : Desk) : Prop := d.transition .waiting = d'.transition .waiting

namespace Alike

variable {d' : Desk}

theorem outlet (h : Alike d d') : d.outlet = d'.outlet := by
  have : (d.transition .waiting).outlet = (d'.transition .waiting).outlet := by rw [h]
  exact this

/-- Moved on, they are the same. -/
theorem transition (h : Alike d d') (hr : d.Ready) (hr' : d'.Ready) (next : Status) :
    d.transition next = d'.transition next := by
  rw [← transition_transition hr .waiting rfl, h, transition_transition hr' .waiting rfl]

theorem ask (h : Alike d d') (hr : d.Ready) (hr' : d'.Ready) : d.ask = d'.ask := by
  rw [← ask_transition hr .waiting rfl, h, ask_transition hr' .waiting rfl]

theorem transmit (h : Alike d d') (hr : d.Ready) (hr' : d'.Ready) (parts : List Bytes)
    (data : Bytes) :
    (d.transmit (Outlet.transmit parts data)).events =
      (d'.transmit (Outlet.transmit parts data)).events ∧
      Alike (d.transmit (Outlet.transmit parts data)).value.desk
        (d'.transmit (Outlet.transmit parts data)).value.desk := by
  have hd := transmit_transition hr .waiting rfl parts data
  have hd' := transmit_transition hr' .waiting rfl parts data
  rw [← h, hd] at hd'
  simp only [Traced.mk.injEq, Worked.mk.injEq] at hd'
  exact ⟨hd'.2, hd'.1.1⟩

end Alike

theorem alike_waiting (hr : d.Ready) : Alike (d.transition .waiting) d :=
  transition_transition hr _ rfl _

end Desk
end NetShell
