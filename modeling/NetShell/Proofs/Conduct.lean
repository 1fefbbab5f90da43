import NetShell.Proofs.Course
import NetShell.Session.Desk

/-! What is done at a desk.

As long as the outlet is not released, nothing that a handler asks for is a misuse
(`Desk.kept_perform`). Messages, requests to shut down and the stop of the server take the
hub along a course, and leave the desk the same connection's (`Desk.Moves`). -/
namespace NetShell
open WebSocket

/-! ### The outlet -/

namespace Outlet

theorem course_drain (script : List Acceptance) (data : Bytes) (l : Link) :
    Link.Course Event.isOutput l (drain script data l).events (drain script data l).value.link := by
  induction script generalizing data l with
  | nil =>
    cases data with
    | nil => exact .nil l
    | cons b data =>
      simp only [drain]
      split <;> exact .event rfl (.nil l)
  | cons a rest ih =>
    cases data with
    | nil => exact .nil l
    | cons b data =>
      simp only [drain]
      split
      · cases a with
        | shutdown => exact .ask (ih (b :: data) l.shutdown.value)
        | fault fault =>
          simp only [Traced.events_bind, Traced.value_bind]
          split
          · exact .event rfl (ih (b :: data) l)
          · exact .event rfl (.nil l)
        | upTo count =>
          simp only [Traced.events_bind, Traced.value_bind]
          split
          · exact .event rfl (.nil l)
          · exact .event rfl (ih _ l)
      · exact .event rfl (.nil l)

theorem course_drainAll (parts : List Bytes) (script : List Acceptance) (l : Link) :
    Link.Course Event.isOutput l (drainAll parts script l).events
      (drainAll parts script l).value.link := by
  induction parts generalizing script l with
  | nil => exact .nil l
  | cons part parts ih =>
    have hpart := course_drain script part l
    simp only [drainAll, Traced.events_bind, Traced.value_bind]
    split
    · exact hpart.trans (ih ..)
    · simpa using hpart

theorem isOutput_of_noteFailure (conn : Nat) (data : Bytes) (failure : Option Fault) :
    ∀ e ∈ (noteFailure conn data failure).events, e.isOutput = true := by
  intro e he
  cases failure with
  | none => cases he
  | some fault =>
    simp only [noteFailure] at he
    split at he
    · cases he
    · rw [Traced.events_note, List.mem_singleton] at he
      subst he
      rfl

end Outlet

/-! ### The desk -/

namespace Hub

theorem course_shutdown (Own : Event → Bool) (hub : Hub) (id : Nat) {j : Nat}
    (hj : j < hub.links.length) :
    Course Own id hub (hub.shutdown j).events (hub.shutdown j).value := by
  have hdone : Course Own id (hub.shutdown j).value [] (hub.shutdown j).value := .nil _
  simpa using Course.ask j hj hdone

theorem course_shutdownAll {Own : Event → Bool} (id : Nat) (ids : List Nat) (hub : Hub)
    (h : ∀ j ∈ ids, j < hub.links.length) :
    Course Own id hub (hub.shutdownAll ids).events (hub.shutdownAll ids).value := by
  induction ids generalizing hub with
  | nil => exact .nil hub
  | cons j rest ih =>
    refine (course_shutdown Own hub id (h j (List.mem_cons_self ..))).trans (ih _ fun k hk => ?_)
    simpa [shutdown_eq] using h k (List.mem_cons_of_mem _ hk)

/-- Those that have been asked to shut down are closing. -/
theorem isClosing_shutdownAll {hub : Hub} (hs : hub.Sound) {ids : List Nat}
    (hids : ∀ k ∈ ids, k < hub.links.length) {j : Nat} (hj : j ∈ ids) :
    ((hub.shutdownAll ids).value.link j).status.isClosing = true := by
  induction ids generalizing hub with
  | nil => cases hj
  | cons k rest ih =>
    have hk := hids k (List.mem_cons_self ..)
    have hsound := sound_shutdown hs hk
    have hrest : ∀ i ∈ rest, i < (hub.shutdown k).value.links.length := fun i hi => by
      simpa [shutdown_eq] using hids i (List.mem_cons_of_mem _ hi)
    by_cases hjk : j = k
    · subst hjk
      have hcourse : Course Event.isOutput j (hub.shutdown j).value _ _ :=
        course_shutdownAll j rest _ hrest
      exact hcourse.isClosing hsound (by simpa [shutdown_eq] using hk) (isClosing_shutdown hs hk)
    · exact ih hsound hrest ((List.mem_cons.1 hj).resolve_left hjk)

theorem stop_eq {hub : Hub} (h : hub.stopping = false) :
    let asked := shutdownAll { hub with stopping := true } hub.live
    hub.stop = ⟨asked.value, asked.events ++ [.log (.stopped hub.live.length)]⟩ := by
  simp [stop, h, closeAll, bind, pure, Traced.note, Traced.record, live, link]

/-- Requests to shut down, one after another, give rise to nothing else. -/
theorem isFarewell_of_shutdownAll {ids : List Nat} {hub : Hub} (hs : hub.Sound)
    (h : ∀ j ∈ ids, j < hub.links.length) :
    ∀ e ∈ (hub.shutdownAll ids).events, e.isFarewell = true := by
  induction ids generalizing hub with
  | nil => simp [shutdownAll]
  | cons j rest ih =>
    have hj := h j (List.mem_cons_self ..)
    have hrest := ih (sound_shutdown hs hj) fun k hk => by
      simpa [shutdown_eq] using h k (List.mem_cons_of_mem _ hk)
    simp only [shutdownAll, Traced.events_bind]
    refine List.forall_mem_append.2 ⟨fun e he => ?_, hrest⟩
    rw [shutdown_eq] at he
    exact Link.isFarewell_of_shutdown (hs.link_bound hj) e he

/-- A stop asks connections to shut down, and is noted. -/
theorem stop_cases {hub : Hub} (hs : hub.Sound) :
    ∀ e ∈ hub.stop.events, e.isFarewell = true ∨ ∃ n, e = .log (.stopped n) := by
  cases h : hub.stopping with
  | true => simp [stop, h]
  | false =>
    have hlive : ∀ j ∈ hub.live, j < hub.links.length :=
      fun j hj => hs.known j (List.mem_of_mem_filter hj)
    have hasked := isFarewell_of_shutdownAll (sound_stopping hs) hlive
    rw [stop_eq h]
    exact List.forall_mem_append.2 ⟨fun e he => .inl (hasked e he),
      fun e he => .inr ⟨_, List.mem_singleton.1 he⟩⟩

theorem course_stop {hub : Hub} (hs : hub.Sound) (id : Nat) :
    Course Event.isOutput id hub hub.stop.events hub.stop.value := by
  cases h : hub.stopping with
  | true =>
    simp only [stop, h, if_true]
    exact .nil hub
  | false =>
    have hlive : ∀ j ∈ hub.live, j < hub.links.length :=
      fun j hj => hs.known j (List.mem_of_mem_filter hj)
    rw [stop_eq h]
    exact .stopping ((course_shutdownAll id hub.live { hub with stopping := true } hlive).trans
      (.event rfl (.nil _)))

end Hub

namespace Desk

/-- Some work went through: no misuse, and of the outlet only its script has moved on. -/
structure Kept (d : Desk) (w : Worked) : Prop where
  misuse : w.misuse = none
  id : w.desk.id = d.id
  outlet : ∃ script, w.desk.outlet = { d.outlet with script }

theorem Kept.trans {d : Desk} {w w' : Worked} (h : Kept d w) (h' : Kept w.desk w') : Kept d w' := by
  obtain ⟨script, hs⟩ := h.outlet
  obtain ⟨script', hs'⟩ := h'.outlet
  exact ⟨h'.misuse, h'.id.trans h.id, script', by rw [hs', hs]⟩

theorem Kept.released {d : Desk} {w : Worked} (h : Kept d w) :
    w.desk.outlet.released = d.outlet.released := by
  obtain ⟨script, hs⟩ := h.outlet
  rw [hs]

theorem Kept.conn {d : Desk} {w : Worked} (h : Kept d w) : w.desk.outlet.conn = d.outlet.conn := by
  obtain ⟨script, hs⟩ := h.outlet
  rw [hs]

theorem Kept.framed {d : Desk} {w : Worked} (h : Kept d w) :
    w.desk.outlet.framed = d.outlet.framed := by
  obtain ⟨script, hs⟩ := h.outlet
  rw [hs]

variable {d : Desk}

theorem transmit_eq (hr : d.outlet.released = false) (parts : List Bytes) (data : Bytes) :
    let sent := Outlet.drainAll parts d.outlet.script d.link
    d.transmit (Outlet.transmit parts data) =
      ⟨⟨d.update { d.outlet with script := sent.value.left } sent.value.link, none⟩,
        sent.events ++ (Outlet.noteFailure d.outlet.conn data sent.value.failure).events⟩ := by
  simp [transmit, Outlet.transmit, hr, bind, pure]

/-- What a handler has sent, in whatever form, is a message in at most two parts. -/
theorem act_sends (d : Desk) {a : Act} (hshutdown : a ≠ .shutdown) (hstop : a ≠ .stop) :
    ∃ parts data, parts.length ≤ 2 ∧ d.act a = d.transmit (Outlet.transmit parts data) := by
  have hreply : ∀ data, ∃ parts, parts.length ≤ 2 ∧
      d.transmit (Outlet.reply data) = d.transmit (Outlet.transmit parts data) := by
    intro data
    cases hf : d.outlet.framed with
    | true => exact ⟨[_, data], Nat.le_refl 2,
      by simp only [transmit, Outlet.reply, hf, if_true]; rfl⟩
    | false => exact ⟨[data], Nat.le_succ 1,
      by simp only [transmit, Outlet.reply, hf, Bool.false_eq_true, if_false]; rfl⟩
  cases a with
  | send data => exact ⟨[data], data, Nat.le_succ 1, rfl⟩
  | reply data => exact ⟨_, _, (hreply data).choose_spec⟩
  | frame data => exact ⟨[_, data], data, Nat.le_refl 2, rfl⟩
  | pong data => exact ⟨[_, data], data, Nat.le_refl 2, rfl⟩
  | report => exact ⟨_, _, (hreply _).choose_spec⟩
  | shutdown => exact absurd rfl hshutdown
  | stop => exact absurd rfl hstop

theorem act_shutdown (d : Desk) :
    d.act .shutdown = ⟨⟨{ d with hub := (d.hub.shutdown d.id).value }, none⟩,
      (d.hub.shutdown d.id).events⟩ := by
  simp [act, bind, pure]

theorem act_stop (d : Desk) :
    d.act .stop = ⟨⟨{ d with hub := d.hub.stop.value }, none⟩, d.hub.stop.events⟩ := by
  simp [act, bind, pure]

/-- An act is a message in at most two parts, a request to shut down, or a stop of the server. -/
theorem act_cases (d : Desk) (a : Act) :
    (∃ parts data, parts.length ≤ 2 ∧ d.act a = d.transmit (Outlet.transmit parts data)) ∨
      (∃ hub : Traced Hub, (hub = d.hub.shutdown d.id ∨ hub = d.hub.stop) ∧
        d.act a = ⟨⟨{ d with hub := hub.value }, none⟩, hub.events⟩) := by
  cases a with
  | shutdown => exact .inr ⟨_, .inl rfl, d.act_shutdown⟩
  | stop => exact .inr ⟨_, .inr rfl, d.act_stop⟩
  | _ => exact .inl (d.act_sends nofun nofun)

theorem kept_transmit (hr : d.outlet.released = false) (parts : List Bytes) (data : Bytes) :
    Kept d (d.transmit (Outlet.transmit parts data)).value := by
  rw [transmit_eq hr]
  exact ⟨rfl, rfl, _, rfl⟩

theorem kept_act (hr : d.outlet.released = false) (a : Act) : Kept d (d.act a).value := by
  rcases act_cases d a with ⟨parts, data, -, h⟩ | ⟨hub, -, h⟩
  · rw [h]
    exact kept_transmit hr parts data
  · rw [h]
    exact ⟨rfl, rfl, _, rfl⟩

theorem perform_cons (hr : d.outlet.released = false) (a : Act) (rest : List Act) :
    d.perform (a :: rest) =
      ⟨((d.act a).value.desk.perform rest).value,
        (d.act a).events ++ ((d.act a).value.desk.perform rest).events⟩ := by
  simp [perform, bind, (kept_act hr a).misuse]

/-- **Acts are never a misuse while the outlet is not released.** -/
theorem kept_perform (hr : d.outlet.released = false) (acts : List Act) :
    Kept d (d.perform acts).value := by
  induction acts generalizing d with
  | nil => exact ⟨rfl, rfl, _, rfl⟩
  | cons a rest ih =>
    rw [perform_cons hr]
    have ha := kept_act hr a
    exact ha.trans (ih (ha.released.trans hr))

theorem course_transmit (hr : d.outlet.released = false) (parts : List Bytes) (data : Bytes) :
    Hub.Course Event.isOutput d.id d.hub (d.transmit (Outlet.transmit parts data)).events
      (d.transmit (Outlet.transmit parts data)).value.desk.hub := by
  rw [transmit_eq hr]
  have hsent := Outlet.course_drainAll parts d.outlet.script d.link
  exact .of_link (hsent.trans (.own _ (Outlet.isOutput_of_noteFailure _ _ _)))

theorem course_act (hr : d.outlet.released = false) (hs : d.hub.Sound)
    (hid : d.id < d.hub.links.length) (a : Act) :
    Hub.Course Event.isOutput d.id d.hub (d.act a).events (d.act a).value.desk.hub := by
  rcases act_cases d a with ⟨parts, data, -, h⟩ | ⟨hub, rfl | rfl, h⟩
  · rw [h]
    exact course_transmit hr parts data
  · rw [h]
    exact Hub.course_shutdown _ d.hub d.id hid
  · rw [h]
    exact Hub.course_stop hs d.id

/-- **What a handler asks for takes the hub along a course.** -/
theorem course_perform (hr : d.outlet.released = false) (hs : d.hub.Sound)
    (hid : d.id < d.hub.links.length) (acts : List Act) :
    Hub.Course Event.isOutput d.id d.hub (d.perform acts).events
      (d.perform acts).value.desk.hub := by
  induction acts generalizing d with
  | nil => exact .nil _
  | cons a rest ih =>
    rw [perform_cons hr]
    have hk := kept_act hr a
    have hc := course_act hr hs hid a
    have hrest := ih (hk.released.trans hr) (hc.sound hs hid)
      (by rw [hk.id, hc.members.1]; exact hid)
    rw [hk.id] at hrest
    exact hc.trans hrest

/-! ### A desk along a course -/

/-- A desk that can be worked at: the hub is sound and knows the connection, and the outlet
is not released. -/
structure Ready (d : Desk) : Prop where
  sound : d.hub.Sound
  known : d.id < d.hub.links.length
  unreleased : d.outlet.released = false

/-- What work leaves of a desk: the hub has gone along a course, and the desk is still the
same connection's. -/
structure Moves (Own : Event → Bool) (d : Desk) (events : List Event) (d' : Desk) : Prop where
  id : d'.id = d.id
  conn : d'.outlet.conn = d.outlet.conn
  released : d'.outlet.released = d.outlet.released
  course : Hub.Course Own d.id d.hub events d'.hub

namespace Moves

variable {Own : Event → Bool} {d' d'' : Desk} {events events' : List Event}

theorem refl (d : Desk) : Moves Own d [] d := ⟨rfl, rfl, rfl, .nil _⟩

theorem trans (h : Moves Own d events d') (h' : Moves Own d' events' d'') :
    Moves Own d (events ++ events') d'' := by
  have hc := h'.course
  rw [h.id] at hc
  exact ⟨h'.id.trans h.id, h'.conn.trans h.conn, h'.released.trans h.released, h.course.trans hc⟩

theorem mono {Wide : Event → Bool} (hw : ∀ e, Own e = true → Wide e = true)
    (h : Moves Own d events d') :
    Moves Wide d events d' :=
  ⟨h.id, h.conn, h.released, h.course.mono hw⟩

theorem event (Own : Event → Bool) (d : Desk) {e : Event} (he : Own e = true) : Moves Own d [e] d :=
  ⟨rfl, rfl, rfl, .event he (.nil _)⟩

theorem ready (h : Moves Own d events d') (hr : d.Ready) : d'.Ready :=
  ⟨h.course.sound hr.sound hr.known, by rw [h.id, h.course.members.1]; exact hr.known,
    h.released.trans hr.unreleased⟩

theorem each (h : Moves Own d events d') {P : Event → Prop} (hown : ∀ e, Own e = true → P e)
    (hask : ∀ e : Event, e.isFarewell = true → P e) (hr : d.Ready) : ∀ e ∈ events, P e :=
  h.course.each hown hask hr.sound hr.known

theorem quiet (h : Moves Own d events d') (hown : ∀ e, Own e = true → e.isInput = false)
    (hr : d.Ready) :
    ∀ e ∈ events, e.isInput = false :=
  h.each hown (fun _ => Event.isInput_of_isFarewell) hr

theorem told (h : Moves Own d events d') (hown : ∀ e, Own e = true → e.isWork = true) (hr : d.Ready)
    {hook : Hook} {past : List Event} (ht : Link.Told d.id hook past d.link) :
    Link.Told d.id hook (past ++ events) d'.link := by
  rw [link, h.id]
  exact h.course.told hown hr.sound hr.known ht

end Moves

theorem moves_update (Own : Event → Bool) {l : Link} {events : List Event}
    (h : Link.Course Own d.link events l) :
    Moves Own d events (d.update d.outlet l) :=
  ⟨rfl, rfl, rfl, .of_link h⟩

theorem moves_transition (Own : Event → Bool) (d : Desk) (next : Status)
    (hn : next.isClosing = false) :
    Moves Own d [] (d.transition next) :=
  moves_update Own (.move next hn (.nil _))

theorem moves_transmit (hr : d.Ready) (parts : List Bytes) (data : Bytes) :
    Moves Event.isOutput d (d.transmit (Outlet.transmit parts data)).events
      (d.transmit (Outlet.transmit parts data)).value.desk :=
  have hk := kept_transmit hr.unreleased parts data
  ⟨hk.id, hk.conn, hk.released, course_transmit hr.unreleased parts data⟩

theorem moves_act (hr : d.Ready) (a : Act) :
    Moves Event.isOutput d (d.act a).events (d.act a).value.desk :=
  have hk := kept_act hr.unreleased a
  ⟨hk.id, hk.conn, hk.released, course_act hr.unreleased hr.sound hr.known a⟩

theorem moves_perform (hr : d.Ready) (acts : List Act) :
    Moves Event.isOutput d (d.perform acts).events (d.perform acts).value.desk :=
  have hk := kept_perform hr.unreleased acts
  ⟨hk.id, hk.conn, hk.released, course_perform hr.unreleased hr.sound hr.known acts⟩

end Desk
end NetShell
