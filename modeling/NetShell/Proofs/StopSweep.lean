import NetShell.Proofs.Neighbours
import NetShell.Server.Schedule

/-! No connection survives a stop.

The threads of a server make their moves in any order: acceptors register connections and look
at the stopping flag, workers destroy theirs, the first stop raises the flag and asks the
members to shut down one after another. When it has finished, every member has been asked or
destroyed, unless its acceptor has not looked at the flag yet, and then it will be dropped
without being run (`Server.stop_sweeps`).

A connection is registered before its acceptor looks, and the flag is raised before the members
are collected. So one that an acceptor lets pass was a member before the flag was raised, and
is collected if it is not gone by then: the members that a sweep has still to reach are among
those that it has collected (`Server.Reached`).

An acceptor that nothing comes between does what `Session.welcome` does (`Server.play_welcome`),
and a connection that is destroyed and its key freed at once is taken down as
`Session.takeDown` does it (`Server.takeDown_free`). -/
namespace NetShell
open Event

namespace Server

/-! ### How connections stand -/

/-- How a connection stands that was registered. -/
inductive Standing (hub : Hub) (past : List Event) (id : Nat) (p : Party) : Prop
  | present (hook : Hook) : p.place = .arriving ∨ p.place = .working →
      (hub.link id).Told id hook past →
      hub.roster.get? p.key = some id → (hub.link id).held = true → Standing hub past id p
  | leaving (closedHere : Bool) : p.place = .leaving closedHere → (hub.link id).Departed id past →
      hub.roster.get? p.key = some id → (hub.link id).held = true → Standing hub past id p
  | left : p.place = .left → (hub.link id).Departed id past → id ∉ hub.roster.toList →
      Standing hub past id p

theorem stable_standing : Hub.Stable Standing := by
  intro own hub events hub' past id p ha hne _ _ hl
  cases hl with
  | present hook hplace htold hentry hheld =>
    exact .present hook hplace (ha.told hne htold) ((ha.keys hne _).1 hentry) (ha.held hne hheld)
  | leaving closedHere hplace hdeparted hentry hheld =>
    exact .leaving closedHere hplace (ha.departed hne hdeparted) ((ha.keys hne _).1 hentry)
      (ha.held hne hheld)
  | left hplace hdeparted hout =>
    exact .left hplace (ha.departed hne hdeparted) fun hmem => hout ((ha.members hne).2 hmem)

theorem Standing.told {hub : Hub} {past : List Event} {id : Nat} {p : Party}
    (hl : Standing hub past id p) (hplace : p.place = .arriving ∨ p.place = .working) :
    ∃ hook, (hub.link id).Told id hook past ∧ hub.roster.get? p.key = some id ∧
      (hub.link id).held = true := by
  cases hl with
  | present hook _ htold hentry hheld => exact ⟨hook, htold, hentry, hheld⟩
  | leaving closedHere hleaving => simp [hleaving] at hplace
  | left hleft => simp [hleft] at hplace

/-- How far a sweep has come with a worker's connection: one that it has not collected yet it will
collect, one that it has collected it has asked or will ask. -/
def Reached (s : Server) (id : Nat) : Prop :=
  match s.sweep with
  | some (.asking _ left) => id ∈ left ∨ (s.hub.link id).status.isClosing = true
  | some .finished => (s.hub.link id).status.isClosing = true
  | _ => True

/-- What holds after any moves. -/
structure Orderly (s : Server)
    (past : List Event) : Prop extends Hub.Muster Standing s.hub past s.parties where
  flag : s.hub.stopping = s.sweep.isSome
  collected : ∀ {count left}, s.sweep = some (.asking count left) → ∀ id ∈ left,
    id < s.hub.links.length
  reached : ∀ {id p}, s.parties[id]? = some p → p.place = .working → s.Reached id

variable {s t : Server} {past events : List Event} {id : Nat} {p q : Party}

theorem orderly_empty (capacity : Nat) : Orderly { hub := { capacity } } [] :=
  ⟨Hub.muster_empty capacity, rfl, by simp, by simp⟩

theorem Reached.mono (hsweep : t.sweep = s.sweep)
    (hclosing : (s.hub.link id).status.isClosing = true → (t.hub.link id).status.isClosing = true)
    (hr : s.Reached id) : t.Reached id := by
  simp only [Reached, hsweep] at hr ⊢
  split at hr
  · exact hr.imp_right hclosing
  · exact hclosing hr
  · trivial

/-- A move of one connection keeps the order if it leaves the others where they were and its own
stands again. -/
theorem Orderly.next (ho : Orderly s past) {own : Option Nat}
    (hapart : Hub.Apart own s.hub events t.hub) (hsound : t.hub.Sound)
    (hflag : t.hub.stopping = s.hub.stopping) (hsweep : t.sweep = s.sweep)
    (hplaces : t.hub.links.length = t.parties.length)
    (hothers : ∀ id, own ≠ some id → t.parties[id]? = s.parties[id]?)
    (hown : ∀ id, own = some id → ∃ p, t.parties[id]? = some p ∧
      Standing t.hub (past ++ events) id p ∧
      (p.place = .working → t.Reached id)) :
    Orderly t (past ++ events) := by
  refine ⟨ho.toMuster.next stable_standing hapart hsound hplaces hothers fun id hid => ?_, ?_,
    fun {count left} hasking id hid => ?_, fun {id p} hp hw => ?_⟩
  · obtain ⟨p, hp, hstanding, -⟩ := hown id hid
    exact ⟨p, hp, hstanding⟩
  · rw [hflag, hsweep]
    exact ho.flag
  · obtain ⟨p, hp, -⟩ := ho.of_known (ho.collected (hsweep ▸ hasking) id hid)
    rw [hplaces]
    by_cases hown' : own = some id
    · obtain ⟨p', hp', -⟩ := hown id hown'
      exact (List.getElem?_eq_some_iff.1 hp').1
    · exact (List.getElem?_eq_some_iff.1 (hothers id hown' ▸ hp)).1
  · by_cases hid : own = some id
    · obtain ⟨p', hp', -, hreached⟩ := hown id hid
      rw [hp, Option.some.injEq] at hp'
      exact hreached (hp' ▸ hw)
    · exact (ho.reached (by rwa [← hothers id hid]) hw).mono hsweep (hapart.closing hid)

/-- A connection of its own comes somewhere else. -/
theorem Orderly.put (ho : Orderly s past) (hp : s.parties[id]? = some p) {hub : Hub}
    (hapart : Hub.Apart (some id) s.hub events hub) (hsound : hub.Sound)
    (hflag : hub.stopping = s.hub.stopping) (hlength : hub.links.length = s.hub.links.length)
    (hstanding : Standing hub (past ++ events) id q)
    (hreached : q.place = .working → Reached { s with hub } id) :
    Orderly ({ s with hub }.put id q) (past ++ events) := by
  have hlt : id < s.parties.length := (List.getElem?_eq_some_iff.1 hp).1
  refine ho.next hapart hsound hflag rfl ?_ (fun j hj => ?_) ?_
  · simpa [Server.put, hlength] using ho.places
  · exact List.getElem?_set_ne (by simpa using hj)
  · rintro _ ⟨⟩
    exact ⟨q, List.getElem?_set_self hlt, hstanding, hreached⟩

/-! ### Moves of one connection -/

theorem attend_some (hp : s.parties[id]? = some p) (use : Party → Traced Server) :
    s.attend id use = use p := by
  simp [attend, hp]

theorem Orderly.attend (ho : Orderly s past) (id : Nat) (use : Party → Traced Server)
    (huse : ∀ p, s.parties[id]? = some p → Orderly (use p).value (past ++ (use p).events)) :
    Orderly (s.attend id use).value (past ++ (s.attend id use).events) := by
  cases hp : s.parties[id]? with
  | none => simpa [Server.attend, hp] using ho
  | some p =>
    rw [attend_some hp]
    exact huse p hp

/-- What the log says of moves is about no connection's transport. -/
theorem elsewhere_log {n : Notice} (hn : n ≠ .shutDown) (j : Nat) : Elsewhere j [.log n] := by
  refine ⟨rfl, fun last => ?_⟩
  cases n <;> first | rfl | exact absurd rfl hn

theorem Orderly.noted (ho : Orderly s past) (he : ∀ j, Elsewhere j events) :
    Orderly s (past ++ events) :=
  ho.next (Hub.apart_quiet none s.hub he) ho.sound rfl rfl ho.places (fun _ _ => rfl) (by simp)

/-- A request keeps the order. -/
theorem Orderly.ask (ho : Orderly s past) (hid : id < s.hub.links.length) :
    Orderly { s with hub := (s.hub.shutdown id).value } (past ++ (s.hub.shutdown id).events) := by
  refine ho.next (Hub.apart_shutdown ho.sound hid) (Hub.sound_shutdown ho.sound hid) ?_ rfl ?_
    (fun _ _ => rfl)
    (by simp)
  · rw [Hub.shutdown_eq]
    rfl
  · rw [Hub.shutdown_eq, Hub.length_setLink]
    exact ho.places

theorem orderly_register (ho : Orderly s past) (mode : Mode) (hook : Hook) (started : Int) :
    let m := Move.register mode hook started
    Orderly (s.move m).value (past ++ (s.move m).events) := by
  intro m
  cases ha : s.hub.accept? { started, hook := some hook } with
  | none => simpa [m, move, ha] using ho.noted (elsewhere_log (n := .full) (by simp))
  | some joined =>
    obtain ⟨id, key, hub⟩ := joined
    have hj := Hub.joined_of_accept? ho.sound (by simp) ha
    have hnumber : id = s.parties.length := hj.number.trans ho.places
    have helsewhere : Elsewhere id past := ho.unknown (by omega)
    have hlink : hub.link id = { started, hook := some hook, id } := by
      simp [Hub.link, hj.links, hj.number]
    simp only [m, move, ha, Traced.value_pure, Traced.events_pure]
    refine ho.next (Hub.apart_accept? ho.sound ha) hj.sound ?_ rfl ?_ ?_ ?_
    · rw [(Hub.admitted_of_accept? ha).joined]
      rfl
    · simp [hj.links, ho.places]
    · intro j hne
      have hne : s.parties.length ≠ j := by simpa [hnumber] using hne
      grind
    · rintro _ ⟨⟩
      have htold : Link.Told id hook past (hub.link id) := by
        rw [hlink]
        exact .free rfl rfl rfl rfl helsewhere.1 (helsewhere.2 false)
      refine ⟨{ key, mode }, by rw [hnumber, List.getElem?_concat_length], ?_, by simp⟩
      rw [List.append_nil]
      exact .present hook (.inl rfl) htold hj.entry (congrArg Link.held hlink)

/-- A connection that is destroyed keeps its key for now. -/
theorem Orderly.destroy (ho : Orderly s past) (hp : s.parties[id]? = some p)
    (hplace : p.place = .arriving ∨ p.place = .working) :
    Orderly (s.destroy id p).value (past ++ (s.destroy id p).events) := by
  obtain ⟨hook, htold, hentry, hheld⟩ := (ho.lots hp).told hplace
  have hknown := ho.lt hp
  have hdeparted := htold.destroyed
  have hid : (s.hub.link id).destroy.value.1.id = id := by
    rw [htold.destroy]
    exact ho.sound.link_id hknown
  have hlink := Hub.link_setLink hid hknown
  have helsewhere : ∀ j, id ≠ j → Elsewhere j (s.hub.link id).destroy.events := fun j hj => by
    rw [htold.destroy]
    exact Link.elsewhere_farewell hj _
  simp only [Server.destroy, Traced.value_bind, Traced.value_pure, Traced.events_bind,
    Traced.events_pure, List.append_nil]
  refine ho.put hp (Hub.apart_setLink _ hid helsewhere)
    (Hub.sound_setLink ho.sound fun _ => hdeparted.torn) rfl
    (Hub.length_setLink _) (.leaving _ rfl ?_ hentry ?_) (by simp)
  · rw [hlink]
    exact hdeparted
  · rw [hlink, htold.destroy]
    exact hheld

theorem orderly_look (ho : Orderly s past) (id : Nat) :
    Orderly (s.move (.look id)).value (past ++ (s.move (.look id)).events) := by
  refine ho.attend id _ fun p hp => ?_
  split
  · rename_i hplace
    simp only [welcome]
    split
    · rw [Traced.events_bind, ← List.append_assoc]
      exact (ho.noted (elsewhere_log (by simp))).destroy hp (.inl hplace)
    · rename_i hgoing
      have hcalm : s.sweep = none := by
        rw [ho.flag] at hgoing
        simpa using hgoing
      obtain ⟨hook, htold, hentry, hheld⟩ := (ho.lots hp).told (.inl hplace)
      have hlog : ∀ j, Elsewhere j [.log (.accepted p.key p.mode s.hub.size)] :=
        elsewhere_log (by simp)
      have htold := htold.quiet (hlog id).1 (hlog id).2
      exact ho.put hp (Hub.apart_quiet _ s.hub hlog) ho.sound rfl rfl
        (.present hook (.inr rfl) htold hentry hheld)
        fun _ => by simp [Reached, hcalm]
  · simpa using ho

theorem orderly_turn (ho : Orderly s past) (id : Nat) (next : Status) :
    Orderly (s.move (.turn id next)).value (past ++ (s.move (.turn id next)).events) := by
  refine ho.attend id _ fun p hp => ?_
  split
  · rename_i hplace hnext
    obtain ⟨hook, htold, hentry, hheld⟩ := (ho.lots hp).told (.inr hplace)
    have hknown := ho.lt hp
    have hid : ((s.hub.link id).transition next).id = id := ho.sound.link_id hknown
    have hlink := Hub.link_setLink hid hknown
    have htold' := htold.transition hnext
    have hapart := Hub.apart_setLink s.hub hid fun j _ => elsewhere_nil j
    rw [Traced.value_pure, Traced.events_pure]
    refine ho.next hapart (Hub.sound_setLink ho.sound htold'.bound) rfl rfl ?_ (fun _ _ => rfl) ?_
    · exact (Hub.length_setLink _).trans ho.places
    · rintro _ ⟨⟩
      refine ⟨p, hp, .present hook (.inr hplace) ?_ hentry ?_,
        fun _ => (ho.reached hp hplace).mono (s := s) rfl ?_⟩
      · rw [List.append_nil, hlink]
        exact htold'
      · rw [hlink]
        exact hheld
      · intro hclosing
        rw [hlink]
        simp [Link.transition, Status.moved, hclosing]
  · simpa using ho

theorem orderly_finish (ho : Orderly s past) (id : Nat) :
    Orderly (s.move (.finish id)).value (past ++ (s.move (.finish id)).events) := by
  refine ho.attend id _ fun p hp => ?_
  split
  · rename_i hplace
    exact ho.destroy hp (.inr hplace)
  · simpa using ho

theorem orderly_free (ho : Orderly s past) (id : Nat) :
    Orderly (s.move (.free id)).value (past ++ (s.move (.free id)).events) := by
  refine ho.attend id _ fun p hp => ?_
  split
  · rename_i closedHere hplace
    cases ho.lots hp with
    | present hook hpresent => simp [hplace] at hpresent
    | leaving _ _ hdeparted hentry hheld =>
      have hlog : ∀ j, Elsewhere j [.log (.destroyed p.key closedHere)] := elsewhere_log (by simp)
      have hdeparted := (Link.lasting_departed id True).quiet hdeparted (hlog id)
      exact ho.put hp ((Hub.apart_quiet _ s.hub hlog).leave hentry)
        (Hub.sound_deregister ho.sound _) rfl rfl
        (.left rfl hdeparted (Slab.not_mem_erase ho.sound.once hentry)) (by simp)
    | left hleft => simp [hplace] at hleft
  · simpa using ho

theorem orderly_shutdown (ho : Orderly s past) (id : Nat) :
    Orderly (s.move (.shutdown id)).value (past ++ (s.move (.shutdown id)).events) := by
  refine ho.attend id _ fun p hp => ?_
  simp only [Traced.value_bind, Traced.value_pure, Traced.events_bind, Traced.events_pure,
    List.append_nil]
  exact ho.ask (ho.lt hp)

/-! ### The stop -/

/-- Once the flag is raised, a stop does nothing. -/
theorem move_stop (h : s.hub.stopping = true) : s.move .stop = pure s := by
  simp [move, h]

theorem orderly_stop (ho : Orderly s past) :
    Orderly (s.move .stop).value (past ++ (s.move .stop).events) := by
  cases hstopping : s.hub.stopping with
  | true => simpa [move_stop hstopping] using ho
  | false =>
    have hm :=
      ho.toMuster.next stable_standing (Hub.apart_stopping s.hub)
        (Hub.sound_stopping ho.sound) ho.places
      (fun _ _ => rfl) (by simp)
    simp only [move, hstopping, Bool.false_eq_true, if_false, Traced.value_pure, Traced.events_pure]
    exact ⟨hm, rfl, by simp, by simp [Reached]⟩

/-- A worker's connection is collected. -/
theorem Orderly.collects (ho : Orderly s past) (hp : s.parties[id]? = some p)
    (hw : p.place = .working) :
    id ∈ s.hub.live := by
  obtain ⟨hook, -, hentry, hheld⟩ := (ho.lots hp).told (.inr hw)
  exact List.mem_filter.2 ⟨Slab.mem_toList.2 ⟨_, hentry⟩, hheld⟩

/-- The sweep goes on. -/
theorem Orderly.sweepTo (ho : Orderly s past) {next : Sweep} (hs : s.sweep.isSome = true)
    (hcollected : ∀ {count left}, next = .asking count left → ∀ id ∈ left, id < s.hub.links.length)
    (hreached : ∀ {id p}, s.parties[id]? = some p → p.place = .working →
      Reached { s with sweep := some next } id) :
    Orderly { s with sweep := some next } past :=
  ⟨ho.toMuster, ho.flag.trans hs, fun h => hcollected (Option.some.inj h), hreached⟩

theorem orderly_sweep (ho : Orderly s past) :
    Orderly (s.move .sweep).value (past ++ (s.move .sweep).events) := by
  show Orderly s.sweepOn.value (past ++ s.sweepOn.events)
  have hlog : ∀ count j, Elsewhere j [.log (.stopped count)] := fun count => elsewhere_log (by simp)
  unfold sweepOn
  split
  · simpa using ho
  · simpa using ho
  · rename_i hsweep
    split
    · rename_i hempty
      refine (ho.noted (hlog 0)).sweepTo (by simp [hsweep]) (by simp) fun hp hw => ?_
      have hnone : s.hub.roster.toList = [] := List.eq_nil_of_length_eq_zero hempty
      have hmember := ho.collects hp hw
      rw [Hub.live, hnone] at hmember
      cases hmember
    · rw [Traced.value_pure, Traced.events_pure, List.append_nil]
      exact ho.sweepTo (by simp [hsweep]) (by simp) fun _ _ => trivial
  · rename_i hsweep
    rw [Traced.value_pure, Traced.events_pure, List.append_nil]
    refine ho.sweepTo (by simp [hsweep]) ?_ fun hp hw => .inl (ho.collects hp hw)
    rintro _ _ ⟨⟩
    exact ho.sound.live_known
  · rename_i count hsweep
    refine (ho.noted (hlog count)).sweepTo (by simp [hsweep]) (by simp) fun hp hw => ?_
    have hreached := ho.reached hp hw
    rw [Reached, hsweep] at hreached
    exact hreached.resolve_left (by simp)
  · rename_i count id left hsweep
    have hknown := ho.collected hsweep
    have hid := hknown id (List.mem_cons_self ..)
    have hasked := ho.ask hid
    rw [Traced.value_bind, Traced.events_bind, Traced.value_pure, Traced.events_pure,
      List.append_nil]
    refine hasked.sweepTo (by simp [hsweep]) ?_ fun {j p} hp hw => ?_
    · rintro _ _ ⟨⟩ j hj
      exact hasked.collected hsweep j (List.mem_cons_of_mem _ hj)
    · have hreached := hasked.reached hp hw
      simp only [Reached, hsweep] at hreached ⊢
      rcases hreached with hreached | hreached
      · rcases List.mem_cons.1 hreached with rfl | hleft
        · exact .inr (Hub.isClosing_shutdown ho.sound hid)
        · exact .inl hleft
      · exact .inr hreached

/-- **Every move keeps the order.** -/
theorem orderly_move (m : Move) (ho : Orderly s past) :
    Orderly (s.move m).value (past ++ (s.move m).events) := by
  cases m with
  | register mode hook started => exact orderly_register ho mode hook started
  | look id => exact orderly_look ho id
  | turn id next => exact orderly_turn ho id next
  | finish id => exact orderly_finish ho id
  | free id => exact orderly_free ho id
  | shutdown id => exact orderly_shutdown ho id
  | stop => exact orderly_stop ho
  | sweep => exact orderly_sweep ho

theorem orderly_play (moves : List Move) (ho : Orderly s past) :
    Orderly (s.play moves).value (past ++ (s.play moves).events) := by
  induction moves generalizing s past with
  | nil => simpa [play] using ho
  | cons m rest ih =>
    have hrest := ih (orderly_move m ho)
    rw [List.append_assoc] at hrest
    exact hrest

/-! ### After the stop -/

theorem stopping_attend (h : s.hub.stopping = true) (id : Nat) {use : Party → Traced Server}
    (huse : ∀ p, (use p).value.hub.stopping = true) :
    (s.attend id use).value.hub.stopping = true := by
  unfold Server.attend
  split
  · exact h
  · exact huse _

/-- The flag is never lowered. -/
theorem stopping_move (h : s.hub.stopping = true) (m : Move) :
    (s.move m).value.hub.stopping = true := by
  cases m with
  | register mode hook started =>
    cases ha : s.hub.accept? { started, hook := some hook } with
    | none => simpa [move, ha] using h
    | some joined =>
      simp only [move, ha, Traced.value_pure]
      rw [(Hub.admitted_of_accept? ha).joined]
      exact h
  | look id =>
    refine stopping_attend h id fun p => ?_
    split
    · rw [welcome, if_pos h]
      exact h
    · exact h
  | turn id next =>
    refine stopping_attend h id fun p => ?_
    split <;> exact h
  | finish id =>
    refine stopping_attend h id fun p => ?_
    split <;> exact h
  | free id =>
    refine stopping_attend h id fun p => ?_
    split <;> exact h
  | shutdown id => exact stopping_attend h id fun p => h
  | stop => rw [move_stop h]; exact h
  | sweep =>
    show s.sweepOn.value.hub.stopping = true
    unfold sweepOn
    split <;> first | exact h | (split <;> exact h)

/-- Where a connection may go next. Nobody starts a worker once the flag is raised. -/
inductive Goes (stopping : Bool) : Place → Place → Prop
  | stays (place : Place) : Goes stopping place place
  | starts : stopping = false → Goes stopping .arriving .working
  | refused (closedHere : Bool) : stopping = true → Goes stopping .arriving (.leaving closedHere)
  | finishes (closedHere : Bool) : Goes stopping .working (.leaving closedHere)
  | frees (closedHere : Bool) : Goes stopping (.leaving closedHere) .left

theorem Goes.idle {place next : Place} (h : Goes true place next) (hplace : place ≠ .working) :
    next ≠ .working := by
  cases h with
  | stays => exact hplace
  | starts hcalm => cases hcalm
  | refused | finishes | frees => simp

/-- A connection has gone from `p` somewhere, or stayed. -/
def Gone (s : Server) (id : Nat) (p : Party) (t : Server) : Prop :=
  ∃ q, t.parties[id]? = some q ∧ Goes s.hub.stopping p.place q.place

theorem gone_stays (hp : t.parties[id]? = some p) : s.Gone id p t := ⟨p, hp, .stays _⟩

theorem gone_put (hp : s.parties[id]? = some p) {j : Nat} {p' : Party}
    (hp' : s.parties[j]? = some p') (hub : Hub) (hgoes : Goes s.hub.stopping p'.place q.place) :
    s.Gone id p ({ s with hub }.put j q) := by
  by_cases hj : j = id
  · subst hj
    rw [hp, Option.some.injEq] at hp'
    exact ⟨q, List.getElem?_set_self (List.getElem?_eq_some_iff.1 hp).1, hp' ▸ hgoes⟩
  · exact gone_stays ((List.getElem?_set_ne hj).trans hp)

theorem gone_attend (hp : s.parties[id]? = some p) (j : Nat) {use : Party → Traced Server}
    (huse : ∀ p', s.parties[j]? = some p' → s.Gone id p (use p').value) :
    s.Gone id p (s.attend j use).value := by
  unfold Server.attend
  split
  · exact gone_stays hp
  · exact huse _ ‹_›

/-- **Where a move takes a connection.** -/
theorem gone_move (hp : s.parties[id]? = some p) (m : Move) : s.Gone id p (s.move m).value := by
  cases m with
  | register mode hook started =>
    simp only [move]
    split
    · exact gone_stays hp
    · have hlt := (List.getElem?_eq_some_iff.1 hp).1
      exact gone_stays ((List.getElem?_append_left hlt).trans hp)
  | look j =>
    refine gone_attend hp j fun p' hp' => ?_
    split
    · rename_i hplace
      unfold welcome
      split
      · exact gone_put hp hp' _ (hplace ▸ .refused _ ‹_›)
      · exact gone_put hp hp' s.hub (hplace ▸ .starts (by simpa using ‹¬ s.hub.stopping = true›))
    · exact gone_stays hp
  | turn j next =>
    refine gone_attend hp j fun p' _ => ?_
    split <;> exact gone_stays hp
  | finish j =>
    refine gone_attend hp j fun p' hp' => ?_
    split
    · rename_i hplace
      exact gone_put hp hp' _ (hplace ▸ .finishes _)
    · exact gone_stays hp
  | free j =>
    refine gone_attend hp j fun p' hp' => ?_
    split
    · rename_i closedHere hplace
      exact gone_put hp hp' _ (hplace ▸ .frees _)
    · exact gone_stays hp
  | shutdown j => exact gone_attend hp j fun _ _ => gone_stays hp
  | stop =>
    simp only [move]
    split <;> exact gone_stays hp
  | sweep =>
    show s.Gone id p s.sweepOn.value
    unfold sweepOn
    split <;> first | exact gone_stays hp | (split <;> exact gone_stays hp)

/-- Nobody will run a connection any more that has no worker when the flag is raised. -/
theorem unrun_play (h : s.hub.stopping = true) (hp : s.parties[id]? = some p)
    (hplace : p.place ≠ .working) (moves : List Move) :
    ∃ q, (s.play moves).value.parties[id]? = some q ∧ q.place ≠ .working := by
  induction moves generalizing s p with
  | nil => exact ⟨p, hp, hplace⟩
  | cons m rest ih =>
    obtain ⟨q, hq, hgoes⟩ := gone_move hp m
    exact ih (stopping_move h m) hq ((h ▸ hgoes).idle hplace)

theorem stopping_play (h : s.hub.stopping = true) (moves : List Move) :
    (s.play moves).value.hub.stopping = true := by
  induction moves generalizing s with
  | nil => exact h
  | cons m rest ih => exact ih (stopping_move h m)

theorem stopping_of_stop {moves : List Move} (h : .stop ∈ moves) :
    (s.play moves).value.hub.stopping = true := by
  induction moves generalizing s with
  | nil => cases h
  | cons m rest ih =>
    rcases List.mem_cons.1 h with rfl | h
    · refine stopping_play ?_ rest
      simp only [move]
      split <;> first | assumption | rfl
    · exact ih h

/-- What holds when the first stop has finished: every member is closing or closed and its transport
has been ended, unless it is still with its acceptor. -/
structure Swept (s : Server) (past : List Event) : Prop where
  members : ∀ id ∈ s.hub.roster.toList, (∃ p, s.parties[id]? = some p ∧ p.place = .arriving) ∨
    (s.hub.link id).status.isClosing = true ∧ EndedOnce id past
  /-- one that is still with its acceptor is dropped by it -/
  dropped : ∀ {id p}, s.parties[id]? = some p → p.place = .arriving →
    let t := s.move (.look id)
    (∃ closedHere, t.value.parties[id]? = some { p with place := .leaving closedHere }) ∧
      (t.value.hub.link id).Departed id (past ++ t.events)
  /-- nor does anything else start a worker for it, whatever happens later -/
  unrun : ∀ {id p}, s.parties[id]? = some p → p.place = .arriving → ∀ later,
    let t := s.play later
    ∃ q, t.value.parties[id]? = some q ∧ q.place ≠ .working ∧
      (q.place = .arriving ∨ (t.value.hub.link id).Departed id (past ++ t.events))

/-- When the sweep has finished, workers' connections have been asked to shut down. -/
theorem Orderly.members_swept (ho : Orderly s past) (hs : s.sweep = some .finished)
    (hid : id ∈ s.hub.roster.toList) : (∃ p, s.parties[id]? = some p ∧ p.place = .arriving) ∨
      (s.hub.link id).status.isClosing = true ∧ EndedOnce id past := by
  obtain ⟨p, hp, hstanding⟩ := ho.of_known (ho.sound.known id hid)
  cases hstanding with
  | present hook hplace htold =>
    rcases hplace with harriving | hworking
    · exact .inl ⟨p, hp, harriving⟩
    · have hclosing := ho.reached hp hworking
      rw [Reached, hs] at hclosing
      exact .inr ⟨hclosing, htold.endedOnce hclosing⟩
  | leaving _ _ hdeparted => exact .inr ⟨hdeparted.isClosing, hdeparted.ended⟩
  | left _ _ hout => exact absurd hid hout

/-- Once the flag is raised, an acceptor that looks drops its connection. -/
theorem Orderly.look_drops (ho : Orderly s past) (h : s.hub.stopping = true)
    (hp : s.parties[id]? = some p) (hplace : p.place = .arriving) :
    let t := s.move (.look id)
    (∃ closedHere, t.value.parties[id]? = some { p with place := .leaving closedHere }) ∧
      (t.value.hub.link id).Departed id (past ++ t.events) := by
  intro t
  have hlt := (List.getElem?_eq_some_iff.1 hp).1
  have hmove : t = (do Traced.note (.late p.key); s.destroy id p) := by
    simp only [t, move, attend_some hp, hplace, welcome, if_pos h]
  have hleaving : ∃ closedHere, t.value.parties[id]? =
      some { p with place := .leaving closedHere } := by
    rw [hmove]
    exact ⟨_, List.getElem?_set_self hlt⟩
  refine ⟨hleaving, ?_⟩
  obtain ⟨closedHere, hleft⟩ := hleaving
  cases (orderly_look ho id).lots hleft with
  | present hook hpresent => simp at hpresent
  | leaving _ _ hdeparted => exact hdeparted
  | left _ hdeparted => exact hdeparted

/-- Once the flag is raised, a connection without a worker is with its acceptor or destroyed, now
and later. -/
theorem Orderly.unrun (ho : Orderly s past) (h : s.hub.stopping = true)
    (hp : s.parties[id]? = some p) (hplace : p.place ≠ .working) (later : List Move) :
    let t := s.play later
    ∃ q, t.value.parties[id]? = some q ∧ q.place ≠ .working ∧
      (q.place = .arriving ∨ (t.value.hub.link id).Departed id (past ++ t.events)) := by
  intro t
  obtain ⟨q, hq, hidle⟩ := unrun_play h hp hplace later
  refine ⟨q, hq, hidle, ?_⟩
  cases (orderly_play later ho).lots hq with
  | present hook hpresent => exact .inl (hpresent.resolve_right hidle)
  | leaving _ _ hdeparted => exact .inr hdeparted
  | left _ hdeparted => exact .inr hdeparted

theorem Orderly.swept (ho : Orderly s past) (hs : s.sweep = some .finished) : Swept s past := by
  have hstopping : s.hub.stopping = true := by simp [ho.flag, hs]
  exact ⟨fun _ => ho.members_swept hs, ho.look_drops hstopping,
    fun hp hplace => ho.unrun hstopping hp (by simp [hplace])⟩

/-- No transport is ended twice. -/
theorem Orderly.ended (ho : Orderly s past) (id : Nat) :
    calls id past = [] ∨ EndedOnce id past := by
  by_cases hid : id < s.hub.links.length
  · obtain ⟨p, -, hstanding⟩ := ho.of_known hid
    cases hstanding with
    | present hook _ htold =>
      cases htold with
      | free _ _ _ _ hcalls => exact .inl hcalls
      | claimed _ _ _ hcalls => exact .inr ⟨_, _, _, hcalls⟩
    | leaving _ _ hdeparted => exact .inr hdeparted.ended
    | left _ hdeparted => exact .inr hdeparted.ended
  · rw [ho.places, Nat.not_lt] at hid
    exact .inl (ho.unknown hid).1

/-- **No connection survives a stop**, and only the first stop does anything. -/
theorem stop_sweeps (capacity : Nat) (moves : List Move) :
    let played := play { hub := { capacity } } moves
    (played.value.sweep = some .finished → Swept played.value played.events) ∧
      (.stop ∈ moves → played.value.move .stop = pure played.value) ∧
      ∀ id, calls id played.events = [] ∨ EndedOnce id played.events := by
  intro played
  have ho : Orderly played.value played.events := orderly_play moves (orderly_empty capacity)
  exact ⟨ho.swept, fun h => move_stop (stopping_of_stop h), ho.ended⟩

/-- Two connections are asked to shut down, one of them before its acceptor has looked; a third
comes in when the stop has finished. -/
theorem stop_sweeps_arriving :
    let comes : Move := .register .line {} 0
    let moves := [comes, .look 0, comes, .stop, .sweep, .sweep, .sweep, .sweep, .sweep, comes]
    let played := play { hub := { capacity := 3 } } moves
    played.value.hub.roster.toList = [0, 1, 2] ∧ played.value.sweep = some .finished ∧
      Swept played.value played.events ∧ played.value.move .stop = pure played.value := by
  intro comes moves played
  have hmembers : played.value.hub.roster.toList = [0, 1, 2] := by decide +kernel
  have hfinished : played.value.sweep = some .finished := by decide +kernel
  exact ⟨hmembers, hfinished, (stop_sweeps 3 moves).1 hfinished,
    (stop_sweeps 3 moves).2.1 (by simp [moves])⟩

/-! ### Threads that nothing comes between -/

section Uninterrupted
variable {σ : Type}

/-- Destroying a connection and freeing its key at once is what its session does in the end. -/
theorem takeDown_free (hp : s.parties[id]? = some p) (v : Session σ) (hid : v.desk.id = id)
    (hhub : v.desk.hub = s.hub) (hkey : v.desk.outlet.conn = p.key) (misuse : Option Misuse) :
    let t := (s.destroy id p).value.move (.free id)
    t.value.hub = (v.takeDown misuse).value.desk.hub ∧
      (s.destroy id p).events ++ t.events = (v.takeDown misuse).events := by
  intro t
  let closedHere := (s.hub.link id).destroy.value.2
  have hlt := (List.getElem?_eq_some_iff.1 hp).1
  have hleaving : (s.destroy id p).value.parties[id]? =
      some { p with place := .leaving closedHere } :=
    List.getElem?_set_self hlt
  have hfree : t = _ := attend_some hleaving _
  have hlink : v.desk.link = s.hub.link id := by rw [Desk.link, hhub, hid]
  rw [hfree]
  simp [Session.takeDown, Server.destroy, Server.put, hlink, hhub, hkey, Outlet.release, closedHere]

/-- An acceptor that finds the flag raised has its connection dropped at once. -/
theorem drop_free (h : s.hub.stopping = true) (hp : s.parties[id]? = some p) (v : Session σ)
    (hid : v.desk.id = id) (hhub : v.desk.hub = s.hub) (hkey : v.desk.outlet.conn = p.key) :
    let t := do (← s.welcome id p).move (.free id)
    t.value.hub = v.discard.value.desk.hub ∧ t.events = .log (.late p.key) :: v.discard.events := by
  intro t
  obtain ⟨hvalue, hevents⟩ := takeDown_free hp v hid hhub hkey none
  have hdropped : s.welcome id p = (do Traced.note (.late p.key); s.destroy id p) := if_pos h
  simp only [t, hdropped, Session.discard]
  refine ⟨hvalue, ?_⟩
  rw [← hevents]
  rfl

/-- One that does not finds its connection a worker, whose key is not freed. -/
theorem start_free (h : s.hub.stopping = false) (hp : s.parties[id]? = some p) :
    (do (← s.welcome id p).move (.free id)) =
      ⟨s.put id { p with place := .working }, [.log (.accepted p.key p.mode s.hub.size)]⟩ := by
  let begun := s.put id { p with place := .working }
  have hbegun : begun.parties[id]? = some { p with place := .working } :=
    List.getElem?_set_self (List.getElem?_eq_some_iff.1 hp).1
  have hfree : begun.move (.free id) = pure begun := attend_some hbegun _
  simp only [begun] at hfree
  simp [welcome, h, hfree, bind, pure, Traced.note, Traced.record]

/-- An acceptor that nothing comes between is `Session.welcome`. -/
theorem play_welcome (hplaces : s.hub.links.length = s.parties.length) (mode : Mode)
    (readSize : Nat) (state : σ) (t : Transport) (started : Int) :
    let id := s.parties.length
    let played := s.play [.register mode t.hook started, .look id, .free id]
    let welcomed := Session.welcome mode readSize state t { started } s.hub
    played.value.hub = welcomed.value.2 ∧ played.events = welcomed.events := by
  intro id played welcomed
  cases ha : Session.accept? mode readSize state t { started } s.hub with
  | none =>
    have hfull : s.hub.accept? { started, hook := some t.hook } = none := by
      simpa [Session.accept?] using ha
    have hnobody : s.parties[id]? = none := List.getElem?_eq_none (Nat.le_refl _)
    simp [played, welcomed, play, move, Session.welcome, Server.attend, ha, hfull, hnobody]
  | some v =>
    have hhub := Session.hub_of_accept? ha
    have hadmitted := Hub.admitted_of_accept? hhub
    have hid : v.desk.id = id := hadmitted.number.trans hplaces
    have hflag : v.desk.hub.stopping = s.hub.stopping := by
      rw [hadmitted.joined]
      rfl
    let p : Party := { key := v.desk.outlet.conn, mode }
    let joined : Server := { s with hub := v.desk.hub, parties := s.parties ++ [p] }
    have hregister : s.move (.register mode t.hook started) = pure joined := by
      simp [move, hhub, joined, p]
    have hp : joined.parties[id]? = some p := List.getElem?_concat_length
    have hlook : joined.move (.look id) = joined.welcome id p := attend_some hp _
    have hplayed : played = (do (← joined.welcome id p).move (.free id)) := by
      simp [played, play, hregister, hlook, bind, pure]
    rw [hplayed]
    cases hstopping : s.hub.stopping with
    | true =>
      have hwelcomed : welcomed = ⟨(none, v.discard.value.desk.hub),
          .log (.late p.key) :: v.discard.events⟩ := by
        simp [welcomed, Session.welcome, ha, hstopping, bind, pure, Traced.note, Traced.record, p]
      rw [hwelcomed]
      exact drop_free (hflag.trans hstopping) hp v hid rfl rfl
    | false =>
      have hwelcomed : welcomed = ⟨(some v, v.desk.hub),
          [.log (.accepted p.key p.mode v.desk.hub.size)]⟩ := by
        simp [welcomed, Session.welcome, ha, hstopping, bind, pure, Traced.note, Traced.record, p]
      rw [hwelcomed, start_free (hflag.trans hstopping) hp]
      exact ⟨rfl, rfl⟩

end Uninterrupted

end Server
end NetShell
