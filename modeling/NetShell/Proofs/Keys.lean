import Mathlib.Data.List.Induction
import NetShell.Proofs.Events
import NetShell.Proofs.Roster

/-! Keys that come to stand for another connection.

A connection that has left the hub's members may have its key freed once more, at any time:
nothing tells the hub for whom. That does nothing as long as nobody has been given the key
since, and takes out whoever holds it otherwise (`Hub.removed_again_iff`).

Who holds a key is told from what the calls came to alone (`Hub.Holds`), and the roster says
the same (`Hub.get?_calls_iff`). -/
namespace NetShell.Hub

/-! ### Calls -/

/-- A call that changes who is a member. -/
inductive Call
  | register (id : Nat)
  | deregister (key : Nat)

/-- What a call came to. -/
inductive Outcome
  | joined (id key : Nat)
  | refused (id : Nat)
  | freed (key : Nat)
  deriving DecidableEq

def call (hub : Hub) : Call → Outcome × Hub
  | .register id =>
    match hub.register? id with
    | none => (.refused id, hub)
    | some (key, hub) => (.joined id key, hub)
  | .deregister key => (.freed key, hub.deregister key)

/-- Calls one after another. -/
def calls (hub : Hub) : List Call → List Outcome × Hub
  | [] => ([], hub)
  | c :: rest =>
    let (outcome, hub) := hub.call c
    let (outcomes, hub) := hub.calls rest
    (outcome :: outcomes, hub)

/-- After these calls a connection holds a key: it was registered under it, and the key has not
been freed since. -/
def Holds (key id : Nat) (outcomes : List Outcome) : Prop :=
  ∃ front back, outcomes = front ++ .joined id key :: back ∧ .freed key ∉ back

variable {hub : Hub} {key id : Nat}

/-! ### One call -/

theorem holds_nil : ¬ Holds key id [] := by
  rintro ⟨front, back, h, -⟩
  simp at h

/-- The last call gave the key, or it did not free it. -/
theorem holds_concat {outcomes : List Outcome} {outcome : Outcome} :
    Holds key id (outcomes ++ [outcome]) ↔
      outcome = .joined id key ∨ Holds key id outcomes ∧ outcome ≠ .freed key := by
  constructor
  · rintro ⟨front, back, heq, hkept⟩
    rw [List.append_cons front] at heq
    rcases Event.split_concat heq.symm with ⟨rfl, hlast⟩ | ⟨init, rfl, hinit⟩
    · exact .inl (by simpa using (List.append_inj' hlast rfl).2.symm)
    · simp only [List.mem_append, List.mem_singleton, not_or] at hkept
      exact .inr ⟨⟨front, init, by rw [← hinit, ← List.append_cons], hkept.1⟩, Ne.symm hkept.2⟩
  · rintro (rfl | ⟨⟨front, back, rfl, hkept⟩, hne⟩)
    · exact ⟨outcomes, [], rfl, by simp⟩
    · exact ⟨front, back ++ [outcome], by simp, by simp [hkept, Ne.symm hne]⟩

theorem call_register (hub : Hub) (id : Nat) :
    hub.call (.register id) =
      if hub.capacity ≤ hub.size then (.refused id, hub)
      else (.joined id (hub.roster.insert id).1,
        { hub with roster := (hub.roster.insert id).2 }) := by
  unfold call register?
  by_cases hfull : hub.capacity ≤ hub.size <;> simp [hfull]

theorem sound_call (hs : hub.roster.Sound) (c : Call) : (hub.call c).2.roster.Sound := by
  cases c with
  | register id =>
    rw [call_register]
    split
    · exact hs
    · exact Slab.sound_insert hs id
  | deregister key => exact Slab.sound_erase hs key

/-- What stands at a key after a call: the connection that the call registered there, or what
stood there before, unless the call freed it. -/
theorem get?_call_iff (hs : hub.roster.Sound) (c : Call) :
    (hub.call c).2.roster.get? key = some id ↔
      (hub.call c).1 = .joined id key ∨ hub.roster.get? key = some id ∧
        (hub.call c).1 ≠ .freed key := by
  cases c with
  | register new =>
    rw [call_register]
    split
    · simp
    · by_cases hkey : key = (hub.roster.insert new).1
      · simp [hkey, Slab.get?_insert hs, Slab.get?_vacant hs]
      · simp [Slab.get?_insert_ne hub.roster new hkey, Ne.symm hkey]
  | deregister freed =>
    by_cases hkey : freed = key
    · simp [call, deregister, hkey, Slab.get?_erase]
    · simp [call, deregister, hkey, Slab.get?_erase_ne hub.roster hkey]

/-! ### Calls one after another -/

theorem calls_concat (hub : Hub) (cs : List Call) (c : Call) :
    hub.calls (cs ++ [c]) = ((hub.calls cs).1 ++ [((hub.calls cs).2.call c).1],
      ((hub.calls cs).2.call c).2) := by
  induction cs generalizing hub with
  | nil => rfl
  | cons first rest ih =>
    rw [List.cons_append]
    simp only [calls, ih, List.cons_append]

theorem sound_calls (hs : hub.roster.Sound) (cs : List Call) : (hub.calls cs).2.roster.Sound := by
  induction cs generalizing hub with
  | nil => exact hs
  | cons c rest ih => exact ih (sound_call hs c)

/-- The roster says who holds a key, if nobody did before the calls. -/
theorem get?_calls_iff (hs : hub.roster.Sound) (hfree : hub.roster.get? key = none)
    (cs : List Call) :
    (hub.calls cs).2.roster.get? key = some id ↔ Holds key id (hub.calls cs).1 := by
  induction cs using List.reverseRecOn with
  | nil => simp [calls, hfree, holds_nil]
  | append_singleton cs c ih => rw [calls_concat, get?_call_iff (sound_calls hs cs),
    holds_concat, ih]

/-! ### A key freed once more -/

theorem deregister_vacant (h : hub.roster.get? key = none) : hub.deregister key = hub := by
  rw [deregister, Slab.erase, h]

theorem deregister_eq_iff : hub.deregister key = hub ↔ hub.roster.get? key = none := by
  refine ⟨fun h => ?_, deregister_vacant⟩
  rw [← h]
  exact Slab.get?_erase ..

/-- Freeing a key takes out its holder and nobody else. -/
structure Parted (hub : Hub) (key id : Nat) : Prop where
  member : hub.roster.get? key = some id
  out : (hub.deregister key).roster.get? key = none
  others : ∀ place, place ≠ key → (hub.deregister key).roster.get? place = hub.roster.get? place
  size : (hub.deregister key).size + 1 = hub.size
  live : (hub.link id).held = true → (hub.deregister key).live.length + 1 = hub.live.length

theorem parted_of_get? (h : hub.roster.get? key = some id) : Parted hub key id := by
  obtain ⟨front, back, hfull, herased⟩ := Slab.toList_erase h
  refine ⟨h, Slab.get?_erase .., fun place hne => Slab.get?_erase_ne _ (Ne.symm hne), ?_,
    fun hheld => ?_⟩
  · simp only [Hub.size, Slab.size, deregister, hfull, herased, List.length_append,
      List.length_cons]
    omega
  · have hlink : (hub.deregister key).link = hub.link := rfl
    simp only [live, hlink]
    simp only [deregister, hfull, herased, List.filter_append, List.filter_cons, hheld, if_true,
      List.length_append, List.length_cons]
    omega

/-- **A connection was registered under a key and taken out by it. However the calls go on,
freeing the key again leaves every other connection registered if and only if no other has been
given the key since, and changes nothing if and only if nobody has; otherwise it takes out the
key's new holder.** -/
theorem removed_again_iff (capacity : Nat) (links : List Link) (before later : List Call)
    (hid : Holds key id (({ capacity, links } : Hub).calls before).1) :
    let there := (({ capacity, links } : Hub).calls before).2
    let given := ((there.deregister key).calls later).1
    let now := ((there.deregister key).calls later).2
    Parted there key id ∧
      ((∀ place other, other ≠ id → now.roster.get? place = some other →
          (now.deregister key).roster.get? place = some other) ↔
        ∀ other, other ≠ id → ¬ Holds key other given) ∧
      (now.deregister key = now ↔ ∀ other, ¬ Holds key other given) ∧
      ∀ other, Holds key other given → Parted now key other := by
  intro there given now
  have hempty : ({ capacity, links } : Hub).roster.Sound := Slab.sound_empty
  have hthere : there.roster.get? key = some id := (get?_calls_iff hempty rfl before).2 hid
  have hremoved : (there.deregister key).roster.Sound :=
    Slab.sound_erase (sound_calls hempty before) key
  have hholder (other : Nat) : now.roster.get? key = some other ↔ Holds key other given :=
    get?_calls_iff hremoved (Slab.get?_erase ..) later
  refine ⟨parted_of_get? hthere,
    ⟨fun hstay other hne hholds => ?_, fun hnone place other hne hplace => ?_⟩, ?_,
    fun other hholds => parted_of_get? ((hholder other).2 hholds)⟩
  · have hkept := hstay key other hne ((hholder other).2 hholds)
    simp [deregister, Slab.get?_erase] at hkept
  · have hother : key ≠ place := by
      rintro rfl
      exact hnone other hne ((hholder other).1 hplace)
    exact (Slab.get?_erase_ne _ hother).trans hplace
  · rw [deregister_eq_iff, Option.eq_none_iff_forall_ne_some]
    exact forall_congr' fun other => not_congr (hholder other)

/-- The other member leaves and a new one is given its key: freeing the first key again does
nothing. -/
theorem removed_again_iff_spared :
    let hub : Hub := { capacity := 2, links := [{ id := 0 }, { id := 1 }, { id := 2 }] }
    let joined := hub.calls [.register 0, .register 1]
    let now := ((joined.2.deregister 0).calls [.deregister 1, .register 2]).2
    Holds 0 0 joined.1 ∧ now.live = [2] ∧ now.deregister 0 = now := by
  intro hub joined now
  have hid : Holds 0 0 joined.1 := ⟨[], [.joined 1 1], rfl, by decide⟩
  refine ⟨hid, rfl, (removed_again_iff 2 _ _ _ hid).2.2.1.2 fun other => ?_⟩
  rintro ⟨front, back, hgiven, -⟩
  change [Outcome.freed 1, Outcome.joined 2 1] = _ at hgiven
  have hmem : Outcome.joined other 0 ∈ front ++ .joined other 0 :: back := by simp
  rw [← hgiven] at hmem
  simp at hmem

/-- A key is freed, given to the next connection and freed again: that connection is taken out. -/
theorem recycled_key_freed :
    let hub : Hub := { capacity := 2, links := [{ id := 0 }, { id := 1 }] }
    let joined := hub.calls [.register 0]
    let now := ((joined.2.deregister 0).calls [.register 1]).2
    Holds 0 0 joined.1 ∧ (now.roster.get? 0 = some 1 ∧ now.size = 1 ∧ now.live = [1]) ∧
      (now.deregister 0).roster.get? 0 = none ∧ (now.deregister 0).size = 0 ∧
        (now.deregister 0).live = [] ∧
      (now.deregister 0).report ≠ now.report :=
  ⟨⟨[], [], rfl, by decide⟩, by decide, by decide, by decide, by decide, by decide +kernel⟩

end NetShell.Hub
