import Mathlib.Data.List.Nodup
import NetShell.Server.Hub

/-! What holds of every hub.

`Hub.Sound` is what the hub's operations rely on and keep: a connection stands at the
place of its number, one without a transport has been torn down, the members are
connections that there have been, each of them once, and the roster's freed keys are
exactly its empty slots. An empty hub is sound, and accepting a connection, asking one to
shut down and freeing a key leave a hub sound; `Hub.link` reads back what `Hub.setLink`
wrote. -/
namespace NetShell

/-! ### Slabs -/

namespace Slab

variable {α : Type}

/-- The freed keys are the empty slots, each once. -/
structure Sound (s : Slab α) : Prop where
  vacant : ∀ key, key ∈ s.vacant ↔ s.slots[key]? = some none
  distinct : s.vacant.Nodup

theorem sound_empty : Sound ({} : Slab α) := ⟨by simp, .nil⟩

theorem toList_around {s : Slab α} {key : Nat} {slot : Option α} (h : s.slots[key]? = some slot) :
    s.toList = (s.slots.take key).filterMap id ++ slot.toList ++
      (s.slots.drop (key + 1)).filterMap id := by
  obtain ⟨hlt, hk⟩ := List.getElem?_eq_some_iff.1 h
  have hsplit : s.slots = s.slots.take key ++ slot :: s.slots.drop (key + 1) := by
    rw [← hk, List.getElem_cons_drop, List.take_append_drop]
  rw [toList]
  conv => lhs; rw [hsplit]
  cases slot <;> simp

theorem toList_set {slots : List (Option α)} {vacant : List Nat} {key : Nat} (slot : Option α)
    (h : key < slots.length) :
    toList { slots := slots.set key slot, vacant } =
      (slots.take key).filterMap id ++ slot.toList ++ (slots.drop (key + 1)).filterMap id := by
  rw [toList_around (s := ⟨slots.set key slot, vacant⟩) (List.getElem?_set_self h)]
  simp [List.take_set_of_le, List.drop_set_of_lt]

/-- A new entry stands somewhere among the others. -/
theorem toList_insert {s : Slab α} (h : s.Sound) (a : α) :
    ∃ front back, s.toList = front ++ back ∧ (s.insert a).2.toList = front ++ a :: back := by
  unfold insert
  split
  · rename_i key vacant hv
    have hslot : s.slots[key]? = some none :=
      (h.vacant key).1 (by rw [hv]; exact List.mem_cons_self ..)
    refine ⟨_, _, by simpa using toList_around hslot, ?_⟩
    simpa using toList_set (some a) (List.getElem?_eq_some_iff.1 hslot).1
  · exact ⟨s.toList, [], by simp, by simp [toList]⟩

theorem get?_insert {s : Slab α} (h : s.Sound) (a : α) :
    (s.insert a).2.get? (s.insert a).1 = some a := by
  unfold insert
  split
  · rename_i key vacant hv
    have hslot : s.slots[key]? = some none :=
      (h.vacant key).1 (by rw [hv]; exact List.mem_cons_self ..)
    simp [get?, List.getElem?_set_self (List.getElem?_eq_some_iff.1 hslot).1]
  · simp [get?]

theorem sound_insert {s : Slab α} (h : s.Sound) (a : α) : (s.insert a).2.Sound := by
  unfold insert
  split
  · rename_i key vacant hv
    have hd := h.distinct
    rw [hv, List.nodup_cons] at hd
    refine ⟨fun k => ?_, hd.2⟩
    have hk := h.vacant k
    rw [hv, List.mem_cons] at hk
    by_cases he : k = key
    · subst he
      simp [hd.1, List.getElem?_set]
    · simpa [he, List.getElem?_set_ne (Ne.symm he)] using hk
  · refine ⟨fun k => ?_, h.distinct⟩
    rw [h.vacant k, List.getElem?_append]
    split
    · rfl
    · rename_i hlt
      have : s.slots[k]? = none := List.getElem?_eq_none (by omega)
      rw [this, List.getElem?_singleton]
      split <;> simp

theorem sound_erase {s : Slab α} (h : s.Sound) (key : Nat) : (s.erase key).Sound := by
  unfold erase
  split
  · exact h
  · rename_i a ha
    have hslot : s.slots[key]? = some (some a) := Option.join_eq_some_iff.1 ha
    have hfree : key ∉ s.vacant := by
      rw [h.vacant, hslot]
      simp
    refine ⟨fun k => ?_, List.nodup_cons.2 ⟨hfree, h.distinct⟩⟩
    rw [List.mem_cons, h.vacant k]
    by_cases he : k = key
    · subst he
      simp [List.getElem?_set_self (List.getElem?_eq_some_iff.1 hslot).1]
    · simp [he, List.getElem?_set_ne (Ne.symm he)]

theorem get?_erase (s : Slab α) (key : Nat) : (s.erase key).get? key = none := by
  unfold erase
  split
  · assumption
  · rename_i a ha
    have hslot : s.slots[key]? = some (some a) := Option.join_eq_some_iff.1 ha
    simp [get?, List.getElem?_set_self (List.getElem?_eq_some_iff.1 hslot).1]

/-- Freeing a key takes its entry out and no other. -/
theorem toList_erase {s : Slab α} {key : Nat} {a : α} (h : s.get? key = some a) :
    ∃ front back, s.toList = front ++ a :: back ∧ (s.erase key).toList = front ++ back := by
  have hslot : s.slots[key]? = some (some a) := Option.join_eq_some_iff.1 h
  have herase : s.erase key = { slots := s.slots.set key none, vacant := key :: s.vacant } := by
    rw [erase, h]
  rw [herase]
  exact ⟨_, _, by simpa using toList_around hslot,
    by simpa using toList_set none (List.getElem?_eq_some_iff.1 hslot).1⟩

/-- An entry that stood once is out when its key is freed. -/
theorem not_mem_erase {s : Slab α} {key : Nat} {a : α} (honce : s.toList.Nodup)
    (h : s.get? key = some a) :
    a ∉ (s.erase key).toList := by
  obtain ⟨front, back, hfull, herased⟩ := toList_erase h
  rw [hfull, List.nodup_middle, List.nodup_cons] at honce
  rw [herased]
  exact honce.1

/-! ### Keys -/

/-- The entries are what stands at the keys. -/
theorem mem_entries {s : Slab α} {key : Nat} {a : α} :
    (key, a) ∈ s.entries ↔ s.get? key = some a := by
  simp only [entries, List.mem_filterMap, Prod.exists, List.mem_zipIdx_iff_getElem?,
    Option.map_eq_some_iff, get?, Option.join_eq_some_iff]
  constructor
  · rintro ⟨slot, k, hslot, b, rfl, heq⟩
    cases heq
    exact hslot
  · intro hslot
    exact ⟨some a, key, hslot, a, rfl, rfl⟩

theorem map_snd_entries (s : Slab α) : s.entries.map Prod.snd = s.toList := by
  rw [entries, toList, List.map_filterMap]
  conv => rhs; rw [← List.zipIdx_map_fst 0 s.slots, List.filterMap_map]
  refine congrArg (s.slots.zipIdx.filterMap ·) (funext fun pair => ?_)
  cases h : pair.1 <;> simp [h]

/-- The keys of the entries ascend, so that no key has two entries. -/
theorem ascending_entries (s : Slab α) : (s.entries.map Prod.fst).Pairwise (· < ·) := by
  have hkeys : s.slots.zipIdx.Pairwise (fun a b => a.2 < b.2) := by
    rw [← List.pairwise_map (f := Prod.snd), List.zipIdx_map_snd]
    exact List.pairwise_lt_range'
  rw [List.pairwise_map, entries]
  refine List.Pairwise.filterMap _ (fun a b hab c hc c' hc' => ?_) hkeys
  obtain ⟨v, -, rfl⟩ := Option.map_eq_some_iff.1 hc
  obtain ⟨v', -, rfl⟩ := Option.map_eq_some_iff.1 hc'
  exact hab

theorem mem_toList {s : Slab α} {a : α} : a ∈ s.toList ↔ ∃ key, s.get? key = some a := by
  rw [← map_snd_entries, List.mem_map]
  constructor
  · rintro ⟨⟨key, b⟩, hmem, rfl⟩
    exact ⟨key, mem_entries.1 hmem⟩
  · rintro ⟨key, hkey⟩
    exact ⟨(key, a), mem_entries.2 hkey, rfl⟩

theorem lt_of_get? {s : Slab α} {key : Nat} {a : α} (h : s.get? key = some a) :
    key < s.slots.length :=
  (List.getElem?_eq_some_iff.1 (Option.join_eq_some_iff.1 h)).1

/-- An entry that stands once has one key. -/
theorem key_unique {s : Slab α} (honce : s.toList.Nodup) {key key' : Nat} {a : α}
    (h : s.get? key = some a) (h' : s.get? key' = some a) : key = key' := by
  rw [← map_snd_entries] at honce
  have hsame : (key, a) = (key', a) :=
    List.inj_on_of_nodup_map honce (mem_entries.2 h) (mem_entries.2 h') rfl
  exact congrArg Prod.fst hsame

theorem length_entries (s : Slab α) : s.entries.length = s.size := by
  rw [size, ← map_snd_entries, List.length_map]

theorem size_le_slots (s : Slab α) : s.size ≤ s.slots.length := List.length_filterMap_le ..

/-- A new entry stands at a key that stood for nothing. -/
theorem get?_vacant {s : Slab α} (h : s.Sound) (a : α) : s.get? (s.insert a).1 = none := by
  unfold insert
  split
  · rename_i key vacant hv
    have hslot : s.slots[key]? = some none :=
      (h.vacant key).1 (by rw [hv]; exact List.mem_cons_self ..)
    simp [get?, hslot]
  · simp [get?]

theorem get?_insert_ne (s : Slab α) (a : α) {key : Nat} (h : key ≠ (s.insert a).1) :
    (s.insert a).2.get? key = s.get? key := by
  unfold insert at h ⊢
  split at h
  · simp [get?, List.getElem?_set_ne (Ne.symm h)]
  · dsimp only at h
    by_cases hlt : key < s.slots.length
    · simp [get?, List.getElem?_append_left hlt]
    · have hpast : (s.slots ++ [some a]).length ≤ key := by
        rw [List.length_append, List.length_singleton]
        omega
      rw [get?, get?, List.getElem?_eq_none hpast, List.getElem?_eq_none (by omega)]

theorem get?_erase_ne (s : Slab α) {key other : Nat} (h : key ≠ other) :
    (s.erase key).get? other = s.get? other := by
  unfold erase
  split
  · rfl
  · simp [get?, List.getElem?_set_ne h]

theorem length_slots_erase (s : Slab α) (key : Nat) :
    (s.erase key).slots.length = s.slots.length := by
  unfold erase
  split <;> simp

/-- A key never used is given only when every other stands for something. -/
theorem length_slots_insert {s : Slab α} (h : s.Sound) (a : α) :
    (s.insert a).2.slots.length ≤ max s.slots.length (s.size + 1) := by
  unfold insert
  split
  · rw [List.length_set]
    exact Nat.le_max_left ..
  · rename_i hv
    have hfull : ∀ slot ∈ s.slots, slot.isSome = true := by
      intro slot hslot
      obtain ⟨key, hkey⟩ := List.mem_iff_getElem?.1 hslot
      cases slot with
      | some => rfl
      | none =>
        have := (h.vacant key).2 hkey
        rw [hv] at this
        cases this
    have hsize : s.size = s.slots.length := by
      rw [size, toList, List.filterMap_length_eq_length]
      exact hfull
    simp [hsize]

end Slab

/-! ### Hubs -/

namespace Hub

/-- What holds of every hub. -/
structure Sound (hub : Hub) : Prop where
  numbered : ∀ (id : Nat) (l : Link), hub.links[id]? = some l → l.id = id
  bound : ∀ l ∈ hub.links, l.hook = none → l.torn = true
  roster : hub.roster.Sound
  known : ∀ id ∈ hub.roster.toList, id < hub.links.length
  once : hub.roster.toList.Nodup

theorem sound_empty (capacity : Nat) : Sound { capacity } :=
  ⟨by simp, by simp, Slab.sound_empty, by simp [Slab.toList], by simp [Slab.toList]⟩

variable {hub : Hub}

theorem link_eq {id : Nat} (h : id < hub.links.length) : hub.link id = hub.links[id] := by
  simp [link, h]

theorem Sound.link_id (hs : hub.Sound) {id : Nat} (h : id < hub.links.length) :
    (hub.link id).id = id := by
  rw [link_eq h]
  exact hs.numbered id _ (List.getElem?_eq_getElem h)

theorem Sound.link_bound (hs : hub.Sound) {id : Nat} (h : id < hub.links.length)
    (hn : (hub.link id).hook = none) : (hub.link id).torn = true := by
  rw [link_eq h] at hn ⊢
  exact hs.bound _ (List.getElem_mem h) hn

@[simp] theorem length_setLink (l : Link) : (hub.setLink l).links.length = hub.links.length := by
  simp [setLink]

@[simp] theorem roster_setLink (l : Link) : (hub.setLink l).roster = hub.roster := rfl

theorem link_setLink {l : Link} {id : Nat} (hl : l.id = id) (h : id < hub.links.length) :
    (hub.setLink l).link id = l := by
  simp [setLink, link, hl, h]

theorem link_setLink_ne {l : Link} {id : Nat} (h : l.id ≠ id) :
    (hub.setLink l).link id = hub.link id := by
  simp [setLink, link, List.getElem?_set_ne h]

theorem setLink_setLink {l l' : Link} (h : l.id = l'.id) :
    (hub.setLink l).setLink l' = hub.setLink l' := by
  simp [setLink, h, List.set_set]

theorem setLink_link (hs : hub.Sound) {id : Nat} (h : id < hub.links.length) :
    hub.setLink (hub.link id) = hub := by
  have hid : hub.links[id].id = id := hs.numbered id _ (List.getElem?_eq_getElem h)
  simp [setLink, link_eq h, hid]

theorem sound_setLink (hs : hub.Sound) {l : Link} (hl : l.hook = none → l.torn = true) :
    (hub.setLink l).Sound := by
  refine ⟨fun id k hk => ?_, fun k hk => ?_, hs.roster, by simpa using hs.known, hs.once⟩
  · rw [setLink, List.getElem?_set] at hk
    split at hk
    · split at hk
      · cases hk
        assumption
      · cases hk
    · exact hs.numbered id k hk
  · rcases List.mem_or_eq_of_mem_set hk with hk | rfl
    · exact hs.bound k hk
    · exact hl

theorem sound_deregister (hs : hub.Sound) (key : Nat) : (hub.deregister key).Sound := by
  refine ⟨hs.numbered, hs.bound, Slab.sound_erase hs.roster key, ?_, ?_⟩
  all_goals
    cases hk : hub.roster.get? key with
    | none =>
      have : hub.roster.erase key = hub.roster := by rw [Slab.erase, hk]
      simp only [deregister, this]
      first | exact hs.known | exact hs.once
    | some id =>
      obtain ⟨front, back, hf, he⟩ := Slab.toList_erase hk
      have hknown := hs.known
      have honce := hs.once
      rw [hf] at hknown honce
      simp only [deregister, he]
      first
        | exact fun id hid =>
          hknown id (by simp only [List.mem_append, List.mem_cons] at hid ⊢; tauto)
        | exact honce.sublist (List.Sublist.append_left (List.sublist_cons_self ..) _)

/-- A connection that has been accepted: its number is new, its key stands for it, and the
hub is sound again. -/
structure Joined (hub : Hub) (l : Link) (id key : Nat) (joined : Hub) : Prop where
  number : id = hub.links.length
  links : joined.links = hub.links ++ [{ l with id }]
  entry : joined.roster.get? key = some id
  sound : joined.Sound

theorem joined_of_accept? (hs : hub.Sound) {l : Link} (hl : l.hook = none → l.torn = true)
    {id key : Nat} {joined : Hub} (h : hub.accept? l = some (id, key, joined)) :
    Joined hub l id key joined := by
  obtain ⟨⟨key', hub'⟩, hr, he⟩ := Option.map_eq_some_iff.1 h
  simp only [Prod.mk.injEq] at he
  obtain ⟨rfl, rfl, rfl⟩ := he
  unfold register? at hr
  split at hr
  · cases hr
  · simp only [Option.some.injEq, Prod.mk.injEq] at hr
    obtain ⟨rfl, rfl⟩ := hr
    refine ⟨rfl, rfl, Slab.get?_insert hs.roster _, ?_, ?_, Slab.sound_insert hs.roster _, ?_, ?_⟩
    · intro id k hk
      rw [List.getElem?_append] at hk
      split at hk
      · exact hs.numbered id k hk
      · rw [List.getElem?_singleton] at hk
        split at hk
        · cases hk
          show hub.links.length = id
          omega
        · cases hk
    · intro k hk
      rcases List.mem_append.1 hk with hk | hk
      · exact hs.bound k hk
      · rw [List.mem_singleton.1 hk]
        exact hl
    all_goals
      obtain ⟨front, back, hf, hi⟩ := Slab.toList_insert hs.roster hub.links.length
      have hknown := hs.known
      have honce := hs.once
      rw [hf] at hknown honce
      dsimp only
      rw [hi]
    · intro id hid
      simp only [List.length_append, List.length_singleton]
      rcases List.mem_append.1 hid with hid | hid
      · have := hknown id (List.mem_append_left _ hid)
        omega
      · rcases List.mem_cons.1 hid with rfl | hid
        · omega
        · have := hknown id (List.mem_append_right _ hid)
          omega
    · rw [List.nodup_middle, List.nodup_cons]
      exact ⟨fun hid => Nat.lt_irrefl _ (hknown _ hid), honce⟩

theorem accept?_eq (hub : Hub) (l : Link) :
    hub.accept? l =
      if hub.capacity ≤ hub.size then none
      else some (hub.links.length, (hub.roster.insert hub.links.length).1,
        { (hub.enter l).2 with roster := (hub.roster.insert hub.links.length).2 }) := by
  show ((hub.enter l).2.register? hub.links.length).map _ = _
  have hsame : (hub.enter l).2.capacity = hub.capacity ∧ (hub.enter l).2.size = hub.size :=
    ⟨rfl, rfl⟩
  rw [register?, hsame.1, hsame.2]
  split <;> rfl

/-- There was room for a connection, and this is what accepting it did. -/
structure Admitted (hub : Hub) (l : Link) (id key : Nat) (joined : Hub) : Prop where
  space : hub.size < hub.capacity
  number : id = hub.links.length
  key : key = (hub.roster.insert id).1
  joined : joined = { (hub.enter l).2 with roster := (hub.roster.insert id).2 }

theorem admitted_of_accept? {l : Link} {id key : Nat} {joined : Hub}
    (h : hub.accept? l = some (id, key, joined)) :
    Admitted hub l id key joined := by
  rw [accept?_eq] at h
  split at h
  · cases h
  · simp only [Option.some.injEq, Prod.mk.injEq] at h
    obtain ⟨rfl, rfl, rfl⟩ := h
    exact ⟨by omega, rfl, rfl, rfl⟩

end Hub
end NetShell
