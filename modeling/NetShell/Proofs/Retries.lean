import Mathlib.Data.List.Induction
import NetShell.Proofs.Endings
import NetShell.Proofs.Unfailing

/-! How many failed reads are borne.

Reads are told from a history by what they came to (`Event.outcomes`). A failure is borne again and
again unless it is of the teardown class; interrupted reads are not counted at all, and a read that
brings bytes makes up for the failures before it. The worker's count is told from the outcomes of
its reads alone (`Event.tries`), whatever it did between them, so a connection that nobody asks to
end is given up exactly at the sixty-fourth failure that nothing has made up for
(`Session.gives_up_iff`). -/
namespace NetShell
open WebSocket Event

variable {σ : Type}

namespace Event

/-! ### What reads come to -/

/-- What the reads of a history came to, in order. -/
def outcomes (events : List Event) : List (Except Fault Bytes) :=
  events.filterMap fun
    | .read _ _ _ outcome => some outcome
    | _ => none

/-- The failures that were reported, each with the key that the report bears. -/
def failures (events : List Event) : List (Nat × Fault) :=
  events.filterMap fun
    | .log (.readFailed conn fault) => some (conn, fault)
    | _ => none

/-- A failure that counts. -/
def counted? : Except Fault Bytes → Option Fault
  | .ok _ => none
  | .error fault => if fault.isInterrupted || fault.isTeardown then none else some fault

/-- The failures that count, in order. -/
def counted (reads : List (Except Fault Bytes)) : List Fault := reads.filterMap counted?

/-- A read that brings bytes. -/
def brings : Except Fault Bytes → Bool
  | .ok data => !data.isEmpty
  | .error _ => false

/-- Reads none of which brings a byte. -/
def Barren (reads : List (Except Fault Bytes)) : Prop := ∀ outcome ∈ reads, brings outcome = false

/-- How many failures count after these reads. -/
def tries (reads : List (Except Fault Bytes)) : Nat := reads.foldl bears 0

@[simp] theorem outcomes_append (a b : List Event) : outcomes (a ++ b) = outcomes a ++ outcomes b :=
  List.filterMap_append

@[simp] theorem failures_append (a b : List Event) : failures (a ++ b) = failures a ++ failures b :=
  List.filterMap_append

@[simp] theorem counted_append (a b : List (Except Fault Bytes)) :
    counted (a ++ b) = counted a ++ counted b :=
  List.filterMap_append

@[simp] theorem outcomes_log (n : Notice) : outcomes [.log n] = [] := rfl

@[simp] theorem failures_readEnded (conn : Nat) (fault : Fault) :
    failures [.log (.readEnded conn fault)] = [] :=
  rfl

@[simp] theorem failures_readFailed (conn : Nat) (fault : Fault) :
    failures [.log (.readFailed conn fault)] = [(conn, fault)] := rfl

theorem outcomes_of_isRead {events : List Event} (h : ∀ e ∈ events, e.isRead = false) :
    outcomes events = [] := by
  rw [outcomes, List.filterMap_eq_nil_iff]
  intro e he
  have := h e he
  cases e with
  | read => cases this
  | _ => rfl

theorem failures_of_isRead {events : List Event} (h : ∀ e ∈ events, e.isRead = false) :
    failures events = [] := by
  rw [failures, List.filterMap_eq_nil_iff]
  intro e he
  have := h e he
  cases e with
  | log n =>
    cases n with
    | readFailed => cases this
    | _ => rfl
  | _ => rfl

/-! ### Counting -/

theorem bears_eq (n : Nat) (outcome : Except Fault Bytes) :
    bears n outcome = if brings outcome then 0 else n + (counted [outcome]).length := by
  cases outcome with
  | ok data => cases data <;> rfl
  | error fault =>
    by_cases h : (fault.isInterrupted || fault.isTeardown) = true <;>
      simp [bears, brings, counted, counted?, h]

theorem tries_concat (reads : List (Except Fault Bytes)) (outcome : Except Fault Bytes) :
    tries (reads ++ [outcome]) = bears (tries reads) outcome := by
  simp [tries]

/-- Reads that bring nothing add their failures. -/
theorem tries_append {window : List (Except Fault Bytes)} (h : Barren window)
    (front : List (Except Fault Bytes)) :
    tries (front ++ window) = tries front + (counted window).length := by
  induction window using List.reverseRecOn with
  | nil => simp [counted]
  | append_singleton window last ih =>
    obtain ⟨hwindow, hlast⟩ := List.forall_mem_append.1 h
    rw [← List.append_assoc, tries_concat, bears_eq,
      hlast last (List.mem_singleton_self _), ih hwindow, counted_append, List.length_append]
    simp [Nat.add_assoc]

/-- What counts after some reads are the failures since the last of them that brought bytes. -/
theorem exists_barren (reads : List (Except Fault Bytes)) :
    ∃ front window, reads = front ++ window ∧ Barren window ∧
      (counted window).length = tries reads := by
  induction reads using List.reverseRecOn with
  | nil => exact ⟨[], [], rfl, nofun, rfl⟩
  | append_singleton reads last ih =>
    obtain ⟨front, window, hsplit, hbarren, hcount⟩ := ih
    rw [tries_concat, bears_eq]
    cases hlast : brings last with
    | true => exact ⟨reads ++ [last], [], by simp, nofun, rfl⟩
    | false =>
      refine ⟨front, window ++ [last], ?_, List.forall_mem_append.2 ⟨hbarren, by simpa using hlast⟩,
        ?_⟩
      · rw [hsplit, List.append_assoc]
      · rw [counted_append, List.length_append, hcount]
        rfl

/-- The reads came to so many failures in a row with the last of them, and not before. -/
structure Worn (reads : List (Except Fault Bytes)) (fault : Fault) : Prop where
  last : ∃ before, reads = before ++ [.error fault] ∧ ∀ front,
    front <+: before → tries front < maxFaults
  counts : counted? (.error fault) = some fault
  tries : tries reads = maxFaults

/-- Never have so many reads failed in a row. -/
theorem counted_lt {reads : List (Except Fault Bytes)}
    (hfew : ∀ front, front <+: reads → tries front < maxFaults)
    {front window back : List (Except Fault Bytes)} (hsplit : reads = front ++ window ++ back)
    (hbarren : Barren window) :
    (counted window).length < maxFaults := by
  have hless := hfew (front ++ window) ⟨back, hsplit.symm⟩
  rw [tries_append hbarren] at hless
  exact Nat.lt_of_le_of_lt (Nat.le_add_left ..) hless

namespace Worn

variable {reads : List (Except Fault Bytes)} {fault : Fault}

theorem exists_window (hw : Worn reads fault) :
    ∃ front window back, reads = front ++ window ++ back ∧ Barren window ∧
      maxFaults ≤ (counted window).length := by
  obtain ⟨front, window, hsplit, hbarren, hcount⟩ := exists_barren reads
  exact ⟨front, window, [],
    by rw [List.append_nil, hsplit], hbarren, Nat.le_of_eq (hcount.trans hw.tries).symm⟩

/-- So many failures in a row are all that they came to in the end. -/
theorem window (hw : Worn reads fault) {front window back : List (Except Fault Bytes)}
    (hsplit : reads = front ++ window ++ back) (hbarren : Barren window)
    (hmany : maxFaults ≤ (counted window).length) :
    back = [] ∧ (counted window).length = maxFaults ∧ window.getLast? = some (.error fault) ∧
      (counted window).getLast? = some fault := by
  obtain ⟨before, hbefore, hfew⟩ := hw.last
  rcases split_concat (hsplit.symm.trans hbefore) with ⟨rfl, hwindow⟩ | ⟨init, rfl, hinit⟩
  · have htries := hw.tries
    rw [hsplit, List.append_nil, tries_append hbarren] at htries
    rcases split_concat hwindow with ⟨rfl, -⟩ | ⟨init, rfl, -⟩
    · exact absurd hmany (by simp [counted, maxFaults])
    · have hcounts := hw.counts
      refine ⟨rfl, by omega, by simp, ?_⟩
      simp [counted, hcounts]
  · -- the failures would have been too many before the last read
    exact absurd (counted_lt hfew hinit.symm hbarren) (Nat.not_lt.2 hmany)

end Worn

end Event

namespace Session

variable {h : Handler σ} {id conn : Nat} {hook : Hook} {past : List Event} {s : Session σ}

/-! ### One step -/

/-- What holds of a connection that nobody has asked to end. Its failures have been reported one by
one. Its worker goes on while few reads in a row have failed, and knows how many; or they were too
many, which is noted when the connection is taken down. -/
inductive Bearing (id conn : Nat) (hook : Hook) (past : List Event) (s : Session σ) : Prop
  | few : (∀ front, front <+: outcomes past → tries front < maxFaults) →
      (∀ fault, .log (.ended conn (some (.exhausted fault))) ∉ past) →
      (∀ fault, s.worker.phase ≠ .finished (some (.exhausted fault))) →
      (s.worker.phase = .fresh ∨ s.worker.phase = .serving → s.worker.drained = false →
        s.worker.faults = tries (outcomes past)) →
      Bearing id conn hook past s
  | worn {fault : Fault} {before : List Event} : Worn (outcomes past) fault →
      s.worker.phase = .finished (some (.exhausted fault)) →
      past = before ++ [.log (.readFailed conn fault)] →
      Bearing id conn hook past s
  | down {fault : Fault} {before : List Event} : Worn (outcomes past) fault → s.isGone = true →
      past = before ++ .log (.readFailed conn fault) ::
      .log (.ended conn (some (.exhausted fault))) ::
        closing id hook conn false →
      Bearing id conn hook past s

/-- A worker whose loop is over notes why, and nothing is read any more. -/
theorem bearing_finished {cause : Option Ending} (hh : Held id conn hook past s) (h : Handler σ)
    (thread : Nat) (hs : s.worker.phase = .finished cause) (hq : asked id past = false)
    (hb : Bearing id conn hook past s) :
    Bearing id conn hook (past ++ (s.step h thread).events) (s.step h thread).value := by
  obtain rfl := hh.number
  obtain rfl := hh.key
  have hstep := step_finished h thread hh.told hs
  have hgone : (s.step h thread).value.worker.phase = .gone none := by
    rw [hstep, takeDown_eq hh.told]
  have hreads : outcomes (past ++ (s.step h thread).events) = outcomes past := by
    rw [outcomes_append, hstep, outcomes_of_isRead (List.forall_mem_cons.2 ⟨rfl, isRead_closing⟩),
      List.append_nil]
  cases hb with
  | few hfew hunnoted hcause =>
    refine .few (by rwa [hreads]) (fun fault hmem => ?_) (by simp [hgone]) (by simp [hgone])
    rcases List.mem_append.1 hmem with hmem | hmem
    · exact hunnoted fault hmem
    · rw [hstep] at hmem
      rcases List.mem_cons.1 hmem with heq | hmem
      · obtain rfl : some (.exhausted fault) = cause := by simpa using heq
        exact hcause fault hs
      · rcases closing_cases _ hmem with hfarewell | hdestroyed
        · cases hfarewell
        · cases hdestroyed
  | @worn fault before hworn hphase hpast =>
    obtain rfl := Phase.finished.inj (hs.symm.trans hphase)
    have hevents : past ++ (s.step h thread).events =
        before ++ .log (.readFailed s.desk.outlet.conn fault) ::
        .log (.ended s.desk.outlet.conn (some (.exhausted fault))) ::
          closing s.desk.id hook s.desk.outlet.conn false := by
      rw [hstep, hq, hpast, List.append_assoc]
      rfl
    exact .down (hreads ▸ hworn) (by rw [isGone, hgone]) hevents
  | down hworn hg => simp [isGone, hs] at hg

theorem outcomes_readEvents (ha : Attending id hook past s) :
    outcomes s.readEvents = [s.awaited.value.outcome] := by
  rw [readEvents, outcomes_append, outcomes_of_isRead (isRead_awaited ha.ready)]
  rfl

theorem failures_readEvents (ha : Attending id hook past s) : failures s.readEvents = [] := by
  rw [readEvents, failures_append, failures_of_isRead (isRead_awaited ha.ready)]
  rfl

/-- One read more, and still few have failed in a row. -/
theorem few_concat {reads : List (Except Fault Bytes)} {outcome : Except Fault Bytes}
    (hfew : ∀ front, front <+: reads → tries front < maxFaults)
    (hnext : bears (tries reads) outcome < maxFaults) :
    ∀ front, front <+: reads ++ [outcome] → tries front < maxFaults := by
  intro front hfront
  rcases List.prefix_concat_iff.1 hfront with rfl | hfront
  · rwa [tries_concat]
  · exact hfew front hfront

/-- While nobody asks for the end, the status says so when a read is over. -/
theorem isClosing_deskAfter (ha : Attending id hook past s) (hs : s.worker.phase = .serving)
    (hd : s.worker.drained = false) (hq : asked id (past ++ s.fill.events) = false) :
    s.deskAfter.link.status.isClosing = false := by
  have hstatus := (ha.moves (t := ⟨s.worker, s.deskAfter⟩) (s.moves_await _)).told.isClosing
  obtain ⟨hpast, hfill⟩ := unasked_append.1 hq
  have hread : asked id s.readEvents = false := by
    rcases (filled ha hs hd).1.noted with heq | ⟨n, heq, -⟩
    · exact heq ▸ hfill
    · rw [heq] at hfill
      exact (unasked_append.1 hfill).1
  rw [hstatus]
  exact unasked_append.2 ⟨hpast, (unasked_append.1 hread).1⟩

/-- A failed read is reported if it counts, and no other is. -/
theorem failures_fill (ha : Attending id hook past s) (hs : s.worker.phase = .serving)
    (hd : s.worker.drained = false) (hq : asked id (past ++ s.fill.events) = false) :
    outcomes s.fill.events = [s.awaited.value.outcome] ∧
      failures s.fill.events = (counted (outcomes s.fill.events)).map (s.desk.outlet.conn, ·) := by
  have hreads := outcomes_readEvents ha
  have hquiet := failures_readEvents ha
  have hopen := isClosing_deskAfter ha hs hd hq
  have hfill := filling hs
  generalize s.fill = t at hfill ⊢
  cases hfill with
  | finish ho | data _ ho => simp [hreads, hquiet, ho, counted, counted?]
  | interrupted hi ho => simp [hreads, hquiet, ho, counted, counted?, hi]
  | lost _ hl _ ho | cut _ hl _ ho =>
    rw [hopen, Bool.or_false] at hl
    simp [hreads, hquiet, ho, counted, counted?, hl]
  | failed hi hl ho =>
    rw [hopen, Bool.or_false] at hl
    simp [hreads, hquiet, ho, counted, counted?, hi, hl]

/-- Before the end of the loop no notice of it is given. -/
theorem unnoted_append (hunnoted : ∀ fault, .log (.ended conn (some (.exhausted fault))) ∉ past)
    {events : List Event} (hgoing : ∀ e ∈ events, e.isEnded = false) :
    ∀ fault, .log (.ended conn (some (.exhausted fault))) ∉ past ++ events := by
  intro fault hmem
  rcases List.mem_append.1 hmem with hmem | hmem
  · exact hunnoted fault hmem
  · cases hgoing _ hmem

/-- A failed read is borne, or it is the one at which the worker gives up. -/
theorem bearing_fill (h : Handler σ) (hh : Held id conn hook past s)
    (hs : s.worker.phase = .serving) (hd : s.worker.drained = false)
    (hq : asked id (past ++ s.fill.events) = false)
    (hfew : ∀ front, front <+: outcomes past → tries front < maxFaults)
    (hunnoted : ∀ fault, .log (.ended conn (some (.exhausted fault))) ∉ past)
    (hfaults : s.worker.faults = tries (outcomes past)) :
    Bearing id conn hook (past ++ s.fill.events) s.fill.value := by
  obtain rfl := hh.key
  have hgoing := (toils_fill h hh.ready hs).going
  have hreads : outcomes (past ++ s.fill.events) = outcomes past ++ [s.awaited.value.outcome] := by
    rw [outcomes_append, (failures_fill hh.toAttending hs hd hq).1]
  have hopen := isClosing_deskAfter hh.toAttending hs hd hq
  have hless := hfew _ (List.prefix_refl _)
  have hnone := unnoted_append hunnoted hgoing
  have hfill := filling hs
  generalize s.fill = t at hfill hreads hnone ⊢
  have hgoes (hnext : bears (tries (outcomes past)) s.awaited.value.outcome < maxFaults) :
      ∀ front, front <+: outcomes (past ++ t.events) → tries front < maxFaults :=
      hreads ▸ few_concat hfew hnext
  cases hfill with
  | finish ho =>
    refine .few (hgoes ?_) hnone (by simp [hs]) (by simp)
    simpa [ho, bears] using hless
  | data hne ho =>
    refine .few (hgoes ?_) hnone (by simp [hs]) fun _ _ => ?_
    · simp [ho, bears, hne, maxFaults]
    · rw [hreads, tries_concat]
      simp [ho, bears, hne]
  | interrupted hi ho =>
    refine .few (hgoes ?_) hnone (by simp [hs]) fun _ _ => ?_
    · simpa [ho, bears, hi] using hless
    · rw [hreads, tries_concat]
      simpa [ho, bears, hi] using hfaults
  | lost hi hl hf ho =>
    rw [hopen, Bool.or_false] at hl
    refine .few (hgoes ?_) hnone (by simp [hs]) (by simp)
    simpa [ho, bears, hl] using hless
  | cut hi hl hf ho =>
    rw [hopen, Bool.or_false] at hl
    refine .few (hgoes ?_) hnone (by simp) (by simp)
    simpa [ho, bears, hl] using hless
  | @failed fault hi hl ho =>
    rw [hopen, Bool.or_false] at hl
    have hnext : bears (tries (outcomes past)) s.awaited.value.outcome =
        tries (outcomes past) + 1 := by
      simp [ho, bears, hi, hl]
    by_cases hmany : maxFaults ≤ s.worker.faults + 1
    · have hlast : tries (outcomes past) + 1 = maxFaults := by omega
      refine .worn ⟨⟨outcomes past, by rw [hreads, ho], hfew⟩, by simp [counted?, hi, hl], ?_⟩
        (if_pos hmany)
        (List.append_assoc ..).symm
      rw [hreads, tries_concat, hnext, hlast]
    · refine .few (hgoes ?_) hnone (by simp [hmany]) fun _ _ => ?_
      · omega
      · rw [hreads, tries_concat, hnext, ← hfaults]

/-- Every failure that counts has been reported, in order. -/
def Reported (conn : Nat) (past : List Event) : Prop :=
  failures past = (counted (outcomes past)).map (conn, ·)

theorem Reported.append {events : List Event} (hr : Reported conn past)
    (he : failures events = (counted (outcomes events)).map (conn, ·)) :
    Reported conn (past ++ events) := by
  show failures (past ++ events) = _
  rw [failures_append, outcomes_append, counted_append, List.map_append, hr, he]

/-- What a step does otherwise than by reading changes no count. -/
theorem bearing_quiet (h : Handler σ) (thread : Nat) (hh : Held id conn hook past s)
    (hs : s.worker.phase = .fresh ∨ s.worker.phase = .serving)
    (hquiet : ∀ e ∈ (s.step h thread).events, e.isRead = false)
    (hdrained : (s.step h thread).value.worker.drained = s.worker.drained)
    (hfaults : (s.step h thread).value.worker.faults = s.worker.faults)
    (hb : Bearing id conn hook past s) :
    Bearing id conn hook (past ++ (s.step h thread).events) (s.step h thread).value := by
  have htoils := toils_step h thread hh.ready hs
  have hreads : outcomes (past ++ (s.step h thread).events) = outcomes past := by
    rw [outcomes_append, outcomes_of_isRead hquiet, List.append_nil]
  cases hb with
  | few hfew hunnoted hcause hcount =>
    refine .few (by rwa [hreads]) (unnoted_append hunnoted htoils.going) (fun fault hphase => ?_)
      (fun _ hd => ?_)
    · cases htoils.reason _ hphase with
      | exhausted _ hmem hread => exact Bool.false_ne_true ((hquiet _ hmem).symm.trans hread)
    · rw [hreads, hfaults]
      exact hcount hs (hdrained ▸ hd)
  | worn _ hphase => rcases hs with hs | hs <;> cases hs.symm.trans hphase
  | down _ hg => rcases hs with hs | hs <;> simp [isGone, hs] at hg

/-- **Every step keeps the count**, as long as nobody asks for the connection's end. -/
theorem bearing_step (h : Handler σ) (thread : Nat) (hl : Living id conn hook past s)
    (hg : s.isGone = false) (hq : asked id (past ++ (s.step h thread).events) = false)
    (hr : Reported conn past) (hb : Bearing id conn hook past s) :
    Reported conn (past ++ (s.step h thread).events) ∧
      Bearing id conn hook (past ++ (s.step h thread).events) (s.step h thread).value := by
  have hbills : Bills h s (s.step h thread) := bills_meet h (.work thread) hl
  have hpast : asked id past = false := (unasked_append.1 hq).1
  cases hl with
  | gone misuse _ hphase => simp [isGone, hphase] at hg
  | held hh hphase =>
    rcases hbills.reading with ⟨hquiet, hdrained, hfaults⟩ | ⟨hs, hd, hfill⟩
    · refine ⟨hr.append (by rw [failures_of_isRead hquiet, outcomes_of_isRead hquiet]; rfl), ?_⟩
      rcases hphase with hphase | hphase | ⟨cause, hphase⟩
      · exact bearing_quiet h thread hh (.inl hphase) hquiet hdrained hfaults hb
      · exact bearing_quiet h thread hh (.inr hphase) hquiet hdrained hfaults hb
      · exact bearing_finished hh h thread hphase hpast hb
    · rw [hfill] at hq ⊢
      obtain rfl := hh.key
      refine ⟨hr.append (failures_fill hh.toAttending hs hd hq).2, ?_⟩
      cases hb with
      | few hfew hunnoted _ hcount =>
        exact bearing_fill h hh hs hd hq hfew hunnoted (hcount (.inr hs) hd)
      | worn _ hphase => cases hs.symm.trans hphase
      | down _ hg' => simp [hg] at hg'

/-- **A run of which nobody asks for the end keeps the count to its end.** -/
theorem bearing_run (h : Handler σ) (thread : Nat) (hl : Living id conn hook [] s)
    (hs : s.worker.phase = .fresh) (hfresh : s.worker.faults = 0)
    (hq : asked id (s.run h thread).events = false) :
    Reported conn (s.run h thread).events ∧ Bearing id conn hook (s.run h thread).events
      (s.run h thread).value := by
  obtain ⟨⟨-, hkept⟩, -⟩ := run_invariant h thread
    (I := fun past s => Living id conn hook past s ∧
      (asked id past = false → Reported conn past ∧ Bearing id conn hook past s))
    (fun past s hg ⟨hl, hkept⟩ => ⟨living_work h thread hl, fun hq => by
      obtain ⟨hr, hb⟩ := hkept (unasked_append.1 hq).1
      exact bearing_step h thread hl hg hq hr hb⟩)
    ⟨hl, fun _ => ⟨rfl, .few (by simp [outcomes, tries, maxFaults]) (by simp) (by simp [hs])
      fun _ _ => hfresh⟩⟩
  exact hkept hq

/-! ### The buffer -/

/-- A read that fails leaves the buffer as it was. -/
theorem buffer_failed (h : Handler σ) (thread : Nat) (hl : Living id conn hook past s)
    {link room : Nat} {status : Status} {fault : Fault}
    (hread : .read link status room (.error fault) ∈ (s.step h thread).events) :
    (s.step h thread).value.worker.buffer = s.worker.buffer := by
  have hbills : Bills h s (s.step h thread) := bills_meet h (.work thread) hl
  rcases hbills.reading with ⟨hquiet, -, -⟩ | ⟨hs, hd, hfill⟩
  · cases hquiet _ hread
  · have ha := hl.attending hs
    have hfilled := (filled ha hs hd).1
    have hreceived := (readings ha).1
    have honly : .read link status room (.error fault) ∈ s.readEvents →
        s.awaited.value.outcome = .error fault := by
      intro hmem
      rcases List.mem_append.1 hmem with hmem | hmem
      · cases awaited_farewell ha.ready _ hmem
      · injection List.mem_singleton.1 hmem with _ _ _ heq
        exact heq.symm
    rw [hfill] at hread ⊢
    have hnothing : received s.fill.events = [] := by
      rcases hfilled.noted with heq | ⟨n, heq, -⟩
      · rw [heq] at hread ⊢
        rw [hreceived, honly hread]
        rfl
      · rw [heq] at hread ⊢
        rw [received_append, hreceived, honly (by simpa using hread)]
        rfl
    rw [hfilled.buffer, hnothing, List.append_nil]

/-! ### Whole runs -/

/-- **A connection is given up at the sixty-fourth failure in a row and never before.** Of a run in
which nobody asks for the end: it is given up if and only if there are sixty-four failed reads that
count and no read among them that brings a byte, interrupted reads apart; the last of them is the
last read of all, and what follows its report is the notice and the end. Each failure that counts is
reported once. A read that fails leaves the buffer as it was, also in the memory that it was grown
in. -/
theorem gives_up_iff (h : Handler σ) (thread : Nat) {hub : Hub} (hs : hub.Sound) {mode : Mode}
    {readSize : Nat} {state : σ} {t : Transport} {started : Int}
    (ha : accept? mode readSize state t { started } hub = some s)
    (hq : asked s.desk.id (s.run h thread).events = false) :
    let ran := s.run h thread
    let reads := outcomes ran.events
    let conn := s.desk.outlet.conn
    ((∃ fault, .log (.ended conn (some (.exhausted fault))) ∈ ran.events) ↔
        ∃ front window back, reads = front ++ window ++ back ∧ Barren window ∧
          64 ≤ (counted window).length) ∧
      (∀ front window back, reads = front ++ window ++ back → Barren window →
        64 ≤ (counted window).length →
        back = [] ∧ (counted window).length = 64 ∧ ∃ fault before,
          window.getLast? = some (.error fault) ∧ (counted window).getLast? = some fault ∧
            ran.events = before ++ .log (.readFailed conn fault) ::
              .log (.ended conn (some (.exhausted fault))) ::
              closing s.desk.id t.hook conn false) ∧
      failures ran.events = (counted reads).map (conn, ·) ∧
      ∀ count, let u := (s.steps h thread count).value
        (∀ link status room fault,
          .read link status room (.error fault) ∈ (u.step h thread).events →
          (u.step h thread).value.worker.buffer = u.worker.buffer) ∧
        (u.Fits → Checked.step h thread u = Checked.through (u.step h thread)) := by
  intro ran reads conn
  have hliving := living_of_accept? hs ha
  have haccepted := accepted_of_accept? hs ha
  have hfresh : s.worker.phase = .fresh := by rw [haccepted.worker]
  have hfaults : s.worker.faults = 0 := by rw [haccepted.worker]
  obtain ⟨hreported, hbearing⟩ := bearing_run h thread hliving hfresh hfaults hq
  have hgone : ran.value.isGone = true := isGone_run h thread s
  refine ⟨?_, ?_, hreported, fun count => ?_⟩
  · cases hbearing with
    | few hfew hunnoted =>
      refine ⟨fun ⟨fault, hmem⟩ => absurd hmem (hunnoted fault), ?_⟩
      rintro ⟨front, window, back, hsplit, hbarren, hmany⟩
      exact absurd (counted_lt hfew hsplit hbarren) (Nat.not_lt.2 hmany)
    | worn _ hphase => simp [ran, isGone, hphase] at hgone
    | @down fault before hworn _ hevents =>
      refine ⟨fun _ => hworn.exists_window, fun _ => ⟨fault, ?_⟩⟩
      show _ ∈ (s.run h thread).events
      rw [hevents]
      simp [conn]
  · intro front window back hsplit hbarren hmany
    cases hbearing with
    | few hfew => exact absurd (counted_lt hfew hsplit hbarren) (Nat.not_lt.2 hmany)
    | worn _ hphase => simp [ran, isGone, hphase] at hgone
    | @down fault before hworn _ hevents =>
      obtain ⟨hback, hcount, hlast, hlastCounted⟩ := hworn.window hsplit hbarren hmany
      exact ⟨hback, hcount, fault, before, hlast, hlastCounted, hevents⟩
  · have hlived := living_life h (List.replicate count (.work thread)) hliving
    have haccount := account_life (h := h) (List.replicate count (.work thread)) hliving
      (haccepted.account h (script_of_accept? ha))
    rw [← steps_eq_life] at hlived haccount
    exact ⟨fun _ _ _ _ hread => buffer_failed h thread hlived hread,
      fun hfits => checked_meet (.work thread) hlived haccount hfits⟩

/-- A failure that a line makes up for, and then sixty-four with an interruption after each but the
last: what would have come in later is not read. -/
theorem gives_up_iff_interrupted :
    let hub : Hub := { capacity := 1 }
    let h := Shell.handler { prompt := "> ", mode := .line }
    let t : Transport :=
      { arrivals := [.fault (.plain .timedOut), .data [0x78, 0x0A, 0x79]] ++
          (List.replicate 63 [.fault (.plain .timedOut), .fault (.plain .interrupted)]).flatten ++
          [.fault (.system 5), .data [0x7A, 0x0A]] }
    let front := [.error (.plain .timedOut), .ok [0x78, 0x0A, 0x79]]
    let window :=
      (List.replicate 63 [.error (.plain .timedOut), .error (.plain .interrupted)]).flatten ++
      [.error (.system 5)]
    hub.Sound ∧ ∃ s, accept? .line 16 () t { started := 0 } hub = some s ∧
      asked s.desk.id (s.run h 1).events = false ∧
      outcomes (s.run h 1).events = front ++ window ∧
      .log (.ended s.desk.outlet.conn (some (.exhausted (.system 5)))) ∈ (s.run h 1).events := by
  intro hub h t front window
  have hs : hub.Sound := Hub.sound_empty 1
  have hrun : ∀ s, accept? .line 16 () t { started := 0 } hub = some s →
      asked s.desk.id (s.run h 1).events = false ∧ outcomes (s.run h 1).events =
      front ++ window := by
    intro s ha
    cases ha
    rw [run_eq_steps 132]
    · decide +kernel
    · decide +kernel
  obtain ⟨hq, hreads⟩ := hrun _ rfl
  have hbarren : Barren window := by unfold Barren; decide +kernel
  have hmany : 64 ≤ (counted window).length := by decide +kernel
  have hall := gives_up_iff h 1 hs (t := t) rfl hq
  obtain ⟨-, -, fault, before, hlast, -, hevents⟩ :=
    hall.2.1 front window [] (by rw [hreads, List.append_nil]) hbarren hmany
  obtain rfl : Fault.system 5 = fault := by
    have hfault : window.getLast? = some (.error (.system 5)) := by decide +kernel
    rw [hfault] at hlast
    simpa using hlast
  refine ⟨hs, _, rfl, hq, hreads, ?_⟩
  rw [hevents]
  simp

end Session

end NetShell
