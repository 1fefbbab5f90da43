import NetShell.Connection.Traced

/-! Reading a history.

What is claimed of a connection is claimed of its events. These are the readings of a
history that the claims use: the bytes that its reads brought (`received`), the messages
the handler was given, the calls that ended its transport (`calls`), whether it was asked
to shut down (`asked`) and how often that was noted (`logged`), whether a read has found the
end of the stream (`spent`), and how many reads in a row have failed (`strain`). Each of them
is read off the parts of a history one after another. -/
namespace NetShell.Event

/-- The bytes that reads brought, in order. -/
def received (events : List Event) : Bytes :=
  events.flatMap fun
    | .read _ _ _ (.ok data) => data
    | _ => []

/-- The messages the handler was given, in order. -/
def messages (events : List Event) : List Bytes :=
  events.filterMap fun
    | .message _ _ data => some data
    | _ => none

@[simp] theorem received_nil : received [] = [] := rfl
@[simp] theorem messages_nil : messages [] = [] := rfl

@[simp] theorem received_append (a b : List Event) : received (a ++ b) = received a ++ received b :=
  List.flatMap_append

@[simp] theorem messages_append (a b : List Event) : messages (a ++ b) = messages a ++ messages b :=
  List.filterMap_append

@[simp] theorem received_log (n : Notice) : received [.log n] = [] := rfl
@[simp] theorem messages_log (n : Notice) : messages [.log n] = [] := rfl

/-! ### Kinds of events -/

/-- A read, or something that the handler is told. -/
def isInput : Event → Bool
  | .read .. | .connected .. | .message .. => true
  | _ => false

/-- What sending and stopping the server give rise to, the calls that end a transport
apart. -/
def isOutput : Event → Bool
  | .write .. | .log (.sendFailed ..) | .log (.stopped _) => true
  | _ => false

/-- What a worker gives rise to before it takes its connection down, the calls that end a
transport apart. -/
def isWork : Event → Bool
  | .shutdown .. | .close .. | .log .shutDown | .log (.destroyed ..) => false
  | _ => true

/-- What shutting a transport down gives rise to. -/
def isFarewell : Event → Bool
  | .shutdown .. | .close .. | .log (.closeFailed _) | .log .shutDown => true
  | _ => false

/-- A read, or the notice that it has failed. -/
def isRead : Event → Bool
  | .read .. | .log (.readEnded ..) | .log (.readFailed ..) => true
  | _ => false

/-- What a worker gives rise to otherwise than by reading. -/
def isDeed (e : Event) : Bool := e.isWork && !e.isRead

/-- The notice that a connection is destroyed. -/
def isDestroyed : Event → Bool
  | .log (.destroyed ..) => true
  | _ => false

/-- The notice that an upgrade is complete. -/
def isUpgraded : Event → Bool
  | .log (.upgraded ..) => true
  | _ => false

/-- Nothing that the handler is told or the client is sent, and no notice of an upgrade. -/
def isIdle : Event → Bool
  | .write .. | .connected .. | .message .. | .log (.upgraded ..) => false
  | _ => true

theorem isInput_of_isFarewell {e : Event} (h : e.isFarewell = true) : e.isInput = false := by
  cases e with
  | read | connected | message => cases h
  | _ => rfl

theorem isDestroyed_of_isFarewell {e : Event} (h : e.isFarewell = true) :
    e.isDestroyed = false := by
  cases e with
  | log n => cases n <;> first | rfl | cases h
  | _ => rfl

theorem isDestroyed_of_isWork {e : Event} (h : e.isWork = true) : e.isDestroyed = false := by
  cases e with
  | log n => cases n <;> first | rfl | cases h
  | _ => rfl

theorem isWork_of_isOutput {e : Event} (h : e.isOutput = true) : e.isWork = true := by
  cases e with
  | log n => cases n <;> first | rfl | cases h
  | shutdown => cases h
  | close => cases h
  | _ => rfl

theorem isDeed_of_isOutput {e : Event} (h : e.isOutput = true) : e.isDeed = true := by
  cases e with
  | log n => cases n <;> first | rfl | cases h
  | write => rfl
  | _ => cases h

theorem isRead_of_isFarewell {e : Event} (h : e.isFarewell = true) : e.isRead = false := by
  cases e with
  | log n => cases n <;> first | rfl | cases h
  | read => cases h
  | _ => rfl

theorem isRead_of_isDestroyed {e : Event} (h : e.isDestroyed = true) : e.isRead = false := by
  cases e with
  | log n => cases n <;> first | rfl | cases h
  | _ => cases h

theorem isWork_of_isDeed {e : Event} (h : e.isDeed = true) : e.isWork = true :=
  (Bool.and_eq_true_iff.1 h).1

theorem isRead_of_isDeed {e : Event} (h : e.isDeed = true) : e.isRead = false := by
  simpa using (Bool.and_eq_true_iff.1 h).2

theorem isRead_of_isOutput {e : Event} (h : e.isOutput = true) : e.isRead = false :=
  isRead_of_isDeed (isDeed_of_isOutput h)

theorem isUpgraded_of_isOutput {e : Event} (h : e.isOutput = true) : e.isUpgraded = false := by
  cases e with
  | log n => cases n <;> first | rfl | cases h
  | _ => rfl

theorem isUpgraded_of_isFarewell {e : Event} (h : e.isFarewell = true) : e.isUpgraded = false := by
  cases e with
  | log n => cases n <;> first | rfl | cases h
  | _ => rfl

theorem isUpgraded_of_isRead {e : Event} (h : e.isRead = true) : e.isUpgraded = false := by
  cases e with
  | log n => cases n <;> first | rfl | cases h
  | _ => rfl

theorem isUpgraded_of_isDestroyed {e : Event} (h : e.isDestroyed = true) :
    e.isUpgraded = false := by
  cases e with
  | log n => cases n <;> first | rfl | cases h
  | _ => rfl

theorem isIdle_of_isFarewell {e : Event} (h : e.isFarewell = true) : e.isIdle = true := by
  cases e with
  | log n => cases n <;> first | rfl | cases h
  | write | connected | message => cases h
  | _ => rfl

theorem isIdle_of_isRead {e : Event} (h : e.isRead = true) : e.isIdle = true := by
  cases e with
  | log n => cases n <;> first | rfl | cases h
  | write | connected | message => cases h
  | _ => rfl

theorem isIdle_of_isDestroyed {e : Event} (h : e.isDestroyed = true) : e.isIdle = true := by
  cases e with
  | log n => cases n <;> first | rfl | cases h
  | _ => cases h

theorem isUpgraded_of_isIdle {e : Event} (h : e.isIdle = true) : e.isUpgraded = false := by
  cases e with
  | log n => cases n <;> first | rfl | cases h
  | _ => rfl

theorem isInput_of_isDestroyed {e : Event} (h : e.isDestroyed = true) : e.isInput = false := by
  cases e with
  | read | connected | message => cases h
  | _ => rfl

theorem isInput_of_isOutput {e : Event} (h : e.isOutput = true) : e.isInput = false := by
  cases e with
  | read | connected | message => cases h
  | _ => rfl

theorem received_of_quiet {events : List Event} (h : ∀ e ∈ events, e.isInput = false) :
    received events = [] := by
  rw [received, List.flatMap_eq_nil_iff]
  intro e he
  have := h e he
  cases e with
  | read => cases this
  | _ => rfl

theorem messages_of_quiet {events : List Event} (h : ∀ e ∈ events, e.isInput = false) :
    messages events = [] := by
  rw [messages, List.filterMap_eq_nil_iff]
  intro e he
  have := h e he
  cases e with
  | message => cases this
  | _ => rfl

theorem messages_of_isIdle {events : List Event} (h : ∀ e ∈ events, e.isIdle = true) :
    messages events = [] := by
  rw [messages, List.filterMap_eq_nil_iff]
  intro e he
  have := h e he
  cases e with
  | message => cases this
  | _ => rfl

/-! ### Bytes that are taken -/

@[simp] theorem accepted_nil : accepted [] = [] := rfl

@[simp] theorem accepted_append (a b : List Event) : accepted (a ++ b) = accepted a ++ accepted b :=
  List.flatMap_append

theorem accepted_write (link : Nat) (offered : Bytes) (count : Nat) (rest : List Event) :
    accepted (.write link offered (.ok count) :: rest) = offered.take count ++ accepted rest := rfl

theorem accepted_of_isIdle {events : List Event} (h : ∀ e ∈ events, e.isIdle = true) :
    accepted events = [] := by
  rw [accepted, List.flatMap_eq_nil_iff]
  intro e he
  have := h e he
  cases e with
  | write => cases this
  | _ => rfl

/-! ### Reads and deeds -/

theorem received_of_isRead {events : List Event} (h : ∀ e ∈ events, e.isRead = false) :
    received events = [] := by
  rw [received, List.flatMap_eq_nil_iff]
  intro e he
  have := h e he
  cases e with
  | read => cases this
  | _ => rfl

/-- What reads nothing adds nothing to what was received. -/
theorem received_unread {past events : List Event} (h : ∀ e ∈ events, e.isRead = false) :
    received (past ++ events) = received past := by
  rw [received_append, received_of_isRead h, List.append_nil]

/-- What happened besides reading. -/
def deeds (events : List Event) : List Event := events.filter fun e => !e.isRead

@[simp] theorem deeds_nil : deeds [] = [] := rfl

@[simp] theorem deeds_append (a b : List Event) : deeds (a ++ b) = deeds a ++ deeds b :=
  List.filter_append ..

theorem deeds_of_isRead {events : List Event} (h : ∀ e ∈ events, e.isRead = false) :
    deeds events = events := by
  rw [deeds, List.filter_eq_self]
  intro e he
  rw [h e he]
  rfl

/-- What a reading that passes over reads and their failures reads off a history, it reads off
its deeds. -/
theorem filterMap_deeds {α : Type} {f : Event → Option α} (hf : ∀ e, e.isRead = true → f e = none)
    (events : List Event) : (deeds events).filterMap f = events.filterMap f := by
  rw [deeds, List.filterMap_filter]
  refine congrArg (events.filterMap ·) (funext fun e => ?_)
  cases he : e.isRead with
  | true => rw [hf e he]; rfl
  | false => rfl

theorem messages_deeds (events : List Event) : messages (deeds events) = messages events := by
  refine filterMap_deeds (fun e he => ?_) events
  cases e with
  | message => cases he
  | _ => rfl

/-- Reads send nothing. -/
theorem accepted_deeds (events : List Event) : accepted (deeds events) = accepted events := by
  induction events with
  | nil => rfl
  | cons e rest ih =>
    rw [← List.singleton_append, deeds_append, accepted_append, accepted_append, ih]
    congr 1
    cases e with
    | log n => cases n <;> rfl
    | _ => rfl

/-- An event of a history in two parts is in the first of them or in the second. -/
theorem split_append {a b before after : List Event} {e : Event}
    (h : a ++ b = before ++ e :: after) :
    (∃ front, before = a ++ front ∧ b = front ++ e :: after) ∨ ∃ back,
      a = before ++ e :: back ∧ after = back ++ b := by
  rcases List.append_eq_append_iff.1 h with ⟨front, hbefore, hb⟩ | ⟨back, ha, hb⟩
  · exact .inl ⟨front, hbefore, hb⟩
  · cases back with
    | nil => exact .inl ⟨[], by simpa using ha.symm, by simpa using hb.symm⟩
    | cons e' back =>
      obtain ⟨rfl, hafter⟩ := List.cons.inj hb
      exact .inr ⟨back, ha, hafter⟩

/-- The last of a list in two parts is the last of the second part, unless that is empty. -/
theorem split_concat {α : Type} {a b front : List α} {last : α} (h : a ++ b = front ++ [last]) :
    (b = [] ∧ a = front ++ [last]) ∨ ∃ init, b = init ++ [last] ∧ a ++ init = front := by
  rcases List.append_eq_append_iff.1 h with ⟨init, hfront, hb⟩ | ⟨back, ha, hlast⟩
  · exact .inr ⟨init, hb, hfront.symm⟩
  · cases back with
    | nil => exact .inr ⟨[], by simpa using hlast.symm, by simpa using ha⟩
    | cons e back =>
      obtain ⟨rfl, hrest⟩ := List.cons.inj hlast
      obtain ⟨rfl, rfl⟩ := List.append_eq_nil_iff.1 hrest.symm
      exact .inl ⟨rfl, ha⟩

/-- Before each read of a history, what had happened satisfies `P`. -/
def AtReads (P : List Event → Prop) (events : List Event) : Prop :=
  ∀ before link status room outcome after, events = before ++ .read link status room outcome ::
    after → P before

theorem atReads_nil {P : List Event → Prop} : AtReads P [] := by
  intro before link status room outcome after h
  simp at h

theorem AtReads.append_of_notMem {P : List Event → Prop} {a b : List Event} (ha : AtReads P a)
    (hb : ∀ link status room outcome, .read link status room outcome ∉ b) : AtReads P (a ++ b) := by
  intro before link status room outcome after h
  rcases split_append h with ⟨front, -, hsecond⟩ | ⟨back, hfirst, -⟩
  · exact absurd (by rw [hsecond]; simp) (hb link status room outcome)
  · exact ha before link status room outcome back hfirst

theorem AtReads.append {P : List Event → Prop} {a b : List Event} (ha : AtReads P a)
    (hb : ∀ e ∈ b, e.isRead = false) : AtReads P (a ++ b) :=
  ha.append_of_notMem fun link status room outcome hmem => by
    cases hb (.read link status room outcome) hmem

theorem AtReads.append_log {P : List Event → Prop} {a : List Event} (ha : AtReads P a)
    (n : Notice) :
    AtReads P (a ++ [.log n]) :=
  ha.append_of_notMem (by simp)

theorem AtReads.read {P : List Event → Prop} {a : List Event} (ha : AtReads P a) (hP : P a)
    (link : Nat) (status : Status) (room : Nat) (outcome : Except Fault Bytes) :
    AtReads P (a ++ [.read link status room outcome]) := by
  intro before link' status' room' outcome' after h
  rcases split_append h with ⟨front, rfl, hsecond⟩ | ⟨back, hfirst, -⟩
  · cases front with
    | nil => simpa using hP
    | cons => simp at hsecond
  · exact ha before link' status' room' outcome' back hfirst

/-! ### The end of a transport -/

/-- A call that ends a connection's transport. -/
def ends (id : Nat) : Event → Bool
  | .shutdown link _ _ | .close link _ _ => link == id
  | _ => false

/-- The calls that ended a connection's transport, in order. -/
def calls (id : Nat) (events : List Event) : List Event := events.filter (ends id)

@[simp] theorem calls_nil (id : Nat) : calls id [] = [] := rfl

@[simp] theorem calls_append (id : Nat) (a b : List Event) :
    calls id (a ++ b) = calls id a ++ calls id b :=
  List.filter_append ..

theorem calls_of_isWork {id : Nat} {events : List Event} (h : ∀ e ∈ events, e.isWork = true) :
    calls id events = [] := by
  rw [calls, List.filter_eq_nil_iff]
  intro e he
  have := h e he
  cases e with
  | shutdown | close => cases this
  | _ => simp [ends]

/-- The transport's shutdown, called because the connection was asked to shut down: the
request has claimed the status. -/
def asks (id : Nat) : Event → Bool
  | .shutdown link .closing _ => link == id
  | _ => false

/-- Whether a connection was asked to shut down before its end: the first request shows
in the call it makes, wherever it comes in (`Session.asked_life`). -/
def asked (id : Nat) (events : List Event) : Bool := events.any (asks id)

@[simp] theorem asked_nil (id : Nat) : asked id [] = false := rfl

@[simp] theorem asked_append (id : Nat) (a b : List Event) :
    asked id (a ++ b) = (asked id a || asked id b) :=
  List.any_append

theorem unasked_append {id : Nat} {a b : List Event} :
    asked id (a ++ b) = false ↔ asked id a = false ∧ asked id b = false := by
  rw [asked_append, Bool.or_eq_false_iff]

theorem asked_filter {id : Nat} {p : Event → Bool} (hp : ∀ e, asks id e = true → p e = true)
    (events : List Event) :
    asked id (events.filter p) = asked id events := by
  rw [asked, asked, List.any_filter]
  congr 1
  funext e
  cases he : asks id e with
  | true => rw [hp e he]; rfl
  | false => exact Bool.and_false _

/-- A request shows among the calls that end the transport. -/
theorem asked_calls (id : Nat) (events : List Event) :
    asked id (calls id events) = asked id events := by
  refine asked_filter (fun e he => ?_) events
  cases e with
  | shutdown link status => cases status <;> first | exact he | cases he
  | _ => cases he

/-- How often it was noted that a connection was shut down by request. The notice bears no
number; it is about the transport that was closed last, `last` saying whether that was this
connection's. -/
def logged (id : Nat) (last : Bool) : List Event → Nat
  | [] => 0
  | .close link _ _ :: rest => logged id (link == id) rest
  | .log .shutDown :: rest => (if last then 1 else 0) + logged id last rest
  | _ :: rest => logged id last rest

/-- Whether the transport that was closed last is a connection's. -/
def closedLast (id : Nat) (last : Bool) : List Event → Bool
  | [] => last
  | .close link _ _ :: rest => closedLast id (link == id) rest
  | _ :: rest => closedLast id last rest

theorem logged_append (id : Nat) (last : Bool) (a b : List Event) :
    logged id last (a ++ b) = logged id last a + logged id (closedLast id last a) b := by
  induction a generalizing last with
  | nil => simp [logged, closedLast]
  | cons e rest ih =>
    cases e with
    | log n => cases n <;> simp [logged, closedLast, ih, Nat.add_assoc]
    | _ => simp [logged, closedLast, ih]

theorem logged_of_isWork {id : Nat} {last : Bool} {events : List Event}
    (h : ∀ e ∈ events, e.isWork = true) :
    logged id last events = 0 := by
  induction events with
  | nil => rfl
  | cons e rest ih =>
    have he := h e (List.mem_cons_self ..)
    have hrest := ih fun e' he' => h e' (List.mem_cons_of_mem _ he')
    cases e with
    | close => cases he
    | log n =>
      cases n with
      | shutDown => cases he
      | _ => exact hrest
    | _ => exact hrest

/-! ### The end of the stream -/

/-- Whether a read finds the end of the stream: it brings nothing, or it fails because the
connection has gone away, or, once the connection was asked to shut down, in any other way
than by being interrupted. -/
def finds (asked : Bool) : Except Fault Bytes → Bool
  | .ok data => data.isEmpty
  | .error fault => fault.isTeardown || (asked && !fault.isInterrupted)

/-- Whether a read has found the end of the stream of a connection; `asked` says whether
it was asked to shut down before. -/
def spent (id : Nat) (asked : Bool) : List Event → Bool
  | [] => false
  | .read _ _ _ outcome :: rest => finds asked outcome || spent id asked rest
  | e :: rest => spent id (asked || asks id e) rest

@[simp] theorem spent_log (id : Nat) (asked : Bool) (n : Notice) :
    spent id asked [.log n] = false :=
  rfl

theorem spent_append (id : Nat) (before : Bool) (a b : List Event) :
    spent id before (a ++ b) = (spent id before a || spent id (before || asked id a) b) := by
  induction a generalizing before with
  | nil => simp [spent]
  | cons e rest ih =>
    have hsplit : asked id (e :: rest) = (asks id e || asked id rest) := rfl
    cases e with
    | read link status room outcome =>
      have : asks id (.read link status room outcome) = false := rfl
      simp [spent, ih, hsplit, this, Bool.or_assoc]
    | _ => simp [spent, ih, hsplit, Bool.or_assoc]

theorem spent_of_quiet {id : Nat} {before : Bool} {events : List Event}
    (h : ∀ e ∈ events, e.isInput = false) :
    spent id before events = false := by
  induction events generalizing before with
  | nil => rfl
  | cons e rest ih =>
    have he := h e (List.mem_cons_self ..)
    have hrest : ∀ asked, spent id asked rest = false :=
      fun _ => ih fun e' he' => h e' (List.mem_cons_of_mem _ he')
    cases e with
    | read => cases he
    | _ => exact hrest _

/-! ### Faults in a row -/

/-- The unexpected read faults since a read brought bytes, `n` of them before this one. -/
def bears (n : Nat) : Except Fault Bytes → Nat
  | .ok data => if data.isEmpty then n else 0
  | .error fault => if fault.isInterrupted || fault.isTeardown then n else n + 1

/-- The unexpected read faults since a read brought bytes, `n` of them before the history. -/
def strain (n : Nat) : List Event → Nat
  | [] => n
  | .read _ _ _ outcome :: rest => strain (bears n outcome) rest
  | _ :: rest => strain n rest

@[simp] theorem strain_log (n : Nat) (notice : Notice) : strain n [.log notice] = n := rfl

theorem strain_append (n : Nat) (a b : List Event) : strain n (a ++ b) = strain (strain n a) b := by
  induction a generalizing n with
  | nil => rfl
  | cons e rest ih => cases e <;> simp [strain, ih]

theorem strain_of_quiet {n : Nat} {events : List Event} (h : ∀ e ∈ events, e.isInput = false) :
    strain n events = n := by
  induction events with
  | nil => rfl
  | cons e rest ih =>
    have he := h e (List.mem_cons_self ..)
    have hrest := ih fun e' he' => h e' (List.mem_cons_of_mem _ he')
    cases e with
    | read => cases he
    | _ => exact hrest

/-! ### What is seen of a connection -/

/-- What the handler is told, what the client is sent, and the requests to shut down. -/
def isSeen : Event → Bool
  | .connected .. | .message .. | .write .. | .shutdown _ .closing _ => true
  | _ => false

/-- What is seen of a history, in order. -/
def seen (events : List Event) : List Event := events.filter isSeen

@[simp] theorem seen_nil : seen [] = [] := rfl

@[simp] theorem seen_append (a b : List Event) : seen (a ++ b) = seen a ++ seen b :=
  List.filter_append ..

/-- A request to shut down is seen. -/
theorem asked_seen (id : Nat) (events : List Event) : asked id (seen events) = asked id events := by
  refine asked_filter (fun e he => ?_) events
  cases e with
  | shutdown link status => cases status <;> first | rfl | cases he
  | _ => cases he

end NetShell.Event
