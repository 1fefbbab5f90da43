import Mathlib.Data.List.Induction
import Mathlib.Data.List.TakeWhile
import NetShell.Proofs.Approach

/-! The HTTP exchange, line after line.

An exchange is fed lines, and a refusal does not end it. `Exchange` says how such a list of
lines is read: lines that ask for nothing, the request line, header lines, an empty line, and
whatever follows it. The exchange reads every list of lines that way (`feedAll_iff`). -/
namespace NetShell.WebSocket

/-- The place of a stage among the stages. -/
def Stage.rank : Stage → Nat
  | needRequestLine => 0
  | readingHeaders => 1
  | headersDone => 2

namespace Upgrade

/-- Lines fed one after another: what each leads to, and the exchange after the last. -/
def feedAll (u : Upgrade) : List Bytes → List Step × Upgrade
  | [] => ([], u)
  | line :: rest =>
    let (step, next) := u.feed line
    let (steps, last) := next.feedAll rest
    (step :: steps, last)

/-! ### The grammar -/

/-- The target of a request line: the text after its front, up to the first space or the end
of the line. -/
structure Target (first target : Bytes) : Prop where
  clear : 0x20 ∉ target
  stands : first = requestFront ++ target ∨ ∃ rest, first = requestFront ++ target ++ 0x20 :: rest

/-- The key that header lines bear: the last one counts. -/
inductive Key : List Bytes → String → Prop
  | absent {headers : List Bytes} : (∀ line ∈ headers, ¬ keyHeader <+: line) → Key headers ""
  | last {before : List Bytes} {value : Bytes} {after : List Bytes} : (∀ line ∈ after,
      ¬ keyHeader <+: line) →
      Key (before ++ (keyHeader ++ value) :: after) (Text.lossy value)

/-- What a request line and the header lines after it ask for. -/
structure Asks (first : Bytes) (headers : List Bytes) (request : Request) : Prop where
  path : ∃ target, Target first target ∧ request.path = Text.lossy target
  upgrade : request.upgrade = true ↔ ∃ line ∈ headers, upgradeHeader <+: line
  key : Key headers request.key

/-- A line that is no request line. -/
def Idle (line : Bytes) : Prop := ¬ requestFront <+: line

/-- How lines are answered by an exchange that has just begun, and what it has come to. -/
inductive Exchange : List Bytes → List Step → Upgrade → Prop
  | refused {before : List Bytes} : (∀ line ∈ before, Idle line) →
      Exchange before (List.replicate before.length (.reject .malformedRequestLine)) {}
  | reading {before : List Bytes} {first : Bytes} {headers : List Bytes} {request : Request} :
      (∀ line ∈ before, Idle line) → Asks first headers request → [] ∉ headers →
      Exchange (before ++ first :: headers)
        (List.replicate before.length (.reject .malformedRequestLine) ++
          .continue :: List.replicate headers.length .continue)
        { stage := .readingHeaders, request }
  | done {before : List Bytes} {first : Bytes} {headers : List Bytes} {request : Request}
      {after : List Bytes} :
      (∀ line ∈ before, Idle line) → Asks first headers request → [] ∉ headers →
      Exchange (before ++ first :: headers ++ [] :: after)
        (List.replicate before.length (.reject .malformedRequestLine) ++
          .continue :: List.replicate headers.length .continue ++
          .headersDone :: List.replicate after.length .headersDone)
        { stage := .headersDone, request }

/-! ### What is asked for -/

theorem target_iff {first target : Bytes} :
    Target first target ↔
      requestFront <+: first ∧ target = (first.drop requestFront.length).takeWhile (· != 0x20) := by
  constructor
  · rintro ⟨hclear, rfl | ⟨rest, rfl⟩⟩
    · refine ⟨List.prefix_append .., ?_⟩
      rw [List.drop_left, List.takeWhile_eq_self_iff.2]
      exact fun b hb => bne_iff_ne.2 fun h => hclear (h ▸ hb)
    · refine ⟨⟨target ++ 0x20 :: rest, by simp⟩, ?_⟩
      rw [List.append_assoc, List.drop_left, List.takeWhile_append_of_pos]
      · simp
      · exact fun b hb => bne_iff_ne.2 fun h => hclear (h ▸ hb)
  · rintro ⟨⟨text, rfl⟩, rfl⟩
    rw [List.drop_left]
    refine ⟨fun hmem => by simpa using List.mem_takeWhile_imp hmem, ?_⟩
    have hsplit := List.takeWhile_append_dropWhile (p := (· != 0x20)) (l := text)
    cases hdrop : text.dropWhile (· != 0x20) with
    | nil =>
      rw [hdrop, List.append_nil] at hsplit
      exact .inl (by rw [hsplit])
    | cons b rest =>
      have hb : b = 0x20 := by
        have hhead := List.dropWhile_get_zero_not (· != 0x20) text (by simp [hdrop])
        simpa [hdrop] using hhead
      rw [hdrop, hb] at hsplit
      exact .inr ⟨rest, by rw [List.append_assoc, hsplit]⟩

theorem Key.concat_other {headers : List Bytes} {key : String} {line : Bytes} (hk : Key headers key)
    (hline : ¬ keyHeader <+: line) : Key (headers ++ [line]) key := by
  cases hk with
  | absent hnone => exact .absent (List.forall_mem_append.2 ⟨hnone, by simpa using hline⟩)
  | last hnone =>
    rw [List.append_assoc, List.cons_append]
    exact .last (List.forall_mem_append.2 ⟨hnone, by simpa using hline⟩)

theorem key_iff {headers : List Bytes} {key : String} :
    Key headers key ↔
      key = ((headers.filterMap (after? keyHeader)).getLast?.map Text.lossy).getD "" := by
  have hunborne {lines : List Bytes} (hnone : ∀ line ∈ lines, ¬ keyHeader <+: line) :
      lines.filterMap (after? keyHeader) = [] :=
    List.filterMap_eq_nil_iff.2 fun line hline => after?_eq_none_iff.2 (hnone line hline)
  constructor
  · intro hk
    cases hk with
    | absent hnone => simp [hunborne hnone]
    | @last before value after hnone =>
      simp [List.filterMap_append, hunborne hnone, after?_eq_some_iff.2 rfl]
  · rintro rfl
    induction headers using List.reverseRecOn with
    | nil => exact .absent (by simp)
    | append_singleton headers line ih =>
      cases hline : after? keyHeader line with
      | none => simpa [hline] using ih.concat_other (after?_eq_none_iff.1 hline)
      | some value =>
        obtain rfl := after?_eq_some_iff.1 hline
        have hlast : Key (headers ++ [keyHeader ++ value]) (Text.lossy value) := .last (by simp)
        simpa [hline] using hlast

/-- What the lines ask for is what the exchange makes of them. -/
theorem asks_iff {first : Bytes} {headers : List Bytes} {request : Request} :
    Asks first headers request ↔ requestFront <+: first ∧
      request = requestOf (first :: headers) := by
  have hupgrade : headers.any upgradeHeader.isPrefixOf = true ↔ ∃ line ∈ headers,
      upgradeHeader <+: line := by
    simp [List.any_eq_true, List.isPrefixOf_iff_prefix]
  constructor
  · rintro ⟨⟨target, htarget, hpath⟩, hup, hkey⟩
    obtain ⟨hfirst, rfl⟩ := target_iff.1 htarget
    refine ⟨hfirst, ?_⟩
    obtain ⟨path, upgrade, key⟩ := request
    obtain rfl := key_iff.1 hkey
    obtain rfl : path = _ := hpath
    obtain rfl : upgrade = headers.any upgradeHeader.isPrefixOf :=
      Bool.eq_iff_iff.2 (hup.trans hupgrade.symm)
    rfl
  · rintro ⟨hfirst, rfl⟩
    exact ⟨⟨_, target_iff.2 ⟨hfirst, rfl⟩, rfl⟩, hupgrade, key_iff.2 rfl⟩

/-! ### One line, and lines after lines -/

variable {u : Upgrade} {line : Bytes} {request : Request}

theorem feed_idle (h : Idle line) : feed {} line = (.reject .malformedRequestLine, {}) := by
  simp [feed, after?_eq_none_iff.2 h]

theorem feed_first (h : requestFront <+: line) :
    feed {} line = (.continue, ⟨.readingHeaders, requestOf [line]⟩) := by
  obtain ⟨target, rfl⟩ := h
  simp [feed, after?_eq_some_iff.2 rfl, requestOf]

theorem feed_header {first : Bytes} {past : List Bytes} (h : line ≠ []) :
    feed ⟨.readingHeaders, requestOf (first :: past)⟩ line =
      (.continue, ⟨.readingHeaders, requestOf (first :: (past ++ [line]))⟩) := by
  cases line with
  | nil => exact absurd rfl h
  | cons b rest =>
    rw [requestOf_concat]
    rfl

/-- No line leads back to an earlier stage. -/
theorem rank_feed (u : Upgrade) (line : Bytes) : u.stage.rank ≤ (u.feed line).2.stage.rank := by
  obtain ⟨stage, request⟩ := u
  cases stage with
  | needRequestLine => exact Nat.zero_le _
  | readingHeaders =>
    unfold feed
    dsimp only
    split <;> simp [Stage.rank]
  | headersDone => exact Nat.le_refl _

theorem rank_feedAll (u : Upgrade) (lines : List Bytes) :
    u.stage.rank ≤ (u.feedAll lines).2.stage.rank := by
  induction lines generalizing u with
  | nil => exact Nat.le_refl _
  | cons line rest ih => exact Nat.le_trans (rank_feed u line) (ih _)

theorem feedAll_append (u : Upgrade) (front back : List Bytes) :
    u.feedAll (front ++ back) =
      ((u.feedAll front).1 ++ ((u.feedAll front).2.feedAll back).1,
        ((u.feedAll front).2.feedAll back).2) := by
  induction front generalizing u with
  | nil => rfl
  | cons line rest ih =>
    rw [List.cons_append]
    simp only [feedAll, ih, List.cons_append]

theorem feedAll_idle {lines : List Bytes} (h : ∀ line ∈ lines, Idle line) :
    feedAll {} lines = (List.replicate lines.length (.reject .malformedRequestLine), {}) := by
  induction lines with
  | nil => rfl
  | cons line rest ih =>
    obtain ⟨hline, hrest⟩ := List.forall_mem_cons.1 h
    simp [feedAll, feed_idle hline, ih hrest, List.replicate_succ]

theorem feedAll_headers {first : Bytes} {headers : List Bytes} (past : List Bytes)
    (h : [] ∉ headers) :
    feedAll ⟨.readingHeaders, requestOf (first :: past)⟩ headers =
      (List.replicate headers.length .continue,
        ⟨.readingHeaders, requestOf (first :: (past ++ headers))⟩) := by
  induction headers generalizing past with
  | nil => simp [feedAll]
  | cons line rest ih =>
    obtain ⟨hline, hrest⟩ := not_or.1 (List.mem_cons.not.1 h)
    simp [feedAll, feed_header (Ne.symm hline), ih (past ++ [line]) hrest, List.replicate_succ]

theorem feedAll_headersDone (h : u.stage = .headersDone) (lines : List Bytes) :
    u.feedAll lines = (List.replicate lines.length .headersDone, u) := by
  induction lines with
  | nil => rfl
  | cons line rest ih =>
    have hfeed : u.feed line = (.headersDone, u) := by simp [feed, h]
    simp [feedAll, hfeed, ih, List.replicate_succ]

/-! ### Every list of lines -/

theorem Exchange.feedAll_eq {lines : List Bytes} {steps : List Step} (h : Exchange lines steps u) :
    feedAll {} lines = (steps, u) := by
  have hread {before : List Bytes} {first : Bytes} {headers : List Bytes} {request : Request}
      (hbefore : ∀ line ∈ before, Idle line) (hasks : Asks first headers request)
      (hheaders : [] ∉ headers) :
      feedAll {} (before ++ first :: headers) =
        (List.replicate before.length (.reject .malformedRequestLine) ++
          .continue :: List.replicate headers.length .continue, ⟨.readingHeaders, request⟩) := by
    obtain ⟨hfirst, rfl⟩ := asks_iff.1 hasks
    simp [feedAll_append, feedAll_idle hbefore, feedAll, feed_first hfirst,
      feedAll_headers [] hheaders]
  cases h with
  | refused hbefore => exact feedAll_idle hbefore
  | reading hbefore hasks hheaders => exact hread hbefore hasks hheaders
  | @done before first headers request after hbefore hasks hheaders =>
    have hempty : feed ⟨.readingHeaders, request⟩ [] = (.headersDone, ⟨.headersDone, request⟩) :=
      rfl
    rw [feedAll_append, hread hbefore hasks hheaders]
    simp [feedAll, hempty, feedAll_headersDone]

/-- Every list of lines is read as the grammar says: it is split at its first request line,
and what follows that at its first empty line. -/
theorem exists_exchange (lines : List Bytes) : ∃ steps u, Exchange lines steps u := by
  cases hfind : lines.find? requestFront.isPrefixOf with
  | none =>
    refine ⟨_, _, .refused fun line hline hfront => ?_⟩
    exact List.find?_eq_none.1 hfind line hline (List.isPrefixOf_iff_prefix.2 hfront)
  | some first =>
    obtain ⟨hfirst, before, rest, rfl, hbefore⟩ := List.find?_eq_some_iff_append.1 hfind
    have hidle : ∀ line ∈ before, Idle line := fun line hline hfront => by
      simpa [List.isPrefixOf_iff_prefix.2 hfront] using hbefore line hline
    have hasks (headers : List Bytes) : Asks first headers (requestOf (first :: headers)) :=
      asks_iff.2 ⟨List.isPrefixOf_iff_prefix.1 hfirst, rfl⟩
    by_cases hempty : [] ∈ rest
    · obtain ⟨headers, after, rfl, hheaders⟩ := List.eq_append_cons_of_mem hempty
      rw [← List.cons_append, ← List.append_assoc]
      exact ⟨_, _, .done hidle (hasks headers) hheaders⟩
    · exact ⟨_, _, .reading hidle (hasks rest) hempty⟩

/-- **An exchange that has just begun reads every list of lines as its grammar says, and no
other way; no line leads it back to an earlier stage, and once it is complete it stays as it
is.** -/
theorem feedAll_iff (lines : List Bytes) :
    (∀ steps u, feedAll {} lines = (steps, u) ↔ Exchange lines steps u) ∧
      ∀ more, (feedAll {} lines).2.stage.rank ≤ (feedAll {} (lines ++ more)).2.stage.rank ∧
        ((feedAll {} lines).2.stage = .headersDone →
          feedAll {} (lines ++ more) =
            ((feedAll {} lines).1 ++ List.replicate more.length .headersDone,
              (feedAll {} lines).2)) := by
  refine ⟨fun steps u => ⟨fun h => ?_, Exchange.feedAll_eq⟩, fun more => ⟨?_, fun hdone => ?_⟩⟩
  · obtain ⟨steps', u', hexchange⟩ := exists_exchange lines
    obtain ⟨rfl, rfl⟩ := Prod.mk.inj (h.symm.trans hexchange.feedAll_eq)
    exact hexchange
  · rw [feedAll_append]
    exact rank_feedAll _ more
  · rw [feedAll_append, feedAll_headersDone hdone]

/-- An empty line before the request and a second request among the headers, two keys, and
a request after the end. -/
theorem feedAll_iff_keyed_twice :
    let asked :=
      ["", "GET /shell?x HTTP/1.1", "Sec-WebSocket-Key: one", "Upgrade: websocket", "GET /other",
      "Sec-WebSocket-Key: two ", ""].map Bytes.ofText
    let u : Upgrade := ⟨.headersDone, { path := "/shell?x", upgrade := true, key := "two " }⟩
    Exchange asked [.reject .malformedRequestLine, .continue, .continue, .continue, .continue,
      .continue, .headersDone] u ∧
      (feedAll {} asked).2.stage = .headersDone ∧
      (feedAll {} (asked ++ [Bytes.ofText "GET /late", []])).2 = u := by
  intro asked u
  have hfed : feedAll {} asked =
      ([.reject .malformedRequestLine, .continue, .continue, .continue, .continue, .continue,
      .headersDone], u) := by
    decide +kernel
  have hdone : (feedAll {} asked).2.stage = .headersDone := by rw [hfed]
  exact ⟨((feedAll_iff asked).1 _ _).1 hfed, hdone, by rw [((feedAll_iff asked).2 _).2 hdone, hfed]⟩

end Upgrade

end NetShell.WebSocket
