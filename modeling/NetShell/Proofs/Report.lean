import Mathlib.Algebra.Group.Nat.Defs
import NetShell.Proofs.Lined
import NetShell.Proofs.Roster
import NetShell.Text.Blank

/-! The connection report, read back.

A row has a date of fifteen characters at its front and a status of five at its end; the thread
between them fills its column of eight, or overflows it. So a row is read by its ends alone
(`Hub.readRow?`), whatever the thread, and a report tells who the live members are, in the order
of their keys, when each started, on which thread it runs and what it is doing
(`Hub.report_faithful`). -/
namespace NetShell

/-! ### Columns -/

namespace Calendar

theorem length_monthName (month : Nat) : (monthName month).length = 3 := by
  fun_cases monthName month <;> rfl

/-- A date has fifteen characters, whatever the time. -/
theorem length_stamp (seconds : Int) : (stamp seconds).toList.length = 15 := by
  simp [stamp, Text.twoDigits, length_monthName]

theorem newline_notMem_stamp (seconds : Int) : '\n' ∉ (stamp seconds).toList := by
  have hmonth : ∀ month, '\n' ∉ monthName month :=
    fun month => by fun_cases monthName month <;> decide
  have hdigit : ∀ n, '\n' ≠ Text.digit n := fun n => by
    have hall : ∀ k < 10, '\n' ≠ Char.ofNat ('0'.toNat + k) := by decide
    exact hall (n % 10) (Nat.mod_lt n (by decide))
  simp [stamp, Text.twoDigits, hmonth, hdigit]

end Calendar

namespace Status

theorem length_label (status : Status) : status.label.toList.length = 5 := by
  cases status <;> rfl

/-- The status with a label. -/
def ofLabel? (label : List Char) : Option Status :=
  [start, waiting, running, closing, closed].find? fun status => status.label.toList = label

theorem ofLabel?_label (status : Status) : ofLabel? status.label.toList = some status := by
  cases status <;> decide

end Status

namespace Text

theorem dropWhile_of_none {p : Char → Bool} {text : List Char} (h : ∀ c ∈ text, p c = false) :
    text.dropWhile p = text := by
  cases text with
  | nil => rfl
  | cons c rest => exact List.dropWhile_cons_of_neg (by simp [h c (List.mem_cons_self ..)])

/-- A text between white space is what is left when that is taken away. -/
theorem trim_between {before middle after : List Char} (hb : ∀ c ∈ before, isBlank c = true)
    (hm : ∀ c ∈ middle, isBlank c = false) (ha : ∀ c ∈ after,
      isBlank c = true) (hne : middle ≠ []) :
    trim (String.ofList (before ++ (middle ++ after))) = String.ofList middle := by
  have hfront : (before ++ (middle ++ after)).dropWhile isBlank = middle ++ after := by
    obtain ⟨c, rest, rfl⟩ := List.exists_cons_of_ne_nil hne
    rw [List.dropWhile_append_of_pos hb, List.cons_append,
      List.dropWhile_cons_of_neg (by simp [hm c (List.mem_cons_self ..)])]
  have hback : (middle ++ after).reverse.dropWhile isBlank = middle.reverse := by
    rw [List.reverse_append, List.dropWhile_append_of_pos fun c hc => ha c (List.mem_reverse.1 hc)]
    exact dropWhile_of_none fun c hc => hm c (List.mem_reverse.1 hc)
  rw [trim, String.toList_ofList, hfront, hback, List.reverse_reverse]

theorem isDigit_of_mem {c : Char} {n : Nat} (h : c ∈ Nat.toDigits 10 n) : c.isDigit = true :=
  Nat.isDigit_of_mem_toDigits (by decide) (by decide) h

theorem toNat_of_isDigit {c : Char} (h : c.isDigit = true) : 48 ≤ c.toNat ∧ c.toNat ≤ 57 := by
  simp only [Char.isDigit, Bool.and_eq_true, decide_eq_true_eq, ge_iff_le,
    UInt32.le_iff_toNat_le] at h
  exact h

theorem isBlank_of_isDigit {c : Char} (h : c.isDigit = true) : isBlank c = false := by
  obtain ⟨hlo, hhi⟩ := toNat_of_isDigit h
  simp only [isBlank, Bool.or_eq_false_iff, Bool.and_eq_false_iff, decide_eq_false_iff_not,
    beq_eq_false_iff_ne]
  omega

theorem digitValue?_of_isDigit {c : Char} (h : c.isDigit = true) :
    digitValue? 10 c = some (c.toNat - '0'.toNat) := by
  have hbounds : '0' ≤ c ∧ c ≤ '9' := by simpa [Char.isDigit, Char.le_def] using h
  have hsmall : c.toNat - '0'.toNat < 10 := by
    obtain ⟨-, hhi⟩ := toNat_of_isDigit h
    have hzero : '0'.toNat = 48 := rfl
    omega
  rw [digitValue?, if_pos hbounds, if_pos hsmall]

theorem foldlM_digits {digits : List Char} (h : ∀ c ∈ digits, c.isDigit = true) (n : Nat) :
    digits.foldlM (fun n c => (digitValue? 10 c).map (n * 10 + ·)) n =
      some (Nat.ofDigitChars 10 digits n) := by
  induction digits generalizing n with
  | nil => rfl
  | cons c rest ih =>
    rw [List.forall_mem_cons] at h
    rw [List.foldlM_cons, digitValue?_of_isDigit h.1, Nat.ofDigitChars_cons, Nat.mul_comm 10 n]
    exact ih h.2 _

/-- The numeral of a number spells it. -/
theorem numberOf?_toDigits (n : Nat) : numberOf? 10 (Nat.toDigits 10 n) = some n := by
  have hne : (Nat.toDigits 10 n).isEmpty = false := by simp
  rw [numberOf?, hne, foldlM_digits (fun _ => isDigit_of_mem), Nat.ofDigitChars_ten_toDigits]
  rfl

end Text

namespace Hub

variable {l : Link} {hub : Hub}

/-! ### A row -/

/-- What a row of the report tells of a connection. -/
structure Row where
  date : String
  thread : Nat
  status : Status
  deriving DecidableEq

/-- What there is to tell of a connection. -/
def rowOf (l : Link) : Row := ⟨Calendar.stamp l.started, l.thread, l.status⟩

/-- The row that tells it. -/
def Row.text (row : Row) : String :=
  row.date ++ " " ++ Text.rightAligned 8 (Text.decimal row.thread) ++ " " ++ row.status.label

/-- A row read by its columns: fifteen characters, a number between blanks, and five characters. -/
def readRow? (row : List Char) : Option Row := do
  let between := (row.take (row.length - 5)).drop 15
  let thread ← Text.numberOf? 10 (Text.trim (String.ofList between)).toList
  let status ← Status.ofLabel? (row.drop (row.length - 5))
  some ⟨String.ofList (row.take 15), thread, status⟩

/-- How a connection is shown. -/
structure Columns (l : Link) (row : List Char) : Prop where
  date : row.take 15 = (Calendar.stamp l.started).toList
  thread : Text.trim (String.ofList ((row.take (row.length - 5)).drop 15)) = Text.decimal l.thread
  status : row.drop (row.length - 5) = l.status.label.toList
  width : row.length = 30 ↔ l.thread < 10 ^ 8

theorem toList_reportRow (l : Link) :
    (reportRow l).toList = (Calendar.stamp l.started).toList ++
      ((' ' :: List.replicate (8 - (Nat.toDigits 10 l.thread).length) ' ' ++
        (Nat.toDigits 10 l.thread ++ [' '])) ++
        l.status.label.toList) := by
  simp [reportRow, Text.rightAligned, Text.decimal]

/-- **A row is told apart by its ends**, however wide the thread is. -/
theorem columns (l : Link) : Columns l (reportRow l).toList := by
  have hdate := Calendar.length_stamp l.started
  have hstatus := Status.length_label l.status
  have hdigits : ∀ c ∈ Nat.toDigits 10 l.thread, Text.isBlank c = false := fun c hc =>
    Text.isBlank_of_isDigit (Text.isDigit_of_mem hc)
  have hblank : ∀ c ∈ ' ' :: List.replicate (8 - (Nat.toDigits 10 l.thread).length) ' ',
      Text.isBlank c = true := by
    intro c hc
    rcases List.mem_cons.1 hc with rfl | hc
    · decide
    · rw [List.eq_of_mem_replicate hc]
      decide
  rw [toList_reportRow]
  generalize hbetween : ' ' :: List.replicate (8 - (Nat.toDigits 10 l.thread).length) ' ' ++
    (Nat.toDigits 10 l.thread ++ [' ']) = between
  have hends : ((Calendar.stamp l.started).toList ++ (between ++ l.status.label.toList)).length -
      5 =
      ((Calendar.stamp l.started).toList ++ between).length := by
    simp only [List.length_append]
    omega
  refine ⟨List.take_left' hdate, ?_, ?_, ?_⟩
  · rw [hends, ← List.append_assoc, List.take_left, List.drop_left' hdate, ← hbetween,
      Text.trim_between hblank hdigits (List.forall_mem_singleton.2 (by decide))
      Nat.toDigits_ne_nil]
    rfl
  · rw [hends, ← List.append_assoc, List.drop_left]
  · have hlen : between.length = 2 + max 8 (Nat.toDigits 10 l.thread).length := by
      rw [← hbetween]
      simp only [List.length_append, List.length_cons, List.length_replicate, List.length_nil]
      omega
    rw [← Nat.length_toDigits_le_iff (by decide) (by decide)]
    simp only [List.length_append, hdate, hstatus, hlen]
    omega

theorem readRow?_reportRow (l : Link) : readRow? (reportRow l).toList = some (rowOf l) := by
  have h := columns l
  rw [readRow?, h.thread, h.status, h.date]
  simp [Text.decimal, Text.numberOf?_toDigits, Status.ofLabel?_label, rowOf]

theorem newline_notMem_reportRow (l : Link) : '\n' ∉ (reportRow l).toList := by
  have hdigits : '\n' ∉ Nat.toDigits 10 l.thread :=
    fun hmem => absurd (Text.isDigit_of_mem hmem) (by decide)
  have hlabel : '\n' ∉ l.status.label.toList := by cases l.status <;> decide
  simp [toList_reportRow, Calendar.newline_notMem_stamp, hdigits, hlabel]

/-! ### The report -/

/-- A report read row by row. -/
def readReport? (report : String) : Option (List Row) :=
  match Text.rows report.toList with
  | [] => none
  | header :: rows => if header = reportHeader.toList then rows.mapM readRow? else none

/-- The live members with their keys, in the order of the keys. -/
def members (hub : Hub) : List (Nat × Nat) :=
  hub.roster.entries.filter fun entry => (hub.link entry.2).held

/-- What there is to tell of the live members. -/
def told (hub : Hub) : List Row := hub.members.map fun entry => rowOf (hub.link entry.2)

theorem mem_members {key id : Nat} :
    (key, id) ∈ hub.members ↔ hub.roster.get? key = some id ∧ (hub.link id).held = true := by
  rw [members, List.mem_filter, Slab.mem_entries]

theorem ascending_members (hub : Hub) : (hub.members.map Prod.fst).Pairwise (· < ·) :=
  hub.roster.ascending_entries.sublist (List.filter_sublist.map _)

theorem live_eq (hub : Hub) : hub.live = hub.members.map Prod.snd := by
  rw [live, ← Slab.map_snd_entries, List.filter_map]
  rfl

theorem report_eq (hub : Hub) :
    hub.report = String.join ((reportHeader :: hub.told.map Row.text).map (· ++ "\n")) := by
  rw [report, live_eq, told, List.map_map, List.map_map]
  rfl

theorem lined_report (hub : Hub) :
    Text.Lined ['\n'] hub.report.toList
      (reportHeader.toList ::
        hub.members.map fun entry => (reportRow (hub.link entry.2)).toList) where
  text_eq := by
    simp [report, live_eq, String.toList_join, List.flatMap_map]
  clear line hline c hc := by
    rw [List.mem_singleton.1 hc]
    rcases List.mem_cons.1 hline with rfl | hline
    · decide
    · obtain ⟨entry, -, rfl⟩ := List.mem_map.1 hline
      exact newline_notMem_reportRow _

theorem mapM_reportRow (links : List Link) :
    (links.map fun l => (reportRow l).toList).mapM readRow? = some (links.map rowOf) := by
  induction links with
  | nil => rfl
  | cons l rest ih => simp [List.mapM_cons, readRow?_reportRow, ih]

theorem readReport?_report (hub : Hub) : readReport? hub.report = some hub.told := by
  rw [readReport?, (lined_report hub).rows_eq]
  simpa [told, Function.comp_def] using mapM_reportRow
    (hub.members.map fun entry => hub.link entry.2)

theorem report_eq_iff {other : Hub} : other.report = hub.report ↔ other.told = hub.told := by
  constructor
  · intro h
    have hread := readReport?_report other
    rw [h, readReport?_report hub] at hread
    exact (Option.some.inj hread).symm
  · intro h
    rw [report_eq, report_eq, h]

/-- **What the report tells can be read off it**: after the header there is a row for each live
member, in the order of their keys, and whoever reads the rows by their columns has the date, the
thread and the status of each. So reports are the same just if they tell the same. -/
theorem report_faithful (hub : Hub) :
    (hub.members.map Prod.fst).Pairwise (· < ·) ∧
      (∀ key id, (key, id) ∈ hub.members ↔
        hub.roster.get? key = some id ∧ (hub.link id).held = true) ∧
      Text.Lined ['\n'] hub.report.toList
        (reportHeader.toList :: hub.members.map fun entry =>
          (reportRow (hub.link entry.2)).toList) ∧
      (∀ l : Link, Columns l (reportRow l).toList) ∧ readReport? hub.report = some hub.told ∧
      ∀ other : Hub, other.report = hub.report ↔ other.told = hub.told :=
  ⟨ascending_members hub, fun _ _ => mem_members, lined_report hub, columns, readReport?_report hub,
    fun _ => report_eq_iff⟩

/-- A member with a thread that overflows its column, and one that nobody holds. -/
example :
    ({ capacity := 2, links := [{ held := false }, { thread := 1234567890, status := .running }],
       roster := { slots := [some 0, some 1] } } : Hub).report =
      "DATE             THREAD STATE\n01 Jan 00:00:00 1234567890  run \n" := by
  decide +kernel

end Hub
end NetShell
