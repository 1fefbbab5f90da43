import Mathlib.Data.List.Basic

/-! Texts that are made of lines.

Each line is followed by the same ending, and none of the ending's characters stands in a line.
Then the lines can be told from the text alone (`Text.Lined.unique`), so nobody who chose a part of
one has made a second line of it. Where the ending is a newline, `Text.rows` reads them off. -/
namespace NetShell.Text

/-- A text that is these lines, each with the ending after it. -/
structure Lined (ending text : List Char) (lines : List (List Char)) : Prop where
  text_eq : text = lines.flatMap (· ++ ending)
  clear : ∀ line ∈ lines, ∀ c ∈ ending, c ∉ line

/-- The lines of a text, as far as newlines end them. -/
def rows : List Char → List (List Char)
  | [] => []
  | c :: rest => if c = '\n' then [] :: rows rest else (rows rest).modifyHead (c :: ·)

variable {ending text : List Char} {lines lines' : List (List Char)}

theorem takeWhile_before {front : List Char} {c : Char} (hf : c ∉ front) (rest : List Char) :
    (front ++ c :: rest).takeWhile (· != c) = front := by
  have hother : ∀ d ∈ front, (d != c) = true := by
    intro d hd
    exact bne_iff_ne.2 (ne_of_mem_of_not_mem hd hf)
  rw [List.takeWhile_append_of_pos hother, List.takeWhile_cons_of_neg (by simp), List.append_nil]

theorem lines_inj {c : Char} {more : List Char} (h : ∀ line ∈ lines, c ∉ line)
    (h' : ∀ line ∈ lines', c ∉ line)
    (heq : lines.flatMap (· ++ c :: more) = lines'.flatMap (· ++ c :: more)) : lines = lines' := by
  induction lines generalizing lines' with
  | nil =>
    cases lines' with
    | nil => rfl
    | cons => simp at heq
  | cons line rest ih =>
    cases lines' with
    | nil => simp at heq
    | cons line' rest' =>
      rw [List.forall_mem_cons] at h h'
      simp only [List.flatMap_cons, List.append_assoc, List.cons_append] at heq
      have hline : line = line' := by rw [← takeWhile_before h.1, heq, takeWhile_before h'.1]
      subst hline
      rw [ih h.2 h'.2 (by simpa using heq)]

/-- **A text is made of lines in one way only.** -/
theorem Lined.unique (hne : ending ≠ []) (h : Lined ending text lines)
    (h' : Lined ending text lines') :
    lines = lines' := by
  obtain ⟨c, more, rfl⟩ := List.exists_cons_of_ne_nil hne
  exact lines_inj (fun line hline => h.clear line hline c (List.mem_cons_self ..))
    (fun line hline => h'.clear line hline c (List.mem_cons_self ..))
    (h.text_eq.symm.trans h'.text_eq)

theorem rows_line {line : List Char} (h : '\n' ∉ line) (rest : List Char) :
    rows (line ++ '\n' :: rest) = line :: rows rest := by
  induction line with
  | nil => rfl
  | cons c line ih =>
    simp only [List.mem_cons, not_or] at h
    rw [List.cons_append, rows, if_neg (Ne.symm h.1), ih h.2, List.modifyHead_cons]

/-- The rows of a text that newlines end are its lines. -/
theorem Lined.rows_eq (h : Lined ['\n'] text lines) : rows text = lines := by
  obtain ⟨rfl, hclear⟩ := h
  induction lines with
  | nil => rfl
  | cons line rest ih =>
    rw [List.forall_mem_cons] at hclear
    have hline : '\n' ∉ line := hclear.1 _ (List.mem_cons_self ..)
    rw [List.flatMap_cons, List.append_assoc, List.singleton_append, rows_line hline, ih hclear.2]

end NetShell.Text
