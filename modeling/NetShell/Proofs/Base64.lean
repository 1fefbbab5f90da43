import Mathlib.Algebra.Group.Nat.Defs
import Mathlib.Data.List.Basic
import Mathlib.Data.List.Induction
import NetShell.Digest.Base64

/-! Base64 as its standard has it, bit by bit.

`IsBase64` says which text stands for some bytes: their bits, in symbols of six each, with as few
zeros as fill the last symbol and as few `=` as fill the last group of four. It knows of no groups
of three bytes. `base64` writes that text (`isBase64_base64`), it is the only one
(`IsBase64.unique`), and the bytes are read back from it (`IsBase64.decode_eq`). -/
namespace NetShell.Digest

/-! ### Bits -/

/-- The low bits of a number, most significant first. -/
def bits : (width n : Nat) → List Bool
  | 0, _ => []
  | width + 1, n => bits width (n / 2) ++ [n % 2 == 1]

/-- The number that bits spell, most significant first. -/
def ofBits (data : List Bool) : Nat := data.foldl (fun n bit => n * 2 + bit.toNat) 0

@[simp] theorem length_bits (width n : Nat) : (bits width n).length = width := by
  induction width generalizing n with
  | zero => rfl
  | succ width ih => simp [bits, ih]

/-- The high bits come first. -/
theorem bits_add (high low n : Nat) :
    bits (high + low) n = bits high (n / 2 ^ low) ++ bits low n := by
  induction low generalizing n with
  | zero => simp [bits]
  | succ low ih =>
    rw [← Nat.add_assoc, bits, ih, bits, List.append_assoc, Nat.div_div_eq_div_mul, Nat.pow_succ']

/-- Only the low bits count. -/
theorem bits_mod (width n : Nat) : bits width (n % 2 ^ width) = bits width n := by
  induction width generalizing n with
  | zero => rfl
  | succ width ih =>
    rw [bits, bits, Nat.pow_succ', Nat.mod_mul_right_div_self, ih, Nat.mod_mod_of_dvd _ ⟨_, rfl⟩]

theorem ofBits_bits (width n : Nat) : ofBits (bits width n) = n % 2 ^ width := by
  induction width generalizing n with
  | zero => rw [Nat.pow_zero, Nat.mod_one, bits, ofBits, List.foldl_nil]
  | succ width ih =>
    have hlast : (n % 2 == 1).toNat = n % 2 := by
      rcases Nat.mod_two_eq_zero_or_one n with h | h <;> simp [h]
    have hfold : ofBits (bits (width + 1) n) = ofBits
        (bits width (n / 2)) * 2 + (n % 2 == 1).toNat := by
      simp [bits, ofBits]
    rw [hfold, ih, hlast, Nat.pow_succ', Nat.mod_mul]
    omega

/-- The bits of bytes. -/
def bitsOf (data : Bytes) : List Bool := data.flatMap fun b => bits 8 b.toNat

/-- The bytes of bits; bits that do not fill a byte are left out. -/
def bytesOf (data : List Bool) : Bytes :=
  if h : data.length < 8 then []
  else
    have : data.length - 8 < data.length := by omega
    UInt8.ofNat (ofBits (data.take 8)) :: bytesOf (data.drop 8)
termination_by data.length
decreasing_by rwa [List.length_drop]

theorem bytesOf_bits (b : UInt8) (rest : List Bool) :
    bytesOf (bits 8 b.toNat ++ rest) = b :: bytesOf rest := by
  have hlen := length_bits 8 b.toNat
  rw [bytesOf, dif_neg (by simp), List.take_left' hlen, List.drop_left' hlen, ofBits_bits,
    Nat.mod_eq_of_lt b.toNat_lt, UInt8.ofNat_toNat]

theorem bytesOf_bitsOf (data : Bytes) {more : List Bool} (h : more.length < 8) :
    bytesOf (bitsOf data ++ more) = data := by
  induction data with
  | nil => rw [bitsOf, List.flatMap_nil, List.nil_append, bytesOf, dif_pos h]
  | cons b rest ih => rw [bitsOf, List.flatMap_cons, List.append_assoc, bytesOf_bits, ← bitsOf, ih]

theorem length_bitsOf (data : Bytes) : (bitsOf data).length = 8 * data.length := by
  simp [bitsOf, List.length_flatMap, Nat.mul_comm]

/-! ### The standard -/

/-- The symbols, in the order of their values. -/
def alphabet : List Char :=
  "ABCDEFGHIJKLMNOPQRSTUVWXYZabcdefghijklmnopqrstuvwxyz0123456789+/".toList

/-- The symbol of a value. -/
def letter (value : Nat) : Char := alphabet.getD value '='

/-- A text stands for some bytes: their bits with fewer than six zeros make up symbols of six, and
these with fewer than four `=` make up groups of four. -/
def IsBase64 (data : Bytes) (text : List Char) : Prop :=
  ∃ (values : List Nat) (zeros pads : Nat), (∀ v ∈ values, v < 64) ∧ zeros < 6 ∧ pads < 4 ∧
    values.flatMap (bits 6) = bitsOf data ++ List.replicate zeros false ∧
    text = values.map letter ++ List.replicate pads '=' ∧ 4 ∣ text.length

/-- The value of a symbol. -/
def value? (c : Char) : Option Nat := alphabet.idxOf? c

/-- The bytes that a text stands for: the bits of its symbols up to the first `=`, in whole
bytes. -/
def decode (text : List Char) : Option Bytes :=
  ((text.takeWhile (· != '=')).mapM value?).map fun values => bytesOf (values.flatMap (bits 6))

theorem symbol_eq {v : Nat} (h : v < 64) : symbol v = letter v := by
  revert v
  decide +kernel

theorem value?_letter {v : Nat} (h : v < 64) : value? (letter v) = some v := by
  revert v
  decide +kernel

theorem letter_mem {v : Nat} (h : v < 64) : letter v ∈ alphabet := by
  revert v
  decide +kernel

theorem pad_notMem_alphabet : '=' ∉ alphabet := by decide

/-! ### Reading back -/

variable {data : Bytes} {text text' : List Char} {values values' : List Nat}
  {zeros zeros' pads pads' : Nat}

theorem mapM_letter (h : ∀ v ∈ values, v < 64) : (values.map letter).mapM value? = some values := by
  induction values with
  | nil => rfl
  | cons v rest ih =>
    rw [List.forall_mem_cons] at h
    simp [List.mapM_cons, value?_letter h.1, ih h.2]

/-- The bytes that a text stands for are read back from it. -/
theorem IsBase64.decode_eq (h : IsBase64 data text) : decode text = some data := by
  obtain ⟨values, zeros, pads, hvalues, hzeros, -, hbits, rfl, -⟩ := h
  have hletters : ∀ c ∈ values.map letter, (c != '=') = true := by
    intro c hc
    obtain ⟨v, hv, rfl⟩ := List.mem_map.1 hc
    exact bne_iff_ne.2 (ne_of_mem_of_not_mem (letter_mem (hvalues v hv)) pad_notMem_alphabet)
  have hpads : (List.replicate pads '=').takeWhile (· != '=') = [] := by cases pads <;> rfl
  have hshort : (List.replicate zeros false).length < 8 := by
    rw [List.length_replicate]
    omega
  rw [decode, List.takeWhile_append_of_pos hletters, hpads, List.append_nil, mapM_letter hvalues,
    Option.map_some, hbits, bytesOf_bitsOf data hshort]

/-- How many symbols there are. -/
theorem length_symbols (h : values.flatMap (bits 6) = bitsOf data ++ List.replicate zeros false) :
    6 * values.length = 8 * data.length + zeros := by
  have hlen := congrArg List.length h
  simpa [List.length_flatMap, length_bitsOf, Nat.mul_comm] using hlen

theorem symbols_inj (h : ∀ v ∈ values, v < 64) (h' : ∀ v ∈ values', v < 64)
    (heq : values.flatMap (bits 6) = values'.flatMap (bits 6)) : values = values' := by
  induction values generalizing values' with
  | nil =>
    cases values' with
    | nil => rfl
    | cons v rest =>
      have := congrArg List.length heq
      simp at this
      omega
  | cons v rest ih =>
    cases values' with
    | nil =>
      have := congrArg List.length heq
      simp at this
    | cons v' rest' =>
      rw [List.forall_mem_cons] at h h'
      obtain ⟨hfirst, hrest⟩ := List.append_inj heq (by simp)
      have hvalue : v % 64 = v' % 64 :=
        (ofBits_bits 6 v).symm.trans ((congrArg ofBits hfirst).trans (ofBits_bits 6 v'))
      rw [Nat.mod_eq_of_lt h.1, Nat.mod_eq_of_lt h'.1] at hvalue
      rw [hvalue, ih h.2 h'.2 hrest]

/-- **No other text stands for the same bytes.** -/
theorem IsBase64.unique (h : IsBase64 data text) (h' : IsBase64 data text') : text = text' := by
  obtain ⟨values, zeros, pads, hvalues, hzeros, hpads, hbits, rfl, hdvd⟩ := h
  obtain ⟨values', zeros', pads', hvalues', hzeros', hpads', hbits', rfl, hdvd'⟩ := h'
  simp only [List.length_append, List.length_map, List.length_replicate] at hdvd hdvd'
  have hcount := length_symbols hbits
  have hcount' := length_symbols hbits'
  obtain rfl : zeros = zeros' := by omega
  obtain rfl := symbols_inj hvalues hvalues' (hbits.trans hbits'.symm)
  obtain rfl : pads = pads' := by omega
  rfl

/-- The text is symbols, as many as the bits need, and then pads up to a group of four. -/
theorem IsBase64.shape (h : IsBase64 data text) :
    ∃ symbols pads, text = symbols ++ List.replicate pads '=' ∧ (∀ c ∈ symbols, c ∈ alphabet) ∧
      symbols.length = (8 * data.length + 5) / 6 ∧ symbols.length + pads =
        (data.length + 2) / 3 * 4 := by
  obtain ⟨values, zeros, pads, hvalues, hzeros, hpads, hbits, rfl, hdvd⟩ := h
  have hcount := length_symbols hbits
  simp only [List.length_append, List.length_map, List.length_replicate] at hdvd
  refine ⟨values.map letter, pads, rfl, fun c hc => ?_, ?_, ?_⟩
  · obtain ⟨v, hv, rfl⟩ := List.mem_map.1 hc
    exact letter_mem (hvalues v hv)
  all_goals
    rw [List.length_map]
    omega

/-! ### Writing -/

theorem bitsOf_eq (data : Bytes) : bitsOf data = bits (8 * data.length) (Bytes.toNat data) := by
  induction data using List.reverseRecOn with
  | nil => rfl
  | append_singleton data b ih =>
    have hb := b.toNat_lt
    have hhigh : (Bytes.toNat data * 256 + b.toNat) / 2 ^ 8 = Bytes.toNat data := by omega
    have hlow : (Bytes.toNat data * 256 + b.toNat) % 2 ^ 8 = b.toNat := by omega
    rw [List.length_append, List.length_singleton, Nat.mul_succ, Bytes.toNat_concat, bits_add,
      hhigh, ← ih, ← bits_mod 8, hlow, bitsOf, List.flatMap_append, List.flatMap_singleton, bitsOf]

theorem toNat_three (a b c : UInt8) :
    Bytes.toNat [a, b, c] = (a.toNat * 256 + b.toNat) * 256 + c.toNat := by
  simp [Bytes.toNat]

/-- Three bytes make up four symbols. -/
theorem bits_three (a b c : UInt8) :
    let n := Bytes.toNat [a, b, c]
    [n / 262144, n / 4096 % 64, n / 64 % 64, n % 64].flatMap (bits 6) = bitsOf [a, b, c] := by
  intro n
  have hfour : bits 24 n = bits 6 (n / 2 ^ 18) ++
      (bits 6 (n / 2 ^ 12) ++ (bits 6 (n / 2 ^ 6) ++ bits 6 n)) := by
    rw [← bits_add 6 6, ← bits_add 6 12, ← bits_add 6 18]
  have hbits : bitsOf [a, b, c] = bits 24 n := bitsOf_eq [a, b, c]
  rw [hbits, hfour, ← bits_mod 6 (n / 2 ^ 12), ← bits_mod 6 (n / 2 ^ 6), ← bits_mod 6 n]
  simp

/-- A last byte of zeros takes a symbol of zeros with it, and two bits more of the symbol before. -/
theorem bits_dropLast
    (h : (values ++ [0]).flatMap (bits 6) = bitsOf (data ++ [0]) ++ List.replicate zeros false) :
    values.flatMap (bits 6) = bitsOf data ++ List.replicate (zeros + 2) false := by
  have hbyte : bitsOf (data ++ [0]) = bitsOf data ++ List.replicate 8 false := by
    simp [bitsOf, bits]
  have hsymbol : (values ++ [0]).flatMap (bits 6) = values.flatMap (bits 6) ++
      List.replicate 6 false := by simp [bits]
  refine (List.append_left_inj (List.replicate 6 false)).1 ?_
  rw [← hsymbol, h, hbyte, List.append_assoc, List.append_assoc, List.replicate_append_replicate,
    List.replicate_append_replicate, Nat.add_comm 8, Nat.add_assoc]

/-- Two bytes make up three symbols, with two bits to spare. -/
theorem bits_two (a b : UInt8) :
    let n := Bytes.toNat [a, b, 0]
    [n / 262144, n / 4096 % 64, n / 64 % 64].flatMap (bits 6) =
      bitsOf [a, b] ++ List.replicate 2 false := by
  intro n
  have hlast : n % 64 = 0 := by
    have : n = (a.toNat * 256 + b.toNat) * 256 + 0 := toNat_three a b 0
    omega
  have hthree : [n / 262144, n / 4096 % 64, n / 64 % 64, n % 64].flatMap (bits 6) =
      bitsOf [a, b, 0] := bits_three a b 0
  rw [hlast] at hthree
  exact bits_dropLast (hthree.trans (List.append_nil _).symm)

/-- One byte makes up two symbols, with four bits to spare. -/
theorem bits_one (a : UInt8) :
    let n := Bytes.toNat [a, 0, 0]
    [n / 262144, n / 4096 % 64].flatMap (bits 6) = bitsOf [a] ++ List.replicate 4 false := by
  intro n
  have hlast : n / 64 % 64 = 0 := by
    have : n = (a.toNat * 256 + 0) * 256 + 0 := toNat_three a 0 0
    omega
  have htwo : [n / 262144, n / 4096 % 64, n / 64 % 64].flatMap (bits 6) =
      bitsOf [a, 0] ++ List.replicate 2 false :=
    bits_two a 0
  rw [hlast] at htwo
  exact bits_dropLast htwo

theorem first_lt (a b c : UInt8) : Bytes.toNat [a, b, c] / 262144 < 64 := by
  have ha := a.toNat_lt
  have hb := b.toNat_lt
  have hc := c.toNat_lt
  rw [toNat_three]
  omega

/-- **What is written is the standard's text.** -/
theorem isBase64_base64 (data : Bytes) : IsBase64 data (base64 data) := by
  have hlow : ∀ v : Nat, v % 64 < 64 := fun v => Nat.mod_lt v (by decide)
  fun_induction base64 data with
  | case1 a b c rest n ih =>
    obtain ⟨values, zeros, pads, hvalues, hzeros, hpads, hbits, htext, hdvd⟩ := ih
    have hfirst : n / 262144 < 64 := first_lt a b c
    refine ⟨[n / 262144, n / 4096 % 64, n / 64 % 64, n % 64] ++ values, zeros, pads,
      List.forall_mem_append.2 ⟨by simp [hfirst, hlow], hvalues⟩, hzeros, hpads, ?_, ?_, ?_⟩
    · rw [List.flatMap_append, bits_three, hbits, ← List.append_assoc]
      rfl
    · rw [htext, symbol_eq hfirst, symbol_eq (hlow _), symbol_eq (hlow _), symbol_eq (hlow _)]
      rfl
    · simp only [List.length_cons]
      omega
  | case2 a b n =>
    have hfirst : n / 262144 < 64 := first_lt a b 0
    refine ⟨[n / 262144, n / 4096 % 64, n / 64 % 64], 2, 1,
      by simp [hfirst, hlow], by decide, by decide, bits_two a b, ?_,
      by simp⟩
    rw [symbol_eq hfirst, symbol_eq (hlow _), symbol_eq (hlow _)]
    rfl
  | case3 a n =>
    have hfirst : n / 262144 < 64 := first_lt a 0 0
    refine ⟨[n / 262144, n / 4096 % 64], 4, 2,
      by simp [hfirst, hlow], by decide, by decide, bits_one a, ?_, by simp⟩
    rw [symbol_eq hfirst, symbol_eq (hlow _)]
    rfl
  | case4 => exact ⟨[], 0, 0, nofun, by decide, by decide, rfl, rfl, by decide⟩

end NetShell.Digest
