import Mathlib.Data.Nat.Digits.Lemmas

/-!
# Numerals

Natural numbers as texts, the most significant digit first. A numeral ends in the last
digit of its number, behind the numeral of the rest; padded on the left to a width
that it fits in, it shows every digit at its place.
-/

namespace Numeral

def text (string : String) : List UInt8 := string.toList.map fun character => UInt8.ofNat character.toNat

/-- What is decided of each character of a text holds of all of them. -/
theorem forall_mem_of_all {p : UInt8 → Prop} [DecidablePred p] {bytes : List UInt8}
    (h : (bytes.all fun c => p c) = true) : ∀ c ∈ bytes, p c :=
  fun c hc => of_decide_eq_true (List.all_eq_true.1 h c hc)

/-- The numeral of a number in a base with the given digits. -/
def numeral (base : ℕ) (digit : ℕ → UInt8) (n : ℕ) : List UInt8 :=
  if n = 0 then [digit 0] else ((Nat.digits base n).map digit).reverse

def decimalDigit (d : ℕ) : UInt8 := UInt8.ofNat (48 + d)

def upperHexDigit (d : ℕ) : UInt8 := UInt8.ofNat (if d < 10 then 48 + d else 55 + d)

def lowerHexDigit (d : ℕ) : UInt8 := UInt8.ofNat (if d < 10 then 48 + d else 87 + d)

def decimal (n : ℕ) : List UInt8 := numeral 10 decimalDigit n

/-- An integer, behind a minus sign where it is negative. -/
def integer (n : ℤ) : List UInt8 := if n < 0 then 45 :: decimal n.natAbs else decimal n.natAbs

/-- A numeral behind zeros that fill it up to the width. -/
def padded (base : ℕ) (digit : ℕ → UInt8) (width n : ℕ) : List UInt8 :=
  List.leftpad width (digit 0) (numeral base digit n)

variable {base : ℕ} {digit : ℕ → UInt8}

theorem numeral_of_lt {n : ℕ} (h : n < base) : numeral base digit n = [digit n] := by
  rw [numeral]
  split
  next hzero => rw [hzero]
  next hpos => rw [Nat.digits_of_lt base n hpos h, List.map_singleton, List.reverse_singleton]

theorem numeral_of_le (hbase : 1 < base) {n : ℕ} (h : base ≤ n) :
    numeral base digit n = numeral base digit (n / base) ++ [digit (n % base)] := by
  have hpos : 0 < n := by omega
  have hrest : n / base ≠ 0 := (Nat.div_pos h (by omega)).ne'
  rw [numeral, if_neg hpos.ne', Nat.digits_def' hbase hpos, List.map_cons, List.reverse_cons, numeral,
    if_neg hrest]

theorem numeral_ne_nil (n : ℕ) : numeral base digit n ≠ [] := by
  rw [numeral]
  split
  · simp
  · simpa using Nat.digits_ne_nil_iff_ne_zero.2 (by assumption)

/-- Every character is a digit. -/
theorem mem_numeral (hbase : 1 < base) {n : ℕ} {c : UInt8} (h : c ∈ numeral base digit n) :
    ∃ d < base, c = digit d := by
  rw [numeral] at h
  split at h
  · exact ⟨0, by omega, List.mem_singleton.1 h⟩
  · obtain ⟨d, hd, rfl⟩ := List.mem_map.1 (List.mem_reverse.1 h)
    exact ⟨d, Nat.digits_lt_base hbase hd, rfl⟩

/-- A number does not start with a zero, unless it is zero. -/
theorem head_numeral (hbase : 1 < base) {n : ℕ} (hn : n ≠ 0) :
    ∃ d, 0 < d ∧ d < base ∧ (numeral base digit n).head? = some (digit d) := by
  induction n using Nat.strongRecOn with
  | ind n ih =>
    by_cases hlt : n < base
    · exact ⟨n, Nat.pos_of_ne_zero hn, hlt, by rw [numeral_of_lt hlt]; rfl⟩
    · have hrest : n / base ≠ 0 := (Nat.div_pos (by omega) (by omega)).ne'
      obtain ⟨d, hpos, hd, hhead⟩ := ih _ (Nat.div_lt_self (by omega) hbase) hrest
      refine ⟨d, hpos, hd, ?_⟩
      rw [numeral_of_le hbase (by omega), List.head?_append, hhead]
      rfl

/-- The number that a text of digits stands for. -/
def value (base : ℕ) (read : UInt8 → ℕ) (cs : List UInt8) : ℕ :=
  cs.foldl (fun n c => n * base + read c) 0

theorem value_concat (read : UInt8 → ℕ) (cs : List UInt8) (c : UInt8) :
    value base read (cs ++ [c]) = value base read cs * base + read c := by
  rw [value, List.foldl_concat, value]

theorem value_numeral (hbase : 1 < base) {read : UInt8 → ℕ} (hread : ∀ d < base, read (digit d) = d)
    (n : ℕ) : value base read (numeral base digit n) = n := by
  induction n using Nat.strongRecOn with
  | ind n ih =>
    by_cases hlt : n < base
    · rw [numeral_of_lt hlt]
      simp [value, hread n hlt]
    · rw [numeral_of_le hbase (by omega), value_concat, ih _ (Nat.div_lt_self (by omega) hbase),
        hread _ (Nat.mod_lt _ (by omega)), Nat.div_add_mod']

theorem numeral_injective (hbase : 1 < base) {read : UInt8 → ℕ}
    (hread : ∀ d < base, read (digit d) = d) : Function.Injective (numeral base digit) :=
  Function.LeftInverse.injective (value_numeral hbase hread)

/-! ## Fixed width -/

/-- The digits of a number at the lowest places. -/
def places (base : ℕ) (digit : ℕ → UInt8) (width n : ℕ) : List UInt8 :=
  ((List.range width).map fun place => digit (n / base ^ place % base)).reverse

@[simp] theorem length_places (width n : ℕ) : (places base digit width n).length = width := by
  simp [places]

theorem places_succ (width n : ℕ) :
    places base digit (width + 1) n = places base digit width (n / base) ++ [digit (n % base)] := by
  rw [places, List.range_succ_eq_map, List.map_cons, List.map_map, List.reverse_cons, pow_zero, Nat.div_one]
  congr 2
  apply List.map_congr_left
  intro place _
  rw [Function.comp, Nat.pow_succ', Nat.div_div_eq_div_mul]

theorem places_zero (width : ℕ) : places base digit width 0 = List.replicate width (digit 0) := by
  simp [places]

/-- Filled up to a width that a number fits in, its numeral shows every place. -/
theorem padded_eq_places (hbase : 1 < base) {width n : ℕ} (hn : n < base ^ (width + 1)) :
    padded base digit (width + 1) n = places base digit (width + 1) n := by
  induction width generalizing n with
  | zero =>
    rw [zero_add, pow_one] at hn
    rw [padded, numeral_of_lt hn, places_succ, Nat.mod_eq_of_lt hn]
    rfl
  | succ width ih =>
    rw [places_succ]
    by_cases hlt : n < base
    · rw [padded, numeral_of_lt hlt, Nat.div_eq_of_lt hlt, places_zero, Nat.mod_eq_of_lt hlt]
      rfl
    · have hrest : n / base < base ^ (width + 1) :=
        Nat.div_lt_of_lt_mul (by rwa [← Nat.pow_succ'])
      rw [← ih hrest, padded, numeral_of_le hbase (by omega), padded, List.leftpad, List.leftpad,
        List.length_append, List.length_singleton, Nat.add_sub_add_right, List.append_assoc]

theorem value_padded (hbase : 1 < base) {read : UInt8 → ℕ} (hread : ∀ d < base, read (digit d) = d)
    (width n : ℕ) : value base read (padded base digit width n) = n := by
  have hzeros : ∀ k, (List.replicate k (digit 0)).foldl (fun n c => n * base + read c) 0 = 0 := by
    intro k
    induction k with
    | zero => rfl
    | succ k ih => rw [List.replicate_succ, List.foldl_cons, hread 0 (by omega), zero_mul, zero_add, ih]
  rw [padded, List.leftpad, value, List.foldl_append, hzeros, ← value, value_numeral hbase hread]

theorem padded_injective (hbase : 1 < base) {read : UInt8 → ℕ}
    (hread : ∀ d < base, read (digit d) = d) (width : ℕ) :
    Function.Injective (padded base digit width) :=
  Function.LeftInverse.injective (value_padded hbase hread width)

/-! ## Separators -/

/-- What stands before the first separator is told apart from what follows it. -/
theorem separated_inj {c : UInt8} {xs ys rest rest' : List UInt8} (hx : c ∉ xs) (hy : c ∉ ys) :
    xs ++ c :: rest = ys ++ c :: rest' ↔ xs = ys ∧ rest = rest' := by
  induction xs generalizing ys with
  | nil =>
    cases ys with
    | nil => simp
    | cons y ys =>
      have hne : c ≠ y := List.ne_of_not_mem_cons hy
      simp [hne]
  | cons x xs ih =>
    cases ys with
    | nil =>
      have hne : c ≠ x := List.ne_of_not_mem_cons hx
      simp [hne.symm]
    | cons y ys =>
      rw [List.cons_append, List.cons_append, List.cons.injEq, List.cons.injEq, and_assoc,
        ih (List.not_mem_of_not_mem_cons hx) (List.not_mem_of_not_mem_cons hy)]

/-! ## Decimal and hexadecimal digits -/

def readDecimal (c : UInt8) : ℕ := c.toNat - 48

def readHex (c : UInt8) : ℕ :=
  if c.toNat < 58 then c.toNat - 48 else if c.toNat < 71 then c.toNat - 55 else c.toNat - 87

theorem readDecimal_digit : ∀ d < 10, readDecimal (decimalDigit d) = d := by decide

theorem readHex_upper : ∀ d < 16, readHex (upperHexDigit d) = d := by decide

theorem decimal_injective : Function.Injective decimal :=
  numeral_injective (by decide) readDecimal_digit

end Numeral
