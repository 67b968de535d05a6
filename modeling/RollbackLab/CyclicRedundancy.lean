import Mathlib.Data.Nat.Bitwise
import Mathlib.Logic.Function.Iterate
import RollbackLab.LittleEndian

/-!
# Reflected cyclic redundancy checks

A register goes through the bits of a message from the low end, and a bit that falls out
folds the polynomial in. Going through bits is linear, a register that the polynomial
fills can go back, and as many bytes as fit into the register only ever leave it in
different states.
-/

namespace CyclicRedundancy

open LittleEndian

/-- One bit of the register goes. -/
def shift (poly register : ℕ) : ℕ := register / 2 ^^^ if register % 2 = 1 then poly else 0

/-- Every byte of a message goes through the register. -/
def feed (poly register : ℕ) (bytes : List UInt8) : ℕ :=
  bytes.foldl (fun register byte => (shift poly)^[8] (register ^^^ byte.toNat)) register

variable {poly w : ℕ}

/-! ## Linearity -/

theorem shift_xor (a b : ℕ) : shift poly (a ^^^ b) = shift poly a ^^^ shift poly b := by
  have hparity : (a ^^^ b) % 2 = (a + b) % 2 := Nat.xor_mod_two_eq
  rw [shift, shift, shift, Nat.xor_div_two]
  rcases Nat.mod_two_eq_zero_or_one a with ha | ha
  · rcases Nat.mod_two_eq_zero_or_one b with hb | hb
    · rw [if_neg (by omega), if_neg (by omega), if_neg (by omega)]
      simp only [Nat.xor_zero]
    · rw [if_pos (by omega), if_neg (by omega), if_pos (by omega), Nat.xor_zero, Nat.xor_assoc]
  · rcases Nat.mod_two_eq_zero_or_one b with hb | hb
    · rw [if_pos (by omega), if_pos (by omega), if_neg (by omega), Nat.xor_zero, Nat.xor_assoc,
        Nat.xor_comm (b / 2), ← Nat.xor_assoc]
    · rw [if_neg (by omega), if_pos (by omega), if_pos (by omega), Nat.xor_comm (b / 2) poly,
        Nat.xor_assoc (a / 2) poly, Nat.xor_xor_cancel_left, Nat.xor_zero]

theorem iterate_shift_xor (n a b : ℕ) :
    (shift poly)^[n] (a ^^^ b) = (shift poly)^[n] a ^^^ (shift poly)^[n] b := by
  induction n generalizing a b with
  | zero => rfl
  | succ n ih => rw [Function.iterate_succ_apply, shift_xor, ih]; rfl

theorem shift_two_mul (a : ℕ) : shift poly (2 * a) = a := by
  simp [shift]

theorem iterate_shift_two_pow_mul (n a : ℕ) : (shift poly)^[n] (2 ^ n * a) = a := by
  induction n with
  | zero => simp
  | succ n ih => rw [Function.iterate_succ_apply, Nat.pow_succ', Nat.mul_assoc, shift_two_mul, ih]

theorem byte_xor (byte : UInt8) (a : ℕ) : byte.toNat ^^^ 2 ^ 8 * a = byte.toNat + 2 ^ 8 * a := by
  apply Nat.eq_of_testBit_eq
  intro i
  have hbyte : byte.toNat < 2 ^ 8 := byte.toNat_lt
  rw [Nat.add_comm, Nat.testBit_xor, Nat.testBit_two_pow_mul, Nat.testBit_two_pow_mul_add _ hbyte]
  by_cases hi : i < 8
  · simp [hi, Nat.not_le.2 hi]
  · rw [Nat.testBit_lt_two_pow (hbyte.trans_le (Nat.pow_le_pow_right (by omega) (by omega)))]
    simp [hi, Nat.not_lt.1 hi]

/-- A message goes through the register like the number it stands for. -/
theorem feed_eq (register : ℕ) (bytes : List UInt8) :
    feed poly register bytes = (shift poly)^[8 * bytes.length] (register ^^^ value bytes) := by
  induction bytes generalizing register with
  | nil => simp [feed, value]
  | cons byte bytes ih =>
    have hrest : value bytes = (shift poly)^[8] (2 ^ 8 * value bytes) :=
      (iterate_shift_two_pow_mul 8 _).symm
    calc feed poly register (byte :: bytes)
        = feed poly ((shift poly)^[8] (register ^^^ byte.toNat)) bytes := rfl
      _ = (shift poly)^[8 * bytes.length]
            ((shift poly)^[8] (register ^^^ byte.toNat) ^^^ (shift poly)^[8] (2 ^ 8 * value bytes)) := by
          rw [ih, ← hrest]
      _ = (shift poly)^[8 * bytes.length + 8] (register ^^^ value (byte :: bytes)) := by
          rw [← iterate_shift_xor, Nat.xor_assoc, byte_xor, Function.iterate_add_apply]
          rfl
      _ = (shift poly)^[8 * (byte :: bytes).length] (register ^^^ value (byte :: bytes)) := rfl

/-! ## Going back -/

theorem shift_lt (hpoly : poly < 2 ^ w) {a : ℕ} (ha : a < 2 ^ w) : shift poly a < 2 ^ w := by
  rw [shift]
  apply Nat.xor_lt_two_pow
  · omega
  · split
    · exact hpoly
    · omega

theorem iterate_shift_lt (hpoly : poly < 2 ^ w) (n : ℕ) {a : ℕ} (ha : a < 2 ^ w) :
    (shift poly)^[n] a < 2 ^ w := by
  induction n generalizing a with
  | zero => exact ha
  | succ n ih => exact ih (shift_lt hpoly ha)

theorem shift_eq_zero (hfull : 2 ^ w ≤ 2 * poly) {a : ℕ} (ha : a < 2 ^ w) (h : shift poly a = 0) :
    a = 0 := by
  rw [shift, Nat.xor_eq_zero_iff] at h
  split at h
  · omega
  · omega

/-- A register that the polynomial fills can go back. -/
theorem shift_injective (hfull : 2 ^ w ≤ 2 * poly) {a b : ℕ} (ha : a < 2 ^ w) (hb : b < 2 ^ w)
    (h : shift poly a = shift poly b) : a = b := by
  apply Nat.xor_eq_zero_iff.1
  apply shift_eq_zero hfull (Nat.xor_lt_two_pow ha hb)
  rw [shift_xor, h, Nat.xor_self]

theorem iterate_shift_injective (hpoly : poly < 2 ^ w) (hfull : 2 ^ w ≤ 2 * poly) (n : ℕ) {a b : ℕ}
    (ha : a < 2 ^ w) (hb : b < 2 ^ w) (h : (shift poly)^[n] a = (shift poly)^[n] b) : a = b := by
  induction n generalizing a b with
  | zero => exact h
  | succ n ih =>
    exact shift_injective hfull ha hb (ih (shift_lt hpoly ha) (shift_lt hpoly hb) h)

theorem value_lt_two_pow {bytes : List UInt8} (hlength : 8 * bytes.length ≤ w) :
    value bytes < 2 ^ w := by
  refine (value_lt bytes).trans_le ?_
  rw [show (256 : ℕ) = 2 ^ 8 from rfl, ← Nat.pow_mul]
  exact Nat.pow_le_pow_right (by omega) hlength

theorem byte_lt (hw : 8 ≤ w) (byte : UInt8) : byte.toNat < 2 ^ w :=
  byte.toNat_lt.trans_le (Nat.pow_le_pow_right (by omega) hw)

theorem feed_lt (hpoly : poly < 2 ^ w) (hw : 8 ≤ w) {register : ℕ} (hregister : register < 2 ^ w)
    (bytes : List UInt8) : feed poly register bytes < 2 ^ w := by
  induction bytes generalizing register with
  | nil => exact hregister
  | cons byte bytes ih =>
    exact ih (iterate_shift_lt hpoly 8 (Nat.xor_lt_two_pow hregister (byte_lt hw byte)))

theorem feed_injective (hpoly : poly < 2 ^ w) (hfull : 2 ^ w ≤ 2 * poly) (hw : 8 ≤ w) {a b : ℕ}
    (ha : a < 2 ^ w) (hb : b < 2 ^ w) {bytes : List UInt8} (h : feed poly a bytes = feed poly b bytes) :
    a = b := by
  induction bytes generalizing a b with
  | nil => exact h
  | cons byte bytes ih =>
    have hbyte := byte_lt hw byte
    have hstep := ih (iterate_shift_lt hpoly 8 (Nat.xor_lt_two_pow ha hbyte))
      (iterate_shift_lt hpoly 8 (Nat.xor_lt_two_pow hb hbyte)) h
    have hsame := iterate_shift_injective hpoly hfull 8 (Nat.xor_lt_two_pow ha hbyte)
      (Nat.xor_lt_two_pow hb hbyte) hstep
    exact Nat.xor_left_injective hsame

/-- Two messages that differ only in a window that fits into the register leave it in
different states. -/
theorem window_eq (hpoly : poly < 2 ^ w) (hfull : 2 ^ w ≤ 2 * poly) (hw : 8 ≤ w) {register : ℕ}
    (hregister : register < 2 ^ w) {front window window' rest : List UInt8}
    (hlength : window.length = window'.length) (hfits : 8 * window.length ≤ w)
    (h : feed poly register (front ++ window ++ rest) = feed poly register (front ++ window' ++ rest)) :
    window = window' := by
  simp only [feed, List.foldl_append] at h
  change feed poly (feed poly (feed poly register front) window) rest =
    feed poly (feed poly (feed poly register front) window') rest at h
  have hfront := feed_lt hpoly hw hregister front
  have hwindow := feed_injective hpoly hfull hw (feed_lt hpoly hw hfront window)
    (feed_lt hpoly hw hfront window') h
  rw [feed_eq _ window, feed_eq _ window', ← hlength] at hwindow
  have hvalue := value_lt_two_pow hfits
  have hvalue' := value_lt_two_pow (hlength ▸ hfits : 8 * window'.length ≤ w)
  have hsame := iterate_shift_injective hpoly hfull _ (Nat.xor_lt_two_pow hfront hvalue)
    (Nat.xor_lt_two_pow hfront hvalue') hwindow
  exact value_inj hlength (Nat.xor_right_injective hsame)

end CyclicRedundancy
