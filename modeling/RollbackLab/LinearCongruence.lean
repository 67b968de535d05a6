import Mathlib.Algebra.Order.Group.Nat
import Mathlib.Data.ZMod.Basic
import Mathlib.Data.ZMod.Units
import Mathlib.Tactic.LinearCombination
import Mathlib.Tactic.Ring

/-!
# Linear congruential generators with a power of two as modulus

With a multiplier of the form `4 q + 1` and an odd increment the generator runs through
every residue before it repeats one.
-/

namespace LinearCongruence

/-- The sum of the first `n` powers of `a`. -/
def geometric (a : ℕ) : ℕ → ℕ
  | 0 => 0
  | n + 1 => geometric a n + a ^ n

theorem geometric_zero (a : ℕ) : geometric a 0 = 0 := rfl

theorem geometric_succ (a n : ℕ) : geometric a (n + 1) = geometric a n + a ^ n := rfl

theorem geometric_add (a m n : ℕ) :
    geometric a (m + n) = geometric a m + a ^ m * geometric a n := by
  induction n with
  | zero => simp [geometric_zero]
  | succ n ih =>
    rw [← Nat.add_assoc, geometric_succ, ih, geometric_succ, pow_add]
    ring

theorem geometric_double (a n : ℕ) :
    geometric a (2 * n) = geometric a n * (1 + a ^ n) := by
  rw [two_mul, geometric_add]
  ring

variable {a : ℕ}

theorem pow_mod_four (ha : a % 4 = 1) (n : ℕ) : a ^ n % 4 = 1 := by
  rw [Nat.pow_mod, ha]
  simp

theorem geometric_mod_two (ha : a % 4 = 1) (n : ℕ) : geometric a n % 2 = n % 2 := by
  induction n with
  | zero => rfl
  | succ n ih =>
    have := pow_mod_four ha n
    rw [geometric_succ]
    omega

/-- A power of two divides the sum exactly when it divides the number of summands. -/
theorem two_pow_dvd_geometric (ha : a % 4 = 1) (k n : ℕ) : 2 ^ k ∣ geometric a n ↔ 2 ^ k ∣ n := by
  induction k generalizing n with
  | zero => simp
  | succ k ih =>
    rcases Nat.even_or_odd' n with ⟨m, rfl | rfl⟩
    · -- the factor `1 + a ^ m` is twice an odd number
      obtain ⟨q, hq⟩ : ∃ q, 1 + a ^ m = 2 * (2 * q + 1) :=
        ⟨a ^ m / 4, by have := pow_mod_four ha m; omega⟩
      have hodd : Nat.Coprime (2 ^ k) (2 * q + 1) :=
        Nat.Coprime.pow_left k (by simp)
      rw [geometric_double, hq, pow_succ', Nat.mul_left_comm, Nat.mul_dvd_mul_iff_left (by norm_num),
        Nat.mul_dvd_mul_iff_left (by norm_num), hodd.dvd_mul_right, ih]
    · have hodd := geometric_mod_two ha (2 * m + 1)
      have hleft : ¬ 2 ^ (k + 1) ∣ geometric a (2 * m + 1) := by
        intro h
        have := (Nat.dvd_trans (Dvd.intro _ (pow_succ' 2 k).symm) h)
        omega
      have hright : ¬ 2 ^ (k + 1) ∣ 2 * m + 1 := by
        intro h
        have := (Nat.dvd_trans (Dvd.intro _ (pow_succ' 2 k).symm) h)
        omega
      exact iff_of_false hleft hright

/-- One step of the generator. -/
def next {k : ℕ} (a c : ℕ) (x : ZMod (2 ^ k)) : ZMod (2 ^ k) := a * x + c

theorem iterate_next {k : ℕ} (ha : 1 ≤ a) (c : ℕ) (x : ZMod (2 ^ k)) (n : ℕ) :
    (next a c)^[n] x = x + geometric a n * ((a - 1 : ℕ) * x + c) := by
  have hsum : ∀ n, (a : ZMod (2 ^ k)) ^ n = 1 + (a - 1 : ℕ) * geometric a n := by
    intro n
    induction n with
    | zero => simp [geometric_zero]
    | succ n ih =>
      rw [geometric_succ]
      push_cast [Nat.cast_sub ha] at ih ⊢
      linear_combination (a : ZMod (2 ^ k)) * ih - ((a : ZMod (2 ^ k)) - 1) * ih
  induction n with
  | zero => simp [geometric_zero]
  | succ n ih =>
    rw [Function.iterate_succ_apply', ih, next, geometric_succ]
    have hn := hsum n
    push_cast [Nat.cast_sub ha] at hn ⊢
    linear_combination (-((a : ZMod (2 ^ k)) - 1) * x - c) * hn

/-- The generator is back where it was exactly after a multiple of the modulus. -/
theorem iterate_next_eq_self_iff {k c : ℕ} (ha : a % 4 = 1) (hc : c % 2 = 1) (x : ZMod (2 ^ k))
    (n : ℕ) : (next a c)^[n] x = x ↔ 2 ^ k ∣ n := by
  have hunit : IsUnit (((a - 1 : ℕ) : ZMod (2 ^ k)) * x + c) := by
    have hodd : ((a - 1) * x.val + c) % 2 = 1 := by
      obtain ⟨q, hq⟩ : ∃ q, a - 1 = 2 * q := ⟨(a - 1) / 2, by omega⟩
      rw [hq, Nat.mul_assoc]
      omega
    have hcoprime : Nat.Coprime ((a - 1) * x.val + c) (2 ^ k) :=
      Nat.Coprime.pow_right k (Nat.coprime_two_right.2 (Nat.odd_iff.2 hodd))
    have hcast := (ZMod.isUnit_iff_coprime _ (2 ^ k)).2 hcoprime
    push_cast [ZMod.natCast_zmod_val x] at hcast
    exact hcast
  rw [iterate_next (by omega), add_eq_left, hunit.mul_left_eq_zero, ZMod.natCast_eq_zero_iff,
    two_pow_dvd_geometric ha]

/-- Every residue is reached from every other within one period. -/
theorem exists_iterate_next {k c : ℕ} (ha : a % 4 = 1) (hc : c % 2 = 1) (x y : ZMod (2 ^ k)) :
    ∃ n < 2 ^ k, (next a c)^[n] x = y := by
  let visit : Fin (2 ^ k) → ZMod (2 ^ k) := fun n => (next a c)^[n] x
  have hwlog : ∀ m n : Fin (2 ^ k), m ≤ n → visit m = visit n → m = n := by
    intro m n hle he
    have hsplit : (next a c)^[(n : ℕ) - m] ((next a c)^[m] x) = (next a c)^[m] x := by
      rw [← Function.iterate_add_apply, Nat.sub_add_cancel hle]
      exact he.symm
    have hdvd := (iterate_next_eq_self_iff ha hc _ _).1 hsplit
    have hzero := Nat.eq_zero_of_dvd_of_lt hdvd (by omega)
    exact le_antisymm hle (Fin.le_def.2 (by omega))
  have hinjective : Function.Injective visit := by
    intro m n he
    rcases le_total m n with hle | hle
    · exact hwlog m n hle he
    · exact (hwlog n m hle he.symm).symm
  have hcard : Fintype.card (Fin (2 ^ k)) = Fintype.card (ZMod (2 ^ k)) := by
    rw [Fintype.card_fin, ZMod.card]
  obtain ⟨n, hn⟩ := ((Fintype.bijective_iff_injective_and_card visit).2 ⟨hinjective, hcard⟩).2 y
  exact ⟨n, n.2, hn⟩

end LinearCongruence
