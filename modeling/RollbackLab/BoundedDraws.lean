import RollbackLab.Pcg32
import Mathlib.Data.Int.CardIntervalMod
import Mathlib.Data.Nat.ModEq
import Mathlib.SetTheory.Cardinal.Finite

/-!
# Bounded draws are unbiased

The threshold of `bounded` is what 2^32 leaves over when it is divided by the bound, so
the draws it accepts are whole periods of residues. The loop ends at the first of them.
-/

namespace RollbackLab.Pcg32

/-- In whole periods every residue comes up equally often. -/
theorem card_modEq_periods {period : ℕ} (hperiod : 0 < period) (start count residue : ℕ) :
    ((Finset.Ico start (start + count * period)).filter (· ≡ residue [MOD period])).card = count := by
  have hne : (period : ℚ) ≠ 0 := Nat.cast_ne_zero.2 hperiod.ne'
  have hshift : (((start + count * period : ℕ) : ℚ) - residue) / period =
      ((start : ℚ) - residue) / period + count := by
    rw [Nat.cast_add, Nat.cast_mul, add_sub_right_comm, add_div, mul_div_cancel_right₀ _ hne]
  have hcard := Nat.Ico_filter_modEq_card start (start + count * period) hperiod residue
  rw [hshift, Int.ceil_add_natCast, add_sub_cancel_left, max_eq_left (Int.natCast_nonneg _)] at hcard
  exact Int.ofNat_inj.1 hcard

/-- What `bounded` compares its draws with. -/
theorem threshold_toNat {bound : UInt32} (hbound : bound ≠ 0) :
    ((0 - bound) % bound).toNat = 2 ^ 32 % bound.toNat := by
  have hpositive : 0 < bound.toNat := Nat.pos_of_ne_zero fun h => hbound (UInt32.toNat_inj.1 h)
  have hlt : bound.toNat < 2 ^ 32 := bound.toNat_lt
  have hnegated : (0 - bound).toNat = 2 ^ 32 - bound.toNat := by
    rw [UInt32.toNat_sub, UInt32.toNat_zero, Nat.add_zero, Nat.mod_eq_of_lt (by omega)]
  rw [UInt32.toNat_mod, hnegated, ← Nat.add_mod_right, Nat.sub_add_cancel hlt.le]

/-- The draws accepted with one residue. -/
theorem mem_accepted {bound residue : UInt32} (hbound : bound ≠ 0) (hresidue : residue < bound)
    (value : UInt32) :
    value ∈ ((Finset.Ico (2 ^ 32 % bound.toNat) (2 ^ 32)).filter
        (· ≡ residue.toNat [MOD bound.toNat])).image UInt32.ofNat ↔
      (0 - bound) % bound ≤ value ∧ value % bound = residue := by
  have hsmall : residue.toNat % bound.toNat = residue.toNat :=
    Nat.mod_eq_of_lt (UInt32.lt_iff_toNat_lt.1 hresidue)
  rw [UInt32.le_iff_toNat_le, threshold_toNat hbound, ← UInt32.toNat_inj, UInt32.toNat_mod]
  simp only [Finset.mem_image, Finset.mem_filter, Finset.mem_Ico, Nat.ModEq, hsmall]
  constructor
  · rintro ⟨n, ⟨⟨hle, hlt⟩, hmod⟩, rfl⟩
    rw [UInt32.toNat_ofNat_of_lt' hlt]
    exact ⟨hle, hmod⟩
  · rintro ⟨hle, hmod⟩
    exact ⟨value.toNat, ⟨⟨hle, value.toNat_lt⟩, hmod⟩, UInt32.ofNat_toNat⟩

theorem card_accepted {bound residue : UInt32} (hbound : bound ≠ 0) (hresidue : residue < bound) :
    Nat.card {value : UInt32 // (0 - bound) % bound ≤ value ∧ value % bound = residue} =
      2 ^ 32 / bound.toNat := by
  have hpositive : 0 < bound.toNat := Nat.pos_of_ne_zero fun h => hbound (UInt32.toNat_inj.1 h)
  have hperiods : 2 ^ 32 = 2 ^ 32 % bound.toNat + 2 ^ 32 / bound.toNat * bound.toNat := by
    rw [Nat.mul_comm, Nat.mod_add_div]
  have hcard := card_modEq_periods hpositive (2 ^ 32 % bound.toNat) (2 ^ 32 / bound.toNat)
    residue.toNat
  rw [← hperiods] at hcard
  rw [Nat.subtype_card _ (mem_accepted hbound hresidue), Finset.card_image_of_injOn, hcard]
  intro n hn m hm heq
  have hn := (Finset.mem_Ico.1 (Finset.mem_filter.1 hn).1).2
  have hm := (Finset.mem_Ico.1 (Finset.mem_filter.1 hm).1).2
  rw [← UInt32.toNat_ofNat_of_lt' hn, ← UInt32.toNat_ofNat_of_lt' hm]
  exact congrArg UInt32.toNat heq

/-- The loop stops at the first draw it accepts, whatever bounds its rounds. -/
theorem boundedFrom_first {bound threshold : UInt32} {rounds n : ℕ} {random : Pcg32}
    (hrounds : n < rounds) (hrejected : ∀ k < n, output (advance^[k] random).state < threshold)
    (haccepted : threshold ≤ output (advance^[n] random).state) :
    boundedFrom bound threshold rounds random =
      (output (advance^[n] random).state % bound, advance^[n + 1] random) := by
  obtain ⟨m, hm, hvalue, hdrawn⟩ := @boundedFrom_spec bound _ _ _ _ hrounds haccepted
  rcases Nat.lt_or_eq_of_le hm with hearlier | rfl
  · exact absurd hvalue (UInt32.not_le.2 (hrejected m hearlier))
  · exact hdrawn

/-- A bounded draw ends with the first value that is not rejected, below the bound, and
every residue is that of equally many accepted values. -/
theorem bounded_unbiased (random : Pcg32) {bound : UInt32} (hbound : bound ≠ 0) :
    (∃ n, (∀ k < n, output (advance^[k] random).state < (0 - bound) % bound) ∧
      (0 - bound) % bound ≤ output (advance^[n] random).state ∧
      (∀ rounds > n, boundedFrom bound ((0 - bound) % bound) rounds random =
        (output (advance^[n] random).state % bound, advance^[n + 1] random)) ∧
      random.bounded bound =
        (output (advance^[n] random).state % bound, advance^[n + 1] random)) ∧
      (random.bounded bound).1 < bound ∧
      ∀ residue < bound,
        Nat.card {value : UInt32 // (0 - bound) % bound ≤ value ∧ value % bound = residue} =
          2 ^ 32 / bound.toNat := by
  refine ⟨?_, random.bounded_lt hbound, fun residue => card_accepted hbound⟩
  obtain ⟨n, hn, haccepted, -⟩ := random.bounded_spec hbound
  have hexists : ∃ n, (0 - bound) % bound ≤ output (advance^[n] random).state := ⟨n, haccepted⟩
  have hrejected : ∀ k < Nat.find hexists,
      output (advance^[k] random).state < (0 - bound) % bound :=
    fun k hk => UInt32.not_le.1 (Nat.find_min hexists hk)
  refine ⟨Nat.find hexists, hrejected, Nat.find_spec hexists, fun rounds hrounds =>
    boundedFrom_first hrounds hrejected (Nat.find_spec hexists), ?_⟩
  rw [bounded, if_neg hbound]
  exact boundedFrom_first (lt_of_le_of_lt (Nat.find_min' hexists haccepted) hn) hrejected
    (Nat.find_spec hexists)

/-- Throwing a die. -/
theorem bounded_unbiased_six :
    Nat.card {value : UInt32 // (0 - 6) % 6 ≤ value ∧ value % 6 = 3} = 715827882 :=
  (bounded_unbiased (create 0) (by decide)).2.2 3 (by decide)

end RollbackLab.Pcg32
