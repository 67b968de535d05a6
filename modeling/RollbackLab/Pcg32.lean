import RollbackLab.LinearCongruence
import Mathlib.Logic.Function.Iterate

/-!
# The random number generator

PCG32 with its multiplier and output permutation. Drawing below a bound rejects small
values until one is large enough; since the generator runs through all its states, the
loop ends within one period.
-/

namespace RollbackLab

/-- The increment of the generator is odd. -/
structure Pcg32 where
  state : UInt64
  increment : UInt64
  odd : increment.toNat % 2 = 1
  deriving DecidableEq

namespace Pcg32

def multiplier : UInt64 := 6364136223846793005

/-- What is drawn from a state. -/
def output (state : UInt64) : UInt32 :=
  let mixed := (((state >>> 18) ^^^ state) >>> 27).toUInt32
  let rotation := (state >>> 59).toUInt32
  (mixed >>> rotation) ||| (mixed <<< ((0 - rotation) &&& 31))

def nextU32 (random : Pcg32) : UInt32 × Pcg32 :=
  (output random.state, { random with state := random.state * multiplier + random.increment })

theorem increment_odd (stream : UInt64) : ((stream <<< 1) ||| 1).toNat % 2 = 1 := by
  rw [UInt64.toNat_or, Nat.or_mod_two_eq_one]
  exact Or.inr rfl

def create (seed : UInt64) (stream : UInt64 := 0xDA3E39CB94B95BDB) : Pcg32 :=
  let random := (nextU32 ⟨0, (stream <<< 1) ||| 1, increment_odd stream⟩).2
  (nextU32 { random with state := random.state + seed }).2

/-- The loop of `bounded`. It ends within one period of the generator. -/
def boundedFrom (bound threshold : UInt32) : (rounds : ℕ) → Pcg32 → UInt32 × Pcg32
  | 0, random => (0, random)
  | rounds + 1, random =>
    match random.nextU32 with
    | (value, random) =>
      if threshold ≤ value then (value % bound, random)
      else boundedFrom bound threshold rounds random

def bounded (random : Pcg32) (bound : UInt32) : UInt32 × Pcg32 :=
  if bound = 0 then (0, random)
  else boundedFrom bound ((0 - bound) % bound) (2 ^ 64) random

def advance (random : Pcg32) : Pcg32 := random.nextU32.2

theorem boundedFrom_succ (bound threshold : UInt32) (rounds : ℕ) (random : Pcg32) :
    boundedFrom bound threshold (rounds + 1) random =
      if threshold ≤ output random.state then (output random.state % bound, random.advance)
      else boundedFrom bound threshold rounds random.advance := rfl

/-- The loop stops at the first value that is large enough. -/
theorem boundedFrom_spec {bound threshold : UInt32} {rounds n : ℕ} {random : Pcg32}
    (hn : n < rounds) (haccepted : threshold ≤ output (advance^[n] random).state) :
    ∃ m ≤ n, threshold ≤ output (advance^[m] random).state ∧
      boundedFrom bound threshold rounds random =
        (output (advance^[m] random).state % bound, advance^[m + 1] random) := by
  induction n generalizing rounds random with
  | zero =>
    obtain ⟨rounds, rfl⟩ := Nat.exists_eq_succ_of_ne_zero (Nat.ne_of_gt hn)
    refine ⟨0, le_rfl, haccepted, ?_⟩
    rw [Function.iterate_zero_apply] at haccepted
    rw [boundedFrom_succ, if_pos haccepted, Function.iterate_zero_apply, Function.iterate_one]
  | succ n ih =>
    obtain ⟨rounds, rfl⟩ := Nat.exists_eq_succ_of_ne_zero (Nat.ne_of_gt (Nat.zero_lt_of_lt hn))
    rw [Function.iterate_succ_apply] at haccepted
    by_cases hfirst : threshold ≤ output random.state
    · refine ⟨0, Nat.zero_le _, hfirst, ?_⟩
      rw [boundedFrom_succ, if_pos hfirst, Function.iterate_zero_apply, Function.iterate_one]
    · obtain ⟨m, hm, hvalue, hrest⟩ := ih (Nat.lt_of_succ_lt_succ hn) haccepted
      refine ⟨m + 1, Nat.succ_le_succ hm, ?_, ?_⟩
      · rw [Function.iterate_succ_apply]
        exact hvalue
      · rw [boundedFrom_succ, if_neg hfirst, Function.iterate_succ_apply,
          Function.iterate_succ_apply, hrest, Function.iterate_succ_apply]

/-- The state as a residue. -/
def residue (random : Pcg32) : ZMod (2 ^ 64) := random.state.toNat

theorem advance_state (random : Pcg32) :
    random.advance.state = random.state * multiplier + random.increment := rfl

theorem residue_advance (random : Pcg32) :
    random.advance.residue =
      LinearCongruence.next multiplier.toNat random.increment.toNat random.residue := by
  have hvalue : random.advance.state.toNat =
      (multiplier.toNat * random.state.toNat + random.increment.toNat) % 2 ^ 64 := by
    rw [advance_state, UInt64.toNat_add, UInt64.toNat_mul, Nat.mod_add_mod, Nat.mul_comm]
  rw [residue, hvalue, ZMod.natCast_mod, LinearCongruence.next, residue, Nat.cast_add, Nat.cast_mul]

theorem advance_increment (random : Pcg32) : random.advance.increment = random.increment := by
  cases random
  rfl

theorem iterate_increment (random : Pcg32) (n : ℕ) :
    (advance^[n] random).increment = random.increment := by
  induction n with
  | zero => rfl
  | succ n ih => rw [Function.iterate_succ_apply', advance_increment, ih]

theorem residue_iterate (random : Pcg32) (n : ℕ) :
    (advance^[n] random).residue =
      (LinearCongruence.next multiplier.toNat random.increment.toNat)^[n] random.residue := by
  induction n with
  | zero => rfl
  | succ n ih =>
    rw [Function.iterate_succ_apply', residue_advance, iterate_increment, ih,
      Function.iterate_succ_apply']

/-- Within one period the generator passes through every state. -/
theorem exists_state (random : Pcg32) (state : UInt64) :
    ∃ n < 2 ^ 64, (advance^[n] random).state = state := by
  obtain ⟨n, hn, hreached⟩ := LinearCongruence.exists_iterate_next (k := 64)
    (a := multiplier.toNat) (c := random.increment.toNat) (by decide) random.odd random.residue
    (state.toNat : ZMod (2 ^ 64))
  refine ⟨n, hn, ?_⟩
  rw [← residue_iterate, residue, ZMod.natCast_eq_natCast_iff'] at hreached
  rw [Nat.mod_eq_of_lt (UInt64.toNat_lt _), Nat.mod_eq_of_lt (UInt64.toNat_lt _)] at hreached
  exact UInt64.toNat_inj.1 hreached

/-- A state that draws the largest number, which no threshold rejects. -/
def largestState : UInt64 := 576458553280167936

theorem output_largestState : output largestState = 0xFFFFFFFF := by decide

/-- Drawing below a bound ends within one period, with the first value that is not
rejected. -/
theorem bounded_spec (random : Pcg32) {bound : UInt32} (hbound : bound ≠ 0) :
    ∃ n < 2 ^ 64, (0 - bound) % bound ≤ output (advance^[n] random).state ∧
      random.bounded bound =
        (output (advance^[n] random).state % bound, advance^[n + 1] random) := by
  obtain ⟨n, hn, hstate⟩ := random.exists_state largestState
  have haccepted : (0 - bound) % bound ≤ output (advance^[n] random).state := by
    rw [hstate, output_largestState, UInt32.le_iff_toNat_le]
    exact Nat.le_of_lt_succ (UInt32.toNat_lt _)
  obtain ⟨m, hm, hvalue, hdrawn⟩ := boundedFrom_spec hn haccepted
  refine ⟨m, lt_of_le_of_lt hm hn, hvalue, ?_⟩
  rw [bounded, if_neg hbound, hdrawn]

theorem bounded_lt (random : Pcg32) {bound : UInt32} (hbound : bound ≠ 0) :
    (random.bounded bound).1 < bound := by
  obtain ⟨n, -, -, hdrawn⟩ := random.bounded_spec hbound
  rw [hdrawn, UInt32.lt_iff_toNat_lt, UInt32.toNat_mod]
  refine Nat.mod_lt _ (Nat.pos_of_ne_zero fun hzero => hbound ?_)
  exact UInt32.toNat_inj.1 hzero

end Pcg32
end RollbackLab
