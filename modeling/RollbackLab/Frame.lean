import Mathlib.Data.Nat.ModEq
import Mathlib.Tactic.Linarith

/-!
# Frame numbers in modular order

Frame numbers are 32-bit and wrap. The order the library uses is serial-number
order: `left` precedes `right` when the wrapped difference lies in the lower half.
Counting boundaries from a fixed origin turns this order back into the order of
the natural numbers, as long as the counts stay within half the ring.
-/

namespace RollbackLab

structure FrameNumber where
  value : UInt32
  deriving DecidableEq, Repr, Inhabited

def frameBefore (left right : FrameNumber) : Bool :=
  let distance := right.value - left.value
  distance != 0 && distance < 0x80000000

def frameDistance (first last : FrameNumber) : UInt32 := last.value - first.value

def nextFrame (frame : FrameNumber) : FrameNumber := ⟨frame.value + 1⟩

def frameRingIndex (frame : FrameNumber) (capacity : ℕ) : ℕ :=
  if capacity = 0 then 0 else frame.value.toNat % capacity

/-- The boundary reached after counting `i` frames from `origin`. -/
def FrameNumber.plus (origin : FrameNumber) (i : ℕ) : FrameNumber :=
  ⟨origin.value + UInt32.ofNat i⟩

theorem FrameNumber.ext {f g : FrameNumber} (h : f.value.toNat = g.value.toNat) : f = g := by
  cases f; cases g
  simpa [UInt32.toNat_inj] using h

@[simp] theorem FrameNumber.plus_value_toNat (origin : FrameNumber) (i : ℕ) :
    (origin.plus i).value.toNat = (origin.value.toNat + i) % 2 ^ 32 := by
  simp [FrameNumber.plus]

@[simp] theorem FrameNumber.plus_zero (origin : FrameNumber) : origin.plus 0 = origin := by
  simp [FrameNumber.plus]

theorem FrameNumber.plus_plus (origin : FrameNumber) (i j : ℕ) :
    (origin.plus i).plus j = origin.plus (i + j) := by
  apply FrameNumber.ext
  simp only [FrameNumber.plus_value_toNat]
  omega

@[simp] theorem nextFrame_plus (origin : FrameNumber) (i : ℕ) :
    nextFrame (origin.plus i) = origin.plus (i + 1) := by
  apply FrameNumber.ext
  simp only [nextFrame, UInt32.toNat_add, FrameNumber.plus_value_toNat, UInt32.reduceToNat]
  omega

/-- Every frame number is some count away from the origin. -/
theorem FrameNumber.exists_plus (origin f : FrameNumber) : ∃ i < 2 ^ 32, f = origin.plus i := by
  refine ⟨(f.value.toNat + 2 ^ 32 - origin.value.toNat) % 2 ^ 32, Nat.mod_lt _ (by norm_num), ?_⟩
  apply FrameNumber.ext
  have hf := f.value.toNat_lt
  have ho := origin.value.toNat_lt
  simp only [FrameNumber.plus_value_toNat]
  omega

theorem FrameNumber.plus_inj {origin : FrameNumber} {i j : ℕ} (hi : i < 2 ^ 32) (hj : j < 2 ^ 32) :
    origin.plus i = origin.plus j ↔ i = j := by
  constructor
  · intro h
    have hv := congrArg (fun f => f.value.toNat) h
    simp only [FrameNumber.plus_value_toNat] at hv
    omega
  · rintro rfl
    rfl

theorem frameDistance_plus (origin : FrameNumber) {i j : ℕ} (hij : i ≤ j) (hj : j < i + 2 ^ 32) :
    (frameDistance (origin.plus i) (origin.plus j)).toNat = j - i := by
  simp only [frameDistance, UInt32.toNat_sub, FrameNumber.plus_value_toNat]
  omega

theorem FrameNumber.plus_frameDistance (earlier later : FrameNumber) :
    earlier.plus (frameDistance earlier later).toNat = later := by
  apply FrameNumber.ext
  have := earlier.value.toNat_lt
  have := later.value.toNat_lt
  simp only [frameDistance, FrameNumber.plus_value_toNat, UInt32.toNat_sub]
  omega

theorem frameBefore_iff_toNat (left right : FrameNumber) :
    frameBefore left right = true ↔
      0 < (frameDistance left right).toNat ∧ (frameDistance left right).toNat < 2 ^ 31 := by
  have hz : right.value - left.value = 0 ↔ (right.value - left.value).toNat = 0 := by
    rw [← UInt32.toNat_inj]
    rfl
  have hh : right.value - left.value < 0x80000000 ↔ (right.value - left.value).toNat < 2 ^ 31 := by
    rw [UInt32.lt_iff_toNat_lt]
    rfl
  simp only [frameBefore, frameDistance, Bool.and_eq_true, bne_iff_ne, ne_eq, decide_eq_true_eq]
  rw [hz, hh]
  exact and_congr_left fun _ => Nat.pos_iff_ne_zero.symm

/-- Within half the ring, modular order is the order of the counts. -/
theorem frameBefore_plus (origin : FrameNumber) {i j : ℕ} (hij : j < i + 2 ^ 31)
    (hji : i ≤ j + 2 ^ 31) : frameBefore (origin.plus i) (origin.plus j) = true ↔ i < j := by
  rw [frameBefore_iff_toNat]
  simp only [frameDistance, UInt32.toNat_sub, FrameNumber.plus_value_toNat]
  omega

theorem frameRingIndex_lt (frame : FrameNumber) {capacity : ℕ} (h : 0 < capacity) :
    frameRingIndex frame capacity < capacity := by
  simp only [frameRingIndex, Nat.ne_of_gt h, if_false]
  exact Nat.mod_lt _ h

/-- A capacity that divides the ring of frame numbers gives counts that agree
modulo the capacity one slot, also across the wrap. -/
theorem frameRingIndex_plus {capacity : ℕ} (hdvd : capacity ∣ 2 ^ 32) (origin : FrameNumber)
    (i j : ℕ) : frameRingIndex (origin.plus i) capacity = frameRingIndex (origin.plus j) capacity ↔
      i % capacity = j % capacity := by
  have hpos : 0 < capacity := Nat.pos_of_dvd_of_pos hdvd (by norm_num)
  simp only [frameRingIndex, Nat.ne_of_gt hpos, if_false, FrameNumber.plus_value_toNat,
    Nat.mod_mod_of_dvd _ hdvd]
  exact ⟨Nat.ModEq.add_left_cancel' _, Nat.ModEq.add_left _⟩

end RollbackLab
