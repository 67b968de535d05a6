import RollbackLab.Error
import RollbackLab.Frame
import Mathlib.Logic.Function.Basic

/-!
# The frame ring

A direct-mapped store with one slot for each residue of the frame number. A slot
remembers the frame it was written for, so an evicted or never written frame is
reported as stale rather than read from its neighbour a whole ring away.

`Holds` states what a ring written once per frame, in order, contains: exactly the
last `capacity` frames counted from an origin.
-/

namespace RollbackLab

structure Slot (α : Type) where
  valid : Bool
  frame : FrameNumber
  value : α
  deriving DecidableEq, Repr

structure FrameRing (α : Type) (capacity : ℕ) where
  slots : Vector (Slot α) capacity

namespace FrameRing

variable {α : Type} {capacity : ℕ}

def empty [Inhabited α] : FrameRing α capacity :=
  ⟨Vector.replicate capacity ⟨false, default, default⟩⟩

variable [NeZero capacity]

def slotIndex (capacity : ℕ) [NeZero capacity] (frame : FrameNumber) : Fin capacity :=
  ⟨frameRingIndex frame capacity, frameRingIndex_lt frame (Nat.pos_of_neZero capacity)⟩

def put (ring : FrameRing α capacity) (frame : FrameNumber) (value : α) :
    Result Unit × FrameRing α capacity :=
  (.ok (), ⟨ring.slots.set (slotIndex capacity frame) ⟨true, frame, value⟩⟩)

def staleError (frame : FrameNumber) : Error :=
  ⟨.staleFrame, frame.value.toUInt64, 0, "frame_ring"⟩

def get (ring : FrameRing α capacity) (frame : FrameNumber) : Result α :=
  let slot := ring.slots[slotIndex capacity frame]
  if !slot.valid || slot.frame != frame then .error (staleError frame) else .ok slot.value

def contains (ring : FrameRing α capacity) (frame : FrameNumber) : Bool :=
  let slot := ring.slots[slotIndex capacity frame]
  slot.valid && slot.frame == frame

theorem contains_iff (ring : FrameRing α capacity) (frame : FrameNumber) :
    ring.contains frame = true ↔ ∃ value, ring.get frame = .ok value := by
  simp only [contains, get]
  generalize ring.slots[slotIndex capacity frame] = slot
  obtain ⟨valid, written, value⟩ := slot
  cases valid <;> by_cases hf : written = frame <;> simp [hf]

@[simp] theorem put_fst (ring : FrameRing α capacity) (frame : FrameNumber) (value : α) :
    (ring.put frame value).1 = .ok () := rfl

@[simp] theorem get_empty [Inhabited α] (frame : FrameNumber) :
    (empty : FrameRing α capacity).get frame = .error (staleError frame) := by
  simp [get, empty]

theorem get_put (ring : FrameRing α capacity) (f g : FrameNumber) (value : α) :
    (ring.put f value).2.get g =
      if g = f then .ok value
      else if frameRingIndex g capacity = frameRingIndex f capacity then .error (staleError g)
      else ring.get g := by
  by_cases hgf : g = f
  · subst hgf
    simp [get, put]
  · rw [if_neg hgf]
    have hne : f ≠ g := fun h => hgf h.symm
    by_cases hi : frameRingIndex g capacity = frameRingIndex f capacity
    · have hs : slotIndex capacity g = slotIndex capacity f := Fin.ext hi
      simp [get, put, hs, hi, hne]
    · have hs : (slotIndex capacity f : ℕ) ≠ slotIndex capacity g := fun h => hi h.symm
      simp [get, put, hi, hs]

theorem get_put_self (ring : FrameRing α capacity) (f : FrameNumber) (value : α) :
    (ring.put f value).2.get f = .ok value := by simp [get_put]

/-- What a ring holds after a write was written or was held before. -/
theorem get_put_ok {ring : FrameRing α capacity} {f g : FrameNumber} {value held : α}
    (h : (ring.put f value).2.get g = .ok held) : g = f ∧ held = value ∨ ring.get g = .ok held := by
  rw [get_put] at h
  split at h
  · exact Or.inl ⟨by assumption, (Except.ok.inj h).symm⟩
  · split at h
    · cases h
    · exact Or.inr h

/-- A ring written for the counts `first, …, next - 1` holds exactly the last
`capacity` of them. -/
structure Holds (ring : FrameRing α capacity) (origin : FrameNumber) (first next : ℕ)
    (g : ℕ → α) : Prop where
  get_eq : ∀ i, first ≤ i → i < next → next ≤ i + capacity →
    ring.get (origin.plus i) = .ok (g i)
  get_ok : ∀ f value, ring.get f = .ok value →
    ∃ i, first ≤ i ∧ i < next ∧ next ≤ i + capacity ∧ f = origin.plus i

theorem holds_empty [Inhabited α] (origin : FrameNumber) (first : ℕ) (g : ℕ → α) :
    Holds (empty : FrameRing α capacity) origin first first g := by
  constructor
  · intro i hf hi
    omega
  · intro f value h
    simp at h

namespace Holds

variable {ring : FrameRing α capacity} {origin : FrameNumber} {first next : ℕ} {g g' : ℕ → α}

theorem congr (h : Holds ring origin first next g)
    (hg : ∀ i, first ≤ i → i < next → next ≤ i + capacity → g i = g' i) :
    Holds ring origin first next g' := by
  refine ⟨fun i hf hi hc => ?_, h.get_ok⟩
  rw [h.get_eq i hf hi hc, hg i hf hi hc]

omit [NeZero capacity] in
private theorem index_ne (hdvd : capacity ∣ 2 ^ 32) (origin : FrameNumber) {i j : ℕ}
    (hij : i < j) (hj : j < i + capacity) :
    frameRingIndex (origin.plus i) capacity ≠ frameRingIndex (origin.plus j) capacity := by
  rw [ne_eq, frameRingIndex_plus hdvd]
  intro h
  have hd : capacity ∣ j - i := (Nat.modEq_iff_dvd' hij.le).1 h
  have := Nat.le_of_dvd (by omega) hd
  omega

/-- Writing the next frame evicts the frame one whole ring earlier. -/
theorem push (h : Holds ring origin first next g) (hdvd : capacity ∣ 2 ^ 32)
    (hfirst : first ≤ next) (hnext : next < 2 ^ 32) (value : α) :
    Holds (ring.put (origin.plus next) value).2 origin first (next + 1)
      (Function.update g next value) := by
  constructor
  · intro i hf hi hc
    rw [get_put]
    rcases Nat.lt_succ_iff_lt_or_eq.1 hi with hlt | rfl
    · have hne : origin.plus i ≠ origin.plus next := fun he => by
        have := (FrameNumber.plus_inj (by omega) hnext).1 he
        omega
      rw [if_neg hne, if_neg (index_ne hdvd origin hlt (by omega)),
        h.get_eq i hf hlt (by omega), Function.update_of_ne (by omega)]
    · simp
  · intro f v hv
    rw [get_put] at hv
    split at hv
    · exact ⟨next, hfirst, by omega, by have := Nat.pos_of_neZero capacity; omega, by assumption⟩
    · split at hv
      · cases hv
      · rename_i hslot
        obtain ⟨i, hf, hi, hc, rfl⟩ := h.get_ok f v hv
        refine ⟨i, hf, by omega, ?_, rfl⟩
        rcases Nat.lt_or_ge next (i + capacity) with hlt | hge
        · omega
        · have he : next = i + capacity := by omega
          exact absurd ((frameRingIndex_plus hdvd origin i next).2 (by simp [he])) hslot

/-- Rewriting a frame that is still held changes that frame only. -/
theorem rewrite (h : Holds ring origin first next g) (hdvd : capacity ∣ 2 ^ 32)
    (hnext : next ≤ 2 ^ 32) {i : ℕ} (hf : first ≤ i) (hi : i < next) (hc : next ≤ i + capacity)
    (value : α) :
    Holds (ring.put (origin.plus i) value).2 origin first next (Function.update g i value) := by
  constructor
  · intro j hfj hj hcj
    rw [get_put]
    by_cases hji : j = i
    · subst hji
      simp
    · have hne : origin.plus j ≠ origin.plus i := fun he =>
        hji ((FrameNumber.plus_inj (by omega) (by omega)).1 he)
      have hslot : frameRingIndex (origin.plus j) capacity ≠
          frameRingIndex (origin.plus i) capacity := by
        rcases Nat.lt_or_gt_of_ne hji with hlt | hgt
        · exact index_ne hdvd origin hlt (by omega)
        · exact (index_ne hdvd origin hgt (by omega)).symm
      rw [if_neg hne, if_neg hslot, h.get_eq j hfj hj hcj, Function.update_of_ne hji]
  · intro f v hv
    rw [get_put] at hv
    split at hv
    · exact ⟨i, hf, hi, hc, by assumption⟩
    · split at hv
      · cases hv
      · exact h.get_ok f v hv

/-- Within the ring of frame numbers a count is held exactly when it is among the
last `capacity`. -/
theorem get_eq_ok_iff (h : Holds ring origin first next g) (hnext : next ≤ 2 ^ 32) {i : ℕ}
    (hi : i < 2 ^ 32) : (∃ v, ring.get (origin.plus i) = .ok v) ↔
      first ≤ i ∧ i < next ∧ next ≤ i + capacity := by
  constructor
  · rintro ⟨v, hv⟩
    obtain ⟨j, hf, hj, hc, he⟩ := h.get_ok _ v hv
    rw [(FrameNumber.plus_inj hi (by omega)).1 he]
    exact ⟨hf, hj, hc⟩
  · rintro ⟨hf, hi, hc⟩
    exact ⟨g i, h.get_eq i hf hi hc⟩

theorem contains_iff (h : Holds ring origin first next g) (hnext : next ≤ 2 ^ 32) {i : ℕ}
    (hi : i < 2 ^ 32) : ring.contains (origin.plus i) = true ↔
      first ≤ i ∧ i < next ∧ next ≤ i + capacity := by
  rw [FrameRing.contains_iff, h.get_eq_ok_iff hnext hi]

end Holds

/-- A ring that holds the counts `first, …, next - 1`, with the right values for the
counts below `reached` only. -/
def HoldsTo (ring : FrameRing α capacity) (origin : FrameNumber) (first next reached : ℕ)
    (g : ℕ → α) : Prop :=
  ∃ g', Holds ring origin first next g' ∧ ∀ i < reached, g' i = g i

namespace HoldsTo

variable {ring : FrameRing α capacity} {origin : FrameNumber} {first next reached : ℕ} {g g' : ℕ → α}

theorem full (h : HoldsTo ring origin first next next g) : Holds ring origin first next g := by
  obtain ⟨g', hg', he⟩ := h
  exact hg'.congr (fun i _ hi _ => he i hi)

theorem congr (h : HoldsTo ring origin first next reached g) {reached' : ℕ} (hle : reached' ≤ reached)
    (hg : ∀ i < reached', g i = g' i) : HoldsTo ring origin first next reached' g' := by
  obtain ⟨k, hk, he⟩ := h
  exact ⟨k, hk, fun i hi => (he i (lt_of_lt_of_le hi hle)).trans (hg i hi)⟩

/-- Rewriting the first count that is not right yet. -/
theorem rewrite (h : HoldsTo ring origin first next reached g) (hdvd : capacity ∣ 2 ^ 32)
    (hnext : next ≤ 2 ^ 32) (hf : first ≤ reached) (hi : reached < next)
    (hc : next ≤ reached + capacity) (value : α) (hg : ∀ i < reached, g i = g' i)
    (hvalue : g' reached = value) :
    HoldsTo (ring.put (origin.plus reached) value).2 origin first next (reached + 1) g' := by
  obtain ⟨k, hk, he⟩ := h
  refine ⟨_, hk.rewrite hdvd hnext hf hi hc value, fun i hi => ?_⟩
  rcases Nat.lt_succ_iff_lt_or_eq.1 hi with hlt | rfl
  · rw [Function.update_of_ne (by omega), he i hlt, hg i hlt]
  · rw [Function.update_self, hvalue]

end HoldsTo

theorem Holds.upTo {ring : FrameRing α capacity} {origin : FrameNumber} {first next : ℕ} {g : ℕ → α}
    (h : Holds ring origin first next g) (reached : ℕ) : HoldsTo ring origin first next reached g :=
  ⟨g, h, fun _ _ => rfl⟩

end FrameRing
end RollbackLab
