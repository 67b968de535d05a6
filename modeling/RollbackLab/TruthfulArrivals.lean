import RollbackLab.Speculation

/-!
# Arrivals that never change their value

When every arrival for a count brings the same value, a count below the watermark can
no longer be contradicted, so no operation lowers the watermark. An accepted count stays
in the table as long as no other accepted count shares its slot.
-/

namespace Speculation

variable {κ : Type} {first capacity : ℕ} {neutral : κ} {truth : ℕ → κ} {s : State κ}

structure Truthful (capacity : ℕ) (truth : ℕ → κ) (s : State κ) : Prop where
  accepted : ∀ i v, s.accepted i = some v → v = truth i
  retained : ∀ i v, s.accepted i = some v →
    (∀ j, (s.accepted j).isSome = true → j % capacity = i % capacity → j = i) → s.retained i = some v

namespace Truthful

theorem start : Truthful capacity truth (State.start first neutral) :=
  ⟨fun _ _ h => (by cases h), fun _ _ h => (by cases h)⟩

theorem confirm (h : Truthful capacity truth s) : Truthful capacity truth (confirm capacity s) :=
  ⟨h.accepted, h.retained⟩

theorem store (h : Truthful capacity truth s) (i : ℕ) :
    Truthful capacity truth (store capacity s i (truth i)) := by
  constructor
  · intro g v hv
    change Function.update s.accepted i (some (truth i)) g = some v at hv
    rcases eq_or_ne g i with rfl | hne
    · rw [Function.update_self] at hv
      exact (Option.some.inj hv).symm
    · rw [Function.update_of_ne hne] at hv
      exact h.accepted g v hv
  · intro g v hv halone
    change Function.update s.accepted i (some (truth i)) g = some v at hv
    change (if g = i then some (truth i) else if g % capacity = i % capacity then none
      else s.retained g) = some v
    have hnew : ((Speculation.store capacity s i (truth i)).accepted i).isSome = true := by
      change (Function.update s.accepted i (some (truth i)) i).isSome = true
      rw [Function.update_self]
      rfl
    rcases eq_or_ne g i with rfl | hne
    · rw [Function.update_self] at hv
      rw [if_pos rfl, hv]
    · rw [Function.update_of_ne hne] at hv
      rw [if_neg hne, if_neg fun hslot => hne (halone i hnew hslot.symm).symm]
      refine h.retained g v hv fun j hj hslot => halone j ?_ hslot
      change (Function.update s.accepted i (some (truth i)) j).isSome = true
      rcases eq_or_ne j i with rfl | hji
      · rw [Function.update_self]
        rfl
      · rwa [Function.update_of_ne hji]

theorem accept [DecidableEq κ] (h : Truthful capacity truth s) (i : ℕ) :
    Truthful capacity truth (accept first capacity s i (truth i)) := by
  have hstore := h.store i
  rw [Speculation.accept]
  split
  · exact ⟨hstore.accepted, hstore.retained⟩
  · exact ⟨hstore.accepted, hstore.retained⟩

theorem flush (h : Truthful capacity truth s) : Truthful capacity truth (flush capacity neutral s) := by
  rw [Speculation.flush]
  split
  · exact h.confirm
  · exact ⟨h.accepted, h.retained⟩

theorem advance (h : Truthful capacity truth s) :
    Truthful capacity truth (advance capacity neutral s) := ⟨h.accepted, h.retained⟩

/-- A truthful arrival never lowers the watermark. -/
theorem confirmed_le_accept [DecidableEq κ] (h : Truthful capacity truth s)
    (hs : Sound first capacity s) (i : ℕ) :
    s.confirmed ≤ (Speculation.accept first capacity s i (truth i)).confirmed := by
  rw [Speculation.accept]
  split
  next hcontradicts =>
    obtain ⟨hfirst, -, -, hne⟩ := hcontradicts
    have hle : s.confirmed ≤ i := by
      by_contra hlt
      exact hne (h.accepted i _ (hs.confirmed_accepted i hfirst (Nat.lt_of_not_le hlt)))
    have hmark : (mark (Speculation.store capacity s i (truth i)) i).confirmed = s.confirmed :=
      Nat.min_eq_left hle
    exact hmark.symm.le.trans (le_scan _ _ _)
  next => exact le_scan _ _ _

/-- With nothing pending, an arrival that has been before leaves nothing pending. -/
theorem dirty_accept [DecidableEq κ] (h : Truthful capacity truth s) (hs : Sound first capacity s)
    (he : Exact capacity s) {i : ℕ} (hnear : s.current < i + capacity) (hclean : s.dirty = none)
    (hagain : (s.accepted i).isSome = true) :
    (Speculation.accept first capacity s i (truth i)).dirty = none := by
  rw [Speculation.accept]
  split
  next hcontradicts =>
    obtain ⟨hfirst, hlt, hwide, hne⟩ := hcontradicts
    obtain ⟨v, hv⟩ := Option.isSome_iff_exists.1 hagain
    have hretained : s.retained i = some v := (he.recent i hnear).trans hv
    have hused := hs.used_retained i hfirst hlt hwide (fun j hj => by rw [hclean] at hj; cases hj) v
      hretained
    exact absurd (hused.trans (h.accepted i v hv)) hne
  next => exact hclean

end Truthful

/-- No correction lowers the watermark. -/
theorem confirmed_le_flush (s : State κ) : s.confirmed ≤ (flush capacity neutral s).confirmed := by
  rw [flush]
  split
  · exact le_scan _ _ _
  · exact le_scan _ _ _

theorem confirmed_le_advance (s : State κ) :
    s.confirmed ≤ (advance capacity neutral s).confirmed := le_scan _ _ _

end Speculation
