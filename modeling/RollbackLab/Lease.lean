import Mathlib.Logic.Basic

/-!
# Exclusive leases

Holders have taken resources, and every resource bears a mark while it is taken. The marks
are right, and no resource is taken twice, as long as a holder takes unmarked resources
only, marks them, and clears the marks of all that it holds when it goes.
-/

namespace Lease

variable {ρ η : Type*} {marked marked' : ρ → Prop} {held held' : η → ρ → Prop}

/-- The marks tell which resources are held, and no resource has two holders. -/
structure Exclusive (marked : ρ → Prop) (held : η → ρ → Prop) : Prop where
  marked_iff : ∀ r, marked r ↔ ∃ h, held h r
  unique : ∀ h h' r, held h r → held h' r → h = h'

namespace Exclusive

theorem start (hmarked : ∀ r, ¬marked r) (hheld : ∀ h r, ¬held h r) : Exclusive marked held := by
  refine ⟨fun r => ⟨fun hr => absurd hr (hmarked r), ?_⟩, fun h h' r hr => absurd hr (hheld h r)⟩
  rintro ⟨h, hr⟩
  exact absurd hr (hheld h r)

theorem congr (h : Exclusive marked held) (hmarked : ∀ r, marked' r ↔ marked r)
    (hheld : ∀ h r, held' h r ↔ held h r) : Exclusive marked' held' := by
  refine ⟨fun r => ?_, fun holder other r hr hr' => ?_⟩
  · rw [hmarked, h.marked_iff]
    exact exists_congr fun holder => (hheld holder r).symm
  · exact h.unique holder other r ((hheld holder r).1 hr) ((hheld other r).1 hr')

/-- A new holder takes resources that nobody has. -/
theorem take (h : Exclusive marked held) {holder : η} {taken : ρ → Prop}
    (hfree : ∀ r, taken r → ¬marked r) (hmarked : ∀ r, marked' r ↔ marked r ∨ taken r)
    (hheld : ∀ other r, held' other r ↔ held other r ∨ other = holder ∧ taken r) :
    Exclusive marked' held' := by
  have hfresh : ∀ other r, held other r → ¬taken r := fun other r hr htaken =>
    hfree r htaken ((h.marked_iff r).2 ⟨other, hr⟩)
  refine ⟨fun r => ?_, fun first second r hfirst hsecond => ?_⟩
  · rw [hmarked, h.marked_iff]
    constructor
    · rintro (⟨other, hother⟩ | htaken)
      · exact ⟨other, (hheld other r).2 (Or.inl hother)⟩
      · exact ⟨holder, (hheld holder r).2 (Or.inr ⟨rfl, htaken⟩)⟩
    · rintro ⟨other, hother⟩
      rcases (hheld other r).1 hother with hold | ⟨-, htaken⟩
      · exact Or.inl ⟨other, hold⟩
      · exact Or.inr htaken
  · rcases (hheld first r).1 hfirst with hfirst | ⟨rfl, htaken⟩
    · rcases (hheld second r).1 hsecond with hsecond | ⟨-, htaken⟩
      · exact h.unique first second r hfirst hsecond
      · exact absurd htaken (hfresh first r hfirst)
    · rcases (hheld second r).1 hsecond with hsecond | ⟨rfl, -⟩
      · exact absurd htaken (hfresh second r hsecond)
      · rfl

/-- A holder goes, and leaves what it held unmarked. -/
theorem leave (h : Exclusive marked held) (holder : η)
    (hmarked : ∀ r, marked' r ↔ marked r ∧ ¬held holder r)
    (hheld : ∀ other r, held' other r ↔ held other r ∧ other ≠ holder) : Exclusive marked' held' := by
  refine ⟨fun r => ?_, fun first second r hfirst hsecond => ?_⟩
  · rw [hmarked, h.marked_iff]
    constructor
    · rintro ⟨⟨other, hother⟩, hnot⟩
      refine ⟨other, (hheld other r).2 ⟨hother, ?_⟩⟩
      rintro rfl
      exact hnot hother
    · rintro ⟨other, hother⟩
      obtain ⟨hold, hne⟩ := (hheld other r).1 hother
      exact ⟨⟨other, hold⟩, fun hr => hne (h.unique other holder r hold hr)⟩
  · exact h.unique first second r ((hheld first r).1 hfirst).1 ((hheld second r).1 hsecond).1

end Exclusive

end Lease
