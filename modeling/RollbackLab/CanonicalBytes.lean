import RollbackLab.Simulation

/-!
# What the canonical bytes say

Two peers, a checkpoint and a replay compare worlds by their canonical bytes alone.
Every field takes its own fixed number of bytes, in use or not, and so the bytes
are the world over again.
-/

namespace RollbackLab

open LittleEndian

theorem PlayerId.byte_injective : Function.Injective PlayerId.byte := by
  intro id other h
  cases id <;> cases other <;> first | rfl | cases h

theorem activeByte_injective :
    Function.Injective fun active : Bool => if active then (1 : UInt8) else 0 := by
  intro active other h
  cases active <;> cases other <;> first | rfl | cases h

theorem serializePlayer_fixed : FixedRecord serializePlayer 25 := by
  refine ⟨fun player => by simp [serializePlayer, FixedWidth.size], ?_⟩
  intro player other h
  simp only [serializePlayer, List.append_assoc, (fixedRecord_encode _).append_inj,
    encode_injective.eq_iff, PlayerId.byte_injective.eq_iff] at h
  exact PlayerState.mk.injEq .. ▸ h

theorem serializeProjectile_fixed : FixedRecord serializeProjectile 24 := by
  refine ⟨fun projectile => by simp [serializeProjectile, FixedWidth.size], ?_⟩
  intro projectile other h
  simp only [serializeProjectile, List.append_assoc, (fixedRecord_encode _).append_inj,
    encode_injective.eq_iff, PlayerId.byte_injective.eq_iff,
    activeByte_injective.eq_iff] at h
  exact ProjectileState.mk.injEq .. ▸ h

theorem serializeCanonical_length (state : WorldState) : (serializeCanonical state).length = 1598 := by
  have hslots : state.projectiles.toList.length = 64 := Vector.length_toList
  simp [serializeCanonical, FixedWidth.size, serializePlayer_fixed.length_flatMap,
    serializeProjectile_fixed.length_flatMap, hslots]

theorem serializeCanonical_injective : Function.Injective serializeCanonical := by
  intro state other h
  have hplayers : state.players.toList.length = other.players.toList.length := by simp
  have hslots : state.projectiles.toList.length = other.projectiles.toList.length := by simp
  simp only [serializeCanonical, List.append_assoc, (fixedRecord_encode _).append_inj,
    serializePlayer_fixed.flatMap_append_inj hplayers,
    serializeProjectile_fixed.flatMap_inj hslots, Vector.toList_inj] at h
  obtain ⟨-, hframe, hplayer, hnext, hprojectile⟩ := h
  rw [WorldState.mk.injEq, FrameNumber.mk.injEq]
  exact ⟨hframe, hplayer, hprojectile, hnext⟩

/-- The canonical bytes of two worlds are the same exactly when the worlds are, slot by
slot, and there are always equally many. -/
theorem canonical_bytes_determine :
    (∀ state other : WorldState, serializeCanonical state = serializeCanonical other ↔ state = other) ∧
      ∀ state other : WorldState,
        (serializeCanonical state).length = (serializeCanonical other).length := by
  refine ⟨fun state other => serializeCanonical_injective.eq_iff, fun state other => ?_⟩
  rw [serializeCanonical_length, serializeCanonical_length]

end RollbackLab
