import RollbackLab.BattleLog
import Mathlib.Data.Fintype.Card
import Mathlib.Order.Interval.Finset.Nat

/-!
# How fast players can fire

A cooldown of fifteen ticks separates two shots of a player, unless it is defeated in
between. A defeat takes four hits, and every hit uses up a projectile. So few enough
projectiles are fired while one flies that a free slot is always left.
-/

namespace RollbackLab

namespace BattleEvent

def isFired : BattleEvent → Bool
  | .fired _ _ => true
  | _ => false

def isHit : BattleEvent → Bool
  | .hit _ _ => true
  | _ => false

def isScored : BattleEvent → Bool
  | .scored _ => true
  | _ => false

end BattleEvent

open BattleEvent

/-! ## Measures of a world -/

/-- The sum of a measure of players over both. -/
def total (f : PlayerState → ℤ) (world : WorldState) : ℤ :=
  f (world.playerAt (playerIndex .a)) + f (world.playerAt (playerIndex .b))

theorem total_setPlayer (f : PlayerState → ℤ) (world : WorldState) (index : Fin 2)
    (player : PlayerState) :
    total f (world.setPlayer index player) =
      total f world + f player - f (getElem world.players index index.2) := by
  have hplayer : ∀ other, f ((world.setPlayer index player).playerAt other) =
      if index = other then f player else f (world.playerAt other) := by
    intro other
    change f (getElem _ other other.2) = if index = other then _ else f (getElem _ other other.2)
    rw [WorldState.setPlayer_players]
    split
    · rfl
    · rfl
  change _ = _ - f (world.playerAt index)
  rw [total, total, hplayer, hplayer]
  revert index
  rw [Fin.forall_fin_two]
  constructor
  · intro _
    rw [if_pos (by rfl), if_neg (by decide)]
    change _ = f (world.playerAt 0) + _ + _ - _
    omega
  · intro _
    rw [if_neg (by decide), if_pos (by rfl)]
    change _ = _ + f (world.playerAt 1) + _ - _
    omega

def cooldown (player : PlayerState) : ℤ := player.attackCooldown.toNat

def wounds (player : PlayerState) : ℤ := 100 - player.hp.toInt

def activeSlots (world : WorldState) : Finset (Fin kMaxProjectiles) :=
  Finset.univ.filter fun slot => (getElem world.projectiles slot slot.2).active = true

theorem mem_activeSlots {world : WorldState} {slot : Fin kMaxProjectiles} :
    slot ∈ activeSlots world ↔ (getElem world.projectiles slot slot.2).active = true := by
  rw [activeSlots, Finset.mem_filter]
  exact and_iff_right (Finset.mem_univ slot)

theorem activeSlots_setProjectile (world : WorldState) (slot : Fin kMaxProjectiles)
    (projectile : ProjectileState) :
    activeSlots (world.setProjectile slot projectile) =
      if projectile.active then insert slot (activeSlots world)
      else (activeSlots world).erase slot := by
  ext other
  rw [mem_activeSlots, WorldState.setProjectile_projectiles]
  by_cases he : slot = other
  · subst he
    rw [if_pos rfl]
    split
    · rename_i hactive
      simp [hactive]
    · rename_i hactive
      simp [hactive]
  · rw [if_neg he]
    split
    · rw [Finset.mem_insert, mem_activeSlots, or_iff_right (Ne.symm he)]
    · rw [Finset.mem_erase, mem_activeSlots, and_iff_right (Ne.symm he)]

theorem freeSlot_some {world : WorldState} {slot : Fin kMaxProjectiles}
    (h : freeSlot world = some slot) : slot ∉ activeSlots world := by
  rw [freeSlot, Vector.findFinIdx?, Option.map_eq_some_iff] at h
  obtain ⟨found, hfound, rfl⟩ := h
  rw [Array.findFinIdx?_eq_some_iff] at hfound
  rw [mem_activeSlots]
  simpa using hfound.1

/-- With a slot to spare there is a free one. -/
theorem exists_freeSlot {world : WorldState} (h : (activeSlots world).card < kMaxProjectiles) :
    ∃ slot, freeSlot world = some slot := by
  cases hfree : freeSlot world with
  | some slot => exact ⟨slot, rfl⟩
  | none =>
    rw [freeSlot, Vector.findFinIdx?_eq_none_iff] at hfree
    have hfull : activeSlots world = Finset.univ := by
      ext slot
      rw [mem_activeSlots, iff_true_right (Finset.mem_univ slot)]
      simpa using hfree _ (Vector.getElem_mem slot.2)
    rw [hfull, Finset.card_univ, Fintype.card_fin] at h
    omega

theorem WorldState.setPlayer_setPlayer (world : WorldState) (index : Fin 2)
    (first second : PlayerState) :
    (world.setPlayer index first).setPlayer index second = world.setPlayer index second := by
  simp [WorldState.setPlayer]

theorem WorldState.setPlayer_comm (world : WorldState) {index other : Fin 2} (hne : index ≠ other)
    (first second : PlayerState) :
    (world.setPlayer other second).setPlayer index first =
      (world.setPlayer index first).setPlayer other second := by
  have hval : index.val ≠ other.val := fun he => hne (Fin.ext he)
  simp only [WorldState.setPlayer]
  rw [Vector.set_comm _ _ hval]

/-- A hit that does not kill wounds the target, and one that does makes it respawn. -/
theorem hitPlayer_cases (variant : SimulationVariant) (world : WorldState) {owner target : Fin 2}
    (hne : owner ≠ target) :
    let struck := damagePlayer variant (getElem world.players target target.2)
    ¬ struck.hp ≤ 0 ∧ hitPlayer variant world owner target = world.setPlayer target struck ∨
      struck.hp ≤ 0 ∧ hitPlayer variant world owner target =
        (world.setPlayer owner (scorePoint (getElem world.players owner owner.2))).setPlayer target
          (respawn struck) := by
  have hself := world.setPlayer_self target
    (damagePlayer variant (getElem world.players target target.2))
  simp only [hitPlayer]
  rw [hself]
  split
  · rename_i hdefeated
    refine Or.inr ⟨hdefeated, ?_⟩
    rw [WorldState.setPlayer_players, if_neg (Ne.symm hne), WorldState.setPlayer_players,
      if_neg hne, hself]
    rw [WorldState.setPlayer_comm _ hne, WorldState.setPlayer_setPlayer]
  · rename_i halive
    exact Or.inl ⟨halive, rfl⟩

/-- A hit changes players only. -/
theorem hitPlayer_rest (variant : SimulationVariant) (world : WorldState) (owner target : Fin 2) :
    (hitPlayer variant world owner target).projectiles = world.projectiles ∧
      (hitPlayer variant world owner target).nextProjectileId = world.nextProjectileId := by
  simp only [hitPlayer]
  split
  · exact ⟨rfl, rfl⟩
  · exact ⟨rfl, rfl⟩

theorem countP_hitEvents (variant : SimulationVariant) (target : PlayerState)
    (projectile : ProjectileState) :
    (hitEvents variant target projectile).countP isFired = 0 ∧
      (hitEvents variant target projectile).countP isHit = 1 ∧
      (hitEvents variant target projectile).countP isScored =
        if (damagePlayer variant target).hp ≤ 0 then 1 else 0 := by
  rw [hitEvents]
  split
  · exact ⟨rfl, rfl, rfl⟩
  · exact ⟨rfl, rfl, rfl⟩

/-- A hit takes 25 hit points, or 26 under the damage bias. -/
theorem LegalPlayer.damage {player : PlayerState} (h : LegalPlayer player)
    (variant : SimulationVariant) :
    (damagePlayer variant player).hp.toInt =
      player.hp.toInt - (projectileDamage variant).toInt ∧
    25 ≤ (projectileDamage variant).toInt ∧ (projectileDamage variant).toInt ≤ 26 := by
  have hdamage : 25 ≤ (projectileDamage variant).toInt ∧ (projectileDamage variant).toInt ≤ 26 := by
    rw [projectileDamage]
    split
    · decide
    · decide
  refine ⟨?_, hdamage⟩
  obtain ⟨hlow, hhigh⟩ := h.hp_mem
  simp only [Int16.le_iff_toInt_le, kStartingHp] at hlow hhigh
  rw [damagePlayer, Int16.toInt_sub, Int.bmod_eq_of_le]
  · simp at hlow hhigh ⊢
    omega
  · simp at hlow hhigh ⊢
    omega

/-! ## Pace -/

/-- From a start on, shots are limited by ticks and defeats, hits by shots, and defeats by
hits. `ticks` counts those of both players. -/
structure Pace (start : WorldState) (ticks : ℕ) (log : List BattleEvent) (world : WorldState) :
    Prop where
  shots : 15 * (log.countP isFired : ℤ) + total cooldown start ≤
    ticks + total cooldown world + 15 * log.countP isScored
  flying : (activeSlots world).card + log.countP isHit ≤
    (activeSlots start).card + log.countP isFired
  harm : total wounds world + 100 * (log.countP isScored : ℤ) ≤
    total wounds start + 26 * log.countP isHit
  ids : world.nextProjectileId.toNat = start.nextProjectileId.toNat + log.countP isFired

namespace Pace

variable {start world after : WorldState} {ticks : ℕ} {log : List BattleEvent}

theorem refl (start : WorldState) : Pace start 0 [] start := by
  constructor
  · simp
  · simp
  · simp
  · simp

theorem movePlayer (h : Pace start ticks log world) {inputs : InputPair} {index : Fin 2}
    (hmove : movePlayer inputs world index = .ok after) : Pace start (ticks + 1) log after := by
  obtain ⟨player, rfl, -, hhp, -, hcooldown⟩ := movePlayer_cases hmove
  refine ⟨?_, h.flying, ?_, h.ids⟩
  · have hshots := h.shots
    rw [total_setPlayer]
    simp only [cooldown, hcooldown, Nat.cast_add, Nat.cast_one] at hshots ⊢
    omega
  · have hharm := h.harm
    rw [total_setPlayer]
    simp only [wounds, hhp] at hharm ⊢
    omega

theorem movePlayers (h : Pace start ticks log world) {inputs : InputPair}
    (hmove : movePlayers inputs world = .ok after) : Pace start (ticks + 2) log after := by
  obtain ⟨first, hfirst, hrest⟩ := foldlM_cons_ok.1 hmove
  obtain ⟨second, hsecond, hend⟩ := foldlM_cons_ok.1 hrest
  cases hend
  exact (h.movePlayer hfirst).movePlayer hsecond

theorem attackPlayer (h : Pace start ticks log world) {inputs : InputPair} {index : Fin 2}
    (hattack : attackPlayer inputs world index = .ok after) :
    Pace start ticks (log ++ attackEvents inputs world index) after := by
  rcases attackPlayer_cases hattack with ⟨hevents, rfl⟩ |
    ⟨slot, hfree, hids, hready, hevents, rfl⟩
  · rw [hevents, List.append_nil]
    exact h
  · rw [hevents]
    have htotal : ∀ f, total f (fireInto world index slot) = total f world +
        f { getElem world.players index index.2 with attackCooldown := kAttackCooldownTicks } -
          f (getElem world.players index index.2) :=
      fun f => total_setPlayer f { world.setProjectile slot (firedProjectile
        (getElem world.players index index.2) world.nextProjectileId) with
          nextProjectileId := world.nextProjectileId + 1 } index _
    have hslots : activeSlots (fireInto world index slot) = insert slot (activeSlots world) :=
      (activeSlots_setProjectile world slot _).trans (if_pos rfl)
    have hnext : (world.nextProjectileId + 1).toNat = world.nextProjectileId.toNat + 1 := by
      have hlt : world.nextProjectileId.toNat ≠ 0xFFFFFFFF := fun he =>
        hids (UInt32.toNat_inj.1 he)
      have := world.nextProjectileId.toNat_lt
      rw [UInt32.toNat_add, show (1 : UInt32).toNat = 1 from rfl]
      omega
    have hcooldown : cooldown { getElem world.players index index.2 with
        attackCooldown := kAttackCooldownTicks } = 15 := rfl
    have hzero : cooldown (getElem world.players index index.2) = 0 := by
      rw [cooldown, hready]
      rfl
    obtain ⟨hshots, hflying, hharm, hstart⟩ := h
    constructor
    · rw [htotal, hcooldown, hzero]
      simp only [List.countP_append, List.countP_cons, List.countP_nil, isFired, isScored]
      push_cast
      omega
    · rw [hslots, Finset.card_insert_of_notMem (freeSlot_some hfree)]
      simp only [List.countP_append, List.countP_cons, List.countP_nil, isFired, isHit]
      simp only [if_true, if_false, Bool.false_eq_true]
      omega
    · rw [htotal]
      simp only [List.countP_append, List.countP_cons, List.countP_nil, isHit, isScored]
      simp only [wounds, if_false, Bool.false_eq_true] at hharm ⊢
      push_cast
      omega
    · rw [List.countP_append, List.countP_singleton, isFired, if_pos rfl, ← Nat.add_assoc, ← hstart]
      exact hnext

/-- A projectile that hits leaves its slot, and a defeat takes at least as many wounds as
four hits but one tick. -/
theorem hit (h : Pace start ticks log world) {variant : SimulationVariant} {owner target : Fin 2}
    (hne : owner ≠ target) (hlegal : LegalPlayer (getElem world.players target target.2))
    {slot : Fin kMaxProjectiles} {projectile : ProjectileState} (hslot : slot ∈ activeSlots world)
    (hspent : projectile.active = false) :
    Pace start ticks
      (log ++ hitEvents variant (getElem world.players target target.2) projectile)
      (hitPlayer variant (world.setProjectile slot projectile) owner target) := by
  obtain ⟨hstruck, hlow, hhigh⟩ := hlegal.damage variant
  have hready : (getElem world.players target target.2).attackCooldown.toNat ≤ 15 :=
    UInt16.le_iff_toNat_le.1 hlegal.cooldown
  have hslots : (activeSlots (world.setProjectile slot projectile)).card + 1 =
      (activeSlots world).card := by
    rw [activeSlots_setProjectile, if_neg (by simp [hspent])]
    exact Finset.card_erase_add_one hslot
  have hplayers : (world.setProjectile slot projectile).players = world.players := rfl
  have hcases := hitPlayer_cases variant (world.setProjectile slot projectile) hne
  simp only [hplayers] at hcases
  obtain ⟨hprojectiles, hnext⟩ :=
    hitPlayer_rest variant (world.setProjectile slot projectile) owner target
  obtain ⟨hfired, hhit, hscored⟩ :=
    countP_hitEvents variant (getElem world.players target target.2) projectile
  obtain ⟨hshots, hflying, hharm, hids⟩ := h
  refine ⟨?_, ?_, ?_, ?_⟩
  · rw [List.countP_append, List.countP_append, hfired, hscored]
    rcases hcases with ⟨halive, hafter⟩ | ⟨hdefeated, hafter⟩
    · rw [hafter, total_setPlayer, if_neg halive]
      simp only [hplayers]
      change _ ≤ (ticks : ℤ) + (total cooldown world + _ - _) + _
      simp only [cooldown, damagePlayer, Nat.add_zero] at hshots ⊢
      omega
    · rw [hafter, total_setPlayer, total_setPlayer, WorldState.setPlayer_players, if_neg hne,
        if_pos hdefeated]
      simp only [hplayers]
      change _ ≤ (ticks : ℤ) + (total cooldown world + _ - _ + _ - _) + _
      simp only [cooldown, scorePoint, respawn, Nat.add_zero, UInt16.toNat_zero] at hshots ⊢
      push_cast
      omega
  · rw [List.countP_append, List.countP_append, hfired, hhit]
    have hsame : activeSlots (hitPlayer variant (world.setProjectile slot projectile) owner target) =
        activeSlots (world.setProjectile slot projectile) := by
      rw [activeSlots, activeSlots, hprojectiles]
    rw [hsame]
    omega
  · rw [List.countP_append, List.countP_append, hhit, hscored]
    rcases hcases with ⟨halive, hafter⟩ | ⟨hdefeated, hafter⟩
    · rw [hafter, total_setPlayer, if_neg halive]
      simp only [hplayers]
      change total wounds world + _ - _ + _ ≤ _
      simp only [wounds, hstruck] at hharm ⊢
      push_cast
      omega
    · have hzero := Int16.le_iff_toInt_le.1 hdefeated
      rw [hstruck] at hzero
      rw [hafter, total_setPlayer, total_setPlayer, WorldState.setPlayer_players, if_neg hne,
        if_pos hdefeated]
      simp only [hplayers]
      change total wounds world + _ - _ + _ - _ + _ ≤ _
      have hfull : (respawn (damagePlayer variant
          (getElem world.players target target.2))).hp.toInt = 100 := rfl
      simp only [wounds, hfull, scorePoint, Int16.toInt_zero] at hharm hzero ⊢
      push_cast
      omega
  · rw [List.countP_append, hfired, hnext, Nat.add_zero]
    exact hids

theorem stepProjectile (h : Pace start ticks log world) {variant : SimulationVariant}
    {life : Fin kMaxProjectiles → ℕ} (hlegal : LegalWorld life world) {slot : Fin kMaxProjectiles}
    (hstep : stepProjectile variant world slot = .ok after) :
    Pace start ticks (log ++ projectileEvents variant world slot) after := by
  rcases stepProjectile_cases hstep with ⟨-, hevents, rfl⟩ |
    ⟨hactive, moved, hmove, ⟨hevents, rfl⟩ | ⟨hmoved, hevents, rfl⟩⟩
  · rw [hevents, List.append_nil]
    exact h
  · rw [hevents, List.append_nil]
    refine ⟨h.shots, le_trans ?_ h.flying, h.harm, h.ids⟩
    have hslot := mem_activeSlots.2 hactive
    rw [activeSlots_setProjectile]
    split
    · rw [Finset.insert_eq_of_mem hslot]
    · exact Nat.add_le_add_right (Finset.card_le_card (Finset.erase_subset _ _)) _
  · rw [hevents]
    have hne : playerIndex moved.owner ≠ playerIndex (opponent moved.owner) := by
      cases moved.owner
      · decide
      · decide
    have hspent : ({ moved with active := false } : ProjectileState).active = false := rfl
    exact h.hit hne (hlegal.player _) (mem_activeSlots.2 hactive) hspent

end Pace

/-! ## Age -/

theorem moveProjectile_fields {projectile moved : ProjectileState}
    (h : moveProjectile projectile = .ok moved) :
    moved.stableId = projectile.stableId ∧ moved.owner = projectile.owner ∧
      moved.ttl.toNat = projectile.ttl.toNat - 1 ∧
      (moved.active = true → projectile.active = true) := by
  simp only [moveProjectile] at h
  split at h
  · cases h
    refine ⟨rfl, rfl, ?_, ?_⟩
    · simp only []
      split
      · rename_i hpos
        exact UInt16.toNat_sub_of_le _ _ (UInt16.lt_iff_toNat_lt.1 hpos)
      · rename_i hzero
        have hvalue := mt UInt16.lt_iff_toNat_lt.2 hzero
        simp only [UInt16.toNat_zero, Nat.not_lt, Nat.le_zero] at hvalue
        rw [hvalue]
    · intro hactive
      simp only [Bool.if_false_left, Bool.and_eq_true] at hactive
      exact hactive.2
  · cases h

/-- The projectiles with an id below the mark have lost as many ticks as their slot has
aged. -/
def Aged (mark : UInt32) (age : Fin kMaxProjectiles → ℕ) (world : WorldState) : Prop :=
  ∀ slot : Fin kMaxProjectiles, (getElem world.projectiles slot slot.2).active = true →
    (getElem world.projectiles slot slot.2).stableId < mark →
      (getElem world.projectiles slot slot.2).ttl.toNat + age slot ≤ 119

namespace Aged

variable {mark : UInt32} {age : Fin kMaxProjectiles → ℕ} {world after : WorldState}

theorem withProjectiles (h : Aged mark age world)
    (hprojectiles : after.projectiles = world.projectiles) : Aged mark age after := by
  rw [Aged, hprojectiles]
  exact h

theorem movePlayers (h : Aged mark age world) {inputs : InputPair}
    (hmove : movePlayers inputs world = .ok after) : Aged mark age after := by
  obtain ⟨first, hfirst, hrest⟩ := foldlM_cons_ok.1 hmove
  obtain ⟨second, hsecond, hend⟩ := foldlM_cons_ok.1 hrest
  cases hend
  obtain ⟨player, rfl, -⟩ := movePlayer_cases hfirst
  obtain ⟨player', rfl, -⟩ := movePlayer_cases hsecond
  exact h

/-- A new projectile has an id from the mark on. -/
theorem attackPlayer (h : Aged mark age world) (hmark : mark ≤ world.nextProjectileId)
    {inputs : InputPair} {index : Fin 2} (hattack : attackPlayer inputs world index = .ok after) :
    Aged mark age after := by
  rcases attackPlayer_cases hattack with ⟨-, rfl⟩ | ⟨slot, -, -, -, -, rfl⟩
  · exact h
  · intro other
    change (getElem (world.setProjectile slot _).projectiles other other.2).active = true →
      (getElem (world.setProjectile slot _).projectiles other other.2).stableId < mark →
        (getElem (world.setProjectile slot _).projectiles other other.2).ttl.toNat + age other ≤ 119
    rw [WorldState.setProjectile_projectiles]
    split
    · intro hactive hid
      exact absurd hid (UInt32.not_lt.2 hmark)
    · exact h other

theorem setProjectile (h : Aged mark age world) {slot : Fin kMaxProjectiles}
    {projectile : ProjectileState} {ticks : ℕ}
    (hp : projectile.active = true → projectile.stableId < mark →
      projectile.ttl.toNat + ticks ≤ 119) :
    Aged mark (Function.update age slot ticks) (world.setProjectile slot projectile) := by
  intro other
  rw [WorldState.setProjectile_projectiles]
  by_cases he : slot = other
  · subst he
    rw [if_pos rfl, Function.update_self]
    exact hp
  · rw [if_neg he, Function.update_of_ne (Ne.symm he)]
    exact h other

theorem stepProjectile (h : Aged mark age world) {variant : SimulationVariant}
    {life : Fin kMaxProjectiles → ℕ} (hlegal : LegalWorld life world) {slot : Fin kMaxProjectiles}
    (hstep : stepProjectile variant world slot = .ok after) :
    Aged mark (Function.update age slot (age slot + 1)) after := by
  rcases stepProjectile_cases hstep with ⟨hactive, -, rfl⟩ |
    ⟨hactive, moved, hmove, ⟨-, rfl⟩ | ⟨-, -, rfl⟩⟩
  · intro other hother
    have hne : other ≠ slot := fun he => by
      rw [he, hactive] at hother
      cases hother
    rw [Function.update_of_ne hne]
    exact h other hother
  · obtain ⟨hid, -, httl, -⟩ := moveProjectile_fields hmove
    have hpos := (hlegal.projectile slot hactive).ttl_mem.1
    apply h.setProjectile
    intro _ hmark
    rw [hid] at hmark
    have := h slot hactive hmark
    omega
  · have hspent : Aged mark (Function.update age slot (age slot + 1))
        (world.setProjectile slot { moved with active := false }) :=
      h.setProjectile fun hactive => by cases hactive
    exact hspent.withProjectiles (hitPlayer_rest _ _ _ _).1

end Aged

/-! ## Windows of a run -/

/-- Within a frame: the projectiles in the slots of `rest` are still to be moved. -/
structure Midway (start : WorldState) (frames ticks : ℕ) (rest : List (Fin kMaxProjectiles))
    (log : List BattleEvent) (world : WorldState) : Prop where
  nodup : rest.Nodup
  legal : LegalWorld (fun slot => if slot ∈ rest then 120 else 119) world
  pace : Pace start ticks log world
  aged : Aged start.nextProjectileId (fun slot => if slot ∈ rest then frames else frames + 1) world

theorem Midway.stepProjectile {start world after : WorldState} {frames ticks : ℕ}
    {slot : Fin kMaxProjectiles} {rest : List (Fin kMaxProjectiles)} {log : List BattleEvent}
    {variant : SimulationVariant} (h : Midway start frames ticks (slot :: rest) log world)
    (hstep : stepProjectile variant world slot = .ok after) :
    Midway start frames ticks rest (log ++ projectileEvents variant world slot) after := by
  obtain ⟨hnodup, hlegal, hpace, haged⟩ := h
  obtain ⟨hslot, hrest⟩ := List.nodup_cons.1 hnodup
  obtain ⟨after', hafter', hlegal', -⟩ := hlegal.stepProjectile_first variant hslot
  rw [hstep] at hafter'
  cases hafter'
  have hage : Function.update (fun other => if other ∈ slot :: rest then frames else frames + 1)
      slot (frames + 1) = fun other => if other ∈ rest then frames else frames + 1 := by
    funext other
    by_cases he : other = slot
    · simp [he, hslot]
    · simp [he]
  have hstepped := haged.stepProjectile hlegal hstep
  simp only [List.mem_cons_self, if_true] at hstepped
  rw [hage] at hstepped
  exact ⟨hrest, hlegal', hpace.stepProjectile hlegal hstep, hstepped⟩

/-- What is known of a world some frames after a start. -/
structure Window (start : WorldState) (frames : ℕ) (log : List BattleEvent) (world : WorldState) :
    Prop where
  legal : LegalWorld (fun _ => 119) world
  pace : Pace start (2 * frames) log world
  aged : Aged start.nextProjectileId (fun _ => frames) world

namespace Window

variable {start world after : WorldState} {frames : ℕ} {log : List BattleEvent}

theorem refl {start : WorldState} (hlegal : LegalWorld (fun _ => 119) start) :
    Window start 0 [] start :=
  ⟨hlegal, .refl start, fun slot hactive _ => (hlegal.projectile slot hactive).ttl_mem.2⟩

theorem attackPlayers {ticks : ℕ} {inputs : InputPair} (hpace : Pace start ticks log world)
    (haged : Aged start.nextProjectileId (fun _ => frames) world)
    (hattack : attackPlayers inputs world = .ok after) :
    Pace start ticks
        (log ++ observeFold (attackPlayer inputs) (attackEvents inputs) world turns) after ∧
      Aged start.nextProjectileId (fun _ => frames) after := by
  apply observeFold_invariant (P := fun log world => Pace start ticks log world ∧
    Aged start.nextProjectileId (fun _ => frames) world) _ ⟨hpace, haged⟩ hattack
  rintro index log world next ⟨hpace, haged⟩ hattack
  refine ⟨hpace.attackPlayer hattack, haged.attackPlayer ?_ hattack⟩
  rw [UInt32.le_iff_toNat_le, hpace.ids]
  exact Nat.le_add_right _ _

/-- Moving all projectiles, those still to come being one tick younger. -/
theorem stepProjectiles {ticks : ℕ} {variant : SimulationVariant}
    (hlegal : LegalWorld (fun _ => 120) world) (hpace : Pace start ticks log world)
    (haged : Aged start.nextProjectileId (fun _ => frames) world)
    (hstep : stepProjectiles variant world = .ok after) :
    LegalWorld (fun _ => 119) after ∧
      Pace start ticks
        (log ++ observeFold (stepProjectile variant) (projectileEvents variant) world
          (projectileOrder world)) after ∧
      Aged start.nextProjectileId (fun _ => frames + 1) after := by
  have hfirst : Midway start frames ticks (projectileOrder world) log world := by
    refine ⟨LegalWorld.projectileOrder_nodup world,
      ⟨hlegal.ids, hlegal.player, fun slot hs => ?_, hlegal.distinct, hlegal.next_pos⟩, hpace,
      fun slot hs => ?_⟩
    · rw [if_pos ((LegalWorld.mem_projectileOrder world slot).2 hs)]
      exact hlegal.projectile slot hs
    · simp only [if_pos ((LegalWorld.mem_projectileOrder world slot).2 hs)]
      exact haged slot hs
  have hlast := observeFold_induction (fun slot rest log world next h hnext =>
    h.stepProjectile hnext) hfirst hstep
  obtain ⟨-, hlegal, hpace, haged⟩ := hlast
  simp only [List.not_mem_nil, if_false] at hlegal haged
  exact ⟨hlegal, hpace, haged⟩

theorem simulateFrame (h : Window start frames log world) {frame : FrameNumber}
    {inputs : InputPair} {variant : SimulationVariant}
    (hstep : simulateFrame world frame inputs variant = .ok after) :
    Window start (frames + 1) (log ++ frameEvents variant world inputs) after := by
  obtain ⟨-, moved, hmoved, fired, hfired, stepped, hstepped, rfl⟩ := simulateFrame_ok_iff.1 hstep
  obtain ⟨moved', hmoved', hlegal, -⟩ := h.legal.movePlayers inputs
  rw [hmoved] at hmoved'
  cases hmoved'
  have hready : LegalWorld (fun _ => 120) moved := hlegal.mono fun _ => by norm_num
  obtain ⟨hpace, haged⟩ := attackPlayers (h.pace.movePlayers hmoved) (h.aged.movePlayers hmoved) hfired
  rcases hready.attackPlayers (fun _ => le_rfl) inputs with ⟨fired', hfired', hlegal', -⟩ | ⟨hfail, -⟩
  · rw [hfired] at hfired'
    cases hfired'
    obtain ⟨hlast, hpace, haged⟩ := stepProjectiles hlegal' hpace haged hstepped
    rw [frameEvents_eq hmoved hfired, ← List.append_assoc]
    exact ⟨hlast.withFrame _, ⟨hpace.shots, hpace.flying, hpace.harm, hpace.ids⟩, haged⟩
  · rw [hfired] at hfail
    cases hfail

theorem simulateAll (h : Window start frames log world) {variant : SimulationVariant}
    {pairs : List InputPair} (hrun : simulateAll variant world pairs = .ok after) :
    Window start (frames + pairs.length) (log ++ battleLog variant world pairs) after := by
  induction pairs generalizing frames log world with
  | nil =>
    cases hrun
    rw [battleLog, observeFold, List.append_nil]
    exact h
  | cons pair pairs ih =>
    obtain ⟨next, hnext, hrest⟩ := foldlM_cons_ok.1 hrun
    rw [battleLog, observeFold_cons pairs hnext, ← List.append_assoc, List.length_cons,
      Nat.add_comm pairs.length, ← Nat.add_assoc]
    exact ih (h.simulateFrame hnext) hrest

/-- After as many frames as a projectile lives, all that fly were fired since the start. -/
theorem activeSlots_le (h : Window start frames log world)
    (hmark : frames = 119 ∨ start.nextProjectileId = 1) :
    (activeSlots world).card ≤ log.countP isFired := by
  have hids : ∀ slot ∈ activeSlots world,
      (getElem world.projectiles slot slot.2).stableId.toNat ∈
        Finset.Ico start.nextProjectileId.toNat world.nextProjectileId.toNat := by
    intro slot hslot
    have hactive := mem_activeSlots.1 hslot
    have hlegal := h.legal.projectile slot hactive
    rw [Finset.mem_Ico]
    refine ⟨?_, UInt32.lt_iff_toNat_lt.1 hlegal.id_mem.2⟩
    by_contra hbelow
    rw [not_le, ← UInt32.lt_iff_toNat_lt] at hbelow
    rcases hmark with hframes | hfirst
    · have hage : _ + frames ≤ 119 := h.aged slot hactive hbelow
      have hpos := hlegal.ttl_mem.1
      omega
    · rw [hfirst] at hbelow
      exact UInt32.not_lt.2 hlegal.id_mem.1 hbelow
  have hcard := Finset.card_le_card_of_injOn _ hids fun slot hslot slot' hslot' he =>
    h.legal.distinct slot slot' (mem_activeSlots.1 hslot) (mem_activeSlots.1 hslot')
      (UInt32.toNat_inj.1 he)
  rw [Nat.card_Ico, h.pace.ids] at hcard
  omega

end Window

theorem LegalWorld.measures {life : Fin kMaxProjectiles → ℕ} {world : WorldState}
    (h : LegalWorld life world) :
    0 ≤ total cooldown world ∧ total cooldown world ≤ 30 ∧
      0 ≤ total wounds world ∧ total wounds world ≤ 198 := by
  have hplayer : ∀ index : Fin 2, 0 ≤ cooldown (world.playerAt index) ∧
      cooldown (world.playerAt index) ≤ 15 ∧
      0 ≤ wounds (world.playerAt index) ∧ wounds (world.playerAt index) ≤ 99 := by
    intro index
    change 0 ≤ cooldown (getElem world.players index index.2) ∧
      cooldown (getElem world.players index index.2) ≤ 15 ∧
      0 ≤ wounds (getElem world.players index index.2) ∧
      wounds (getElem world.players index index.2) ≤ 99
    have hready := UInt16.le_iff_toNat_le.1 (h.player index).cooldown
    obtain ⟨hlow, hhigh⟩ := (h.player index).hp_mem
    rw [Int16.le_iff_toInt_le] at hlow hhigh
    change 1 ≤ (getElem world.players index index.2).hp.toInt at hlow
    change (getElem world.players index index.2).hp.toInt ≤ 100 at hhigh
    change (getElem world.players index index.2).attackCooldown.toNat ≤ 15 at hready
    rw [cooldown, wounds]
    omega
  have hfirst := hplayer (playerIndex .a)
  have hsecond := hplayer (playerIndex .b)
  rw [total, total]
  omega

/-- No more than 62 projectiles fly between two frames. -/
theorem activeSlots_bound (variant : SimulationVariant) (frames : ℕ) {pairs : List InputPair}
    (hlength : pairs.length = frames) {world : WorldState}
    (hrun : simulateAll variant makeInitialWorld pairs = .ok world) :
    (activeSlots world).card ≤ 62 := by
  induction frames using Nat.strong_induction_on generalizing pairs world with
  | h frames ih =>
    rw [← List.take_append_drop (frames - 119) pairs] at hrun
    obtain ⟨start, hstart, hwindow⟩ := foldlM_append_ok.1 hrun
    have hlegal := ((Window.refl LegalWorld.makeInitialWorld).simulateAll hstart).legal
    have hlast := (Window.refl hlegal).simulateAll hwindow
    have hdrop : (pairs.drop (frames - 119)).length = frames - (frames - 119) := by
      rw [List.length_drop, hlength]
    rw [hdrop, Nat.zero_add, List.nil_append] at hlast
    have hcrowd : (activeSlots start).card ≤ 62 ∧
        (frames - (frames - 119) = 119 ∨ start.nextProjectileId = 1) := by
      by_cases hlong : 119 ≤ frames
      · have hshort : (pairs.take (frames - 119)).length = frames - 119 := by
          rw [List.length_take, hlength]
          omega
        exact ⟨ih (frames - 119) (by omega) hshort hstart, Or.inl (by omega)⟩
      · rw [show frames - 119 = 0 by omega, List.take_zero] at hstart
        cases hstart
        exact ⟨by decide, Or.inr rfl⟩
    obtain ⟨hcrowd, hmark⟩ := hcrowd
    have hslots := hlast.activeSlots_le hmark
    obtain ⟨hcooldown, -, -, hwounds⟩ := hlegal.measures
    obtain ⟨-, hcooldown', hwounds', -⟩ := hlast.legal.measures
    obtain ⟨hshots, hflying, hharm, -⟩ := hlast.pace
    omega

/-! ## Attacks -/

theorem movePlayers_projectiles {inputs : InputPair} {world after : WorldState}
    (h : movePlayers inputs world = .ok after) : after.projectiles = world.projectiles := by
  obtain ⟨first, hfirst, hrest⟩ := foldlM_cons_ok.1 h
  obtain ⟨second, hsecond, hend⟩ := foldlM_cons_ok.1 hrest
  cases hend
  obtain ⟨player, rfl, -⟩ := movePlayer_cases hfirst
  obtain ⟨player', rfl, -⟩ := movePlayer_cases hsecond
  rfl

/-- Each player before it in the loop has fired at most once. -/
theorem activeSlots_attackPlayers {inputs : InputPair} {list : List (Fin 2)}
    {world after : WorldState} (h : list.foldlM (attackPlayer inputs) world = .ok after) :
    (activeSlots after).card ≤ (activeSlots world).card + list.length := by
  induction list generalizing world with
  | nil =>
    cases h
    exact le_rfl
  | cons index list ih =>
    obtain ⟨next, hnext, hrest⟩ := foldlM_cons_ok.1 h
    have hcard : (activeSlots next).card ≤ (activeSlots world).card + 1 := by
      rcases attackPlayer_cases hnext with ⟨-, rfl⟩ | ⟨slot, -, -, -, -, rfl⟩
      · exact Nat.le_succ _
      · have hslots : activeSlots (fireInto world index slot) = insert slot (activeSlots world) :=
          (activeSlots_setProjectile world slot _).trans (if_pos rfl)
        rw [hslots]
        exact Finset.card_insert_le _ _
    have hlast := ih hrest
    rw [List.length_cons]
    omega

theorem LegalWorld.attackTurns {inputs : InputPair} {list : List (Fin 2)}
    {world after : WorldState} (h : LegalWorld (fun _ => 120) world)
    (hattack : list.foldlM (RollbackLab.attackPlayer inputs) world = .ok after) :
    LegalWorld (fun _ => 120) after := by
  induction list generalizing world with
  | nil =>
    cases hattack
    exact h
  | cons index list ih =>
    obtain ⟨next, hnext, hrest⟩ := foldlM_cons_ok.1 hattack
    rcases h.attackPlayer (fun _ => le_rfl) inputs index with ⟨next', hnext', hlegal, -⟩ | ⟨hfail, -⟩
    · rw [hnext] at hnext'
      cases hnext'
      exact ih hlegal hrest
    · rw [hnext] at hfail
      cases hfail

/-- In the attack loop of a frame of any run: whoever holds attack with no cooldown left
finds a free slot, and unless the ids are used up it fires one projectile under a new id
and has to cool down. -/
theorem attack_always_fires (variant : SimulationVariant) (pairs : List InputPair)
    (inputs : InputPair) (earlier later : List (Fin 2)) (index : Fin 2)
    (world moved ready : WorldState) (hrun : simulateAll variant makeInitialWorld pairs = .ok world)
    (hmoved : movePlayers inputs world = .ok moved) (hturn : [0, 1] = earlier ++ index :: later)
    (hready : earlier.foldlM (attackPlayer inputs) moved = .ok ready)
    (hattack : hasButton (inputFor inputs (getElem ready.players index index.2).id).buttons .attack)
    (hcooldown : (getElem ready.players index index.2).attackCooldown = 0) :
    ∃ slot, freeSlot ready = some slot ∧
      (getElem ready.projectiles slot slot.2).active = false ∧
      (ready.nextProjectileId ≠ 0xFFFFFFFF → ∃ after, attackPlayer inputs ready index = .ok after ∧
        after.projectiles = (ready.setProjectile slot (firedProjectile
          (getElem ready.players index index.2) ready.nextProjectileId)).projectiles ∧
        after.nextProjectileId = ready.nextProjectileId + 1 ∧
        (∀ other : Fin kMaxProjectiles, (getElem ready.projectiles other other.2).active = true →
          (getElem ready.projectiles other other.2).stableId ≠ ready.nextProjectileId) ∧
        (getElem after.players index index.2).attackCooldown = kAttackCooldownTicks) := by
  have hlegal := ((Window.refl LegalWorld.makeInitialWorld).simulateAll hrun).legal
  obtain ⟨moved', hmoved', hlegal', -⟩ := hlegal.movePlayers inputs
  rw [hmoved] at hmoved'
  cases hmoved'
  have hlast := (hlegal'.mono fun _ => by norm_num : LegalWorld (fun _ => 120) moved).attackTurns hready
  have hslots : (activeSlots ready).card < kMaxProjectiles := by
    have hbound := activeSlots_bound variant pairs.length rfl hrun
    have hfired := activeSlots_attackPlayers hready
    have hsame : activeSlots moved = activeSlots world := by
      rw [activeSlots, activeSlots, movePlayers_projectiles hmoved]
    have hlength := congrArg List.length hturn
    rw [List.length_append, List.length_cons, List.length_cons, List.length_cons, List.length_nil]
      at hlength
    rw [hsame] at hfired
    change _ < 64
    omega
  obtain ⟨slot, hfree⟩ := exists_freeSlot hslots
  refine ⟨slot, hfree, ?_, fun hids => ⟨fireInto ready index slot, ?_, rfl, rfl, ?_, ?_⟩⟩
  · exact Bool.eq_false_iff.2 fun hactive => freeSlot_some hfree (mem_activeSlots.2 hactive)
  · simp only [attackPlayer]
    rw [if_pos ⟨hattack, hcooldown⟩]
    simp only [spawnProjectile, hfree]
    rw [if_neg hids]
    rfl
  · intro other hother he
    have hlt := (hlast.projectile other hother).id_mem.2
    rw [he] at hlt
    exact UInt32.lt_irrefl _ hlt
  · rw [fireInto, WorldState.setPlayer_self]

def openingAttack : InputPair := ⟨⟨⟨0⟩, .a, 0, 16⟩, ⟨⟨0⟩, .b, 0, 16⟩⟩

/-- Player A fires in the first frame and player B in the second one. -/
def openingShot : InputPair := ⟨⟨⟨0⟩, .a, 0, 16⟩, ⟨⟨0⟩, .b, 0, 0⟩⟩

def answeringShot : InputPair := ⟨⟨⟨1⟩, .a, 1, 0⟩, ⟨⟨1⟩, .b, 1, 16⟩⟩

/-- Player B finds a free slot while the projectile of A is in flight. -/
theorem attack_always_fires_answering : ∃ ready slot after,
    (getElem ready.projectiles (⟨0, by decide⟩ : Fin kMaxProjectiles) (by decide)).active = true ∧
      freeSlot ready = some slot ∧ attackPlayer answeringShot ready 1 = .ok after ∧
      after.nextProjectileId = ready.nextProjectileId + 1 := by
  have hturn : (simulateAll .canonical makeInitialWorld [openingShot] >>= fun world =>
      movePlayers answeringShot world >>= fun moved =>
      [0].foldlM (attackPlayer answeringShot) moved >>= fun ready => pure (decide
        (hasButton (inputFor answeringShot
            (getElem ready.players (1 : Fin 2) (by decide)).id).buttons .attack = true ∧
          (getElem ready.players (1 : Fin 2) (by decide)).attackCooldown = 0 ∧
          (getElem ready.projectiles (⟨0, by decide⟩ : Fin kMaxProjectiles) (by decide)).active = true ∧
          ready.nextProjectileId ≠ 0xFFFFFFFF))) = .ok true := by decide +kernel
  obtain ⟨world, hworld, hturn⟩ := bind_ok_iff.1 hturn
  obtain ⟨moved, hmoved, hturn⟩ := bind_ok_iff.1 hturn
  obtain ⟨ready, hready, hturn⟩ := bind_ok_iff.1 hturn
  obtain ⟨hattack, hcooldown, hflying, hids⟩ := of_decide_eq_true (Except.ok.inj hturn)
  obtain ⟨slot, hfree, -, hfires⟩ := attack_always_fires .canonical [openingShot] answeringShot
    [0] [] 1 world moved ready hworld hmoved rfl hready hattack hcooldown
  obtain ⟨after, hafter, -, hnext, -, -⟩ := hfires hids
  exact ⟨ready, slot, after, hflying, hfree, hafter, hnext⟩

end RollbackLab
