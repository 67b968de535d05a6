import RollbackLab.Simulation

/-!
# Legal worlds

The ranges that every reachable world stays in. On a legal world the simulation of a
frame has one way to fail, the exhaustion of projectile ids, so a run that is short
enough never fails.

Inside a frame a projectile that has not moved yet may have one tick more to live than
at the frame's end. The invariant therefore takes the bound on the remaining ticks of
each slot as a parameter.
-/

namespace RollbackLab

/-! ## Players -/

structure LegalPlayer (player : PlayerState) : Prop where
  x_mem : kPlayerRadius ≤ player.x ∧ player.x ≤ kArenaWidth - kPlayerRadius
  y_mem : kPlayerRadius ≤ player.y ∧ player.y ≤ kArenaHeight - kPlayerRadius
  velocityX : player.velocityX = 0 ∨ player.velocityX = kPlayerSpeed ∨
    player.velocityX = -kPlayerSpeed
  velocityY : player.velocityY = 0 ∨ player.velocityY = kPlayerSpeed ∨
    player.velocityY = -kPlayerSpeed
  facing : (player.facingX = 1 ∨ player.facingX = -1) ∧ player.facingY = 0 ∨
    player.facingX = 0 ∧ (player.facingY = 1 ∨ player.facingY = -1)
  hp_mem : 1 ≤ player.hp ∧ player.hp ≤ kStartingHp
  cooldown : player.attackCooldown ≤ kAttackCooldownTicks

theorem axis_cases (negative positive : Bool) :
    axis negative positive = 0 ∨ axis negative positive = 1 ∨ axis negative positive = -1 := by
  cases negative <;> cases positive <;> decide

theorem le_clampPosition {value lower upper : Int32} (h : lower ≤ upper) :
    lower ≤ clampPosition value lower upper := by
  unfold clampPosition
  split
  · exact Int32.le_refl _
  · split
    · exact h
    · exact Int32.not_lt.1 (by assumption)

theorem clampPosition_le {value lower upper : Int32} (h : lower ≤ upper) :
    clampPosition value lower upper ≤ upper := by
  unfold clampPosition
  split
  · exact h
  · split
    · exact Int32.le_refl _
    · exact Int32.not_lt.1 (by assumption)

/-- Addition of a small step to a position inside the arena does not overflow. -/
theorem checkedAddI32_ok (left right : Int32) (hlow : -1048576 ≤ left.toInt)
    (hhigh : left.toInt ≤ 1048576) (hstep : -8192 ≤ right.toInt ∧ right.toInt ≤ 8192) :
    ∃ moved, checkedAddI32 left right = .ok moved ∧ moved.toInt = left.toInt + right.toInt := by
  refine ⟨Int32.ofInt (left.toInt + right.toInt), ?_, ?_⟩
  · simp only [checkedAddI32]
    rw [if_neg (by omega)]
  · rw [Int32.toInt_ofInt_of_le] <;> simp <;> omega

theorem LegalPlayer.steer {player : PlayerState} (h : LegalPlayer player) (buttons : UInt8) :
    LegalPlayer (steer buttons player) := by
  have hspeed : ∀ d : Int32, d = 0 ∨ d = 1 ∨ d = -1 →
      d * kPlayerSpeed = 0 ∨ d * kPlayerSpeed = kPlayerSpeed ∨ d * kPlayerSpeed = -kPlayerSpeed := by
    rintro d (rfl | rfl | rfl) <;> decide
  have hx := axis_cases (hasButton buttons .left) (hasButton buttons .right)
  have hy := axis_cases (hasButton buttons .up) (hasButton buttons .down)
  refine ⟨h.x_mem, h.y_mem, hspeed _ hx, hspeed _ hy, ?_, h.hp_mem, ?_⟩
  · simp only [RollbackLab.steer]
    rcases hx with hx | hx | hx <;> rcases hy with hy | hy | hy <;> simp [hx, hy, h.facing]
  · have := h.cooldown
    simp only [RollbackLab.steer]
    split
    · simp only [UInt16.le_iff_toNat_le, UInt16.lt_iff_toNat_lt] at *
      rw [UInt16.toNat_sub_of_le] <;> simp_all [UInt16.le_iff_toNat_le] <;> omega
    · exact this

theorem LegalPlayer.moves {player : PlayerState} (h : LegalPlayer player) :
    ∃ mx my, checkedAddI32 player.x player.velocityX = .ok mx ∧
      checkedAddI32 player.y player.velocityY = .ok my := by
  have hspeed : ∀ v : Int32, v = 0 ∨ v = kPlayerSpeed ∨ v = -kPlayerSpeed →
      -8192 ≤ v.toInt ∧ v.toInt ≤ 8192 := by
    rintro v (rfl | rfl | rfl) <;> decide
  have hbound : kPlayerRadius.toInt = 12288 ∧ (kArenaWidth - kPlayerRadius).toInt = 1036288 ∧
      (kArenaHeight - kPlayerRadius).toInt = 577536 := by decide
  have hx := h.x_mem
  have hy := h.y_mem
  simp only [Int32.le_iff_toInt_le, hbound] at hx hy
  have hmx := checkedAddI32_ok player.x player.velocityX (by omega) (by omega) (hspeed _ h.velocityX)
  have hmy := checkedAddI32_ok player.y player.velocityY (by omega) (by omega) (hspeed _ h.velocityY)
  obtain ⟨mx, hmx, -⟩ := hmx
  obtain ⟨my, hmy, -⟩ := hmy
  exact ⟨mx, my, hmx, hmy⟩

theorem LegalPlayer.respawn (player : PlayerState) : LegalPlayer (respawn player) := by
  have hspawn : ∀ id : PlayerId, kPlayerRadius ≤ (if id = .a then kPlayerASpawnX else kPlayerBSpawnX) ∧
      (if id = .a then kPlayerASpawnX else kPlayerBSpawnX) ≤ kArenaWidth - kPlayerRadius := by
    intro id
    cases id <;> decide
  have hfacing : ∀ id : PlayerId, (if id = .a then (1 : Int8) else -1) = 1 ∨
      (if id = .a then (1 : Int8) else -1) = -1 := by
    intro id
    cases id <;> decide
  have hy : kPlayerRadius ≤ kPlayerSpawnY ∧ kPlayerSpawnY ≤ kArenaHeight - kPlayerRadius := by decide
  have hhp : 1 ≤ kStartingHp ∧ kStartingHp ≤ kStartingHp := by decide
  exact ⟨hspawn _, hy, Or.inl rfl, Or.inl rfl, Or.inl ⟨hfacing _, rfl⟩, hhp,
    (by decide : (0 : UInt16) ≤ kAttackCooldownTicks)⟩

/-- A hit that does not kill leaves between one and all of the starting hit points. -/
theorem LegalPlayer.damaged {player : PlayerState} (h : LegalPlayer player)
    (variant : SimulationVariant) (hp : ¬ (damagePlayer variant player).hp ≤ 0) :
    LegalPlayer (damagePlayer variant player) := by
  refine ⟨h.x_mem, h.y_mem, h.velocityX, h.velocityY, h.facing, ?_, h.cooldown⟩
  have hdamage : (projectileDamage variant).toInt = 25 ∨ (projectileDamage variant).toInt = 26 := by
    unfold projectileDamage
    split <;> decide
  obtain ⟨hlow, hhigh⟩ := h.hp_mem
  simp only [damagePlayer, Int16.le_iff_toInt_le, kStartingHp] at *
  have hsub : (player.hp - projectileDamage variant).toInt =
      player.hp.toInt - (projectileDamage variant).toInt := by
    rw [Int16.toInt_sub, Int.bmod_eq_of_le] <;> simp at * <;> omega
  simp at *
  omega

/-! ## Projectiles -/

/-- A flying projectile: inside the arena, moving along one axis, with at most `life`
ticks to live and an id that was handed out before `next`. -/
structure LegalProjectile (life : ℕ) (next : UInt32) (projectile : ProjectileState) : Prop where
  x_mem : 0 ≤ projectile.x ∧ projectile.x ≤ kArenaWidth
  y_mem : 0 ≤ projectile.y ∧ projectile.y ≤ kArenaHeight
  axis : (projectile.velocityX = kProjectileSpeed ∨ projectile.velocityX = -kProjectileSpeed) ∧
      projectile.velocityY = 0 ∨
    projectile.velocityX = 0 ∧
      (projectile.velocityY = kProjectileSpeed ∨ projectile.velocityY = -kProjectileSpeed)
  ttl_mem : 1 ≤ projectile.ttl.toNat ∧ projectile.ttl.toNat ≤ life
  id_mem : 1 ≤ projectile.stableId ∧ projectile.stableId < next

theorem LegalProjectile.mono {life life' : ℕ} {next next' : UInt32} {projectile : ProjectileState}
    (h : LegalProjectile life next projectile) (hlife : life ≤ life') (hnext : next ≤ next') :
    LegalProjectile life' next' projectile :=
  ⟨h.x_mem, h.y_mem, h.axis, ⟨h.ttl_mem.1, h.ttl_mem.2.trans hlife⟩, h.id_mem.1,
    UInt32.lt_of_lt_of_le h.id_mem.2 hnext⟩

theorem LegalProjectile.speed {life : ℕ} {next : UInt32} {projectile : ProjectileState}
    (h : LegalProjectile life next projectile) :
    (-8192 ≤ projectile.velocityX.toInt ∧ projectile.velocityX.toInt ≤ 8192) ∧
      (-8192 ≤ projectile.velocityY.toInt ∧ projectile.velocityY.toInt ≤ 8192) := by
  rcases h.axis with ⟨hx | hx, hy⟩ | ⟨hx, hy | hy⟩ <;> rw [hx, hy] <;> decide

/-- Moving never overflows, and what is still active afterwards has lost a tick. -/
theorem LegalProjectile.move {life : ℕ} {next : UInt32} {projectile : ProjectileState}
    (h : LegalProjectile (life + 1) next projectile) :
    ∃ moved, moveProjectile projectile = .ok moved ∧ moved.stableId = projectile.stableId ∧
      (moved.active = true → LegalProjectile life next moved) := by
  have hx := h.x_mem
  have hy := h.y_mem
  have hbound : (kArenaWidth : Int32).toInt = 1048576 ∧ (kArenaHeight : Int32).toInt = 589824 := by
    decide
  simp only [Int32.le_iff_toInt_le, hbound] at hx hy
  simp only [Int32.toInt_zero] at hx hy
  obtain ⟨mx, hmx, -⟩ := checkedAddI32_ok _ _ (by omega) hx.2 h.speed.1
  obtain ⟨my, hmy, -⟩ := checkedAddI32_ok _ _ (by omega) (hy.2.trans (by omega)) h.speed.2
  have hmove : moveProjectile projectile = .ok
      { projectile with
        x := mx
        y := my
        ttl := if 0 < projectile.ttl then projectile.ttl - 1 else projectile.ttl
        active := if (if 0 < projectile.ttl then projectile.ttl - 1 else projectile.ttl) = 0 ∨
          mx < 0 ∨ kArenaWidth < mx ∨ my < 0 ∨ kArenaHeight < my then false
          else projectile.active } := by
    simp only [moveProjectile, hmx, hmy]
  refine ⟨_, hmove, rfl, fun hactive => ?_⟩
  simp only [Bool.if_false_left, Bool.and_eq_true, Bool.not_eq_true', decide_eq_false_iff_not,
    not_or, Int32.not_lt] at hactive
  obtain ⟨⟨httl, hx0, hx1, hy0, hy1⟩, -⟩ := hactive
  refine ⟨⟨hx0, hx1⟩, ⟨hy0, hy1⟩, h.axis, ?_, h.id_mem⟩
  have hpos : 0 < projectile.ttl := by
    simp only [UInt16.lt_iff_toNat_lt]
    exact h.ttl_mem.1
  have hlife := h.ttl_mem
  simp only [hpos, if_true] at httl ⊢
  have hsub : (projectile.ttl - 1).toNat = projectile.ttl.toNat - 1 :=
    UInt16.toNat_sub_of_le _ _ (by simp only [UInt16.le_iff_toNat_le]; exact h.ttl_mem.1)
  have hne : (projectile.ttl - 1).toNat ≠ 0 := fun he => httl (UInt16.toNat_inj.1 he)
  omega

theorem LegalPlayer.fired {player : PlayerState} (h : LegalPlayer player) {next : UInt32}
    (hpos : 1 ≤ next) (hnext : next ≠ 0xFFFFFFFF) :
    LegalProjectile 120 (next + 1) (firedProjectile player next) := by
  have harena : (0 : Int32) ≤ kProjectileRadius ∧ kProjectileRadius ≤ kArenaWidth - kProjectileRadius ∧
      kArenaWidth - kProjectileRadius ≤ kArenaWidth ∧
      kProjectileRadius ≤ kArenaHeight - kProjectileRadius ∧
      kArenaHeight - kProjectileRadius ≤ kArenaHeight := by decide
  obtain ⟨hzero, hw, hw', hh, hh'⟩ := harena
  refine ⟨⟨Int32.le_trans hzero (le_clampPosition hw), Int32.le_trans (clampPosition_le hw) hw'⟩,
    ⟨Int32.le_trans hzero (le_clampPosition hh), Int32.le_trans (clampPosition_le hh) hh'⟩, ?_,
    by simp only [firedProjectile]; decide, hpos, ?_⟩
  · simp only [firedProjectile]
    rcases h.facing with ⟨hx | hx, hy⟩ | ⟨hx, hy | hy⟩ <;> rw [hx, hy] <;> decide
  · simp only [firedProjectile]
    grind

/-! ## Worlds -/

structure LegalWorld (life : Fin kMaxProjectiles → ℕ) (world : WorldState) : Prop where
  ids : ∀ index : Fin 2, playerIndex (getElem world.players index index.2).id = index
  player : ∀ index : Fin 2, LegalPlayer (getElem world.players index index.2)
  projectile : ∀ slot : Fin kMaxProjectiles, (getElem world.projectiles slot slot.2).active = true →
    LegalProjectile (life slot) world.nextProjectileId (getElem world.projectiles slot slot.2)
  distinct : ∀ slot slot' : Fin kMaxProjectiles,
    (getElem world.projectiles slot slot.2).active = true →
    (getElem world.projectiles slot' slot'.2).active = true →
    (getElem world.projectiles slot slot.2).stableId =
      (getElem world.projectiles slot' slot'.2).stableId → slot = slot'
  next_pos : 1 ≤ world.nextProjectileId

theorem WorldState.setPlayer_players (world : WorldState) (index other : Fin 2)
    (player : PlayerState) : getElem (world.setPlayer index player).players other other.2 =
      if index = other then player else getElem world.players other other.2 := by
  simp [WorldState.setPlayer, Vector.getElem_set, Fin.ext_iff]

theorem WorldState.setPlayer_self (world : WorldState) (index : Fin 2) (player : PlayerState) :
    getElem (world.setPlayer index player).players index index.2 = player := by
  rw [WorldState.setPlayer_players, if_pos rfl]

theorem WorldState.setProjectile_projectiles (world : WorldState)
    (slot other : Fin kMaxProjectiles) (projectile : ProjectileState) :
    getElem (world.setProjectile slot projectile).projectiles other other.2 =
      if slot = other then projectile else getElem world.projectiles other other.2 := by
  simp [WorldState.setProjectile, Vector.getElem_set, Fin.ext_iff]

theorem WorldState.setProjectile_self (world : WorldState) (slot : Fin kMaxProjectiles)
    (projectile : ProjectileState) :
    getElem (world.setProjectile slot projectile).projectiles slot slot.2 = projectile := by
  rw [WorldState.setProjectile_projectiles, if_pos rfl]

namespace LegalWorld

variable {life : Fin kMaxProjectiles → ℕ} {world : WorldState}

theorem makeInitialWorld : LegalWorld (fun _ => 119) makeInitialWorld := by
  have hinactive : ∀ slot : Fin kMaxProjectiles,
      RollbackLab.makeInitialWorld.projectiles[slot].active = false := by
    intro slot
    simp [RollbackLab.makeInitialWorld]
  refine ⟨by decide, ?_, fun slot hs => ?_, fun slot _ hs => ?_, by decide⟩
  · rw [Fin.forall_fin_two]
    constructor
    · exact ⟨by decide, by decide, Or.inl rfl, Or.inl rfl, by decide, by decide, by decide⟩
    · exact ⟨by decide, by decide, Or.inl rfl, Or.inl rfl, by decide, by decide, by decide⟩
  · rw [hinactive] at hs
    cases hs
  · rw [hinactive] at hs
    cases hs

theorem mono {life' : Fin kMaxProjectiles → ℕ} (h : LegalWorld life world)
    (hlife : ∀ slot, life slot ≤ life' slot) : LegalWorld life' world :=
  ⟨h.ids, h.player, fun slot hs => (h.projectile slot hs).mono (hlife slot) (UInt32.le_refl _),
    h.distinct, h.next_pos⟩

/-- The frame number is not part of what makes a world legal. -/
theorem withFrame (h : LegalWorld life world) (frame : FrameNumber) :
    LegalWorld life { world with frame := frame } :=
  ⟨h.ids, h.player, h.projectile, h.distinct, h.next_pos⟩

/-- A world with the same projectiles is legal when its players are. -/
theorem withPlayers (h : LegalWorld life world) {after : WorldState}
    (hprojectiles : after.projectiles = world.projectiles)
    (hnext : after.nextProjectileId = world.nextProjectileId)
    (hplayers : ∀ index : Fin 2, LegalPlayer (getElem after.players index index.2) ∧
      (getElem after.players index index.2).id = (getElem world.players index index.2).id) :
    LegalWorld life after := by
  refine ⟨fun index => ?_, fun index => (hplayers index).1, ?_, ?_, ?_⟩
  · rw [(hplayers index).2, h.ids]
  · rw [hprojectiles, hnext]
    exact h.projectile
  · rw [hprojectiles]
    exact h.distinct
  · rw [hnext]
    exact h.next_pos

theorem setPlayer (h : LegalWorld life world) {index : Fin 2} {player : PlayerState}
    (hp : LegalPlayer player) (hid : player.id = (getElem world.players index index.2).id) :
    LegalWorld life (world.setPlayer index player) := by
  refine h.withPlayers rfl rfl (fun other => ?_)
  rw [WorldState.setPlayer_players]
  split
  · rename_i he
    exact ⟨hp, he ▸ hid⟩
  · exact ⟨h.player other, rfl⟩

/-- Replacing the projectile of an occupied slot, under the same id. -/
theorem setProjectile (h : LegalWorld life world) {slot : Fin kMaxProjectiles}
    {projectile : ProjectileState} {ticks : ℕ}
    (hold : (getElem world.projectiles slot slot.2).active = true)
    (hid : projectile.stableId = (getElem world.projectiles slot slot.2).stableId)
    (hp : projectile.active = true → LegalProjectile ticks world.nextProjectileId projectile) :
    LegalWorld (Function.update life slot ticks) (world.setProjectile slot projectile) := by
  have hactive : ∀ other : Fin kMaxProjectiles,
      (world.setProjectile slot projectile).projectiles[other].active = true →
      world.projectiles[other].active = true ∧
        (world.setProjectile slot projectile).projectiles[other].stableId =
          world.projectiles[other].stableId := by
    intro other ho
    rw [WorldState.setProjectile_projectiles] at ho ⊢
    split at ho
    · rename_i he
      subst he
      exact ⟨hold, by rw [if_pos rfl, hid]⟩
    · rename_i hne
      exact ⟨ho, by rw [if_neg hne]⟩
  refine ⟨h.ids, h.player, fun other ho => ?_, fun other other' ho ho' he => ?_, h.next_pos⟩
  · rw [WorldState.setProjectile_projectiles] at ho ⊢
    split at ho
    · rename_i he
      subst he
      rw [if_pos rfl, Function.update_self]
      exact hp ho
    · rename_i hne
      rw [if_neg hne, Function.update_of_ne (Ne.symm hne)]
      exact h.projectile other ho
  · obtain ⟨ha, hi⟩ := hactive other ho
    obtain ⟨ha', hi'⟩ := hactive other' ho'
    exact h.distinct other other' ha ha' (by rw [← hi, ← hi', he])

/-- Filling a slot with a projectile under the next id. -/
theorem spawn (h : LegalWorld life world) {slot : Fin kMaxProjectiles} {projectile : ProjectileState}
    (hnext : world.nextProjectileId ≠ 0xFFFFFFFF) (hid : projectile.stableId = world.nextProjectileId)
    (hp : LegalProjectile (life slot) (world.nextProjectileId + 1) projectile) :
    LegalWorld life { world.setProjectile slot projectile with
      nextProjectileId := world.nextProjectileId + 1 } := by
  have hle : world.nextProjectileId ≤ world.nextProjectileId + 1 := by grind
  have hfresh : ∀ other : Fin kMaxProjectiles, world.projectiles[other].active = true →
      world.projectiles[other].stableId ≠ world.nextProjectileId := by
    intro other ho he
    have := (h.projectile other ho).id_mem.2
    rw [he] at this
    exact UInt32.lt_irrefl _ this
  refine ⟨h.ids, h.player, fun other ho => ?_, fun other other' ho ho' he => ?_, ?_⟩
  · change (world.setProjectile slot projectile).projectiles[other].active = true at ho
    change LegalProjectile _ _ (world.setProjectile slot projectile).projectiles[other]
    rw [WorldState.setProjectile_projectiles] at ho ⊢
    split at ho
    · rename_i he
      subst he
      simpa using hp
    · rename_i hne
      rw [if_neg hne]
      exact (h.projectile other ho).mono le_rfl hle
  · change (world.setProjectile slot projectile).projectiles[other].active = true at ho
    change (world.setProjectile slot projectile).projectiles[other'].active = true at ho'
    change (world.setProjectile slot projectile).projectiles[other].stableId =
      (world.setProjectile slot projectile).projectiles[other'].stableId at he
    rw [WorldState.setProjectile_projectiles] at ho ho' he
    rw [WorldState.setProjectile_projectiles] at he
    by_cases h1 : slot = other <;> by_cases h2 : slot = other'
    · exact h1.symm.trans h2
    · rw [if_pos h1, if_neg h2, hid] at he
      rw [if_neg h2] at ho'
      exact absurd he.symm (hfresh other' ho')
    · rw [if_neg h1, if_pos h2, hid] at he
      rw [if_neg h1] at ho
      exact absurd he (hfresh other ho)
    · rw [if_neg h1, if_neg h2] at he
      rw [if_neg h1] at ho
      rw [if_neg h2] at ho'
      exact h.distinct other other' ho ho' he
  · exact UInt32.le_trans h.next_pos hle

/-! ## The three phases of a frame -/

theorem movePlayer (h : LegalWorld life world) (inputs : InputPair) (index : Fin 2) :
    ∃ after, movePlayer inputs world index = .ok after ∧ LegalWorld life after ∧
      after.nextProjectileId = world.nextProjectileId := by
  have hlegal := (h.player index).steer (inputFor inputs world.players[index].id).buttons
  obtain ⟨mx, my, hmx, hmy⟩ := hlegal.moves
  have hmove : RollbackLab.movePlayer inputs world index = .ok (world.setPlayer index
      { steer (inputFor inputs world.players[index].id).buttons world.players[index] with
        x := clampPosition mx kPlayerRadius (kArenaWidth - kPlayerRadius)
        y := clampPosition my kPlayerRadius (kArenaHeight - kPlayerRadius) }) := by
    simp only [RollbackLab.movePlayer, hmx, hmy]
  have harena : kPlayerRadius ≤ kArenaWidth - kPlayerRadius ∧
      kPlayerRadius ≤ kArenaHeight - kPlayerRadius := by decide
  refine ⟨_, hmove, h.setPlayer ?_ rfl, rfl⟩
  exact ⟨⟨le_clampPosition harena.1, clampPosition_le harena.1⟩,
    ⟨le_clampPosition harena.2, clampPosition_le harena.2⟩, hlegal.velocityX, hlegal.velocityY,
    hlegal.facing, hlegal.hp_mem, hlegal.cooldown⟩

def exhaustedIds : Error := ⟨.arithmeticOverflow, 0xFFFFFFFF, 0, "next_projectile_id"⟩

/-- A player that fires takes at most one id, and the only failure is that none is left. -/
theorem attackPlayer (h : LegalWorld life world) (hlife : ∀ slot, 120 ≤ life slot)
    (inputs : InputPair) (index : Fin 2) :
    (∃ after, attackPlayer inputs world index = .ok after ∧ LegalWorld life after ∧
      after.nextProjectileId.toNat ≤ world.nextProjectileId.toNat + 1) ∨
    attackPlayer inputs world index = .error exhaustedIds ∧
      world.nextProjectileId = 0xFFFFFFFF := by
  simp only [RollbackLab.attackPlayer, spawnProjectile]
  split
  · cases freeSlot world with
    | none => exact Or.inl ⟨world, rfl, h, Nat.le_succ _⟩
    | some slot =>
      by_cases hnext : world.nextProjectileId = 0xFFFFFFFF
      · refine Or.inr ⟨?_, hnext⟩
        simp only [hnext, if_true]
        rfl
      · refine Or.inl ⟨_, by simp only [hnext, if_false]; rfl, ?_, ?_⟩
        · have hp := h.player index
          refine (h.spawn hnext rfl ((hp.fired h.next_pos hnext).mono (hlife slot)
            (UInt32.le_refl _))).setPlayer ?_ rfl
          exact ⟨hp.x_mem, hp.y_mem, hp.velocityX, hp.velocityY, hp.facing, hp.hp_mem,
            UInt16.le_refl _⟩
        · change (world.nextProjectileId + 1).toNat ≤ _
          rw [UInt32.toNat_add]
          exact Nat.mod_le _ _
  · exact Or.inl ⟨world, rfl, h, Nat.le_succ _⟩

theorem hitPlayer (h : LegalWorld life world) (variant : SimulationVariant) {owner target : Fin 2}
    (hne : owner ≠ target) : LegalWorld life (hitPlayer variant world owner target) := by
  have hself := world.setPlayer_self target (damagePlayer variant world.players[target])
  simp only [RollbackLab.hitPlayer]
  split
  · refine h.withPlayers rfl rfl (fun index => ?_)
    rw [WorldState.setPlayer_players]
    split
    · rename_i he
      subst he
      refine ⟨LegalPlayer.respawn _, ?_⟩
      rw [WorldState.setPlayer_players, if_neg hne, hself]
      rfl
    · rename_i hother
      rw [WorldState.setPlayer_players]
      split
      · rename_i he
        subst he
        rw [WorldState.setPlayer_players, if_neg hother]
        have hp := h.player owner
        exact ⟨⟨hp.x_mem, hp.y_mem, hp.velocityX, hp.velocityY, hp.facing, hp.hp_mem, hp.cooldown⟩, rfl⟩
      · rw [WorldState.setPlayer_players, if_neg hother]
        exact ⟨h.player index, rfl⟩
  · rename_i halive
    rw [hself] at halive
    exact h.setPlayer ((h.player target).damaged variant halive) rfl

@[simp] theorem hitTarget_nextProjectileId (variant : SimulationVariant) (world : WorldState)
    (slot : Fin kMaxProjectiles) :
    (RollbackLab.hitTarget variant world slot).nextProjectileId = world.nextProjectileId := by
  simp only [RollbackLab.hitTarget, RollbackLab.hitPlayer]
  split <;> rfl

theorem hitTarget (h : LegalWorld life world) (variant : SimulationVariant)
    (slot : Fin kMaxProjectiles) (hactive : (getElem world.projectiles slot slot.2).active = true)
    (ticks : ℕ) : LegalWorld (Function.update life slot ticks) (hitTarget variant world slot) := by
  have hne : ∀ owner, playerIndex owner ≠ playerIndex (opponent owner) := by
    intro owner
    cases owner <;> decide
  have hspent : LegalWorld (Function.update life slot ticks)
      (world.setProjectile slot { world.projectiles[slot] with active := false }) :=
    h.setProjectile hactive rfl (fun ha => by cases ha)
  exact hspent.hitPlayer variant (hne _)

theorem stepProjectile (h : LegalWorld life world) (variant : SimulationVariant)
    (slot : Fin kMaxProjectiles) (hslot : life slot = 120) :
    ∃ after, stepProjectile variant world slot = .ok after ∧
      LegalWorld (Function.update life slot 119) after ∧
      after.nextProjectileId = world.nextProjectileId := by
  simp only [RollbackLab.stepProjectile]
  cases hactive : world.projectiles[slot].active with
  | false =>
    refine ⟨world, by simp, ⟨h.ids, h.player, fun other ho => ?_, h.distinct, h.next_pos⟩, rfl⟩
    have hother : other ≠ slot := fun he => by
      subst he
      rw [hactive] at ho
      cases ho
    rw [Function.update_of_ne hother]
    exact h.projectile other ho
  | true =>
    have hp := h.projectile slot hactive
    rw [hslot] at hp
    obtain ⟨moved, hmove, hid, hlegal⟩ := hp.move
    have hafter : LegalWorld (Function.update life slot 119) (world.setProjectile slot moved) :=
      h.setProjectile hactive hid hlegal
    simp only [hmove, Bool.not_true, Bool.false_eq_true, if_false]
    cases hm : moved.active with
    | false => exact ⟨_, by simp, hafter, rfl⟩
    | true =>
      simp only [Bool.not_true, Bool.false_eq_true, if_false]
      split
      · exact ⟨_, rfl, hafter, rfl⟩
      · have hself := world.setProjectile_self slot moved
        have hhit := hafter.hitTarget variant slot (by rw [hself, hm]) 119
        rw [Function.update_idem] at hhit
        exact ⟨_, rfl, hhit, by rw [hitTarget_nextProjectileId]; rfl⟩

theorem movePlayers (h : LegalWorld life world) (inputs : InputPair) :
    ∃ after, movePlayers inputs world = .ok after ∧ LegalWorld life after ∧
      after.nextProjectileId = world.nextProjectileId := by
  obtain ⟨first, hfirst, hlegal, hnext⟩ := h.movePlayer inputs 0
  obtain ⟨after, hafter, hlegal', hnext'⟩ := hlegal.movePlayer inputs 1
  refine ⟨after, ?_, hlegal', hnext'.trans hnext⟩
  rw [RollbackLab.movePlayers, List.foldlM_cons, hfirst]
  change RollbackLab.movePlayer inputs first 1 >>= pure = _
  rw [hafter]
  rfl

theorem attackPlayers (h : LegalWorld life world) (hlife : ∀ slot, 120 ≤ life slot)
    (inputs : InputPair) :
    (∃ after, attackPlayers inputs world = .ok after ∧ LegalWorld life after ∧
      after.nextProjectileId.toNat ≤ world.nextProjectileId.toNat + 2) ∨
    attackPlayers inputs world = .error exhaustedIds ∧
      2 ^ 32 ≤ world.nextProjectileId.toNat + 2 := by
  have hfull : (0xFFFFFFFF : UInt32).toNat = 2 ^ 32 - 1 := by decide
  rw [RollbackLab.attackPlayers, List.foldlM_cons]
  rcases h.attackPlayer hlife inputs 0 with ⟨first, hfirst, hlegal, hnext⟩ | ⟨hfail, hnext⟩
  · rw [hfirst]
    change (∃ after, RollbackLab.attackPlayer inputs first 1 >>= pure = _ ∧ _) ∨
      RollbackLab.attackPlayer inputs first 1 >>= pure = _ ∧ _
    rcases hlegal.attackPlayer hlife inputs 1 with ⟨after, hafter, hlegal', hnext'⟩ | ⟨hfail, hnext'⟩
    · rw [hafter]
      exact Or.inl ⟨after, rfl, hlegal', by omega⟩
    · rw [hfail]
      rw [hnext', hfull] at hnext
      exact Or.inr ⟨rfl, by omega⟩
  · rw [hfail, hnext, hfull]
    exact Or.inr ⟨rfl, by omega⟩

/-- The projectile that is stepped loses a tick, the ones to come have not yet. -/
theorem stepProjectile_first (variant : SimulationVariant) {slot : Fin kMaxProjectiles}
    {rest : List (Fin kMaxProjectiles)} (hslot : slot ∉ rest)
    (h : LegalWorld (fun other => if other ∈ slot :: rest then 120 else 119) world) :
    ∃ after, RollbackLab.stepProjectile variant world slot = .ok after ∧
      LegalWorld (fun other => if other ∈ rest then 120 else 119) after ∧
      after.nextProjectileId = world.nextProjectileId := by
  obtain ⟨stepped, hstep, hlegal, hnext⟩ := h.stepProjectile variant slot (by simp)
  have hlife : Function.update (fun other => if other ∈ slot :: rest then 120 else 119) slot 119 =
      fun other => if other ∈ rest then 120 else 119 := by
    funext other
    by_cases he : other = slot
    · simp [he, hslot]
    · simp [he]
  rw [hlife] at hlegal
  exact ⟨stepped, hstep, hlegal, hnext⟩

/-- Every projectile that is stepped loses a tick. -/
theorem foldlM_stepProjectile (variant : SimulationVariant) {order : List (Fin kMaxProjectiles)}
    (hnodup : order.Nodup) (h : LegalWorld (fun slot => if slot ∈ order then 120 else 119) world) :
    ∃ after, order.foldlM (RollbackLab.stepProjectile variant) world = .ok after ∧
      LegalWorld (fun _ => 119) after ∧ after.nextProjectileId = world.nextProjectileId := by
  induction order generalizing world with
  | nil => exact ⟨world, rfl, by simpa using h, rfl⟩
  | cons slot order ih =>
    obtain ⟨hslot, horder⟩ := List.nodup_cons.1 hnodup
    obtain ⟨stepped, hstep, hlegal, hnext⟩ := h.stepProjectile_first variant hslot
    obtain ⟨after, hfold, hafter, hnext'⟩ := ih horder hlegal
    exact ⟨after, by rw [List.foldlM_cons, hstep]; exact hfold, hafter, hnext'.trans hnext⟩

theorem mem_projectileOrder (world : WorldState) (slot : Fin kMaxProjectiles) :
    slot ∈ projectileOrder world ↔ (getElem world.projectiles slot slot.2).active = true := by
  simp [projectileOrder, List.mem_insertionSort]

theorem projectileOrder_nodup (world : WorldState) : (projectileOrder world).Nodup :=
  (List.perm_insertionSort _ _).nodup_iff.2 ((List.nodup_finRange _).filter _)

theorem stepProjectiles (h : LegalWorld (fun _ => 120) world) (variant : SimulationVariant) :
    ∃ after, stepProjectiles variant world = .ok after ∧ LegalWorld (fun _ => 119) after ∧
      after.nextProjectileId = world.nextProjectileId := by
  apply foldlM_stepProjectile variant (projectileOrder_nodup world)
  refine ⟨h.ids, h.player, fun slot hs => ?_, h.distinct, h.next_pos⟩
  rw [if_pos ((mem_projectileOrder world slot).2 hs)]
  exact h.projectile slot hs

/-- On a legal world with matching inputs a frame can fail in one way only. -/
theorem simulateFrame_cases (h : LegalWorld (fun _ => 119) world) {frame : FrameNumber}
    {inputs : InputPair} (hmatch : inputsMatch world frame inputs = true)
    (variant : SimulationVariant) :
    (∃ after, simulateFrame world frame inputs variant = .ok after ∧
      LegalWorld (fun _ => 119) after ∧ after.frame = nextFrame frame ∧
      after.nextProjectileId.toNat ≤ world.nextProjectileId.toNat + 2) ∨
    simulateFrame world frame inputs variant = .error exhaustedIds ∧
      2 ^ 32 ≤ world.nextProjectileId.toNat + 2 := by
  obtain ⟨moved, hmoved, hlegal, hnext⟩ := h.movePlayers inputs
  have hready : LegalWorld (fun _ => 120) moved := hlegal.mono (fun _ => by norm_num)
  rw [← hnext]
  simp only [simulateFrame, hmatch, hmoved]
  rcases hready.attackPlayers (fun _ => le_rfl) inputs with ⟨fired, hfired, hl, hn⟩ | ⟨hfail, hn⟩
  · obtain ⟨after, hafter, hl', hn'⟩ := hl.stepProjectiles variant
    refine Or.inl ⟨{ after with frame := nextFrame frame }, ?_, hl'.withFrame _, rfl, ?_⟩
    · simp only [bind, Except.bind, hfired, hafter]
      rfl
    · change after.nextProjectileId.toNat ≤ _
      rwa [hn']
  · refine Or.inr ⟨?_, hn⟩
    simp only [bind, Except.bind, hfail]
    rfl

/-- While ids are left, a frame with matching inputs succeeds. -/
theorem simulateFrame_ok (h : LegalWorld (fun _ => 119) world) {frame : FrameNumber}
    {inputs : InputPair} (hmatch : inputsMatch world frame inputs = true)
    (variant : SimulationVariant) (hids : world.nextProjectileId.toNat + 2 < 2 ^ 32) :
    ∃ after, simulateFrame world frame inputs variant = .ok after ∧
      LegalWorld (fun _ => 119) after ∧ after.frame = nextFrame frame ∧
      after.nextProjectileId.toNat ≤ world.nextProjectileId.toNat + 2 := by
  rcases h.simulateFrame_cases hmatch variant with hok | ⟨-, hfull⟩
  · exact hok
  · omega

end LegalWorld

/-! ## Reachable worlds -/

/-- The worlds that successful frames reach from the initial one. -/
inductive ReachableWorld : WorldState → Prop
  | initial : ReachableWorld makeInitialWorld
  | step {world after : WorldState} (frame : FrameNumber) (inputs : InputPair)
      (variant : SimulationVariant) (h : ReachableWorld world)
      (hstep : simulateFrame world frame inputs variant = .ok after) : ReachableWorld after

/-! ## What a frame depends on -/

theorem simulateFrame_frame {world after : WorldState} {frame : FrameNumber} {inputs : InputPair}
    {variant : SimulationVariant} (h : simulateFrame world frame inputs variant = .ok after) :
    inputsMatch world frame inputs = true ∧ after.frame = nextFrame frame := by
  simp only [simulateFrame] at h
  cases hm : inputsMatch world frame inputs with
  | false => simp [hm] at h
  | true =>
    refine ⟨rfl, ?_⟩
    simp only [hm, Bool.not_true, Bool.false_eq_true, if_false, bind, Except.bind] at h
    split at h
    · cases h
    · split at h
      · cases h
      · split at h
        · cases h
        · cases h
          rfl

/-- Two matching pairs with the same buttons have the same effect: sequence numbers
are not simulated. -/
theorem simulateFrame_congr {world : WorldState} {frame : FrameNumber} {p q : InputPair}
    (variant : SimulationVariant) (hp : inputsMatch world frame p = true)
    (hq : inputsMatch world frame q = true) (ha : p.a.buttons = q.a.buttons)
    (hb : p.b.buttons = q.b.buttons) :
    simulateFrame world frame p variant = simulateFrame world frame q variant := by
  have hbuttons : ∀ id, (inputFor p id).buttons = (inputFor q id).buttons := by
    intro id
    cases id
    · exact ha
    · exact hb
  have hmove : movePlayer p = movePlayer q := by
    funext world index
    simp only [movePlayer, hbuttons]
  have hattack : attackPlayer p = attackPlayer q := by
    funext world index
    simp only [attackPlayer, hbuttons]
  simp only [simulateFrame, hp, hq, movePlayers, attackPlayers, hmove, hattack]

theorem ReachableWorld.legal {world : WorldState} (h : ReachableWorld world) :
    LegalWorld (fun _ => 119) world := by
  induction h with
  | initial => exact LegalWorld.makeInitialWorld
  | step frame inputs variant _ hstep ih =>
    have hmatch := (simulateFrame_frame hstep).1
    rcases ih.simulateFrame_cases hmatch variant with ⟨after, hafter, hlegal, -⟩ | ⟨hfail, -⟩
    · rwa [Except.ok.inj (hstep.symm.trans hafter)]
    · rw [hfail] at hstep
      cases hstep

/-- Every reachable world is legal, and only running out of projectile ids stops it. -/
theorem reachable_world_legal {world : WorldState} (h : ReachableWorld world) :
    world.players[0].id = .a ∧ world.players[1].id = .b ∧ LegalWorld (fun _ => 119) world ∧
      ∀ frame inputs variant e, inputsMatch world frame inputs = true →
        simulateFrame world frame inputs variant = .error e →
        e = LegalWorld.exhaustedIds ∧ 2 ^ 32 ≤ world.nextProjectileId.toNat + 2 := by
  have hlegal := h.legal
  have hid : ∀ id : PlayerId, (playerIndex id = 0 → id = .a) ∧ (playerIndex id = 1 → id = .b) := by
    intro id
    cases id <;> decide
  refine ⟨(hid _).1 (hlegal.ids 0), (hid _).2 (hlegal.ids 1), hlegal, ?_⟩
  intro frame inputs variant e hmatch hfail
  rcases hlegal.simulateFrame_cases hmatch variant with ⟨after, hafter, -⟩ | ⟨hids, hfull⟩
  · rw [hafter] at hfail
    cases hfail
  · exact ⟨Except.error.inj (hfail.symm.trans hids), hfull⟩

/-- Both players fire in the first frame. -/
theorem reachable_world_legal_fired : ∃ world,
    simulateFrame makeInitialWorld ⟨0⟩ ⟨⟨⟨0⟩, .a, 0, 16⟩, ⟨⟨0⟩, .b, 0, 16⟩⟩ .canonical = .ok world ∧
    world.players[0].id = .a ∧ world.players[1].id = .b ∧ LegalWorld (fun _ => 119) world ∧
      ∀ frame inputs variant e, inputsMatch world frame inputs = true →
        simulateFrame world frame inputs variant = .error e →
        e = LegalWorld.exhaustedIds ∧ 2 ^ 32 ≤ world.nextProjectileId.toNat + 2 := by
  have hmatch : inputsMatch makeInitialWorld ⟨0⟩ ⟨⟨⟨0⟩, .a, 0, 16⟩, ⟨⟨0⟩, .b, 0, 16⟩⟩ = true := by
    decide
  obtain ⟨world, hworld, -⟩ :=
    LegalWorld.makeInitialWorld.simulateFrame_ok hmatch .canonical (by decide)
  exact ⟨world, hworld, reachable_world_legal (.step _ _ _ .initial hworld)⟩

end RollbackLab
