import RollbackLab.FiringRate

/-!
# Hits, health and score

Every hit of a player either wounds the opponent or defeats it, so hits, hit points and
score balance. Every projectile is fired under an id of its own and hits at most once.
The firing rate keeps the score of a run of admissible length from wrapping.
-/

namespace RollbackLab

namespace BattleEvent

def isHitBy (owner : PlayerId) : BattleEvent → Bool
  | .hit other _ => other = owner
  | _ => false

def isScoredBy (owner : PlayerId) : BattleEvent → Bool
  | .scored other => other = owner
  | _ => false

def hitId : BattleEvent → Option UInt32
  | .hit _ stableId => some stableId
  | _ => none

end BattleEvent

open BattleEvent

def WorldState.playerOf (world : WorldState) (id : PlayerId) : PlayerState :=
  getElem world.players (playerIndex id) (playerIndex id).2

theorem playerIndex_opponent (id : PlayerId) : playerIndex id ≠ playerIndex (opponent id) := by
  cases id
  · decide
  · decide

theorem opponent_opponent (id : PlayerId) : opponent (opponent id) = id := by
  cases id
  · rfl
  · rfl

theorem eq_or_eq_opponent (id other : PlayerId) : other = id ∨ other = opponent id := by
  cases id
  · cases other
    · exact Or.inl rfl
    · exact Or.inr rfl
  · cases other
    · exact Or.inr rfl
    · exact Or.inl rfl

theorem WorldState.playerOf_setPlayer_self (world : WorldState) (id : PlayerId)
    (player : PlayerState) : (world.setPlayer (playerIndex id) player).playerOf id = player :=
  world.setPlayer_self _ player

theorem WorldState.playerOf_setPlayer_of_ne (world : WorldState) {index : Fin 2} {id : PlayerId}
    (hne : index ≠ playerIndex id) (player : PlayerState) :
    (world.setPlayer index player).playerOf id = world.playerOf id := by
  rw [WorldState.playerOf, WorldState.setPlayer_players, if_neg hne]
  rfl

/-! ## The tally -/

/-- Hits against hit points and scores. The score is counted modulo its width. -/
structure Tallied (log : List BattleEvent) (world : WorldState) : Prop where
  health : ∀ owner, 25 * (log.countP (isHitBy owner) : ℤ) +
    (world.playerOf (opponent owner)).hp.toInt = 100 * log.countP (isScoredBy owner) + 100
  score : ∀ owner, (world.playerOf owner).score = UInt16.ofNat (log.countP (isScoredBy owner))

namespace Tallied

variable {log : List BattleEvent} {world after : WorldState}

theorem congr (h : Tallied log world) {events : List BattleEvent}
    (hevents : ∀ event ∈ events, ∀ owner, isHitBy owner event = false ∧
      isScoredBy owner event = false)
    (hplayers : ∀ index : Fin 2,
      (getElem after.players index index.2).hp = (getElem world.players index index.2).hp ∧
      (getElem after.players index index.2).score = (getElem world.players index index.2).score) :
    Tallied (log ++ events) after := by
  have hhit : ∀ owner, events.countP (isHitBy owner) = 0 := by
    intro owner
    rw [List.countP_eq_zero]
    intro event hevent
    simp [(hevents event hevent owner).1]
  have hscored : ∀ owner, events.countP (isScoredBy owner) = 0 := by
    intro owner
    rw [List.countP_eq_zero]
    intro event hevent
    simp [(hevents event hevent owner).2]
  constructor
  · intro owner
    rw [List.countP_append, List.countP_append, hhit, hscored, WorldState.playerOf,
      (hplayers _).1]
    exact h.health owner
  · intro owner
    rw [List.countP_append, hscored, WorldState.playerOf, (hplayers _).2]
    exact h.score owner

theorem setPlayer_same {index : Fin 2} {player : PlayerState}
    (hhp : player.hp = (getElem world.players index index.2).hp)
    (hscore : player.score = (getElem world.players index index.2).score) (other : Fin 2) :
    (getElem (world.setPlayer index player).players other other.2).hp =
        (getElem world.players other other.2).hp ∧
      (getElem (world.setPlayer index player).players other other.2).score =
        (getElem world.players other other.2).score := by
  rw [WorldState.setPlayer_players]
  split
  · rename_i he
    subst he
    exact ⟨hhp, hscore⟩
  · exact ⟨rfl, rfl⟩

theorem countP_hitEvents_by (variant : SimulationVariant) (target : PlayerState)
    (projectile : ProjectileState) (owner : PlayerId) :
    (hitEvents variant target projectile).countP (isHitBy owner) =
        (if projectile.owner = owner then 1 else 0) ∧
      (hitEvents variant target projectile).countP (isScoredBy owner) =
        if projectile.owner = owner ∧ (damagePlayer variant target).hp ≤ 0 then 1 else 0 := by
  rw [hitEvents]
  by_cases hdefeated : (damagePlayer variant target).hp ≤ 0
  · by_cases howner : projectile.owner = owner
    · simp [hdefeated, howner, isHitBy, isScoredBy]
    · simp [hdefeated, howner, isHitBy, isScoredBy]
  · simp [hdefeated, isHitBy, isScoredBy, List.countP_cons]

/-- A hit is counted for the owner, whose opponent loses hit points or is defeated. -/
theorem hit (h : Tallied log world) (owner : PlayerId) (slot : Fin kMaxProjectiles)
    (projectile : ProjectileState) (howner : projectile.owner = owner)
    (hlegal : LegalPlayer (world.playerOf (opponent owner))) :
    Tallied (log ++ hitEvents .canonical (world.playerOf (opponent owner)) projectile)
      (hitPlayer .canonical (world.setProjectile slot projectile) (playerIndex owner)
        (playerIndex (opponent owner))) := by
  have hne := playerIndex_opponent owner
  have hdamage : (projectileDamage .canonical).toInt = 25 := by decide
  have hstruck := (hlegal.damage .canonical).1
  rw [hdamage] at hstruck
  have hlow := Int16.le_iff_toInt_le.1 hlegal.hp_mem.1
  change 1 ≤ (world.playerOf (opponent owner)).hp.toInt at hlow
  have hevents := countP_hitEvents_by .canonical (world.playerOf (opponent owner)) projectile
  rw [howner] at hevents
  have hdistinct : owner ≠ opponent owner := fun he => hne (congrArg playerIndex he)
  have hplayers : ∀ id, (world.setProjectile slot projectile).playerOf id = world.playerOf id :=
    fun _ => rfl
  have hcases := hitPlayer_cases .canonical (world.setProjectile slot projectile) hne
  simp only [← WorldState.playerOf.eq_1, hplayers] at hcases
  constructor
  · intro other
    rw [List.countP_append, List.countP_append, (hevents other).1, (hevents other).2]
    have hhealth := h.health other
    rcases eq_or_eq_opponent owner other with rfl | rfl
    · rw [if_pos rfl]
      rcases hcases with ⟨halive, hafter⟩ | ⟨hdefeated, hafter⟩
      · rw [hafter, WorldState.playerOf_setPlayer_self, if_neg fun hboth => halive hboth.2, hstruck]
        push_cast
        omega
      · have hzero := Int16.le_iff_toInt_le.1 hdefeated
        rw [hstruck, Int16.toInt_zero] at hzero
        have hfull : (respawn (damagePlayer .canonical
            (world.playerOf (opponent other)))).hp.toInt = 100 := rfl
        rw [hafter, WorldState.playerOf_setPlayer_self, if_pos ⟨rfl, hdefeated⟩, hfull]
        push_cast
        omega
    · rw [if_neg hdistinct, if_neg fun hboth => hdistinct hboth.1]
      rw [opponent_opponent] at hhealth ⊢
      rcases hcases with ⟨-, hafter⟩ | ⟨-, hafter⟩
      · rw [hafter, WorldState.playerOf_setPlayer_of_ne _ (Ne.symm hne), hplayers]
        exact hhealth
      · rw [hafter, WorldState.playerOf_setPlayer_of_ne _ (Ne.symm hne),
          WorldState.playerOf_setPlayer_self]
        exact hhealth
  · intro other
    rw [List.countP_append, (hevents other).2]
    have hscore := h.score other
    rcases eq_or_eq_opponent owner other with rfl | rfl
    · rcases hcases with ⟨halive, hafter⟩ | ⟨hdefeated, hafter⟩
      · rw [hafter, WorldState.playerOf_setPlayer_of_ne _ (Ne.symm hne), hplayers,
          if_neg fun hboth => halive hboth.2]
        exact hscore
      · rw [hafter, WorldState.playerOf_setPlayer_of_ne _ (Ne.symm hne),
          WorldState.playerOf_setPlayer_self, if_pos ⟨rfl, hdefeated⟩, UInt16.ofNat_add, ← hscore]
        rfl
    · rw [if_neg fun hboth => hdistinct hboth.1]
      rcases hcases with ⟨-, hafter⟩ | ⟨-, hafter⟩
      · rw [hafter, WorldState.playerOf_setPlayer_self]
        exact hscore
      · rw [hafter, WorldState.playerOf_setPlayer_self]
        exact hscore

end Tallied

theorem tallied_kept : KeptBySteps .canonical Tallied := by
  constructor
  · intro inputs index log world after h hmove
    obtain ⟨player, rfl, -, hhp, hscore, -⟩ := movePlayer_cases hmove
    rw [← List.append_nil log]
    exact h.congr (fun event hevent => by cases hevent) (Tallied.setPlayer_same hhp hscore)
  · intro inputs index log world after _ h hattack
    rcases attackPlayer_cases hattack with ⟨hevents, rfl⟩ | ⟨slot, -, -, -, hevents, rfl⟩
    · rw [hevents, List.append_nil]
      exact h
    · rw [hevents]
      refine h.congr ?_ (Tallied.setPlayer_same rfl rfl)
      intro event hevent owner
      rw [List.mem_singleton.1 hevent]
      exact ⟨rfl, rfl⟩
  · intro life slot log world after hlegal h hstep
    rcases stepProjectile_cases hstep with ⟨-, hevents, rfl⟩ |
      ⟨-, moved, -, ⟨hevents, rfl⟩ | ⟨-, hevents, rfl⟩⟩
    · rw [hevents, List.append_nil]
      exact h
    · rw [hevents, List.append_nil]
      exact ⟨h.health, h.score⟩
    · rw [hevents]
      exact h.hit moved.owner slot { moved with active := false } rfl (hlegal.player _)
  · intro frame log world h
    exact ⟨h.health, h.score⟩

/-! ## The trace of a projectile -/

/-- Every projectile was fired by its owner, and one that hit is gone for good. -/
structure Traced (log : List BattleEvent) (world : WorldState) : Prop where
  nodup : (log.filterMap hitId).Nodup
  spent : ∀ stableId ∈ log.filterMap hitId, stableId < world.nextProjectileId ∧
    ∀ slot ∈ activeSlots world, (getElem world.projectiles slot slot.2).stableId ≠ stableId
  flying : ∀ slot ∈ activeSlots world, .fired (getElem world.projectiles slot slot.2).owner
    (getElem world.projectiles slot slot.2).stableId ∈ log
  origin : ∀ owner stableId, .hit owner stableId ∈ log → .fired owner stableId ∈ log

namespace Traced

variable {log : List BattleEvent} {world after : WorldState}

theorem withPlayers (h : Traced log world) (hprojectiles : after.projectiles = world.projectiles)
    (hnext : after.nextProjectileId = world.nextProjectileId) : Traced log after := by
  have hslots : activeSlots after = activeSlots world := by
    rw [activeSlots, activeSlots, hprojectiles]
  refine ⟨h.nodup, ?_, ?_, h.origin⟩
  · rw [hnext, hslots, hprojectiles]
    exact h.spent
  · rw [hslots, hprojectiles]
    exact h.flying

theorem fire (h : Traced log world) {index : Fin 2} {slot : Fin kMaxProjectiles}
    (hids : world.nextProjectileId ≠ 0xFFFFFFFF) :
    Traced (log ++ [.fired (getElem world.players index index.2).id world.nextProjectileId])
      (fireInto world index slot) := by
  have hslots : ∀ other ∈ activeSlots (fireInto world index slot),
      getElem (fireInto world index slot).projectiles other other.2 =
          firedProjectile (getElem world.players index index.2) world.nextProjectileId ∨
        other ∈ activeSlots world ∧ getElem (fireInto world index slot).projectiles other other.2 =
          getElem world.projectiles other other.2 := by
    intro other hother
    have hget := world.setProjectile_projectiles slot other
      (firedProjectile (getElem world.players index index.2) world.nextProjectileId)
    by_cases he : slot = other
    · rw [if_pos he] at hget
      exact Or.inl hget
    · rw [if_neg he] at hget
      refine Or.inr ⟨?_, hget⟩
      rw [mem_activeSlots] at hother ⊢
      rw [← hget]
      exact hother
  have hgrows : world.nextProjectileId < world.nextProjectileId + 1 := by grind
  have hhits : (log ++ [BattleEvent.fired (getElem world.players index index.2).id
      world.nextProjectileId]).filterMap hitId = log.filterMap hitId := by
    rw [List.filterMap_append]
    exact List.append_nil _
  refine ⟨by rw [hhits]; exact h.nodup, ?_, ?_, ?_⟩
  · rw [hhits]
    intro stableId hstable
    obtain ⟨hlt, hgone⟩ := h.spent stableId hstable
    refine ⟨UInt32.lt_trans hlt hgrows, fun other hother => ?_⟩
    rcases hslots other hother with hnew | ⟨hold, hget⟩
    · rw [hnew]
      exact (UInt32.ne_of_lt hlt).symm
    · rw [hget]
      exact hgone other hold
  · intro other hother
    rcases hslots other hother with hnew | ⟨hold, hget⟩
    · rw [hnew]
      exact List.mem_append_right _ (List.mem_singleton_self _)
    · rw [hget]
      exact List.mem_append_left _ (h.flying other hold)
  · intro owner stableId hhit
    rcases List.mem_append.1 hhit with hold | hnew
    · exact List.mem_append_left _ (h.origin owner stableId hold)
    · cases List.mem_singleton.1 hnew

/-- Replacing a projectile by one that is spent or is the same one further on. -/
theorem setProjectile (h : Traced log world) {slot : Fin kMaxProjectiles}
    {projectile : ProjectileState}
    (hp : projectile.active = true → slot ∈ activeSlots world ∧
      projectile.stableId = (getElem world.projectiles slot slot.2).stableId ∧
      projectile.owner = (getElem world.projectiles slot slot.2).owner) :
    Traced log (world.setProjectile slot projectile) := by
  have hslots : ∀ other ∈ activeSlots (world.setProjectile slot projectile),
      other ∈ activeSlots world ∧
        (getElem (world.setProjectile slot projectile).projectiles other other.2).stableId =
          (getElem world.projectiles other other.2).stableId ∧
        (getElem (world.setProjectile slot projectile).projectiles other other.2).owner =
          (getElem world.projectiles other other.2).owner := by
    intro other hother
    rw [mem_activeSlots, WorldState.setProjectile_projectiles] at hother
    rw [WorldState.setProjectile_projectiles]
    split at hother
    · rename_i he
      subst he
      rw [if_pos rfl]
      exact hp hother
    · rename_i hne
      rw [if_neg hne]
      exact ⟨mem_activeSlots.2 hother, rfl, rfl⟩
  refine ⟨h.nodup, fun stableId hstable => ?_, fun other hother => ?_, h.origin⟩
  · obtain ⟨hlt, hgone⟩ := h.spent stableId hstable
    refine ⟨hlt, fun other hother => ?_⟩
    obtain ⟨hold, hid, -⟩ := hslots other hother
    rw [hid]
    exact hgone other hold
  · obtain ⟨hold, hid, howner⟩ := hslots other hother
    rw [hid, howner]
    exact h.flying other hold

/-- A projectile that hits has not hit before, and it leaves its slot. -/
theorem hit (h : Traced log world) {life : Fin kMaxProjectiles → ℕ} (hlegal : LegalWorld life world)
    {slot : Fin kMaxProjectiles} (hslot : slot ∈ activeSlots world) {projectile : ProjectileState}
    (hspent : projectile.active = false)
    (hid : projectile.stableId = (getElem world.projectiles slot slot.2).stableId)
    (howner : projectile.owner = (getElem world.projectiles slot slot.2).owner)
    (variant : SimulationVariant) (target : PlayerState) :
    Traced (log ++ hitEvents variant target projectile) (world.setProjectile slot projectile) := by
  have hkept : Traced log (world.setProjectile slot projectile) := by
    apply h.setProjectile
    intro hactive
    rw [hspent] at hactive
    cases hactive
  have hhits : (log ++ hitEvents variant target projectile).filterMap hitId =
      log.filterMap hitId ++ [projectile.stableId] := by
    rw [List.filterMap_append, hitEvents]
    split
    · rfl
    · rfl
  have hactive := mem_activeSlots.1 hslot
  refine ⟨?_, ?_, ?_, ?_⟩
  · rw [hhits, List.nodup_append]
    refine ⟨h.nodup, List.nodup_singleton _, fun stableId hold other hnew he => ?_⟩
    rw [List.mem_singleton] at hnew
    exact (h.spent stableId hold).2 slot hslot (by rw [he, hnew, hid])
  · rw [hhits]
    intro stableId hstable
    rcases List.mem_append.1 hstable with hold | hnew
    · exact hkept.spent stableId hold
    · rw [List.mem_singleton.1 hnew, hid]
      refine ⟨(hlegal.projectile slot hactive).id_mem.2, fun other hother he => ?_⟩
      rw [activeSlots_setProjectile, if_neg (by simp [hspent]), Finset.mem_erase] at hother
      obtain ⟨hne, hother⟩ := hother
      rw [WorldState.setProjectile_projectiles, if_neg (Ne.symm hne)] at he
      exact hne (hlegal.distinct other slot (mem_activeSlots.1 hother) hactive he)
  · intro other hother
    exact List.mem_append_left _ (hkept.flying other hother)
  · intro owner stableId hhit
    apply List.mem_append_left
    rcases List.mem_append.1 hhit with hold | hnew
    · exact h.origin owner stableId hold
    · have hshot := h.flying slot hslot
      rw [← hid, ← howner] at hshot
      rw [hitEvents] at hnew
      rcases List.mem_cons.1 hnew with hsame | hrest
      · rw [BattleEvent.hit.injEq] at hsame
        rw [hsame.1, hsame.2]
        exact hshot
      · split at hrest
        · cases List.mem_singleton.1 hrest
        · cases hrest

end Traced

theorem traced_kept (variant : SimulationVariant) : KeptBySteps variant Traced := by
  constructor
  · intro inputs index log world after h hmove
    obtain ⟨player, rfl, -⟩ := movePlayer_cases hmove
    exact h.withPlayers rfl rfl
  · intro inputs index log world after _ h hattack
    rcases attackPlayer_cases hattack with ⟨hevents, rfl⟩ | ⟨slot, -, hids, -, hevents, rfl⟩
    · rw [hevents, List.append_nil]
      exact h
    · rw [hevents]
      exact h.fire hids
  · intro life slot log world after hlegal h hstep
    rcases stepProjectile_cases hstep with ⟨-, hevents, rfl⟩ |
      ⟨hactive, moved, hmove, ⟨hevents, rfl⟩ | ⟨-, hevents, rfl⟩⟩
    · rw [hevents, List.append_nil]
      exact h
    · obtain ⟨hid, howner, -, -⟩ := moveProjectile_fields hmove
      rw [hevents, List.append_nil]
      exact h.setProjectile fun _ => ⟨mem_activeSlots.2 hactive, hid, howner⟩
    · obtain ⟨hid, howner, -, -⟩ := moveProjectile_fields hmove
      have hspent : ({ moved with active := false } : ProjectileState).active = false := rfl
      have hhit := h.hit hlegal (mem_activeSlots.2 hactive) hspent hid howner variant
        (getElem world.players (playerIndex (opponent moved.owner))
          (playerIndex (opponent moved.owner)).2)
      obtain ⟨hprojectiles, hnext⟩ := hitPlayer_rest variant
        (world.setProjectile slot { moved with active := false }) (playerIndex moved.owner)
        (playerIndex (opponent moved.owner))
      rw [hevents]
      exact hhit.withPlayers hprojectiles hnext
  · intro frame log world h
    exact h.withPlayers rfl rfl

/-! ## Runs -/

theorem activeSlots_makeInitialWorld : activeSlots makeInitialWorld = ∅ := by
  ext slot
  rw [mem_activeSlots, iff_false_right (Finset.notMem_empty slot)]
  simp [makeInitialWorld]

theorem tallied_makeInitialWorld : Tallied [] makeInitialWorld := by
  constructor
  · intro owner
    cases owner
    · decide
    · decide
  · intro owner
    cases owner
    · rfl
    · rfl

theorem traced_makeInitialWorld : Traced [] makeInitialWorld := by
  refine ⟨List.nodup_nil, fun stableId hstable => ?_, fun slot hslot => ?_, fun owner stableId h => ?_⟩
  · cases hstable
  · rw [activeSlots_makeInitialWorld] at hslot
    exact absurd hslot (Finset.notMem_empty slot)
  · cases h

/-- The scores of a run short enough for a replay are far from wrapping. -/
theorem scored_bound {variant : SimulationVariant} {pairs : List InputPair} {world : WorldState}
    (hlength : pairs.length ≤ 1000000)
    (hrun : simulateAll variant makeInitialWorld pairs = .ok world) :
    (battleLog variant makeInitialWorld pairs).countP isScored < 2 ^ 16 := by
  have hlast := (Window.refl LegalWorld.makeInitialWorld).simulateAll hrun
  rw [List.nil_append, Nat.zero_add] at hlast
  obtain ⟨hshots, hflying, hharm, -⟩ := hlast.pace
  obtain ⟨-, hcooldown, hwounds, -⟩ := hlast.legal.measures
  have hcooldown' : total cooldown makeInitialWorld = 0 := rfl
  have hwounds' : total wounds makeInitialWorld = 0 := rfl
  rw [hcooldown'] at hshots
  rw [hwounds'] at hharm
  rw [activeSlots_makeInitialWorld, Finset.card_empty] at hflying
  omega

/-- In every canonical run that fits into a replay: hits, score and hit points balance,
every projectile that hits was fired by its owner and hits once, the ids count the shots,
and the score has never wrapped. -/
theorem hits_balance (pairs : List InputPair) (world : WorldState)
    (hlength : pairs.length ≤ 1000000)
    (hrun : simulateAll .canonical makeInitialWorld pairs = .ok world) (owner : PlayerId) :
    let log := battleLog .canonical makeInitialWorld pairs
    let hp := (world.playerOf (opponent owner)).hp.toInt
    let score := (world.playerOf owner).score.toNat
    25 ∣ 100 - hp ∧ (log.countP (isHitBy owner) : ℤ) = 4 * score + (100 - hp) / 25 ∧
      (log.filterMap hitId).Nodup ∧
      (∀ stableId, .hit owner stableId ∈ log → .fired owner stableId ∈ log) ∧
      world.nextProjectileId.toNat - 1 = log.countP isFired ∧
      score = log.countP (isScoredBy owner) := by
  have htallied := tallied_kept.simulateAll LegalWorld.makeInitialWorld tallied_makeInitialWorld hrun
  have htraced := (traced_kept .canonical).simulateAll LegalWorld.makeInitialWorld
    traced_makeInitialWorld hrun
  have hids := ((Window.refl LegalWorld.makeInitialWorld).simulateAll hrun).pace.ids
  have hbound := scored_bound hlength hrun
  rw [List.nil_append] at htallied htraced hids
  intro log hp score
  have hscored : log.countP (isScoredBy owner) ≤ log.countP isScored := by
    apply List.countP_mono_left
    intro event _ hscored
    cases event with
    | scored other => rfl
    | fired other stableId => cases hscored
    | hit other stableId => cases hscored
  have hscore : score = log.countP (isScoredBy owner) := by
    change (world.playerOf owner).score.toNat = _
    rw [htallied.score owner, UInt16.toNat_ofNat',
      Nat.mod_eq_of_lt (lt_of_le_of_lt hscored hbound)]
  have hhealth := htallied.health owner
  change 25 * (log.countP (isHitBy owner) : ℤ) + hp = 100 * log.countP (isScoredBy owner) + 100
    at hhealth
  rw [← hscore] at hhealth
  refine ⟨by omega, by omega, htraced.nodup, htraced.origin owner, ?_, hscore⟩
  rw [hids]
  exact Nat.add_sub_cancel_left _ _

/-- The players walk towards each other, and A has fired in the first frame. -/
def closingIn : List InputPair :=
  (List.range 40).map fun i =>
    ⟨⟨⟨UInt32.ofNat i⟩, .a, 0, if i = 0 then 24 else 8⟩, ⟨⟨UInt32.ofNat i⟩, .b, 0, 4⟩⟩

/-- What B has lost shows that the shot hit in the last of these frames. -/
theorem hits_balance_closingIn : ∃ world,
    simulateAll .canonical makeInitialWorld closingIn = .ok world ∧
      (battleLog .canonical makeInitialWorld closingIn).countP (isHitBy .a) = 1 ∧
      (battleLog .canonical makeInitialWorld closingIn).countP isFired = 1 := by
  have hend : (simulateAll .canonical makeInitialWorld closingIn).map (fun world =>
      ((world.playerOf .b).hp, (world.playerOf .a).score, world.nextProjectileId)) =
        .ok (75, 0, 2) := by decide +kernel
  cases hrun : simulateAll .canonical makeInitialWorld closingIn with
  | error e =>
    rw [hrun] at hend
    cases hend
  | ok world =>
    rw [hrun] at hend
    obtain ⟨hhp, hscore, hid⟩ : (world.playerOf .b).hp = 75 ∧ (world.playerOf .a).score = 0 ∧
        world.nextProjectileId = 2 := by simpa using Except.ok.inj hend
    obtain ⟨-, hhits, -, -, hfired, -⟩ := hits_balance closingIn world (by decide) hrun .a
    rw [show opponent .a = .b from rfl, hhp, hscore] at hhits
    rw [hid] at hfired
    have hone : ((battleLog .canonical makeInitialWorld closingIn).countP (isHitBy .a) : ℤ) = 1 :=
      hhits.trans (by decide)
    exact ⟨world, rfl, by exact_mod_cast hone, hfired.symm⟩

end RollbackLab
