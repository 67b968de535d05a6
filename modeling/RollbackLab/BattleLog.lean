import RollbackLab.LegalWorld
import RollbackLab.Bytes
import RollbackLab.ObservedFold

/-!
# The events of a run

What happens in a frame besides movement: a player fires a projectile, a projectile hits
the opponent of its owner, and an owner scores when the opponent is defeated. The events
are read off the states in which the simulation attacks and moves projectiles, and each
phase of a frame is told apart by the events it has.
-/

namespace RollbackLab

inductive BattleEvent where
  | fired (owner : PlayerId) (stableId : UInt32)
  | hit (owner : PlayerId) (stableId : UInt32)
  | scored (owner : PlayerId)
  deriving DecidableEq, Repr

/-! ## Observing a run -/

/-- A player attacks when it may, and fires if a slot is free. -/
def attackEvents (inputs : InputPair) (world : WorldState) (index : Fin 2) : List BattleEvent :=
  let player := world.playerAt index
  if hasButton (inputFor inputs player.id).buttons .attack ∧ player.attackCooldown = 0 ∧
      (freeSlot world).isSome then [.fired player.id world.nextProjectileId]
  else []

def hitEvents (variant : SimulationVariant) (target : PlayerState) (projectile : ProjectileState) :
    List BattleEvent :=
  .hit projectile.owner projectile.stableId ::
    if (damagePlayer variant target).hp ≤ 0 then [.scored projectile.owner] else []

/-- A projectile hits if it is still active after it moved and overlaps its target. -/
def projectileEvents (variant : SimulationVariant) (world : WorldState)
    (slot : Fin kMaxProjectiles) : List BattleEvent :=
  let projectile := getElem world.projectiles slot slot.2
  match moveProjectile projectile with
  | .error _ => []
  | .ok moved =>
    let target := world.playerAt (playerIndex (opponent moved.owner))
    if projectile.active ∧ moved.active ∧ overlaps moved target then
      hitEvents variant target moved
    else []

def frameEvents (variant : SimulationVariant) (world : WorldState) (inputs : InputPair) :
    List BattleEvent :=
  match movePlayers inputs world with
  | .error _ => []
  | .ok moved =>
    observeFold (attackPlayer inputs) (attackEvents inputs) moved turns ++
      match attackPlayers inputs moved with
      | .error _ => []
      | .ok fired =>
        observeFold (stepProjectile variant) (projectileEvents variant) fired
          (projectileOrder fired)

/-- The events of a run, from the first to the last. -/
def battleLog (variant : SimulationVariant) (world : WorldState) (pairs : List InputPair) :
    List BattleEvent :=
  observeFold (fun world pair => simulateFrame world world.frame pair variant)
    (frameEvents variant) world pairs

/-! ## The phases of a frame -/

theorem simulateFrame_ok_iff {world after : WorldState} {frame : FrameNumber} {inputs : InputPair}
    {variant : SimulationVariant} :
    simulateFrame world frame inputs variant = .ok after ↔
      inputsMatch world frame inputs = true ∧ ∃ moved, movePlayers inputs world = .ok moved ∧
        ∃ fired, attackPlayers inputs moved = .ok fired ∧
          ∃ stepped, stepProjectiles variant fired = .ok stepped ∧
            { stepped with frame := nextFrame frame } = after := by
  rw [simulateFrame]
  cases inputsMatch world frame inputs with
  | false => simp
  | true =>
    rw [if_neg (by simp)]
    simp only [bind_ok_iff, Except.ok.injEq, true_and]

theorem frameEvents_eq {variant : SimulationVariant} {world moved fired : WorldState}
    {inputs : InputPair} (hmoved : movePlayers inputs world = .ok moved)
    (hfired : attackPlayers inputs moved = .ok fired) :
    frameEvents variant world inputs =
      observeFold (attackPlayer inputs) (attackEvents inputs) moved turns ++
        observeFold (stepProjectile variant) (projectileEvents variant) fired
          (projectileOrder fired) := by
  simp only [frameEvents, hmoved, hfired]

/-- Moving a player leaves its hit points and its score, and takes a tick off its
cooldown. -/
theorem movePlayer_cases {inputs : InputPair} {world after : WorldState} {index : Fin 2}
    (h : movePlayer inputs world index = .ok after) :
    ∃ player, after = world.setPlayer index player ∧
      player.id = (getElem world.players index index.2).id ∧
      player.hp = (getElem world.players index index.2).hp ∧
      player.score = (getElem world.players index index.2).score ∧
      player.attackCooldown.toNat =
        (getElem world.players index index.2).attackCooldown.toNat - 1 := by
  simp only [movePlayer] at h
  split at h
  · cases h
    refine ⟨_, rfl, rfl, rfl, rfl, ?_⟩
    simp only [steer]
    split
    · rename_i hpos
      exact UInt16.toNat_sub_of_le _ _ (UInt16.lt_iff_toNat_lt.1 hpos)
    · rename_i hzero
      have hvalue := mt UInt16.lt_iff_toNat_lt.2 hzero
      simp only [UInt16.toNat_zero, Nat.not_lt, Nat.le_zero] at hvalue
      change _ = (getElem world.players index index.2).attackCooldown.toNat - 1
      rw [show (getElem world.players index index.2).attackCooldown.toNat = 0 from hvalue]
  · cases h

/-- The world after a player has fired into a slot. -/
def fireInto (world : WorldState) (index : Fin 2) (slot : Fin kMaxProjectiles) : WorldState :=
  let player := world.playerAt index
  { world.setProjectile slot (firedProjectile player world.nextProjectileId) with
    nextProjectileId := world.nextProjectileId + 1 }.setPlayer index
      { player with attackCooldown := kAttackCooldownTicks }

/-- A player either does nothing or fires into the first free slot. -/
theorem attackPlayer_cases {inputs : InputPair} {world after : WorldState} {index : Fin 2}
    (h : attackPlayer inputs world index = .ok after) :
    attackEvents inputs world index = [] ∧ after = world ∨
      ∃ slot, freeSlot world = some slot ∧ world.nextProjectileId ≠ 0xFFFFFFFF ∧
        (getElem world.players index index.2).attackCooldown = 0 ∧
        attackEvents inputs world index =
          [.fired (getElem world.players index index.2).id world.nextProjectileId] ∧
        after = fireInto world index slot := by
  simp only [attackPlayer] at h
  split at h
  · rename_i hattack
    simp only [spawnProjectile] at h
    cases hfree : freeSlot world with
    | none =>
      rw [hfree] at h
      cases h
      exact Or.inl ⟨by simp [attackEvents, hfree], rfl⟩
    | some slot =>
      simp only [hfree] at h
      split at h
      · cases h
      · rename_i hids
        cases h
        refine Or.inr ⟨slot, rfl, hids, hattack.2, ?_, rfl⟩
        exact if_pos ⟨hattack.1, hattack.2, by rw [hfree]; rfl⟩
  · rename_i hidle
    cases h
    exact Or.inl ⟨if_neg fun hattack => hidle ⟨hattack.1, hattack.2.1⟩, rfl⟩

theorem WorldState.setProjectile_setProjectile (world : WorldState) (slot : Fin kMaxProjectiles)
    (first second : ProjectileState) :
    (world.setProjectile slot first).setProjectile slot second =
      world.setProjectile slot second := by
  simp [WorldState.setProjectile]

/-- A slot is skipped, its projectile flies on or ends, or it hits its target. -/
theorem stepProjectile_cases {variant : SimulationVariant} {world after : WorldState}
    {slot : Fin kMaxProjectiles} (h : stepProjectile variant world slot = .ok after) :
    (getElem world.projectiles slot slot.2).active = false ∧
        projectileEvents variant world slot = [] ∧ after = world ∨
      (getElem world.projectiles slot slot.2).active = true ∧
        ∃ moved, moveProjectile (getElem world.projectiles slot slot.2) = .ok moved ∧
          (projectileEvents variant world slot = [] ∧ after = world.setProjectile slot moved ∨
            moved.active = true ∧
              projectileEvents variant world slot =
                hitEvents variant (getElem world.players (playerIndex (opponent moved.owner))
                  (playerIndex (opponent moved.owner)).2) moved ∧
              after = hitPlayer variant
                (world.setProjectile slot { moved with active := false })
                (playerIndex moved.owner) (playerIndex (opponent moved.owner))) := by
  simp only [stepProjectile] at h
  simp only [projectileEvents]
  cases hactive : (getElem world.projectiles slot slot.2).active with
  | false =>
    simp only [hactive, Bool.not_false, if_true] at h
    cases h
    refine Or.inl ⟨rfl, ?_, rfl⟩
    split
    · rfl
    · rw [if_neg fun hhit => Bool.false_ne_true hhit.1]
  | true =>
    refine Or.inr ⟨rfl, ?_⟩
    simp only [hactive, Bool.not_true, Bool.false_eq_true, if_false] at h
    cases hmove : moveProjectile (getElem world.projectiles slot slot.2) with
    | error e =>
      simp only [hmove] at h
      cases h
    | ok moved =>
      refine ⟨moved, rfl, ?_⟩
      simp only [hmove] at h ⊢
      cases hm : moved.active with
      | false =>
        simp only [hm, Bool.not_false, if_true] at h
        cases h
        exact Or.inl ⟨if_neg fun hhit => Bool.false_ne_true hhit.2.1, rfl⟩
      | true =>
        simp only [hm, Bool.not_true, Bool.false_eq_true, if_false] at h
        have hplayers : (world.setProjectile slot moved).players = world.players := rfl
        simp only [hplayers] at h
        cases hover : overlaps moved (getElem world.players (playerIndex (opponent moved.owner))
            (playerIndex (opponent moved.owner)).2) with
        | false =>
          simp only [hover, Bool.not_false, if_true] at h
          cases h
          exact Or.inl ⟨if_neg fun hhit => Bool.false_ne_true (hover.symm.trans hhit.2.2), rfl⟩
        | true =>
          simp only [hover, Bool.not_true, Bool.false_eq_true, if_false] at h
          cases h
          refine Or.inr ⟨rfl, if_pos ⟨trivial, rfl, hover⟩, ?_⟩
          simp only [hitTarget, WorldState.setProjectile_self,
            WorldState.setProjectile_setProjectile]

/-! ## Invariants of a run -/

/-- A property of the events so far and the world that every step of a frame keeps on a
legal world. -/
structure KeptBySteps (variant : SimulationVariant) (P : List BattleEvent → WorldState → Prop) :
    Prop where
  move : ∀ inputs index log world after, P log world →
    movePlayer inputs world index = .ok after → P log after
  attack : ∀ inputs index log world after, LegalWorld (fun _ => 120) world → P log world →
    attackPlayer inputs world index = .ok after → P (log ++ attackEvents inputs world index) after
  project : ∀ life slot log world after, LegalWorld life world → P log world →
    stepProjectile variant world slot = .ok after →
      P (log ++ projectileEvents variant world slot) after
  frame : ∀ frame log world, P log world → P log { world with frame := frame }

namespace KeptBySteps

variable {variant : SimulationVariant} {P : List BattleEvent → WorldState → Prop}
  {log : List BattleEvent} {world after : WorldState}

theorem movePlayers (h : KeptBySteps variant P) (hlog : P log world) {inputs : InputPair}
    (hmove : movePlayers inputs world = .ok after) : P log after := by
  obtain ⟨first, hfirst, hrest⟩ := foldlM_cons_ok.1 hmove
  obtain ⟨second, hsecond, hend⟩ := foldlM_cons_ok.1 hrest
  cases hend
  exact h.move _ _ _ _ _ (h.move _ _ _ _ _ hlog hfirst) hsecond

theorem attackPlayers (h : KeptBySteps variant P) (hlegal : LegalWorld (fun _ => 120) world)
    (hlog : P log world) {inputs : InputPair} (hattack : attackPlayers inputs world = .ok after) :
    P (log ++ observeFold (attackPlayer inputs) (attackEvents inputs) world turns) after ∧
      LegalWorld (fun _ => 120) after := by
  apply observeFold_invariant (P := fun log world => P log world ∧ LegalWorld (fun _ => 120) world) _
    ⟨hlog, hlegal⟩ hattack
  rintro index log world next ⟨hlog, hlegal⟩ hnext
  rcases hlegal.attackPlayer (fun _ => le_rfl) inputs index with ⟨next', hnext', hlegal', -⟩ | ⟨hfail, -⟩
  · rw [hnext] at hnext'
    cases hnext'
    exact ⟨h.attack _ _ _ _ _ hlegal hlog hnext, hlegal'⟩
  · rw [hnext] at hfail
    cases hfail

theorem stepProjectiles (h : KeptBySteps variant P) (hlegal : LegalWorld (fun _ => 120) world)
    (hlog : P log world) (hstep : stepProjectiles variant world = .ok after) :
    P (log ++ observeFold (stepProjectile variant) (projectileEvents variant) world
      (projectileOrder world)) after := by
  have hfirst : (projectileOrder world).Nodup ∧
      LegalWorld (fun slot => if slot ∈ projectileOrder world then 120 else 119) world ∧
      P log world := by
    refine ⟨LegalWorld.projectileOrder_nodup world,
      ⟨hlegal.ids, hlegal.player, fun slot hs => ?_, hlegal.distinct, hlegal.next_pos⟩, hlog⟩
    rw [if_pos ((LegalWorld.mem_projectileOrder world slot).2 hs)]
    exact hlegal.projectile slot hs
  refine (observeFold_induction (P := fun (rest : List (Fin kMaxProjectiles)) log world =>
    rest.Nodup ∧ LegalWorld (fun slot => if slot ∈ rest then 120 else 119) world ∧ P log world)
    ?_ hfirst hstep).2.2
  rintro slot rest log world next ⟨hnodup, hlegal, hlog⟩ hnext
  obtain ⟨hslot, hrest⟩ := List.nodup_cons.1 hnodup
  obtain ⟨next', hnext', hlegal', -⟩ := hlegal.stepProjectile_first variant hslot
  rw [hnext] at hnext'
  cases hnext'
  exact ⟨hrest, hlegal', h.project _ _ _ _ _ hlegal hlog hnext⟩

theorem simulateFrame (h : KeptBySteps variant P) (hlegal : LegalWorld (fun _ => 119) world)
    (hlog : P log world) {frame : FrameNumber} {inputs : InputPair}
    (hstep : simulateFrame world frame inputs variant = .ok after) :
    P (log ++ frameEvents variant world inputs) after := by
  obtain ⟨-, moved, hmoved, fired, hfired, stepped, hstepped, rfl⟩ := simulateFrame_ok_iff.1 hstep
  obtain ⟨moved', hmoved', hlegal', -⟩ := hlegal.movePlayers inputs
  rw [hmoved] at hmoved'
  cases hmoved'
  obtain ⟨hlog', hlegal''⟩ := h.attackPlayers (hlegal'.mono fun _ => by norm_num)
    (h.movePlayers hlog hmoved) hfired
  rw [frameEvents_eq hmoved hfired, ← List.append_assoc]
  exact h.frame _ _ _ (h.stepProjectiles hlegal'' hlog' hstepped)

theorem simulateAll (h : KeptBySteps variant P) (hlegal : LegalWorld (fun _ => 119) world)
    (hlog : P log world) {pairs : List InputPair}
    (hrun : simulateAll variant world pairs = .ok after) :
    P (log ++ battleLog variant world pairs) after := by
  apply (observeFold_invariant (P := fun log world => LegalWorld (fun _ => 119) world ∧ P log world)
    _ ⟨hlegal, hlog⟩ hrun).2
  rintro pair log world next ⟨hlegal, hlog⟩ hnext
  refine ⟨?_, h.simulateFrame hlegal hlog hnext⟩
  rcases hlegal.simulateFrame_cases (simulateFrame_frame hnext).1 variant with
    ⟨next', hnext', hlegal', -⟩ | ⟨hfail, -⟩
  · rw [hnext] at hnext'
    cases hnext'
    exact hlegal'
  · rw [hnext] at hfail
    cases hfail

end KeptBySteps

end RollbackLab
