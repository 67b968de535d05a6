import RollbackLab.Error
import RollbackLab.LittleEndian
import RollbackLab.World
import Mathlib.Data.List.Sort

/-!
# One frame of the simulation

A frame moves both players, lets them fire, and then moves the active projectiles in
ascending order of their stable ids, resolving hits as they occur. The step is a
partial function of the world, the frame number and one input for each player.
-/

namespace RollbackLab

structure SimulationVariant where
  value : UInt8
  deriving DecidableEq, Repr, Inhabited

namespace SimulationVariant

def canonical : SimulationVariant := ⟨0⟩
def damageBias : SimulationVariant := ⟨1⟩

end SimulationVariant

def kSimulationVersion : UInt32 := 1

abbrev StateHash := UInt64

def fnv1a64 (bytes : List UInt8) : StateHash :=
  bytes.foldl (fun hash byte => (hash ^^^ byte.toUInt64) * 1099511628211) 14695981039346656037

def checkedAddI32 (left right : Int32) : Result Int32 :=
  let wide := left.toInt + right.toInt
  if wide < -2147483648 ∨ 2147483647 < wide then
    .error ⟨.arithmeticOverflow, 0, 0, "checked_add_i32"⟩
  else .ok (Int32.ofInt wide)

def inputFor (inputs : InputPair) (player : PlayerId) : InputFrame :=
  if player = .a then inputs.a else inputs.b

def axis (negative positive : Bool) : Int32 :=
  if negative = positive then 0 else if negative then -1 else 1

def clampPosition (value lower upper : Int32) : Int32 :=
  if value < lower then lower else if upper < value then upper else value

def playerIndex (id : PlayerId) : Fin 2 := if id = .a then 0 else 1

def respawn (player : PlayerState) : PlayerState :=
  { player with
    x := if player.id = .a then kPlayerASpawnX else kPlayerBSpawnX
    y := kPlayerSpawnY
    velocityX := 0
    velocityY := 0
    facingX := if player.id = .a then 1 else -1
    facingY := 0
    hp := kStartingHp
    attackCooldown := 0 }

def WorldState.setPlayer (world : WorldState) (index : Fin 2) (player : PlayerState) : WorldState :=
  { world with players := world.players.set index player }

def WorldState.setProjectile (world : WorldState) (slot : Fin kMaxProjectiles)
    (projectile : ProjectileState) : WorldState :=
  { world with projectiles := world.projectiles.set slot projectile }

/-- Cooldown, velocity and facing, as the input of the frame asks. -/
def steer (buttons : UInt8) (player : PlayerState) : PlayerState :=
  let horizontal := axis (hasButton buttons .left) (hasButton buttons .right)
  let vertical := axis (hasButton buttons .up) (hasButton buttons .down)
  { player with
    attackCooldown :=
      if 0 < player.attackCooldown then player.attackCooldown - 1 else player.attackCooldown
    velocityX := horizontal * kPlayerSpeed
    velocityY := vertical * kPlayerSpeed
    facingX := if horizontal ≠ 0 then horizontal.toInt8 else if vertical ≠ 0 then 0 else player.facingX
    facingY := if horizontal ≠ 0 then 0 else if vertical ≠ 0 then vertical.toInt8 else player.facingY }

def movePlayer (inputs : InputPair) (world : WorldState) (index : Fin 2) : Result WorldState :=
  let player := world.players[index]
  let player := steer (inputFor inputs player.id).buttons player
  match checkedAddI32 player.x player.velocityX, checkedAddI32 player.y player.velocityY with
  | .ok movedX, .ok movedY =>
    .ok (world.setPlayer index
      { player with
        x := clampPosition movedX kPlayerRadius (kArenaWidth - kPlayerRadius)
        y := clampPosition movedY kPlayerRadius (kArenaHeight - kPlayerRadius) })
  | _, _ => .error ⟨.arithmeticOverflow, player.id.byte.toUInt64, 0, "player_move"⟩

def spawnOffset : Int32 := 18 * kSubunitsPerWorldUnit

/-- What a player fires from where it stands and faces. -/
def firedProjectile (player : PlayerState) (stableId : UInt32) : ProjectileState where
  active := true
  stableId := stableId
  owner := player.id
  x := clampPosition (player.x + player.facingX.toInt32 * spawnOffset)
    kProjectileRadius (kArenaWidth - kProjectileRadius)
  y := clampPosition (player.y + player.facingY.toInt32 * spawnOffset)
    kProjectileRadius (kArenaHeight - kProjectileRadius)
  velocityX := player.facingX.toInt32 * kProjectileSpeed
  velocityY := player.facingY.toInt32 * kProjectileSpeed
  ttl := kProjectileLifetimeTicks

def freeSlot (world : WorldState) : Option (Fin kMaxProjectiles) :=
  world.projectiles.findFinIdx? fun projectile => !projectile.active

def spawnProjectile (world : WorldState) (index : Fin 2) : Result WorldState :=
  let player := world.players[index]
  match freeSlot world with
  | none => .ok world
  | some slot =>
    if world.nextProjectileId = 0xFFFFFFFF then
      .error ⟨.arithmeticOverflow, world.nextProjectileId.toUInt64, 0, "next_projectile_id"⟩
    else
      let world := world.setProjectile slot (firedProjectile player world.nextProjectileId)
      let world := { world with nextProjectileId := world.nextProjectileId + 1 }
      .ok (world.setPlayer index { player with attackCooldown := kAttackCooldownTicks })

def attackPlayer (inputs : InputPair) (world : WorldState) (index : Fin 2) : Result WorldState :=
  let player := world.players[index]
  if hasButton (inputFor inputs player.id).buttons .attack ∧ player.attackCooldown = 0 then
    spawnProjectile world index
  else .ok world

def moveProjectile (projectile : ProjectileState) : Result ProjectileState :=
  match checkedAddI32 projectile.x projectile.velocityX,
      checkedAddI32 projectile.y projectile.velocityY with
  | .ok movedX, .ok movedY =>
    let ttl := if 0 < projectile.ttl then projectile.ttl - 1 else projectile.ttl
    .ok { projectile with
      x := movedX
      y := movedY
      ttl := ttl
      active := if ttl = 0 ∨ movedX < 0 ∨ kArenaWidth < movedX ∨ movedY < 0 ∨ kArenaHeight < movedY
        then false else projectile.active }
  | _, _ => .error ⟨.arithmeticOverflow, projectile.stableId.toUInt64, 0, "projectile_move"⟩

def overlaps (projectile : ProjectileState) (player : PlayerState) : Bool :=
  let dx := projectile.x.toInt - player.x.toInt
  let dy := projectile.y.toInt - player.y.toInt
  let hitExtent := (kPlayerRadius + kProjectileRadius).toInt
  decide (-hitExtent ≤ dx ∧ dx ≤ hitExtent ∧ -hitExtent ≤ dy ∧ dy ≤ hitExtent)

/-- The comparison projectiles are sorted by. -/
def projectileBefore (world : WorldState) (left right : Fin kMaxProjectiles) : Bool :=
  let leftId := world.projectiles[left].stableId
  let rightId := world.projectiles[right].stableId
  if leftId = rightId then left < right else leftId < rightId

def projectileOrder (world : WorldState) : List (Fin kMaxProjectiles) :=
  ((List.finRange kMaxProjectiles).filter fun slot => world.projectiles[slot].active).insertionSort
    fun left right => ¬ projectileBefore world right left

def opponent (player : PlayerId) : PlayerId := if player = .a then .b else .a

def projectileDamage (variant : SimulationVariant) : Int16 :=
  if variant = .damageBias then kProjectileDamage + 1 else kProjectileDamage

def damagePlayer (variant : SimulationVariant) (player : PlayerState) : PlayerState :=
  { player with hp := player.hp - projectileDamage variant }

def scorePoint (player : PlayerState) : PlayerState := { player with score := player.score + 1 }

/-- The target loses hit points; if none is left the owner scores and the target respawns. -/
def hitPlayer (variant : SimulationVariant) (world : WorldState) (owner target : Fin 2) :
    WorldState :=
  let world := world.setPlayer target (damagePlayer variant world.players[target])
  if world.players[target].hp ≤ 0 then
    let world := world.setPlayer owner (scorePoint world.players[owner])
    world.setPlayer target (respawn world.players[target])
  else world

/-- The projectile in `slot` hits the opponent of its owner. -/
def hitTarget (variant : SimulationVariant) (world : WorldState) (slot : Fin kMaxProjectiles) :
    WorldState :=
  let projectile := world.projectiles[slot]
  hitPlayer variant (world.setProjectile slot { projectile with active := false })
    (playerIndex projectile.owner) (playerIndex (opponent projectile.owner))

def stepProjectile (variant : SimulationVariant) (world : WorldState)
    (slot : Fin kMaxProjectiles) : Result WorldState :=
  let projectile := world.projectiles[slot]
  if !projectile.active then .ok world
  else
    match moveProjectile projectile with
    | .error error => .error error
    | .ok moved =>
      let world := world.setProjectile slot moved
      if !moved.active then .ok world
      else if !overlaps moved world.players[playerIndex (opponent moved.owner)] then .ok world
      else .ok (hitTarget variant world slot)

/-- Every frame number and player id is the one the frame calls for. -/
def inputsMatch (before : WorldState) (frame : FrameNumber) (inputs : InputPair) : Bool :=
  !(before.frame != frame || inputs.a.frame != frame || inputs.b.frame != frame ||
    inputs.a.player != .a || inputs.b.player != .b)

def movePlayers (inputs : InputPair) (world : WorldState) : Result WorldState :=
  [0, 1].foldlM (movePlayer inputs) world

def attackPlayers (inputs : InputPair) (world : WorldState) : Result WorldState :=
  [0, 1].foldlM (attackPlayer inputs) world

def stepProjectiles (variant : SimulationVariant) (world : WorldState) : Result WorldState :=
  (projectileOrder world).foldlM (stepProjectile variant) world

/-- The order in which both loops over the players go. -/
def turns : List (Fin 2) := [0, 1]

def WorldState.playerAt (world : WorldState) (index : Fin 2) : PlayerState := world.players[index]

def simulateFrame (before : WorldState) (frame : FrameNumber) (inputs : InputPair)
    (variant : SimulationVariant := .canonical) : Result WorldState :=
  if !inputsMatch before frame inputs then
    .error ⟨.frameMismatch, frame.value.toUInt64, 0, "simulate_frame"⟩
  else do
    let world ← movePlayers inputs before
    let world ← attackPlayers inputs world
    let world ← stepProjectiles variant world
    .ok { world with frame := nextFrame frame }

/-- Fold the simulation over input pairs, each at the frame the world has reached. -/
def simulateAll (variant : SimulationVariant) (world : WorldState) (pairs : List InputPair) :
    Result WorldState :=
  pairs.foldlM (fun world pair => simulateFrame world world.frame pair variant) world

theorem simulateAll_concat (variant : SimulationVariant) (world : WorldState)
    (pairs : List InputPair) (pair : InputPair) :
    simulateAll variant world (pairs ++ [pair]) = (do
      let reached ← simulateAll variant world pairs
      simulateFrame reached reached.frame pair variant) := by
  simp [simulateAll, List.foldlM_append]

theorem simulateAll_append_ok {variant : SimulationVariant} {world reached after : WorldState}
    {pairs : List InputPair} {pair : InputPair} (h : simulateAll variant world pairs = .ok reached)
    (hstep : simulateFrame reached reached.frame pair variant = .ok after) :
    simulateAll variant world (pairs ++ [pair]) = .ok after := by
  rw [simulateAll_concat, h]
  exact hstep

/-- Where a fold goes through, so does each of its frames. -/
theorem simulateAll_getElem {variant : SimulationVariant} {world reached last : WorldState}
    {pairs : List InputPair} (h : simulateAll variant world pairs = .ok last) {n : ℕ} {pair : InputPair}
    (hpair : pairs[n]? = some pair) (hreached : simulateAll variant world (pairs.take n) = .ok reached) :
    ∃ after, simulateFrame reached reached.frame pair variant = .ok after := by
  obtain ⟨hlt, hget⟩ := List.getElem?_eq_some_iff.1 hpair
  rw [← List.take_append_drop n pairs, List.drop_eq_getElem_cons hlt, hget, simulateAll,
    List.foldlM_append] at h
  change (simulateAll variant world (pairs.take n) >>= _) = _ at h
  rw [hreached] at h
  change (simulateFrame reached reached.frame pair variant >>= _) = _ at h
  cases hstep : simulateFrame reached reached.frame pair variant with
  | error e =>
    rw [hstep] at h
    cases h
  | ok after => exact ⟨after, rfl⟩

open LittleEndian in
def serializePlayer (player : PlayerState) : List UInt8 :=
  encode player.id.byte ++ encode player.x ++ encode player.y ++ encode player.velocityX ++
    encode player.velocityY ++ encode player.facingX ++ encode player.facingY ++ encode player.hp ++
    encode player.score ++ encode player.attackCooldown

open LittleEndian in
def serializeProjectile (projectile : ProjectileState) : List UInt8 :=
  encode (if projectile.active then (1 : UInt8) else 0) ++ encode projectile.stableId ++
    encode projectile.owner.byte ++ encode projectile.x ++ encode projectile.y ++
    encode projectile.velocityX ++ encode projectile.velocityY ++ encode projectile.ttl

open LittleEndian in
def serializeCanonical (state : WorldState) : List UInt8 :=
  encode kSimulationVersion ++ encode state.frame.value ++
    state.players.toList.flatMap serializePlayer ++ encode state.nextProjectileId ++
    state.projectiles.toList.flatMap serializeProjectile

def hashCanonical (state : WorldState) : StateHash := fnv1a64 (serializeCanonical state)

end RollbackLab
