import RollbackLab.Frame

/-!
# Inputs and the simulated world

Two players and a fixed table of projectiles, in the integer widths of the program.
Positions are counted in subunits.
-/

namespace RollbackLab

inductive PlayerId where
  | a | b
  deriving DecidableEq, Repr, Inhabited

def PlayerId.byte : PlayerId → UInt8
  | .a => 0
  | .b => 1

inductive Button where
  | up | down | left | right | attack
  deriving DecidableEq, Repr

def Button.index : Button → UInt8
  | .up => 0
  | .down => 1
  | .left => 2
  | .right => 3
  | .attack => 4

def buttonMask (button : Button) : UInt8 := 1 <<< button.index

def hasButton (buttons : UInt8) (button : Button) : Bool := buttons &&& buttonMask button != 0

structure InputFrame where
  frame : FrameNumber := default
  player : PlayerId := .a
  sequence : UInt32 := 0
  buttons : UInt8 := 0
  deriving DecidableEq, Repr, Inhabited

structure InputPair where
  a : InputFrame := {}
  b : InputFrame := {}
  deriving DecidableEq, Repr, Inhabited

def kSubunitsPerWorldUnit : Int32 := 1024
def kArenaWidth : Int32 := 1024 * kSubunitsPerWorldUnit
def kArenaHeight : Int32 := 576 * kSubunitsPerWorldUnit
def kPlayerRadius : Int32 := 12 * kSubunitsPerWorldUnit
def kProjectileRadius : Int32 := 4 * kSubunitsPerWorldUnit
def kPlayerSpeed : Int32 := 4 * kSubunitsPerWorldUnit
def kProjectileSpeed : Int32 := 8 * kSubunitsPerWorldUnit
def kPlayerASpawnX : Int32 := kArenaWidth / 4
def kPlayerBSpawnX : Int32 := (kArenaWidth * 3) / 4
def kPlayerSpawnY : Int32 := kArenaHeight / 2
def kStartingHp : Int16 := 100
def kProjectileDamage : Int16 := 25
def kAttackCooldownTicks : UInt16 := 15
def kProjectileLifetimeTicks : UInt16 := 120
def kMaxProjectiles : ℕ := 64

structure PlayerState where
  id : PlayerId := .a
  x : Int32 := 0
  y : Int32 := 0
  velocityX : Int32 := 0
  velocityY : Int32 := 0
  facingX : Int8 := 1
  facingY : Int8 := 0
  hp : Int16 := kStartingHp
  score : UInt16 := 0
  attackCooldown : UInt16 := 0
  deriving DecidableEq, Repr

instance : Inhabited PlayerState := ⟨{}⟩

structure ProjectileState where
  active : Bool := false
  stableId : UInt32 := 0
  owner : PlayerId := .a
  x : Int32 := 0
  y : Int32 := 0
  velocityX : Int32 := 0
  velocityY : Int32 := 0
  ttl : UInt16 := 0
  deriving DecidableEq, Repr

instance : Inhabited ProjectileState := ⟨{}⟩

structure WorldState where
  frame : FrameNumber := default
  players : Vector PlayerState 2 := Vector.replicate 2 {}
  projectiles : Vector ProjectileState kMaxProjectiles := Vector.replicate kMaxProjectiles {}
  nextProjectileId : UInt32 := 1
  deriving DecidableEq, Repr

instance : Inhabited WorldState := ⟨{}⟩

def makeInitialWorld : WorldState where
  players := #v[
    { id := .a, x := kPlayerASpawnX, y := kPlayerSpawnY, velocityX := 0, velocityY := 0,
      facingX := 1, facingY := 0, hp := kStartingHp, score := 0, attackCooldown := 0 },
    { id := .b, x := kPlayerBSpawnX, y := kPlayerSpawnY, velocityX := 0, velocityY := 0,
      facingX := -1, facingY := 0, hp := kStartingHp, score := 0, attackCooldown := 0 }]

end RollbackLab
