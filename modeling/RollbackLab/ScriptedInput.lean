import RollbackLab.Pcg32
import RollbackLab.World
import Mathlib.Tactic.SplitIfs

/-!
# Scripted inputs

What a peer without a player presses in a frame: a function of the scenario seed, the
frame and the player.
-/

namespace RollbackLab

def PlayerId.value : PlayerId → UInt64
  | .a => 0
  | .b => 1

def scriptedInput (scenarioSeed : UInt64) (frame : FrameNumber) (player : PlayerId) : InputFrame :=
  let mixedSeed := scenarioSeed ^^^ (frame.value.toUInt64 * 0x9E3779B97F4A7C15) ^^^
    (player.value * 0xD1B54A32D192ED03)
  let random := Pcg32.create mixedSeed (scenarioSeed + player.value + 1)
  let buttons := if scenarioSeed &&& 1 = 0 then buttonMask .left else buttonMask .right
  let vertical := random.bounded 6
  let buttons :=
    if vertical.1 = 0 then buttons ||| buttonMask .up
    else if vertical.1 = 1 then buttons ||| buttonMask .down
    else buttons
  let buttons := if (vertical.2.bounded 11).1 = 0 then buttons ||| buttonMask .attack else buttons
  ⟨frame, player, frame.value, buttons⟩

/-- Only the five known buttons are ever pressed. -/
theorem scriptedInput_buttons (scenarioSeed : UInt64) (frame : FrameNumber) (player : PlayerId) :
    (scriptedInput scenarioSeed frame player).buttons &&& 0xE0 = 0 := by
  simp only [scriptedInput]
  split_ifs <;> rfl

end RollbackLab
