import RollbackLab.Numeral
import RollbackLab.Session
import RollbackLab.SeededTransport

/-!
# Reports and desync diagnostics

What a finished run says about itself, and the earliest boundary at which two confirmed
hashes were seen to differ. Strings are the bytes they are stored as. The build that is
modelled is a release build with GCC on Linux, outside of a git checkout.
-/

namespace RollbackLab

open Numeral (text)

def kPcg32AlgorithmVersion : UInt32 := 1

def kGitSha : List UInt8 := text "unavailable"

def buildName : List UInt8 := text "Release"

def compilerName : List UInt8 := text "GCC"

def osName : List UInt8 := text "Linux"

structure TimingObservations where
  simulationMicroseconds : UInt64 := 0
  rollbackMicroseconds : UInt64 := 0
  deriving DecidableEq, Repr

structure RunReport where
  gitSha : List UInt8 := kGitSha
  buildType : List UInt8 := text "unknown"
  compiler : List UInt8 := text "unknown"
  os : List UInt8 := text "unknown"
  simulationVersion : UInt32 := kSimulationVersion
  protocolVersion : UInt32 := kProtocolVersion
  pcg32Version : UInt32 := kPcg32AlgorithmVersion
  scenarioSeed : UInt64 := 0
  transportSeed : UInt64 := 0
  frameCount : UInt32 := 0
  transportConfig : TransportConfig := {}
  transportMetrics : TransportMetrics := {}
  rollbackCount : UInt64 := 0
  resimulatedFrames : UInt64 := 0
  maximumRollbackDepth : UInt32 := 0
  predictedInputCount : UInt64 := 0
  lateInputCount : UInt64 := 0
  confirmedFrame : FrameNumber := default
  finalHashA : StateHash := 0
  finalHashB : StateHash := 0
  replayVerified : Bool := false
  desyncResult : List UInt8 := text "none"
  timing : TimingObservations := {}
  success : Bool := false
  failureReason : List UInt8 := []
  deriving DecidableEq, Repr

structure HashObservation where
  frame : FrameNumber := default
  hash : StateHash := 0
  confirmed : Bool := false

structure PlayerStateSummary where
  id : PlayerId := .a
  x : Int32 := 0
  y : Int32 := 0
  hp : Int16 := 0
  score : UInt16 := 0
  deriving DecidableEq, Repr

structure DesyncDiagnostic where
  earliestDivergentFrame : FrameNumber := default
  localHash : StateHash := 0
  remoteHash : StateHash := 0
  recentInputs : List InputPair := []
  players : List PlayerStateSummary := []
  activeProjectiles : UInt32 := 0
  simulationVersion : UInt32 := kSimulationVersion
  protocolVersion : UInt32 := kProtocolVersion
  scenarioSeed : UInt64 := 0
  deriving DecidableEq, Repr

structure DesyncTracker where
  scenarioSeed : UInt64
  diagnostic : Option DesyncDiagnostic := none
  deriving DecidableEq, Repr

/-- Keep the earliest boundary at which two confirmed hashes differ. -/
def DesyncTracker.observe (tracker : DesyncTracker) (loc remote : HashObservation)
    (recentInputs : List InputPair) (localState : WorldState) : DesyncTracker :=
  if !loc.confirmed || !remote.confirmed || loc.frame != remote.frame || loc.hash == remote.hash then
    tracker
  else if tracker.diagnostic.any fun known =>
      !frameBefore loc.frame known.earliestDivergentFrame then
    tracker
  else
    { tracker with
      diagnostic := some
        { earliestDivergentFrame := loc.frame
          localHash := loc.hash
          remoteHash := remote.hash
          recentInputs := recentInputs.drop (recentInputs.length - 32)
          players := localState.players.toList.map fun player =>
            ⟨player.id, player.x, player.y, player.hp, player.score⟩
          activeProjectiles :=
            UInt32.ofNat (localState.projectiles.toList.countP ProjectileState.active)
          scenarioSeed := tracker.scenarioSeed } }

end RollbackLab
