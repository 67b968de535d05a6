import RollbackLab.Simulation

/-!
# Packets

What the two peers say to each other: a header with the confirmed boundary of the
sender, its latest inputs, the hashes of its latest confirmed boundaries, and in a
greeting the identity of the session.
-/

namespace RollbackLab

def kProtocolVersion : UInt32 := 1

def kPacketMagic : UInt32 := 0x4B424C52
def kMaxPacketBytes : ℕ := 1200
def kMaxRedundantInputs : ℕ := 32
def kMaxConfirmedHashes : ℕ := 32

/-- Any byte can be cast to a packet type; four of them are valid. -/
structure PacketType where
  value : UInt8
  deriving DecidableEq, Repr, Inhabited

namespace PacketType

def hello : PacketType := ⟨1⟩
def input : PacketType := ⟨2⟩
def stateHash : PacketType := ⟨3⟩
def goodbye : PacketType := ⟨4⟩

end PacketType

structure ConfirmedHash where
  frame : FrameNumber := default
  hash : StateHash := 0
  deriving DecidableEq, Repr, Inhabited

structure HelloInfo where
  simulationVersion : UInt32 := kSimulationVersion
  scenarioConfigDigest : UInt64 := 0
  targetFrame : UInt32 := 0
  deriving DecidableEq, Repr

structure Packet where
  protocolVersion : UInt16 := kProtocolVersion.toUInt16
  type : PacketType := .hello
  sender : PlayerId := .a
  sequence : UInt32 := 0
  ack : UInt32 := 0
  scenarioId : UInt64 := 0
  confirmedFrame : FrameNumber := default
  inputs : List InputFrame := []
  confirmedHashes : List ConfirmedHash := []
  hello : Option HelloInfo := none
  deriving DecidableEq, Repr

end RollbackLab
