import RollbackLab.Session
import RollbackLab.SeededTransport
import Mathlib.Tactic.SplitIfs

/-!
# Traces

What a viewer is shown of a run: sampled frames, what happened to packets, corrections,
and the boundary at which the peers diverged. Every list has a capacity, and what no
longer fits is only counted.
-/

namespace RollbackLab

def kTraceVersion : UInt32 := 1
def kMaxTraceFrames : ℕ := 10000
def kMaxTracePacketEvents : ℕ := 40000
def kMaxTraceRollbackEvents : ℕ := 10000

inductive PacketTraceKind where
  | sent | delivered | dropped | duplicated | reordered
  deriving DecidableEq, Repr

structure TraceFrame where
  frame : FrameNumber
  state : WorldState
  hash : StateHash
  predicted : Bool
  confirmedFrame : FrameNumber
  deriving DecidableEq, Repr

structure PacketTraceEvent where
  tick : LogicalTick
  kind : PacketTraceKind
  sender : Endpoint
  receiver : Endpoint
  sequence : UInt32
  deriving DecidableEq, Repr

structure RollbackTraceEvent where
  observedAt : FrameNumber
  rollbackFrom : FrameNumber
  depth : UInt32
  deriving DecidableEq, Repr

structure TraceDesyncMarker where
  frame : FrameNumber
  localHash : StateHash
  remoteHash : StateHash
  deriving DecidableEq, Repr

structure Trace where
  traceVersion : UInt32 := kTraceVersion
  scenarioSeed : UInt64 := 0
  sampleInterval : UInt32 := 1
  frames : List TraceFrame := []
  packets : List PacketTraceEvent := []
  rollbacks : List RollbackTraceEvent := []
  desync : Option TraceDesyncMarker := none
  omittedFrameSamples : UInt64 := 0
  omittedPacketEvents : UInt64 := 0
  omittedRollbackEvents : UInt64 := 0
  deriving DecidableEq, Repr

/-- One sample is set aside for the initial frame. -/
def traceSampleInterval (frameCount : UInt32) : UInt32 :=
  let sampledCapacity := UInt32.ofNat (kMaxTraceFrames - 1)
  if frameCount ≤ sampledCapacity then 1
  else ((frameCount.toUInt64 + sampledCapacity.toUInt64 - 1) / sampledCapacity.toUInt64).toUInt32

namespace Trace

def pushPacketEvent (trace : Trace) (event : PacketTraceEvent) : Trace :=
  if trace.packets.length < kMaxTracePacketEvents then
    { trace with packets := trace.packets ++ [event] }
  else { trace with omittedPacketEvents := trace.omittedPacketEvents + 1 }

def pushRollback (trace : Trace) (event : RollbackTraceEvent) : Trace :=
  if trace.rollbacks.length < kMaxTraceRollbackEvents then
    { trace with rollbacks := trace.rollbacks ++ [event] }
  else { trace with omittedRollbackEvents := trace.omittedRollbackEvents + 1 }

def pushFrame (trace : Trace) (frame : TraceFrame) : Trace :=
  if trace.frames.length < kMaxTraceFrames then { trace with frames := trace.frames ++ [frame] }
  else { trace with omittedFrameSamples := trace.omittedFrameSamples + 1 }

/-- What the counters of the transport tell about one send. -/
def recordSendEffects (trace : Trace) (captureTrace : Bool) (tick : LogicalTick)
    (sender receiver : Endpoint) (sequence : UInt32) (before after : TransportMetrics) : Trace :=
  if !captureTrace then trace
  else
    let event := fun kind => PacketTraceEvent.mk tick kind sender receiver sequence
    let trace := trace.pushPacketEvent (event .sent)
    let trace :=
      if before.droppedLoss < after.droppedLoss then trace.pushPacketEvent (event .dropped) else trace
    let trace :=
      if before.duplicatedPackets < after.duplicatedPackets then
        trace.pushPacketEvent (event .duplicated)
      else trace
    if before.reorderedPackets < after.reorderedPackets then
      trace.pushPacketEvent (event .reordered)
    else trace

end Trace

end RollbackLab
