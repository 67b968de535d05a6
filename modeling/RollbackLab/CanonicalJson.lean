import RollbackLab.Json
import RollbackLab.Report

/-!
# The texts of a report

A report is written as one JSON object with its keys in a fixed order. Its identity is
the hash of another text, which joins what the run determines and leaves out the build
and the clock.
-/

namespace RollbackLab

open Numeral (text decimal)

/-- How one byte of a string is written. -/
def escape (c : UInt8) : List UInt8 :=
  if c = 34 then text "\\\""
  else if c = 92 then text "\\\\"
  else if c = 8 then text "\\b"
  else if c = 12 then text "\\f"
  else if c = 10 then text "\\n"
  else if c = 13 then text "\\r"
  else if c = 9 then text "\\t"
  else if c < 0x20 then text "\\u" ++ Numeral.padded 16 Numeral.lowerHexDigit 4 c.toNat
  else [c]

def escaped (value : List UInt8) : List UInt8 := value.flatMap escape

def hashText (hash : StateHash) : List UInt8 :=
  text "0x" ++ Numeral.padded 16 Numeral.upperHexDigit 16 hash.toNat

def overflowPolicyText (policy : QueueOverflowPolicy) : List UInt8 :=
  if policy = .fail then text "fail" else text "drop_oldest"

def QueueOverflowPolicy.number : QueueOverflowPolicy → ℕ
  | .fail => 0
  | .dropOldest => 1

/-! ## The identity -/

/-- The numbers of the identity, in order. -/
def identityNumbers (report : RunReport) : List ℕ :=
  [report.simulationVersion.toNat, report.protocolVersion.toNat, report.pcg32Version.toNat,
    report.scenarioSeed.toNat, report.transportSeed.toNat, report.frameCount.toNat,
    report.transportConfig.baseLatencyTicks.toNat, report.transportConfig.jitterTicks.toNat,
    report.transportConfig.lossPercent.toNat, report.transportConfig.reorderPercent.toNat,
    report.transportConfig.duplicatePercent.toNat, report.transportConfig.burstLossPercent.toNat,
    report.transportConfig.maxQueuePackets, report.transportConfig.maxQueueBytes,
    report.transportConfig.bandwidthBytesPerTick, report.transportConfig.maxPacketAgeTicks.toNat,
    report.transportConfig.overflowPolicy.number, report.transportMetrics.sentPackets.toNat,
    report.transportMetrics.deliveredPackets.toNat, report.transportMetrics.droppedLoss.toNat,
    report.transportMetrics.droppedOverflow.toNat, report.transportMetrics.droppedAge.toNat,
    report.transportMetrics.duplicatedPackets.toNat, report.transportMetrics.reorderedPackets.toNat,
    report.rollbackCount.toNat, report.resimulatedFrames.toNat, report.maximumRollbackDepth.toNat,
    report.predictedInputCount.toNat, report.lateInputCount.toNat, report.confirmedFrame.value.toNat,
    report.finalHashA.toNat, report.finalHashB.toNat, report.replayVerified.toNat]

def identityMaterial (report : RunReport) : List UInt8 :=
  (identityNumbers report).flatMap (fun n => decimal n ++ text "|") ++
    (report.desyncResult ++ text "|" ++ (decimal report.success.toNat ++ text "|") ++
      report.failureReason)

def reportIdentity (report : RunReport) : StateHash := fnv1a64 (identityMaterial report)

/-! ## The object -/

def quoted (bytes : List UInt8) : List UInt8 := Json.quote :: (bytes ++ [Json.quote])

def boolText (value : Bool) : List UInt8 := if value then text "true" else text "false"

def transportFields (config : TransportConfig) : List (List UInt8 × List UInt8) :=
  [(text "base_latency_ticks", decimal config.baseLatencyTicks.toNat),
    (text "jitter_ticks", decimal config.jitterTicks.toNat),
    (text "loss_percent", decimal config.lossPercent.toNat),
    (text "reorder_percent", decimal config.reorderPercent.toNat),
    (text "duplicate_percent", decimal config.duplicatePercent.toNat),
    (text "burst_loss_percent", decimal config.burstLossPercent.toNat),
    (text "max_queue_packets", decimal config.maxQueuePackets),
    (text "max_queue_bytes", decimal config.maxQueueBytes),
    (text "bandwidth_bytes_per_tick", decimal config.bandwidthBytesPerTick),
    (text "max_packet_age_ticks", decimal config.maxPacketAgeTicks.toNat),
    (text "overflow_policy", quoted (overflowPolicyText config.overflowPolicy))]

def timingFields (timing : TimingObservations) : List (List UInt8 × List UInt8) :=
  [(text "simulation_microseconds", decimal timing.simulationMicroseconds.toNat),
    (text "rollback_microseconds", decimal timing.rollbackMicroseconds.toNat)]

/-- An object on one line. -/
def inlineObject (fields : List (List UInt8 × List UInt8)) : List UInt8 :=
  Json.objectText [] [] fields

def droppedPackets (metrics : TransportMetrics) : UInt64 :=
  metrics.droppedLoss + metrics.droppedOverflow + metrics.droppedAge

def reportFields (report : RunReport) : List (List UInt8 × List UInt8) :=
  [(text "git_sha", quoted (escaped report.gitSha)),
    (text "build_type", quoted (escaped report.buildType)),
    (text "compiler", quoted (escaped report.compiler)),
    (text "os", quoted (escaped report.os)),
    (text "simulation_version", decimal report.simulationVersion.toNat),
    (text "protocol_version", decimal report.protocolVersion.toNat),
    (text "pcg32_version", decimal report.pcg32Version.toNat),
    (text "scenario_seed", decimal report.scenarioSeed.toNat),
    (text "transport_seed", decimal report.transportSeed.toNat),
    (text "frame_count", decimal report.frameCount.toNat),
    (text "transport_config", inlineObject (transportFields report.transportConfig)),
    (text "sent_packets", decimal report.transportMetrics.sentPackets.toNat),
    (text "delivered_packets", decimal report.transportMetrics.deliveredPackets.toNat),
    (text "dropped_packets", decimal (droppedPackets report.transportMetrics).toNat),
    (text "duplicated_packets", decimal report.transportMetrics.duplicatedPackets.toNat),
    (text "reordered_packets", decimal report.transportMetrics.reorderedPackets.toNat),
    (text "rollback_count", decimal report.rollbackCount.toNat),
    (text "resimulated_frames", decimal report.resimulatedFrames.toNat),
    (text "maximum_rollback_depth", decimal report.maximumRollbackDepth.toNat),
    (text "predicted_input_count", decimal report.predictedInputCount.toNat),
    (text "late_input_count", decimal report.lateInputCount.toNat),
    (text "confirmed_frame", decimal report.confirmedFrame.value.toNat),
    (text "final_hash_a", quoted (hashText report.finalHashA)),
    (text "final_hash_b", quoted (hashText report.finalHashB)),
    (text "replay_verification", boolText report.replayVerified),
    (text "desync_result", quoted (escaped report.desyncResult)),
    (text "timing_observations", inlineObject (timingFields report.timing)),
    (text "identity_digest", quoted (hashText (reportIdentity report))),
    (text "success", boolText report.success),
    (text "failure_reason", quoted (escaped report.failureReason))]

/-- Every member on a line of its own. -/
def canonicalJson (report : RunReport) : Result (List UInt8) :=
  .ok (Json.objectText (text "\n  ") (text "\n") (reportFields report) ++ text "\n")

end RollbackLab
