import RollbackLab.CapturedTrace
import RollbackLab.ObservedFold

/-!
# The property sweep

One match for every seed, over a network that is drawn from the seed. The first seeds are
matches of fixed lengths, and two of every fifty later ones are made to fail: one by a queue
for a single packet, and one by packets that must not wait. What the sweep finds is counted.
-/

namespace RollbackLab

open Numeral (text decimal)

def lossRates : List UInt32 := [0, 1, 5, 20]

def edgeFrameCounts : List UInt32 := [1, 32, 120, 121, 255, 256, 257]

def digestOffset : StateHash := 14695981039346656037

def digestPrime : StateHash := 1099511628211

/-- The bytes of a value enter the digest, the low ones first. -/
def mixDigest (digest : StateHash) (value : UInt64) : StateHash :=
  ([0, 8, 16, 24, 32, 40, 48, 56] : List UInt64).foldl
    (fun digest shift => (digest ^^^ ((value >>> shift) &&& 0xFF)) * digestPrime) digest

/-! ## Scenarios -/

structure SweepCase where
  scenario : ScenarioRunConfig
  expectedFailure : Option ErrorCode
  deriving DecidableEq, Repr

/-- Two draws make a number, the high half first. -/
def drawU64 (random : Pcg32) : UInt64 × Pcg32 :=
  let high := random.nextU32
  let low := high.2.nextU32
  ((high.1.toUInt64 <<< 32) ||| low.1.toUInt64, low.2)

def drawFrameCount (offset : UInt32) (random : Pcg32) : UInt32 × Pcg32 :=
  match edgeFrameCounts[offset.toNat]? with
  | some count => (count, random)
  | none =>
    let count := random.bounded 57
    (40 + count.1, count.2)

def drawTransport (seed : UInt64) (random : Pcg32) : TransportConfig :=
  let latency := random.bounded 7
  let jitter := latency.2.bounded 4
  let loss := jitter.2.bounded 4
  let reorder := loss.2.bounded 21
  let duplicate := reorder.2.bounded 11
  let burst := duplicate.2.bounded 4
  { seed
    baseLatencyTicks := latency.1
    jitterTicks := jitter.1
    lossPercent := lossRates.getD loss.1.toNat 0
    reorderPercent := reorder.1
    duplicatePercent := duplicate.1
    burstLossPercent := burst.1
    maxQueuePackets := 512
    maxQueueBytes := 512 * 1200
    bandwidthBytesPerTick := 1 <<< 20
    maxPacketAgeTicks := 128 }

/-- The match of a seed, before it may be made to fail. -/
def drawScenario (seedIndex offset : UInt32) : ScenarioRunConfig :=
  let random := Pcg32.create (0x9E3779B97F4A7C15 ^^^ seedIndex.toUInt64)
    (0xD1B54A32D192ED03 + seedIndex.toUInt64)
  let scenarioSeed := drawU64 random
  let transportSeed := drawU64 scenarioSeed.2
  let frameCount := drawFrameCount offset transportSeed.2
  { scenarioSeed := scenarioSeed.1
    transportSeed := transportSeed.1
    frameCount := frameCount.1
    captureTrace := false
    tailRedundancyTicks := 64
    transport := drawTransport transportSeed.1 frameCount.2 }

/-- A transport without loss, and with this delay for every packet. -/
def TransportConfig.steady (config : TransportConfig) (latency : UInt32) : TransportConfig :=
  { config with
    baseLatencyTicks := latency
    jitterTicks := 0
    lossPercent := 0
    reorderPercent := 0
    duplicatePercent := 0
    burstLossPercent := 0 }

def scenarioFor (seedIndex offset : UInt32) : SweepCase :=
  let config := drawScenario seedIndex offset
  if edgeFrameCounts.length ≤ offset.toNat ∧ offset % 50 = 7 then
    ⟨{ config with
        transport := { config.transport.steady 20 with maxQueuePackets := 1, maxQueueBytes := 1200 } },
      some .queueOverflow⟩
  else if edgeFrameCounts.length ≤ offset.toNat ∧ offset % 50 = 8 then
    ⟨{ config with transport := { config.transport.steady 10 with maxPacketAgeTicks := 0 } },
      some .timeout⟩
  else ⟨config, none⟩

def validateSuccess (artifacts : ScenarioArtifacts) (config : ScenarioRunConfig) : Bool :=
  artifacts.report.success && artifacts.report.replayVerified && (verifyReplay artifacts.replay).isOk &&
    artifacts.report.confirmedFrame == ⟨config.frameCount⟩ &&
    artifacts.report.finalHashA == artifacts.report.finalHashB &&
    artifacts.report.finalHashA == artifacts.replay.expectedFinalHash &&
    artifacts.trace.frames.isEmpty && artifacts.trace.packets.isEmpty && artifacts.trace.rollbacks.isEmpty

/-! ## The sweep -/

structure PropertySweepConfig where
  startSeed : UInt32 := 0
  seedCount : UInt32 := 100
  repeatIdentitySamples : UInt32 := 16
  deriving DecidableEq, Repr

structure PropertySweepResult where
  startSeed : UInt32 := 0
  totalSeeds : UInt32 := 0
  successfulSeeds : UInt32 := 0
  declaredFailures : UInt32 := 0
  repeatedIdentitySamples : UInt32 := 0
  identityMismatches : UInt32 := 0
  crashes : UInt32 := 0
  deadlocks : UInt32 := 0
  unboundedFailures : UInt32 := 0
  edgeFrameCases : UInt32 := 0
  queueOverflowFailures : UInt32 := 0
  timeoutFailures : UInt32 := 0
  lossRateScenarios : List UInt32 := [0, 0, 0, 0]
  identityDigest : StateHash := 0
  fullSweepRepeated : Bool := false
  deriving DecidableEq, Repr

/-- What has been counted so far, with the digest of what was found. -/
structure Sweep where
  result : PropertySweepResult
  digest : StateHash

namespace Sweep

def countLossRate (sweep : Sweep) (percent : UInt32) : Sweep :=
  { sweep with
    result :=
      { sweep.result with
        lossRateScenarios := sweep.result.lossRateScenarios.modify (lossRates.idxOf percent) (· + 1) } }

def mix (sweep : Sweep) (value : UInt64) : Sweep :=
  { sweep with digest := mixDigest sweep.digest value }

def countDeclared (sweep : Sweep) (code : ErrorCode) : Sweep :=
  let result := { sweep.result with declaredFailures := sweep.result.declaredFailures + 1 }
  { sweep with
    result :=
      if code = .queueOverflow then
        { result with queueOverflowFailures := result.queueOverflowFailures + 1 }
      else { result with timeoutFailures := result.timeoutFailures + 1 } }

def countSuccess (sweep : Sweep) : Sweep :=
  { sweep with
    result := { sweep.result with successfulSeeds := sweep.result.successfulSeeds + 1 } }

def countRepeated (sweep : Sweep) : Sweep :=
  { sweep with
    result :=
      { sweep.result with repeatedIdentitySamples := sweep.result.repeatedIdentitySamples + 1 } }

/-- A match that was made to fail has to fail in that way, twice. -/
def checkDeclared (sweep : Sweep) (seed : UInt32) (scenario : ScenarioRunConfig)
    (expected : ErrorCode) : Result Sweep :=
  match runSeededScenario scenario with
  | .ok _ => .error ⟨.invalidArgument, seed.toUInt64, 0, "property_expected_failure"⟩
  | .error first =>
    if first.code ≠ expected then
      .error ⟨first.code, seed.toUInt64, first.offset, "property_expected_failure"⟩
    else
      let sweep := ((sweep.countDeclared first.code).mix (UInt64.ofNat first.code.ctorIdx)).countRepeated
      match runSeededScenario scenario with
      | .ok _ => .error ⟨.replayMismatch, seed.toUInt64, 0, "property_failure_repeat"⟩
      | .error repeated =>
        if repeated.code ≠ first.code ∨ repeated.detail ≠ first.detail then
          .error ⟨.replayMismatch, seed.toUInt64, 0, "property_failure_repeat"⟩
        else .ok sweep

/-- Any other match has to converge, and some of them in the same way twice. -/
def checkSuccess (sweep : Sweep) (seed : UInt32) (scenario : ScenarioRunConfig) (repeats : Bool) :
    Result Sweep :=
  match runSeededScenario scenario with
  | .error error => .error ⟨error.code, seed.toUInt64, error.offset, "property_unexpected_failure"⟩
  | .ok first =>
    if !validateSuccess first scenario then
      .error ⟨.replayMismatch, seed.toUInt64, 0, "property_success_invariant"⟩
    else
      let identity := reportIdentity first.report
      let sweep := sweep.countSuccess.mix identity
      if repeats then
        match runSeededScenario scenario with
        | .error _ => .error ⟨.replayMismatch, seed.toUInt64, 0, "property_identity_repeat"⟩
        | .ok repeated =>
          if reportIdentity repeated.report ≠ identity ∨ repeated.replay ≠ first.replay then
            .error ⟨.replayMismatch, seed.toUInt64, 0, "property_identity_repeat"⟩
          else .ok sweep.countRepeated
      else .ok sweep

end Sweep

namespace PropertySweepConfig

/-- The match at an offset from the first seed. -/
def caseAt (config : PropertySweepConfig) (offset : UInt32) : SweepCase :=
  scenarioFor (config.startSeed + offset) offset

/-- One round of the sweep. -/
def checkOffset (config : PropertySweepConfig) (sweep : Sweep) (offset : UInt32) : Result Sweep :=
  let seed := config.startSeed + offset
  let sweepCase := config.caseAt offset
  let sweep := (sweep.countLossRate sweepCase.scenario.transport.lossPercent).mix seed.toUInt64
  match sweepCase.expectedFailure with
  | some expected => sweep.checkDeclared seed sweepCase.scenario expected
  | none => sweep.checkSuccess seed sweepCase.scenario (offset < config.repeatIdentitySamples)

def start (config : PropertySweepConfig) : Sweep where
  result :=
    { startSeed := config.startSeed
      totalSeeds := config.seedCount
      edgeFrameCases := min config.seedCount (UInt32.ofNat edgeFrameCounts.length) }
  digest := digestOffset

end PropertySweepConfig

def runPropertySweep (config : PropertySweepConfig) : Result PropertySweepResult := do
  failIf (config.seedCount = 0 ∨ 100000 < config.seedCount ∨
      config.seedCount < config.repeatIdentitySamples)
    ⟨.invalidArgument, config.seedCount.toUInt64, 0, "property_sweep_config"⟩
  let sweep ← (List.range config.seedCount.toNat).foldlM
    (fun sweep offset => config.checkOffset sweep (UInt32.ofNat offset)) config.start
  return { sweep.result with identityDigest := sweep.digest }

/-! ## The text of a result -/

namespace PropertySweepResult

/-- Nothing was found that should not have been. -/
def success (result : PropertySweepResult) : Bool :=
  result.successfulSeeds + result.declaredFailures == result.totalSeeds &&
    result.identityMismatches == 0 && result.crashes == 0 && result.deadlocks == 0 &&
    result.unboundedFailures == 0

/-- How many matches had one of the loss rates. -/
def lossRateCount (result : PropertySweepResult) (index : ℕ) : ℕ :=
  (result.lossRateScenarios.getD index 0).toNat

def lossRateFields (result : PropertySweepResult) : List (List UInt8 × List UInt8) :=
  [(text "0", decimal (result.lossRateCount 0)),
    (text "1", decimal (result.lossRateCount 1)),
    (text "5", decimal (result.lossRateCount 2)),
    (text "20", decimal (result.lossRateCount 3))]

def fields (result : PropertySweepResult) : List (List UInt8 × List UInt8) :=
  [(text "pcg32_version", decimal kPcg32AlgorithmVersion.toNat),
    (text "start_seed", decimal result.startSeed.toNat),
    (text "total_seeds", decimal result.totalSeeds.toNat),
    (text "successful_seeds", decimal result.successfulSeeds.toNat),
    (text "declared_failures", decimal result.declaredFailures.toNat),
    (text "repeated_identity_samples", decimal result.repeatedIdentitySamples.toNat),
    (text "identity_mismatches", decimal result.identityMismatches.toNat),
    (text "crashes", decimal result.crashes.toNat),
    (text "deadlocks", decimal result.deadlocks.toNat),
    (text "unbounded_failures", decimal result.unboundedFailures.toNat),
    (text "edge_frame_cases", decimal result.edgeFrameCases.toNat),
    (text "queue_overflow_failures", decimal result.queueOverflowFailures.toNat),
    (text "timeout_failures", decimal result.timeoutFailures.toNat),
    (text "loss_rate_scenarios", inlineObject result.lossRateFields),
    (text "identity_digest", decimal result.identityDigest.toNat),
    (text "full_sweep_repeated", boolText result.fullSweepRepeated),
    (text "success", boolText result.success)]

def canonicalJson (result : PropertySweepResult) : List UInt8 :=
  Json.objectText (text "\n  ") (text "\n") result.fields ++ text "\n"

/-- What the text says. -/
def json (result : PropertySweepResult) : Json :=
  .object [(text "pcg32_version", .number kPcg32AlgorithmVersion.toNat 0),
    (text "start_seed", .number result.startSeed.toNat 0),
    (text "total_seeds", .number result.totalSeeds.toNat 0),
    (text "successful_seeds", .number result.successfulSeeds.toNat 0),
    (text "declared_failures", .number result.declaredFailures.toNat 0),
    (text "repeated_identity_samples", .number result.repeatedIdentitySamples.toNat 0),
    (text "identity_mismatches", .number result.identityMismatches.toNat 0),
    (text "crashes", .number result.crashes.toNat 0),
    (text "deadlocks", .number result.deadlocks.toNat 0),
    (text "unbounded_failures", .number result.unboundedFailures.toNat 0),
    (text "edge_frame_cases", .number result.edgeFrameCases.toNat 0),
    (text "queue_overflow_failures", .number result.queueOverflowFailures.toNat 0),
    (text "timeout_failures", .number result.timeoutFailures.toNat 0),
    (text "loss_rate_scenarios", .object
      [(text "0", .number (result.lossRateCount 0) 0), (text "1", .number (result.lossRateCount 1) 0),
        (text "5", .number (result.lossRateCount 2) 0), (text "20", .number (result.lossRateCount 3) 0)]),
    (text "identity_digest", .number result.identityDigest.toNat 0),
    (text "full_sweep_repeated", .bool result.fullSweepRepeated),
    (text "success", .bool result.success)]

end PropertySweepResult

end RollbackLab
