import RollbackLab.PeerDriver
import RollbackLab.Trace

/-!
# The seeded scenario

Both peers of a match over the seeded transport, one logical tick a step. While frames are
left a step feeds both peers the script and lets them send; then it only repeats what was
sent, and at last it drains the transport. A completed run judges itself: it reports, and
it verifies the replay of what was pressed.
-/

namespace RollbackLab

structure ScenarioRunConfig where
  scenarioSeed : UInt64 := 1
  transportSeed : UInt64 := 2
  frameCount : UInt32 := 600
  transport : TransportConfig := {}
  peerBVariant : SimulationVariant := .canonical
  captureTrace : Bool := true
  tailRedundancyTicks : UInt32 := 64
  deriving DecidableEq, Repr

structure ScenarioArtifacts where
  report : RunReport := {}
  replay : Replay := {}
  trace : Trace := {}
  desyncDiagnostic : Option DesyncDiagnostic := none
  deriving DecidableEq, Repr

structure LiveCorrection where
  result : CorrectionResult := {}
  before : WorldState := {}
  after : WorldState := {}
  deriving DecidableEq, Repr

/-- One value for each peer. -/
structure Sides (α : Type) where
  a : α
  b : α
  deriving DecidableEq, Repr

namespace Sides

variable {α : Type}

def of (sides : Sides α) : PlayerId → α
  | .a => sides.a
  | .b => sides.b

def put (sides : Sides α) (side : PlayerId) (value : α) : Sides α :=
  match side with
  | .a => { sides with a := value }
  | .b => { sides with b := value }

@[simp] theorem of_put_self (sides : Sides α) (side : PlayerId) (value : α) :
    (sides.put side value).of side = value := by
  cases side <;> rfl

theorem of_put (sides : Sides α) (side other : PlayerId) (value : α) :
    (sides.put side value).of other = if other = side then value else sides.of other := by
  cases side <;> cases other <;> rfl

end Sides

def PlayerId.endpoint : PlayerId → Endpoint
  | .a => .a
  | .b => .b

/-- Whatever is not meant for the first peer is handed to the second. -/
def Endpoint.side (endpoint : Endpoint) : PlayerId := if endpoint = .a then .a else .b

@[simp] theorem PlayerId.side_endpoint (id : PlayerId) : id.endpoint.side = id := by
  cases id <;> rfl

/-! ## Packets -/

def windowFrom (history : List InputFrame) : List InputFrame := inputWindow history

def makePacket (sender : RollbackSession) (history : List InputFrame) (scenarioId : UInt64)
    (sequence : UInt32) : Packet :=
  let session := sender.report
  { type := .input
    sender := session.localPeer
    sequence := sequence
    ack := session.metrics.confirmedFrame.value
    scenarioId := scenarioId
    confirmedFrame := session.metrics.confirmedFrame
    inputs := windowFrom history
    confirmedHashes := confirmedHashWindow sender }

def peerDiagnosticInputs (session : RollbackSession) (boundary : FrameNumber) : List InputPair :=
  diagnosticInputs session boundary

def sendPacket (transport : SeededTransport) (trace : Trace) (captureTrace : Bool) (packet : Packet)
    (sender receiver : Endpoint) (tick : LogicalTick) :
    Result Unit × SeededTransport × Trace :=
  match encodePacket packet with
  | .error error => (.error error, transport, trace)
  | .ok encoded =>
    let before := transport.metrics
    match transport.send sender receiver encoded tick with
    | (.error error, transport) => (.error error, transport, trace)
    | (.ok _, transport) =>
      (.ok (), transport, trace.recordSendEffects captureTrace tick sender receiver packet.sequence
        before transport.metrics)

/-! ## Deliveries -/

/-- What a delivery works on. -/
structure DeliveryContext where
  peer : Sides RollbackSession
  window : Sides SequenceWindow
  desync : Sides DesyncTracker
  trace : Trace
  captureTrace : Bool
  corrections : Sides LiveCorrection

namespace DeliveryContext

/-- Ingest one input after the other, up to the first that is refused. -/
def ingestInputs (session : RollbackSession) : List InputFrame → Result Unit × RollbackSession :=
  PeerRuntime.ingestInputs session

def recordCorrection (context : DeliveryContext) (receiver : PlayerId) (before : WorldState)
    (correction : CorrectionResult) : DeliveryContext :=
  if !correction.performed then context
  else
    let after := (context.peer.of receiver).report.state
    { context with
      corrections := context.corrections.put receiver ⟨correction, before, after⟩
      trace :=
        if context.captureTrace then
          context.trace.pushRollback
            ⟨after.frame, correction.rollbackFrom, correction.resimulatedFrames⟩
        else context.trace }

/-- Compare a confirmed hash of the sender with the receiver's own, if it has one. -/
def compareHash (receiver : PlayerId) (context : DeliveryContext) (remoteHash : ConfirmedHash) :
    DeliveryContext :=
  let session := context.peer.of receiver
  match session.hashAt remoteHash.frame with
  | .error _ => context
  | .ok localHash =>
    if localHash = remoteHash.hash then context
    else
      match session.stateAt remoteHash.frame with
      | .error _ => context
      | .ok localState =>
        let tracker := (context.desync.of receiver).observe ⟨remoteHash.frame, localHash, true⟩
          ⟨remoteHash.frame, remoteHash.hash, true⟩
          (peerDiagnosticInputs session remoteHash.frame) localState
        { context with
          desync := context.desync.put receiver tracker
          trace :=
            match tracker.diagnostic with
            | none => context.trace
            | some diagnostic =>
              if context.captureTrace then
                { context.trace with
                  desync := some ⟨diagnostic.earliestDivergentFrame, diagnostic.localHash,
                    diagnostic.remoteHash⟩ }
              else context.trace }

/-- What a packet that is neither a duplicate nor stale does to its receiver. -/
def receive (context : DeliveryContext) (receiver : PlayerId) (packet : Packet) :
    Result Unit × DeliveryContext :=
  match ingestInputs (context.peer.of receiver) packet.inputs with
  | (.error error, session) =>
    (.error error, { context with peer := context.peer.put receiver session })
  | (.ok _, session) =>
    let before := session.report.state
    match session.flushCorrections with
    | (.error error, session) =>
      (.error error, { context with peer := context.peer.put receiver session })
    | (.ok correction, session) =>
      let context := { context with peer := context.peer.put receiver session }
      let context := context.recordCorrection receiver before correction
      (.ok (), packet.confirmedHashes.foldl (compareHash receiver) context)

def recordDelivery (context : DeliveryContext) (delivery : Delivery) (sequence : UInt32) :
    DeliveryContext :=
  if context.captureTrace then
    { context with
      trace := context.trace.pushPacketEvent
        ⟨delivery.deliveredAt, .delivered, delivery.sender, delivery.receiver, sequence⟩ }
  else context

def processDelivery (context : DeliveryContext) (delivery : Delivery) :
    Result Unit × DeliveryContext :=
  match decodePacket delivery.bytes with
  | .error error => (.error error, context)
  | .ok packet =>
    let receiver := delivery.receiver.side
    let (disposition, window) := (context.window.of receiver).observe packet.sequence
    let context := { context with window := context.window.put receiver window }
    let context := context.recordDelivery delivery packet.sequence
    if disposition = .duplicate ∨ disposition = .stale then (.ok (), context)
    else context.receive receiver packet

/-- Process one delivery after the other, up to the first that fails. -/
def processAll (context : DeliveryContext) : List Delivery → Result Unit × DeliveryContext
  | [] => (.ok (), context)
  | delivery :: deliveries =>
    match context.processDelivery delivery with
    | (.error error, context) => (.error error, context)
    | (.ok _, context) => processAll context deliveries

end DeliveryContext

def processTick (transport : SeededTransport) (tick : LogicalTick) (context : DeliveryContext) :
    Result Unit × SeededTransport × DeliveryContext :=
  let (deliveries, transport) := transport.deliver tick
  let (processed, context) := context.processAll deliveries
  (processed, transport, context)

def accumulateCheckpoint (replay : Replay) (state : WorldState) (force : Bool) : Replay :=
  if force ∨ state.frame.value % 30 = 0 then
    { replay with checkpoints := replay.checkpoints ++ [⟨state.frame, hashCanonical state⟩] }
  else replay

/-! ## The scenario -/

/-- The trace of the artifacts is the one that deliveries write to. -/
structure LiveScenario where
  config : ScenarioRunConfig
  report : RunReport := {}
  replay : Replay
  desyncDiagnostic : Option DesyncDiagnostic := none
  transportConfig : TransportConfig
  transport : SeededTransport
  context : DeliveryContext
  history : Sides (List InputFrame) := ⟨[], []⟩
  replayState : WorldState := makeInitialWorld
  sequence : Sides UInt32 := ⟨1, 1⟩
  tickIndex : UInt32 := 0
  finished : Bool := false
  failure : Option Error := none

namespace LiveScenario

open Numeral (text)

def artifacts (live : LiveScenario) : ScenarioArtifacts :=
  ⟨live.report, live.replay, live.context.trace, live.desyncDiagnostic⟩

def logicalTick (live : LiveScenario) : UInt32 := live.tickIndex

def correction (live : LiveScenario) (peer : PlayerId) : LiveCorrection :=
  live.context.corrections.of peer

def seededConfig (source : ScenarioRunConfig) : TransportConfig :=
  { source.transport with seed := source.transportSeed }

/-- A scenario before its first step. -/
def start (config : ScenarioRunConfig) (peerA peerB : RollbackSession) : LiveScenario where
  config := config
  replay :=
    { scenarioSeed := config.scenarioSeed
      transportSeed := config.transportSeed
      finalFrame := ⟨config.frameCount⟩ }
  transportConfig := seededConfig config
  transport := .create (seededConfig config)
  context :=
    { peer := ⟨peerA, peerB⟩
      window := ⟨{}, {}⟩
      desync := ⟨⟨config.scenarioSeed, none⟩, ⟨config.scenarioSeed, none⟩⟩
      trace :=
        { scenarioSeed := config.scenarioSeed
          sampleInterval := traceSampleInterval config.frameCount
          frames :=
            if config.captureTrace then
              [⟨⟨0⟩, peerA.report.state, peerA.report.finalHash, false, ⟨0⟩⟩]
            else [] }
      captureTrace := config.captureTrace
      corrections := ⟨{}, {}⟩ }

/-- One session cannot be both peers, since it has one peer id. -/
def create (config : ScenarioRunConfig) (peerA peerB : RollbackSession) : Result LiveScenario :=
  if config.frameCount = 0 ∨ kMaxReplayFrames < config.frameCount.toNat ∨
      0xFFFFFFFF - config.frameCount - 32 < config.tailRedundancyTicks then
    .error ⟨.invalidArgument, config.frameCount.toUInt64, 0, "scenario_frame_count"⟩
  else if peerA.report.localPeer ≠ .a ∨ peerB.report.localPeer ≠ .b ∨
      peerA.report.state ≠ makeInitialWorld ∨ peerB.report.state ≠ makeInitialWorld then
    .error ⟨.invalidArgument, 0, 0, "live_session_ownership"⟩
  else .ok (start config peerA peerB)

/-- The diagnostic of the tracker that saw the earlier divergence. -/
def chooseDiagnostic (a b : Option DesyncDiagnostic) : Option DesyncDiagnostic :=
  match a, b with
  | none, b => b
  | some a, none => some a
  | some a, some b =>
    if frameBefore b.earliestDivergentFrame a.earliestDivergentFrame then some b else some a

def buildReport (live : LiveScenario) : RunReport :=
  let reportA := live.context.peer.a.report
  let reportB := live.context.peer.b.report
  let confirmedFrame :=
    if frameBefore reportA.metrics.confirmedFrame reportB.metrics.confirmedFrame then
      reportA.metrics.confirmedFrame
    else reportB.metrics.confirmedFrame
  let replayVerified := (verifyReplay live.replay).isOk
  let desync := live.context.desync.a.diagnostic.isSome || live.context.desync.b.diagnostic.isSome
  let success := confirmedFrame == ⟨live.config.frameCount⟩ &&
    reportA.finalHash == reportB.finalHash && reportA.finalHash == live.replay.expectedFinalHash &&
    replayVerified && !desync
  { buildType := buildName
    compiler := compilerName
    os := osName
    scenarioSeed := live.config.scenarioSeed
    transportSeed := live.config.transportSeed
    frameCount := live.config.frameCount
    transportConfig := live.transportConfig
    transportMetrics := live.transport.metrics
    rollbackCount := (reportA.metrics.rollbackCount + reportB.metrics.rollbackCount).toUInt64
    resimulatedFrames :=
      reportA.metrics.totalResimulatedFrames + reportB.metrics.totalResimulatedFrames
    maximumRollbackDepth :=
      max reportA.metrics.maximumRollbackDepth reportB.metrics.maximumRollbackDepth
    predictedInputCount :=
      reportA.metrics.predictedInputCount + reportB.metrics.predictedInputCount
    lateInputCount := reportA.metrics.lateInputCount + reportB.metrics.lateInputCount
    confirmedFrame
    finalHashA := reportA.finalHash
    finalHashB := reportB.finalHash
    replayVerified
    desyncResult := if desync then text "detected" else text "none"
    success
    failureReason :=
      if success then []
      else if desync then text "confirmed state hash desync" else text "peers did not converge" }

/-- A desync is a result; a run that ends without one has to have converged. -/
def judge (live : LiveScenario) : Result Bool :=
  if live.context.desync.a.diagnostic.isSome || live.context.desync.b.diagnostic.isSome then .ok true
  else if !live.report.success then
    .error ⟨if live.report.confirmedFrame ≠ ⟨live.config.frameCount⟩ then .timeout
        else .replayMismatch,
      live.report.confirmedFrame.value.toUInt64, 0, "seeded_scenario"⟩
  else .ok true

def setPeer (live : LiveScenario) (id : PlayerId) (session : RollbackSession) : LiveScenario :=
  { live with context := { live.context with peer := live.context.peer.put id session } }

def finalize (live : LiveScenario) : Result Bool × LiveScenario :=
  let (correctionA, peerA) := (live.context.peer.of .a).flushCorrections
  let live := live.setPeer .a peerA
  let (correctionB, peerB) := (live.context.peer.of .b).flushCorrections
  let live := live.setPeer .b peerB
  match correctionA, correctionB with
  | .error error, _ => (.error error, live)
  | .ok _, .error error => (.error error, live)
  | .ok _, .ok _ =>
    let live :=
      { live with
        desyncDiagnostic := chooseDiagnostic live.context.desync.a.diagnostic
          live.context.desync.b.diagnostic
        report := live.buildReport }
    (live.judge, live)

/-- Let one peer send its packet to the other. -/
def send (live : LiveScenario) (id : PlayerId) (tick : LogicalTick) : Result Unit × LiveScenario :=
  let sequence := live.sequence.of id
  let packet := makePacket (live.context.peer.of id) (live.history.of id) live.config.scenarioSeed
    sequence
  let live := { live with sequence := live.sequence.put id (sequence + 1) }
  let (sent, transport, trace) := sendPacket live.transport live.context.trace
    live.config.captureTrace packet id.endpoint (remoteId id).endpoint tick
  (sent, { live with transport, context := { live.context with trace } })

/-- Both peers send, also when the first of them fails. -/
def sendBoth (live : LiveScenario) (tick : LogicalTick) : Result Unit × LiveScenario :=
  let (sentA, live) := live.send .a tick
  let (sentB, live) := live.send .b tick
  match sentA with
  | .error error => (.error error, live)
  | .ok _ => (sentB, live)

def process (live : LiveScenario) (tick : LogicalTick) : Result Unit × LiveScenario :=
  let (processed, transport, context) := processTick live.transport tick live.context
  (processed, { live with transport, context })

/-- Both peers advance, also when the first of them fails. -/
def advanceBoth (live : LiveScenario) (inputs : InputPair) : Result Unit × LiveScenario :=
  let (advancedA, peerA) := (live.context.peer.of .a).advance inputs.a
  let live := live.setPeer .a peerA
  let (advancedB, peerB) := (live.context.peer.of .b).advance inputs.b
  let live := live.setPeer .b peerB
  match advancedA, advancedB with
  | .error error, _ => (.error error, live)
  | .ok _, .error error => (.error error, live)
  | .ok _, .ok _ => (.ok (), live)

def sampleFrame (live : LiveScenario) (frame : UInt32) : LiveScenario :=
  if live.config.captureTrace ∧ ((frame + 1) % live.context.trace.sampleInterval = 0 ∨
      frame + 1 = live.config.frameCount) then
    let report := live.context.peer.a.report
    { live with
      context :=
        { live.context with
          trace := live.context.trace.pushFrame ⟨report.state.frame, report.state, report.finalHash,
            report.metrics.confirmedFrame ≠ report.state.frame, report.metrics.confirmedFrame⟩ } }
  else live

/-- The inputs of a frame: those of the script, unless a player overrides the first. -/
def frameInputs (config : ScenarioRunConfig) (number : FrameNumber) (localButtons : Option UInt8) :
    InputPair :=
  let inputA := scriptedInput config.scenarioSeed number .a
  let inputB := scriptedInput config.scenarioSeed number .b
  ⟨{ inputA with buttons := localButtons.getD inputA.buttons }, inputB⟩

/-- Note what is pressed in a frame, and simulate it directly for the replay. -/
def record (live : LiveScenario) (frame : UInt32) (inputs : InputPair) :
    Result Unit × LiveScenario :=
  let live :=
    { live with
      history := ⟨live.history.a ++ [inputs.a], live.history.b ++ [inputs.b]⟩
      replay := { live.replay with confirmedInputs := live.replay.confirmedInputs ++ [inputs] } }
  match simulateFrame live.replayState ⟨frame⟩ inputs with
  | .error error => (.error error, live)
  | .ok direct =>
    (.ok (),
      { live with
        replayState := direct
        replay := accumulateCheckpoint live.replay direct (frame + 1 == live.config.frameCount) })

/-- A tick of the match. -/
def playFrame (live : LiveScenario) (localButtons : Option UInt8) : Result Unit × LiveScenario :=
  let frame := live.tickIndex
  let inputs := frameInputs live.config ⟨frame⟩ localButtons
  match live.record frame inputs with
  | (.error error, live) => (.error error, live)
  | (.ok _, live) =>
    match live.sendBoth ⟨frame⟩ with
    | (.error error, live) => (.error error, live)
    | (.ok _, live) =>
      match live.process ⟨frame⟩ with
      | (.error error, live) => (.error error, live)
      | (.ok _, live) =>
        match live.advanceBoth inputs with
        | (.error error, live) => (.error error, live)
        | (.ok _, live) =>
          let live := live.sampleFrame frame
          if live.tickIndex + 1 = live.config.frameCount then
            (.ok (),
              { live with
                replay :=
                  { live.replay with expectedFinalHash := hashCanonical live.replayState } })
          else (.ok (), live)

/-- A tick after the match, in which the last inputs are sent again. -/
def repeatTail (live : LiveScenario) : Result Unit × LiveScenario :=
  let tick : LogicalTick :=
    ⟨live.config.frameCount + (live.tickIndex - live.config.frameCount)⟩
  match live.sendBoth tick with
  | (.error error, live) => (.error error, live)
  | (.ok _, live) => live.process tick

def tickOnce (live : LiveScenario) (localButtons : Option UInt8) : Result Unit × LiveScenario :=
  if live.tickIndex < live.config.frameCount then live.playFrame localButtons
  else if live.tickIndex < live.config.frameCount + live.config.tailRedundancyTicks then
    live.repeatTail
  else live.process ⟨live.tickIndex⟩

def clearCorrections (live : LiveScenario) : LiveScenario :=
  let clear := fun correction : LiveCorrection =>
    { correction with result := { correction.result with performed := false } }
  { live with
    context :=
      { live.context with
        corrections := ⟨clear live.context.corrections.a, clear live.context.corrections.b⟩ } }

def stepOnce (live : LiveScenario) (localButtons : Option UInt8) : Result Bool × LiveScenario :=
  match live.clearCorrections.tickOnce localButtons with
  | (.error error, live) => (.error error, live)
  | (.ok _, live) =>
    let live := { live with tickIndex := live.tickIndex + 1 }
    if live.tickIndex = live.config.frameCount + live.config.tailRedundancyTicks + 32 then
      live.finalize
    else (.ok false, live)

/-- Failures are kept, except that of a refused button. -/
def step (live : LiveScenario) (localButtons : Option UInt8 := none) : Result Bool × LiveScenario :=
  match live.failure with
  | some error => (.error error, live)
  | none =>
    if live.finished then (.ok true, live)
    else if localButtons.any (fun buttons => buttons &&& 0xE0 ≠ 0) then
      (.error ⟨.invalidArgument, (localButtons.getD 0).toUInt64, 0, "live_buttons"⟩, live)
    else
      match live.stepOnce localButtons with
      | (.error error, live) => (.error error, { live with failure := some error })
      | (.ok finished, live) => (.ok finished, { live with finished })

/-- Step up to the given number of times, until the run is complete. -/
def runSteps (live : LiveScenario) : ℕ → Result ScenarioArtifacts
  | 0 => .error ⟨.timeout, live.logicalTick.toUInt64, 0, "live_runner"⟩
  | rounds + 1 =>
    match live.step with
    | (.error error, _) => .error error
    | (.ok true, live) => .ok live.artifacts
    | (.ok false, live) => live.runSteps rounds

end LiveScenario

def runSeededScenario (config : ScenarioRunConfig) : Result ScenarioArtifacts := do
  let peerA := RollbackSession.create { localPeer := .a }
  let peerB := RollbackSession.create { localPeer := .b, variant := config.peerBVariant }
  let run ← LiveScenario.create config peerA peerB
  run.runSteps (config.frameCount + config.tailRedundancyTicks + 32).toNat

end RollbackLab
