import RollbackLab.PacketCodec
import RollbackLab.ReplayVerification
import RollbackLab.Report
import RollbackLab.ScriptedInput
import RollbackLab.SequenceWindow

/-!
# The UDP peer driver

One peer of a match over datagrams. A driver borrows a session, greets its partner,
then advances one frame a step while it exchanges inputs and confirmed hashes, and at
last builds a replay of what was confirmed. The operating system's answers to the socket
calls of a step are given to it from outside; a driver leaves behind what it has sent.
-/

namespace RollbackLab

structure PeerConfig where
  id : PlayerId := .a
  relayPort : UInt16 := 0
  scenarioSeed : UInt64 := 1
  transportSeed : UInt64 := 2
  frameCount : UInt32 := 120
  protocolVersionOverride : UInt16 := 1
  simulationVersionOverride : UInt32 := kSimulationVersion
  handshakeTimeoutMilliseconds : UInt32 := 1000
  runTimeoutMilliseconds : UInt32 := 4000
  engineAbiVersion : UInt32 := 0
  advertisedAbiVersion : UInt32 := 0
  deriving DecidableEq, Repr

inductive PeerPhase where
  | handshake | running | confirming | finished | failed
  deriving DecidableEq, Repr, Inhabited

structure PeerStep where
  logicalTick : UInt32 := 0
  phase : PeerPhase := .handshake
  handshakeComplete : Bool := false
  deriving DecidableEq, Repr

structure PeerCorrection where
  result : CorrectionResult := {}
  before : WorldState := {}
  after : WorldState := {}
  deriving DecidableEq, Repr

/-! ## The socket -/

structure Datagram where
  bytes : List UInt8
  sourcePort : UInt16
  deriving DecidableEq, Repr

/-- The answers of the operating system to the calls to come, and the datagrams sent so
far. Once the answers run out, sending succeeds and nothing is received. -/
structure UdpSocket where
  sendResults : List (Result Unit) := []
  receiveResults : List (Result (Option Datagram)) := []
  sent : List Datagram := []

namespace UdpSocket

def sendLoopback (socket : UdpSocket) (port : UInt16) (bytes : List UInt8) :
    Result Unit × UdpSocket :=
  if 65507 < bytes.length then
    (.error ⟨.invalidLength, UInt64.ofNat bytes.length, 0, "udp_send"⟩, socket)
  else
    match socket.sendResults.headD (.ok ()) with
    | .error error => (.error error, { socket with sendResults := socket.sendResults.tail })
    | .ok _ =>
      (.ok (),
        { socket with
          sendResults := socket.sendResults.tail
          sent := socket.sent ++ [⟨bytes, port⟩] })

def receive (socket : UdpSocket) : Result (Option Datagram) × UdpSocket :=
  (socket.receiveResults.headD (.ok none),
    { socket with receiveResults := socket.receiveResults.tail })

end UdpSocket

/-! ## Packets in and out -/

structure PeerRuntime where
  session : RollbackSession
  sequences : SequenceWindow := {}
  desync : DesyncTracker
  localHistory : List InputFrame := []
  remoteFinalHash : Option StateHash := none
  metrics : TransportMetrics := {}
  nextSequence : UInt32 := 2
  correction : PeerCorrection := {}
  diagnostic : Option DesyncDiagnostic := none

def remoteId (loc : PlayerId) : PlayerId := if loc = .a then .b else .a

def engineProfile : List UInt8 :=
  "RollbackLab.engine-udp-v1".toList.map fun character => UInt8.ofNat character.toNat

def scenarioConfigDigest (config : PeerConfig) : StateHash :=
  let bytes : ByteWriter := {}
  let bytes :=
    if config.engineAbiVersion ≠ 0 then
      let bytes := engineProfile.foldl (fun bytes byte => bytes.appendLittleEndian byte) bytes
      let bytes := bytes.appendLittleEndian
        (if config.advertisedAbiVersion ≠ 0 then config.advertisedAbiVersion
          else config.engineAbiVersion)
      let bytes := bytes.appendLittleEndian config.protocolVersionOverride
      bytes.appendLittleEndian config.transportSeed
    else bytes
  let bytes := bytes.appendLittleEndian config.scenarioSeed
  let bytes := bytes.appendLittleEndian config.frameCount
  let bytes := bytes.appendLittleEndian config.simulationVersionOverride
  let bytes := bytes.appendLittleEndian kProtocolVersion
  fnv1a64 bytes.bytes

/-- What the partner is expected to have announced. -/
def PeerConfig.expected (config : PeerConfig) : PeerConfig :=
  { config with
    simulationVersionOverride := kSimulationVersion
    protocolVersionOverride := kProtocolVersion.toUInt16
    advertisedAbiVersion := config.engineAbiVersion }

def validHello (config : PeerConfig) (packet : Packet) : Result Unit :=
  if packet.type ≠ .hello ∨ packet.sender ≠ remoteId config.id ∨
      packet.scenarioId ≠ config.scenarioSeed then
    .error ⟨.invalidArgument, packet.scenarioId, 0, "udp_hello_identity"⟩
  else
    match packet.hello with
    | none => .error ⟨.invalidArgument, packet.scenarioId, 0, "udp_hello_identity"⟩
    | some hello =>
      if hello.simulationVersion ≠ kSimulationVersion then
        .error ⟨.unsupportedVersion, hello.simulationVersion.toUInt64, 0, "udp_simulation_version"⟩
      else if hello.targetFrame ≠ config.frameCount ∨
          hello.scenarioConfigDigest ≠ scenarioConfigDigest config.expected then
        .error ⟨.invalidArgument, hello.scenarioConfigDigest, 0,
          if config.engineAbiVersion ≠ 0 then "udp_engine_profile" else "udp_scenario_config"⟩
      else .ok ()

def helloPacket (config : PeerConfig) : Packet where
  type := .hello
  sender := config.id
  sequence := 1
  scenarioId := config.scenarioSeed
  hello := some ⟨config.simulationVersionOverride, scenarioConfigDigest config, config.frameCount⟩

/-- An overridden version is written over the encoded one, under a new checksum. -/
def encodeHello (config : PeerConfig) : Result (List UInt8) :=
  match encodePacket (helloPacket config) with
  | .error error => .error error
  | .ok bytes =>
    if config.protocolVersionOverride.toUInt32 ≠ kProtocolVersion then
      let bytes := ((ByteWriter.mk bytes).patchU16 4 config.protocolVersionOverride).bytes
      let covered := bytes.take (bytes.length - 4)
      .ok (covered ++ LittleEndian.encode (crc32 covered))
    else .ok bytes

def inputWindow (history : List InputFrame) : List InputFrame :=
  history.drop (history.length - min history.length kMaxRedundantInputs)

/-- Walk back from the confirmed boundary while there are hashes. -/
def hashesBack (session : RollbackSession) (confirmed : FrameNumber) :
    (remaining offset : ℕ) → List ConfirmedHash
  | 0, _ => []
  | remaining + 1, offset =>
    let frame : FrameNumber := ⟨confirmed.value - UInt32.ofNat offset⟩
    match session.hashAt frame with
    | .error _ => []
    | .ok hash => ⟨frame, hash⟩ :: hashesBack session confirmed remaining (offset + 1)

def confirmedHashWindow (session : RollbackSession) : List ConfirmedHash :=
  (hashesBack session session.report.metrics.confirmedFrame kMaxConfirmedHashes 0).reverse

def inputsBack (session : RollbackSession) (boundary : FrameNumber) :
    (remaining offset : ℕ) → List InputPair
  | 0, _ => []
  | remaining + 1, offset =>
    let frame : FrameNumber := ⟨boundary.value - UInt32.ofNat offset⟩
    match session.confirmedInput .a frame, session.confirmedInput .b frame with
    | .ok inputA, .ok inputB =>
      ⟨inputA, inputB⟩ :: inputsBack session boundary remaining (offset + 1)
    | _, _ => []

def diagnosticInputs (session : RollbackSession) (boundary : FrameNumber) : List InputPair :=
  (inputsBack session boundary 32 1).reverse

namespace PeerRuntime

def inputPacket (config : PeerConfig) (runtime : PeerRuntime) : Packet :=
  let report := runtime.session.report
  { type := .input
    sender := config.id
    sequence := runtime.nextSequence
    ack := report.metrics.confirmedFrame.value
    scenarioId := config.scenarioSeed
    confirmedFrame := report.metrics.confirmedFrame
    inputs := inputWindow runtime.localHistory
    confirmedHashes := confirmedHashWindow runtime.session }

def sendInputs (config : PeerConfig) (runtime : PeerRuntime) (socket : UdpSocket) :
    Result Unit × PeerRuntime × UdpSocket :=
  let packet := runtime.inputPacket config
  let runtime := { runtime with nextSequence := runtime.nextSequence + 1 }
  match encodePacket packet with
  | .error error => (.error error, runtime, socket)
  | .ok encoded =>
    let runtime :=
      { runtime with
        metrics := { runtime.metrics with sentPackets := runtime.metrics.sentPackets + 1 } }
    let (sent, socket) := socket.sendLoopback config.relayPort encoded
    (sent, runtime, socket)

/-- Ingest one input after the other, up to the first that is refused. -/
def ingestInputs (session : RollbackSession) : List InputFrame → Result Unit × RollbackSession
  | [] => (.ok (), session)
  | input :: inputs =>
    match session.ingestRemote input with
    | (.error error, session) => (.error error, session)
    | (.ok _, session) => ingestInputs session inputs

/-- Compare one confirmed hash of the partner with the local one, if there is one. -/
def compareHash (config : PeerConfig) (runtime : PeerRuntime) (remote : ConfirmedHash) :
    Result Unit × PeerRuntime :=
  match runtime.session.hashAt remote.frame with
  | .error _ => (.ok (), runtime)
  | .ok loc =>
    if loc ≠ remote.hash then
      match runtime.session.stateAt remote.frame with
      | .error error => (.error error, runtime)
      | .ok localState =>
        let desync := runtime.desync.observe ⟨remote.frame, loc, true⟩
          ⟨remote.frame, remote.hash, true⟩ (diagnosticInputs runtime.session remote.frame) localState
        let runtime := { runtime with desync := desync }
        match desync.diagnostic with
        | none =>
          (.error ⟨.desync, remote.hash, remote.frame.value.toNat, "udp_desync_missing_diagnostic"⟩,
            runtime)
        | some diagnostic =>
          (.error ⟨.desync, remote.hash, remote.frame.value.toNat, "udp_confirmed_hash"⟩,
            { runtime with diagnostic := some diagnostic })
    else if remote.frame = ⟨config.frameCount⟩ then
      (.ok (), { runtime with remoteFinalHash := some remote.hash })
    else (.ok (), runtime)

def compareHashes (config : PeerConfig) (runtime : PeerRuntime) :
    List ConfirmedHash → Result Unit × PeerRuntime
  | [] => (.ok (), runtime)
  | remote :: hashes =>
    match runtime.compareHash config remote with
    | (.error error, runtime) => (.error error, runtime)
    | (.ok _, runtime) => compareHashes config runtime hashes

/-- An engine peer refuses inputs past the last frame of the match. -/
def checkTargets (config : PeerConfig) (inputs : List InputFrame) : Result Unit :=
  forM inputs fun input =>
    failIf (config.engineAbiVersion ≠ 0 ∧ config.frameCount ≤ input.frame.value)
      ⟨.frameMismatch, input.frame.value.toUInt64, 0, "udp_input_target"⟩

/-- What an input packet that is not a duplicate does. -/
def receiveInputs (config : PeerConfig) (runtime : PeerRuntime) (packet : Packet) :
    Result Unit × PeerRuntime :=
  match checkTargets config packet.inputs with
  | .error error => (.error error, runtime)
  | .ok _ =>
    let before := runtime.session.report.state
    match ingestInputs runtime.session packet.inputs with
    | (.error error, session) => (.error error, { runtime with session })
    | (.ok _, session) =>
      match session.flushCorrections with
      | (.error error, session) => (.error error, { runtime with session })
      | (.ok corrected, session) =>
        let runtime := { runtime with session }
        let runtime :=
          if corrected.performed then
            { runtime with correction := ⟨corrected, before, runtime.session.report.state⟩ }
          else runtime
        runtime.compareHashes config packet.confirmedHashes

def countDelivered (metrics : TransportMetrics) (disposition : SequenceDisposition) :
    TransportMetrics :=
  let metrics := { metrics with deliveredPackets := metrics.deliveredPackets + 1 }
  if disposition = .outOfOrder then
    { metrics with reorderedPackets := metrics.reorderedPackets + 1 }
  else metrics

def receivePacket (config : PeerConfig) (runtime : PeerRuntime) (packet : Packet) :
    Result Unit × PeerRuntime :=
  if packet.sender ≠ remoteId config.id ∨ packet.scenarioId ≠ config.scenarioSeed then
    (.error ⟨.invalidArgument, packet.scenarioId, 0, "peer_packet_identity"⟩, runtime)
  else if packet.type = .hello then (validHello config packet, runtime)
  else if packet.type ≠ .input then
    (.error ⟨.unknownPacketType, packet.type.value.toUInt64, 0, "peer_packet_type"⟩, runtime)
  else
    let (disposition, sequences) := runtime.sequences.observe packet.sequence
    let runtime := { runtime with sequences }
    if disposition = .duplicate ∨ disposition = .stale then (.ok (), runtime)
    else
      let runtime := { runtime with metrics := countDelivered runtime.metrics disposition }
      runtime.receiveInputs config packet

end PeerRuntime

/-- An engine peer takes datagrams from the relay only. -/
def decodeDatagram (config : PeerConfig) (datagram : Datagram) : Result Packet := do
  failIf (config.engineAbiVersion ≠ 0 ∧ datagram.sourcePort ≠ config.relayPort)
    ⟨.invalidArgument, datagram.sourcePort.toUInt64, 0, "udp_relay_source"⟩
  decodePacket datagram.bytes

namespace PeerRuntime

def receiveDatagram (config : PeerConfig) (runtime : PeerRuntime) (datagram : Datagram) :
    Result Unit × PeerRuntime :=
  match decodeDatagram config datagram with
  | .error error => (.error error, runtime)
  | .ok packet => runtime.receivePacket config packet

def receiveOne (config : PeerConfig) (runtime : PeerRuntime) (socket : UdpSocket) :
    Result Bool × PeerRuntime × UdpSocket :=
  match socket.receive with
  | (.error error, socket) => (.error error, runtime, socket)
  | (.ok none, socket) => (.ok false, runtime, socket)
  | (.ok (some datagram), socket) =>
    match runtime.receiveDatagram config datagram with
    | (.error error, runtime) => (.error error, runtime, socket)
    | (.ok _, runtime) => (.ok true, runtime, socket)

/-- Take what is ready, for the given number of rounds. -/
def drain (config : PeerConfig) (runtime : PeerRuntime) (socket : UdpSocket) :
    (rounds : ℕ) → Result Unit × PeerRuntime × UdpSocket
  | 0 => (.ok (), runtime, socket)
  | rounds + 1 =>
    match runtime.receiveOne config socket with
    | (.error error, runtime, socket) => (.error error, runtime, socket)
    | (.ok false, runtime, socket) => (.ok (), runtime, socket)
    | (.ok true, runtime, socket) => drain config runtime socket rounds

def drainAvailable (config : PeerConfig) (runtime : PeerRuntime) (socket : UdpSocket) :
    Result Unit × PeerRuntime × UdpSocket := drain config runtime socket 64

end PeerRuntime

/-! ## Artifacts -/

/-- One frame of the replay: its confirmed inputs, simulated from the world so far. -/
def buildFrame (config : PeerConfig) (session : RollbackSession) (built : Replay × WorldState)
    (index : ℕ) : Result (Replay × WorldState) :=
  let frame := UInt32.ofNat index
  match session.confirmedInput .a ⟨frame⟩, session.confirmedInput .b ⟨frame⟩ with
  | .ok inputA, .ok inputB => do
    let pair : InputPair := ⟨inputA, inputB⟩
    let state ← simulateFrame built.2 ⟨frame⟩ pair
    let replay := { built.1 with confirmedInputs := built.1.confirmedInputs ++ [pair] }
    if state.frame.value % 30 = 0 ∨ state.frame.value = config.frameCount then
      pure ({ replay with
              checkpoints := replay.checkpoints ++ [⟨state.frame, hashCanonical state⟩] }, state)
    else pure (replay, state)
  | _, _ => .error ⟨.staleFrame, frame.toUInt64, 0, "udp_replay_input"⟩

def buildReplay (config : PeerConfig) (session : RollbackSession) : Result Replay := do
  let replay : Replay :=
    { scenarioSeed := config.scenarioSeed
      transportSeed := config.transportSeed
      finalFrame := ⟨config.frameCount⟩ }
  let (replay, state) ← (List.range config.frameCount.toNat).foldlM (buildFrame config session)
    (replay, makeInitialWorld)
  pure { replay with expectedFinalHash := hashCanonical state }

structure PeerArtifacts where
  report : Option RunReport := none
  replay : List UInt8 := []
  deriving DecidableEq, Repr

namespace PeerRuntime

open Numeral (text)

def buildReport (config : PeerConfig) (runtime : PeerRuntime) : RunReport :=
  let session := runtime.session.report
  let remote := runtime.remoteFinalHash.getD 0
  let finalHashA := if config.id = .a then session.finalHash else remote
  let finalHashB := if config.id = .a then remote else session.finalHash
  let success := runtime.remoteFinalHash.isSome && finalHashA == finalHashB &&
    session.metrics.confirmedFrame == ⟨config.frameCount⟩
  { buildType := buildName
    compiler := compilerName
    os := text "POSIX"
    scenarioSeed := config.scenarioSeed
    transportSeed := config.transportSeed
    frameCount := config.frameCount
    transportMetrics := runtime.metrics
    rollbackCount := session.metrics.rollbackCount.toUInt64
    resimulatedFrames := session.metrics.totalResimulatedFrames
    maximumRollbackDepth := session.metrics.maximumRollbackDepth
    predictedInputCount := session.metrics.predictedInputCount
    lateInputCount := session.metrics.lateInputCount
    confirmedFrame := session.metrics.confirmedFrame
    finalHashA
    finalHashB
    replayVerified := true
    desyncResult := text "none"
    success
    failureReason :=
      if success then [] else text "udp peer did not confirm final remote hash" }

def buildArtifacts (config : PeerConfig) (runtime : PeerRuntime) : Result PeerArtifacts := do
  let replay ← buildReplay config runtime.session
  let _ ← verifyReplay replay
  let encoded ← encodeReplay replay
  let session := runtime.session.report
  failIf (config.engineAbiVersion ≠ 0 ∧ session.finalHash ≠ replay.expectedFinalHash)
    ⟨.replayMismatch, session.finalHash, config.frameCount.toNat, "udp_canonical_replay"⟩
  let report := runtime.buildReport config
  failIf (!report.success)
    ⟨.replayMismatch, session.finalHash, config.frameCount.toNat, "udp_peer_artifacts"⟩
  pure ⟨some report, encoded⟩

end PeerRuntime

/-! ## The driver -/

structure PeerDriver where
  config : PeerConfig
  runtime : PeerRuntime
  hello : List UInt8
  observation : PeerStep := {}
  failure : Option Error := none
  lastElapsed : UInt64 := 0
  runStarted : UInt64 := 0
  finalDrainProgress : UInt32 := 0
  artifacts : PeerArtifacts := {}

namespace PeerDriver

/-- `bound` is what the operating system answers to binding the socket. -/
def create (config : PeerConfig) (session : RollbackSession) (bound : Result Unit) :
    Result PeerDriver := do
  let report := session.report
  let limit := if config.engineAbiVersion ≠ 0 then 240 else 256
  failIf (config.frameCount = 0 ∨ limit < config.frameCount ∨ report.state.frame.value ≠ 0 ∨
      report.localPeer ≠ config.id)
    ⟨.invalidArgument, config.frameCount.toUInt64, 0, "udp_driver_config"⟩
  bound
  let hello ← encodeHello config
  pure { config, runtime := { session, desync := ⟨config.scenarioSeed, none⟩ }, hello }

/-- A step before the partner has been heard. -/
def shakeHands (driver : PeerDriver) (elapsed : UInt64) (socket : UdpSocket) :
    Result Unit × PeerDriver × UdpSocket :=
  if driver.config.handshakeTimeoutMilliseconds.toUInt64 ≤ elapsed then
    (.error ⟨.timeout, elapsed, 0, "peer_handshake"⟩, driver, socket)
  else
    match socket.sendLoopback driver.config.relayPort driver.hello with
    | (.error error, socket) => (.error error, driver, socket)
    | (.ok _, socket) =>
      match socket.receive with
      | (.error error, socket) => (.error error, driver, socket)
      | (.ok none, socket) => (.ok (), driver, socket)
      | (.ok (some datagram), socket) =>
        match decodeDatagram driver.config datagram with
        | .error error => (.error error, driver, socket)
        | .ok packet =>
          match validHello driver.config packet with
          | .error error => (.error error, driver, socket)
          | .ok _ =>
            match socket.sendLoopback driver.config.relayPort driver.hello with
            | (.error error, socket) => (.error error, driver, socket)
            | (.ok _, socket) =>
              (.ok (),
                { driver with
                  observation :=
                    { driver.observation with phase := .running, handshakeComplete := true }
                  runStarted := elapsed }, socket)

/-- A step of the match: take what is ready, advance one frame, send. -/
def runFrame (driver : PeerDriver) (socket : UdpSocket) : Result Unit × PeerDriver × UdpSocket :=
  match driver.runtime.drainAvailable driver.config socket with
  | (.error error, runtime, socket) => (.error error, { driver with runtime }, socket)
  | (.ok _, runtime, socket) =>
    let loc := scriptedInput driver.config.scenarioSeed runtime.session.report.state.frame
      driver.config.id
    let runtime := { runtime with localHistory := runtime.localHistory ++ [loc] }
    match runtime.session.advance loc with
    | (.error error, session) =>
      (.error error, { driver with runtime := { runtime with session } }, socket)
    | (.ok _, session) =>
      let runtime := { runtime with session }
      match runtime.sendInputs driver.config socket with
      | (.error error, runtime, socket) => (.error error, { driver with runtime }, socket)
      | (.ok _, runtime, socket) =>
        let driver := { driver with runtime }
        if runtime.session.report.state.frame = ⟨driver.config.frameCount⟩ then
          (.ok (), { driver with observation := { driver.observation with phase := .confirming } },
            socket)
        else (.ok (), driver, socket)

/-- A step after the last frame: send, take what is ready, and finish once both final
hashes have been known for long enough. -/
def confirmFinal (driver : PeerDriver) (socket : UdpSocket) :
    Result Unit × PeerDriver × UdpSocket :=
  match driver.runtime.sendInputs driver.config socket with
  | (.error error, runtime, socket) => (.error error, { driver with runtime }, socket)
  | (.ok _, runtime, socket) =>
    match runtime.drainAvailable driver.config socket with
    | (.error error, runtime, socket) => (.error error, { driver with runtime }, socket)
    | (.ok _, runtime, socket) =>
      let driver := { driver with runtime }
      if runtime.session.report.metrics.confirmedFrame = ⟨driver.config.frameCount⟩ ∧
          runtime.remoteFinalHash.isSome then
        let driver := { driver with finalDrainProgress := driver.finalDrainProgress + 1 }
        if 16 ≤ driver.finalDrainProgress then
          match runtime.buildArtifacts driver.config with
          | .error error => (.error error, driver, socket)
          | .ok artifacts =>
            (.ok (),
              { driver with
                artifacts
                observation := { driver.observation with phase := .finished } }, socket)
        else (.ok (), driver, socket)
      else (.ok (), { driver with finalDrainProgress := 0 }, socket)

def run (driver : PeerDriver) (elapsed : UInt64) (socket : UdpSocket) :
    Result Unit × PeerDriver × UdpSocket :=
  if driver.config.runTimeoutMilliseconds.toUInt64 ≤ elapsed - driver.runStarted then
    (.error ⟨.timeout, driver.runtime.session.report.state.frame.value.toUInt64, 0, "udp_peer_run"⟩,
      driver, socket)
  else if driver.observation.phase = .running then driver.runFrame socket
  else driver.confirmFinal socket

/-- Every failure of a working phase is kept. -/
def fail (driver : PeerDriver) (error : Error) : PeerDriver :=
  { driver with
    failure := some error
    observation := { driver.observation with phase := .failed } }

def clockReversed (elapsed : UInt64) : Error :=
  ⟨.invalidArgument, elapsed, 0, "udp_clock_reversed"⟩

/-- What a step starts from once its clock has been accepted. -/
def accept (driver : PeerDriver) (elapsed : UInt64) : PeerDriver :=
  { driver with
    lastElapsed := elapsed
    runtime := { driver.runtime with correction := {} } }

def tick (driver : PeerDriver) : PeerDriver :=
  { driver with
    observation :=
      { driver.observation with logicalTick := driver.observation.logicalTick + 1 } }

/-- The step of a working phase. -/
def work (driver : PeerDriver) (elapsed : UInt64) (socket : UdpSocket) :
    Result Unit × PeerDriver × UdpSocket :=
  if driver.observation.phase = .handshake then driver.shakeHands elapsed socket
  else driver.run elapsed socket

def step (driver : PeerDriver) (elapsed : UInt64) (socket : UdpSocket) :
    Result PeerStep × PeerDriver × UdpSocket :=
  match driver.failure with
  | some error => (.error error, driver, socket)
  | none =>
    if driver.observation.phase = .finished then (.ok driver.observation, driver, socket)
    else if elapsed < driver.lastElapsed then (.error (clockReversed elapsed), driver, socket)
    else
      match (driver.accept elapsed).work elapsed socket with
      | (.error error, driver, socket) => (.error error, driver.fail error, socket)
      | (.ok _, driver, socket) => (.ok driver.tick.observation, driver.tick, socket)

end PeerDriver

end RollbackLab
