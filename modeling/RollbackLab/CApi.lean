import RollbackLab.LiveScenario

/-!
# The C ABI

Behind the C ABI lie sessions, live drivers and UDP drivers, which its callers know by
handles. A live driver borrows two sessions and a UDP driver one: each steps the sessions
it refers to, and marks them so that nobody else does. A call returns its status, what it
writes through its output pointer, and the memory it leaves behind. All calls come from one
thread, and a handle that refers to nothing is outside the contract: it is taken like a
null handle.
-/

namespace RollbackLab

inductive RlStatus where
  | ok
  | invalidArgument
  | abiVersion
  | structSize
  | invalidPeer
  | invalidFrame
  | staleFrame
  | rollbackWindow
  | bufferTooSmall
  | internalFailure
  | wrongThread
  | borrowed
  | capacity
  | timeout
  | desync
  | io
  | replayMismatch
  | networkVersion
  | handshakeProfile
  | packet
  deriving DecidableEq, Repr, Inhabited

def toStatus : ErrorCode → RlStatus
  | .none => .ok
  | .internalFailure => .internalFailure
  | .invalidArgument => .invalidArgument
  | .frameMismatch => .invalidFrame
  | .staleFrame => .staleFrame
  | .rollbackWindowExceeded => .rollbackWindow
  | .unsupportedVersion => .abiVersion
  | .capacityExceeded | .queueOverflow => .capacity
  | .timeout => .timeout
  | .desync => .desync
  | .replayMismatch => .replayMismatch
  | .ioError => .io
  | _ => .internalFailure

def networkStatus (error : Error) : RlStatus :=
  if error.context = "udp_engine_profile" then .handshakeProfile
  else if error.code = .unsupportedVersion then .networkVersion
  else if error.context = "udp_relay_source" ∨ error.context = "peer_packet_identity" ∨
      error.context = "udp_hello_identity" then .packet
  else
    match error.code with
    | .invalidMagic | .unknownPacketType | .truncatedData | .invalidLength | .integrityMismatch =>
      .packet
    | code => toStatus code

/-! ## Records -/

def kRlApiVersion : UInt32 := 1
def kRlPeerA : UInt32 := 0
def kRlPeerB : UInt32 := 1
def kRlVariantDamageBias : UInt32 := 1

/-- What every record of the ABI begins with. -/
structure RlHeader where
  apiVersion : UInt32
  structSize : UInt32
  deriving DecidableEq, Repr

def initialized (size : UInt32) : RlHeader := ⟨kRlApiVersion, size⟩

structure RlSessionConfig where
  header : RlHeader := initialized 24
  localPeer : UInt32
  maxRollbackFrames : UInt32
  simulationVariant : UInt32 := 0
  reserved : UInt32 := 0
  deriving DecidableEq, Repr

structure RlInputFrame where
  header : RlHeader := initialized 24
  frame : UInt32
  sequence : UInt32
  peer : UInt32
  buttons : UInt8
  reserved : Vector UInt8 3 := .replicate 3 0
  deriving DecidableEq, Repr

structure RlAdvanceResult where
  header : RlHeader := initialized 24
  stateHash : UInt64
  simulatedFrame : UInt32
  predictedRemote : UInt32
  deriving DecidableEq, Repr

structure RlCorrectionResult where
  header : RlHeader := initialized 24
  performed : UInt32
  rollbackFrom : UInt32
  resimulatedFrames : UInt32
  deriving DecidableEq, Repr

structure RlLiveConfig where
  header : RlHeader := initialized 72
  scenarioSeed : UInt64
  transportSeed : UInt64
  frameCount : UInt32
  baseLatencyTicks : UInt32 := 0
  jitterTicks : UInt32 := 0
  lossPercent : UInt32 := 0
  reorderPercent : UInt32 := 0
  duplicatePercent : UInt32 := 0
  burstLossPercent : UInt32 := 0
  maxQueuePackets : UInt32
  maxQueueBytes : UInt32
  bandwidthBytesPerTick : UInt32
  maxPacketAgeTicks : UInt32
  tailRedundancyTicks : UInt32
  deriving DecidableEq, Repr

structure RlLiveStepResult where
  header : RlHeader := initialized 24
  logicalTick : UInt32
  finished : UInt32
  desyncDetected : UInt32
  earliestDivergentFrame : UInt32
  deriving DecidableEq, Repr

structure RlUdpConfig where
  header : RlHeader := initialized 72
  scenarioSeed : UInt64
  transportSeed : UInt64
  frameCount : UInt32
  listenPort : UInt32 := 0
  relayPort : UInt32
  handshakeTimeoutMs : UInt32
  runTimeoutMs : UInt32
  advertisedProtocolVersion : UInt32 := 0
  advertisedSimulationVersion : UInt32 := 0
  advertisedAbiProfileVersion : UInt32 := 0
  reserved : Vector UInt32 3 := .replicate 3 0
  deriving DecidableEq, Repr

structure RlUdpStepResult where
  header : RlHeader := initialized 32
  logicalTick : UInt32 := 0
  phase : UInt32 := 0
  finished : UInt32 := 0
  handshakeComplete : UInt32 := 0
  desyncDetected : UInt32 := 0
  earliestDivergentFrame : UInt32 := 0
  deriving DecidableEq, Repr

def PlayerId.ofPeer (peer : UInt32) : PlayerId := if peer = kRlPeerA then .a else .b

def SimulationVariant.ofNumber (variant : UInt32) : SimulationVariant :=
  if variant = kRlVariantDamageBias then .damageBias else .canonical

def PeerPhase.number : PeerPhase → UInt32
  | .handshake => 0
  | .running => 1
  | .confirming => 2
  | .finished => 3
  | .failed => 4

/-! ## Checks -/

def refuseIf (condition : Prop) [Decidable condition] (status : RlStatus) : Except RlStatus Unit :=
  if condition then .error status else .ok ()

/-- The record behind a pointer, if it has the version and the size that is expected. -/
def validate {α : Type} (size : UInt32) (header : α → RlHeader) (value : Option α) :
    Except RlStatus α :=
  match value with
  | none => .error .invalidArgument
  | some value =>
    if (header value).apiVersion ≠ kRlApiVersion then .error .abiVersion
    else if (header value).structSize ≠ size then .error .structSize
    else .ok value

def validateInput (value : Option RlInputFrame) : Except RlStatus RlInputFrame := do
  let value ← validate 24 RlInputFrame.header value
  refuseIf (kRlPeerB < value.peer) .invalidPeer
  refuseIf (value.buttons &&& 0xE0 ≠ 0 ∨ value.reserved ≠ .replicate 3 0) .invalidArgument
  return value

def validateLiveConfig (config : Option RlLiveConfig) : Except RlStatus RlLiveConfig := do
  let c ← validate 72 RlLiveConfig.header config
  refuseIf (c.frameCount = 0 ∨ 36000 < c.frameCount ∨ 10000 < c.baseLatencyTicks ∨
      10000 < c.jitterTicks ∨ 100 < c.lossPercent ∨ 100 < c.reorderPercent ∨
      100 < c.duplicatePercent ∨ 100 < c.burstLossPercent ∨ c.maxQueuePackets = 0 ∨
      65536 < c.maxQueuePackets ∨ c.maxQueueBytes = 0 ∨ 67108864 < c.maxQueueBytes ∨
      c.bandwidthBytesPerTick = 0 ∨ 67108864 < c.bandwidthBytesPerTick ∨
      c.maxPacketAgeTicks = 0 ∨ 100000 < c.maxPacketAgeTicks ∨ 4096 < c.tailRedundancyTicks)
    .invalidArgument
  return c

def validateUdpConfig (config : Option RlUdpConfig) : Except RlStatus RlUdpConfig := do
  let c ← validate 72 RlUdpConfig.header config
  refuseIf (c.frameCount = 0 ∨ 240 < c.frameCount ∨ 65535 < c.listenPort ∨ c.relayPort = 0 ∨
      65535 < c.relayPort ∨ c.listenPort = c.relayPort ∨ c.handshakeTimeoutMs = 0 ∨
      60000 < c.handshakeTimeoutMs ∨ c.runTimeoutMs = 0 ∨ 60000 < c.runTimeoutMs ∨
      65535 < c.advertisedProtocolVersion ∨ c.reserved ≠ .replicate 3 0)
    .invalidArgument
  return c

def nativeInput (value : RlInputFrame) : InputFrame :=
  ⟨⟨value.frame⟩, .ofPeer value.peer, value.sequence, value.buttons⟩

def nativeConfig (c : RlLiveConfig) : ScenarioRunConfig where
  scenarioSeed := c.scenarioSeed
  transportSeed := c.transportSeed
  frameCount := c.frameCount
  tailRedundancyTicks := c.tailRedundancyTicks
  captureTrace := true
  transport :=
    { baseLatencyTicks := c.baseLatencyTicks
      jitterTicks := c.jitterTicks
      lossPercent := c.lossPercent
      reorderPercent := c.reorderPercent
      duplicatePercent := c.duplicatePercent
      burstLossPercent := c.burstLossPercent
      maxQueuePackets := c.maxQueuePackets.toNat
      maxQueueBytes := c.maxQueueBytes.toNat
      bandwidthBytesPerTick := c.bandwidthBytesPerTick.toNat
      maxPacketAgeTicks := c.maxPacketAgeTicks }

/-- The driver of the peer that a session plays, for an engine. -/
def peerConfig (config : RlUdpConfig) (localPeer : UInt32) : PeerConfig where
  id := .ofPeer localPeer
  scenarioSeed := config.scenarioSeed
  transportSeed := config.transportSeed
  frameCount := config.frameCount
  relayPort := config.relayPort.toUInt16
  handshakeTimeoutMilliseconds := config.handshakeTimeoutMs
  runTimeoutMilliseconds := config.runTimeoutMs
  protocolVersionOverride :=
    (if config.advertisedProtocolVersion ≠ 0 then config.advertisedProtocolVersion
      else kProtocolVersion).toUInt16
  simulationVersionOverride :=
    if config.advertisedSimulationVersion ≠ 0 then config.advertisedSimulationVersion
    else kSimulationVersion
  engineAbiVersion := kRlApiVersion
  advertisedAbiVersion := config.advertisedAbiProfileVersion

/-! ## The objects behind the handles -/

structure RlSession where
  native : RollbackSession
  localPeer : UInt32
  borrowed : Bool := false
  touched : Bool := false

/-- `a` and `b` are the handles of the sessions, which the scenario plays. -/
structure RlLive where
  a : ℕ
  b : ℕ
  native : LiveScenario
  finished : Bool := false
  failure : RlStatus := .ok

structure RlUdpPeer where
  session : ℕ
  native : PeerDriver
  failure : RlStatus := .ok
  observation : RlUdpStepResult := {}

/-- The scenario with its sessions as they are now. -/
def RlLive.scenario (live : RlLive) (a b : RollbackSession) : LiveScenario :=
  { live.native with context := { live.native.context with peer := ⟨a, b⟩ } }

/-- The driver with its session as it is now. -/
def RlUdpPeer.driver (peer : RlUdpPeer) (session : RollbackSession) : PeerDriver :=
  { peer.native with runtime := { peer.native.runtime with session := session } }

/-- What a caller sees of a driver. -/
def RlUdpPeer.observe (peer : RlUdpPeer) : RlUdpPeer :=
  let native := peer.native.observation
  { peer with
    observation :=
      { peer.observation with
        logicalTick := native.logicalTick
        phase := native.phase.number
        finished := if native.phase = .finished then 1 else 0
        handshakeComplete := if native.handshakeComplete then 1 else 0 } }

structure RlMemory where
  sessions : ℕ → Option RlSession
  lives : ℕ → Option RlLive
  peers : ℕ → Option RlUdpPeer

/-- The status of a call, what it writes through its output pointer, and what it leaves. -/
structure RlReply (α : Type) where
  status : RlStatus
  output : Option α
  memory : RlMemory

namespace RlMemory

def empty : RlMemory := ⟨fun _ => none, fun _ => none, fun _ => none⟩

variable (memory : RlMemory)

def setSession (handle : ℕ) (session : RlSession) : RlMemory :=
  { memory with sessions := Function.update memory.sessions handle (some session) }

def setLive (handle : ℕ) (live : RlLive) : RlMemory :=
  { memory with lives := Function.update memory.lives handle (some live) }

def setPeer (handle : ℕ) (peer : RlUdpPeer) : RlMemory :=
  { memory with peers := Function.update memory.peers handle (some peer) }

/-- The mark of a session that may have gone stays as it is. -/
def release (handle : ℕ) : RlMemory :=
  match memory.sessions handle with
  | none => memory
  | some session => memory.setSession handle { session with borrowed := false }

/-- The object that a handle refers to. -/
def lookUp {α : Type} (objects : ℕ → Option α) (handle : Option ℕ) : Except RlStatus (ℕ × α) :=
  match handle with
  | none => .error .invalidArgument
  | some handle =>
    match objects handle with
    | none => .error .invalidArgument
    | some object => .ok (handle, object)

def checkSession (handle : Option ℕ) (mutation : Bool := false) : Except RlStatus (ℕ × RlSession) := do
  let (handle, session) ← lookUp memory.sessions handle
  refuseIf (mutation ∧ session.borrowed) .borrowed
  return (handle, session)

def checkLive (handle : Option ℕ) : Except RlStatus (ℕ × RlLive) := lookUp memory.lives handle

def checkPeer (handle : Option ℕ) : Except RlStatus (ℕ × RlUdpPeer × RlSession) := do
  let (handle, peer) ← lookUp memory.peers handle
  let (_, session) ← memory.checkSession (some peer.session)
  return (handle, peer, session)

/-- A call that refuses leaves everything as it was. -/
def refused {α : Type} (status : RlStatus) (output : Option α) : RlReply α :=
  ⟨status, output, memory⟩

/-! ## Sessions -/

/-- What the allocator answers: an address, or nothing when there is no memory. -/
def allocated (address : Option ℕ) : Except RlStatus ℕ :=
  match address with
  | none => .error .internalFailure
  | some address => .ok address

/-- `output` tells whether the output pointer is there. -/
def sessionCreate (config : Option RlSessionConfig) (output : Bool) (address : Option ℕ) :
    RlReply (Option ℕ) :=
  if !output then memory.refused .invalidArgument none
  else
    let created : Except RlStatus (ℕ × RlSession) := do
      let config ← validate 24 RlSessionConfig.header config
      refuseIf (kRlPeerB < config.localPeer) .invalidPeer
      refuseIf (config.maxRollbackFrames = 0 ∨ kDefaultMaxRollbackFrames < config.maxRollbackFrames ∨
          kRlVariantDamageBias < config.simulationVariant ∨ config.reserved ≠ 0)
        .invalidArgument
      let address ← allocated address
      return (address,
        { native := .create
            { localPeer := .ofPeer config.localPeer
              maxRollbackFrames := config.maxRollbackFrames
              variant := .ofNumber config.simulationVariant }
          localPeer := config.localPeer })
    match created with
    | .error status => memory.refused status (some none)
    | .ok (address, session) => ⟨.ok, some (some address), memory.setSession address session⟩

def sessionDestroy (session : Option ℕ) : RlReply Unit :=
  match memory.checkSession session true with
  | .error status => memory.refused status none
  | .ok (handle, _) =>
    ⟨.ok, none, { memory with sessions := Function.update memory.sessions handle none }⟩

def sessionAdvance (session : Option ℕ) (input : Option RlInputFrame) (output : Option RlHeader) :
    RlReply RlAdvanceResult :=
  let checked : Except RlStatus (ℕ × RlSession × RlInputFrame) := do
    let (handle, session) ← memory.checkSession session true
    let input ← validateInput input
    let _ ← validate 24 id output
    refuseIf (input.peer ≠ session.localPeer) .invalidPeer
    refuseIf (input.frame ≠ session.native.report.state.frame.value) .invalidFrame
    return (handle, session, input)
  match checked with
  | .error status => memory.refused status none
  | .ok (handle, session, input) =>
    match session.native.advance (nativeInput input) with
    | (.error error, native) =>
      ⟨toStatus error.code, none, memory.setSession handle { session with native }⟩
    | (.ok result, native) =>
      ⟨.ok,
        some
          { stateHash := result.stateHash
            simulatedFrame := result.simulatedFrame.value
            predictedRemote := if result.predictedRemote then 1 else 0 },
        memory.setSession handle { session with native, touched := true }⟩

def sessionIngestRemote (session : Option ℕ) (input : Option RlInputFrame) : RlReply Unit :=
  let checked : Except RlStatus (ℕ × RlSession × RlInputFrame) := do
    let (handle, session) ← memory.checkSession session true
    let input ← validateInput input
    refuseIf (input.peer = session.localPeer) .invalidPeer
    let current := session.native.report.state.frame
    refuseIf (⟨input.frame⟩ ≠ current ∧ !frameBefore ⟨input.frame⟩ current) .invalidFrame
    return (handle, session, input)
  match checked with
  | .error status => memory.refused status none
  | .ok (handle, session, input) =>
    match session.native.ingestRemote (nativeInput input) with
    | (.error error, native) =>
      ⟨toStatus error.code, none, memory.setSession handle { session with native }⟩
    | (.ok _, native) =>
      ⟨.ok, none, memory.setSession handle { session with native, touched := true }⟩

def sessionFlushCorrections (session : Option ℕ) (output : Option RlHeader) :
    RlReply RlCorrectionResult :=
  let checked : Except RlStatus (ℕ × RlSession) := do
    let (handle, session) ← memory.checkSession session true
    let _ ← validate 24 id output
    return (handle, session)
  match checked with
  | .error status => memory.refused status none
  | .ok (handle, session) =>
    match session.native.flushCorrections with
    | (.error error, native) =>
      ⟨toStatus error.code, none, memory.setSession handle { session with native }⟩
    | (.ok result, native) =>
      ⟨.ok,
        some
          { performed := if result.performed then 1 else 0
            rollbackFrom := result.rollbackFrom.value
            resimulatedFrames := result.resimulatedFrames },
        memory.setSession handle
          { session with native, touched := session.touched || result.performed }⟩

/-! ## Live drivers -/

def liveCreate (config : Option RlLiveConfig) (a b : Option ℕ) (output : Bool)
    (address : Option ℕ) : RlReply (Option ℕ) :=
  if !output then memory.refused .invalidArgument none
  else
    let created : Except RlStatus (ℕ × RlLive × RlSession × RlSession) := do
      let config ← validateLiveConfig config
      let (a, sessionA) ← memory.checkSession a true
      let (b, sessionB) ← memory.checkSession b true
      refuseIf (a = b ∨ sessionA.localPeer ≠ kRlPeerA ∨ sessionB.localPeer ≠ kRlPeerB) .invalidPeer
      refuseIf (sessionA.touched ∨ sessionB.touched) .invalidFrame
      let native ← (LiveScenario.create (nativeConfig config) sessionA.native
        sessionB.native).mapError fun error => toStatus error.code
      let address ← allocated address
      return (address, { a, b, native }, sessionA, sessionB)
    match created with
    | .error status => memory.refused status (some none)
    | .ok (address, live, sessionA, sessionB) =>
      ⟨.ok, some (some address),
        ((memory.setSession live.a { sessionA with borrowed := true }).setSession live.b
          { sessionB with borrowed := true }).setLive address live⟩

def liveDestroy (live : Option ℕ) : RlReply Unit :=
  match memory.checkLive live with
  | .error status => memory.refused status none
  | .ok (address, live) =>
    ⟨.ok, none,
      { (memory.release live.a).release live.b with
        lives := Function.update memory.lives address none }⟩

/-- Both sessions are touched before they are stepped. -/
def liveStep (live : Option ℕ) (overrideLocalInput localButtons : UInt32)
    (output : Option RlHeader) : RlReply RlLiveStepResult :=
  let checked : Except RlStatus (ℕ × RlLive × RlSession × RlSession) := do
    let (address, live) ← memory.checkLive live
    let _ ← validate 24 id output
    refuseIf (1 < overrideLocalInput ∨ 31 < localButtons) .invalidArgument
    refuseIf (live.failure ≠ .ok) live.failure
    let (_, sessionA) ← lookUp memory.sessions (some live.a)
    let (_, sessionB) ← lookUp memory.sessions (some live.b)
    return (address, live, sessionA, sessionB)
  match checked with
  | .error status => memory.refused status none
  | .ok (address, live, sessionA, sessionB) =>
    let (step, native) := (live.scenario sessionA.native sessionB.native).step
      (if overrideLocalInput ≠ 0 then some localButtons.toUInt8 else none)
    let memory :=
      (memory.setSession live.a
        { sessionA with native := native.context.peer.a, touched := true }).setSession live.b
        { sessionB with native := native.context.peer.b, touched := true }
    match step with
    | .error error =>
      ⟨toStatus error.code, none,
        memory.setLive address { live with native, failure := toStatus error.code }⟩
    | .ok finished =>
      let desync := native.artifacts.trace.desync
      ⟨.ok,
        some
          { logicalTick := native.logicalTick
            finished := if finished then 1 else 0
            desyncDetected := if desync.isSome then 1 else 0
            earliestDivergentFrame := desync.elim 0 fun marker => marker.frame.value },
        memory.setLive address { live with native, finished }⟩

/-! ## UDP drivers -/

/-- `bound` is what the operating system answers to binding the socket. -/
def udpPeerCreate (config : Option RlUdpConfig) (session : Option ℕ) (output : Bool)
    (bound : Result Unit) (address : Option ℕ) : RlReply (Option ℕ) :=
  if !output then memory.refused .invalidArgument none
  else
    let created : Except RlStatus (ℕ × RlUdpPeer × RlSession) := do
      let config ← validateUdpConfig config
      let (handle, session) ← memory.checkSession session true
      refuseIf session.touched .invalidFrame
      let native ← (PeerDriver.create (peerConfig config session.localPeer) session.native
        bound).mapError networkStatus
      let address ← allocated address
      return (address, { session := handle, native }, session)
    match created with
    | .error status => memory.refused status (some none)
    | .ok (address, peer, session) =>
      ⟨.ok, some (some address),
        (memory.setSession peer.session { session with borrowed := true }).setPeer address peer⟩

def udpPeerDestroy (peer : Option ℕ) : RlReply Unit :=
  match memory.checkPeer peer with
  | .error status => memory.refused status none
  | .ok (address, peer, _) =>
    ⟨.ok, none,
      { memory.release peer.session with peers := Function.update memory.peers address none }⟩

/-- A clock that runs backwards is refused, and the driver goes on; other failures stay. -/
def udpPeerStep (peer : Option ℕ) (elapsed : UInt64) (output : Option RlHeader)
    (socket : UdpSocket) : RlReply RlUdpStepResult :=
  let checked : Except RlStatus (ℕ × RlUdpPeer × RlSession) := do
    let found ← memory.checkPeer peer
    let _ ← validate 32 id output
    return found
  match checked with
  | .error status => memory.refused status none
  | .ok (address, peer, session) =>
    if peer.failure ≠ .ok then memory.refused peer.failure (some peer.observation)
    else
      match (peer.driver session.native).step elapsed socket with
      | (.error error, native, _) =>
        let memory := memory.setSession peer.session { session with native := native.runtime.session }
        let status := networkStatus error
        if error.context = "udp_clock_reversed" then
          ⟨status, none, memory.setPeer address { peer with native }⟩
        else
          let peer := { peer with native, failure := status }.observe
          let observation :=
            { peer.observation with
              desyncDetected := if status = .desync then 1 else 0
              earliestDivergentFrame := if status = .desync then error.offset.toUInt32 else 0 }
          ⟨status, some observation, memory.setPeer address { peer with observation }⟩
      | (.ok _, native, _) =>
        let peer := { peer with native }.observe
        ⟨.ok, some peer.observation,
          (memory.setSession peer.session
            { session with native := native.runtime.session, touched := true }).setPeer address peer⟩

end RlMemory

end RollbackLab
