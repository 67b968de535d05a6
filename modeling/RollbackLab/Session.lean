import RollbackLab.FrameRing
import RollbackLab.Simulation

/-!
# The rollback session

One peer's view of the game. A session predicts missing remote inputs, keeps inputs,
snapshots and hashes of recent frames in rings, marks the earliest frame that was
simulated with a wrong remote input, and resimulates from there on request. Every
operation returns its result together with the session it leaves behind, since the
failing paths leave their partial changes in place.
-/

namespace RollbackLab

def kHistoryCapacity : ℕ := 256
def kDefaultMaxRollbackFrames : UInt32 := 120

instance : NeZero kHistoryCapacity := ⟨by decide⟩

structure SessionConfig where
  localPeer : PlayerId := .a
  initialState : WorldState := makeInitialWorld
  maxRollbackFrames : UInt32 := kDefaultMaxRollbackFrames
  variant : SimulationVariant := .canonical

structure AdvanceResult where
  simulatedFrame : FrameNumber
  predictedRemote : Bool
  stateHash : StateHash
  deriving DecidableEq, Repr

structure CorrectionResult where
  performed : Bool := false
  rollbackFrom : FrameNumber := default
  resimulatedFrames : UInt32 := 0
  deriving DecidableEq, Repr, Inhabited

structure RollbackMetrics where
  rollbackCount : UInt32 := 0
  totalResimulatedFrames : UInt64 := 0
  maximumRollbackDepth : UInt32 := 0
  predictedInputCount : UInt64 := 0
  confirmedFrame : FrameNumber := default
  lateInputCount : UInt64 := 0
  deriving DecidableEq, Repr, Inhabited

structure SessionReport where
  localPeer : PlayerId
  state : WorldState
  metrics : RollbackMetrics
  finalHash : StateHash

structure RollbackSession.Storage where
  localInputs : FrameRing InputFrame kHistoryCapacity
  remoteInputs : FrameRing InputFrame kHistoryCapacity
  usedRemoteInputs : FrameRing InputFrame kHistoryCapacity
  snapshots : FrameRing WorldState kHistoryCapacity
  hashes : FrameRing StateHash kHistoryCapacity

structure RollbackSession where
  config : SessionConfig
  state : WorldState
  storage : RollbackSession.Storage
  earliestDirty : Option FrameNumber
  metrics : RollbackMetrics

def samePredictedValue (left right : InputFrame) : Bool := left.buttons == right.buttons

def SessionConfig.remotePeer (config : SessionConfig) : PlayerId :=
  if config.localPeer = .a then .b else .a

def SessionConfig.makePair (config : SessionConfig) (loc remote : InputFrame) : InputPair :=
  if config.localPeer = .a then ⟨loc, remote⟩ else ⟨remote, loc⟩

namespace RollbackSession

/-- A newly constructed session. -/
def create (config : SessionConfig) : RollbackSession where
  config := config
  state := config.initialState
  storage :=
    { localInputs := .empty
      remoteInputs := .empty
      usedRemoteInputs := .empty
      snapshots := .empty
      hashes :=
        (FrameRing.empty.put config.initialState.frame (hashCanonical config.initialState)).2 }
  earliestDirty := none
  metrics := { confirmedFrame := config.initialState.frame }

/-- Search backwards from `offset` frames before `frame` for a known remote input. -/
def searchRemote (remoteInputs : FrameRing InputFrame kHistoryCapacity) (neutral : InputFrame)
    (frame : FrameNumber) : (remaining offset : ℕ) → InputFrame
  | 0, _ => neutral
  | remaining + 1, offset =>
    match remoteInputs.get ⟨frame.value - UInt32.ofNat offset⟩ with
    | .ok known => { known with frame := frame }
    | .error _ => searchRemote remoteInputs neutral frame remaining (offset + 1)

def predictedRemote (session : RollbackSession) (frame : FrameNumber) : InputFrame :=
  searchRemote session.storage.remoteInputs ⟨frame, session.config.remotePeer, 0, 0⟩ frame
    kHistoryCapacity 1

/-- The remote input a frame is simulated with: the actual one, or a prediction. -/
def remoteFor (session : RollbackSession) (frame : FrameNumber) : InputFrame :=
  match session.storage.remoteInputs.get frame with
  | .ok actual => actual
  | .error _ => session.predictedRemote frame

def markDirty (session : RollbackSession) (frame : FrameNumber) : RollbackSession :=
  let session :=
    if session.earliestDirty.all fun dirty => frameBefore frame dirty then
      { session with earliestDirty := some frame }
    else session
  if frameBefore frame session.metrics.confirmedFrame then
    { session with metrics := { session.metrics with confirmedFrame := frame } }
  else session

/-- The boundary cannot be passed while it is dirty or lies behind a dirty frame. -/
def dirtyStops (session : RollbackSession) (boundary : FrameNumber) : Bool :=
  session.earliestDirty.any fun dirty => boundary == dirty || frameBefore dirty boundary

/-- The loop of `updateConfirmation`. The local ring cannot hold more than
`kHistoryCapacity` frames in a row, so as many rounds are enough. -/
def confirmFrom (session : RollbackSession) : (rounds : ℕ) → FrameNumber → FrameNumber
  | 0, boundary => boundary
  | rounds + 1, boundary =>
    if session.storage.localInputs.contains boundary &&
        session.storage.remoteInputs.contains boundary then
      if session.dirtyStops boundary then boundary
      else confirmFrom session rounds (nextFrame boundary)
    else boundary

def updateConfirmation (session : RollbackSession) : RollbackSession :=
  { session with
    metrics :=
      { session.metrics with
        confirmedFrame := session.confirmFrom kHistoryCapacity session.metrics.confirmedFrame } }

/-- One round of the resimulation loop. -/
def resimulateFrame (session : RollbackSession) (frame : FrameNumber) :
    Result Unit × RollbackSession :=
  match session.storage.localInputs.get frame with
  | .error error => (.error error, session)
  | .ok loc =>
    let remote := session.remoteFor frame
    let storage :=
      { session.storage with
        snapshots := (session.storage.snapshots.put frame session.state).2
        usedRemoteInputs := (session.storage.usedRemoteInputs.put frame remote).2 }
    let session := { session with storage := storage }
    match simulateFrame session.state frame (session.config.makePair loc remote)
        session.config.variant with
    | .error error => (.error error, session)
    | .ok simulated =>
      (.ok (),
        { session with
          state := simulated
          storage :=
            { session.storage with
              hashes := (session.storage.hashes.put simulated.frame (hashCanonical simulated)).2 } })

/-- The frames `dirty + offset, …` of the loop, for the given number of rounds. -/
def resimulate (session : RollbackSession) (dirty : FrameNumber) :
    (rounds offset : ℕ) → Result Unit × RollbackSession
  | 0, _ => (.ok (), session)
  | rounds + 1, offset =>
    match session.resimulateFrame ⟨dirty.value + UInt32.ofNat offset⟩ with
    | (.error error, session) => (.error error, session)
    | (.ok _, session) => resimulate session dirty rounds (offset + 1)

def recordRollback (metrics : RollbackMetrics) (depth : UInt32) : RollbackMetrics :=
  { metrics with
    rollbackCount := metrics.rollbackCount + 1
    totalResimulatedFrames := metrics.totalResimulatedFrames + depth.toUInt64
    maximumRollbackDepth := max metrics.maximumRollbackDepth depth }

def flushCorrections (session : RollbackSession) : Result CorrectionResult × RollbackSession :=
  match session.earliestDirty with
  | none => (.ok {}, session.updateConfirmation)
  | some dirty =>
    let depth := frameDistance dirty session.state.frame
    if session.config.maxRollbackFrames < depth then
      (.error ⟨.rollbackWindowExceeded, dirty.value.toUInt64, 0, "flush_corrections"⟩, session)
    else
      match session.storage.snapshots.get dirty with
      | .error error => (.error error, session)
      | .ok snapshot =>
        match resimulate { session with state := snapshot } dirty depth.toNat 0 with
        | (.error error, session) => (.error error, session)
        | (.ok _, session) =>
          let session :=
            { session with
              earliestDirty := none
              metrics := recordRollback session.metrics depth }
          (.ok ⟨true, dirty, depth⟩, session.updateConfirmation)

/-- `advance` once no correction is pending. -/
def advanceClean (session : RollbackSession) (loc : InputFrame) :
    Result AdvanceResult × RollbackSession :=
  if loc.frame ≠ session.state.frame ∨ loc.player ≠ session.config.localPeer then
    (.error ⟨.frameMismatch, loc.frame.value.toUInt64, 0, "session_advance"⟩, session)
  else
    let snapshots := session.storage.snapshots.put session.state.frame session.state
    let localInputs := session.storage.localInputs.put loc.frame loc
    let session :=
      { session with
        storage := { session.storage with snapshots := snapshots.2, localInputs := localInputs.2 } }
    match snapshots.1, localInputs.1 with
    | .ok _, .ok _ =>
      let predicted := !(session.storage.remoteInputs.get session.state.frame).isOk
      let remote := session.remoteFor session.state.frame
      let session :=
        { session with
          storage :=
            { session.storage with
              usedRemoteInputs :=
                (session.storage.usedRemoteInputs.put session.state.frame remote).2 }
          metrics :=
            if predicted then
              { session.metrics with predictedInputCount := session.metrics.predictedInputCount + 1 }
            else session.metrics }
      match simulateFrame session.state session.state.frame (session.config.makePair loc remote)
          session.config.variant with
      | .error error => (.error error, session)
      | .ok simulated =>
        let simulatedFrame := session.state.frame
        let stateHash := hashCanonical simulated
        let session :=
          { session with
            state := simulated
            storage :=
              { session.storage with
                hashes := (session.storage.hashes.put simulated.frame stateHash).2 } }
        (.ok ⟨simulatedFrame, predicted, stateHash⟩, session.updateConfirmation)
    | _, _ => (.error ⟨.capacityExceeded, loc.frame.value.toUInt64, 0, "session_history"⟩, session)

/-- The session after a successful simulation of its current frame, up to the watermark. -/
def advanced (session : RollbackSession) (loc remote : InputFrame) (after : WorldState)
    (metrics : RollbackMetrics) : RollbackSession :=
  { session with
    state := after
    storage :=
      { session.storage with
        snapshots := (session.storage.snapshots.put session.state.frame session.state).2
        localInputs := (session.storage.localInputs.put loc.frame loc).2
        usedRemoteInputs :=
          (session.storage.usedRemoteInputs.put session.state.frame remote).2
        hashes := (session.storage.hashes.put after.frame (hashCanonical after)).2 }
    metrics := metrics }

theorem remoteFor_of_ok {session : RollbackSession} {frame : FrameNumber} {actual : InputFrame}
    (h : session.storage.remoteInputs.get frame = .ok actual) : session.remoteFor frame = actual := by
  simp only [remoteFor, h]

theorem remoteFor_of_error {session : RollbackSession} {frame : FrameNumber} {e : Error}
    (h : session.storage.remoteInputs.get frame = .error e) :
    session.remoteFor frame = session.predictedRemote frame := by
  simp only [remoteFor, h]

/-- The input chosen for a frame depends on the remote ring only. -/
theorem remoteFor_congr {session next : RollbackSession} (hconfig : next.config = session.config)
    (hremote : next.storage.remoteInputs = session.storage.remoteInputs) (frame : FrameNumber) :
    next.remoteFor frame = session.remoteFor frame := by
  rw [remoteFor, remoteFor, predictedRemote, predictedRemote, hconfig, hremote]

/-- Nor does it depend on what an advance has stored before it chooses. -/
theorem remoteFor_stored (session : RollbackSession) (snapshots : FrameRing WorldState kHistoryCapacity)
    (localInputs : FrameRing InputFrame kHistoryCapacity) (frame : FrameNumber) :
    ({ session with storage := { session.storage with snapshots, localInputs } } :
      RollbackSession).remoteFor frame = session.remoteFor frame :=
  remoteFor_congr rfl rfl frame

theorem advanceClean_ok {session : RollbackSession} {loc : InputFrame} {after : WorldState}
    (hframe : loc.frame = session.state.frame) (hplayer : loc.player = session.config.localPeer)
    (hsim : simulateFrame session.state session.state.frame
      (session.config.makePair loc (session.remoteFor session.state.frame)) session.config.variant =
        .ok after) :
    ∃ result metrics, metrics.confirmedFrame = session.metrics.confirmedFrame ∧
      session.advanceClean loc = (.ok result, (session.advanced loc
        (session.remoteFor session.state.frame) after metrics).updateConfirmation) := by
  have hmatch : ¬ (loc.frame ≠ session.state.frame ∨ loc.player ≠ session.config.localPeer) := by
    tauto
  rw [advanceClean, if_neg hmatch]
  simp only [FrameRing.put_fst, remoteFor_stored, hsim]
  refine ⟨_, _, ?_, rfl⟩
  split <;> rfl

/-- A frame whose simulation fails leaves its traces in the rings of inputs and snapshots. -/
theorem advanceClean_error {session : RollbackSession} {loc : InputFrame} {e : Error}
    (hframe : loc.frame = session.state.frame) (hplayer : loc.player = session.config.localPeer)
    (hsim : simulateFrame session.state session.state.frame
      (session.config.makePair loc (session.remoteFor session.state.frame)) session.config.variant =
        .error e) :
    ∃ next, session.advanceClean loc = (.error e, next) ∧ next.config = session.config ∧
      next.state = session.state ∧ next.earliestDirty = session.earliestDirty ∧
      next.metrics.confirmedFrame = session.metrics.confirmedFrame ∧
      next.storage.remoteInputs = session.storage.remoteInputs ∧
      next.storage.hashes = session.storage.hashes := by
  have hmatch : ¬ (loc.frame ≠ session.state.frame ∨ loc.player ≠ session.config.localPeer) := by
    tauto
  rw [advanceClean, if_neg hmatch]
  simp only [FrameRing.put_fst, remoteFor_stored, hsim]
  refine ⟨_, rfl, rfl, rfl, rfl, ?_, rfl, rfl⟩
  split <;> rfl

theorem advanceClean_mismatch {session : RollbackSession} {loc : InputFrame}
    (h : ¬ (loc.frame = session.state.frame ∧ loc.player = session.config.localPeer)) :
    session.advanceClean loc =
      (.error ⟨.frameMismatch, loc.frame.value.toUInt64, 0, "session_advance"⟩, session) := by
  rw [advanceClean, if_pos]
  tauto

def advance (session : RollbackSession) (loc : InputFrame) :
    Result AdvanceResult × RollbackSession :=
  if session.earliestDirty.isSome then
    match session.flushCorrections with
    | (.error error, session) => (.error error, session)
    | (.ok _, session) => session.advanceClean loc
  else session.advanceClean loc

/-- Put an accepted remote input into its slot, and count it if it is late and new. -/
def keepRemote (session : RollbackSession) (remote : InputFrame) (isLate : Bool) : RollbackSession :=
  let newlyObserved := !(session.storage.remoteInputs.get remote.frame).isOk
  { session with
    storage :=
      { session.storage with
        remoteInputs := (session.storage.remoteInputs.put remote.frame remote).2 }
    metrics :=
      if isLate && newlyObserved then
        { session.metrics with lateInputCount := session.metrics.lateInputCount + 1 }
      else session.metrics }

/-- A late input that differs from the one its frame was simulated with marks it dirty. -/
def compareUsed (session : RollbackSession) (remote : InputFrame) : RollbackSession :=
  match session.storage.usedRemoteInputs.get remote.frame with
  | .ok used =>
    if !samePredictedValue used remote then session.markDirty remote.frame else session
  | .error _ => session

def ingestRemote (session : RollbackSession) (remote : InputFrame) : Result Unit × RollbackSession :=
  if remote.player ≠ session.config.remotePeer then
    (.error ⟨.invalidArgument, remote.player.byte.toUInt64, 0, "remote_peer_id"⟩, session)
  else
    let isLate := frameBefore remote.frame session.state.frame
    if isLate ∧ session.config.maxRollbackFrames < frameDistance remote.frame session.state.frame then
      (.error ⟨.rollbackWindowExceeded, remote.frame.value.toUInt64, 0, "remote_input"⟩, session)
    else
      let session := session.keepRemote remote isLate
      let session := if isLate then session.compareUsed remote else session
      (.ok (), session.updateConfirmation)

@[simp] theorem keepRemote_confirmedFrame (session : RollbackSession) (remote : InputFrame)
    (isLate : Bool) :
    (session.keepRemote remote isLate).metrics.confirmedFrame = session.metrics.confirmedFrame := by
  simp only [keepRemote]
  split <;> rfl

theorem ingestRemote_ok {session : RollbackSession} {remote : InputFrame}
    (hplayer : remote.player = session.config.remotePeer)
    (hwindow : ¬ (frameBefore remote.frame session.state.frame = true ∧
      session.config.maxRollbackFrames < frameDistance remote.frame session.state.frame)) :
    session.ingestRemote remote = (.ok (),
      (if frameBefore remote.frame session.state.frame then
        (session.keepRemote remote (frameBefore remote.frame session.state.frame)).compareUsed remote
      else session.keepRemote remote
        (frameBefore remote.frame session.state.frame)).updateConfirmation) := by
  rw [ingestRemote, if_neg (not_not.2 hplayer)]
  exact if_neg hwindow

theorem markDirty_fields (session : RollbackSession) (frame : FrameNumber) :
    (session.markDirty frame).config = session.config ∧
      (session.markDirty frame).state = session.state ∧
      (session.markDirty frame).storage = session.storage := by
  simp only [markDirty]
  split <;> split <;> exact ⟨rfl, rfl, rfl⟩

theorem markDirty_confirmedFrame (session : RollbackSession) (frame : FrameNumber) :
    (session.markDirty frame).metrics.confirmedFrame =
      if frameBefore frame session.metrics.confirmedFrame then frame
      else session.metrics.confirmedFrame := by
  simp only [markDirty]
  split <;> split <;> simp_all

def report (session : RollbackSession) : SessionReport :=
  ⟨session.config.localPeer, session.state, session.metrics, hashCanonical session.state⟩

def confirmedInput (session : RollbackSession) (player : PlayerId) (frame : FrameNumber) :
    Result InputFrame :=
  if !frameBefore frame session.metrics.confirmedFrame then
    .error ⟨.staleFrame, frame.value.toUInt64, 0, "unconfirmed_input"⟩
  else if player = session.config.localPeer then session.storage.localInputs.get frame
  else session.storage.remoteInputs.get frame

def hashAt (session : RollbackSession) (boundary : FrameNumber) : Result StateHash :=
  if frameBefore session.metrics.confirmedFrame boundary then
    .error ⟨.staleFrame, boundary.value.toUInt64, 0, "unconfirmed_hash"⟩
  else session.storage.hashes.get boundary

def stateAt (session : RollbackSession) (boundary : FrameNumber) : Result WorldState :=
  if frameBefore session.metrics.confirmedFrame boundary then
    .error ⟨.staleFrame, boundary.value.toUInt64, 0, "unconfirmed_state"⟩
  else if boundary = session.state.frame then .ok session.state
  else session.storage.snapshots.get boundary

end RollbackSession

/-! ## Runs of a session -/

inductive SessionCall where
  | advance (loc : InputFrame)
  | ingestRemote (remote : InputFrame)
  | flushCorrections
  deriving DecidableEq, Repr

/-- A session together with what its callers have fed it: the local inputs of the
successful advances, in order, and for every frame the remote input accepted last. -/
structure SessionRun where
  session : RollbackSession
  locals : List InputFrame
  accepted : FrameNumber → Option InputFrame

namespace SessionRun

def start (config : SessionConfig) : SessionRun :=
  ⟨.create config, [], fun _ => none⟩

def call (run : SessionRun) : SessionCall → SessionRun
  | .advance loc =>
    match run.session.advance loc with
    | (.ok _, session) => { run with session := session, locals := run.locals ++ [loc] }
    | (.error _, session) => { run with session := session }
  | .ingestRemote remote =>
    match run.session.ingestRemote remote with
    | (.ok _, session) =>
      { run with
        session := session
        accepted := Function.update run.accepted remote.frame (some remote) }
    | (.error _, session) => { run with session := session }
  | .flushCorrections => { run with session := run.session.flushCorrections.2 }

/-- What a new session reaches by calls that the guard admits, one after the other. -/
inductive Reachable (config : SessionConfig) (guard : SessionRun → SessionCall → Prop) :
    SessionRun → Prop
  | start : Reachable config guard (start config)
  | call {run : SessionRun} (c : SessionCall) (h : Reachable config guard run) (hc : guard run c) :
      Reachable config guard (run.call c)

end SessionRun

end RollbackLab
