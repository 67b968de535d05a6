import RollbackLab.DeliverySchedule
import RollbackLab.LiveMessages
import RollbackLab.LiveRun
import RollbackLab.PaidCorrections

/-!
# Runs of a scenario that keep to the script

Whatever the transport does to the packets of a scenario, those that arrive are packets
that were sent. So both sessions only hear what the script says, they never correct
themselves outside a delivery, and nothing but the rollback window makes a delivery fail.
-/

namespace RollbackLab

open LiveScenario (Phase sendingTicks totalTicks Refused)

/-- A scenario over two new sessions, with the presses of a player by tick. -/
structure LiveMatch where
  config : ScenarioRunConfig
  session : Sides SessionConfig
  presses : ℕ → Option UInt8
  localPeer : ∀ id, (session.of id).localPeer = id
  initial : ∀ id, (session.of id).initialState = makeInitialWorld
  window : ∀ id, (session.of id).maxRollbackFrames.toNat ≤ 120
  pressed : ∀ t, ¬Refused (presses t)
  frames_pos : 0 < config.frameCount.toNat
  frames_le : config.frameCount.toNat ≤ kMaxReplayFrames
  room : totalTicks config < 2 ^ 32

/-- What happens to the context of deliveries apart from them: nothing is corrected, and no
hashes are compared. -/
structure DeliveryContext.Quiet (context next : DeliveryContext) : Prop where
  tally : ∀ id, (next.peer.of id).tally = (context.peer.of id).tally
  desync : next.desync = context.desync
  marker : next.trace.desync = context.trace.desync
  rollbacks : next.trace.rollbacks = context.trace.rollbacks
  omitted : next.trace.omittedRollbackEvents = context.trace.omittedRollbackEvents

namespace LiveMatch

variable (m : LiveMatch)

def script : InputScript := m.config.script m.presses

/-- The number of frames of the match. -/
def frames : ℕ := m.config.frameCount.toNat

/-- The frames that both peers have simulated before a tick. -/
def simulated (t : ℕ) : ℕ := min t m.frames

/-- What one peer sends in a tick: the latest inputs it knows by then. -/
def Genuine (sent : Sent) : Prop :=
  ∃ id packet c, sent.sender = id.endpoint ∧ sent.receiver = (remoteId id).endpoint ∧
    sent.bytes.length ≤ 1200 ∧ decodePacket sent.bytes = .ok packet ∧
    Tells m.script (m.session.of id).variant id (UInt32.ofNat (sent.now.value.toNat + 1))
      (m.simulated (sent.now.value.toNat + 1)) (m.simulated sent.now.value.toNat) c packet ∧
    c ≤ m.simulated sent.now.value.toNat

/-- A genuine packet of this tick or an earlier one. -/
def InTransit (t : ℕ) (sent : Sent) : Prop := m.Genuine sent ∧ sent.now.value.toNat ≤ t

/-- Both sessions have simulated `n` frames of the script, heard these inputs of their
partners, and have nothing to correct. -/
structure Peers (n : ℕ) (heard : Sides (Finset ℕ)) (context : DeliveryContext) : Prop where
  pays : ∀ id, ∃ c, Pays (m.session.of id) m.script m.frames n c (heard.of id) (context.peer.of id)
  clean : ∀ id, (context.peer.of id).earliestDirty = none

variable {m}

theorem frames_lt (m : LiveMatch) : m.frames < 2 ^ 30 := by
  have hle := m.frames_le
  have hlimit : kMaxReplayFrames = 1000000 := rfl
  rw [frames]
  omega

theorem simulated_succ (m : LiveMatch) {t : ℕ} (ht : t < m.frames) :
    m.simulated (t + 1) = m.simulated t + 1 := by
  rw [simulated, simulated, min_eq_left ht.le, min_eq_left ht]

theorem simulated_eq (m : LiveMatch) {t : ℕ} (ht : t ≤ m.frames) : m.simulated t = t := min_eq_left ht

theorem simulated_le (m : LiveMatch) (t : ℕ) : m.simulated t ≤ m.frames := min_le_right _ _

theorem remotePeer (id : PlayerId) : (m.session.of id).remotePeer = remoteId id := by
  rw [SessionConfig.remotePeer, remoteId, m.localPeer]

theorem script_legal (m : LiveMatch) (player : PlayerId) (frame : FrameNumber) :
    (m.script.input player frame).buttons &&& 0xE0 = 0 := by
  refine script_buttons m.config m.presses (fun t buttons hbuttons => ?_) player frame
  by_contra hne
  exact m.pressed t ⟨buttons, hbuttons, hne⟩

/-! ## Receiving -/

/-- The latest frames of a sender with `k` inputs, oldest first. -/
def latest (k : ℕ) : List ℕ := List.range' (k - min k 32) (min k 32)

theorem mem_latest {k j : ℕ} : j ∈ latest k ↔ Latest k j := by
  rw [latest, List.mem_range'_1, Latest]
  omega

theorem inputWindow_locals (script : InputScript) (id : PlayerId) (k : ℕ) :
    inputWindow (script.locals id k) =
      (latest k).map fun j => script.input id ⟨UInt32.ofNat j⟩ := by
  rw [inputWindow, InputScript.length_locals, InputScript.locals, ← List.map_drop,
    List.range_eq_range', List.drop_range', kMaxRedundantInputs, latest,
    Nat.sub_sub_self (min_le_left _ _), Nat.zero_add, Nat.mul_one]

/-- A packet of the partner is taken, with a correction if one is needed, or one of its inputs is
too old. -/
theorem Peers.receive {n k n' c' : ℕ} {heard : Sides (Finset ℕ)} {context : DeliveryContext}
    (h : m.Peers n heard context) (receiver : PlayerId) {variant : SimulationVariant}
    {sequence : UInt32} {packet : Packet}
    (htells : Tells m.script variant (remoteId receiver) sequence k n' c' packet)
    (hn : n ≤ m.frames) (hreached : ∀ j < k, j ≤ n ∧ j < m.frames) :
    (∃ error session, context.receive receiver packet = (.error error, context.setPeer receiver session) ∧
        error.code = .rollbackWindowExceeded ∧
        session.tally = (context.peer.of receiver).tally ∧
        ∃ j, Latest k j ∧ j + (m.session.of receiver).maxRollbackFrames.toNat < n) ∨
      ∃ before correction session,
        context.receive receiver packet = (.ok (), packet.confirmedHashes.foldl
          (DeliveryContext.compareHash receiver)
          ((context.setPeer receiver session).recordCorrection receiver before correction)) ∧
        Pays.Corrected n (context.peer.of receiver) correction session ∧
        m.Peers n (heard.put receiver (heard.of receiver ∪ (latest k).toFinset))
          (context.setPeer receiver session) ∧
        ∀ j, Latest k j → n ≤ j + (m.session.of receiver).maxRollbackFrames.toNat := by
  have hlimit := m.frames_lt
  obtain ⟨c, hpays⟩ := h.pays receiver
  have hinputs : packet.inputs =
      (latest k).map fun j => m.script.input (m.session.of receiver).remotePeer ⟨UInt32.ofNat j⟩ := by
    rw [htells.inputs, inputWindow_locals, remotePeer]
  have hks : ∀ j ∈ latest k, j ≤ n ∧ j < m.frames := fun j hj => hreached j (mem_latest.1 hj).1
  have houtcome := hpays.ingestInputs (by omega) hks
  have htally := (context.peer.of receiver).ingestInputs_tally packet.inputs
  obtain ⟨ingested, session, hingest, hcases⟩ := context.receive_cases receiver packet
  rw [DeliveryContext.ingestInputs] at hingest
  rw [← hinputs, hingest] at houtcome
  rw [hingest] at htally
  rcases hcases with ⟨error, rfl, hreceive⟩ | ⟨rfl, corrected, next, hflush, hcases⟩
  · obtain ⟨hcode, j, hj, hfar⟩ := houtcome
    exact Or.inl ⟨error, session, hreceive, hcode, htally, j, mem_latest.1 hj, hfar⟩
  · obtain ⟨⟨c', -, hnext⟩, hnear⟩ := houtcome
    obtain ⟨result, last, c'', hflushed, -, hclean, hlast, hcorrected⟩ := hnext.flush hlimit
    rw [hflush] at hflushed
    cases hflushed
    rcases hcases with ⟨error, herror, -⟩ | ⟨correction, hcorrection, hreceive⟩
    · cases herror
    cases hcorrection
    refine Or.inr ⟨session.state, _, next, hreceive, ?_, ⟨fun id => ?_, fun id => ?_⟩,
      fun j hj => hnear j (mem_latest.2 hj)⟩
    · rw [Pays.Corrected, ← htally]
      exact hcorrected
    · rw [DeliveryContext.setPeer, Sides.of_put, Sides.of_put]
      split
      next heq =>
        subst heq
        exact ⟨c'', hlast⟩
      · exact h.pays id
    · rw [DeliveryContext.setPeer, Sides.of_put]
      split
      · exact hclean
      · exact h.clean id

theorem remoteId_remoteId (id : PlayerId) : remoteId (remoteId id) = id := by
  cases id <;> rfl

/-- Whatever packet is in transit can be taken, or one of its inputs is too old. -/
theorem Peers.receive_genuine {t : ℕ} {heard : Sides (Finset ℕ)} {context : DeliveryContext}
    (h : m.Peers (m.simulated t) heard context) {receiver : PlayerId} {packet : Packet} {sent : Sent}
    (htransit : m.InTransit t sent) (hside : sent.receiver.side = receiver)
    (hdecode : decodePacket sent.bytes = .ok packet) :
    let k := m.simulated (sent.now.value.toNat + 1)
    (∃ error session, context.receive receiver packet = (.error error, context.setPeer receiver session) ∧
        error.code = .rollbackWindowExceeded ∧
        session.tally = (context.peer.of receiver).tally ∧
        ∃ j, Latest k j ∧ j + (m.session.of receiver).maxRollbackFrames.toNat < m.simulated t) ∨
      ∃ before correction session,
        context.receive receiver packet = (.ok (), packet.confirmedHashes.foldl
          (DeliveryContext.compareHash receiver)
          ((context.setPeer receiver session).recordCorrection receiver before correction)) ∧
        Pays.Corrected (m.simulated t) (context.peer.of receiver) correction session ∧
        m.Peers (m.simulated t) (heard.put receiver (heard.of receiver ∪ (latest k).toFinset))
          (context.setPeer receiver session) ∧
        ∀ j, Latest k j → m.simulated t ≤ j + (m.session.of receiver).maxRollbackFrames.toNat := by
  obtain ⟨⟨id, other, c, -, hreceiver, -, hother, htells, -⟩, hbefore⟩ := htransit
  have hsame : packet = other := Except.ok.inj (hdecode.symm.trans hother)
  subst hsame
  rw [hreceiver, PlayerId.side_endpoint] at hside
  subst hside
  rw [← remoteId_remoteId id] at htells
  refine h.receive (remoteId id) htells (m.simulated_le t) fun j hj => ?_
  rw [simulated] at hj ⊢
  omega

/-! ## Between the parts of a tick -/

/-- The frames whose inputs have been noted. -/
def notedFrames (m : LiveMatch) (t : ℕ) (noted : Option InputPair) : ℕ :=
  m.simulated t + if noted.isSome then 1 else 0

/-- The replay after the inputs of `k` frames, in tick `t`. -/
def replayOf (m : LiveMatch) (t k : ℕ) : Replay :=
  { m.script.replay m.config.scenarioSeed m.config.transportSeed m.frames with
    confirmedInputs := m.script.pairs k
    checkpoints := m.script.checkpointsFrom m.frames 1 k
    expectedFinalHash :=
      if m.frames ≤ t then hashCanonical (m.script.worldAt .canonical m.frames) else default }

/-- The number that a peer gives to its next packet. -/
def nextSequence (m : LiveMatch) (t : ℕ) (phase : Phase) : ℕ :=
  min t (sendingTicks m.config) + if phase = .begun ∨ sendingTicks m.config ≤ t then 1 else 2

/-- A scenario that has kept to its script. -/
structure Truthful (m : LiveMatch) (phase : Phase) (noted : Option InputPair) (live : LiveScenario) :
    Prop where
  config_eq : live.config = m.config
  captureTrace_eq : live.context.captureTrace = m.config.captureTrace
  peers : ∃ heard, m.Peers (m.simulated live.tickIndex.toNat) heard live.context
  history : ∀ id, live.history.of id =
    m.script.locals id (m.notedFrames live.tickIndex.toNat noted)
  noted_eq : ∀ inputs ∈ noted, live.tickIndex.toNat < m.frames ∧
    inputs = m.script.pair live.tickIndex.toNat
  replay_eq : live.replay =
    m.replayOf live.tickIndex.toNat (m.notedFrames live.tickIndex.toNat noted)
  replayState_eq : live.replayState =
    m.script.worldAt .canonical (m.notedFrames live.tickIndex.toNat noted)
  sequence : ∀ id, live.sequence.of id =
    UInt32.ofNat (m.nextSequence live.tickIndex.toNat phase)
  transit : live.transport.Carries (m.InTransit live.tickIndex.toNat)

/-- Nothing but the network makes a tick fail. -/
def NetworkError (error : Error) : Prop :=
  error.code = .invalidArgument ∨ error.code = .queueOverflow ∨ error.code = .rollbackWindowExceeded

theorem accumulate_replayOf (m : LiveMatch) {t : ℕ} (ht : t < m.frames) {frame : UInt32}
    (hframe : frame = UInt32.ofNat t) :
    accumulateCheckpoint
        { m.replayOf t t with confirmedInputs := m.script.pairs t ++ [m.script.pair t] }
        (m.script.worldAt .canonical (t + 1)) (frame + 1 == m.config.frameCount) =
      m.replayOf t (t + 1) := by
  have hlimit := m.frames_lt
  have hat := m.script.worldAt_frame .canonical (n := t + 1) (by omega)
  have hvalue : (UInt32.ofNat (t + 1)).toNat = t + 1 :=
    UInt32.toNat_ofNat_of_lt' (by simp only [UInt32.size]; omega)
  have hnext : frame + 1 = UInt32.ofNat (t + 1) := by rw [hframe, UInt32.ofNat_add]; rfl
  have hdue : (frame + 1 == m.config.frameCount) = true ∨
        (m.script.worldAt .canonical (t + 1)).frame.value % 30 = 0 ↔
      InputScript.checkpointed m.frames (1 + t) = true := by
    rw [InputScript.checkpointed, Bool.or_eq_true, beq_iff_eq, beq_iff_eq, beq_iff_eq, hat, hnext,
      ← UInt32.toNat_inj, ← UInt32.toNat_inj, UInt32.toNat_mod, hvalue, frames, Nat.add_comm 1 t, or_comm]
    rfl
  rw [accumulateCheckpoint, replayOf, replayOf, InputScript.pairs_succ,
    InputScript.checkpointsFrom_succ]
  by_cases hcheckpoint : InputScript.checkpointed m.frames (1 + t) = true
  · rw [if_pos (hdue.2 hcheckpoint), if_pos hcheckpoint, InputScript.checkpoint, Nat.add_comm 1 t, hat]
  · rw [if_neg (fun hat => hcheckpoint (hdue.1 hat)), if_neg hcheckpoint, List.append_nil]

/-! ## Sending -/

theorem sendPacket_eq {transport after : SeededTransport} {trace : Trace} {captureTrace : Bool}
    {packet : Packet} {sender receiver : Endpoint} {tick : LogicalTick} {bytes : List UInt8}
    {sent : Result Unit} (hencode : encodePacket packet = .ok bytes)
    (hsend : transport.send sender receiver bytes tick = (sent, after)) :
    ∃ trace', trace.SamePackets trace' ∧
      sendPacket transport trace captureTrace packet sender receiver tick = (sent, after, trace') := by
  cases sent with
  | error error => exact ⟨trace, .refl trace, by simp only [sendPacket, hencode, hsend]⟩
  | ok value =>
    refine ⟨trace.recordSendEffects captureTrace tick sender receiver packet.sequence
      transport.metrics after.metrics, .recordSendEffects .., ?_⟩
    simp only [sendPacket, hencode, hsend]

/-- What a peer that has noted the inputs of a tick puts into the network. -/
theorem send_spoken {live : LiveScenario} (id : PlayerId) {n : ℕ}
    (hn : n = m.simulated live.tickIndex.toNat) (hconfig : live.config = m.config) {c : ℕ}
    {heard : Finset ℕ}
    (hpays : Pays (m.session.of id) m.script m.frames n c heard (live.context.peer.of id))
    (hhistory : live.history.of id =
      m.script.locals id (m.simulated (live.tickIndex.toNat + 1)))
    (hsequence : live.sequence.of id = UInt32.ofNat (live.tickIndex.toNat + 1)) :
    ∃ bytes packet, bytes.length ≤ 1200 ∧ decodePacket bytes = .ok packet ∧
      Tells m.script (m.session.of id).variant id (UInt32.ofNat (live.tickIndex.toNat + 1))
        (m.simulated (live.tickIndex.toNat + 1)) n c packet ∧ c ≤ n ∧
      ∀ sent after, live.transport.send id.endpoint (remoteId id).endpoint bytes ⟨live.tickIndex⟩ =
          (sent, after) →
        ∃ trace, live.context.trace.SamePackets trace ∧ live.send id ⟨live.tickIndex⟩ =
          (sent,
            { live with
              sequence := live.sequence.put id (live.sequence.of id + 1)
              transport := after
              context := { live.context with trace := trace } }) := by
  have hlimit := m.frames_lt
  have hle := m.simulated_le live.tickIndex.toNat
  have hfollows := hpays.hears.follows
  have htells := makePacket_tells hfollows (by omega) m.config.scenarioSeed
    (UInt32.ofNat (live.tickIndex.toNat + 1)) (m.simulated (live.tickIndex.toNat + 1))
  obtain ⟨bytes, hencode, hlength, hdecode⟩ := makePacket_said hfollows m.config.scenarioSeed
    (UInt32.ofNat (live.tickIndex.toNat + 1)) (m.simulated (live.tickIndex.toNat + 1)) m.script_legal
  rw [m.localPeer, ← hhistory] at htells hencode hdecode
  refine ⟨bytes, _, hlength, hdecode, htells, hfollows.confirmed_le, fun sent after hsend => ?_⟩
  obtain ⟨trace, htrace, hpacket⟩ := @sendPacket_eq _ _ live.context.trace m.config.captureTrace
    _ _ _ _ _ _ hencode hsend
  refine ⟨trace, htrace, ?_⟩
  rw [LiveScenario.send, hsequence, hconfig]
  simp only [hpacket]

/-- A peer that has noted the inputs of a tick sends a genuine packet, if the network lets it. -/
theorem send_genuine {live : LiveScenario} (id : PlayerId) {n : ℕ}
    (hn : n = m.simulated live.tickIndex.toNat) (hconfig : live.config = m.config)
    {heard : Sides (Finset ℕ)} (hpeers : m.Peers n heard live.context)
    (hhistory : live.history.of id =
      m.script.locals id (m.simulated (live.tickIndex.toNat + 1)))
    (hsequence : live.sequence.of id = UInt32.ofNat (live.tickIndex.toNat + 1))
    (htransit : live.transport.Carries (m.InTransit live.tickIndex.toNat)) :
    (live.send id ⟨live.tickIndex⟩).2.sequence = live.sequence.put id (live.sequence.of id + 1) ∧
      (live.send id ⟨live.tickIndex⟩).2.transport.Carries (m.InTransit live.tickIndex.toNat) ∧
      ∀ error, (live.send id ⟨live.tickIndex⟩).1 = .error error → NetworkError error := by
  obtain ⟨c, hpays⟩ := hpeers.pays id
  obtain ⟨bytes, packet, hlength, hdecode, htells, hc, hsends⟩ :=
    send_spoken id hn hconfig hpays hhistory hsequence
  have hgenuine : m.InTransit live.tickIndex.toNat
      ⟨id.endpoint, (remoteId id).endpoint, bytes, ⟨live.tickIndex⟩⟩ := by
    refine ⟨⟨id, packet, c, rfl, rfl, hlength, hdecode, ?_, ?_⟩, le_rfl⟩
    · rw [hn] at htells
      exact htells
    · rw [← hn]
      exact hc
  have hcarries := htransit.send hgenuine
  rcases hsend : live.transport.send id.endpoint (remoteId id).endpoint bytes ⟨live.tickIndex⟩ with
    ⟨sent, after⟩
  obtain ⟨trace, -, heq⟩ := hsends sent after hsend
  rw [hsend] at hcarries
  rw [heq]
  refine ⟨rfl, hcarries, fun error herror => ?_⟩
  obtain rfl : sent = .error error := herror
  exact (SeededTransport.send_error hlength hsend).imp_right Or.inl

namespace Truthful

variable {phase : Phase} {noted : Option InputPair} {live : LiveScenario}

theorem record (h : m.Truthful .begun none live) {press : Option UInt8}
    (hpress : press = m.presses live.tickIndex.toNat) (hframe : live.tickIndex < m.config.frameCount) :
    let inputs := LiveScenario.frameInputs m.config ⟨live.tickIndex⟩ press
    ∃ next, live.record live.tickIndex inputs = (.ok (), next) ∧ next.context = live.context ∧
      next.transport = live.transport ∧ m.Truthful .begun (some inputs) next := by
  have hlimit := m.frames_lt
  have hlt : live.tickIndex.toNat < m.frames := UInt32.lt_iff_toNat_lt.1 hframe
  have hindex : live.tickIndex = UInt32.ofNat live.tickIndex.toNat := UInt32.ofNat_toNat.symm
  have hinputs : LiveScenario.frameInputs m.config ⟨live.tickIndex⟩ press =
      m.script.pair live.tickIndex.toNat := by
    rw [script, ← frameInputs_eq m.config m.presses (by omega), ← hpress, ← hindex]
  have hnone : m.notedFrames live.tickIndex.toNat none = live.tickIndex.toNat := m.simulated_eq hlt.le
  have hsome : m.notedFrames live.tickIndex.toNat (some (m.script.pair live.tickIndex.toNat)) =
      live.tickIndex.toNat + 1 := congrArg (· + 1) (m.simulated_eq hlt.le)
  have hstep := m.script.simulateFrame_worldAt .canonical (n := live.tickIndex.toNat) (by omega)
  rw [hinputs]
  intro inputs
  have hrecord : live.record live.tickIndex inputs = (.ok (),
      { live with
        history := ⟨live.history.a ++ [inputs.a], live.history.b ++ [inputs.b]⟩
        replayState := m.script.worldAt .canonical (live.tickIndex.toNat + 1)
        replay := accumulateCheckpoint
          { live.replay with confirmedInputs := live.replay.confirmedInputs ++ [inputs] }
          (m.script.worldAt .canonical (live.tickIndex.toNat + 1))
          (live.tickIndex + 1 == live.config.frameCount) }) := by
    rw [LiveScenario.record]
    dsimp only
    rw [h.replayState_eq, hnone]
    rw [← hindex] at hstep
    rw [hstep]
  refine ⟨_, hrecord, rfl, rfl, h.config_eq, h.captureTrace_eq, h.peers, fun id => ?_, ?_, ?_, ?_,
    h.sequence, h.transit⟩
  · have hhistory := h.history id
    rw [hnone] at hhistory
    rw [hsome, InputScript.locals_succ, ← hhistory]
    cases id <;> rfl
  · intro other hother
    cases hother
    exact ⟨hlt, rfl⟩
  · dsimp only
    rw [hsome, h.replay_eq, hnone, h.config_eq]
    exact m.accumulate_replayOf hlt hindex
  · rw [hsome]

theorem noted_frames (h : m.Truthful phase noted live)
    (hnoted : noted = none → m.config.frameCount ≤ live.tickIndex) :
    m.notedFrames live.tickIndex.toNat noted = m.simulated (live.tickIndex.toNat + 1) := by
  cases noted with
  | none =>
    have hpassed : m.frames ≤ live.tickIndex.toNat := UInt32.le_iff_toNat_le.1 (hnoted rfl)
    rw [notedFrames, simulated, simulated, min_eq_right hpassed, min_eq_right (hpassed.trans (Nat.le_succ _))]
    rfl
  | some inputs =>
    obtain ⟨hlt, -⟩ := h.noted_eq inputs rfl
    rw [notedFrames, m.simulated_succ hlt]
    rfl

/-- What a peer sends changes the transport, the numbers of the packets and the packet events. -/
theorem of_sent (h : m.Truthful phase noted live) {next : LiveScenario} (hsent : live.Sent next)
    {later : Phase}
    (hsequence : ∀ id, next.sequence.of id =
      UInt32.ofNat (m.nextSequence live.tickIndex.toNat later))
    (htransit : next.transport.Carries (m.InTransit live.tickIndex.toNat)) :
    m.Truthful later noted next := by
  obtain ⟨heard, hpeers⟩ := h.peers
  obtain ⟨sequence, transport, trace, -, rfl⟩ := hsent
  exact ⟨h.config_eq, h.captureTrace_eq, ⟨heard, hpeers.pays, hpeers.clean⟩, h.history, h.noted_eq,
    h.replay_eq, h.replayState_eq, hsequence, htransit⟩

theorem history_noted (h : m.Truthful phase noted live)
    (hnoted : noted = none → m.config.frameCount ≤ live.tickIndex) (id : PlayerId) :
    live.history.of id = m.script.locals id (m.simulated (live.tickIndex.toNat + 1)) := by
  rw [h.history, h.noted_frames hnoted]

theorem sequence_begun (h : m.Truthful .begun noted live)
    (hticks : live.tickIndex.toNat < sendingTicks m.config) (id : PlayerId) :
    live.sequence.of id = UInt32.ofNat (live.tickIndex.toNat + 1) := by
  rw [h.sequence, nextSequence, if_pos (Or.inl rfl), min_eq_left hticks.le]

/-- Both peers send genuine packets, if the network lets them. -/
theorem send (h : m.Truthful .begun noted live)
    (hnoted : noted = none → m.config.frameCount ≤ live.tickIndex)
    (hticks : live.tickIndex.toNat < sendingTicks m.config) :
    Outcome (fun _ next => m.Truthful .sent noted next) (fun error _ => NetworkError error)
      (live.sendBoth ⟨live.tickIndex⟩) := by
  obtain ⟨heard, hpeers⟩ := h.peers
  have hbegun := h.sequence_begun hticks
  have hhistory := h.history_noted hnoted
  have hnext : m.nextSequence live.tickIndex.toNat .sent = live.tickIndex.toNat + 2 := by
    rw [nextSequence, if_neg (by simp; omega), min_eq_left hticks.le]
  have hadd : UInt32.ofNat (live.tickIndex.toNat + 1) + 1 = UInt32.ofNat (live.tickIndex.toNat + 2) := by
    rw [← UInt32.ofNat_one, ← UInt32.ofNat_add]
  obtain ⟨hsequenceA, htransitA, herrorA⟩ :=
    send_genuine .a rfl h.config_eq hpeers (hhistory .a) (hbegun .a) h.transit
  obtain ⟨sentA, next, sentB, last, hcallA, hcallB, hboth⟩ := live.sendBoth_eq ⟨live.tickIndex⟩
  have hsentA := live.send_sent .a ⟨live.tickIndex⟩
  rw [hcallA] at hsequenceA htransitA herrorA hsentA
  have hfirst := hsentA
  obtain ⟨sequence, transport, trace, -, rfl⟩ := hfirst
  dsimp only at hsequenceA htransitA
  obtain ⟨hsequenceB, htransitB, herrorB⟩ := @send_genuine m
    { live with sequence, transport, context := { live.context with trace } } .b _ rfl
    h.config_eq heard ⟨hpeers.pays, hpeers.clean⟩ (hhistory .b)
    (by dsimp only; rw [hsequenceA, Sides.of_put, if_neg (by decide)]; exact hbegun .b) htransitA
  have hsentB := LiveScenario.send_sent
    { live with sequence, transport, context := { live.context with trace } } .b ⟨live.tickIndex⟩
  rw [hcallB] at hsentB
  dsimp only at hsequenceB htransitB herrorB
  rw [hcallB] at hsequenceB htransitB herrorB
  have hlast : m.Truthful .sent noted last := by
    refine h.of_sent (hsentA.trans hsentB) (fun id => ?_) htransitB
    rw [hsequenceB, hsequenceA, hnext, ← hadd]
    cases id with
    | a => exact congrArg (· + 1) (hbegun .a)
    | b => exact congrArg (· + 1) (hbegun .b)
  rcases hboth with ⟨error, rfl, heq⟩ | ⟨-, heq⟩
  · rw [heq]
    exact herrorA error rfl
  · rw [heq]
    cases sentB with
    | error error => exact herrorB error rfl
    | ok value => exact hlast

/-! ## Delivering -/

/-- Deliveries hand out genuine packets, so that nothing but the rollback window makes them
fail; and they keep what receiving such packets keeps. -/
theorem process (h : m.Truthful phase noted live)
    (hdelivering : LiveScenario.Delivering m.config phase live) {K : DeliveryContext → Prop}
    (hkept : K live.context)
    (hquiet : ∀ context next, DeliveryContext.Quiet context next → K context → K next)
    (hreceive : ∀ context heard receiver packet sent,
      m.Peers (m.simulated live.tickIndex.toNat) heard context →
      context.captureTrace = m.config.captureTrace → m.InTransit live.tickIndex.toNat sent →
      sent.receiver.side = receiver → decodePacket sent.bytes = .ok packet → K context →
      K (context.receive receiver packet).2) :
    Outcome (fun _ next => m.Truthful .processed noted next ∧ K next.context)
      (fun error next => NetworkError error ∧ K next.context) (live.process ⟨live.tickIndex⟩) := by
  have hpeers := h.peers
  obtain ⟨hdeliveries, hcarries⟩ := h.transit.deliver ⟨live.tickIndex⟩
  rcases hdeliver : live.transport.deliver ⟨live.tickIndex⟩ with ⟨deliveries, transport⟩
  rw [hdeliver] at hdeliveries hcarries
  have hall := @DeliveryContext.processAll_outcome
    (fun context => (∃ heard, m.Peers (m.simulated live.tickIndex.toNat) heard context) ∧
      context.captureTrace = m.config.captureTrace ∧ K context)
    (fun error context => NetworkError error ∧ K context) deliveries live.context
    ⟨hpeers, h.captureTrace_eq, hkept⟩ fun context delivery hdelivery hcontext => ?_
  · rw [live.process_eq _ hdeliver]
    rcases hprocessed : live.context.processAll deliveries with ⟨error | _, context⟩
    · rw [hprocessed] at hall
      exact hall
    · rw [hprocessed] at hall
      obtain ⟨hnext, hcapture, hkeep⟩ := hall
      refine ⟨⟨h.config_eq, hcapture, hnext, h.history, h.noted_eq, h.replay_eq, h.replayState_eq,
        fun id => ?_, hcarries⟩, hkeep⟩
      rw [h.sequence id, nextSequence, nextSequence]
      rcases hdelivering with ⟨rfl, hlt⟩ | ⟨rfl, hle⟩
      · rw [if_neg (by simp; omega), if_neg (by simp; omega)]
      · rw [if_pos (Or.inl rfl), if_pos (Or.inr hle)]
  · have htransit := hdeliveries delivery hdelivery
    obtain ⟨⟨-, sent, -, -, -, -, hdecode, -, -⟩, -⟩ := hdeliveries delivery hdelivery
    refine DeliveryContext.processDelivery_outcome hcontext (fun error herror => ?_)
      (fun next window trace hnext htrace => ?_) fun next packet hnext hpacket => ?_
    · rw [show decodePacket delivery.bytes = _ from hdecode] at herror
      cases herror
    · obtain ⟨⟨heard, hnext⟩, hcapture, hkeep⟩ := hnext
      obtain ⟨packets, omitted, rfl⟩ := htrace
      exact ⟨⟨heard, hnext.pays, hnext.clean⟩, hcapture,
        hquiet next _ ⟨fun _ => rfl, rfl, rfl, rfl, rfl⟩ hkeep⟩
    · obtain ⟨⟨heard, hnext⟩, hcapture, hkeep⟩ := hnext
      obtain ⟨receiver, hside⟩ : ∃ receiver, delivery.receiver.side = receiver := ⟨_, rfl⟩
      have hkeep' := hreceive next heard receiver packet delivery.sent hnext hcapture htransit hside
        hpacket hkeep
      rw [hside]
      rcases hnext.receive_genuine htransit hside hpacket with
        ⟨error, session, heq, hcode, -, -⟩ | ⟨before, correction, session, heq, -, hpeers', -⟩
      · rw [heq] at hkeep' ⊢
        exact ⟨Or.inr (Or.inr hcode), hkeep'⟩
      · rw [heq] at hkeep' ⊢
        obtain ⟨corrections, rollbacks, omitted, hrecord⟩ :=
          (next.setPeer receiver session).recordCorrection_eq receiver before correction
        rw [hrecord] at hkeep' ⊢
        obtain ⟨desync, marker, hcompare⟩ := DeliveryContext.compareHashes_eq receiver _
          packet.confirmedHashes
        rw [hcompare] at hkeep' ⊢
        exact ⟨⟨_, hpeers'.pays, hpeers'.clean⟩, hcapture, hkeep'⟩

/-! ## Advancing -/

/-- A session with nothing to correct advances by a frame of the script. -/
theorem advance_peer {n : ℕ} {heard : Sides (Finset ℕ)} {context : DeliveryContext}
    (hpeers : m.Peers n heard context) (hn : n < 2 ^ 30) (id : PlayerId) :
    ∃ result next, (context.peer.of id).advance (m.script.input id ⟨UInt32.ofNat n⟩) =
        (.ok result, next) ∧ next.earliestDirty = none ∧
      next.tally = (context.peer.of id).tally ∧
      ∃ c, Pays (m.session.of id) m.script m.frames (n + 1) c (heard.of id) next := by
  obtain ⟨c, hpays⟩ := hpeers.pays id
  obtain ⟨result, next, c', hnext, -, hclean, htally, hpays'⟩ := hpays.advance hn (hpeers.clean id)
  rw [m.localPeer, hpays.hears.follows.frame_eq] at hnext
  exact ⟨result, next, hnext, hclean, htally, c', hpays'⟩

/-- Both peers advance by a frame of the match, without a correction. -/
theorem advanceBoth_peers {heard : Sides (Finset ℕ)}
    (hpeers : m.Peers live.tickIndex.toNat heard live.context)
    (hlt : live.tickIndex.toNat < m.frames) :
    ∃ peers : Sides RollbackSession,
      live.advanceBoth (m.script.pair live.tickIndex.toNat) =
          (.ok (), { live with context := { live.context with peer := peers } }) ∧
        m.Peers (live.tickIndex.toNat + 1) heard { live.context with peer := peers } ∧
        ∀ id, (peers.of id).tally = (live.context.peer.of id).tally := by
  have hlimit := m.frames_lt
  obtain ⟨resultA, peerA, hA, hcleanA, htallyA, cA, hpaysA⟩ := advance_peer hpeers (by omega) .a
  obtain ⟨resultB, peerB, hB, hcleanB, htallyB, cB, hpaysB⟩ := advance_peer hpeers (by omega) .b
  obtain ⟨advancedA, otherA, advancedB, otherB, hcallA, hcallB, hcases⟩ :=
    live.advanceBoth_cases (m.script.pair live.tickIndex.toNat)
  rw [show live.context.peer.a.advance (m.script.pair live.tickIndex.toNat).a = _ from hA] at hcallA
  rw [show live.context.peer.b.advance (m.script.pair live.tickIndex.toNat).b = _ from hB] at hcallB
  cases hcallA
  cases hcallB
  rcases hcases with ⟨error, -, herror | herror⟩ | ⟨-, heq⟩
  · cases herror
  · cases herror
  refine ⟨⟨peerA, peerB⟩, heq, ⟨fun id => ?_, fun id => ?_⟩, fun id => ?_⟩
  · cases id with
    | a => exact ⟨cA, hpaysA⟩
    | b => exact ⟨cB, hpaysB⟩
  · cases id with
    | a => exact hcleanA
    | b => exact hcleanB
  · cases id with
    | a => exact htallyA
    | b => exact htallyB

/-- After a tick of the match both peers have advanced by its frame, without a correction. -/
theorem advance {inputs : InputPair} (h : m.Truthful .processed (some inputs) live) :
    Outcome
      (fun _ next => m.Truthful .begun none
          { next.endFrame live.tickIndex with tickIndex := live.tickIndex + 1 } ∧
        live.context.Quiet (next.endFrame live.tickIndex).context)
      (fun _ _ => False) (live.advanceBoth inputs) := by
  have hlimit := m.frames_lt
  obtain ⟨heard, hpeers⟩ := h.peers
  obtain ⟨hlt, rfl⟩ := h.noted_eq inputs rfl
  rw [m.simulated_eq hlt.le] at hpeers
  have hindex : (live.tickIndex + 1).toNat = live.tickIndex.toNat + 1 := by
    rw [UInt32.toNat_add, UInt32.toNat_one, Nat.mod_eq_of_lt (by omega)]
  have hsimulated : m.simulated (live.tickIndex.toNat + 1) = live.tickIndex.toNat + 1 :=
    m.simulated_eq hlt
  have hnoted : m.notedFrames live.tickIndex.toNat (some (m.script.pair live.tickIndex.toNat)) =
      live.tickIndex.toNat + 1 := congrArg (· + 1) (m.simulated_eq hlt.le)
  have hfresh : m.notedFrames (live.tickIndex.toNat + 1) none = live.tickIndex.toNat + 1 := hsimulated
  have hsends : live.tickIndex.toNat < sendingTicks m.config := Nat.lt_add_right _ hlt
  obtain ⟨peers, heq, hpeers', htally⟩ := advanceBoth_peers hpeers hlt
  rw [heq, Outcome.ok_iff]
  obtain ⟨samples, omitted, hsample⟩ := LiveScenario.sampleFrame_eq
    { live with context := { live.context with peer := peers } } live.tickIndex
  have hend : LiveScenario.endFrame { live with context := { live.context with peer := peers } }
      live.tickIndex =
      { live with
        context :=
          { live.context with
            peer := peers
            trace :=
              { live.context.trace with frames := samples, omittedFrameSamples := omitted } }
        replay := m.replayOf (live.tickIndex.toNat + 1) (live.tickIndex.toNat + 1) } := by
    have hlast : live.tickIndex + 1 = live.config.frameCount ↔ m.frames ≤ live.tickIndex.toNat + 1 := by
      rw [h.config_eq, ← UInt32.toNat_inj, hindex, frames]
      rw [frames] at hlt
      omega
    have hreplay := h.replay_eq
    rw [hnoted] at hreplay
    rw [LiveScenario.endFrame, hsample]
    dsimp only
    split
    next hdone =>
      have hdone := hlast.1 hdone
      have hall : m.frames = live.tickIndex.toNat + 1 := by omega
      rw [h.replayState_eq, hreplay, hnoted, replayOf, replayOf, if_pos hdone, hall]
    next hmore =>
      have hmore : ¬m.frames ≤ live.tickIndex.toNat + 1 := fun hdone => hmore (hlast.2 hdone)
      rw [hreplay, replayOf, replayOf, if_neg hmore, if_neg (by omega)]
  rw [hend]
  refine ⟨⟨h.config_eq, h.captureTrace_eq, ⟨heard, ?_⟩, fun id => ?_, fun inputs hinputs => ?_, ?_, ?_,
    fun id => ?_, ?_⟩, ?_⟩
  · dsimp only
    rw [hindex, hsimulated]
    exact ⟨hpeers'.pays, hpeers'.clean⟩
  · dsimp only
    rw [hindex, hfresh, ← hnoted]
    exact h.history id
  · cases hinputs
  · dsimp only
    rw [hindex, hfresh]
  · dsimp only
    rw [hindex, hfresh, ← hnoted]
    exact h.replayState_eq
  · have hsequence := h.sequence id
    rw [nextSequence, if_neg (by simp; omega), min_eq_left hsends.le] at hsequence
    dsimp only
    rw [hsequence, hindex, nextSequence, if_pos (Or.inl rfl), min_eq_left hsends]
  · intro packet hpacket
    obtain ⟨hgenuine, hbefore⟩ := h.transit packet hpacket
    refine ⟨hgenuine, ?_⟩
    dsimp only
    rw [hindex]
    omega
  · exact ⟨htally, rfl, rfl, rfl, rfl⟩

/-- A tick after the match only passes. -/
theorem pass (h : m.Truthful .processed none live) (hpass : m.config.frameCount ≤ live.tickIndex)
    (hticks : live.tickIndex.toNat < totalTicks m.config) :
    m.Truthful .begun none { live with tickIndex := live.tickIndex + 1 } := by
  have hroom := m.room
  have hpassed : m.frames ≤ live.tickIndex.toNat := UInt32.le_iff_toNat_le.1 hpass
  have hindex : (live.tickIndex + 1).toNat = live.tickIndex.toNat + 1 := by
    rw [UInt32.toNat_add, UInt32.toNat_one, Nat.mod_eq_of_lt (by omega)]
  have hsimulated : m.simulated (live.tickIndex.toNat + 1) = m.simulated live.tickIndex.toNat := by
    rw [simulated, simulated, min_eq_right hpassed, min_eq_right (by omega)]
  have hnoted : m.notedFrames (live.tickIndex.toNat + 1) none =
      m.notedFrames live.tickIndex.toNat none := hsimulated
  have hreplay : m.replayOf (live.tickIndex.toNat + 1) = m.replayOf live.tickIndex.toNat := by
    funext k
    rw [replayOf, replayOf, if_pos hpassed, if_pos (by omega)]
  refine ⟨h.config_eq, h.captureTrace_eq, ?_, fun id => ?_, fun inputs hinputs => ?_, ?_, ?_,
    fun id => ?_, ?_⟩
  · dsimp only
    rw [hindex, hsimulated]
    exact h.peers
  · dsimp only
    rw [hindex, hnoted]
    exact h.history id
  · cases hinputs
  · dsimp only
    rw [hindex, hnoted, hreplay]
    exact h.replay_eq
  · dsimp only
    rw [hindex, hnoted]
    exact h.replayState_eq
  · have hsequence := h.sequence id
    dsimp only
    rw [hsequence, hindex, nextSequence, nextSequence, if_pos (Or.inl rfl)]
    by_cases hsends : sendingTicks m.config ≤ live.tickIndex.toNat
    · rw [if_pos (Or.inr hsends), min_eq_right hsends, min_eq_right (by omega)]
    · rw [if_neg (by simp; omega), min_eq_left (by omega), min_eq_left (by omega)]
  · intro packet hpacket
    obtain ⟨hgenuine, hbefore⟩ := h.transit packet hpacket
    refine ⟨hgenuine, ?_⟩
    dsimp only
    rw [hindex]
    omega

end Truthful

/-! ## Runs -/

/-- Where a match begins. -/
def first (m : LiveMatch) : LiveScenario :=
  .start m.config (.create (m.session.of .a)) (.create (m.session.of .b))

/-- Every run over two new sessions is one of a match. -/
theorem exists_match {config : ScenarioRunConfig} {session : Sides SessionConfig}
    (hwindow : ∀ id, (session.of id).maxRollbackFrames.toNat ≤ 120) {first last : LiveScenario}
    (hcreate : LiveScenario.create config (.create session.a) (.create session.b) = .ok first)
    (hreach : LiveScenario.Reaches (fun _ _ => True) first last) :
    ∃ m : LiveMatch, m.config = config ∧ m.session = session ∧ first = m.first ∧
      LiveScenario.Reaches (fun live press => press = m.presses live.tickIndex.toNat) m.first last := by
  obtain ⟨rfl, hpositive, hframes, hroom, hstateA, hstateB⟩ := LiveScenario.create_ok hcreate
  obtain ⟨hlocalA, hlocalB⟩ := LiveScenario.create_peers hcreate
  obtain ⟨presses, hpressed, hpath⟩ := hreach.exists_presses ⟨rfl, rfl⟩ rfl hroom
  refine ⟨⟨config, session, presses, fun id => ?_, fun id => ?_, hwindow, hpressed, hpositive, hframes,
    hroom⟩, rfl, rfl, rfl, hpath⟩
  · cases id with
    | a => exact hlocalA
    | b => exact hlocalB
  · cases id with
    | a => exact hstateA
    | b => exact hstateB

theorem first_truthful (m : LiveMatch) : m.Truthful .begun none m.first where
  config_eq := rfl
  captureTrace_eq := rfl
  peers := by
    refine ⟨⟨∅, ∅⟩, fun id => ⟨0, ?_⟩, fun id => ?_⟩
    · cases id with
      | a => exact .start (m.initial .a) (m.window .a)
      | b => exact .start (m.initial .b) (m.window .b)
    · cases id with
      | a => rfl
      | b => rfl
  history id := by
    cases id with
    | a => rfl
    | b => rfl
  noted_eq _ h := by cases h
  replay_eq := by
    have hpositive := m.frames_pos
    have hcount : UInt32.ofNat m.frames = m.config.frameCount := UInt32.ofNat_toNat
    have hnone : m.notedFrames m.first.tickIndex.toNat none = 0 := Nat.zero_min m.frames
    have hindex : m.first.tickIndex.toNat = 0 := rfl
    rw [hnone, hindex, replayOf, InputScript.replay, if_neg (by rw [frames]; omega), hcount]
    rfl
  replayState_eq := by
    have hnone : m.notedFrames m.first.tickIndex.toNat none = 0 := Nat.zero_min m.frames
    rw [hnone]
    rfl
  sequence id := by
    have hone : m.nextSequence (0 : UInt32).toNat .begun = 1 := by
      rw [nextSequence, if_pos (Or.inl rfl)]
      simp
    cases id with
    | a => exact congrArg UInt32.ofNat hone.symm
    | b => exact congrArg UInt32.ofNat hone.symm
  transit packet hpacket := by cases hpacket

theorem Truthful.clear {live : LiveScenario} {noted : Option InputPair}
    (h : m.Truthful .begun noted live) : m.Truthful .begun noted live.clearCorrections := by
  obtain ⟨heard, hpeers⟩ := h.peers
  exact ⟨h.config_eq, h.captureTrace_eq, ⟨heard, hpeers.pays, hpeers.clean⟩, h.history, h.noted_eq,
    h.replay_eq, h.replayState_eq, h.sequence, h.transit⟩

theorem sent_quiet {live next : LiveScenario} (h : live.Sent next) : live.context.Quiet next.context := by
  obtain ⟨sequence, transport, trace, htrace, rfl⟩ := h
  obtain ⟨packets, omitted, rfl⟩ := htrace
  exact ⟨fun _ => rfl, rfl, rfl, rfl, rfl⟩

/-- A match keeps to its script, and it keeps what receiving genuine packets keeps, also when
it fails. -/
theorem rule (m : LiveMatch) {K : DeliveryContext → Prop}
    (hquiet : ∀ context next, DeliveryContext.Quiet context next → K context → K next)
    (hreceive : ∀ t context heard receiver packet sent, m.Peers (m.simulated t) heard context →
      context.captureTrace = m.config.captureTrace → m.InTransit t sent →
      sent.receiver.side = receiver → decodePacket sent.bytes = .ok packet → K context →
      K (context.receive receiver packet).2) :
    LiveScenario.TickRule m.config (fun live press => press = m.presses live.tickIndex.toNat)
      (fun phase noted live => m.Truthful phase noted live ∧ K live.context)
      (fun error live => NetworkError error ∧ K live.context) where
  config_eq _ _ _ h := h.1.config_eq
  clear live h := ⟨h.1.clear, hquiet live.context _ ⟨fun _ => rfl, rfl, rfl, rfl, rfl⟩ h.2⟩
  record live press h hpress hframe := by
    obtain ⟨next, heq, hcontext, -, hnext⟩ := h.1.clear.record hpress hframe
    refine heq ▸ ⟨hnext, ?_⟩
    rw [hcontext]
    exact hquiet live.context _ ⟨fun _ => rfl, rfl, rfl, rfl, rfl⟩ h.2
  send noted live h hnoted hticks :=
    (h.1.send hnoted hticks).and
      (.of_state (hquiet _ _ (sent_quiet (live.sendBoth_sent _)) h.2) fun _ _ => id)
  process phase noted live h hdelivering :=
    h.1.process hdelivering h.2 hquiet (hreceive live.tickIndex.toNat)
  advance inputs live h _ :=
    h.1.advance.mono (fun _ next hnext => ⟨hnext.1, hquiet _ _ hnext.2 h.2⟩) fun _ _ h => h.elim
  pass live h hpass hticks := ⟨h.1.pass hpass hticks, h.2⟩

end LiveMatch

end RollbackLab
