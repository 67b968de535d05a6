import RollbackLab.LiveScenario
import RollbackLab.Outcome
import Mathlib.Logic.Function.Basic

/-!
# Runs of a scenario

What each part of a tick leaves alone, and the rule by which a whole run keeps what its
parts keep: a scenario is between two ticks, has failed within one, or has been judged.
-/

namespace RollbackLab

/-- A trace with other packet events, and nothing else changed. -/
def Trace.SamePackets (trace next : Trace) : Prop :=
  ∃ packets omitted, next = { trace with packets := packets, omittedPacketEvents := omitted }

namespace Trace.SamePackets

theorem refl (trace : Trace) : trace.SamePackets trace := ⟨_, _, rfl⟩

theorem trans {trace next last : Trace} (h : trace.SamePackets next) (h' : next.SamePackets last) :
    trace.SamePackets last := by
  obtain ⟨packets, omitted, rfl⟩ := h
  obtain ⟨packets', omitted', rfl⟩ := h'
  exact ⟨packets', omitted', rfl⟩

theorem push (trace : Trace) (event : PacketTraceEvent) : trace.SamePackets (trace.pushPacketEvent event) := by
  rw [pushPacketEvent]
  split
  · exact ⟨_, _, rfl⟩
  · exact ⟨_, _, rfl⟩

theorem push_if (trace : Trace) (condition : Prop) [Decidable condition] (event : PacketTraceEvent) :
    trace.SamePackets (if condition then trace.pushPacketEvent event else trace) := by
  split
  · exact push trace event
  · exact refl trace

theorem recordSendEffects (trace : Trace) (captureTrace : Bool) (tick : LogicalTick)
    (sender receiver : Endpoint) (sequence : UInt32) (before after : TransportMetrics) :
    trace.SamePackets
      (trace.recordSendEffects captureTrace tick sender receiver sequence before after) := by
  rw [Trace.recordSendEffects]
  split
  · exact refl trace
  · exact (((push trace _).trans (push_if _ _ _)).trans (push_if _ _ _)).trans (push_if _ _ _)

end Trace.SamePackets

namespace DeliveryContext

/-! ## The parts of a delivery -/

def setPeer (context : DeliveryContext) (id : PlayerId) (session : RollbackSession) : DeliveryContext :=
  { context with peer := context.peer.put id session }

theorem recordDelivery_eq (context : DeliveryContext) (delivery : Delivery) (sequence : UInt32) :
    ∃ trace, context.trace.SamePackets trace ∧
      context.recordDelivery delivery sequence = { context with trace := trace } := by
  rw [recordDelivery]
  split
  · exact ⟨_, .push _ _, rfl⟩
  · exact ⟨_, .refl _, rfl⟩

theorem recordCorrection_eq (context : DeliveryContext) (receiver : PlayerId) (before : WorldState)
    (correction : CorrectionResult) : ∃ corrections rollbacks omitted,
      context.recordCorrection receiver before correction =
        { context with
          corrections := corrections
          trace :=
            { context.trace with rollbacks := rollbacks, omittedRollbackEvents := omitted } } := by
  rw [recordCorrection]
  split
  · exact ⟨_, _, _, rfl⟩
  · dsimp only
    split
    · rw [Trace.pushRollback]
      split
      · exact ⟨_, _, _, rfl⟩
      · exact ⟨_, _, _, rfl⟩
    · exact ⟨_, _, _, rfl⟩

theorem compareHash_eq (receiver : PlayerId) (context : DeliveryContext) (remoteHash : ConfirmedHash) :
    ∃ desync marker, compareHash receiver context remoteHash =
      { context with desync := desync, trace := { context.trace with desync := marker } } := by
  rw [compareHash]
  dsimp only
  split
  · exact ⟨_, _, rfl⟩
  · split
    · exact ⟨_, _, rfl⟩
    · split
      · exact ⟨_, _, rfl⟩
      · split
        · exact ⟨_, _, rfl⟩
        · split
          · exact ⟨_, _, rfl⟩
          · exact ⟨_, _, rfl⟩

theorem compareHashes_eq (receiver : PlayerId) (context : DeliveryContext) (hashes : List ConfirmedHash) :
    ∃ desync marker, hashes.foldl (compareHash receiver) context =
      { context with desync := desync, trace := { context.trace with desync := marker } } := by
  induction hashes generalizing context with
  | nil => exact ⟨_, _, rfl⟩
  | cons hash hashes ih =>
    obtain ⟨desync, marker, heq⟩ := compareHash_eq receiver context hash
    obtain ⟨desync', marker', hrest⟩ := ih (compareHash receiver context hash)
    rw [List.foldl_cons, hrest, heq]
    exact ⟨desync', marker', rfl⟩

/-- A packet is received up to an input that is refused, or up to a correction that fails, or
all its hashes are compared. -/
theorem receive_cases (context : DeliveryContext) (receiver : PlayerId) (packet : Packet) :
    ∃ ingested session, ingestInputs (context.peer.of receiver) packet.inputs = (ingested, session) ∧
      ((∃ error, ingested = .error error ∧
          context.receive receiver packet = (.error error, context.setPeer receiver session)) ∨
        ingested = .ok () ∧ ∃ corrected next, session.flushCorrections = (corrected, next) ∧
          ((∃ error, corrected = .error error ∧
              context.receive receiver packet = (.error error, context.setPeer receiver next)) ∨
            ∃ correction, corrected = .ok correction ∧
              context.receive receiver packet = (.ok (), packet.confirmedHashes.foldl
                (compareHash receiver) ((context.setPeer receiver next).recordCorrection receiver
                  session.state correction)))) := by
  rcases hingest : ingestInputs (context.peer.of receiver) packet.inputs with ⟨ingested, session⟩
  refine ⟨ingested, session, rfl, ?_⟩
  rw [receive, hingest]
  cases ingested with
  | error error => exact Or.inl ⟨error, rfl, rfl⟩
  | ok value =>
    rcases hflush : session.flushCorrections with ⟨corrected, next⟩
    refine Or.inr ⟨rfl, corrected, next, rfl, ?_⟩
    dsimp only
    rw [hflush]
    cases corrected with
    | error error => exact Or.inl ⟨error, rfl, rfl⟩
    | ok correction => exact Or.inr ⟨correction, rfl, rfl⟩

/-- What receiving a packet keeps, the processing of a delivery keeps, if the windows and the
packet events do not matter. -/
theorem processDelivery_outcome {P : DeliveryContext → Prop} {E : Error → DeliveryContext → Prop}
    {context : DeliveryContext} {delivery : Delivery} (hkeep : P context)
    (hdecode : ∀ error, decodePacket delivery.bytes = .error error → E error context)
    (hsame : ∀ next window trace, P next → next.trace.SamePackets trace →
      P { next with window := window, trace := trace })
    (hreceive : ∀ next packet, P next → decodePacket delivery.bytes = .ok packet →
      Outcome (fun _ => P) E (next.receive delivery.receiver.side packet)) :
    Outcome (fun _ => P) E (context.processDelivery delivery) := by
  rw [processDelivery]
  cases hdecoded : decodePacket delivery.bytes with
  | error error => exact hdecode error hdecoded
  | ok packet =>
    dsimp only
    rcases (context.window.of delivery.receiver.side).observe packet.sequence with ⟨disposition, window⟩
    obtain ⟨trace, htrace, heq⟩ := recordDelivery_eq
      { context with window := context.window.put delivery.receiver.side window } delivery
      packet.sequence
    have hnext := hsame context (context.window.put delivery.receiver.side window) trace hkeep htrace
    dsimp only
    rw [heq]
    split
    · exact hnext
    · exact hreceive _ packet hnext hdecoded

/-- What one delivery keeps, all of them do. -/
theorem processAll_outcome {P : DeliveryContext → Prop} {E : Error → DeliveryContext → Prop}
    {deliveries : List Delivery} {context : DeliveryContext} (hkeep : P context)
    (hstep : ∀ next, ∀ delivery ∈ deliveries, P next →
      Outcome (fun _ => P) E (next.processDelivery delivery)) :
    Outcome (fun _ => P) E (context.processAll deliveries) := by
  induction deliveries generalizing context with
  | nil => exact hkeep
  | cons delivery deliveries ih =>
    have hone := hstep context delivery List.mem_cons_self hkeep
    rw [processAll]
    rcases hprocessed : context.processDelivery delivery with ⟨error | _, next⟩
    · rw [hprocessed] at hone
      exact hone
    · rw [hprocessed] at hone
      exact ih hone fun next other hother => hstep next other (List.mem_cons_of_mem _ hother)

end DeliveryContext

namespace LiveScenario

/-! ## The parts of a tick -/

/-- A scenario after one of its peers has sent, or both. -/
def Sent (live next : LiveScenario) : Prop :=
  ∃ sequence transport trace, live.context.trace.SamePackets trace ∧
    next = { live with
      sequence := sequence, transport := transport, context := { live.context with trace := trace } }

theorem Sent.trans {live next last : LiveScenario} (h : live.Sent next) (h' : next.Sent last) :
    live.Sent last := by
  obtain ⟨sequence, transport, trace, htrace, rfl⟩ := h
  obtain ⟨sequence', transport', trace', htrace', rfl⟩ := h'
  exact ⟨sequence', transport', trace', htrace.trans htrace', rfl⟩

theorem send_sent (live : LiveScenario) (id : PlayerId) (tick : LogicalTick) :
    live.Sent (live.send id tick).2 := by
  rw [send]
  dsimp only
  refine ⟨_, _, _, ?_, rfl⟩
  rw [sendPacket]
  split
  · exact .refl _
  · dsimp only
    split
    · exact .refl _
    · exact .recordSendEffects ..

/-- Both peers send, one after the other, and fail if either does. -/
theorem sendBoth_eq (live : LiveScenario) (tick : LogicalTick) : ∃ sentA next sentB last,
    live.send .a tick = (sentA, next) ∧ next.send .b tick = (sentB, last) ∧
      ((∃ error, sentA = .error error ∧ live.sendBoth tick = (.error error, last)) ∨
        sentA = .ok () ∧ live.sendBoth tick = (sentB, last)) := by
  rcases hsentA : live.send .a tick with ⟨sentA, next⟩
  rcases hsentB : next.send .b tick with ⟨sentB, last⟩
  refine ⟨sentA, next, sentB, last, rfl, hsentB, ?_⟩
  rw [sendBoth, hsentA]
  dsimp only
  rw [hsentB]
  cases sentA with
  | error error => exact Or.inl ⟨error, rfl, rfl⟩
  | ok value => exact Or.inr ⟨rfl, rfl⟩

theorem sendBoth_sent (live : LiveScenario) (tick : LogicalTick) : live.Sent (live.sendBoth tick).2 := by
  obtain ⟨sentA, next, sentB, last, hA, hB, hcases⟩ := live.sendBoth_eq tick
  have hnext := live.send_sent .a tick
  have hlast := next.send_sent .b tick
  rw [hA] at hnext
  rw [hB] at hlast
  rcases hcases with ⟨error, -, heq⟩ | ⟨-, heq⟩
  · rw [heq]
    exact hnext.trans hlast
  · rw [heq]
    exact hnext.trans hlast

theorem process_eq (live : LiveScenario) (tick : LogicalTick) {deliveries : List Delivery}
    {transport : SeededTransport} (h : live.transport.deliver tick = (deliveries, transport)) :
    live.process tick = ((live.context.processAll deliveries).1,
      { live with transport := transport, context := (live.context.processAll deliveries).2 }) := by
  rw [process, processTick, h]

/-- Noting the inputs of a frame touches the replay and the histories only. -/
theorem record_eq (live : LiveScenario) (frame : UInt32) (inputs : InputPair) :
    ∃ history replay replayState, (live.record frame inputs).2 =
      { live with history := history, replay := replay, replayState := replayState } := by
  rw [record]
  dsimp only
  split
  · exact ⟨_, _, live.replayState, rfl⟩
  · exact ⟨_, _, _, rfl⟩

/-- What follows the advance of both peers: a sample, and the hash that the replay is to reach. -/
def endFrame (live : LiveScenario) (frame : UInt32) : LiveScenario :=
  let live := live.sampleFrame frame
  if live.tickIndex + 1 = live.config.frameCount then
    { live with
      replay := { live.replay with expectedFinalHash := hashCanonical live.replayState } }
  else live

theorem sampleFrame_eq (live : LiveScenario) (frame : UInt32) : ∃ frames omitted,
    live.sampleFrame frame =
      { live with
        context :=
          { live.context with
            trace :=
              { live.context.trace with frames := frames, omittedFrameSamples := omitted } } } := by
  rw [sampleFrame]
  split
  · dsimp only
    rw [Trace.pushFrame]
    split
    · exact ⟨_, _, rfl⟩
    · exact ⟨_, _, rfl⟩
  · exact ⟨_, _, rfl⟩

/-- The end of a frame is not seen by the transport, and only as a sample by the peers. -/
theorem endFrame_eq (live : LiveScenario) (frame : UInt32) : ∃ frames omitted replay,
    live.endFrame frame =
      { live with
        context :=
          { live.context with
            trace :=
              { live.context.trace with frames := frames, omittedFrameSamples := omitted } }
        replay := replay } := by
  obtain ⟨frames, omitted, heq⟩ := live.sampleFrame_eq frame
  rw [endFrame, heq]
  dsimp only
  split
  · exact ⟨frames, omitted, _, rfl⟩
  · exact ⟨frames, omitted, live.replay, rfl⟩

/-- Both peers advance; the tick goes on when neither fails. -/
theorem advanceBoth_cases (live : LiveScenario) (inputs : InputPair) : ∃ advancedA peerA advancedB peerB,
    live.context.peer.a.advance inputs.a = (advancedA, peerA) ∧
      live.context.peer.b.advance inputs.b = (advancedB, peerB) ∧
      ((∃ error, live.advanceBoth inputs = (.error error, (live.setPeer .a peerA).setPeer .b peerB) ∧
          (advancedA = .error error ∨ advancedB = .error error)) ∨
        (∃ resultA resultB, advancedA = .ok resultA ∧ advancedB = .ok resultB) ∧
          live.advanceBoth inputs = (.ok (), (live.setPeer .a peerA).setPeer .b peerB)) := by
  rcases hA : live.context.peer.a.advance inputs.a with ⟨advancedA, peerA⟩
  rcases hB : live.context.peer.b.advance inputs.b with ⟨advancedB, peerB⟩
  have hA' : (live.context.peer.of .a).advance inputs.a = (advancedA, peerA) := hA
  have hB' : ((live.setPeer .a peerA).context.peer.of .b).advance inputs.b = (advancedB, peerB) := hB
  refine ⟨advancedA, peerA, advancedB, peerB, rfl, rfl, ?_⟩
  rw [advanceBoth, hA']
  dsimp only
  rw [hB']
  cases advancedA with
  | error error => exact Or.inl ⟨error, rfl, Or.inl rfl⟩
  | ok resultA =>
    cases advancedB with
    | error error => exact Or.inl ⟨error, rfl, Or.inr rfl⟩
    | ok resultB => exact Or.inr ⟨⟨resultA, resultB, rfl, rfl⟩, rfl⟩

/-- Two scenarios at the same point of a run. -/
structure SameClock (live next : LiveScenario) : Prop where
  config : next.config = live.config
  tickIndex : next.tickIndex = live.tickIndex
  finished : next.finished = live.finished
  failure : next.failure = live.failure

theorem SameClock.refl (live : LiveScenario) : live.SameClock live := ⟨rfl, rfl, rfl, rfl⟩

theorem SameClock.trans {live next last : LiveScenario} (h : live.SameClock next)
    (h' : next.SameClock last) : live.SameClock last :=
  ⟨h'.config.trans h.config, h'.tickIndex.trans h.tickIndex, h'.finished.trans h.finished,
    h'.failure.trans h.failure⟩

theorem clearCorrections_clock (live : LiveScenario) : live.SameClock live.clearCorrections :=
  ⟨rfl, rfl, rfl, rfl⟩

theorem record_clock (live : LiveScenario) (frame : UInt32) (inputs : InputPair) :
    live.SameClock (live.record frame inputs).2 := by
  obtain ⟨history, replay, replayState, heq⟩ := live.record_eq frame inputs
  rw [heq]
  exact ⟨rfl, rfl, rfl, rfl⟩

theorem sendBoth_clock (live : LiveScenario) (tick : LogicalTick) :
    live.SameClock (live.sendBoth tick).2 := by
  obtain ⟨sequence, transport, trace, -, heq⟩ := live.sendBoth_sent tick
  rw [heq]
  exact ⟨rfl, rfl, rfl, rfl⟩

theorem process_clock (live : LiveScenario) (tick : LogicalTick) :
    live.SameClock (live.process tick).2 := ⟨rfl, rfl, rfl, rfl⟩

theorem advanceBoth_clock (live : LiveScenario) (inputs : InputPair) :
    live.SameClock (live.advanceBoth inputs).2 := by
  obtain ⟨_, peerA, _, peerB, -, -, ⟨error, heq, -⟩ | ⟨-, heq⟩⟩ := live.advanceBoth_cases inputs
  · rw [heq]
    exact ⟨rfl, rfl, rfl, rfl⟩
  · rw [heq]
    exact ⟨rfl, rfl, rfl, rfl⟩

theorem endFrame_clock (live : LiveScenario) (frame : UInt32) : live.SameClock (live.endFrame frame) := by
  obtain ⟨frames, omitted, replay, heq⟩ := live.endFrame_eq frame
  rw [heq]
  exact ⟨rfl, rfl, rfl, rfl⟩

/-- How far a tick has come. -/
inductive Phase where
  | begun | sent | processed
  deriving DecidableEq

/-- A tick of the match keeps what its parts keep, one after the other. -/
theorem playFrame_outcome {live : LiveScenario} {press : Option UInt8} {frame : UInt32}
    {inputs : InputPair} (hframe : live.tickIndex = frame)
    (hinputs : frameInputs live.config ⟨frame⟩ press = inputs) {P : Phase → LiveScenario → Prop} {Q : LiveScenario → Prop}
    {E : Error → LiveScenario → Prop}
    (hrecord : Outcome (fun _ => P .begun) E (live.record frame inputs))
    (hsend : ∀ next, P .begun next →
      Outcome (fun _ => P .sent) E (next.sendBoth ⟨frame⟩))
    (hprocess : ∀ next, P .sent next →
      Outcome (fun _ => P .processed) E (next.process ⟨frame⟩))
    (hadvance : ∀ next, P .processed next →
      Outcome (fun _ last => Q (last.endFrame frame)) E (next.advanceBoth inputs)) :
    Outcome (fun _ => Q) E (live.playFrame press) := by
  rw [playFrame, hframe, hinputs]
  dsimp only
  rcases hrecorded : live.record frame inputs with ⟨e | _, recorded⟩
  · exact hrecord.of_error hrecorded
  have hsent := hsend recorded (hrecord.of_ok hrecorded)
  dsimp only
  rcases hsending : recorded.sendBoth ⟨frame⟩ with ⟨e | _, sent⟩
  · exact hsent.of_error hsending
  have hprocessed := hprocess sent (hsent.of_ok hsending)
  dsimp only
  rcases hprocessing : sent.process ⟨frame⟩ with ⟨e | _, processed⟩
  · exact hprocessed.of_error hprocessing
  have hadvanced := hadvance processed (hprocessed.of_ok hprocessing)
  dsimp only
  rcases hadvancing : processed.advanceBoth inputs with ⟨e | _, advanced⟩
  · exact hadvanced.of_error hadvancing
  have hend : Q (advanced.endFrame frame) := hadvanced.of_ok hadvancing
  rw [endFrame] at hend
  dsimp only at hend ⊢
  split at hend
  next hlast => rw [if_pos hlast]; exact hend
  next hmore => rw [if_neg hmore]; exact hend

/-- A tick after the match, likewise. -/
theorem repeatTail_outcome {live : LiveScenario} {S D : LiveScenario → Prop}
    {E : Error → LiveScenario → Prop}
    (hsend : Outcome (fun _ => S) E (live.sendBoth ⟨live.tickIndex⟩))
    (hprocess : ∀ next, S next →
      Outcome (fun _ => D) E (next.process ⟨live.tickIndex⟩)) :
    Outcome (fun _ => D) E live.repeatTail := by
  have htick : live.config.frameCount + (live.tickIndex - live.config.frameCount) = live.tickIndex := by
    rw [UInt32.add_comm, UInt32.sub_add_cancel]
  rw [repeatTail, htick]
  rcases hsending : live.sendBoth ⟨live.tickIndex⟩ with ⟨e | _, sent⟩
  · exact hsend.of_error hsending
  · exact hprocess sent (hsend.of_ok hsending)

/-- The point of a run does not change within a tick. -/
theorem tickOnce_clock (live : LiveScenario) (press : Option UInt8) :
    live.SameClock (live.tickOnce press).2 := by
  have hsend (next : LiveScenario) (tick : LogicalTick) (h : live.SameClock next) :
      Outcome (fun _ => live.SameClock) (fun _ => live.SameClock) (next.sendBoth tick) :=
    .of_state (h.trans (next.sendBoth_clock tick)) fun _ _ => id
  have hprocess (next : LiveScenario) (tick : LogicalTick) (h : live.SameClock next) :
      Outcome (fun _ => live.SameClock) (fun _ => live.SameClock) (next.process tick) :=
    .of_state (h.trans (next.process_clock tick)) fun _ _ => id
  rw [tickOnce]
  split
  · refine (playFrame_outcome (P := fun _ => live.SameClock) rfl rfl
      (.of_state (live.record_clock _ _) fun _ _ => id) (fun next => hsend next _)
      (fun next => hprocess next _) fun next h => ?_).state
    exact (Outcome.of_state (h.trans (next.advanceBoth_clock _)) fun _ _ => id).mono
      (fun _ last hlast => hlast.trans (last.endFrame_clock _)) fun _ _ => id
  · split
    · exact (repeatTail_outcome (hsend live _ (.refl live)) fun next => hprocess next _).state
    · exact live.process_clock ⟨live.tickIndex⟩

/-! ## Runs -/

/-- What is reached from a scenario by steps that the guard admits. -/
inductive Reaches (guard : LiveScenario → Option UInt8 → Prop) (first : LiveScenario) :
    LiveScenario → Prop
  | start : Reaches guard first first
  | step {live : LiveScenario} (press : Option UInt8) (h : Reaches guard first live)
      (hpress : guard live press) : Reaches guard first (live.step press).2

/-- A scenario after so many steps, with what a player presses in each. -/
def play (presses : ℕ → Option UInt8) (live : LiveScenario) : ℕ → LiveScenario
  | 0 => live
  | n + 1 => ((play presses live n).step (presses n)).2

theorem reaches_play (presses : ℕ → Option UInt8) (live : LiveScenario) (n : ℕ) :
    Reaches (fun _ _ => True) live (play presses live n) := by
  induction n with
  | zero => exact .start
  | succ n ih => exact .step (presses n) ih trivial

def totalTicks (config : ScenarioRunConfig) : ℕ :=
  config.frameCount.toNat + config.tailRedundancyTicks.toNat + 32

theorem toNat_totalTicks {config : ScenarioRunConfig} (hroom : totalTicks config < 2 ^ 32) :
    (config.frameCount + config.tailRedundancyTicks + 32).toNat = totalTicks config := by
  have hdrain : (32 : UInt32).toNat = 32 := rfl
  rw [totalTicks] at hroom ⊢
  rw [UInt32.toNat_add, UInt32.toNat_add, hdrain,
    Nat.mod_eq_of_lt (a := config.frameCount.toNat + _) (by omega), Nat.mod_eq_of_lt hroom]

/-- What is checked before a scenario is created. -/
theorem create_ok {config : ScenarioRunConfig} {peerA peerB : RollbackSession} {first : LiveScenario}
    (h : create config peerA peerB = .ok first) :
    first = start config peerA peerB ∧ 0 < config.frameCount.toNat ∧
      config.frameCount.toNat ≤ kMaxReplayFrames ∧ totalTicks config < 2 ^ 32 ∧
      peerA.report.state = makeInitialWorld ∧ peerB.report.state = makeInitialWorld := by
  rw [create] at h
  split at h
  · cases h
  next hcount =>
    rw [not_or, not_or, ← ne_eq, ne_eq, ← UInt32.toNat_inj, UInt32.toNat_zero, UInt32.not_lt,
      UInt32.le_iff_toNat_le] at hcount
    obtain ⟨hpositive, hframes, hticks⟩ := hcount
    split at h
    · cases h
    next howned =>
      simp only [not_or, not_not] at howned
      obtain ⟨-, -, hstateA, hstateB⟩ := howned
      have hlimit : kMaxReplayFrames = 1000000 := rfl
      have htop : (0xFFFFFFFF : UInt32).toNat = 2 ^ 32 - 1 := rfl
      have hdrain : (32 : UInt32).toNat = 32 := rfl
      have hlt := config.frameCount.toNat_lt
      rw [UInt32.toNat_sub_of_le, UInt32.toNat_sub_of_le, htop, hdrain] at hticks
      · refine ⟨(Except.ok.inj h).symm, by omega, by omega, ?_, hstateA, hstateB⟩
        rw [totalTicks]
        omega
      · rw [UInt32.le_iff_toNat_le, htop]
        omega
      · rw [UInt32.le_iff_toNat_le, UInt32.toNat_sub_of_le, htop, hdrain]
        · omega
        · rw [UInt32.le_iff_toNat_le, htop]
          omega

theorem create_peers {config : ScenarioRunConfig} {peerA peerB : RollbackSession} {first : LiveScenario}
    (h : create config peerA peerB = .ok first) :
    peerA.report.localPeer = .a ∧ peerB.report.localPeer = .b := by
  rw [create] at h
  split at h
  · cases h
  split at h
  · cases h
  next howned =>
    simp only [not_or, not_not] at howned
    exact ⟨howned.1, howned.2.1⟩

/-- The ticks in which the peers send. -/
def sendingTicks (config : ScenarioRunConfig) : ℕ :=
  config.frameCount.toNat + config.tailRedundancyTicks.toNat

/-- Deliveries follow the packets of the tick, and the drain begins with them. -/
def Delivering (config : ScenarioRunConfig) (phase : Phase) (live : LiveScenario) : Prop :=
  (phase = .sent ∧ live.tickIndex.toNat < sendingTicks config) ∨
    (phase = .begun ∧ sendingTicks config ≤ live.tickIndex.toNat)

/-- What the parts of a tick keep. Between ticks no inputs have been noted that are still to
be played; what is kept meanwhile may depend on them. -/
structure TickRule (config : ScenarioRunConfig) (guard : LiveScenario → Option UInt8 → Prop)
    (P : Phase → Option InputPair → LiveScenario → Prop) (E : Error → LiveScenario → Prop) : Prop where
  config_eq : ∀ phase noted live, P phase noted live → live.config = config
  clear : ∀ live, P .begun none live → P .begun none live.clearCorrections
  record : ∀ live press, P .begun none live → guard live press → live.tickIndex < config.frameCount →
    Outcome (fun _ next => P .begun (some (frameInputs config ⟨live.tickIndex⟩ press)) next)
      E
      (live.clearCorrections.record live.tickIndex (frameInputs config ⟨live.tickIndex⟩ press))
  send : ∀ noted live, P .begun noted live → (noted = none → config.frameCount ≤ live.tickIndex) →
    live.tickIndex.toNat < sendingTicks config →
      Outcome (fun _ next => P .sent noted next) E (live.sendBoth ⟨live.tickIndex⟩)
  process : ∀ phase noted live, P phase noted live → Delivering config phase live →
    Outcome (fun _ next => P .processed noted next) E (live.process ⟨live.tickIndex⟩)
  advance : ∀ inputs live, P .processed (some inputs) live → live.tickIndex < config.frameCount →
    Outcome
      (fun _ next => P .begun none { next.endFrame live.tickIndex with tickIndex := live.tickIndex + 1 })
      E (live.advanceBoth inputs)
  pass : ∀ live, P .processed none live → config.frameCount ≤ live.tickIndex →
    live.tickIndex.toNat < totalTicks config →
      P .begun none { live with tickIndex := live.tickIndex + 1 }

/-- The scenario that the last tick leaves behind, once it has been judged. -/
def ending (live : LiveScenario) : LiveScenario :=
  match live.finalize with
  | (.error error, live) => { live with failure := some error }
  | (.ok finished, live) => { live with finished := finished }

theorem judge_ok {live : LiveScenario} {finished : Bool} (h : live.judge = .ok finished) :
    finished = true := by
  rw [judge] at h
  split at h
  · exact (Except.ok.inj h).symm
  · split at h
    · cases h
    · exact (Except.ok.inj h).symm

/-- What a scenario has on record once it is judged. -/
def judged (live : LiveScenario) : LiveScenario :=
  { live with
    desyncDiagnostic := chooseDiagnostic live.context.desync.a.diagnostic
      live.context.desync.b.diagnostic
    report := live.buildReport }

/-- A verdict follows two corrections that do not fail; a run that is complete has both. -/
theorem finalize_cases (live : LiveScenario) : ∃ correctionA peerA correctionB peerB,
    live.context.peer.a.flushCorrections = (correctionA, peerA) ∧
      live.context.peer.b.flushCorrections = (correctionB, peerB) ∧
      let corrected := (live.setPeer .a peerA).setPeer .b peerB
      ((∃ error, live.finalize = (.error error, corrected) ∧
          (correctionA = .error error ∨ correctionB = .error error)) ∨
        (∃ resultA resultB, correctionA = .ok resultA ∧ correctionB = .ok resultB) ∧
          live.finalize = (corrected.judged.judge, corrected.judged)) := by
  rcases hA : live.context.peer.a.flushCorrections with ⟨correctionA, peerA⟩
  rcases hB : live.context.peer.b.flushCorrections with ⟨correctionB, peerB⟩
  have hA' : (live.context.peer.of .a).flushCorrections = (correctionA, peerA) := hA
  have hB' : ((live.setPeer .a peerA).context.peer.of .b).flushCorrections = (correctionB, peerB) := hB
  refine ⟨correctionA, peerA, correctionB, peerB, rfl, rfl, ?_⟩
  rw [finalize, hA']
  dsimp only
  rw [hB']
  cases correctionA with
  | error error => exact Or.inl ⟨error, rfl, Or.inl rfl⟩
  | ok resultA =>
    cases correctionB with
    | error error => exact Or.inl ⟨error, rfl, Or.inr rfl⟩
    | ok resultB => exact Or.inr ⟨⟨resultA, resultB, rfl, rfl⟩, rfl⟩

theorem finalize_ok {live next : LiveScenario} {finished : Bool}
    (h : live.finalize = (.ok finished, next)) : finished = true := by
  obtain ⟨_, peerA, _, peerB, -, -, ⟨error, hfinal, -⟩ | ⟨-, hfinal⟩⟩ := live.finalize_cases
  · rw [hfinal] at h
    cases h
  · rw [hfinal, Prod.mk.injEq] at h
    exact judge_ok h.1

/-- A judged scenario takes no more steps. -/
theorem ending_step (live : LiveScenario) (press : Option UInt8) :
    (live.ending.step press).2 = live.ending := by
  rw [ending]
  rcases hfinal : live.finalize with ⟨e | finished, next⟩
  · rfl
  · have hfinished := finalize_ok hfinal
    subst hfinished
    dsimp only
    rw [step]
    cases hfailure : next.failure with
    | some error => rfl
    | none => rfl

/-- A verdict changes nothing that is shown. -/
theorem ending_trace (live : LiveScenario) : live.ending.context.trace = live.context.trace := by
  obtain ⟨_, peerA, _, peerB, -, -, ⟨error, hfinal, -⟩ | ⟨-, hfinal⟩⟩ := live.finalize_cases
  · rw [ending, hfinal]
    rfl
  · rw [ending, hfinal]
    cases hjudge : ((live.setPeer .a peerA).setPeer .b peerB).judged.judge with
    | error error => rfl
    | ok finished => rfl

/-- Where a run stands. -/
inductive Standing (config : ScenarioRunConfig) (P : LiveScenario → Prop)
    (E : Error → LiveScenario → Prop) : LiveScenario → Prop
  | running {live : LiveScenario} (h : P live) (hopen : live.failure = none ∧ live.finished = false)
      (hticks : live.tickIndex.toNat < totalTicks config) : Standing config P E live
  | failed {live : LiveScenario} {error : Error} (h : E error live)
      (hopen : live.failure = none ∧ live.finished = false) :
      Standing config P E { live with failure := some error }
  | ended {live : LiveScenario} (h : P live) (hticks : live.tickIndex.toNat = totalTicks config)
      (hopen : live.failure = none ∧ live.finished = false) : Standing config P E live.ending

namespace TickRule

variable {config : ScenarioRunConfig} {guard : LiveScenario → Option UInt8 → Prop}
  {P : Phase → Option InputPair → LiveScenario → Prop} {E : Error → LiveScenario → Prop} {live : LiveScenario}
  {press : Option UInt8}

theorem playFrame (h : TickRule config guard P E) (hlive : P .begun none live)
    (hpress : guard live press) (hframe : live.tickIndex < config.frameCount) :
    Outcome (fun _ next => P .begun none { next with tickIndex := live.tickIndex + 1 })
      E (live.clearCorrections.playFrame press) := by
  have hinputs : frameInputs live.clearCorrections.config ⟨live.tickIndex⟩ press =
      frameInputs config ⟨live.tickIndex⟩ press := by
    rw [live.clearCorrections_clock.config, h.config_eq _ _ live hlive]
  have hsends : live.tickIndex.toNat < sendingTicks config :=
    Nat.lt_add_right _ (UInt32.lt_iff_toNat_lt.1 hframe)
  have hstart := live.clearCorrections_clock
  refine playFrame_outcome (P := fun phase next => live.SameClock next ∧
      P phase (some (frameInputs config ⟨live.tickIndex⟩ press)) next) rfl hinputs
    ((h.record live press hlive hpress hframe).with_state (hstart.trans (record_clock _ _ _)))
    (fun next hnext => ?_) (fun next hnext => ?_) fun next hnext => ?_
  · have hsend := h.send _ next hnext.2 (fun hnone => by cases hnone)
      (by rw [hnext.1.tickIndex]; exact hsends)
    rw [hnext.1.tickIndex] at hsend
    exact hsend.with_state (hnext.1.trans (next.sendBoth_clock _))
  · have hprocess := h.process _ _ next hnext.2
      (Or.inl ⟨rfl, by rw [hnext.1.tickIndex]; exact hsends⟩)
    rw [hnext.1.tickIndex] at hprocess
    exact hprocess.with_state (hnext.1.trans (next.process_clock _))
  · have hadvance := h.advance _ next hnext.2 (by rw [hnext.1.tickIndex]; exact hframe)
    rw [hnext.1.tickIndex] at hadvance
    exact hadvance

theorem repeatTail (h : TickRule config guard P E) (hlive : P .begun none live)
    (hpass : config.frameCount ≤ live.tickIndex)
    (htail : live.tickIndex.toNat < sendingTicks config) :
    Outcome (fun _ next => live.SameClock next ∧ P .processed none next) E
      live.clearCorrections.repeatTail := by
  have hstart := live.clearCorrections_clock
  refine repeatTail_outcome (S := fun next => live.SameClock next ∧ P .sent none next) ?_
    fun next hnext => ?_
  · exact (h.send none _ (h.clear live hlive) (fun _ => hpass) htail).with_state
      (hstart.trans (live.clearCorrections.sendBoth_clock _))
  · have hprocess := h.process _ none next hnext.2
      (Or.inl ⟨rfl, by rw [hnext.1.tickIndex]; exact htail⟩)
    rw [hnext.1.tickIndex] at hprocess
    exact hprocess.with_state (hnext.1.trans (next.process_clock _))

/-- A tick that does not fail leaves a scenario as it has to be before the next one. -/
theorem tickOnce (h : TickRule config guard P E) (hlive : P .begun none live)
    (hpress : guard live press) (hroom : totalTicks config < 2 ^ 32)
    (hticks : live.tickIndex.toNat < totalTicks config) :
    Outcome (fun _ next => P .begun none { next with tickIndex := live.tickIndex + 1 })
      E (live.clearCorrections.tickOnce press) := by
  have hconfig : live.clearCorrections.config = config := h.config_eq _ _ live hlive
  have hindex : live.clearCorrections.tickIndex = live.tickIndex := rfl
  rw [totalTicks] at hroom
  have hsum : (config.frameCount + config.tailRedundancyTicks).toNat = sendingTicks config := by
    rw [UInt32.toNat_add, Nat.mod_eq_of_lt (by omega), sendingTicks]
  rw [LiveScenario.tickOnce, hindex, hconfig]
  by_cases hframe : live.tickIndex < config.frameCount
  · rw [if_pos hframe]
    exact h.playFrame hlive hpress hframe
  rw [if_neg hframe]
  have hpass : config.frameCount ≤ live.tickIndex := UInt32.not_lt.1 hframe
  have hidle : ∀ next, live.SameClock next ∧ P .processed none next →
      P .begun none { next with tickIndex := live.tickIndex + 1 } := by
    rintro next ⟨hclock, hnext⟩
    have hpassed := h.pass next hnext (by rw [hclock.tickIndex]; exact hpass)
      (by rw [hclock.tickIndex]; exact hticks)
    rwa [hclock.tickIndex] at hpassed
  by_cases htail : live.tickIndex < config.frameCount + config.tailRedundancyTicks
  · rw [if_pos htail]
    rw [UInt32.lt_iff_toNat_lt, hsum] at htail
    exact (h.repeatTail hlive hpass htail).mono (fun _ next => hidle next) fun _ _ => id
  · rw [if_neg htail]
    rw [UInt32.lt_iff_toNat_lt, hsum, Nat.not_lt] at htail
    have hprocess := h.process _ none _ (h.clear live hlive) (Or.inr ⟨rfl, htail⟩)
    have hclock := live.clearCorrections_clock.trans
      (live.clearCorrections.process_clock ⟨live.tickIndex⟩)
    exact (hprocess.with_state hclock).mono (fun _ next => hidle next) fun _ _ => id

theorem step (h : TickRule config guard P E) (hlive : P .begun none live) (hpress : guard live press)
    (hopen : live.failure = none ∧ live.finished = false) (hroom : totalTicks config < 2 ^ 32)
    (hticks : live.tickIndex.toNat < totalTicks config) :
    Standing config (P .begun none) E (live.step press).2 := by
  have htick := h.tickOnce hlive hpress hroom hticks
  have hclock := live.clearCorrections_clock.trans (live.clearCorrections.tickOnce_clock press)
  rw [LiveScenario.step, hopen.1]
  dsimp only
  rw [hopen.2, if_neg Bool.false_ne_true]
  split
  · exact .running hlive hopen hticks
  rw [stepOnce]
  rcases hnext : live.clearCorrections.tickOnce press with ⟨e | _, next⟩
  · rw [hnext] at htick hclock
    exact .failed htick ⟨hclock.failure.trans hopen.1, hclock.finished.trans hopen.2⟩
  rw [hnext] at htick hclock
  rw [Outcome.ok_iff, ← hclock.tickIndex] at htick
  have hindex : (next.tickIndex + 1).toNat = live.tickIndex.toNat + 1 := by
    rw [hclock.tickIndex, UInt32.toNat_add, UInt32.toNat_one, Nat.mod_eq_of_lt (by omega)]
  have htotal := toNat_totalTicks hroom
  have hconfig : next.config = config := hclock.config.trans (h.config_eq _ _ live hlive)
  by_cases hlast : next.tickIndex + 1 =
      next.config.frameCount + next.config.tailRedundancyTicks + 32
  · have hended : Standing config (P .begun none) E
        (ending { next with tickIndex := next.tickIndex + 1 }) := by
      refine .ended htick ?_ ⟨hclock.failure.trans hopen.1, hclock.finished.trans hopen.2⟩
      dsimp only
      rw [← htotal, hlast, hconfig]
    rw [ending] at hended
    dsimp only
    rw [if_pos hlast]
    rcases hfinal : finalize { next with tickIndex := next.tickIndex + 1 } with ⟨e | finished, final⟩
    · rw [hfinal] at hended
      exact hended
    · rw [hfinal] at hended
      exact hended
  · have hstill : ({ next with tickIndex := next.tickIndex + 1, finished := false } : LiveScenario) =
        { next with tickIndex := next.tickIndex + 1 } := by
      rw [← hopen.2, ← hclock.finished]
    have hne : (next.tickIndex + 1).toNat ≠ totalTicks config := by
      rw [← htotal, ne_eq, UInt32.toNat_inj, ← hconfig]
      exact hlast
    dsimp only
    rw [if_neg hlast]
    dsimp only
    rw [hstill]
    refine .running htick ⟨hclock.failure.trans hopen.1, hclock.finished.trans hopen.2⟩ ?_
    dsimp only
    omega

/-- A run is between two ticks, or it has failed, or it has been judged. -/
theorem reaches (h : TickRule config guard P E) {first : LiveScenario} (hfirst : P .begun none first)
    (hopen : first.failure = none ∧ first.finished = false) (hindex : first.tickIndex = 0)
    (hroom : totalTicks config < 2 ^ 32) (hreach : Reaches guard first live) :
    Standing config (P .begun none) E live := by
  induction hreach with
  | start =>
    refine .running hfirst hopen ?_
    rw [hindex, totalTicks]
    exact Nat.succ_pos _
  | step press _ hpress ih =>
    cases ih with
    | running hlive hopen hticks => exact h.step hlive hpress hopen hroom hticks
    | failed hfailed hopen =>
      rw [LiveScenario.step]
      exact .failed hfailed hopen
    | @ended live hlive hticks hopen =>
      rw [live.ending_step]
      exact .ended hlive hticks hopen

/-- Every run keeps its configuration, and its clock below the last tick while it is open. -/
theorem any (config : ScenarioRunConfig) : TickRule config (fun _ _ => True)
    (fun _ _ live => live.config = config) (fun _ _ => True) where
  config_eq _ _ _ h := h
  clear _ h := h
  record live press h _ _ := .of_state (((live.clearCorrections.record_clock _ _).config).trans h)
    fun _ _ _ => trivial
  send _ live h _ _ := .of_state ((live.sendBoth_clock _).config.trans h) fun _ _ _ => trivial
  process _ _ live h _ := .of_state ((live.process_clock _).config.trans h) fun _ _ _ => trivial
  advance inputs live h _ := by
    have hconfig : Outcome (fun _ next => next.config = config) (fun _ _ => True)
        (live.advanceBoth inputs) :=
      .of_state ((live.advanceBoth_clock inputs).config.trans h) fun _ _ _ => trivial
    exact hconfig.mono
      (fun _ next hnext => (next.endFrame_clock live.tickIndex).config.trans hnext) fun _ _ => id
  pass _ h _ _ := h

end TickRule

/-! ## Presses by tick -/

/-- Between two ticks of a run. -/
def Open (live : LiveScenario) : Prop := live.failure = none ∧ live.finished = false

/-- Buttons that a player does not have are refused. -/
def Refused (press : Option UInt8) : Prop := ∃ buttons ∈ press, buttons &&& 0xE0 ≠ 0

instance (press : Option UInt8) : Decidable (Refused press) := by
  unfold Refused
  infer_instance

theorem any_refused {press : Option UInt8} :
    (press.any fun buttons => buttons &&& 0xE0 ≠ 0) = true ↔ Refused press := by
  cases press with
  | none => simp [Refused]
  | some buttons => simp [Refused]

/-- A step changes nothing unless the scenario is open and the press is not refused. -/
theorem step_idle {live : LiveScenario} {press : Option UInt8} (h : ¬(live.Open ∧ ¬Refused press)) :
    (live.step press).2 = live := by
  rw [step]
  cases hfailure : live.failure with
  | some error => rfl
  | none =>
    dsimp only
    split
    · rfl
    next hopen =>
      rw [if_pos]
      rw [any_refused]
      by_contra hpress
      exact h ⟨⟨hfailure, Bool.eq_false_of_not_eq_true hopen⟩, hpress⟩

theorem not_open_ending (live : LiveScenario) : ¬live.ending.Open := by
  intro hopen
  rw [ending] at hopen
  rcases hfinal : live.finalize with ⟨e | finished, next⟩
  · rw [hfinal] at hopen
    cases hopen.1
  · rw [hfinal, finalize_ok hfinal] at hopen
    cases hopen.2

/-- A step that leaves the scenario open takes it to the next tick. -/
theorem step_index {live : LiveScenario} {press : Option UInt8} (h : live.Open) (hpress : ¬Refused press)
    (hopen : (live.step press).2.Open) : (live.step press).2.tickIndex = live.tickIndex + 1 := by
  rw [step, h.1] at hopen ⊢
  dsimp only at hopen ⊢
  rw [h.2, if_neg Bool.false_ne_true, if_neg (fun hany => hpress (any_refused.1 hany)), stepOnce] at hopen ⊢
  have hclock := live.clearCorrections_clock.trans (live.clearCorrections.tickOnce_clock press)
  rcases hnext : live.clearCorrections.tickOnce press with ⟨e | _, next⟩
  · rw [hnext] at hopen
    cases hopen.1
  rw [hnext] at hopen hclock
  dsimp only at hopen hclock ⊢
  by_cases hlast : next.tickIndex + 1 =
      next.config.frameCount + next.config.tailRedundancyTicks + 32
  · have hended := not_open_ending { next with tickIndex := next.tickIndex + 1 }
    rw [if_pos hlast] at hopen
    rw [ending] at hended
    rcases hfinal : finalize { next with tickIndex := next.tickIndex + 1 } with ⟨e | finished, final⟩
    · rw [hfinal] at hopen hended
      exact absurd hopen hended
    · rw [hfinal] at hopen hended
      exact absurd hopen hended
  · rw [if_neg hlast]
    exact congrArg (· + 1) hclock.tickIndex

/-- Buttons that a player has. -/
theorem not_refused {press : Option UInt8} (h : ∀ buttons ∈ press, buttons ≤ 31) : ¬Refused press := by
  rintro ⟨buttons, hbuttons, hne⟩
  have hsmall : ∀ n < 32, n &&& 224 = 0 := by decide
  have hle := UInt8.le_iff_toNat_le.1 (h buttons hbuttons)
  have h31 : (31 : UInt8).toNat = 31 := rfl
  apply hne
  apply UInt8.toNat_inj.1
  rw [UInt8.toNat_and]
  exact hsmall buttons.toNat (by omega)

/-- An error that a step reports is kept, unless it refuses a button. -/
theorem step_error {live : LiveScenario} {press : Option UInt8} {error : Error}
    (h : (live.step press).1 = .error error) :
    (live.step press).2.failure = some error ∨ error.code = .invalidArgument := by
  rw [step] at h ⊢
  cases hfailure : live.failure with
  | some failure =>
    rw [hfailure] at h
    exact Or.inl (hfailure.trans (congrArg some (Except.error.inj h)))
  | none =>
    rw [hfailure] at h
    dsimp only at h ⊢
    split at h
    · cases h
    next hmore =>
      rw [if_neg hmore]
      split at h
      · exact Or.inr (Except.error.inj h ▸ rfl)
      next hpress =>
        rw [if_neg hpress]
        rcases hstep : live.stepOnce press with ⟨e | finished, next⟩
        · rw [hstep] at h
          exact Or.inl (congrArg some (Except.error.inj h))
        · rw [hstep] at h
          cases h

/-- While a player presses buttons that exist, an open scenario has come a tick further with
each step. -/
theorem play_index {presses : ℕ → Option UInt8} (hpresses : ∀ t, ¬Refused (presses t))
    {live : LiveScenario} {n : ℕ} (h : (play presses live n).Open) :
    (play presses live n).tickIndex = live.tickIndex + UInt32.ofNat n := by
  induction n with
  | zero => exact (UInt32.add_zero _).symm
  | succ n ih =>
    have hopen : (play presses live n).Open := by
      by_contra hclosed
      rw [play, step_idle fun hboth => hclosed hboth.1] at h
      exact hclosed h
    rw [play] at h ⊢
    rw [step_index hopen (hpresses n) h, ih hopen, UInt32.add_assoc, UInt32.ofNat_add]
    rfl

theorem ending_tickIndex (live : LiveScenario) : live.ending.tickIndex = live.tickIndex := by
  obtain ⟨_, peerA, _, peerB, -, -, ⟨error, hfinal, -⟩ | ⟨-, hfinal⟩⟩ := live.finalize_cases
  · rw [ending, hfinal]
    rfl
  · rw [ending, hfinal]
    cases hjudge : ((live.setPeer .a peerA).setPeer .b peerB).judged.judge with
    | error error => rfl
    | ok finished => rfl

/-- No step takes a scenario further than to the next tick. -/
theorem step_tickIndex (live : LiveScenario) (press : Option UInt8) :
    (live.step press).2.tickIndex = live.tickIndex ∨
      (live.step press).2.tickIndex = live.tickIndex + 1 := by
  by_cases hactive : live.Open ∧ ¬Refused press
  · obtain ⟨hopen, hpress⟩ := hactive
    rw [step, hopen.1]
    dsimp only
    rw [hopen.2, if_neg Bool.false_ne_true, if_neg (fun hany => hpress (any_refused.1 hany)), stepOnce]
    have hclock := live.clearCorrections_clock.trans (live.clearCorrections.tickOnce_clock press)
    rcases hnext : live.clearCorrections.tickOnce press with ⟨e | _, next⟩
    · rw [hnext] at hclock
      exact Or.inl hclock.tickIndex
    rw [hnext] at hclock
    have hended := ending_tickIndex { next with tickIndex := next.tickIndex + 1 }
    have hindex : next.tickIndex = live.tickIndex := hclock.tickIndex
    rw [ending] at hended
    dsimp only at hended ⊢
    rw [← hindex]
    by_cases hlast : next.tickIndex + 1 =
        next.config.frameCount + next.config.tailRedundancyTicks + 32
    · rw [if_pos hlast]
      rcases hfinal : finalize { next with tickIndex := next.tickIndex + 1 } with ⟨e | finished, final⟩
      · rw [hfinal] at hended
        exact Or.inr hended
      · rw [hfinal] at hended
        exact Or.inr hended
    · rw [if_neg hlast]
      exact Or.inr rfl
  · rw [step_idle hactive]
    exact Or.inl rfl

/-- Where a run stands after `n` steps, when no press is refused: it has failed, or it is open
and in its tick `n`, or this was the last tick and it has been judged. -/
theorem TickRule.play {config : ScenarioRunConfig} {presses : ℕ → Option UInt8}
    {P : Phase → Option InputPair → LiveScenario → Prop} {E : Error → LiveScenario → Prop}
    (h : TickRule config (fun live press => press = presses live.tickIndex.toNat) P E)
    (hpresses : ∀ t, ¬Refused (presses t)) {first : LiveScenario} (hfirst : P .begun none first)
    (hopen : first.Open) (hindex : first.tickIndex = 0) (hroom : totalTicks config < 2 ^ 32) {n : ℕ}
    (hn : n ≤ totalTicks config) :
    (∃ live error, E error live ∧ live.Open ∧
        LiveScenario.play presses first n = { live with failure := some error }) ∨
      (n < totalTicks config ∧ P .begun none (LiveScenario.play presses first n) ∧
        (LiveScenario.play presses first n).Open ∧
        (LiveScenario.play presses first n).tickIndex.toNat = n) ∨
      n = totalTicks config ∧ ∃ live, P .begun none live ∧ live.Open ∧
        live.tickIndex.toNat = totalTicks config ∧
        LiveScenario.play presses first n = live.ending := by
  induction n with
  | zero =>
    refine Or.inr (Or.inl ⟨Nat.succ_pos _, hfirst, hopen, ?_⟩)
    exact (congrArg UInt32.toNat hindex).trans UInt32.toNat_zero
  | succ n ih =>
    rw [LiveScenario.play]
    rcases ih (by omega) with
      ⟨live, error, herror, hlive, heq⟩ | ⟨hlt, hnow, hrunning, htick⟩ | ⟨htotal, -⟩
    · rw [heq, step_idle fun hactive => (by cases hactive.1.1)]
      exact Or.inl ⟨live, error, herror, hlive, rfl⟩
    · have hmoved := step_tickIndex (LiveScenario.play presses first n) (presses n)
      have hopened := step_index hrunning (hpresses n)
      have hstep := @TickRule.step _ _ _ _ _ (presses n) h hnow (by rw [htick]) hrunning hroom
        (by rw [htick]; exact hlt)
      have hsucc : ((LiveScenario.play presses first n).tickIndex + 1).toNat = n + 1 := by
        rw [UInt32.toNat_add, UInt32.toNat_one, htick, Nat.mod_eq_of_lt (by omega)]
      revert hstep hmoved hopened
      generalize ((LiveScenario.play presses first n).step (presses n)).2 = next
      intro hmoved hopened hstep
      cases hstep with
      | running hnext hopen hticks =>
        rw [← hopened hopen] at hsucc
        exact Or.inr (Or.inl ⟨by omega, hnext, hopen, hsucc⟩)
      | @failed live error hnext hopen => exact Or.inl ⟨live, error, hnext, hopen, rfl⟩
      | @ended live hnext hticks hopen =>
        refine Or.inr (Or.inr ⟨?_, live, hnext, hopen, hticks, rfl⟩)
        rw [ending_tickIndex] at hmoved
        rcases hmoved with hsame | hmoved
        · rw [hsame] at hticks
          omega
        · rw [hmoved, hsucc] at hticks
          exact hticks
    · omega

theorem Reaches.mono {guard other : LiveScenario → Option UInt8 → Prop} {first live : LiveScenario}
    (h : Reaches guard first live) (hguard : ∀ live press, guard live press → other live press) :
    Reaches other first live := by
  induction h with
  | start => exact .start
  | step press _ hpress ih => exact .step press ih (hguard _ _ hpress)

/-- Every run is one in which the presses are given by tick, and none is refused. -/
theorem Reaches.exists_presses {first live : LiveScenario} (h : Reaches (fun _ _ => True) first live)
    (hopen : first.Open) (hindex : first.tickIndex = 0) (hroom : totalTicks first.config < 2 ^ 32) :
    ∃ presses : ℕ → Option UInt8, (∀ t, ¬Refused (presses t)) ∧
      Reaches (fun live press => press = presses live.tickIndex.toNat) first live := by
  suffices hstrong : ∃ presses : ℕ → Option UInt8, (∀ t, ¬Refused (presses t)) ∧
      Reaches (fun earlier press => press = presses earlier.tickIndex.toNat ∧
        (live.Open → earlier.tickIndex.toNat < live.tickIndex.toNat)) first live by
    obtain ⟨presses, hlegal, hreach⟩ := hstrong
    exact ⟨presses, hlegal, hreach.mono fun _ _ hguard => hguard.1⟩
  induction h with
  | start =>
    refine ⟨fun _ => none, fun _ hrefused => ?_, .start⟩
    obtain ⟨buttons, hmem, -⟩ := hrefused
    cases hmem
  | @step live press hreach _ ih =>
    obtain ⟨presses, hlegal, hbefore⟩ := ih
    by_cases hactive : live.Open ∧ ¬Refused press
    · -- The press is noted under the tick of the step, which no earlier step was in.
      have hstanding := (TickRule.any first.config).reaches rfl hopen hindex hroom hreach
      have hticks : live.tickIndex.toNat < totalTicks first.config := by
        cases hstanding with
        | running _ _ hticks => exact hticks
        | failed _ _ => cases hactive.1.1
        | ended _ _ _ => exact absurd hactive.1 (not_open_ending _)
      have hnow : (Function.update presses live.tickIndex.toNat press) live.tickIndex.toNat = press :=
        Function.update_self ..
      refine ⟨Function.update presses live.tickIndex.toNat press, fun t => ?_, ?_⟩
      · rcases eq_or_ne t live.tickIndex.toNat with rfl | hne
        · rw [hnow]
          exact hactive.2
        · rw [Function.update_of_ne hne]
          exact hlegal t
      · have hafter (hnext : (live.step press).2.Open) :
            (live.step press).2.tickIndex.toNat = live.tickIndex.toNat + 1 := by
          rw [step_index hactive.1 hactive.2 hnext, UInt32.toNat_add, UInt32.toNat_one,
            Nat.mod_eq_of_lt (by omega)]
        refine .step press (hbefore.mono fun earlier other hother => ?_) ⟨hnow.symm, fun hnext => ?_⟩
        · have hlt := hother.2 hactive.1
          refine ⟨?_, fun hnext => ?_⟩
          · rw [Function.update_of_ne hlt.ne]
            exact hother.1
          · rw [hafter hnext]
            omega
        · rw [hafter hnext]
          omega
    · rw [step_idle hactive]
      exact ⟨presses, hlegal, hbefore⟩

end LiveScenario

end RollbackLab
