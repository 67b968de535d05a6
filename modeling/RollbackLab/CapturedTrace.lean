import RollbackLab.TraceSampling
import RollbackLab.TraceTexts

/-!
# The trace of a run can be shown

Whatever a run does, also when it fails, its trace stays within its capacities, so that it can be
written at any time; and the viewer makes a page of it exactly when the run captures a trace.
-/

namespace RollbackLab

namespace Trace

/-- The trace notes more, but takes no sample. -/
structure Grows (trace next : Trace) : Prop where
  frames : next.frames = trace.frames
  fits : trace.Fits → next.Fits

variable {trace next last : Trace}

theorem Grows.refl (trace : Trace) : trace.Grows trace := ⟨rfl, id⟩

theorem Grows.trans (h : trace.Grows next) (h' : next.Grows last) : trace.Grows last :=
  ⟨h'.frames.trans h.frames, h'.fits ∘ h.fits⟩

theorem pushPacketEvent_grows (trace : Trace) (event : PacketTraceEvent) :
    trace.Grows (trace.pushPacketEvent event) := by
  rw [pushPacketEvent]
  split
  next hroom =>
    refine ⟨rfl, fun h => ⟨h.frames, ?_, h.rollbacks⟩⟩
    rw [List.length_append, List.length_singleton]
    exact hroom
  next => exact ⟨rfl, fun h => ⟨h.frames, h.packets, h.rollbacks⟩⟩

theorem pushRollback_grows (trace : Trace) (event : RollbackTraceEvent) :
    trace.Grows (trace.pushRollback event) := by
  rw [pushRollback]
  split
  next hroom =>
    refine ⟨rfl, fun h => ⟨h.frames, h.packets, ?_⟩⟩
    rw [List.length_append, List.length_singleton]
    exact hroom
  next => exact ⟨rfl, fun h => ⟨h.frames, h.packets, h.rollbacks⟩⟩

/-- A sample is the only thing that may not fit. -/
theorem Fits.pushFrame (h : trace.Fits) (frame : TraceFrame) :
    (trace.pushFrame frame).Fits ∧ (trace.frames ≠ [] → (trace.pushFrame frame).frames ≠ []) := by
  rw [Trace.pushFrame]
  split
  next hroom =>
    refine ⟨⟨?_, h.packets, h.rollbacks⟩, fun _ => ?_⟩
    · rw [List.length_append, List.length_singleton]
      exact hroom
    · exact List.append_ne_nil_of_right_ne_nil _ (List.cons_ne_nil _ _)
  next => exact ⟨⟨h.frames, h.packets, h.rollbacks⟩, id⟩

theorem recordSendEffects_grows (trace : Trace) (captureTrace : Bool) (tick : LogicalTick)
    (sender receiver : Endpoint) (sequence : UInt32) (before after : TransportMetrics) :
    trace.Grows (trace.recordSendEffects captureTrace tick sender receiver sequence before after) := by
  have hpush : ∀ (condition : Prop) [Decidable condition] (trace : Trace) (event : PacketTraceEvent),
      trace.Grows (if condition then trace.pushPacketEvent event else trace) := by
    intro condition _ trace event
    split
    · exact trace.pushPacketEvent_grows event
    · exact .refl trace
  rw [recordSendEffects]
  split
  · exact .refl trace
  · exact (((trace.pushPacketEvent_grows _).trans (hpush _ _ _)).trans (hpush _ _ _)).trans (hpush _ _ _)

end Trace

namespace DeliveryContext

/-- The context of later deliveries. -/
structure Grows (context next : DeliveryContext) : Prop where
  capture : next.captureTrace = context.captureTrace
  trace : context.trace.Grows next.trace
  idle : context.captureTrace = false → next.trace = context.trace

variable {context next last : DeliveryContext}

theorem Grows.of_same (hcapture : next.captureTrace = context.captureTrace)
    (htrace : next.trace = context.trace) : context.Grows next :=
  ⟨hcapture, htrace ▸ .refl _, fun _ => htrace⟩

theorem Grows.trans (h : context.Grows next) (h' : next.Grows last) : context.Grows last :=
  ⟨h'.capture.trans h.capture, h.trace.trans h'.trace, fun hidle =>
    (h'.idle (h.capture.trans hidle)).trans (h.idle hidle)⟩

theorem recordCorrection_grows (context : DeliveryContext) (receiver : PlayerId) (before : WorldState)
    (correction : CorrectionResult) : context.Grows (context.recordCorrection receiver before correction) := by
  rw [recordCorrection]
  split
  · exact .of_same rfl rfl
  · refine ⟨rfl, ?_, fun hidle => ?_⟩
    · dsimp only
      split
      · exact context.trace.pushRollback_grows _
      · exact .refl _
    · dsimp only
      rw [hidle]
      rfl

theorem compareHash_grows (receiver : PlayerId) (context : DeliveryContext) (remoteHash : ConfirmedHash) :
    context.Grows (compareHash receiver context remoteHash) := by
  have hidle : context.captureTrace = false →
      (compareHash receiver context remoteHash).trace = context.trace := by
    intro hidle
    rw [compareHash]
    dsimp only
    split
    · rfl
    split
    · rfl
    split
    · rfl
    dsimp only
    split
    · rfl
    · rw [hidle]
      rfl
  obtain ⟨desync, marker, heq⟩ := compareHash_eq receiver context remoteHash
  rw [heq] at hidle ⊢
  exact ⟨rfl, ⟨rfl, fun h => ⟨h.frames, h.packets, h.rollbacks⟩⟩, hidle⟩

theorem receive_grows (context : DeliveryContext) (receiver : PlayerId) (packet : Packet) :
    context.Grows (context.receive receiver packet).2 := by
  obtain ⟨_, session, -, ⟨error, -, heq⟩ | ⟨-, _, next, -, ⟨error, -, heq⟩ | ⟨correction, -, heq⟩⟩⟩ :=
    context.receive_cases receiver packet
  · rw [heq]
    exact .of_same rfl rfl
  · rw [heq]
    exact .of_same rfl rfl
  · rw [heq]
    have hpeer : context.Grows (context.setPeer receiver next) := .of_same rfl rfl
    have hcorrected := hpeer.trans
      ((context.setPeer receiver next).recordCorrection_grows receiver session.state correction)
    generalize (context.setPeer receiver next).recordCorrection receiver session.state correction =
      corrected at hcorrected ⊢
    dsimp only
    induction packet.confirmedHashes generalizing corrected with
    | nil => exact hcorrected
    | cons hash hashes ih => exact ih _ (hcorrected.trans (compareHash_grows receiver corrected hash))

theorem processDelivery_grows (context : DeliveryContext) (delivery : Delivery) :
    context.Grows (context.processDelivery delivery).2 := by
  rw [processDelivery]
  split
  · exact .of_same rfl rfl
  · dsimp only
    rcases (context.window.of delivery.receiver.side).observe _ with ⟨disposition, window⟩
    dsimp only
    generalize hstart : ({ context with window := context.window.put delivery.receiver.side window } :
      DeliveryContext) = start
    have hrecorded : ∀ sequence, context.Grows (start.recordDelivery delivery sequence) := by
      intro sequence
      rw [← hstart, recordDelivery]
      split
      next hcapture =>
        exact ⟨rfl, context.trace.pushPacketEvent_grows _, fun hidle =>
          absurd hcapture (by rw [hidle]; decide)⟩
      next => exact .of_same rfl rfl
    split
    · exact hrecorded _
    · exact (hrecorded _).trans (receive_grows _ _ _)

theorem processAll_grows (context : DeliveryContext) (deliveries : List Delivery) :
    context.Grows (context.processAll deliveries).2 := by
  induction deliveries generalizing context with
  | nil => exact .of_same rfl rfl
  | cons delivery deliveries ih =>
    have hone := context.processDelivery_grows delivery
    rw [processAll]
    rcases hprocessed : context.processDelivery delivery with ⟨error | _, next⟩
    · rw [hprocessed] at hone
      exact hone
    · rw [hprocessed] at hone
      exact hone.trans (ih next)

end DeliveryContext

namespace LiveScenario

theorem send_grows {live : LiveScenario} (hcapture : live.context.captureTrace = live.config.captureTrace)
    (id : PlayerId) (tick : LogicalTick) :
    live.context.Grows (live.send id tick).2.context ∧ (live.send id tick).2.config = live.config := by
  rw [send]
  dsimp only
  refine ⟨?_, rfl⟩
  rw [sendPacket]
  split
  · exact .of_same rfl rfl
  · dsimp only
    split
    · exact .of_same rfl rfl
    · refine ⟨rfl, live.context.trace.recordSendEffects_grows .., fun hidle => ?_⟩
      dsimp only
      rw [← hcapture, hidle]
      rfl

theorem sendBoth_grows {live : LiveScenario} (hcapture : live.context.captureTrace = live.config.captureTrace)
    (tick : LogicalTick) : live.context.Grows (live.sendBoth tick).2.context := by
  obtain ⟨sentA, next, sentB, last, hA, hB, hcases⟩ := live.sendBoth_eq tick
  obtain ⟨hnext, hconfig⟩ := send_grows hcapture .a tick
  rw [hA] at hnext hconfig
  obtain ⟨hlast, -⟩ := @send_grows next (hnext.capture.trans (hcapture.trans
    (congrArg ScenarioRunConfig.captureTrace hconfig.symm))) .b tick
  rw [hB] at hlast
  rcases hcases with ⟨error, -, heq⟩ | ⟨-, heq⟩
  · rw [heq]
    exact hnext.trans hlast
  · rw [heq]
    exact hnext.trans hlast

/-- The trace of a run that captures none. -/
def bareTrace (config : ScenarioRunConfig) : Trace :=
  { scenarioSeed := config.scenarioSeed, sampleInterval := traceSampleInterval config.frameCount }

/-- A trace that fits, with samples exactly when the run captures any. -/
structure Captured (config : ScenarioRunConfig) (live : LiveScenario) : Prop where
  config_eq : live.config = config
  capture_eq : live.context.captureTrace = config.captureTrace
  fits : live.context.trace.Fits
  sampled : live.context.trace.frames ≠ [] ↔ config.captureTrace = true
  bare : config.captureTrace = false → live.context.trace = bareTrace config

variable {config : ScenarioRunConfig} {live next : LiveScenario}

theorem Captured.grow (h : Captured config live) (hconfig : next.config = live.config)
    (hgrows : live.context.Grows next.context) : Captured config next := by
  refine ⟨hconfig.trans h.config_eq, hgrows.capture.trans h.capture_eq, hgrows.trace.fits h.fits, ?_,
    fun hidle => (hgrows.idle (h.capture_eq.trans hidle)).trans (h.bare hidle)⟩
  rw [hgrows.trace.frames]
  exact h.sampled

theorem Captured.sampleFrame (h : Captured config live) (frame : UInt32) :
    Captured config (live.sampleFrame frame) := by
  rw [LiveScenario.sampleFrame]
  split
  next hdue =>
    have hcapture : config.captureTrace = true := h.config_eq ▸ hdue.1
    obtain ⟨hfits, hframes⟩ := h.fits.pushFrame ⟨live.context.peer.a.report.state.frame,
      live.context.peer.a.report.state, live.context.peer.a.report.finalHash,
      live.context.peer.a.report.metrics.confirmedFrame ≠ live.context.peer.a.report.state.frame,
      live.context.peer.a.report.metrics.confirmedFrame⟩
    exact ⟨h.config_eq, h.capture_eq, hfits, ⟨fun _ => hcapture, fun _ => hframes (h.sampled.2 hcapture)⟩,
      fun hidle => absurd hcapture (by rw [hidle]; decide)⟩
  next => exact h

theorem captured_rule (config : ScenarioRunConfig) :
    TickRule config (fun _ _ => True) (fun _ _ => Captured config) (fun _ => Captured config) where
  config_eq _ _ _ h := h.config_eq
  clear _ h := ⟨h.config_eq, h.capture_eq, h.fits, h.sampled, h.bare⟩
  record live press h _ _ := by
    have hkept : Captured config (live.clearCorrections.record live.tickIndex
        (frameInputs config ⟨live.tickIndex⟩ press)).2 := by
      obtain ⟨history, replay, replayState, heq⟩ := live.clearCorrections.record_eq live.tickIndex
        (frameInputs config ⟨live.tickIndex⟩ press)
      rw [heq]
      exact ⟨h.config_eq, h.capture_eq, h.fits, h.sampled, h.bare⟩
    exact Outcome.of_state hkept fun _ _ => id
  send _ live h _ _ :=
    Outcome.of_state (h.grow (live.sendBoth_clock _).config (sendBoth_grows (h.capture_eq.trans
      (congrArg ScenarioRunConfig.captureTrace h.config_eq.symm)) _)) fun _ _ => id
  process _ _ live h _ := by
    have hkept : Captured config (live.process ⟨live.tickIndex⟩).2 := by
      rcases hdeliver : live.transport.deliver ⟨live.tickIndex⟩ with ⟨deliveries, transport⟩
      rw [live.process_eq _ hdeliver]
      exact h.grow rfl (live.context.processAll_grows deliveries)
    exact Outcome.of_state hkept fun _ _ => id
  advance inputs live h _ := by
    have hpeers : ∀ peerA peerB, Captured config ((live.setPeer .a peerA).setPeer .b peerB) :=
      fun _ _ => ⟨h.config_eq, h.capture_eq, h.fits, h.sampled, h.bare⟩
    obtain ⟨_, peerA, _, peerB, -, -, ⟨error, heq, -⟩ | ⟨-, heq⟩⟩ := live.advanceBoth_cases inputs
    · rw [heq]
      exact hpeers peerA peerB
    · rw [heq, Outcome.ok_iff, endFrame]
      have hsampled := (hpeers peerA peerB).sampleFrame live.tickIndex
      dsimp only
      split
      · exact ⟨hsampled.config_eq, hsampled.capture_eq, hsampled.fits, hsampled.sampled, hsampled.bare⟩
      · exact ⟨hsampled.config_eq, hsampled.capture_eq, hsampled.fits, hsampled.sampled, hsampled.bare⟩
  pass _ h _ _ := ⟨h.config_eq, h.capture_eq, h.fits, h.sampled, h.bare⟩

theorem Captured.start (config : ScenarioRunConfig) (peerA peerB : RollbackSession) :
    Captured config (start config peerA peerB) := by
  refine ⟨rfl, rfl, ⟨?_, Nat.zero_le _, Nat.zero_le _⟩, ?_, fun hidle => ?_⟩
  · rw [LiveScenario.start]
    dsimp only
    split
    · exact Nat.succ_le_of_lt (by decide)
    · exact Nat.zero_le _
  · rw [LiveScenario.start]
    dsimp only
    split
    next hcapture => exact ⟨fun _ => hcapture, fun _ => List.cons_ne_nil _ _⟩
    next hcapture => exact ⟨fun h => absurd rfl h, fun h => absurd h hcapture⟩
  · rw [LiveScenario.start]
    dsimp only
    rw [hidle]
    rfl

/-- Where a run stands, its trace fits, and it is bare if the run captures none. -/
theorem Captured.reaches {peerA peerB : RollbackSession} (hroom : totalTicks config < 2 ^ 32)
    (hrun : Reaches (fun _ _ => True) (.start config peerA peerB) live) :
    live.context.trace.Fits ∧ (live.context.trace.frames ≠ [] ↔ config.captureTrace = true) ∧
      (config.captureTrace = false → live.context.trace = bareTrace config) := by
  have hstanding := (captured_rule config).reaches (.start config peerA peerB) ⟨rfl, rfl⟩ rfl hroom hrun
  cases hstanding with
  | running h => exact ⟨h.fits, h.sampled, h.bare⟩
  | failed h => exact ⟨h.fits, h.sampled, h.bare⟩
  | ended h =>
    rw [ending_trace]
    exact ⟨h.fits, h.sampled, h.bare⟩

/-- The trace of a scenario can be written after any steps, whatever is pressed in them and
whether or not the run has failed, and a reader of JSON gets it back. The viewer embeds that text,
in which no tag begins, between the parts of its page; it refuses runs without a trace only. -/
theorem captured_trace_viewable {peerA peerB : RollbackSession} {first : LiveScenario}
    (hcreate : create config peerA peerB = .ok first) (hrun : Reaches (fun _ _ => True) first live)
    (opening closing : List UInt8) :
    ∃ json, canonicalTraceJson live.artifacts.trace = .ok json ∧
      Json.parse json = some (traceJson live.artifacts.trace) ∧ tagMark ∉ json ∧
      generateViewerHtml opening closing live.artifacts.trace =
        if config.captureTrace then .ok (opening ++ json ++ closing)
        else .error ⟨.invalidArgument, 0, 0, "viewer_empty_trace"⟩ := by
  obtain ⟨rfl, -, -, hroom, -, -⟩ := create_ok hcreate
  obtain ⟨hfits, hsampled, -⟩ := Captured.reaches hroom hrun
  obtain ⟨json, hjson⟩ : ∃ json, canonicalTraceJson live.context.trace = .ok json :=
    ⟨_, canonicalTraceJson_ok.2 ⟨hfits, rfl⟩⟩
  refine ⟨json, hjson, parse_canonicalTraceJson hjson, untagged_canonicalTraceJson hjson, ?_⟩
  rw [artifacts, generateViewerHtml]
  dsimp only
  by_cases hcapture : config.captureTrace = true
  · rw [if_pos hcapture, failIf_bind_of_not (hsampled.2 hcapture), hjson]
    rfl
  · rw [if_neg hcapture, failIf_bind_of (not_not.1 (mt hsampled.1 hcapture))]

/-- The trace of a delayed match after its second step, in which both peers roll back. -/
theorem captured_trace_viewable_delayed :
    let trace := (play (fun _ => none) delayedMatch 2).artifacts.trace
    ∃ json, canonicalTraceJson trace = .ok json ∧ Json.parse json = some (traceJson trace) ∧
      generateViewerHtml [] [] trace = .ok ([] ++ json ++ []) := by
  obtain ⟨json, hjson, hparse, -, hpage⟩ := captured_trace_viewable delayedMatch_created
    (reaches_play (fun _ => none) delayedMatch 2) [] []
  exact ⟨json, hjson, hparse, hpage⟩

end LiveScenario

end RollbackLab
