import RollbackLab.LiveRun
import RollbackLab.SessionFrames
import Mathlib.Data.List.Chain

/-!
# The samples of a trace

Frames are sampled at multiples of an interval, and at the last boundary. The interval is
such that all samples fit, so a complete run shows its beginning and its end with no gap
that is wider.
-/

namespace RollbackLab

/-! ## Sampled boundaries -/

/-- The boundaries up to `t` that are sampled when there are `count` frames. -/
def sampledBoundaries (interval count : ℕ) : ℕ → List ℕ
  | 0 => [0]
  | t + 1 =>
    if (t + 1) % interval = 0 ∨ t + 1 = count then sampledBoundaries interval count t ++ [t + 1]
    else sampledBoundaries interval count t

section Boundaries

variable {interval count : ℕ}

theorem sampledBoundaries_zero : sampledBoundaries interval count 0 = [0] := rfl

theorem sampledBoundaries_succ (t : ℕ) : sampledBoundaries interval count (t + 1) =
    if (t + 1) % interval = 0 ∨ t + 1 = count then sampledBoundaries interval count t ++ [t + 1]
    else sampledBoundaries interval count t := rfl

theorem sampledBoundaries_head (t : ℕ) : (sampledBoundaries interval count t).head? = some 0 := by
  induction t with
  | zero => rfl
  | succ t ih =>
    rw [sampledBoundaries_succ]
    split
    · rw [List.head?_append, ih, Option.some_or]
    · exact ih

/-- A sample that is due at every multiple is due at the latest one. -/
theorem sampledBoundaries_last (t : ℕ) : ∃ last ≤ t,
    (sampledBoundaries interval count t).getLast? = some last ∧ interval * (t / interval) ≤ last := by
  induction t with
  | zero => exact ⟨0, le_rfl, rfl, by simp⟩
  | succ t ih =>
    rw [sampledBoundaries_succ]
    split
    · exact ⟨t + 1, le_rfl, List.getLast?_concat, Nat.mul_div_le _ _⟩
    next hnone =>
      obtain ⟨last, hle, hlast, hmultiple⟩ := ih
      rw [not_or, ← Nat.dvd_iff_mod_eq_zero] at hnone
      exact ⟨last, hle.trans t.le_succ, hlast, by rwa [Nat.succ_div_of_not_dvd hnone.1]⟩

/-- Samples follow each other in order, at most an interval apart. -/
theorem sampledBoundaries_isChain (hinterval : 0 < interval) (t : ℕ) :
    (sampledBoundaries interval count t).IsChain fun k l => k < l ∧ l ≤ k + interval := by
  induction t with
  | zero => exact .singleton 0
  | succ t ih =>
    rw [sampledBoundaries_succ]
    split
    · obtain ⟨last, hle, hlast, hmultiple⟩ := @sampledBoundaries_last interval count t
      refine List.isChain_append.2 ⟨ih, .singleton _, fun k hk l hl => ?_⟩
      rw [hlast] at hk
      cases hk
      cases hl
      have hnear := Nat.lt_mul_div_succ t hinterval
      rw [Nat.mul_add, Nat.mul_one] at hnear
      exact ⟨by omega, by omega⟩
    · exact ih

theorem sampledBoundaries_length {t : ℕ} (ht : t < count) :
    (sampledBoundaries interval count t).length = t / interval + 1 := by
  induction t with
  | zero => simp [sampledBoundaries_zero]
  | succ t ih =>
    have hbefore := ih (by omega)
    rw [sampledBoundaries_succ]
    split
    next hdue =>
      have hdvd : interval ∣ t + 1 := Nat.dvd_of_mod_eq_zero (hdue.resolve_right (by omega))
      rw [List.length_append, hbefore, Nat.succ_div_of_dvd hdvd, List.length_singleton]
    next hnone =>
      rw [not_or, ← Nat.dvd_iff_mod_eq_zero] at hnone
      rw [hbefore, Nat.succ_div_of_not_dvd hnone.1]

/-- All samples fit when the interval is wide enough for the frames. -/
theorem sampledBoundaries_fit (hinterval : 0 < interval) {capacity : ℕ}
    (hwide : count ≤ capacity * interval) {t : ℕ} (ht : t ≤ count) :
    (sampledBoundaries interval count t).length ≤ capacity + 1 := by
  cases t with
  | zero => simp [sampledBoundaries_zero]
  | succ t =>
    have hquotient : t / interval < capacity := (Nat.div_lt_iff_lt_mul hinterval).2 (by omega)
    have hbefore : (sampledBoundaries interval count t).length = t / interval + 1 :=
      sampledBoundaries_length (Nat.lt_of_succ_le ht)
    rw [sampledBoundaries_succ]
    split
    · rw [List.length_append, hbefore, List.length_singleton]
      omega
    · rw [hbefore]
      omega

theorem sampledBoundaries_end (hcount : 0 < count) :
    (sampledBoundaries interval count count).getLast? = some count := by
  obtain ⟨t, rfl⟩ := Nat.exists_eq_succ_of_ne_zero hcount.ne'
  rw [sampledBoundaries_succ, if_pos (Or.inr rfl), List.getLast?_concat]

end Boundaries

/-- The interval is wide enough for all samples but the first to fit. -/
theorem traceSampleInterval_wide (frameCount : UInt32) :
    0 < (traceSampleInterval frameCount).toNat ∧
      frameCount.toNat ≤ (kMaxTraceFrames - 1) * (traceSampleInterval frameCount).toNat := by
  have hlt := frameCount.toNat_lt
  have hcapacity : (UInt32.ofNat 9999).toNat = 9999 := rfl
  have hcapacity' : kMaxTraceFrames - 1 = 9999 := rfl
  rw [traceSampleInterval, hcapacity']
  split
  next hfew =>
    rw [UInt32.le_iff_toNat_le, hcapacity] at hfew
    exact ⟨Nat.one_pos, by rw [UInt32.toNat_one]; omega⟩
  next hmany =>
    rw [UInt32.le_iff_toNat_le, hcapacity] at hmany
    have hvalue : ((frameCount.toUInt64 + (UInt32.ofNat 9999).toUInt64 - 1) /
        (UInt32.ofNat 9999).toUInt64).toUInt32.toNat = (frameCount.toNat + 9998) / 9999 := by
      rw [UInt64.toNat_toUInt32, UInt64.toNat_div, UInt64.toNat_sub_of_le, UInt64.toNat_add,
        UInt32.toNat_toUInt64, UInt32.toNat_toUInt64, hcapacity, UInt64.toNat_one]
      · omega
      · rw [UInt64.le_iff_toNat_le, UInt64.toNat_add, UInt32.toNat_toUInt64, UInt32.toNat_toUInt64,
          hcapacity, UInt64.toNat_one]
        omega
    rw [hvalue]
    omega

/-! ## Sessions -/

namespace RollbackSession

/-- A session that stands at the same frame and still knows its way back. -/
def StaysAt (session next : RollbackSession) : Prop :=
  next.Stamped ∧ next.state.frame = session.state.frame

theorem StaysAt.trans {session next last : RollbackSession} (h : session.StaysAt next)
    (h' : next.StaysAt last) : session.StaysAt last := ⟨h'.1, h'.2.trans h.2⟩

theorem ingestRemote_state (session : RollbackSession) (remote : InputFrame) :
    (session.ingestRemote remote).2.state = session.state := by
  have hcompare (s : RollbackSession) : (s.compareUsed remote).state = s.state := by
    rw [compareUsed]
    split
    · split
      · exact (markDirty_fields s remote.frame).2.1
      · rfl
    · rfl
  rw [ingestRemote]
  split
  · rfl
  · dsimp only
    split
    · rfl
    · split
      · exact hcompare _
      · rfl

theorem ingestInputs_stays {session : RollbackSession} (hs : session.Stamped) (inputs : List InputFrame) :
    session.StaysAt (PeerRuntime.ingestInputs session inputs).2 := by
  induction inputs generalizing session with
  | nil => exact ⟨hs, rfl⟩
  | cons input inputs ih =>
    have hone : session.StaysAt (session.ingestRemote input).2 :=
      ⟨ingestRemote_stamped hs input, by rw [ingestRemote_state]⟩
    rw [PeerRuntime.ingestInputs]
    rcases hingest : session.ingestRemote input with ⟨e | _, next⟩
    · rw [hingest] at hone
      exact hone
    · rw [hingest] at hone
      exact hone.trans (ih hone.1)

/-- A correction ends where it began, unless it fails. -/
theorem flushCorrections_stays {session next : RollbackSession} (hs : session.Stamped)
    {result : CorrectionResult} (h : session.flushCorrections = (.ok result, next)) :
    session.StaysAt next := by
  cases hdirty : session.earliestDirty with
  | none =>
    rw [flushCorrections, hdirty] at h
    cases h
    exact ⟨hs, rfl⟩
  | some dirty =>
    rcases flushCorrections_cases hs hdirty with ⟨e, -, hflush⟩ | ⟨e, other, -, -, -, hflush, -⟩ |
      ⟨result', other, -, hflush, hcorrects⟩
    · rw [hflush] at h
      cases h
    · rw [hflush] at h
      cases h
    · rw [hflush] at h
      cases h
      exact ⟨hcorrects.stamped, hcorrects.frame⟩

/-- An advance that does not fail ends one frame on. -/
theorem advance_next {session next : RollbackSession} (hs : session.Stamped) {loc : InputFrame}
    {result : AdvanceResult} (h : session.advance loc = (.ok result, next)) :
    next.Stamped ∧ next.state.frame = nextFrame session.state.frame := by
  have hclean {middle : RollbackSession} (hmiddle : session.StaysAt middle)
      (hadvance : middle.advanceClean loc = (.ok result, next)) :
      next.Stamped ∧ next.state.frame = nextFrame session.state.frame := by
    have hstamped := advanceClean_stamped hmiddle.1 loc
    rw [hadvance] at hstamped
    refine ⟨hstamped, ?_⟩
    by_cases hmatch : loc.frame = middle.state.frame ∧ loc.player = middle.config.localPeer
    · cases hsim : simulateFrame middle.state middle.state.frame
          (middle.config.makePair loc (middle.remoteFor middle.state.frame)) middle.config.variant with
      | error e =>
        obtain ⟨other, hother, -⟩ := RollbackSession.advanceClean_error hmatch.1 hmatch.2 hsim
        rw [hadvance] at hother
        cases hother
      | ok after =>
        obtain ⟨result', metrics, -, hother⟩ := advanceClean_ok hmatch.1 hmatch.2 hsim
        rw [hadvance] at hother
        cases hother
        rw [← hmiddle.2]
        exact (simulateFrame_frame hsim).2
    · rw [advanceClean_mismatch hmatch] at hadvance
      cases hadvance
  rw [advance] at h
  split at h
  · rcases hflush : session.flushCorrections with ⟨e | corrected, middle⟩
    · rw [hflush] at h
      cases h
    · rw [hflush] at h
      exact hclean (flushCorrections_stays hs hflush) h
  · exact hclean ⟨hs, rfl⟩ h

end RollbackSession

/-! ## The invariant -/

/-- The parts of a delivery's context that samples are about. -/
structure DeliveryContext.Shows (frame : FrameNumber) (shown : Trace) (context : DeliveryContext) :
    Prop where
  stamped : context.peer.a.Stamped
  stands : context.peer.a.state.frame = frame
  frames : context.trace.frames = shown.frames
  omitted : context.trace.omittedFrameSamples = shown.omittedFrameSamples
  interval : context.trace.sampleInterval = shown.sampleInterval

/-- No packet moves the first peer from its frame, or takes a sample. -/
theorem DeliveryContext.Shows.receive {frame : FrameNumber} {shown : Trace} {context : DeliveryContext}
    (h : context.Shows frame shown) (receiver : PlayerId) (packet : Packet) :
    Outcome (fun _ => Shows frame shown) (fun _ _ => True) (context.receive receiver packet) := by
  obtain ⟨ingested, session, hingest, ⟨error, -, heq⟩ | ⟨-, corrected, next, hflush, hcases⟩⟩ :=
    context.receive_cases receiver packet
  · rw [heq]
    trivial
  rcases hcases with ⟨error, -, heq⟩ | ⟨correction, rfl, heq⟩
  · rw [heq]
    trivial
  rw [heq, Outcome.ok_iff]
  have hpeer : (context.setPeer receiver next).Shows frame shown := by
    cases receiver with
    | a =>
      have hsession : context.peer.a.StaysAt session := by
        have := RollbackSession.ingestInputs_stays h.stamped packet.inputs
        rw [DeliveryContext.ingestInputs, Sides.of] at hingest
        rwa [hingest] at this
      have hnext := hsession.trans (RollbackSession.flushCorrections_stays hsession.1 hflush)
      exact ⟨hnext.1, hnext.2.trans h.stands, h.frames, h.omitted, h.interval⟩
    | b => exact ⟨h.stamped, h.stands, h.frames, h.omitted, h.interval⟩
  obtain ⟨corrections, rollbacks, omitted, hrecord⟩ :=
    (context.setPeer receiver next).recordCorrection_eq receiver session.state correction
  rw [hrecord]
  obtain ⟨desync, marker, hcompare⟩ := DeliveryContext.compareHashes_eq receiver
    { context.setPeer receiver next with
      corrections := corrections
      trace :=
        { (context.setPeer receiver next).trace with
          rollbacks := rollbacks, omittedRollbackEvents := omitted } } packet.confirmedHashes
  rw [hcompare]
  exact ⟨hpeer.stamped, hpeer.stands, hpeer.frames, hpeer.omitted, hpeer.interval⟩

namespace LiveScenario

/-- The frames that the peers have advanced by before a tick. -/
def framesBefore (config : ScenarioRunConfig) (tick : UInt32) : ℕ :=
  min tick.toNat config.frameCount.toNat

/-- The trace has all samples that were due, and none has been left out. -/
structure Sampled (config : ScenarioRunConfig) (live : LiveScenario) : Prop where
  config_eq : live.config = config
  stamped : live.context.peer.a.Stamped
  stands : live.context.peer.a.state.frame = ⟨UInt32.ofNat (framesBefore config live.tickIndex)⟩
  interval : live.context.trace.sampleInterval = traceSampleInterval config.frameCount
  boundaries : live.context.trace.frames.map (fun sample => sample.frame.value.toNat) =
    sampledBoundaries (traceSampleInterval config.frameCount).toNat config.frameCount.toNat
      (framesBefore config live.tickIndex)
  complete : live.context.trace.omittedFrameSamples = 0

theorem Sampled.congr {config : ScenarioRunConfig} {live next : LiveScenario} (h : Sampled config live)
    (hclock : live.SameClock next)
    (hshows : next.context.Shows live.context.peer.a.state.frame live.context.trace) :
    Sampled config next := by
  refine ⟨hclock.config.trans h.config_eq, hshows.stamped, ?_, hshows.interval.trans h.interval, ?_,
    hshows.omitted.trans h.complete⟩
  · rw [hshows.stands, h.stands, hclock.tickIndex]
  · rw [hshows.frames, h.boundaries, hclock.tickIndex]

theorem Sampled.shows {config : ScenarioRunConfig} {live : LiveScenario} (h : Sampled config live) :
    live.context.Shows live.context.peer.a.state.frame live.context.trace :=
  ⟨h.stamped, rfl, rfl, rfl, rfl⟩

/-- What is kept in the course of a tick: the samples, and that inputs are only noted while
frames are left. -/
def SampledStage (config : ScenarioRunConfig) (stage : Option InputPair) (live : LiveScenario) : Prop :=
  Sampled config live ∧ (stage.isSome = true → live.tickIndex < config.frameCount)

theorem Sampled.process {config : ScenarioRunConfig} {live : LiveScenario} (h : Sampled config live)
    (tick : LogicalTick) :
    Outcome (fun _ => Sampled config) (fun _ _ => True) (live.process tick) := by
  rcases hdeliver : live.transport.deliver tick with ⟨deliveries, transport⟩
  have hall := @DeliveryContext.processAll_outcome _ (fun _ _ => True) deliveries _ h.shows
    fun context delivery _ hcontext => DeliveryContext.processDelivery_outcome hcontext
      (fun _ _ => trivial)
      (fun next window trace hnext htrace => by
        obtain ⟨packets, omitted, rfl⟩ := htrace
        exact ⟨hnext.stamped, hnext.stands, hnext.frames, hnext.omitted, hnext.interval⟩)
      (fun next packet hnext _ => hnext.receive _ packet)
  rw [live.process_eq tick hdeliver]
  rcases hprocessed : live.context.processAll deliveries with ⟨error | _, context⟩
  · trivial
  · rw [hprocessed] at hall
    exact h.congr ⟨rfl, rfl, rfl, rfl⟩ hall

/-- A frame that both peers have advanced by is sampled when it is due, and there is room. -/
theorem Sampled.endFrame {config : ScenarioRunConfig} (hcapture : config.captureTrace = true)
    {live : LiveScenario} (h : Sampled config live) (hframe : live.tickIndex < config.frameCount)
    {peerA peerB : RollbackSession} (hstamped : peerA.Stamped)
    (hstands : peerA.state.frame = nextFrame live.context.peer.a.state.frame) :
    Sampled config { ((live.setPeer .a peerA).setPeer .b peerB).endFrame live.tickIndex with
      tickIndex := live.tickIndex + 1 } := by
  rw [UInt32.lt_iff_toNat_lt] at hframe
  have hlt := config.frameCount.toNat_lt
  have hbefore : framesBefore config live.tickIndex = live.tickIndex.toNat := min_eq_left hframe.le
  have hindex : (live.tickIndex + 1).toNat = live.tickIndex.toNat + 1 := by
    rw [UInt32.toNat_add, UInt32.toNat_one, Nat.mod_eq_of_lt (by omega)]
  have hafter : framesBefore config (live.tickIndex + 1) = live.tickIndex.toNat + 1 := by
    rw [framesBefore, hindex, min_eq_left (by omega)]
  have hpeer : peerA.state.frame = ⟨UInt32.ofNat (live.tickIndex.toNat + 1)⟩ := by
    rw [hstands, h.stands, hbefore, nextFrame, UInt32.ofNat_add]
    rfl
  have hdue : ((live.tickIndex + 1) % live.context.trace.sampleInterval = 0 ∨
        live.tickIndex + 1 = live.config.frameCount) ↔
      ((live.tickIndex.toNat + 1) % (traceSampleInterval config.frameCount).toNat = 0 ∨
        live.tickIndex.toNat + 1 = config.frameCount.toNat) := by
    rw [h.interval, h.config_eq, ← UInt32.toNat_inj, ← UInt32.toNat_inj, UInt32.toNat_mod, hindex,
      UInt32.toNat_zero]
  have hboundaries := h.boundaries
  rw [hbefore] at hboundaries
  have hsample : ∃ frames, ((live.setPeer .a peerA).setPeer .b peerB).sampleFrame live.tickIndex =
      { (live.setPeer .a peerA).setPeer .b peerB with
        context :=
          { ((live.setPeer .a peerA).setPeer .b peerB).context with
            trace := { live.context.trace with frames := frames } } } ∧
      frames.map (fun sample => sample.frame.value.toNat) =
        sampledBoundaries (traceSampleInterval config.frameCount).toNat config.frameCount.toNat
          (live.tickIndex.toNat + 1) := by
    rw [sampleFrame, sampledBoundaries_succ]
    by_cases hsampled : (live.tickIndex + 1) % live.context.trace.sampleInterval = 0 ∨
        live.tickIndex + 1 = live.config.frameCount
    · obtain ⟨hpositive, hwide⟩ := traceSampleInterval_wide config.frameCount
      have hroom : live.context.trace.frames.length < kMaxTraceFrames := by
        have hlength := congrArg List.length hboundaries
        rw [List.length_map, sampledBoundaries_length hframe] at hlength
        rw [hlength]
        have hquotient := (Nat.div_lt_iff_lt_mul hpositive).2 (hframe.trans_le hwide)
        simp only [kMaxTraceFrames] at hquotient ⊢
        omega
      have hcaptured : live.config.captureTrace = true := by rw [h.config_eq, hcapture]
      rw [if_pos ⟨hcaptured, hsampled⟩, if_pos (hdue.1 hsampled)]
      have hpush : ∀ sample, live.context.trace.pushFrame sample =
          { live.context.trace with frames := live.context.trace.frames ++ [sample] } :=
        fun sample => by rw [Trace.pushFrame, if_pos hroom]
      refine ⟨_, by dsimp only [setPeer]; rw [hpush], ?_⟩
      rw [List.map_append, hboundaries, List.map_singleton]
      congr 2
      change peerA.state.frame.value.toNat = _
      rw [hpeer]
      exact UInt32.toNat_ofNat_of_lt' (by simp only [UInt32.size]; omega)
    · rw [if_neg fun hboth => hsampled hboth.2, if_neg fun hboth => hsampled (hdue.2 hboth)]
      exact ⟨_, rfl, hboundaries⟩
  obtain ⟨frames, heq, hmap⟩ := hsample
  have hend : Sampled config
      { live with
        context :=
          { live.context with
            peer := (live.context.peer.put .a peerA).put .b peerB
            trace := { live.context.trace with frames := frames } }
        tickIndex := live.tickIndex + 1 } := by
    refine ⟨h.config_eq, hstamped, ?_, h.interval, ?_, h.complete⟩
    · change peerA.state.frame = _
      rw [hpeer, hafter]
    · change frames.map (fun sample => sample.frame.value.toNat) = _
      rw [hmap, hafter]
  rw [LiveScenario.endFrame, heq]
  dsimp only
  split
  · exact ⟨hend.config_eq, hend.stamped, hend.stands, hend.interval, hend.boundaries, hend.complete⟩
  · exact hend

theorem sampledStage_rule {config : ScenarioRunConfig} (hcapture : config.captureTrace = true)
    (hroom : totalTicks config < 2 ^ 32) :
    TickRule config (fun _ _ => True) (fun _ => SampledStage config) (fun _ _ => True) where
  config_eq _ _ live h := h.1.config_eq
  record live press h _ hframe := by
    obtain ⟨history, replay, replayState, heq⟩ := live.clearCorrections.record_eq live.tickIndex
      (frameInputs config ⟨live.tickIndex⟩ press)
    have hkept : SampledStage config (some (frameInputs config ⟨live.tickIndex⟩ press))
        (live.clearCorrections.record live.tickIndex (frameInputs config ⟨live.tickIndex⟩ press)).2 := by
      rw [heq]
      exact ⟨h.1.congr ⟨rfl, rfl, rfl, rfl⟩ ⟨h.1.stamped, rfl, rfl, rfl, rfl⟩, fun _ => hframe⟩
    exact Outcome.of_state hkept fun _ _ _ => trivial
  clear live h := ⟨h.1.congr ⟨rfl, rfl, rfl, rfl⟩ ⟨h.1.stamped, rfl, rfl, rfl, rfl⟩, h.2⟩
  send stage live h _ _ := by
    obtain ⟨sequence, transport, trace, ⟨packets, omitted, rfl⟩, heq⟩ := live.sendBoth_sent ⟨live.tickIndex⟩
    have hkept : SampledStage config stage (live.sendBoth ⟨live.tickIndex⟩).2 := by
      rw [heq]
      exact ⟨h.1.congr ⟨rfl, rfl, rfl, rfl⟩ ⟨h.1.stamped, rfl, rfl, rfl, rfl⟩, h.2⟩
    exact Outcome.of_state hkept fun _ _ _ => trivial
  process _ stage live h _ :=
    ((h.1.process ⟨live.tickIndex⟩).with_state (live.process_clock ⟨live.tickIndex⟩)).mono
      (fun _ next hnext => ⟨hnext.2, fun hfed => by rw [hnext.1.tickIndex]; exact h.2 hfed⟩)
      fun _ _ _ => trivial
  advance inputs live h hframe := by
    obtain ⟨_, peerA, _, peerB, hA, -, ⟨error, heq, -⟩ | ⟨⟨resultA, resultB, rfl, rfl⟩, heq⟩⟩ :=
      live.advanceBoth_cases inputs
    · rw [heq]
      trivial
    · rw [heq]
      obtain ⟨hstamped, hstands⟩ := RollbackSession.advance_next h.1.stamped hA
      exact ⟨h.1.endFrame hcapture hframe hstamped hstands, fun hnone => by cases hnone⟩
  pass live h hframe hticks := by
    have hindex : (live.tickIndex + 1).toNat = live.tickIndex.toNat + 1 := by
      rw [UInt32.toNat_add, UInt32.toNat_one, Nat.mod_eq_of_lt (by omega)]
    have hsame : framesBefore config (live.tickIndex + 1) = framesBefore config live.tickIndex := by
      rw [UInt32.le_iff_toNat_le] at hframe
      rw [framesBefore, framesBefore, hindex, min_eq_right hframe, min_eq_right (by omega)]
    refine ⟨⟨h.1.config_eq, h.1.stamped, ?_, h.1.interval, ?_, h.1.complete⟩, fun hnone => by cases hnone⟩
    · rw [hsame]
      exact h.1.stands
    · rw [hsame]
      exact h.1.boundaries

/-- A scenario that has been created shows its first boundary. -/
theorem Sampled.start {config : ScenarioRunConfig} (hcapture : config.captureTrace = true)
    {peerA peerB : RollbackSession} (hstamped : peerA.Stamped)
    (hinitial : peerA.report.state = makeInitialWorld) : Sampled config (start config peerA peerB) := by
  have hbefore : framesBefore config 0 = 0 := Nat.zero_min _
  have hframe : peerA.state.frame = ⟨0⟩ := congrArg WorldState.frame hinitial
  refine ⟨rfl, hstamped, ?_, rfl, ?_, rfl⟩
  · change peerA.state.frame = ⟨UInt32.ofNat (framesBefore config 0)⟩
    rw [hframe, hbefore]
    rfl
  · change _ = sampledBoundaries _ _ (framesBefore config 0)
    rw [LiveScenario.start, hbefore]
    dsimp only
    rw [if_pos hcapture]
    rfl

end LiveScenario

/-! ## Complete runs -/

/-- A session that calls have brought where it is. -/
def RollbackSession.Reached (session : RollbackSession) : Prop :=
  ∃ config run, SessionRun.Reachable config (fun _ _ => True) run ∧ run.session = session

/-- The trace of a complete run has room for all its samples: from the first boundary to the
last, in order, and at most an interval apart. -/
theorem trace_samples_complete {config : ScenarioRunConfig} {peerA peerB : RollbackSession}
    (hreached : peerA.Reached) {first last : LiveScenario}
    (hcreate : LiveScenario.create config peerA peerB = .ok first) (hcapture : config.captureTrace = true)
    (hrun : LiveScenario.Reaches (fun _ _ => True) first last) (hfinished : last.finished = true) :
    let trace := last.artifacts.trace
    let boundaries := trace.frames.map fun sample => sample.frame.value.toNat
    trace.frames.length ≤ kMaxTraceFrames ∧ trace.omittedFrameSamples = 0 ∧
      boundaries.Pairwise (· < ·) ∧ boundaries.head? = some 0 ∧
      boundaries.getLast? = some config.frameCount.toNat ∧
      boundaries.IsChain fun k l => l ≤ k + trace.sampleInterval.toNat := by
  obtain ⟨rfl, hpositive, -, hroom, hinitial, -⟩ := LiveScenario.create_ok hcreate
  obtain ⟨sessionConfig, run, hreachable, rfl⟩ := hreached
  have hstart : LiveScenario.SampledStage config none (LiveScenario.start config run.session peerB) :=
    ⟨.start hcapture hreachable.stamped hinitial, fun hnone => by cases hnone⟩
  have hstanding := (LiveScenario.sampledStage_rule hcapture hroom).reaches hstart ⟨rfl, rfl⟩ rfl hroom hrun
  cases hstanding with
  | running _ hopen => rw [hopen.2] at hfinished; cases hfinished
  | failed _ hopen =>
    change LiveScenario.finished _ = true at hfinished
    rw [show LiveScenario.finished _ = false from hopen.2] at hfinished
    cases hfinished
  | @ended live h hticks =>
    intro trace boundaries
    have htrace : trace = live.context.trace := live.ending_trace
    obtain ⟨hinterval, hwide⟩ := traceSampleInterval_wide config.frameCount
    have hall : LiveScenario.framesBefore config live.tickIndex = config.frameCount.toNat := by
      rw [LiveScenario.framesBefore, hticks, LiveScenario.totalTicks]
      exact min_eq_right (by omega)
    have hboundaries : boundaries = sampledBoundaries (traceSampleInterval config.frameCount).toNat
        config.frameCount.toNat config.frameCount.toNat := by
      have hsampled := h.1.boundaries
      rwa [hall, ← htrace] at hsampled
    have hchain := @sampledBoundaries_isChain _ config.frameCount.toNat hinterval config.frameCount.toNat
    rw [← hboundaries] at hchain
    refine ⟨?_, ?_, ?_, ?_, ?_, ?_⟩
    · have hlength : trace.frames.length = boundaries.length := (List.length_map _).symm
      rw [hlength, hboundaries]
      exact sampledBoundaries_fit hinterval hwide le_rfl
    · rw [htrace]
      exact h.1.complete
    · exact (hchain.imp fun k l hkl => hkl.1).pairwise
    · rw [hboundaries]
      exact sampledBoundaries_head _
    · rw [hboundaries]
      exact sampledBoundaries_end hpositive
    · rw [htrace, h.1.interval]
      exact hchain.imp fun k l hkl => hkl.2

/-- A match of one frame, with no repeated inputs. -/
def shortConfig : ScenarioRunConfig := { frameCount := 1, tailRedundancyTicks := 0 }

def shortMatch : LiveScenario :=
  .start shortConfig (.create { localPeer := .a }) (.create { localPeer := .b })

theorem shortMatch_created :
    LiveScenario.create shortConfig (.create { localPeer := .a }) (.create { localPeer := .b }) =
      .ok shortMatch := by
  rw [LiveScenario.create, if_neg (by decide), if_neg (by decide)]
  rfl

theorem trace_samples_complete_short :
    let trace := (LiveScenario.play (fun _ => none) shortMatch 33).artifacts.trace
    let boundaries := trace.frames.map fun sample => sample.frame.value.toNat
    trace.frames.length ≤ kMaxTraceFrames ∧ trace.omittedFrameSamples = 0 ∧
      boundaries.Pairwise (· < ·) ∧ boundaries.head? = some 0 ∧
      boundaries.getLast? = some shortConfig.frameCount.toNat ∧
      boundaries.IsChain fun k l => l ≤ k + trace.sampleInterval.toNat :=
  trace_samples_complete ⟨{ localPeer := .a }, _, .start, rfl⟩ shortMatch_created rfl
    (LiveScenario.reaches_play _ shortMatch 33) (by decide +kernel)

/-- Two frames over a transport that takes a tick, so that every input has to be guessed. -/
def delayedConfig : ScenarioRunConfig :=
  { frameCount := 2, tailRedundancyTicks := 0, transport := { baseLatencyTicks := 1 } }

def delayedMatch : LiveScenario :=
  .start delayedConfig (.create { localPeer := .a }) (.create { localPeer := .b })

theorem delayedMatch_created :
    LiveScenario.create delayedConfig (.create { localPeer := .a }) (.create { localPeer := .b }) =
      .ok delayedMatch := by
  rw [LiveScenario.create, if_neg (by decide), if_neg (by decide)]
  rfl

end RollbackLab
