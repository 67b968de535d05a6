import RollbackLab.TraceSampling
import RollbackLab.TruthfulRun

/-!
# Rollbacks on record

A correction is recorded in the trace when a delivery has caused it. None happens outside
of deliveries, so the record is complete: the events and those left out are as many as the
corrections of both sessions.
-/

namespace RollbackLab

/-- An event goes back by its depth, which the rollback window bounds. -/
def RollbackTraceEvent.InWindow (event : RollbackTraceEvent) : Prop :=
  event.rollbackFrom.value.toNat + event.depth.toNat = event.observedAt.value.toNat ∧
    1 ≤ event.depth.toNat ∧ event.depth.toNat ≤ 120

/-- The trace has on record so many rollbacks, over so many frames in all. -/
structure Trace.Records (trace : Trace) (count frames : ℕ) : Prop where
  count_eq : trace.rollbacks.length + trace.omittedRollbackEvents.toNat = count
  inWindow : ∀ event ∈ trace.rollbacks, event.InWindow
  frames_eq : trace.omittedRollbackEvents = 0 →
    (trace.rollbacks.map fun event => event.depth.toNat).sum = frames

namespace Trace.Records

variable {trace next : Trace} {count frames : ℕ}

theorem congr (h : trace.Records count frames) (hrollbacks : next.rollbacks = trace.rollbacks)
    (homitted : next.omittedRollbackEvents = trace.omittedRollbackEvents) :
    next.Records count frames := by
  refine ⟨?_, ?_, ?_⟩
  · rw [hrollbacks, homitted]
    exact h.count_eq
  · rw [hrollbacks]
    exact h.inWindow
  · rw [hrollbacks, homitted]
    exact h.frames_eq

theorem push (h : trace.Records count frames) (hcount : count < 2 ^ 32) {event : RollbackTraceEvent}
    (hevent : event.InWindow) :
    (trace.pushRollback event).Records (count + 1) (frames + event.depth.toNat) := by
  have hcomplete := h.count_eq
  rw [pushRollback]
  split
  · refine ⟨?_, fun other hother => ?_, fun hnone => ?_⟩
    · dsimp only
      rw [List.length_append, List.length_singleton]
      omega
    · rcases List.mem_append.1 hother with hold | hnew
      · exact h.inWindow other hold
      · rw [List.mem_singleton.1 hnew]
        exact hevent
    · rw [List.map_append, List.sum_append, List.map_singleton, List.sum_singleton, h.frames_eq hnone]
  · have hlast : (trace.omittedRollbackEvents + 1).toNat = trace.omittedRollbackEvents.toNat + 1 := by
      rw [UInt64.toNat_add, UInt64.toNat_one, Nat.mod_eq_of_lt (by omega)]
    refine ⟨?_, h.inWindow, fun hnone => ?_⟩
    · dsimp only
      omega
    · dsimp only at hnone
      rw [hnone] at hlast
      cases hlast

end Trace.Records

namespace DeliveryContext

/-- The corrections of both sessions. -/
def corrected (context : DeliveryContext) : ℕ :=
  context.peer.a.tally.1.toNat + context.peer.b.tally.1.toNat

/-- The frames that these corrections simulated again. -/
def resimulated (context : DeliveryContext) : ℕ :=
  context.peer.a.tally.2.toNat + context.peer.b.tally.2.toNat

/-- The record of the trace is complete. -/
def Recorded (context : DeliveryContext) : Prop :=
  context.trace.Records context.corrected context.resimulated

variable {context next : DeliveryContext}

theorem Recorded.quiet (hquiet : context.Quiet next) (h : context.Recorded) : next.Recorded := by
  have ha : next.peer.a.tally = context.peer.a.tally := hquiet.tally .a
  have hb : next.peer.b.tally = context.peer.b.tally := hquiet.tally .b
  rw [Recorded, corrected, resimulated, ha, hb]
  exact h.congr hquiet.rollbacks hquiet.omitted

theorem setPeer_quiet {receiver : PlayerId} {session : RollbackSession}
    (htally : session.tally = (context.peer.of receiver).tally) :
    context.Quiet (context.setPeer receiver session) := by
  refine ⟨fun id => ?_, rfl, rfl, rfl, rfl⟩
  rw [setPeer, Sides.of_put]
  split
  next heq => rw [heq, htally]
  · rfl

/-- The corrections of both sessions grow by those of one. -/
theorem setPeer_corrected {receiver : PlayerId} {session : RollbackSession} {count frames : ℕ}
    (hcount : session.tally.1.toNat = (context.peer.of receiver).tally.1.toNat + count)
    (hframes : session.tally.2.toNat = (context.peer.of receiver).tally.2.toNat + frames) :
    (context.setPeer receiver session).corrected = context.corrected + count ∧
      (context.setPeer receiver session).resimulated = context.resimulated + frames := by
  cases receiver with
  | a =>
    simp only [setPeer, Sides.put, Sides.of, corrected, resimulated] at *
    omega
  | b =>
    simp only [setPeer, Sides.put, Sides.of, corrected, resimulated] at *
    omega

/-- A correction is recorded as it is counted. -/
theorem Recorded.correction {n : ℕ} {receiver : PlayerId} {session : RollbackSession}
    {before : WorldState} {correction : CorrectionResult} (h : context.Recorded)
    (hcapture : context.captureTrace = true) (hn : n < 2 ^ 30) (hfew : context.corrected < 2 ^ 32)
    (hframe : session.state.frame = ⟨UInt32.ofNat n⟩)
    (hcorrected : Pays.Corrected n (context.peer.of receiver) correction session) :
    ((context.setPeer receiver session).recordCorrection receiver before correction).Recorded := by
  rcases hcorrected with ⟨hperformed, htally⟩ |
    ⟨hperformed, k, hk, hnear, hfrom, hdepth, hone, hsum⟩
  · rw [recordCorrection, hperformed, if_pos (by rfl)]
    exact h.quiet (setPeer_quiet htally)
  have hvalue : ∀ j < 2 ^ 30, (UInt32.ofNat j).toNat = j := fun j hj =>
    UInt32.toNat_ofNat_of_lt' (by simp only [UInt32.size]; omega)
  have hdeep : correction.resimulatedFrames.toNat = n - k := by rw [hdepth, hvalue (n - k) (by omega)]
  have hevent : (⟨session.state.frame, correction.rollbackFrom, correction.resimulatedFrames⟩ :
      RollbackTraceEvent).InWindow := by
    rw [RollbackTraceEvent.InWindow, hframe, hfrom]
    dsimp only
    rw [hvalue n hn, hvalue k (by omega), hdeep]
    omega
  have hpeer : ((context.setPeer receiver session).peer.of receiver).report.state = session.state := by
    rw [setPeer, Sides.of_put_self, RollbackSession.report]
  have hcapture' : (context.setPeer receiver session).captureTrace = true := hcapture
  obtain ⟨hcount, hframes⟩ := setPeer_corrected hone hsum
  have hpushed := h.push hfew hevent
  rw [← hcount, hdeep, ← hframes] at hpushed
  rw [recordCorrection, hperformed, if_neg (by decide)]
  dsimp only
  rw [if_pos hcapture', hpeer]
  exact hpushed

end DeliveryContext

namespace LiveMatch

open DeliveryContext (Recorded)

variable {m : LiveMatch}

theorem corrected_lt {n : ℕ} {heard : Sides (Finset ℕ)} {context : DeliveryContext}
    (h : m.Peers n heard context) : context.corrected < 2 ^ 32 := by
  have hlimit := m.frames_lt
  obtain ⟨cA, hpaysA⟩ := h.pays .a
  obtain ⟨cB, hpaysB⟩ := h.pays .b
  have hA : context.peer.a.tally.1.toNat ≤ m.frames := hpaysA.count_le
  have hB : context.peer.b.tally.1.toNat ≤ m.frames := hpaysB.count_le
  rw [DeliveryContext.corrected]
  omega

/-- A genuine packet of the partner leaves the record complete. -/
theorem receive_recorded (hcapture : m.config.captureTrace = true) {t : ℕ} {context : DeliveryContext}
    {heard : Sides (Finset ℕ)} {receiver : PlayerId} {packet : Packet} {sent : Sent}
    (hpeers : m.Peers (m.simulated t) heard context)
    (hcaptures : context.captureTrace = m.config.captureTrace) (htransit : m.InTransit t sent)
    (hside : sent.receiver.side = receiver) (hdecode : decodePacket sent.bytes = .ok packet)
    (h : context.Recorded) : (context.receive receiver packet).2.Recorded := by
  have hlimit := m.frames_lt
  have hle := m.simulated_le t
  rcases hpeers.receive_genuine htransit hside hdecode with
    ⟨error, session, heq, -, htally, -⟩ | ⟨before, correction, session, heq, hcorrected, hafter, -⟩
  · rw [heq]
    exact h.quiet (DeliveryContext.setPeer_quiet htally)
  · rw [heq]
    obtain ⟨c, hpays⟩ := hafter.pays receiver
    have hframe := hpays.hears.follows.frame_eq
    rw [DeliveryContext.setPeer, Sides.of_put_self] at hframe
    have hrecorded := @Recorded.correction _ _ _ _ before correction h (hcaptures.trans hcapture)
      (by omega) (corrected_lt hpeers) hframe hcorrected
    obtain ⟨desync, marker, hcompare⟩ := DeliveryContext.compareHashes_eq receiver
      ((context.setPeer receiver session).recordCorrection receiver before correction)
      packet.confirmedHashes
    rw [hcompare]
    exact Trace.Records.congr hrecorded rfl rfl

/-- The verdict corrects nothing when nothing is pending. -/
theorem ending_recorded {live : LiveScenario}
    (hclean : ∀ id, (live.context.peer.of id).earliestDirty = none) (h : live.context.Recorded) :
    live.ending.context.Recorded := by
  have hflush (session : RollbackSession) (hdirty : session.earliestDirty = none) :
      session.flushCorrections = (.ok {}, session.updateConfirmation) := by
    rw [RollbackSession.flushCorrections, hdirty]
  have hpeers : live.ending.context.peer =
      ⟨live.context.peer.a.updateConfirmation, live.context.peer.b.updateConfirmation⟩ := by
    obtain ⟨correctionA, peerA, correctionB, peerB, hA, hB, hcases⟩ := live.finalize_cases
    rw [hflush live.context.peer.a (hclean .a)] at hA
    rw [hflush live.context.peer.b (hclean .b)] at hB
    cases hA
    cases hB
    rcases hcases with ⟨error, hfinal, -⟩ | ⟨-, hfinal⟩
    · rw [LiveScenario.ending, hfinal]
      rfl
    · rw [LiveScenario.ending, hfinal]
      rcases LiveScenario.judge _ with error | finished
      · rfl
      · rfl
  rw [Recorded, live.ending_trace, DeliveryContext.corrected, DeliveryContext.resimulated, hpeers]
  exact h

/-- A run of a match has a complete record in every state that it reaches. -/
theorem recorded (m : LiveMatch) (hcapture : m.config.captureTrace = true) {last : LiveScenario}
    (hreach : LiveScenario.Reaches (fun live press => press = m.presses live.tickIndex.toNat) m.first last) :
    last.context.Recorded := by
  have hrule := m.rule (fun _ _ => Recorded.quiet)
    fun t context heard receiver packet sent => receive_recorded hcapture
  have hfirst : m.first.context.Recorded := by
    refine ⟨rfl, fun event hevent => ?_, fun _ => rfl⟩
    cases hevent
  cases hrule.reaches ⟨m.first_truthful, hfirst⟩ ⟨rfl, rfl⟩ rfl m.room hreach with
  | running h _ _ => exact h.2
  | failed h _ => exact h.2
  | ended h _ _ =>
    obtain ⟨heard, hpeers⟩ := h.1.peers
    exact ending_recorded hpeers.clean h.2

end LiveMatch

/-- The trace of a scenario has every rollback on record that its sessions count: none
happens within an advance or a verdict. -/
theorem rollbacks_on_record {config : ScenarioRunConfig} {session : Sides SessionConfig}
    (hcapture : config.captureTrace = true)
    (hwindow : ∀ id, (session.of id).maxRollbackFrames ≤ kDefaultMaxRollbackFrames)
    {first last : LiveScenario}
    (hcreate : LiveScenario.create config (.create session.a) (.create session.b) = .ok first)
    (hreach : LiveScenario.Reaches (fun _ _ => True) first last) :
    let trace := last.artifacts.trace
    let metricsA := last.context.peer.a.metrics
    let metricsB := last.context.peer.b.metrics
    trace.rollbacks.length + trace.omittedRollbackEvents.toNat =
        metricsA.rollbackCount.toNat + metricsB.rollbackCount.toNat ∧
      (∀ event ∈ trace.rollbacks,
        event.depth = event.observedAt.value - event.rollbackFrom.value ∧
          event.rollbackFrom.value ≤ event.observedAt.value ∧ 1 ≤ event.depth ∧ event.depth ≤ 120) ∧
      (trace.omittedRollbackEvents = 0 →
        (trace.rollbacks.map fun event => event.depth.toNat).sum =
          metricsA.totalResimulatedFrames.toNat + metricsB.totalResimulatedFrames.toNat) := by
  obtain ⟨m, hconfig, hsession, hfirst, hpath⟩ := LiveMatch.exists_match
    (fun id => UInt32.le_iff_toNat_le.1 (hwindow id)) hcreate hreach
  have hrecorded := m.recorded (hconfig ▸ hcapture) hpath
  refine ⟨hrecorded.count_eq, fun event hevent => ?_, hrecorded.frames_eq⟩
  obtain ⟨hback, hone, hwide⟩ := hrecorded.inWindow event hevent
  have hle : event.rollbackFrom.value ≤ event.observedAt.value := UInt32.le_iff_toNat_le.2 (by omega)
  refine ⟨?_, hle, UInt32.le_iff_toNat_le.2 hone, UInt32.le_iff_toNat_le.2 hwide⟩
  apply UInt32.toNat_inj.1
  rw [UInt32.toNat_sub_of_le _ _ hle]
  omega

/-- Both peers correct their first frame in the second step of a delayed match. -/
theorem rollbacks_on_record_delayed :
    let last := LiveScenario.play (fun _ => none) delayedMatch 2
    last.artifacts.trace.rollbacks.length = 2 ∧
      last.artifacts.trace.rollbacks.length + last.artifacts.trace.omittedRollbackEvents.toNat =
        last.context.peer.a.metrics.rollbackCount.toNat +
          last.context.peer.b.metrics.rollbackCount.toNat ∧
      ∀ event ∈ last.artifacts.trace.rollbacks,
        event.depth = event.observedAt.value - event.rollbackFrom.value := by
  obtain ⟨hcount, hevents, -⟩ := @rollbacks_on_record delayedConfig
    ⟨{ localPeer := .a }, { localPeer := .b }⟩ rfl (fun id => by cases id <;> decide) _ _
    delayedMatch_created (LiveScenario.reaches_play (fun _ => none) delayedMatch 2)
  exact ⟨by decide +kernel, hcount, fun event hevent => (hevents event hevent).1⟩

end RollbackLab
