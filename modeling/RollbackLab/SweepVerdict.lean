import RollbackLab.PropertySweep
import RollbackLab.StaleMatch

/-!
# The verdict of a property sweep

The matches that are made to fail do so for every seed, in the way they are meant to. Any
other match converges to what the sweep checks, or it fails because of the network; and that
is the only way in which a sweep can fail.
-/

namespace RollbackLab

open Json (Reads)
open LiveScenario (totalTicks)
open Numeral (text)

/-! ## A queue for one packet -/

namespace SeededTransport

/-- A transport that neither loses nor doubles packets. -/
structure Plain (transport : SeededTransport) : Prop where
  percents : percentsInvalid transport.config = false
  loss : transport.config.lossPercent = 0
  burst : transport.config.burstLossPercent = 0
  duplicate : transport.config.duplicatePercent = 0
  remaining : transport.burstRemaining = 0

variable {transport chosen : SeededTransport} {sender receiver : Endpoint} {bytes : List UInt8}
  {tick : LogicalTick}

theorem Plain.drawLoss (h : transport.Plain) :
    transport.countSent.drawLoss = (false, transport.countSent) :=
  drawLoss_none h.loss h.burst h.remaining

theorem Plain.chooses (h : transport.Plain) {duplicate : Bool} (hchosen : transport.Chooses duplicate chosen) :
    duplicate = false ∧ chosen = transport.countSent := by
  obtain ⟨drawn, hloss, hchance⟩ := hchosen.drawn
  rw [h.drawLoss] at hloss
  cases hloss
  rw [chance, if_pos (show transport.countSent.config.duplicatePercent = 0 from h.duplicate)] at hchance
  cases hchance
  exact ⟨rfl, rfl⟩

/-- A packet that fits is queued once. -/
theorem Plain.send_room (h : transport.Plain) (hbytes : bytes.length ≤ kMaxPacketBytes)
    (hroom : transport.exceeds 1 bytes.length = false)
    (hsmall : tick.value.toNat + transport.config.longestDelay + 2 < 2 ^ 32) :
    ∃ after, transport.send sender receiver bytes tick = (.ok (), after) ∧
      after.queue.length = transport.queue.length + 1 ∧ after.config = transport.config ∧
      after.burstRemaining = transport.burstRemaining := by
  have hjitter : transport.config.jitterTicks.toNat + 2 < 2 ^ 32 := by
    rw [TransportConfig.longestDelay] at hsmall
    omega
  have hcapacity : transport.countSent.ensureCapacity 1 (bytes.length * 1) =
      (.ok (), transport.countSent) := by
    have hsame : transport.countSent.exceeds 1 bytes.length = false := hroom
    rw [ensureCapacity, Nat.mul_one, hsame]
    rfl
  rcases hsend : transport.send sender receiver bytes tick with ⟨result, after⟩
  cases sends hsend with
  | tooLong hlength => exact absurd hbytes (Nat.not_le.2 hlength)
  | badPercent hpercents => cases h.percents.symm.trans hpercents
  | lost _ hloss =>
    rw [h.drawLoss] at hloss
    cases hloss
  | full _ hchosen hfull =>
    obtain ⟨rfl, rfl⟩ := h.chooses hchosen
    rw [show (if (false : Bool) = true then 2 else 1) = 1 from rfl, hcapacity] at hfull
    cases hfull
  | queued _ hchosen hready =>
    obtain ⟨-, rfl⟩ := h.chooses hchosen
    rw [hcapacity] at hready
    cases hready
    obtain ⟨packet, hqueue, hconfig, hburst, -⟩ := @enqueueCopy_underWay transport.config
      transport.countSent _ sender receiver bytes tick false rfl hbytes rfl (by omega) hjitter
    refine ⟨_, rfl, ?_, hconfig, hburst⟩
    rw [hqueue, List.length_append, List.length_singleton]
    rfl
  | doubled _ hchosen _ => cases (h.chooses hchosen).1

/-- A packet that does not fit is refused. -/
theorem Plain.send_full (h : transport.Plain) (hbytes : bytes.length ≤ kMaxPacketBytes)
    (hpolicy : transport.config.overflowPolicy = .fail)
    (hexceeds : transport.exceeds 1 bytes.length = true) :
    (transport.send sender receiver bytes tick).1 =
      .error ⟨.queueOverflow, UInt64.ofNat transport.queue.length, 0, "transport_queue"⟩ := by
  have hcapacity : transport.countSent.ensureCapacity 1 (bytes.length * 1) =
      (.error ⟨.queueOverflow, UInt64.ofNat transport.queue.length, 0, "transport_queue"⟩,
        transport.countSent) := by
    have hsame : transport.countSent.exceeds 1 bytes.length = true := hexceeds
    rw [ensureCapacity, Nat.mul_one, hsame, if_neg (by decide),
      if_pos (show transport.countSent.config.overflowPolicy = .fail from hpolicy)]
    rfl
  rcases hsend : transport.send sender receiver bytes tick with ⟨result, after⟩
  cases sends hsend with
  | tooLong hlength => exact absurd hbytes (Nat.not_le.2 hlength)
  | badPercent hpercents => cases h.percents.symm.trans hpercents
  | lost _ hloss =>
    rw [h.drawLoss] at hloss
    cases hloss
  | full _ hchosen hfull =>
    obtain ⟨rfl, rfl⟩ := h.chooses hchosen
    rw [show (if (false : Bool) = true then 2 else 1) = 1 from rfl, hcapacity] at hfull
    cases hfull
    rfl
  | queued _ hchosen hready =>
    obtain ⟨-, rfl⟩ := h.chooses hchosen
    rw [hcapacity] at hready
    cases hready
  | doubled _ hchosen _ => cases (h.chooses hchosen).1

end SeededTransport

namespace LiveMatch

variable {m : LiveMatch}

/-- Both peers send in every tick, and there is a queue for one packet only. -/
structure Crowded (m : LiveMatch) : Prop where
  percents : SeededTransport.percentsInvalid m.network = false
  loss : m.network.lossPercent = 0
  burst : m.network.burstLossPercent = 0
  duplicate : m.network.duplicatePercent = 0
  policy : m.network.overflowPolicy = .fail
  packets : m.network.maxQueuePackets = 1
  bytes : 1200 ≤ m.network.maxQueueBytes
  small : m.network.longestDelay + 2 < 2 ^ 32

/-- The second packet of the first tick finds no room. -/
theorem Crowded.sendBoth (hm : m.Crowded) {noted : Option InputPair} {live : LiveScenario}
    (h : m.Truthful .begun noted live) (hnoted : noted = none → m.config.frameCount ≤ live.tickIndex)
    (hindex : live.tickIndex = 0) (hfresh : live.transport = .create m.network)
    (hticks : live.tickIndex.toNat < LiveScenario.sendingTicks m.config) :
    (live.sendBoth ⟨live.tickIndex⟩).1 = .error ⟨.queueOverflow, 1, 0, "transport_queue"⟩ := by
  obtain ⟨heard, hpeers⟩ := h.peers
  obtain ⟨cA, hpaysA⟩ := hpeers.pays .a
  obtain ⟨bytesA, packetA, hlengthA, -, -, -, hsendsA⟩ := send_spoken .a rfl h.config_eq hpaysA
    (h.history_noted hnoted .a) (h.sequence_begun hticks .a)
  have hplain : live.transport.Plain := by
    rw [hfresh]
    exact ⟨hm.percents, hm.loss, hm.burst, hm.duplicate, rfl⟩
  have hroom : live.transport.exceeds 1 bytesA.length = false := by
    have hpackets := hm.packets
    have hbytes := hm.bytes
    rw [hfresh, SeededTransport.exceeds, Bool.or_eq_false_iff, decide_eq_false_iff_not,
      decide_eq_false_iff_not]
    change ¬m.network.maxQueuePackets < 0 + 1 ∧ ¬m.network.maxQueueBytes < 0 + bytesA.length
    omega
  obtain ⟨after, hsendA, hlength, hconfig, hburst⟩ := @SeededTransport.Plain.send_room _
    PlayerId.a.endpoint (remoteId .a).endpoint _ ⟨live.tickIndex⟩ hplain hlengthA hroom (by
      rw [hindex, hfresh]
      change 0 + m.network.longestDelay + 2 < 2 ^ 32
      rw [Nat.zero_add]
      exact hm.small)
  obtain ⟨trace, -, heqA⟩ := hsendsA _ _ hsendA
  have hqueue : after.queue.length = 1 := by
    rw [hlength, hfresh]
    rfl
  have hnetwork : after.config = m.network := by
    rw [hconfig, hfresh]
    rfl
  obtain ⟨cB, hpaysB⟩ := hpeers.pays .b
  obtain ⟨bytesB, packetB, hlengthB, -, -, -, hsendsB⟩ := @send_spoken m
    { live with
      sequence := live.sequence.put .a (live.sequence.of .a + 1)
      transport := after
      context := { live.context with trace := trace } } .b _ rfl h.config_eq _ _ hpaysB
    (h.history_noted hnoted .b) (h.sequence_begun hticks .b)
  have hfull : after.exceeds 1 bytesB.length = true := by
    rw [SeededTransport.exceeds, hqueue, hnetwork, hm.packets]
    rfl
  have hsendB := @SeededTransport.Plain.send_full after PlayerId.b.endpoint (remoteId .b).endpoint _
    ⟨live.tickIndex⟩ ⟨by rw [hnetwork, hm.percents], by rw [hnetwork, hm.loss],
      by rw [hnetwork, hm.burst], by rw [hnetwork, hm.duplicate], hburst.trans hplain.remaining⟩ hlengthB
    (by rw [hnetwork, hm.policy]) hfull
  rcases hcallB : after.send PlayerId.b.endpoint (remoteId .b).endpoint bytesB ⟨live.tickIndex⟩ with
    ⟨sent, last⟩
  obtain ⟨traceB, -, heqB⟩ := hsendsB sent last hcallB
  rw [hcallB, hqueue] at hsendB
  obtain rfl : sent = .error ⟨.queueOverflow, 1, 0, "transport_queue"⟩ := hsendB
  obtain ⟨sentA, next, sentB, final, hA, hB, hboth⟩ := live.sendBoth_eq ⟨live.tickIndex⟩
  rw [heqA] at hA
  cases hA
  rw [show LiveScenario.send _ .b ⟨live.tickIndex⟩ = _ from heqB] at hB
  cases hB
  rcases hboth with ⟨error, herror, -⟩ | ⟨-, heq⟩
  · cases herror
  · rw [heq]

/-- So the match fails in its first tick. -/
theorem Crowded.step (hm : m.Crowded) :
    (m.first.step (m.presses 0)).2.failure = some ⟨.queueOverflow, 1, 0, "transport_queue"⟩ := by
  have hpositive : (0 : UInt32) < m.config.frameCount := UInt32.lt_iff_toNat_lt.2 m.frames_pos
  have hpress : m.presses 0 = m.presses m.first.tickIndex.toNat := rfl
  obtain ⟨next, hrecord, -, htransport, hnext⟩ := m.first_truthful.clear.record hpress hpositive
  have hclock := m.first.clearCorrections.record_clock m.first.tickIndex
    (LiveScenario.frameInputs m.config ⟨m.first.tickIndex⟩ (m.presses 0))
  have hrecord' : m.first.clearCorrections.record m.first.tickIndex
      (LiveScenario.frameInputs m.config ⟨m.first.tickIndex⟩ (m.presses 0)) = (.ok (), next) := hrecord
  rw [hrecord'] at hclock
  have hindex : next.tickIndex = 0 := hclock.tickIndex
  have hsend := hm.sendBoth hnext (fun hnone => by cases hnone) hindex htransport (by
    rw [hindex]
    exact Nat.lt_add_right _ m.frames_pos)
  have hplay : (m.first.clearCorrections.playFrame (m.presses 0)).1 =
      .error ⟨.queueOverflow, 1, 0, "transport_queue"⟩ := by
    rw [LiveScenario.playFrame]
    dsimp only
    rw [show m.first.clearCorrections.record m.first.clearCorrections.tickIndex
      (LiveScenario.frameInputs m.first.clearCorrections.config ⟨m.first.clearCorrections.tickIndex⟩
        (m.presses 0)) = (.ok (), next) from hrecord']
    rw [hindex] at hsend
    dsimp only
    rw [show m.first.clearCorrections.tickIndex = 0 from rfl]
    generalize next.sendBoth ⟨0⟩ = call at hsend ⊢
    rcases call with ⟨result, sent⟩
    obtain rfl : result = _ := hsend
    rfl
  rw [LiveScenario.step, show m.first.failure = none from rfl]
  dsimp only
  rw [show m.first.finished = false from rfl, if_neg Bool.false_ne_true,
    if_neg (fun hany => m.pressed 0 (LiveScenario.any_refused.1 hany)), LiveScenario.stepOnce,
    LiveScenario.tickOnce, if_pos (show m.first.clearCorrections.tickIndex <
      m.first.clearCorrections.config.frameCount from hpositive)]
  generalize m.first.clearCorrections.playFrame (m.presses 0) = call at hplay ⊢
  rcases call with ⟨result, played⟩
  obtain rfl : result = _ := hplay
  rfl

/-! ## What a seeded run returns -/

/-- A seeded run is a match between two new sessions, without a player. -/
theorem exists_seeded {config : ScenarioRunConfig} (hpositive : 1 ≤ config.frameCount)
    (hframes : config.frameCount ≤ 1000000) (htail : config.tailRedundancyTicks ≤ 4096) :
    ∃ m : LiveMatch, m.config = config ∧ m.session = newSessions config.peerBVariant ∧
      m.presses = (fun _ => none) ∧
      runSeededScenario config = m.first.runSteps (totalTicks config) := by
  obtain ⟨m, rfl, hsession, hpresses, hcreate⟩ := @exists_newMatch config (fun _ => none)
    config.peerBVariant (fun _ _ hmem => by cases hmem) hpositive hframes htail
  refine ⟨m, rfl, hsession, hpresses, ?_⟩
  rw [← LiveScenario.toNat_totalTicks m.room, runSeededScenario, hcreate]
  rfl

theorem runSteps_failure {n : ℕ} {error : Error} (hpresses : m.presses = fun _ => none)
    (h : (LiveScenario.play m.presses m.first n).failure = some error) :
    m.first.runSteps n = .error error := by
  rw [hpresses] at h
  exact (LiveScenario.runSteps_play ⟨rfl, rfl⟩ n).1 error h

/-- A queue for one packet makes a run fail. -/
theorem Crowded.runSteps (hm : m.Crowded) (hpresses : m.presses = fun _ => none) (n : ℕ) :
    m.first.runSteps (n + 1) = .error ⟨.queueOverflow, 1, 0, "transport_queue"⟩ := by
  have hfailure := hm.step
  refine runSteps_failure hpresses ?_
  rw [LiveScenario.play_succ, LiveScenario.play_closed]
  · exact hfailure
  · intro hopen
    rw [hopen.1] at hfailure
    cases hfailure

theorem HearsNothing.runSteps (hm : m.HearsNothing) (hpresses : m.presses = fun _ => none) :
    m.first.runSteps (totalTicks m.config) = .error ⟨.timeout, 0, 0, "seeded_scenario"⟩ :=
  runSteps_failure hpresses (times_out hm).2.1

/-- What a successful report says. -/
theorem buildReport_means {live : LiveScenario} (h : live.buildReport.success = true) :
    live.buildReport.confirmedFrame = ⟨live.config.frameCount⟩ ∧
      live.buildReport.finalHashA = live.buildReport.finalHashB ∧
      live.buildReport.finalHashA = live.replay.expectedFinalHash := by
  change (live.buildReport.confirmedFrame == ⟨live.config.frameCount⟩ &&
    live.context.peer.a.report.finalHash == live.context.peer.b.report.finalHash &&
    live.context.peer.a.report.finalHash == live.replay.expectedFinalHash && _ && _) = true at h
  simp only [Bool.and_eq_true, beq_iff_eq] at h
  obtain ⟨⟨⟨⟨hconfirmed, hsame⟩, hfinal⟩, -⟩, -⟩ := h
  have hashA : live.buildReport.finalHashA = live.context.peer.a.report.finalHash := by
    rw [LiveScenario.buildReport]
  have hashB : live.buildReport.finalHashB = live.context.peer.b.report.finalHash := by
    rw [LiveScenario.buildReport]
  rw [hashA, hashB]
  exact ⟨hconfirmed, hsame, hfinal⟩

theorem ending_means {live : LiveScenario} (hfailure : live.ending.failure = none)
    (hsuccess : live.ending.report.success = true) :
    live.ending.report.confirmedFrame = ⟨live.config.frameCount⟩ ∧
      live.ending.report.finalHashA = live.ending.report.finalHashB ∧
      live.ending.report.finalHashA = live.ending.replay.expectedFinalHash := by
  obtain ⟨_, peerA, _, peerB, -, -, ⟨error, hfinal, -⟩ | ⟨-, hfinal⟩⟩ := live.finalize_cases
  · rw [LiveScenario.ending, hfinal] at hfailure
    cases hfailure
  · rw [LiveScenario.ending, hfinal] at hfailure hsuccess ⊢
    cases hjudge : ((live.setPeer .a peerA).setPeer .b peerB).judged.judge with
    | error error =>
      rw [hjudge] at hfailure
      cases hfailure
    | ok finished =>
      rw [hjudge] at hsuccess
      exact @buildReport_means ((live.setPeer .a peerA).setPeer .b peerB) hsuccess

/-- A run by the canonical rules that captures no trace returns what the sweep checks, or it
stops because of the network. -/
theorem runSteps_verdict (hpresses : m.presses = fun _ => none)
    (hcanonical : ∀ id, (m.session.of id).variant = .canonical)
    (hcapture : m.config.captureTrace = false) :
    (∃ error, m.first.runSteps (totalTicks m.config) = .error error ∧ StopsMatch error) ∨
      ∃ artifacts, m.first.runSteps (totalTicks m.config) = .ok artifacts ∧
        validateSuccess artifacts m.config = true := by
  have hsame : m.SameHashes := fun id k _ => by rw [hcanonical, hcanonical]
  have hrule := m.rule (fun _ _ => Undiverged.quiet)
    fun t context heard receiver packet sent hpeers _ => receive_undiverged hsame hpeers
  have hplay := hrule.play m.pressed ⟨m.first_truthful, m.first_undiverged⟩ ⟨rfl, rfl⟩ rfl m.room
    (n := totalTicks m.config) le_rfl
  have hcaptured := LiveScenario.Captured.reaches m.room
    (LiveScenario.reaches_play m.presses m.first (totalTicks m.config))
  have hreturns := @LiveScenario.runSteps_play m.first ⟨rfl, rfl⟩ (totalTicks m.config)
  rw [← hpresses] at hreturns
  rcases hplay with ⟨live, error, ⟨hcode, -⟩, -, heq⟩ | ⟨hlt, -⟩ | ⟨-, live, h, hopen, htick, heq⟩
  · refine Or.inl ⟨error, hreturns.1 error (by rw [heq]), ?_⟩
    rcases hcode with hcode | hcode | hcode
    all_goals
      rw [StopsMatch, hcode]
      decide
  · omega
  have hover : m.frames ≤ live.tickIndex.toNat := by
    rw [htick, totalTicks, frames]
    omega
  rcases ending_cases h.1 hcanonical h.2 hover hopen with hgood | ⟨-, error, hfailure, hcode⟩
  · rw [heq] at hreturns hcaptured
    obtain ⟨hconfirmed, hhashes, hfinal⟩ := ending_means hgood.failure hgood.success
    obtain ⟨-, verification, -, -, hverify, -⟩ := hgood.replay
    refine Or.inr ⟨_, hreturns.2 hgood.failure hgood.finished, ?_⟩
    rw [h.1.config_eq] at hconfirmed
    rw [validateSuccess, LiveScenario.artifacts]
    dsimp only
    rw [hgood.success, hgood.verified, hverify, hconfirmed, ← hhashes, hfinal, hcaptured.2.2 hcapture]
    simp [LiveScenario.bareTrace, Except.isOk, Except.toBool]
  · refine Or.inl ⟨error, hreturns.1 error (by rw [heq, hfailure]), ?_⟩
    rw [StopsMatch, hcode]
    decide

end LiveMatch

/-! ## The matches of a sweep -/

theorem drawFrameCount_bounds (offset : UInt32) (random : Pcg32) :
    1 ≤ (drawFrameCount offset random).1 ∧ (drawFrameCount offset random).1 ≤ 257 := by
  rw [drawFrameCount]
  cases hedge : edgeFrameCounts[offset.toNat]? with
  | some count =>
    have hall : (edgeFrameCounts.all fun count => decide (1 ≤ count) && decide (count ≤ 257)) = true := rfl
    simpa using List.all_eq_true.1 hall count (List.mem_of_getElem? hedge)
  | none =>
    have hlt := @Pcg32.bounded_lt random 57 (by decide)
    dsimp only
    generalize (random.bounded 57).1 = drawn at hlt ⊢
    rw [UInt32.lt_iff_toNat_lt] at hlt
    have hmost : drawn.toNat < 57 := hlt
    have hvalue : (40 + drawn).toNat = 40 + drawn.toNat := by
      rw [UInt32.toNat_add, Nat.mod_eq_of_lt]
      · rfl
      · have h40 : (40 : UInt32).toNat = 40 := rfl
        omega
    rw [UInt32.le_iff_toNat_le, UInt32.le_iff_toNat_le, hvalue]
    have hone : (1 : UInt32).toNat = 1 := rfl
    have hlast : (257 : UInt32).toNat = 257 := rfl
    omega

/-- The parts of a match that the sweep does not draw, or draws from few. -/
structure Swept (config : ScenarioRunConfig) : Prop where
  positive : 1 ≤ config.frameCount
  frames : config.frameCount ≤ 1000000
  tail : config.tailRedundancyTicks = 64
  canonical : config.peerBVariant = .canonical
  capture : config.captureTrace = false
  policy : config.transport.overflowPolicy = .fail

theorem drawScenario_eq (seedIndex offset : UInt32) : ∃ random scenarioSeed transportSeed,
    drawScenario seedIndex offset =
      { scenarioSeed
        transportSeed
        frameCount := (drawFrameCount offset random).1
        captureTrace := false
        tailRedundancyTicks := 64
        transport := drawTransport transportSeed (drawFrameCount offset random).2 } := ⟨_, _, _, rfl⟩

theorem drawTransport_policy (seed : UInt64) (random : Pcg32) :
    (drawTransport seed random).overflowPolicy = .fail := rfl

theorem drawTransport_queue (seed : UInt64) (random : Pcg32) :
    (drawTransport seed random).maxQueuePackets = 512 ∧
      (drawTransport seed random).maxQueueBytes = 512 * 1200 := ⟨rfl, rfl⟩

theorem swept_drawScenario (seedIndex offset : UInt32) : Swept (drawScenario seedIndex offset) := by
  obtain ⟨random, scenarioSeed, transportSeed, heq⟩ := drawScenario_eq seedIndex offset
  obtain ⟨hpositive, hmost⟩ := drawFrameCount_bounds offset random
  rw [heq]
  exact ⟨hpositive, UInt32.le_trans hmost (by decide), rfl, rfl, rfl, drawTransport_policy _ _⟩

theorem drawTransport_loss (seed : UInt64) (random : Pcg32) :
    (drawTransport seed random).lossPercent =
      lossRates.getD (((random.bounded 7).2.bounded 4).2.bounded 4).1.toNat 0 := rfl

theorem lossRate_mem {drawn : UInt32} (h : drawn < 4) : lossRates.getD drawn.toNat 0 ∈ lossRates := by
  have hindex : drawn.toNat < lossRates.length := UInt32.lt_iff_toNat_lt.1 h
  rw [List.getD_eq_getElem?_getD, List.getElem?_eq_getElem hindex]
  exact List.getElem_mem hindex

theorem lossPercent_mem (seed : UInt64) (random : Pcg32) :
    (drawTransport seed random).lossPercent ∈ lossRates := by
  have hlt := @Pcg32.bounded_lt ((random.bounded 7).2.bounded 4).2 4 (by decide)
  rw [drawTransport_loss]
  exact lossRate_mem hlt

/-- The offset of a match that is made to overflow its queue. -/
def Overflows (offset : ℕ) : Prop := 7 ≤ offset ∧ offset % 50 = 7

/-- The offset of a match whose packets must not wait. -/
def TimesOut (offset : ℕ) : Prop := 7 ≤ offset ∧ offset % 50 = 8

instance : DecidablePred Overflows := fun _ => inferInstanceAs (Decidable (_ ∧ _))

instance : DecidablePred TimesOut := fun _ => inferInstanceAs (Decidable (_ ∧ _))

theorem offset_mod (offset value : UInt32) :
    offset % 50 = value ↔ offset.toNat % 50 = value.toNat := by
  rw [← UInt32.toNat_inj, UInt32.toNat_mod]
  rfl

/-- What becomes of the match of a seed. -/
inductive Fate (sweepCase : SweepCase) (offset : ℕ) : Prop
  | overflows (h : Overflows offset) (hexpected : sweepCase.expectedFailure = some .queueOverflow)
      (hruns : runSeededScenario sweepCase.scenario =
        .error ⟨.queueOverflow, 1, 0, "transport_queue"⟩)
  | timesOut (h : TimesOut offset) (hexpected : sweepCase.expectedFailure = some .timeout)
      (hruns : runSeededScenario sweepCase.scenario = .error ⟨.timeout, 0, 0, "seeded_scenario"⟩)
  | stops (h : ¬Overflows offset ∧ ¬TimesOut offset) (hexpected : sweepCase.expectedFailure = none)
      {error : Error} (hruns : runSeededScenario sweepCase.scenario = .error error)
      (hstops : StopsMatch error)
  | converges (h : ¬Overflows offset ∧ ¬TimesOut offset) (hexpected : sweepCase.expectedFailure = none)
      {artifacts : ScenarioArtifacts} (hruns : runSeededScenario sweepCase.scenario = .ok artifacts)
      (hvalid : validateSuccess artifacts sweepCase.scenario = true)

theorem Swept.exists_match {config : ScenarioRunConfig} (h : Swept config) :
    ∃ m : LiveMatch, m.config = config ∧ m.session = LiveMatch.newSessions .canonical ∧
      m.presses = (fun _ => none) ∧
      runSeededScenario config = m.first.runSteps (totalTicks config) := by
  obtain ⟨m, hconfig, hsession, hrest⟩ := LiveMatch.exists_seeded h.positive h.frames
    (by rw [h.tail]; decide)
  rw [h.canonical] at hsession
  exact ⟨m, hconfig, hsession, hrest⟩

/-- A match over a queue for one packet. -/
theorem Swept.overflows {config : ScenarioRunConfig} (h : Swept config) :
    runSeededScenario
        { config with
          transport := { config.transport.steady 20 with maxQueuePackets := 1, maxQueueBytes := 1200 } } =
      .error ⟨.queueOverflow, 1, 0, "transport_queue"⟩ := by
  obtain ⟨m, hconfig, -, hpresses, hruns⟩ := @Swept.exists_match
    { config with
      transport := { config.transport.steady 20 with maxQueuePackets := 1, maxQueueBytes := 1200 } }
    ⟨h.positive, h.frames, h.tail, h.canonical, h.capture, h.policy⟩
  have hnetwork : m.network =
      { config.transport.steady 20 with
        seed := config.transportSeed, maxQueuePackets := 1, maxQueueBytes := 1200 } :=
    congrArg LiveScenario.seededConfig hconfig
  have hm : m.Crowded := by
    constructor
    all_goals rw [hnetwork]
    case policy => exact h.policy
    case small => exact (by decide : 20 + 0 + 0 + 2 < 2 ^ 32)
    all_goals rfl
  rw [hruns]
  exact hm.runSteps hpresses _

/-- A match whose packets must not wait. -/
theorem Swept.timesOut {config : ScenarioRunConfig} (h : Swept config)
    (hpackets : config.transport.maxQueuePackets = 512)
    (hbytes : config.transport.maxQueueBytes = 512 * 1200) :
    runSeededScenario
        { config with transport := { config.transport.steady 10 with maxPacketAgeTicks := 0 } } =
      .error ⟨.timeout, 0, 0, "seeded_scenario"⟩ := by
  obtain ⟨m, hconfig, -, hpresses, hruns⟩ := @Swept.exists_match
    { config with transport := { config.transport.steady 10 with maxPacketAgeTicks := 0 } }
    ⟨h.positive, h.frames, h.tail, h.canonical, h.capture, h.policy⟩
  have hnetwork : m.network =
      { config.transport.steady 10 with seed := config.transportSeed, maxPacketAgeTicks := 0 } :=
    congrArg LiveScenario.seededConfig hconfig
  have hframes : m.config.frameCount.toNat ≤ 1000000 := m.frames_le
  have htail : m.config.tailRedundancyTicks = 64 := by
    rw [hconfig]
    exact h.tail
  have hm : m.HearsNothing := by
    refine ⟨⟨?_, ?_, ?_, ?_⟩, ?_⟩
    all_goals rw [hnetwork]
    · rfl
    · exact (by decide : 0 < 10 - 0)
    · change 4 * (0 + 2) ≤ config.transport.maxQueuePackets
      rw [hpackets]
      decide
    · change 4 * (0 + 2) * 1200 ≤ config.transport.maxQueueBytes
      rw [hbytes]
      decide
    · change totalTicks m.config + (10 + 0 + 0) + 2 < 2 ^ 32
      rw [totalTicks, htail]
      have h64 : (64 : UInt32).toNat = 64 := rfl
      omega
  rw [hruns, ← hconfig]
  exact hm.runSteps hpresses

theorem fate_scenarioFor (seedIndex offset : UInt32) :
    Fate (scenarioFor seedIndex offset) offset.toNat := by
  have hswept := swept_drawScenario seedIndex offset
  have hqueue : (drawScenario seedIndex offset).transport.maxQueuePackets = 512 ∧
      (drawScenario seedIndex offset).transport.maxQueueBytes = 512 * 1200 := by
    obtain ⟨random, scenarioSeed, transportSeed, heq⟩ := drawScenario_eq seedIndex offset
    rw [heq]
    exact drawTransport_queue _ _
  have hover : edgeFrameCounts.length ≤ offset.toNat ∧ offset % 50 = 7 ↔ Overflows offset.toNat :=
    and_congr_right fun _ => offset_mod offset 7
  have hlate : edgeFrameCounts.length ≤ offset.toNat ∧ offset % 50 = 8 ↔ TimesOut offset.toNat :=
    and_congr_right fun _ => offset_mod offset 8
  rw [scenarioFor]
  dsimp only
  generalize drawScenario seedIndex offset = config at hswept hqueue ⊢
  split
  next h => exact .overflows (hover.1 h) rfl hswept.overflows
  next h =>
  split
  next h' => exact .timesOut (hlate.1 h') rfl (hswept.timesOut hqueue.1 hqueue.2)
  next h' =>
    obtain ⟨m, rfl, hsession, hpresses, hruns⟩ := hswept.exists_match
    have hplain : ¬Overflows offset.toNat ∧ ¬TimesOut offset.toNat := ⟨mt hover.2 h, mt hlate.2 h'⟩
    rcases LiveMatch.runSteps_verdict hpresses (hsession ▸ LiveMatch.newSessions_canonical) hswept.capture with
      ⟨error, herror, hstops⟩ | ⟨artifacts, hok, hvalid⟩
    · exact .stops hplain rfl (hruns.trans herror) hstops
    · exact .converges hplain rfl (hruns.trans hok) hvalid

theorem lossRate_scenarioFor (seedIndex offset : UInt32) :
    (scenarioFor seedIndex offset).scenario.transport.lossPercent ∈ lossRates := by
  have hdrawn : (drawScenario seedIndex offset).transport.lossPercent ∈ lossRates := by
    obtain ⟨random, scenarioSeed, transportSeed, heq⟩ := drawScenario_eq seedIndex offset
    rw [heq]
    exact lossPercent_mem _ _
  rw [scenarioFor]
  dsimp only
  split
  · exact List.mem_cons_self
  split
  · exact List.mem_cons_self
  · exact hdrawn

/-! ## Counting -/

/-- How many of the first matches are made to fail. -/
def declaredBelow (n : ℕ) : ℕ := (n + 42) / 50 + (n + 41) / 50

theorem declaredBelow_le (n : ℕ) : declaredBelow n ≤ n := by
  rw [declaredBelow]
  omega

/-- One more in one of the buckets. -/
theorem sum_modify {list : List UInt32} {index : ℕ} (hindex : index < list.length)
    (hsmall : (list.map UInt32.toNat).sum + 1 < 2 ^ 32) :
    ((list.modify index (· + 1)).map UInt32.toNat).sum = (list.map UInt32.toNat).sum + 1 := by
  induction list generalizing index with
  | nil => exact absurd hindex (Nat.not_lt_zero _)
  | cons count list ih =>
    rw [List.map_cons, List.sum_cons] at hsmall
    cases index with
    | zero =>
      rw [List.modify_zero_cons, List.map_cons, List.sum_cons, List.map_cons, List.sum_cons,
        UInt32.toNat_add, UInt32.toNat_one, Nat.mod_eq_of_lt (by omega)]
      omega
    | succ index =>
      rw [List.modify_succ_cons, List.map_cons, List.sum_cons, List.map_cons, List.sum_cons,
        ih (Nat.lt_of_succ_lt_succ hindex) (by omega)]
      omega

/-- What a sweep has counted after some of its matches. -/
structure Counts (config : PropertySweepConfig) (n : ℕ) (result : PropertySweepResult) : Prop where
  startSeed : result.startSeed = config.startSeed
  totalSeeds : result.totalSeeds = config.seedCount
  edges : result.edgeFrameCases = min config.seedCount 7
  successful : result.successfulSeeds = UInt32.ofNat (n - declaredBelow n)
  declared : result.declaredFailures = UInt32.ofNat (declaredBelow n)
  overflows : result.queueOverflowFailures = UInt32.ofNat ((n + 42) / 50)
  timeouts : result.timeoutFailures = UInt32.ofNat ((n + 41) / 50)
  repeated : result.repeatedIdentitySamples = UInt32.ofNat
    (declaredBelow n + (min n config.repeatIdentitySamples.toNat -
      declaredBelow (min n config.repeatIdentitySamples.toNat)))
  clean : result.identityMismatches = 0 ∧ result.crashes = 0 ∧ result.deadlocks = 0 ∧
    result.unboundedFailures = 0
  lossRates : result.lossRateScenarios.length = 4 ∧
    (result.lossRateScenarios.map UInt32.toNat).sum = n

/-- A match that is not made to fail converges. -/
def PropertySweepConfig.Converges (config : PropertySweepConfig) (offset : UInt32) : Prop :=
  (config.caseAt offset).expectedFailure = none →
    ∃ artifacts, runSeededScenario (config.caseAt offset).scenario = .ok artifacts

namespace Sweep

variable {sweep : Sweep} {seed : UInt32} {scenario : ScenarioRunConfig}

/-- A declared failure is counted, and found again. -/
theorem checkDeclared_eq {error : Error} (hruns : runSeededScenario scenario = .error error) :
    sweep.checkDeclared seed scenario error.code =
      .ok ((sweep.countDeclared error.code).mix (UInt64.ofNat error.code.ctorIdx)).countRepeated := by
  rw [checkDeclared, hruns]
  simp

theorem checkSuccess_error {error : Error} (hruns : runSeededScenario scenario = .error error)
    (repeats : Bool) : sweep.checkSuccess seed scenario repeats =
      .error ⟨error.code, seed.toUInt64, error.offset, "property_unexpected_failure"⟩ := by
  rw [checkSuccess, hruns]

theorem checkSuccess_ok {artifacts : ScenarioArtifacts}
    (hruns : runSeededScenario scenario = .ok artifacts)
    (hvalid : validateSuccess artifacts scenario = true) (repeats : Bool) :
    sweep.checkSuccess seed scenario repeats =
      .ok (if repeats then (sweep.countSuccess.mix (reportIdentity artifacts.report)).countRepeated
        else sweep.countSuccess.mix (reportIdentity artifacts.report)) := by
  rw [checkSuccess, hruns]
  cases repeats with
  | false => simp [hvalid]
  | true => simp [hvalid]

end Sweep

/-- Every match adds one to a few of the counters. -/
theorem Counts.add {config : PropertySweepConfig} {k index success overflow timeout repeats : ℕ}
    {result : PropertySweepResult} (h : Counts config k result) (hk : k < 100000)
    (hindex : index < 4) (hone : success + (overflow + timeout) = 1)
    (hoverflow : (k + 43) / 50 = (k + 42) / 50 + overflow)
    (htimeout : (k + 42) / 50 = (k + 41) / 50 + timeout)
    (hrepeats : repeats = overflow + timeout + if k < config.repeatIdentitySamples.toNat then success else 0) :
    Counts config (k + 1)
      { result with
        successfulSeeds := result.successfulSeeds + UInt32.ofNat success
        declaredFailures := result.declaredFailures + UInt32.ofNat (overflow + timeout)
        repeatedIdentitySamples := result.repeatedIdentitySamples + UInt32.ofNat repeats
        queueOverflowFailures := result.queueOverflowFailures + UInt32.ofNat overflow
        timeoutFailures := result.timeoutFailures + UInt32.ofNat timeout
        lossRateScenarios := result.lossRateScenarios.modify index (· + 1) } := by
  have hdeclared : declaredBelow (k + 1) = declaredBelow k + (overflow + timeout) := by
    rw [declaredBelow, declaredBelow]
    omega
  have hle := declaredBelow_le k
  obtain ⟨hlength, hsum⟩ := h.lossRates
  have hsuccessful : k - declaredBelow k + success = k + 1 - declaredBelow (k + 1) := by omega
  have hrepeated : declaredBelow k + (min k config.repeatIdentitySamples.toNat -
        declaredBelow (min k config.repeatIdentitySamples.toNat)) + repeats =
      declaredBelow (k + 1) + (min (k + 1) config.repeatIdentitySamples.toNat -
        declaredBelow (min (k + 1) config.repeatIdentitySamples.toNat)) := by
    by_cases hlt : k < config.repeatIdentitySamples.toNat
    · rw [if_pos hlt] at hrepeats
      rw [min_eq_left hlt.le, (min_eq_left hlt : min (k + 1) _ = k + 1), hrepeats]
      omega
    · rw [if_neg hlt] at hrepeats
      rw [min_eq_right (Nat.le_of_not_lt hlt), min_eq_right (by omega), hrepeats, hdeclared]
      omega
  refine ⟨h.startSeed, h.totalSeeds, h.edges, ?_, ?_, ?_, ?_, ?_, h.clean, ?_, ?_⟩
  · rw [h.successful, ← UInt32.ofNat_add, hsuccessful]
  · rw [h.declared, ← UInt32.ofNat_add, hdeclared]
  · rw [h.overflows, ← UInt32.ofNat_add, hoverflow]
  · rw [h.timeouts, ← UInt32.ofNat_add, htimeout]
  · rw [h.repeated, ← UInt32.ofNat_add, hrepeated]
  · rw [List.length_modify, hlength]
  · rw [sum_modify (hlength.symm ▸ hindex) (by omega), hsum]

/-- One match more, or the end of the sweep. -/
theorem checkOffset_cases {config : PropertySweepConfig} {k : ℕ} (hk : k < 100000) {sweep : Sweep}
    (h : Counts config k sweep.result) :
    (∃ next, config.checkOffset sweep (UInt32.ofNat k) = .ok next ∧ Counts config (k + 1) next.result ∧
        config.Converges (UInt32.ofNat k)) ∨
      ∃ cause, (config.caseAt (UInt32.ofNat k)).expectedFailure = none ∧
        runSeededScenario (config.caseAt (UInt32.ofNat k)).scenario = .error cause ∧ StopsMatch cause ∧
        config.checkOffset sweep (UInt32.ofNat k) = .error ⟨cause.code,
          (config.startSeed + UInt32.ofNat k).toUInt64, cause.offset, "property_unexpected_failure"⟩ := by
  have hvalue : (UInt32.ofNat k).toNat = k := UInt32.toNat_ofNat_of_lt' (by simp only [UInt32.size]; omega)
  have hfate := fate_scenarioFor (config.startSeed + UInt32.ofNat k) (UInt32.ofNat k)
  have hloss := lossRate_scenarioFor (config.startSeed + UInt32.ofNat k) (UInt32.ofNat k)
  rw [hvalue] at hfate
  have hindex := List.idxOf_lt_length_of_mem hloss
  rw [PropertySweepConfig.checkOffset, PropertySweepConfig.Converges]
  change Fate (config.caseAt (UInt32.ofNat k)) k at hfate
  change lossRates.idxOf (config.caseAt (UInt32.ofNat k)).scenario.transport.lossPercent < 4 at hindex
  generalize config.caseAt (UInt32.ofNat k) = sweepCase at hfate hindex ⊢
  cases hfate with
  | overflows hover hexpected hruns =>
    obtain ⟨hseven, hmod⟩ := hover
    left
    rw [hexpected]
    refine ⟨_, Sweep.checkDeclared_eq hruns, ?_, nofun⟩
    have hadd := @Counts.add config k _ 0 1 0 1 _ h hk hindex (by omega) (by omega) (by omega) (by simp)
    simpa [Sweep.countRepeated, Sweep.mix, Sweep.countDeclared, Sweep.countLossRate] using hadd
  | timesOut hlate hexpected hruns =>
    obtain ⟨hseven, hmod⟩ := hlate
    left
    rw [hexpected]
    refine ⟨_, Sweep.checkDeclared_eq hruns, ?_, nofun⟩
    have hadd := @Counts.add config k _ 0 0 1 1 _ h hk hindex (by omega) (by omega) (by omega) (by simp)
    simpa [Sweep.countRepeated, Sweep.mix, Sweep.countDeclared, Sweep.countLossRate] using hadd
  | @stops hplain hexpected error hruns hstops =>
    right
    rw [hexpected]
    exact ⟨error, rfl, hruns, hstops, Sweep.checkSuccess_error hruns _⟩
  | @converges hplain hexpected artifacts hruns hvalid =>
    obtain ⟨hnotOver, hnotLate⟩ := hplain
    rw [Overflows] at hnotOver
    rw [TimesOut] at hnotLate
    left
    rw [hexpected]
    refine ⟨_, Sweep.checkSuccess_ok hruns hvalid _, ?_, fun _ => ⟨artifacts, hruns⟩⟩
    have hlt : UInt32.ofNat k < config.repeatIdentitySamples ↔ k < config.repeatIdentitySamples.toNat := by
      rw [UInt32.lt_iff_toNat_lt, hvalue]
    by_cases hrepeats : k < config.repeatIdentitySamples.toNat
    · have hadd := @Counts.add config k _ 1 0 0 1 _ h hk hindex (by omega) (by omega) (by omega)
        (by simp [hrepeats])
      rw [decide_eq_true (hlt.2 hrepeats), if_pos rfl]
      simpa [Sweep.countRepeated, Sweep.mix, Sweep.countSuccess, Sweep.countLossRate] using hadd
    · have hadd := @Counts.add config k _ 1 0 0 0 _ h hk hindex (by omega) (by omega) (by omega)
        (by simp [hrepeats])
      rw [decide_eq_false (mt hlt.1 hrepeats), if_neg Bool.false_ne_true]
      simpa [Sweep.mix, Sweep.countSuccess, Sweep.countLossRate] using hadd

theorem Counts.start (config : PropertySweepConfig) : Counts config 0 config.start.result :=
  ⟨rfl, rfl, rfl, rfl, rfl, rfl, rfl, by rw [Nat.zero_min]; rfl, ⟨rfl, rfl, rfl, rfl⟩, rfl, rfl⟩

theorem Counts.digest {config : PropertySweepConfig} {n : ℕ} {result : PropertySweepResult}
    (h : Counts config n result) (digest : StateHash) :
    Counts config n { result with identityDigest := digest } :=
  ⟨h.startSeed, h.totalSeeds, h.edges, h.successful, h.declared, h.overflows, h.timeouts, h.repeated,
    h.clean, h.lossRates⟩

/-- Every match was counted once. -/
theorem Counts.success {config : PropertySweepConfig} {result : PropertySweepResult}
    (h : Counts config config.seedCount.toNat result) : result.success = true := by
  obtain ⟨hmismatches, hcrashes, hdeadlocks, hunbounded⟩ := h.clean
  have htotal : result.successfulSeeds + result.declaredFailures = result.totalSeeds := by
    rw [h.successful, h.declared, h.totalSeeds, ← UInt32.ofNat_add,
      Nat.sub_add_cancel (declaredBelow_le _), UInt32.ofNat_toNat]
  rw [PropertySweepResult.success, htotal, hmismatches, hcrashes, hdeadlocks, hunbounded]
  simp

/-- The text of a result is JSON, and it says what was counted. -/
theorem PropertySweepResult.parse_canonicalJson (result : PropertySweepResult) :
    Json.parse result.canonicalJson = some result.json := by
  have hlines : ∀ c ∈ text "\n  ", Json.isSpace c = true := Numeral.forall_mem_of_all (by decide)
  have hend : ∀ c ∈ text "\n", Json.isSpace c = true := Numeral.forall_mem_of_all (by decide)
  apply Reads.parse _ hend
  apply Reads.objectText hlines hend _ (List.cons_ne_nil _ _)
  simp only [List.forall₂_cons, List.forall₂_nil_left_iff, and_true]
  refine ⟨writes_decimal (by decide) _, writes_decimal (by decide) _, writes_decimal (by decide) _,
    writes_decimal (by decide) _, writes_decimal (by decide) _, writes_decimal (by decide) _,
    writes_decimal (by decide) _, writes_decimal (by decide) _, writes_decimal (by decide) _,
    writes_decimal (by decide) _, writes_decimal (by decide) _, writes_decimal (by decide) _,
    writes_decimal (by decide) _, writes_object (by decide) ?_ (List.cons_ne_nil _ _),
    writes_decimal (by decide) _, writes_bool (by decide) _, writes_bool (by decide) _⟩
  rw [PropertySweepResult.lossRateFields]
  simp only [List.forall₂_cons, List.forall₂_nil_left_iff, and_true]
  exact ⟨writes_decimal (by decide) _, writes_decimal (by decide) _, writes_decimal (by decide) _,
    writes_decimal (by decide) _⟩

end RollbackLab
