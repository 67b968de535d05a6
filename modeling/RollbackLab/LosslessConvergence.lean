import RollbackLab.LosslessRun
import RollbackLab.MatchVerdict

/-!
# Convergence over a transport that loses nothing

When nothing is lost, and every packet comes within 63 ticks, no input is too old for the
rollback window. Both sessions hear all inputs of their partners before the match is
judged, and it ends well.
-/

namespace RollbackLab

open LiveScenario (sendingTicks totalTicks)

theorem TransportConfig.copies_le (config : TransportConfig) : config.copies ≤ 2 := by
  rw [copies]
  split
  · decide
  · exact le_rfl

theorem TransportConfig.longestDelay_le {config : TransportConfig} {delay : ℕ}
    (h : config.baseLatencyTicks.toNat + 2 * config.jitterTicks.toNat + 2 ≤ delay) :
    config.longestDelay ≤ delay := by
  rw [longestDelay]
  split
  · omega
  · omega

/-- Room for as many packets as two peers can have under way, if they take `delay` ticks at most. -/
theorem TransportConfig.Lossless.of_room {config : TransportConfig} {delay : ℕ}
    (hloss : config.lossPercent = 0) (hburst : config.burstLossPercent = 0)
    (hreorder : config.reorderPercent ≤ 100) (hduplicate : config.duplicatePercent ≤ 100)
    (hdelay : config.longestDelay ≤ delay) (hpackets : 4 * (delay + 1) ≤ config.maxQueuePackets)
    (hbytes : 4 * (delay + 1) * kMaxPacketBytes ≤ config.maxQueueBytes)
    (hbandwidth : 4 * (delay + 1) * kMaxPacketBytes ≤ config.bandwidthBytesPerTick)
    (hage : delay ≤ config.maxPacketAgeTicks.toNat) : config.Lossless := by
  have hroom : 2 * config.copies * (config.longestDelay + 1) ≤ 4 * (delay + 1) :=
    Nat.mul_le_mul (Nat.mul_le_mul_left 2 config.copies_le) (Nat.succ_le_succ hdelay)
  have hspread : 2 * config.copies * (config.longestDelay + 1 - config.shortestDelay) ≤
      2 * config.copies * (config.longestDelay + 1) := Nat.mul_le_mul_left _ (Nat.sub_le _ _)
  exact ⟨hloss, hburst, hreorder, hduplicate, hroom.trans hpackets,
    (Nat.mul_le_mul_right _ hroom).trans hbytes,
    (Nat.mul_le_mul_right _ (hspread.trans hroom)).trans hbandwidth, hdelay.trans hage⟩

namespace LiveMatch

/-- Two new sessions, the second of which may play by other rules. -/
def newSessions (variant : SimulationVariant) : Sides SessionConfig :=
  ⟨{ localPeer := .a }, { localPeer := .b, variant := variant }⟩

theorem newSessions_window (variant : SimulationVariant) (id : PlayerId) :
    ((newSessions variant).of id).maxRollbackFrames.toNat = 120 := by
  cases id <;> rfl

theorem newSessions_canonical (id : PlayerId) : ((newSessions .canonical).of id).variant = .canonical := by
  cases id <;> rfl

/-- A match between two new sessions can begin. -/
theorem exists_newMatch {config : ScenarioRunConfig} {presses : ℕ → Option UInt8}
    (variant : SimulationVariant) (hpresses : ∀ t, ∀ buttons ∈ presses t, buttons ≤ 31)
    (hpositive : 1 ≤ config.frameCount) (hframes : config.frameCount ≤ 1000000)
    (htail : config.tailRedundancyTicks ≤ 4096) :
    ∃ m : LiveMatch, m.config = config ∧ m.session = newSessions variant ∧ m.presses = presses ∧
      LiveScenario.create config (.create { localPeer := .a })
        (.create { localPeer := .b, variant := variant }) = .ok m.first := by
  rw [UInt32.le_iff_toNat_le] at hpositive hframes htail
  have hone : (1 : UInt32).toNat = 1 := rfl
  have hmillion : (1000000 : UInt32).toNat = 1000000 := rfl
  have hmost : (4096 : UInt32).toNat = 4096 := rfl
  have hlimit : kMaxReplayFrames = 1000000 := rfl
  have hroom : totalTicks config < 2 ^ 32 := by
    rw [totalTicks]
    omega
  refine ⟨⟨config, newSessions variant, presses, fun id => ?_, fun id => ?_, fun id => ?_,
    fun t => LiveScenario.not_refused (hpresses t), by omega, by omega, hroom⟩, rfl, rfl, rfl, ?_⟩
  · cases id with
    | a => rfl
    | b => rfl
  · cases id with
    | a => rfl
    | b => rfl
  · cases id with
    | a => exact le_rfl
    | b => exact le_rfl
  · rw [LiveScenario.create, if_neg, if_neg]
    · rfl
    · rintro (h | h | h | h)
      all_goals exact h rfl
    · have hzero : (0 : UInt32).toNat = 0 := rfl
      have htop : (0xFFFFFFFF : UInt32).toNat = 2 ^ 32 - 1 := rfl
      have hdrain : (32 : UInt32).toNat = 32 := rfl
      have hcount : (0xFFFFFFFF - config.frameCount).toNat = 2 ^ 32 - 1 - config.frameCount.toNat := by
        rw [UInt32.toNat_sub_of_le _ _ (UInt32.le_iff_toNat_le.2 (by omega)), htop]
      rintro (h | h | h)
      · rw [h] at hpositive
        omega
      · omega
      · rw [UInt32.lt_iff_toNat_lt,
          UInt32.toNat_sub_of_le _ _ (UInt32.le_iff_toNat_le.2 (by omega)), hcount] at h
        omega

variable {m : LiveMatch}

/-- What both sessions have heard by the end of a match. -/
theorem Prompt.heard_all {K : Ledger → DeliveryContext → Prop} {ledger : Ledger} {live : LiveScenario}
    (h : m.Prompt K .begun ledger live)
    (hticks : m.frames + m.network.longestDelay ≤ live.tickIndex.toNat) (id : PlayerId) {j : ℕ}
    (hj : j < m.frames) : j ∈ ledger.heard.of id := by
  obtain ⟨now, -, hconveyed⟩ := h.conveyed
  refine hconveyed.attends.hearing.heard_all id (hj.trans_le ?_)
  rw [simulated]
  omega

theorem undiverged_kept (hsame : m.SameHashes) : m.Keeps fun _ => Undiverged where
  quiet _ _ _ hquiet h := h.quiet hquiet
  say _ _ _ _ _ h := h
  receive t ledger context next receiver s packet hhearing hs hst hlate htells hsaid h hreceive := by
    have hnext := hhearing.peers.receive_undiverged hsame htells (m.simulated_le t)
      (hsaid.2.trans (m.simulated_le s)) (LiveMatch.reached hst) h
    rw [hreceive] at hnext
    exact hnext

/-- Within 89 ticks no input becomes too old for a window of 120 frames. -/
theorem not_tooLate (hwindow : ∀ id, (m.session.of id).maxRollbackFrames.toNat = 120)
    (hlongest : m.network.longestDelay ≤ 89) : ¬m.TooLate := by
  rintro ⟨id, s, j, -, ⟨hlt, hlatest⟩, hfar⟩
  rw [hwindow, simulated] at hfar
  rw [simulated] at hlt hlatest
  omega

theorem first_undiverged (m : LiveMatch) : Undiverged m.first.context := by
  refine ⟨fun id => ?_, rfl⟩
  cases id with
  | a => rfl
  | b => rfl

/-- Once all inputs have been heard, the verdict finds both sessions settled. -/
theorem Prompt.settled {K : Ledger → DeliveryContext → Prop} {live : LiveScenario} {ledger : Ledger}
    (hprompt : m.Prompt K .begun ledger live)
    (hticks : m.frames + m.network.longestDelay ≤ live.tickIndex.toNat) :
    ∃ peers : Sides RollbackSession,
      live.finalize =
          (({ live with context := { live.context with peer := peers } } : LiveScenario).judged.judge,
            ({ live with context := { live.context with peer := peers } } : LiveScenario).judged) ∧
        m.Settled peers := by
  obtain ⟨now, -, hconveyed⟩ := hprompt.conveyed
  have hpeers := hconveyed.attends.hearing.peers
  rw [show m.simulated live.tickIndex.toNat = m.frames from min_eq_right (by omega)] at hpeers
  obtain ⟨peers, hfinal, hafter⟩ := exists_verdict hpeers
  refine ⟨peers, hfinal, fun id => ?_⟩
  obtain ⟨c, hpays⟩ := hafter.pays id
  have hle := hpays.hears.follows.confirmed_le
  have hge := hpays.hears.le_confirmed (hafter.clean id) le_rfl fun j hj => hprompt.heard_all hticks id hj
  obtain rfl : c = m.frames := by omega
  exact hpays.hears.follows

/-- Then the verdict on a match by the canonical rules is a success. -/
theorem ending_heard {live : LiveScenario} {ledger : Ledger}
    (htruthful : m.Truthful .begun none live)
    (hprompt : m.Prompt (fun _ => Undiverged) .begun ledger live)
    (hcanonical : ∀ id, (m.session.of id).variant = .canonical)
    (hopen : live.failure = none ∧ live.finished = false)
    (hticks : m.frames + m.network.longestDelay ≤ live.tickIndex.toNat) :
    live.ending.Converged ∧ m.Settled live.ending.context.peer ∧
      live.ending.report.finalHashA = live.ending.context.peer.a.report.finalHash ∧
      live.ending.report.finalHashB = live.ending.context.peer.b.report.finalHash := by
  obtain ⟨peers, hfinal, hsettled⟩ := hprompt.settled hticks
  obtain ⟨now, -, hconveyed⟩ := hprompt.conveyed
  obtain ⟨hgood, hpeer, hreport⟩ := ending_settled htruthful hcanonical hconveyed.attends.kept
    (by omega) hopen hfinal hsettled
  rw [hpeer, hreport]
  refine ⟨hgood, hsettled, ?_, ?_⟩
  · rw [LiveScenario.buildReport]
  · rw [LiveScenario.buildReport]

/-- A match by the canonical rules converges when nothing is lost and no input is too late. -/
theorem converges (hm : m.LosesNothing) (hnever : ¬m.TooLate)
    (hcanonical : ∀ id, (m.session.of id).variant = .canonical)
    (hticks : m.frames + m.network.longestDelay ≤ totalTicks m.config) :
    (∀ n < totalTicks m.config, (LiveScenario.play m.presses m.first n).Open) ∧
      let last := LiveScenario.play m.presses m.first (totalTicks m.config)
      last.Converged ∧ m.Settled last.context.peer ∧
        last.report.finalHashA = last.context.peer.a.report.finalHash ∧
        last.report.finalHashB = last.context.peer.b.report.finalHash := by
  have hsame : m.SameHashes := fun id k _ => by rw [hcanonical, hcanonical]
  have hplay := fun n hn => (m.promptRule _ (undiverged_kept hsame) hm).play m.pressed
    ⟨m.first_truthful, _, m.first_prompt m.first_undiverged⟩ ⟨rfl, rfl⟩ rfl m.room (n := n) hn
  refine ⟨fun n hn => ?_, ?_⟩
  · rcases hplay n hn.le with ⟨_, _, ⟨-, hlate⟩, -⟩ | ⟨-, -, hopen, -⟩ | ⟨heq, -⟩
    · exact absurd hlate hnever
    · exact hopen
    · omega
  · rcases hplay _ le_rfl with ⟨_, _, ⟨-, hlate⟩, -⟩ | ⟨hlt, -⟩ | ⟨-, live, hlive, hopen, htick, heq⟩
    · exact absurd hlate hnever
    · omega
    · obtain ⟨htruthful, ledger, hprompt⟩ := hlive
      rw [heq]
      exact ending_heard htruthful hprompt hcanonical hopen (by omega)

/-- What a settled match has confirmed, and where it has come. -/
theorem Settled.verdict {peers : Sides RollbackSession} (h : m.Settled peers)
    (hcanonical : ∀ id, (m.session.of id).variant = .canonical) (id : PlayerId) :
    (peers.of id).metrics.confirmedFrame = ⟨m.config.frameCount⟩ ∧
      (peers.of id).report.finalHash = hashCanonical (m.script.worldAt .canonical m.frames) := by
  refine ⟨?_, ?_⟩
  · rw [(h id).confirmedFrame_eq]
    exact congrArg FrameNumber.mk UInt32.ofNat_toNat
  · rw [h.finalHash, hcanonical]

end LiveMatch

/-- A match over a transport that loses nothing ends well, if no packet takes more than 63
ticks: it does so after its last tick, with both sessions where the script leads to. -/
theorem lossless_match_converges {config : ScenarioRunConfig} {presses : ℕ → Option UInt8}
    (hpresses : ∀ t, ∀ buttons ∈ presses t, buttons ≤ 31)
    (hpositive : 1 ≤ config.frameCount) (hframes : config.frameCount ≤ 1000000)
    (htail : 32 ≤ config.tailRedundancyTicks) (htail' : config.tailRedundancyTicks ≤ 4096)
    (hloss : config.transport.lossPercent = 0) (hburst : config.transport.burstLossPercent = 0)
    (hreorder : config.transport.reorderPercent ≤ 100)
    (hduplicate : config.transport.duplicatePercent ≤ 100)
    (hdelay : config.transport.baseLatencyTicks.toNat + 2 * config.transport.jitterTicks.toNat + 2 ≤ 63)
    (hpackets : 256 ≤ config.transport.maxQueuePackets)
    (hbytes : 256 * 1200 ≤ config.transport.maxQueueBytes)
    (hbandwidth : 256 * 1200 ≤ config.transport.bandwidthBytesPerTick)
    (hage : 63 ≤ config.transport.maxPacketAgeTicks) :
    ∃ first, LiveScenario.create config (.create { localPeer := .a }) (.create { localPeer := .b }) =
        .ok first ∧
      (∀ n < totalTicks config, (LiveScenario.play presses first n).Open) ∧
      let last := LiveScenario.play presses first (totalTicks config)
      last.Converged ∧ (∀ id, (last.context.peer.of id).metrics.confirmedFrame = ⟨config.frameCount⟩) ∧
        ∃ world, simulateAll .canonical makeInitialWorld
            ((config.script presses).pairs config.frameCount.toNat) = .ok world ∧
          last.report.finalHashA = hashCanonical world ∧
          last.report.finalHashB = hashCanonical world := by
  obtain ⟨m, rfl, hsession, rfl, hcreate⟩ :=
    LiveMatch.exists_newMatch .canonical hpresses hpositive hframes htail'
  have hcanonical : ∀ id, (m.session.of id).variant = .canonical :=
    hsession ▸ LiveMatch.newSessions_canonical
  have hwindow : ∀ id, (m.session.of id).maxRollbackFrames.toNat = 120 :=
    hsession ▸ LiveMatch.newSessions_window .canonical
  have hlongest : m.network.longestDelay ≤ 63 := @TransportConfig.longestDelay_le m.network _ hdelay
  rw [UInt32.le_iff_toNat_le] at hframes htail htail' hage
  have hframes' : m.frames ≤ 1000000 := hframes
  have htail32 : 32 ≤ m.config.tailRedundancyTicks.toNat := htail
  have htail4096 : m.config.tailRedundancyTicks.toNat ≤ 4096 := htail'
  have hm : m.LosesNothing := by
    refine ⟨.of_room hloss hburst hreorder hduplicate hlongest hpackets hbytes hbandwidth hage, ?_,
      by omega⟩
    have hsends : sendingTicks m.config = m.frames + m.config.tailRedundancyTicks.toNat := rfl
    omega
  have hticks : totalTicks m.config = m.frames + m.config.tailRedundancyTicks.toNat + 32 := rfl
  obtain ⟨hopen, hgood, hsettled, hhashA, hhashB⟩ :=
    LiveMatch.converges hm (LiveMatch.not_tooLate hwindow (by omega)) hcanonical (by omega)
  refine ⟨m.first, hcreate, hopen, hgood, fun id => (hsettled.verdict hcanonical id).1,
    m.script.worldAt .canonical m.frames, m.script.world_eq .canonical m.frames_lt, ?_, ?_⟩
  · rw [hhashA]
    exact (hsettled.verdict hcanonical .a).2
  · rw [hhashB]
    exact (hsettled.verdict hcanonical .b).2

/-- Ten seconds over a transport that delays, reorders and duplicates as much as it may. -/
def jitteryConfig : ScenarioRunConfig :=
  { frameCount := 600
    tailRedundancyTicks := 32
    transport :=
      { baseLatencyTicks := 21, jitterTicks := 20, reorderPercent := 100, duplicatePercent := 100 } }

theorem lossless_match_converges_jittery : ∃ first,
    LiveScenario.create jitteryConfig (.create { localPeer := .a }) (.create { localPeer := .b }) =
        .ok first ∧
      (LiveScenario.play (fun _ => some 6) first (totalTicks jitteryConfig)).Converged := by
  obtain ⟨first, hcreate, -, hgood, -⟩ := @lossless_match_converges jitteryConfig (fun _ => some 6)
    (fun _ buttons hbuttons => by cases hbuttons; decide) (by decide) (by decide) (by decide) (by decide)
    rfl rfl (by decide) (by decide) (by decide) (by decide) (by decide) (by decide) (by decide)
  exact ⟨first, hcreate, hgood⟩

end RollbackLab
