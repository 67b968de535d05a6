import RollbackLab.LosslessConvergence

/-!
# Constant latency

Over a transport with a constant latency every packet comes after just so many ticks. But
with the newest input of its sender it repeats 31 older ones, and one of these may be too
old for the rollback window although the window is wider than the latency.
-/

namespace RollbackLab

open LiveScenario (sendingTicks totalTicks)

namespace LiveScenario

/-! ## Running to the end -/

theorem finalize_failure {live next : LiveScenario} {finished : Bool}
    (h : live.finalize = (.ok finished, next)) : next.failure = live.failure := by
  obtain ⟨_, peerA, _, peerB, -, -, ⟨error, hfinal, -⟩ | ⟨-, hfinal⟩⟩ := live.finalize_cases
  · rw [hfinal] at h
    cases h
  · rw [hfinal, Prod.mk.injEq] at h
    rw [← h.2]
    rfl

theorem stepOnce_failure {live next : LiveScenario} {press : Option UInt8} {finished : Bool}
    (h : live.stepOnce press = (.ok finished, next)) : next.failure = live.failure := by
  have hclock := live.clearCorrections_clock.trans (live.clearCorrections.tickOnce_clock press)
  rw [stepOnce] at h
  rcases htick : live.clearCorrections.tickOnce press with ⟨error | _, ticked⟩
  · rw [htick] at h
    cases h
  rw [htick] at h hclock
  have hfailure : ticked.failure = live.failure := hclock.failure
  dsimp only at h
  split at h
  · exact (finalize_failure h).trans hfailure
  · rw [Prod.mk.injEq] at h
    rw [← h.2]
    exact hfailure

/-- A step of an open scenario reports what it leaves on record. -/
theorem step_reports {live : LiveScenario} {press : Option UInt8} (h : live.Open)
    (hpress : ¬Refused press) :
    (∃ error, (live.step press).1 = .error error ∧ (live.step press).2.failure = some error) ∨
      ∃ finished, (live.step press).1 = .ok finished ∧ (live.step press).2.failure = none ∧
        (live.step press).2.finished = finished := by
  rw [step, h.1]
  dsimp only
  rw [h.2, if_neg Bool.false_ne_true, if_neg (fun hany => hpress (any_refused.1 hany))]
  rcases hstep : live.stepOnce press with ⟨error | finished, next⟩
  · exact Or.inl ⟨error, rfl, rfl⟩
  · refine Or.inr ⟨finished, rfl, ?_, rfl⟩
    exact (stepOnce_failure hstep).trans h.1

theorem play_closed {presses : ℕ → Option UInt8} {live : LiveScenario} (h : ¬live.Open) (n : ℕ) :
    play presses live n = live := by
  induction n with
  | zero => rfl
  | succ n ih => rw [play, ih, step_idle fun hactive => h hactive.1]

theorem play_succ (presses : ℕ → Option UInt8) (live : LiveScenario) (n : ℕ) :
    play presses live (n + 1) = play (fun t => presses (t + 1)) (live.step (presses 0)).2 n := by
  induction n with
  | zero => rfl
  | succ n ih => rw [play, ih, play]

/-- Stepping up to the given number of times returns what these steps lead to. -/
theorem runSteps_play {live : LiveScenario} (h : live.Open) (rounds : ℕ) :
    let last := play (fun _ => none) live rounds
    (∀ error, last.failure = some error → live.runSteps rounds = .error error) ∧
      (last.failure = none → last.finished = true → live.runSteps rounds = .ok last.artifacts) := by
  induction rounds generalizing live with
  | zero =>
    refine ⟨fun error hfailure => ?_, fun _ hfinished => ?_⟩
    · rw [play, h.1] at hfailure
      cases hfailure
    · rw [play, h.2] at hfinished
      cases hfinished
  | succ rounds ih =>
    have hnone : ¬Refused none := fun hrefused => by
      obtain ⟨buttons, hmem, -⟩ := hrefused
      cases hmem
    have hreports := step_reports h hnone
    rw [play_succ, runSteps]
    rcases hstep : live.step none with ⟨result, next⟩
    rw [hstep] at hreports
    rcases hreports with ⟨error, rfl, hfailure⟩ | ⟨finished, rfl, hfailure, hfinished⟩
    · have hclosed : ¬next.Open := fun hopen => by
        rw [hopen.1] at hfailure
        cases hfailure
      rw [play_closed hclosed]
      refine ⟨fun other hother => ?_, fun hfine => ?_⟩
      · rw [hfailure] at hother
        cases hother
        rfl
      · rw [hfine] at hfailure
        cases hfailure
    · cases finished with
      | true =>
        have hclosed : ¬next.Open := fun hopen => by
          rw [hopen.2] at hfinished
          cases hfinished
        rw [play_closed hclosed]
        refine ⟨fun other hother => ?_, fun _ _ => rfl⟩
        rw [hfailure] at hother
        cases hother
      | false => exact ih ⟨hfailure, hfinished⟩

end LiveScenario

namespace LiveMatch

/-! ## The oldest input of a packet -/

variable {m : LiveMatch}

/-- Once a match of more than 120 frames has begun, the packets of its 32nd tick would have
to be taken within 89 ticks. -/
theorem Prompt.soon {K : Ledger → DeliveryContext → Prop} {ledger : Ledger} {live : LiveScenario}
    (h : m.Prompt K .begun ledger live)
    (hwindow : ∀ id, (m.session.of id).maxRollbackFrames.toNat = 120)
    (hconstant : m.network.shortestDelay = m.network.longestDelay)
    (hticks : 31 + m.network.longestDelay < live.tickIndex.toNat)
    (hsends : 31 < sendingTicks m.config) :
    m.network.longestDelay ≤ 89 ∨ m.frames ≤ 120 := by
  obtain ⟨now, -, hconveyed⟩ := h.conveyed
  have hhearing := hconveyed.attends.hearing
  by_contra hlong
  have hnear := hhearing.near .a 31 (hhearing.arrived .a 31 hsends hticks) 0 (by
    rw [simulated, Latest]
    omega)
  rw [hwindow, hconstant, simulated] at hnear
  omega

end LiveMatch

/-- A scenario by the canonical rules, over a transport that only delays, by no more ticks than
the rollback window has frames, and has room for every packet. -/
structure SteadyScenario (config : ScenarioRunConfig) : Prop where
  canonical : config.peerBVariant = .canonical
  positive : 1 ≤ config.frameCount
  frames : config.frameCount ≤ 1000000
  tail : 128 ≤ config.tailRedundancyTicks
  tail_le : config.tailRedundancyTicks ≤ 4096
  latency : config.transport.baseLatencyTicks ≤ kDefaultMaxRollbackFrames
  jitter : config.transport.jitterTicks = 0
  loss : config.transport.lossPercent = 0
  burst : config.transport.burstLossPercent = 0
  reorder : config.transport.reorderPercent = 0
  duplicate : config.transport.duplicatePercent = 0
  packets : 2 * (config.transport.baseLatencyTicks.toNat + 1) ≤ config.transport.maxQueuePackets
  bytes : 2 * (config.transport.baseLatencyTicks.toNat + 1) * kMaxPacketBytes ≤
    config.transport.maxQueueBytes
  bandwidth : 2 * kMaxPacketBytes ≤ config.transport.bandwidthBytesPerTick
  age : config.transport.baseLatencyTicks ≤ config.transport.maxPacketAgeTicks

namespace SteadyScenario

variable {config : ScenarioRunConfig}

/-- The match that a steady scenario plays without a player. -/
theorem exists_match (h : SteadyScenario config) : ∃ m : LiveMatch, m.config = config ∧
    m.session = LiveMatch.newSessions .canonical ∧ m.LosesNothing ∧
    m.network.longestDelay = config.transport.baseLatencyTicks.toNat ∧
    m.network.shortestDelay = m.network.longestDelay ∧
    m.presses = (fun _ => none) ∧
    runSeededScenario config = m.first.runSteps (totalTicks config) := by
  obtain ⟨m, rfl, hsession, hpresses, hcreate⟩ := @LiveMatch.exists_newMatch config
    (fun _ => none) .canonical (fun _ buttons hbuttons => by cases hbuttons) h.positive
    h.frames h.tail_le
  have hroom := m.room
  have hzero : (0 : UInt32).toNat = 0 := rfl
  have hjitter : m.config.transport.jitterTicks.toNat = 0 := by
    rw [h.jitter, hzero]
  have hlongest : m.network.longestDelay = m.config.transport.baseLatencyTicks.toNat := by
    rw [TransportConfig.longestDelay, if_pos (show m.network.reorderPercent = 0 from h.reorder)]
    exact congrArg (m.config.transport.baseLatencyTicks.toNat + ·) hjitter
  have hshortest : m.network.shortestDelay = m.config.transport.baseLatencyTicks.toNat := by
    rw [TransportConfig.shortestDelay]
    change m.config.transport.baseLatencyTicks.toNat - m.config.transport.jitterTicks.toNat = _
    rw [hjitter, Nat.sub_zero]
  have hcopies : m.network.copies = 1 := if_pos h.duplicate
  have hreorder : m.network.reorderPercent = 0 := h.reorder
  have hduplicate : m.network.duplicatePercent = 0 := h.duplicate
  have hlatency : m.config.transport.baseLatencyTicks.toNat ≤ 120 := UInt32.le_iff_toNat_le.1 h.latency
  have hframes : m.config.frameCount.toNat ≤ 1000000 := UInt32.le_iff_toNat_le.1 h.frames
  have htail : m.config.tailRedundancyTicks.toNat ≤ 4096 := UInt32.le_iff_toNat_le.1 h.tail_le
  refine ⟨m, rfl, hsession, ⟨⟨h.loss, h.burst, ?_, ?_, ?_, ?_, ?_, ?_⟩, ?_, ?_⟩, hlongest,
    hshortest.trans hlongest.symm, hpresses, ?_⟩
  · rw [hreorder]
    decide
  · rw [hduplicate]
    decide
  · rw [hcopies, hlongest]
    exact h.packets
  · rw [hcopies, hlongest]
    exact h.bytes
  · rw [hcopies, hlongest, hshortest, Nat.add_sub_cancel_left]
    exact h.bandwidth
  · rw [hlongest]
    exact UInt32.le_iff_toNat_le.1 h.age
  · rw [hlongest, sendingTicks]
    omega
  · omega
  · rw [runSeededScenario, h.canonical, ← LiveScenario.toNat_totalTicks hroom]
    rw [hcreate]
    rfl

/-- What is needed for every input to come in time. -/
def InTime (config : ScenarioRunConfig) : Prop :=
  config.transport.baseLatencyTicks ≤ 89 ∨ config.frameCount ≤ 120

theorem succeeds (h : SteadyScenario config) (hintime : InTime config) :
    ∃ artifacts, runSeededScenario config = .ok artifacts ∧ artifacts.report.success = true := by
  obtain ⟨m, rfl, hsession, hm, hlongest, -, hpresses, hrun⟩ := h.exists_match
  have hwindow : ∀ id, (m.session.of id).maxRollbackFrames.toNat = 120 :=
    hsession ▸ LiveMatch.newSessions_window .canonical
  have hlatency : m.network.longestDelay ≤ 120 := hlongest ▸ UInt32.le_iff_toNat_le.1 h.latency
  have htail : 128 ≤ m.config.tailRedundancyTicks.toNat := UInt32.le_iff_toNat_le.1 h.tail
  have hnever : ¬m.TooLate := by
    rcases hintime with hsoon | hshort
    · exact LiveMatch.not_tooLate hwindow (hlongest ▸ UInt32.le_iff_toNat_le.1 hsoon)
    · rintro ⟨id, s, j, -, -, hfar⟩
      have hframes : m.frames ≤ 120 := UInt32.le_iff_toNat_le.1 hshort
      have hle := m.simulated_le (s + m.network.longestDelay)
      rw [hwindow] at hfar
      omega
  have hticks : totalTicks m.config = m.frames + m.config.tailRedundancyTicks.toNat + 32 := rfl
  obtain ⟨-, hgood, -⟩ := LiveMatch.converges hm hnever (hsession ▸ LiveMatch.newSessions_canonical)
    (by omega)
  rw [hpresses] at hgood
  rw [hrun, (LiveScenario.runSteps_play ⟨rfl, rfl⟩ _).2 hgood.failure hgood.finished]
  exact ⟨_, rfl, hgood.success⟩

/-- Otherwise the packets of the 32nd tick come too late, if none has before. -/
theorem fails (h : SteadyScenario config) (hlate : ¬InTime config) :
    ∃ error, runSeededScenario config = .error error ∧ error.code = .rollbackWindowExceeded := by
  obtain ⟨m, rfl, hsession, hm, hlongest, hconstant, hpresses, hrun⟩ := h.exists_match
  have hlatency : m.network.longestDelay ≤ 120 := hlongest ▸ UInt32.le_iff_toNat_le.1 h.latency
  have htail : 128 ≤ m.config.tailRedundancyTicks.toNat := UInt32.le_iff_toNat_le.1 h.tail
  have hsends : sendingTicks m.config = m.frames + m.config.tailRedundancyTicks.toNat := rfl
  have hticks : totalTicks m.config = m.frames + m.config.tailRedundancyTicks.toNat + 32 := rfl
  have hplay := (m.promptRule _ LiveMatch.Keeps.nothing hm).play m.pressed
    ⟨m.first_truthful, _, m.first_prompt trivial⟩ ⟨rfl, rfl⟩ rfl m.room le_rfl
  rw [hpresses] at hplay
  rcases hplay with ⟨live, error, ⟨hcode, -⟩, -, heq⟩ | ⟨hlt, -⟩ | ⟨-, live, hlive, -, htick, -⟩
  · rw [hrun, (LiveScenario.runSteps_play ⟨rfl, rfl⟩ _).1 error (by rw [heq])]
    exact ⟨error, rfl, hcode⟩
  · omega
  · obtain ⟨-, ledger, hprompt⟩ := hlive
    have hsoon := hprompt.soon (hsession ▸ LiveMatch.newSessions_window .canonical) hconstant
      (by omega) (by omega)
    refine absurd (hsoon.imp (fun hle => ?_) fun hle => ?_) hlate
    · exact UInt32.le_iff_toNat_le.2 (hlongest ▸ hle)
    · exact UInt32.le_iff_toNat_le.2 hle

end SteadyScenario

/-- A constant latency is tolerated up to 89 ticks, since a packet repeats 31 older inputs; a
match of up to 120 frames tolerates any. -/
theorem constant_latency_verdict {config : ScenarioRunConfig} (h : SteadyScenario config) :
    (SteadyScenario.InTime config → ∃ artifacts, runSeededScenario config = .ok artifacts ∧
      artifacts.report.success = true) ∧
    (¬SteadyScenario.InTime config → ∃ error, runSeededScenario config = .error error ∧
      error.code = .rollbackWindowExceeded) :=
  ⟨h.succeeds, h.fails⟩

/-- A latency of 90 ticks, well inside the rollback window of 120 frames. -/
def lateConfig : ScenarioRunConfig :=
  { frameCount := 121, tailRedundancyTicks := 128, transport := { baseLatencyTicks := 90 } }

theorem lateConfig_steady : SteadyScenario lateConfig := by
  constructor
  all_goals decide

theorem constant_latency_verdict_late :
    (∃ error, runSeededScenario lateConfig = .error error ∧ error.code = .rollbackWindowExceeded) :=
  (constant_latency_verdict lateConfig_steady).2 (by rw [SteadyScenario.InTime]; decide)

/-- Not every constant latency inside the rollback window is tolerated. -/
theorem latency_not_tolerated : ¬∀ config, SteadyScenario config →
    ∃ artifacts, runSeededScenario config = .ok artifacts := by
  intro hall
  obtain ⟨artifacts, hok⟩ := hall lateConfig lateConfig_steady
  obtain ⟨error, herror, -⟩ := lateConfig_steady.fails (by rw [SteadyScenario.InTime]; decide)
  rw [hok] at herror
  cases herror

end RollbackLab
