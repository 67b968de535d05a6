import RollbackLab.PeerAgreement
import RollbackLab.PromptPeer

/-!
# Two peers over a prompt network

Two peers take turns, and before every step the latest datagram of the partner is among
those that are taken; whatever else the network repeats does not matter. Then both peers
finish, within as many rounds as the match has frames and nineteen more.
-/

namespace RollbackLab

namespace PeerDriver

open PeerRuntime

/-- How far a driver is after `j` steps when it shakes hands for `o` of them, by phase: it has
sent `k` input packets and taken `s`. -/
inductive Stage (config : PeerConfig) (sc : SessionConfig) (o j k s : ℕ) (driver : PeerDriver) : Prop
  | greeting (hj : j < o) (hphase : driver.observation.phase = .handshake) (hk : k = 0) (hs : s = 0)
      (hkeen : Keen config sc 0 0 0 0 driver.runtime) (hnext : driver.runtime.nextSequence = 2)
      (hprogress : driver.finalDrainProgress = 0)
  | running {c : ℕ} (hj : o ≤ j) (hphase : driver.observation.phase = .running)
      (hn : j - o < config.frameCount.toNat) (hk : k = j - o)
      (hkeen : Keen config sc (j - o) c (j - 2) s driver.runtime)
      (hnext : driver.runtime.nextSequence = UInt32.ofNat (k + 2))
      (hprogress : driver.finalDrainProgress = 0)
  | confirming {c : ℕ} (hj : o + config.frameCount.toNat ≤ j)
      (hphase : driver.observation.phase = .confirming) (hk : k = j - o)
      (hkeen : Keen config sc config.frameCount.toNat c (min (j - 2) config.frameCount.toNat) s
        driver.runtime)
      (hnext : driver.runtime.nextSequence = UInt32.ofNat (k + 2))
      (hfinal : config.frameCount.toNat + 4 ≤ j → driver.runtime.remoteFinalHash.isSome = true)
      (hprogress : j ≤ driver.finalDrainProgress.toNat + config.frameCount.toNat + 3)
      (hmore : driver.finalDrainProgress.toNat < 16)
      (hless : driver.finalDrainProgress.toNat + o + config.frameCount.toNat ≤ j)
  | finished (hj : o + config.frameCount.toNat + 16 ≤ j) (hphase : driver.observation.phase = .finished)

/-- A driver that is on time after `j` steps. -/
structure Paced (config : PeerConfig) (sc : SessionConfig) (o j k s : ℕ) (driver : PeerDriver) :
    Prop where
  config_eq : driver.config = config
  hello : encodeHello config = .ok driver.hello
  working : driver.failure = none
  clock : driver.runStarted ≤ driver.lastElapsed
  stage : Stage config sc o j k s driver

/-- What a driver that is on time has sent after `j` steps. -/
structure HasSent (config : PeerConfig) (variant : SimulationVariant) (o j k : ℕ) (sent : List Datagram) :
    Prop where
  spoken : ∃ c, Spoken config variant k (min (j - o) config.frameCount.toNat) c sent ∧
    (config.frameCount.toNat + 3 ≤ j → c = config.frameCount.toNat)
  empty : sent = [] ↔ j = 0
  count : k ≤ j - o ∧ k ≤ config.frameCount.toNat + 19

section Working

variable {config partner : PeerConfig} {sc : SessionConfig} {o j k s : ℕ} {driver : PeerDriver}
  {socket : UdpSocket} {sent : List Datagram}

/-- A socket without failures. -/
structure Quiet (socket : UdpSocket) : Prop where
  fresh : socket.sent = []
  sends : ∀ e, .error e ∉ socket.sendResults

theorem send_hello (hhello : encodeHello config = .ok driver.hello)
    (hsends : ∀ e, .error e ∉ socket.sendResults) (port : UInt16) :
    ∃ rest, socket.sendLoopback port driver.hello = (.ok (), rest) ∧
      rest.receiveResults = socket.receiveResults ∧
      rest.sent = socket.sent ++ [⟨driver.hello, port⟩] ∧ ∀ e, .error e ∉ rest.sendResults := by
  have hsend := socket.sendLoopback_outcome
    (by rw [length_encodeHello hhello]; omega : driver.hello.length ≤ 65507) port
  rcases hcall : socket.sendLoopback port driver.hello with ⟨e | _, rest⟩
  · exact absurd (hsend.of_error hcall).2 (hsends e)
  · obtain ⟨hreceive, hsent, htail⟩ := hsend.of_ok hcall
    exact ⟨rest, rfl, hreceive, hsent, fun e hmem => hsends e (List.mem_of_mem_tail (htail ▸ hmem))⟩

/-- Without a partner a driver keeps greeting. -/
theorem shakeHands_alone (hconfig : driver.config = config)
    (hhello : encodeHello config = .ok driver.hello) (hquiet : Quiet socket) {elapsed : UInt64}
    (htime : elapsed < config.handshakeTimeoutMilliseconds.toUInt64)
    (hcopies : Copies config [] socket.receiveResults) :
    ∃ rest, driver.shakeHands elapsed socket = (.ok (), driver, rest) ∧
      rest.sent = [⟨driver.hello, config.relayPort⟩] := by
  obtain rfl := hconfig
  obtain ⟨rest, hsend, hresults, hsent, -⟩ := send_hello hhello hquiet.sends driver.config.relayPort
  rw [shakeHands, if_neg (UInt64.not_le.2 htime), hsend]
  have hsilent : rest.receive.1 = .ok none := by
    rw [UdpSocket.receive, hresults]
    cases hall : socket.receiveResults with
    | nil => rfl
    | cons answer results =>
      rcases hcopies answer (by rw [hall]; exact List.mem_cons_self) with rfl | ⟨_, -, -, _, hmem, -⟩
      · rfl
      · cases hmem
  have hanswer : rest.receive = (.ok none, rest.receive.2) := Prod.ext hsilent rfl
  dsimp only
  rw [hanswer]
  refine ⟨_, rfl, ?_⟩
  rw [show rest.receive.2.sent = _ from hsent, hquiet.fresh]
  rfl

/-- A hello of the partner starts the match. -/
theorem shakeHands_greeted (hconfig : driver.config = config)
    (hhello : encodeHello config = .ok driver.hello) (hpaired : Paired config sc partner)
    (hquiet : Quiet socket) {elapsed : UInt64}
    (htime : elapsed < config.handshakeTimeoutMilliseconds.toUInt64) {variant : SimulationVariant}
    {m c : ℕ} (hspoken : Spoken partner variant 0 m c sent)
    (hcopies : Copies config sent socket.receiveResults) (htakes : TakesLast sent socket.receiveResults) :
    ∃ rest, driver.shakeHands elapsed socket = (.ok (),
        { driver with
          observation := { driver.observation with phase := .running, handshakeComplete := true }
          runStarted := elapsed }, rest) ∧
      rest.sent = [⟨driver.hello, config.relayPort⟩, ⟨driver.hello, config.relayPort⟩] := by
  obtain rfl := hconfig
  obtain ⟨rest, hsend, hresults, hsent, hsends⟩ := send_hello hhello hquiet.sends driver.config.relayPort
  rw [shakeHands, if_neg (UInt64.not_le.2 htime), hsend]
  obtain ⟨taken, htaken, -⟩ := htakes
  obtain ⟨datagram, results, hall⟩ : ∃ datagram results,
      socket.receiveResults = .ok (some datagram) :: results := by
    revert htaken
    cases socket.receiveResults with
    | nil => exact fun h => absurd h List.not_mem_nil
    | cons answer results =>
      rcases answer with e | _ | datagram
      · exact fun h => absurd h List.not_mem_nil
      · exact fun h => absurd h List.not_mem_nil
      · exact fun _ => ⟨datagram, results, rfl⟩
  rcases hcopies _ (by rw [hall]; exact List.mem_cons_self) with hnone | ⟨_, heq, hrelayed, other, hmem, hbytes⟩
  · cases hnone
  cases heq
  have hgreeting : encodeHello partner = .ok datagram.bytes := by
    rcases hspoken.known other hmem with hgreeting | ⟨i, m, c, hi, -⟩
    · rwa [hbytes]
    · omega
  obtain ⟨packet, hdecode, hvalid⟩ := hpaired.welcome _ hgreeting
  have hanswer : rest.receive = (.ok (some datagram), { rest with receiveResults := results }) := by
    rw [UdpSocket.receive, hresults, hall]
    rfl
  obtain ⟨last, hagain, -, hlast, -⟩ :=
    @send_hello driver.config driver { rest with receiveResults := results } hhello hsends
      driver.config.relayPort
  dsimp only
  rw [hanswer]
  dsimp only
  rw [decodeDatagram_relayed fun h => h.2 hrelayed, hdecode]
  dsimp only
  rw [hvalid]
  dsimp only
  rw [hagain]
  refine ⟨last, rfl, ?_⟩
  rw [hlast, show rest.sent = _ from hsent, hquiet.fresh]
  rfl

/-- What a working step leaves as it is. -/
structure Continues (driver next : PeerDriver) : Prop where
  config_eq : next.config = driver.config
  hello : next.hello = driver.hello
  failure : next.failure = driver.failure
  lastElapsed : next.lastElapsed = driver.lastElapsed
  runStarted : next.runStarted = driver.runStarted

section Match

variable {n c h m c' k' : ℕ}

/-- A frame of the match. -/
theorem runFrame_prompt (hconfig : driver.config = config) (hpaired : Paired config sc partner)
    (hkeen : Keen config sc n c h s driver.runtime) (hn : n < config.frameCount.toNat)
    (hnext : driver.runtime.nextSequence = UInt32.ofNat (k + 2)) (hquiet : Quiet socket)
    (hahead : Ahead config partner sc.variant n h s m c' k' socket.receiveResults) :
    ∃ next d datagram rest, driver.runFrame socket = (.ok (), next, rest) ∧ Continues driver next ∧
      Keen config sc (n + 1) d m k' next.runtime ∧
      next.runtime.nextSequence = UInt32.ofNat (k + 3) ∧
      Utters config sc.variant k (n + 1) d datagram.bytes ∧ rest.sent = [datagram] ∧
      next.finalDrainProgress = driver.finalDrainProgress ∧
      next.observation.phase =
        if n + 1 = config.frameCount.toNat then .confirming else driver.observation.phase := by
  have hsmall := hpaired.small
  obtain rfl := hconfig
  obtain ⟨runtime, d, rest, hdrain, hcaught, hsent, hresults⟩ := hkeen.drain hpaired hahead
  have hheard := hcaught.keen
  obtain ⟨result, session, d', hadvance, -, hclean, -, hpays⟩ :=
    hheard.pays.advance (by omega) hheard.clean
  have hloc : scriptedInput driver.config.scenarioSeed runtime.session.report.state.frame
      driver.config.id = driver.config.script.input sc.localPeer runtime.session.state.frame := by
    rw [hpaired.localPeer]
    rfl
  have hlocals : runtime.localHistory ++
      [driver.config.script.input sc.localPeer runtime.session.state.frame] =
        driver.config.script.locals driver.config.id (n + 1) := by
    rw [hheard.attends.history, InputScript.locals_succ, hheard.attends.follows.frame_eq,
      hpaired.localPeer]
  have hready : Keen driver.config sc (n + 1) d' m k' { runtime with
      session
      localHistory := driver.config.script.locals driver.config.id (n + 1) } :=
    ⟨⟨hpays.hears.follows, rfl, hheard.attends.final⟩, hpays, hclean, hheard.window⟩
  have hsends : ∀ e, .error e ∉ rest.sendResults := fun e hmem => hquiet.sends e (hresults ▸ hmem)
  obtain ⟨metrics, datagram, last, hsend, hutters, hlast, -⟩ :=
    hready.sendInputs hn hsmall (hcaught.sequence.trans hnext) hsends
  have hframe : session.report.state.frame = ⟨UInt32.ofNat (n + 1)⟩ := hpays.hears.follows.frame_eq
  have hdone : session.report.state.frame = ⟨driver.config.frameCount⟩ ↔
      n + 1 = driver.config.frameCount.toNat := by
    rw [hframe, FrameNumber.mk.injEq, ← UInt32.toNat_inj,
      UInt32.toNat_ofNat_of_lt' (by simp only [UInt32.size]; omega)]
  have hfinal : Keen driver.config sc (n + 1) d' m k' { runtime with
      session
      localHistory := driver.config.script.locals driver.config.id (n + 1)
      nextSequence := UInt32.ofNat (k + 3)
      metrics } :=
    ⟨⟨hpays.hears.follows, rfl, hheard.attends.final⟩, hpays, hclean, hheard.window⟩
  rw [runFrame, hdrain]
  dsimp only
  rw [hloc, hadvance, hlocals]
  dsimp only
  rw [hsend]
  dsimp only
  have hsingle : last.sent = [datagram] := by
    rw [hlast, hsent, hquiet.fresh]
    rfl
  by_cases hend : n + 1 = driver.config.frameCount.toNat
  · rw [if_pos (hdone.2 hend), if_pos hend]
    exact ⟨_, d', datagram, last, rfl, ⟨rfl, rfl, rfl, rfl, rfl⟩, hfinal, rfl, hutters, hsingle, rfl, rfl⟩
  · rw [if_neg (fun h => hend (hdone.1 h)), if_neg hend]
    exact ⟨_, d', datagram, last, rfl, ⟨rfl, rfl, rfl, rfl, rfl⟩, hfinal, rfl, hutters, hsingle, rfl, rfl⟩

/-- Both final hashes are known. -/
def Ready (config : PeerConfig) (d : ℕ) (runtime : PeerRuntime) : Prop :=
  d = config.frameCount.toNat ∧ runtime.remoteFinalHash.isSome = true

/-- A step after the last frame counts while both final hashes are known. -/
theorem confirmFinal_prompt (hconfig : driver.config = config) (hpaired : Paired config sc partner)
    (hkeen : Keen config sc config.frameCount.toNat c h s driver.runtime)
    (hphase : driver.observation.phase = .confirming)
    (hnext : driver.runtime.nextSequence = UInt32.ofNat (k + 2)) (hquiet : Quiet socket)
    (hahead : Ahead config partner sc.variant config.frameCount.toNat h s m c' k'
      socket.receiveResults) :
    ∃ next d datagram rest, driver.confirmFinal socket = (.ok (), next, rest) ∧ Continues driver next ∧
      Caught config sc config.frameCount.toNat c m k' (s + 1 = k' ∧ c' = config.frameCount.toNat)
        { driver.runtime with nextSequence := UInt32.ofNat (k + 3) } d next.runtime ∧
      Utters config sc.variant k config.frameCount.toNat c datagram.bytes ∧ rest.sent = [datagram] ∧
      (¬ Ready config d next.runtime ∧ next.finalDrainProgress = 0 ∧
          next.observation.phase = .confirming ∨
        Ready config d next.runtime ∧ next.finalDrainProgress = driver.finalDrainProgress + 1 ∧
          next.observation.phase =
            if 16 ≤ next.finalDrainProgress then .finished else .confirming) := by
  have hsmall := hpaired.small
  obtain rfl := hconfig
  obtain ⟨metrics, datagram, sent, hsend, hutters, hsent, hresults⟩ :=
    hkeen.sendInputs le_rfl hsmall hnext hquiet.sends
  have hstart : Keen driver.config sc driver.config.frameCount.toNat c h s
      { driver.runtime with nextSequence := UInt32.ofNat (k + 3), metrics } :=
    ⟨⟨hkeen.attends.follows, hkeen.attends.history, hkeen.attends.final⟩, hkeen.pays, hkeen.clean,
      hkeen.window⟩
  rw [← hresults] at hahead
  obtain ⟨runtime, d, rest, hdrain, hcaught, hlast, -⟩ := hstart.drain hpaired hahead
  have hready : Caught driver.config sc driver.config.frameCount.toNat c m k'
      (s + 1 = k' ∧ c' = driver.config.frameCount.toNat)
      { driver.runtime with nextSequence := UInt32.ofNat (k + 3) } d runtime :=
    ⟨hcaught.keen, hcaught.confirmed_le, hcaught.sequence, hcaught.kept, hcaught.noted⟩
  have hsingle : rest.sent = [datagram] := by
    rw [hlast, hsent, hquiet.fresh]
    rfl
  have hiff : (runtime.session.report.metrics.confirmedFrame = ⟨driver.config.frameCount⟩ ∧
      runtime.remoteFinalHash.isSome = true) ↔ Ready driver.config d runtime := by
    have hle := hcaught.keen.attends.follows.confirmed_le
    rw [show runtime.session.report.metrics.confirmedFrame = _ from
      hcaught.keen.attends.follows.confirmedFrame_eq, FrameNumber.mk.injEq, ← UInt32.toNat_inj,
      UInt32.toNat_ofNat_of_lt' (by simp only [UInt32.size]; omega), Ready]
  rw [confirmFinal, hsend]
  dsimp only
  rw [hdrain]
  dsimp only
  by_cases hknown : Ready driver.config d runtime
  · rw [if_pos (hiff.2 hknown)]
    by_cases hend : 16 ≤ driver.finalDrainProgress + 1
    · rw [if_pos hend]
      obtain ⟨rfl, hsome⟩ := id hknown
      obtain ⟨hash, hhash⟩ := Option.isSome_iff_exists.1 hsome
      rcases buildArtifacts_cases hsmall hcaught.keen.attends hhash with
        ⟨artifacts, hbuild, -⟩ | ⟨e, -, -, hvariant | hother⟩
      · rw [hbuild]
        exact ⟨_, _, datagram, rest, rfl, ⟨rfl, rfl, rfl, rfl, rfl⟩, hready, hutters, hsingle,
          Or.inr ⟨hknown, rfl, (if_pos hend).symm⟩⟩
      · exact absurd hpaired.canonical hvariant
      · exact absurd rfl hother
    · rw [if_neg hend]
      exact ⟨_, d, datagram, rest, rfl, ⟨rfl, rfl, rfl, rfl, rfl⟩, hready, hutters, hsingle,
        Or.inr ⟨hknown, rfl, hphase.trans (if_neg hend).symm⟩⟩
  · rw [if_neg fun h => hknown (hiff.1 h)]
    exact ⟨_, d, datagram, rest, rfl, ⟨rfl, rfl, rfl, rfl, rfl⟩, hready, hutters, hsingle,
      Or.inl ⟨hknown, rfl, hphase⟩⟩

end Match

/-! ## A step on time -/

theorem step_of_work {next : PeerDriver} {rest : UdpSocket} {elapsed : UInt64}
    (hworking : driver.failure = none) (hphase : driver.observation.phase ≠ .finished)
    (hclock : driver.lastElapsed ≤ elapsed)
    (hwork : (driver.accept elapsed).work elapsed socket = (.ok (), next, rest)) :
    driver.step elapsed socket = (.ok next.tick.observation, next.tick, rest) := by
  rw [step, hworking]
  dsimp only
  rw [if_neg hphase, if_neg (UInt64.not_lt.2 hclock), hwork]

theorem work_prompt (hconfig : driver.config = config) {elapsed : UInt64}
    (hphase : driver.observation.phase ≠ .handshake) (hclock : driver.runStarted ≤ elapsed)
    (htime : elapsed < config.runTimeoutMilliseconds.toUInt64) :
    (driver.accept elapsed).work elapsed socket =
      if driver.observation.phase = .running then (driver.accept elapsed).runFrame socket
      else (driver.accept elapsed).confirmFinal socket := by
  obtain rfl := hconfig
  have hsub : (elapsed - driver.runStarted).toNat = elapsed.toNat - driver.runStarted.toNat :=
    UInt64.toNat_sub_of_le _ _ hclock
  have hlt : elapsed - driver.runStarted < driver.config.runTimeoutMilliseconds.toUInt64 := by
    rw [UInt64.lt_iff_toNat_lt] at htime ⊢
    omega
  rw [work, if_neg (show ¬(driver.accept elapsed).observation.phase = .handshake from hphase), run]
  exact if_neg (UInt64.not_le.2 hlt)

/-- What a driver is handed before step `j + 1` when it is on time. -/
structure Handed (config partner : PeerConfig) (variant : SimulationVariant) (o j s k' : ℕ)
    (sent : List Datagram) (elapsed : UInt64) (socket : UdpSocket) : Prop where
  quiet : Quiet socket
  said : HasSent partner variant (3 - o) (j + 2 - o) k' sent
  copies : Copies config sent socket.receiveResults
  takes : sent ≠ [] → TakesLast sent socket.receiveResults
  handshake : elapsed < config.handshakeTimeoutMilliseconds.toUInt64
  run : elapsed < config.runTimeoutMilliseconds.toUInt64
  linked : s + 1 = k' ∨ s = k' ∧ (j ≤ 1 ∨ config.frameCount.toNat + 4 ≤ j)

/-- What a step on time leads to. -/
structure OnTime (config : PeerConfig) (sc : SessionConfig) (o j k k' : ℕ) (said : List Datagram)
    (elapsed : UInt64) (next : PeerDriver) (rest : UdpSocket) : Prop where
  paced : ∃ k'', Paced config sc o (j + 1) k'' k' next ∧
    HasSent config sc.variant o (j + 1) k'' (said ++ rest.sent) ∧
    (k + 1 = k'' ∨ k = k'' ∧ (j + 1 ≤ o ∨ o + config.frameCount.toNat + 16 ≤ j))
  clock : next.lastElapsed ≤ elapsed

variable {k' : ℕ} {said : List Datagram} {elapsed : UInt64}

theorem Paced.greet (h : Paced config sc o j k s driver) (hpaired : Paired config sc partner)
    (ho : o = 1 ∨ o = 2) (hpositive : 0 < config.frameCount.toNat)
    (hsaid : HasSent config sc.variant o j k said) (hclock : driver.lastElapsed ≤ elapsed)
    (hhanded : Handed config partner sc.variant o j s k' sent elapsed socket) (hj : j < o)
    (hphase : driver.observation.phase = .handshake) (hk : k = 0)
    (hkeen : Keen config sc 0 0 0 0 driver.runtime) (hnext : driver.runtime.nextSequence = 2)
    (hprogress : driver.finalDrainProgress = 0) :
    OnTime config sc o j k k' said elapsed (driver.step elapsed socket).2.1
      (driver.step elapsed socket).2.2 := by
  subst hk
  obtain ⟨c, hown, -⟩ := hsaid.spoken
  obtain ⟨c', hspoken, -⟩ := hhanded.said.spoken
  obtain ⟨hcount, -⟩ := hhanded.said.count
  obtain rfl : k' = 0 := by omega
  have hnone : min (j - o) config.frameCount.toNat = 0 := by omega
  have hzero : min (j + 1 - o) config.frameCount.toNat = 0 := by omega
  rw [hnone] at hown
  have hconfig : (driver.accept elapsed).config = config := h.config_eq
  have hready : Keen config sc 0 0 0 0 (driver.accept elapsed).runtime :=
    ⟨⟨hkeen.attends.follows, hkeen.attends.history, hkeen.attends.final⟩, hkeen.pays, hkeen.clean,
      hkeen.window⟩
  have hshake : (driver.accept elapsed).work elapsed socket = (driver.accept elapsed).shakeHands elapsed socket := by
    rw [work, if_pos (show (driver.accept elapsed).observation.phase = .handshake from hphase)]
  have hunfinished : driver.observation.phase ≠ .finished := by
    rw [hphase]
    decide
  by_cases hempty : sent = []
  · subst hempty
    obtain ⟨rest, hcall, hrest⟩ := shakeHands_alone hconfig h.hello hhanded.quiet hhanded.handshake
      hhanded.copies
    rw [step_of_work h.working hunfinished hclock (hshake.trans hcall)]
    have hstill : j + 2 - o = 0 := hhanded.said.empty.1 rfl
    refine ⟨⟨0, ⟨h.config_eq, h.hello, h.working, UInt64.le_trans h.clock hclock,
      .greeting (by omega) hphase rfl rfl hready hnext hprogress⟩, ⟨⟨c, ?_, fun hlate => by omega⟩, ?_, by omega⟩,
      Or.inr ⟨rfl, Or.inl (by omega)⟩⟩, UInt64.le_refl _⟩
    · rw [hzero]
      dsimp only
      rw [hrest]
      exact hown.hello h.hello
    · simp [hrest]
  · have hnear : ¬ j + 2 - o = 0 := fun hstill => hempty (hhanded.said.empty.2 hstill)
    obtain ⟨rest, hcall, hrest⟩ := shakeHands_greeted hconfig h.hello hpaired hhanded.quiet
      hhanded.handshake hspoken hhanded.copies (hhanded.takes hempty)
    rw [step_of_work h.working hunfinished hclock (hshake.trans hcall)]
    have hnow : j + 1 - o = 0 := by omega
    have hback : j + 1 - 2 = 0 := by omega
    have hstarted : Keen config sc (j + 1 - o) 0 (j + 1 - 2) 0 (driver.accept elapsed).runtime := by
      rw [hnow, hback]
      exact hready
    refine ⟨⟨0, ⟨h.config_eq, h.hello, h.working, UInt64.le_refl _,
      .running (by omega) rfl (by omega) hnow.symm hstarted hnext hprogress⟩,
      ⟨⟨c, ?_, fun hlate => by omega⟩, ?_, by omega⟩,
      Or.inr ⟨rfl, Or.inl (by omega)⟩⟩, UInt64.le_refl _⟩
    · rw [hzero]
      dsimp only
      rw [hrest, List.append_cons]
      exact (hown.hello h.hello).hello h.hello
    · simp [hrest]

theorem Handed.ahead (hhanded : Handed config partner sc.variant o j s k' sent elapsed socket)
    (hpaired : Paired config sc partner) (ho : o = 1 ∨ o = 2) {n h : ℕ}
    (hn : n = min (j - o) config.frameCount.toNat) (hh : h = min (j - 2) config.frameCount.toNat) :
    ∃ c', Ahead config partner sc.variant n h s (min (j - 1) config.frameCount.toNat) c' k'
        socket.receiveResults ∧
      (config.frameCount.toNat + 3 ≤ j → c' = config.frameCount.toNat) := by
  have hsmall := hpaired.small
  obtain ⟨c', hspoken, hlate⟩ := hhanded.said.spoken
  obtain ⟨-, hcount⟩ := hhanded.said.count
  have hgone : j + 2 - o - (3 - o) = j - 1 := by omega
  rw [hpaired.same.frames] at hspoken hlate hcount
  rw [hgone] at hspoken
  refine ⟨c', ⟨⟨sent, hspoken, hhanded.copies, ?_⟩, by omega, by omega, by omega⟩,
    fun hj => hlate (by omega)⟩
  have hlinked := hhanded.linked
  by_cases hempty : sent = []
  · have := hhanded.said.empty.1 hempty
    obtain ⟨hfew, -⟩ := hhanded.said.count
    omega
  · have htakes := hhanded.takes hempty
    rcases hlinked with hbehind | ⟨hcaught, hj⟩
    · exact Or.inr ⟨⟨hbehind, by omega, by omega⟩, htakes⟩
    · exact Or.inl ⟨hcaught, by omega⟩

theorem Paced.continues (h : Paced config sc o j k s driver) (hclock : driver.lastElapsed ≤ elapsed)
    {next : PeerDriver} {k'' : ℕ} (hcontinues : Continues (driver.accept elapsed) next)
    (hstage : Stage config sc o (j + 1) k'' k' next.tick) :
    Paced config sc o (j + 1) k'' k' next.tick ∧ next.tick.lastElapsed ≤ elapsed := by
  have htime : next.tick.lastElapsed = elapsed := hcontinues.lastElapsed
  refine ⟨⟨hcontinues.config_eq.trans h.config_eq, ?_, hcontinues.failure.trans h.working, ?_, hstage⟩,
    htime ▸ UInt64.le_refl _⟩
  · rw [show next.tick.hello = driver.hello from hcontinues.hello]
    exact h.hello
  · rw [htime, show next.tick.runStarted = driver.runStarted from hcontinues.runStarted]
    exact UInt64.le_trans h.clock hclock

theorem Paced.march (h : Paced config sc o j k s driver) (hpaired : Paired config sc partner)
    (ho : o = 1 ∨ o = 2) (hsaid : HasSent config sc.variant o j k said)
    (hclock : driver.lastElapsed ≤ elapsed)
    (hhanded : Handed config partner sc.variant o j s k' sent elapsed socket) {c : ℕ} (hj : o ≤ j)
    (hphase : driver.observation.phase = .running) (hn : j - o < config.frameCount.toNat)
    (hk : k = j - o) (hkeen : Keen config sc (j - o) c (j - 2) s driver.runtime)
    (hnext : driver.runtime.nextSequence = UInt32.ofNat (k + 2))
    (hprogress : driver.finalDrainProgress = 0) :
    OnTime config sc o j k k' said elapsed (driver.step elapsed socket).2.1
      (driver.step elapsed socket).2.2 := by
  obtain ⟨c₀, hown, -⟩ := hsaid.spoken
  obtain ⟨c', hahead, -⟩ := hhanded.ahead hpaired ho (min_eq_left hn.le).symm
    (min_eq_left (by omega)).symm
  have hconfig : (driver.accept elapsed).config = config := h.config_eq
  have hready : Keen config sc (j - o) c (j - 2) s (driver.accept elapsed).runtime :=
    ⟨⟨hkeen.attends.follows, hkeen.attends.history, hkeen.attends.final⟩, hkeen.pays, hkeen.clean,
      hkeen.window⟩
  obtain ⟨next, d, datagram, rest, hcall, hcontinues, hlater, hnumber, hutters, hrest, hcounted, hnow⟩ :=
    runFrame_prompt hconfig hpaired hready hn hnext hhanded.quiet hahead
  have hwork : (driver.accept elapsed).work elapsed socket = (.ok (), next, rest) := by
    rw [work_prompt h.config_eq (by rw [hphase]; decide) (UInt64.le_trans h.clock hclock) hhanded.run,
      if_pos hphase, hcall]
  rw [step_of_work h.working (by rw [hphase]; decide) hclock hwork]
  have hsucc : j - o + 1 = j + 1 - o := by omega
  have hback : min (j - 1) config.frameCount.toNat = j + 1 - 2 := by omega
  have hcount : min (j + 1 - o) config.frameCount.toNat = j - o + 1 := by omega
  have hstage : Stage config sc o (j + 1) (k + 1) k' next.tick := by
    have hstill : next.tick.finalDrainProgress = 0 := hcounted.trans hprogress
    by_cases hend : j - o + 1 = config.frameCount.toNat
    · rw [if_pos hend] at hnow
      rw [hend] at hlater
      rw [show j - 1 = j + 1 - 2 by omega] at hlater
      exact .confirming (by omega) hnow (by omega) hlater hnumber (fun hlate => by omega)
        (by rw [hstill, UInt32.toNat_zero]; omega) (by rw [hstill, UInt32.toNat_zero]; omega)
        (by rw [hstill, UInt32.toNat_zero]; omega)
    · rw [if_neg hend] at hnow
      rw [hsucc, hback] at hlater
      exact .running (by omega) (hnow.trans hphase) (by omega) (by omega) hlater hnumber hstill
  obtain ⟨hpaced, htime⟩ := h.continues hclock hcontinues hstage
  refine ⟨⟨k + 1, hpaced, ⟨⟨d, ?_, fun hlate => by omega⟩, ?_, by omega⟩, Or.inl rfl⟩, htime⟩
  · rw [hcount]
    dsimp only
    rw [hrest]
    exact hown.utter hutters
  · simp [hrest]

theorem Paced.confirm (h : Paced config sc o j k s driver) (hpaired : Paired config sc partner)
    (ho : o = 1 ∨ o = 2) (hpositive : 0 < config.frameCount.toNat)
    (hsaid : HasSent config sc.variant o j k said) (hclock : driver.lastElapsed ≤ elapsed)
    (hhanded : Handed config partner sc.variant o j s k' sent elapsed socket) {c : ℕ}
    (hj : o + config.frameCount.toNat ≤ j) (hphase : driver.observation.phase = .confirming)
    (hk : k = j - o)
    (hkeen : Keen config sc config.frameCount.toNat c (min (j - 2) config.frameCount.toNat) s
      driver.runtime)
    (hnext : driver.runtime.nextSequence = UInt32.ofNat (k + 2))
    (hfinal : config.frameCount.toNat + 4 ≤ j → driver.runtime.remoteFinalHash.isSome = true)
    (hprogress : j ≤ driver.finalDrainProgress.toNat + config.frameCount.toNat + 3)
    (hmore : driver.finalDrainProgress.toNat < 16)
    (hless : driver.finalDrainProgress.toNat + o + config.frameCount.toNat ≤ j) :
    OnTime config sc o j k k' said elapsed (driver.step elapsed socket).2.1
      (driver.step elapsed socket).2.2 := by
  obtain ⟨c₀, hown, -⟩ := hsaid.spoken
  obtain ⟨c', hahead, hlate⟩ := hhanded.ahead hpaired ho
    (show config.frameCount.toNat = min (j - o) config.frameCount.toNat by omega) rfl
  have hall : min (j - 1) config.frameCount.toNat = config.frameCount.toNat := by omega
  rw [hall] at hahead
  have hready : Keen config sc config.frameCount.toNat c (min (j - 2) config.frameCount.toNat) s
      (driver.accept elapsed).runtime :=
    ⟨⟨hkeen.attends.follows, hkeen.attends.history, hkeen.attends.final⟩, hkeen.pays, hkeen.clean,
      hkeen.window⟩
  obtain ⟨next, d, datagram, rest, hcall, hcontinues, hcaught, hutters, hrest, hcounted⟩ :=
    confirmFinal_prompt (show (driver.accept elapsed).config = config from h.config_eq) hpaired hready
      hphase hnext hhanded.quiet hahead
  have hwork : (driver.accept elapsed).work elapsed socket = (.ok (), next, rest) := by
    rw [work_prompt h.config_eq (by rw [hphase]; decide) (UInt64.le_trans h.clock hclock) hhanded.run,
      if_neg (by rw [hphase]; decide), hcall]
  rw [step_of_work h.working (by rw [hphase]; decide) hclock hwork]
  have hkeen' := hcaught.keen
  have hd : d = config.frameCount.toNat :=
    le_antisymm hkeen'.attends.follows.confirmed_le (hkeen'.le_confirmed le_rfl le_rfl)
  have hknown : config.frameCount.toNat + 4 ≤ j + 1 → next.runtime.remoteFinalHash.isSome = true := by
    intro hj'
    rcases hhanded.linked with hbehind | ⟨-, hold⟩
    · exact hcaught.noted ⟨hbehind, hlate (by omega)⟩ hd
    · exact hcaught.kept (hfinal (by omega))
  have hsaid' : HasSent config sc.variant o (j + 1) (k + 1) (said ++ rest.sent) := by
    refine ⟨⟨c, ?_, fun hj' => ?_⟩, by simp [hrest], by omega⟩
    · rw [hrest, show min (j + 1 - o) config.frameCount.toNat = config.frameCount.toNat by omega]
      exact hown.utter hutters
    · have hle := hkeen.attends.follows.confirmed_le
      have hge := hkeen.le_confirmed le_rfl (show config.frameCount.toNat ≤ min (j - 2) _ by omega)
      omega
  have hheard : Keen config sc config.frameCount.toNat d (min (j + 1 - 2) config.frameCount.toNat) k'
      next.tick.runtime := by
    rw [show min (j + 1 - 2) config.frameCount.toNat = config.frameCount.toNat by omega]
    exact hkeen'
  have hsequence : next.tick.runtime.nextSequence = UInt32.ofNat (k + 1 + 2) := hcaught.sequence
  have hstage : Stage config sc o (j + 1) (k + 1) k' next.tick := by
    rcases hcounted with ⟨hunknown, hzero, hnow⟩ | ⟨-, hone, hnow⟩
    · have hzero' : next.tick.finalDrainProgress.toNat = 0 := by
        rw [show next.tick.finalDrainProgress = 0 from hzero, UInt32.toNat_zero]
      have hearly : ¬ config.frameCount.toNat + 4 ≤ j + 1 := fun hj' => hunknown ⟨hd, hknown hj'⟩
      exact .confirming (by omega) hnow (by omega) hheard hsequence hknown (by omega) (by omega) (by omega)
    · have hone' : next.tick.finalDrainProgress.toNat = driver.finalDrainProgress.toNat + 1 := by
        rw [show next.tick.finalDrainProgress = driver.finalDrainProgress + 1 from hone,
          UInt32.toNat_add, UInt32.toNat_one, Nat.mod_eq_of_lt (by omega)]
      by_cases hend : 16 ≤ next.finalDrainProgress
      · rw [if_pos hend] at hnow
        have hlast : 16 ≤ next.tick.finalDrainProgress.toNat := UInt32.le_iff_toNat_le.1 hend
        exact .finished (by omega) hnow
      · rw [if_neg hend] at hnow
        have hlast : next.tick.finalDrainProgress.toNat < 16 :=
          UInt32.lt_iff_toNat_lt.1 (UInt32.not_le.1 hend)
        exact .confirming (by omega) hnow (by omega) hheard hsequence hknown (by omega) hlast (by omega)
  obtain ⟨hpaced, htime⟩ := h.continues hclock hcontinues hstage
  exact ⟨⟨k + 1, hpaced, hsaid', Or.inl rfl⟩, htime⟩

/-- A driver that is on time stays on time. -/
theorem Paced.step (h : Paced config sc o j k s driver) (hpaired : Paired config sc partner)
    (ho : o = 1 ∨ o = 2) (hpositive : 0 < config.frameCount.toNat)
    (hsaid : HasSent config sc.variant o j k said) (hclock : driver.lastElapsed ≤ elapsed)
    (hhanded : Handed config partner sc.variant o j s k' sent elapsed socket) :
    OnTime config sc o j k k' said elapsed (driver.step elapsed socket).2.1
      (driver.step elapsed socket).2.2 := by
  cases h.stage with
  | greeting hj hphase hk _ hkeen hnext hprogress =>
    exact h.greet hpaired ho hpositive hsaid hclock hhanded hj hphase hk hkeen hnext hprogress
  | running hj hphase hn hk hkeen hnext hprogress =>
    exact h.march hpaired ho hsaid hclock hhanded hj hphase hn hk hkeen hnext hprogress
  | confirming hj hphase hk hkeen hnext hfinal hprogress hmore hless =>
    exact h.confirm hpaired ho hpositive hsaid hclock hhanded hj hphase hk hkeen hnext hfinal hprogress
      hmore hless
  | finished hj hphase =>
    have hstay : driver.step elapsed socket = (.ok driver.observation, driver, socket) := by
      rw [PeerDriver.step, h.working]
      exact if_pos hphase
    obtain ⟨c, hown, hlate⟩ := hsaid.spoken
    rw [hstay]
    refine ⟨⟨k, ⟨h.config_eq, h.hello, h.working, h.clock, .finished (by omega) hphase⟩, ⟨⟨c, ?_,
      fun _ => hlate (by omega)⟩, ?_, by have := hsaid.count; omega⟩, Or.inr ⟨rfl, Or.inr hj⟩⟩, hclock⟩
    · rw [show min (j + 1 - o) config.frameCount.toNat = min (j - o) config.frameCount.toNat by omega]
      dsimp only
      rw [hhanded.quiet.fresh, List.append_nil]
      exact hown
    · dsimp only
      rw [hhanded.quiet.fresh, List.append_nil, hsaid.empty]
      omega

/-- A driver that is on time is finished after enough steps. -/
theorem Paced.finished (h : Paced config sc o j k s driver) (ho : o ≤ 2) (hj : config.frameCount.toNat + 19 ≤ j) :
    driver.observation.phase = .finished := by
  cases h.stage with
  | greeting hlt => omega
  | running _ _ hn => omega
  | confirming _ _ _ _ _ _ hprogress hmore => omega
  | finished _ hphase => exact hphase

end Working

end PeerDriver

namespace PeerNetwork

open PeerRuntime PeerDriver

/-! ## Taking turns -/

/-- Nothing fails, and the latest datagram of the partner is among those that are taken. -/
structure Prompt (m : PeerMatch) (network : PeerNetwork) (id : PlayerId) (socket : UdpSocket) : Prop where
  faultless : Faultless m id socket
  takes : network.sent (remoteId id) ≠ [] →
    TakesLast (network.sent (remoteId id)) socket.receiveResults

/-- Who steps at a time. -/
def turn (first : PlayerId) (t : ℕ) : PlayerId := if t % 2 = 0 then first else remoteId first

/-- A run in turns over a prompt network, by the times of its steps. -/
inductive InTurns (m : PeerMatch) (first : PlayerId) (clock : ℕ → UInt64) : ℕ → PeerNetwork → Prop
  | create {peer : PlayerId → PeerDriver} (h : ∀ id, ∃ bound,
      PeerDriver.create (m.config id) (.create (m.session id)) bound = .ok (peer id)) :
      InTurns m first clock 0 ⟨peer, fun _ => []⟩
  | step {t : ℕ} {network : PeerNetwork} (socket : UdpSocket) (h : InTurns m first clock t network)
      (hdelivers : network.Delivers (turn first t) socket)
      (hprompt : network.Prompt m (turn first t) socket) :
      InTurns m first clock (t + 1) (network.step (turn first t) (clock t) socket)

variable {m : PeerMatch} {first : PlayerId} {clock : ℕ → UInt64} {t : ℕ} {network : PeerNetwork}

theorem InTurns.reachable (h : InTurns m first clock t network) :
    Reachable m (fun _ _ _ => True) network := by
  induction h with
  | create h => exact .create h
  | step socket _ hdelivers _ ih => exact ih.step _ _ socket hdelivers trivial

theorem turn_succ (first : PlayerId) (t : ℕ) : turn first (t + 1) = remoteId (turn first t) := by
  rw [turn, turn]
  rcases Nat.mod_two_eq_zero_or_one t with h | h
  · rw [if_pos h, if_neg (show ¬(t + 1) % 2 = 0 by omega)]
  · rw [if_pos (show (t + 1) % 2 = 0 by omega), if_neg (show ¬t % 2 = 0 by omega), remoteId_remoteId]

/-- Both peers are on time, the one whose turn it is and then the other. -/
structure Marching (m : PeerMatch) (id : PlayerId) (o j : ℕ) (network : PeerNetwork) : Prop where
  peers : ∃ k s k' s', Paced (m.config id) (m.session id) o j k s (network.peer id) ∧
    Paced (m.config (remoteId id)) (m.session (remoteId id)) (3 - o) (j + 2 - o) k' s'
      (network.peer (remoteId id)) ∧
    HasSent (m.config id) .canonical o j k (network.sent id) ∧
    HasSent (m.config (remoteId id)) .canonical (3 - o) (j + 2 - o) k' (network.sent (remoteId id)) ∧
    (s + 1 = k' ∨ s = k' ∧ (j ≤ 1 ∨ (m.config id).frameCount.toNat + 4 ≤ j)) ∧ s' = k

theorem Delivers.copies {id : PlayerId} {socket : UdpSocket} (h : network.Delivers id socket)
    (hfaultless : Faultless m id socket) :
    Copies (m.config id) (network.sent (remoteId id)) socket.receiveResults := by
  intro answer hmem
  rcases answer with e | _ | datagram
  · exact absurd hmem (hfaultless.receives e)
  · exact Or.inl rfl
  · exact Or.inr ⟨datagram, rfl, hfaultless.relayed datagram hmem, h.genuine datagram hmem⟩

theorem SameSettings.paired (h : SameSettings m) (hcanonical : ∀ id, (m.session id).variant = .canonical)
    (hwide : ∀ id, kMaxRedundantInputs ≤ (m.session id).maxRollbackFrames.toNat)
    (hcoherent : Coherent m network) (id : PlayerId) :
    Paired (m.config id) (m.session id) (m.config (remoteId id)) where
  localPeer := (hcoherent.localPeer id).trans (m.id_eq id).symm
  partner_id := (m.id_eq _).trans (by rw [m.id_eq])
  same := ⟨(h.other id).1, (h.other id).2.2.1, h.digest id⟩
  small := hcoherent.small id
  welcome := h.welcome id
  canonical := hcanonical id
  wide := hwide id

/-- A step of the peer whose turn it is. -/
theorem Marching.step {id : PlayerId} {o j : ℕ} (h : Marching m id o j network)
    (hcoherent : Coherent m network) (hsettings : SameSettings m)
    (hcanonical : ∀ id, (m.session id).variant = .canonical)
    (hwide : ∀ id, kMaxRedundantInputs ≤ (m.session id).maxRollbackFrames.toNat)
    (hpositive : 0 < (m.config id).frameCount.toNat) (ho : o = 1 ∨ o = 2) {elapsed : UInt64}
    (hclock : ∀ id, (network.peer id).lastElapsed ≤ elapsed)
    (htime : elapsed < (m.config id).handshakeTimeoutMilliseconds.toUInt64 ∧
      elapsed < (m.config id).runTimeoutMilliseconds.toUInt64) {socket : UdpSocket}
    (hdelivers : network.Delivers id socket) (hprompt : network.Prompt m id socket) :
    Marching m (remoteId id) (3 - o) (j + 2 - o) (network.step id elapsed socket) ∧
      ∀ other, ((network.step id elapsed socket).peer other).lastElapsed ≤ elapsed := by
  obtain ⟨k, s, k', s', hown, hpartner, hsaid, hheard, hlinked, rfl⟩ := h.peers
  have hpaired := hsettings.paired hcanonical hwide hcoherent id
  have hhanded : Handed (m.config id) (m.config (remoteId id)) .canonical o j s k'
      (network.sent (remoteId id)) elapsed socket :=
    ⟨⟨hdelivers.fresh, hprompt.faultless.sends⟩, hheard, hdelivers.copies hprompt.faultless, hprompt.takes,
      htime.1, htime.2, hlinked⟩
  rw [← hcanonical id] at hsaid hhanded
  obtain ⟨⟨k'', hnext, hsent, hcount⟩, hlast⟩ :=
    hown.step hpaired ho hpositive hsaid (hclock id) hhanded
  rw [hcanonical id] at hsent
  have hframes := (hsettings.other id).2.2.1
  refine ⟨⟨k', s', k'', k', ?_, ?_, ?_, ?_, ?_, rfl⟩, fun other => ?_⟩
  · simp only [PeerNetwork.step, Function.update_of_ne (remoteId_ne id)]
    exact hpartner
  · simp only [PeerNetwork.step, remoteId_remoteId, Function.update_self]
    rw [show 3 - (3 - o) = o by omega, show j + 2 - o + 2 - (3 - o) = j + 1 by omega]
    exact hnext
  · simp only [PeerNetwork.step, Function.update_of_ne (remoteId_ne id)]
    exact hheard
  · simp only [PeerNetwork.step, remoteId_remoteId, Function.update_self]
    rw [show 3 - (3 - o) = o by omega, show j + 2 - o + 2 - (3 - o) = j + 1 by omega]
    exact hsent
  · rw [hframes]
    omega
  · rcases eq_or_eq_remoteId id other with rfl | rfl
    · simp only [PeerNetwork.step, Function.update_self]
      exact hlast
    · simp only [PeerNetwork.step, Function.update_of_ne (remoteId_ne id)]
      exact hclock _

/-- A new driver is on time. -/
theorem create_paced {config : PeerConfig} {sc : SessionConfig} {bound : Result Unit}
    {driver : PeerDriver} (h : PeerDriver.create config (.create sc) bound = .ok driver)
    (hinitial : sc.initialState = makeInitialWorld) (hwindow : sc.maxRollbackFrames.toNat ≤ 120) {o : ℕ}
    (ho : 0 < o) : Paced config sc o 0 0 0 driver ∧ 0 < config.frameCount.toNat ∧
      driver.lastElapsed = 0 := by
  rw [PeerDriver.create, failIf_bind_ok, bind_ok_iff] at h
  obtain ⟨hgood, -, -, h⟩ := h
  rw [bind_ok_iff] at h
  obtain ⟨hello, hhello, h⟩ := h
  cases h
  have hcount : config.frameCount.toNat ≠ 0 := fun h0 => hgood (Or.inl (UInt32.toNat_inj.1 h0))
  exact ⟨⟨rfl, hhello, rfl, UInt64.le_refl _, .greeting ho rfl rfl rfl (.start hinitial hwindow) rfl rfl⟩,
    Nat.pos_of_ne_zero hcount, rfl⟩

/-- Along a run in turns both peers are on time, as long as the clock has been. -/
theorem InTurns.marching (hsettings : SameSettings m)
    (hcanonical : ∀ id, (m.session id).variant = .canonical)
    (hwide : ∀ id, kMaxRedundantInputs ≤ (m.session id).maxRollbackFrames.toNat)
    (hclock : ∀ t, clock t ≤ clock (t + 1))
    (htime : ∀ t' < t, ∀ id, clock t' < (m.config id).handshakeTimeoutMilliseconds.toUInt64 ∧
      clock t' < (m.config id).runTimeoutMilliseconds.toUInt64)
    (h : InTurns m first clock t network) :
    Marching m (turn first t) (2 - t % 2) (t / 2) network ∧
      (∀ id, 0 < (m.config id).frameCount.toNat) ∧
      ∀ id, (network.peer id).lastElapsed ≤ clock t := by
  induction h with
  | create h =>
    have hcreated : ∀ id o, 0 < o → _ := fun id o ho =>
      (h id).elim fun _ hbound => create_paced hbound (m.initial id) (m.window id) ho
    have hsaid : ∀ id o, 0 < o → HasSent (m.config id) .canonical o 0 0 [] := fun id o ho =>
      ⟨⟨(m.config id).frameCount.toNat, .nil, fun _ => rfl⟩, by simp, by omega⟩
    refine ⟨⟨0, 0, 0, 0, (hcreated _ 2 (by decide)).1, (hcreated _ 1 (by decide)).1,
      hsaid _ 2 (by decide), hsaid _ 1 (by decide), Or.inr ⟨rfl, Or.inl (by decide)⟩, rfl⟩,
      fun id => (hcreated id 1 (by decide)).2.1, fun id => ?_⟩
    rw [show (_ : PeerDriver).lastElapsed = 0 from (hcreated id 1 (by decide)).2.2]
    exact UInt64.zero_le
  | @step t network socket h hdelivers hprompt ih =>
    obtain ⟨hmarching, hpositive, hlast⟩ := ih fun t' ht' => htime t' (by omega)
    obtain ⟨hnext, hlater⟩ := hmarching.step h.reachable.coherent hsettings hcanonical hwide
      (hpositive _) (by omega) hlast (htime t (by omega) _) hdelivers hprompt
    rw [← turn_succ, show 3 - (2 - t % 2) = 2 - (t + 1) % 2 by omega,
      show t / 2 + 2 - (2 - t % 2) = (t + 1) / 2 by omega] at hnext
    exact ⟨hnext, hpositive, fun id => UInt64.le_trans (hlater id) (hclock t)⟩

/-- The network hands over the latest datagram, and nothing else. -/
theorem forward_last_prompt (m : PeerMatch) (network : PeerNetwork) (id : PlayerId) :
    network.Prompt m id (network.forward id (m.config id).relayPort
      [(network.sent (remoteId id)).length - 1]) := by
  refine ⟨forward_faultless m network id _, fun hsome => ?_⟩
  have hlast := List.getLast?_eq_some_getLast hsome
  rw [List.getLast?_eq_getElem?] at hlast
  refine ⟨⟨((network.sent (remoteId id)).getLast hsome).bytes, (m.config id).relayPort⟩, ?_, _,
    List.getLast?_eq_some_getLast hsome, rfl⟩
  rw [forward, List.filterMap_cons, hlast]
  exact List.mem_cons_self

/-- Such a network lets the peers take as many turns as they like. -/
theorem exists_inTurns (first : PlayerId) (clock : ℕ → UInt64) (hopening : ∀ id, ∃ bound,
    PeerDriver.create (m.config id) (.create (m.session id)) bound = .ok ((opening m).peer id)) (t : ℕ) :
    ∃ network, InTurns m first clock t network := by
  induction t with
  | zero => exact ⟨_, .create hopening⟩
  | succ t ih =>
    obtain ⟨network, h⟩ := ih
    exact ⟨_, .step _ h (network.forward_delivers _ _ _) (forward_last_prompt m network _)⟩

end PeerNetwork

end RollbackLab
