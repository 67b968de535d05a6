import RollbackLab.Handshake
import RollbackLab.PeerNetwork

/-!
# What two honest peers can rely on

Over a network that forges nothing, honest peers never see each other's worlds differ,
a finished peer tells the truth, and once both have greeted each other only time, the
rollback window or the clock can stop them.
-/

namespace RollbackLab.PeerNetwork

variable {m : PeerMatch} {allows : PeerNetwork → PlayerId → UdpSocket → Prop} {network : PeerNetwork}

/-- A predicate that holds of every excused error holds of every failure of a run. -/
theorem Reachable.failure {P : Error → Prop}
    (hexcused : ∀ {network : PeerNetwork} {id : PlayerId} {socket : UdpSocket} {e : Error},
      network.Delivers id socket → allows network id socket →
        Excuse (m.config id) (m.session id) (m.config (remoteId id)) (m.session (remoteId id)).variant
          (network.peer id).observation.phase socket e → P e)
    (h : Reachable m allows network) {id : PlayerId} {e : Error}
    (hfailure : (network.peer id).failure = some e) : P e := by
  induction h generalizing id e with
  | create h =>
    obtain ⟨bound, hbound⟩ := h id
    have hnone := (PeerDriver.create_honest hbound (m.initial id) (m.window id)
      (m.config id) .canonical True).2.1
    cases hnone.symm.trans hfailure
  | @step network other elapsed socket h hdelivers hallows ih =>
    rcases eq_or_eq_remoteId other id with rfl | rfl
    · simp only [PeerNetwork.step, Function.update_self] at hfailure
      have hstep := h.coherent.outcome hdelivers elapsed
      rcases hcall : (network.peer id).step elapsed socket with ⟨e' | _, next, rest⟩
      · rw [hcall] at hfailure
        obtain ⟨-, ⟨hsame, -⟩ | ⟨hnew, hexcuse⟩⟩ := hstep.of_error hcall
        · rw [show next = network.peer id from hsame] at hfailure
          exact ih hfailure
        · cases hnew.symm.trans hfailure
          exact hexcused hdelivers hallows hexcuse
      · rw [hcall] at hfailure
        cases (hstep.of_ok hcall).2.symm.trans hfailure
    · simp only [PeerNetwork.step, Function.update_of_ne (remoteId_ne other)] at hfailure
      exact ih hfailure

/-- The same for what the next step returns, its clock apart. -/
theorem Reachable.step_error {P : Error → Prop}
    (hexcused : ∀ {network : PeerNetwork} {id : PlayerId} {socket : UdpSocket} {e : Error},
      network.Delivers id socket → allows network id socket →
        Excuse (m.config id) (m.session id) (m.config (remoteId id)) (m.session (remoteId id)).variant
          (network.peer id).observation.phase socket e → P e)
    (h : Reachable m allows network) {id : PlayerId} {socket : UdpSocket}
    (hdelivers : network.Delivers id socket) (hallows : allows network id socket) {elapsed : UInt64}
    {e : Error} (hstep : ((network.peer id).step elapsed socket).1 = .error e) :
    P e ∨ e = PeerDriver.clockReversed elapsed := by
  have houtcome := h.coherent.outcome hdelivers elapsed
  rcases hcall : (network.peer id).step elapsed socket with ⟨e' | _, next, rest⟩
  · rw [hcall] at hstep
    cases hstep
    obtain ⟨-, ⟨-, hold | hclock⟩ | ⟨-, hexcuse⟩⟩ := houtcome.of_error hcall
    · exact Or.inl (h.failure hexcused hold)
    · exact Or.inr hclock
    · exact Or.inl (hexcused hdelivers hallows hexcuse)
  · rw [hcall] at hstep
    cases hstep

/-- A match between two peers with the default settings. -/
def plainMatch : PeerMatch where
  config id := { id }
  session id := { localPeer := id }
  id_eq _ := rfl
  initial _ := rfl
  window _ := Nat.le_refl 120

theorem plainMatch_opening : Reachable plainMatch allows (opening plainMatch) :=
  .opening fun id => by cases id <;> decide

/-- Whether the first datagram of every move of a schedule is a hello as long as the peer is
in the handshake. -/
def greets (m : PeerMatch) : PeerNetwork → List (PlayerId × UInt64 × List ℕ) → Bool
  | _, [] => true
  | network, turn :: turns =>
    (match (network.peer turn.1).observation.phase,
        (network.forward turn.1 (m.config turn.1).relayPort turn.2.2).receiveResults.head? with
      | .handshake, some (.ok (some datagram)) =>
        match decodePacket datagram.bytes with
        | .ok packet => packet.type = .hello
        | .error _ => true
      | _, _ => true) && greets m (network.move m turn) turns

/-- The first frames of that match. The first peer has to guess an input, and the second
one is handed the packets of the first twice and out of order. -/
def exchange : List (PlayerId × UInt64 × List ℕ) :=
  [(.a, 0, []), (.b, 0, [0]), (.a, 0, [0]), (.a, 1, []), (.b, 1, [3]), (.a, 2, [2]), (.b, 2, [4, 3, 4])]

def exchanged : PeerNetwork := (opening plainMatch).play plainMatch exchange

/-- Both peers have confirmed a frame by then, the first one after a correction. -/
theorem exchanged_runs : (opening plainMatch).greets plainMatch exchange = true ∧
    (exchanged.peer .a).observation.phase = .running ∧
    (exchanged.peer .a).runtime.session.metrics.rollbackCount = 1 ∧
    (exchanged.peer .a).runtime.session.hashAt ⟨1⟩ = .ok 635547385910503997 ∧
    (exchanged.peer .b).runtime.session.hashAt ⟨1⟩ = .ok 635547385910503997 ∧
    ((exchanged.peer .a).step 5000 (exchanged.forward .a 0 [3, 2])).1 =
      .error ⟨.timeout, 2, 0, "udp_peer_run"⟩ := by decide +kernel

/-! ## Agreement -/

/-- What an honest peer exposes at a boundary is the script's world there. -/
theorem Coherent.exposed (h : Coherent m network) {id : PlayerId} {boundary : FrameNumber}
    {hash : StateHash} (hhash : (network.peer id).runtime.session.hashAt boundary = .ok hash) :
    ∃ k ≤ 256, boundary = ⟨UInt32.ofNat k⟩ ∧
      hash = hashCanonical ((m.config id).script.worldAt (m.session id).variant k) ∧
      (network.peer id).runtime.session.stateAt boundary =
        .ok ((m.config id).script.worldAt (m.session id).variant k) := by
  obtain ⟨n, c, hn, hfollows⟩ := (h.honest id).follows
  have hsmall := h.small id
  have hle := hfollows.confirmed_le
  obtain ⟨k, world, hk, hboundary, hworld, hvalue, hstate⟩ := hfollows.hashAt (by omega) hhash
  rw [InputScript.world_eq _ _ (by omega)] at hworld
  cases hworld
  exact ⟨k, by omega, hboundary, hvalue, hstate⟩

theorem Excuse.code_ne_desync {config partner : PeerConfig} {sc : SessionConfig}
    {pv : SimulationVariant} {phase : PeerPhase} {socket : UdpSocket} {e : Error}
    (h : Excuse config sc partner pv phase socket e) (hvariant : pv = sc.variant)
    (hsystem : ∀ e, .error e ∈ socket.sendResults ∨ .error e ∈ socket.receiveResults →
      e.code = .ioError) : e.code ≠ .desync := by
  cases h with
  | timeout hcode => simp [hcode]
  | window hcode => simp [hcode]
  | system h => simp [hsystem e h]
  | source hcode => simp [hcode]
  | hello hcode => exact hcode
  | early hcode => exact hcode
  | variant hcode => exact hcode
  | diverged h => exact absurd hvariant h

/-- Peers that simulate alike never report a desync, and wherever both expose the hash of
a boundary they expose the same hash and the same world. -/
theorem honest_peers_agree (hscenario : (m.config .a).scenarioSeed = (m.config .b).scenarioSeed)
    (hvariant : (m.session .a).variant = (m.session .b).variant) (h : Reachable m allows network) :
    (∀ id elapsed socket e, network.Delivers id socket → allows network id socket →
      ((network.peer id).step elapsed socket).1 = .error e → e.code ≠ .desync) ∧
    ∀ boundary hashA hashB,
      (network.peer .a).runtime.session.hashAt boundary = .ok hashA →
      (network.peer .b).runtime.session.hashAt boundary = .ok hashB →
        hashA = hashB ∧ ∃ world, (network.peer .a).runtime.session.stateAt boundary = .ok world ∧
          (network.peer .b).runtime.session.stateAt boundary = .ok world := by
  have hother : ∀ id, (m.session (remoteId id)).variant = (m.session id).variant := by
    intro id
    cases id
    · exact hvariant.symm
    · exact hvariant
  refine ⟨fun id elapsed socket e hdelivers hallows hstep => ?_, fun boundary hashA hashB hA hB => ?_⟩
  · rcases h.step_error (P := fun e => e.code ≠ .desync)
      (fun hdelivers _ hexcuse => Excuse.code_ne_desync hexcuse (hother _) hdelivers.system)
      hdelivers hallows hstep with hcode | hclock
    · exact hcode
    · rw [hclock]
      simp [PeerDriver.clockReversed]
  · obtain ⟨k, hk, hboundary, hhashA, hstateA⟩ := h.coherent.exposed hA
    obtain ⟨j, hj, hboundary', hhashB, hstateB⟩ := h.coherent.exposed hB
    have hkj : k = j := by
      have hsame := congrArg (fun frame => frame.value.toNat) (hboundary.symm.trans hboundary')
      simp only [UInt32.toNat_ofNat'] at hsame
      omega
    have hscript : (m.config .a).script = (m.config .b).script := by
      rw [PeerConfig.script, PeerConfig.script, hscenario]
    rw [← hkj, ← hscript, ← hvariant] at hhashB hstateB
    exact ⟨hhashA.trans hhashB.symm, _, hstateA, hstateB⟩

/-- After a correction the peers expose one world, and what ends the first of them when its
time is over is no desync. -/
theorem honest_peers_agree_exchanged :
    (∃ e, ((exchanged.peer .a).step 5000 (exchanged.forward .a 0 [3, 2])).1 = .error e ∧
      e.code ≠ .desync) ∧
    ∃ hash world,
      (exchanged.peer .a).runtime.session.hashAt ⟨1⟩ = .ok hash ∧
      (exchanged.peer .b).runtime.session.hashAt ⟨1⟩ = .ok hash ∧
      (exchanged.peer .a).runtime.session.stateAt ⟨1⟩ = .ok world ∧
      (exchanged.peer .b).runtime.session.stateAt ⟨1⟩ = .ok world := by
  have hreachable : Reachable plainMatch (fun _ _ _ => True) exchanged :=
    plainMatch_opening.play (fun _ _ _ => trivial) _
  obtain ⟨-, -, -, hhashA, hhashB, hlate⟩ := exchanged_runs
  obtain ⟨hdesync, hagree⟩ := honest_peers_agree rfl rfl hreachable
  obtain ⟨-, world, hworldA, hworldB⟩ := hagree ⟨1⟩ _ _ hhashA hhashB
  exact ⟨⟨_, hlate, hdesync .a 5000 _ _ (exchanged.forward_delivers .a 0 [3, 2]) trivial hlate⟩,
    _, world, hhashA, hhashB, hworldA, hworldB⟩

/-! ## What can stop a peer -/

/-- Equal settings without overridden versions. -/
structure SameSettings (m : PeerMatch) : Prop where
  scenario : (m.config .a).scenarioSeed = (m.config .b).scenarioSeed
  transport : (m.config .a).transportSeed = (m.config .b).transportSeed
  frames : (m.config .a).frameCount = (m.config .b).frameCount
  engine : (m.config .a).engineAbiVersion = (m.config .b).engineAbiVersion
  protocol : ∀ id, (m.config id).protocolVersionOverride = kProtocolVersion.toUInt16
  simulation : ∀ id, (m.config id).simulationVersionOverride = kSimulationVersion
  advertised : ∀ id, (m.config id).advertisedAbiVersion = 0 ∨
    (m.config id).advertisedAbiVersion = (m.config id).engineAbiVersion

/-- A socket that never fails, with everything coming from the relay. -/
structure Faultless (m : PeerMatch) (id : PlayerId) (socket : UdpSocket) : Prop where
  sends : ∀ e, .error e ∉ socket.sendResults
  receives : ∀ e, .error e ∉ socket.receiveResults
  relayed : ∀ datagram, .ok (some datagram) ∈ socket.receiveResults →
    datagram.sourcePort = (m.config id).relayPort

theorem plainMatch_settings : SameSettings plainMatch :=
  ⟨rfl, rfl, rfl, rfl, fun _ => rfl, fun _ => rfl, fun _ => Or.inl rfl⟩

/-- The datagram that a step of the handshake takes is a hello. -/
def GreetsFirst (network : PeerNetwork) (id : PlayerId) (socket : UdpSocket) : Prop :=
  (network.peer id).observation.phase = .handshake → ∀ datagram packet,
    socket.receiveResults.head? = some (.ok (some datagram)) →
      decodePacket datagram.bytes = .ok packet → packet.type = .hello

theorem SameSettings.other (h : SameSettings m) (id : PlayerId) :
    (m.config (remoteId id)).scenarioSeed = (m.config id).scenarioSeed ∧
      (m.config (remoteId id)).transportSeed = (m.config id).transportSeed ∧
      (m.config (remoteId id)).frameCount = (m.config id).frameCount ∧
      (m.config (remoteId id)).engineAbiVersion = (m.config id).engineAbiVersion := by
  cases id
  · exact ⟨h.scenario.symm, h.transport.symm, h.frames.symm, h.engine.symm⟩
  · exact ⟨h.scenario, h.transport, h.frames, h.engine⟩

/-- The hello of either peer carries the digest that the other one expects. -/
theorem SameSettings.digest (h : SameSettings m) (id : PlayerId) :
    scenarioConfigDigest (m.config (remoteId id)) = scenarioConfigDigest (m.config id).expected := by
  obtain ⟨hscenario, htransport, hframes, hengine⟩ := h.other id
  have hadvertised : (if (m.config (remoteId id)).advertisedAbiVersion ≠ 0 then
      (m.config (remoteId id)).advertisedAbiVersion else (m.config id).engineAbiVersion) =
        (m.config id).engineAbiVersion := by
    rcases h.advertised (remoteId id) with hnone | hsame
    · rw [hnone, if_neg (not_not.2 rfl)]
    · rw [hsame, hengine, ite_self]
  simp only [scenarioConfigDigest, PeerConfig.expected, h.protocol, h.simulation, hscenario,
    htransport, hframes, hengine, hadvertised]
  by_cases hzero : (m.config id).engineAbiVersion = 0
  · simp [hzero]
  · simp [hzero]

/-- Peers with equal settings take each other's hellos. -/
theorem SameSettings.welcome (h : SameSettings m) (id : PlayerId) :
    Welcome (m.config id) (m.config (remoteId id)) := by
  intro bytes hencode
  obtain ⟨hscenario, -, hframes, -⟩ := h.other id
  refine ⟨_, decodePacket_encodeHello_ok (by rw [h.protocol]; rfl) hencode, ?_⟩
  have hid : (m.config (remoteId id)).id = remoteId (m.config id).id := by
    rw [m.id_eq, m.id_eq]
  simp [validHello, helloPacket, hid, hscenario, hframes, h.digest id, h.simulation]

/-- With equal settings and a socket that never fails, a peer stops for a timeout, for
the rollback window or because its clock was reversed, as long as what it takes in the
handshake is a hello. -/
theorem honest_peers_stop (hsettings : SameSettings m)
    (hcanonical : ∀ id, (m.session id).variant = .canonical)
    (h : Reachable m (fun network id socket => Faultless m id socket ∧ network.GreetsFirst id socket)
      network) {id : PlayerId} {socket : UdpSocket} (hdelivers : network.Delivers id socket)
    (hfaultless : Faultless m id socket) (hgreets : network.GreetsFirst id socket) {elapsed : UInt64}
    {e : Error} (hstep : ((network.peer id).step elapsed socket).1 = .error e) :
    e.code = .timeout ∨ e.code = .rollbackWindowExceeded ∨ e = PeerDriver.clockReversed elapsed := by
  have hstop := h.step_error (P := fun e => e.code = .timeout ∨ e.code = .rollbackWindowExceeded)
    (fun {network id socket e} hdelivers hallowed hexcuse => ?_) hdelivers ⟨hfaultless, hgreets⟩ hstep
  · exact or_assoc.1 hstop
  obtain ⟨hfaultless, hgreets⟩ := hallowed
  cases hexcuse with
  | timeout hcode => exact Or.inl hcode
  | window hcode => exact Or.inr hcode
  | system h =>
    rcases h with hsend | hreceive
    · exact absurd hsend (hfaultless.sends e)
    · exact absurd hreceive (hfaultless.receives e)
  | source hcode hmem hport => exact absurd (hfaultless.relayed _ hmem) hport
  | hello hcode h => exact absurd (hsettings.welcome id) h
  | early hcode hphase hhead hdecode htype =>
    have hhello := hgreets hphase _ _ hhead hdecode
    rw [htype] at hhello
    cases hhello
  | variant hcode h => exact absurd (hcanonical id) h
  | diverged h => exact absurd ((hcanonical _).trans (hcanonical id).symm) h

theorem forward_faultless (m : PeerMatch) (network : PeerNetwork) (id : PlayerId) (picks : List ℕ) :
    Faultless m id (network.forward id (m.config id).relayPort picks) where
  sends e h := by cases h
  receives e h := by
    obtain ⟨sent, -, heq⟩ := mem_forward h
    cases heq
  relayed datagram h := by
    obtain ⟨sent, -, heq⟩ := mem_forward h
    cases heq
    rfl

theorem Reachable.greets {turns : List (PlayerId × UInt64 × List ℕ)}
    (hgreets : network.greets m turns = true)
    (h : Reachable m (fun network id socket => Faultless m id socket ∧ network.GreetsFirst id socket)
      network) :
    Reachable m (fun network id socket => Faultless m id socket ∧ network.GreetsFirst id socket)
      (network.play m turns) := by
  induction turns generalizing network with
  | nil => exact h
  | cons turn turns ih =>
    obtain ⟨hturn, hturns⟩ := Bool.and_eq_true_iff.1 hgreets
    refine ih hturns (h.step turn.1 turn.2.1 _ (network.forward_delivers _ _ _)
      ⟨forward_faultless m network _ _, fun hphase datagram packet hhead hdecode => ?_⟩)
    rw [hphase, hhead] at hturn
    simpa [hdecode] using hturn

theorem exchanged_greets : Reachable plainMatch
    (fun network id socket => Faultless plainMatch id socket ∧ network.GreetsFirst id socket)
    exchanged := plainMatch_opening.greets exchanged_runs.1

/-- Hellos and inputs have gone both ways, and then the first peer runs out of time. -/
theorem honest_peers_stop_exchanged : ∃ e,
    ((exchanged.peer .a).step 5000 (exchanged.forward .a 0 [3, 2])).1 = .error e ∧
      (e.code = .timeout ∨ e.code = .rollbackWindowExceeded ∨ e = PeerDriver.clockReversed 5000) := by
  obtain ⟨-, hrunning, -, -, -, hlate⟩ := exchanged_runs
  have hgreets : exchanged.GreetsFirst .a (exchanged.forward .a 0 [3, 2]) := by
    intro hphase
    cases hphase.symm.trans hrunning
  exact ⟨_, hlate, honest_peers_stop plainMatch_settings (fun _ => rfl) exchanged_greets
    (exchanged.forward_delivers .a 0 [3, 2]) (forward_faultless plainMatch exchanged .a [3, 2])
    hgreets hlate⟩

/-- The first peer has been greeted and has sent its first inputs, the second one has
heard nothing yet. -/
def startled : PeerNetwork :=
  (opening plainMatch).play plainMatch [(.b, 0, []), (.a, 0, [0]), (.a, 1, [])]

/-- Those inputs, taken for a hello, end the second peer. -/
theorem handshake_refuses_inputs : SameSettings plainMatch ∧
    (∀ id, (plainMatch.session id).variant = .canonical) ∧
    Reachable plainMatch (fun _ id socket => Faultless plainMatch id socket) startled ∧
    startled.Delivers .b (startled.forward .b 0 [2]) ∧
    Faultless plainMatch .b (startled.forward .b 0 [2]) ∧
    ((startled.peer .b).step 1 (startled.forward .b 0 [2])).1 =
      .error ⟨.invalidArgument, 1, 0, "udp_hello_identity"⟩ :=
  ⟨plainMatch_settings, fun _ => rfl, plainMatch_opening.play (forward_faultless plainMatch) _,
    startled.forward_delivers .b 0 [2], forward_faultless plainMatch startled .b [2],
    by decide +kernel⟩

/-! ## Finished peers -/

theorem Coherent.stands (h : Coherent m network) {id : PlayerId}
    (hphase : (network.peer id).observation.phase = .finished) :
    (network.peer id).Stands (m.config id) (m.session id) (m.config (remoteId id))
      (m.session (remoteId id)).variant (network.peer (remoteId id)).Settled := by
  apply (h.honest id).stands
  by_contra hsome
  have hfailed := (h.honest id).failed (Option.isSome_iff_ne_none.2 hsome)
  cases hphase.symm.trans hfailed

/-- What a finished peer says is true, the replay of a confirmed match can always be
built, and two finished peers have the same replay, unless both digests collide. -/
theorem finished_peers_truthful (hengine : ∀ id, (m.config id).engineAbiVersion ≠ 0)
    (h : Reachable m allows network) :
    (∀ id, (network.peer id).observation.phase = .finished →
      (network.peer id).runtime.session.metrics.confirmedFrame = ⟨(m.config id).frameCount⟩ ∧
      ∃ replay, decodeReplay (network.peer id).artifacts.replay = .ok replay ∧
        (∃ verification, verifyReplay replay = .ok verification) ∧
        (network.peer id).runtime.session.report.finalHash = replay.expectedFinalHash ∧
        (network.peer (remoteId id)).runtime.session.hashAt ⟨(m.config id).frameCount⟩ =
          .ok (network.peer id).runtime.session.report.finalHash) ∧
    (∀ id, (network.peer id).runtime.session.metrics.confirmedFrame = ⟨(m.config id).frameCount⟩ →
      ∃ replay, buildReplay (m.config id) (network.peer id).runtime.session = .ok replay) ∧
    ((∀ id, (network.peer id).observation.phase = .finished) →
      (network.peer .a).artifacts.replay = (network.peer .b).artifacts.replay ∨
        (m.config .a).transportSeed ≠ (m.config .b).transportSeed ∧
          ∀ id, DigestsCollide (m.config id) (m.config (remoteId id))) := by
  have hcoherent := h.coherent
  refine ⟨fun id hphase => ?_, fun id hconfirmed => ?_, fun hphase => ?_⟩
  · obtain ⟨hsame, ⟨n, c, hattends, hreached⟩, hfinished⟩ := hcoherent.stands hphase
    obtain ⟨hvouched, hsettled, hpartner⟩ := hfinished hphase
    have hsame := hsame (by rw [hphase]; decide)
    have hfollows := (hcoherent.honest id).confirmed hsettled
    have hother := (hcoherent.honest (remoteId id)).confirmed hpartner
    have hsmall := hcoherent.small id
    have hscript : (m.config (remoteId id)).script = (m.config id).script := by
      rw [PeerConfig.script, PeerConfig.script, hsame.scenario]
    rw [hscript, hsame.frames] at hother
    have hfinal := hfollows.report_finalHash hsmall
    have hreplay : (m.config id).frameCount.toNat ≤ kMaxReplayFrames := by
      simp only [kMaxReplayFrames]
      omega
    rw [PeerDriver.Settled, (hcoherent.honest id).config_eq] at hsettled
    refine ⟨hsettled, (m.config id).script.replay (m.config id).scenarioSeed
      (m.config id).transportSeed (m.config id).frameCount.toNat, ?_,
      ⟨_, InputScript.verifyReplay_replay (by omega)⟩, ?_, ?_⟩
    · rw [hvouched.replay]
      exact InputScript.decodeReplay_replay hreplay fun _ _ => scriptedInput_buttons _ _ _
    · rw [hfinal, hvouched.canonical (hengine id), InputScript.replay]
    · have hhash := hother.hashAt_last (by omega)
      rw [UInt32.ofNat_toNat] at hhash
      rw [hhash, hfinal, hvouched.agreed]
  · have hsettled : (network.peer id).Settled := by
      rw [PeerDriver.Settled, (hcoherent.honest id).config_eq]
      exact hconfirmed
    exact ⟨_, buildReplay_eq (hcoherent.small id) ((hcoherent.honest id).confirmed hsettled)⟩
  · have hsame : ∀ id, SameMatch (m.config id) (m.config (remoteId id)) := fun id =>
      (hcoherent.stands (hphase id)).same (by rw [hphase]; decide)
    by_cases htransport : (m.config .a).transportSeed = (m.config .b).transportSeed
    swap
    · have hother : ∀ id, (m.config (remoteId id)).transportSeed ≠ (m.config id).transportSeed := by
        intro id
        cases id
        · exact Ne.symm htransport
        · exact htransport
      exact Or.inr ⟨htransport, fun id => digestsCollide (by rw [m.id_eq, m.id_eq]) (hengine id)
        (hsame id).digest (hother id)⟩
    have hsame := hsame .a
    have hvouched := fun id => ((hcoherent.stands (hphase id)).finished (hphase id)).1.replay
    have hscript : (m.config .b).script = (m.config .a).script := by
      rw [PeerConfig.script, PeerConfig.script, ← hsame.scenario]
      rfl
    refine Or.inl ?_
    rw [hvouched .a, hvouched .b, hscript, ← htransport, ← hsame.scenario, ← hsame.frames]
    rfl

/-- Two transport seeds with one digest. -/
def collidingMatch : PeerMatch where
  config id :=
    { id
      transportSeed := if id = .a then 8153660849634089052 else 12588655730897351311
      frameCount := 1
      engineAbiVersion := 1 }
  session id := { localPeer := id }
  id_eq _ := rfl
  initial _ := rfl
  window _ := Nat.le_refl 120

theorem collidingMatch_opening : Reachable collidingMatch allows (opening collidingMatch) :=
  .opening fun id => by cases id <;> decide

/-- Both peers of that match at its end. -/
def collided : PeerNetwork :=
  (opening collidingMatch).play collidingMatch
    ([(.a, 0, []), (.b, 0, [0]), (.a, 0, [0]), (.a, 1, []), (.b, 1, [3]), (.a, 2, [2]), (.a, 3, []),
      (.b, 3, [5])] ++ (List.replicate 15 [(.a, 5, []), (.b, 5, [])]).flatten)

theorem collided_reachable : Reachable collidingMatch (fun _ id socket => Faultless collidingMatch id socket)
    collided := collidingMatch_opening.play (forward_faultless collidingMatch) _

theorem collided_finished (id : PlayerId) : (collided.peer id).observation.phase = .finished := by
  have hfinished : (collided.peer .a).observation.phase = .finished ∧
      (collided.peer .b).observation.phase = .finished := by decide +kernel
  cases id
  · exact hfinished.1
  · exact hfinished.2

theorem finished_peers_truthful_collided :
    (∃ replay, decodeReplay (collided.peer .a).artifacts.replay = .ok replay ∧
      (collided.peer .a).runtime.session.report.finalHash = replay.expectedFinalHash) ∧
    ((collided.peer .a).artifacts.replay = (collided.peer .b).artifacts.replay ∨
      (collidingMatch.config .a).transportSeed ≠ (collidingMatch.config .b).transportSeed ∧
        ∀ id, DigestsCollide (collidingMatch.config id) (collidingMatch.config (remoteId id))) := by
  obtain ⟨htruthful, -, hreplays⟩ := finished_peers_truthful
    (fun id => by cases id <;> decide) collided_reachable
  obtain ⟨-, replay, hdecode, -, hfinal, -⟩ := htruthful .a (collided_finished .a)
  exact ⟨⟨replay, hdecode, hfinal⟩, hreplays collided_finished⟩

/-- The digest is all that two peers compare of their transport seeds. -/
theorem finished_replays_differ : (∀ id, (collidingMatch.config id).engineAbiVersion ≠ 0) ∧
    Reachable collidingMatch (fun _ id socket => Faultless collidingMatch id socket) collided ∧
    (∀ id, (collided.peer id).observation.phase = .finished) ∧
    (collided.peer .a).artifacts.replay ≠ (collided.peer .b).artifacts.replay := by
  have hdecode : ∀ id, decodeReplay (collided.peer id).artifacts.replay =
      .ok ((collidingMatch.config id).script.replay (collidingMatch.config id).scenarioSeed
        (collidingMatch.config id).transportSeed (collidingMatch.config id).frameCount.toNat) := by
    intro id
    have hvouched := (collided_reachable.coherent.stands (collided_finished id)).finished
      (collided_finished id)
    rw [hvouched.1.replay]
    exact InputScript.decodeReplay_replay (by cases id <;> decide)
      fun _ _ => scriptedInput_buttons _ _ _
  refine ⟨fun id => by cases id <;> decide, collided_reachable, collided_finished, fun hsame => ?_⟩
  have hequal := hdecode .a
  rw [hsame, hdecode .b] at hequal
  have htransport := congrArg Replay.transportSeed (Except.ok.inj hequal)
  rw [InputScript.replay, InputScript.replay] at htransport
  revert htransport
  decide

end RollbackLab.PeerNetwork
