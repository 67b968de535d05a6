import RollbackLab.Arguments
import RollbackLab.PeerProcesses

/-!
# The supervisor of a match over sockets

One process reserves three ports, starts a relay and two peers on them, waits for the peers
under a watchdog, stops the relay, and confirms the match from the files that the peers leave.
What the operating system answers to it is given from outside.
-/

namespace RollbackLab

open Numeral (text)

structure UdpDemoResult where
  relayPid : UInt32
  peerAPid : UInt32
  peerBPid : UInt32
  relayPort : UInt16
  peerAPort : UInt16
  peerBPort : UInt16
  confirmedFrame : FrameNumber
  finalHashA : StateHash
  finalHashB : StateHash
  replayVerified : Bool
  relayExitCode : ℤ
  peerAExitCode : ℤ
  peerBExitCode : ℤ
  deriving DecidableEq, Repr

/-- The answers of the operating system, in the order in which they are asked for where there
are several. The rounds of a loop end with its deadline. -/
structure DemoHost where
  directory : Except UInt64 (List UInt8)
  ports : List (Result UInt16)
  spawn : List UInt8 → List (List UInt8) → Result UInt32
  ready : List (Bool × Result (Option ℤ))
  rounds : ℕ
  polls : PlayerId → List (Result (Option ℤ))
  diagnostic : PlayerId → Bool
  control : Result UInt16
  send : UInt16 → List UInt8 → Result Unit
  relayEnd : Result (Option ℤ)
  replay : PlayerId → Result (List UInt8)
  report : PlayerId → Result (List UInt8)

namespace DemoSupervisor

/-! ## The plan -/

/-- A socket is bound to any free port and closed again. -/
def reservePort (ports : List (Result UInt16)) : Result UInt16 × List (Result UInt16) :=
  (ports.headD (.error ⟨.ioError, 0, 0, "bind"⟩), ports.tail)

def chooseRelayPort (config : UdpDemoConfig) (ports : List (Result UInt16)) :
    Result UInt16 × List (Result UInt16) :=
  match config.forcedRelayPort with
  | some port => (.ok port, ports)
  | none => reservePort ports

def reserveDistinct (first second : UInt16) : (attempts : ℕ) → List (Result UInt16) →
    Result { port : UInt16 // port ≠ first ∧ port ≠ second } × List (Result UInt16)
  | 0, ports => (.error ⟨.capacityExceeded, 16, 0, "udp_port_reservation"⟩, ports)
  | attempts + 1, ports =>
    match reservePort ports with
    | (.error error, ports) => (.error error, ports)
    | (.ok port, ports) =>
      if h : port ≠ first ∧ port ≠ second then (.ok ⟨port, h⟩, ports)
      else reserveDistinct first second attempts ports

/-- Where the three processes work. -/
structure DemoPlan where
  directory : List UInt8
  relay : RelayConfig
  peers_apart : relay.peerAPort ≠ relay.peerBPort
  relay_apart : ∀ id, relay.relayPort ≠ relay.peerPort id

def planDemo (config : UdpDemoConfig) (host : DemoHost) : Result DemoPlan := do
  failIf (config.executablePath = [] ∨ config.frameCount = 0 ∨
      kHistoryCapacity < config.frameCount.toNat ∨ config.watchdogMilliseconds < 200)
    ⟨.invalidArgument, config.frameCount.toUInt64, 0, "udp_demo_config"⟩
  let directory ← host.directory.mapError fun code => ⟨.ioError, code, 0, "udp_output_directory"⟩
  let chosen := chooseRelayPort config host.ports
  let relayPort ← chosen.1
  let reservedA := reserveDistinct relayPort 0 16 chosen.2
  let peerAPort ← reservedA.1
  let reservedB := reserveDistinct relayPort peerAPort.1 16 reservedA.2
  let peerBPort ← reservedB.1
  pure ⟨directory, ⟨relayPort, peerAPort.1, peerBPort.1⟩, peerBPort.2.2.symm, fun id => by
    cases id
    · exact peerAPort.2.1.symm
    · exact peerBPort.2.1.symm⟩

namespace DemoPlan

def file (plan : DemoPlan) (name : List UInt8) : List UInt8 :=
  if plan.directory.getLast? = some 47 then plan.directory ++ name
  else plan.directory ++ text "/" ++ name

def peerFile (plan : DemoPlan) (id : PlayerId) (name : List UInt8) : List UInt8 :=
  plan.file ((if id = .a then text "peer-a-" else text "peer-b-") ++ name)

def readyFile (plan : DemoPlan) : List UInt8 := plan.file (text "relay.ready")
def reportFile (plan : DemoPlan) (id : PlayerId) : List UInt8 := plan.peerFile id (text "report.json")
def replayFile (plan : DemoPlan) (id : PlayerId) : List UInt8 := plan.peerFile id (text "input.rlr")
def diagnosticFile (plan : DemoPlan) (id : PlayerId) : List UInt8 :=
  plan.peerFile id (text "desync.json")

end DemoPlan

/-- Only the second peer may be of another version. -/
def protocolVersion (config : UdpDemoConfig) : PlayerId → UInt16
  | .a => kProtocolVersion.toUInt16
  | .b => config.peerBProtocolVersion

def simulationVersion (config : UdpDemoConfig) : PlayerId → UInt32
  | .a => kSimulationVersion
  | .b => config.peerBSimulationVersion

def variant (config : UdpDemoConfig) : PlayerId → SimulationVariant
  | .a => .canonical
  | .b => config.peerBVariant

def relayLaunch (config : UdpDemoConfig) (plan : DemoPlan) : List (List UInt8) :=
  relayArguments config plan.relay.relayPort plan.relay.peerAPort plan.relay.peerBPort plan.readyFile

def peerLaunch (config : UdpDemoConfig) (plan : DemoPlan) (id : PlayerId) : List (List UInt8) :=
  peerArguments config id (plan.relay.peerPort id) plan.relay.relayPort (plan.reportFile id)
    (plan.replayFile id) (plan.diagnosticFile id) (protocolVersion config id)
    (simulationVersion config id) (variant config id)

/-! ## The watch -/

/-- Wait for the relay, round after round until the deadline. -/
def waitForReady (timeout : UInt32) : List (Bool × Result (Option ℤ)) → Result Unit
  | [] => .error ⟨.timeout, timeout.toUInt64, 0, "relay_ready"⟩
  | (true, _) :: _ => .ok ()
  | (false, .error error) :: _ => .error error
  | (false, .ok (some code)) :: _ => .error ⟨.childFailure, UInt64.ofInt code, 0, "relay_start"⟩
  | (false, .ok none) :: rest => waitForReady timeout rest

/-- Ask for an exit code that is not known yet. -/
def poll (asked : Bool) (exit : Option ℤ) (answers : List (Result (Option ℤ))) :
    Result (Option ℤ) :=
  if asked ∧ exit = none then answers.headD (.ok none) else .ok exit

def awaitPeers (launchB : Bool) : (rounds : ℕ) → (exitA exitB : Option ℤ) →
    (answersA answersB : List (Result (Option ℤ))) → Result (Option ℤ × Option ℤ)
  | 0, exitA, exitB, _, _ => .ok (exitA, exitB)
  | rounds + 1, exitA, exitB, answersA, answersB =>
    if exitA ≠ none ∧ (launchB = true → exitB ≠ none) then .ok (exitA, exitB)
    else do
      let exitA ← poll true exitA answersA
      let exitB ← poll launchB exitB answersB
      awaitPeers launchB rounds exitA exitB answersA.tail answersB.tail

/-- What becomes of the exit codes when the waiting is over. -/
def judgeExits (config : UdpDemoConfig) (host : DemoHost) (exitA exitB : Option ℤ) : Result Unit :=
  let desyncDetected := host.diagnostic .a || host.diagnostic .b
  if exitA = none ∨ config.launchPeerB = true ∧ exitB = none then
    .error ⟨if desyncDetected then .desync else .timeout, config.watchdogMilliseconds.toUInt64, 0,
      if desyncDetected then "udp_peer_desync" else "udp_demo_watchdog"⟩
  else if exitA ≠ some 0 ∨ config.launchPeerB = false ∨ exitB ≠ some 0 then
    let peerAFailed : Bool := exitA ≠ some 0
    .error ⟨if desyncDetected then .desync else .childFailure,
      UInt64.ofInt (if peerAFailed then exitA.getD 0 else exitB.getD (-1)), 0,
      if desyncDetected then "udp_peer_desync"
      else if peerAFailed then "udp_peer_a_exit" else "udp_peer_b_exit"⟩
  else .ok ()

def judgeRelay (relayEnd : Result (Option ℤ)) : Result ℤ :=
  match relayEnd with
  | .ok (some 0) => .ok 0
  | _ => .error ⟨.childFailure, 0, 0, "udp_relay_exit"⟩

/-! ## The verdict -/

/-- Both replays are the same and verify, and both reports match them. -/
def judgeFiles (config : UdpDemoConfig) (host : DemoHost) : Result StateHash :=
  match host.replay .a, host.replay .b, host.report .a, host.report .b with
  | .ok bytesA, .ok bytesB, .ok textA, .ok textB =>
    match decodeReplay bytesA, decodeReplay bytesB with
    | .ok decodedA, .ok decodedB => do
      failIf (decodedA ≠ decodedB) ⟨.replayMismatch, 0, 0, "udp_replay_compare"⟩
      let finalHash := decodedA.expectedFinalHash
      failIf (¬((verifyReplay decodedA).isOk ∧ (verifyReplay decodedB).isOk ∧
          reportMatches textA config.frameCount finalHash ∧
          reportMatches textB config.frameCount finalHash))
        ⟨.replayMismatch, finalHash, 0, "udp_report_validation"⟩
      pure finalHash
    | _, _ => .error ⟨.replayMismatch, 0, 0, "udp_replay_compare"⟩
  | _, _, _, _ => .error ⟨.ioError, 0, 0, "udp_demo_artifacts"⟩

def spawnPeerB (config : UdpDemoConfig) (host : DemoHost) (plan : DemoPlan) : Result UInt32 :=
  if config.launchPeerB then host.spawn config.executablePath (peerLaunch config plan .b) else .ok 0

def runUdpDemo (config : UdpDemoConfig) (host : DemoHost) : Result UdpDemoResult := do
  let plan ← planDemo config host
  let relayPid ← host.spawn config.executablePath (relayLaunch config plan)
  waitForReady (min config.watchdogMilliseconds 1000) host.ready
  let peerAPid ← host.spawn config.executablePath (peerLaunch config plan .a)
  let peerBPid ← spawnPeerB config host plan
  let (exitA, exitB) ← awaitPeers config.launchPeerB host.rounds none none (host.polls .a)
    (host.polls .b)
  judgeExits config host exitA exitB
  let _ ← host.control
  host.send plan.relay.relayPort Relay.stopMessage
  let relayExitCode ← judgeRelay host.relayEnd
  let finalHash ← judgeFiles config host
  pure
    { relayPid, peerAPid, peerBPid
      relayPort := plan.relay.relayPort
      peerAPort := plan.relay.peerAPort
      peerBPort := plan.relay.peerBPort
      confirmedFrame := ⟨config.frameCount⟩
      finalHashA := finalHash
      finalHashB := finalHash
      replayVerified := true
      relayExitCode
      peerAExitCode := exitA.getD 0
      peerBExitCode := exitB.getD 0 }

/-! ## What the processes are told -/

/-- The match that the supervisor means. A variant that is neither of the two known ones is
passed on as the biased one. -/
def relayedMatch (config : UdpDemoConfig) (plan : DemoPlan) : RelayedMatch where
  base :=
    { config := fun id =>
        { id
          relayPort := plan.relay.relayPort
          scenarioSeed := config.scenarioSeed
          transportSeed := config.transportSeed
          frameCount := config.frameCount
          protocolVersionOverride := protocolVersion config id
          simulationVersionOverride := simulationVersion config id
          handshakeTimeoutMilliseconds := config.handshakeMilliseconds
          runTimeoutMilliseconds := config.watchdogMilliseconds }
      session := fun id =>
        { localPeer := id
          variant := if variant config id = .canonical then .canonical else .damageBias }
      id_eq := fun _ => rfl
      initial := fun _ => rfl
      window := PeerNetwork.plainMatch.window }
  relay := plan.relay
  peers_apart := plan.peers_apart
  relay_apart := plan.relay_apart
  relayed _ := rfl

theorem DemoPlan.path_file {plan : DemoPlan} (hdirectory : plan.directory.head? = some 47)
    (name : List UInt8) : PathArgument (plan.file name) := by
  have hhead : (plan.file name).head? = some 47 := by
    rw [DemoPlan.file]
    split
    · rw [List.head?_append, hdirectory]
      rfl
    · rw [List.append_assoc, List.head?_append, hdirectory]
      rfl
  refine ⟨?_, fun hempty => ?_⟩
  · rw [Ordinary, hhead]
    decide
  · rw [hempty] at hhead
    cases hhead

/-- The relay and the two peers read back from their command lines the match that the supervisor
means, each with the port that is reserved for it, but with a seed beyond 32 bits both peers
refuse theirs. -/
theorem launched_match_understood (config : UdpDemoConfig) (plan : DemoPlan)
    (hexecutable : Ordinary config.executablePath) (hdirectory : plan.directory.head? = some 47) :
    relayCommand (config.executablePath :: relayLaunch config plan) =
      some ⟨(relayedMatch config plan).relay, plan.readyFile, config.watchdogMilliseconds + 1000⟩ ∧
    ∀ id, peerCommand (config.executablePath :: peerLaunch config plan id) =
      if config.scenarioSeed.toNat < 2 ^ 32 ∧ config.transportSeed.toNat < 2 ^ 32 then
        some
          { config := (relayedMatch config plan).base.config id
            listenPort := (relayedMatch config plan).relay.peerPort id
            variant := ((relayedMatch config plan).base.session id).variant
            reportPath := plan.reportFile id
            replayPath := plan.replayFile id
            diagnosticPath := plan.diagnosticFile id }
      else none := by
  refine ⟨relayCommand_relayArguments config _ _ _ hexecutable (plan.path_file hdirectory _),
    fun id => ?_⟩
  exact peerCommand_peerArguments config id _ _ _ _ _ hexecutable (plan.path_file hdirectory _)
    (plan.path_file hdirectory _) (plan.path_file hdirectory _)

def plainConfig : UdpDemoConfig := { executablePath := text "/bin/rollback_lab" }

def plainPlan : DemoPlan where
  directory := text "/tmp"
  relay := RelayedNetwork.relayedPlain.relay
  peers_apart := RelayedNetwork.relayedPlain.peers_apart
  relay_apart := RelayedNetwork.relayedPlain.relay_apart

theorem launched_match_understood_plain : ∃ peer,
    peerCommand (plainConfig.executablePath :: peerLaunch plainConfig plainPlan .b) = some peer ∧
      peer.config.scenarioSeed = 0xC0FFEE ∧ peer.listenPort = 40002 :=
  ⟨_, ((launched_match_understood plainConfig plainPlan (by decide) (by decide)).2 .b).trans
    (if_pos (by decide)), rfl, rfl⟩

/-! ## What a verdict tells -/

theorem ErrorsIn.bind {P : ErrorCode → Prop} {α β : Type} {x : Result α} {f : α → Result β}
    (hx : ErrorsIn P x) (hf : ∀ a, x = .ok a → ErrorsIn P (f a)) : ErrorsIn P (x >>= f) := by
  intro e he
  cases h : x with
  | error e' =>
    rw [h] at he
    cases he
    exact hx e h
  | ok a =>
    rw [h] at he
    exact hf a h e he

/-- What the operating system refuses of its own. -/
inductive Raises (host : DemoHost) (e : Error) : Prop
  | port (h : .error e ∈ host.ports)
  | spawn (executable : List UInt8) (arguments : List (List UInt8))
      (h : host.spawn executable arguments = .error e)
  | ready (present : Bool) (h : (present, .error e) ∈ host.ready)
  | poll (id : PlayerId) (h : .error e ∈ host.polls id)
  | control (h : host.control = .error e)
  | send (port : UInt16) (bytes : List UInt8) (h : host.send port bytes = .error e)

/-- The answers are those about the processes of a network that the supervisor has started: whose
exit code is 0 has ended so, and what is read has been written. Other exit codes may also come
from a signal. -/
structure Watches (config : UdpDemoConfig) (plan : DemoPlan) (network : DemoNetwork)
    (host : DemoHost) : Prop where
  planned : planDemo config host = .ok plan
  exit : ∀ id, .ok (some 0) ∈ host.polls id → (network.process id).exit = some 0
  diagnostic : ∀ id, host.diagnostic id = true → (network.process id).diagnostic = true
  replay : ∀ id bytes, host.replay id = .ok bytes → (network.process id).replay = some bytes
  report : ∀ id bytes, host.report id = .ok bytes → (network.process id).report = some bytes
  system : ∀ e, Raises host e → e.code ≠ .replayMismatch ∧ e.code ≠ .desync

theorem poll_cases (asked : Bool) (exit : Option ℤ) (answers : List (Result (Option ℤ))) :
    poll asked exit answers = .ok exit ∨ poll asked exit answers ∈ answers ∨
      poll asked exit answers = .ok none := by
  rw [poll]
  split
  · cases answers with
    | nil => exact Or.inr (Or.inr rfl)
    | cons answer answers => exact Or.inr (Or.inl List.mem_cons_self)
  · exact Or.inl rfl

/-- Each exit code was known before or has been polled. -/
theorem awaitPeers_codes {launchB : Bool} {rounds : ℕ} {exitA exitB a b : Option ℤ}
    {answersA answersB : List (Result (Option ℤ))}
    (h : awaitPeers launchB rounds exitA exitB answersA answersB = .ok (a, b)) (code : ℤ) :
    (a = some code → exitA = some code ∨ .ok (some code) ∈ answersA) ∧
      (b = some code → exitB = some code ∨ .ok (some code) ∈ answersB) := by
  have hpolled : ∀ {asked : Bool} {exit known : Option ℤ} {answers : List (Result (Option ℤ))},
      poll asked exit answers = .ok known → known = some code →
        exit = some code ∨ .ok (some code) ∈ answers := by
    rintro asked exit _ answers hpoll rfl
    rcases poll_cases asked exit answers with hsame | hmem | hnone
    · exact Or.inl (Except.ok.inj (hsame.symm.trans hpoll))
    · exact Or.inr (hpoll ▸ hmem)
    · cases hnone.symm.trans hpoll
  induction rounds generalizing exitA exitB answersA answersB with
  | zero =>
    cases h
    exact ⟨Or.inl, Or.inl⟩
  | succ rounds ih =>
    rw [awaitPeers] at h
    split at h
    · cases h
      exact ⟨Or.inl, Or.inl⟩
    rw [bind_ok_iff] at h
    obtain ⟨knownA, hknownA, h⟩ := h
    rw [bind_ok_iff] at h
    obtain ⟨knownB, hknownB, h⟩ := h
    obtain ⟨hA, hB⟩ := ih h
    refine ⟨fun ha => ?_, fun hb => ?_⟩
    · rcases hA ha with hknown | hmem
      · exact hpolled hknownA hknown
      · exact Or.inr (List.mem_of_mem_tail hmem)
    · rcases hB hb with hknown | hmem
      · exact hpolled hknownB hknown
      · exact Or.inr (List.mem_of_mem_tail hmem)

theorem judgeExits_ok {config : UdpDemoConfig} {host : DemoHost} {exitA exitB : Option ℤ}
    (h : judgeExits config host exitA exitB = .ok ()) :
    exitA = some 0 ∧ config.launchPeerB = true ∧ exitB = some 0 := by
  rw [judgeExits] at h
  split at h
  · cases h
  split at h
  · cases h
  next hgood =>
    rw [not_or, not_or, not_not, not_not, Bool.not_eq_false] at hgood
    exact hgood

theorem judgeRelay_ok {relayEnd : Result (Option ℤ)} {code : ℤ} (h : judgeRelay relayEnd = .ok code) :
    relayEnd = .ok (some 0) ∧ code = 0 := by
  unfold judgeRelay at h
  split at h
  · exact ⟨rfl, (Except.ok.inj h).symm⟩
  · cases h

/-- What a success has gone through. -/
theorem runUdpDemo_ok {config : UdpDemoConfig} {host : DemoHost} {result : UdpDemoResult}
    (h : runUdpDemo config host = .ok result) :
    ∃ plan, planDemo config host = .ok plan ∧ config.launchPeerB = true ∧
      (∀ id, .ok (some 0) ∈ host.polls id) ∧ host.relayEnd = .ok (some 0) ∧
      judgeFiles config host = .ok result.finalHashA ∧
      ∃ relayPid peerAPid peerBPid, result = ⟨relayPid, peerAPid, peerBPid, plan.relay.relayPort,
        plan.relay.peerAPort, plan.relay.peerBPort, ⟨config.frameCount⟩, result.finalHashA,
        result.finalHashA, true, 0, 0, 0⟩ := by
  rw [runUdpDemo, bind_ok_iff] at h
  obtain ⟨plan, hplan, h⟩ := h
  rw [bind_ok_iff] at h
  obtain ⟨relayPid, -, h⟩ := h
  rw [bind_ok_iff] at h
  obtain ⟨-, -, h⟩ := h
  rw [bind_ok_iff] at h
  obtain ⟨peerAPid, -, h⟩ := h
  rw [bind_ok_iff] at h
  obtain ⟨peerBPid, -, h⟩ := h
  rw [bind_ok_iff] at h
  obtain ⟨⟨exitA, exitB⟩, hexits, h⟩ := h
  rw [bind_ok_iff] at h
  obtain ⟨⟨⟩, hjudged, h⟩ := h
  obtain ⟨rfl, hlaunch, rfl⟩ := judgeExits_ok hjudged
  rw [bind_ok_iff] at h
  obtain ⟨-, -, h⟩ := h
  rw [bind_ok_iff] at h
  obtain ⟨-, -, h⟩ := h
  rw [bind_ok_iff] at h
  obtain ⟨relayExitCode, hrelay, h⟩ := h
  rw [bind_ok_iff] at h
  obtain ⟨finalHash, hfiles, h⟩ := h
  obtain ⟨hA, hB⟩ := awaitPeers_codes hexits 0
  obtain ⟨hend, rfl⟩ := judgeRelay_ok hrelay
  rw [← Except.ok.inj h]
  refine ⟨plan, hplan, hlaunch, fun id => ?_, hend, hfiles, relayPid, peerAPid, peerBPid, rfl⟩
  cases id
  · exact (hA rfl).resolve_left nofun
  · exact (hB rfl).resolve_left nofun

def canonicalReplay (config : UdpDemoConfig) : Replay :=
  (InputScript.scripted config.scenarioSeed).replay config.scenarioSeed config.transportSeed
    config.frameCount.toNat

/-- The hash of the world that the canonical simulation of the scripted match ends with. -/
def canonicalHash (config : UdpDemoConfig) : StateHash :=
  hashCanonical ((InputScript.scripted config.scenarioSeed).worldAt .canonical config.frameCount.toNat)

section Verdict

variable {config : UdpDemoConfig} {host : DemoHost} {plan : DemoPlan} {network : DemoNetwork}

/-- The files of two processes that have ended well match each other. -/
theorem judgeFiles_of_files (hreachable : DemoNetwork.Reachable (relayedMatch config plan) network)
    (hwatches : Watches config plan network host) (hexits : ∀ id, .ok (some 0) ∈ host.polls id)
    {bytesA bytesB textA textB : List UInt8}
    (hreplayA : host.replay .a = .ok bytesA) (hreplayB : host.replay .b = .ok bytesB)
    (hreportA : host.report .a = .ok textA) (hreportB : host.report .b = .ok textB) :
    judgeFiles config host = .ok (canonicalHash config) := by
  have hleaves := fun id => hreachable.leaves (hwatches.exit id (hexits id))
  have hsmall : config.frameCount.toNat ≤ 256 := (hleaves .a).small
  have hbytes : ∀ id bytes, host.replay id = .ok bytes → decodeReplay bytes = .ok (canonicalReplay config) := by
    intro id bytes hread
    have hbytes := (hwatches.replay id bytes hread).symm.trans (hleaves id).replay
    dsimp only [relayedMatch, PeerConfig.script] at hbytes
    rw [Option.some.inj hbytes]
    exact InputScript.decodeReplay_replay (by simp only [kMaxReplayFrames]; omega)
      fun _ _ => scriptedInput_buttons _ _ _
  have hcanonical : ∀ id, hashCanonical (((relayedMatch config plan).base.config id).script.worldAt
      ((relayedMatch config plan).base.session id).variant
      ((relayedMatch config plan).base.config id).frameCount.toNat) = canonicalHash config := by
    intro id
    cases id
    · rfl
    · exact (hleaves .b).agreed
  have hmatches : ∀ id written, host.report id = .ok written →
      reportMatches written config.frameCount (canonicalHash config) = true := by
    intro id written hread
    obtain ⟨_, hwritten, hmatches⟩ := (hleaves id).report
    rw [hcanonical] at hmatches
    rw [Option.some.inj ((hwatches.report id written hread).symm.trans hwritten)]
    exact hmatches
  have hverify : verifyReplay (canonicalReplay config) = .ok _ :=
    InputScript.verifyReplay_replay (by omega)
  have hexpected : (canonicalReplay config).expectedFinalHash = canonicalHash config := by
    rw [canonicalReplay, InputScript.replay, canonicalHash]
  rw [judgeFiles, hreplayA, hreplayB, hreportA, hreportB]
  dsimp only
  rw [hbytes .a bytesA hreplayA, hbytes .b bytesB hreplayB]
  dsimp only
  rw [hexpected, failIf_bind_of_not (by simp), failIf_bind_of_not]
  · rfl
  · rw [not_not, hverify]
    exact ⟨rfl, rfl, hmatches .a textA hreportA, hmatches .b textB hreportB⟩

/-- They are never found wrong, at most not found. -/
theorem judgeFiles_of_exits (hreachable : DemoNetwork.Reachable (relayedMatch config plan) network)
    (hwatches : Watches config plan network host) (hexits : ∀ id, .ok (some 0) ∈ host.polls id) :
    judgeFiles config host = .ok (canonicalHash config) ∨
      judgeFiles config host = .error ⟨.ioError, 0, 0, "udp_demo_artifacts"⟩ := by
  by_cases hread : ∃ bytesA bytesB textA textB, host.replay .a = .ok bytesA ∧
      host.replay .b = .ok bytesB ∧ host.report .a = .ok textA ∧ host.report .b = .ok textB
  · obtain ⟨bytesA, bytesB, textA, textB, hreplayA, hreplayB, hreportA, hreportB⟩ := hread
    exact Or.inl (judgeFiles_of_files hreachable hwatches hexits hreplayA hreplayB hreportA hreportB)
  · right
    rw [judgeFiles]
    split
    · exact absurd ⟨_, _, _, _, by assumption, by assumption, by assumption, by assumption⟩ hread
    · rfl

/-! ## Failures -/

section Errors

variable {P : ErrorCode → Prop} {ports : List (Result UInt16)}

theorem errorsIn_reservePort (hio : P .ioError) (h : ∀ e, .error e ∈ ports → P e.code) :
    ErrorsIn P (reservePort ports).1 := by
  intro e he
  cases ports with
  | nil =>
    cases he
    exact hio
  | cons answer ports => exact h e (he ▸ List.mem_cons_self)

theorem reserveDistinct_errors (first second : UInt16) (hio : P .ioError) (hcapacity : P .capacityExceeded)
    (attempts : ℕ) (h : ∀ e, .error e ∈ ports → P e.code) :
    ErrorsIn P (reserveDistinct first second attempts ports).1 ∧
      ∀ e, .error e ∈ (reserveDistinct first second attempts ports).2 → P e.code := by
  induction attempts generalizing ports with
  | zero =>
    refine ⟨?_, h⟩
    rintro e ⟨⟩
    exact hcapacity
  | succ attempts ih =>
    have hrest : ∀ e, .error e ∈ ports.tail → P e.code := fun e hmem => h e (List.mem_of_mem_tail hmem)
    have hport := errorsIn_reservePort hio h
    rw [reserveDistinct]
    rw [reservePort] at hport ⊢
    rcases hhead : ports.headD (.error ⟨.ioError, 0, 0, "bind"⟩) with error | port
    · refine ⟨?_, hrest⟩
      rintro e ⟨⟩
      exact hport error hhead
    · dsimp only
      split
      · exact ⟨nofun, hrest⟩
      · exact ih hrest

theorem errorsIn_planDemo (hargument : P .invalidArgument) (hio : P .ioError)
    (hcapacity : P .capacityExceeded) (h : ∀ e, .error e ∈ host.ports → P e.code) :
    ErrorsIn P (planDemo config host) := by
  rw [planDemo]
  refine errorsIn_bind (errorsIn_failIf hargument) fun _ => errorsIn_bind ?_ fun directory => ?_
  · intro e he
    cases hdirectory : host.directory with
    | error code =>
      rw [hdirectory] at he
      cases he
      exact hio
    | ok directory =>
      rw [hdirectory] at he
      cases he
  have hforced : ErrorsIn P (chooseRelayPort config host.ports).1 ∧
      ∀ e, .error e ∈ (chooseRelayPort config host.ports).2 → P e.code := by
    rw [chooseRelayPort]
    split
    · exact ⟨nofun, h⟩
    · exact ⟨errorsIn_reservePort hio h, fun e hmem => h e (List.mem_of_mem_tail hmem)⟩
  refine errorsIn_bind hforced.1 fun relayPort => ?_
  obtain ⟨hportA, hrest⟩ := reserveDistinct_errors relayPort 0 hio hcapacity 16 hforced.2
  refine errorsIn_bind hportA fun peerAPort => ?_
  obtain ⟨hportB, -⟩ := reserveDistinct_errors relayPort peerAPort.1 hio hcapacity 16 hrest
  exact errorsIn_bind hportB fun _ => errorsIn_pure _

end Errors

theorem waitForReady_errors {P : ErrorCode → Prop} (htimeout : P .timeout) (hchild : P .childFailure)
    {timeout : UInt32} {ready : List (Bool × Result (Option ℤ))}
    (h : ∀ present e, (present, .error e) ∈ ready → P e.code) : ErrorsIn P (waitForReady timeout ready) := by
  induction ready with
  | nil =>
    rintro e ⟨⟩
    exact htimeout
  | cons answer ready ih =>
    rcases answer with ⟨_ | _, error | _ | code⟩
    · rintro e ⟨⟩
      exact h false error List.mem_cons_self
    · exact ih fun present e hmem => h present e (List.mem_cons_of_mem _ hmem)
    · rintro e ⟨⟩
      exact hchild
    all_goals exact nofun

theorem awaitPeers_errors {P : ErrorCode → Prop} {launchB : Bool} {rounds : ℕ} {exitA exitB : Option ℤ}
    {answersA answersB : List (Result (Option ℤ))} (hA : ∀ e, .error e ∈ answersA → P e.code)
    (hB : ∀ e, .error e ∈ answersB → P e.code) :
    ErrorsIn P (awaitPeers launchB rounds exitA exitB answersA answersB) := by
  have hpoll : ∀ {asked : Bool} {exit : Option ℤ} {answers : List (Result (Option ℤ))},
      (∀ e, .error e ∈ answers → P e.code) → ErrorsIn P (poll asked exit answers) := by
    intro asked exit answers hanswers e he
    rcases poll_cases asked exit answers with hsame | hmem | hnone
    · cases hsame.symm.trans he
    · exact hanswers e (he ▸ hmem)
    · cases hnone.symm.trans he
  induction rounds generalizing exitA exitB answersA answersB with
  | zero => exact nofun
  | succ rounds ih =>
    rw [awaitPeers]
    split
    · exact nofun
    · exact errorsIn_bind (hpoll hA) fun _ => errorsIn_bind (hpoll hB) fun _ =>
        ih (fun e hmem => hA e (List.mem_of_mem_tail hmem)) fun e hmem => hB e (List.mem_of_mem_tail hmem)

theorem judgeExits_errors {P : ErrorCode → Prop} (htimeout : P .timeout) (hchild : P .childFailure)
    (hdesync : (∃ id, host.diagnostic id = true) → P .desync) (exitA exitB : Option ℤ) :
    ErrorsIn P (judgeExits config host exitA exitB) := by
  have hflag : (host.diagnostic .a || host.diagnostic .b) = true → P .desync := by
    intro hflag
    rcases (Bool.or_eq_true_iff).1 hflag with h | h
    · exact hdesync ⟨.a, h⟩
    · exact hdesync ⟨.b, h⟩
  rw [judgeExits]
  generalize (host.diagnostic .a || host.diagnostic .b) = flag at hflag ⊢
  cases flag
  all_goals
    dsimp only
    split
    · rintro e ⟨⟩
      first | exact htimeout | exact hflag rfl
    · split
      · rintro e ⟨⟩
        first | exact hchild | exact hflag rfl
      · exact nofun

theorem errorsIn_judgeRelay {P : ErrorCode → Prop} (hchild : P .childFailure) (relayEnd : Result (Option ℤ)) :
    ErrorsIn P (judgeRelay relayEnd) := by
  unfold judgeRelay
  split
  · exact nofun
  · rintro e ⟨⟩
    exact hchild

end Verdict

def briefConfig : UdpDemoConfig := { executablePath := text "/bin/rollback_lab", frameCount := 1 }

/-- The three processes of a match of one frame, just started. -/
def briefOpening : DemoNetwork where
  process id :=
    { driver := PeerDriver.fresh ((relayedMatch briefConfig plainPlan).base.config id)
        ((relayedMatch briefConfig plainPlan).base.session id) }
  status := .running
  wires := []

/-- The match from the hellos to the reports. The first peer has to guess the input of the second
one and is corrected, and both linger until their last frame has been confirmed for long enough. -/
def briefMatch : DemoNetwork :=
  briefOpening.play (relayedMatch briefConfig plainPlan) <|
    [.peer .a 0 [], .relay [0], .peer .b 0 [0], .relay [1], .peer .a 0 [0], .peer .a 1 [], .relay [5],
      .peer .b 1 [1], .relay [6], .peer .a 2 [1], .relay [7], .peer .b 2 [2], .relay [8],
      .peer .a 3 [2], .relay [9], .peer .b 4 [3]] ++
      (List.replicate 15 [.peer .a 5 [], .peer .b 5 []]).flatten

theorem briefMatch_reachable :
    DemoNetwork.Reachable (relayedMatch briefConfig plainPlan) briefMatch := by
  refine DemoNetwork.Reachable.play (.start fun id => ?_) _
  exact ⟨.ok (), PeerDriver.create_fresh (by cases id <;> decide) (by cases id <;> decide)
    (by cases id <;> decide) rfl rfl⟩

/-- A system that refuses nothing and tells of the two processes what they have left. -/
def calmHost (network : DemoNetwork) : DemoHost where
  directory := .ok (text "/tmp")
  ports := [.ok 40000, .ok 40000, .ok 40001, .ok 40002]
  spawn _ _ := .ok 7
  ready := [(false, .ok none), (true, .ok none)]
  rounds := 2
  polls id := [.ok (network.process id).exit]
  diagnostic id := (network.process id).diagnostic
  control := .ok 40003
  send _ _ := .ok ()
  relayEnd := .ok (some 0)
  replay id := (network.process id).replay.elim (.error ⟨.ioError, 0, 0, "udp_read_replay"⟩) .ok
  report id := (network.process id).report.elim (.error ⟨.ioError, 0, 0, "udp_read_report"⟩) .ok

theorem read_ok {file : Option (List UInt8)} {error : Error} {bytes : List UInt8}
    (h : file.elim (.error error) Except.ok = .ok bytes) : file = some bytes := by
  cases file with
  | none => cases h
  | some written => rw [Except.ok.inj h]

section Calm

variable {config : UdpDemoConfig} {plan : DemoPlan} {network : DemoNetwork}

theorem calmHost_watches (hplan : planDemo config (calmHost network) = .ok plan) :
    Watches config plan network (calmHost network) where
  planned := hplan
  exit id h := (Except.ok.inj (List.mem_singleton.1 h)).symm
  diagnostic _ h := h
  replay _ _ h := read_ok h
  report _ _ h := read_ok h
  system e h := by
    cases h with
    | port h => simp [calmHost] at h
    | spawn _ _ h => cases h
    | ready _ h => simp [calmHost] at h
    | poll _ h => cases List.mem_singleton.1 h
    | control h => cases h
    | send _ _ h => cases h

/-- When both processes have ended well, such a system lets the supervisor confirm the match. -/
theorem runUdpDemo_calm (hreachable : DemoNetwork.Reachable (relayedMatch config plan) network)
    (hplan : planDemo config (calmHost network) = .ok plan) (hlaunch : config.launchPeerB = true)
    (hexits : ∀ id, (network.process id).exit = some 0) :
    ∃ result, runUdpDemo config (calmHost network) = .ok result := by
  have hpolls : ∀ id, (calmHost network).polls id = [.ok (some 0)] :=
    fun id => congrArg (fun exit => [Except.ok exit]) (hexits id)
  have hfiles : judgeFiles config (calmHost network) = .ok (canonicalHash config) := by
    have hread : ∀ id, (calmHost network).replay id = .ok (network.process id).driver.artifacts.replay ∧
        (calmHost network).report id = .ok (network.process id).driver.reportJson := by
      intro id
      obtain ⟨-, hreport, hreplay⟩ := (hreachable.told id).finished (hexits id)
      simp [calmHost, hreport, hreplay]
    refine judgeFiles_of_files hreachable (calmHost_watches hplan) (fun id => ?_) (hread .a).1
      (hread .b).1 (hread .a).2 (hread .b).2
    rw [hpolls]
    exact List.mem_cons_self
  have hjudged : judgeExits config (calmHost network) (some 0) (some 0) = .ok () := by
    rw [judgeExits, if_neg (by simp), if_neg (by simp [hlaunch])]
  have hawaited : awaitPeers config.launchPeerB 2 none none ((calmHost network).polls .a)
      ((calmHost network).polls .b) = .ok (some 0, some 0) := by
    rw [hpolls, hpolls, hlaunch]
    rfl
  refine ⟨⟨7, 7, 7, plan.relay.relayPort, plan.relay.peerAPort, plan.relay.peerBPort, ⟨config.frameCount⟩,
    canonicalHash config, canonicalHash config, true, 0, 0, 0⟩, bind_ok_iff.2 ⟨plan, hplan, ?_⟩⟩
  refine bind_ok_iff.2 ⟨7, rfl, bind_ok_iff.2 ⟨(), rfl, bind_ok_iff.2 ⟨7, rfl, ?_⟩⟩⟩
  refine bind_ok_iff.2 ⟨7, if_pos hlaunch, bind_ok_iff.2 ⟨_, hawaited, bind_ok_iff.2 ⟨(), hjudged, ?_⟩⟩⟩
  exact bind_ok_iff.2 ⟨40003, rfl, bind_ok_iff.2 ⟨(), rfl, bind_ok_iff.2 ⟨0, rfl, bind_ok_iff.2
    ⟨canonicalHash config, hfiles, rfl⟩⟩⟩⟩

end Calm

theorem briefMatch_exits (id : PlayerId) : (briefMatch.process id).exit = some 0 := by
  have hexits : (briefMatch.process .a).exit = some 0 ∧ (briefMatch.process .b).exit = some 0 := by
    decide +kernel
  cases id
  · exact hexits.1
  · exact hexits.2

end DemoSupervisor

end RollbackLab
