import RollbackLab.RelayedMatch
import RollbackLab.ReportMatching

/-!
# The processes of two peers

Each peer of a match behind a relay is a process of its own. It steps its driver round after
round until the match is finished or has failed, writes what the match has left, and ends with
an exit code.
-/

namespace RollbackLab

/-- What exit codes count errors by. -/
def ErrorCode.number (code : ErrorCode) : ℤ := code.ctorIdx

/-- The report of a peer that serves no engine. -/
def PeerDriver.reportJson (driver : PeerDriver) : List UInt8 :=
  match driver.artifacts.report with
  | none => []
  | some report => (canonicalJson report).toOption.getD []

/-! ## The run of a peer -/

/-- A process with the files that it has written. The marker of a desync may also be there when
it could not be written to its end. -/
structure PeerProcess where
  driver : PeerDriver
  exit : Option ℤ := none
  report : Option (List UInt8) := none
  replay : Option (List UInt8) := none
  diagnostic : Bool := false

namespace PeerProcess

def exitCode : Result ℤ → ℤ
  | .ok code => code
  | .error error => 40 + error.code.number

def finish (process : PeerProcess) (result : Result ℤ) : PeerProcess :=
  { process with exit := some (exitCode result) }

/-- What follows from the result of a step, where `written` tells whether the system has
written the files to their end. -/
def conclude (process : PeerProcess) (written : Bool) : Result PeerStep → PeerProcess
  | .error error =>
    if error.code = .desync then
      { process with diagnostic := true }.finish
        (.error (if written then error else ⟨.ioError, 0, 0, "udp_desync_file"⟩))
    else process.finish (.error error)
  | .ok step =>
    if step.phase = .finished then
      if written then
        { process with
          report := some process.driver.reportJson
          replay := some process.driver.artifacts.replay }.finish (.ok 0)
      else process.finish (.error ⟨.ioError, 0, 0, "udp_peer_artifacts"⟩)
    else process

/-- One round of `run_peer`. A process that has ended does nothing. -/
def round (process : PeerProcess) (elapsed : UInt64) (written : Bool) (socket : UdpSocket) :
    PeerProcess × UdpSocket :=
  if process.exit.isSome then (process, socket)
  else
    let (result, driver, socket) := process.driver.step elapsed socket
    ({ process with driver }.conclude written result, socket)

/-- What the end of a process tells of its driver. -/
structure Told (process : PeerProcess) : Prop where
  working : process.exit = none → process.diagnostic = false
  finished : process.exit = some 0 → process.driver.observation.phase = .finished ∧
    process.report = some process.driver.reportJson ∧
    process.replay = some process.driver.artifacts.replay
  diagnosed : process.diagnostic = true → ∃ e, process.driver.failure = some e ∧ e.code = .desync

theorem exitCode_error_ne (e : Error) : exitCode (.error e) ≠ 0 := by
  rw [exitCode, ErrorCode.number]
  omega

theorem Told.of_error {process : PeerProcess} (hdiagnosed : process.diagnostic = true →
    ∃ e, process.driver.failure = some e ∧ e.code = .desync) (e : Error) :
    (process.finish (.error e)).Told where
  working := nofun
  finished hexit := absurd (Option.some.inj hexit) (exitCode_error_ne e)
  diagnosed := hdiagnosed

end PeerProcess

namespace PeerDriver

variable {driver next : PeerDriver} {elapsed : UInt64} {socket rest : UdpSocket}

theorem step_ok {step : PeerStep} (h : driver.step elapsed socket = (.ok step, next, rest)) :
    next.observation = step := by
  rw [PeerDriver.step] at h
  split at h
  · cases h
  · split at h
    · cases h
      rfl
    · split at h
      · cases h
      · split at h
        · cases h
        · cases h
          rfl

theorem step_error {e : Error} (h : driver.step elapsed socket = (.error e, next, rest)) :
    next.failure = some e ∨ e = clockReversed elapsed := by
  rw [PeerDriver.step] at h
  split at h
  next hfailure =>
    cases h
    exact Or.inl hfailure
  · split at h
    · cases h
    · split at h
      · cases h
        exact Or.inr rfl
      · split at h
        · cases h
          exact Or.inl rfl
        · cases h

end PeerDriver

namespace PeerProcess

variable {process : PeerProcess}

theorem Told.round (h : process.Told) (elapsed : UInt64) (written : Bool) (socket : UdpSocket) :
    (process.round elapsed written socket).1.Told := by
  rw [PeerProcess.round]
  by_cases hexit : process.exit = none
  swap
  · rw [if_pos (Option.isSome_iff_ne_none.2 hexit)]
    exact h
  rw [if_neg (by simp [hexit])]
  have hclean := h.working hexit
  rcases hstep : process.driver.step elapsed socket with ⟨e | step, driver, rest⟩
  · have herror := PeerDriver.step_error hstep
    dsimp only [conclude]
    split
    next hdesync =>
      refine .of_error (fun _ => ?_) _
      rcases herror with hfailure | rfl
      · exact ⟨e, hfailure, hdesync⟩
      · cases hdesync
    next => exact .of_error (fun hmarked => by simp [hclean] at hmarked) _
  · obtain rfl := PeerDriver.step_ok hstep
    dsimp only [conclude]
    split
    next hfinished =>
      split
      · exact ⟨nofun, fun _ => ⟨hfinished, rfl, rfl⟩, fun hmarked => by simp [finish, hclean] at hmarked⟩
      · exact .of_error (fun hmarked => by simp [hclean] at hmarked) _
    next =>
      exact ⟨fun _ => hclean, fun hzero => by simp [hexit] at hzero,
        fun hmarked => by simp [hclean] at hmarked⟩

end PeerProcess

/-! ## Both processes and the relay -/

structure DemoNetwork where
  process : PlayerId → PeerProcess
  status : RelayStatus
  wires : List Wire

namespace DemoNetwork

open RelayedNetwork (Hands Around Move wiresFrom)

/-- What of the processes plays the match. -/
def drivers (network : DemoNetwork) : RelayedNetwork where
  peer id := (network.process id).driver
  status := network.status
  wires := network.wires

def stepProcess (m : RelayedMatch) (network : DemoNetwork) (id : PlayerId) (elapsed : UInt64)
    (written : Bool) (socket : UdpSocket) : DemoNetwork :=
  let (process, socket) := (network.process id).round elapsed written socket
  { network with
    process := Function.update network.process id process
    wires := network.wires ++ wiresFrom (m.relay.peerPort id) socket }

/-- Every interleaving of rounds of the two processes and what happens beside them. -/
inductive Reachable (m : RelayedMatch) : DemoNetwork → Prop
  | start {peer : PlayerId → PeerDriver} (h : ∀ id, ∃ bound,
      PeerDriver.create (m.base.config id) (.create (m.base.session id)) bound = .ok (peer id)) :
      Reachable m ⟨fun id => { driver := peer id }, .running, []⟩
  | process {network : DemoNetwork} (id : PlayerId) (elapsed : UInt64) (written : Bool)
      (socket : UdpSocket) (h : Reachable m network)
      (hhands : network.drivers.Hands (m.relay.peerPort id) socket) :
      Reachable m (network.stepProcess m id elapsed written socket)
  | around {network : DemoNetwork} {next : RelayedNetwork} (h : Reachable m network)
      (haround : Around m network.drivers next) :
      Reachable m { network with status := next.status, wires := next.wires }

variable {m : RelayedMatch} {network : DemoNetwork}

theorem conclude_driver (process : PeerProcess) (written : Bool) (result : Result PeerStep) :
    (process.conclude written result).driver = process.driver := by
  rcases result with e | step
  · rw [PeerProcess.conclude]
    split <;> rfl
  · rw [PeerProcess.conclude]
    split
    · split <;> rfl
    · rfl

theorem drivers_stepProcess {id : PlayerId} {socket : UdpSocket}
    (hfresh : socket.sent = []) (elapsed : UInt64) (written : Bool) :
    (network.stepProcess m id elapsed written socket).drivers = network.drivers ∨
    (network.stepProcess m id elapsed written socket).drivers =
      network.drivers.stepPeer m id elapsed socket := by
  rw [stepProcess, PeerProcess.round, RelayedNetwork.stepPeer]
  by_cases hended : (network.process id).exit.isSome = true
  · rw [if_pos hended]
    left
    simp only [drivers, Function.update_eq_self, wiresFrom, hfresh, List.map_nil, List.append_nil]
  · rw [if_neg hended]
    right
    simp only [drivers, RelayedNetwork.mk.injEq, and_true]
    funext other
    rcases eq_or_eq_remoteId id other with rfl | rfl
    · simp only [Function.update_self, conclude_driver]
    · simp only [Function.update_of_ne (remoteId_ne id)]

/-- The drivers of the processes play a match behind the relay. -/
theorem Reachable.drivers (h : Reachable m network) : RelayedNetwork.Reachable m network.drivers := by
  induction h with
  | start h => exact .create h
  | process id elapsed written socket _ hhands ih =>
    rcases drivers_stepProcess (m := m) hhands.fresh elapsed written with hsame | hstep
    · rw [hsame]
      exact ih
    · rw [hstep]
      exact ih.peer id elapsed socket hhands
  | @around network next _ haround ih =>
    have hkept : next.peer = network.drivers.peer := by cases haround <;> rfl
    have hnext := ih.around haround
    rcases next with ⟨peer, status, wires⟩
    subst hkept
    exact hnext

/-- What a process has written and returned is what its driver has come to. -/
theorem Reachable.told (h : Reachable m network) (id : PlayerId) : (network.process id).Told := by
  induction h with
  | start _ => exact ⟨fun _ => rfl, nofun, nofun⟩
  | process other elapsed written socket _ _ ih =>
    rw [stepProcess]
    rcases eq_or_eq_remoteId other id with rfl | rfl
    · simp only [Function.update_self]
      exact ih.round elapsed written socket
    · simp only [Function.update_of_ne (remoteId_ne other)]
      exact ih
  | around _ _ ih => exact ih

/-- One move of a schedule, where the system writes every file to its end. -/
def move (m : RelayedMatch) (network : DemoNetwork) : Move → DemoNetwork
  | .peer id elapsed picks =>
    network.stepProcess m id elapsed true (network.drivers.arriving (m.relay.peerPort id) picks)
  | .relay picks =>
    let next := network.drivers.move m (.relay picks)
    { network with status := next.status, wires := next.wires }

def play (m : RelayedMatch) (network : DemoNetwork) (moves : List Move) : DemoNetwork :=
  moves.foldl (move m) network

theorem Reachable.move (h : Reachable m network) (move : Move) : Reachable m (network.move m move) := by
  cases move with
  | peer id elapsed picks => exact h.process id elapsed true _ (network.drivers.arriving_hands _ _)
  | relay picks =>
    dsimp only [DemoNetwork.move, RelayedNetwork.move]
    split
    next hrunning => exact h.around (.relay _ hrunning (network.drivers.arriving_hands _ _))
    · exact h

theorem Reachable.play (h : Reachable m network) (moves : List Move) :
    Reachable m (network.play m moves) :=
  List.foldlRecOn moves _ h fun _ hnext move _ => hnext.move move

end DemoNetwork

/-! ## What a finished peer reports -/

namespace PeerDriver

variable {driver next : PeerDriver} {elapsed : UInt64} {socket rest : UdpSocket}

/-- A finished driver has the artifacts of its runtime. -/
def Reported (driver : PeerDriver) : Prop :=
  driver.observation.phase = .finished →
    driver.runtime.buildArtifacts driver.config = .ok driver.artifacts

theorem shakeHands_reported (hphase : driver.observation.phase = .handshake)
    (h : driver.shakeHands elapsed socket = (.ok (), next, rest)) : next.Reported := by
  rw [shakeHands] at h
  intro hfinished
  exfalso
  split at h
  · cases h
  generalize hsend : socket.sendLoopback _ _ = call at h
  rcases call with ⟨_ | _, sent⟩
  · cases h
  dsimp only at h
  generalize hreceive : sent.receive = call at h
  rcases call with ⟨_ | _ | datagram, received⟩
  · cases h
  · cases h
    rw [hphase] at hfinished
    cases hfinished
  dsimp only at h
  split at h
  · cases h
  · split at h
    · cases h
    · split at h
      · cases h
      · cases h
        cases hfinished

theorem runFrame_reported (hphase : driver.observation.phase = .running)
    (h : driver.runFrame socket = (.ok (), next, rest)) : next.Reported := by
  rw [runFrame] at h
  intro hfinished
  exfalso
  split at h
  · cases h
  dsimp only at h
  split at h
  · cases h
  split at h
  · cases h
  split at h
  · cases h
    cases hfinished
  · cases h
    rw [hphase] at hfinished
    cases hfinished

theorem confirmFinal_reported (hunfinished : driver.observation.phase ≠ .finished)
    (h : driver.confirmFinal socket = (.ok (), next, rest)) : next.Reported := by
  rw [confirmFinal] at h
  intro hfinished
  split at h
  · cases h
  dsimp only at h
  split at h
  · cases h
  split at h
  · split at h
    · split at h
      · cases h
      next hbuild =>
        cases h
        exact hbuild
    · cases h
      exact absurd hfinished hunfinished
  · cases h
    exact absurd hfinished hunfinished

theorem Reported.step (h : driver.Reported) (elapsed : UInt64) (socket : UdpSocket) :
    (driver.step elapsed socket).2.1.Reported := by
  rw [PeerDriver.step]
  split
  · exact h
  split
  · exact h
  next hunfinished =>
  split
  · exact h
  rcases hwork : (driver.accept elapsed).work elapsed socket with ⟨e | _, next, rest⟩
  · exact fun hfinished => by cases hfinished
  · suffices hnext : next.Reported from hnext
    rw [work] at hwork
    split at hwork
    next hphase => exact shakeHands_reported hphase hwork
    rw [run] at hwork
    split at hwork
    · cases hwork
    split at hwork
    next hphase => exact runFrame_reported hphase hwork
    next =>
      exact confirmFinal_reported (show (driver.accept elapsed).observation.phase ≠ .finished from
        hunfinished) hwork

end PeerDriver

namespace PeerNetwork

variable {m : PeerMatch} {allows : PeerNetwork → PlayerId → UdpSocket → Prop} {network : PeerNetwork}

theorem Reachable.reported (h : Reachable m allows network) (id : PlayerId) :
    (network.peer id).Reported := by
  induction h with
  | create h =>
    obtain ⟨bound, hbound⟩ := h id
    intro hfinished
    rw [PeerDriver.create, failIf_bind_ok, bind_ok_iff] at hbound
    obtain ⟨-, -, -, hbound⟩ := hbound
    rw [bind_ok_iff] at hbound
    obtain ⟨hello, -, hbound⟩ := hbound
    dsimp only at hfinished
    rw [← Except.ok.inj hbound] at hfinished
    cases hfinished
  | step other elapsed socket _ _ _ ih =>
    rcases eq_or_eq_remoteId other id with rfl | rfl
    · simp only [PeerNetwork.step, Function.update_self]
      exact ih.step elapsed socket
    · simp only [PeerNetwork.step, Function.update_of_ne (remoteId_ne other)]
      exact ih

end PeerNetwork

theorem PeerRuntime.texts_buildReport (config : PeerConfig) (runtime : PeerRuntime) :
    PeerTexts (runtime.buildReport config) where
  gitSha := Or.inr (List.mem_cons_of_mem _ List.mem_cons_self)
  buildType := List.mem_cons_self
  compiler := List.mem_cons_of_mem _ (List.mem_cons_of_mem _ List.mem_cons_self)
  os := List.mem_cons_of_mem _ List.mem_cons_self
  desyncResult := rfl
  failureReason := by
    change (if (runtime.buildReport config).success then [] else _) ∈ _
    split
    · exact List.mem_cons_self
    · exact List.mem_cons_of_mem _ List.mem_cons_self

/-- What the artifacts of a runtime say. -/
theorem PeerRuntime.buildArtifacts_report {config : PeerConfig} {runtime : PeerRuntime}
    {artifacts : PeerArtifacts} (h : runtime.buildArtifacts config = .ok artifacts) :
    artifacts.report = some (runtime.buildReport config) ∧
      (runtime.buildReport config).success = true := by
  rw [PeerRuntime.buildArtifacts, bind_ok_iff] at h
  obtain ⟨replay, -, h⟩ := h
  rw [bind_ok_iff] at h
  obtain ⟨-, -, h⟩ := h
  rw [bind_ok_iff] at h
  obtain ⟨encoded, -, h⟩ := h
  rw [failIf_bind_ok] at h
  obtain ⟨-, h⟩ := h
  rw [failIf_bind_ok] at h
  obtain ⟨hsuccess, h⟩ := h
  rw [← Except.ok.inj h]
  exact ⟨rfl, by simpa using hsuccess⟩

theorem PeerRuntime.buildReport_success {config : PeerConfig} {runtime : PeerRuntime}
    (h : (runtime.buildReport config).success = true) :
    (runtime.buildReport config).confirmedFrame = ⟨config.frameCount⟩ ∧
      (runtime.buildReport config).finalHashA = runtime.session.report.finalHash := by
  rw [PeerRuntime.buildReport] at h ⊢
  dsimp only at h ⊢
  simp only [Bool.and_eq_true, beq_iff_eq] at h
  refine ⟨h.2, ?_⟩
  split
  · rfl
  next hid =>
    have hagree := h.1.2
    rw [if_neg hid, if_neg hid] at hagree
    exact hagree

/-! ## The files of a finished match -/

namespace DemoNetwork

variable {m : RelayedMatch} {network : DemoNetwork}

/-- What a process leaves that has ended well: the replay of the match, and a report that names
the last frame and the hash of its world, which is that of the partner. -/
structure Leaves (m : RelayedMatch) (id : PlayerId) (process : PeerProcess) : Prop where
  same : SameMatch (m.base.config id) (m.base.config (remoteId id))
  small : (m.base.config id).frameCount.toNat ≤ 256
  replay : process.replay = some ((m.base.config id).script.replay (m.base.config id).scenarioSeed
    (m.base.config id).transportSeed (m.base.config id).frameCount.toNat).wireBytes
  report : ∃ written, process.report = some written ∧
    reportMatches written (m.base.config id).frameCount
      (hashCanonical ((m.base.config id).script.worldAt (m.base.session id).variant
        (m.base.config id).frameCount.toNat)) = true
  agreed : hashCanonical ((m.base.config id).script.worldAt (m.base.session id).variant
      (m.base.config id).frameCount.toNat) =
    hashCanonical ((m.base.config id).script.worldAt (m.base.session (remoteId id)).variant
      (m.base.config id).frameCount.toNat)

theorem Reachable.leaves (h : Reachable m network) {id : PlayerId}
    (hexit : (network.process id).exit = some 0) : Leaves m id (network.process id) := by
  obtain ⟨hphase, hreport, hreplay⟩ := (h.told id).finished hexit
  obtain ⟨plain, hplain⟩ := h.drivers.refines
  have hcoherent := hplain.reachable.coherent
  have hpeer : plain.peer id = (network.process id).driver := congrFun hplain.peer id
  rw [← hpeer] at hphase hreport hreplay
  obtain ⟨hsame, -, hfinished⟩ := hcoherent.stands hphase
  obtain ⟨hvouched, hsettled, -⟩ := hfinished hphase
  have hbuild := hplain.reachable.reported id hphase
  rw [(hcoherent.honest id).config_eq] at hbuild
  obtain ⟨htold, hsuccess⟩ := PeerRuntime.buildArtifacts_report hbuild
  obtain ⟨hframe, hhash⟩ := PeerRuntime.buildReport_success hsuccess
  have hfinal := ((hcoherent.honest id).confirmed hsettled).report_finalHash (hcoherent.small id)
  refine ⟨hsame (by rw [hphase]; decide), hcoherent.small id, hvouched.replay ▸ hreplay,
    ⟨_, hreport, ?_⟩, hvouched.agreed⟩
  rw [PeerDriver.reportJson, htold]
  refine (reportMatches_iff (PeerRuntime.texts_buildReport _ _) rfl _ _).2 ⟨hsuccess, ?_, Or.inl ?_⟩
  · rw [hframe]
  · exact hhash.trans hfinal

end DemoNetwork

end RollbackLab
