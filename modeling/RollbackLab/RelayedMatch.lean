import RollbackLab.PeerAgreement
import RollbackLab.Relay

/-!
# Two peers and their relay

Three processes on one machine: the peers of a match, which know only the port of the
relay, and the relay between them. The operating system may lose, repeat, delay and reorder
what is sent from one port to another, and others may send to the relay whatever they like.
For the two peers that is a match over a network that forges nothing.
-/

namespace RollbackLab

/-! ## Where a driver sends -/

/-- Everything that was sent over a socket went to one port. -/
def UdpSocket.Addressed (port : UInt16) (socket : UdpSocket) : Prop :=
  ∀ datagram ∈ socket.sent, datagram.sourcePort = port

namespace UdpSocket.Addressed

variable {port : UInt16} {socket after : UdpSocket}

theorem congr (h : socket.Addressed port) (hsent : after.sent = socket.sent) : after.Addressed port := by
  rw [Addressed, hsent]
  exact h

theorem sendLoopback (h : socket.Addressed port) (bytes : List UInt8) :
    (socket.sendLoopback port bytes).2.Addressed port := by
  have hsent := Relay.sendLoopback_sent socket port bytes
  generalize socket.sendLoopback port bytes = call at hsent ⊢
  rcases call with ⟨e | _, after⟩
  · exact h.congr hsent
  · intro datagram hmem
    rw [show after.sent = _ from hsent] at hmem
    rcases List.mem_append.1 hmem with hold | hnew
    · exact h datagram hold
    · rw [List.mem_singleton.1 hnew]

theorem sendInputs {config : PeerConfig} (h : socket.Addressed config.relayPort) (runtime : PeerRuntime) :
    (runtime.sendInputs config socket).2.2.Addressed config.relayPort := by
  rw [PeerRuntime.sendInputs]
  dsimp only
  cases encodePacket (runtime.inputPacket config) with
  | error e => exact h
  | ok encoded => exact h.sendLoopback encoded

theorem drainAvailable {config : PeerConfig} (h : socket.Addressed port) (runtime : PeerRuntime) :
    (runtime.drainAvailable config socket).2.2.Addressed port := by
  have hdrain : Outcome (fun _ s => True ∧ s.2.sent = socket.sent)
      (fun _ s => True ∧ s.2.sent = socket.sent) (runtime.drain config socket 64) :=
    PeerRuntime.drain_outcome (P := fun _ => True) (Q := fun _ _ => True) (G := fun _ => True)
      (fun _ _ _ _ => .of_state trivial fun _ _ _ => trivial) (fun _ _ _ _ => trivial)
      (fun _ _ => trivial) trivial 64
  exact h.congr (hdrain.mono (fun _ _ hs => hs.2) fun _ _ hs => hs.2).state

theorem shakeHands {driver : PeerDriver} (h : socket.Addressed driver.config.relayPort) (elapsed : UInt64) :
    (driver.shakeHands elapsed socket).2.2.Addressed driver.config.relayPort := by
  have hfirst := h.sendLoopback driver.hello
  rw [PeerDriver.shakeHands]
  split
  · exact h
  generalize socket.sendLoopback driver.config.relayPort driver.hello = call at hfirst ⊢
  rcases call with ⟨e | _, sent⟩
  · exact hfirst
  dsimp only
  rcases hanswer : sent.receive with ⟨answer, rest⟩
  have hrest : rest.Addressed driver.config.relayPort :=
    Addressed.congr hfirst (congrArg (fun s => s.2.sent) hanswer.symm)
  rcases answer with e | _ | datagram
  · exact hrest
  · exact hrest
  dsimp only
  cases decodeDatagram driver.config datagram with
  | error e => exact hrest
  | ok packet =>
    dsimp only
    cases validHello driver.config packet with
    | error e => exact hrest
    | ok _ =>
      have hsecond := hrest.sendLoopback driver.hello
      dsimp only
      generalize rest.sendLoopback driver.config.relayPort driver.hello = call at hsecond ⊢
      rcases call with ⟨e | _, last⟩
      · exact hsecond
      · exact hsecond

theorem of_call {α σ : Type} {call : α × σ × UdpSocket} (h : call.2.2.Addressed port) {result : α}
    {state : σ} (hcall : call = (result, state, after)) : after.Addressed port := by
  rw [hcall] at h
  exact h

theorem runFrame {driver : PeerDriver} (h : socket.Addressed driver.config.relayPort) :
    (driver.runFrame socket).2.2.Addressed driver.config.relayPort := by
  have hdrain := @drainAvailable _ _ driver.config h driver.runtime
  rw [PeerDriver.runFrame]
  generalize driver.runtime.drainAvailable driver.config socket = call at hdrain ⊢
  rcases call with ⟨e | _, runtime, rest⟩
  · exact hdrain
  dsimp only
  split
  · exact hdrain
  split
  next hcall => exact (@sendInputs _ driver.config hdrain _).of_call hcall
  next hcall =>
    have hsent := (@sendInputs _ driver.config hdrain _).of_call hcall
    split
    · exact hsent
    · exact hsent

theorem confirmFinal {driver : PeerDriver} (h : socket.Addressed driver.config.relayPort) :
    (driver.confirmFinal socket).2.2.Addressed driver.config.relayPort := by
  have hsent := @sendInputs _ driver.config h driver.runtime
  rw [PeerDriver.confirmFinal]
  generalize driver.runtime.sendInputs driver.config socket = call at hsent ⊢
  rcases call with ⟨e | _, runtime, sent⟩
  · exact hsent
  have hdrain := @drainAvailable _ _ driver.config hsent runtime
  dsimp only at hdrain ⊢
  generalize runtime.drainAvailable driver.config sent = call at hdrain ⊢
  rcases call with ⟨e | _, runtime, rest⟩
  · exact hdrain
  dsimp only
  split
  · split
    · split
      · exact hdrain
      · exact hdrain
    · exact hdrain
  · exact hdrain

/-- A driver sends to the relay only. -/
theorem step {driver : PeerDriver} (h : socket.Addressed driver.config.relayPort) (elapsed : UInt64) :
    (driver.step elapsed socket).2.2.Addressed driver.config.relayPort := by
  have hwork : ((driver.accept elapsed).work elapsed socket).2.2.Addressed driver.config.relayPort := by
    rw [PeerDriver.work]
    split
    · exact @shakeHands _ (driver.accept elapsed) h elapsed
    rw [PeerDriver.run]
    split
    · exact h
    split
    · exact @runFrame _ (driver.accept elapsed) h
    · exact @confirmFinal _ (driver.accept elapsed) h
  rw [PeerDriver.step]
  split
  · exact h
  split
  · exact h
  split
  · exact h
  generalize (driver.accept elapsed).work elapsed socket = call at hwork ⊢
  rcases call with ⟨e | _, next, rest⟩
  · exact hwork
  · exact hwork

end UdpSocket.Addressed

/-! ## Boundaries that both peers expose -/

/-- Where both peers of a coherent network have the hash of a boundary, they have one world there,
if they simulate alike. -/
theorem PeerNetwork.Coherent.exposed_alike {m : PeerMatch} {network : PeerNetwork}
    (h : Coherent m network) (hscenario : (m.config .a).scenarioSeed = (m.config .b).scenarioSeed)
    (hvariant : (m.session .a).variant = (m.session .b).variant) {boundary : FrameNumber}
    {hashA hashB : StateHash} (hA : (network.peer .a).runtime.session.hashAt boundary = .ok hashA)
    (hB : (network.peer .b).runtime.session.hashAt boundary = .ok hashB) :
    hashA = hashB ∧ ∃ world, (network.peer .a).runtime.session.stateAt boundary = .ok world ∧
      (network.peer .b).runtime.session.stateAt boundary = .ok world := by
  obtain ⟨k, hk, hboundary, hhashA, hstateA⟩ := h.exposed hA
  obtain ⟨j, hj, hboundary', hhashB, hstateB⟩ := h.exposed hB
  have hkj : j = k := by
    have hsame := congrArg (fun frame => frame.value.toNat) (hboundary'.symm.trans hboundary)
    simp only [UInt32.toNat_ofNat'] at hsame
    omega
  have hscript : (m.config .b).script = (m.config .a).script := by
    rw [PeerConfig.script, PeerConfig.script, hscenario]
  rw [hkj, hscript, ← hvariant] at hhashB hstateB
  exact ⟨hhashA.trans hhashB.symm, _, hstateA, hstateB⟩

/-! ## The three processes -/

def RelayConfig.peerPort (config : RelayConfig) : PlayerId → UInt16
  | .a => config.peerAPort
  | .b => config.peerBPort

/-- A match whose peers send to a relay, each process with a port of its own. -/
structure RelayedMatch where
  base : PeerMatch
  relay : RelayConfig
  peers_apart : relay.peerAPort ≠ relay.peerBPort
  relay_apart : ∀ id, relay.relayPort ≠ relay.peerPort id
  relayed : ∀ id, (base.config id).relayPort = relay.relayPort

/-- A datagram on its way between two ports. -/
structure Wire where
  source : UInt16
  destination : UInt16
  bytes : List UInt8
  deriving DecidableEq, Repr

inductive RelayStatus where
  | running | stopped | expired
  | failed (error : Error)
  deriving DecidableEq, Repr

structure RelayedNetwork where
  peer : PlayerId → PeerDriver
  status : RelayStatus
  wires : List Wire

namespace RelayedNetwork

/-- What the system may answer to the calls on a socket: whatever was sent to its port, in any
order and any number of times, and failures of its own. -/
structure Hands (network : RelayedNetwork) (port : UInt16) (socket : UdpSocket) : Prop where
  fresh : socket.sent = []
  carried : ∀ datagram, .ok (some datagram) ∈ socket.receiveResults →
    (⟨datagram.sourcePort, port, datagram.bytes⟩ : Wire) ∈ network.wires
  system : ∀ e, .error e ∈ socket.sendResults ∨ .error e ∈ socket.receiveResults → e.code = .ioError

/-- What a socket at a port has sent, each datagram to the port noted with it. -/
def wiresFrom (port : UInt16) (socket : UdpSocket) : List Wire :=
  socket.sent.map fun datagram => ⟨port, datagram.sourcePort, datagram.bytes⟩

def stepPeer (m : RelayedMatch) (network : RelayedNetwork) (id : PlayerId) (elapsed : UInt64)
    (socket : UdpSocket) : RelayedNetwork :=
  let (_, driver, socket) := (network.peer id).step elapsed socket
  { network with
    peer := Function.update network.peer id driver
    wires := network.wires ++ wiresFrom (m.relay.peerPort id) socket }

def statusAfter : Result Bool → RelayStatus
  | .error error => .failed error
  | .ok true => .stopped
  | .ok false => .running

def stepRelay (m : RelayedMatch) (network : RelayedNetwork) (socket : UdpSocket) : RelayedNetwork :=
  let (result, socket) := Relay.turn m.relay socket
  { network with
    status := statusAfter result
    wires := network.wires ++ wiresFrom m.relay.relayPort socket }

/-- What happens beside the peers: rounds of the relay, its end, and others who send to the
relay from ports of their own. -/
inductive Around (m : RelayedMatch) (network : RelayedNetwork) : RelayedNetwork → Prop
  | relay (socket : UdpSocket) (hrunning : network.status = .running)
      (hhands : network.Hands m.relay.relayPort socket) : Around m network (network.stepRelay m socket)
  | expire (hrunning : network.status = .running) : Around m network { network with status := .expired }
  | outsider (wire : Wire) (hsource : ∀ id, wire.source ≠ m.relay.peerPort id)
      (hdestination : ∀ id, wire.destination ≠ m.relay.peerPort id) :
      Around m network { network with wires := network.wires ++ [wire] }

/-- Every interleaving of steps of the two peers and what happens beside them. -/
inductive Reachable (m : RelayedMatch) : RelayedNetwork → Prop
  | create {peer : PlayerId → PeerDriver} (h : ∀ id, ∃ bound,
      PeerDriver.create (m.base.config id) (.create (m.base.session id)) bound = .ok (peer id)) :
      Reachable m ⟨peer, .running, []⟩
  | peer {network : RelayedNetwork} (id : PlayerId) (elapsed : UInt64) (socket : UdpSocket)
      (h : Reachable m network) (hhands : network.Hands (m.relay.peerPort id) socket) :
      Reachable m (network.stepPeer m id elapsed socket)
  | around {network next : RelayedNetwork} (h : Reachable m network) (haround : Around m network next) :
      Reachable m next

variable {m : RelayedMatch} {network : RelayedNetwork}

theorem peerPort_injective (m : RelayedMatch) {id other : PlayerId}
    (h : m.relay.peerPort id = m.relay.peerPort other) : id = other := by
  have hapart := m.peers_apart
  cases id with
  | a =>
    cases other with
    | a => rfl
    | b => exact absurd h hapart
  | b =>
    cases other with
    | a => exact absurd h.symm hapart
    | b => rfl

/-- The relay knows the two peers by their ports. -/
theorem destination_some {config : RelayConfig} {source port : UInt16}
    (h : Relay.destination config source = some port) :
    ∃ id, source = config.peerPort id ∧ port = config.peerPort (remoteId id) := by
  rw [Relay.destination] at h
  split at h
  next hsource => exact ⟨.a, hsource, (Option.some.inj h).symm⟩
  · split at h
    next hsource => exact ⟨.b, hsource, (Option.some.inj h).symm⟩
    · cases h

/-- Nothing that a peer sends stops the relay. -/
theorem not_isStop_of_says {config : PeerConfig} {variant : SimulationVariant} {settled : Prop}
    {bytes : List UInt8} (h : Says config variant settled bytes) : Relay.isStop bytes = false := by
  have hlength : 6 < bytes.length := by
    rcases h with hhello | ⟨packet, -, hdecode⟩
    · rw [length_encodeHello hhello]
      decide
    · obtain ⟨⟨-, rfl⟩, -⟩ := decodePacket_ok_iff.1 hdecode
      rw [Packet.length_wireBytes]
      simp only [headerSize]
      omega
  rw [Relay.isStop, beq_eq_false_iff_ne]
  rintro rfl
  exact absurd hlength (by decide)

/-! ## The match behind the relay -/

/-- What reaches a peer comes from the port of the relay. -/
def FromRelay (m : RelayedMatch) (_ : PeerNetwork) (_ : PlayerId) (socket : UdpSocket) : Prop :=
  ∀ datagram, .ok (some datagram) ∈ socket.receiveResults → datagram.sourcePort = m.relay.relayPort

/-- The three processes seen as two peers over a network. -/
structure Refines (m : RelayedMatch) (network : RelayedNetwork) (plain : PeerNetwork) : Prop where
  peer : plain.peer = network.peer
  reachable : PeerNetwork.Reachable m.base (FromRelay m) plain
  out : ∀ wire ∈ network.wires, ∀ id, wire.source = m.relay.peerPort id →
    wire.destination = m.relay.relayPort ∧ ∃ sent ∈ plain.sent id, wire.bytes = sent.bytes
  into : ∀ wire ∈ network.wires, ∀ id, wire.destination = m.relay.peerPort id →
    wire.source = m.relay.relayPort ∧ ∃ sent ∈ plain.sent (remoteId id), wire.bytes = sent.bytes
  stopped : network.status = .stopped → ∃ wire ∈ network.wires, wire.bytes = Relay.stopMessage ∧
    ∀ id, wire.source ≠ m.relay.peerPort id

theorem mem_wiresFrom {port : UInt16} {socket : UdpSocket} {wire : Wire} :
    wire ∈ wiresFrom port socket ↔
      ∃ datagram ∈ socket.sent, wire = ⟨port, datagram.sourcePort, datagram.bytes⟩ := by
  rw [wiresFrom, List.mem_map]
  exact exists_congr fun datagram => and_congr_right fun _ => eq_comm

/-- What the system hands to a peer is what a network that forges nothing may deliver. -/
theorem Refines.delivers {plain : PeerNetwork} (h : Refines m network plain) {id : PlayerId}
    {socket : UdpSocket} (hhands : network.Hands (m.relay.peerPort id) socket) :
    plain.Delivers id socket ∧ FromRelay m plain id socket := by
  refine ⟨⟨hhands.fresh, fun datagram hmem => ?_, hhands.system⟩, fun datagram hmem => ?_⟩
  · exact (h.into _ (hhands.carried datagram hmem) id rfl).2
  · exact (h.into _ (hhands.carried datagram hmem) id rfl).1

theorem Refines.stepPeer {plain : PeerNetwork} (h : Refines m network plain) {id : PlayerId}
    {socket : UdpSocket} (hhands : network.Hands (m.relay.peerPort id) socket) (elapsed : UInt64) :
    Refines m (network.stepPeer m id elapsed socket) (plain.step id elapsed socket) := by
  obtain ⟨hdelivers, hrelay⟩ := h.delivers hhands
  have haddressed : ((network.peer id).step elapsed socket).2.2.Addressed m.relay.relayPort := by
    have hconfig : (network.peer id).config.relayPort = m.relay.relayPort := by
      rw [← h.peer, (h.reachable.coherent.honest id).config_eq, m.relayed]
    rw [← hconfig]
    apply UdpSocket.Addressed.step
    rw [UdpSocket.Addressed, hhands.fresh]
    exact nofun
  have hkept : ∀ other, ∀ sent ∈ plain.sent other, sent ∈ (plain.step id elapsed socket).sent other := by
    intro other sent hmem
    rcases eq_or_eq_remoteId id other with rfl | rfl
    · simp only [PeerNetwork.step, Function.update_self]
      exact List.mem_append_left _ hmem
    · simp only [PeerNetwork.step, Function.update_of_ne (remoteId_ne id)]
      exact hmem
  have hnew : ∀ datagram ∈ ((network.peer id).step elapsed socket).2.2.sent,
      datagram ∈ (plain.step id elapsed socket).sent id := by
    intro datagram hmem
    rw [← h.peer] at hmem
    simp only [PeerNetwork.step, Function.update_self]
    exact List.mem_append_right _ hmem
  refine ⟨?_, h.reachable.step id elapsed socket hdelivers hrelay, ?_, ?_, ?_⟩
  · simp only [PeerNetwork.step, RelayedNetwork.stepPeer, h.peer]
  · intro wire hmem other hsource
    rcases List.mem_append.1 hmem with hold | hmem
    · obtain ⟨hdestination, sent, hsent, hbytes⟩ := h.out wire hold other hsource
      exact ⟨hdestination, sent, hkept other sent hsent, hbytes⟩
    · obtain ⟨datagram, hdatagram, rfl⟩ := mem_wiresFrom.1 hmem
      obtain rfl := peerPort_injective m hsource
      exact ⟨haddressed datagram hdatagram, datagram, hnew datagram hdatagram, rfl⟩
  · intro wire hmem other hdestination
    rcases List.mem_append.1 hmem with hold | hmem
    · obtain ⟨hsource, sent, hsent, hbytes⟩ := h.into wire hold other hdestination
      exact ⟨hsource, sent, hkept _ sent hsent, hbytes⟩
    · obtain ⟨datagram, hdatagram, rfl⟩ := mem_wiresFrom.1 hmem
      exact absurd ((haddressed datagram hdatagram).symm.trans hdestination) (m.relay_apart other)
  · intro hstopped
    obtain ⟨wire, hmem, hwire⟩ := h.stopped hstopped
    exact ⟨wire, List.mem_append_left _ hmem, hwire⟩

/-- A new status says nothing about the peers. -/
theorem Refines.setStatus {plain : PeerNetwork} (h : Refines m network plain) {status : RelayStatus}
    (hstopped : status = .stopped → ∃ wire ∈ network.wires, wire.bytes = Relay.stopMessage ∧
      ∀ id, wire.source ≠ m.relay.peerPort id) : Refines m { network with status } plain :=
  ⟨h.peer, h.reachable, h.out, h.into, hstopped⟩

/-- A datagram that neither comes from a peer nor goes to one says nothing about them, and
neither does one of the relay that repeats what the partner has sent. -/
theorem Refines.addWire {plain : PeerNetwork} (h : Refines m network plain) {wire : Wire}
    (hsource : ∀ id, wire.source ≠ m.relay.peerPort id)
    (hinto : ∀ id, wire.destination = m.relay.peerPort id →
      wire.source = m.relay.relayPort ∧ ∃ sent ∈ plain.sent (remoteId id), wire.bytes = sent.bytes) :
    Refines m { network with wires := network.wires ++ [wire] } plain := by
  refine ⟨h.peer, h.reachable, fun other hmem id hother => ?_, fun other hmem id hother => ?_,
    fun hstopped => ?_⟩
  · rcases List.mem_append.1 hmem with hold | hnew
    · exact h.out other hold id hother
    · rw [List.mem_singleton.1 hnew] at hother
      exact absurd hother (hsource id)
  · rcases List.mem_append.1 hmem with hold | hnew
    · exact h.into other hold id hother
    · rw [List.mem_singleton.1 hnew] at hother ⊢
      exact hinto id hother
  · obtain ⟨other, hmem, hother⟩ := h.stopped hstopped
    exact ⟨other, List.mem_append_left _ hmem, hother⟩

theorem Refines.stepRelay {plain : PeerNetwork} (h : Refines m network plain) {socket : UdpSocket}
    (hrunning : network.status = .running) (hhands : network.Hands m.relay.relayPort socket) :
    Refines m (network.stepRelay m socket) plain := by
  have hheard : ∀ {datagram : Datagram}, socket.receive.1 = .ok (some datagram) →
      (⟨datagram.sourcePort, m.relay.relayPort, datagram.bytes⟩ : Wire) ∈ network.wires :=
    fun hreceive => hhands.carried _ (UdpSocket.receive_mem hreceive nofun)
  have hquiet : ∀ {status : RelayStatus} {after : UdpSocket}, after.sent = [] →
      (status = .stopped → ∃ wire ∈ network.wires, wire.bytes = Relay.stopMessage ∧
        ∀ id, wire.source ≠ m.relay.peerPort id) →
      Refines m
        { network with status, wires := network.wires ++ wiresFrom m.relay.relayPort after } plain := by
    intro status after hsent hstopped
    rw [wiresFrom, hsent, List.map_nil, List.append_nil]
    exact h.setStatus hstopped
  have hturn := Relay.turn_turns m.relay socket
  rw [RelayedNetwork.stepRelay]
  generalize Relay.turn m.relay socket = answer at hturn ⊢
  cases hturn with
  | failed _ => exact hquiet hhands.fresh nofun
  | silent _ => exact hquiet hhands.fresh nofun
  | foreign _ _ _ => exact hquiet hhands.fresh nofun
  | refused _ _ _ hsend =>
    have hkept := (Relay.sendLoopback_sent _ _ _).of_error hsend
    exact hquiet (hkept.trans hhands.fresh) nofun
  | @stopped datagram hreceive hstop =>
    refine hquiet hhands.fresh fun _ => ⟨_, hheard hreceive, by simpa [Relay.isStop] using hstop,
      fun id hsource => ?_⟩
    obtain ⟨-, sent, hsent, hbytes⟩ := h.out _ (hheard hreceive) id hsource
    have hsaid := not_isStop_of_says (h.reachable.coherent.sent id sent hsent)
    rw [← hbytes, hstop] at hsaid
    cases hsaid
  | @forwarded datagram port after hreceive hstop hport hsend =>
    obtain ⟨id, hsource, rfl⟩ := destination_some hport
    obtain ⟨-, sent, hsent, hbytes⟩ := h.out _ (hheard hreceive) id hsource
    have hadded := (Relay.sendLoopback_sent _ _ _).of_ok hsend
    have hwires : wiresFrom m.relay.relayPort after =
        [⟨m.relay.relayPort, m.relay.peerPort (remoteId id), datagram.bytes⟩] := by
      rw [wiresFrom, hadded, show socket.receive.2.sent = [] from hhands.fresh]
      rfl
    dsimp only
    rw [hwires, show statusAfter (.ok false) = network.status from hrunning.symm]
    refine h.addWire m.relay_apart fun other hother => ⟨rfl, ?_⟩
    rw [← peerPort_injective m hother, remoteId_remoteId]
    exact ⟨sent, hsent, hbytes⟩

/-- Whatever the system and others do, the peers behind the relay play a match over a network
that forges nothing, and only another process can stop the relay. -/
theorem Reachable.refines (h : Reachable m network) : ∃ plain, Refines m network plain := by
  induction h with
  | create h => exact ⟨_, rfl, .create h, nofun, nofun, nofun⟩
  | peer id elapsed socket _ hhands ih =>
    obtain ⟨plain, hplain⟩ := ih
    exact ⟨_, hplain.stepPeer hhands elapsed⟩
  | around _ haround ih =>
    obtain ⟨plain, hplain⟩ := ih
    cases haround with
    | relay socket hrunning hhands => exact ⟨plain, hplain.stepRelay hrunning hhands⟩
    | expire => exact ⟨plain, hplain.setStatus nofun⟩
    | outsider wire hsource hdestination =>
      exact ⟨plain, hplain.addWire hsource fun id hinto => absurd hinto (hdestination id)⟩

/-! ## Schedules -/

/-- A socket that hands out copies of what is on its way to a port, by position. -/
def arriving (network : RelayedNetwork) (port : UInt16) (picks : List ℕ) : UdpSocket where
  receiveResults :=
    (picks.filterMap fun i => (network.wires.filter fun wire => wire.destination = port)[i]?).map
      fun wire => .ok (some ⟨wire.bytes, wire.source⟩)

theorem mem_arriving {port : UInt16} {picks : List ℕ} {answer : Result (Option Datagram)}
    (h : answer ∈ (network.arriving port picks).receiveResults) :
    ∃ wire ∈ network.wires, wire.destination = port ∧ answer = .ok (some ⟨wire.bytes, wire.source⟩) := by
  obtain ⟨wire, hmem, rfl⟩ := List.mem_map.1 h
  obtain ⟨i, -, hi⟩ := List.mem_filterMap.1 hmem
  obtain ⟨hwire, hport⟩ := List.mem_filter.1 (List.mem_of_getElem? hi)
  exact ⟨wire, hwire, of_decide_eq_true hport, rfl⟩

theorem arriving_hands (network : RelayedNetwork) (port : UInt16) (picks : List ℕ) :
    network.Hands port (network.arriving port picks) where
  fresh := rfl
  carried datagram h := by
    obtain ⟨wire, hmem, rfl, heq⟩ := mem_arriving h
    cases heq
    exact hmem
  system e h := by
    rcases h with h | h
    · cases h
    · obtain ⟨wire, -, -, heq⟩ := mem_arriving h
      cases heq

/-- One move of a schedule: a peer steps, or the relay does a round if it still runs. -/
inductive Move where
  | peer (id : PlayerId) (elapsed : UInt64) (picks : List ℕ)
  | relay (picks : List ℕ)

def move (m : RelayedMatch) (network : RelayedNetwork) : Move → RelayedNetwork
  | .peer id elapsed picks =>
    network.stepPeer m id elapsed (network.arriving (m.relay.peerPort id) picks)
  | .relay picks =>
    if network.status = .running then
      network.stepRelay m (network.arriving m.relay.relayPort picks)
    else network

def play (m : RelayedMatch) (network : RelayedNetwork) (moves : List Move) : RelayedNetwork :=
  moves.foldl (move m) network

theorem Reachable.move (h : Reachable m network) (move : Move) : Reachable m (network.move m move) := by
  cases move with
  | peer id elapsed picks => exact h.peer id elapsed _ (network.arriving_hands _ _)
  | relay picks =>
    rw [RelayedNetwork.move]
    split
    next hrunning => exact h.around (.relay _ hrunning (network.arriving_hands _ _))
    · exact h

theorem Reachable.play (h : Reachable m network) (moves : List Move) :
    Reachable m (network.play m moves) :=
  List.foldlRecOn moves _ h fun _ hnext move _ => hnext.move move

/-- A match between two peers with the default settings behind a relay. -/
def relayedPlain : RelayedMatch where
  base :=
    { PeerNetwork.plainMatch with
      config := fun id => { id, relayPort := 40000 }
      id_eq := fun _ => rfl }
  relay := ⟨40000, 40001, 40002⟩
  peers_apart := by decide
  relay_apart id := by cases id <;> decide
  relayed _ := rfl

/-- The three processes before the first step. -/
def opening (m : RelayedMatch) : RelayedNetwork where
  peer id := PeerDriver.fresh (m.base.config id) (m.base.session id)
  status := .running
  wires := []

theorem relayedPlain_opening : Reachable relayedPlain (opening relayedPlain) := by
  apply Reachable.create
  intro id
  refine ⟨.ok (), PeerDriver.create_fresh (by cases id <;> decide) (by cases id <;> decide)
    (by cases id <;> decide) rfl rfl⟩

/-- The first frames of that match, every datagram handed on by the relay. The first peer has to
guess an input, and the second one is handed the packets of the first twice and out of order. -/
def relayedExchange : RelayedNetwork :=
  (opening relayedPlain).play relayedPlain
    [.peer .a 0 [], .relay [0], .peer .b 0 [0], .relay [1], .peer .a 0 [0], .peer .a 1 [], .relay [5],
      .peer .b 1 [1], .relay [6], .peer .a 2 [1], .relay [7], .peer .b 2 [2, 1, 2]]

/-- Then someone else tells the relay to stop. -/
def relayedStop : RelayedNetwork :=
  move relayedPlain { relayedExchange with
    wires := relayedExchange.wires ++ [⟨50000, 40000, Relay.stopMessage⟩] } (.relay [9])

theorem relayedExchange_reachable : Reachable relayedPlain relayedExchange :=
  relayedPlain_opening.play _

theorem relayedStop_reachable : Reachable relayedPlain relayedStop :=
  (relayedExchange_reachable.around (.outsider ⟨50000, 40000, Relay.stopMessage⟩
    (fun id => by cases id <;> decide) fun id => by cases id <;> decide)).move _

/-- Both peers have confirmed a frame by then, the first one after a correction. -/
theorem relayedExchange_runs : (relayedExchange.peer .a).runtime.session.metrics.rollbackCount = 1 ∧
    (relayedExchange.peer .a).runtime.session.hashAt ⟨1⟩ = .ok 635547385910503997 ∧
    (relayedExchange.peer .b).runtime.session.hashAt ⟨1⟩ = .ok 635547385910503997 ∧
    relayedStop.status = .stopped := by decide +kernel

/-! ## What the relay does not change -/

/-- A desync is never found between peers that simulate alike. -/
theorem Reachable.failure_ne_desync (h : Reachable m network)
    (hvariant : (m.base.session .a).variant = (m.base.session .b).variant) {id : PlayerId} {e : Error}
    (hfailure : (network.peer id).failure = some e) : e.code ≠ .desync := by
  obtain ⟨plain, hplain⟩ := h.refines
  have hother : ∀ id, (m.base.session (remoteId id)).variant = (m.base.session id).variant := by
    intro id
    cases id
    · exact hvariant.symm
    · exact hvariant
  rw [← hplain.peer] at hfailure
  exact hplain.reachable.failure (P := fun e => e.code ≠ .desync)
    (fun hdelivers _ hexcuse =>
      PeerNetwork.Excuse.code_ne_desync hexcuse (hother _) hdelivers.system) hfailure

end RelayedNetwork

end RollbackLab
