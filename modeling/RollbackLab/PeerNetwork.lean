import Mathlib.Logic.Function.Basic
import RollbackLab.HonestDriver

/-!
# Two peers over a network

Two drivers with opposite ids exchange datagrams over a network that keeps everything
either of them has sent. A step may be handed any of it, in any order and any number of
times, so datagrams are lost, repeated, delayed and reordered, but never forged.
-/

namespace RollbackLab

theorem remoteId_remoteId (id : PlayerId) : remoteId (remoteId id) = id := by
  cases id <;> rfl

theorem remoteId_ne (id : PlayerId) : remoteId id ≠ id := by
  cases id <;> decide

theorem eq_or_eq_remoteId (id other : PlayerId) : other = id ∨ other = remoteId id := by
  cases id <;> cases other <;> decide

/-- The two peers of a match, with new sessions as the callers create them. -/
structure PeerMatch where
  config : PlayerId → PeerConfig
  session : PlayerId → SessionConfig
  id_eq : ∀ id, (config id).id = id
  initial : ∀ id, (session id).initialState = makeInitialWorld
  window : ∀ id, (session id).maxRollbackFrames.toNat ≤ 120

structure PeerNetwork where
  peer : PlayerId → PeerDriver
  sent : PlayerId → List Datagram

namespace PeerNetwork

/-- What a socket may hand to the step of a peer: datagrams of the partner, from any
source port, and failures of the operating system. -/
structure Delivers (network : PeerNetwork) (id : PlayerId) (socket : UdpSocket) : Prop where
  fresh : socket.sent = []
  genuine : ∀ datagram, .ok (some datagram) ∈ socket.receiveResults →
    ∃ sent ∈ network.sent (remoteId id), datagram.bytes = sent.bytes
  system : ∀ e, .error e ∈ socket.sendResults ∨ .error e ∈ socket.receiveResults → e.code = .ioError

/-- One peer steps, and the network keeps what it sends. -/
def step (network : PeerNetwork) (id : PlayerId) (elapsed : UInt64) (socket : UdpSocket) :
    PeerNetwork :=
  let (_, driver, socket) := (network.peer id).step elapsed socket
  ⟨Function.update network.peer id driver,
    Function.update network.sent id (network.sent id ++ socket.sent)⟩

/-- Every interleaving of steps from the creation of both drivers, with what the network
is further allowed to do. -/
inductive Reachable (m : PeerMatch) (allows : PeerNetwork → PlayerId → UdpSocket → Prop) :
    PeerNetwork → Prop
  | create {peer : PlayerId → PeerDriver} (h : ∀ id, ∃ bound,
      PeerDriver.create (m.config id) (.create (m.session id)) bound = .ok (peer id)) :
      Reachable m allows ⟨peer, fun _ => []⟩
  | step {network : PeerNetwork} (id : PlayerId) (elapsed : UInt64) (socket : UdpSocket)
      (h : Reachable m allows network) (hdelivers : network.Delivers id socket)
      (hallows : allows network id socket) : Reachable m allows (network.step id elapsed socket)

variable {m : PeerMatch} {allows : PeerNetwork → PlayerId → UdpSocket → Prop} {network : PeerNetwork}

/-- Both peers are honest, and so is everything that is under way. -/
structure Coherent (m : PeerMatch) (network : PeerNetwork) : Prop where
  small : ∀ id, (m.config id).frameCount.toNat ≤ 256
  localPeer : ∀ id, (m.session id).localPeer = id
  honest : ∀ id, (network.peer id).Honest (m.config id) (m.session id) (m.config (remoteId id))
    (m.session (remoteId id)).variant (network.peer (remoteId id)).Settled
  sent : ∀ id, ∀ datagram ∈ network.sent id,
    Says (m.config id) (m.session id).variant (network.peer id).Settled datagram.bytes

theorem Coherent.heard (h : Coherent m network) {id : PlayerId} {socket : UdpSocket}
    (hdelivers : network.Delivers id socket) {datagram : Datagram}
    (hmem : .ok (some datagram) ∈ socket.receiveResults) :
    Says (m.config (remoteId id)) (m.session (remoteId id)).variant
      (network.peer (remoteId id)).Settled datagram.bytes := by
  obtain ⟨sent, hsent, hbytes⟩ := hdelivers.genuine datagram hmem
  rw [hbytes]
  exact h.sent _ sent hsent

/-- What the step of a peer does in a coherent network. -/
theorem Coherent.outcome (h : Coherent m network) {id : PlayerId} {socket : UdpSocket}
    (hdelivers : network.Delivers id socket) (elapsed : UInt64) :
    Outcome
      (fun _ s => PeerDriver.Kept (m.config id) (m.session id) (m.config (remoteId id))
        (m.session (remoteId id)).variant (network.peer (remoteId id)).Settled (network.peer id) s.1 s.2 ∧
          s.1.failure = none)
      (fun e s => PeerDriver.Kept (m.config id) (m.session id) (m.config (remoteId id))
        (m.session (remoteId id)).variant (network.peer (remoteId id)).Settled (network.peer id) s.1 s.2 ∧
          (s.1 = network.peer id ∧
              ((network.peer id).failure = some e ∨ e = PeerDriver.clockReversed elapsed) ∨
            s.1.failure = some e ∧ Excuse (m.config id) (m.session id) (m.config (remoteId id))
              (m.session (remoteId id)).variant (network.peer id).observation.phase socket e))
      ((network.peer id).step elapsed socket) :=
  (h.honest id).step ((h.localPeer id).trans (m.id_eq id).symm)
    ((m.id_eq _).trans (by rw [m.id_eq])) (h.small id) hdelivers.fresh
    (fun _ hmem => h.heard hdelivers hmem) elapsed

theorem Coherent.step (h : Coherent m network) {id : PlayerId} {socket : UdpSocket}
    (hdelivers : network.Delivers id socket) (elapsed : UInt64) :
    Coherent m (network.step id elapsed socket) := by
  have hkept : PeerDriver.Kept (m.config id) (m.session id) (m.config (remoteId id))
      (m.session (remoteId id)).variant (network.peer (remoteId id)).Settled (network.peer id)
      ((network.peer id).step elapsed socket).2.1 ((network.peer id).step elapsed socket).2.2 :=
    ((h.outcome hdelivers elapsed).mono (fun _ _ hs => hs.1) (fun _ _ hs => hs.1)).state
  refine ⟨h.small, h.localPeer, fun other => ?_, fun other datagram hmem => ?_⟩
  · rcases eq_or_eq_remoteId id other with rfl | rfl
    · simp only [PeerNetwork.step, Function.update_self, Function.update_of_ne (remoteId_ne _)]
      exact hkept.honest
    · have hbefore := h.honest (remoteId id)
      simp only [PeerNetwork.step, remoteId_remoteId, Function.update_self,
        Function.update_of_ne (remoteId_ne id)] at hbefore ⊢
      exact hbefore.mono hkept.settled
  · rcases eq_or_eq_remoteId id other with rfl | rfl
    · simp only [PeerNetwork.step, Function.update_self] at hmem ⊢
      rcases List.mem_append.1 hmem with hold | hnew
      · exact (h.sent _ datagram hold).mono hkept.settled
      · exact hkept.sent datagram hnew
    · simp only [PeerNetwork.step, Function.update_of_ne (remoteId_ne id)] at hmem ⊢
      exact h.sent _ datagram hmem

/-- Whatever the network does, it stays coherent. -/
theorem Reachable.coherent (h : Reachable m allows network) : Coherent m network := by
  induction h with
  | create h =>
    have hcreated : ∀ id (settled : Prop), _ := fun id settled =>
      (h id).elim fun _ hbound => PeerDriver.create_honest hbound (m.initial id) (m.window id)
        (m.config (remoteId id)) (m.session (remoteId id)).variant settled
    exact ⟨fun id => (hcreated id True).2.2.2,
      fun id => (hcreated id True).2.2.1.trans (m.id_eq id), fun id => (hcreated id _).1, nofun⟩
  | step id elapsed socket _ hdelivers _ ih => exact ih.step hdelivers elapsed

/-! ## Schedules -/

/-- A socket that hands out copies of what the partner has sent, by position. -/
def forward (network : PeerNetwork) (id : PlayerId) (port : UInt16) (picks : List ℕ) : UdpSocket where
  receiveResults := (picks.filterMap fun i => (network.sent (remoteId id))[i]?).map fun datagram =>
    .ok (some ⟨datagram.bytes, port⟩)

theorem mem_forward {id : PlayerId} {port : UInt16} {picks : List ℕ} {answer : Result (Option Datagram)}
    (h : answer ∈ (network.forward id port picks).receiveResults) :
    ∃ datagram ∈ network.sent (remoteId id), answer = .ok (some ⟨datagram.bytes, port⟩) := by
  obtain ⟨datagram, hmem, rfl⟩ := List.mem_map.1 h
  obtain ⟨i, -, hi⟩ := List.mem_filterMap.1 hmem
  exact ⟨datagram, List.mem_of_getElem? hi, rfl⟩

theorem forward_delivers (network : PeerNetwork) (id : PlayerId) (port : UInt16) (picks : List ℕ) :
    network.Delivers id (network.forward id port picks) where
  fresh := rfl
  genuine datagram h := by
    obtain ⟨sent, hsent, heq⟩ := mem_forward h
    cases heq
    exact ⟨sent, hsent, rfl⟩
  system e h := by
    rcases h with h | h
    · cases h
    · obtain ⟨sent, -, heq⟩ := mem_forward h
      cases heq

/-- One move of a schedule: who steps, at which time, and which datagrams it is handed. -/
def move (m : PeerMatch) (network : PeerNetwork) (turn : PlayerId × UInt64 × List ℕ) : PeerNetwork :=
  network.step turn.1 turn.2.1 (network.forward turn.1 (m.config turn.1).relayPort turn.2.2)

def play (m : PeerMatch) (network : PeerNetwork) (turns : List (PlayerId × UInt64 × List ℕ)) :
    PeerNetwork := turns.foldl (move m) network

theorem Reachable.play
    (hallows : ∀ network id picks, allows network id
      (network.forward id (m.config id).relayPort picks))
    (h : Reachable m allows network) (turns : List (PlayerId × UInt64 × List ℕ)) :
    Reachable m allows (network.play m turns) := by
  induction turns generalizing network with
  | nil => exact h
  | cons turn turns ih =>
    exact ih (h.step turn.1 turn.2.1 _ (network.forward_delivers _ _ _) (hallows network turn.1 turn.2.2))

/-- Two new drivers. -/
def opening (m : PeerMatch) : PeerNetwork where
  peer id := PeerDriver.fresh (m.config id) (m.session id)
  sent _ := []

theorem Reachable.opening (h : ∀ id, (m.config id).protocolVersionOverride.toUInt32 = kProtocolVersion ∧
      (m.config id).frameCount ≠ 0 ∧ (m.config id).frameCount ≤ 240 ∧
        (m.session id).localPeer = id) : Reachable m allows (opening m) := by
  apply Reachable.create
  intro id
  obtain ⟨hversion, hcount, hlimit, hlocal⟩ := h id
  refine ⟨.ok (), PeerDriver.create_fresh hversion hcount hlimit ?_ (hlocal.trans (m.id_eq id).symm)⟩
  rw [m.initial id]
  rfl

end PeerNetwork

end RollbackLab
