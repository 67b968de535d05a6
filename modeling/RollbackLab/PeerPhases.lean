import RollbackLab.Outcome
import RollbackLab.PeerDriver
import RollbackLab.SessionFrames

/-!
# The phases of a driver

Every exit of a step is followed through the borrowed session: the datagrams of a drain
leave it at its frame, an advance takes it one frame on, and a failure leaves it at that
frame or behind. From this the phases of a whole run are ordered, the session never
passes the last frame, and a driver that has failed or finished never changes again. The
session may have been used before in any way that leaves it at frame 0.
-/

namespace RollbackLab

namespace UdpSocket

theorem receive_mem {socket : UdpSocket} {answer : Result (Option Datagram)}
    (h : socket.receive.1 = answer) (hanswer : answer ≠ .ok none) :
    answer ∈ socket.receiveResults := by
  rw [receive] at h
  cases hresults : socket.receiveResults with
  | nil =>
    rw [hresults] at h
    exact absurd h.symm hanswer
  | cons first rest =>
    rw [hresults] at h
    exact h ▸ List.mem_cons_self

theorem receive_head {socket : UdpSocket} {datagram : Datagram}
    (h : socket.receive.1 = .ok (some datagram)) :
    socket.receiveResults.head? = some (.ok (some datagram)) := by
  rw [receive] at h
  cases hall : socket.receiveResults with
  | nil =>
    rw [hall] at h
    cases h
  | cons first more =>
    rw [hall] at h
    exact congrArg some h

theorem mem_of_mem_receive {socket : UdpSocket} {answer : Result (Option Datagram)}
    (h : answer ∈ socket.receive.2.receiveResults) : answer ∈ socket.receiveResults :=
  List.mem_of_mem_tail h

theorem sendLoopback_receiveResults (socket : UdpSocket) (port : UInt16) (bytes : List UInt8) :
    (socket.sendLoopback port bytes).2.receiveResults = socket.receiveResults := by
  rw [sendLoopback]
  split
  · rfl
  · split <;> rfl

end UdpSocket

namespace PeerRuntime

variable {config : PeerConfig} {unplayed : Prop} {settings : SessionConfig} {first : FrameNumber}
  {count : ℕ} {runtime : PeerRuntime}

/-- What every datagram does, a drain does. -/
theorem drain_outcome {P : PeerRuntime → Prop} {Q : Error → PeerRuntime → Prop}
    {G : Datagram → Prop}
    (hreceive : ∀ runtime datagram, P runtime → G datagram →
      Outcome (fun _ => P) Q (runtime.receiveDatagram config datagram))
    {socket : UdpSocket}
    (herror : ∀ e, .error e ∈ socket.receiveResults → ∀ runtime, P runtime → Q e runtime)
    (hgood : ∀ datagram, .ok (some datagram) ∈ socket.receiveResults → G datagram)
    (h : P runtime) (rounds : ℕ) :
    Outcome (fun _ s => P s.1 ∧ s.2.sent = socket.sent) (fun e s => Q e s.1 ∧ s.2.sent = socket.sent)
      (runtime.drain config socket rounds) := by
  induction rounds generalizing runtime socket with
  | zero => exact ⟨h, rfl⟩
  | succ rounds ih =>
    rw [drain, receiveOne]
    rcases hanswer : socket.receive with ⟨e | _ | datagram, rest⟩
    · exact ⟨herror e (UdpSocket.receive_mem (by rw [hanswer]) (by simp)) runtime h,
        congrArg (fun s => s.2.sent) hanswer.symm⟩
    · exact ⟨h, congrArg (fun s => s.2.sent) hanswer.symm⟩
    · have hsent : rest.sent = socket.sent := congrArg (fun s => s.2.sent) hanswer.symm
      have hrest : ∀ answer ∈ rest.receiveResults, answer ∈ socket.receiveResults :=
        fun answer hmem => UdpSocket.mem_of_mem_receive (by rw [hanswer]; exact hmem)
      have hone := hreceive runtime datagram h
        (hgood datagram (UdpSocket.receive_mem (by rw [hanswer]) (by simp)))
      dsimp only
      rcases hcall : runtime.receiveDatagram config datagram with ⟨e | _, next⟩
      · exact ⟨hone.of_error hcall, hsent⟩
      · rw [← hsent]
        exact ih (fun e hmem => herror e (hrest _ hmem)) (fun d hmem => hgood d (hrest _ hmem))
          (hone.of_ok hcall)

theorem compareHash_session (config : PeerConfig) (runtime : PeerRuntime) (remote : ConfirmedHash) :
    (runtime.compareHash config remote).2.session = runtime.session := by
  rw [compareHash]
  split
  · rfl
  · split
    · split
      · rfl
      · dsimp only
        split <;> rfl
    · split <;> rfl

theorem compareHashes_session (config : PeerConfig) (runtime : PeerRuntime)
    (hashes : List ConfirmedHash) :
    (runtime.compareHashes config hashes).2.session = runtime.session := by
  induction hashes generalizing runtime with
  | nil => rfl
  | cons remote hashes ih =>
    have hone := compareHash_session config runtime remote
    rw [compareHashes]
    rcases hcall : runtime.compareHash config remote with ⟨e | _, next⟩
    · rw [hcall] at hone
      exact hone
    · rw [hcall] at hone
      exact (ih next).trans hone

theorem ingestInputs_standing {session : RollbackSession}
    (h : StandsAt unplayed settings first count session) (hcount : count < 2 ^ 32)
    (inputs : List InputFrame) :
    StandsAt unplayed settings first count (ingestInputs session inputs).2 := by
  induction inputs generalizing session with
  | nil => exact h
  | cons input inputs ih =>
    have hone := h.ingestRemote hcount input
    rw [ingestInputs]
    rcases hcall : session.ingestRemote input with ⟨e | _, next⟩
    · rw [hcall] at hone
      exact hone
    · rw [hcall] at hone
      exact ih hone

/-- A packet leaves the session at its frame, unless its correction breaks off. -/
theorem receivePacket_standing (config : PeerConfig)
    (h : StandsAt unplayed settings first count runtime.session) (hcount : count < 2 ^ 32)
    (packet : Packet) :
    Outcome (fun _ (next : PeerRuntime) => StandsAt unplayed settings first count next.session)
      (fun _ next => Fallen unplayed settings first count next.session)
      (runtime.receivePacket config packet) := by
  rw [receivePacket]
  split
  · exact h.fallen
  split
  · cases validHello config packet
    · exact h.fallen
    · exact h
  split
  · exact h.fallen
  dsimp only
  split
  · exact h
  rw [receiveInputs]
  cases checkTargets config packet.inputs with
  | error e => exact h.fallen
  | ok _ =>
    have hingest := ingestInputs_standing h hcount packet.inputs
    dsimp only
    rcases hcall : ingestInputs runtime.session packet.inputs with ⟨e | _, session⟩
    · rw [hcall] at hingest
      exact hingest.fallen
    · rw [hcall] at hingest
      dsimp only
      rcases hingest.flushCorrections hcount with
        ⟨e, next, hflush, hfallen⟩ | ⟨corrected, next, hflush, hstanding, -⟩
      · rw [hflush]
        exact hfallen
      · rw [hflush]
        dsimp only
        split
        all_goals
          apply Outcome.mono (P := fun _ s => s.session = next) (Q := fun _ s => s.session = next)
          · generalize hcompare : compareHashes config _ packet.confirmedHashes = x
            have hsame := hcompare ▸ compareHashes_session config _ packet.confirmedHashes
            rcases x with ⟨_ | _, s⟩
            · exact hsame
            · exact hsame
          · rintro _ s rfl
            exact hstanding
          · rintro _ s rfl
            exact hstanding.fallen

theorem receiveDatagram_standing (config : PeerConfig)
    (h : StandsAt unplayed settings first count runtime.session) (hcount : count < 2 ^ 32)
    (datagram : Datagram) :
    Outcome (fun _ (next : PeerRuntime) => StandsAt unplayed settings first count next.session)
      (fun _ next => Fallen unplayed settings first count next.session)
      (runtime.receiveDatagram config datagram) := by
  rw [receiveDatagram]
  cases decodeDatagram config datagram with
  | error e => exact h.fallen
  | ok packet => exact receivePacket_standing config h hcount packet

theorem drain_standing (config : PeerConfig) (h : StandsAt unplayed settings first count runtime.session)
    (hcount : count < 2 ^ 32) (socket : UdpSocket) (rounds : ℕ) :
    Outcome (fun _ s => StandsAt unplayed settings first count s.1.session)
      (fun _ s => Fallen unplayed settings first count s.1.session)
      (runtime.drain config socket rounds) := by
  apply Outcome.mono (drain_outcome
    (P := fun runtime => StandsAt unplayed settings first count runtime.session)
    (Q := fun _ runtime => Fallen unplayed settings first count runtime.session) (G := fun _ => True)
    (fun _ datagram hr _ => receiveDatagram_standing config hr hcount datagram)
    (fun _ _ _ hr => hr.fallen) (fun _ _ => trivial) h rounds)
  · exact fun _ s hs => hs.1
  · exact fun _ s hs => hs.1

theorem sendInputs_session (config : PeerConfig) (runtime : PeerRuntime) (socket : UdpSocket) :
    (runtime.sendInputs config socket).2.1.session = runtime.session := by
  rw [sendInputs]
  dsimp only
  split <;> rfl

end PeerRuntime

/-! ## The phases of a step -/

/-- A phase may stay, move on to the next one, or fail unless it is a last one. -/
inductive PeerPhase.Leads : PeerPhase → PeerPhase → Prop
  | stay (phase : PeerPhase) : Leads phase phase
  | running : Leads .handshake .running
  | confirming : Leads .running .confirming
  | finished : Leads .confirming .finished
  | failed {phase : PeerPhase} (hfinished : phase ≠ .finished) (hfailed : phase ≠ .failed) :
      Leads phase .failed

namespace PeerDriver

variable {unplayed : Prop} {settings : SessionConfig} {config : PeerConfig}
  {start : RollbackSession} {driver next : PeerDriver}

/-- What a driver reaches from its creation by steps at any times, with any answers of
the operating system. -/
inductive Reachable (config : PeerConfig) (session : RollbackSession) : PeerDriver → Prop
  | create {bound : Result Unit} {driver : PeerDriver}
      (h : PeerDriver.create config session bound = .ok driver) : Reachable config session driver
  | step {driver : PeerDriver} (elapsed : UInt64) (socket : UdpSocket)
      (h : Reachable config session driver) :
      Reachable config session (driver.step elapsed socket).2.1

/-- The frame of the borrowed session. -/
def frame (driver : PeerDriver) : ℕ := driver.runtime.session.state.frame.value.toNat

/-- A valid hello is the first datagram that the socket hands out. -/
def Greeted (config : PeerConfig) (socket : UdpSocket) : Prop :=
  ∃ datagram packet, socket.receiveResults.head? = some (.ok (some datagram)) ∧
    decodeDatagram config datagram = .ok packet ∧ validHello config packet = .ok ()

/-- A session that is left alone, or comes one frame further at most. -/
def OneFrame (unplayed : Prop) (settings : SessionConfig) (limit : ℕ) (session next : RollbackSession) :
    Prop :=
  next = session ∨ ∃ n ≤ limit, StandsAt unplayed settings ⟨0⟩ n session ∧
    Fallen unplayed settings ⟨0⟩ (n + 1) next

/-- What holds of a driver in every phase, and of the session that it was created with. -/
structure Phased (unplayed : Prop) (settings : SessionConfig) (config : PeerConfig)
    (start : RollbackSession) (driver : PeerDriver) : Prop where
  config_eq : driver.config = config
  small : config.frameCount.toNat ≤ 256
  clock : driver.runStarted ≤ driver.lastElapsed
  failed : driver.observation.phase = .failed ↔ driver.failure.isSome = true
  greeting : driver.observation.phase ≠ .failed →
    (driver.observation.handshakeComplete = false ↔ driver.observation.phase = .handshake)
  untouched : driver.observation.handshakeComplete = false → driver.runtime.session = start
  fallen : Fallen unplayed settings ⟨0⟩ config.frameCount.toNat driver.runtime.session
  standing : driver.observation.phase ≠ .failed → ∃ n ≤ config.frameCount.toNat,
    StandsAt unplayed settings ⟨0⟩ n driver.runtime.session ∧
      (driver.observation.phase = .handshake ∨ driver.observation.phase = .running →
        n < config.frameCount.toNat)

/-- What the step of a working phase does, whether or not it fails. -/
structure Worked (unplayed : Prop) (settings : SessionConfig) (socket : UdpSocket)
    (driver next : PeerDriver) : Prop where
  config_eq : next.config = driver.config
  lastElapsed : next.lastElapsed = driver.lastElapsed
  failure : next.failure = driver.failure
  clock : next.runStarted ≤ next.lastElapsed
  kept : driver.observation.handshakeComplete = true → next.observation.handshakeComplete = true
  untouched : driver.observation.handshakeComplete = false →
    next.runtime.session = driver.runtime.session ∧
      (next.observation.handshakeComplete = true → Greeted driver.config socket)
  frame : OneFrame unplayed settings driver.config.frameCount.toNat driver.runtime.session
    next.runtime.session
  fallen : Fallen unplayed settings ⟨0⟩ driver.config.frameCount.toNat next.runtime.session

/-- What it does in addition when it succeeds. -/
structure Advanced (unplayed : Prop) (settings : SessionConfig) (driver next : PeerDriver) : Prop where
  phase : driver.observation.phase.Leads next.observation.phase
  working : next.observation.phase ≠ .failed
  greeting : next.observation.handshakeComplete = false ↔ next.observation.phase = .handshake
  standing : ∃ n ≤ driver.config.frameCount.toNat,
    StandsAt unplayed settings ⟨0⟩ n next.runtime.session ∧
      (next.observation.phase = .handshake ∨ next.observation.phase = .running →
        n < driver.config.frameCount.toNat)

theorem frame_of_standing {n : ℕ} {session : RollbackSession}
    (h : StandsAt unplayed settings ⟨0⟩ n session) (hn : n < 2 ^ 32) :
    session.state.frame.value.toNat = n := by
  rw [h.frame, FrameNumber.plus_value_toNat, UInt32.toNat_zero, Nat.zero_add, Nat.mod_eq_of_lt hn]

theorem frame_le_of_fallen {n : ℕ} {session : RollbackSession}
    (h : Fallen unplayed settings ⟨0⟩ n session) (hunplayed : unplayed) (hn : n < 2 ^ 32) :
    session.state.frame.value.toNat ≤ n := by
  obtain ⟨i, hi, hframe⟩ := h.within hunplayed
  rw [hframe, FrameNumber.plus_value_toNat, UInt32.toNat_zero, Nat.zero_add,
    Nat.mod_eq_of_lt (by omega)]
  exact hi

namespace OneFrame

variable {limit : ℕ} {session after : RollbackSession}

theorem frame_le (h : OneFrame unplayed settings limit session after) (hunplayed : unplayed)
    (hlimit : limit < 2 ^ 30) :
    after.state.frame.value.toNat ≤ session.state.frame.value.toNat + 1 := by
  rcases h with rfl | ⟨n, hn, hstanding, hfallen⟩
  · exact Nat.le_succ _
  · rw [frame_of_standing hstanding (by omega)]
    exact frame_le_of_fallen hfallen hunplayed (by omega)

theorem not_past (h : OneFrame unplayed settings limit session after)
    (hwindow : settings.maxRollbackFrames.toNat < 2 ^ 30) (hlimit : limit + 1 < 2 ^ 30) :
    frameBefore (nextFrame session.state.frame) after.state.frame = false := by
  rcases h with rfl | ⟨n, hn, hstanding, hfallen⟩
  · have horder := frameBefore_plus after.state.frame (i := 1) (j := 0) (by omega) (by omega)
    rw [FrameNumber.plus_zero] at horder
    exact Bool.eq_false_iff.2 fun h => absurd (horder.1 h) (by omega)
  · rw [hstanding.frame, nextFrame_plus]
    exact hfallen.not_past hwindow (by omega)

end OneFrame

/-- A working step that leaves the driver as it was. -/
theorem Worked.refl (socket : UdpSocket) (hclock : driver.runStarted ≤ driver.lastElapsed)
    (hfallen : Fallen unplayed settings ⟨0⟩ driver.config.frameCount.toNat driver.runtime.session) :
    Worked unplayed settings socket driver driver where
  config_eq := rfl
  lastElapsed := rfl
  failure := rfl
  clock := hclock
  kept := id
  untouched hcomplete := ⟨rfl, fun h => (by rw [hcomplete] at h; cases h)⟩
  frame := Or.inl rfl
  fallen := hfallen

/-- A working step of a later phase, by the session it leaves. -/
theorem Worked.of_session (socket : UdpSocket) {n : ℕ} (hclock : driver.runStarted ≤ driver.lastElapsed)
    (hcomplete : driver.observation.handshakeComplete = true)
    (hstanding : StandsAt unplayed settings ⟨0⟩ n driver.runtime.session)
    (hconfig : next.config = driver.config)
    (helapsed : next.lastElapsed = driver.lastElapsed) (hstarted : next.runStarted = driver.runStarted)
    (hfailure : next.failure = driver.failure)
    (hkept : next.observation.handshakeComplete = driver.observation.handshakeComplete)
    {m : ℕ} (hfallen : Fallen unplayed settings ⟨0⟩ m next.runtime.session) (hm : m ≤ n + 1)
    (hcount : m ≤ driver.config.frameCount.toNat) (hn : n ≤ driver.config.frameCount.toNat) :
    Worked unplayed settings socket driver next where
  config_eq := hconfig
  lastElapsed := helapsed
  failure := hfailure
  clock := by rw [hstarted, helapsed]; exact hclock
  kept h := hkept.trans h
  untouched h := by rw [hcomplete] at h; cases h
  frame := Or.inr ⟨n, hn, hstanding, hfallen.mono hm⟩
  fallen := hfallen.mono hcount

theorem shakeHands_phased (hphase : driver.observation.phase = .handshake)
    (hgreeting : driver.observation.handshakeComplete = false)
    (hclock : driver.runStarted ≤ driver.lastElapsed)
    (hfallen : Fallen unplayed settings ⟨0⟩ driver.config.frameCount.toNat driver.runtime.session)
    (hstanding : ∃ n ≤ driver.config.frameCount.toNat,
      StandsAt unplayed settings ⟨0⟩ n driver.runtime.session ∧
        (driver.observation.phase = .handshake ∨ driver.observation.phase = .running →
          n < driver.config.frameCount.toNat)) (socket : UdpSocket) :
    Outcome
      (fun _ s => Worked unplayed settings socket driver s.1 ∧ Advanced unplayed settings driver s.1)
      (fun _ s => Worked unplayed settings socket driver s.1 ∧ s.1.observation = driver.observation)
      (driver.shakeHands driver.lastElapsed socket) := by
  have hsame : Worked unplayed settings socket driver driver := Worked.refl socket hclock hfallen
  rw [shakeHands]
  split
  · exact ⟨hsame, rfl⟩
  rcases hsend : socket.sendLoopback driver.config.relayPort driver.hello with ⟨e | _, sent⟩
  · exact ⟨hsame, rfl⟩
  dsimp only
  rcases hanswer : sent.receive with ⟨e | _ | datagram, rest⟩
  · exact ⟨hsame, rfl⟩
  · exact ⟨hsame, hphase ▸ .stay _, by simp [hphase], ⟨fun _ => hphase, fun _ => hgreeting⟩,
      hstanding⟩
  dsimp only
  cases hdecode : decodeDatagram driver.config datagram with
  | error e => exact ⟨hsame, rfl⟩
  | ok packet =>
    dsimp only
    cases hvalid : validHello driver.config packet with
    | error e => exact ⟨hsame, rfl⟩
    | ok _ =>
      dsimp only
      rcases rest.sendLoopback driver.config.relayPort driver.hello with ⟨e | _, last⟩
      · exact ⟨hsame, rfl⟩
      have hgreeted : Greeted driver.config socket := by
        have hresults : sent.receiveResults = socket.receiveResults := by
          rw [← UdpSocket.sendLoopback_receiveResults socket driver.config.relayPort driver.hello,
            hsend]
        refine ⟨datagram, packet, ?_, hdecode, hvalid⟩
        rw [← hresults]
        exact UdpSocket.receive_head (by rw [hanswer])
      refine ⟨⟨rfl, rfl, rfl, UInt64.le_refl _, fun _ => rfl, fun _ => ⟨rfl, fun _ => hgreeted⟩,
        Or.inl rfl, hfallen⟩, ?_⟩
      obtain ⟨n, hn, hstanding, hlt⟩ := hstanding
      refine ⟨?_, nofun, ⟨nofun, nofun⟩, n, hn, hstanding, fun _ => hlt (Or.inl hphase)⟩
      rw [hphase]
      exact .running

theorem runFrame_phased (hphase : driver.observation.phase = .running)
    (hcomplete : driver.observation.handshakeComplete = true)
    (hclock : driver.runStarted ≤ driver.lastElapsed)
    (hsmall : driver.config.frameCount.toNat ≤ 256) {n : ℕ}
    (hstanding : StandsAt unplayed settings ⟨0⟩ n driver.runtime.session)
    (hn : n < driver.config.frameCount.toNat)
    (socket : UdpSocket) :
    Outcome
      (fun _ s => Worked unplayed settings socket driver s.1 ∧ Advanced unplayed settings driver s.1)
      (fun _ s => Worked unplayed settings socket driver s.1 ∧ s.1.observation = driver.observation)
      (driver.runFrame socket) := by
  have hbroke : ∀ {runtime : PeerRuntime} {m : ℕ},
      Fallen unplayed settings ⟨0⟩ m runtime.session → m ≤ n + 1 →
      Worked unplayed settings socket driver { driver with runtime } := fun hfallen hm =>
    .of_session socket hclock hcomplete hstanding rfl rfl rfl rfl rfl hfallen hm (by omega) hn.le
  have hdrain := PeerRuntime.drain_standing driver.config hstanding (by omega) socket 64
  rw [runFrame, PeerRuntime.drainAvailable]
  rcases hcall : driver.runtime.drain driver.config socket 64 with ⟨e | _, runtime, rest⟩
  · exact ⟨hbroke (hdrain.of_error hcall) (by omega), rfl⟩
  have hready : StandsAt unplayed settings ⟨0⟩ n runtime.session := hdrain.of_ok hcall
  dsimp only
  rcases hready.advance (by omega) (scriptedInput driver.config.scenarioSeed
      runtime.session.report.state.frame driver.config.id) with
    ⟨e, session, hadvance, hfallen⟩ | ⟨result, session, hadvance, hnext⟩
  · rw [hadvance]
    exact ⟨hbroke hfallen (by omega), rfl⟩
  rw [hadvance]
  dsimp only
  generalize hsending : PeerRuntime.mk session _ _ _ _ _ _ _ _ = sending
  have hsession := PeerRuntime.sendInputs_session driver.config sending rest
  rcases hsend : sending.sendInputs driver.config rest with ⟨e | _, sent, last⟩
  · rw [hsend, ← hsending] at hsession
    dsimp only at hsession ⊢
    exact ⟨hbroke (hsession ▸ hnext.fallen) le_rfl, rfl⟩
  rw [hsend, ← hsending] at hsession
  dsimp only at hsession ⊢
  have hsent : StandsAt unplayed settings ⟨0⟩ (n + 1) sent.session := hsession ▸ hnext
  have hframe : ({ driver with runtime := sent } : PeerDriver).frame = n + 1 :=
    frame_of_standing hsent (by omega)
  split
  next hlast =>
    refine ⟨.of_session socket hclock hcomplete hstanding rfl rfl rfl rfl rfl hsent.fallen le_rfl
      (by omega) hn.le, ?_, nofun, ⟨fun h => ?_, nofun⟩, n + 1, by omega, hsent, ?_⟩
    · rw [hphase]
      exact .confirming
    · exact absurd (hcomplete.symm.trans h) (by decide)
    · rintro (h | h) <;> cases h
  next hmore =>
    refine ⟨.of_session socket hclock hcomplete hstanding rfl rfl rfl rfl rfl hsent.fallen le_rfl
      (by omega) hn.le, .stay _, by simp [hphase], by simp [hphase, hcomplete], n + 1, by omega, hsent,
      fun _ => ?_⟩
    have hne : n + 1 ≠ driver.config.frameCount.toNat := fun he =>
      hmore (FrameNumber.ext (hframe.trans he))
    change n + 1 < driver.config.frameCount.toNat
    omega

theorem confirmFinal_phased (hphase : driver.observation.phase = .confirming)
    (hcomplete : driver.observation.handshakeComplete = true)
    (hclock : driver.runStarted ≤ driver.lastElapsed)
    (hsmall : driver.config.frameCount.toNat ≤ 256) {n : ℕ}
    (hstanding : StandsAt unplayed settings ⟨0⟩ n driver.runtime.session)
    (hn : n ≤ driver.config.frameCount.toNat)
    (socket : UdpSocket) :
    Outcome
      (fun _ s => Worked unplayed settings socket driver s.1 ∧ Advanced unplayed settings driver s.1)
      (fun _ s => Worked unplayed settings socket driver s.1 ∧ s.1.observation = driver.observation)
      (driver.confirmFinal socket) := by
  have hmoved : ∀ {next : PeerDriver}, next.config = driver.config →
      next.lastElapsed = driver.lastElapsed → next.runStarted = driver.runStarted →
      next.failure = driver.failure →
      next.observation.handshakeComplete = driver.observation.handshakeComplete →
      Fallen unplayed settings ⟨0⟩ n next.runtime.session →
      Worked unplayed settings socket driver next :=
    fun hconfig helapsed hstarted hfailure hkept hfallen =>
      .of_session socket hclock hcomplete hstanding hconfig helapsed hstarted hfailure hkept
        hfallen (by omega) hn hn
  have hsession := PeerRuntime.sendInputs_session driver.config driver.runtime socket
  rw [confirmFinal]
  rcases hsend : driver.runtime.sendInputs driver.config socket with ⟨e | _, sent, rest⟩
  · rw [hsend] at hsession
    exact ⟨hmoved rfl rfl rfl rfl rfl (hsession ▸ hstanding.fallen), rfl⟩
  rw [hsend] at hsession
  have hsent : StandsAt unplayed settings ⟨0⟩ n sent.session := hsession ▸ hstanding
  have hdrain := PeerRuntime.drain_standing driver.config hsent (by omega) rest 64
  dsimp only [PeerRuntime.drainAvailable]
  rcases hcall : sent.drain driver.config rest 64 with ⟨e | _, runtime, last⟩
  · exact ⟨hmoved rfl rfl rfl rfl rfl (hdrain.of_error hcall), rfl⟩
  have hready : StandsAt unplayed settings ⟨0⟩ n runtime.session := hdrain.of_ok hcall
  have hstay : ∀ {next : PeerDriver}, next.runtime = runtime → next.observation = driver.observation →
      Advanced unplayed settings driver next := by
    intro next hruntime hobservation
    refine ⟨hobservation ▸ .stay _, by simp [hobservation, hphase],
      by simp [hobservation, hphase, hcomplete], n, hn,
      hruntime ▸ hready, ?_⟩
    rw [hobservation, hphase]
    rintro (h | h) <;> cases h
  dsimp only
  split
  · split
    · cases runtime.buildArtifacts driver.config with
      | error e => exact ⟨hmoved rfl rfl rfl rfl rfl hready.fallen, rfl⟩
      | ok artifacts =>
        refine ⟨hmoved rfl rfl rfl rfl rfl hready.fallen, ?_, nofun, ⟨fun h => ?_, nofun⟩, n, hn,
          hready, ?_⟩
        · rw [hphase]
          exact .finished
        · exact absurd (hcomplete.symm.trans h) (by decide)
        · rintro (h | h) <;> cases h
    · exact ⟨hmoved rfl rfl rfl rfl rfl hready.fallen, hstay rfl rfl⟩
  · exact ⟨hmoved rfl rfl rfl rfl rfl hready.fallen, hstay rfl rfl⟩

theorem create_phased {sessionConfig : SessionConfig} {run : SessionRun} {bound : Result Unit}
    (hrun : SessionRun.Reachable sessionConfig (fun _ _ => True) run)
    (h : PeerDriver.create config run.session bound = .ok driver) :
    Phased (SessionRun.Reachable sessionConfig SessionRun.Waits run) sessionConfig config run.session
      driver := by
  rw [create, failIf_bind_ok, bind_ok_iff] at h
  obtain ⟨hgood, -, -, h⟩ := h
  rw [bind_ok_iff] at h
  obtain ⟨hello, -, h⟩ := h
  cases h
  simp only [not_or, UInt32.not_lt, not_not] at hgood
  obtain ⟨hpositive, hlimit, hframe, -⟩ := hgood
  have hsmall : config.frameCount.toNat ≤ 256 := by
    have := UInt32.le_iff_toNat_le.1 hlimit
    split at this
    · exact this.trans (by decide)
    · exact this
  have hcount : config.frameCount.toNat ≠ 0 := fun h0 => hpositive (UInt32.toNat_inj.1 h0)
  have hstanding := hrun.standing (FrameNumber.ext (congrArg UInt32.toNat hframe))
  exact ⟨rfl, hsmall, UInt64.le_refl _, ⟨nofun, nofun⟩, fun _ => ⟨fun _ => rfl, fun _ => rfl⟩,
    fun _ => rfl, hstanding.fallen.mono (by omega),
    fun _ => ⟨0, by omega, hstanding, fun _ => by omega⟩⟩

/-- A working step does what its phase does. -/
theorem Phased.work (h : Phased unplayed settings config start driver) (hworking : driver.failure = none)
    (hfinished : driver.observation.phase ≠ .finished) (socket : UdpSocket) :
    Outcome
      (fun _ s => Worked unplayed settings socket driver s.1 ∧ Advanced unplayed settings driver s.1)
      (fun _ s => Worked unplayed settings socket driver s.1 ∧ s.1.observation = driver.observation)
      (driver.work driver.lastElapsed socket) := by
  have hfailed : driver.observation.phase ≠ .failed := fun hphase => by
    have := h.failed.1 hphase
    rw [hworking] at this
    cases this
  have hfallen : Fallen unplayed settings ⟨0⟩ driver.config.frameCount.toNat driver.runtime.session :=
    h.config_eq ▸ h.fallen
  have hsmall : driver.config.frameCount.toNat ≤ 256 := h.config_eq ▸ h.small
  have hstanding := h.standing hfailed
  have hgreeting := h.greeting hfailed
  rw [← h.config_eq] at hstanding
  rw [PeerDriver.work]
  split
  next hphase =>
    exact shakeHands_phased hphase (hgreeting.2 hphase) h.clock hfallen hstanding socket
  next hphase =>
    have hcomplete : driver.observation.handshakeComplete = true :=
      Bool.not_eq_false _ ▸ fun hc => hphase (hgreeting.1 hc)
    obtain ⟨n, hn, hstanding, hlt⟩ := hstanding
    rw [run]
    split
    · exact ⟨.refl socket h.clock hfallen, rfl⟩
    split
    next hrunning =>
      exact runFrame_phased hrunning hcomplete h.clock hsmall hstanding
        (hlt (Or.inr hrunning)) socket
    next hrunning =>
      refine confirmFinal_phased ?_ hcomplete h.clock hsmall hstanding hn socket
      cases hcase : driver.observation.phase with
      | handshake => exact absurd hcase hphase
      | running => exact absurd hcase hrunning
      | confirming => rfl
      | finished => exact absurd hcase hfinished
      | failed => exact absurd hcase hfailed

theorem Phased.accept (h : Phased unplayed settings config start driver) {elapsed : UInt64}
    (hclock : ¬ elapsed < driver.lastElapsed) :
    Phased unplayed settings config start (driver.accept elapsed) where
  config_eq := h.config_eq
  small := h.small
  clock := UInt64.le_trans h.clock (UInt64.not_lt.1 hclock)
  failed := h.failed
  greeting := h.greeting
  untouched := h.untouched
  fallen := h.fallen
  standing := h.standing

theorem Phased.fail (h : Phased unplayed settings config start driver)
    (hworked : Worked unplayed settings socket driver next) (e : Error) : Phased unplayed settings config start (next.fail e) where
  config_eq := hworked.config_eq.trans h.config_eq
  small := h.small
  clock := hworked.clock
  failed := ⟨fun _ => rfl, fun _ => rfl⟩
  greeting hphase := absurd rfl hphase
  untouched hincomplete := by
    have hbefore : driver.observation.handshakeComplete = false := by
      by_contra hc
      have := hworked.kept (Bool.not_eq_false _ ▸ hc)
      exact absurd (hincomplete.symm.trans this) (by decide)
    exact (hworked.untouched hbefore).1.trans (h.untouched hbefore)
  fallen := h.config_eq ▸ hworked.fallen
  standing hphase := absurd rfl hphase

theorem Phased.tick (h : Phased unplayed settings config start driver) (hworking : driver.failure = none)
    (hworked : Worked unplayed settings socket driver next)
    (hadvanced : Advanced unplayed settings driver next) :
    Phased unplayed settings config start next.tick where
  config_eq := hworked.config_eq.trans h.config_eq
  small := h.small
  clock := hworked.clock
  failed := by
    refine ⟨fun hphase => absurd hphase hadvanced.working, fun hfailure => ?_⟩
    have hnone : next.failure = none := hworked.failure.trans hworking
    rw [show next.tick.failure = next.failure from rfl, hnone] at hfailure
    cases hfailure
  greeting _ := hadvanced.greeting
  untouched hincomplete := by
    have hbefore : driver.observation.handshakeComplete = false := by
      by_contra hc
      have := hworked.kept (Bool.not_eq_false _ ▸ hc)
      exact absurd (hincomplete.symm.trans this) (by decide)
    exact (hworked.untouched hbefore).1.trans (h.untouched hbefore)
  fallen := h.config_eq ▸ hworked.fallen
  standing _ := h.config_eq ▸ hadvanced.standing

/-- Every step keeps the invariant, and shows what it may do. -/
theorem Phased.step (h : Phased unplayed settings config start driver) (elapsed : UInt64)
    (socket : UdpSocket) :
    Phased unplayed settings config start (driver.step elapsed socket).2.1 ∧
      driver.observation.phase.Leads (driver.step elapsed socket).2.1.observation.phase ∧
      (driver.observation.handshakeComplete = false →
        (driver.step elapsed socket).2.1.observation.handshakeComplete = true →
          Greeted config socket) ∧
      (driver.observation.handshakeComplete = false →
        (driver.step elapsed socket).2.1.runtime.session = start) ∧
      OneFrame unplayed settings config.frameCount.toNat driver.runtime.session
        (driver.step elapsed socket).2.1.runtime.session := by
  have hsame : ∀ {result : Result PeerStep},
      Phased unplayed settings config start (result, driver, socket).2.1 ∧
        driver.observation.phase.Leads (result, driver, socket).2.1.observation.phase ∧
        (driver.observation.handshakeComplete = false →
          (result, driver, socket).2.1.observation.handshakeComplete = true →
            Greeted config socket) ∧
        (driver.observation.handshakeComplete = false →
          (result, driver, socket).2.1.runtime.session = start) ∧
        OneFrame unplayed settings config.frameCount.toNat driver.runtime.session
          (result, driver, socket).2.1.runtime.session :=
    fun {_} => ⟨h, .stay _, fun h0 h1 => absurd (h0.symm.trans h1) (by decide), h.untouched,
      Or.inl rfl⟩
  rw [PeerDriver.step]
  cases hfailure : driver.failure with
  | some e => exact hsame
  | none =>
    dsimp only
    split
    · exact hsame
    next hfinished =>
      split
      · exact hsame
      next hclock =>
        have hfailed : driver.observation.phase ≠ .failed := fun hphase => by
          have := h.failed.1 hphase
          rw [hfailure] at this
          cases this
        have haccept := h.accept hclock
        have hwork := haccept.work hfailure hfinished socket
        rcases hcall : (driver.accept elapsed).work elapsed socket with ⟨e | _, next, rest⟩
        · obtain ⟨hworked, hobservation⟩ := hwork.of_error hcall
          refine ⟨haccept.fail hworked e, .failed hfinished hfailed, fun h0 h1 => ?_, fun h0 => ?_,
            h.config_eq ▸ hworked.frame⟩
          · exact h.config_eq ▸ (hworked.untouched h0).2 h1
          · exact (hworked.untouched h0).1.trans (h.untouched h0)
        · obtain ⟨hworked, hadvanced⟩ := hwork.of_ok hcall
          refine ⟨haccept.tick hfailure hworked hadvanced, hadvanced.phase, fun h0 h1 => ?_,
            fun h0 => ?_, h.config_eq ▸ hworked.frame⟩
          · exact h.config_eq ▸ (hworked.untouched h0).2 h1
          · exact (hworked.untouched h0).1.trans (h.untouched h0)

theorem Reachable.phased {sessionConfig : SessionConfig} {run : SessionRun}
    (hrun : SessionRun.Reachable sessionConfig (fun _ _ => True) run)
    (h : Reachable config run.session driver) :
    Phased (SessionRun.Reachable sessionConfig SessionRun.Waits run) sessionConfig config run.session
      driver := by
  induction h with
  | create h => exact create_phased hrun h
  | step elapsed socket _ ih => exact (ih.step elapsed socket).1

/-! ## Last phases -/

/-- The driver after the steps of a list of times and sockets. -/
def after (driver : PeerDriver) (calls : List (UInt64 × UdpSocket)) : PeerDriver :=
  calls.foldl (fun driver call => (driver.step call.1 call.2).2.1) driver

/-- A step that leaves the driver in a last phase returns what every later step returns. -/
theorem Phased.step_last (h : Phased unplayed settings config start driver) {elapsed : UInt64}
    {socket rest : UdpSocket} {result : Result PeerStep}
    (hstep : driver.step elapsed socket = (result, next, rest))
    (hlast : next.observation.phase = .failed ∨ next.observation.phase = .finished)
    (elapsed' : UInt64) (socket' : UdpSocket) :
    next.step elapsed' socket' = (result, next, socket') := by
  have hnext : Phased unplayed settings config start next := by
    have := (h.step elapsed socket).1
    rwa [hstep] at this
  rw [PeerDriver.step] at hstep
  cases hfailure : driver.failure with
  | some e =>
    rw [hfailure] at hstep
    cases hstep
    rw [PeerDriver.step, hfailure]
  | none =>
    rw [hfailure] at hstep
    dsimp only at hstep
    have hnone : ∀ {p : PeerDriver}, Phased unplayed settings config start p → p.failure = none →
        p.observation.phase ≠ .failed := fun hp hf hphase => by
      have := hp.failed.1 hphase
      rw [hf] at this
      cases this
    split at hstep
    next hfinished =>
      cases hstep
      rw [PeerDriver.step, hfailure]
      exact if_pos hfinished
    next hfinished =>
      split at hstep
      next =>
        cases hstep
        exact absurd (hlast.resolve_right hfinished) (hnone h hfailure)
      next hclock =>
        have hwork := (h.accept hclock).work hfailure hfinished socket
        rcases hcall : (driver.accept elapsed).work elapsed socket with ⟨e | _, worked, last⟩
        · rw [hcall] at hstep
          cases hstep
          rw [PeerDriver.step]
          rfl
        · obtain ⟨hworked, -⟩ := hwork.of_ok hcall
          rw [hcall] at hstep
          cases hstep
          have hclean : worked.tick.failure = none := hworked.failure.trans hfailure
          have hdone := hlast.resolve_left (hnone hnext hclean)
          rw [PeerDriver.step, hclean]
          exact if_pos hdone

theorem after_of_fixed {result : Result PeerStep}
    (h : ∀ elapsed socket, driver.step elapsed socket = (result, driver, socket))
    (calls : List (UInt64 × UdpSocket)) : driver.after calls = driver := by
  induction calls with
  | nil => rfl
  | cons call calls ih =>
    rw [after, List.foldl_cons, h call.1 call.2]
    exact ih

/-- The phases of a driver are ordered, its session is left alone until a hello has been
accepted, a reversed clock changes nothing, no time difference underflows, and a last phase is
never left. A session that nobody had advanced goes one frame at a time up to the last. One that
was played before may fall back in addition, and does the same in the order of the frames unless
its window is of the size of that order. -/
theorem peer_phases {sessionConfig : SessionConfig} {run : SessionRun}
    (hrun : SessionRun.Reachable sessionConfig (fun _ _ => True) run)
    (h : Reachable config run.session driver) {elapsed : UInt64} {socket rest : UdpSocket}
    {result : Result PeerStep} (hstep : driver.step elapsed socket = (result, next, rest)) :
    driver.observation.phase.Leads next.observation.phase ∧
      (driver.observation.handshakeComplete = false →
        next.runtime.session = run.session ∧
        (next.observation.handshakeComplete = true → Greeted config socket)) ∧
      (SessionRun.Reachable sessionConfig SessionRun.Waits run →
        next.frame ≤ driver.frame + 1 ∧ next.frame ≤ config.frameCount.toNat) ∧
      (sessionConfig.maxRollbackFrames.toNat < 2 ^ 30 →
        frameBefore (nextFrame driver.runtime.session.state.frame) next.runtime.session.state.frame =
            false ∧
          frameBefore ⟨config.frameCount⟩ next.runtime.session.state.frame = false) ∧
      (elapsed < driver.lastElapsed → driver.observation.phase ≠ .finished →
        (∃ e, result = .error e) ∧ next = driver ∧ rest = socket) ∧
      (driver.lastElapsed ≤ elapsed →
        (elapsed - driver.runStarted).toNat + driver.runStarted.toNat = elapsed.toNat) ∧
      (next.observation.phase = .failed ∨ next.observation.phase = .finished →
        ∀ calls elapsed' socket',
          (next.after calls).step elapsed' socket' = (result, next, socket')) := by
  have hphased := h.phased hrun
  obtain ⟨hnext, hleads, hgreeted, huntouched, hframe⟩ := hphased.step elapsed socket
  rw [hstep] at hnext hleads hgreeted huntouched hframe
  have hsmall := hnext.small
  refine ⟨hleads, fun hc => ⟨huntouched hc, hgreeted hc⟩, fun hwaits => ⟨?_, ?_⟩,
    fun hwindow => ⟨?_, ?_⟩, fun hback hphase => ?_, fun hclock => ?_, fun hlast calls elapsed' socket' => ?_⟩
  · exact hframe.frame_le hwaits (by omega)
  · exact frame_le_of_fallen hnext.fallen hwaits (by omega)
  · exact hframe.not_past hwindow (by omega)
  · have hlast : (⟨config.frameCount⟩ : FrameNumber) = FrameNumber.plus ⟨0⟩ config.frameCount.toNat := by
      rw [FrameNumber.plus, UInt32.ofNat_toNat, UInt32.zero_add]
    rw [hlast]
    exact hnext.fallen.not_past hwindow (by omega)
  · rw [PeerDriver.step] at hstep
    cases hfailure : driver.failure with
    | some e =>
      rw [hfailure] at hstep
      cases hstep
      exact ⟨⟨e, rfl⟩, rfl, rfl⟩
    | none =>
      rw [hfailure] at hstep
      dsimp only at hstep
      rw [if_neg hphase, if_pos hback] at hstep
      cases hstep
      exact ⟨⟨_, rfl⟩, rfl, rfl⟩
  · have hle : driver.runStarted ≤ elapsed := UInt64.le_trans hphased.clock hclock
    rw [UInt64.toNat_sub_of_le _ _ hle]
    exact Nat.sub_add_cancel (UInt64.le_iff_toNat_le.1 hle)
  · have hfixed := hphased.step_last hstep hlast
    rw [after_of_fixed hfixed]
    exact hfixed elapsed' socket'

/-- A session that has been told the first input of the other peer before a driver takes it. -/
def toldRun : SessionRun := (SessionRun.start {}).call (.ingestRemote ⟨⟨0⟩, .b, 0, 1⟩)

def greeting : UdpSocket :=
  { receiveResults := [(encodeHello { id := .b }).map fun bytes => some ⟨bytes, 0⟩] }

/-- A driver that has been greeted and has run a frame. -/
def ranFrame (driver : PeerDriver) : PeerDriver := driver.after [(0, greeting), (1, {})]

theorem ranFrame_told : (PeerDriver.create {} toldRun.session (.ok ())).map (fun driver =>
    (driver.ranFrame.frame, driver.ranFrame.observation.phase, (driver.ranFrame.step 9000 {}).1,
      (driver.ranFrame.step 9000 {}).2.1.observation.phase)) =
    .ok (1, .running, .error ⟨.timeout, 1, 0, "udp_peer_run"⟩, .failed) := by decide +kernel

/-- Then the driver hears nothing more, and fails for good when its time is over. -/
theorem peer_phases_timeout : ∃ (driver next : PeerDriver) (rest : UdpSocket),
    driver.frame = 1 ∧ driver.observation.phase = .running ∧
    driver.step 9000 {} = (.error ⟨.timeout, 1, 0, "udp_peer_run"⟩, next, rest) ∧ next.frame ≤ 2 ∧
    ∀ calls elapsed socket, (next.after calls).step elapsed socket =
      (.error ⟨.timeout, 1, 0, "udp_peer_run"⟩, next, socket) := by
  have htold := ranFrame_told
  cases hcreate : PeerDriver.create {} toldRun.session (.ok ()) with
  | error e =>
    rw [hcreate] at htold
    cases htold
  | ok driver =>
    rw [hcreate] at htold
    simp only [Except.map, Except.ok.injEq, Prod.mk.injEq] at htold
    obtain ⟨hframe, hrunning, hresult, hfailed⟩ := htold
    have hreachable : Reachable {} toldRun.session driver.ranFrame :=
      .step 1 {} (.step 0 greeting (.create hcreate))
    have hstep : driver.ranFrame.step 9000 {} = (.error ⟨.timeout, 1, 0, "udp_peer_run"⟩,
        (driver.ranFrame.step 9000 {}).2.1, (driver.ranFrame.step 9000 {}).2.2) :=
      Prod.ext hresult rfl
    obtain ⟨-, -, hadvanced, -, -, -, hlast⟩ := peer_phases (.call _ .start trivial) hreachable hstep
    have hnext := (hadvanced (.call _ .start fun _ => nofun)).1
    rw [hframe] at hnext
    exact ⟨_, _, _, hframe, hrunning, hstep, hnext, hlast (Or.inl hfailed)⟩

end PeerDriver

end RollbackLab
