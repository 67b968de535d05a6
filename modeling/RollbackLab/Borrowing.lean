import RollbackLab.CApi
import RollbackLab.FreshSession
import RollbackLab.Lease

/-!
# Borrowing in the C ABI

A session is marked while a driver refers to it. A driver takes sessions that nobody has
borrowed and nobody has touched. A session that is not touched is as new: the calls that
change it touch it, except for the steps of a UDP driver that fail, and before its first
success such a driver has not done anything with its session.
-/

namespace RollbackLab

/-! ## Sessions that nobody has used -/

namespace RollbackSession

/-- A session as it was created. -/
structure Unused (session : RollbackSession) : Prop where
  initialState : session.config.initialState = makeInitialWorld
  created : session = .create session.config

variable {session next : RollbackSession}

theorem Unused.create {config : SessionConfig} (h : config.initialState = makeInitialWorld) :
    Unused (.create config) :=
  ⟨h, rfl⟩

/-- It is in the initial state, and knows of nothing. -/
theorem Unused.empty (h : Unused session) : session.state = makeInitialWorld ∧
    session.storage.localInputs = .empty ∧ session.storage.remoteInputs = .empty ∧
      session.storage.usedRemoteInputs = .empty ∧ session.storage.snapshots = .empty ∧
        session.earliestDirty = none := by
  rw [h.created]
  exact ⟨h.initialState, rfl, rfl, rfl, rfl, rfl⟩

theorem Unused.flushCorrections (h : Unused session) : session.flushCorrections = (.ok {}, session) := by
  rw [h.created]
  exact (Solo.start h.initialState).flushCorrections

/-- It takes the input of its first frame, and ignores any other. -/
theorem Unused.advance_error (h : Unused session) {loc : InputFrame} {error : Error}
    (hadvance : session.advance loc = (.error error, next)) : next = session := by
  by_cases hignores : session.config.Ignores (.advance loc)
  · have hsame := create_ignores h.initialState hignores
    rw [← h.created] at hsame
    change (session.advance loc).2 = session at hsame
    rw [hadvance] at hsame
    exact hsame
  · obtain ⟨result, after, hok, -⟩ := create_advances h.initialState hignores
    rw [← h.created, hadvance] at hok
    cases hok

end RollbackSession

namespace PeerDriver

variable {driver : PeerDriver}

/-- A driver that has failed, or has not been answered yet. -/
def Waiting (driver : PeerDriver) : Prop :=
  driver.failure ≠ none ∨ driver.observation.phase = .handshake

/-- A greeting does not concern the session. -/
theorem shakeHands_session (driver : PeerDriver) (elapsed : UInt64) (socket : UdpSocket) :
    (driver.shakeHands elapsed socket).2.1.runtime = driver.runtime := by
  rw [shakeHands]
  split
  · rfl
  split
  · rfl
  split
  · rfl
  · rfl
  split
  · rfl
  split
  · rfl
  split
  · rfl
  · rfl

/-- A driver that waits leaves its session alone, and goes on waiting if its step fails. -/
theorem Waiting.step (h : driver.Waiting) {elapsed : UInt64} {socket after : UdpSocket} {error : Error}
    {next : PeerDriver} (hstep : driver.step elapsed socket = (.error error, next, after)) :
    next.Waiting ∧ next.runtime.session = driver.runtime.session := by
  rw [PeerDriver.step] at hstep
  split at hstep
  · cases hstep
    exact ⟨h, rfl⟩
  next hfailure =>
    have hphase := h.resolve_left fun hfailed => hfailed hfailure
    split at hstep
    · cases hstep
    split at hstep
    · cases hstep
      exact ⟨h, rfl⟩
    have hwork : (driver.accept elapsed).work elapsed socket =
        (driver.accept elapsed).shakeHands elapsed socket := if_pos hphase
    rw [hwork] at hstep
    have hkept := shakeHands_session (driver.accept elapsed) elapsed socket
    revert hstep hkept
    rcases (driver.accept elapsed).shakeHands elapsed socket with ⟨_ | _, shaken, rest⟩
    · intro hstep hkept
      cases hstep
      have hsession := congrArg PeerRuntime.session hkept
      exact ⟨Or.inl (Option.some_ne_none _), hsession⟩
    · intro hstep
      cases hstep

end PeerDriver

/-! ## Calls -/

/-- A driver, by its kind and its handle. -/
inductive RlDriver where
  | live (address : ℕ)
  | peer (address : ℕ)
  deriving DecidableEq, Repr

inductive RlCall where
  | sessionCreate (config : Option RlSessionConfig) (output : Bool) (address : Option ℕ)
  | sessionDestroy (session : Option ℕ)
  | sessionAdvance (session : Option ℕ) (input : Option RlInputFrame) (output : Option RlHeader)
  | sessionIngestRemote (session : Option ℕ) (input : Option RlInputFrame)
  | sessionFlushCorrections (session : Option ℕ) (output : Option RlHeader)
  | liveCreate (config : Option RlLiveConfig) (a b : Option ℕ) (output : Bool) (address : Option ℕ)
  | liveDestroy (live : Option ℕ)
  | liveStep (live : Option ℕ) (overrideLocalInput localButtons : UInt32) (output : Option RlHeader)
  | udpPeerCreate (config : Option RlUdpConfig) (session : Option ℕ) (output : Bool)
      (bound : Result Unit) (address : Option ℕ)
  | udpPeerDestroy (peer : Option ℕ)
  | udpPeerStep (peer : Option ℕ) (elapsed : UInt64) (output : Option RlHeader) (socket : UdpSocket)

namespace RlMemory

/-- A handle is null, or it refers to an object. -/
def Refers {α : Type} (objects : ℕ → Option α) (handle : Option ℕ) : Prop :=
  ∀ found ∈ handle, objects found ≠ none

/-- The allocator hands out addresses that are not in use. -/
def Allocates {α : Type} (objects : ℕ → Option α) (address : Option ℕ) : Prop :=
  ∀ free ∈ address, objects free = none

variable (memory : RlMemory)

/-- What a call leaves behind. -/
def call : RlCall → RlMemory
  | .sessionCreate config output address => (memory.sessionCreate config output address).memory
  | .sessionDestroy session => (memory.sessionDestroy session).memory
  | .sessionAdvance session input output => (memory.sessionAdvance session input output).memory
  | .sessionIngestRemote session input => (memory.sessionIngestRemote session input).memory
  | .sessionFlushCorrections session output => (memory.sessionFlushCorrections session output).memory
  | .liveCreate config a b output address => (memory.liveCreate config a b output address).memory
  | .liveDestroy live => (memory.liveDestroy live).memory
  | .liveStep live overrideLocalInput localButtons output =>
    (memory.liveStep live overrideLocalInput localButtons output).memory
  | .udpPeerCreate config session output bound address =>
    (memory.udpPeerCreate config session output bound address).memory
  | .udpPeerDestroy peer => (memory.udpPeerDestroy peer).memory
  | .udpPeerStep peer elapsed output socket => (memory.udpPeerStep peer elapsed output socket).memory

def Valid : RlCall → Prop
  | .sessionCreate _ _ address => Allocates memory.sessions address
  | .sessionDestroy session | .sessionAdvance session _ _ | .sessionIngestRemote session _
  | .sessionFlushCorrections session _ => Refers memory.sessions session
  | .liveCreate _ a b _ address =>
    Refers memory.sessions a ∧ Refers memory.sessions b ∧ Allocates memory.lives address
  | .liveDestroy live | .liveStep live _ _ _ => Refers memory.lives live
  | .udpPeerCreate _ session _ _ address =>
    Refers memory.sessions session ∧ Allocates memory.peers address
  | .udpPeerDestroy peer | .udpPeerStep peer _ _ _ => Refers memory.peers peer

/-- What is left after any sequence of calls on valid handles. -/
inductive Reachable : RlMemory → Prop
  | start : Reachable .empty
  | call {memory : RlMemory} (h : Reachable memory) (c : RlCall) (hc : memory.Valid c) :
      Reachable (memory.call c)

/-- A driver refers to a session. -/
def Drives : RlDriver → ℕ → Prop
  | .live address, handle => ∃ live, memory.lives address = some live ∧ (live.a = handle ∨ live.b = handle)
  | .peer address, handle => ∃ peer, memory.peers address = some peer ∧ peer.session = handle

def Borrowed (handle : ℕ) : Prop :=
  ∃ session, memory.sessions handle = some session ∧ session.borrowed = true

/-- What holds between calls. -/
structure Sound : Prop where
  leases : Lease.Exclusive memory.Borrowed memory.Drives
  distinct : ∀ address live, memory.lives address = some live → live.a ≠ live.b
  unused : ∀ handle session, memory.sessions handle = some session → session.touched = false →
    session.native.Unused
  waiting : ∀ address peer session, memory.peers address = some peer →
    memory.sessions peer.session = some session → session.touched = false → peer.native.Waiting

variable {memory} {handle address : ℕ} {session next : RlSession}

theorem Sound.empty : Sound .empty := by
  refine ⟨.start ?_ ?_, fun _ _ h => ?_, fun _ _ h => ?_, fun _ _ _ h => ?_⟩
  · rintro handle ⟨session, h, -⟩
    cases h
  · rintro (address | address) handle ⟨driver, h, -⟩
    · cases h
    · cases h
  · cases h
  · cases h
  · cases h

/-! ## Lookups and updates -/

theorem sessions_setSession (other : ℕ) : (memory.setSession handle session).sessions other =
    if other = handle then some session else memory.sessions other := by
  exact Function.update_apply ..

/-- What is found after an entry has been set or removed. -/
theorem update_eq_some {α : Type} {objects : ℕ → Option α} {key other : ℕ} {value : Option α} {object : α} :
    Function.update objects key value other = some object ↔
      other = key ∧ value = some object ∨ other ≠ key ∧ objects other = some object := by
  rw [Function.update_apply]
  split
  next heq => simp [heq]
  next hne => simp [hne]

theorem lookUp_ok {α : Type} {objects : ℕ → Option α} {pointer : Option ℕ} {object : α} :
    lookUp objects pointer = .ok (handle, object) ↔ pointer = some handle ∧ objects handle = some object := by
  cases pointer with
  | none => simp [lookUp]
  | some found =>
    rw [lookUp, Option.some.injEq]
    cases hfound : objects found with
    | none =>
      constructor
      · rintro ⟨⟩
      · rintro ⟨rfl, h⟩
        cases hfound.symm.trans h
    | some held =>
      constructor
      · rintro ⟨⟩
        exact ⟨rfl, hfound⟩
      · rintro ⟨rfl, h⟩
        cases hfound.symm.trans h
        rfl

theorem refuseIf_bind_ok {α : Type} {condition : Prop} [Decidable condition] {status : RlStatus}
    {f : Unit → Except RlStatus α} {a : α} :
    (refuseIf condition status >>= f) = .ok a ↔ ¬condition ∧ f () = .ok a := by
  by_cases h : condition
  · simp [refuseIf, h, bind, Except.bind]
  · simp [refuseIf, h, bind, Except.bind]

theorem checkSession_ok {pointer : Option ℕ} {mutation : Bool} :
    memory.checkSession pointer mutation = .ok (handle, session) ↔
      pointer = some handle ∧ memory.sessions handle = some session ∧
        ¬(mutation = true ∧ session.borrowed = true) := by
  rw [checkSession, bind_ok_iff]
  constructor
  · rintro ⟨⟨found, held⟩, hfound, hok⟩
    obtain ⟨hfree, hsame⟩ := refuseIf_bind_ok.1 hok
    cases hsame
    obtain ⟨hpointer, hsession⟩ := lookUp_ok.1 hfound
    exact ⟨hpointer, hsession, hfree⟩
  · rintro ⟨hpointer, hsession, hfree⟩
    exact ⟨(handle, session), lookUp_ok.2 ⟨hpointer, hsession⟩, refuseIf_bind_ok.2 ⟨hfree, rfl⟩⟩

/-- Who changes a session finds it unborrowed. -/
theorem checkSession_free {pointer : Option ℕ} (h : memory.checkSession pointer true = .ok (handle, session)) :
    pointer = some handle ∧ memory.sessions handle = some session ∧ session.borrowed = false := by
  obtain ⟨hpointer, hsession, hfree⟩ := checkSession_ok.1 h
  exact ⟨hpointer, hsession, Bool.eq_false_iff.2 fun hborrowed => hfree ⟨rfl, hborrowed⟩⟩

theorem checkPeer_ok {pointer : Option ℕ} {peer : RlUdpPeer} :
    memory.checkPeer pointer = .ok (address, peer, session) ↔
      pointer = some address ∧ memory.peers address = some peer ∧
        memory.sessions peer.session = some session := by
  rw [checkPeer, bind_ok_iff]
  constructor
  · rintro ⟨⟨found, held⟩, hfound, hok⟩
    obtain ⟨⟨other, inner⟩, hinner, hsame⟩ := bind_ok_iff.1 hok
    cases hsame
    obtain ⟨hpointer, hpeer⟩ := lookUp_ok.1 hfound
    obtain ⟨hother, hsession, -⟩ := checkSession_ok.1 hinner
    cases hother
    exact ⟨hpointer, hpeer, hsession⟩
  · rintro ⟨hpointer, hpeer, hsession⟩
    refine ⟨(address, peer), lookUp_ok.2 ⟨hpointer, hpeer⟩, bind_ok_iff.2 ⟨(peer.session, session), ?_, rfl⟩⟩
    exact checkSession_ok.2 ⟨rfl, hsession, by simp⟩

/-! ## What stays sound -/

theorem Sound.exists_session (h : memory.Sound) {driver : RlDriver} (hdrives : memory.Drives driver handle) :
    ∃ session, memory.sessions handle = some session ∧ session.borrowed = true :=
  (h.leases.marked_iff handle).2 ⟨driver, hdrives⟩

/-- A session is worked on, whoever has borrowed it. -/
theorem Sound.setSession (h : memory.Sound) (next : RlSession)
    (hfound : memory.sessions handle = some session) (hborrowed : next.borrowed = session.borrowed)
    (htouched : next.touched = false → session.touched = false ∧ next.native.Unused) :
    (memory.setSession handle next).Sound := by
  refine ⟨h.leases.congr (fun other => ?_) (fun driver other => ?_), h.distinct,
    fun other held hheld hfresh => ?_, fun address peer held hpeer hheld hfresh => ?_⟩
  · rw [Borrowed, Borrowed, sessions_setSession]
    split
    next heq =>
      rw [heq, hfound]
      simp only [Option.some.injEq, exists_eq_left', hborrowed]
    · rfl
  · cases driver <;> rfl
  · rw [sessions_setSession] at hheld
    split at hheld
    · cases hheld
      exact (htouched hfresh).2
    · exact h.unused other held hheld hfresh
  · rw [sessions_setSession] at hheld
    split at hheld
    next heq =>
      cases hheld
      exact h.waiting address peer session hpeer (heq ▸ hfound) (htouched hfresh).1
    · exact h.waiting address peer held hpeer hheld hfresh

theorem drives_live {live : RlLive} (hfound : memory.lives address = some live) :
    memory.Drives (.live address) handle ↔ live.a = handle ∨ live.b = handle := by
  rw [Drives, hfound]
  simp only [Option.some.injEq, exists_eq_left']

theorem drives_peer {peer : RlUdpPeer} (hfound : memory.peers address = some peer) :
    memory.Drives (.peer address) handle ↔ peer.session = handle := by
  rw [Drives, hfound]
  simp only [Option.some.injEq, exists_eq_left']

/-- Who drives a session once a live driver has come, gone or changed. -/
theorem drives_lives {after : RlMemory} {value : Option RlLive}
    (hlives : after.lives = Function.update memory.lives address value)
    (hpeers : after.peers = memory.peers) (driver : RlDriver) :
    after.Drives driver handle ↔ memory.Drives driver handle ∧ driver ≠ .live address ∨
      driver = .live address ∧ ∃ live, value = some live ∧ (live.a = handle ∨ live.b = handle) := by
  cases driver with
  | live found =>
    rw [Drives, Drives, hlives, Function.update_apply, ne_eq, RlDriver.live.injEq]
    split
    next heq => simp [heq]
    next hne => simp [hne]
  | peer found =>
    rw [Drives, Drives, hpeers]
    simp

/-- Who drives a session once a UDP driver has come, gone or changed. -/
theorem drives_peers {after : RlMemory} {value : Option RlUdpPeer}
    (hpeers : after.peers = Function.update memory.peers address value)
    (hlives : after.lives = memory.lives) (driver : RlDriver) :
    after.Drives driver handle ↔ memory.Drives driver handle ∧ driver ≠ .peer address ∨
      driver = .peer address ∧ ∃ peer, value = some peer ∧ peer.session = handle := by
  cases driver with
  | live found =>
    rw [Drives, Drives, hlives]
    simp
  | peer found =>
    rw [Drives, Drives, hpeers, Function.update_apply, ne_eq, RlDriver.peer.injEq]
    split
    next heq => simp [heq]
    next hne => simp [hne]

theorem Sound.setLive (h : memory.Sound) {live after : RlLive} (hfound : memory.lives address = some live)
    (ha : after.a = live.a) (hb : after.b = live.b) : (memory.setLive address after).Sound := by
  refine ⟨h.leases.congr (fun _ => Iff.rfl) (fun driver other => ?_), fun other held hheld => ?_, h.unused,
    h.waiting⟩
  · have hlives : (memory.setLive address after).lives =
        Function.update memory.lives address (some after) := rfl
    rw [drives_lives hlives rfl]
    rcases eq_or_ne driver (.live address) with rfl | hne
    · rw [drives_live hfound]
      simp [ha, hb]
    · simp [hne]
  · rcases update_eq_some.1 hheld with ⟨-, hsame⟩ | ⟨-, hold⟩
    · cases hsame
      rw [ha, hb]
      exact h.distinct address live hfound
    · exact h.distinct other held hold

theorem Sound.setPeer (h : memory.Sound) {peer after : RlUdpPeer} (hfound : memory.peers address = some peer)
    (hsession : after.session = peer.session)
    (hwaiting : ∀ session, memory.sessions peer.session = some session → session.touched = false →
      after.native.Waiting) : (memory.setPeer address after).Sound := by
  refine ⟨h.leases.congr (fun _ => Iff.rfl) (fun driver other => ?_), h.distinct, h.unused,
    fun other held session hheld hsessions hfresh => ?_⟩
  · have hpeers : (memory.setPeer address after).peers =
        Function.update memory.peers address (some after) := rfl
    rw [drives_peers hpeers rfl]
    rcases eq_or_ne driver (.peer address) with rfl | hne
    · rw [drives_peer hfound]
      simp [hsession]
    · simp [hne]
  · rcases update_eq_some.1 hheld with ⟨-, hsame⟩ | ⟨-, hold⟩
    · cases hsame
      rw [hsession] at hsessions
      exact hwaiting session hsessions hfresh
    · exact h.waiting other held session hold hsessions hfresh

/-! ## Calls on sessions -/

theorem allocated_ok {pointer : Option ℕ} : allocated pointer = .ok address ↔ pointer = some address := by
  cases pointer with
  | none => simp [allocated]
  | some found => rw [allocated, Except.ok.injEq, Option.some.injEq]

/-- Nobody refers to an address that is free. -/
theorem Sound.addSession (h : memory.Sound) (hfree : memory.sessions handle = none)
    (hborrowed : next.borrowed = false) (hunused : next.native.Unused) :
    (memory.setSession handle next).Sound := by
  have hnone : ∀ driver, ¬memory.Drives driver handle := by
    intro driver hdrives
    obtain ⟨session, hsession, -⟩ := h.exists_session hdrives
    cases hfree.symm.trans hsession
  refine ⟨h.leases.congr (fun other => ?_) (fun driver other => ?_), h.distinct,
    fun other held hheld hfresh => ?_, fun address peer held hpeer hheld hfresh => ?_⟩
  · rw [Borrowed, Borrowed, sessions_setSession]
    split
    next heq =>
      rw [heq, hfree]
      simp [hborrowed]
    · rfl
  · cases driver <;> rfl
  · rw [sessions_setSession] at hheld
    split at hheld
    · cases hheld
      exact hunused
    · exact h.unused other held hheld hfresh
  · rw [sessions_setSession] at hheld
    split at hheld
    next heq => exact absurd ⟨peer, hpeer, heq⟩ (hnone (.peer address))
    · exact h.waiting address peer held hpeer hheld hfresh

theorem Sound.sessionCreate (h : memory.Sound) (config : Option RlSessionConfig) (output : Bool)
    {pointer : Option ℕ} (hfree : Allocates memory.sessions pointer) :
    (memory.sessionCreate config output pointer).memory.Sound := by
  rw [RlMemory.sessionCreate]
  split
  · exact h
  dsimp only
  split
  · exact h
  next handle session hcreated =>
    obtain ⟨config, -, hcreated⟩ := bind_ok_iff.1 hcreated
    obtain ⟨-, hcreated⟩ := refuseIf_bind_ok.1 hcreated
    obtain ⟨-, hcreated⟩ := refuseIf_bind_ok.1 hcreated
    obtain ⟨found, hfound, hcreated⟩ := bind_ok_iff.1 hcreated
    cases hcreated
    exact h.addSession (hfree _ (allocated_ok.1 hfound)) rfl (.create rfl)

theorem Sound.sessionDestroy (h : memory.Sound) (pointer : Option ℕ) :
    (memory.sessionDestroy pointer).memory.Sound := by
  rw [RlMemory.sessionDestroy]
  split
  · exact h
  next handle session hfound =>
    obtain ⟨-, hsession, hfree⟩ := checkSession_free hfound
    refine ⟨h.leases.congr (fun other => ?_) (fun driver other => ?_), h.distinct,
      fun other held hheld => ?_, fun address peer held hpeer hheld => ?_⟩
    · rw [Borrowed, Borrowed]
      dsimp only
      rw [Function.update_apply]
      split
      next heq =>
        rw [heq, hsession]
        simp only [reduceCtorEq, false_and, exists_false, Option.some.injEq, exists_eq_left', false_iff]
        exact Bool.eq_false_iff.1 hfree
      · rfl
    · cases driver <;> rfl
    · rcases update_eq_some.1 hheld with ⟨-, hnone⟩ | ⟨-, hold⟩
      · cases hnone
      · exact h.unused other held hold
    · rcases update_eq_some.1 hheld with ⟨-, hnone⟩ | ⟨-, hold⟩
      · cases hnone
      · exact h.waiting address peer held hpeer hold

theorem Sound.sessionAdvance (h : memory.Sound) (pointer : Option ℕ) (input : Option RlInputFrame)
    (output : Option RlHeader) : (memory.sessionAdvance pointer input output).memory.Sound := by
  rw [RlMemory.sessionAdvance]
  dsimp only
  split
  · exact h
  next handle session input hchecked =>
    obtain ⟨⟨found, held⟩, hfound, hchecked⟩ := bind_ok_iff.1 hchecked
    obtain ⟨other, -, hchecked⟩ := bind_ok_iff.1 hchecked
    obtain ⟨-, -, hchecked⟩ := bind_ok_iff.1 hchecked
    obtain ⟨-, hchecked⟩ := refuseIf_bind_ok.1 hchecked
    obtain ⟨-, hchecked⟩ := refuseIf_bind_ok.1 hchecked
    cases hchecked
    obtain ⟨-, hsession, -⟩ := checkSession_free hfound
    split
    next error native hadvance =>
      refine h.setSession _ hsession rfl fun hfresh => ⟨hfresh, ?_⟩
      have hunused := h.unused _ _ hsession hfresh
      rw [hunused.advance_error hadvance]
      exact hunused
    · refine h.setSession _ hsession rfl fun hfresh => ?_
      cases hfresh

theorem Sound.sessionIngestRemote (h : memory.Sound) (pointer : Option ℕ) (input : Option RlInputFrame) :
    (memory.sessionIngestRemote pointer input).memory.Sound := by
  rw [RlMemory.sessionIngestRemote]
  dsimp only
  split
  · exact h
  next handle session input hchecked =>
    obtain ⟨⟨found, held⟩, hfound, hchecked⟩ := bind_ok_iff.1 hchecked
    obtain ⟨other, -, hchecked⟩ := bind_ok_iff.1 hchecked
    obtain ⟨-, hchecked⟩ := refuseIf_bind_ok.1 hchecked
    obtain ⟨-, hchecked⟩ := refuseIf_bind_ok.1 hchecked
    cases hchecked
    obtain ⟨-, hsession, -⟩ := checkSession_free hfound
    split
    next error native hingest =>
      refine h.setSession _ hsession rfl fun hfresh => ⟨hfresh, ?_⟩
      rw [RollbackSession.ingestRemote_refused hingest]
      exact h.unused _ _ hsession hfresh
    · refine h.setSession _ hsession rfl fun hfresh => ?_
      cases hfresh

/-- There is nothing to correct in a session that nobody has touched. -/
theorem Sound.sessionFlushCorrections (h : memory.Sound) (pointer : Option ℕ) (output : Option RlHeader) :
    (memory.sessionFlushCorrections pointer output).memory.Sound := by
  rw [RlMemory.sessionFlushCorrections]
  dsimp only
  split
  · exact h
  next handle session hchecked =>
    obtain ⟨⟨found, held⟩, hfound, hchecked⟩ := bind_ok_iff.1 hchecked
    obtain ⟨-, -, hchecked⟩ := bind_ok_iff.1 hchecked
    cases hchecked
    obtain ⟨-, hsession, -⟩ := checkSession_free hfound
    split
    next error native hflush =>
      refine h.setSession _ hsession rfl fun hfresh => ⟨hfresh, ?_⟩
      have hunused := h.unused _ _ hsession hfresh
      rw [hunused.flushCorrections] at hflush
      cases hflush
    next result native hflush =>
      refine h.setSession _ hsession rfl fun hfresh => ?_
      obtain ⟨huntouched, -⟩ := Bool.or_eq_false_iff.1 hfresh
      have hunused := h.unused _ _ hsession huntouched
      rw [hunused.flushCorrections] at hflush
      cases hflush
      exact ⟨huntouched, hunused⟩

/-! ## Creating a driver -/

/-- Nothing but the marks of sessions has changed, and drivers may have come or gone. -/
structure Remarks (memory next : RlMemory) (mark : ℕ → Bool → Bool) : Prop where
  sessions : ∀ handle, next.sessions handle =
    (memory.sessions handle).map fun session =>
      { session with borrowed := mark handle session.borrowed }
  peers : ∀ address peer, next.peers address = some peer →
    memory.peers address = some peer ∨ peer.native.Waiting

section Remarks

variable {after : RlMemory} {mark : ℕ → Bool → Bool}

theorem Remarks.borrowed_iff (h : Remarks memory after mark) (handle : ℕ) : after.Borrowed handle ↔
    ∃ session, memory.sessions handle = some session ∧ mark handle session.borrowed = true := by
  rw [Borrowed, h.sessions]
  cases memory.sessions handle with
  | none => simp
  | some session => simp

theorem Remarks.sound (h : Remarks memory after mark) (hsound : memory.Sound)
    (hleases : Lease.Exclusive after.Borrowed after.Drives)
    (hdistinct : ∀ address live, after.lives address = some live → live.a ≠ live.b) : after.Sound := by
  have hold : ∀ handle session, after.sessions handle = some session →
      ∃ old, memory.sessions handle = some old ∧ old.native = session.native ∧
        old.touched = session.touched := by
    intro handle session hsession
    rw [h.sessions] at hsession
    obtain ⟨old, hfound, rfl⟩ := Option.map_eq_some_iff.1 hsession
    exact ⟨old, hfound, rfl, rfl⟩
  refine ⟨hleases, hdistinct, fun handle session hsession hfresh => ?_,
    fun address peer session hpeer hsession hfresh => ?_⟩
  · obtain ⟨old, hfound, hnative, htouched⟩ := hold handle session hsession
    exact hnative ▸ hsound.unused handle old hfound (htouched.trans hfresh)
  · obtain ⟨old, hfound, -, htouched⟩ := hold peer.session session hsession
    rcases h.peers address peer hpeer with hsame | hwaiting
    · exact hsound.waiting address peer old hsame hfound (htouched.trans hfresh)
    · exact hwaiting

end Remarks

theorem mapError_ok {α ε ε' : Type} {x : Except ε α} {f : ε → ε'} {a : α} :
    x.mapError f = .ok a ↔ x = .ok a := by
  cases x with
  | error error => simp [Except.mapError]
  | ok value => simp [Except.mapError]

/-- A session that a new driver may take. -/
structure Takes (pointer : Option ℕ) (handle : ℕ) (session : RlSession) (memory : RlMemory) : Prop where
  pointer_eq : pointer = some handle
  found : memory.sessions handle = some session
  free : session.borrowed = false
  fresh : session.touched = false

/-- A scenario plays the sessions it was created from. -/
theorem scenario_peer {config : ScenarioRunConfig} {peerA peerB : RollbackSession} {live : LiveScenario}
    (h : LiveScenario.create config peerA peerB = .ok live) : live.context.peer = ⟨peerA, peerB⟩ := by
  rw [LiveScenario.create] at h
  split at h
  · cases h
  · split at h
    · cases h
    · cases h
      rfl

theorem driver_waits {config : PeerConfig} {session : RollbackSession} {bound : Result Unit}
    {driver : PeerDriver} (h : PeerDriver.create config session bound = .ok driver) :
    driver.Waiting ∧ driver.runtime.session = session := by
  rw [PeerDriver.create] at h
  obtain ⟨-, h⟩ := failIf_bind_ok.1 h
  obtain ⟨-, -, h⟩ := bind_ok_iff.1 h
  obtain ⟨hello, -, h⟩ := bind_ok_iff.1 h
  cases h
  exact ⟨Or.inr rfl, rfl⟩

/-- A live driver is created from two free sessions, or nothing happens. -/
theorem liveCreate_cases (config : Option RlLiveConfig) (a b : Option ℕ) (output : Bool)
    (pointer : Option ℕ) :
    (∃ status, memory.liveCreate config a b output pointer =
        memory.refused status (if output then some none else none)) ∨
      ∃ address live sessionA sessionB, pointer = some address ∧ Takes a live.a sessionA memory ∧
        Takes b live.b sessionB memory ∧ live.a ≠ live.b ∧
        live.native.context.peer = ⟨sessionA.native, sessionB.native⟩ ∧
        memory.liveCreate config a b output pointer = ⟨.ok, some (some address),
          ((memory.setSession live.a { sessionA with borrowed := true }).setSession live.b
            { sessionB with borrowed := true }).setLive address live⟩ := by
  rw [liveCreate]
  cases output with
  | false => exact Or.inl ⟨_, rfl⟩
  | true =>
    rw [if_neg (by decide)]
    dsimp only
    split
    next status hcreated => exact Or.inl ⟨status, rfl⟩
    next address live sessionA sessionB hcreated =>
      obtain ⟨config, -, hcreated⟩ := bind_ok_iff.1 hcreated
      obtain ⟨⟨foundA, heldA⟩, hA, hcreated⟩ := bind_ok_iff.1 hcreated
      obtain ⟨⟨foundB, heldB⟩, hB, hcreated⟩ := bind_ok_iff.1 hcreated
      obtain ⟨hpeers, hcreated⟩ := refuseIf_bind_ok.1 hcreated
      obtain ⟨htouched, hcreated⟩ := refuseIf_bind_ok.1 hcreated
      obtain ⟨native, hnative, hcreated⟩ := bind_ok_iff.1 hcreated
      obtain ⟨found, hfound, hcreated⟩ := bind_ok_iff.1 hcreated
      cases hcreated
      obtain ⟨hpointerA, hsessionA, hfreeA⟩ := checkSession_free hA
      obtain ⟨hpointerB, hsessionB, hfreeB⟩ := checkSession_free hB
      rw [not_or, Bool.not_eq_true, Bool.not_eq_true] at htouched
      refine Or.inr ⟨address, _, heldA, heldB, allocated_ok.1 hfound,
        ⟨hpointerA, hsessionA, hfreeA, htouched.1⟩, ⟨hpointerB, hsessionB, hfreeB, htouched.2⟩, ?_,
        scenario_peer (mapError_ok.1 hnative), rfl⟩
      exact fun hsame => hpeers (Or.inl hsame)

/-- A UDP driver is created from a free session, or nothing happens. -/
theorem udpPeerCreate_cases (config : Option RlUdpConfig) (session : Option ℕ) (output : Bool)
    (bound : Result Unit) (pointer : Option ℕ) :
    (∃ status, memory.udpPeerCreate config session output bound pointer =
        memory.refused status (if output then some none else none)) ∨
      ∃ address peer held, pointer = some address ∧ Takes session peer.session held memory ∧
        peer.native.Waiting ∧ peer.native.runtime.session = held.native ∧
        memory.udpPeerCreate config session output bound pointer = ⟨.ok, some (some address),
          (memory.setSession peer.session { held with borrowed := true }).setPeer address peer⟩ := by
  rw [udpPeerCreate]
  cases output with
  | false => exact Or.inl ⟨_, rfl⟩
  | true =>
    rw [if_neg (by decide)]
    dsimp only
    split
    next status hcreated => exact Or.inl ⟨status, rfl⟩
    next address peer taken hcreated =>
      obtain ⟨config, -, hcreated⟩ := bind_ok_iff.1 hcreated
      obtain ⟨⟨handle, held⟩, hA, hcreated⟩ := bind_ok_iff.1 hcreated
      obtain ⟨htouched, hcreated⟩ := refuseIf_bind_ok.1 hcreated
      obtain ⟨native, hnative, hcreated⟩ := bind_ok_iff.1 hcreated
      obtain ⟨found, hfound, hcreated⟩ := bind_ok_iff.1 hcreated
      cases hcreated
      obtain ⟨hpointer, hsession, hfree⟩ := checkSession_free hA
      rw [Bool.not_eq_true] at htouched
      obtain ⟨hwaiting, hsame⟩ := driver_waits (mapError_ok.1 hnative)
      exact Or.inr ⟨address, _, held, allocated_ok.1 hfound, ⟨hpointer, hsession, hfree, htouched⟩,
        hwaiting, hsame, rfl⟩

theorem Takes.not_borrowed {pointer : Option ℕ} (h : Takes pointer handle session memory) :
    ¬memory.Borrowed handle := by
  rintro ⟨found, hfound, hborrowed⟩
  cases h.found.symm.trans hfound
  cases h.free.symm.trans hborrowed

/-- The sessions that a new driver takes are marked. -/
theorem Remarks.take {after : RlMemory} {taken : ℕ → Prop} [DecidablePred taken]
    (h : Remarks memory after fun handle borrowed => taken handle || borrowed)
    (hfound : ∀ handle, taken handle → ∃ session, memory.sessions handle = some session) (handle : ℕ) :
    after.Borrowed handle ↔ memory.Borrowed handle ∨ taken handle := by
  rw [h.borrowed_iff, Borrowed]
  constructor
  · rintro ⟨session, hsession, hmark⟩
    rcases Bool.or_eq_true_iff.1 hmark with htaken | hborrowed
    · exact Or.inr (of_decide_eq_true htaken)
    · exact Or.inl ⟨session, hsession, hborrowed⟩
  · rintro (⟨session, hsession, hborrowed⟩ | htaken)
    · exact ⟨session, hsession, Bool.or_eq_true_iff.2 (Or.inr hborrowed)⟩
    · obtain ⟨session, hsession⟩ := hfound handle htaken
      exact ⟨session, hsession, Bool.or_eq_true_iff.2 (Or.inl (decide_eq_true htaken))⟩

theorem Sound.liveCreate (h : memory.Sound) (config : Option RlLiveConfig) (a b : Option ℕ)
    (output : Bool) {pointer : Option ℕ} (hfree : Allocates memory.lives pointer) :
    (memory.liveCreate config a b output pointer).memory.Sound := by
  rcases memory.liveCreate_cases config a b output pointer with
    ⟨status, heq⟩ | ⟨address, live, sessionA, sessionB, hpointer, hA, hB, hne, -, heq⟩
  · rw [heq]
    exact h
  rw [heq]
  dsimp only
  set marked := (memory.setSession live.a { sessionA with borrowed := true }).setSession live.b
    { sessionB with borrowed := true } with hmarked
  have hremarks : Remarks memory (marked.setLive address live) fun handle borrowed =>
      (live.a = handle ∨ live.b = handle) || borrowed := by
    refine ⟨fun handle => ?_, fun _ _ => Or.inl⟩
    change marked.sessions handle = _
    rw [hmarked, sessions_setSession, sessions_setSession]
    split
    next heqB =>
      subst heqB
      rw [hB.found, Option.map_some, decide_eq_true (Or.inr rfl), Bool.true_or]
    next hneB =>
      split
      next heqA =>
        subst heqA
        rw [hA.found, Option.map_some, decide_eq_true (Or.inl rfl), Bool.true_or]
      next hneA =>
        rw [decide_eq_false (not_or.2 ⟨Ne.symm hneA, Ne.symm hneB⟩)]
        simp only [Bool.false_or, Option.map_id']
  have hborrowed := hremarks.take fun handle htaken => by
    rcases htaken with rfl | rfl
    · exact ⟨sessionA, hA.found⟩
    · exact ⟨sessionB, hB.found⟩
  have hdrives : ∀ driver handle, (marked.setLive address live).Drives driver handle ↔
      memory.Drives driver handle ∨ driver = .live address ∧ (live.a = handle ∨ live.b = handle) := by
    intro driver handle
    have hfresh : memory.Drives driver handle → driver ≠ .live address := by
      rintro hold rfl
      obtain ⟨found, hfound, -⟩ := hold
      cases (hfree address hpointer).symm.trans hfound
    have hlives : (marked.setLive address live).lives =
        Function.update memory.lives address (some live) := rfl
    rw [drives_lives hlives rfl, and_iff_left_of_imp hfresh]
    simp only [Option.some.injEq, exists_eq_left']
  refine hremarks.sound h (h.leases.take ?_ hborrowed hdrives) fun other held hheld => ?_
  · rintro handle (rfl | rfl)
    · exact hA.not_borrowed
    · exact hB.not_borrowed
  · rcases update_eq_some.1 hheld with ⟨-, hsame⟩ | ⟨-, hold⟩
    · cases hsame
      exact hne
    · exact h.distinct other held hold

theorem Sound.udpPeerCreate (h : memory.Sound) (config : Option RlUdpConfig) (session : Option ℕ)
    (output : Bool) (bound : Result Unit) {pointer : Option ℕ} (hfree : Allocates memory.peers pointer) :
    (memory.udpPeerCreate config session output bound pointer).memory.Sound := by
  rcases memory.udpPeerCreate_cases config session output bound pointer with
    ⟨status, heq⟩ | ⟨address, peer, held, hpointer, htakes, hwaiting, -, heq⟩
  · rw [heq]
    exact h
  rw [heq]
  dsimp only
  set marked := memory.setSession peer.session { held with borrowed := true } with hmarked
  have hremarks : Remarks memory (marked.setPeer address peer) fun handle borrowed =>
      peer.session = handle || borrowed := by
    refine ⟨fun handle => ?_, fun other found hfound => ?_⟩
    · change marked.sessions handle = _
      rw [hmarked, sessions_setSession]
      split
      next heq =>
        subst heq
        rw [htakes.found, Option.map_some, decide_eq_true rfl, Bool.true_or]
      next hne =>
        rw [decide_eq_false (Ne.symm hne)]
        simp only [Bool.false_or, Option.map_id']
    · rcases update_eq_some.1 hfound with ⟨-, hsame⟩ | ⟨-, hold⟩
      · cases hsame
        exact Or.inr hwaiting
      · exact Or.inl hold
  have hborrowed := hremarks.take fun handle htaken => ⟨held, htaken ▸ htakes.found⟩
  have hdrives : ∀ driver handle, (marked.setPeer address peer).Drives driver handle ↔
      memory.Drives driver handle ∨ driver = .peer address ∧ peer.session = handle := by
    intro driver handle
    have hfresh : memory.Drives driver handle → driver ≠ .peer address := by
      rintro hold rfl
      obtain ⟨found, hfound, -⟩ := hold
      cases (hfree address hpointer).symm.trans hfound
    have hpeers : (marked.setPeer address peer).peers =
        Function.update memory.peers address (some peer) := rfl
    rw [drives_peers hpeers rfl, and_iff_left_of_imp hfresh]
    simp only [Option.some.injEq, exists_eq_left']
  refine hremarks.sound h (h.leases.take ?_ hborrowed hdrives) h.distinct
  rintro handle rfl
  exact htakes.not_borrowed

/-! ## Destroying a driver -/

theorem sessions_release (handle other : ℕ) : (memory.release handle).sessions other =
    (memory.sessions other).map fun session =>
      { session with borrowed := !(decide (handle = other)) && session.borrowed } := by
  rw [release]
  cases hfound : memory.sessions handle with
  | none =>
    by_cases heq : handle = other
    · subst heq
      dsimp only
      rw [hfound]
      rfl
    · rw [decide_eq_false heq]
      simp only [Bool.not_false, Bool.true_and, Option.map_id']
  | some session =>
    dsimp only
    rw [sessions_setSession]
    split
    next heq =>
      subst heq
      rw [hfound, Option.map_some, decide_eq_true rfl, Bool.not_true, Bool.false_and]
    next hne =>
      rw [decide_eq_false (Ne.symm hne)]
      simp only [Bool.not_false, Bool.true_and, Option.map_id']

theorem lives_release (handle : ℕ) : (memory.release handle).lives = memory.lives := by
  rw [release]
  split <;> rfl

theorem peers_release (handle : ℕ) : (memory.release handle).peers = memory.peers := by
  rw [release]
  split <;> rfl

/-- The sessions that a driver leaves are not marked any more. -/
theorem Remarks.leave {after : RlMemory} {left : ℕ → Prop} [DecidablePred left]
    (h : Remarks memory after fun handle borrowed => !(decide (left handle)) && borrowed) (handle : ℕ) :
    after.Borrowed handle ↔ memory.Borrowed handle ∧ ¬left handle := by
  rw [h.borrowed_iff, Borrowed]
  constructor
  · rintro ⟨session, hsession, hmark⟩
    obtain ⟨hleft, hborrowed⟩ := Bool.and_eq_true_iff.1 hmark
    rw [Bool.not_eq_true', decide_eq_false_iff_not] at hleft
    exact ⟨⟨session, hsession, hborrowed⟩, hleft⟩
  · rintro ⟨⟨session, hsession, hborrowed⟩, hleft⟩
    refine ⟨session, hsession, Bool.and_eq_true_iff.2 ⟨?_, hborrowed⟩⟩
    rw [Bool.not_eq_true', decide_eq_false_iff_not]
    exact hleft

theorem Sound.liveDestroy (h : memory.Sound) (pointer : Option ℕ) :
    (memory.liveDestroy pointer).memory.Sound := by
  rw [RlMemory.liveDestroy]
  split
  · exact h
  next address live hchecked =>
    obtain ⟨-, hlive⟩ := lookUp_ok.1 hchecked
    dsimp only
    set after : RlMemory := { (memory.release live.a).release live.b with
      lives := Function.update memory.lives address none } with hafter
    have hpeers : after.peers = memory.peers := by
      rw [hafter]
      dsimp only
      rw [peers_release, peers_release]
    have hremarks : Remarks memory after fun handle borrowed =>
        !(decide (live.a = handle ∨ live.b = handle)) && borrowed := by
      refine ⟨fun handle => ?_, fun other peer hpeer => ?_⟩
      · change ((memory.release live.a).release live.b).sessions handle = _
        rw [sessions_release, sessions_release, Option.map_map]
        refine congrArg (Option.map · _) (funext fun session => ?_)
        simp only [Function.comp_apply, Bool.decide_or, Bool.not_or, Bool.and_left_comm, Bool.and_assoc]
      · rw [hpeers] at hpeer
        exact Or.inl hpeer
    refine hremarks.sound h (h.leases.leave (.live address) (fun handle => ?_) fun driver handle => ?_)
      fun other held hfound => ?_
    · rw [hremarks.leave, drives_live hlive]
    · rw [drives_lives rfl hpeers]
      simp
    · rcases update_eq_some.1 hfound with ⟨-, hnone⟩ | ⟨-, hold⟩
      · cases hnone
      · exact h.distinct other held hold

theorem Sound.udpPeerDestroy (h : memory.Sound) (pointer : Option ℕ) :
    (memory.udpPeerDestroy pointer).memory.Sound := by
  rw [RlMemory.udpPeerDestroy]
  split
  · exact h
  next address peer held hchecked =>
    obtain ⟨-, hpeer, -⟩ := checkPeer_ok.1 hchecked
    dsimp only
    set after : RlMemory := { memory.release peer.session with
      peers := Function.update memory.peers address none } with hafter
    have hremarks : Remarks memory after fun handle borrowed =>
        !(decide (peer.session = handle)) && borrowed := by
      refine ⟨sessions_release _, fun other found hfound => ?_⟩
      rcases update_eq_some.1 hfound with ⟨-, hnone⟩ | ⟨-, hold⟩
      · cases hnone
      · exact Or.inl hold
    have hlives : after.lives = memory.lives := by
      rw [hafter]
      dsimp only
      rw [lives_release]
    refine hremarks.sound h (h.leases.leave (.peer address) (fun handle => ?_) fun driver handle => ?_)
      fun other live hfound => ?_
    · rw [hremarks.leave, drives_peer hpeer]
    · rw [drives_peers rfl hlives]
      simp
    · rw [hlives] at hfound
      exact h.distinct other live hfound

/-! ## Stepping a driver -/

/-- Both sessions of a live driver are touched, whatever the step does. -/
theorem Sound.liveStep (h : memory.Sound) (pointer : Option ℕ) (overrideLocalInput localButtons : UInt32)
    (output : Option RlHeader) :
    (memory.liveStep pointer overrideLocalInput localButtons output).memory.Sound := by
  rw [RlMemory.liveStep]
  dsimp only
  split
  · exact h
  next hchecked =>
    obtain ⟨⟨address, live⟩, hlive, hchecked⟩ := bind_ok_iff.1 hchecked
    obtain ⟨-, -, hchecked⟩ := bind_ok_iff.1 hchecked
    obtain ⟨-, hchecked⟩ := refuseIf_bind_ok.1 hchecked
    obtain ⟨-, hchecked⟩ := refuseIf_bind_ok.1 hchecked
    obtain ⟨⟨handleA, sessionA⟩, hA, hchecked⟩ := bind_ok_iff.1 hchecked
    obtain ⟨⟨handleB, sessionB⟩, hB, hchecked⟩ := bind_ok_iff.1 hchecked
    cases hchecked
    obtain ⟨-, hlive⟩ := lookUp_ok.1 hlive
    obtain ⟨hpointerA, hA⟩ := lookUp_ok.1 hA
    obtain ⟨hpointerB, hB⟩ := lookUp_ok.1 hB
    cases hpointerA
    cases hpointerB
    rcases (live.scenario sessionA.native sessionB.native).step
      (if overrideLocalInput ≠ 0 then some localButtons.toUInt8 else none) with ⟨step, native⟩
    have hfirst := h.setSession { sessionA with native := native.context.peer.a, touched := true } hA rfl
      fun hfresh => by cases hfresh
    have hother : (memory.setSession live.a
        { sessionA with native := native.context.peer.a, touched := true }).sessions live.b = some sessionB := by
      rw [sessions_setSession, if_neg (h.distinct address live hlive).symm, hB]
    have hsecond := hfirst.setSession { sessionB with native := native.context.peer.b, touched := true }
      hother rfl fun hfresh => by cases hfresh
    cases step with
    | error error => exact hsecond.setLive hlive rfl rfl
    | ok finished => exact hsecond.setLive hlive rfl rfl

/-- A UDP driver whose step fails before its session is touched has left the session alone. -/
theorem Sound.udpPeerStep (h : memory.Sound) (pointer : Option ℕ) (elapsed : UInt64)
    (output : Option RlHeader) (socket : UdpSocket) :
    (memory.udpPeerStep pointer elapsed output socket).memory.Sound := by
  rw [RlMemory.udpPeerStep]
  dsimp only
  split
  · exact h
  next address peer session hchecked =>
    obtain ⟨found, hfound, hchecked⟩ := bind_ok_iff.1 hchecked
    obtain ⟨-, -, hchecked⟩ := bind_ok_iff.1 hchecked
    cases hchecked
    obtain ⟨-, hpeer, hsession⟩ := checkPeer_ok.1 hfound
    split
    · exact h
    rcases hstep : (peer.driver session.native).step elapsed socket with ⟨error | _, native, rest⟩
    · have hkept : session.touched = false → native.Waiting ∧ native.runtime.session = session.native := by
        intro hfresh
        have hwaits : (peer.driver session.native).Waiting :=
          h.waiting address peer session hpeer hsession hfresh
        exact hwaits.step hstep
      have hworked := h.setSession { session with native := native.runtime.session } hsession rfl
        fun hfresh => ⟨hfresh, (hkept hfresh).2 ▸ h.unused _ _ hsession hfresh⟩
      have hwaiting : ∀ held, (memory.setSession peer.session
          { session with native := native.runtime.session }).sessions peer.session = some held →
            held.touched = false → native.Waiting := by
        intro held hheld hfresh
        rw [sessions_setSession, if_pos rfl] at hheld
        cases hheld
        exact (hkept hfresh).1
      dsimp only
      split
      · exact hworked.setPeer hpeer rfl hwaiting
      · exact hworked.setPeer hpeer rfl hwaiting
    · have hworked := h.setSession { session with native := native.runtime.session, touched := true }
        hsession rfl fun hfresh => by cases hfresh
      refine hworked.setPeer hpeer rfl fun held hheld hfresh => ?_
      rw [sessions_setSession, if_pos rfl] at hheld
      cases hheld
      cases hfresh

/-! ## Runs -/

theorem Sound.call (h : memory.Sound) {c : RlCall} (hc : memory.Valid c) : (memory.call c).Sound := by
  cases c with
  | sessionCreate config output address => exact h.sessionCreate config output hc
  | sessionDestroy session => exact h.sessionDestroy session
  | sessionAdvance session input output => exact h.sessionAdvance session input output
  | sessionIngestRemote session input => exact h.sessionIngestRemote session input
  | sessionFlushCorrections session output => exact h.sessionFlushCorrections session output
  | liveCreate config a b output address => exact h.liveCreate config a b output hc.2.2
  | liveDestroy live => exact h.liveDestroy live
  | liveStep live overrideLocalInput localButtons output =>
    exact h.liveStep live overrideLocalInput localButtons output
  | udpPeerCreate config session output bound address =>
    exact h.udpPeerCreate config session output bound hc.2
  | udpPeerDestroy peer => exact h.udpPeerDestroy peer
  | udpPeerStep peer elapsed output socket => exact h.udpPeerStep peer elapsed output socket

theorem Reachable.sound (h : Reachable memory) : memory.Sound := by
  induction h with
  | start => exact .empty
  | call _ c hc ih => exact ih.call hc

/-- Direct calls that would change a session are refused, and change nothing. -/
structure Refuses (memory : RlMemory) (handle : ℕ) : Prop where
  destroy : memory.sessionDestroy (some handle) = memory.refused .borrowed none
  advance : ∀ input output,
    memory.sessionAdvance (some handle) input output = memory.refused .borrowed none
  ingestRemote : ∀ input, memory.sessionIngestRemote (some handle) input = memory.refused .borrowed none
  flushCorrections : ∀ output,
    memory.sessionFlushCorrections (some handle) output = memory.refused .borrowed none

theorem checkSession_borrowed (hfound : memory.sessions handle = some session)
    (hborrowed : session.borrowed = true) : memory.checkSession (some handle) true = .error .borrowed := by
  simp [checkSession, lookUp, hfound, refuseIf, hborrowed, bind, Except.bind]

theorem refuses (hfound : memory.sessions handle = some session) (hborrowed : session.borrowed = true) :
    memory.Refuses handle := by
  have hchecked := checkSession_borrowed hfound hborrowed
  refine ⟨?_, fun input output => ?_, fun input => ?_, fun output => ?_⟩
  · rw [sessionDestroy, hchecked]
  · rw [sessionAdvance, hchecked]
    rfl
  · rw [sessionIngestRemote, hchecked]
    rfl
  · rw [sessionFlushCorrections, hchecked]
    rfl

/-- What a driver that is created starts from: sessions in their initial state, which nobody has
borrowed. -/
structure Begins (memory : RlMemory) (pointer : Option ℕ) (handle : ℕ) (native : RollbackSession) : Prop where
  pointer_eq : pointer = some handle
  found : ∃ session, memory.sessions handle = some session ∧ session.borrowed = false ∧
    session.native = native
  initial : native.state = makeInitialWorld ∧ native.storage.localInputs = .empty ∧
    native.storage.remoteInputs = .empty ∧ native.storage.usedRemoteInputs = .empty ∧
      native.storage.snapshots = .empty ∧ native.earliestDirty = none
  created : native = .create native.config

theorem Sound.begins (h : memory.Sound) {pointer : Option ℕ} (htakes : Takes pointer handle session memory) :
    memory.Begins pointer handle session.native := by
  have hunused := h.unused handle session htakes.found htakes.fresh
  exact ⟨htakes.pointer_eq, ⟨session, htakes.found, htakes.free, rfl⟩, hunused.empty, hunused.created⟩

/-- A call that creates a driver either fails, or refers the driver to sessions as they begin. -/
structure Creates (memory : RlMemory) (reply : RlReply (Option ℕ)) (output : Bool)
    (begun : ℕ → Prop) : Prop where
  failed : reply.status ≠ .ok → reply.memory = memory ∧ reply.output = if output then some none else none
  created : ∀ address, reply.output = some (some address) → reply.status = .ok ∧ begun address

theorem Creates.refused {status : RlStatus} {output : Bool} {begun : ℕ → Prop} :
    memory.Creates (memory.refused status (if output then some none else none)) output begun := by
  refine ⟨fun _ => ⟨rfl, rfl⟩, fun address houtput => ?_⟩
  cases output with
  | false => cases houtput
  | true => cases houtput

theorem Sound.creates_live (h : memory.Sound) (config : Option RlLiveConfig) (a b : Option ℕ)
    (output : Bool) (pointer : Option ℕ) :
    let reply := memory.liveCreate config a b output pointer
    memory.Creates reply output fun address => ∃ live, reply.memory.lives address = some live ∧
      memory.Begins a live.a live.native.context.peer.a ∧
        memory.Begins b live.b live.native.context.peer.b := by
  intro reply
  rcases memory.liveCreate_cases config a b output pointer with
    ⟨status, heq⟩ | ⟨address, live, sessionA, sessionB, -, hA, hB, -, hpeers, heq⟩
  · rw [show reply = _ from heq]
    exact .refused
  · rw [show reply = _ from heq]
    refine ⟨fun hstatus => absurd rfl hstatus, fun found hfound => ⟨rfl, live, ?_, ?_, ?_⟩⟩
    · cases hfound
      exact Function.update_self ..
    · rw [hpeers]
      exact h.begins hA
    · rw [hpeers]
      exact h.begins hB

theorem Sound.creates_udpPeer (h : memory.Sound) (config : Option RlUdpConfig) (session : Option ℕ)
    (output : Bool) (bound : Result Unit) (pointer : Option ℕ) :
    let reply := memory.udpPeerCreate config session output bound pointer
    memory.Creates reply output fun address => ∃ peer, reply.memory.peers address = some peer ∧
      memory.Begins session peer.session peer.native.runtime.session := by
  intro reply
  rcases memory.udpPeerCreate_cases config session output bound pointer with
    ⟨status, heq⟩ | ⟨address, peer, held, -, htakes, -, hsession, heq⟩
  · rw [show reply = _ from heq]
    exact .refused
  · rw [show reply = _ from heq]
    refine ⟨fun hstatus => absurd rfl hstatus, fun found hfound => ⟨rfl, peer, ?_, ?_⟩⟩
    · cases hfound
      exact Function.update_self ..
    · rw [hsession]
      exact h.begins htakes

end RlMemory

/-- After any calls on valid handles, the marks tell which sessions are borrowed, each by one
driver. A borrowed session is left alone, and a driver starts from sessions as they begin. -/
theorem borrowing_exclusive {memory : RlMemory} (h : memory.Reachable) :
    (∀ handle session, memory.sessions handle = some session →
      (session.borrowed = true ↔ ∃ driver, memory.Drives driver handle)) ∧
    (∀ driver handle, memory.Drives driver handle → ∃ session, memory.sessions handle = some session) ∧
    (∀ driver other handle, memory.Drives driver handle → memory.Drives other handle → driver = other) ∧
    (∀ address live, memory.lives address = some live → live.a ≠ live.b) ∧
    (∀ handle session, memory.sessions handle = some session → session.borrowed = true →
      memory.Refuses handle) ∧
    (∀ config a b output pointer,
      let reply := memory.liveCreate config a b output pointer
      memory.Creates reply output fun address => ∃ live, reply.memory.lives address = some live ∧
        memory.Begins a live.a live.native.context.peer.a ∧
          memory.Begins b live.b live.native.context.peer.b) ∧
    ∀ config session output bound pointer,
      let reply := memory.udpPeerCreate config session output bound pointer
      memory.Creates reply output fun address => ∃ peer, reply.memory.peers address = some peer ∧
        memory.Begins session peer.session peer.native.runtime.session := by
  have hsound := h.sound
  refine ⟨fun handle session hfound => ?_, fun driver handle hdrives => ?_,
    fun driver other handle => hsound.leases.unique driver other handle, hsound.distinct,
    fun handle session hfound => RlMemory.refuses hfound, hsound.creates_live, hsound.creates_udpPeer⟩
  · rw [← hsound.leases.marked_iff]
    refine ⟨fun hborrowed => ⟨session, hfound, hborrowed⟩, ?_⟩
    rintro ⟨found, hsame, hborrowed⟩
    cases hfound.symm.trans hsame
    exact hborrowed
  · obtain ⟨session, hfound, -⟩ := hsound.exists_session hdrives
    exact ⟨session, hfound⟩

/-- Two sessions, and a live driver that borrows them. -/
def pairedMemory : RlMemory :=
  ((RlMemory.empty.call (.sessionCreate (some { localPeer := 0, maxRollbackFrames := 120 }) true (some 0))).call
    (.sessionCreate (some { localPeer := 1, maxRollbackFrames := 120 }) true (some 1))).call
    (.liveCreate
      (some
        { scenarioSeed := 1
          transportSeed := 2
          frameCount := 600
          maxQueuePackets := 1024
          maxQueueBytes := 1048576
          bandwidthBytesPerTick := 1048576
          maxPacketAgeTicks := 600
          tailRedundancyTicks := 64 })
      (some 0) (some 1) true (some 0))

theorem pairedMemory_reachable : pairedMemory.Reachable := by
  refine .call (.call (.call .start _ ?_) _ ?_) _ ⟨?_, ?_, ?_⟩
  · rintro _ ⟨⟩
    rfl
  · rintro _ ⟨⟩
    exact Option.not_isSome_iff_eq_none.1 (by decide)
  · rintro _ ⟨⟩
    exact Option.isSome_iff_ne_none.1 (by decide)
  · rintro _ ⟨⟩
    exact Option.isSome_iff_ne_none.1 (by decide)
  · rintro _ ⟨⟩
    rfl

theorem borrowing_exclusive_paired : ∃ driver, pairedMemory.Drives driver 1 := by
  have hborrowed : (pairedMemory.sessions 1).map RlSession.borrowed = some true := by decide
  obtain ⟨session, hfound, hmark⟩ := Option.map_eq_some_iff.1 hborrowed
  exact ((borrowing_exclusive pairedMemory_reachable).1 1 session hfound).1 hmark

end RollbackLab
