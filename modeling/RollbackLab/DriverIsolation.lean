import RollbackLab.Borrowing
import RollbackLab.ConstantLatency
import RollbackLab.Simulates

/-!
# Drivers are isolated

What happens behind other handles of the C ABI does not reach a driver: its sessions are
borrowed, so that only its own steps move them. Along any run of calls a driver goes through
just the steps that were asked of it, as if nothing else were there.
-/

namespace RollbackLab

/-- The driver that a call steps or destroys. -/
def RlCall.driver : RlCall → Option RlDriver
  | .liveDestroy live | .liveStep live _ _ _ => live.map .live
  | .udpPeerDestroy peer | .udpPeerStep peer _ _ _ => peer.map .peer
  | _ => none

namespace RlMemory

variable {memory after : RlMemory} {handle address : ℕ} {session next : RlSession}
  {worked : ℕ → Prop} {moved : RlDriver → Prop}

/-! ## What a call spares -/

/-- All but some sessions and some drivers are as they were. -/
structure Spares (memory after : RlMemory) (worked : ℕ → Prop) (moved : RlDriver → Prop) : Prop where
  sessions : ∀ handle, ¬worked handle → after.sessions handle = memory.sessions handle
  lives : ∀ address, ¬moved (.live address) → after.lives address = memory.lives address
  peers : ∀ address, ¬moved (.peer address) → after.peers address = memory.peers address

theorem Spares.refl : Spares memory memory worked moved :=
  ⟨fun _ _ => rfl, fun _ _ => rfl, fun _ _ => rfl⟩

theorem Spares.sessions_update (h : Spares memory after worked moved) (hworked : worked handle)
    (value : Option RlSession) :
    Spares memory { after with sessions := Function.update after.sessions handle value } worked moved := by
  refine ⟨fun other hother => ?_, h.lives, h.peers⟩
  have hne : other ≠ handle := fun heq => hother (heq ▸ hworked)
  exact (Function.update_of_ne hne _ _).trans (h.sessions other hother)

theorem Spares.lives_update (h : Spares memory after worked moved) (hmoved : moved (.live address))
    (value : Option RlLive) :
    Spares memory { after with lives := Function.update after.lives address value } worked moved := by
  refine ⟨h.sessions, fun other hother => ?_, h.peers⟩
  have hne : other ≠ address := fun heq => hother (heq ▸ hmoved)
  exact (Function.update_of_ne hne _ _).trans (h.lives other hother)

theorem Spares.peers_update (h : Spares memory after worked moved) (hmoved : moved (.peer address))
    (value : Option RlUdpPeer) :
    Spares memory { after with peers := Function.update after.peers address value } worked moved := by
  refine ⟨h.sessions, h.lives, fun other hother => ?_⟩
  have hne : other ≠ address := fun heq => hother (heq ▸ hmoved)
  exact (Function.update_of_ne hne _ _).trans (h.peers other hother)

theorem Spares.release (h : Spares memory after worked moved) (hworked : worked handle) :
    Spares memory (after.release handle) worked moved := by
  rw [RlMemory.release]
  split
  · exact h
  · exact h.sessions_update hworked _

/-- There is such a driver. -/
def Holds (memory : RlMemory) : RlDriver → Prop
  | .live address => memory.lives address ≠ none
  | .peer address => memory.peers address ≠ none

variable (memory) in
/-- Only sessions that are free are worked on, and those of the driver that is called; and
only this driver is moved, or one that was not there. -/
def Reaches (driver : Option RlDriver) (after : RlMemory) : Prop :=
  Spares memory after (fun handle => ¬memory.Borrowed handle ∨ ∃ d ∈ driver, memory.Drives d handle)
    fun d => ¬memory.Holds d ∨ d ∈ driver

theorem not_borrowed (hfound : memory.sessions handle = some session) (hfree : session.borrowed = false) :
    ¬memory.Borrowed handle := by
  rintro ⟨found, hsame, hborrowed⟩
  cases hfound.symm.trans hsame
  rw [hfree] at hborrowed
  cases hborrowed

/-- A direct call works on a session that is free. -/
theorem reaches_free {pointer : Option ℕ} (hfound : memory.checkSession pointer true = .ok (handle, session))
    (value : Option RlSession) :
    memory.Reaches none { memory with sessions := Function.update memory.sessions handle value } := by
  obtain ⟨-, hsession, hfree⟩ := checkSession_free hfound
  exact Spares.refl.sessions_update (Or.inl (not_borrowed hsession hfree)) value

theorem reaches_sessionCreate (config : Option RlSessionConfig) (output : Bool) {pointer : Option ℕ}
    (hfree : Allocates memory.sessions pointer) :
    memory.Reaches none (memory.sessionCreate config output pointer).memory := by
  rw [RlMemory.sessionCreate]
  split
  · exact .refl
  dsimp only
  split
  · exact .refl
  next handle session hcreated =>
    obtain ⟨config, -, hcreated⟩ := bind_ok_iff.1 hcreated
    obtain ⟨-, hcreated⟩ := refuseIf_bind_ok.1 hcreated
    obtain ⟨-, hcreated⟩ := refuseIf_bind_ok.1 hcreated
    obtain ⟨found, hfound, hcreated⟩ := bind_ok_iff.1 hcreated
    cases hcreated
    refine Spares.refl.sessions_update (Or.inl ?_) _
    rintro ⟨held, hheld, -⟩
    cases (hfree _ (allocated_ok.1 hfound)).symm.trans hheld

theorem reaches_sessionDestroy (pointer : Option ℕ) :
    memory.Reaches none (memory.sessionDestroy pointer).memory := by
  rw [RlMemory.sessionDestroy]
  split
  · exact .refl
  next handle session hfound => exact reaches_free hfound none

theorem reaches_sessionAdvance (pointer : Option ℕ) (input : Option RlInputFrame)
    (output : Option RlHeader) :
    memory.Reaches none (memory.sessionAdvance pointer input output).memory := by
  rw [RlMemory.sessionAdvance]
  dsimp only
  split
  · exact .refl
  next handle session input hchecked =>
    obtain ⟨⟨found, held⟩, hfound, hchecked⟩ := bind_ok_iff.1 hchecked
    obtain ⟨other, -, hchecked⟩ := bind_ok_iff.1 hchecked
    obtain ⟨-, -, hchecked⟩ := bind_ok_iff.1 hchecked
    obtain ⟨-, hchecked⟩ := refuseIf_bind_ok.1 hchecked
    obtain ⟨-, hchecked⟩ := refuseIf_bind_ok.1 hchecked
    cases hchecked
    split
    · exact reaches_free hfound _
    · exact reaches_free hfound _

theorem reaches_sessionIngestRemote (pointer : Option ℕ) (input : Option RlInputFrame) :
    memory.Reaches none (memory.sessionIngestRemote pointer input).memory := by
  rw [RlMemory.sessionIngestRemote]
  dsimp only
  split
  · exact .refl
  next handle session input hchecked =>
    obtain ⟨⟨found, held⟩, hfound, hchecked⟩ := bind_ok_iff.1 hchecked
    obtain ⟨other, -, hchecked⟩ := bind_ok_iff.1 hchecked
    obtain ⟨-, hchecked⟩ := refuseIf_bind_ok.1 hchecked
    obtain ⟨-, hchecked⟩ := refuseIf_bind_ok.1 hchecked
    cases hchecked
    split
    · exact reaches_free hfound _
    · exact reaches_free hfound _

theorem reaches_sessionFlushCorrections (pointer : Option ℕ) (output : Option RlHeader) :
    memory.Reaches none (memory.sessionFlushCorrections pointer output).memory := by
  rw [RlMemory.sessionFlushCorrections]
  dsimp only
  split
  · exact .refl
  next handle session hchecked =>
    obtain ⟨⟨found, held⟩, hfound, hchecked⟩ := bind_ok_iff.1 hchecked
    obtain ⟨-, -, hchecked⟩ := bind_ok_iff.1 hchecked
    cases hchecked
    split
    · exact reaches_free hfound _
    · exact reaches_free hfound _

theorem reaches_liveCreate (config : Option RlLiveConfig) (a b : Option ℕ) (output : Bool)
    {pointer : Option ℕ} (hfree : Allocates memory.lives pointer) :
    memory.Reaches none (memory.liveCreate config a b output pointer).memory := by
  rcases memory.liveCreate_cases config a b output pointer with
    ⟨status, heq⟩ | ⟨address, live, sessionA, sessionB, hpointer, hA, hB, -, -, heq⟩
  · rw [heq]
    exact .refl
  · rw [heq]
    refine ((Spares.refl.sessions_update ?_ _).sessions_update ?_ _).lives_update ?_ _
    · exact Or.inl (not_borrowed hA.found hA.free)
    · exact Or.inl (not_borrowed hB.found hB.free)
    · exact Or.inl (not_not.2 (hfree address hpointer))

theorem reaches_udpPeerCreate (config : Option RlUdpConfig) (session : Option ℕ) (output : Bool)
    (bound : Result Unit) {pointer : Option ℕ} (hfree : Allocates memory.peers pointer) :
    memory.Reaches none (memory.udpPeerCreate config session output bound pointer).memory := by
  rcases memory.udpPeerCreate_cases config session output bound pointer with
    ⟨status, heq⟩ | ⟨address, peer, held, hpointer, htakes, -, -, heq⟩
  · rw [heq]
    exact .refl
  · rw [heq]
    refine (Spares.refl.sessions_update ?_ _).peers_update ?_ _
    · exact Or.inl (not_borrowed htakes.found htakes.free)
    · exact Or.inl (not_not.2 (hfree address hpointer))

theorem reaches_liveDestroy (pointer : Option ℕ) :
    memory.Reaches (pointer.map .live) (memory.liveDestroy pointer).memory := by
  rw [RlMemory.liveDestroy]
  split
  · exact .refl
  next address live hchecked =>
    obtain ⟨rfl, hlive⟩ := lookUp_ok.1 hchecked
    have hlives : memory.lives = ((memory.release live.a).release live.b).lives := by
      rw [lives_release, lives_release]
    dsimp only
    rw [hlives]
    refine ((Spares.refl.release ?_).release ?_).lives_update ?_ none
    · exact Or.inr ⟨_, rfl, (drives_live hlive).2 (Or.inl rfl)⟩
    · exact Or.inr ⟨_, rfl, (drives_live hlive).2 (Or.inr rfl)⟩
    · exact Or.inr rfl

theorem reaches_udpPeerDestroy (pointer : Option ℕ) :
    memory.Reaches (pointer.map .peer) (memory.udpPeerDestroy pointer).memory := by
  rw [RlMemory.udpPeerDestroy]
  split
  · exact .refl
  next address peer held hchecked =>
    obtain ⟨rfl, hpeer, -⟩ := checkPeer_ok.1 hchecked
    dsimp only
    rw [← peers_release peer.session]
    refine (Spares.refl.release ?_).peers_update ?_ none
    · exact Or.inr ⟨_, rfl, (drives_peer hpeer).2 rfl⟩
    · exact Or.inr rfl

theorem reaches_liveStep (pointer : Option ℕ) (overrideLocalInput localButtons : UInt32)
    (output : Option RlHeader) :
    memory.Reaches (pointer.map .live) (memory.liveStep pointer overrideLocalInput localButtons output).memory := by
  rw [RlMemory.liveStep]
  dsimp only
  split
  · exact .refl
  next hchecked =>
    obtain ⟨⟨address, live⟩, hfound, hchecked⟩ := bind_ok_iff.1 hchecked
    obtain ⟨-, -, hchecked⟩ := bind_ok_iff.1 hchecked
    obtain ⟨-, hchecked⟩ := refuseIf_bind_ok.1 hchecked
    obtain ⟨-, hchecked⟩ := refuseIf_bind_ok.1 hchecked
    obtain ⟨⟨handleA, sessionA⟩, hA, hchecked⟩ := bind_ok_iff.1 hchecked
    obtain ⟨⟨handleB, sessionB⟩, hB, hchecked⟩ := bind_ok_iff.1 hchecked
    cases hchecked
    obtain ⟨rfl, hlive⟩ := lookUp_ok.1 hfound
    have hspares (sessionA sessionB : RlSession) (next : RlLive) :
        memory.Reaches ((some address).map .live)
          (((memory.setSession live.a sessionA).setSession live.b sessionB).setLive address next) := by
      refine ((Spares.refl.sessions_update ?_ _).sessions_update ?_ _).lives_update ?_ _
      · exact Or.inr ⟨_, rfl, (drives_live hlive).2 (Or.inl rfl)⟩
      · exact Or.inr ⟨_, rfl, (drives_live hlive).2 (Or.inr rfl)⟩
      · exact Or.inr rfl
    rcases (live.scenario sessionA.native sessionB.native).step
      (if overrideLocalInput ≠ 0 then some localButtons.toUInt8 else none) with ⟨error | finished, native⟩
    · exact hspares _ _ _
    · exact hspares _ _ _

theorem reaches_udpPeerStep (pointer : Option ℕ) (elapsed : UInt64) (output : Option RlHeader)
    (socket : UdpSocket) :
    memory.Reaches (pointer.map .peer) (memory.udpPeerStep pointer elapsed output socket).memory := by
  rw [RlMemory.udpPeerStep]
  dsimp only
  split
  · exact .refl
  next address peer session hchecked =>
    obtain ⟨found, hfound, hchecked⟩ := bind_ok_iff.1 hchecked
    obtain ⟨-, -, hchecked⟩ := bind_ok_iff.1 hchecked
    cases hchecked
    obtain ⟨rfl, hpeer, -⟩ := checkPeer_ok.1 hfound
    have hspares (session : RlSession) (next : RlUdpPeer) : memory.Reaches ((some address).map .peer)
        ((memory.setSession peer.session session).setPeer address next) := by
      refine (Spares.refl.sessions_update ?_ _).peers_update ?_ _
      · exact Or.inr ⟨_, rfl, (drives_peer hpeer).2 rfl⟩
      · exact Or.inr rfl
    split
    · exact .refl
    rcases (peer.driver session.native).step elapsed socket with ⟨error | _, native, rest⟩
    · dsimp only
      split
      · exact hspares _ _
      · exact hspares _ _
    · exact hspares _ _

/-- Whatever is called, only its own driver is moved, and no session of another driver. -/
theorem reaches_call {c : RlCall} (hc : memory.Valid c) : memory.Reaches c.driver (memory.call c) := by
  cases c with
  | sessionCreate config output address => exact reaches_sessionCreate config output hc
  | sessionDestroy session => exact reaches_sessionDestroy session
  | sessionAdvance session input output => exact reaches_sessionAdvance session input output
  | sessionIngestRemote session input => exact reaches_sessionIngestRemote session input
  | sessionFlushCorrections session output => exact reaches_sessionFlushCorrections session output
  | liveCreate config a b output address => exact reaches_liveCreate config a b output hc.2.2
  | liveDestroy live => exact reaches_liveDestroy live
  | liveStep live overrideLocalInput localButtons output =>
    exact reaches_liveStep live overrideLocalInput localButtons output
  | udpPeerCreate config session output bound address =>
    exact reaches_udpPeerCreate config session output bound hc.2
  | udpPeerDestroy peer => exact reaches_udpPeerDestroy peer
  | udpPeerStep peer elapsed output socket => exact reaches_udpPeerStep peer elapsed output socket

/-- The sessions of a driver are kept by the calls to others. -/
theorem Sound.keeps_session (h : memory.Sound) {driver : RlDriver} {caller : Option RlDriver}
    (hreaches : memory.Reaches caller after) (hdrives : memory.Drives driver handle)
    (hother : driver ∉ caller) : after.sessions handle = memory.sessions handle := by
  apply hreaches.sessions handle
  rintro (hfree | ⟨d, hd, hheld⟩)
  · exact hfree ((h.leases.marked_iff handle).2 ⟨driver, hdrives⟩)
  · exact hother (h.leases.unique d driver handle hheld hdrives ▸ hd)

end RlMemory

/-! ## Steps of a live driver -/

namespace LiveScenario

theorem step_failed {live : LiveScenario} {error : Error} {press : Option UInt8}
    (h : live.failure = some error) : live.step press = (.error error, live) := by
  rw [step, h]

/-- A step reports what it leaves on record, also when there is nothing left to do. -/
theorem step_returns {live : LiveScenario} {press : Option UInt8} (hpress : ¬Refused press) :
    (∃ error, (live.step press).1 = .error error ∧ (live.step press).2.failure = some error ∧
        ¬(live.failure = none ∧ live.finished = true)) ∨
      ∃ finished, (live.step press).1 = .ok finished ∧ (live.step press).2.failure = none ∧
        (live.step press).2.finished = finished := by
  cases hfailure : live.failure with
  | some error =>
    rw [step_failed hfailure]
    exact Or.inl ⟨error, rfl, hfailure, fun h => by cases h.1⟩
  | none =>
    cases hfinished : live.finished with
    | true =>
      refine Or.inr ⟨true, ?_, ?_, ?_⟩
      all_goals rw [step, hfailure]
      all_goals simp [hfinished, hfailure]
    | false =>
      rcases step_reports ⟨hfailure, hfinished⟩ hpress with ⟨error, herror, hleft⟩ | hok
      · exact Or.inl ⟨error, herror, hleft, fun h => by cases h.2⟩
      · exact Or.inr hok

end LiveScenario

theorem press_le (overrideLocalInput : UInt32) {localButtons : UInt32} (h : localButtons ≤ 31) :
    ∀ buttons ∈ if overrideLocalInput ≠ 0 then some localButtons.toUInt8 else none, buttons ≤ 31 := by
  intro buttons hbuttons
  split at hbuttons
  · cases hbuttons
    rw [UInt8.le_iff_toNat_le, UInt32.toNat_toUInt8]
    exact (Nat.mod_le _ _).trans (UInt32.le_iff_toNat_le.1 h)
  · cases hbuttons

/-- The status that a driver returns for a step. -/
def stepStatus {α : Type} (status : Error → RlStatus) : Result α → RlStatus
  | .error error => status error
  | .ok _ => .ok

/-- The step that a call asks of a live driver, by the buttons that are pressed. -/
def RlCall.press (address : ℕ) : RlCall → Option (Option UInt8)
  | .liveStep live overrideLocalInput localButtons output =>
    if live = some address ∧ output = some (initialized 24) ∧ overrideLocalInput ≤ 1 ∧ localButtons ≤ 31 then
      some (if overrideLocalInput ≠ 0 then some localButtons.toUInt8 else none)
    else none
  | _ => none

namespace RlMemory

variable {memory : RlMemory} {address : ℕ}

/-- A live driver whose scenario, with its sessions as they are, is at this point. -/
def Hosts (memory : RlMemory) (address : ℕ) (scenario : LiveScenario) : Prop :=
  ∃ live sessionA sessionB, memory.lives address = some live ∧
    memory.sessions live.a = some sessionA ∧ memory.sessions live.b = some sessionB ∧
    live.scenario sessionA.native sessionB.native = scenario ∧
    (live.failure ≠ .ok → ∃ error, scenario.failure = some error ∧ toStatus error.code = live.failure) ∧
    (live.finished = true ↔ scenario.failure = none ∧ scenario.finished = true)

theorem validate_ok {size : UInt32} {output : Option RlHeader} :
    (∃ header, validate size id output = .ok header) ↔ output = some (initialized size) := by
  cases output with
  | none => simp [validate]
  | some header =>
    obtain ⟨apiVersion, structSize⟩ := header
    rw [validate, initialized, Option.some.injEq, RlHeader.mk.injEq]
    dsimp only [id]
    split
    next hversion => simp [hversion]
    split
    next hsize => simp [hsize]
    next hversion hsize => simp [not_not.1 hversion, not_not.1 hsize]

/-- The memory after a step of a live driver. -/
theorem hosts_moved {live next : RlLive} {sessionA sessionB : RlSession} (hne : live.a ≠ live.b)
    (hnext : next.a = live.a ∧ next.b = live.b) (native : LiveScenario) (hnative : next.native = native)
    (hfailed : next.failure ≠ .ok → ∃ error, native.failure = some error ∧ toStatus error.code = next.failure)
    (hfinished : next.finished = true ↔ native.failure = none ∧ native.finished = true) :
    (((memory.setSession live.a
        { sessionA with native := native.context.peer.a, touched := true }).setSession live.b
        { sessionB with native := native.context.peer.b, touched := true }).setLive address next).Hosts
      address native := by
  obtain ⟨ha, hb⟩ := hnext
  refine ⟨next, { sessionA with native := native.context.peer.a, touched := true },
    { sessionB with native := native.context.peer.b, touched := true }, Function.update_self .., ?_, ?_, ?_,
    hfailed, hfinished⟩
  · change (RlMemory.setSession _ _ _).sessions next.a = _
    rw [ha, sessions_setSession, if_neg hne, sessions_setSession, if_pos rfl]
  · change (RlMemory.setSession _ _ _).sessions next.b = _
    rw [hb, sessions_setSession, if_pos rfl]
  · rw [RlLive.scenario, hnative]

/-- A step moves the scenario behind its driver, and returns what the scenario returns. -/
theorem Hosts.liveStep {scenario : LiveScenario} (h : memory.Hosts address scenario)
    (hsound : memory.Sound) (overrideLocalInput localButtons : UInt32) (output : Option RlHeader) :
    let reply := memory.liveStep (some address) overrideLocalInput localButtons output
    match (RlCall.liveStep (some address) overrideLocalInput localButtons output).press address with
    | none => reply.memory = memory
    | some press =>
      reply.status = stepStatus (fun error => toStatus error.code) (scenario.step press).1 ∧
        reply.memory.Hosts address (scenario.step press).2 := by
  intro reply
  have hosts := h
  obtain ⟨live, sessionA, sessionB, hlive, hA, hB, rfl, hfailed, hfinished⟩ := h
  have hne := hsound.distinct address live hlive
  have hlookUp : memory.checkLive (some address) = .ok (address, live) := lookUp_ok.2 ⟨rfl, hlive⟩
  have hlookUpA : lookUp memory.sessions (some live.a) = .ok (live.a, sessionA) := lookUp_ok.2 ⟨rfl, hA⟩
  have hlookUpB : lookUp memory.sessions (some live.b) = .ok (live.b, sessionB) := lookUp_ok.2 ⟨rfl, hB⟩
  rw [RlCall.press]
  by_cases haccepted : some address = some address ∧ output = some (initialized 24) ∧
      overrideLocalInput ≤ 1 ∧ localButtons ≤ 31
  · rw [if_pos haccepted]
    obtain ⟨-, rfl, hoverride, hbuttons⟩ := haccepted
    have hvalid : validate 24 id (some (initialized 24)) = .ok (initialized 24) := rfl
    have hallowed : ¬(1 < overrideLocalInput ∨ 31 < localButtons) :=
      not_or.2 ⟨UInt32.not_lt.2 hoverride, UInt32.not_lt.2 hbuttons⟩
    dsimp only
    by_cases hworking : live.failure = .ok
    · have hreply : reply = memory.liveStep (some address) overrideLocalInput localButtons
          (some (initialized 24)) := rfl
      rw [RlMemory.liveStep, hlookUp, hvalid] at hreply
      simp only [bind, Except.bind, refuseIf, if_neg hallowed, hworking, ne_eq, not_true_eq_false, if_false,
        hlookUpA, hlookUpB, pure, Except.pure] at hreply
      have hpress := LiveScenario.not_refused (press_le overrideLocalInput hbuttons)
      generalize (if overrideLocalInput ≠ 0 then some localButtons.toUInt8 else none) = press at hreply hpress ⊢
      have hreturns := @LiveScenario.step_returns (live.scenario sessionA.native sessionB.native) press hpress
      rcases hstep : (live.scenario sessionA.native sessionB.native).step press with ⟨result, native⟩
      rw [hstep] at hreply hreturns
      rcases hreturns with ⟨error, rfl, hfailure, hopen⟩ | ⟨finished, rfl, hfailure, hleft⟩
      · have hclosed : live.finished = true ↔ native.failure = none ∧ native.finished = true := by
          rw [hfinished]
          refine iff_of_false hopen fun h => ?_
          rw [hfailure] at h
          cases h.1
        rw [hreply]
        exact ⟨rfl, @hosts_moved memory address live { live with native, failure := toStatus error.code }
          sessionA sessionB hne ⟨rfl, rfl⟩ native rfl (fun _ => ⟨error, hfailure, rfl⟩) hclosed⟩
      · have hended : finished = true ↔ native.failure = none ∧ native.finished = true := by
          rw [← hleft, and_iff_right hfailure]
        rw [hreply]
        exact ⟨rfl, @hosts_moved memory address live { live with native, finished, failure := .ok }
          sessionA sessionB hne ⟨rfl, rfl⟩ native rfl (fun hfailing => absurd rfl hfailing) hended⟩
    · obtain ⟨error, hfailure, hstatus⟩ := hfailed hworking
      have hreply : reply = memory.refused live.failure none := by
        change memory.liveStep _ _ _ _ = _
        rw [RlMemory.liveStep, hlookUp, hvalid]
        simp only [bind, Except.bind, refuseIf, if_neg hallowed, ne_eq, hworking, not_false_eq_true, if_true]
      rw [hreply, LiveScenario.step_failed hfailure]
      exact ⟨hstatus.symm, hosts⟩
  · rw [if_neg haccepted]
    change (memory.liveStep _ _ _ _).memory = memory
    rw [RlMemory.liveStep]
    dsimp only
    split
    · rfl
    next hchecked =>
      obtain ⟨⟨found, held⟩, -, hchecked⟩ := bind_ok_iff.1 hchecked
      obtain ⟨header, hheader, hchecked⟩ := bind_ok_iff.1 hchecked
      obtain ⟨hallowed, -⟩ := refuseIf_bind_ok.1 hchecked
      rw [not_or, UInt32.not_lt, UInt32.not_lt] at hallowed
      exact absurd ⟨rfl, validate_ok.1 ⟨header, hheader⟩, hallowed⟩ haccepted

end RlMemory

/-! ## Steps of a UDP driver -/

/-- The step that a call asks of a UDP driver, by the time and by what the socket answers. -/
def RlCall.tick (address : ℕ) : RlCall → Option (UInt64 × UdpSocket)
  | .udpPeerStep peer elapsed output socket =>
    if peer = some address ∧ output = some (initialized 32) then some (elapsed, socket) else none
  | _ => none

/-- A UDP driver keeps an error on record, unless the clock ran backwards. -/
theorem PeerDriver.step_records {driver native : PeerDriver} {elapsed : UInt64} {socket rest : UdpSocket}
    {error : Error} (h : driver.step elapsed socket = (.error error, native, rest)) :
    error.context = "udp_clock_reversed" ∨ native.failure = some error := by
  rw [PeerDriver.step] at h
  split at h
  next failure hfailure =>
    cases h
    exact Or.inr hfailure
  split at h
  · cases h
  split at h
  · cases h
    exact Or.inl rfl
  rcases hwork : (driver.accept elapsed).work elapsed socket with ⟨cause | _, worked, left⟩
  · rw [hwork] at h
    cases h
    exact Or.inr rfl
  · rw [hwork] at h
    cases h

namespace RlMemory

variable {memory : RlMemory} {address : ℕ}

/-- A UDP driver that, with its session as it is, is this one. -/
def HostsPeer (memory : RlMemory) (address : ℕ) (driver : PeerDriver) : Prop :=
  ∃ peer session, memory.peers address = some peer ∧ memory.sessions peer.session = some session ∧
    peer.driver session.native = driver ∧
    (peer.failure ≠ .ok → ∃ error, driver.failure = some error ∧ networkStatus error = peer.failure)

/-- The memory after a step of a UDP driver. -/
theorem hostsPeer_moved {peer next : RlUdpPeer} {session : RlSession} (hnext : next.session = peer.session)
    (native : PeerDriver) (hnative : next.native = native) (hsession : session.native = native.runtime.session)
    (hfailed : next.failure ≠ .ok → ∃ error, native.failure = some error ∧ networkStatus error = next.failure) :
    ((memory.setSession peer.session session).setPeer address next).HostsPeer address native := by
  refine ⟨next, session, Function.update_self .., ?_, ?_, hfailed⟩
  · change (RlMemory.setSession _ _ _).sessions next.session = _
    rw [hnext, sessions_setSession, if_pos rfl]
  · rw [RlUdpPeer.driver, hnative, hsession]

/-- A step moves the driver, and returns what the driver returns. -/
theorem HostsPeer.udpPeerStep {driver : PeerDriver} (h : memory.HostsPeer address driver) (elapsed : UInt64)
    (output : Option RlHeader) (socket : UdpSocket) :
    let reply := memory.udpPeerStep (some address) elapsed output socket
    match (RlCall.udpPeerStep (some address) elapsed output socket).tick address with
    | none => reply.memory = memory
    | some (elapsed, socket) =>
      reply.status = stepStatus networkStatus (driver.step elapsed socket).1 ∧
        reply.memory.HostsPeer address (driver.step elapsed socket).2.1 := by
  intro reply
  have hosts := h
  obtain ⟨peer, session, hpeer, hsession, rfl, hfailed⟩ := h
  have hlookUp : memory.checkPeer (some address) = .ok (address, peer, session) :=
    checkPeer_ok.2 ⟨rfl, hpeer, hsession⟩
  rw [RlCall.tick]
  by_cases haccepted : some address = some address ∧ output = some (initialized 32)
  · rw [if_pos haccepted]
    obtain ⟨-, rfl⟩ := haccepted
    have hvalid : validate 32 id (some (initialized 32)) = .ok (initialized 32) := rfl
    have hreply : reply = memory.udpPeerStep (some address) elapsed (some (initialized 32)) socket := rfl
    rw [RlMemory.udpPeerStep, hlookUp, hvalid] at hreply
    simp only [bind, Except.bind, pure, Except.pure] at hreply
    dsimp only
    by_cases hworking : peer.failure = .ok
    · rw [if_neg (not_not.2 hworking)] at hreply
      rcases hstep : (peer.driver session.native).step elapsed socket with ⟨error | observation, native, rest⟩
      · rw [hstep] at hreply
        dsimp only at hreply
        by_cases hclock : error.context = "udp_clock_reversed"
        · rw [if_pos hclock] at hreply
          rw [hreply]
          exact ⟨rfl, @hostsPeer_moved memory address peer { peer with native } _ rfl native rfl rfl
            fun hfailing => absurd hworking hfailing⟩
        · rw [if_neg hclock] at hreply
          have hfailure := (PeerDriver.step_records hstep).resolve_left hclock
          rw [hreply]
          exact ⟨rfl, hostsPeer_moved rfl native rfl rfl fun _ => ⟨error, hfailure, rfl⟩⟩
      · rw [hstep] at hreply
        rw [hreply]
        exact ⟨rfl, hostsPeer_moved rfl native rfl rfl fun hfailing => absurd hworking hfailing⟩
    · obtain ⟨error, hfailure, hstatus⟩ := hfailed hworking
      have hidle : (peer.driver session.native).step elapsed socket =
          (.error error, peer.driver session.native, socket) := by
        rw [PeerDriver.step, hfailure]
      rw [if_pos hworking] at hreply
      rw [hreply, hidle]
      exact ⟨hstatus.symm, hosts⟩
  · rw [if_neg haccepted]
    change (memory.udpPeerStep _ _ _ _).memory = memory
    rw [RlMemory.udpPeerStep]
    dsimp only
    split
    · rfl
    next hchecked =>
      obtain ⟨found, -, hchecked⟩ := bind_ok_iff.1 hchecked
      obtain ⟨header, hheader, -⟩ := bind_ok_iff.1 hchecked
      exact absurd ⟨rfl, validate_ok.1 ⟨header, hheader⟩⟩ haccepted

/-! ## Runs -/

theorem Hosts.keeps {scenario : LiveScenario} {after : RlMemory} (h : memory.Hosts address scenario)
    (hsound : memory.Sound) {caller : Option RlDriver} (hreaches : memory.Reaches caller after)
    (hother : .live address ∉ caller) : after.Hosts address scenario := by
  obtain ⟨live, sessionA, sessionB, hlive, hA, hB, hrest⟩ := h
  have hlives : after.lives address = memory.lives address := by
    apply hreaches.lives address
    rintro (hnone | hcalled)
    · exact hnone fun hgone => by cases hgone.symm.trans hlive
    · exact hother hcalled
  refine ⟨live, sessionA, sessionB, hlives.trans hlive, ?_, ?_, hrest⟩
  · exact (hsound.keeps_session hreaches ((drives_live hlive).2 (Or.inl rfl)) hother).trans hA
  · exact (hsound.keeps_session hreaches ((drives_live hlive).2 (Or.inr rfl)) hother).trans hB

theorem HostsPeer.keeps {driver : PeerDriver} {after : RlMemory} (h : memory.HostsPeer address driver)
    (hsound : memory.Sound) {caller : Option RlDriver} (hreaches : memory.Reaches caller after)
    (hother : .peer address ∉ caller) : after.HostsPeer address driver := by
  obtain ⟨peer, session, hpeer, hsession, hrest⟩ := h
  have hpeers : after.peers address = memory.peers address := by
    apply hreaches.peers address
    rintro (hnone | hcalled)
    · exact hnone fun hgone => by cases hgone.symm.trans hpeer
    · exact hother hcalled
  refine ⟨peer, session, hpeers.trans hpeer, ?_, hrest⟩
  exact (hsound.keeps_session hreaches ((drives_peer hpeer).2 rfl) hother).trans hsession

/-- A live driver goes through the steps that are asked of it, and keeps still otherwise. -/
theorem Hosts.call {scenario : LiveScenario} (h : memory.Hosts address scenario) (hsound : memory.Sound)
    {c : RlCall} (hc : memory.Valid c) (hkept : c ≠ .liveDestroy (some address)) :
    (memory.call c).Hosts address
      ((c.press address).elim scenario fun press => (scenario.step press).2) := by
  have hkeeps := fun hother : .live address ∉ c.driver => h.keeps hsound (reaches_call hc) hother
  cases c with
  | liveStep live overrideLocalInput localButtons output =>
    by_cases hlive : live = some address
    · subst hlive
      have hstep := h.liveStep hsound overrideLocalInput localButtons output
      generalize (RlCall.liveStep (some address) overrideLocalInput localButtons output).press address = press
        at hstep ⊢
      cases press with
      | none => exact (congrArg (Hosts · address scenario) hstep).mpr h
      | some press => exact hstep.2
    · rw [RlCall.press, if_neg fun haccepted => hlive haccepted.1]
      refine hkeeps fun hcalled => hlive ?_
      obtain ⟨other, hother, hsame⟩ := Option.map_eq_some_iff.1 hcalled
      cases hsame
      exact hother
  | liveDestroy live =>
    refine hkeeps fun hcalled => hkept ?_
    obtain ⟨other, hother, hsame⟩ := Option.map_eq_some_iff.1 hcalled
    cases hsame
    exact congrArg RlCall.liveDestroy hother
  | udpPeerDestroy peer =>
    refine hkeeps fun hcalled => ?_
    obtain ⟨other, -, hsame⟩ := Option.map_eq_some_iff.1 hcalled
    cases hsame
  | udpPeerStep peer elapsed output socket =>
    refine hkeeps fun hcalled => ?_
    obtain ⟨other, -, hsame⟩ := Option.map_eq_some_iff.1 hcalled
    cases hsame
  | sessionCreate | sessionDestroy | sessionAdvance | sessionIngestRemote | sessionFlushCorrections
  | liveCreate | udpPeerCreate => exact hkeeps nofun

/-- A UDP driver goes through the steps that are asked of it, and keeps still otherwise. -/
theorem HostsPeer.call {driver : PeerDriver} (h : memory.HostsPeer address driver) (hsound : memory.Sound)
    {c : RlCall} (hc : memory.Valid c) (hkept : c ≠ .udpPeerDestroy (some address)) :
    (memory.call c).HostsPeer address
      ((c.tick address).elim driver fun tick => (driver.step tick.1 tick.2).2.1) := by
  have hkeeps := fun hother : .peer address ∉ c.driver => h.keeps hsound (reaches_call hc) hother
  cases c with
  | udpPeerStep peer elapsed output socket =>
    by_cases hpeer : peer = some address
    · subst hpeer
      have hstep := h.udpPeerStep elapsed output socket
      generalize (RlCall.udpPeerStep (some address) elapsed output socket).tick address = tick at hstep ⊢
      cases tick with
      | none => exact (congrArg (HostsPeer · address driver) hstep).mpr h
      | some tick => exact hstep.2
    · rw [RlCall.tick, if_neg fun haccepted => hpeer haccepted.1]
      refine hkeeps fun hcalled => hpeer ?_
      obtain ⟨other, hother, hsame⟩ := Option.map_eq_some_iff.1 hcalled
      cases hsame
      exact hother
  | udpPeerDestroy peer =>
    refine hkeeps fun hcalled => hkept ?_
    obtain ⟨other, hother, hsame⟩ := Option.map_eq_some_iff.1 hcalled
    cases hsame
    exact congrArg RlCall.udpPeerDestroy hother
  | liveDestroy live =>
    refine hkeeps fun hcalled => ?_
    obtain ⟨other, -, hsame⟩ := Option.map_eq_some_iff.1 hcalled
    cases hsame
  | liveStep live overrideLocalInput localButtons output =>
    refine hkeeps fun hcalled => ?_
    obtain ⟨other, -, hsame⟩ := Option.map_eq_some_iff.1 hcalled
    cases hsame
  | sessionCreate | sessionDestroy | sessionAdvance | sessionIngestRemote | sessionFlushCorrections
  | liveCreate | udpPeerCreate => exact hkeeps nofun

/-- Calls on valid handles, none of which is this one. -/
def Runs (memory : RlMemory) (spared : RlCall) (calls : List RlCall) : Prop :=
  Permitted (fun memory c => memory.Valid c ∧ c ≠ spared) RlMemory.call memory calls

theorem Hosts.run {scenario : LiveScenario} (h : memory.Hosts address scenario) (hsound : memory.Sound)
    {calls : List RlCall} (hcalls : memory.Runs (.liveDestroy (some address)) calls) :
    (calls.foldl RlMemory.call memory).Sound ∧ (calls.foldl RlMemory.call memory).Hosts address
      ((calls.filterMap (RlCall.press address)).foldl (fun scenario press => (scenario.step press).2) scenario) :=
  foldl_stutter (R := fun memory scenario => memory.Sound ∧ memory.Hosts address scenario)
    (fun _ _ _ hosts hc => ⟨hosts.1.call hc.1, hosts.2.call hosts.1 hc.1 hc.2⟩) ⟨hsound, h⟩ hcalls

/-- A client may step a driver as often as it likes. -/
theorem Hosts.runs {scenario : LiveScenario} (h : memory.Hosts address scenario)
    (hsound : memory.Sound) (n : ℕ) :
    memory.Runs (.liveDestroy (some address))
      (List.replicate n (.liveStep (some address) 0 0 (some (initialized 24)))) := by
  induction n generalizing memory scenario with
  | zero => trivial
  | succ n ih =>
    obtain ⟨live, -, -, hlive, -⟩ := id h
    have hvalid : memory.Valid (.liveStep (some address) 0 0 (some (initialized 24))) := by
      rintro _ ⟨⟩
      rw [hlive]
      nofun
    exact ⟨⟨hvalid, nofun⟩, ih (h.call hsound hvalid nofun) (hsound.call hvalid)⟩

theorem HostsPeer.run {driver : PeerDriver} (h : memory.HostsPeer address driver) (hsound : memory.Sound)
    {calls : List RlCall} (hcalls : memory.Runs (.udpPeerDestroy (some address)) calls) :
    (calls.foldl RlMemory.call memory).Sound ∧ (calls.foldl RlMemory.call memory).HostsPeer address
      (driver.after (calls.filterMap (RlCall.tick address))) :=
  foldl_stutter (R := fun memory driver => memory.Sound ∧ memory.HostsPeer address driver)
    (fun _ _ _ hosts hc => ⟨hosts.1.call hc.1, hosts.2.call hosts.1 hc.1 hc.2⟩) ⟨hsound, h⟩ hcalls

/-! ## Creation -/

theorem validate_some {α : Type} {size : UInt32} {header : α → RlHeader} {value : Option α} {found : α}
    (h : validate size header value = .ok found) : value = some found := by
  cases value with
  | none => cases h
  | some value =>
    rw [validate] at h
    split at h
    · cases h
    split at h
    · cases h
    · cases h
      rfl

/-- A session that nobody has touched, before a call that takes it. -/
def Taken (memory : RlMemory) (pointer : Option ℕ) (session : RlSession) : Prop :=
  ∃ handle, pointer = some handle ∧ memory.sessions handle = some session ∧ session.touched = false

/-- The scenario behind a live driver that has been created. -/
theorem liveCreate_hosts {config : Option RlLiveConfig} {a b pointer : Option ℕ}
    (hcreated : (memory.liveCreate config a b true pointer).output = some (some address)) :
    ∃ c sessionA sessionB first, config = some c ∧ memory.Taken a sessionA ∧ memory.Taken b sessionB ∧
      LiveScenario.create (nativeConfig c) sessionA.native sessionB.native = .ok first ∧
      (memory.liveCreate config a b true pointer).memory.Hosts address first := by
  rw [RlMemory.liveCreate, if_neg (by decide)] at hcreated ⊢
  dsimp only at hcreated ⊢
  split at hcreated
  next hfailed => cases hcreated
  next found live sessionA sessionB hchecked =>
    cases hcreated
    obtain ⟨c, hconfig, hchecked⟩ := bind_ok_iff.1 hchecked
    obtain ⟨⟨handleA, heldA⟩, hA, hchecked⟩ := bind_ok_iff.1 hchecked
    obtain ⟨⟨handleB, heldB⟩, hB, hchecked⟩ := bind_ok_iff.1 hchecked
    obtain ⟨hpeers, hchecked⟩ := refuseIf_bind_ok.1 hchecked
    obtain ⟨htouched, hchecked⟩ := refuseIf_bind_ok.1 hchecked
    obtain ⟨native, hnative, hchecked⟩ := bind_ok_iff.1 hchecked
    obtain ⟨allocated, -, hchecked⟩ := bind_ok_iff.1 hchecked
    cases hchecked
    obtain ⟨found, hfound, hconfig⟩ := bind_ok_iff.1 hconfig
    obtain ⟨-, hconfig⟩ := refuseIf_bind_ok.1 hconfig
    cases hconfig
    obtain ⟨rfl, hsessionA, -⟩ := checkSession_free hA
    obtain ⟨rfl, hsessionB, -⟩ := checkSession_free hB
    have hcreate := mapError_ok.1 hnative
    have hpeer := scenario_peer hcreate
    have hopen : native.Open := (LiveScenario.create_ok hcreate).1 ▸ ⟨rfl, rfl⟩
    rw [not_or, Bool.not_eq_true, Bool.not_eq_true] at htouched
    refine ⟨_, heldA, heldB, native, validate_some hfound, ⟨handleA, rfl, hsessionA, htouched.1⟩,
      ⟨handleB, rfl, hsessionB, htouched.2⟩, hcreate, ⟨handleA, handleB, native, false, .ok⟩,
      { heldA with borrowed := true }, { heldB with borrowed := true }, Function.update_self .., ?_, ?_,
      ?_, fun hfailing => absurd rfl hfailing, ?_⟩
    · change (RlMemory.setSession _ _ _).sessions handleA = _
      rw [sessions_setSession, if_neg fun hsame => hpeers (Or.inl hsame), sessions_setSession, if_pos rfl]
    · change (RlMemory.setSession _ _ _).sessions handleB = _
      rw [sessions_setSession, if_pos rfl]
    · rw [RlLive.scenario]
      dsimp only
      rw [← hpeer]
    · rw [hopen.2]
      simp

/-- The driver behind a UDP driver that has been created. -/
theorem udpPeerCreate_hosts {config : Option RlUdpConfig} {session pointer : Option ℕ} {bound : Result Unit}
    (hcreated : (memory.udpPeerCreate config session true bound pointer).output = some (some address)) :
    ∃ c held first, config = some c ∧ memory.Taken session held ∧
      PeerDriver.create (peerConfig c held.localPeer) held.native bound = .ok first ∧
      (memory.udpPeerCreate config session true bound pointer).memory.HostsPeer address first := by
  rw [RlMemory.udpPeerCreate, if_neg (by decide)] at hcreated ⊢
  dsimp only at hcreated ⊢
  split at hcreated
  next hfailed => cases hcreated
  next found peer taken hchecked =>
    cases hcreated
    obtain ⟨c, hconfig, hchecked⟩ := bind_ok_iff.1 hchecked
    obtain ⟨⟨handle, held⟩, hsession, hchecked⟩ := bind_ok_iff.1 hchecked
    obtain ⟨htouched, hchecked⟩ := refuseIf_bind_ok.1 hchecked
    obtain ⟨native, hnative, hchecked⟩ := bind_ok_iff.1 hchecked
    obtain ⟨allocated, -, hchecked⟩ := bind_ok_iff.1 hchecked
    cases hchecked
    obtain ⟨found, hfound, hconfig⟩ := bind_ok_iff.1 hconfig
    obtain ⟨-, hconfig⟩ := refuseIf_bind_ok.1 hconfig
    cases hconfig
    obtain ⟨rfl, hheld, -⟩ := checkSession_free hsession
    have hcreate := mapError_ok.1 hnative
    refine ⟨_, held, native, validate_some hfound, ⟨handle, rfl, hheld, Bool.not_eq_true _ ▸ htouched⟩,
      hcreate, ?_⟩
    exact hostsPeer_moved rfl native rfl (driver_waits hcreate).2.symm fun hfailing => absurd rfl hfailing

end RlMemory

/-- A driver that has been created goes through the steps that are asked of it, and returns what
they return, whatever else is called until it is destroyed. -/
theorem drivers_isolated {memory : RlMemory} (h : memory.Reachable) :
    (∀ config a b pointer address calls,
      let create := RlCall.liveCreate config a b true pointer
      let after := calls.foldl RlMemory.call (memory.call create)
      memory.Valid create → (memory.liveCreate config a b true pointer).output = some (some address) →
      (memory.call create).Runs (.liveDestroy (some address)) calls →
      ∃ c sessionA sessionB first, config = some c ∧ memory.Taken a sessionA ∧ memory.Taken b sessionB ∧
        LiveScenario.create (nativeConfig c) sessionA.native sessionB.native = .ok first ∧
        let last := (calls.filterMap (RlCall.press address)).foldl
          (fun scenario press => (scenario.step press).2) first
        after.Hosts address last ∧
        ∀ overrideLocalInput localButtons output press,
          (RlCall.liveStep (some address) overrideLocalInput localButtons output).press address = some press →
          (after.liveStep (some address) overrideLocalInput localButtons output).status =
            stepStatus (fun error => toStatus error.code) (last.step press).1) ∧
    ∀ config session pointer bound address calls,
      let create := RlCall.udpPeerCreate config session true bound pointer
      let after := calls.foldl RlMemory.call (memory.call create)
      memory.Valid create → (memory.udpPeerCreate config session true bound pointer).output = some (some address) →
      (memory.call create).Runs (.udpPeerDestroy (some address)) calls →
      ∃ c held first, config = some c ∧ memory.Taken session held ∧
        PeerDriver.create (peerConfig c held.localPeer) held.native bound = .ok first ∧
        let last := first.after (calls.filterMap (RlCall.tick address))
        after.HostsPeer address last ∧
        ∀ elapsed socket,
          (after.udpPeerStep (some address) elapsed (some (initialized 32)) socket).status =
            stepStatus networkStatus (last.step elapsed socket).1 := by
  constructor
  · intro config a b pointer address calls create after hcreate hcreated hcalls
    have hsound : (memory.call create).Sound := h.sound.call hcreate
    obtain ⟨c, sessionA, sessionB, first, hconfig, hA, hB, hfirst, hosts⟩ := RlMemory.liveCreate_hosts hcreated
    obtain ⟨hafter, hlast⟩ := hosts.run hsound hcalls
    refine ⟨c, sessionA, sessionB, first, hconfig, hA, hB, hfirst, hlast,
      fun overrideLocalInput localButtons output press hpress => ?_⟩
    have hstep := hlast.liveStep hafter overrideLocalInput localButtons output
    rw [hpress] at hstep
    exact hstep.1
  · intro config session pointer bound address calls create after hcreate hcreated hcalls
    have hsound : (memory.call create).Sound := h.sound.call hcreate
    obtain ⟨c, held, first, hconfig, htaken, hfirst, hosts⟩ := RlMemory.udpPeerCreate_hosts hcreated
    obtain ⟨-, hlast⟩ := hosts.run hsound hcalls
    refine ⟨c, held, first, hconfig, htaken, hfirst, hlast, fun elapsed socket => ?_⟩
    have hstep := hlast.udpPeerStep elapsed (some (initialized 32)) socket
    rw [RlCall.tick, if_pos ⟨rfl, rfl⟩] at hstep
    exact hstep.1

/-- Two sessions that nobody has taken. -/
def freeMemory : RlMemory :=
  (RlMemory.empty.call (.sessionCreate (some { localPeer := 0, maxRollbackFrames := 120 }) true (some 0))).call
    (.sessionCreate (some { localPeer := 1, maxRollbackFrames := 120 }) true (some 1))

theorem freeMemory_reachable : freeMemory.Reachable := by
  refine .call (.call .start _ ?_) _ ?_
  · rintro _ ⟨⟩
    rfl
  · rintro _ ⟨⟩
    exact Option.not_isSome_iff_eq_none.1 (by decide)

/-- A match of 600 frames. -/
def plainLiveConfig : RlLiveConfig where
  scenarioSeed := 1
  transportSeed := 2
  frameCount := 600
  maxQueuePackets := 1024
  maxQueueBytes := 1048576
  bandwidthBytesPerTick := 1048576
  maxPacketAgeTicks := 600
  tailRedundancyTicks := 64

/-- A session cannot be destroyed under its driver, which is then stepped twice. -/
theorem drivers_isolated_free :
    let create := RlCall.liveCreate (some plainLiveConfig) (some 0) (some 1) true (some 0)
    let step := RlCall.liveStep (some 0) 0 0 (some (initialized 24))
    let after := [.sessionDestroy (some 0), step, step].foldl RlMemory.call (freeMemory.call create)
    ∃ first : LiveScenario, after.Hosts 0 ((first.step none).2.step none).2 ∧
      (after.liveStep (some 0) 1 31 (some (initialized 24))).status =
        stepStatus (fun error => toStatus error.code) (((first.step none).2.step none).2.step (some 31)).1 := by
  have hvalid : freeMemory.Valid (.liveCreate (some plainLiveConfig) (some 0) (some 1) true (some 0)) := by
    refine ⟨?_, ?_, ?_⟩
    · rintro _ ⟨⟩
      exact Option.isSome_iff_ne_none.1 (by decide)
    · rintro _ ⟨⟩
      exact Option.isSome_iff_ne_none.1 (by decide)
    · rintro _ ⟨⟩
      rfl
  have hcreated : (freeMemory.liveCreate (some plainLiveConfig) (some 0) (some 1) true (some 0)).output =
      some (some 0) := by decide
  have hdestroy : (freeMemory.call (.liveCreate (some plainLiveConfig) (some 0) (some 1) true
      (some 0))).Valid (.sessionDestroy (some 0)) := by
    rintro _ ⟨⟩
    exact Option.isSome_iff_ne_none.1 (by decide)
  have hsound := freeMemory_reachable.sound.call hvalid
  obtain ⟨-, -, -, first, -, -, -, -, created⟩ := RlMemory.liveCreate_hosts hcreated
  have hruns : (freeMemory.call (.liveCreate (some plainLiveConfig) (some 0) (some 1) true (some 0))).Runs
      (.liveDestroy (some 0)) (.sessionDestroy (some 0) :: List.replicate 2
        (.liveStep (some 0) 0 0 (some (initialized 24)))) :=
    ⟨⟨hdestroy, nofun⟩, (created.call hsound hdestroy nofun).runs (hsound.call hdestroy) 2⟩
  obtain ⟨-, -, -, first, -, -, -, -, hosts, hstatus⟩ :=
    (drivers_isolated freeMemory_reachable).1 _ _ _ _ 0 _ hvalid hcreated hruns
  exact ⟨first, hosts, hstatus 1 31 (some (initialized 24)) (some 31) (by decide)⟩

end RollbackLab
