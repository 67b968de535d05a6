import RollbackLab.PeerHonesty

/-!
# A driver with an honest partner

What one step of a driver keeps while everything it hears was said by an honest partner:
its session follows the script, what it sends keeps to it, and it finishes with artifacts
that tell the truth.
-/

namespace RollbackLab

/-- How far a session is in each phase of a driver that has not failed. -/
def PeerPhase.Reached (phase : PeerPhase) (n total : ℕ) : Prop :=
  match phase with
  | .handshake | .running => n < total
  | .confirming | .finished => n = total
  | .failed => False

namespace PeerDriver

/-- Every frame of the match is confirmed. -/
def Settled (driver : PeerDriver) : Prop :=
  driver.runtime.session.metrics.confirmedFrame = ⟨driver.config.frameCount⟩

/-- A driver that has not failed. -/
structure Stands (config : PeerConfig) (sc : SessionConfig) (partner : PeerConfig)
    (pv : SimulationVariant) (settled : Prop) (driver : PeerDriver) : Prop where
  same : driver.observation.phase ≠ .handshake → SameMatch config partner
  attends : ∃ n c, Attends config sc pv settled n c driver.runtime ∧
    driver.observation.phase.Reached n config.frameCount.toNat
  finished : driver.observation.phase = .finished →
    driver.artifacts.Vouched config sc pv ∧ driver.Settled ∧ settled

/-- A driver with an honest partner, whether or not it has failed. -/
structure Honest (config : PeerConfig) (sc : SessionConfig) (partner : PeerConfig)
    (pv : SimulationVariant) (settled : Prop) (driver : PeerDriver) : Prop where
  config_eq : driver.config = config
  hello : encodeHello config = .ok driver.hello
  follows : ∃ n c, n ≤ config.frameCount.toNat ∧
    Follows sc config.script config.frameCount.toNat n c driver.runtime.session
  failed : driver.failure.isSome = true → driver.observation.phase = .failed
  stands : driver.failure = none → driver.Stands config sc partner pv settled

/-- What the step of a working phase keeps, whether or not it fails. -/
structure Conducted (config : PeerConfig) (sc : SessionConfig) (driver next : PeerDriver)
    (socket : UdpSocket) : Prop where
  config_eq : next.config = config
  hello : next.hello = driver.hello
  failure : next.failure = driver.failure
  follows : ∃ n c, n ≤ config.frameCount.toNat ∧
    Follows sc config.script config.frameCount.toNat n c next.runtime.session
  settled : driver.Settled → next.Settled
  sent : ∀ datagram ∈ socket.sent, Says config sc.variant next.Settled datagram.bytes

variable {config partner : PeerConfig} {sc : SessionConfig} {pv : SimulationVariant} {settled : Prop}
  {driver next : PeerDriver} {socket : UdpSocket}

theorem Stands.mono {settled' : Prop} (h : driver.Stands config sc partner pv settled)
    (hmono : settled → settled') : driver.Stands config sc partner pv settled' where
  same := h.same
  attends := by
    obtain ⟨n, c, hattends, hreached⟩ := h.attends
    exact ⟨n, c, ⟨hattends.follows, hattends.history, fun hash hsome =>
      (hattends.final hash hsome).imp_right hmono⟩, hreached⟩
  finished hphase := by
    obtain ⟨hvouched, hsettled, hpartner⟩ := h.finished hphase
    exact ⟨hvouched, hsettled, hmono hpartner⟩

theorem Honest.mono {settled' : Prop} (h : driver.Honest config sc partner pv settled)
    (hmono : settled → settled') : driver.Honest config sc partner pv settled' where
  config_eq := h.config_eq
  hello := h.hello
  follows := h.follows
  failed := h.failed
  stands hfailure := (h.stands hfailure).mono hmono

theorem settled_iff {n c : ℕ} (hconfig : driver.config = config)
    (h : Follows sc config.script config.frameCount.toNat n c driver.runtime.session)
    (hn : n ≤ config.frameCount.toNat) : driver.Settled ↔ c = config.frameCount.toNat := by
  have hle := h.confirmed_le
  have hlt := config.frameCount.toNat_lt
  rw [Settled, hconfig, h.confirmedFrame_eq, FrameNumber.mk.injEq, ← UInt32.toNat_inj,
    UInt32.toNat_ofNat_of_lt' (by simp only [UInt32.size]; omega)]

/-- A settled session has simulated and confirmed the whole match. -/
theorem Honest.confirmed (h : driver.Honest config sc partner pv settled) (hsettled : driver.Settled) :
    Follows sc config.script config.frameCount.toNat config.frameCount.toNat
      config.frameCount.toNat driver.runtime.session := by
  obtain ⟨n, c, hn, hfollows⟩ := h.follows
  have hc := (settled_iff h.config_eq hfollows hn).1 hsettled
  have hle := hfollows.confirmed_le
  obtain rfl : n = config.frameCount.toNat := by omega
  rw [hc] at hfollows
  exact hfollows

/-- A working step that leaves the driver as it was, and sends at most the hello. -/
theorem Conducted.refl (h : driver.Honest config sc partner pv settled)
    (hsent : ∀ datagram ∈ socket.sent, datagram.bytes = driver.hello) :
    Conducted config sc driver driver socket where
  config_eq := h.config_eq
  hello := rfl
  failure := rfl
  follows := h.follows
  settled := id
  sent datagram hmem := Or.inl (by rw [hsent datagram hmem]; exact h.hello)

/-- A hello is all that an honest partner says that passes for one. -/
theorem validHello_heard {bytes : List UInt8} {packet : Packet}
    (hheard : Says partner pv settled bytes) (hdecode : decodePacket bytes = .ok packet)
    (hvalid : validHello config packet = .ok ()) : SameMatch config partner := by
  rw [validHello] at hvalid
  split at hvalid
  · cases hvalid
  next hidentity =>
    rcases hheard with hhello | ⟨packet', hpacket, hdecode'⟩
    · cases decodePacket_encodeHello hhello hdecode
      simp only [helloPacket, not_or, not_not] at hidentity hvalid
      split at hvalid
      · cases hvalid
      · split at hvalid
        · cases hvalid
        next hframes =>
          simp only [not_or, not_not] at hframes
          exact ⟨hidentity.2.2, hframes.1, hframes.2⟩
    · cases hdecode.symm.trans hdecode'
      simp only [not_or, not_not] at hidentity
      exact absurd (hidentity.1.symm.trans hpacket.type) (by decide)

/-- The first datagram that a driver takes. -/
theorem greet_excuse {datagram : Datagram} {e : Error}
    (hhead : socket.receiveResults.head? = some (.ok (some datagram)))
    (hheard : Says partner pv settled datagram.bytes)
    (hrefused : (decodeDatagram config datagram >>= fun packet => validHello config packet) = .error e) :
    Excuse config sc partner pv .handshake socket e := by
  by_cases hsource : config.engineAbiVersion ≠ 0 ∧ datagram.sourcePort ≠ config.relayPort
  · rw [decodeDatagram_foreign hsource] at hrefused
    cases hrefused
    exact .source rfl (List.mem_of_mem_head? hhead) hsource.2
  rw [decodeDatagram_relayed hsource] at hrefused
  rcases hheard with hhello | ⟨packet, hpacket, hdecode⟩
  · have hunwelcome : ¬ Welcome config partner := by
      intro hwelcome
      obtain ⟨packet, hdecode, hvalid⟩ := hwelcome _ hhello
      rw [hdecode] at hrefused
      change validHello config packet = _ at hrefused
      rw [hvalid] at hrefused
      cases hrefused
    cases hdecode : decodePacket datagram.bytes with
    | error e' =>
      rw [hdecode] at hrefused
      cases hrefused
      exact .hello (decodePacket_code_ne hdecode) hunwelcome
    | ok packet =>
      rw [hdecode] at hrefused
      exact .hello (validHello_code_ne hrefused) hunwelcome
  · rw [hdecode] at hrefused
    exact .early (validHello_code_ne hrefused) rfl hhead hdecode hpacket.type

theorem shakeHands_honest (h : driver.Honest config sc partner pv settled)
    (hworking : driver.failure = none) (hphase : driver.observation.phase = .handshake)
    (hpartner : partner.id = remoteId config.id) (hfresh : socket.sent = [])
    (hheard : ∀ datagram, .ok (some datagram) ∈ socket.receiveResults →
      Says partner pv settled datagram.bytes) (elapsed : UInt64) :
    Outcome
      (fun _ s => Conducted config sc driver s.1 s.2 ∧ s.1.Stands config sc partner pv settled)
      (fun e s => Conducted config sc driver s.1 s.2 ∧
        Excuse config sc partner pv driver.observation.phase socket e)
      (driver.shakeHands elapsed socket) := by
  obtain rfl := h.config_eq
  have hstands := h.stands hworking
  have hlength : driver.hello.length ≤ 65507 := by
    rw [length_encodeHello h.hello]
    omega
  have hsend := fun socket : UdpSocket =>
    socket.sendLoopback_outcome hlength driver.config.relayPort
  rw [hphase, shakeHands]
  split
  · exact ⟨.refl h (by simp [hfresh]), .timeout rfl⟩
  rcases hfirst : socket.sendLoopback driver.config.relayPort driver.hello with ⟨e | _, sent⟩
  · obtain ⟨hsent, hmem⟩ := (hsend socket).of_error hfirst
    exact ⟨.refl h (by simp [hsent, hfresh]), .system (Or.inl hmem)⟩
  obtain ⟨hresults, hsent, htail⟩ := (hsend socket).of_ok hfirst
  have honly : ∀ datagram ∈ sent.sent, datagram.bytes = driver.hello := by
    simp [hsent, hfresh]
  dsimp only
  rcases hanswer : sent.receive with ⟨answer, rest⟩
  have hrest : rest.sent = sent.sent ∧ rest.sendResults = sent.sendResults := by
    cases hanswer
    exact ⟨rfl, rfl⟩
  have hkept : Conducted driver.config sc driver driver rest := .refl h (by rwa [hrest.1])
  rcases answer with e | _ | datagram
  · have hmem : .error e ∈ sent.receiveResults := UdpSocket.receive_mem (by rw [hanswer]) (by simp)
    exact ⟨hkept, .system (Or.inr (hresults ▸ hmem))⟩
  · exact ⟨hkept, hstands⟩
  have hhead : socket.receiveResults.head? = some (.ok (some datagram)) :=
    hresults ▸ UdpSocket.receive_head (by rw [hanswer])
  have hmem : .ok (some datagram) ∈ socket.receiveResults := List.mem_of_mem_head? hhead
  have hrefused : ∀ e, (decodeDatagram driver.config datagram >>= fun packet =>
      validHello driver.config packet) = .error e →
        Excuse driver.config sc partner pv .handshake socket e :=
    fun e => greet_excuse hhead (hheard datagram hmem)
  dsimp only
  cases hdecode : decodeDatagram driver.config datagram with
  | error e => exact ⟨hkept, hrefused e (by rw [hdecode]; rfl)⟩
  | ok packet =>
    dsimp only
    cases hvalid : validHello driver.config packet with
    | error e => exact ⟨hkept, hrefused e (by rw [hdecode]; exact hvalid)⟩
    | ok _ =>
      have hsame : SameMatch driver.config partner := by
        rw [decodeDatagram, failIf_bind_ok] at hdecode
        exact validHello_heard (hheard datagram hmem) hdecode.2 hvalid
      dsimp only
      rcases hsecond : rest.sendLoopback driver.config.relayPort driver.hello with ⟨e | _, last⟩
      · obtain ⟨hlast, hmem⟩ := (hsend rest).of_error hsecond
        rw [hrest.2, htail] at hmem
        exact ⟨.refl h (by rwa [hlast, hrest.1]), .system (Or.inl (List.mem_of_mem_tail hmem))⟩
      · obtain ⟨-, hlast, -⟩ := (hsend rest).of_ok hsecond
        obtain ⟨n, c, hattends, hreached⟩ := hstands.attends
        rw [hphase] at hreached
        refine ⟨⟨rfl, rfl, rfl, h.follows, id, fun datagram hmem => Or.inl ?_⟩,
          fun _ => hsame, ⟨n, c, hattends, hreached⟩, fun hend => by cases hend⟩
        rw [hlast, hrest.1, hsent, hfresh] at hmem
        have hbytes : datagram.bytes = driver.hello := by
          simp only [List.nil_append, List.mem_append, List.mem_singleton, or_self] at hmem
          rw [hmem]
        rw [hbytes]
        exact h.hello

/-- A working step, by the session it leaves. -/
theorem Conducted.of_follows {n c m c' : ℕ} (hconfig : driver.config = config)
    (hstart : Follows sc config.script config.frameCount.toNat n c driver.runtime.session)
    (hn : n ≤ config.frameCount.toNat) (hle : c ≤ c') (hm : m ≤ config.frameCount.toNat)
    (hfollows : Follows sc config.script config.frameCount.toNat m c' next.runtime.session)
    (hnext : next.config = config) (hhello : next.hello = driver.hello)
    (hfailure : next.failure = driver.failure)
    (hheard : ∀ datagram ∈ socket.sent,
      Says config sc.variant (c' = config.frameCount.toNat) datagram.bytes) :
    Conducted config sc driver next socket where
  config_eq := hnext
  hello := hhello
  failure := hfailure
  follows := ⟨m, c', hm, hfollows⟩
  settled hsettled := by
    have hconfirmed := (settled_iff hconfig hstart hn).1 hsettled
    have hbound := hfollows.confirmed_le
    exact (settled_iff hnext hfollows hm).2 (by omega)
  sent datagram hmem := (hheard datagram hmem).mono fun he => (settled_iff hnext hfollows hm).2 he

theorem runFrame_honest (h : driver.Honest config sc partner pv settled)
    (hworking : driver.failure = none) (hphase : driver.observation.phase = .running)
    (hid : sc.localPeer = config.id) (hpartner : partner.id = remoteId config.id)
    (hsmall : config.frameCount.toNat ≤ 256) (hfresh : socket.sent = [])
    (hheard : ∀ datagram, .ok (some datagram) ∈ socket.receiveResults →
      Says partner pv settled datagram.bytes) :
    Outcome
      (fun _ s => Conducted config sc driver s.1 s.2 ∧ s.1.Stands config sc partner pv settled)
      (fun e s => Conducted config sc driver s.1 s.2 ∧
        Excuse config sc partner pv driver.observation.phase socket e)
      (driver.runFrame socket) := by
  obtain ⟨hsame, ⟨n, c, hattends, hreached⟩, -⟩ := h.stands hworking
  have hsame := hsame (by simp [hphase])
  rw [hphase] at hreached
  have hn : n < config.frameCount.toNat := hreached
  have hconfig := h.config_eq
  have hdrain := drain_attends hattends hid hpartner hsame hn.le hsmall .running rfl hheard 64
  have hresults := drain_sendResults config driver.runtime socket 64
  rw [hphase, runFrame, hconfig, PeerRuntime.drainAvailable]
  rcases hcall : driver.runtime.drain config socket 64 with ⟨e | _, runtime, rest⟩
  · obtain ⟨⟨⟨c', hle, hnext⟩, hexcuse⟩, hsent⟩ := hdrain.of_error hcall
    refine ⟨.of_follows hconfig hattends.follows hn.le hle hn.le hnext.follows rfl rfl rfl ?_, hexcuse⟩
    rw [show rest.sent = [] from hsent.trans hfresh]
    intro datagram hmem
    cases hmem
  obtain ⟨⟨c', hle, hnext⟩, hsent⟩ := hdrain.of_ok hcall
  rw [hcall] at hresults
  obtain ⟨advanced, session, c'', hadvance, hle', hfollows⟩ := hnext.follows.advance (by omega)
  have hloc : scriptedInput config.scenarioSeed runtime.session.report.state.frame config.id =
      config.script.input sc.localPeer runtime.session.state.frame := by
    rw [hid]
    rfl
  have hlocals : runtime.localHistory ++ [config.script.input sc.localPeer runtime.session.state.frame] =
      config.script.locals config.id (n + 1) := by
    rw [hnext.history, InputScript.locals_succ, hnext.follows.frame_eq, hid]
  dsimp only
  rw [hloc, hadvance, hlocals]
  dsimp only
  have hsend : Outcome _ _ (PeerRuntime.sendInputs config { runtime with
      session
      localHistory := config.script.locals config.id (n + 1) } rest) :=
    sendInputs_outcome hfollows rfl hn hsmall rest
  rcases hout : PeerRuntime.sendInputs config { runtime with
      session
      localHistory := config.script.locals config.id (n + 1) } rest with ⟨e | _, last, socket'⟩
  · obtain ⟨⟨_, _, rfl⟩, hkept, hmem⟩ := hsend.of_error hout
    rw [hresults] at hmem
    refine ⟨.of_follows hconfig hattends.follows hn.le (hle.trans hle') hn hfollows rfl rfl rfl ?_,
      .system (Or.inl hmem)⟩
    rw [show socket'.sent = [] from hkept.trans (hsent.trans hfresh)]
    intro datagram hmem
    cases hmem
  obtain ⟨⟨_, _, rfl⟩, -, datagram, hsaid, hkept⟩ := hsend.of_ok hout
  have hall : ∀ datagram ∈ socket'.sent,
      Says config sc.variant (c'' = config.frameCount.toNat) datagram.bytes := by
    rw [hkept, show rest.sent = [] from hsent.trans hfresh]
    intro datagram' hmem
    rw [List.nil_append, List.mem_singleton] at hmem
    rw [hmem]
    exact hsaid
  have hframe : session.report.state.frame = ⟨UInt32.ofNat (n + 1)⟩ := hfollows.frame_eq
  have hlast : (⟨UInt32.ofNat (n + 1)⟩ : FrameNumber) = ⟨config.frameCount⟩ ↔
      n + 1 = config.frameCount.toNat := by
    rw [FrameNumber.mk.injEq, ← UInt32.toNat_inj,
      UInt32.toNat_ofNat_of_lt' (by simp only [UInt32.size]; omega)]
  dsimp only
  rw [hframe]
  split
  next hend =>
    exact ⟨.of_follows hconfig hattends.follows hn.le (hle.trans hle') hn hfollows rfl rfl rfl hall,
      fun _ => hsame, ⟨n + 1, c'', ⟨hfollows, rfl, hnext.final⟩, hlast.1 hend⟩,
      fun hfinished => by cases hfinished⟩
  next hmore =>
    refine ⟨.of_follows hconfig hattends.follows hn.le (hle.trans hle') hn hfollows rfl rfl rfl hall,
      fun _ => hsame, ⟨n + 1, c'', ⟨hfollows, rfl, hnext.final⟩, ?_⟩, fun hfinished => ?_⟩
    · have hrunning : PeerPhase.running.Reached (n + 1) config.frameCount.toNat :=
        Nat.lt_of_le_of_ne hn fun he => hmore (hlast.2 he)
      rw [← hphase] at hrunning
      exact hrunning
    · rw [hphase] at hfinished
      cases hfinished

theorem confirmFinal_honest (h : driver.Honest config sc partner pv settled)
    (hworking : driver.failure = none) (hphase : driver.observation.phase = .confirming)
    (hid : sc.localPeer = config.id) (hpartner : partner.id = remoteId config.id)
    (hsmall : config.frameCount.toNat ≤ 256) (hfresh : socket.sent = [])
    (hheard : ∀ datagram, .ok (some datagram) ∈ socket.receiveResults →
      Says partner pv settled datagram.bytes) :
    Outcome
      (fun _ s => Conducted config sc driver s.1 s.2 ∧ s.1.Stands config sc partner pv settled)
      (fun e s => Conducted config sc driver s.1 s.2 ∧
        Excuse config sc partner pv driver.observation.phase socket e)
      (driver.confirmFinal socket) := by
  obtain ⟨hsame, ⟨n, c, hattends, hreached⟩, -⟩ := h.stands hworking
  have hsame := hsame (by simp [hphase])
  rw [hphase] at hreached
  obtain rfl : n = config.frameCount.toNat := hreached
  have hconfig := h.config_eq
  have hsend := sendInputs_outcome hattends.follows hattends.history le_rfl hsmall socket
  rw [hphase, confirmFinal, hconfig]
  rcases hout : driver.runtime.sendInputs config socket with ⟨e | _, runtime, sent⟩
  · obtain ⟨⟨_, _, rfl⟩, hkept, hmem⟩ := hsend.of_error hout
    refine ⟨.of_follows hconfig hattends.follows le_rfl le_rfl le_rfl hattends.follows rfl rfl rfl ?_,
      .system (Or.inl hmem)⟩
    rw [show sent.sent = [] from hkept.trans hfresh]
    intro datagram hmem
    cases hmem
  obtain ⟨⟨nextSequence, metrics, rfl⟩, hresults, datagram, hsaid, hkept⟩ := hsend.of_ok hout
  have hstart : Attends config sc pv settled config.frameCount.toNat c
      { driver.runtime with nextSequence, metrics } :=
    ⟨hattends.follows, hattends.history, hattends.final⟩
  have hdrain := drain_attends hstart hid hpartner hsame le_rfl hsmall .confirming
    (show sent.receiveResults = _ from hresults) hheard 64
  have hall : ∀ c' rest, c ≤ c' → c' ≤ config.frameCount.toNat → rest = sent.sent →
      ∀ datagram ∈ rest, Says config sc.variant (c' = config.frameCount.toNat) datagram.bytes := by
    rintro c' rest hle hbound rfl datagram' hmem
    rw [hkept, hfresh, List.nil_append, List.mem_singleton] at hmem
    rw [hmem]
    exact hsaid.mono fun he => by omega
  dsimp only
  rw [PeerRuntime.drainAvailable]
  rcases hcall : PeerRuntime.drain config { driver.runtime with nextSequence, metrics } sent 64 with
    ⟨e | _, runtime, rest⟩
  · obtain ⟨⟨⟨c', hle, hnext⟩, hexcuse⟩, hsent⟩ := hdrain.of_error hcall
    exact ⟨.of_follows hconfig hattends.follows le_rfl hle le_rfl hnext.follows rfl rfl rfl
      (hall c' _ hle hnext.follows.confirmed_le hsent), hexcuse⟩
  obtain ⟨⟨c', hle, hnext⟩, hsent⟩ := hdrain.of_ok hcall
  have hconducted : ∀ next : PeerDriver, next.config = config → next.hello = driver.hello →
      next.failure = driver.failure → next.runtime = runtime →
        Conducted config sc driver next rest := by
    rintro next hc hh hf rfl
    exact .of_follows hconfig hattends.follows le_rfl hle le_rfl hnext.follows hc hh hf
      (hall c' _ hle hnext.follows.confirmed_le hsent)
  have hstay : ∀ next : PeerDriver, next.runtime = runtime → next.observation = driver.observation →
      next.Stands config sc partner pv settled := by
    rintro next rfl hobservation
    refine ⟨fun _ => hsame, ⟨_, c', hnext, ?_⟩, fun hfinished => ?_⟩
    · rw [hobservation, hphase]
      rfl
    · rw [hobservation, hphase] at hfinished
      cases hfinished
  dsimp only
  split
  next hknown =>
    obtain ⟨hconfirmed, hsome⟩ := hknown
    obtain ⟨hash, hhash⟩ := Option.isSome_iff_exists.1 hsome
    split
    next hdrained =>
      have hlast : c' = config.frameCount.toNat := by
        have hbound := hnext.follows.confirmed_le
        rw [show runtime.session.report.metrics.confirmedFrame = _ from
          hnext.follows.confirmedFrame_eq, FrameNumber.mk.injEq, ← UInt32.toNat_inj,
          UInt32.toNat_ofNat_of_lt' (by simp only [UInt32.size]; omega)] at hconfirmed
        exact hconfirmed
      rw [hlast] at hnext
      rcases buildArtifacts_cases hsmall hnext hhash with
        ⟨artifacts, hbuild, hvouched⟩ | ⟨e, hbuild, hcode, hvariant⟩
      · rw [hbuild]
        exact ⟨hconducted _ rfl rfl rfl rfl, fun _ => hsame, ⟨_, _, hnext, rfl⟩,
          fun _ => ⟨hvouched, hconfirmed, (hnext.final hash hhash).2⟩⟩
      · rw [hbuild]
        refine ⟨hconducted _ rfl rfl rfl rfl, ?_⟩
        rcases hvariant with hvariant | hdiverged
        · exact .variant (by rw [hcode]; simp) hvariant
        · exact .diverged hdiverged
    next => exact ⟨hconducted _ rfl rfl rfl rfl, hstay _ rfl rfl⟩
  next => exact ⟨hconducted _ rfl rfl rfl rfl, hstay _ rfl rfl⟩

/-- The step of any working phase. -/
theorem work_honest (h : driver.Honest config sc partner pv settled)
    (hworking : driver.failure = none) (hunfinished : driver.observation.phase ≠ .finished)
    (hid : sc.localPeer = config.id) (hpartner : partner.id = remoteId config.id)
    (hsmall : config.frameCount.toNat ≤ 256) (hfresh : socket.sent = [])
    (hheard : ∀ datagram, .ok (some datagram) ∈ socket.receiveResults →
      Says partner pv settled datagram.bytes) (elapsed : UInt64) :
    Outcome
      (fun _ s => Conducted config sc driver s.1 s.2 ∧ s.1.Stands config sc partner pv settled)
      (fun e s => Conducted config sc driver s.1 s.2 ∧
        Excuse config sc partner pv driver.observation.phase socket e)
      (driver.work elapsed socket) := by
  obtain ⟨-, ⟨n, c, -, hreached⟩, -⟩ := h.stands hworking
  rw [work, run]
  cases hphase : driver.observation.phase with
  | handshake =>
    rw [if_pos rfl, ← hphase]
    exact shakeHands_honest h hworking hphase hpartner hfresh hheard elapsed
  | running =>
    rw [if_neg (by decide)]
    split
    · exact ⟨.refl h (by simp [hfresh]), .timeout rfl⟩
    · rw [if_pos rfl, ← hphase]
      exact runFrame_honest h hworking hphase hid hpartner hsmall hfresh hheard
  | confirming =>
    rw [if_neg (by decide)]
    split
    · exact ⟨.refl h (by simp [hfresh]), .timeout rfl⟩
    · rw [if_neg (by decide), ← hphase]
      exact confirmFinal_honest h hworking hphase hid hpartner hsmall hfresh hheard
  | finished => exact absurd hphase hunfinished
  | failed =>
    rw [hphase] at hreached
    exact hreached.elim

/-- What every step keeps. -/
structure Kept (config : PeerConfig) (sc : SessionConfig) (partner : PeerConfig)
    (pv : SimulationVariant) (settled : Prop) (driver next : PeerDriver) (socket : UdpSocket) : Prop where
  honest : next.Honest config sc partner pv settled
  settled : driver.Settled → next.Settled
  sent : ∀ datagram ∈ socket.sent, Says config sc.variant next.Settled datagram.bytes

theorem Honest.accept (h : driver.Honest config sc partner pv settled) (elapsed : UInt64) :
    (driver.accept elapsed).Honest config sc partner pv settled where
  config_eq := h.config_eq
  hello := h.hello
  follows := h.follows
  failed := h.failed
  stands hfailure := by
    obtain ⟨hsame, ⟨n, c, hattends, hreached⟩, hfinished⟩ := h.stands hfailure
    exact ⟨hsame, ⟨n, c, ⟨hattends.follows, hattends.history, hattends.final⟩, hreached⟩, hfinished⟩

/-- A driver with an honest partner stays one, and a step that newly fails has an excuse. -/
theorem Honest.step (h : driver.Honest config sc partner pv settled) (hid : sc.localPeer = config.id)
    (hpartner : partner.id = remoteId config.id) (hsmall : config.frameCount.toNat ≤ 256)
    (hfresh : socket.sent = [])
    (hheard : ∀ datagram, .ok (some datagram) ∈ socket.receiveResults →
      Says partner pv settled datagram.bytes) (elapsed : UInt64) :
    Outcome
      (fun _ s => Kept config sc partner pv settled driver s.1 s.2 ∧ s.1.failure = none)
      (fun e s => Kept config sc partner pv settled driver s.1 s.2 ∧
        (s.1 = driver ∧ (driver.failure = some e ∨ e = clockReversed elapsed) ∨
          s.1.failure = some e ∧ Excuse config sc partner pv driver.observation.phase socket e))
      (driver.step elapsed socket) := by
  have hstay : Kept config sc partner pv settled driver driver socket :=
    ⟨h, id, fun datagram hmem => by rw [hfresh] at hmem; cases hmem⟩
  rw [PeerDriver.step]
  cases hfailure : driver.failure with
  | some e => exact ⟨hstay, Or.inl ⟨rfl, Or.inl rfl⟩⟩
  | none =>
    dsimp only
    split
    · exact ⟨hstay, hfailure⟩
    next hunfinished =>
      split
      · exact ⟨hstay, Or.inl ⟨rfl, Or.inr rfl⟩⟩
      have hwork := work_honest (h.accept elapsed) hfailure hunfinished hid hpartner hsmall hfresh
        hheard elapsed
      rcases hcall : (driver.accept elapsed).work elapsed socket with ⟨e | _, next, rest⟩
      · obtain ⟨hconducted, hexcuse⟩ := hwork.of_error hcall
        refine ⟨⟨⟨hconducted.config_eq, ?_, hconducted.follows, fun _ => rfl,
          fun hnone => by cases hnone⟩, hconducted.settled, hconducted.sent⟩, Or.inr ⟨rfl, hexcuse⟩⟩
        rw [fail, hconducted.hello]
        exact h.hello
      · obtain ⟨hconducted, hstands⟩ := hwork.of_ok hcall
        have hnone : next.failure = none := hconducted.failure.trans hfailure
        refine ⟨⟨⟨hconducted.config_eq, ?_, hconducted.follows, fun hsome => ?_, fun _ =>
          ⟨hstands.same, hstands.attends, hstands.finished⟩⟩, hconducted.settled, hconducted.sent⟩,
          hnone⟩
        · rw [tick, hconducted.hello]
          exact h.hello
        · rw [tick, hnone] at hsome
          cases hsome

/-- A driver is honest from its creation on. -/
theorem create_honest {bound : Result Unit}
    (h : PeerDriver.create config (.create sc) bound = .ok driver)
    (hinitial : sc.initialState = makeInitialWorld) (hwindow : sc.maxRollbackFrames.toNat ≤ 120)
    (partner : PeerConfig) (pv : SimulationVariant) (settled : Prop) :
    driver.Honest config sc partner pv settled ∧ driver.failure = none ∧ sc.localPeer = config.id ∧
      config.frameCount.toNat ≤ 256 := by
  have hsmall := (create_phased (SessionRun.Reachable.start : SessionRun.Reachable sc _ _) h).small
  rw [create, failIf_bind_ok, bind_ok_iff] at h
  obtain ⟨hgood, -, -, h⟩ := h
  rw [bind_ok_iff] at h
  obtain ⟨hello, hhello, h⟩ := h
  cases h
  simp only [not_or, not_not] at hgood
  obtain ⟨hpositive, -, -, hid⟩ := hgood
  have hcount : config.frameCount.toNat ≠ 0 := fun h0 => hpositive (UInt32.toNat_inj.1 h0)
  have hfollows : Follows sc config.script config.frameCount.toNat 0 0 (.create sc) :=
    .start hinitial hwindow
  have hreached : PeerPhase.handshake.Reached 0 config.frameCount.toNat := Nat.pos_of_ne_zero hcount
  have hattends : Attends config sc pv settled 0 0
      { session := .create sc, desync := ⟨config.scenarioSeed, none⟩ } :=
    ⟨hfollows, rfl, fun hash hfinal => by cases hfinal⟩
  exact ⟨⟨rfl, hhello, ⟨0, 0, Nat.zero_le _, hfollows⟩, (fun hfailed => by cases hfailed),
    fun _ => ⟨fun hc => absurd rfl hc, ⟨0, 0, hattends, hreached⟩, fun hend => by cases hend⟩⟩,
    rfl, hid, hsmall⟩

/-- The driver that a creation leaves. -/
def fresh (config : PeerConfig) (sc : SessionConfig) : PeerDriver where
  config := config
  runtime := { session := .create sc, desync := ⟨config.scenarioSeed, none⟩ }
  hello := (helloPacket config).wireBytes

/-- A driver takes on any session of its peer that stands at the first frame. -/
theorem create_ok (hversion : config.protocolVersionOverride.toUInt32 = kProtocolVersion)
    (hcount : config.frameCount ≠ 0) (hlimit : config.frameCount ≤ 240) {session : RollbackSession}
    (hframe : session.state.frame.value = 0) (hid : session.config.localPeer = config.id) :
    PeerDriver.create config session (.ok ()) =
      .ok { config, runtime := { session, desync := ⟨config.scenarioSeed, none⟩ },
            hello := (helloPacket config).wireBytes } := by
  have hlimit' : ¬ (if config.engineAbiVersion ≠ 0 then 240 else 256) < config.frameCount := by
    rw [UInt32.not_lt]
    split
    · exact hlimit
    · exact UInt32.le_trans hlimit (by decide)
  have hhello : encodeHello config = .ok (helloPacket config).wireBytes := by
    rw [encodeHello, encodePacket_helloPacket]
    exact if_neg (not_not.2 hversion)
  rw [create, failIf_bind_ok, bind_ok_iff]
  refine ⟨?_, (), rfl, bind_ok_iff.2 ⟨_, hhello, rfl⟩⟩
  rintro (h | h | h | h)
  · exact hcount h
  · exact hlimit' h
  · exact h hframe
  · exact h hid

theorem create_fresh (hversion : config.protocolVersionOverride.toUInt32 = kProtocolVersion)
    (hcount : config.frameCount ≠ 0) (hlimit : config.frameCount ≤ 240)
    (hframe : sc.initialState.frame.value = 0) (hid : sc.localPeer = config.id) :
    PeerDriver.create config (.create sc) (.ok ()) = .ok (fresh config sc) :=
  create_ok hversion hcount hlimit hframe hid

end PeerDriver

end RollbackLab
