import RollbackLab.PeerMessages

/-!
# A peer with an honest partner

While everything a driver hears was said by a partner that keeps to the script of the
same match, its session follows the script and what it sends keeps to it as well. Each
way in which a step can still fail is named.
-/

namespace RollbackLab

/-- A partner's hello is taken, if it arrives. -/
def Welcome (config partner : PeerConfig) : Prop :=
  ∀ bytes, encodeHello partner = .ok bytes →
    ∃ packet, decodePacket bytes = .ok packet ∧ validHello config packet = .ok ()

/-- Why a step with an honest partner may fail. -/
inductive Excuse (config : PeerConfig) (sc : SessionConfig) (partner : PeerConfig)
    (pv : SimulationVariant) (phase : PeerPhase) (socket : UdpSocket) (e : Error) : Prop
  | timeout (hcode : e.code = .timeout)
  | window (hcode : e.code = .rollbackWindowExceeded)
  | system (h : .error e ∈ socket.sendResults ∨ .error e ∈ socket.receiveResults)
  | source {datagram : Datagram} (hcode : e.code = .invalidArgument)
      (hmem : .ok (some datagram) ∈ socket.receiveResults)
      (hport : datagram.sourcePort ≠ config.relayPort)
  | hello (hcode : e.code ≠ .desync) (h : ¬ Welcome config partner)
  | early {datagram : Datagram} {packet : Packet} (hcode : e.code ≠ .desync)
      (hphase : phase = .handshake)
      (hhead : socket.receiveResults.head? = some (.ok (some datagram)))
      (hdecode : decodePacket datagram.bytes = .ok packet) (htype : packet.type = .input)
  | variant (hcode : e.code ≠ .desync) (h : sc.variant ≠ .canonical)
  | diverged (h : pv ≠ sc.variant)

theorem validHello_code_ne {config : PeerConfig} {packet : Packet} {e : Error}
    (h : validHello config packet = .error e) : e.code ≠ .desync := by
  rw [validHello] at h
  split at h
  · cases h
    simp
  · split at h
    · cases h
      simp
    · split at h
      · cases h
        simp
      · split at h
        · cases h
          simp
        · cases h

theorem decodePacket_code_ne {bytes : List UInt8} {e : Error} (h : decodePacket bytes = .error e) :
    e.code ≠ .desync := by
  have hmalformed := decodePacket_errors bytes e h
  intro he
  rw [he] at hmalformed
  revert hmalformed
  simp [Malformed]

section Receiving

variable {config partner : PeerConfig} {sc : SessionConfig} {pv : SimulationVariant} {settled : Prop}
  {n c : ℕ} {runtime : PeerRuntime}

/-- A runtime whose session follows the script, with the hash of the last boundary from a
settled partner only. -/
structure Attends (config : PeerConfig) (sc : SessionConfig) (pv : SimulationVariant)
    (settled : Prop) (n c : ℕ) (runtime : PeerRuntime) : Prop where
  follows : Follows sc config.script config.frameCount.toNat n c runtime.session
  history : runtime.localHistory = config.script.locals config.id n
  final : ∀ hash, runtime.remoteFinalHash = some hash →
    hash = hashCanonical (config.script.worldAt pv config.frameCount.toNat) ∧ settled

theorem ingestInputs_follows {session : RollbackSession}
    (h : Follows sc config.script config.frameCount.toNat n c session) {inputs : List InputFrame}
    (hsmall : config.frameCount.toNat ≤ 256)
    (hinputs : ∀ input ∈ inputs, ∃ k < config.frameCount.toNat,
      input = config.script.input sc.remotePeer ⟨UInt32.ofNat k⟩) :
    Outcome
      (fun _ next => ∃ c', c ≤ c' ∧ Follows sc config.script config.frameCount.toNat n c' next)
      (fun e next => (∃ c', c ≤ c' ∧ Follows sc config.script config.frameCount.toNat n c' next) ∧
        e.code = .rollbackWindowExceeded) (PeerRuntime.ingestInputs session inputs) := by
  induction inputs generalizing session c with
  | nil => exact ⟨c, le_rfl, h⟩
  | cons input inputs ih =>
    obtain ⟨k, hk, rfl⟩ := hinputs input List.mem_cons_self
    have hlimit : (UInt32.ofNat k).toNat < config.frameCount.toNat := by
      rwa [UInt32.toNat_ofNat_of_lt' (by simp only [UInt32.size]; omega)]
    rw [PeerRuntime.ingestInputs]
    rcases h.ingest (show (⟨UInt32.ofNat k⟩ : FrameNumber).value.toNat < _ from hlimit) with
      ⟨e, hrefused, hcode⟩ | ⟨next, c', hnext, hle, hfollows⟩
    · rw [hrefused]
      exact ⟨⟨c, le_rfl, h⟩, hcode⟩
    · rw [hnext]
      apply (ih hfollows fun input hmem => hinputs input (List.mem_cons_of_mem _ hmem)).mono
      · rintro _ last ⟨c'', hle', hlast⟩
        exact ⟨c'', hle.trans hle', hlast⟩
      · rintro e last ⟨⟨c'', hle', hlast⟩, hcode⟩
        exact ⟨⟨c'', hle.trans hle', hlast⟩, hcode⟩

/-- Two peers that simulate alike have the same hash wherever both have one. -/
theorem compareHash_attends (h : Attends config sc pv settled n c runtime) {remote : ConfirmedHash}
    (hn : n ≤ config.frameCount.toNat) (hsmall : config.frameCount.toNat ≤ 256)
    (hremote : ∃ k ≤ config.frameCount.toNat, remote.frame = ⟨UInt32.ofNat k⟩ ∧
      remote.hash = hashCanonical (config.script.worldAt pv k) ∧
        (k = config.frameCount.toNat → settled)) :
    Outcome (fun _ next => Attends config sc pv settled n c next)
      (fun _ next => Attends config sc pv settled n c next ∧ pv ≠ sc.variant)
      (runtime.compareHash config remote) := by
  obtain ⟨k, hk, hframe, hhash, hlast⟩ := hremote
  rw [PeerRuntime.compareHash]
  cases hlocal : runtime.session.hashAt remote.frame with
  | error e => exact h
  | ok loc =>
    obtain ⟨j, world, hj, hboundary, hworld, hvalue, -⟩ := h.follows.hashAt (by omega) hlocal
    have hjc := h.follows.confirmed_le
    rw [config.script.world_eq sc.variant (by omega)] at hworld
    cases hworld
    have hjk : j = k := by
      by_contra hne
      have hsame := congrArg FrameNumber.value (hboundary.symm.trans hframe)
      rcases Nat.lt_or_gt_of_ne hne with hlt | hgt
      · exact InputScript.ofNat_ne hlt (by omega) hsame.symm
      · exact InputScript.ofNat_ne hgt (by omega) hsame
    subst hjk
    dsimp only
    split
    next hdiffers =>
      have hdiverged : pv ≠ sc.variant := by
        rintro rfl
        exact hdiffers (hvalue.trans hhash.symm)
      split
      · exact ⟨h, hdiverged⟩
      · split
        · exact ⟨⟨h.follows, h.history, h.final⟩, hdiverged⟩
        · exact ⟨⟨h.follows, h.history, h.final⟩, hdiverged⟩
    next hagrees =>
      split
      next hfinal =>
        have hcount : j = config.frameCount.toNat := by
          have hsame : UInt32.ofNat j = config.frameCount :=
            congrArg FrameNumber.value (hframe.symm.trans hfinal)
          rw [← hsame, UInt32.toNat_ofNat_of_lt' (by simp only [UInt32.size]; omega)]
        refine ⟨h.follows, h.history, fun hash hsome => ?_⟩
        cases hsome
        exact ⟨hcount ▸ hhash, hlast hcount⟩
      next => exact h

theorem compareHashes_attends (h : Attends config sc pv settled n c runtime)
    {hashes : List ConfirmedHash} (hn : n ≤ config.frameCount.toNat)
    (hsmall : config.frameCount.toNat ≤ 256)
    (hhashes : ∀ remote ∈ hashes, ∃ k ≤ config.frameCount.toNat, remote.frame = ⟨UInt32.ofNat k⟩ ∧
      remote.hash = hashCanonical (config.script.worldAt pv k) ∧
        (k = config.frameCount.toNat → settled)) :
    Outcome (fun _ next => Attends config sc pv settled n c next)
      (fun _ next => Attends config sc pv settled n c next ∧ pv ≠ sc.variant)
      (runtime.compareHashes config hashes) := by
  induction hashes generalizing runtime with
  | nil => exact h
  | cons remote hashes ih =>
    have hone := compareHash_attends h hn hsmall (hhashes remote List.mem_cons_self)
    rw [PeerRuntime.compareHashes]
    rcases hcall : runtime.compareHash config remote with ⟨e | _, next⟩
    · exact hone.of_error hcall
    · exact ih (hone.of_ok hcall) fun r hmem => hhashes r (List.mem_cons_of_mem _ hmem)

/-- An input packet of an honest partner. -/
theorem receivePacket_attends (h : Attends config sc pv settled n c runtime)
    (hid : sc.localPeer = config.id) (hpartner : partner.id = remoteId config.id)
    (hsame : SameMatch config partner) (hn : n ≤ config.frameCount.toNat)
    (hsmall : config.frameCount.toNat ≤ 256) {packet : Packet}
    (hpacket : KeepsScript partner pv settled packet) :
    Outcome (fun _ next => ∃ c', c ≤ c' ∧ Attends config sc pv settled n c' next)
      (fun e next => (∃ c', c ≤ c' ∧ Attends config sc pv settled n c' next) ∧
        (e.code = .rollbackWindowExceeded ∨ pv ≠ sc.variant))
      (runtime.receivePacket config packet) := by
  have hscript : partner.script = config.script := by
    rw [PeerConfig.script, PeerConfig.script, hsame.scenario]
  have hremote : sc.remotePeer = partner.id := by
    rw [hpartner, SessionConfig.remotePeer, remoteId, hid]
  have hinputs : ∀ input ∈ packet.inputs, ∃ k < config.frameCount.toNat,
      input = config.script.input sc.remotePeer ⟨UInt32.ofNat k⟩ := by
    intro input hmem
    obtain ⟨k, hk, hinput⟩ := hpacket.inputs input hmem
    rw [hsame.frames] at hk
    rw [hscript, ← hremote] at hinput
    exact ⟨k, hk, hinput⟩
  have hhashes := hpacket.hashes
  rw [hscript, hsame.frames] at hhashes
  have htype := hpacket.type
  rw [PeerRuntime.receivePacket, if_neg, if_neg (by rw [htype]; decide), if_neg (not_not.2 htype)]
  · dsimp only
    split
    · exact ⟨c, le_rfl, h.follows, h.history, h.final⟩
    have htargets : PeerRuntime.checkTargets config packet.inputs = .ok () := by
      have hall : ∀ input ∈ packet.inputs,
          ¬ (config.engineAbiVersion ≠ 0 ∧ config.frameCount ≤ input.frame.value) := by
        rintro input hmem ⟨-, hle⟩
        obtain ⟨k, hk, rfl⟩ := hinputs input hmem
        rw [config.script.frame, UInt32.le_iff_toNat_le,
          UInt32.toNat_ofNat_of_lt' (by simp only [UInt32.size]; omega)] at hle
        omega
      have hchecks : (forM packet.inputs fun input => failIf
          (config.engineAbiVersion ≠ 0 ∧ config.frameCount ≤ input.frame.value)
          ⟨.frameMismatch, input.frame.value.toUInt64, 0, "udp_input_target"⟩) >>=
            (fun _ => (.ok () : Result Unit)) = .ok () := forM_failIf_bind_ok.2 ⟨hall, rfl⟩
      rw [PeerRuntime.checkTargets]
      obtain ⟨_, hdone, -⟩ := bind_ok_iff.1 hchecks
      exact hdone
    rw [PeerRuntime.receiveInputs, htargets]
    dsimp only
    have hingest := ingestInputs_follows h.follows hsmall hinputs
    rcases hcall : PeerRuntime.ingestInputs runtime.session packet.inputs with ⟨e | _, session⟩
    · obtain ⟨⟨c', hle, hfollows⟩, hcode⟩ := hingest.of_error hcall
      exact ⟨⟨c', hle, hfollows, h.history, h.final⟩, Or.inl hcode⟩
    obtain ⟨c', hle, hfollows⟩ := hingest.of_ok hcall
    obtain ⟨corrected, next, c'', hflush, hle', hfollows'⟩ := hfollows.flush
    have hcompare : ∀ runtime : PeerRuntime, Attends config sc pv settled n c'' runtime →
        Outcome (fun _ next => ∃ c', c ≤ c' ∧ Attends config sc pv settled n c' next)
          (fun e next => (∃ c', c ≤ c' ∧ Attends config sc pv settled n c' next) ∧
            (e.code = .rollbackWindowExceeded ∨ pv ≠ sc.variant))
          (runtime.compareHashes config packet.confirmedHashes) := by
      intro runtime hruntime
      apply (compareHashes_attends hruntime hn hsmall hhashes).mono
      · exact fun _ last hlast => ⟨c'', hle.trans hle', hlast⟩
      · exact fun e last hlast => ⟨⟨c'', hle.trans hle', hlast.1⟩, Or.inr hlast.2⟩
    dsimp only
    rw [hflush]
    dsimp only
    split
    · exact hcompare _ ⟨hfollows', h.history, h.final⟩
    · exact hcompare _ ⟨hfollows', h.history, h.final⟩
  · rw [hpacket.sender, hpacket.scenario, hpartner, hsame.scenario]
    simp

theorem decodeDatagram_relayed {config : PeerConfig} {datagram : Datagram}
    (h : ¬ (config.engineAbiVersion ≠ 0 ∧ datagram.sourcePort ≠ config.relayPort)) :
    decodeDatagram config datagram = decodePacket datagram.bytes := by
  rw [decodeDatagram, failIf, if_neg h]
  rfl

theorem decodeDatagram_foreign {config : PeerConfig} {datagram : Datagram}
    (h : config.engineAbiVersion ≠ 0 ∧ datagram.sourcePort ≠ config.relayPort) :
    decodeDatagram config datagram =
      .error ⟨.invalidArgument, datagram.sourcePort.toUInt64, 0, "udp_relay_source"⟩ := by
  rw [decodeDatagram, failIf, if_pos h]
  rfl

/-- A partner's hello is taken in whenever it is welcome. -/
theorem receiveDatagram_hello {datagram : Datagram}
    (hpartner : partner.id = remoteId config.id) (hsame : SameMatch config partner)
    (hhello : encodeHello partner = .ok datagram.bytes)
    (hrelayed : ¬ (config.engineAbiVersion ≠ 0 ∧ datagram.sourcePort ≠ config.relayPort)) :
    runtime.receiveDatagram config datagram = (.ok (), runtime) ∨
      ∃ e, runtime.receiveDatagram config datagram = (.error e, runtime) ∧ e.code ≠ .desync ∧
        ¬ Welcome config partner := by
  rw [PeerRuntime.receiveDatagram, decodeDatagram_relayed hrelayed]
  cases hdecode : decodePacket datagram.bytes with
  | error e =>
    refine Or.inr ⟨e, rfl, decodePacket_code_ne hdecode, fun hwelcome => ?_⟩
    obtain ⟨packet, hpacket, -⟩ := hwelcome _ hhello
    rw [hdecode] at hpacket
    cases hpacket
  | ok packet =>
    have hpacket := decodePacket_encodeHello hhello hdecode
    have hsender : ¬ (packet.sender ≠ remoteId config.id ∨ packet.scenarioId ≠ config.scenarioSeed) := by
      rw [hpacket, helloPacket, hpartner, hsame.scenario]
      simp
    dsimp only
    rw [PeerRuntime.receivePacket, if_neg hsender, if_pos (by rw [hpacket]; rfl)]
    cases hvalid : validHello config packet with
    | error e =>
      refine Or.inr ⟨e, rfl, validHello_code_ne hvalid, fun hwelcome => ?_⟩
      obtain ⟨packet', hpacket', hvalid'⟩ := hwelcome _ hhello
      cases hdecode.symm.trans hpacket'
      rw [hvalid] at hvalid'
      cases hvalid'
    | ok _ => exact Or.inl rfl

/-- Anything an honest partner has said. -/
theorem receiveDatagram_attends (h : Attends config sc pv settled n c runtime)
    (hid : sc.localPeer = config.id) (hpartner : partner.id = remoteId config.id)
    (hsame : SameMatch config partner) (hn : n ≤ config.frameCount.toNat)
    (hsmall : config.frameCount.toNat ≤ 256) (phase : PeerPhase) {socket : UdpSocket}
    {datagram : Datagram} (hmem : .ok (some datagram) ∈ socket.receiveResults)
    (hheard : Says partner pv settled datagram.bytes) :
    Outcome (fun _ next => ∃ c', c ≤ c' ∧ Attends config sc pv settled n c' next)
      (fun e next => (∃ c', c ≤ c' ∧ Attends config sc pv settled n c' next) ∧
        Excuse config sc partner pv phase socket e)
      (runtime.receiveDatagram config datagram) := by
  by_cases hsource : config.engineAbiVersion ≠ 0 ∧ datagram.sourcePort ≠ config.relayPort
  · rw [PeerRuntime.receiveDatagram, decodeDatagram_foreign hsource]
    exact ⟨⟨c, le_rfl, h⟩, .source rfl hmem hsource.2⟩
  rcases hheard with hhello | ⟨packet, hpacket, hdecode⟩
  · rcases receiveDatagram_hello hpartner hsame hhello hsource with
      htaken | ⟨e, hrefused, hcode, hunwelcome⟩
    · rw [htaken]
      exact ⟨c, le_rfl, h⟩
    · rw [hrefused]
      exact ⟨⟨c, le_rfl, h⟩, .hello hcode hunwelcome⟩
  · rw [PeerRuntime.receiveDatagram, decodeDatagram_relayed hsource, hdecode]
    apply (receivePacket_attends h hid hpartner hsame hn hsmall hpacket).mono
    · exact fun _ _ hnext => hnext
    · rintro e next ⟨hnext, hcode | hdiverged⟩
      · exact ⟨hnext, .window hcode⟩
      · exact ⟨hnext, .diverged hdiverged⟩

theorem drain_sendResults (config : PeerConfig) (runtime : PeerRuntime) (socket : UdpSocket)
    (rounds : ℕ) : (runtime.drain config socket rounds).2.2.sendResults = socket.sendResults := by
  induction rounds generalizing runtime socket with
  | zero => rfl
  | succ rounds ih =>
    rw [PeerRuntime.drain, PeerRuntime.receiveOne]
    rcases hanswer : socket.receive with ⟨e | _ | datagram, rest⟩
    · exact congrArg (fun s => s.2.sendResults) hanswer.symm
    · exact congrArg (fun s => s.2.sendResults) hanswer.symm
    · have hrest : rest.sendResults = socket.sendResults :=
        congrArg (fun s => s.2.sendResults) hanswer.symm
      dsimp only
      rcases runtime.receiveDatagram config datagram with ⟨e | _, next⟩
      · exact hrest
      · exact (ih next rest).trans hrest

theorem drain_attends (h : Attends config sc pv settled n c runtime)
    (hid : sc.localPeer = config.id) (hpartner : partner.id = remoteId config.id)
    (hsame : SameMatch config partner) (hn : n ≤ config.frameCount.toNat)
    (hsmall : config.frameCount.toNat ≤ 256) (phase : PeerPhase) {socket start : UdpSocket}
    (hresults : socket.receiveResults = start.receiveResults)
    (hheard : ∀ datagram, .ok (some datagram) ∈ start.receiveResults →
      Says partner pv settled datagram.bytes) (rounds : ℕ) :
    Outcome
      (fun _ s => (∃ c', c ≤ c' ∧ Attends config sc pv settled n c' s.1) ∧ s.2.sent = socket.sent)
      (fun e s => ((∃ c', c ≤ c' ∧ Attends config sc pv settled n c' s.1) ∧
        Excuse config sc partner pv phase start e) ∧ s.2.sent = socket.sent)
      (runtime.drain config socket rounds) := by
  apply PeerRuntime.drain_outcome (G := fun datagram => .ok (some datagram) ∈ start.receiveResults)
    (P := fun next => ∃ c', c ≤ c' ∧ Attends config sc pv settled n c' next)
    (Q := fun e next => (∃ c', c ≤ c' ∧ Attends config sc pv settled n c' next) ∧
      Excuse config sc partner pv phase start e)
  · rintro next datagram ⟨c', hle, hnext⟩ hmem
    apply (receiveDatagram_attends hnext hid hpartner hsame hn hsmall phase hmem
      (hheard datagram hmem)).mono
    · rintro _ last ⟨c'', hle', hlast⟩
      exact ⟨c'', hle.trans hle', hlast⟩
    · rintro e last ⟨⟨c'', hle', hlast⟩, hexcuse⟩
      exact ⟨⟨c'', hle.trans hle', hlast⟩, hexcuse⟩
  · exact fun e hmem next hnext => ⟨hnext, .system (Or.inr (hresults ▸ hmem))⟩
  · exact fun datagram hmem => hresults ▸ hmem
  · exact ⟨c, le_rfl, h⟩

/-! ## Artifacts -/

theorem checkpointed_iff {frameCount : UInt32} {k : ℕ} (hk : k < 2 ^ 32) :
    (UInt32.ofNat k % 30 = 0 ∨ UInt32.ofNat k = frameCount) ↔
      InputScript.checkpointed frameCount.toNat k = true := by
  have hvalue : (UInt32.ofNat k).toNat = k :=
    UInt32.toNat_ofNat_of_lt' (by simp only [UInt32.size]; omega)
  rw [InputScript.checkpointed, Bool.or_eq_true, beq_iff_eq, beq_iff_eq, ← UInt32.toNat_inj,
    ← UInt32.toNat_inj, UInt32.toNat_mod, hvalue]
  rfl

/-- The loop that builds a replay stays on the script. -/
theorem buildFrames_eq (hsmall : config.frameCount.toNat ≤ 256)
    (h : Follows sc config.script config.frameCount.toNat config.frameCount.toNat
      config.frameCount.toNat runtime.session) {replay : Replay}
    (hempty : replay.confirmedInputs = [] ∧ replay.checkpoints = []) {m : ℕ}
    (hm : m ≤ config.frameCount.toNat) :
    (List.range m).foldlM (buildFrame config runtime.session) (replay, makeInitialWorld) =
      .ok ({ replay with
              confirmedInputs := config.script.pairs m
              checkpoints := config.script.checkpointsFrom config.frameCount.toNat 1 m },
        config.script.worldAt .canonical m) := by
  induction m with
  | zero =>
    obtain ⟨hinputs, hcheckpoints⟩ := hempty
    change Except.ok (replay, makeInitialWorld) = _
    rw [show config.script.pairs 0 = replay.confirmedInputs from hinputs.symm,
      show config.script.checkpointsFrom _ 1 0 = replay.checkpoints from hcheckpoints.symm]
    rfl
  | succ m ih =>
    have hconfirmed := fun player =>
      h.confirmedInput (k := m) (by omega) (by omega) (by omega) player
    have hstep := config.script.simulateFrame_worldAt .canonical (n := m) (by omega)
    have hframe := config.script.worldAt_frame .canonical (n := m + 1) (by omega)
    rw [List.range_succ, List.foldlM_append, ih (by omega)]
    change (buildFrame config runtime.session (_, config.script.worldAt .canonical m) m >>= pure) = _
    rw [bind_pure, buildFrame]
    dsimp only
    rw [hconfirmed .a, hconfirmed .b]
    dsimp only
    change (simulateFrame _ _ (config.script.pair m) >>= _) = _
    rw [hstep]
    change (if _ then _ else _) = _
    rw [hframe, InputScript.checkpointsFrom_succ, InputScript.pairs_succ, Nat.add_comm 1 m]
    by_cases hat : InputScript.checkpointed config.frameCount.toNat (m + 1) = true
    · rw [if_pos ((checkpointed_iff (by omega)).2 hat), if_pos hat]
      simp only [InputScript.checkpoint, pure, Except.pure]
      rfl
    · rw [if_neg (fun hc => hat ((checkpointed_iff (by omega)).1 hc)), if_neg hat, List.append_nil]
      rfl

/-- The replay of a completely confirmed session is that of the script. -/
theorem buildReplay_eq (hsmall : config.frameCount.toNat ≤ 256)
    (h : Follows sc config.script config.frameCount.toNat config.frameCount.toNat
      config.frameCount.toNat runtime.session) :
    buildReplay config runtime.session =
      .ok (config.script.replay config.scenarioSeed config.transportSeed config.frameCount.toNat) := by
  rw [buildReplay]
  dsimp only
  rw [buildFrames_eq hsmall h ⟨rfl, rfl⟩ le_rfl]
  change Except.ok _ = _
  rw [InputScript.replay, UInt32.ofNat_toNat]

/-- What the artifacts of a finished peer tell, and why they can be trusted. -/
structure PeerArtifacts.Vouched (config : PeerConfig) (sc : SessionConfig) (pv : SimulationVariant)
    (artifacts : PeerArtifacts) : Prop where
  replay : artifacts.replay = (config.script.replay config.scenarioSeed config.transportSeed
    config.frameCount.toNat).wireBytes
  agreed : hashCanonical (config.script.worldAt sc.variant config.frameCount.toNat) =
    hashCanonical (config.script.worldAt pv config.frameCount.toNat)
  canonical : config.engineAbiVersion ≠ 0 →
    hashCanonical (config.script.worldAt sc.variant config.frameCount.toNat) =
      hashCanonical (config.script.worldAt .canonical config.frameCount.toNat)

theorem Follows.report_finalHash (h : Follows sc config.script config.frameCount.toNat
    config.frameCount.toNat config.frameCount.toNat runtime.session)
    (hsmall : config.frameCount.toNat ≤ 256) :
    runtime.session.report.finalHash =
      hashCanonical (config.script.worldAt sc.variant config.frameCount.toNat) := by
  have hworld := h.final
  rw [config.script.world_eq sc.variant (by omega)] at hworld
  rw [RollbackSession.report, Except.ok.inj hworld]

/-- Artifacts fail only where the canonical simulation and that of the two peers differ. -/
theorem buildArtifacts_cases (hsmall : config.frameCount.toNat ≤ 256)
    (h : Attends config sc pv settled config.frameCount.toNat config.frameCount.toNat runtime)
    {hash : StateHash} (hhash : runtime.remoteFinalHash = some hash) :
    (∃ artifacts, runtime.buildArtifacts config = .ok artifacts ∧ artifacts.Vouched config sc pv) ∨
      ∃ e, runtime.buildArtifacts config = .error e ∧ e.code = .replayMismatch ∧
        (sc.variant ≠ .canonical ∨ pv ≠ sc.variant) := by
  have hfinal := h.follows.report_finalHash hsmall
  have hremote := (h.final hash hhash).1
  have hconfirmed : runtime.session.report.metrics.confirmedFrame = ⟨config.frameCount⟩ := by
    have := h.follows.confirmedFrame_eq
    rwa [UInt32.ofNat_toNat] at this
  have hverify : verifyReplay (config.script.replay config.scenarioSeed config.transportSeed
      config.frameCount.toNat) = .ok _ := InputScript.verifyReplay_replay (by omega)
  have hencode : encodeReplay (config.script.replay config.scenarioSeed config.transportSeed
      config.frameCount.toNat) = .ok _ :=
    InputScript.encodeReplay_replay (by simp only [kMaxReplayFrames]; omega)
  have hsuccess : (runtime.buildReport config).success =
      (hash == hashCanonical (config.script.worldAt sc.variant config.frameCount.toNat)) := by
    rw [PeerRuntime.buildReport]
    dsimp only
    rw [hhash, hfinal, hconfirmed]
    by_cases hid : config.id = .a
    · simp [hid, Bool.beq_comm]
    · simp [hid]
  have hexpected : (config.script.replay config.scenarioSeed config.transportSeed
      config.frameCount.toNat).expectedFinalHash =
        hashCanonical (config.script.worldAt .canonical config.frameCount.toNat) := by
    rw [InputScript.replay]
  have hbuild : runtime.buildArtifacts config = (do
      failIf (config.engineAbiVersion ≠ 0 ∧ runtime.session.report.finalHash ≠
          (config.script.replay config.scenarioSeed config.transportSeed
            config.frameCount.toNat).expectedFinalHash)
        ⟨.replayMismatch, runtime.session.report.finalHash, config.frameCount.toNat,
          "udp_canonical_replay"⟩
      failIf (!(runtime.buildReport config).success)
        ⟨.replayMismatch, runtime.session.report.finalHash, config.frameCount.toNat,
          "udp_peer_artifacts"⟩
      pure ⟨some (runtime.buildReport config), (config.script.replay config.scenarioSeed
        config.transportSeed config.frameCount.toNat).wireBytes⟩) := by
    rw [PeerRuntime.buildArtifacts, buildReplay_eq hsmall h.follows]
    change (verifyReplay _ >>= fun _ => _) = _
    rw [hverify]
    change (encodeReplay _ >>= fun _ => _) = _
    rw [hencode]
    rfl
  rw [hbuild, hfinal, hexpected, hsuccess]
  by_cases hcanonical : config.engineAbiVersion ≠ 0 ∧
      hashCanonical (config.script.worldAt sc.variant config.frameCount.toNat) ≠
        hashCanonical (config.script.worldAt .canonical config.frameCount.toNat)
  · refine Or.inr ⟨_, by rw [failIf, if_pos hcanonical]; rfl, rfl, Or.inl fun he => ?_⟩
    exact hcanonical.2 (by rw [he])
  by_cases hagreed : hash = hashCanonical (config.script.worldAt sc.variant config.frameCount.toNat)
  · refine Or.inl ⟨_, by rw [failIf, if_neg hcanonical, failIf, if_neg (by simp [hagreed])]; rfl,
      rfl, hagreed.symm.trans hremote, fun hengine => ?_⟩
    by_contra hdiffers
    exact hcanonical ⟨hengine, hdiffers⟩
  · refine Or.inr ⟨_, by
      rw [failIf, if_neg hcanonical, failIf, if_pos (by simp [hagreed])]; rfl, rfl,
      Or.inr fun he => ?_⟩
    rw [← he] at hagreed
    exact hagreed hremote

end Receiving

end RollbackLab
