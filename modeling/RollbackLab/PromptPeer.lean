import RollbackLab.LiveMessages
import RollbackLab.PaidCorrections
import RollbackLab.PeerNetwork
import RollbackLab.TruthfulRun

/-!
# A driver with a prompt partner

While a driver is handed the latest packet of its partner before every step, it has heard
all that the partner has pressed: nothing is ever too old, and nothing is missing. So its
steps succeed, and once both have simulated the last frame the driver counts towards its
end.
-/

namespace RollbackLab

/-! ## What a partner has said -/

section Spoken

/-- An input packet of a peer: its place in the stream, and what it tells. -/
structure Utters (config : PeerConfig) (variant : SimulationVariant) (i m c : ℕ) (bytes : List UInt8) :
    Prop where
  decodes : ∃ packet, decodePacket bytes = .ok packet ∧ KeepsScript config variant True packet ∧
    Tells config.script variant config.id (UInt32.ofNat (i + 2)) m m c packet

/-- What a peer has said after `k` input packets, the last one with `m` inputs and `c` confirmed
frames. -/
structure Spoken (config : PeerConfig) (variant : SimulationVariant) (k m c : ℕ)
    (sent : List Datagram) : Prop where
  all : ∀ datagram ∈ sent, encodeHello config = .ok datagram.bytes ∨
    (∃ i m c, i + 1 < k ∧ Utters config variant i m c datagram.bytes) ∨
    ∃ i, i + 1 = k ∧ Utters config variant i m c datagram.bytes
  last : 0 < k → ∀ datagram, sent.getLast? = some datagram →
    ∃ i, i + 1 = k ∧ Utters config variant i m c datagram.bytes

variable {config : PeerConfig} {variant : SimulationVariant} {k m c : ℕ} {sent : List Datagram}

theorem not_utters_hello {i : ℕ} {bytes : List UInt8} (hhello : encodeHello config = .ok bytes) :
    ¬ Utters config variant i m c bytes := by
  rintro ⟨packet, hdecode, hkeeps, -⟩
  have htype := hkeeps.type
  rw [decodePacket_encodeHello hhello hdecode] at htype
  cases htype

theorem Utters.index_eq {i j m' c' : ℕ} {bytes : List UInt8}
    (hone : Utters config variant i m c bytes) (hother : Utters config variant j m' c' bytes)
    (hi : i < 2 ^ 30) (hj : j < 2 ^ 30) : i = j := by
  obtain ⟨packet, hdecode, -, htells⟩ := hone
  obtain ⟨other, hdecode', -, htells'⟩ := hother
  cases hdecode.symm.trans hdecode'
  have hsame := congrArg UInt32.toNat (htells.sequence_eq.symm.trans htells'.sequence_eq)
  simp only [UInt32.toNat_ofNat'] at hsame
  omega

theorem Spoken.nil : Spoken config variant 0 m c [] :=
  ⟨nofun, fun h => absurd h (lt_irrefl 0)⟩

theorem Spoken.known (h : Spoken config variant k m c sent) :
    ∀ datagram ∈ sent, encodeHello config = .ok datagram.bytes ∨
      ∃ i m c, i < k ∧ Utters config variant i m c datagram.bytes := by
  intro datagram hmem
  rcases h.all datagram hmem with hhello | ⟨i, m', c', hi, hutters⟩ | ⟨i, hi, hutters⟩
  · exact Or.inl hhello
  · exact Or.inr ⟨i, m', c', by omega, hutters⟩
  · exact Or.inr ⟨i, m, c, by omega, hutters⟩

/-- Another hello. -/
theorem Spoken.hello (h : Spoken config variant 0 m c sent) {datagram : Datagram}
    (hhello : encodeHello config = .ok datagram.bytes) :
    Spoken config variant 0 m c (sent ++ [datagram]) := by
  refine ⟨fun other hmem => ?_, fun h => absurd h (lt_irrefl 0)⟩
  rcases List.mem_append.1 hmem with hold | hnew
  · exact h.all other hold
  · rw [List.mem_singleton.1 hnew]
    exact Or.inl hhello

/-- Another input packet. -/
theorem Spoken.utter (h : Spoken config variant k m c sent) {m' c' : ℕ} {datagram : Datagram}
    (hutters : Utters config variant k m' c' datagram.bytes) :
    Spoken config variant (k + 1) m' c' (sent ++ [datagram]) := by
  refine ⟨fun other hmem => ?_, fun _ other hother => ?_⟩
  · rcases List.mem_append.1 hmem with hold | hnew
    · rcases h.all other hold with hhello | ⟨i, m, c, hi, hold⟩ | ⟨i, hi, hlast⟩
      · exact Or.inl hhello
      · exact Or.inr (Or.inl ⟨i, m, c, by omega, hold⟩)
      · exact Or.inr (Or.inl ⟨i, m, c, by omega, hlast⟩)
    · rw [List.mem_singleton.1 hnew]
      exact Or.inr (Or.inr ⟨k, rfl, hutters⟩)
  · rw [List.getLast?_append_of_ne_nil _ (List.cons_ne_nil _ _)] at hother
    cases hother
    exact ⟨k, rfl, hutters⟩

end Spoken

/-- A number of the history is dropped when it comes again. -/
theorem SequenceWindow.classify_known {history : List ℤ} {number : ℤ} (h : number ∈ history) :
    classify history number = .duplicate ∨ classify history number = .stale := by
  rw [classify]
  cases hmax : history.max? with
  | none =>
    rw [List.max?_eq_none_iff.1 hmax] at h
    cases h
  | some m =>
    have hle := (List.max?_eq_some_iff.1 hmax).2 number h
    dsimp only
    rw [if_neg (by omega)]
    split
    · exact Or.inr rfl
    · exact Or.inl rfl

/-- A number beyond the history is new. -/
theorem SequenceWindow.classify_new {history : List ℤ} {number : ℤ} (h : ∀ x ∈ history, x < number) :
    classify history number = .newest := by
  rw [classify]
  cases hmax : history.max? with
  | none => rfl
  | some m => exact if_pos (h m (List.max?_eq_some_iff.1 hmax).1)

/-- A driver and its partner, with equal settings and a window for the latest inputs. -/
structure Paired (config : PeerConfig) (sc : SessionConfig) (partner : PeerConfig) : Prop where
  localPeer : sc.localPeer = config.id
  partner_id : partner.id = remoteId config.id
  same : SameMatch config partner
  small : config.frameCount.toNat ≤ 256
  welcome : Welcome config partner
  canonical : sc.variant = .canonical
  wide : kMaxRedundantInputs ≤ sc.maxRollbackFrames.toNat

namespace PeerRuntime

/-- A runtime after `n` frames that has heard the first `h` inputs of its partner, in `s` packets. -/
structure Keen (config : PeerConfig) (sc : SessionConfig) (n c h s : ℕ) (runtime : PeerRuntime) :
    Prop where
  attends : Attends config sc sc.variant True n c runtime
  pays : Pays sc config.script config.frameCount.toNat n c (Finset.range h) runtime.session
  clean : runtime.session.earliestDirty = none
  window : ∃ history, SequenceWindow.Remembers history runtime.sequences ∧
    ∀ x, x ∈ history ↔ ∃ i < s, x = ((i + 2 : ℕ) : ℤ)

section Receiving

variable {config partner : PeerConfig} {sc : SessionConfig} {n c h s : ℕ} {runtime : PeerRuntime}

theorem Keen.start (hinitial : sc.initialState = makeInitialWorld)
    (hwindow : sc.maxRollbackFrames.toNat ≤ 120) :
    Keen config sc 0 0 0 0 { session := .create sc, desync := ⟨config.scenarioSeed, none⟩ } where
  attends := ⟨.start hinitial hwindow, rfl, nofun⟩
  pays := Pays.start hinitial hwindow
  clean := rfl
  window := ⟨[], .start, fun x => by simp⟩

/-- What has been heard without a gap is confirmed. -/
theorem Keen.le_confirmed (hkeen : Keen config sc n c h s runtime) {m : ℕ} (hn : m ≤ n) (hm : m ≤ h) :
    m ≤ c :=
  hkeen.pays.hears.le_confirmed hkeen.clean hn fun _ hk => Finset.mem_range.2 (hk.trans_le hm)

/-- The window after another number of the stream. -/
theorem Keen.observe (hkeen : Keen config sc n c h s runtime) {i : ℕ} (hi : i ≤ s) (hs : s < 2 ^ 30) :
    let observed := runtime.sequences.observe (UInt32.ofNat (i + 2))
    (observed.1 = .newest ∧ i = s ∨ (observed.1 = .duplicate ∨ observed.1 = .stale) ∧ i < s) ∧
      ∃ history, SequenceWindow.Remembers history observed.2 ∧
        ∀ x, x ∈ history ↔ ∃ j < max s (i + 1), x = ((j + 2 : ℕ) : ℤ) := by
  obtain ⟨history, hremembers, hhistory⟩ := hkeen.window
  have hbounds : ∀ x ∈ history ++ [((i + 2 : ℕ) : ℤ)], 0 ≤ x ∧ x < 2 ^ 31 := by
    intro x hx
    rcases List.mem_append.1 hx with hold | hnew
    · obtain ⟨j, hj, rfl⟩ := (hhistory x).1 hold
      omega
    · rw [List.mem_singleton.1 hnew]
      omega
  have hwrap : SequenceWindow.wrap ((i + 2 : ℕ) : ℤ) = UInt32.ofNat (i + 2) := by
    rw [SequenceWindow.wrap, UInt32.ofInt]
    congr 1
    omega
  obtain ⟨hclass, hnext⟩ := hremembers.observe (fun x hx y hy => by
    have hxs := hbounds x hx
    have hys := hbounds y hy
    omega)
  rw [hwrap] at hclass hnext
  intro observed
  refine ⟨?_, _, hnext, fun x => ?_⟩
  · rcases Nat.lt_or_ge i s with hlt | hge
    · rw [hclass]
      exact Or.inr ⟨SequenceWindow.classify_known ((hhistory _).2 ⟨i, hlt, rfl⟩), hlt⟩
    · refine Or.inl ⟨hclass.trans (SequenceWindow.classify_new fun x hx => ?_), by omega⟩
      obtain ⟨j, hj, rfl⟩ := (hhistory x).1 hx
      omega
  · rw [List.mem_append, List.mem_singleton, hhistory]
    constructor
    · rintro (⟨j, hj, rfl⟩ | rfl)
      · exact ⟨j, by omega, rfl⟩
      · exact ⟨i, by omega, rfl⟩
    · rintro ⟨j, hj, rfl⟩
      rcases Nat.lt_or_ge j s with hlt | hge
      · exact Or.inl ⟨j, hlt, rfl⟩
      · exact Or.inr (by omega)

/-! ## Taking a datagram -/

/-- The hash of a boundary that the session has is compared, and noted if it is the last one. -/
theorem compareHashes_final {hashes : List ConfirmedHash}
    (hagreed : ∀ remote ∈ hashes, ∀ hash, runtime.session.hashAt remote.frame = .ok hash →
      hash = remote.hash) :
    ∃ final, runtime.compareHashes config hashes = (.ok (), { runtime with remoteFinalHash := final }) ∧
      (runtime.remoteFinalHash.isSome = true → final.isSome = true) ∧
      ∀ remote ∈ hashes, remote.frame = ⟨config.frameCount⟩ →
        runtime.session.hashAt remote.frame = .ok remote.hash → final.isSome = true := by
  induction hashes generalizing runtime with
  | nil => exact ⟨runtime.remoteFinalHash, rfl, id, nofun⟩
  | cons remote hashes ih =>
    have hrest : ∀ final : Option StateHash, ∀ other ∈ hashes, ∀ hash,
        ({ runtime with remoteFinalHash := final } : PeerRuntime).session.hashAt other.frame =
          .ok hash → hash = other.hash :=
      fun final other hmem => hagreed other (List.mem_cons_of_mem _ hmem)
    have hstay := ih (hrest runtime.remoteFinalHash)
    rw [compareHashes, compareHash]
    cases hhash : runtime.session.hashAt remote.frame with
    | error e =>
      obtain ⟨final, hcall, hkept, hnoted⟩ := hstay
      refine ⟨final, hcall, hkept, fun other hmem hframe hother => ?_⟩
      rcases List.mem_cons.1 hmem with rfl | hmem
      · rw [hhash] at hother
        cases hother
      · exact hnoted other hmem hframe hother
    | ok hash =>
      dsimp only
      rw [if_neg (not_not.2 (hagreed remote List.mem_cons_self hash hhash))]
      by_cases hlast : remote.frame = ⟨config.frameCount⟩
      · rw [if_pos hlast]
        obtain ⟨final, hcall, hkept, -⟩ := ih (hrest (some remote.hash))
        exact ⟨final, hcall, fun _ => hkept rfl, fun _ _ _ _ => hkept rfl⟩
      · rw [if_neg hlast]
        obtain ⟨final, hcall, hkept, hnoted⟩ := hstay
        refine ⟨final, hcall, hkept, fun other hmem hframe hsame => ?_⟩
        rcases List.mem_cons.1 hmem with rfl | hmem
        · exact absurd hframe hlast
        · exact hnoted other hmem hframe hsame

theorem receive_hello (hpaired : Paired config sc partner) {datagram : Datagram}
    (hhello : encodeHello partner = .ok datagram.bytes)
    (hrelayed : datagram.sourcePort = config.relayPort) (runtime : PeerRuntime) :
    runtime.receiveDatagram config datagram = (.ok (), runtime) := by
  rcases receiveDatagram_hello hpaired.partner_id hpaired.same hhello (fun h => h.2 hrelayed) with
    htaken | ⟨e, -, -, hunwelcome⟩
  · exact htaken
  · exact absurd hpaired.welcome hunwelcome

/-- An input packet gets as far as its sequence number. -/
theorem receiveDatagram_utters (hpaired : Paired config sc partner) {datagram : Datagram}
    (hrelayed : datagram.sourcePort = config.relayPort) {packet : Packet}
    (hdecode : decodePacket datagram.bytes = .ok packet)
    (hkeeps : KeepsScript partner sc.variant True packet) (runtime : PeerRuntime) :
    runtime.receiveDatagram config datagram =
      let observed := runtime.sequences.observe packet.sequence
      if observed.1 = .duplicate ∨ observed.1 = .stale then
        (.ok (), { runtime with sequences := observed.2 })
      else
        ({ runtime with
          sequences := observed.2
          metrics := countDelivered runtime.metrics observed.1 } : PeerRuntime).receiveInputs
            config packet := by
  have hidentity : ¬ (packet.sender ≠ remoteId config.id ∨ packet.scenarioId ≠ config.scenarioSeed) := by
    rw [hkeeps.sender, hkeeps.scenario, hpaired.partner_id, hpaired.same.scenario]
    simp
  rw [receiveDatagram, decodeDatagram_relayed fun h => h.2 hrelayed, hdecode]
  dsimp only
  rw [receivePacket, if_neg hidentity, if_neg (by rw [hkeeps.type]; decide), if_neg (not_not.2 hkeeps.type)]

/-- A packet that has been heard changes nothing but what is known of its number. -/
theorem Keen.receive_known (hkeen : Keen config sc n c h s runtime) (hpaired : Paired config sc partner)
    {i m c' : ℕ} (hi : i < s) (hs : s < 2 ^ 30) {datagram : Datagram}
    (hutters : Utters partner sc.variant i m c' datagram.bytes)
    (hrelayed : datagram.sourcePort = config.relayPort) :
    ∃ next, runtime.receiveDatagram config datagram = (.ok (), next) ∧ Keen config sc n c h s next ∧
      next.remoteFinalHash = runtime.remoteFinalHash ∧ next.nextSequence = runtime.nextSequence := by
  obtain ⟨packet, hdecode, hkeeps, htells⟩ := hutters.decodes
  have hcall := receiveDatagram_utters hpaired hrelayed hdecode hkeeps runtime
  obtain ⟨hclass, history, hremembers, hhistory⟩ := hkeen.observe hi.le hs
  rw [htells.sequence_eq] at hcall
  obtain ⟨-, he⟩ | ⟨hknown, -⟩ := hclass
  · omega
  · rw [max_eq_left (by omega)] at hhistory
    dsimp only at hcall
    rw [if_pos hknown] at hcall
    exact ⟨_, hcall, ⟨⟨hkeen.attends.follows, hkeen.attends.history, hkeen.attends.final⟩, hkeen.pays,
      hkeen.clean, history, hremembers, hhistory⟩, rfl, rfl⟩

/-- Every input of a packet is inside the match. -/
theorem checkTargets_keeps (hpaired : Paired config sc partner) {packet : Packet}
    (hkeeps : KeepsScript partner sc.variant True packet) :
    checkTargets config packet.inputs = .ok () := by
  have hsmall := hpaired.small
  have hall : ∀ input ∈ packet.inputs,
      ¬ (config.engineAbiVersion ≠ 0 ∧ config.frameCount ≤ input.frame.value) := by
    rintro input hmem ⟨-, hle⟩
    obtain ⟨k, hk, rfl⟩ := hkeeps.inputs input hmem
    rw [hpaired.same.frames] at hk
    rw [partner.script.frame, UInt32.le_iff_toNat_le,
      UInt32.toNat_ofNat_of_lt' (by simp only [UInt32.size]; omega)] at hle
    omega
  have hchecks : (forM packet.inputs fun input => failIf
      (config.engineAbiVersion ≠ 0 ∧ config.frameCount ≤ input.frame.value)
      ⟨.frameMismatch, input.frame.value.toUInt64, 0, "udp_input_target"⟩) >>=
        (fun _ => (.ok () : Result Unit)) = .ok () := forM_failIf_bind_ok.2 ⟨hall, rfl⟩
  obtain ⟨_, hdone, -⟩ := bind_ok_iff.1 hchecks
  exact hdone

/-- The hashes of a partner agree with those that the session has. -/
theorem hashes_agree (hpaired : Paired config sc partner) {packet : Packet}
    (hkeeps : KeepsScript partner sc.variant True packet) {session : RollbackSession}
    (hfollows : Follows sc config.script config.frameCount.toNat n c session)
    (hn : n ≤ config.frameCount.toNat) :
    ∀ remote ∈ packet.confirmedHashes, ∀ hash, session.hashAt remote.frame = .ok hash →
      hash = remote.hash := by
  have hsmall := hpaired.small
  intro remote hmem hash hhash
  obtain ⟨k, hk, hframe, hvalue, -⟩ := hkeeps.hashes remote hmem
  rw [hpaired.same.frames] at hk
  obtain ⟨j, world, hj, hboundary, hworld, hlocal, -⟩ := hfollows.hashAt (by omega) hhash
  have hjc := hfollows.confirmed_le
  rw [config.script.world_eq sc.variant (by omega)] at hworld
  cases hworld
  have hjk : j = k := by
    have hsame := congrArg (fun frame => frame.value.toNat) (hboundary.symm.trans hframe)
    simp only [UInt32.toNat_ofNat'] at hsame
    omega
  have hscript : partner.script = config.script := by
    rw [PeerConfig.script, PeerConfig.script, hpaired.same.scenario]
  rw [hlocal, hvalue, hjk, hscript]

/-- Hearing on leaves no gap. -/
theorem heard_latest {h m : ℕ} (hle : h ≤ m) (hnear : m ≤ h + 32) :
    Finset.range h ∪ (LiveMatch.latest m).toFinset = Finset.range m := by
  ext k
  rw [Finset.mem_union, Finset.mem_range, Finset.mem_range, List.mem_toFinset, LiveMatch.mem_latest,
    Latest]
  omega

/-- The next packet of a partner that is at most one frame ahead: nothing in it is too old, and it
tells all that the partner has pressed. -/
theorem Keen.receive_new (hkeen : Keen config sc n c h s runtime) (hpaired : Paired config sc partner)
    {m c' : ℕ} (hn : n ≤ config.frameCount.toNat) (hm : m ≤ config.frameCount.toNat) (hhm : h ≤ m)
    (hmh : m ≤ h + 1) (hnm : n ≤ m) (hmn : m ≤ n + 1) (hs : s < 2 ^ 30) {datagram : Datagram}
    (hutters : Utters partner sc.variant s m c' datagram.bytes)
    (hrelayed : datagram.sourcePort = config.relayPort) :
    ∃ next d, runtime.receiveDatagram config datagram = (.ok (), next) ∧
      Keen config sc n d m (s + 1) next ∧ c ≤ d ∧ next.nextSequence = runtime.nextSequence ∧
      (runtime.remoteFinalHash.isSome = true → next.remoteFinalHash.isSome = true) ∧
      (c' = config.frameCount.toNat → d = config.frameCount.toNat →
        next.remoteFinalHash.isSome = true) := by
  have hsmall := hpaired.small
  have hwide := hpaired.wide
  rw [kMaxRedundantInputs] at hwide
  obtain ⟨packet, hdecode, hkeeps, htells⟩ := hutters.decodes
  have hcall := receiveDatagram_utters hpaired hrelayed hdecode hkeeps runtime
  obtain ⟨hclass, history, hremembers, hhistory⟩ := hkeen.observe le_rfl hs
  rw [htells.sequence_eq] at hcall
  obtain ⟨hnew, -⟩ | ⟨-, he⟩ := hclass
  swap
  · omega
  rw [max_eq_right (by omega)] at hhistory
  have hscript : partner.script = config.script := by
    rw [PeerConfig.script, PeerConfig.script, hpaired.same.scenario]
  have hremote : sc.remotePeer = partner.id := by
    rw [hpaired.partner_id, SessionConfig.remotePeer, remoteId, hpaired.localPeer]
  have hinputs : packet.inputs =
      (LiveMatch.latest m).map fun j => config.script.input sc.remotePeer ⟨UInt32.ofNat j⟩ := by
    rw [htells.inputs, LiveMatch.inputWindow_locals, hremote, hscript]
  have hlatest : ∀ j ∈ LiveMatch.latest m, j < m ∧ m ≤ j + 32 := fun j hj => LiveMatch.mem_latest.1 hj
  have hreached : ∀ j ∈ LiveMatch.latest m, j ≤ n ∧ j < config.frameCount.toNat := fun j hj => by
    have := hlatest j hj
    omega
  have hingest := hkeen.pays.ingestInputs (by omega) hreached
  dsimp only at hcall
  rw [if_neg (by rw [hnew]; decide), receiveInputs, checkTargets_keeps hpaired hkeeps] at hcall
  dsimp only at hcall
  rw [← hinputs] at hingest
  rcases hstored : ingestInputs runtime.session packet.inputs with ⟨e | _, session⟩
  · obtain ⟨-, j, hj, hfar⟩ := hingest.of_error hstored
    have := hlatest j hj
    omega
  obtain ⟨⟨d, hd, hpays⟩, -⟩ := hingest.of_ok hstored
  rw [heard_latest hhm (by omega)] at hpays
  obtain ⟨result, last, d', hflush, hd', hclean, hpays', -⟩ := hpays.flush (by omega)
  rw [hstored] at hcall
  dsimp only at hcall
  rw [hflush] at hcall
  dsimp only at hcall
  generalize hready : (if result.performed = true then _ else _ : PeerRuntime) = ready at hcall
  have hkept : ready.session = last ∧ ready.sequences = (runtime.sequences.observe (UInt32.ofNat (s + 2))).2 ∧
      ready.localHistory = runtime.localHistory ∧ ready.remoteFinalHash = runtime.remoteFinalHash ∧
      ready.nextSequence = runtime.nextSequence := by
    rw [← hready]
    split
    · exact ⟨rfl, rfl, rfl, rfl, rfl⟩
    · exact ⟨rfl, rfl, rfl, rfl, rfl⟩
  obtain ⟨hsession, hsequences, hlocals, hfinal, hnext⟩ := hkept
  have hfollows : Follows sc config.script config.frameCount.toNat n d' ready.session :=
    hsession ▸ hpays'.hears.follows
  have hattends : Attends config sc sc.variant True n d' ready :=
    ⟨hfollows, hlocals.trans hkeen.attends.history, fun hash hsome =>
      hkeen.attends.final hash (hfinal ▸ hsome)⟩
  obtain ⟨final, hcompare, hkept, hnoted⟩ :=
    @compareHashes_final config _ _ (hashes_agree hpaired hkeeps hfollows hn)
  have hhashes := hkeeps.hashes
  rw [hscript, hpaired.same.frames] at hhashes
  have hcompared := compareHashes_attends hattends hn hsmall hhashes
  rw [hcompare] at hcall
  refine ⟨_, d', hcall, ⟨hcompared.of_ok hcompare, hsession ▸ hpays', hsession ▸ hclean, history,
    hsequences ▸ hremembers, hhistory⟩, hd.trans hd', hnext, fun hsome => hkept (hfinal ▸ hsome),
    fun hsaid hdone => ?_⟩
  -- a partner that has confirmed the last frame tells its hash
  have hmem := htells.recent config.frameCount.toNat hsaid.ge (by omega) (by omega)
  have hhash := (hfollows.hashAt_recent (by omega) hdone.ge (by omega)).1
  rw [hscript] at hmem
  have hsome := hnoted _ hmem (by rw [UInt32.ofNat_toNat])
  dsimp only at hsome ⊢
  exact hsome hhash

end Receiving

end PeerRuntime

/-! ## Taking what is ready -/

/-- The datagrams that so many rounds take. -/
def UdpSocket.taken : ℕ → List (Result (Option Datagram)) → List Datagram
  | rounds + 1, .ok (some datagram) :: rest => datagram :: taken rounds rest
  | _, _ => []

namespace PeerRuntime

/-- A drain that takes the latest datagram gets from `P` to `Q`, and stays there. -/
theorem drain_taken {config : PeerConfig} {P Q : PeerRuntime → Prop} {G L : Datagram → Prop}
    (hbefore : ∀ runtime datagram, P runtime → G datagram → ∃ next,
      runtime.receiveDatagram config datagram = (.ok (), next) ∧ (Q next ∨ P next ∧ ¬ L datagram))
    (hafter : ∀ runtime datagram, Q runtime → G datagram → ∃ next,
      runtime.receiveDatagram config datagram = (.ok (), next) ∧ Q next)
    {socket : UdpSocket} (hanswers : ∀ answer ∈ socket.receiveResults,
      answer = .ok none ∨ ∃ datagram, answer = .ok (some datagram) ∧ G datagram)
    {runtime : PeerRuntime} (rounds : ℕ) (h : Q runtime ∨ P runtime ∧
      ∃ datagram ∈ UdpSocket.taken rounds socket.receiveResults, L datagram) :
    ∃ next rest, runtime.drain config socket rounds = (.ok (), next, rest) ∧ Q next ∧
      rest.sent = socket.sent ∧ rest.sendResults = socket.sendResults := by
  have hnothing : (∃ datagram ∈ ([] : List Datagram), L datagram) → False := by simp
  induction rounds generalizing runtime socket with
  | zero => exact ⟨runtime, socket, rfl, h.resolve_right fun h => hnothing h.2, rfl, rfl⟩
  | succ rounds ih =>
    rw [drain, receiveOne, UdpSocket.receive]
    cases hresults : socket.receiveResults with
    | nil =>
      rw [hresults] at h
      exact ⟨runtime, _, rfl, h.resolve_right fun h => hnothing h.2, rfl, rfl⟩
    | cons answer results =>
      rw [hresults] at h hanswers
      rcases hanswers answer List.mem_cons_self with rfl | ⟨datagram, rfl, hgood⟩
      · exact ⟨runtime, _, rfl, h.resolve_right fun h => hnothing h.2, rfl, rfl⟩
      · have hrest := fun other hmem => hanswers other (List.mem_cons_of_mem _ hmem)
        obtain ⟨next, hcall, hnext⟩ : ∃ next, runtime.receiveDatagram config datagram = (.ok (), next) ∧
            (Q next ∨ P next ∧ ∃ other ∈ UdpSocket.taken rounds results, L other) := by
          rcases h with hdone | ⟨hwaiting, other, hmem, hlatest⟩
          · obtain ⟨next, hcall, hnext⟩ := hafter runtime datagram hdone hgood
            exact ⟨next, hcall, Or.inl hnext⟩
          · obtain ⟨next, hcall, hnext | ⟨hnext, hother⟩⟩ := hbefore runtime datagram hwaiting hgood
            · exact ⟨next, hcall, Or.inl hnext⟩
            · rcases List.mem_cons.1 hmem with rfl | hmem
              · exact absurd hlatest hother
              · exact ⟨next, hcall, Or.inr ⟨hnext, other, hmem, hlatest⟩⟩
        rw [List.headD_cons, List.tail_cons]
        dsimp only
        rw [hcall]
        exact ih hrest hnext

section Draining

variable {config partner : PeerConfig} {sc : SessionConfig} {n c h s k m c' : ℕ} {runtime : PeerRuntime}
  {socket : UdpSocket}

/-- What the network may hand to a driver: copies of what its partner has sent. -/
def Copies (config : PeerConfig) (sent : List Datagram) (results : List (Result (Option Datagram))) :
    Prop :=
  ∀ answer ∈ results, answer = .ok none ∨ ∃ datagram, answer = .ok (some datagram) ∧
    datagram.sourcePort = config.relayPort ∧ ∃ other ∈ sent, datagram.bytes = other.bytes

/-- The last datagram of the partner is among those that are taken. -/
def TakesLast (sent : List Datagram) (results : List (Result (Option Datagram))) : Prop :=
  ∃ datagram ∈ UdpSocket.taken 64 results, ∃ other, sent.getLast? = some other ∧
    datagram.bytes = other.bytes

/-- What a driver of `n` frames that has heard `h` inputs in `s` packets is handed: its partner has
said `m` inputs in `k` packets, and is at most one frame ahead. -/
structure Ahead (config partner : PeerConfig) (variant : SimulationVariant) (n h s m c' k : ℕ)
    (results : List (Result (Option Datagram))) : Prop where
  spoken : ∃ sent, Spoken partner variant k m c' sent ∧ Copies config sent results ∧
    (s = k ∧ h = m ∨ (s + 1 = k ∧ h ≤ m ∧ m ≤ h + 1) ∧ TakesLast sent results)
  frames : n ≤ config.frameCount.toNat ∧ m ≤ config.frameCount.toNat
  ahead : n ≤ m ∧ m ≤ n + 1
  count : k < 2 ^ 30

/-- What a drain makes of a runtime once all that the partner has said is taken. -/
structure Caught (config : PeerConfig) (sc : SessionConfig) (n c m k : ℕ) (tells : Prop)
    (before : PeerRuntime) (d : ℕ) (next : PeerRuntime) : Prop where
  keen : Keen config sc n d m k next
  confirmed_le : c ≤ d
  sequence : next.nextSequence = before.nextSequence
  kept : before.remoteFinalHash.isSome = true → next.remoteFinalHash.isSome = true
  noted : tells → d = config.frameCount.toNat → next.remoteFinalHash.isSome = true

theorem Caught.receive {tells : Prop} {before : PeerRuntime} {d : ℕ}
    (hcaught : Caught config sc n c m k tells before d runtime) (hpaired : Paired config sc partner)
    {sent : List Datagram} (hspoken : Spoken partner sc.variant k m c' sent) (hk : k < 2 ^ 30)
    {datagram : Datagram} (hrelayed : datagram.sourcePort = config.relayPort) {other : Datagram} (hmem : other ∈ sent)
    (hbytes : datagram.bytes = other.bytes) :
    ∃ last, runtime.receiveDatagram config datagram = (.ok (), last) ∧
      Caught config sc n c m k tells before d last := by
  have hknown := hspoken.known other hmem
  rw [← hbytes] at hknown
  rcases hknown with hhello | ⟨i, m', c'', hi, hutters⟩
  · exact ⟨runtime, receive_hello hpaired hhello hrelayed runtime, hcaught⟩
  · obtain ⟨last, hcall, hlast, hfinal, hnumber⟩ :=
      hcaught.keen.receive_known hpaired hi hk hutters hrelayed
    exact ⟨last, hcall, hlast, hcaught.confirmed_le, hnumber.trans hcaught.sequence,
      fun hsome => hfinal ▸ hcaught.kept hsome, fun htells hd => hfinal ▸ hcaught.noted htells hd⟩

/-- A driver that takes the latest packet has heard all that its partner has said. -/
theorem Keen.drain (hkeen : Keen config sc n c h s runtime) (hpaired : Paired config sc partner)
    (hahead : Ahead config partner sc.variant n h s m c' k socket.receiveResults) :
    ∃ next d rest, runtime.drainAvailable config socket = (.ok (), next, rest) ∧
      Caught config sc n c m k (s + 1 = k ∧ c' = config.frameCount.toNat) runtime d next ∧
      rest.sent = socket.sent ∧ rest.sendResults = socket.sendResults := by
  suffices hdrain : ∃ next rest, runtime.drain config socket 64 = (.ok (), next, rest) ∧
      (∃ d, Caught config sc n c m k (s + 1 = k ∧ c' = config.frameCount.toNat) runtime d next) ∧
      rest.sent = socket.sent ∧ rest.sendResults = socket.sendResults by
    obtain ⟨next, rest, hcall, ⟨d, hcaught⟩, hrest⟩ := hdrain
    exact ⟨next, d, rest, hcall, hcaught, hrest⟩
  obtain ⟨⟨sent, hspoken, hcopies, hs⟩, ⟨hn, hm⟩, ⟨hnm, hmn⟩, hk⟩ := hahead
  have hafter : ∀ next datagram,
      (∃ d, Caught config sc n c m k (s + 1 = k ∧ c' = config.frameCount.toNat) runtime d next) →
      (datagram.sourcePort = config.relayPort ∧ ∃ other ∈ sent, datagram.bytes = other.bytes) →
      ∃ last, next.receiveDatagram config datagram = (.ok (), last) ∧
        ∃ d, Caught config sc n c m k (s + 1 = k ∧ c' = config.frameCount.toNat) runtime d last := by
    rintro next datagram ⟨d, hcaught⟩ ⟨hrelayed, other, hmem, hbytes⟩
    obtain ⟨last, hcall, hlast⟩ := hcaught.receive hpaired hspoken hk hrelayed hmem hbytes
    exact ⟨last, hcall, d, hlast⟩
  rcases hs with ⟨rfl, rfl⟩ | ⟨⟨rfl, hhm, hmh⟩, datagram, hmem, other, hother, hbytes⟩
  · exact drain_taken (P := fun _ => False) (L := fun _ => True) (fun _ _ h => h.elim) hafter
      hcopies 64 (Or.inl ⟨c, hkeen, le_rfl, rfl, id, fun htells => by omega⟩)
  · refine drain_taken (P := fun next => Keen config sc n c h s next ∧
        next.nextSequence = runtime.nextSequence ∧ next.remoteFinalHash = runtime.remoteFinalHash)
      (L := fun datagram => Utters partner sc.variant s m c' datagram.bytes)
      ?_ hafter hcopies 64 (Or.inr ⟨⟨hkeen, rfl, rfl⟩, datagram, hmem, ?_⟩)
    · rintro next datagram ⟨hnext, hsequence, hfinal⟩ ⟨hrelayed, other, hmem, hbytes⟩
      have hknown := hspoken.all other hmem
      rw [← hbytes] at hknown
      rcases hknown with hhello | ⟨i, m', c'', hi, hutters⟩ | ⟨i, hi, hutters⟩
      · exact ⟨next, receive_hello hpaired hhello hrelayed next,
          Or.inr ⟨⟨hnext, hsequence, hfinal⟩, not_utters_hello hhello⟩⟩
      · obtain ⟨last, hcall, hlast, hkept, hnumber⟩ :=
          hnext.receive_known hpaired (by omega) (by omega) hutters hrelayed
        refine ⟨last, hcall, Or.inr ⟨⟨hlast, hnumber.trans hsequence, hkept.trans hfinal⟩,
          fun hsame => ?_⟩⟩
        have := hutters.index_eq hsame (by omega) (by omega)
        omega
      · obtain rfl : i = s := by omega
        obtain ⟨last, d, hcall, hlast, hd, hnumber, hkept, hnoted⟩ :=
          hnext.receive_new hpaired hn hm hhm hmh hnm hmn (by omega) hutters hrelayed
        rw [hfinal] at hkept
        exact ⟨last, hcall, Or.inl ⟨d, hlast, hd, hnumber.trans hsequence, hkept,
          fun htells => hnoted htells.2⟩⟩
    · obtain ⟨i, hi, hutters⟩ := hspoken.last (Nat.succ_pos s) other hother
      obtain rfl : i = s := by omega
      rw [hbytes]
      exact hutters

/-! ## Sending -/

/-- What a driver sends tells all that it has pressed. -/
theorem Keen.sendInputs (hkeen : Keen config sc n c h s runtime) (hn : n ≤ config.frameCount.toNat)
    (hsmall : config.frameCount.toNat ≤ 256)
    (hnext : runtime.nextSequence = UInt32.ofNat (k + 2)) (hsends : ∀ e, .error e ∉ socket.sendResults) :
    ∃ metrics datagram rest, runtime.sendInputs config socket =
        (.ok (), { runtime with nextSequence := UInt32.ofNat (k + 3), metrics }, rest) ∧
      Utters config sc.variant k n c datagram.bytes ∧ rest.sent = socket.sent ++ [datagram] ∧
      rest.receiveResults = socket.receiveResults := by
  have hfollows := hkeen.attends.follows
  have hlocals := hkeen.attends.history
  have hencodable := inputPacket_encodable hlocals
  have hkeeps := inputPacket_keeps hfollows hlocals hn hsmall
  have htells := makePacket_tells hfollows (by omega) config.scenarioSeed runtime.nextSequence n
  have hlength : (runtime.inputPacket config).wireBytes.length ≤ 65507 := by
    have hpayload := hencodable.length_payload_le
    rw [Packet.length_wireBytes]
    simp only [headerSize, checksumSize]
    omega
  have hdecode : decodePacket (runtime.inputPacket config).wireBytes = .ok (runtime.inputPacket config) := by
    refine decodePacket_ok_iff.2 ⟨⟨hencodable, rfl⟩, fun input hmem => ?_⟩
    obtain ⟨j, -, rfl⟩ := hkeeps.inputs input hmem
    exact scriptedInput_buttons _ _ _
  have hsend := socket.sendLoopback_outcome hlength config.relayPort
  rw [PeerRuntime.sendInputs]
  dsimp only
  rw [encodePacket_ok_iff.2 ⟨hencodable, rfl⟩]
  dsimp only
  rcases hcall : socket.sendLoopback config.relayPort (runtime.inputPacket config).wireBytes with
    ⟨e | _, rest⟩
  · exact absurd (hsend.of_error hcall).2 (hsends e)
  · obtain ⟨hreceive, hsent, -⟩ := hsend.of_ok hcall
    have hnumber : runtime.nextSequence + 1 = UInt32.ofNat (k + 3) := by
      rw [hnext, ← UInt32.ofNat_one, ← UInt32.ofNat_add]
    have hutters : Utters config sc.variant k n c (runtime.inputPacket config).wireBytes := by
      refine ⟨_, hdecode, hkeeps.mono fun _ => trivial, hnext, ?_, htells.hashes, htells.recent⟩
      rw [PeerRuntime.inputPacket, hlocals]
    refine ⟨{ runtime.metrics with sentPackets := runtime.metrics.sentPackets + 1 },
      ⟨(runtime.inputPacket config).wireBytes, config.relayPort⟩, rest, ?_, hutters, hsent, hreceive⟩
    rw [hnumber]

end Draining

end PeerRuntime

end RollbackLab
