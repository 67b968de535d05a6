import RollbackLab.PeerMessages

/-!
# Which peers greet each other

A hello carries the settings of its sender in clear and once more in a digest, which also
covers what is not sent: the transport seed and the profile of the engine. The bytes
that are digested tell all of these apart.
-/

namespace RollbackLab

open LittleEndian

namespace PeerConfig

/-- The version of the engine's interface that a peer announces. -/
def announcedAbi (config : PeerConfig) : UInt32 :=
  if config.advertisedAbiVersion ≠ 0 then config.advertisedAbiVersion else config.engineAbiVersion

/-- The part of the digested bytes that only peers of the engine write. -/
def profileBytes (config : PeerConfig) : List UInt8 :=
  engineProfile.flatMap encode ++ (encode config.announcedAbi ++
    (encode config.protocolVersionOverride ++ encode config.transportSeed))

/-- The part that every peer writes. -/
def settingBytes (config : PeerConfig) : List UInt8 :=
  encode config.scenarioSeed ++ (encode config.frameCount ++
    (encode config.simulationVersionOverride ++ encode kProtocolVersion))

def digestBytes (config : PeerConfig) : List UInt8 :=
  (if config.engineAbiVersion ≠ 0 then config.profileBytes else []) ++ config.settingBytes

theorem scenarioConfigDigest_eq (config : PeerConfig) :
    scenarioConfigDigest config = fnv1a64 config.digestBytes := by
  have hprofile : ∀ writer : ByteWriter,
      (engineProfile.foldl (fun bytes byte => bytes.appendLittleEndian byte) writer).bytes =
        writer.bytes ++ engineProfile.flatMap encode :=
    fun writer => ByteWriter.bytes_foldl (fun _ _ => rfl) writer engineProfile
  simp only [scenarioConfigDigest, digestBytes, profileBytes, settingBytes, announcedAbi]
  split
  · simp only [ByteWriter.bytes_appendLittleEndian, hprofile, List.append_assoc, List.nil_append]
  · simp only [ByteWriter.bytes_appendLittleEndian, List.append_assoc, List.nil_append]

theorem length_profileBytes (config : PeerConfig) : config.profileBytes.length = 39 := by
  have hprofile : (engineProfile.flatMap encode).length = 25 := by decide
  simp [profileBytes, hprofile, FixedWidth.size]

theorem length_settingBytes (config : PeerConfig) : config.settingBytes.length = 20 := by
  simp [settingBytes, FixedWidth.size]

variable {config partner : PeerConfig}

theorem profileBytes_inj : partner.profileBytes = config.profileBytes ↔
    partner.announcedAbi = config.announcedAbi ∧
      partner.protocolVersionOverride = config.protocolVersionOverride ∧
      partner.transportSeed = config.transportSeed := by
  simp only [profileBytes, List.append_cancel_left_eq, (fixedRecord_encode _).append_inj,
    encode_injective.eq_iff]

theorem settingBytes_inj : partner.settingBytes = config.settingBytes ↔
    partner.scenarioSeed = config.scenarioSeed ∧ partner.frameCount = config.frameCount ∧
      partner.simulationVersionOverride = config.simulationVersionOverride := by
  simp only [settingBytes, (fixedRecord_encode _).append_inj, and_true]

/-- The profile comes first and makes the bytes longer, so a peer of the engine never writes
what another peer does. -/
theorem digestBytes_inj : partner.digestBytes = config.digestBytes ↔
    partner.settingBytes = config.settingBytes ∧
      (partner.engineAbiVersion = 0 ∧ config.engineAbiVersion = 0 ∨
        (partner.engineAbiVersion ≠ 0 ∧ config.engineAbiVersion ≠ 0) ∧
          partner.profileBytes = config.profileBytes) := by
  have hne : ∀ left right : PeerConfig,
      left.settingBytes ≠ right.profileBytes ++ right.settingBytes := by
    intro left right heq
    have hlength := congrArg List.length heq
    rw [List.length_append, length_profileBytes, length_settingBytes, length_settingBytes] at hlength
    omega
  by_cases hp : partner.engineAbiVersion = 0
  · by_cases hc : config.engineAbiVersion = 0
    · simp [digestBytes, hp, hc]
    · simp [digestBytes, hp, hc, hne]
  · by_cases hc : config.engineAbiVersion = 0
    · simp [digestBytes, hp, hc, (hne config partner).symm]
    · simp only [digestBytes, hp, hc, ne_eq, not_false_eq_true, if_true, false_and, true_and, false_or]
      constructor
      · intro heq
        exact (List.append_inj heq (by rw [length_profileBytes, length_profileBytes])).symm
      · rintro ⟨hsettings, hprofile⟩
        rw [hsettings, hprofile]

theorem expected_announcedAbi (config : PeerConfig) :
    config.expected.announcedAbi = config.engineAbiVersion := ite_self _

end PeerConfig

/-- What has to agree for a peer to accept the hello of another one. -/
structure Matches (config partner : PeerConfig) : Prop where
  id : partner.id = remoteId config.id
  scenario : partner.scenarioSeed = config.scenarioSeed
  frames : partner.frameCount = config.frameCount
  simulation : partner.simulationVersionOverride = kSimulationVersion
  profile : config.engineAbiVersion = 0 ∧ partner.engineAbiVersion = 0 ∨
    (config.engineAbiVersion ≠ 0 ∧ partner.engineAbiVersion ≠ 0) ∧
      partner.transportSeed = config.transportSeed ∧ partner.protocolVersionOverride = 1 ∧
      partner.announcedAbi = config.engineAbiVersion

/-- A hello that carries the expected digest although other settings were digested. -/
def DigestsCollide (config partner : PeerConfig) : Prop :=
  partner.digestBytes ≠ config.expected.digestBytes ∧
    fnv1a64 partner.digestBytes = fnv1a64 config.expected.digestBytes

variable {config partner : PeerConfig}

/-- Peers of the engine and other peers turn each other down. -/
theorem Matches.same_profile (h : Matches config partner) :
    config.engineAbiVersion = 0 ↔ partner.engineAbiVersion = 0 := by
  rcases h.profile with ⟨hconfig, hpartner⟩ | ⟨⟨hconfig, hpartner⟩, -⟩
  · exact iff_of_true hconfig hpartner
  · exact iff_of_false hconfig hpartner

/-- The digested bytes are those expected exactly when everything but the ids agrees. -/
theorem digestBytes_expected_iff (hid : partner.id = remoteId config.id) :
    partner.digestBytes = config.expected.digestBytes ↔ Matches config partner := by
  rw [PeerConfig.digestBytes_inj, PeerConfig.settingBytes_inj, PeerConfig.profileBytes_inj,
    PeerConfig.expected_announcedAbi]
  constructor
  · rintro ⟨⟨hscenario, hframes, hsimulation⟩, hprofile⟩
    refine ⟨hid, hscenario, hframes, hsimulation, ?_⟩
    rcases hprofile with ⟨hpartner, hconfig⟩ | ⟨⟨hpartner, hconfig⟩, habi, hprotocol, hseed⟩
    · exact Or.inl ⟨hconfig, hpartner⟩
    · exact Or.inr ⟨⟨hconfig, hpartner⟩, hseed, hprotocol, habi⟩
  · rintro ⟨-, hscenario, hframes, hsimulation, hprofile⟩
    refine ⟨⟨hscenario, hframes, hsimulation⟩, ?_⟩
    rcases hprofile with ⟨hconfig, hpartner⟩ | ⟨⟨hconfig, hpartner⟩, hseed, hprotocol, habi⟩
    · exact Or.inl ⟨hpartner, hconfig⟩
    · exact Or.inr ⟨⟨hpartner, hconfig⟩, habi, hprotocol, hseed⟩

/-- Peers of the engine agree on the transport seed, unless their digests collide. -/
theorem digestsCollide (hid : partner.id = remoteId config.id) (hengine : config.engineAbiVersion ≠ 0)
    (hdigest : scenarioConfigDigest partner = scenarioConfigDigest config.expected)
    (htransport : partner.transportSeed ≠ config.transportSeed) : DigestsCollide config partner := by
  refine ⟨fun heq => ?_, ?_⟩
  · rcases ((digestBytes_expected_iff hid).1 heq).profile with ⟨hzero, -⟩ | ⟨-, hsame, -⟩
    · exact hengine hzero
    · exact htransport hsame
  · rw [← PeerConfig.scenarioConfigDigest_eq, ← PeerConfig.scenarioConfigDigest_eq]
    exact hdigest

/-- A hello is valid when its fields and its digest are the expected ones. -/
theorem validHello_helloPacket : validHello config (helloPacket partner) = .ok () ↔
    partner.id = remoteId config.id ∧ partner.scenarioSeed = config.scenarioSeed ∧
      partner.simulationVersionOverride = kSimulationVersion ∧
      partner.frameCount = config.frameCount ∧
      scenarioConfigDigest partner = scenarioConfigDigest config.expected := by
  simp only [validHello, helloPacket, ne_eq, not_true_eq_false, false_or]
  split
  next hidentity => exact iff_of_false (fun h => by cases h) (by tauto)
  next hidentity =>
    split
    next hsimulation => exact iff_of_false (fun h => by cases h) (by tauto)
    next hsimulation =>
      split
      next hsettings => exact iff_of_false (fun h => by cases h) (by tauto)
      next hsettings => exact iff_of_true rfl (by tauto)

theorem decodePacket_encodeHello_iff {bytes : List UInt8} (hencode : encodeHello partner = .ok bytes) :
    (∃ packet, decodePacket bytes = .ok packet) ↔ partner.protocolVersionOverride = 1 := by
  constructor
  · rintro ⟨packet, hdecode⟩
    have hversion := decodePacket_encodeHello_version hencode hdecode
    apply UInt16.toNat_inj.1
    rw [← UInt16.toNat_toUInt32, hversion]
    rfl
  · intro hversion
    exact ⟨_, decodePacket_encodeHello_ok (by rw [hversion]; rfl) hencode⟩

/-- A hello can be decoded exactly when it announces the protocol, and then it is accepted
exactly by the peers it matches, unless two digested byte strings collide. In particular
it takes two peers of the engine or two others. -/
theorem hello_accepted_iff (config partner : PeerConfig)
    (hcollision : fnv1a64 partner.digestBytes = fnv1a64 config.expected.digestBytes →
      partner.digestBytes = config.expected.digestBytes) :
    ∃ bytes, encodeHello partner = .ok bytes ∧
      ((∃ packet, decodePacket bytes = .ok packet) ↔ partner.protocolVersionOverride = 1) ∧
      ∀ packet, decodePacket bytes = .ok packet →
        (validHello config packet = .ok () ↔ Matches config partner) ∧
        (validHello config packet = .ok () →
          (config.engineAbiVersion = 0 ↔ partner.engineAbiVersion = 0)) := by
  obtain ⟨rest, hencode, -⟩ := encodeHello_eq partner
  refine ⟨_, hencode, decodePacket_encodeHello_iff hencode, fun packet hdecode => ?_⟩
  have haccepted : validHello config packet = .ok () ↔ Matches config partner := by
    rw [decodePacket_encodeHello hencode hdecode, validHello_helloPacket,
      PeerConfig.scenarioConfigDigest_eq, PeerConfig.scenarioConfigDigest_eq]
    constructor
    · rintro ⟨hid, -, -, -, hdigest⟩
      exact (digestBytes_expected_iff hid).1 (hcollision hdigest)
    · intro h
      exact ⟨h.id, h.scenario, h.simulation, h.frames,
        congrArg fnv1a64 ((digestBytes_expected_iff h.id).2 h)⟩
  exact ⟨haccepted, fun hvalid => (haccepted.1 hvalid).same_profile⟩

/-- A peer of the engine. -/
def enginePeer : PeerConfig where
  scenarioSeed := 12648430
  transportSeed := 5351397
  frameCount := 240
  engineAbiVersion := 3

/-- It accepts the peer with its own settings, and turns down one with another transport seed. -/
theorem hello_accepted_iff_engine :
    (∃ bytes packet, encodeHello { enginePeer with id := .b } = .ok bytes ∧
      decodePacket bytes = .ok packet ∧ validHello enginePeer packet = .ok ()) ∧
    ∃ bytes packet, encodeHello { enginePeer with id := .b, transportSeed := 1 } = .ok bytes ∧
      decodePacket bytes = .ok packet ∧ validHello enginePeer packet ≠ .ok () := by
  constructor
  · obtain ⟨bytes, hencode, hdecodes, haccepted⟩ :=
      hello_accepted_iff enginePeer { enginePeer with id := .b } fun _ => rfl
    obtain ⟨packet, hdecode⟩ := hdecodes.2 rfl
    exact ⟨bytes, packet, hencode, hdecode, (haccepted packet hdecode).1.2
      ⟨rfl, rfl, rfl, rfl, Or.inr ⟨⟨by decide, by decide⟩, rfl, rfl, rfl⟩⟩⟩
  · obtain ⟨bytes, hencode, hdecodes, haccepted⟩ :=
      hello_accepted_iff enginePeer { enginePeer with id := .b, transportSeed := 1 }
        fun hdigest => absurd hdigest (by decide +kernel)
    obtain ⟨packet, hdecode⟩ := hdecodes.2 rfl
    refine ⟨bytes, packet, hencode, hdecode, fun hvalid => ?_⟩
    rcases ((haccepted packet hdecode).1.1 hvalid).profile with ⟨hzero, -⟩ | ⟨-, hseed, -⟩
    · exact absurd hzero (by decide)
    · exact absurd hseed (by decide)

end RollbackLab
