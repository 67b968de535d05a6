import RollbackLab.DecodeErrors
import RollbackLab.PeerPhases
import RollbackLab.ScriptedSession

/-!
# What peers say to each other

A peer that keeps to its script sends its hello, and input packets with inputs of the
script and hashes of the script's worlds. This file says what such bytes decode to.
-/

namespace RollbackLab

/-! ## Hellos -/

theorem helloPacket_encodable (config : PeerConfig) : (helloPacket config).Encodable where
  version := rfl
  type := rfl
  count := Nat.zero_le _
  hashCount := Nat.zero_le _
  hello := rfl
  bare _ := ⟨rfl, rfl⟩
  sender := nofun
  order := List.isChain_nil

theorem encodePacket_helloPacket (config : PeerConfig) :
    encodePacket (helloPacket config) = .ok (helloPacket config).wireBytes :=
  encodePacket_ok_iff.2 ⟨helloPacket_encodable config, rfl⟩

theorem length_helloPacket (config : PeerConfig) : (helloPacket config).wireBytes.length = 52 := by
  rw [Packet.length_wireBytes, Packet.length_payload]
  rfl

open LittleEndian in
/-- A hello starts with the magic number and the announced version. -/
theorem encodeHello_eq (config : PeerConfig) : ∃ rest, encodeHello config =
    .ok (encode kPacketMagic ++ (encode config.protocolVersionOverride ++ rest)) ∧ rest.length = 46 := by
  obtain ⟨rest, hrest⟩ : ∃ rest, (helloPacket config).wireBytes =
      encode kPacketMagic ++ (encode kProtocolVersion.toUInt16 ++ rest) :=
    ⟨_, by rw [Packet.wireBytes, Packet.body, PacketHeader.bytes, PacketHeader.front,
      List.append_assoc, List.append_assoc, List.append_assoc, List.append_assoc]; rfl⟩
  have hlength := length_helloPacket config
  rw [hrest, List.length_append, List.length_append, length_encode, length_encode] at hlength
  have hrestLength : rest.length = 46 := by
    simp only [FixedWidth.size] at hlength
    omega
  rw [encodeHello, encodePacket_helloPacket]
  dsimp only
  split
  next hversion =>
    have hpatch : ((ByteWriter.mk (helloPacket config).wireBytes).patchU16 4
        config.protocolVersionOverride).bytes =
          encode kPacketMagic ++ (encode config.protocolVersionOverride ++ rest) :=
      ByteWriter.bytes_patchU16 hrest _
    have htake : ∀ word : UInt16, (encode kPacketMagic ++ (encode word ++ rest)).take 48 =
        encode kPacketMagic ++ (encode word ++ rest.take 42) := fun word => rfl
    have hwhole : (encode kPacketMagic ++
        (encode config.protocolVersionOverride ++ rest)).length - 4 = 48 := by
      rw [List.length_append, List.length_append, length_encode, length_encode, hrestLength]
      rfl
    rw [hpatch, hwhole, htake]
    refine ⟨rest.take 42 ++ encode (crc32 (encode kPacketMagic ++
      (encode config.protocolVersionOverride ++ rest.take 42))), ?_, ?_⟩
    · rw [List.append_assoc, List.append_assoc]
    · rw [List.length_append, length_encode, List.length_take_of_le (by omega)]
      rfl
  next hversion =>
    refine ⟨rest, ?_, hrestLength⟩
    have hsame : config.protocolVersionOverride = kProtocolVersion.toUInt16 := by
      apply UInt16.toNat_inj.1
      have := congrArg UInt32.toNat (not_not.1 hversion)
      rwa [UInt16.toNat_toUInt32] at this
    rw [hrest, hsame]

theorem length_encodeHello {config : PeerConfig} {bytes : List UInt8}
    (h : encodeHello config = .ok bytes) : bytes.length = 52 := by
  obtain ⟨rest, hrest, hlength⟩ := encodeHello_eq config
  rw [hrest] at h
  cases h
  rw [List.length_append, List.length_append, LittleEndian.length_encode,
    LittleEndian.length_encode, hlength]
  rfl

theorem decodePacket_encodeHello_ok {config : PeerConfig}
    (hversion : config.protocolVersionOverride.toUInt32 = kProtocolVersion) {bytes : List UInt8}
    (hencode : encodeHello config = .ok bytes) : decodePacket bytes = .ok (helloPacket config) := by
  rw [encodeHello, encodePacket_helloPacket] at hencode
  dsimp only at hencode
  rw [if_neg (not_not.2 hversion)] at hencode
  cases hencode
  exact decodePacket_ok_iff.2 ⟨⟨helloPacket_encodable config, rfl⟩, nofun⟩

/-- Only a hello that announces the protocol can be decoded. -/
theorem decodePacket_encodeHello_version {config : PeerConfig} {bytes : List UInt8} {packet : Packet}
    (hencode : encodeHello config = .ok bytes) (hdecode : decodePacket bytes = .ok packet) :
    config.protocolVersionOverride.toUInt32 = kProtocolVersion := by
  obtain ⟨rest, hrest, -⟩ := encodeHello_eq config
  rw [hrest] at hencode
  cases hencode
  obtain ⟨⟨hencodable, hwire⟩, -⟩ := decodePacket_ok_iff.1 hdecode
  rw [Packet.wireBytes, Packet.body, PacketHeader.bytes, PacketHeader.front,
    List.append_assoc, List.append_assoc, List.append_assoc, List.append_assoc] at hwire
  have hword := (List.append_inj (List.append_inj hwire rfl).2 rfl).1
  have hsame := LittleEndian.encode_injective hword
  exact hsame ▸ hencodable.version

/-- A hello that can be decoded at all is the one that was meant. -/
theorem decodePacket_encodeHello {config : PeerConfig} {bytes : List UInt8} {packet : Packet}
    (hencode : encodeHello config = .ok bytes) (hdecode : decodePacket bytes = .ok packet) :
    packet = helloPacket config :=
  Except.ok.inj (hdecode.symm.trans
    (decodePacket_encodeHello_ok (decodePacket_encodeHello_version hencode hdecode) hencode))

/-! ## Input packets -/

/-- What has to be the same for two peers to play one match. -/
structure SameMatch (config partner : PeerConfig) : Prop where
  scenario : partner.scenarioSeed = config.scenarioSeed
  frames : partner.frameCount = config.frameCount
  digest : scenarioConfigDigest partner = scenarioConfigDigest config.expected

def PeerConfig.script (config : PeerConfig) : InputScript := .scripted config.scenarioSeed

/-- An input packet of a peer that keeps to its script. Only a settled peer has a hash of
the last boundary. -/
structure KeepsScript (config : PeerConfig) (variant : SimulationVariant) (settled : Prop)
    (packet : Packet) : Prop where
  type : packet.type = .input
  sender : packet.sender = config.id
  scenario : packet.scenarioId = config.scenarioSeed
  inputs : ∀ input ∈ packet.inputs, ∃ k < config.frameCount.toNat,
    input = config.script.input config.id ⟨UInt32.ofNat k⟩
  hashes : ∀ hash ∈ packet.confirmedHashes, ∃ k ≤ config.frameCount.toNat,
    hash.frame = ⟨UInt32.ofNat k⟩ ∧ hash.hash = hashCanonical (config.script.worldAt variant k) ∧
      (k = config.frameCount.toNat → settled)

/-- The bytes of a peer that keeps to its script. -/
def Says (config : PeerConfig) (variant : SimulationVariant) (settled : Prop) (bytes : List UInt8) :
    Prop :=
  encodeHello config = .ok bytes ∨
    ∃ packet, KeepsScript config variant settled packet ∧ decodePacket bytes = .ok packet

theorem KeepsScript.mono {config : PeerConfig} {variant : SimulationVariant} {settled settled' : Prop}
    {packet : Packet} (h : KeepsScript config variant settled packet) (hmono : settled → settled') :
    KeepsScript config variant settled' packet :=
  ⟨h.type, h.sender, h.scenario, h.inputs, fun hash hmem => by
    obtain ⟨k, hk, hframe, hhash, hlast⟩ := h.hashes hash hmem
    exact ⟨k, hk, hframe, hhash, fun he => hmono (hlast he)⟩⟩

theorem Says.mono {config : PeerConfig} {variant : SimulationVariant} {settled settled' : Prop}
    {bytes : List UInt8} (h : Says config variant settled bytes) (hmono : settled → settled') :
    Says config variant settled' bytes := by
  rcases h with hhello | ⟨packet, hpacket, hdecode⟩
  · exact Or.inl hhello
  · exact Or.inr ⟨packet, hpacket.mono hmono, hdecode⟩

theorem mem_hashesBack {session : RollbackSession} {confirmed : FrameNumber} {remaining offset : ℕ}
    {hash : ConfirmedHash} (h : hash ∈ hashesBack session confirmed remaining offset) :
    session.hashAt hash.frame = .ok hash.hash := by
  induction remaining generalizing offset with
  | zero => cases h
  | succ remaining ih =>
    rw [hashesBack] at h
    split at h
    · cases h
    next value hvalue =>
      rcases List.mem_cons.1 h with rfl | hrest
      · exact hvalue
      · exact ih hrest

theorem length_hashesBack_le (session : RollbackSession) (confirmed : FrameNumber)
    (remaining offset : ℕ) : (hashesBack session confirmed remaining offset).length ≤ remaining := by
  induction remaining generalizing offset with
  | zero => exact le_rfl
  | succ remaining ih =>
    rw [hashesBack]
    split
    · exact Nat.zero_le _
    · exact Nat.succ_le_succ (ih (offset + 1))

/-- The walk back goes one boundary at a time. -/
theorem hashesBack_chain (session : RollbackSession) (confirmed : FrameNumber)
    (remaining offset : ℕ) :
    (hashesBack session confirmed remaining offset).IsChain
        (fun hash next => frameBefore next.frame hash.frame = true) ∧
      ∀ hash ∈ (hashesBack session confirmed remaining offset).head?,
        hash.frame = ⟨confirmed.value - UInt32.ofNat offset⟩ := by
  induction remaining generalizing offset with
  | zero => exact ⟨List.isChain_nil, nofun⟩
  | succ remaining ih =>
    obtain ⟨hchain, hhead⟩ := ih (offset + 1)
    rw [hashesBack]
    split
    · exact ⟨List.isChain_nil, nofun⟩
    · refine ⟨List.isChain_cons.2 ⟨fun next hnext => ?_, hchain⟩, fun hash hmem => ?_⟩
      · rw [hhead next hnext]
        have hone : confirmed.value - UInt32.ofNat offset -
            (confirmed.value - UInt32.ofNat (offset + 1)) = 1 := by
          apply UInt32.toNat_inj.1
          have := confirmed.value.toNat_lt
          simp only [UInt32.toNat_sub, UInt32.toNat_ofNat', UInt32.toNat_one]
          omega
        simp only [frameBefore, hone]
        decide
      · cases hmem
        rfl

section Sending

variable {config : PeerConfig} {sc : SessionConfig} {n c : ℕ} {runtime : PeerRuntime}

theorem mem_inputWindow {history : List InputFrame} {input : InputFrame}
    (h : input ∈ inputWindow history) : input ∈ history := List.mem_of_mem_drop h

theorem length_inputWindow_le (history : List InputFrame) :
    (inputWindow history).length ≤ kMaxRedundantInputs := by
  rw [inputWindow, List.length_drop]
  omega

/-- The input packet of a session that follows the script keeps to it. -/
theorem inputPacket_keeps (h : Follows sc config.script config.frameCount.toNat n c runtime.session)
    (hlocals : runtime.localHistory = config.script.locals config.id n)
    (hn : n ≤ config.frameCount.toNat) (hsmall : config.frameCount.toNat ≤ 256) :
    KeepsScript config sc.variant (c = config.frameCount.toNat) (runtime.inputPacket config) where
  type := rfl
  sender := rfl
  scenario := rfl
  inputs input hmem := by
    have hinput := mem_inputWindow hmem
    rw [hlocals] at hinput
    obtain ⟨k, hk, rfl⟩ := List.mem_map.1 hinput
    exact ⟨k, lt_of_lt_of_le (List.mem_range.1 hk) hn, rfl⟩
  hashes hash hmem := by
    have hhash := mem_hashesBack (List.mem_reverse.1 hmem)
    obtain ⟨k, world, hk, hframe, hworld, hvalue, -⟩ := h.hashAt (by omega) hhash
    have hcn := h.confirmed_le
    rw [config.script.world_eq sc.variant (by omega)] at hworld
    cases hworld
    exact ⟨k, by omega, hframe, hvalue, fun he => by omega⟩

/-- A packet with the latest inputs of its sender and the hashes of a session. -/
theorem encodable_window {packet : Packet} {history : List InputFrame} {session : RollbackSession}
    (hversion : packet.protocolVersion = kProtocolVersion.toUInt16) (htype : packet.type = .input)
    (hhello : packet.hello = none) (hinputs : packet.inputs = inputWindow history)
    (hhashes : packet.confirmedHashes = confirmedHashWindow session)
    (hsender : ∀ input ∈ history, input.player = packet.sender) : packet.Encodable where
  version := by
    rw [hversion]
    rfl
  type := by
    rw [htype]
    rfl
  count := by
    rw [hinputs]
    exact length_inputWindow_le history
  hashCount := by
    rw [hhashes, confirmedHashWindow, List.length_reverse]
    exact length_hashesBack_le _ _ _ _
  hello := by
    rw [htype, hhello]
    rfl
  bare hhello := by
    rw [htype] at hhello
    cases hhello
  sender input hmem := by
    rw [hinputs] at hmem
    exact hsender input (mem_inputWindow hmem)
  order := by
    rw [hhashes]
    exact List.isChain_reverse.2 (hashesBack_chain _ _ _ _).1

theorem inputPacket_encodable (hlocals : runtime.localHistory = config.script.locals config.id n) :
    (runtime.inputPacket config).Encodable := by
  refine encodable_window rfl rfl rfl rfl rfl fun input hmem => ?_
  rw [hlocals] at hmem
  obtain ⟨k, -, rfl⟩ := List.mem_map.1 hmem
  exact config.script.player _ _

theorem inputPacket_said (h : Follows sc config.script config.frameCount.toNat n c runtime.session)
    (hlocals : runtime.localHistory = config.script.locals config.id n)
    (hn : n ≤ config.frameCount.toNat) (hsmall : config.frameCount.toNat ≤ 256) :
    encodePacket (runtime.inputPacket config) = .ok (runtime.inputPacket config).wireBytes ∧
      Says config sc.variant (c = config.frameCount.toNat) (runtime.inputPacket config).wireBytes := by
  have hencodable := inputPacket_encodable hlocals
  have hkeeps := inputPacket_keeps h hlocals hn hsmall
  refine ⟨encodePacket_ok_iff.2 ⟨hencodable, rfl⟩, Or.inr ⟨_, hkeeps, decodePacket_ok_iff.2
    ⟨⟨hencodable, rfl⟩, fun input hmem => ?_⟩⟩⟩
  obtain ⟨k, -, rfl⟩ := hkeeps.inputs input hmem
  exact scriptedInput_buttons _ _ _

theorem UdpSocket.sendLoopback_outcome {bytes : List UInt8} (hlength : bytes.length ≤ 65507)
    (socket : UdpSocket) (port : UInt16) :
    Outcome (fun _ s => s.receiveResults = socket.receiveResults ∧
        s.sent = socket.sent ++ [⟨bytes, port⟩] ∧ s.sendResults = socket.sendResults.tail)
      (fun e s => s.sent = socket.sent ∧ .error e ∈ socket.sendResults)
      (socket.sendLoopback port bytes) := by
  rw [UdpSocket.sendLoopback, if_neg (by omega)]
  cases hresults : socket.sendResults with
  | nil => exact ⟨rfl, rfl, rfl⟩
  | cons first rest =>
    cases first with
    | error e => exact ⟨rfl, List.mem_cons_self⟩
    | ok _ => exact ⟨rfl, rfl, rfl⟩

/-- Sending fails for the system only, and says what the script says. -/
theorem sendInputs_outcome (h : Follows sc config.script config.frameCount.toNat n c runtime.session)
    (hlocals : runtime.localHistory = config.script.locals config.id n)
    (hn : n ≤ config.frameCount.toNat) (hsmall : config.frameCount.toNat ≤ 256) (socket : UdpSocket) :
    Outcome
      (fun _ s => (∃ nextSequence metrics, s.1 = { runtime with nextSequence, metrics }) ∧
        s.2.receiveResults = socket.receiveResults ∧ ∃ datagram,
          Says config sc.variant (c = config.frameCount.toNat) datagram.bytes ∧
            s.2.sent = socket.sent ++ [datagram])
      (fun e s => (∃ nextSequence metrics, s.1 = { runtime with nextSequence, metrics }) ∧
        s.2.sent = socket.sent ∧ .error e ∈ socket.sendResults)
      (runtime.sendInputs config socket) := by
  obtain ⟨hencode, hheard⟩ := inputPacket_said h hlocals hn hsmall
  have hlength : (runtime.inputPacket config).wireBytes.length ≤ 65507 := by
    have hpayload := (inputPacket_encodable hlocals).length_payload_le
    rw [Packet.length_wireBytes]
    simp only [headerSize, checksumSize]
    omega
  have hsend := socket.sendLoopback_outcome hlength config.relayPort
  rw [PeerRuntime.sendInputs]
  dsimp only
  rw [hencode]
  dsimp only
  rcases hcall : socket.sendLoopback config.relayPort (runtime.inputPacket config).wireBytes with
    ⟨e | _, rest⟩
  · exact ⟨⟨_, _, rfl⟩, hsend.of_error hcall⟩
  · obtain ⟨hreceive, hsent, -⟩ := hsend.of_ok hcall
    exact ⟨⟨_, _, rfl⟩, hreceive, _, hheard, hsent⟩

end Sending

end RollbackLab
