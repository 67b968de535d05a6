import RollbackLab.Bytes
import RollbackLab.Packet

/-!
# The packet codec

Encoding checks a packet and writes it out field by field; decoding checks the length
and the checksum of a byte string and reads the fields back. The two functions are
written independently of each other. Both are compared with `wireBytes`, the bytes
of a packet, and with `Encodable`, the packets that have any.
-/

namespace RollbackLab

open LittleEndian ByteReader

def headerSize : ℕ := 32
def checksumSize : ℕ := 4
def inputRecordSize : ℕ := 10
def hashRecordSize : ℕ := 12
def helloRecordSize : ℕ := 16

def validPacketType (type : PacketType) : Bool :=
  type == .hello || type == .input || type == .stateHash || type == .goodbye

def readChecksum (bytes : List UInt8) : UInt32 :=
  decode (bytes.drop (bytes.length - checksumSize))

def decodeError (code : ErrorCode) (offset : ℕ) (context : String) (detail : UInt64) : Error :=
  ⟨code, detail, offset, context⟩

def writeInput (writer : ByteWriter) (input : InputFrame) : ByteWriter :=
  (((writer.appendLittleEndian input.frame.value).appendLittleEndian
    input.player.byte).appendLittleEndian input.buttons).appendLittleEndian input.sequence

def writeHash (writer : ByteWriter) (hash : ConfirmedHash) : ByteWriter :=
  (writer.appendLittleEndian hash.frame.value).appendLittleEndian hash.hash

def writeHello (writer : ByteWriter) (hello : HelloInfo) : ByteWriter :=
  ((writer.appendLittleEndian hello.simulationVersion).appendLittleEndian
    hello.scenarioConfigDigest).appendLittleEndian hello.targetFrame

/-- The header with a payload length of zero, to be patched. -/
def writeHeader (packet : Packet) : ByteWriter :=
  let writer : ByteWriter := {}
  let writer := writer.appendLittleEndian kPacketMagic
  let writer := writer.appendLittleEndian packet.protocolVersion
  let writer := writer.appendLittleEndian packet.type.value
  let writer := writer.appendLittleEndian packet.sender.byte
  let writer := writer.appendLittleEndian packet.sequence
  let writer := writer.appendLittleEndian packet.ack
  let writer := writer.appendLittleEndian packet.scenarioId
  let writer := writer.appendLittleEndian packet.confirmedFrame.value
  let writer := writer.appendLittleEndian (UInt8.ofNat packet.inputs.length)
  let writer := writer.appendLittleEndian (UInt8.ofNat packet.confirmedHashes.length)
  writer.appendLittleEndian (0 : UInt16)

def payloadLengthOffset : ℕ := 30

def writePayload (writer : ByteWriter) (packet : Packet) : ByteWriter :=
  let writer := packet.inputs.foldl writeInput writer
  let writer := packet.confirmedHashes.foldl writeHash writer
  packet.hello.elim writer (writeHello writer)

def encodePacket (packet : Packet) : Result (List UInt8) := do
  failIf (packet.protocolVersion.toUInt32 ≠ kProtocolVersion)
    ⟨.unsupportedVersion, packet.protocolVersion.toUInt64, 4, "protocol_version"⟩
  failIf (¬validPacketType packet.type)
    ⟨.unknownPacketType, packet.type.value.toUInt64, 6, "packet_type"⟩
  failIf (kMaxRedundantInputs < packet.inputs.length)
    ⟨.capacityExceeded, UInt64.ofNat packet.inputs.length, 28, "input_count"⟩
  failIf (kMaxConfirmedHashes < packet.confirmedHashes.length)
    ⟨.capacityExceeded, UInt64.ofNat packet.confirmedHashes.length, 29, "hash_count"⟩
  failIf ((packet.type == .hello) ≠ packet.hello.isSome ∨
      packet.type = .hello ∧ (packet.inputs ≠ [] ∨ packet.confirmedHashes ≠ []))
    ⟨.invalidArgument, packet.type.value.toUInt64, 0, "hello_payload"⟩
  forM packet.inputs fun input =>
    failIf (input.player ≠ packet.sender)
      ⟨.invalidArgument, input.player.byte.toUInt64, 0, "input_sender"⟩
  forM (packet.confirmedHashes.zip packet.confirmedHashes.tail) fun hashes =>
    failIf (¬frameBefore hashes.1.frame hashes.2.frame)
      ⟨.invalidArgument, hashes.2.frame.value.toUInt64, 0, "hash_order"⟩
  let writer := writeHeader packet
  let payloadStart := writer.size
  let writer := writePayload writer packet
  let payloadSize := writer.size - payloadStart
  failIf (65535 < payloadSize)
    ⟨.invalidLength, UInt64.ofNat payloadSize, payloadLengthOffset, "payload_length"⟩
  let writer := writer.patchU16 payloadLengthOffset (UInt16.ofNat payloadSize)
  let writer := writer.appendLittleEndian (crc32 writer.bytes)
  failIf (kMaxPacketBytes < writer.size)
    ⟨.invalidLength, UInt64.ofNat writer.size, 0, "packet_size"⟩
  pure writer.bytes

/-- What the header of a packet holds. -/
structure PacketHeader where
  version : UInt16
  type : PacketType
  sender : UInt8
  sequence : UInt32
  ack : UInt32
  scenario : UInt64
  confirmed : UInt32
  count : UInt8
  hashCount : UInt8
  payloadLength : UInt16

def decodeHeader (reader : ByteReader) : Result (PacketHeader × ByteReader) := do
  let (magic, reader) := reader.readLittleEndian UInt32 "magic"
  failIf (magic.toOption.all (· ≠ kPacketMagic))
    (decodeError .invalidMagic 0 "magic" (magic.toOption.getD 0).toUInt64)
  let (version, reader) := reader.readLittleEndian UInt16 "version"
  failIf (version.toOption.all (·.toUInt32 ≠ kProtocolVersion))
    (decodeError .unsupportedVersion 4 "version" (version.toOption.getD 0).toUInt64)
  let (typeByte, reader) := reader.readLittleEndian UInt8 "type"
  let typeByte ← typeByte.mapError fun error => decodeError error.code error.offset error.context 0
  failIf (¬validPacketType ⟨typeByte⟩) (decodeError .unknownPacketType 6 "type" typeByte.toUInt64)
  let (senderByte, reader) := reader.readLittleEndian UInt8 "sender"
  failIf (senderByte.toOption.all (1 < ·))
    (decodeError .invalidArgument 7 "sender" (senderByte.toOption.getD 0).toUInt64)
  let (sequence, reader) := reader.readLittleEndian UInt32 "sequence"
  let (ack, reader) := reader.readLittleEndian UInt32 "ack"
  let (scenario, reader) := reader.readLittleEndian UInt64 "scenario"
  let (confirmed, reader) := reader.readLittleEndian UInt32 "confirmed_frame"
  let (count, reader) := reader.readLittleEndian UInt8 "input_count"
  let (hashCount, reader) := reader.readLittleEndian UInt8 "hash_count"
  let (payloadLength, reader) := reader.readLittleEndian UInt16 "payload_length"
  match version, senderByte, sequence, ack, scenario, confirmed, count, hashCount, payloadLength with
  | .ok version, .ok sender, .ok sequence, .ok ack, .ok scenario, .ok confirmed, .ok count,
      .ok hashCount, .ok payloadLength =>
    pure ({ version, type := ⟨typeByte⟩, sender, sequence, ack, scenario, confirmed, count,
            hashCount, payloadLength }, reader)
  | _, _, _, _, _, _, _, _, _ => throw (decodeError .truncatedData reader.offset "header" 0)

def PlayerId.ofByte (byte : UInt8) : PlayerId := if byte = 0 then .a else .b

def decodeInput (sender : UInt8) (reader : ByteReader) : Result (InputFrame × ByteReader) := do
  let (frame, reader) := reader.readLittleEndian UInt32 "input_frame"
  let (player, reader) := reader.readLittleEndian UInt8 "input_player"
  let (buttons, reader) := reader.readLittleEndian UInt8 "buttons"
  let (inputSequence, reader) := reader.readLittleEndian UInt32 "input_sequence"
  match frame, player, buttons, inputSequence with
  | .ok frame, .ok player, .ok buttons, .ok inputSequence =>
    failIf (player ≠ sender ∨ buttons &&& 0xE0 ≠ 0)
      (decodeError .invalidArgument (reader.offset - inputRecordSize) "input_record" 0)
    pure (⟨⟨frame⟩, .ofByte player, inputSequence, buttons⟩, reader)
  | _, _, _, _ => throw (decodeError .truncatedData reader.offset "input_record" 0)

def decodeInputs (sender : UInt8) : ℕ → ByteReader → Result (List InputFrame × ByteReader) :=
  decodeRecords (fun _ => decodeInput sender) (fun _ _ => ()) ()

/-- The first hash has no previous one to follow. -/
def decodeHash (previous : Option FrameNumber) (reader : ByteReader) :
    Result (ConfirmedHash × ByteReader) := do
  let (hashFrame, reader) := reader.readLittleEndian UInt32 "hash_frame"
  let (hash, reader) := reader.readLittleEndian UInt64 "hash"
  match hashFrame, hash with
  | .ok hashFrame, .ok hash =>
    failIf (previous.any (!frameBefore · ⟨hashFrame⟩))
      (decodeError .invalidArgument (reader.offset - hashRecordSize) "hash_order" hashFrame.toUInt64)
    pure (⟨⟨hashFrame⟩, hash⟩, reader)
  | _, _ => throw (decodeError .truncatedData reader.offset "confirmed_hash" 0)

def decodeHashes : ℕ → ByteReader → Result (List ConfirmedHash × ByteReader) :=
  decodeRecords decodeHash (fun _ hash => some hash.frame) none

def decodeHello (header : PacketHeader) (reader : ByteReader) :
    Result (Option HelloInfo × ByteReader) := do
  if header.type = .hello then
    failIf (header.count ≠ 0 ∨ header.hashCount ≠ 0)
      (decodeError .invalidArgument headerSize "hello_payload" 0)
    let (simulationVersion, reader) := reader.readLittleEndian UInt32 "simulation_version"
    let (digest, reader) := reader.readLittleEndian UInt64 "scenario_config_digest"
    let (target, reader) := reader.readLittleEndian UInt32 "target_frame"
    match simulationVersion, digest, target with
    | .ok simulationVersion, .ok digest, .ok target =>
      pure (some ⟨simulationVersion, digest, target⟩, reader)
    | _, _, _ => throw (decodeError .truncatedData reader.offset "hello_payload" 0)
  else pure (none, reader)

def decodePacket (bytes : List UInt8) : Result Packet := do
  failIf (bytes.length < headerSize + checksumSize)
    (decodeError .truncatedData bytes.length "packet" 0)
  failIf (kMaxPacketBytes < bytes.length)
    (decodeError .invalidLength 0 "packet_size" (UInt64.ofNat bytes.length))
  let storedChecksum := readChecksum bytes
  let computedChecksum := crc32 (bytes.take (bytes.length - checksumSize))
  failIf (storedChecksum ≠ computedChecksum)
    (decodeError .integrityMismatch (bytes.length - checksumSize) "crc32" storedChecksum.toUInt64)
  let (header, reader) ← decodeHeader ⟨bytes.take (bytes.length - checksumSize), 0⟩
  failIf (kMaxRedundantInputs < header.count.toNat)
    (decodeError .capacityExceeded 28 "input_count" header.count.toUInt64)
  failIf (kMaxConfirmedHashes < header.hashCount.toNat)
    (decodeError .capacityExceeded 29 "hash_count" header.hashCount.toUInt64)
  let expectedPayload := header.count.toNat * inputRecordSize +
    header.hashCount.toNat * hashRecordSize +
    (if header.type = .hello then helloRecordSize else 0)
  failIf (header.payloadLength.toNat ≠ expectedPayload ∨
      headerSize + expectedPayload + checksumSize ≠ bytes.length)
    (decodeError .invalidLength payloadLengthOffset "payload_length" header.payloadLength.toUInt64)
  let (inputs, reader) ← decodeInputs header.sender header.count.toNat reader
  let (confirmedHashes, reader) ← decodeHashes header.hashCount.toNat reader
  let (hello, reader) ← decodeHello header reader
  failIf (reader.remaining ≠ 0)
    (decodeError .invalidLength reader.offset "trailing_payload" (UInt64.ofNat reader.remaining))
  pure
    { protocolVersion := header.version
      type := header.type
      sender := .ofByte header.sender
      sequence := header.sequence
      ack := header.ack
      scenarioId := header.scenario
      confirmedFrame := ⟨header.confirmed⟩
      inputs
      confirmedHashes
      hello }

def inputBytes (input : InputFrame) : List UInt8 :=
  encode input.frame.value ++
    (encode input.player.byte ++ (encode input.buttons ++ encode input.sequence))

def hashBytes (hash : ConfirmedHash) : List UInt8 := encode hash.frame.value ++ encode hash.hash

def helloBytes (hello : HelloInfo) : List UInt8 :=
  encode hello.simulationVersion ++ (encode hello.scenarioConfigDigest ++ encode hello.targetFrame)

/-- The bytes of a header up to its payload length. -/
def PacketHeader.front (header : PacketHeader) : List UInt8 :=
  encode kPacketMagic ++ (encode header.version ++ (encode header.type.value ++
    (encode header.sender ++ (encode header.sequence ++ (encode header.ack ++
      (encode header.scenario ++ (encode header.confirmed ++ (encode header.count ++
        encode header.hashCount))))))))

def PacketHeader.bytes (header : PacketHeader) : List UInt8 :=
  header.front ++ encode header.payloadLength

namespace Packet

variable {packet : Packet}

def payload (packet : Packet) : List UInt8 :=
  packet.inputs.flatMap inputBytes ++
    (packet.confirmedHashes.flatMap hashBytes ++ packet.hello.elim [] helloBytes)

def header (packet : Packet) : PacketHeader where
  version := packet.protocolVersion
  type := packet.type
  sender := packet.sender.byte
  sequence := packet.sequence
  ack := packet.ack
  scenario := packet.scenarioId
  confirmed := packet.confirmedFrame.value
  count := UInt8.ofNat packet.inputs.length
  hashCount := UInt8.ofNat packet.confirmedHashes.length
  payloadLength := UInt16.ofNat packet.payload.length

/-- The bytes the checksum covers. -/
def body (packet : Packet) : List UInt8 := packet.header.bytes ++ packet.payload

def wireBytes (packet : Packet) : List UInt8 := packet.body ++ encode (crc32 packet.body)

/-- The packets that can be written out. -/
structure Encodable (packet : Packet) : Prop where
  version : packet.protocolVersion.toUInt32 = kProtocolVersion
  type : validPacketType packet.type = true
  count : packet.inputs.length ≤ kMaxRedundantInputs
  hashCount : packet.confirmedHashes.length ≤ kMaxConfirmedHashes
  hello : packet.hello.isSome = (packet.type == .hello)
  bare : packet.type = .hello → packet.inputs = [] ∧ packet.confirmedHashes = []
  sender : ∀ input ∈ packet.inputs, input.player = packet.sender
  order : packet.confirmedHashes.IsChain fun hash next => frameBefore hash.frame next.frame = true

end Packet

@[simp] theorem length_inputBytes (input : InputFrame) :
    (inputBytes input).length = inputRecordSize := by
  simp [inputBytes, inputRecordSize, FixedWidth.size]

@[simp] theorem length_hashBytes (hash : ConfirmedHash) :
    (hashBytes hash).length = hashRecordSize := by
  simp [hashBytes, hashRecordSize, FixedWidth.size]

@[simp] theorem length_helloBytes (hello : HelloInfo) :
    (helloBytes hello).length = helloRecordSize := by
  simp [helloBytes, helloRecordSize, FixedWidth.size]

@[simp] theorem PacketHeader.length_front (header : PacketHeader) :
    header.front.length = payloadLengthOffset := by
  simp [PacketHeader.front, payloadLengthOffset, FixedWidth.size]

@[simp] theorem PacketHeader.length_bytes (header : PacketHeader) :
    header.bytes.length = headerSize := by
  simp [PacketHeader.bytes, headerSize, payloadLengthOffset, FixedWidth.size]

theorem bytes_writeInput (writer : ByteWriter) (input : InputFrame) :
    (writeInput writer input).bytes = writer.bytes ++ inputBytes input := by
  simp [writeInput, inputBytes]

theorem bytes_writeHash (writer : ByteWriter) (hash : ConfirmedHash) :
    (writeHash writer hash).bytes = writer.bytes ++ hashBytes hash := by
  simp [writeHash, hashBytes]

theorem bytes_writeHello (writer : ByteWriter) (hello : Option HelloInfo) :
    (hello.elim writer (writeHello writer)).bytes = writer.bytes ++ hello.elim [] helloBytes := by
  cases hello with
  | none => simp
  | some hello => simp [writeHello, helloBytes]

theorem bytes_writeHeader (packet : Packet) :
    (writeHeader packet).bytes = packet.header.front ++ encode (0 : UInt16) := by
  simp [writeHeader, PacketHeader.front, Packet.header]

/-- The checks over consecutive elements of a list say that it is a chain. -/
theorem forall_zip_tail_iff_isChain {α : Type} {R : α → α → Prop} (xs : List α) :
    (∀ pair ∈ xs.zip xs.tail, R pair.1 pair.2) ↔ xs.IsChain R := by
  induction xs with
  | nil => simp
  | cons x xs ih =>
    cases xs with
    | nil => simp
    | cons y xs =>
      rw [List.tail_cons, List.zip_cons_cons, List.forall_mem_cons, List.isChain_cons_cons]
      exact and_congr_right fun _ => ih

namespace Packet

variable {packet : Packet}

theorem length_payload (packet : Packet) : packet.payload.length =
    packet.inputs.length * inputRecordSize + packet.confirmedHashes.length * hashRecordSize +
      (if packet.hello.isSome then helloRecordSize else 0) := by
  have hrecords : ∀ {α : Type} (record : α → List UInt8) (size : ℕ),
      (∀ x, (record x).length = size) → ∀ xs : List α, (xs.flatMap record).length = xs.length * size := by
    intro α record size h xs
    simp [List.length_flatMap, h]
  rw [payload, List.length_append, List.length_append, hrecords _ _ length_inputBytes,
    hrecords _ _ length_hashBytes, Nat.add_assoc]
  cases packet.hello with
  | none => simp
  | some hello => simp

theorem Encodable.length_payload_le (h : packet.Encodable) : packet.payload.length ≤ 720 := by
  have hcount := h.count
  have hhashes := h.hashCount
  rw [length_payload]
  simp only [kMaxRedundantInputs, kMaxConfirmedHashes, inputRecordSize, hashRecordSize,
    helloRecordSize] at *
  split <;> omega

theorem length_wireBytes (packet : Packet) :
    packet.wireBytes.length = headerSize + packet.payload.length + checksumSize := by
  simp [wireBytes, body, checksumSize, FixedWidth.size, Nat.add_assoc]

end Packet

theorem bytes_writePayload (packet : Packet) : (writePayload (writeHeader packet) packet).bytes =
    packet.header.front ++ (encode (0 : UInt16) ++ packet.payload) := by
  simp only [writePayload, bytes_writeHello, ByteWriter.bytes_foldl bytes_writeHash,
    ByteWriter.bytes_foldl bytes_writeInput, bytes_writeHeader, Packet.payload, List.append_assoc]

theorem size_writePayload (packet : Packet) :
    (writePayload (writeHeader packet) packet).size - (writeHeader packet).size = packet.payload.length := by
  simp only [ByteWriter.size, bytes_writePayload, bytes_writeHeader, List.length_append]
  omega

theorem bytes_patched (packet : Packet) :
    ((writePayload (writeHeader packet) packet).patchU16 payloadLengthOffset
      (UInt16.ofNat packet.payload.length)).bytes = packet.body := by
  have hpatch := ByteWriter.bytes_patchU16 (bytes_writePayload packet)
    (UInt16.ofNat packet.payload.length)
  rw [PacketHeader.length_front] at hpatch
  rw [hpatch, Packet.body, PacketHeader.bytes, List.append_assoc]
  rfl

/-- Encoding gives the wire bytes of the packets that have any. -/
theorem encodePacket_ok_iff {packet : Packet} {bytes : List UInt8} :
    encodePacket packet = .ok bytes ↔ packet.Encodable ∧ packet.wireBytes = bytes := by
  have hbytes : (((writePayload (writeHeader packet) packet).patchU16 payloadLengthOffset
      (UInt16.ofNat packet.payload.length)).appendLittleEndian (crc32 packet.body)).bytes =
        packet.wireBytes := by
    rw [ByteWriter.bytes_appendLittleEndian, bytes_patched, Packet.wireBytes]
  have hsize : (((writePayload (writeHeader packet) packet).patchU16 payloadLengthOffset
      (UInt16.ofNat packet.payload.length)).appendLittleEndian (crc32 packet.body)).size =
        headerSize + packet.payload.length + checksumSize := by
    rw [ByteWriter.size, hbytes, Packet.length_wireBytes]
  simp only [encodePacket, failIf_bind_ok, forM_failIf_bind_ok, size_writePayload, bytes_patched,
    hsize, hbytes]
  simp only [not_not, ne_eq, not_or, not_and, not_lt, pure, Except.pure, Except.ok.injEq,
    forall_zip_tail_iff_isChain (R := fun hash next : ConfirmedHash =>
      frameBefore hash.frame next.frame = true)]
  constructor
  · rintro ⟨hversion, htype, hcount, hhashes, ⟨hhello, hbare⟩, hsender, horder, -, -, hwire⟩
    exact ⟨⟨hversion, htype, hcount, hhashes, hhello.symm, hbare, hsender, horder⟩, hwire⟩
  · rintro ⟨h, hwire⟩
    have hpayload := h.length_payload_le
    refine ⟨h.version, h.type, h.count, h.hashCount, ⟨h.hello.symm, h.bare⟩, h.sender, h.order,
      by omega, ?_, hwire⟩
    simp only [headerSize, checksumSize, kMaxPacketBytes]
    omega

variable {reader after : ByteReader}

@[simp] theorem PlayerId.byte_ofByte {byte : UInt8} (h : byte ≤ 1) :
    (PlayerId.ofByte byte).byte = byte := by
  have hcases : byte = 0 ∨ byte = 1 := by
    rw [UInt8.le_iff_toNat_le] at h
    have hone : (1 : UInt8).toNat = 1 := rfl
    rw [← UInt8.toNat_inj, ← UInt8.toNat_inj, UInt8.toNat_zero, hone]
    omega
  rcases hcases with rfl | rfl
  · rfl
  · rfl

@[simp] theorem PlayerId.ofByte_byte (player : PlayerId) : PlayerId.ofByte player.byte = player := by
  cases player with
  | a => rfl
  | b => rfl

theorem PlayerId.byte_le (player : PlayerId) : player.byte ≤ 1 := by
  cases player with
  | a => decide
  | b => decide

theorem decodeInput_ok_iff {sender : UInt8} {input : InputFrame} (hsender : sender ≤ 1) :
    decodeInput sender reader = .ok (input, after) ↔ (input.player.byte = sender ∧
      input.buttons &&& 0xE0 = 0) ∧ Reads reader (inputBytes input) after := by
  constructor
  · intro h
    rw [decodeInput] at h
    rcases hframe : reader.readLittleEndian UInt32 "input_frame" with ⟨frame, r₁⟩
    rcases hplayer : r₁.readLittleEndian UInt8 "input_player" with ⟨player, r₂⟩
    rcases hbuttons : r₂.readLittleEndian UInt8 "buttons" with ⟨buttons, r₃⟩
    rcases hsequence : r₃.readLittleEndian UInt32 "input_sequence" with ⟨sequence, r₄⟩
    simp only [hframe, hplayer, hbuttons, hsequence] at h
    split at h
    · rw [readLittleEndian_ok_iff] at hframe hplayer hbuttons hsequence
      simp only [failIf_bind_ok, not_or, not_not, ne_eq, pure, Except.pure, Except.ok.injEq,
        Prod.mk.injEq] at h
      obtain ⟨⟨rfl, hmask⟩, rfl, rfl⟩ := h
      rw [inputBytes, PlayerId.byte_ofByte hsender]
      exact ⟨⟨rfl, hmask⟩, hframe.trans (hplayer.trans (hbuttons.trans hsequence))⟩
    · cases h
  · rintro ⟨⟨rfl, hmask⟩, hreads⟩
    obtain ⟨r₁, hframe, hreads⟩ := hreads.next "input_frame"
    obtain ⟨r₂, hread, hreads⟩ := hreads.next "input_player"
    obtain ⟨r₃, hbuttons, hreads⟩ := hreads.next "buttons"
    have hsequence := hreads.last "input_sequence"
    simp [decodeInput, hframe, hread, hbuttons, hsequence, failIf_bind_ok, hmask, pure, Except.pure]

theorem decodeInputs_ok_iff {sender : UInt8} {count : ℕ} {inputs : List InputFrame}
    (hsender : sender ≤ 1) :
    decodeInputs sender count reader = .ok (inputs, after) ↔ inputs.length = count ∧
      (∀ input ∈ inputs, input.player.byte = sender ∧ input.buttons &&& 0xE0 = 0) ∧
        Reads reader (inputs.flatMap inputBytes) after := by
  rw [decodeInputs, decodeRecords_ok_iff fun _ _ _ _ => decodeInput_ok_iff hsender, goodRecords_const]

theorem decodeHash_ok_iff {previous : Option FrameNumber} {hash : ConfirmedHash} :
    decodeHash previous reader = .ok (hash, after) ↔
      (∀ frame ∈ previous, frameBefore frame hash.frame = true) ∧
        Reads reader (hashBytes hash) after := by
  have hfollows : ∀ frame : FrameNumber, ¬previous.any (!frameBefore · frame) = true ↔
      ∀ earlier ∈ previous, frameBefore earlier frame = true := by
    intro frame
    cases previous with
    | none => simp
    | some earlier => simp
  constructor
  · intro h
    rw [decodeHash] at h
    rcases hframe : reader.readLittleEndian UInt32 "hash_frame" with ⟨frame, r₁⟩
    rcases hhash : r₁.readLittleEndian UInt64 "hash" with ⟨value, r₂⟩
    simp only [hframe, hhash] at h
    split at h
    · rw [readLittleEndian_ok_iff] at hframe hhash
      rw [failIf_bind_ok, hfollows] at h
      simp only [pure, Except.pure, Except.ok.injEq, Prod.mk.injEq] at h
      obtain ⟨horder, rfl, rfl⟩ := h
      exact ⟨horder, hframe.trans hhash⟩
    · cases h
  · rintro ⟨horder, hreads⟩
    obtain ⟨r₁, hframe, hreads⟩ := hreads.next "hash_frame"
    have hhash := hreads.last "hash"
    simp only [decodeHash, hframe, hhash]
    exact failIf_bind_ok.2 ⟨(hfollows hash.frame).2 horder, rfl⟩

theorem decodeHashes_ok_iff {count : ℕ} {hashes : List ConfirmedHash} :
    decodeHashes count reader = .ok (hashes, after) ↔ hashes.length = count ∧
      (hashes.IsChain fun hash next => frameBefore hash.frame next.frame = true) ∧
        Reads reader (hashes.flatMap hashBytes) after := by
  have hhash : ∀ previous reader hash after, decodeHash previous reader = .ok (hash, after) ↔ _ :=
    fun _ _ _ _ => decodeHash_ok_iff
  rw [decodeHashes, decodeRecords_ok_iff hhash, goodRecords_chain]
  simp

theorem decodeHello_ok_iff {header : PacketHeader} {hello : Option HelloInfo} :
    decodeHello header reader = .ok (hello, after) ↔
      (hello.isSome = (header.type == .hello) ∧
        (header.type = .hello → header.count = 0 ∧ header.hashCount = 0)) ∧
        Reads reader (hello.elim [] helloBytes) after := by
  by_cases htype : header.type = .hello
  · have hbeq : (header.type == PacketType.hello) = true := by simp [htype]
    simp only [decodeHello, htype, if_true, failIf_bind_ok, not_or, not_not, ne_eq]
    constructor
    · rintro ⟨hcounts, h⟩
      rcases hversion : reader.readLittleEndian UInt32 "simulation_version" with ⟨version, r₁⟩
      rcases hdigest : r₁.readLittleEndian UInt64 "scenario_config_digest" with ⟨digest, r₂⟩
      rcases htarget : r₂.readLittleEndian UInt32 "target_frame" with ⟨target, r₃⟩
      simp only [hversion, hdigest, htarget] at h
      split at h
      · rw [readLittleEndian_ok_iff] at hversion hdigest htarget
        cases h
        exact ⟨⟨rfl, fun _ => hcounts⟩, hversion.trans (hdigest.trans htarget)⟩
      · cases h
    · rintro ⟨⟨hsome, hcounts⟩, hreads⟩
      cases hello with
      | none => cases hsome
      | some hello =>
        obtain ⟨r₁, hversion, hreads⟩ := Reads.next hreads "simulation_version"
        obtain ⟨r₂, hdigest, hreads⟩ := hreads.next "scenario_config_digest"
        have htarget := hreads.last "target_frame"
        refine ⟨hcounts trivial, ?_⟩
        simp only [hversion, hdigest, htarget]
        rfl
  · have hbeq : (header.type == PacketType.hello) = false := by simp [htype]
    simp only [decodeHello, htype, if_false, hbeq, false_implies, and_true]
    constructor
    · intro h
      cases h
      exact ⟨rfl, .refl _⟩
    · rintro ⟨hsome, hreads⟩
      cases hello with
      | none =>
        rw [Reads.nil_iff.1 hreads]
        rfl
      | some hello => cases hsome

/-- A check on a value that may be missing passes when the value is there and good. -/
theorem not_all_toOption_iff {α : Type} {x : Result α} {bad : α → Bool} :
    ¬x.toOption.all bad = true ↔ ∃ a, x = .ok a ∧ bad a = false := by
  cases x with
  | error error => simp [Except.toOption]
  | ok a => simp [Except.toOption]

theorem decodeHeader_ok_iff {header : PacketHeader} :
    decodeHeader reader = .ok (header, after) ↔
      (header.version.toUInt32 = kProtocolVersion ∧ validPacketType header.type = true ∧
        header.sender ≤ 1) ∧ Reads reader header.bytes after := by
  constructor
  · intro h
    rw [decodeHeader] at h
    rcases hmagic : reader.readLittleEndian UInt32 "magic" with ⟨magic, r₁⟩
    rcases hversion : r₁.readLittleEndian UInt16 "version" with ⟨version, r₂⟩
    rcases htype : r₂.readLittleEndian UInt8 "type" with ⟨typeByte, r₃⟩
    rcases hsender : r₃.readLittleEndian UInt8 "sender" with ⟨sender, r₄⟩
    rcases hsequence : r₄.readLittleEndian UInt32 "sequence" with ⟨sequence, r₅⟩
    rcases hack : r₅.readLittleEndian UInt32 "ack" with ⟨ack, r₆⟩
    rcases hscenario : r₆.readLittleEndian UInt64 "scenario" with ⟨scenario, r₇⟩
    rcases hconfirmed : r₇.readLittleEndian UInt32 "confirmed_frame" with ⟨confirmed, r₈⟩
    rcases hcount : r₈.readLittleEndian UInt8 "input_count" with ⟨count, r₉⟩
    rcases hhashes : r₉.readLittleEndian UInt8 "hash_count" with ⟨hashes, r₁₀⟩
    rcases hlength : r₁₀.readLittleEndian UInt16 "payload_length" with ⟨length, r₁₁⟩
    simp only [hmagic, hversion, htype, hsender, hsequence, hack, hscenario, hconfirmed, hcount,
      hhashes, hlength, failIf_bind_ok, not_all_toOption_iff] at h
    obtain ⟨⟨magic, rfl, hgoodMagic⟩, ⟨version, rfl, hgoodVersion⟩, h⟩ := h
    rw [bind_ok_iff] at h
    obtain ⟨type, htypeOk, h⟩ := h
    simp only [failIf_bind_ok, not_all_toOption_iff] at h
    obtain ⟨hgoodType, ⟨sender, rfl, hgoodSender⟩, h⟩ := h
    have htypeEq : typeByte = .ok type := by
      cases typeByte with
      | error error => cases htypeOk
      | ok typeByte => exact htypeOk
    subst htypeEq
    split at h
    · rename_i hversionEq hsenderEq
      cases hversionEq
      cases hsenderEq
      cases h
      rw [readLittleEndian_ok_iff] at hmagic hversion htype hsender hsequence hack hscenario
      rw [readLittleEndian_ok_iff] at hconfirmed hcount hhashes hlength
      refine ⟨⟨by simpa using hgoodVersion, by simpa using hgoodType, by simpa using hgoodSender⟩, ?_⟩
      have hmagicEq : magic = kPacketMagic := by simpa using hgoodMagic
      subst hmagicEq
      simp only [PacketHeader.bytes, PacketHeader.front, List.append_assoc]
      exact hmagic.trans (hversion.trans (htype.trans (hsender.trans (hsequence.trans (hack.trans
        (hscenario.trans (hconfirmed.trans (hcount.trans (hhashes.trans hlength)))))))))
    · cases h
  · rintro ⟨⟨hversion, htype, hsender⟩, hreads⟩
    simp only [PacketHeader.bytes, PacketHeader.front, List.append_assoc] at hreads
    obtain ⟨r₁, hmagic, hreads⟩ := hreads.next "magic"
    obtain ⟨r₂, hversionRead, hreads⟩ := hreads.next "version"
    obtain ⟨r₃, htypeRead, hreads⟩ := hreads.next "type"
    obtain ⟨r₄, hsenderRead, hreads⟩ := hreads.next "sender"
    obtain ⟨r₅, hsequence, hreads⟩ := hreads.next "sequence"
    obtain ⟨r₆, hack, hreads⟩ := hreads.next "ack"
    obtain ⟨r₇, hscenario, hreads⟩ := hreads.next "scenario"
    obtain ⟨r₈, hconfirmed, hreads⟩ := hreads.next "confirmed_frame"
    obtain ⟨r₉, hcount, hreads⟩ := hreads.next "input_count"
    obtain ⟨r₁₀, hhashes, hreads⟩ := hreads.next "hash_count"
    have hlength := hreads.last "payload_length"
    simp only [decodeHeader, hmagic, hversionRead, htypeRead, hsenderRead, hsequence, hack,
      hscenario, hconfirmed, hcount, hhashes, hlength, failIf_bind_ok, not_all_toOption_iff]
    refine ⟨⟨_, rfl, by simp⟩, ⟨_, rfl, by simp [hversion]⟩, ?_⟩
    refine bind_ok_iff.2 ⟨header.type.value, rfl, ?_⟩
    simp only [failIf_bind_ok, not_all_toOption_iff]
    exact ⟨by simpa using htype, ⟨_, rfl, by simpa using hsender⟩, rfl⟩

/-- The stored checksum is read off the end of the bytes. -/
theorem readChecksum_eq_iff {bytes : List UInt8} (h : checksumSize ≤ bytes.length)
    (checksum : UInt32) : readChecksum bytes = checksum ↔
      bytes = bytes.take (bytes.length - checksumSize) ++ encode checksum :=
  decode_drop_eq_iff h

theorem Packet.Encodable.header_count {packet : Packet} (h : packet.Encodable) :
    packet.header.count.toNat = packet.inputs.length := by
  have hcount := h.count
  simp only [kMaxRedundantInputs] at hcount
  exact UInt8.toNat_ofNat_of_lt' (by simp only [UInt8.size]; omega)

theorem Packet.Encodable.header_hashCount {packet : Packet} (h : packet.Encodable) :
    packet.header.hashCount.toNat = packet.confirmedHashes.length := by
  have hcount := h.hashCount
  simp only [kMaxConfirmedHashes] at hcount
  exact UInt8.toNat_ofNat_of_lt' (by simp only [UInt8.size]; omega)

theorem Packet.Encodable.header_payloadLength {packet : Packet} (h : packet.Encodable) :
    packet.header.payloadLength.toNat = packet.payload.length := by
  have hpayload := h.length_payload_le
  exact UInt16.toNat_ofNat_of_lt' (by simp only [UInt16.size]; omega)

/-- The packet a decoded header and the decoded records make. -/
def PacketHeader.packet (header : PacketHeader) (inputs : List InputFrame)
    (confirmedHashes : List ConfirmedHash) (hello : Option HelloInfo) : Packet :=
  { protocolVersion := header.version
    type := header.type
    sender := .ofByte header.sender
    sequence := header.sequence
    ack := header.ack
    scenarioId := header.scenario
    confirmedFrame := ⟨header.confirmed⟩
    inputs
    confirmedHashes
    hello }

/-- A header that counts its records and its payload is the header of its packet. -/
theorem PacketHeader.header_packet {header : PacketHeader} {inputs : List InputFrame}
    {hashes : List ConfirmedHash} {hello : Option HelloInfo} (hsender : header.sender ≤ 1)
    (hinputs : inputs.length = header.count.toNat)
    (hhashes : hashes.length = header.hashCount.toNat)
    (hpayload : (header.packet inputs hashes hello).payload.length = header.payloadLength.toNat) :
    (header.packet inputs hashes hello).header = header := by
  rw [Packet.header, hpayload]
  simp only [PacketHeader.packet, hinputs, hhashes, PlayerId.byte_ofByte hsender, UInt8.ofNat_toNat,
    UInt16.ofNat_toNat]

/-- Decoding gives back the packets whose wire bytes it is given. -/
theorem decodePacket_ok_iff {bytes : List UInt8} {packet : Packet} :
    decodePacket bytes = .ok packet ↔ (packet.Encodable ∧ packet.wireBytes = bytes) ∧
      ∀ input ∈ packet.inputs, input.buttons &&& 0xE0 = 0 := by
  constructor
  · intro h
    simp only [decodePacket, failIf_bind_ok] at h
    obtain ⟨hmin, hmax, hchecksum, h⟩ := h
    rw [bind_ok_iff] at h
    obtain ⟨⟨header, r₁⟩, hheader, h⟩ := h
    simp only [failIf_bind_ok] at h
    obtain ⟨hcount, hhashCount, hlength, h⟩ := h
    rw [bind_ok_iff] at h
    obtain ⟨⟨inputs, r₂⟩, hinputs, h⟩ := h
    rw [bind_ok_iff] at h
    obtain ⟨⟨hashes, r₃⟩, hhashes, h⟩ := h
    rw [bind_ok_iff] at h
    obtain ⟨⟨hello, r₄⟩, hhello, h⟩ := h
    simp only [failIf_bind_ok] at h
    obtain ⟨hremaining, h⟩ := h
    have hpacket : header.packet inputs hashes hello = packet := Except.ok.inj h
    obtain ⟨⟨hversion, htype, hsender⟩, hreadHeader⟩ := decodeHeader_ok_iff.1 hheader
    obtain ⟨hinputsLen, hgood, hreadInputs⟩ := (decodeInputs_ok_iff hsender).1 hinputs
    obtain ⟨hhashesLen, horder, hreadHashes⟩ := decodeHashes_ok_iff.1 hhashes
    obtain ⟨⟨hsome, hbare⟩, hreadHello⟩ := decodeHello_ok_iff.1 hhello
    simp only [ne_eq, not_or, not_not] at hchecksum hlength hremaining
    -- the reader has gone through everything the checksum covers
    have hpayload : (header.packet inputs hashes hello).payload.length =
        header.payloadLength.toNat := by
      rw [Packet.length_payload, hlength.1]
      simp only [PacketHeader.packet, hinputsLen, hhashesLen, hsome, beq_iff_eq]
    have hsame := PacketHeader.header_packet hsender hinputsLen hhashesLen hpayload
    have hreads := hreadHeader.trans (hreadInputs.trans (hreadHashes.trans hreadHello))
    have hend : r₄.bytes.drop r₄.offset = [] := by
      rw [List.drop_eq_nil_iff]
      exact Nat.sub_eq_zero_iff_le.1 hremaining
    have hbody : bytes.take (bytes.length - checksumSize) =
        (header.packet inputs hashes hello).body := by
      rw [Packet.body, hsame]
      have hrest := hreads.rest
      rw [hend, List.append_nil] at hrest
      exact hrest
    have hwhole := (readChecksum_eq_iff (by simp only [headerSize, checksumSize] at *; omega) _).1
      hchecksum
    subst hpacket
    refine ⟨⟨⟨hversion, htype, ?_, ?_, hsome, ?_, ?_, horder⟩, ?_⟩, fun input hi => (hgood input hi).2⟩
    · rw [show (header.packet inputs hashes hello).inputs.length = _ from hinputsLen]
      exact not_lt.1 hcount
    · rw [show (header.packet inputs hashes hello).confirmedHashes.length = _ from hhashesLen]
      exact not_lt.1 hhashCount
    · intro hhelloType
      obtain ⟨hzero, hzero'⟩ := hbare hhelloType
      rw [hzero] at hinputsLen
      rw [hzero'] at hhashesLen
      exact ⟨List.length_eq_zero_iff.1 hinputsLen, List.length_eq_zero_iff.1 hhashesLen⟩
    · intro input hi
      have hbyte := (hgood input hi).1
      rw [← PlayerId.ofByte_byte input.player, hbyte]
      rfl
    · rw [Packet.wireBytes, ← hbody, ← hwhole]
  · rintro ⟨⟨h, rfl⟩, hbuttons⟩
    have hpayload := h.length_payload_le
    have hlen := Packet.length_wireBytes packet
    have htake : packet.wireBytes.take (packet.wireBytes.length - checksumSize) = packet.body := by
      rw [Packet.wireBytes, List.length_append, length_encode, checksumSize]
      simp [FixedWidth.size]
    have hchecksum : readChecksum packet.wireBytes = crc32 packet.body := by
      rw [readChecksum_eq_iff (by rw [hlen]; omega), htake]
      rfl
    have hreads : Reads ⟨packet.body, 0⟩ packet.body ⟨packet.body, packet.body.length⟩ :=
      ⟨rfl, by simp, by simp⟩
    obtain ⟨r₁, hreadHeader, hreads⟩ := Reads.append_iff.1 hreads
    obtain ⟨r₂, hreadInputs, hreads⟩ := Reads.append_iff.1 hreads
    obtain ⟨r₃, hreadHashes, hreadHello⟩ := Reads.append_iff.1 hreads
    have hsender := PlayerId.byte_le packet.sender
    have hheader := decodeHeader_ok_iff.2 ⟨⟨h.version, h.type, hsender⟩, hreadHeader⟩
    have hinputs := (decodeInputs_ok_iff hsender).2 ⟨h.header_count.symm,
      fun input hi => ⟨congrArg PlayerId.byte (h.sender input hi), hbuttons input hi⟩, hreadInputs⟩
    have hhashes := decodeHashes_ok_iff.2 ⟨h.header_hashCount.symm, h.order, hreadHashes⟩
    have hbare : packet.header.type = .hello →
        packet.header.count = 0 ∧ packet.header.hashCount = 0 := by
      intro htype
      obtain ⟨hnone, hnone'⟩ := h.bare htype
      rw [Packet.header, hnone, hnone']
      exact ⟨rfl, rfl⟩
    have hhello := decodeHello_ok_iff.2 ⟨⟨h.hello, hbare⟩, hreadHello⟩
    have hexpected : packet.payload.length = packet.inputs.length * inputRecordSize +
        packet.confirmedHashes.length * hashRecordSize +
          (if packet.header.type = .hello then helloRecordSize else 0) := by
      rw [Packet.length_payload, h.hello]
      simp only [beq_iff_eq]
      rfl
    simp only [decodePacket, failIf_bind_ok, htake, hchecksum]
    refine ⟨by rw [hlen]; omega, ?_, fun hne => hne rfl, ?_⟩
    · rw [hlen]
      simp only [headerSize, checksumSize, kMaxPacketBytes]
      omega
    refine bind_ok_iff.2 ⟨(packet.header, r₁), hheader, ?_⟩
    simp only [failIf_bind_ok, h.header_count, h.header_hashCount, h.header_payloadLength]
    refine ⟨not_lt.2 h.count, not_lt.2 h.hashCount, ?_, ?_⟩
    · rw [hlen, ← hexpected]
      simp
    rw [← h.header_count, ← h.header_hashCount]
    refine bind_ok_iff.2 ⟨(packet.inputs, r₂), hinputs, ?_⟩
    refine bind_ok_iff.2 ⟨(packet.confirmedHashes, r₃), hhashes, ?_⟩
    refine bind_ok_iff.2 ⟨(packet.hello, _), hhello, ?_⟩
    rw [failIf_bind_ok]
    refine ⟨by simp [ByteReader.remaining], ?_⟩
    change Except.ok { packet with sender := .ofByte packet.sender.byte } = _
    rw [PlayerId.ofByte_byte]

/-- The decoder accepts exactly the canonical wire format: it returns a packet for the
bytes the encoder makes of it, and for no others. -/
theorem decode_packet_canonical :
    (∀ (bytes : List UInt8) (packet : Packet), decodePacket bytes = .ok packet ↔
      (∀ input ∈ packet.inputs, input.buttons &&& 0xE0 = 0) ∧ encodePacket packet = .ok bytes) ∧
    (∀ (packet : Packet) (bytes : List UInt8),
      (∀ input ∈ packet.inputs, input.buttons &&& 0xE0 = 0) → encodePacket packet = .ok bytes →
        decodePacket bytes = .ok packet) ∧
    ∀ (bytes bytes' : List UInt8) (packet : Packet), decodePacket bytes = .ok packet →
      decodePacket bytes' = .ok packet → bytes = bytes' := by
  refine ⟨fun bytes packet => ?_, fun packet bytes hbuttons hencode => ?_,
    fun bytes bytes' packet h h' => ?_⟩
  · rw [decodePacket_ok_iff, encodePacket_ok_iff, and_comm]
  · exact decodePacket_ok_iff.2 ⟨encodePacket_ok_iff.1 hencode, hbuttons⟩
  · exact (decodePacket_ok_iff.1 h).1.2.symm.trans (decodePacket_ok_iff.1 h').1.2

/-- The encoder does not check the buttons: its packets are refused exactly when an
unknown one is pressed. -/
theorem decode_encoded_packet (packet : Packet) (bytes : List UInt8)
    (h : encodePacket packet = .ok bytes) :
    decodePacket bytes = .ok packet ↔ ∀ input ∈ packet.inputs, input.buttons &&& 0xE0 = 0 := by
  rw [decodePacket_ok_iff, ← encodePacket_ok_iff, and_iff_right h]

/-- The inputs of two frames and the hashes of two boundaries. -/
def windowPacket : Packet where
  type := .input
  sender := .b
  sequence := 7
  ack := 5
  scenarioId := 1
  confirmedFrame := ⟨3⟩
  inputs := [⟨⟨4⟩, .b, 4, 0x10⟩, ⟨⟨5⟩, .b, 5, 0x1F⟩]
  confirmedHashes := [⟨⟨2⟩, 635547385910503997⟩, ⟨⟨3⟩, 3863475310802645467⟩]

theorem decode_encoded_packet_window : decodePacket windowPacket.wireBytes = .ok windowPacket :=
  (decode_encoded_packet windowPacket _ (by decide +kernel)).2 (by decide)

/-- An input packet of A with a button that does not exist. -/
def unknownButtonPacket : Packet where
  type := .input
  inputs := [⟨⟨0⟩, .a, 0, 0x20⟩]

theorem encoded_packet_refused : ∃ bytes e,
    encodePacket unknownButtonPacket = .ok bytes ∧ decodePacket bytes = .error e :=
  ⟨unknownButtonPacket.wireBytes, ⟨.invalidArgument, 0, 32, "input_record"⟩, by decide +kernel,
    by decide +kernel⟩

end RollbackLab
