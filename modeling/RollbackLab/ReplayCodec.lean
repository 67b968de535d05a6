import RollbackLab.Bytes
import RollbackLab.Packet

/-!
# The replay codec

A replay file holds the confirmed inputs of a run, some checkpoints and the expected
final hash. Both directions of the codec are compared with `wireBytes`, the bytes of
a replay, and with the replays that have any.
-/

namespace RollbackLab

open LittleEndian ByteReader

def kReplayVersion : UInt32 := 1

def kReplayMagic : UInt32 := 0x50524C52
def kMaxReplayFrames : ℕ := 1000000
def kMaxReplayCheckpoints : ℕ := 100000

structure ReplayCheckpoint where
  frame : FrameNumber := default
  hash : StateHash := 0
  deriving DecidableEq, Repr, Inhabited

structure Replay where
  replayVersion : UInt16 := kReplayVersion.toUInt16
  simulationVersion : UInt16 := kSimulationVersion.toUInt16
  protocolVersion : UInt16 := kProtocolVersion.toUInt16
  variant : SimulationVariant := .canonical
  scenarioSeed : UInt64 := 0
  transportSeed : UInt64 := 0
  finalFrame : FrameNumber := default
  confirmedInputs : List InputPair := []
  checkpoints : List ReplayCheckpoint := []
  expectedFinalHash : StateHash := 0
  deriving DecidableEq, Repr

namespace Replay

def headerSize : ℕ := 48
def inputPairSize : ℕ := 14
def checkpointSize : ℕ := 12
def checksumSize : ℕ := 4

def failure (code : ErrorCode) (offset : ℕ) (context : String) (detail : UInt64) : Error :=
  ⟨code, detail, offset, context⟩

def storedCrc (bytes : List UInt8) : UInt32 := decode (bytes.drop (bytes.length - checksumSize))

def validVariant (variant : SimulationVariant) : Bool :=
  variant == .canonical || variant == .damageBias

def writeHeader (replay : Replay) : ByteWriter :=
  let writer : ByteWriter := {}
  let writer := writer.appendLittleEndian kReplayMagic
  let writer := writer.appendLittleEndian replay.replayVersion
  let writer := writer.appendLittleEndian replay.simulationVersion
  let writer := writer.appendLittleEndian replay.protocolVersion
  let writer := writer.appendLittleEndian replay.variant.value
  let writer := writer.appendLittleEndian (0 : UInt8)
  let writer := writer.appendLittleEndian replay.scenarioSeed
  let writer := writer.appendLittleEndian replay.transportSeed
  let writer := writer.appendLittleEndian replay.finalFrame.value
  let writer := writer.appendLittleEndian (UInt32.ofNat replay.confirmedInputs.length)
  let writer := writer.appendLittleEndian (UInt32.ofNat replay.checkpoints.length)
  writer.appendLittleEndian replay.expectedFinalHash

def writePair (writer : ByteWriter) (inputs : InputPair) : Result ByteWriter := do
  failIf (inputs.a.player ≠ .a ∨ inputs.b.player ≠ .b ∨ inputs.a.frame ≠ inputs.b.frame)
    ⟨.invalidArgument, inputs.a.frame.value.toUInt64, 0, "replay_input_pair"⟩
  let writer := writer.appendLittleEndian inputs.a.frame.value
  let writer := writer.appendLittleEndian inputs.a.buttons
  let writer := writer.appendLittleEndian inputs.a.sequence
  let writer := writer.appendLittleEndian inputs.b.buttons
  pure (writer.appendLittleEndian inputs.b.sequence)

def writeCheckpoint (writer : ByteWriter) (checkpoint : ReplayCheckpoint) : ByteWriter :=
  (writer.appendLittleEndian checkpoint.frame.value).appendLittleEndian checkpoint.hash

end Replay

def encodeReplay (replay : Replay) : Result (List UInt8) := do
  failIf (replay.replayVersion.toUInt32 ≠ kReplayVersion ∨
      replay.simulationVersion.toUInt32 ≠ kSimulationVersion ∨
      replay.protocolVersion.toUInt32 ≠ kProtocolVersion)
    ⟨.unsupportedVersion, replay.replayVersion.toUInt64, 4, "replay_versions"⟩
  failIf (¬Replay.validVariant replay.variant)
    ⟨.invalidArgument, replay.variant.value.toUInt64, 10, "simulation_variant"⟩
  failIf (kMaxReplayFrames < replay.confirmedInputs.length ∨
      kMaxReplayCheckpoints < replay.checkpoints.length ∨
      replay.confirmedInputs.length ≠ replay.finalFrame.value.toNat)
    ⟨.capacityExceeded, UInt64.ofNat replay.confirmedInputs.length, 32, "replay_counts"⟩
  let writer ← replay.confirmedInputs.foldlM Replay.writePair (Replay.writeHeader replay)
  let writer := replay.checkpoints.foldl Replay.writeCheckpoint writer
  let writer := writer.appendLittleEndian (crc32 writer.bytes)
  pure writer.bytes

/-- What the header of a replay file holds. -/
structure ReplayHeader where
  magic : UInt32
  replayVersion : UInt16
  simulationVersion : UInt16
  protocolVersion : UInt16
  variant : UInt8
  reserved : UInt8
  scenario : UInt64
  transport : UInt64
  finalFrame : UInt32
  inputCount : UInt32
  checkpointCount : UInt32
  expectedHash : UInt64

namespace Replay

def decodeHeader (reader : ByteReader) : Result (ReplayHeader × ByteReader) := do
  let (magic, reader) := reader.readLittleEndian UInt32 "magic"
  let (replayVersion, reader) := reader.readLittleEndian UInt16 "replay_version"
  let (simulationVersion, reader) := reader.readLittleEndian UInt16 "simulation_version"
  let (protocolVersion, reader) := reader.readLittleEndian UInt16 "protocol_version"
  let (variant, reader) := reader.readLittleEndian UInt8 "variant"
  let (reserved, reader) := reader.readLittleEndian UInt8 "reserved"
  let (scenario, reader) := reader.readLittleEndian UInt64 "scenario"
  let (transport, reader) := reader.readLittleEndian UInt64 "transport"
  let (finalFrame, reader) := reader.readLittleEndian UInt32 "final_frame"
  let (inputCount, reader) := reader.readLittleEndian UInt32 "input_count"
  let (checkpointCount, reader) := reader.readLittleEndian UInt32 "checkpoint_count"
  let (expectedHash, reader) := reader.readLittleEndian UInt64 "expected_hash"
  match magic, replayVersion, simulationVersion, protocolVersion, variant, reserved, scenario,
    transport, finalFrame, inputCount, checkpointCount, expectedHash with
  | .ok magic, .ok replayVersion, .ok simulationVersion, .ok protocolVersion, .ok variant,
      .ok reserved, .ok scenario, .ok transport, .ok finalFrame, .ok inputCount, .ok checkpointCount,
      .ok expectedHash =>
    pure (⟨magic, replayVersion, simulationVersion, protocolVersion, variant, reserved, scenario,
      transport, finalFrame, inputCount, checkpointCount, expectedHash⟩, reader)
  | _, _, _, _, _, _, _, _, _, _, _, _ =>
    throw (failure .truncatedData reader.offset "replay_header" 0)

def decodePair (index : UInt32) (reader : ByteReader) : Result (InputPair × ByteReader) := do
  let (frame, reader) := reader.readLittleEndian UInt32 "frame"
  let (buttonsA, reader) := reader.readLittleEndian UInt8 "buttons_a"
  let (sequenceA, reader) := reader.readLittleEndian UInt32 "sequence_a"
  let (buttonsB, reader) := reader.readLittleEndian UInt8 "buttons_b"
  let (sequenceB, reader) := reader.readLittleEndian UInt32 "sequence_b"
  match frame, buttonsA, sequenceA, buttonsB, sequenceB with
  | .ok frame, .ok buttonsA, .ok sequenceA, .ok buttonsB, .ok sequenceB =>
    failIf (frame ≠ index ∨ buttonsA &&& 0xE0 ≠ 0 ∨ buttonsB &&& 0xE0 ≠ 0)
      (failure .invalidArgument reader.offset "replay_input" frame.toUInt64)
    pure (⟨⟨⟨frame⟩, .a, sequenceA, buttonsA⟩, ⟨⟨frame⟩, .b, sequenceB, buttonsB⟩⟩, reader)
  | _, _, _, _, _ => throw (failure .truncatedData reader.offset "replay_input" 0)

/-- The first checkpoint has no previous one to follow. -/
def decodeCheckpoint (finalFrame : UInt32) (previous : Option FrameNumber) (reader : ByteReader) :
    Result (ReplayCheckpoint × ByteReader) := do
  let (frame, reader) := reader.readLittleEndian UInt32 "checkpoint_frame"
  let (hash, reader) := reader.readLittleEndian UInt64 "checkpoint_hash"
  match frame, hash with
  | .ok frame, .ok hash =>
    failIf (finalFrame < frame ∨ previous.any (!frameBefore · ⟨frame⟩))
      (failure .invalidArgument reader.offset "checkpoint_order" frame.toUInt64)
    pure (⟨⟨frame⟩, hash⟩, reader)
  | _, _ => throw (failure .truncatedData reader.offset "replay_checkpoint" 0)

end Replay

def decodeReplay (bytes : List UInt8) : Result Replay := do
  failIf (bytes.length < Replay.headerSize + Replay.checksumSize)
    (Replay.failure .truncatedData bytes.length "replay" 0)
  failIf (Replay.storedCrc bytes ≠ crc32 (bytes.take (bytes.length - Replay.checksumSize)))
    (Replay.failure .integrityMismatch (bytes.length - Replay.checksumSize) "replay_crc" 0)
  let (header, reader) ← Replay.decodeHeader ⟨bytes.take (bytes.length - Replay.checksumSize), 0⟩
  failIf (header.magic ≠ kReplayMagic)
    (Replay.failure .invalidMagic 0 "replay_magic" header.magic.toUInt64)
  failIf (header.replayVersion.toUInt32 ≠ kReplayVersion ∨
      header.simulationVersion.toUInt32 ≠ kSimulationVersion ∨
      header.protocolVersion.toUInt32 ≠ kProtocolVersion)
    (Replay.failure .unsupportedVersion 4 "replay_versions" header.replayVersion.toUInt64)
  failIf (¬Replay.validVariant ⟨header.variant⟩ ∨ header.reserved ≠ 0)
    (Replay.failure .invalidArgument 10 "replay_flags" header.variant.toUInt64)
  failIf (kMaxReplayFrames < header.inputCount.toNat ∨
      kMaxReplayCheckpoints < header.checkpointCount.toNat ∨ header.inputCount ≠ header.finalFrame)
    (Replay.failure .capacityExceeded 32 "replay_counts" header.inputCount.toUInt64)
  let expectedSize := Replay.headerSize + header.inputCount.toNat * Replay.inputPairSize +
    header.checkpointCount.toNat * Replay.checkpointSize + Replay.checksumSize
  failIf (bytes.length ≠ expectedSize)
    (Replay.failure .invalidLength reader.offset "replay_size" (UInt64.ofNat expectedSize))
  let (confirmedInputs, reader) ←
    decodeRecords Replay.decodePair (fun index _ => index + 1) 0 header.inputCount.toNat reader
  let (checkpoints, _) ← decodeRecords (Replay.decodeCheckpoint header.finalFrame)
    (fun _ checkpoint => some checkpoint.frame) none header.checkpointCount.toNat reader
  pure
    { replayVersion := header.replayVersion
      simulationVersion := header.simulationVersion
      protocolVersion := header.protocolVersion
      variant := ⟨header.variant⟩
      scenarioSeed := header.scenario
      transportSeed := header.transport
      finalFrame := ⟨header.finalFrame⟩
      confirmedInputs
      checkpoints
      expectedFinalHash := header.expectedHash }

namespace Replay

def pairBytes (inputs : InputPair) : List UInt8 :=
  encode inputs.a.frame.value ++ (encode inputs.a.buttons ++ (encode inputs.a.sequence ++
    (encode inputs.b.buttons ++ encode inputs.b.sequence)))

def checkpointBytes (checkpoint : ReplayCheckpoint) : List UInt8 :=
  encode checkpoint.frame.value ++ encode checkpoint.hash

def header (replay : Replay) : ReplayHeader where
  magic := kReplayMagic
  replayVersion := replay.replayVersion
  simulationVersion := replay.simulationVersion
  protocolVersion := replay.protocolVersion
  variant := replay.variant.value
  reserved := 0
  scenario := replay.scenarioSeed
  transport := replay.transportSeed
  finalFrame := replay.finalFrame.value
  inputCount := UInt32.ofNat replay.confirmedInputs.length
  checkpointCount := UInt32.ofNat replay.checkpoints.length
  expectedHash := replay.expectedFinalHash

end Replay

def ReplayHeader.bytes (header : ReplayHeader) : List UInt8 :=
  encode header.magic ++ (encode header.replayVersion ++ (encode header.simulationVersion ++
    (encode header.protocolVersion ++ (encode header.variant ++ (encode header.reserved ++
      (encode header.scenario ++ (encode header.transport ++ (encode header.finalFrame ++
        (encode header.inputCount ++ (encode header.checkpointCount ++
          encode header.expectedHash))))))))))

namespace Replay

/-- The bytes the checksum covers. -/
def body (replay : Replay) : List UInt8 :=
  replay.header.bytes ++
    (replay.confirmedInputs.flatMap pairBytes ++ replay.checkpoints.flatMap checkpointBytes)

def wireBytes (replay : Replay) : List UInt8 := replay.body ++ encode (crc32 replay.body)

/-- The replays that can be written out. -/
structure Encodable (replay : Replay) : Prop where
  versions : replay.replayVersion.toUInt32 = kReplayVersion ∧
    replay.simulationVersion.toUInt32 = kSimulationVersion ∧
    replay.protocolVersion.toUInt32 = kProtocolVersion
  variant : validVariant replay.variant = true
  frames : replay.confirmedInputs.length ≤ kMaxReplayFrames
  count : replay.checkpoints.length ≤ kMaxReplayCheckpoints
  final : replay.confirmedInputs.length = replay.finalFrame.value.toNat
  pairs : ∀ inputs ∈ replay.confirmedInputs,
    inputs.a.player = .a ∧ inputs.b.player = .b ∧ inputs.a.frame = inputs.b.frame

/-- Pair `i` is for frame `i` with known buttons, and the checkpoints strictly increase up
to the final frame. -/
structure WellFormed (replay : Replay) : Prop where
  frames : ∀ (i : ℕ) (inputs : InputPair), replay.confirmedInputs[i]? = some inputs →
    inputs.a.frame = ⟨UInt32.ofNat i⟩ ∧ inputs.b.frame = ⟨UInt32.ofNat i⟩
  buttons : ∀ inputs ∈ replay.confirmedInputs,
    inputs.a.buttons &&& 0xE0 = 0 ∧ inputs.b.buttons &&& 0xE0 = 0
  increasing : replay.checkpoints.Pairwise fun checkpoint next =>
    checkpoint.frame.value < next.frame.value
  bounded : ∀ checkpoint ∈ replay.checkpoints, checkpoint.frame.value ≤ replay.finalFrame.value

@[simp] theorem length_pairBytes (inputs : InputPair) : (pairBytes inputs).length = inputPairSize := by
  simp [pairBytes, inputPairSize, FixedWidth.size]

@[simp] theorem length_checkpointBytes (checkpoint : ReplayCheckpoint) :
    (checkpointBytes checkpoint).length = checkpointSize := by
  simp [checkpointBytes, checkpointSize, FixedWidth.size]

@[simp] theorem length_headerBytes (header : ReplayHeader) : header.bytes.length = headerSize := by
  simp [ReplayHeader.bytes, headerSize, FixedWidth.size]

theorem length_wireBytes (replay : Replay) : replay.wireBytes.length =
    headerSize + replay.confirmedInputs.length * inputPairSize +
      replay.checkpoints.length * checkpointSize + checksumSize := by
  simp [wireBytes, body, checksumSize, FixedWidth.size, List.length_flatMap, Nat.add_assoc]

theorem bytes_writeHeader (replay : Replay) : (writeHeader replay).bytes = replay.header.bytes := by
  simp [writeHeader, header, ReplayHeader.bytes]

theorem bytes_writeCheckpoint (writer : ByteWriter) (checkpoint : ReplayCheckpoint) :
    (writeCheckpoint writer checkpoint).bytes = writer.bytes ++ checkpointBytes checkpoint := by
  simp [writeCheckpoint, checkpointBytes]

theorem writePair_ok_iff (writer : ByteWriter) (inputs : InputPair) (after : ByteWriter) :
    writePair writer inputs = .ok after ↔
      (inputs.a.player = .a ∧ inputs.b.player = .b ∧ inputs.a.frame = inputs.b.frame) ∧
        after = ⟨writer.bytes ++ pairBytes inputs⟩ := by
  have hbytes : ((((((writer.appendLittleEndian inputs.a.frame.value).appendLittleEndian
      inputs.a.buttons).appendLittleEndian inputs.a.sequence).appendLittleEndian
        inputs.b.buttons).appendLittleEndian inputs.b.sequence)) =
          ⟨writer.bytes ++ pairBytes inputs⟩ := by
    simp [ByteWriter.appendLittleEndian, pairBytes]
  rw [writePair, failIf_bind_ok]
  simp only [hbytes, pure, Except.pure, Except.ok.injEq, not_or, not_not, ne_eq, eq_comm (a := after)]

end Replay

/-- Encoding gives the wire bytes of the replays that have any. -/
theorem encodeReplay_ok_iff {replay : Replay} {bytes : List UInt8} :
    encodeReplay replay = .ok bytes ↔ replay.Encodable ∧ replay.wireBytes = bytes := by
  have hbody : (replay.checkpoints.foldl Replay.writeCheckpoint ⟨(Replay.writeHeader replay).bytes ++
      replay.confirmedInputs.flatMap Replay.pairBytes⟩).bytes = replay.body := by
    rw [ByteWriter.bytes_foldl Replay.bytes_writeCheckpoint, Replay.bytes_writeHeader, Replay.body,
      List.append_assoc]
  simp only [encodeReplay, failIf_bind_ok, not_or, not_not, ne_eq, not_lt]
  constructor
  · rintro ⟨hversions, hvariant, ⟨hframes, hcount, hfinal⟩, h⟩
    rw [bind_ok_iff] at h
    obtain ⟨writer, hpairs, h⟩ := h
    obtain ⟨hgood, rfl⟩ := (ByteWriter.foldlM_ok_iff Replay.writePair_ok_iff).1 hpairs
    rw [ByteWriter.bytes_appendLittleEndian, hbody] at h
    exact ⟨⟨hversions, hvariant, hframes, hcount, hfinal, hgood⟩, Except.ok.inj h⟩
  · rintro ⟨h, rfl⟩
    refine ⟨h.versions, h.variant, ⟨h.frames, h.count, h.final⟩, bind_ok_iff.2 ⟨_,
      (ByteWriter.foldlM_ok_iff Replay.writePair_ok_iff).2 ⟨h.pairs, rfl⟩, ?_⟩⟩
    rw [ByteWriter.bytes_appendLittleEndian, hbody]
    rfl

namespace Replay

variable {reader after : ByteReader}

theorem decodePair_ok_iff {index : UInt32} {inputs : InputPair} :
    decodePair index reader = .ok (inputs, after) ↔
      (((inputs.a.player = .a ∧ inputs.b.player = .b ∧ inputs.a.frame = inputs.b.frame) ∧
        inputs.a.buttons &&& 0xE0 = 0 ∧ inputs.b.buttons &&& 0xE0 = 0) ∧
        inputs.a.frame = ⟨index⟩) ∧ Reads reader (pairBytes inputs) after := by
  constructor
  · intro h
    rw [decodePair] at h
    rcases hframe : reader.readLittleEndian UInt32 "frame" with ⟨frame, r₁⟩
    rcases hbuttonsA : r₁.readLittleEndian UInt8 "buttons_a" with ⟨buttonsA, r₂⟩
    rcases hsequenceA : r₂.readLittleEndian UInt32 "sequence_a" with ⟨sequenceA, r₃⟩
    rcases hbuttonsB : r₃.readLittleEndian UInt8 "buttons_b" with ⟨buttonsB, r₄⟩
    rcases hsequenceB : r₄.readLittleEndian UInt32 "sequence_b" with ⟨sequenceB, r₅⟩
    simp only [hframe, hbuttonsA, hsequenceA, hbuttonsB, hsequenceB] at h
    split at h
    · rw [readLittleEndian_ok_iff] at hframe hbuttonsA hsequenceA hbuttonsB hsequenceB
      simp only [failIf_bind_ok, not_or, not_not, ne_eq] at h
      obtain ⟨⟨rfl, hmaskA, hmaskB⟩, h⟩ := h
      cases h
      exact ⟨⟨⟨⟨rfl, rfl, rfl⟩, hmaskA, hmaskB⟩, rfl⟩,
        hframe.trans (hbuttonsA.trans (hsequenceA.trans (hbuttonsB.trans hsequenceB)))⟩
    · cases h
  · obtain ⟨⟨frameA, playerA, sequenceA, buttonsA⟩, ⟨frameB, playerB, sequenceB, buttonsB⟩⟩ := inputs
    rintro ⟨⟨⟨⟨hplayerA, hplayerB, hframes⟩, hmaskA, hmaskB⟩, hindex⟩, hreads⟩
    dsimp only at hplayerA hplayerB hframes hmaskA hmaskB hindex
    subst hplayerA hplayerB hframes hindex
    obtain ⟨r₁, hframe, hreads⟩ := Reads.next hreads "frame"
    obtain ⟨r₂, hbuttonsA, hreads⟩ := hreads.next "buttons_a"
    obtain ⟨r₃, hsequenceA, hreads⟩ := hreads.next "sequence_a"
    obtain ⟨r₄, hbuttonsB, hreads⟩ := hreads.next "buttons_b"
    have hsequenceB := hreads.last "sequence_b"
    simp only [decodePair, hframe, hbuttonsA, hsequenceA, hbuttonsB, hsequenceB]
    exact failIf_bind_ok.2 ⟨by simp [hmaskA, hmaskB], rfl⟩

theorem decodeCheckpoint_ok_iff {finalFrame : UInt32} {previous : Option FrameNumber}
    {checkpoint : ReplayCheckpoint} :
    decodeCheckpoint finalFrame previous reader = .ok (checkpoint, after) ↔
      (checkpoint.frame.value ≤ finalFrame ∧
        ∀ frame ∈ previous, frameBefore frame checkpoint.frame = true) ∧
        Reads reader (checkpointBytes checkpoint) after := by
  have hfollows : ∀ frame : UInt32,
      ¬(finalFrame < frame ∨ previous.any (!frameBefore · ⟨frame⟩) = true) ↔
        frame ≤ finalFrame ∧ ∀ earlier ∈ previous, frameBefore earlier ⟨frame⟩ = true := by
    intro frame
    rw [not_or, UInt32.not_lt]
    cases previous with
    | none => simp
    | some earlier => simp
  constructor
  · intro h
    rw [decodeCheckpoint] at h
    rcases hframe : reader.readLittleEndian UInt32 "checkpoint_frame" with ⟨frame, r₁⟩
    rcases hhash : r₁.readLittleEndian UInt64 "checkpoint_hash" with ⟨value, r₂⟩
    simp only [hframe, hhash] at h
    split at h
    · rw [readLittleEndian_ok_iff] at hframe hhash
      rw [failIf_bind_ok, hfollows] at h
      obtain ⟨horder, h⟩ := h
      cases h
      exact ⟨horder, hframe.trans hhash⟩
    · cases h
  · rintro ⟨horder, hreads⟩
    obtain ⟨r₁, hframe, hreads⟩ := Reads.next hreads "checkpoint_frame"
    have hhash := hreads.last "checkpoint_hash"
    simp only [decodeCheckpoint, hframe, hhash]
    exact failIf_bind_ok.2 ⟨(hfollows checkpoint.frame.value).2 horder, rfl⟩

theorem decodeHeader_ok_iff {header : ReplayHeader} :
    decodeHeader reader = .ok (header, after) ↔ Reads reader header.bytes after := by
  constructor
  · intro h
    rw [decodeHeader] at h
    rcases hmagic : reader.readLittleEndian UInt32 "magic" with ⟨magic, r₁⟩
    rcases hreplay : r₁.readLittleEndian UInt16 "replay_version" with ⟨replayVersion, r₂⟩
    rcases hsimulation : r₂.readLittleEndian UInt16 "simulation_version" with ⟨simulation, r₃⟩
    rcases hprotocol : r₃.readLittleEndian UInt16 "protocol_version" with ⟨protocol, r₄⟩
    rcases hvariant : r₄.readLittleEndian UInt8 "variant" with ⟨variant, r₅⟩
    rcases hreserved : r₅.readLittleEndian UInt8 "reserved" with ⟨reserved, r₆⟩
    rcases hscenario : r₆.readLittleEndian UInt64 "scenario" with ⟨scenario, r₇⟩
    rcases htransport : r₇.readLittleEndian UInt64 "transport" with ⟨transport, r₈⟩
    rcases hfinal : r₈.readLittleEndian UInt32 "final_frame" with ⟨final, r₉⟩
    rcases hinputs : r₉.readLittleEndian UInt32 "input_count" with ⟨inputs, r₁₀⟩
    rcases hcheckpoints : r₁₀.readLittleEndian UInt32 "checkpoint_count" with ⟨checkpoints, r₁₁⟩
    rcases hhash : r₁₁.readLittleEndian UInt64 "expected_hash" with ⟨hash, r₁₂⟩
    simp only [hmagic, hreplay, hsimulation, hprotocol, hvariant, hreserved, hscenario, htransport,
      hfinal, hinputs, hcheckpoints, hhash] at h
    split at h
    · rw [readLittleEndian_ok_iff] at hmagic hreplay hsimulation hprotocol hvariant hreserved
      rw [readLittleEndian_ok_iff] at hscenario htransport hfinal hinputs hcheckpoints hhash
      cases h
      exact hmagic.trans (hreplay.trans (hsimulation.trans (hprotocol.trans (hvariant.trans
        (hreserved.trans (hscenario.trans (htransport.trans (hfinal.trans (hinputs.trans
          (hcheckpoints.trans hhash))))))))))
    · cases h
  · intro hreads
    obtain ⟨r₁, hmagic, hreads⟩ := Reads.next hreads "magic"
    obtain ⟨r₂, hreplay, hreads⟩ := hreads.next "replay_version"
    obtain ⟨r₃, hsimulation, hreads⟩ := hreads.next "simulation_version"
    obtain ⟨r₄, hprotocol, hreads⟩ := hreads.next "protocol_version"
    obtain ⟨r₅, hvariant, hreads⟩ := hreads.next "variant"
    obtain ⟨r₆, hreserved, hreads⟩ := hreads.next "reserved"
    obtain ⟨r₇, hscenario, hreads⟩ := hreads.next "scenario"
    obtain ⟨r₈, htransport, hreads⟩ := hreads.next "transport"
    obtain ⟨r₉, hfinal, hreads⟩ := hreads.next "final_frame"
    obtain ⟨r₁₀, hinputs, hreads⟩ := hreads.next "input_count"
    obtain ⟨r₁₁, hcheckpoints, hreads⟩ := hreads.next "checkpoint_count"
    have hhash := hreads.last "expected_hash"
    simp only [decodeHeader, hmagic, hreplay, hsimulation, hprotocol, hvariant, hreserved,
      hscenario, htransport, hfinal, hinputs, hcheckpoints, hhash]
    rfl

theorem iterate_succ_eq_ofNat (i : ℕ) : (fun index : UInt32 => index + 1)^[i] 0 = UInt32.ofNat i := by
  induction i with
  | zero => rfl
  | succ i ih =>
    rw [Function.iterate_succ_apply', ih, UInt32.ofNat_add]
    rfl

theorem decodePairs_ok_iff {count : ℕ} {pairs : List InputPair} :
    decodeRecords decodePair (fun index _ => index + 1) 0 count reader = .ok (pairs, after) ↔
      pairs.length = count ∧ ((∀ inputs ∈ pairs,
        (inputs.a.player = .a ∧ inputs.b.player = .b ∧ inputs.a.frame = inputs.b.frame) ∧
          inputs.a.buttons &&& 0xE0 = 0 ∧ inputs.b.buttons &&& 0xE0 = 0) ∧
        ∀ (i : ℕ) (inputs : InputPair), pairs[i]? = some inputs →
          inputs.a.frame = ⟨UInt32.ofNat i⟩) ∧
        Reads reader (pairs.flatMap pairBytes) after := by
  have hpair : ∀ index reader inputs after, decodePair index reader = .ok (inputs, after) ↔ _ :=
    fun _ _ _ _ => decodePair_ok_iff
  rw [decodeRecords_ok_iff hpair, goodRecords_and, goodRecords_iterate]
  simp only [iterate_succ_eq_ofNat]

/-- Below half the ring, frames in modular order are in the order of their values. -/
theorem isChain_frameBefore_iff {finalFrame : UInt32} (hfinal : finalFrame.toNat ≤ kMaxReplayFrames)
    {checkpoints : List ReplayCheckpoint}
    (hbounded : ∀ checkpoint ∈ checkpoints, checkpoint.frame.value ≤ finalFrame) :
    (checkpoints.IsChain fun checkpoint next => frameBefore checkpoint.frame next.frame = true) ↔
      checkpoints.Pairwise fun checkpoint next => checkpoint.frame.value < next.frame.value := by
  have hbefore : ∀ checkpoint ∈ checkpoints, ∀ next ∈ checkpoints,
      (frameBefore checkpoint.frame next.frame = true ↔
        checkpoint.frame.value < next.frame.value) := by
    intro checkpoint hc next hn
    have hc' := UInt32.le_iff_toNat_le.1 (hbounded checkpoint hc)
    have hn' := UInt32.le_iff_toNat_le.1 (hbounded next hn)
    simp only [kMaxReplayFrames] at hfinal
    rw [frameBefore_iff_toNat, frameDistance, UInt32.toNat_sub, UInt32.lt_iff_toNat_lt]
    omega
  have hsame : (checkpoints.IsChain fun checkpoint next =>
      frameBefore checkpoint.frame next.frame = true) ↔
      checkpoints.IsChain fun checkpoint next => checkpoint.frame.value < next.frame.value := by
    constructor
    · intro h
      exact List.IsChain.imp_of_mem_imp (fun _ _ hc hn => (hbefore _ hc _ hn).1) h
    · intro h
      exact List.IsChain.imp_of_mem_imp (fun _ _ hc hn => (hbefore _ hc _ hn).2) h
  have htrans : IsTrans ReplayCheckpoint fun checkpoint next =>
      checkpoint.frame.value < next.frame.value := ⟨fun _ _ _ => UInt32.lt_trans⟩
  rw [hsame, List.isChain_iff_pairwise]

theorem decodeCheckpoints_ok_iff {finalFrame : UInt32}
    (hfinal : finalFrame.toNat ≤ kMaxReplayFrames) {count : ℕ}
    {checkpoints : List ReplayCheckpoint} :
    decodeRecords (decodeCheckpoint finalFrame) (fun _ checkpoint => some checkpoint.frame) none
        count reader = .ok (checkpoints, after) ↔
      checkpoints.length = count ∧
        ((∀ checkpoint ∈ checkpoints, checkpoint.frame.value ≤ finalFrame) ∧
          checkpoints.Pairwise fun checkpoint next => checkpoint.frame.value < next.frame.value) ∧
        Reads reader (checkpoints.flatMap checkpointBytes) after := by
  have hcheckpoint : ∀ previous reader checkpoint after,
      decodeCheckpoint finalFrame previous reader = .ok (checkpoint, after) ↔ _ :=
    fun _ _ _ _ => decodeCheckpoint_ok_iff
  rw [decodeRecords_ok_iff hcheckpoint, goodRecords_and, goodRecords_chain]
  have hstart : (∀ earlier ∈ (none : Option FrameNumber), ∀ value ∈ checkpoints.head?,
      frameBefore earlier value.frame = true) := by
    simp
  rw [and_iff_right hstart]
  constructor
  · rintro ⟨hlen, ⟨hbounded, hchain⟩, hreads⟩
    exact ⟨hlen, ⟨hbounded, (isChain_frameBefore_iff hfinal hbounded).1 hchain⟩, hreads⟩
  · rintro ⟨hlen, ⟨hbounded, hpairwise⟩, hreads⟩
    exact ⟨hlen, ⟨hbounded, (isChain_frameBefore_iff hfinal hbounded).2 hpairwise⟩, hreads⟩

end Replay

theorem Replay.storedCrc_eq_iff {bytes : List UInt8} (h : Replay.checksumSize ≤ bytes.length)
    (checksum : UInt32) : Replay.storedCrc bytes = checksum ↔
      bytes = bytes.take (bytes.length - Replay.checksumSize) ++ encode checksum :=
  decode_drop_eq_iff h

/-- The replay a decoded header and the decoded records make. -/
def ReplayHeader.replay (header : ReplayHeader) (confirmedInputs : List InputPair)
    (checkpoints : List ReplayCheckpoint) : Replay where
  replayVersion := header.replayVersion
  simulationVersion := header.simulationVersion
  protocolVersion := header.protocolVersion
  variant := ⟨header.variant⟩
  scenarioSeed := header.scenario
  transportSeed := header.transport
  finalFrame := ⟨header.finalFrame⟩
  confirmedInputs
  checkpoints
  expectedFinalHash := header.expectedHash

/-- A header that counts its records is the header of its replay. -/
theorem ReplayHeader.header_replay {header : ReplayHeader} {pairs : List InputPair}
    {checkpoints : List ReplayCheckpoint} (hmagic : header.magic = kReplayMagic)
    (hreserved : header.reserved = 0) (hpairs : pairs.length = header.inputCount.toNat)
    (hcheckpoints : checkpoints.length = header.checkpointCount.toNat) :
    (header.replay pairs checkpoints).header = header := by
  simp only [Replay.header, ReplayHeader.replay, hpairs, hcheckpoints, UInt32.ofNat_toNat,
    ← hmagic, ← hreserved]

theorem Replay.Encodable.header_inputCount {replay : Replay} (h : replay.Encodable) :
    replay.header.inputCount = replay.finalFrame.value := by
  rw [Replay.header, h.final, UInt32.ofNat_toNat]

theorem Replay.Encodable.header_checkpointCount {replay : Replay} (h : replay.Encodable) :
    replay.header.checkpointCount.toNat = replay.checkpoints.length := by
  have hcount := h.count
  simp only [kMaxReplayCheckpoints] at hcount
  exact UInt32.toNat_ofNat_of_lt' (by simp only [UInt32.size]; omega)

/-- Decoding gives back the well-formed replays whose wire bytes it is given. -/
theorem decodeReplay_ok_iff {bytes : List UInt8} {replay : Replay} :
    decodeReplay bytes = .ok replay ↔
      (replay.Encodable ∧ replay.wireBytes = bytes) ∧ replay.WellFormed := by
  constructor
  · intro h
    simp only [decodeReplay, failIf_bind_ok, ne_eq, not_not] at h
    obtain ⟨hmin, hchecksum, h⟩ := h
    rw [bind_ok_iff] at h
    obtain ⟨⟨header, r₁⟩, hheader, h⟩ := h
    simp only [failIf_bind_ok, not_or, not_not, not_lt] at h
    obtain ⟨hmagic, hversions, ⟨hvariant, hreserved⟩, ⟨hframes, hcount, hfinal⟩, hlength, h⟩ := h
    rw [bind_ok_iff] at h
    obtain ⟨⟨pairs, r₂⟩, hpairs, h⟩ := h
    rw [bind_ok_iff] at h
    obtain ⟨⟨checkpoints, r₃⟩, hcheckpoints, h⟩ := h
    have hreplay : header.replay pairs checkpoints = replay := Except.ok.inj h
    subst hreplay
    have hbound : header.finalFrame.toNat ≤ kMaxReplayFrames := hfinal ▸ hframes
    obtain ⟨hpairsLen, ⟨hgood, hindex⟩, hreadPairs⟩ := Replay.decodePairs_ok_iff.1 hpairs
    obtain ⟨hcheckpointsLen, ⟨hbounded, hincreasing⟩, hreadCheckpoints⟩ :=
      (Replay.decodeCheckpoints_ok_iff hbound).1 hcheckpoints
    have hsame := ReplayHeader.header_replay hmagic hreserved hpairsLen hcheckpointsLen
    -- the lengths leave nothing after the last record
    have hreads := (Replay.decodeHeader_ok_iff.1 hheader).trans (hreadPairs.trans hreadCheckpoints)
    have hwhole := (Replay.storedCrc_eq_iff (by simp only [Replay.checksumSize] at *; omega) _).1
      hchecksum
    have hbody : bytes.take (bytes.length - Replay.checksumSize) =
        (header.replay pairs checkpoints).body := by
      have hrest : bytes.take (bytes.length - Replay.checksumSize) = _ := hreads.rest
      have hlen := congrArg List.length hrest
      rw [List.length_take_of_le (Nat.sub_le _ _)] at hlen
      simp only [List.length_append, List.length_flatMap, Replay.length_pairBytes,
        Replay.length_checkpointBytes, Replay.length_headerBytes, List.map_const',
        List.sum_replicate_nat, hpairsLen, hcheckpointsLen] at hlen
      have hnil : r₃.bytes.drop r₃.offset = [] := by
        rw [← List.length_eq_zero_iff]
        omega
      rw [hrest, hnil, List.append_nil, Replay.body, hsame]
      rfl
    refine ⟨⟨⟨hversions, hvariant, ?_, ?_, ?_, fun inputs hi => (hgood inputs hi).1⟩, ?_⟩,
      ⟨fun i inputs hi => ?_, fun inputs hi => (hgood inputs hi).2, hincreasing, hbounded⟩⟩
    · rw [show (header.replay pairs checkpoints).confirmedInputs.length = _ from hpairsLen]
      exact hframes
    · rw [show (header.replay pairs checkpoints).checkpoints.length = _ from hcheckpointsLen]
      exact hcount
    · rw [show (header.replay pairs checkpoints).confirmedInputs.length = _ from hpairsLen, hfinal]
      rfl
    · rw [Replay.wireBytes, ← hbody, ← hwhole]
    · have hframe := hindex i inputs hi
      exact ⟨hframe, (hgood inputs (List.mem_of_getElem? hi)).1.2.2 ▸ hframe⟩
  · rintro ⟨⟨h, rfl⟩, hwell⟩
    have hlen := Replay.length_wireBytes replay
    have htake : replay.wireBytes.take (replay.wireBytes.length - Replay.checksumSize) =
        replay.body := by
      rw [Replay.wireBytes, List.length_append, length_encode, Replay.checksumSize]
      simp [FixedWidth.size]
    have hchecksum : Replay.storedCrc replay.wireBytes = crc32 replay.body := by
      rw [Replay.storedCrc_eq_iff (by rw [hlen]; omega), htake]
      rfl
    have hreads : Reads ⟨replay.body, 0⟩ replay.body ⟨replay.body, replay.body.length⟩ :=
      ⟨rfl, by simp, by simp⟩
    obtain ⟨r₁, hreadHeader, hreads⟩ := Reads.append_iff.1 hreads
    obtain ⟨r₂, hreadPairs, hreadCheckpoints⟩ := Reads.append_iff.1 hreads
    have hbound : replay.finalFrame.value.toNat ≤ kMaxReplayFrames := h.final ▸ h.frames
    have hcount : replay.header.inputCount.toNat = replay.confirmedInputs.length := by
      rw [h.header_inputCount, h.final]
    have hpairs := Replay.decodePairs_ok_iff.2 ⟨hcount.symm,
      ⟨fun inputs hi => ⟨h.pairs inputs hi, hwell.buttons inputs hi⟩,
        fun i inputs hi => (hwell.frames i inputs hi).1⟩, hreadPairs⟩
    have hcheckpoints := (Replay.decodeCheckpoints_ok_iff hbound).2 ⟨h.header_checkpointCount.symm,
      ⟨hwell.bounded, hwell.increasing⟩, hreadCheckpoints⟩
    simp only [decodeReplay, failIf_bind_ok, htake, hchecksum]
    refine ⟨by rw [hlen]; omega, fun hne => hne rfl, ?_⟩
    refine bind_ok_iff.2 ⟨(replay.header, r₁), Replay.decodeHeader_ok_iff.2 hreadHeader, ?_⟩
    simp only [failIf_bind_ok, not_or, not_not, not_lt, ne_eq]
    refine ⟨rfl, h.versions, ⟨h.variant, rfl⟩, ⟨hcount ▸ h.frames, ?_, h.header_inputCount⟩, ?_, ?_⟩
    · rw [h.header_checkpointCount]
      exact h.count
    · rw [hlen, hcount, h.header_checkpointCount]
    · refine bind_ok_iff.2 ⟨(replay.confirmedInputs, r₂), hpairs, ?_⟩
      exact bind_ok_iff.2 ⟨(replay.checkpoints, _), hcheckpoints, rfl⟩

/-- The decoder accepts exactly the canonical file format: it returns a replay for the
bytes the encoder makes of it when it is well formed, and for no others. -/
theorem decode_replay_canonical (bytes : List UInt8) (replay : Replay) :
    decodeReplay bytes = .ok replay ↔ encodeReplay replay = .ok bytes ∧ replay.WellFormed := by
  rw [decodeReplay_ok_iff, encodeReplay_ok_iff]

/-- The encoder does not check what makes a replay well formed: it writes files that the
decoder refuses exactly for the other replays. -/
theorem decode_encoded_replay (replay : Replay) (bytes : List UInt8)
    (h : encodeReplay replay = .ok bytes) : decodeReplay bytes = .ok replay ↔ replay.WellFormed := by
  rw [decodeReplay_ok_iff, ← encodeReplay_ok_iff, and_iff_right h]

/-- A replay of one frame in which A fires. -/
def openingReplay : Replay where
  finalFrame := ⟨1⟩
  confirmedInputs := [⟨⟨⟨0⟩, .a, 0, 16⟩, ⟨⟨0⟩, .b, 0, 4⟩⟩]
  checkpoints := [⟨⟨1⟩, 14203825176458341089⟩]
  expectedFinalHash := 14203825176458341089

theorem decode_encoded_replay_opening :
    decodeReplay openingReplay.wireBytes = .ok openingReplay := by
  refine (decode_encoded_replay openingReplay _ (by decide +kernel)).2 ⟨fun i inputs hi => ?_,
    by decide, by decide, by decide⟩
  obtain ⟨rfl, rfl⟩ : i = 0 ∧ inputs = ⟨⟨⟨0⟩, .a, 0, 16⟩, ⟨⟨0⟩, .b, 0, 4⟩⟩ := by
    cases i with
    | zero => exact ⟨rfl, (Option.some.inj hi).symm⟩
    | succ i => cases hi
  decide

/-- One frame, in which A presses a button that does not exist. -/
def unknownButtonReplay : Replay where
  finalFrame := ⟨1⟩
  confirmedInputs := [⟨⟨⟨0⟩, .a, 0, 0x20⟩, ⟨⟨0⟩, .b, 0, 0⟩⟩]

theorem encoded_replay_refused : ∃ bytes e,
    encodeReplay unknownButtonReplay = .ok bytes ∧ decodeReplay bytes = .error e :=
  ⟨unknownButtonReplay.wireBytes, ⟨.invalidArgument, 0, 62, "replay_input"⟩, by decide +kernel,
    by decide +kernel⟩

end RollbackLab
