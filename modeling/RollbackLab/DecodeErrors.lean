import RollbackLab.PacketCodec

/-!
# The errors of the decoder

Whatever bytes arrive, the decoder blames them and nothing else: it never reports a
failure of the match itself.
-/

namespace RollbackLab

/-- The computation fails with codes of the set only. -/
def ErrorsIn (P : ErrorCode → Prop) {α : Type} (x : Result α) : Prop :=
  ∀ e, x = .error e → P e.code

section ErrorsIn

variable {P : ErrorCode → Prop} {α β : Type}

@[simp] theorem errorsIn_pure (a : α) : ErrorsIn P (pure a : Result α) := nofun

@[simp] theorem errorsIn_throw {e : Error} : ErrorsIn P (throw e : Result α) ↔ P e.code := by
  constructor
  · intro h
    exact h e rfl
  · rintro h e' he
    cases he
    exact h

theorem errorsIn_bind {x : Result α} {f : α → Result β} (hx : ErrorsIn P x)
    (hf : ∀ a, ErrorsIn P (f a)) : ErrorsIn P (x >>= f) := by
  intro e he
  cases h : x with
  | error e' =>
    rw [h] at he
    cases he
    exact hx e h
  | ok a =>
    rw [h] at he
    exact hf a e he

theorem errorsIn_failIf {condition : Prop} [Decidable condition] {e : Error} (h : P e.code) :
    ErrorsIn P (failIf condition e) := by
  intro e' he
  rw [failIf] at he
  split at he
  · cases he
    exact h
  · cases he

theorem errorsIn_failIf_bind {condition : Prop} [Decidable condition] {e : Error}
    {f : Unit → Result α} (h : P e.code) (hf : ErrorsIn P (f ())) :
    ErrorsIn P (failIf condition e >>= f) := errorsIn_bind (errorsIn_failIf h) fun _ => hf

theorem errorsIn_mapError {x : Result α} {f : Error → Error} (h : ∀ e, x = .error e → P (f e).code) :
    ErrorsIn P (x.mapError f) := by
  intro e he
  cases hx : x with
  | error e' =>
    rw [hx] at he
    cases he
    exact h e' hx
  | ok a =>
    rw [hx] at he
    cases he

theorem errorsIn_decodeRecords {σ : Type} {decode : σ → ByteReader → Result (α × ByteReader)}
    {next : σ → α → σ} (hdecode : ∀ state reader, ErrorsIn P (decode state reader)) (state : σ)
    (count : ℕ) (reader : ByteReader) : ErrorsIn P (decodeRecords decode next state count reader) := by
  induction count generalizing state reader with
  | zero => exact errorsIn_pure _
  | succ count ih =>
    apply errorsIn_bind (hdecode state reader)
    rintro ⟨value, rest⟩
    apply errorsIn_bind (ih (next state value) rest)
    rintro ⟨values, last⟩
    exact errorsIn_pure _

end ErrorsIn

/-- What is wrong with bytes that are no packet. -/
def Malformed (code : ErrorCode) : Prop :=
  code ∈ [.invalidArgument, .capacityExceeded, .invalidMagic, .unsupportedVersion,
    .unknownPacketType, .truncatedData, .invalidLength, .integrityMismatch]

open LittleEndian in
theorem errorsIn_readLittleEndian (α : Type) [FixedWidth α] (reader : ByteReader) (context : String) :
    ErrorsIn (· = .truncatedData) (reader.readLittleEndian α context).1 := by
  intro e he
  rw [ByteReader.readLittleEndian] at he
  split at he
  · cases he
    rfl
  · cases he

theorem decodeHeader_errors (reader : ByteReader) : ErrorsIn Malformed (decodeHeader reader) := by
  rw [decodeHeader]
  dsimp only
  refine errorsIn_failIf_bind (by simp [Malformed, decodeError]) ?_
  refine errorsIn_failIf_bind (by simp [Malformed, decodeError]) ?_
  refine errorsIn_bind ?_ fun typeByte => ?_
  · apply errorsIn_mapError
    intro e he
    have hcode := errorsIn_readLittleEndian UInt8 _ "type" e he
    dsimp only [decodeError] at hcode ⊢
    rw [hcode]
    simp [Malformed]
  refine errorsIn_failIf_bind (by simp [Malformed, decodeError]) ?_
  refine errorsIn_failIf_bind (by simp [Malformed, decodeError]) ?_
  split
  · exact errorsIn_pure _
  · exact errorsIn_throw.2 (by simp [Malformed, decodeError])

theorem decodeInput_errors (sender : UInt8) (reader : ByteReader) :
    ErrorsIn Malformed (decodeInput sender reader) := by
  rw [decodeInput]
  dsimp only
  split
  · exact errorsIn_failIf_bind (by simp [Malformed, decodeError]) (errorsIn_pure _)
  · exact errorsIn_throw.2 (by simp [Malformed, decodeError])

theorem decodeHash_errors (previous : Option FrameNumber) (reader : ByteReader) :
    ErrorsIn Malformed (decodeHash previous reader) := by
  rw [decodeHash]
  dsimp only
  split
  · exact errorsIn_failIf_bind (by simp [Malformed, decodeError]) (errorsIn_pure _)
  · exact errorsIn_throw.2 (by simp [Malformed, decodeError])

theorem decodeHello_errors (header : PacketHeader) (reader : ByteReader) :
    ErrorsIn Malformed (decodeHello header reader) := by
  rw [decodeHello]
  split
  · refine errorsIn_failIf_bind (by simp [Malformed, decodeError]) ?_
    dsimp only
    split
    · exact errorsIn_pure _
    · exact errorsIn_throw.2 (by simp [Malformed, decodeError])
  · exact errorsIn_pure _

theorem decodePacket_errors (bytes : List UInt8) : ErrorsIn Malformed (decodePacket bytes) := by
  rw [decodePacket]
  refine errorsIn_failIf_bind (by simp [Malformed, decodeError]) ?_
  refine errorsIn_failIf_bind (by simp [Malformed, decodeError]) ?_
  dsimp only
  refine errorsIn_failIf_bind (by simp [Malformed, decodeError]) ?_
  apply errorsIn_bind (decodeHeader_errors _)
  rintro ⟨header, reader⟩
  refine errorsIn_failIf_bind (by simp [Malformed, decodeError]) ?_
  refine errorsIn_failIf_bind (by simp [Malformed, decodeError]) ?_
  dsimp only
  refine errorsIn_failIf_bind (by simp [Malformed, decodeError]) ?_
  apply errorsIn_bind (errorsIn_decodeRecords (fun _ => decodeInput_errors _) _ _ _)
  rintro ⟨inputs, reader⟩
  apply errorsIn_bind (errorsIn_decodeRecords decodeHash_errors _ _ _)
  rintro ⟨hashes, reader⟩
  apply errorsIn_bind (decodeHello_errors _ _)
  rintro ⟨hello, reader⟩
  exact errorsIn_failIf_bind (by simp [Malformed, decodeError]) (errorsIn_pure _)

end RollbackLab
