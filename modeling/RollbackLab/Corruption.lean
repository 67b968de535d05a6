import RollbackLab.CyclicRedundancy
import RollbackLab.PacketCodec
import RollbackLab.ReplayCodec

/-!
# Short corruption

Bytes that end in their own checksum leave the register of the checksum in one fixed
state, so changes within four consecutive bytes, the checksum's own included, never go
unnoticed.
-/

namespace RollbackLab

open CyclicRedundancy LittleEndian

def crcPolynomial : ℕ := 0xEDB88320

theorem crcPolynomial_lt : crcPolynomial < 2 ^ 32 := by decide

theorem crcPolynomial_full : 2 ^ 32 ≤ 2 * crcPolynomial := by decide

/-- The masked step of the loop is the step of the register. -/
theorem toNat_crcShift (checksum : UInt32) :
    ((checksum >>> 1) ^^^ (0xEDB88320 &&& (0 - (checksum &&& 1)))).toNat =
      shift crcPolynomial checksum.toNat := by
  have hlow : (checksum &&& 1).toNat = checksum.toNat % 2 := by
    rw [UInt32.toNat_and]
    exact Nat.and_one_is_mod _
  rw [shift, UInt32.toNat_xor, UInt32.toNat_shiftRight]
  congr 1
  split
  next hodd =>
    have hone : checksum &&& 1 = 1 := UInt32.toNat_inj.1 (hlow.trans hodd)
    rw [hone]
    rfl
  next heven =>
    have hzero : checksum &&& 1 = 0 := by
      rw [← UInt32.toNat_inj, hlow, UInt32.toNat_zero]
      omega
    rw [hzero]
    rfl

theorem toNat_foldl_crcShift (n : ℕ) (checksum : UInt32) :
    ((List.range n).foldl (fun (checksum : UInt32) _ =>
      (checksum >>> 1) ^^^ (0xEDB88320 &&& (0 - (checksum &&& 1)))) checksum).toNat =
      (shift crcPolynomial)^[n] checksum.toNat := by
  induction n with
  | zero => rfl
  | succ n ih =>
    rw [List.range_succ, List.foldl_append, Function.iterate_succ_apply', ← ih]
    exact toNat_crcShift _

/-- The loop over the bytes feeds the register. -/
theorem toNat_crc32 (bytes : List UInt8) :
    (crc32 bytes).toNat = feed crcPolynomial 0xFFFFFFFF bytes ^^^ 0xFFFFFFFF := by
  have hloop : ∀ (bytes : List UInt8) (checksum : UInt32), (bytes.foldl (fun (checksum : UInt32) byte =>
      (List.range 8).foldl (fun (checksum : UInt32) _ =>
        (checksum >>> 1) ^^^ (0xEDB88320 &&& (0 - (checksum &&& 1))))
          (checksum ^^^ byte.toUInt32)) checksum).toNat = feed crcPolynomial checksum.toNat bytes := by
    intro bytes
    induction bytes with
    | nil => exact fun _ => rfl
    | cons byte bytes ih =>
      intro checksum
      rw [List.foldl_cons, ih, toNat_foldl_crcShift, UInt32.toNat_xor, UInt8.toNat_toUInt32]
      rfl
  rw [crc32, UInt32.toNat_xor]
  dsimp only
  rw [hloop]
  rfl

/-- The state in which bytes that end in their own checksum leave the register. -/
def crcResidue : ℕ := (shift crcPolynomial)^[32] 0xFFFFFFFF

theorem feed_checksum (body : List UInt8) :
    feed crcPolynomial 0xFFFFFFFF (body ++ encode (crc32 body)) = crcResidue := by
  have hvalue : value (encode (crc32 body)) = (crc32 body).toNat := by
    rw [encode, value_scatter]
    exact Nat.mod_eq_of_lt (crc32 body).toNat_lt
  have hlength : (encode (crc32 body)).length = 4 := length_encode _
  rw [feed, List.foldl_append]
  change feed crcPolynomial (feed crcPolynomial 0xFFFFFFFF body) (encode (crc32 body)) = _
  rw [feed_eq, hvalue, hlength, toNat_crc32, Nat.xor_xor_cancel_left]
  rfl

/-- Bytes of one length that differ, but only within four consecutive ones from `k` on. -/
structure DiffersWithin (bytes bytes' : List UInt8) (k : ℕ) : Prop where
  length : bytes'.length = bytes.length
  differs : bytes' ≠ bytes
  outside : ∀ i, i < k ∨ k + 4 ≤ i → bytes'[i]? = bytes[i]?

/-- A window that ends within the bytes. -/
theorem DiffersWithin.inside {bytes bytes' : List UInt8} {k : ℕ} (h : DiffersWithin bytes bytes' k)
    (hlength : 4 ≤ bytes.length) : ∃ j, j + 4 ≤ bytes.length ∧ DiffersWithin bytes bytes' j := by
  refine ⟨min k (bytes.length - 4), by omega, h.length, h.differs, fun i hi => ?_⟩
  by_cases hend : bytes.length ≤ i
  · rw [List.getElem?_eq_none hend, List.getElem?_eq_none (h.length ▸ hend)]
  · exact h.outside i (by omega)

/-- Two strings that both end in their own checksum do not differ in a short window only. -/
theorem DiffersWithin.checksum_ne {bytes bytes' : List UInt8} {k : ℕ} (h : DiffersWithin bytes bytes' k)
    {body body' : List UInt8} (hbytes : bytes = body ++ encode (crc32 body))
    (hbytes' : bytes' = body' ++ encode (crc32 body')) : False := by
  have hlong : 4 ≤ bytes.length := by
    have hlength : (encode (crc32 body)).length = 4 := length_encode _
    rw [hbytes, List.length_append, hlength]
    omega
  obtain ⟨j, hj, h⟩ := h.inside hlong
  have hsplit : ∀ bytes : List UInt8,
      bytes = bytes.take j ++ (bytes.drop j).take 4 ++ bytes.drop (j + 4) := by
    intro bytes
    rw [List.append_assoc, ← List.drop_drop, List.take_append_drop, List.take_append_drop]
  have hfront : bytes'.take j = bytes.take j := by
    apply List.ext_getElem?
    intro i
    rw [List.getElem?_take, List.getElem?_take]
    split
    next hi => exact h.outside i (Or.inl hi)
    next => rfl
  have hrest : bytes'.drop (j + 4) = bytes.drop (j + 4) := by
    apply List.ext_getElem?
    intro i
    rw [List.getElem?_drop, List.getElem?_drop]
    exact h.outside _ (Or.inr (Nat.le_add_right _ _))
  have hfeed : feed crcPolynomial 0xFFFFFFFF bytes = feed crcPolynomial 0xFFFFFFFF bytes' := by
    rw [hbytes, hbytes', feed_checksum, feed_checksum]
  rw [hsplit bytes, hsplit bytes', hfront, hrest] at hfeed
  have hlength := h.length
  have hwindow := window_eq crcPolynomial_lt crcPolynomial_full (by omega) (by decide)
    (by simp only [List.length_take, List.length_drop, hlength])
    (by simp only [List.length_take, List.length_drop]; omega) hfeed
  apply h.differs
  rw [hsplit bytes, hsplit bytes', hfront, hrest, hwindow]

/-- A change within four consecutive bytes of an accepted packet or replay is always
found by its checksum. -/
theorem short_corruption_caught :
    (∀ bytes bytes' packet k, decodePacket bytes = .ok packet → DiffersWithin bytes bytes' k →
      ∃ e, decodePacket bytes' = .error e ∧ e.code = .integrityMismatch) ∧
    ∀ bytes bytes' replay k, decodeReplay bytes = .ok replay → DiffersWithin bytes bytes' k →
      ∃ e, decodeReplay bytes' = .error e ∧ e.code = .integrityMismatch := by
  refine ⟨fun bytes bytes' packet k hdecode hdiffers => ?_,
    fun bytes bytes' replay k hdecode hdiffers => ?_⟩
  · have hwire : bytes = packet.body ++ encode (crc32 packet.body) :=
      (decodePacket_ok_iff.1 hdecode).1.2.symm
    simp only [decodePacket, failIf_bind_ok] at hdecode
    obtain ⟨hmin, hmax, -⟩ := hdecode
    rw [← hdiffers.length] at hmin hmax
    refine ⟨decodeError .integrityMismatch (bytes'.length - checksumSize) "crc32"
      (readChecksum bytes').toUInt64, ?_, rfl⟩
    rw [decodePacket, failIf_bind_of_not hmin, failIf_bind_of_not hmax]
    apply failIf_bind_of
    intro hchecksum
    apply hdiffers.checksum_ne hwire
    exact (readChecksum_eq_iff (by simp only [headerSize, checksumSize] at *; omega) _).1 hchecksum
  · have hwire : bytes = replay.body ++ encode (crc32 replay.body) :=
      (decodeReplay_ok_iff.1 hdecode).1.2.symm
    simp only [decodeReplay, failIf_bind_ok] at hdecode
    obtain ⟨hmin, -⟩ := hdecode
    rw [← hdiffers.length] at hmin
    refine ⟨Replay.failure .integrityMismatch (bytes'.length - Replay.checksumSize) "replay_crc" 0,
      ?_, rfl⟩
    rw [decodeReplay, failIf_bind_of_not hmin]
    apply failIf_bind_of
    intro hchecksum
    apply hdiffers.checksum_ne hwire
    exact (Replay.storedCrc_eq_iff
      (by simp only [Replay.headerSize, Replay.checksumSize] at *; omega) _).1 hchecksum

/-- A packet and a replay in which the first and the last byte of a window are overwritten. -/
theorem short_corruption_caught_window :
    (∃ e, decodePacket ((windowPacket.wireBytes.set 40 0xA5).set 43 0xA5) = .error e ∧
      e.code = .integrityMismatch) ∧
    ∃ e, decodeReplay ((openingReplay.wireBytes.set 50 0xA5).set 53 0xA5) = .error e ∧
      e.code = .integrityMismatch := by
  have hoverwritten : ∀ (bytes : List UInt8) (k i : ℕ), i < k ∨ k + 4 ≤ i →
      ((bytes.set k 0xA5).set (k + 3) 0xA5)[i]? = bytes[i]? := by
    intro bytes k i hi
    rw [List.getElem?_set_ne (by omega), List.getElem?_set_ne (by omega)]
  have hpacket : decodePacket windowPacket.wireBytes = .ok windowPacket := by decide +kernel
  have hreplay : decodeReplay openingReplay.wireBytes = .ok openingReplay := by decide +kernel
  exact ⟨short_corruption_caught.1 _ _ _ 40 hpacket
      ⟨by simp, by decide, hoverwritten windowPacket.wireBytes 40⟩,
    short_corruption_caught.2 _ _ _ 50 hreplay
      ⟨by simp, by decide, hoverwritten openingReplay.wireBytes 50⟩⟩

end RollbackLab
