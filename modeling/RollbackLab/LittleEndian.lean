import Mathlib.Data.Nat.Bitwise
import Mathlib.Tactic.Linarith
import Mathlib.Tactic.Ring

/-!
# Little-endian integers

Fixed-width integers as byte strings, least significant byte first. Encoding shifts
each byte out of the word, decoding shifts each byte back in, and on strings of the
right length the two are inverse to each other.
-/

namespace LittleEndian

/-- An integer type of `size` bytes, seen through its unsigned representation. -/
class FixedWidth (α : Type) where
  size : ℕ
  toBits : α → ℕ
  ofBits : ℕ → α
  toBits_lt : ∀ x, toBits x < 256 ^ size
  ofBits_toBits : ∀ x, ofBits (toBits x) = x
  toBits_ofBits : ∀ n, n < 256 ^ size → toBits (ofBits n) = n

open FixedWidth

instance : FixedWidth UInt8 where
  size := 1
  toBits := UInt8.toNat
  ofBits := UInt8.ofNat
  toBits_lt x := x.toNat_lt
  ofBits_toBits x := UInt8.ofNat_toNat
  toBits_ofBits n h := by simpa using h

instance : FixedWidth UInt16 where
  size := 2
  toBits := UInt16.toNat
  ofBits := UInt16.ofNat
  toBits_lt x := x.toNat_lt
  ofBits_toBits x := UInt16.ofNat_toNat
  toBits_ofBits n h := by simpa using h

instance : FixedWidth UInt32 where
  size := 4
  toBits := UInt32.toNat
  ofBits := UInt32.ofNat
  toBits_lt x := x.toNat_lt
  ofBits_toBits x := UInt32.ofNat_toNat
  toBits_ofBits n h := by simpa using h

instance : FixedWidth UInt64 where
  size := 8
  toBits := UInt64.toNat
  ofBits := UInt64.ofNat
  toBits_lt x := x.toNat_lt
  ofBits_toBits x := UInt64.ofNat_toNat
  toBits_ofBits n h := by simpa using h

instance : FixedWidth Int8 where
  size := 1
  toBits x := x.toUInt8.toNat
  ofBits n := (UInt8.ofNat n).toInt8
  toBits_lt x := x.toUInt8.toNat_lt
  ofBits_toBits x := by simp
  toBits_ofBits n h := by simpa using h

instance : FixedWidth Int16 where
  size := 2
  toBits x := x.toUInt16.toNat
  ofBits n := (UInt16.ofNat n).toInt16
  toBits_lt x := x.toUInt16.toNat_lt
  ofBits_toBits x := by simp
  toBits_ofBits n h := by simpa using h

instance : FixedWidth Int32 where
  size := 4
  toBits x := x.toUInt32.toNat
  ofBits n := (UInt32.ofNat n).toInt32
  toBits_lt x := x.toUInt32.toNat_lt
  ofBits_toBits x := by simp
  toBits_ofBits n h := by simpa using h

/-- The `size` low bytes of a word, each shifted out and masked. -/
def scatter (size bits : ℕ) : List UInt8 :=
  (List.range size).map fun index => UInt8.ofNat ((bits >>> (index * 8)) &&& 0xFF)

/-- Shift every byte in at its place. -/
def gather (bytes : List UInt8) : ℕ :=
  bytes.zipIdx.foldl (fun bits (byte, index) => bits ||| byte.toNat <<< (index * 8)) 0

variable {α : Type} [FixedWidth α]

def encode (value : α) : List UInt8 := scatter (size α) (toBits value)

def decode (bytes : List UInt8) : α := ofBits (gather bytes)

/-- The number a byte string stands for, by Horner's rule. -/
def value : List UInt8 → ℕ
  | [] => 0
  | byte :: bytes => byte.toNat + 256 * value bytes

theorem value_nil : value [] = 0 := rfl

theorem value_cons (byte : UInt8) (bytes : List UInt8) :
    value (byte :: bytes) = byte.toNat + 256 * value bytes := rfl

theorem value_lt (bytes : List UInt8) : value bytes < 256 ^ bytes.length := by
  induction bytes with
  | nil => simp [value_nil]
  | cons byte bytes ih =>
    have hb : byte.toNat < 256 := byte.toNat_lt
    simp only [value_cons, List.length_cons, pow_succ]
    omega

theorem value_inj {xs ys : List UInt8} (hlen : xs.length = ys.length) (h : value xs = value ys) :
    xs = ys := by
  induction xs generalizing ys with
  | nil => exact (List.length_eq_zero_iff.1 hlen.symm).symm
  | cons x xs ih =>
    cases ys with
    | nil => simp at hlen
    | cons y ys =>
      have hx : x.toNat < 256 := x.toNat_lt
      have hy : y.toNat < 256 := y.toNat_lt
      simp only [value_cons] at h
      have hxy : x = y := UInt8.toNat_inj.1 (by omega)
      rw [hxy, ih (by simpa using hlen) (by omega)]

private theorem foldl_eq_add (bytes : List UInt8) (k acc : ℕ) (hacc : acc < 2 ^ (k * 8)) :
    (bytes.zipIdx k).foldl (fun bits (byte, index) => bits ||| byte.toNat <<< (index * 8)) acc =
      acc + 2 ^ (k * 8) * value bytes := by
  induction bytes generalizing k acc with
  | nil => simp [value_nil]
  | cons byte bytes ih =>
    have hor : acc ||| byte.toNat <<< (k * 8) = acc + 2 ^ (k * 8) * byte.toNat := by
      rw [Nat.shiftLeft_eq, mul_comm, Nat.or_comm, ← Nat.two_pow_add_eq_or_of_lt hacc, add_comm]
    have hb : byte.toNat < 256 := byte.toNat_lt
    have hnext : acc + 2 ^ (k * 8) * byte.toNat < 2 ^ ((k + 1) * 8) := by
      rw [show (k + 1) * 8 = k * 8 + 8 by ring, pow_add]
      nlinarith
    rw [List.zipIdx_cons, List.foldl_cons]
    dsimp only
    rw [hor, ih (k + 1) _ hnext, value_cons,
      show (k + 1) * 8 = k * 8 + 8 by ring, pow_add]
    ring

theorem gather_eq_value (bytes : List UInt8) : gather bytes = value bytes := by
  simpa [gather] using foldl_eq_add bytes 0 0 (by norm_num)

@[simp] theorem length_scatter (k bits : ℕ) : (scatter k bits).length = k := by simp [scatter]

theorem scatter_succ (k bits : ℕ) :
    scatter (k + 1) bits = UInt8.ofNat (bits % 256) :: scatter k (bits / 256) := by
  have hmask : ∀ n : ℕ, n &&& 0xFF = n % 256 := fun n => Nat.and_two_pow_sub_one_eq_mod n 8
  rw [scatter, List.range_succ_eq_map, List.map_cons, List.map_map]
  congr 1
  · simp [hmask]
  · apply List.map_congr_left
    intro index _
    simp only [Function.comp, hmask, Nat.shiftRight_eq_div_pow]
    rw [show (index + 1) * 8 = 8 + index * 8 by ring, pow_add, ← Nat.div_div_eq_div_mul]
    norm_num

theorem value_scatter (k bits : ℕ) : value (scatter k bits) = bits % 256 ^ k := by
  induction k generalizing bits with
  | zero => simp [scatter, value_nil, Nat.mod_one]
  | succ k ih =>
    rw [scatter_succ, value_cons, ih, pow_succ', Nat.mod_mul]
    simp

@[simp] theorem length_encode (x : α) : (encode x).length = size α := length_scatter _ _

/-- Reading back what was written. -/
@[simp] theorem decode_encode (x : α) : decode (encode x) = x := by
  rw [decode, gather_eq_value, encode, value_scatter, Nat.mod_eq_of_lt (toBits_lt x), ofBits_toBits]

/-- Writing back what was read. -/
theorem encode_decode {bytes : List UInt8} (h : bytes.length = size α) :
    encode (decode bytes : α) = bytes := by
  apply value_inj (by rw [length_encode, h])
  have hlt : gather bytes < 256 ^ size α := by
    rw [gather_eq_value, ← h]
    exact value_lt bytes
  rw [encode, value_scatter, decode, toBits_ofBits _ hlt, gather_eq_value,
    Nat.mod_eq_of_lt (h ▸ value_lt bytes)]

/-- A word stands at the end of the bytes exactly when they are some bytes and its encoding. -/
theorem decode_drop_eq_iff {bytes : List UInt8} (h : size α ≤ bytes.length) {x : α} :
    decode (bytes.drop (bytes.length - size α)) = x ↔
      bytes = bytes.take (bytes.length - size α) ++ encode x := by
  have hlen : (bytes.drop (bytes.length - size α)).length = size α := by
    rw [List.length_drop]
    exact Nat.sub_sub_self h
  constructor
  · intro heq
    rw [← heq, encode_decode hlen, List.take_append_drop]
  · intro heq
    have hdrop := List.append_cancel_left ((List.take_append_drop _ bytes).trans heq)
    rw [hdrop, decode_encode]

theorem encode_injective : Function.Injective (encode : α → List UInt8) :=
  Function.LeftInverse.injective decode_encode

/-- A layout in which every value takes `k` bytes and can be told from any other. -/
structure FixedRecord {β : Type} (record : β → List UInt8) (k : ℕ) : Prop where
  length : ∀ x, (record x).length = k
  injective : Function.Injective record

theorem fixedRecord_encode (α : Type) [FixedWidth α] :
    FixedRecord (encode : α → List UInt8) (FixedWidth.size α) :=
  ⟨length_encode, encode_injective⟩

namespace FixedRecord

variable {β γ : Type} {record : β → List UInt8} {other : γ → List UInt8} {k l : ℕ}

/-- At the head of a string a record is read off with what follows it. -/
theorem append_inj (h : FixedRecord record k) {x y : β} {xs ys : List UInt8} :
    record x ++ xs = record y ++ ys ↔ x = y ∧ xs = ys := by
  constructor
  · intro heq
    obtain ⟨hx, hxs⟩ := List.append_inj heq (by rw [h.length, h.length])
    exact ⟨h.injective hx, hxs⟩
  · rintro ⟨rfl, rfl⟩
    rfl

theorem length_flatMap (h : FixedRecord record k) (xs : List β) :
    (xs.flatMap record).length = k * xs.length := by
  induction xs with
  | nil => rfl
  | cons x xs ih =>
    rw [List.flatMap_cons, List.length_append, h.length, ih, List.length_cons]
    ring

/-- So is a table of records whose number is known. -/
theorem flatMap_append_inj (h : FixedRecord record k) {xs ys : List β}
    (hlen : xs.length = ys.length) {rest rest' : List UInt8} :
    xs.flatMap record ++ rest = ys.flatMap record ++ rest' ↔ xs = ys ∧ rest = rest' := by
  induction xs generalizing ys with
  | nil =>
    rw [List.length_eq_zero_iff.1 hlen.symm]
    simp
  | cons x xs ih =>
    cases ys with
    | nil => simp at hlen
    | cons y ys =>
      rw [List.flatMap_cons, List.flatMap_cons, List.append_assoc, List.append_assoc, h.append_inj,
        ih (by simpa using hlen), List.cons.injEq, and_assoc]

theorem flatMap_inj (h : FixedRecord record k) {xs ys : List β} (hlen : xs.length = ys.length) :
    xs.flatMap record = ys.flatMap record ↔ xs = ys := by
  rw [← List.append_cancel_right_eq _ [] (ys.flatMap record), h.flatMap_append_inj hlen,
    and_iff_left rfl]

end FixedRecord

end LittleEndian
