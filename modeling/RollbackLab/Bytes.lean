import RollbackLab.Error
import RollbackLab.LittleEndian
import Mathlib.Data.List.Chain

/-!
# Writing and reading bytes

The writer appends words to a byte string, the reader takes them off at a moving
offset. `Reads` relates a reader to the reader that stands behind the bytes it has
taken; a word is read exactly when its encoding comes next.
-/

namespace RollbackLab

open LittleEndian

/-- Stop with an error when the condition holds. -/
def failIf (condition : Prop) [Decidable condition] (error : Error) : Result Unit :=
  if condition then .error error else .ok ()

theorem bind_ok_iff {ε α β : Type} {x : Except ε α} {f : α → Except ε β} {b : β} :
    (x >>= f) = .ok b ↔ ∃ a, x = .ok a ∧ f a = .ok b := by
  cases x with
  | error error => simp [bind, Except.bind]
  | ok a => simp [bind, Except.bind]

theorem failIf_bind_ok {α : Type} {condition : Prop} [Decidable condition] {error : Error}
    {f : Unit → Result α} {a : α} :
    (failIf condition error >>= f) = .ok a ↔ ¬condition ∧ f () = .ok a := by
  by_cases h : condition
  · simp [failIf, h, bind, Except.bind]
  · simp [failIf, h, bind, Except.bind]

theorem failIf_bind_of_not {α : Type} {condition : Prop} [Decidable condition] {error : Error}
    {f : Unit → Result α} (h : ¬condition) : (failIf condition error >>= f) = f () := by
  rw [failIf, if_neg h]
  rfl

theorem failIf_bind_of {α : Type} {condition : Prop} [Decidable condition] {error : Error}
    {f : Unit → Result α} (h : condition) : (failIf condition error >>= f) = .error error := by
  rw [failIf, if_pos h]
  rfl

/-- A loop of checks passes when every element does. -/
theorem forM_failIf_bind_ok {α β : Type} {xs : List β} {condition : β → Prop}
    [DecidablePred condition] {error : β → Error} {f : Unit → Result α} {a : α} :
    (forM xs (fun x => failIf (condition x) (error x)) >>= f) = .ok a ↔
      (∀ x ∈ xs, ¬condition x) ∧ f () = .ok a := by
  induction xs with
  | nil => simp [pure, Except.pure, bind, Except.bind]
  | cons x xs ih =>
    rw [List.forM_cons, bind_assoc, failIf_bind_ok, ih, List.forall_mem_cons, and_assoc]

/-- CRC-32 with the reflected polynomial, a bit at a time. -/
def crc32 (bytes : List UInt8) : UInt32 :=
  let shift (checksum : UInt32) : UInt32 :=
    let mask := 0 - (checksum &&& 1)
    (checksum >>> 1) ^^^ (0xEDB88320 &&& mask)
  let checksum := bytes.foldl (fun checksum byte =>
    (List.range 8).foldl (fun checksum _ => shift checksum) (checksum ^^^ byte.toUInt32)) 0xFFFFFFFF
  checksum ^^^ 0xFFFFFFFF

structure ByteWriter where
  bytes : List UInt8 := []

namespace ByteWriter

variable {α : Type} [FixedWidth α]

def appendLittleEndian (writer : ByteWriter) (value : α) : ByteWriter :=
  ⟨writer.bytes ++ encode value⟩

def size (writer : ByteWriter) : ℕ := writer.bytes.length

def patchU16 (writer : ByteWriter) (offset : ℕ) (value : UInt16) : ByteWriter :=
  ⟨(writer.bytes.set offset (value &&& 0xFF).toUInt8).set (offset + 1)
    ((value >>> 8) &&& 0xFF).toUInt8⟩

@[simp] theorem bytes_appendLittleEndian (writer : ByteWriter) (value : α) :
    (writer.appendLittleEndian value).bytes = writer.bytes ++ encode value := rfl

/-- Patching the two bytes of a word replaces the word. -/
theorem bytes_patchU16 {writer : ByteWriter} {before after : List UInt8} {old : UInt16}
    (h : writer.bytes = before ++ (encode old ++ after)) (value : UInt16) :
    (writer.patchU16 before.length value).bytes = before ++ (encode value ++ after) := by
  have hsplit : ∀ word : UInt16, encode word =
      [(word &&& 0xFF).toUInt8, ((word >>> 8) &&& 0xFF).toUInt8] := by
    intro word
    rfl
  simp only [patchU16, h, hsplit]
  simp

/-- A loop that appends one record after the other. -/
theorem bytes_foldl {β : Type} {write : ByteWriter → β → ByteWriter} {record : β → List UInt8}
    (h : ∀ writer x, (write writer x).bytes = writer.bytes ++ record x) (writer : ByteWriter)
    (xs : List β) : (xs.foldl write writer).bytes = writer.bytes ++ xs.flatMap record := by
  induction xs generalizing writer with
  | nil => simp
  | cons x xs ih =>
    rw [List.foldl_cons, ih, h, List.flatMap_cons, List.append_assoc]

/-- The same loop with a check in each round. -/
theorem foldlM_ok_iff {β : Type} {write : ByteWriter → β → Result ByteWriter} {Good : β → Prop}
    {record : β → List UInt8}
    (h : ∀ writer x after, write writer x = .ok after ↔
      Good x ∧ after = ⟨writer.bytes ++ record x⟩)
    {writer after : ByteWriter} {xs : List β} :
    xs.foldlM write writer = .ok after ↔
      (∀ x ∈ xs, Good x) ∧ after = ⟨writer.bytes ++ xs.flatMap record⟩ := by
  induction xs generalizing writer with
  | nil => simp [pure, Except.pure, eq_comm]
  | cons x xs ih =>
    rw [List.foldlM_cons, bind_ok_iff, List.forall_mem_cons, List.flatMap_cons]
    constructor
    · rintro ⟨middle, hx, hxs⟩
      obtain ⟨hgood, rfl⟩ := (h _ _ _).1 hx
      obtain ⟨hall, rfl⟩ := ih.1 hxs
      exact ⟨⟨hgood, hall⟩, by rw [List.append_assoc]⟩
    · rintro ⟨⟨hgood, hall⟩, rfl⟩
      refine ⟨_, (h _ _ _).2 ⟨hgood, rfl⟩, ih.2 ⟨hall, ?_⟩⟩
      rw [List.append_assoc]

end ByteWriter

structure ByteReader where
  bytes : List UInt8
  offset : ℕ := 0

namespace ByteReader

variable {α : Type} [FixedWidth α]

def remaining (reader : ByteReader) : ℕ := reader.bytes.length - reader.offset

def readLittleEndian (α : Type) [FixedWidth α] (reader : ByteReader) (context : String) :
    Result α × ByteReader :=
  if reader.remaining < FixedWidth.size α then
    (.error ⟨.truncatedData, UInt64.ofNat (FixedWidth.size α), reader.offset, context⟩, reader)
  else
    (.ok (decode ((reader.bytes.drop reader.offset).take (FixedWidth.size α))),
      { reader with offset := reader.offset + FixedWidth.size α })

/-- The bytes between two positions of one reader. -/
structure Reads (reader : ByteReader) (read : List UInt8) (after : ByteReader) : Prop where
  bytes : after.bytes = reader.bytes
  offset : after.offset = reader.offset + read.length
  rest : reader.bytes.drop reader.offset = read ++ after.bytes.drop after.offset

variable {reader middle after : ByteReader} {read following : List UInt8}

theorem Reads.refl (reader : ByteReader) : Reads reader [] reader := ⟨rfl, rfl, rfl⟩

theorem Reads.trans (h : Reads reader read middle) (h' : Reads middle following after) :
    Reads reader (read ++ following) after where
  bytes := h'.bytes.trans h.bytes
  offset := by
    rw [h'.offset, h.offset, List.length_append]
    omega
  rest := by rw [h.rest, h'.rest, List.append_assoc]

theorem Reads.nil_iff : Reads reader [] after ↔ after = reader := by
  constructor
  · intro h
    obtain ⟨bytes, offset⟩ := reader
    obtain ⟨bytes', offset'⟩ := after
    have hbytes : bytes' = bytes := h.bytes
    have hoffset : offset' = offset := h.offset
    rw [hbytes, hoffset]
  · rintro rfl
    exact .refl _

/-- A stretch of bytes can be read in two parts. -/
theorem Reads.split (h : Reads reader (read ++ following) after) :
    ∃ middle, Reads reader read middle ∧ Reads middle following after := by
  have hdrop : reader.bytes.drop (reader.offset + read.length) =
      following ++ after.bytes.drop after.offset := by
    rw [← List.drop_drop, h.rest, List.append_assoc, List.drop_left]
  refine ⟨⟨reader.bytes, reader.offset + read.length⟩, ⟨rfl, rfl, ?_⟩, ⟨h.bytes, ?_, hdrop⟩⟩
  · rw [h.rest, hdrop, List.append_assoc]
  · rw [h.offset, List.length_append, Nat.add_assoc]

theorem Reads.append_iff : Reads reader (read ++ following) after ↔
    ∃ middle, Reads reader read middle ∧ Reads middle following after :=
  ⟨Reads.split, fun ⟨_, h, h'⟩ => h.trans h'⟩

theorem Reads.remaining (h : Reads reader read after) :
    reader.remaining = read.length + after.remaining := by
  have hlen := congrArg List.length h.rest
  simpa [ByteReader.remaining] using hlen

/-- A word is read exactly when its encoding comes next. -/
theorem readLittleEndian_ok_iff {context : String} {value : α} :
    reader.readLittleEndian α context = (.ok value, after) ↔ Reads reader (encode value) after := by
  constructor
  · intro h
    by_cases hshort : reader.remaining < FixedWidth.size α
    · simp [readLittleEndian, hshort] at h
    · simp only [readLittleEndian, hshort, if_false, Prod.mk.injEq, Except.ok.injEq] at h
      obtain ⟨rfl, rfl⟩ := h
      have hlen : ((reader.bytes.drop reader.offset).take (FixedWidth.size α)).length =
          FixedWidth.size α := by
        rw [List.length_take, List.length_drop]
        exact Nat.min_eq_left (Nat.not_lt.1 hshort)
      refine ⟨rfl, by rw [length_encode], ?_⟩
      rw [encode_decode hlen, ← List.drop_drop, List.take_append_drop]
  · intro h
    have hlen : ¬reader.remaining < FixedWidth.size α := by
      rw [h.remaining, length_encode]
      omega
    obtain ⟨bytes, offset⟩ := after
    have hbytes : bytes = reader.bytes := h.bytes
    have hoffset : offset = reader.offset + FixedWidth.size α := by simpa using h.offset
    have htake : (reader.bytes.drop reader.offset).take (FixedWidth.size α) = encode value := by
      rw [h.rest, ← length_encode value, List.take_left]
    simp [readLittleEndian, hlen, htake, hbytes, hoffset]

/-- The next word can be taken off. -/
theorem Reads.next {value : α} (h : Reads reader (encode value ++ following) after) (context : String) :
    ∃ middle, reader.readLittleEndian α context = (.ok value, middle) ∧ Reads middle following after := by
  obtain ⟨middle, hread, hrest⟩ := h.split
  exact ⟨middle, readLittleEndian_ok_iff.2 hread, hrest⟩

/-- The last word can be taken off. -/
theorem Reads.last {value : α} (h : Reads reader (encode value) after) (context : String) :
    reader.readLittleEndian α context = (.ok value, after) :=
  readLittleEndian_ok_iff.2 h

end ByteReader

section Records

open ByteReader

variable {σ α : Type} {decode : σ → ByteReader → Result (α × ByteReader)} {next : σ → α → σ}
  {Good : σ → α → Prop} {record : α → List UInt8} {reader after : ByteReader}

/-- A loop that reads a number of records. What the checks of a record depend on is
carried from one round to the next. -/
def decodeRecords (decode : σ → ByteReader → Result (α × ByteReader)) (next : σ → α → σ)
    (state : σ) : ℕ → ByteReader → Result (List α × ByteReader)
  | 0, reader => pure ([], reader)
  | count + 1, reader => do
    let (value, reader) ← decode state reader
    let (values, reader) ← decodeRecords decode next (next state value) count reader
    pure (value :: values, reader)

/-- Every record is good after the ones before it. -/
def GoodRecords (Good : σ → α → Prop) (next : σ → α → σ) : σ → List α → Prop
  | _, [] => True
  | state, value :: values => Good state value ∧ GoodRecords Good next (next state value) values

theorem goodRecords_const {Good : α → Prop} (values : List α) :
    GoodRecords (fun _ : Unit => Good) (fun _ _ => ()) () values ↔ ∀ value ∈ values, Good value := by
  induction values with
  | nil => simp [GoodRecords]
  | cons value values ih => rw [GoodRecords, ih, List.forall_mem_cons]

/-- Checks against the previous record, where there is one, make a chain. -/
theorem goodRecords_chain {β : Type} {key : α → β} {R : β → α → Prop} (previous : Option β)
    (values : List α) :
    GoodRecords (fun previous value => ∀ earlier ∈ previous, R earlier value)
        (fun _ value => some (key value)) previous values ↔
      (∀ earlier ∈ previous, ∀ value ∈ values.head?, R earlier value) ∧
        values.IsChain fun value next => R (key value) next := by
  induction values generalizing previous with
  | nil => simp [GoodRecords]
  | cons value values ih =>
    rw [GoodRecords, ih, List.isChain_cons]
    simp

/-- A state that each round steps forward counts the rounds. -/
theorem goodRecords_iterate {step : σ → σ} (state : σ) (values : List α) :
    GoodRecords Good (fun state _ => step state) state values ↔
      ∀ i value, values[i]? = some value → Good (step^[i] state) value := by
  induction values generalizing state with
  | nil => simp [GoodRecords]
  | cons value values ih =>
    rw [GoodRecords, ih]
    constructor
    · rintro ⟨hfirst, hrest⟩ i value' hi
      cases i with
      | zero =>
        cases hi
        exact hfirst
      | succ i => exact hrest i value' (by simpa using hi)
    · intro h
      exact ⟨h 0 value rfl, fun i value' hi => h (i + 1) value' (by simpa using hi)⟩

theorem goodRecords_and {P : α → Prop} (state : σ) (values : List α) :
    GoodRecords (fun state value => P value ∧ Good state value) next state values ↔
      (∀ value ∈ values, P value) ∧ GoodRecords Good next state values := by
  induction values generalizing state with
  | nil => simp [GoodRecords]
  | cons value values ih =>
    simp only [GoodRecords, ih, List.forall_mem_cons]
    exact and_and_and_comm

/-- A loop of reads takes off exactly the records of a list, one after the other. -/
theorem decodeRecords_ok_iff
    (h : ∀ state reader value after, decode state reader = .ok (value, after) ↔
      Good state value ∧ Reads reader (record value) after)
    {state : σ} {count : ℕ} {values : List α} :
    decodeRecords decode next state count reader = .ok (values, after) ↔
      values.length = count ∧ GoodRecords Good next state values ∧
        Reads reader (values.flatMap record) after := by
  induction count generalizing state reader values with
  | zero =>
    simp only [decodeRecords, pure, Except.pure, Except.ok.injEq, Prod.mk.injEq]
    constructor
    · rintro ⟨rfl, rfl⟩
      exact ⟨rfl, trivial, .refl _⟩
    · rintro ⟨hlen, -, hreads⟩
      rw [List.length_eq_zero_iff] at hlen
      subst hlen
      exact ⟨rfl, (Reads.nil_iff.1 hreads).symm⟩
  | succ count ih =>
    rw [decodeRecords, bind_ok_iff]
    constructor
    · rintro ⟨⟨value, middle⟩, hvalue, hrun⟩
      obtain ⟨⟨rest, last⟩, hrest, hrun⟩ := bind_ok_iff.1 hrun
      cases hrun
      obtain ⟨hgood, hread⟩ := (h _ _ _ _).1 hvalue
      obtain ⟨hlen, hall, hreads⟩ := ih.1 hrest
      exact ⟨by simp [hlen], ⟨hgood, hall⟩, hread.trans hreads⟩
    · rintro ⟨hlen, hall, hreads⟩
      cases values with
      | nil => simp at hlen
      | cons value rest =>
        obtain ⟨middle, hread, hreads⟩ := Reads.split hreads
        refine ⟨(value, middle), (h _ _ _ _).2 ⟨hall.1, hread⟩, ?_⟩
        exact bind_ok_iff.2 ⟨(rest, after), ih.2 ⟨by simpa using hlen, hall.2, hreads⟩, rfl⟩

end Records

end RollbackLab
