import RollbackLab.Numeral
import Mathlib.Tactic.Linarith

/-!
# Reading JSON

A reader of JSON texts, byte by byte. A string is read as the bytes that its characters
and escapes stand for, a number as a decimal fraction, an object as its members in the
order of the text. What comes with each form of value is the rule by which a text of
that form is read.
-/

inductive Json where
  | null
  | bool (value : Bool)
  | number (mantissa exponent : ℤ)
  | string (bytes : List UInt8)
  | array (elements : List Json)
  | object (members : List (List UInt8 × Json))

namespace Json

open Numeral (text)

def quote : UInt8 := 34
def backslash : UInt8 := 92
def comma : UInt8 := 44
def colon : UInt8 := 58
def openBrace : UInt8 := 123
def closeBrace : UInt8 := 125
def openBracket : UInt8 := 91
def closeBracket : UInt8 := 93

/-! ## The reader -/

def isSpace (c : UInt8) : Bool := c == 32 || c == 9 || c == 10 || c == 13

def isDigit (c : UInt8) : Bool := 48 ≤ c && c ≤ 57

def skip (input : List UInt8) : List UInt8 := input.dropWhile isSpace

/-- What stands behind the point, if there is one. -/
def readFraction (input : List UInt8) : Option (List UInt8 × List UInt8) :=
  if input.head? = some 46 then
    let fraction := input.tail.takeWhile isDigit
    if fraction = [] then none else some (fraction, input.tail.dropWhile isDigit)
  else some ([], input)

def readExponent (input : List UInt8) : Option (ℤ × List UInt8) :=
  if input.head? = some 101 ∨ input.head? = some 69 then
    let sign := input.tail.head?
    let input := if sign = some 43 ∨ sign = some 45 then input.tail.tail else input.tail
    let digits := input.takeWhile isDigit
    let exponent : ℤ := Numeral.value 10 Numeral.readDecimal digits
    if digits = [] then none
    else some (if sign = some 45 then -exponent else exponent, input.dropWhile isDigit)
  else some (0, input)

/-- A number has no leading zero, and digits behind a point and in an exponent. -/
def readNumber (input : List UInt8) : Option (Json × List UInt8) :=
  let negative : Bool := input.head? = some 45
  let input := if negative then input.tail else input
  let whole := input.takeWhile isDigit
  if whole = [] ∨ whole.head? = some 48 ∧ whole.length ≠ 1 then none
  else do
    let (fraction, rest) ← readFraction (input.dropWhile isDigit)
    let (exponent, rest) ← readExponent rest
    let mantissa : ℤ := Numeral.value 10 Numeral.readDecimal (whole ++ fraction)
    some (.number (if negative then -mantissa else mantissa) (exponent - fraction.length), rest)

def simpleEscape (c : UInt8) : Option UInt8 :=
  if c = quote ∨ c = backslash ∨ c = 47 then some c
  else if c = 98 then some 8
  else if c = 102 then some 12
  else if c = 110 then some 10
  else if c = 114 then some 13
  else if c = 116 then some 9
  else none

def readHexDigit (c : UInt8) : Option ℕ :=
  if 48 ≤ c ∧ c ≤ 57 ∨ 65 ≤ c ∧ c ≤ 70 ∨ 97 ≤ c ∧ c ≤ 102 then some (Numeral.readHex c) else none

def readUnit : List UInt8 → Option (ℕ × List UInt8)
  | a :: b :: c :: d :: rest => do
    let a ← readHexDigit a
    let b ← readHexDigit b
    let c ← readHexDigit c
    let d ← readHexDigit d
    some (((a * 16 + b) * 16 + c) * 16 + d, rest)
  | _ => none

/-- A code unit, or two that make up a character beyond the sixteen bits, in UTF-8. -/
def readUnicode (input : List UInt8) : Option (List UInt8 × List UInt8) := do
  let (unit, rest) ← readUnit input
  if unit < 0xD800 ∨ 0xDFFF < unit then some (String.utf8EncodeChar (Char.ofNat unit), rest)
  else if 0xDBFF < unit ∨ rest.take 2 ≠ [backslash, 117] then none
  else do
    let (low, rest) ← readUnit (rest.drop 2)
    if low < 0xDC00 ∨ 0xDFFF < low then none
    else some (String.utf8EncodeChar
      (Char.ofNat (0x10000 + (unit - 0xD800) * 0x400 + (low - 0xDC00))), rest)

def readEscape : List UInt8 → Option (List UInt8 × List UInt8)
  | [] => none
  | c :: rest =>
    if c = 117 then readUnicode rest else (simpleEscape c).map fun byte => ([byte], rest)

/-- One character of a string, as the bytes it stands for. -/
def readCharacter : List UInt8 → Option (List UInt8 × List UInt8)
  | [] => none
  | c :: rest =>
    if c = backslash then readEscape rest else if c < 32 then none else some ([c], rest)

def readCharacters : ℕ → List UInt8 → Option (List UInt8 × List UInt8)
  | 0, _ => none
  | fuel + 1, input =>
    if input.head? = some quote then some ([], input.tail)
    else do
      let (first, rest) ← readCharacter input
      let (others, rest) ← readCharacters fuel rest
      some (first ++ others, rest)

def readString (fuel : ℕ) (input : List UInt8) : Option (List UInt8 × List UInt8) :=
  if input.head? = some quote then readCharacters fuel input.tail else none

def readWord (word : List UInt8) (json : Json) (input : List UInt8) : Option (Json × List UInt8) :=
  if input.take word.length = word then some (json, input.drop word.length) else none

mutual

/-- A value at the head of the input and what follows it. -/
def readValue : ℕ → List UInt8 → Option (Json × List UInt8)
  | 0, _ => none
  | fuel + 1, input =>
    let first := input.head?
    if first = some quote then
      (readString fuel input).map fun (bytes, rest) => (.string bytes, rest)
    else if first = some openBrace then
      let rest := skip input.tail
      if rest.head? = some closeBrace then some (.object [], rest.tail)
      else (readMembers fuel rest).map fun (members, rest) => (.object members, rest)
    else if first = some openBracket then
      let rest := skip input.tail
      if rest.head? = some closeBracket then some (.array [], rest.tail)
      else (readElements fuel rest).map fun (elements, rest) => (.array elements, rest)
    else if first = some 116 then readWord (text "true") (.bool true) input
    else if first = some 102 then readWord (text "false") (.bool false) input
    else if first = some 110 then readWord (text "null") .null input
    else readNumber input

def readMembers : ℕ → List UInt8 → Option (List (List UInt8 × Json) × List UInt8)
  | 0, _ => none
  | fuel + 1, input => do
    let (key, rest) ← readString fuel input
    let rest := skip rest
    if rest.head? ≠ some colon then none
    else do
      let (json, rest) ← readValue fuel (skip rest.tail)
      let rest := skip rest
      if rest.head? = some closeBrace then some ([(key, json)], rest.tail)
      else if rest.head? ≠ some comma then none
      else do
        let (members, rest) ← readMembers fuel (skip rest.tail)
        some ((key, json) :: members, rest)

def readElements : ℕ → List UInt8 → Option (List Json × List UInt8)
  | 0, _ => none
  | fuel + 1, input => do
    let (json, rest) ← readValue fuel input
    let rest := skip rest
    if rest.head? = some closeBracket then some ([json], rest.tail)
    else if rest.head? ≠ some comma then none
    else do
      let (elements, rest) ← readElements fuel (skip rest.tail)
      some (json :: elements, rest)

end

/-- A text is one value with nothing but spaces around it. No value nests deeper than the
text is long. -/
def parse (input : List UInt8) : Option Json := do
  let (json, rest) ← readValue (input.length + 1) (skip input)
  if skip rest = [] then some json else none

/-! ## What is read -/

/-- A rest that no number goes on into. -/
def Ends (rest : List UInt8) : Prop :=
  ∀ c ∈ rest.head?, isDigit c = false ∧ c ≠ 46 ∧ c ≠ 101 ∧ c ≠ 69

def Spaces (input : List UInt8) : Prop := ∀ c ∈ input, isSpace c = true

/-- The text is read as the value, whatever may follow a value follows it. -/
structure Reads (input : List UInt8) (json : Json) : Prop where
  first : ∃ c tail, input = c :: tail ∧ isSpace c = false
  read : ∀ fuel rest, input.length ≤ fuel → Ends rest →
    readValue fuel (input ++ rest) = some (json, rest)

/-- The text is read as the members of an object, up to its closing brace. -/
structure ReadsMembers (input : List UInt8) (members : List (List UInt8 × Json)) : Prop where
  first : ∃ tail, input = quote :: tail
  read : ∀ fuel rest, input.length ≤ fuel →
    readMembers fuel (input ++ rest) = some (members, rest)

/-- The text spells one byte inside a string. -/
structure Spells (spelling : List UInt8) (byte : UInt8) : Prop where
  first : ∃ c tail, spelling = c :: tail ∧ c ≠ quote
  read : ∀ rest, readCharacter (spelling ++ rest) = some ([byte], rest)

theorem skip_of_first {c : UInt8} (h : isSpace c = false) (rest : List UInt8) :
    skip (c :: rest) = c :: rest := by
  rw [skip, List.dropWhile_cons, h]
  rfl

theorem skip_spaces {spaces : List UInt8} (h : Spaces spaces) (rest : List UInt8) :
    skip (spaces ++ rest) = skip rest := by
  induction spaces with
  | nil => rfl
  | cons c spaces ih =>
    rw [List.cons_append, skip, List.dropWhile_cons, if_pos (h c List.mem_cons_self), ← skip]
    exact ih fun c' hc' => h c' (List.mem_cons_of_mem c hc')

theorem ends_cons {c : UInt8} (h : isDigit c = false ∧ c ≠ 46 ∧ c ≠ 101 ∧ c ≠ 69)
    (rest : List UInt8) : Ends (c :: rest) := by
  intro c' hc'
  obtain rfl : c = c' := by simpa using hc'
  exact h

theorem isSpace_ends {c : UInt8} (h : isSpace c = true) :
    isDigit c = false ∧ c ≠ 46 ∧ c ≠ 101 ∧ c ≠ 69 := by
  simp only [isSpace, Bool.or_eq_true, beq_iff_eq] at h
  rcases h with ((rfl | rfl) | rfl) | rfl <;> decide

theorem ends_spaces {spaces rest : List UInt8} {c : UInt8} (h : Spaces spaces)
    (hc : Ends (c :: rest)) : Ends (spaces ++ c :: rest) := by
  cases spaces with
  | nil => exact hc
  | cons first spaces => exact ends_cons (isSpace_ends (h first List.mem_cons_self)) _

/-- Characters are read one after the other, up to the closing quote. -/
theorem readCharacters_spelled {spell : UInt8 → List UInt8} {bytes : List UInt8}
    (h : ∀ c ∈ bytes, Spells (spell c) c) {fuel : ℕ} (hfuel : bytes.length < fuel)
    (rest : List UInt8) :
    readCharacters fuel (bytes.flatMap spell ++ quote :: rest) = some (bytes, rest) := by
  induction bytes generalizing fuel with
  | nil =>
    obtain ⟨fuel, rfl⟩ := Nat.exists_eq_succ_of_ne_zero (by omega : fuel ≠ 0)
    rfl
  | cons byte bytes ih =>
    obtain ⟨fuel, rfl⟩ := Nat.exists_eq_succ_of_ne_zero (by omega : fuel ≠ 0)
    have hbyte := h byte List.mem_cons_self
    obtain ⟨c, tail, hspell, hc⟩ := hbyte.first
    have hread := hbyte.read (bytes.flatMap spell ++ quote :: rest)
    rw [List.flatMap_cons, List.append_assoc]
    have hfirst : ¬(spell byte ++ (bytes.flatMap spell ++ quote :: rest)).head? = some quote := by
      rw [hspell]
      simpa using hc
    rw [readCharacters, if_neg hfirst, hread]
    have hrest := ih (fun c' hc' => h c' (List.mem_cons_of_mem byte hc'))
      (by simpa using hfuel : bytes.length < fuel)
    simp only [Option.bind_eq_bind, Option.bind_some, hrest, List.singleton_append]

theorem Spells.plain {c : UInt8} (hc : 32 ≤ c ∧ c ≠ quote ∧ c ≠ backslash) : Spells [c] c := by
  refine ⟨⟨c, [], rfl, hc.2.1⟩, fun rest => ?_⟩
  rw [List.singleton_append, readCharacter, if_neg hc.2.2, if_neg (UInt8.not_lt.2 hc.1)]

/-- A string whose bytes are spelled one by one. -/
theorem readString_spelled {spell : UInt8 → List UInt8} {bytes : List UInt8}
    (h : ∀ c ∈ bytes, Spells (spell c) c) {fuel : ℕ} (hfuel : bytes.length < fuel)
    (rest : List UInt8) :
    readString fuel (quote :: (bytes.flatMap spell ++ quote :: rest)) = some (bytes, rest) := by
  rw [readString, if_pos (by rfl)]
  exact readCharacters_spelled h hfuel rest

theorem length_le_spelled {spell : UInt8 → List UInt8} {bytes : List UInt8}
    (h : ∀ c ∈ bytes, Spells (spell c) c) : bytes.length ≤ (bytes.flatMap spell).length := by
  induction bytes with
  | nil => rfl
  | cons byte bytes ih =>
    obtain ⟨c, tail, hspell, -⟩ := (h byte List.mem_cons_self).first
    have hrest := ih fun c' hc' => h c' (List.mem_cons_of_mem byte hc')
    rw [List.flatMap_cons, hspell, List.length_append, List.length_cons, List.length_cons]
    omega

theorem Reads.string {spell : UInt8 → List UInt8} {bytes : List UInt8}
    (h : ∀ c ∈ bytes, Spells (spell c) c) :
    Reads (quote :: (bytes.flatMap spell ++ [quote])) (.string bytes) := by
  refine ⟨⟨quote, _, rfl, rfl⟩, fun fuel rest hfuel _ => ?_⟩
  have hlength := length_le_spelled h
  rw [List.length_cons, List.length_append, List.length_singleton] at hfuel
  obtain ⟨fuel, rfl⟩ := Nat.exists_eq_succ_of_ne_zero (by omega : fuel ≠ 0)
  rw [List.cons_append, List.append_assoc, List.singleton_append, readValue]
  dsimp only
  rw [if_pos (by rfl), readString_spelled h (by omega)]
  rfl

theorem Reads.bool (value : Bool) :
    Reads (if value then text "true" else text "false") (.bool value) := by
  have htrue : text "true" = [116, 114, 117, 101] := by decide
  have hfalse : text "false" = [102, 97, 108, 115, 101] := by decide
  cases value with
  | false =>
    rw [if_neg (by decide), hfalse]
    refine ⟨⟨102, _, rfl, rfl⟩, fun fuel rest hfuel _ => ?_⟩
    obtain ⟨fuel, rfl⟩ := Nat.exists_eq_succ_of_ne_zero (by simp at hfuel; omega : fuel ≠ 0)
    rw [readValue]
    rfl
  | true =>
    rw [if_pos rfl, htrue]
    refine ⟨⟨116, _, rfl, rfl⟩, fun fuel rest hfuel _ => ?_⟩
    obtain ⟨fuel, rfl⟩ := Nat.exists_eq_succ_of_ne_zero (by simp at hfuel; omega : fuel ≠ 0)
    rw [readValue]
    rfl

theorem isDigit_decimal {n : ℕ} {c : UInt8} (h : c ∈ Numeral.decimal n) : isDigit c = true := by
  obtain ⟨d, hd, rfl⟩ := Numeral.mem_numeral (by decide) h
  have hall : ∀ d < 10, isDigit (Numeral.decimalDigit d) = true := by decide
  exact hall d hd

/-- A numeral is taken off whole. -/
theorem takeWhile_decimal (n : ℕ) {rest : List UInt8} (h : Ends rest) :
    (Numeral.decimal n ++ rest).takeWhile isDigit = Numeral.decimal n ∧
      (Numeral.decimal n ++ rest).dropWhile isDigit = rest := by
  have hstop : rest.takeWhile isDigit = [] ∧ rest.dropWhile isDigit = rest := by
    cases rest with
    | nil => exact ⟨rfl, rfl⟩
    | cons c rest =>
      have hc := (h c (by simp)).1
      rw [List.takeWhile_cons, List.dropWhile_cons, hc]
      exact ⟨rfl, rfl⟩
  have hdigits : ∀ c ∈ Numeral.decimal n, isDigit c = true := fun c => isDigit_decimal
  rw [List.takeWhile_append_of_pos hdigits, List.dropWhile_append_of_pos hdigits, hstop.1, hstop.2,
    List.append_nil]
  exact ⟨rfl, rfl⟩

/-- Only zero itself starts with a zero. -/
theorem decimal_leading (n : ℕ) : ¬(Numeral.decimal n = [] ∨
    (Numeral.decimal n).head? = some 48 ∧ (Numeral.decimal n).length ≠ 1) := by
  rintro (hnil | ⟨hzero, hlength⟩)
  · exact Numeral.numeral_ne_nil n hnil
  · by_cases hn : n = 0
    · rw [hn] at hlength
      exact hlength rfl
    · obtain ⟨d, hpos, hd, hhead⟩ : ∃ d, 0 < d ∧ d < 10 ∧
          (Numeral.decimal n).head? = some (Numeral.decimalDigit d) :=
        Numeral.head_numeral (by decide) hn
      rw [hhead] at hzero
      have hall : ∀ d < 10, 0 < d → Numeral.decimalDigit d ≠ 48 := by decide
      exact hall d hd hpos (Option.some.inj hzero)

theorem decimal_first (n : ℕ) :
    ∃ d < 10, ∃ tail, Numeral.decimal n = Numeral.decimalDigit d :: tail := by
  have hne : Numeral.decimal n ≠ [] := Numeral.numeral_ne_nil n
  obtain ⟨c, tail, hcons⟩ := List.exists_cons_of_ne_nil hne
  have hmem : c ∈ Numeral.decimal n := hcons ▸ List.mem_cons_self
  obtain ⟨d, hd, rfl⟩ := Numeral.mem_numeral (by decide) hmem
  exact ⟨d, hd, tail, hcons⟩

theorem readNumber_decimal (n : ℕ) {rest : List UInt8} (h : Ends rest) :
    readNumber (Numeral.decimal n ++ rest) = some (.number n 0, rest) := by
  obtain ⟨d, hd, tail, hcons⟩ := decimal_first n
  have hminus : ∀ d < 10, Numeral.decimalDigit d ≠ 45 := by decide
  have hpositive : ¬(Numeral.decimal n ++ rest).head? = some 45 := by
    rw [hcons]
    simpa using hminus d hd
  obtain ⟨htake, hdrop⟩ := takeWhile_decimal n h
  have hpoint : ¬rest.head? = some 46 := fun hc => (h 46 hc).2.1 rfl
  have hexponent : ¬(rest.head? = some 101 ∨ rest.head? = some 69) := by
    rintro (hc | hc)
    · exact (h _ hc).2.2.1 rfl
    · exact (h _ hc).2.2.2 rfl
  have hvalue : Numeral.value 10 Numeral.readDecimal (Numeral.decimal n) = n :=
    Numeral.value_numeral (by decide) Numeral.readDecimal_digit n
  simp only [readNumber, hpositive, decide_false, Bool.false_eq_true, if_false, htake, hdrop,
    decimal_leading n, readFraction, hpoint, readExponent, hexponent, Option.bind_eq_bind,
    Option.bind_some, List.append_nil, hvalue]
  rfl

theorem Reads.decimal (n : ℕ) : Reads (Numeral.decimal n) (.number n 0) := by
  obtain ⟨d, hd, tail, hcons⟩ := decimal_first n
  have hspace : ∀ d < 10, isSpace (Numeral.decimalDigit d) = false := by decide
  refine ⟨⟨_, tail, hcons, hspace d hd⟩, fun fuel rest hfuel hends => ?_⟩
  obtain ⟨fuel, rfl⟩ := Nat.exists_eq_succ_of_ne_zero (by rw [hcons] at hfuel; simp at hfuel; omega : fuel ≠ 0)
  have hother : ∀ d < 10, Numeral.decimalDigit d ≠ quote ∧ Numeral.decimalDigit d ≠ openBrace ∧
      Numeral.decimalDigit d ≠ openBracket ∧ Numeral.decimalDigit d ≠ 116 ∧
      Numeral.decimalDigit d ≠ 102 ∧ Numeral.decimalDigit d ≠ 110 := by decide
  obtain ⟨h1, h2, h3, h4, h5, h6⟩ := hother d hd
  have hhead : (Numeral.decimal n ++ rest).head? = some (Numeral.decimalDigit d) := by
    rw [hcons]
    rfl
  rw [readValue]
  simp only [hhead, Option.some.injEq, h1, h2, h3, h4, h5, h6, if_false]
  exact readNumber_decimal n hends

theorem Reads.null : Reads (text "null") .null := by
  have hnull : text "null" = [110, 117, 108, 108] := by decide
  rw [hnull]
  refine ⟨⟨110, _, rfl, rfl⟩, fun fuel rest hfuel _ => ?_⟩
  obtain ⟨fuel, rfl⟩ := Nat.exists_eq_succ_of_ne_zero (by simp at hfuel; omega : fuel ≠ 0)
  rw [readValue]
  rfl

theorem readNumber_minus (n : ℕ) {rest : List UInt8} (h : Ends rest) :
    readNumber (45 :: (Numeral.decimal n ++ rest)) = some (.number (-n) 0, rest) := by
  obtain ⟨htake, hdrop⟩ := takeWhile_decimal n h
  have hpoint : ¬rest.head? = some 46 := fun hc => (h 46 hc).2.1 rfl
  have hexponent : ¬(rest.head? = some 101 ∨ rest.head? = some 69) := by
    rintro (hc | hc)
    · exact (h _ hc).2.2.1 rfl
    · exact (h _ hc).2.2.2 rfl
  have hvalue : Numeral.value 10 Numeral.readDecimal (Numeral.decimal n) = n :=
    Numeral.value_numeral (by decide) Numeral.readDecimal_digit n
  simp only [readNumber, List.head?_cons, decide_true, if_true, List.tail_cons, htake, hdrop,
    decimal_leading n, if_false, readFraction, hpoint, readExponent, hexponent, Option.bind_eq_bind,
    Option.bind_some, List.append_nil, hvalue]
  rfl

theorem Reads.integer (n : ℤ) : Reads (Numeral.integer n) (.number n 0) := by
  rw [Numeral.integer]
  split
  next hneg =>
    refine ⟨⟨45, _, rfl, rfl⟩, fun fuel rest hfuel hends => ?_⟩
    obtain ⟨fuel, rfl⟩ := Nat.exists_eq_succ_of_ne_zero (by simp at hfuel; omega : fuel ≠ 0)
    have hother : ¬some (45 : UInt8) = some quote ∧ ¬some (45 : UInt8) = some openBrace ∧
        ¬some (45 : UInt8) = some openBracket ∧ ¬some (45 : UInt8) = some 116 ∧
        ¬some (45 : UInt8) = some 102 ∧ ¬some (45 : UInt8) = some 110 := by decide
    obtain ⟨h1, h2, h3, h4, h5, h6⟩ := hother
    rw [List.cons_append, readValue]
    simp only [List.head?_cons, h1, h2, h3, h4, h5, h6, if_false]
    rw [readNumber_minus n.natAbs hends, Int.ofNat_natAbs_of_nonpos (le_of_lt hneg), neg_neg]
  next hpos =>
    have hread := Reads.decimal n.natAbs
    rwa [Int.natAbs_of_nonneg (not_lt.1 hpos)] at hread

/-! ## Objects -/

/-- What stands between a key and the next separator. -/
structure ReadsMember (input key : List UInt8) (json : Json) : Prop where
  first : ∃ tail, input = quote :: tail
  read : ∀ fuel rest, input.length ≤ fuel → Ends rest → ∃ middle,
    readString fuel (input ++ rest) = some (key, colon :: middle) ∧
      readValue fuel (skip middle) = some (json, rest)

/-- A member whose key needs no escapes. -/
theorem ReadsMember.plain {key input : List UInt8} {json : Json}
    (hkey : ∀ c ∈ key, 32 ≤ c ∧ c ≠ quote ∧ c ≠ backslash) (h : Reads input json) :
    ReadsMember (quote :: (key ++ quote :: colon :: input)) key json := by
  refine ⟨⟨_, rfl⟩, fun fuel rest hfuel hends => ?_⟩
  obtain ⟨c, tail, hcons, hspace⟩ := h.first
  refine ⟨input ++ rest, ?_, ?_⟩
  · have hplain : ∀ c ∈ key, Spells [c] c := fun c hc => .plain (hkey c hc)
    have hread : readString fuel (quote :: (key.flatMap (fun c => [c]) ++
        quote :: (colon :: (input ++ rest)))) = some (key, colon :: (input ++ rest)) :=
      readString_spelled hplain (by simp at hfuel; omega) _
    rw [List.flatMap_singleton'] at hread
    simpa using hread
  · rw [hcons, List.cons_append, skip_of_first hspace, ← List.cons_append, ← hcons]
    exact h.read fuel rest (by simp at hfuel; omega) hends

theorem ReadsMember.last {input key spaces : List UInt8} {json : Json}
    (h : ReadsMember input key json) (hspaces : Spaces spaces) :
    ReadsMembers (input ++ (spaces ++ [closeBrace])) [(key, json)] := by
  obtain ⟨tail, hcons⟩ := h.first
  refine ⟨⟨_, by rw [hcons, List.cons_append]⟩, fun fuel rest hfuel => ?_⟩
  simp only [List.length_append, List.length_singleton] at hfuel
  obtain ⟨fuel, rfl⟩ := Nat.exists_eq_succ_of_ne_zero (by omega : fuel ≠ 0)
  obtain ⟨middle, hkey, hvalue⟩ := h.read fuel (spaces ++ closeBrace :: rest) (by omega)
    (ends_spaces hspaces (ends_cons (by decide) rest))
  have hskip : skip (spaces ++ closeBrace :: rest) = closeBrace :: rest := by
    rw [skip_spaces hspaces, skip_of_first (by rfl)]
  have hcolon : skip (colon :: middle) = colon :: middle := skip_of_first (by rfl) middle
  rw [List.append_assoc, List.append_assoc, List.singleton_append, readMembers]
  simp only [hkey, hcolon, Option.bind_eq_bind, Option.bind_some, List.head?_cons, ne_eq,
    not_true_eq_false, if_false, List.tail_cons, hvalue, hskip, if_true]

theorem ReadsMember.cons {input key spaces others : List UInt8} {json : Json}
    {members : List (List UInt8 × Json)} (h : ReadsMember input key json) (hspaces : Spaces spaces)
    (hothers : ReadsMembers others members) :
    ReadsMembers (input ++ comma :: (spaces ++ others)) ((key, json) :: members) := by
  obtain ⟨tail, hcons⟩ := h.first
  obtain ⟨next, hnext⟩ := hothers.first
  refine ⟨⟨_, by rw [hcons, List.cons_append]⟩, fun fuel rest hfuel => ?_⟩
  simp only [List.length_append, List.length_cons] at hfuel
  obtain ⟨fuel, rfl⟩ := Nat.exists_eq_succ_of_ne_zero (by omega : fuel ≠ 0)
  obtain ⟨middle, hkey, hvalue⟩ := h.read fuel (comma :: (spaces ++ (others ++ rest))) (by omega)
    (ends_cons (by decide) _)
  have hskip : skip (spaces ++ (others ++ rest)) = others ++ rest := by
    rw [skip_spaces hspaces, hnext, List.cons_append, skip_of_first (by rfl)]
  have hcolon : skip (colon :: middle) = colon :: middle := skip_of_first (by rfl) middle
  have hcomma : skip (comma :: (spaces ++ (others ++ rest))) = comma :: (spaces ++ (others ++ rest)) :=
    skip_of_first (by rfl) _
  have hbrace : ¬some comma = some closeBrace := by decide
  rw [List.append_assoc, List.cons_append, List.append_assoc, readMembers]
  simp only [hkey, hcolon, Option.bind_eq_bind, Option.bind_some, List.head?_cons, ne_eq,
    not_true_eq_false, if_false, List.tail_cons, hvalue, hcomma, hbrace, hskip,
    hothers.read fuel rest (by omega)]

theorem Reads.object {input spaces : List UInt8} {members : List (List UInt8 × Json)}
    (hspaces : Spaces spaces) (h : ReadsMembers input members) :
    Reads (openBrace :: (spaces ++ input)) (.object members) := by
  obtain ⟨tail, hcons⟩ := h.first
  refine ⟨⟨openBrace, _, rfl, rfl⟩, fun fuel rest hfuel _ => ?_⟩
  simp only [List.length_append, List.length_cons] at hfuel
  obtain ⟨fuel, rfl⟩ := Nat.exists_eq_succ_of_ne_zero (by omega : fuel ≠ 0)
  have hskip : skip (spaces ++ (input ++ rest)) = input ++ rest := by
    rw [skip_spaces hspaces, hcons, List.cons_append, skip_of_first (by rfl)]
  have hquote : ¬some openBrace = some quote := by decide
  have hfull : ¬(input ++ rest).head? = some closeBrace := by
    have hne : quote ≠ closeBrace := by decide
    rw [hcons]
    simpa using hne
  rw [List.cons_append, List.append_assoc, readValue]
  simp only [List.head?_cons, hquote, if_false, if_true, List.tail_cons, hskip, hfull,
    h.read fuel rest (by omega), Option.map_some]

theorem Reads.parse {input : List UInt8} {json : Json} (h : Reads input json) {spaces : List UInt8}
    (hspaces : Spaces spaces) : parse (input ++ spaces) = some json := by
  obtain ⟨c, tail, hcons, hspace⟩ := h.first
  have hskip : skip (input ++ spaces) = input ++ spaces := by
    rw [hcons, List.cons_append, skip_of_first hspace]
  have hends : Ends spaces := by
    cases spaces with
    | nil => exact fun c hc => by cases hc
    | cons first spaces => exact ends_cons (isSpace_ends (hspaces first List.mem_cons_self)) spaces
  have hrest : skip spaces = [] := by
    have hall := skip_spaces hspaces []
    rwa [List.append_nil] at hall
  have hvalue := h.read ((input ++ spaces).length + 1) spaces
    (by rw [List.length_append]; omega) hends
  simp only [Json.parse, hskip, hvalue, Option.bind_eq_bind, Option.bind_some, hrest, if_true]

/-! ## Writing objects -/

/-- A member whose key is written as it is. -/
def memberText (field : List UInt8 × List UInt8) : List UInt8 :=
  quote :: (field.1 ++ quote :: colon :: field.2)

/-- Members with the given spaces behind every comma, and others before the closing brace. -/
def membersText (spaces closing : List UInt8) : List (List UInt8 × List UInt8) → List UInt8
  | [] => closing ++ [closeBrace]
  | [field] => memberText field ++ (closing ++ [closeBrace])
  | field :: fields => memberText field ++ comma :: (spaces ++ membersText spaces closing fields)

def objectText (spaces closing : List UInt8) (fields : List (List UInt8 × List UInt8)) : List UInt8 :=
  openBrace :: (spaces ++ membersText spaces closing fields)

/-- A field is written under the key of the member, without escapes, and its text is read
as the member's value. -/
def Writes (field : List UInt8 × List UInt8) (member : List UInt8 × Json) : Prop :=
  field.1 = member.1 ∧ (∀ c ∈ field.1, 32 ≤ c ∧ c ≠ quote ∧ c ≠ backslash) ∧ Reads field.2 member.2

theorem Reads.objectText {spaces closing : List UInt8} (hspaces : Spaces spaces)
    (hclosing : Spaces closing) {fields : List (List UInt8 × List UInt8)}
    {members : List (List UInt8 × Json)} (h : List.Forall₂ Writes fields members)
    (hne : fields ≠ []) : Reads (objectText spaces closing fields) (.object members) := by
  apply Reads.object hspaces
  induction h with
  | nil => exact absurd rfl hne
  | @cons field member fields members hfield hrest ih =>
    obtain ⟨hkey, hplain, hvalue⟩ := hfield
    have hmember : ReadsMember (memberText field) member.1 member.2 := by
      rw [← hkey]
      exact .plain hplain hvalue
    cases hrest with
    | nil => exact hmember.last hclosing
    | cons hnext hothers => exact hmember.cons hspaces (ih (List.cons_ne_nil _ _))

/-! ## Arrays -/

def elementsText : List (List UInt8) → List UInt8
  | [] => [closeBracket]
  | [element] => element ++ [closeBracket]
  | element :: elements => element ++ comma :: elementsText elements

/-- An array without spaces. -/
def arrayText (elements : List (List UInt8)) : List UInt8 := openBracket :: elementsText elements

theorem elementsText_cons (element : List UInt8) (elements : List (List UInt8)) :
    ∃ more, elementsText (element :: elements) = element ++ more := by
  cases elements with
  | nil => exact ⟨_, rfl⟩
  | cons _ _ => exact ⟨_, rfl⟩

theorem readElements_text {texts : List (List UInt8)} {elements : List Json}
    (h : List.Forall₂ Reads texts elements) (hne : texts ≠ []) {fuel : ℕ}
    (hfuel : (elementsText texts).length ≤ fuel) (rest : List UInt8) :
    readElements fuel (elementsText texts ++ rest) = some (elements, rest) := by
  induction h generalizing fuel with
  | nil => exact absurd rfl hne
  | @cons input json texts elements hread hrest ih =>
    cases hrest with
    | nil =>
      simp only [elementsText, List.length_append, List.length_singleton] at hfuel
      obtain ⟨fuel, rfl⟩ := Nat.exists_eq_succ_of_ne_zero (by omega : fuel ≠ 0)
      have hvalue := hread.read fuel (closeBracket :: rest) (by omega) (ends_cons (by decide) rest)
      have hskip : skip (closeBracket :: rest) = closeBracket :: rest := skip_of_first (by rfl) rest
      rw [elementsText, List.append_assoc, List.singleton_append, readElements]
      simp only [hvalue, Option.bind_eq_bind, Option.bind_some, hskip, List.head?_cons, if_true,
        List.tail_cons]
    | @cons next json' texts elements hnext hothers =>
      simp only [elementsText, List.length_append, List.length_cons] at hfuel
      obtain ⟨fuel, rfl⟩ := Nat.exists_eq_succ_of_ne_zero (by omega : fuel ≠ 0)
      have htail := ih (List.cons_ne_nil _ _)
        (show (elementsText (next :: texts)).length ≤ fuel by omega)
      have hvalue := hread.read fuel (comma :: (elementsText (next :: texts) ++ rest)) (by omega)
        (ends_cons (by decide) _)
      have hcomma : skip (comma :: (elementsText (next :: texts) ++ rest)) =
          comma :: (elementsText (next :: texts) ++ rest) := skip_of_first (by rfl) _
      have hskip : skip (elementsText (next :: texts) ++ rest) = elementsText (next :: texts) ++ rest := by
        obtain ⟨c, tail, hcons, hspace⟩ := hnext.first
        obtain ⟨more, hmore⟩ := elementsText_cons next texts
        rw [hmore, hcons, List.cons_append, List.cons_append, skip_of_first hspace]
      have hbracket : ¬some comma = some closeBracket := by decide
      rw [elementsText, List.append_assoc, List.cons_append, readElements]
      · simp only [hvalue, Option.bind_eq_bind, Option.bind_some, hcomma, List.head?_cons, hbracket,
          if_false, ne_eq, not_true_eq_false, List.tail_cons, hskip, htail]
      · exact nofun

theorem Reads.not_closeBracket {input : List UInt8} {json : Json} (h : Reads input json)
    (rest : List UInt8) : (input ++ rest).head? ≠ some closeBracket := by
  obtain ⟨c, tail, hcons, -⟩ := h.first
  rw [hcons, List.cons_append, List.head?_cons]
  intro hc
  obtain rfl : c = closeBracket := Option.some.inj hc
  have hread := h.read (input.length + 1) [] (Nat.le_succ _) (fun c hc => by cases hc)
  rw [hcons, List.append_nil, readValue] at hread
  have hnone : readNumber (closeBracket :: tail) = none := rfl
  cases hread.symm.trans hnone

theorem Reads.array {texts : List (List UInt8)} {elements : List Json}
    (h : List.Forall₂ Reads texts elements) : Reads (arrayText texts) (.array elements) := by
  refine ⟨⟨openBracket, _, rfl, rfl⟩, fun fuel rest hfuel _ => ?_⟩
  simp only [arrayText, List.length_cons] at hfuel
  obtain ⟨fuel, rfl⟩ := Nat.exists_eq_succ_of_ne_zero (by omega : fuel ≠ 0)
  have hquote : ¬some openBracket = some quote := by decide
  have hbrace : ¬some openBracket = some openBrace := by decide
  cases h with
  | nil => rfl
  | @cons input json texts elements hread hrest =>
    have helements := readElements_text (.cons hread hrest) (List.cons_ne_nil _ _)
      (show (elementsText (input :: texts)).length ≤ fuel by omega) rest
    obtain ⟨more, hmore⟩ := elementsText_cons input texts
    obtain ⟨c, tail, hcons, hspace⟩ := hread.first
    have hskip : skip (elementsText (input :: texts) ++ rest) = elementsText (input :: texts) ++ rest := by
      rw [hmore, hcons, List.cons_append, List.cons_append, skip_of_first hspace]
    have hfull : ¬(elementsText (input :: texts) ++ rest).head? = some closeBracket := by
      rw [hmore, List.append_assoc]
      exact hread.not_closeBracket _
    rw [arrayText, List.cons_append, readValue]
    simp only [List.head?_cons, hquote, hbrace, if_false, if_true, List.tail_cons, hskip, hfull,
      helements, Option.map_some]

/-! ## What texts are made of -/

theorem mem_membersText {c : UInt8} {spaces closing : List UInt8} {fields : List (List UInt8 × List UInt8)}
    (h : c ∈ membersText spaces closing fields) :
    c ∈ spaces ∨ c ∈ closing ∨ c ∈ [closeBrace, comma, quote, colon] ∨
      ∃ field ∈ fields, c ∈ field.1 ∨ c ∈ field.2 := by
  have hmember : ∀ field : List UInt8 × List UInt8, c ∈ memberText field →
      c ∈ [closeBrace, comma, quote, colon] ∨ c ∈ field.1 ∨ c ∈ field.2 := by
    intro field hc
    simp only [memberText, List.mem_cons, List.mem_append] at hc ⊢
    tauto
  induction fields with
  | nil =>
    rcases List.mem_append.1 h with hclosing | hbrace
    · exact Or.inr (Or.inl hclosing)
    · rw [List.mem_singleton.1 hbrace]
      exact Or.inr (Or.inr (Or.inl List.mem_cons_self))
  | cons field fields ih =>
    cases fields with
    | nil =>
      rw [membersText, List.mem_append, List.mem_append, List.mem_singleton] at h
      rcases h with hc | hclosing | rfl
      · rcases hmember field hc with hmark | hfield
        · exact Or.inr (Or.inr (Or.inl hmark))
        · exact Or.inr (Or.inr (Or.inr ⟨field, List.mem_cons_self, hfield⟩))
      · exact Or.inr (Or.inl hclosing)
      · exact Or.inr (Or.inr (Or.inl List.mem_cons_self))
    | cons next fields =>
      rw [membersText, List.mem_append, List.mem_cons, List.mem_append] at h
      · rcases h with hc | rfl | hspaces | hrest
        · rcases hmember field hc with hmark | hfield
          · exact Or.inr (Or.inr (Or.inl hmark))
          · exact Or.inr (Or.inr (Or.inr ⟨field, List.mem_cons_self, hfield⟩))
        · exact Or.inr (Or.inr (Or.inl (List.mem_cons_of_mem _ List.mem_cons_self)))
        · exact Or.inl hspaces
        · rcases ih hrest with h | h | h | ⟨other, hmem, h⟩
          · exact Or.inl h
          · exact Or.inr (Or.inl h)
          · exact Or.inr (Or.inr (Or.inl h))
          · exact Or.inr (Or.inr (Or.inr ⟨other, List.mem_cons_of_mem _ hmem, h⟩))
      · exact nofun

theorem mem_elementsText {c : UInt8} {elements : List (List UInt8)} (h : c ∈ elementsText elements) :
    c ∈ [closeBracket, comma] ∨ ∃ element ∈ elements, c ∈ element := by
  induction elements with
  | nil =>
    rw [List.mem_singleton.1 h]
    exact Or.inl List.mem_cons_self
  | cons element elements ih =>
    cases elements with
    | nil =>
      rw [elementsText, List.mem_append, List.mem_singleton] at h
      rcases h with hc | rfl
      · exact Or.inr ⟨element, List.mem_cons_self, hc⟩
      · exact Or.inl List.mem_cons_self
    | cons next elements =>
      rw [elementsText, List.mem_append, List.mem_cons] at h
      · rcases h with hc | rfl | hrest
        · exact Or.inr ⟨element, List.mem_cons_self, hc⟩
        · exact Or.inl (List.mem_cons_of_mem _ List.mem_cons_self)
        · rcases ih hrest with hmark | ⟨other, hmem, hc⟩
          · exact Or.inl hmark
          · exact Or.inr ⟨other, List.mem_cons_of_mem _ hmem, hc⟩
      · exact nofun

end Json
