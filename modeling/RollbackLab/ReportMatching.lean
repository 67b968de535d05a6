import RollbackLab.CanonicalJson
import RollbackLab.Search

/-!
# What the supervisor looks for in a report

The supervisor of a run over sockets searches the text of each peer's report for three
pieces. The piece with the confirmed frame ends in a numeral that nothing closes, so the
numeral may also be the beginning of a longer one.
-/

namespace RollbackLab

open Numeral (text decimal)
open Json (quote memberText Finds MemberQuery)
open Search (Starts)

def reportMatches (report : List UInt8) (frame : UInt32) (hash : StateHash) : Bool :=
  decide (text "\"success\":true" <:+: report) &&
    decide (text "\"confirmed_frame\":" ++ decimal frame.toNat <:+: report) &&
    decide (hashText hash <:+: report)

/-- What the build takes for the name of its commit: the hash that git answers, the name
that it repeats, or that there is none. -/
def CommitName (sha : List UInt8) : Prop :=
  (∀ c ∈ sha, c ∈ text "0123456789abcdef") ∨ sha ∈ [text "HEAD", text "unavailable"]

/-- The strings that a peer writes into its report. -/
structure PeerTexts (report : RunReport) : Prop where
  gitSha : CommitName report.gitSha
  buildType : report.buildType ∈ [text "Release", text "Debug"]
  compiler : report.compiler ∈ [text "Clang", text "MSVC", text "GCC"]
  os : report.os ∈ [text "Windows", text "POSIX"]
  desyncResult : report.desyncResult = text "none"
  failureReason : report.failureReason ∈ [[], text "udp peer did not confirm final remote hash"]

/-- The letter in front of the digits of a hash. -/
def hashMark : UInt8 := 120

/-- A text that is written as it is, and has no letter of a hash. -/
def Unmarked (bytes : List UInt8) : Prop := escaped bytes = bytes ∧ quote ∉ bytes ∧ hashMark ∉ bytes

/-- A value that is a number or a word, or a string with nothing of a hash. -/
inductive Scalar : List UInt8 → Prop
  | bare {bytes : List UInt8} (hquote : quote ∉ bytes) (hmark : hashMark ∉ bytes) : Scalar bytes
  | string {bytes : List UInt8} (hquote : quote ∉ bytes) (hmark : hashMark ∉ bytes) :
      Scalar (quoted bytes)

theorem Scalar.decimal (n : ℕ) : Scalar (decimal n) := by
  have hdigit : ∀ c ∈ Numeral.decimal n, Json.isDigit c = true := fun c hc => Json.isDigit_decimal hc
  exact .bare (fun h => absurd (hdigit _ h) (by decide)) (fun h => absurd (hdigit _ h) (by decide))

theorem Scalar.boolText (value : Bool) : Scalar (boolText value) := by
  cases value <;> exact .bare (by decide) (by decide)

theorem Scalar.escaped {bytes : List UInt8} (h : Unmarked bytes) : Scalar (quoted (escaped bytes)) := by
  rw [h.1]
  exact .string h.2.1 h.2.2

theorem Scalar.overflowPolicyText (policy : QueueOverflowPolicy) :
    Scalar (quoted (overflowPolicyText policy)) := by
  cases policy <;> exact .string (by decide) (by decide)

theorem CommitName.plain {sha : List UInt8} (h : CommitName sha) : Unmarked sha := by
  rcases h with hhex | hname
  · have hletter : ∀ c ∈ text "0123456789abcdef", escape c = [c] ∧ c ≠ quote ∧ c ≠ hashMark :=
      Numeral.forall_mem_of_all (by decide)
    refine ⟨?_, fun hmem => (hletter _ (hhex _ hmem)).2.1 rfl, fun hmem => (hletter _ (hhex _ hmem)).2.2 rfl⟩
    rw [escaped, List.flatMap_congr fun c hc => (hletter c (hhex c hc)).1, List.flatMap_singleton']
  · have hall : ∀ name ∈ [text "HEAD", text "unavailable"],
        escaped name = name ∧ quote ∉ name ∧ hashMark ∉ name := by decide
    exact hall sha hname

/-- The keys that the supervisor looks for. -/
def soughtKeys : List (List UInt8) := [text "success", text "confirmed_frame"]

/-- A key with neither a quote nor the beginning of a hash. -/
def PlainKey (key : List UInt8) : Prop := quote ∉ key ∧ 48 ∉ key

/-- The values of a report's members. -/
inductive Value : List UInt8 → Prop
  | scalar {bytes : List UInt8} (h : Scalar bytes) : Value bytes
  | hash (hash : StateHash) : Value (quoted (hashText hash))
  | object {fields : List (List UInt8 × List UInt8)}
      (h : ∀ field ∈ fields, (PlainKey field.1 ∧ field.1 ∉ soughtKeys) ∧ Scalar field.2) :
      Value (inlineObject fields)

theorem transportFields_plain (config : TransportConfig) :
    ∀ field ∈ transportFields config, (PlainKey field.1 ∧ field.1 ∉ soughtKeys) ∧ Scalar field.2 := by
  simp only [transportFields, List.forall_mem_cons]
  refine ⟨⟨?_, .decimal _⟩, ⟨?_, .decimal _⟩, ⟨?_, .decimal _⟩, ⟨?_, .decimal _⟩, ⟨?_, .decimal _⟩,
    ⟨?_, .decimal _⟩, ⟨?_, .decimal _⟩, ⟨?_, .decimal _⟩, ⟨?_, .decimal _⟩, ⟨?_, .decimal _⟩,
    ⟨?_, .overflowPolicyText _⟩, by simp⟩
  all_goals exact ⟨⟨by decide, by decide⟩, by decide⟩

theorem timingFields_plain (timing : TimingObservations) :
    ∀ field ∈ timingFields timing, (PlainKey field.1 ∧ field.1 ∉ soughtKeys) ∧ Scalar field.2 := by
  simp only [timingFields, List.forall_mem_cons]
  refine ⟨⟨?_, .decimal _⟩, ⟨?_, .decimal _⟩, by simp⟩
  all_goals exact ⟨⟨by decide, by decide⟩, by decide⟩

theorem PeerTexts.plain {report : RunReport} (h : PeerTexts report) :
    Unmarked report.gitSha ∧ Unmarked report.buildType ∧ Unmarked report.compiler ∧ Unmarked report.os ∧
      Unmarked report.desyncResult ∧ Unmarked report.failureReason := by
  have hall : ∀ bytes ∈ [text "Release", text "Debug", text "Clang", text "MSVC", text "GCC",
      text "Windows", text "POSIX", text "none", [], text "udp peer did not confirm final remote hash"],
      escaped bytes = bytes ∧ quote ∉ bytes ∧ hashMark ∉ bytes := by decide
  have hbuild := h.buildType
  have hcompiler := h.compiler
  have hos := h.os
  have hfailure := h.failureReason
  refine ⟨h.gitSha.plain, hall _ ?_, hall _ ?_, hall _ ?_, hall _ ?_, hall _ ?_⟩
  · grind
  · grind
  · grind
  · rw [h.desyncResult]
    decide
  · grind

theorem reportFields_plain {report : RunReport} (h : PeerTexts report) :
    ∀ field ∈ reportFields report, PlainKey field.1 ∧ Value field.2 := by
  obtain ⟨hsha, hbuild, hcompiler, hos, hdesync, hfailure⟩ := h.plain
  have hnumber (n : ℕ) : Value (decimal n) := .scalar (.decimal n)
  have hword (value : Bool) : Value (boolText value) := .scalar (.boolText value)
  simp only [reportFields, List.forall_mem_cons]
  refine ⟨⟨?_, .scalar (.escaped hsha)⟩, ⟨?_, .scalar (.escaped hbuild)⟩,
    ⟨?_, .scalar (.escaped hcompiler)⟩, ⟨?_, .scalar (.escaped hos)⟩, ⟨?_, hnumber _⟩, ⟨?_, hnumber _⟩,
    ⟨?_, hnumber _⟩, ⟨?_, hnumber _⟩, ⟨?_, hnumber _⟩, ⟨?_, hnumber _⟩,
    ⟨?_, .object (transportFields_plain _)⟩, ⟨?_, hnumber _⟩, ⟨?_, hnumber _⟩, ⟨?_, hnumber _⟩,
    ⟨?_, hnumber _⟩, ⟨?_, hnumber _⟩, ⟨?_, hnumber _⟩, ⟨?_, hnumber _⟩, ⟨?_, hnumber _⟩,
    ⟨?_, hnumber _⟩, ⟨?_, hnumber _⟩, ⟨?_, hnumber _⟩, ⟨?_, .hash _⟩, ⟨?_, .hash _⟩, ⟨?_, hword _⟩,
    ⟨?_, .scalar (.escaped hdesync)⟩, ⟨?_, .object (timingFields_plain _)⟩, ⟨?_, .hash _⟩,
    ⟨?_, hword _⟩, ⟨?_, .scalar (.escaped hfailure)⟩, by simp⟩
  all_goals exact ⟨by decide, by decide⟩

/-! ## Looking for a member -/

theorem Spaces.nil : Json.Spaces [] := by
  intro c hc
  cases hc

/-- A value that is found nowhere in the members of an object is not found in the object. -/
theorem finds_inlineObject {first : UInt8} {pattern : List UInt8}
    {fields : List (List UInt8 × List UInt8)} (hfirst : Json.isStop first = false)
    (hbrace : first ≠ Json.openBrace)
    (h : ∀ field ∈ fields, Finds (first :: pattern) (memberText field) False) :
    Finds (first :: pattern) (inlineObject fields) False := by
  intro c rest _
  rw [inlineObject, Json.starts_objectText hfirst hbrace Spaces.nil Spaces.nil h]
  simp

theorem Spaces.line : Json.Spaces (text "\n  ") ∧ Json.Spaces (text "\n") := by
  exact ⟨Numeral.forall_mem_of_all (by decide), Numeral.forall_mem_of_all (by decide)⟩

/-- A search in the whole report finds what it finds in one of the members. -/
theorem infix_canonicalJson {report : RunReport} {written : List UInt8}
    (hwritten : canonicalJson report = .ok written) {first : UInt8} {pattern : List UInt8}
    (hfirst : Json.isStop first = false) (hbrace : first ≠ Json.openBrace)
    {found : List UInt8 × List UInt8 → Prop}
    (h : ∀ field ∈ reportFields report, Finds (first :: pattern) (memberText field) (found field)) :
    first :: pattern <:+: written ↔ ∃ field ∈ reportFields report, found field := by
  rw [canonicalJson] at hwritten
  injection hwritten with hwritten
  have hend : first ∉ text "\n" := by
    have hline : text "\n" = [10] := by decide
    rw [hline, List.mem_singleton]
    rintro rfl
    exact absurd hfirst (by decide)
  rw [← hwritten, Search.infix_iff (List.cons_ne_nil _ _), Search.starts_append,
    or_iff_left (Search.not_starts_of_not_mem hend),
    Json.starts_objectText hfirst hbrace Spaces.line.1 Spaces.line.2 h]

section Member

variable {key value : List UInt8} (h : MemberQuery key value)

include h

theorem finds_scalar {bytes : List UInt8} (hbytes : Scalar bytes) :
    Finds (memberText (key, value)) bytes False := by
  cases hbytes with
  | bare hquote => exact Json.finds_of_not_mem hquote
  | string hquote => exact h.finds_string hquote

end Member

/-! ## Looking for a hash -/

theorem hashText_places (hash : StateHash) : hashText hash =
    48 :: hashMark :: Numeral.places 16 Numeral.upperHexDigit 16 hash.toNat := by
  have hlt : hash.toNat < 16 ^ 16 := hash.toNat_lt
  rw [hashText, Numeral.padded_eq_places (by decide) hlt]
  rfl

theorem hashText_injective : Function.Injective hashText := by
  intro hash other h
  rw [hashText, hashText, List.append_cancel_left_eq] at h
  exact UInt64.toNat_inj.mp (Numeral.padded_injective (by decide) Numeral.readHex_upper 16 h)

theorem not_mem_hashDigits {c : UInt8} (hc : ∀ d < 16, c ≠ Numeral.upperHexDigit d) (n : ℕ) :
    c ∉ Numeral.places 16 Numeral.upperHexDigit 16 n := by
  intro hmem
  rw [Numeral.places, List.mem_reverse, List.mem_map] at hmem
  obtain ⟨place, -, heq⟩ := hmem
  exact hc _ (Nat.mod_lt _ (by decide)) heq.symm

theorem quote_not_mem_hashText (hash : StateHash) : quote ∉ hashText hash := by
  rw [hashText_places, List.mem_cons, List.mem_cons, not_or, not_or]
  exact ⟨by decide, by decide, not_mem_hashDigits (by decide) _⟩

theorem hashMark_mem_hashText (hash : StateHash) : hashMark ∈ hashText hash := by
  rw [hashText_places]
  exact List.mem_cons_of_mem _ List.mem_cons_self

/-! ### In the values -/

section Value

variable {key value : List UInt8} (h : MemberQuery key value) (hsought : key ∈ soughtKeys)

include h hsought

theorem finds_value {bytes : List UInt8} (hbytes : Value bytes) :
    Finds (memberText (key, value)) bytes False := by
  cases hbytes with
  | scalar hscalar => exact finds_scalar h hscalar
  | hash hash => exact h.finds_string (quote_not_mem_hashText hash)
  | object hfields =>
    apply finds_inlineObject (by decide) (by decide)
    intro field hfield
    obtain ⟨⟨hplain, hkey⟩, hscalar⟩ := hfields field hfield
    apply (h.finds_member hplain.1 (finds_scalar h hscalar)).of_iff
    exact iff_false_intro fun hfound => hkey (hfound.1 ▸ hsought)

/-- The search for a key finds the member of the report with that key. -/
theorem infix_member {report : RunReport} (hpeer : PeerTexts report) {written : List UInt8}
    (hwritten : canonicalJson report = .ok written) : memberText (key, value) <:+: written ↔
      ∃ field ∈ reportFields report, field.1 = key ∧ value <+: field.2 := by
  apply infix_canonicalJson hwritten (by decide) (by decide)
  intro field hfield
  obtain ⟨hplain, hvalue⟩ := reportFields_plain hpeer field hfield
  exact h.finds_member hplain.1 (finds_value h hsought hvalue)

end Value

theorem quoted_injective : Function.Injective quoted := by
  intro bytes other h
  rw [quoted, quoted, List.cons.injEq] at h
  exact List.append_cancel_right h.2

/-- A hash is found in no text without the letter of a hash. -/
theorem finds_hash_of_not_mem {bytes : List UInt8} (h : hashMark ∉ bytes) (hash : StateHash) :
    Finds (hashText hash) bytes False := by
  intro c rest hc
  have hstop : hashMark ≠ c := by
    rintro rfl
    exact absurd hc (by decide)
  rw [hashText_places, iff_false_intro (Search.not_starts_of_second h hstop)]

theorem Scalar.hashMark_not_mem {bytes : List UInt8} (h : Scalar bytes) : hashMark ∉ bytes := by
  cases h with
  | bare _ hmark => exact hmark
  | string _ hmark =>
    rw [quoted, List.mem_cons, List.mem_append, List.mem_singleton, not_or, not_or]
    exact ⟨by decide, hmark, by decide⟩

theorem hashText_prefix (hash other : StateHash) (rest : List UInt8) :
    hashText hash <+: hashText other ++ rest ↔ other = hash := by
  have hlen (value : StateHash) : (hashText value).length = 18 := by
    rw [hashText_places, List.length_cons, List.length_cons, Numeral.length_places]
  rw [List.prefix_iff_eq_take, hlen, ← hlen other, List.take_left', hashText_injective.eq_iff, eq_comm]
  rfl

/-- In a written hash only the hash itself is found. -/
theorem finds_hash_hash (hash other : StateHash) :
    Finds (hashText hash) (quoted (hashText other)) (quoted (hashText other) = quoted (hashText hash)) := by
  intro c rest hc
  have hstop : hashMark ≠ c := by
    rintro rfl
    exact absurd hc (by decide)
  rw [quoted_injective.eq_iff, hashText_injective.eq_iff, ← hashText_prefix hash other (quote :: c :: rest),
    hashText_places hash, hashText_places other]
  generalize Numeral.places 16 Numeral.upperHexDigit 16 hash.toNat = pattern
  have hmark := not_mem_hashDigits (c := hashMark) (by decide) other.toNat
  generalize Numeral.places 16 Numeral.upperHexDigit 16 other.toNat = digits at hmark ⊢
  have hend : hashMark ∉ digits ++ [quote] := by
    rw [List.mem_append, List.mem_singleton, not_or]
    exact ⟨hmark, by decide⟩
  have hquote : ¬(48 : UInt8) = quote := by decide
  have hletter : ¬(48 : UInt8) = hashMark := by decide
  simp only [quoted, List.cons_append, Starts, List.cons_prefix_cons, List.append_assoc, List.nil_append,
    iff_false_intro (Search.not_starts_of_second hend hstop), hquote, hletter, false_and, false_or, or_false]

/-- The hash of a member is found in its value. -/
theorem finds_hash_member {field : List UInt8 × List UInt8} (hkey : PlainKey field.1) {hash : StateHash}
    {found : Prop} (hvalue : Finds (hashText hash) field.2 found) :
    Finds (hashText hash) (memberText field) found := by
  intro c rest hc
  have hsplit : memberText field = (quote :: (field.1 ++ [quote, Json.colon])) ++ field.2 := by
    simp [memberText]
  have hmarks : (48 : UInt8) ∉ quote :: (field.1 ++ [quote, Json.colon]) := by
    rw [List.mem_cons, List.mem_append, not_or, not_or]
    exact ⟨by decide, hkey.2, by decide⟩
  rw [hsplit, Search.starts_append, hvalue c rest hc, hashText_places,
    iff_false_intro (Search.not_starts_of_not_mem hmarks), false_or]

theorem Scalar.ne_hash {bytes : List UInt8} (h : Scalar bytes) (hash : StateHash) :
    bytes ≠ quoted (hashText hash) := by
  rintro rfl
  exact h.hashMark_not_mem (List.mem_cons_of_mem _ (List.mem_append_left _ (hashMark_mem_hashText hash)))

theorem inlineObject_ne_hash (fields : List (List UInt8 × List UInt8)) (hash : StateHash) :
    inlineObject fields ≠ quoted (hashText hash) := by
  rw [inlineObject, Json.objectText, quoted, Ne, List.cons.injEq]
  exact fun h => absurd h.1 (by decide)

/-- Among the values of a report, a hash is found in those that are its text. -/
theorem finds_hash {bytes : List UInt8} (h : Value bytes) (hash : StateHash) :
    Finds (hashText hash) bytes (bytes = quoted (hashText hash)) := by
  cases h with
  | scalar hscalar =>
    exact (finds_hash_of_not_mem hscalar.hashMark_not_mem hash).of_iff (iff_of_false id (hscalar.ne_hash hash))
  | hash other => exact finds_hash_hash hash other
  | @object fields hfields =>
    have hnone : Finds (hashText hash) (inlineObject fields) False := by
      rw [hashText_places]
      apply finds_inlineObject (by decide) (by decide)
      intro field hfield
      obtain ⟨⟨hplain, -⟩, hscalar⟩ := hfields field hfield
      rw [← hashText_places]
      exact finds_hash_member hplain (finds_hash_of_not_mem hscalar.hashMark_not_mem hash)
    exact hnone.of_iff (iff_of_false id (inlineObject_ne_hash fields hash))

/-- The search for a hash finds the members that hold it. -/
theorem infix_hash {report : RunReport} (hpeer : PeerTexts report) {written : List UInt8}
    (hwritten : canonicalJson report = .ok written) (hash : StateHash) : hashText hash <:+: written ↔
      ∃ field ∈ reportFields report, field.2 = quoted (hashText hash) := by
  rw [hashText_places]
  apply infix_canonicalJson hwritten (by decide) (by decide)
  intro field hfield
  obtain ⟨hplain, hvalue⟩ := reportFields_plain hpeer field hfield
  rw [← hashText_places]
  exact finds_hash_member hplain (finds_hash hvalue hash)

/-! ## The three searches -/

/-- The members with a key, when only one has it. -/
theorem exists_member {fields : List (List UInt8 × List UInt8)} (hkeys : (fields.map Prod.fst).Nodup)
    {key value : List UInt8} (hmem : (key, value) ∈ fields) (found : List UInt8 → Prop) :
    (∃ field ∈ fields, field.1 = key ∧ found field.2) ↔ found value := by
  constructor
  · rintro ⟨field, hfield, hkey, hfound⟩
    rw [List.inj_on_of_nodup_map hkeys hfield hmem hkey] at hfound
    exact hfound
  · intro hfound
    exact ⟨(key, value), hmem, rfl, hfound⟩

theorem reportFields_nodup (report : RunReport) : ((reportFields report).map Prod.fst).Nodup := by
  simp only [reportFields, List.map_cons, List.map_nil]
  decide

section Searches

variable {report : RunReport} (hpeer : PeerTexts report) {written : List UInt8}
  (hwritten : canonicalJson report = .ok written)

include hpeer hwritten

theorem infix_success : text "\"success\":true" <:+: written ↔ report.success = true := by
  have hquery : MemberQuery (text "success") (text "true") :=
    ⟨by decide, ⟨115, text "uccess", by decide⟩, Numeral.forall_mem_of_all (by decide)⟩
  have htext : text "\"success\":true" = memberText (text "success", text "true") := by decide
  have hmem : (text "success", boolText report.success) ∈ reportFields report := by simp [reportFields]
  rw [htext, infix_member hquery (by decide) hpeer hwritten, exists_member (reportFields_nodup report) hmem]
  cases report.success <;> decide

theorem infix_confirmedFrame (frame : UInt32) :
    text "\"confirmed_frame\":" ++ decimal frame.toNat <:+: written ↔
      decimal frame.toNat <+: decimal report.confirmedFrame.value.toNat := by
  have hdigits : ∀ c ∈ decimal frame.toNat, Json.isStop c = false := by
    intro c hc
    obtain ⟨d, hd, rfl⟩ := Numeral.mem_numeral (by decide) hc
    exact (by decide : ∀ d < 10, Json.isStop (Numeral.decimalDigit d) = false) d hd
  have hquery : MemberQuery (text "confirmed_frame") (decimal frame.toNat) :=
    ⟨by decide, ⟨99, text "onfirmed_frame", by decide⟩, hdigits⟩
  have htext : text "\"confirmed_frame\":" ++ decimal frame.toNat =
      memberText (text "confirmed_frame", decimal frame.toNat) := rfl
  have hmem : (text "confirmed_frame", decimal report.confirmedFrame.value.toNat) ∈ reportFields report := by
    simp [reportFields]
  rw [htext, infix_member hquery (by decide) hpeer hwritten, exists_member (reportFields_nodup report) hmem]

theorem infix_hashText (hash : StateHash) : hashText hash <:+: written ↔
    report.finalHashA = hash ∨ report.finalHashB = hash ∨ reportIdentity report = hash := by
  obtain ⟨hsha, hbuild, hcompiler, hos, hdesync, hfailure⟩ := hpeer.plain
  have hnumber (n : ℕ) : ¬decimal n = quoted (hashText hash) := (Scalar.decimal n).ne_hash hash
  have hword (value : Bool) : ¬boolText value = quoted (hashText hash) := (Scalar.boolText value).ne_hash hash
  have hstring {bytes : List UInt8} (h : Unmarked bytes) : ¬quoted (escaped bytes) = quoted (hashText hash) :=
    (Scalar.escaped h).ne_hash hash
  have hobject (fields : List (List UInt8 × List UInt8)) : ¬inlineObject fields = quoted (hashText hash) :=
    inlineObject_ne_hash fields hash
  rw [infix_hash hpeer hwritten]
  simp only [reportFields, List.exists_mem_cons_iff, hnumber, hword, hstring hsha, hstring hbuild,
    hstring hcompiler, hstring hos, hstring hdesync, hstring hfailure, hobject,
    quoted_injective.eq_iff, hashText_injective.eq_iff, List.not_mem_nil, false_and, exists_false,
    false_or, or_false]

/-- A report matches when it is a success with one of its hashes, and its confirmed frame
begins with the digits of the frame. -/
theorem reportMatches_iff (frame : UInt32) (hash : StateHash) :
    reportMatches written frame hash = true ↔ report.success = true ∧
      decimal frame.toNat <+: decimal report.confirmedFrame.value.toNat ∧
      (report.finalHashA = hash ∨ report.finalHashB = hash ∨ reportIdentity report = hash) := by
  rw [reportMatches, Bool.and_eq_true, Bool.and_eq_true, decide_eq_true_iff, decide_eq_true_iff,
    decide_eq_true_iff, infix_success hpeer hwritten, infix_confirmedFrame hpeer hwritten,
    infix_hashText hpeer hwritten, and_assoc]

end Searches

/-- The frame's numeral is only the beginning of the other one's. -/
def OnlyBegins (frame other : UInt32) : Prop :=
  decimal frame.toNat <+: decimal other.toNat ∧ frame ≠ other

/-- A report that matches is a success at the frame with one of its hashes, unless the
confirmed frame of a success with such a hash goes on behind the digits of the frame. -/
theorem report_matches_sound_iff {report : RunReport} (hpeer : PeerTexts report) {written : List UInt8}
    (hwritten : canonicalJson report = .ok written) (frame : UInt32) (hash : StateHash) :
    (reportMatches written frame hash = true →
      report.success = true ∧ report.confirmedFrame = ⟨frame⟩ ∧
        (report.finalHashA = hash ∨ report.finalHashB = hash ∨ reportIdentity report = hash)) ↔
    ¬(report.success = true ∧
      (report.finalHashA = hash ∨ report.finalHashB = hash ∨ reportIdentity report = hash) ∧
        OnlyBegins frame report.confirmedFrame.value) := by
  rw [reportMatches_iff hpeer hwritten]
  constructor
  · rintro h ⟨hsuccess, hhash, hbegins, hne⟩
    have hframe := (h ⟨hsuccess, hbegins, hhash⟩).2.1
    exact hne (congrArg FrameNumber.value hframe).symm
  · rintro h ⟨hsuccess, hbegins, hhash⟩
    refine ⟨hsuccess, ?_, hhash⟩
    by_contra hne
    exact h ⟨hsuccess, hhash, hbegins, fun heq => hne (FrameNumber.ext (congrArg UInt32.toNat heq.symm))⟩

/-- What a peer reports that has finished so many frames. -/
def finishedReport (frames : UInt32) : RunReport where
  buildType := buildName
  compiler := compilerName
  os := text "POSIX"
  frameCount := frames
  confirmedFrame := ⟨frames⟩
  replayVerified := true
  success := true

theorem finishedReport_texts (frames : UInt32) : PeerTexts (finishedReport frames) where
  gitSha := Or.inr (List.mem_cons_of_mem _ List.mem_cons_self)
  buildType := List.mem_cons_self
  compiler := List.mem_cons_of_mem _ (List.mem_cons_of_mem _ List.mem_cons_self)
  os := List.mem_cons_of_mem _ List.mem_cons_self
  desyncResult := rfl
  failureReason := List.mem_cons_self

theorem report_matches_sound_iff_finished :
    ∃ written, canonicalJson (finishedReport 120) = .ok written ∧
      ((reportMatches written 120 0 = true →
        (finishedReport 120).success = true ∧ (finishedReport 120).confirmedFrame = ⟨120⟩ ∧
          ((finishedReport 120).finalHashA = 0 ∨ (finishedReport 120).finalHashB = 0 ∨
            reportIdentity (finishedReport 120) = 0)) ↔
      ¬((finishedReport 120).success = true ∧
        ((finishedReport 120).finalHashA = 0 ∨ (finishedReport 120).finalHashB = 0 ∨
          reportIdentity (finishedReport 120) = 0) ∧
        OnlyBegins 120 (finishedReport 120).confirmedFrame.value)) :=
  ⟨_, rfl, report_matches_sound_iff (finishedReport_texts 120) rfl 120 0⟩

/-- The report of a run to frame 120 matches frame 12. -/
theorem report_matches_beginning : ¬∀ (report : RunReport) (written : List UInt8) (frame : UInt32)
    (hash : StateHash), PeerTexts report → canonicalJson report = .ok written →
      reportMatches written frame hash = true → report.success = true ∧
        report.confirmedFrame = ⟨frame⟩ ∧
        (report.finalHashA = hash ∨ report.finalHashB = hash ∨ reportIdentity report = hash) := by
  intro h
  have hmatches := (reportMatches_iff (finishedReport_texts 120) rfl 12 0).mpr
    ⟨rfl, by decide, Or.inl rfl⟩
  have hframe := (h (finishedReport 120) _ 12 0 (finishedReport_texts 120) rfl hmatches).2.1
  exact absurd hframe (by decide)

end RollbackLab
