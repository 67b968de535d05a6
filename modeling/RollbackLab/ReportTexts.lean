import RollbackLab.CanonicalJson

/-!
# What the texts of a report say

A reader of JSON gets back every member of a report, each string byte for byte. The text
behind the identity tells apart any two runs whose reports differ in what the run
determines.
-/

namespace RollbackLab

open Numeral (text decimal places)
open Json (Reads Spells Writes)

/-! ## Reading a report back -/

/-- The form of a hash: sixteen digits, one for every four bits. -/
def hashForm (hash : StateHash) : List UInt8 :=
  text "0x" ++ places 16 Numeral.upperHexDigit 16 hash.toNat

def transportJson (config : TransportConfig) : Json :=
  .object [(text "base_latency_ticks", .number config.baseLatencyTicks.toNat 0),
    (text "jitter_ticks", .number config.jitterTicks.toNat 0),
    (text "loss_percent", .number config.lossPercent.toNat 0),
    (text "reorder_percent", .number config.reorderPercent.toNat 0),
    (text "duplicate_percent", .number config.duplicatePercent.toNat 0),
    (text "burst_loss_percent", .number config.burstLossPercent.toNat 0),
    (text "max_queue_packets", .number config.maxQueuePackets 0),
    (text "max_queue_bytes", .number config.maxQueueBytes 0),
    (text "bandwidth_bytes_per_tick", .number config.bandwidthBytesPerTick 0),
    (text "max_packet_age_ticks", .number config.maxPacketAgeTicks.toNat 0),
    (text "overflow_policy",
      .string (if config.overflowPolicy = .fail then text "fail" else text "drop_oldest"))]

def timingJson (timing : TimingObservations) : Json :=
  .object [(text "simulation_microseconds", .number timing.simulationMicroseconds.toNat 0),
    (text "rollback_microseconds", .number timing.rollbackMicroseconds.toNat 0)]

/-- What a report says, as a JSON value. -/
def reportJson (report : RunReport) : Json :=
  .object [(text "git_sha", .string report.gitSha),
    (text "build_type", .string report.buildType),
    (text "compiler", .string report.compiler),
    (text "os", .string report.os),
    (text "simulation_version", .number report.simulationVersion.toNat 0),
    (text "protocol_version", .number report.protocolVersion.toNat 0),
    (text "pcg32_version", .number report.pcg32Version.toNat 0),
    (text "scenario_seed", .number report.scenarioSeed.toNat 0),
    (text "transport_seed", .number report.transportSeed.toNat 0),
    (text "frame_count", .number report.frameCount.toNat 0),
    (text "transport_config", transportJson report.transportConfig),
    (text "sent_packets", .number report.transportMetrics.sentPackets.toNat 0),
    (text "delivered_packets", .number report.transportMetrics.deliveredPackets.toNat 0),
    (text "dropped_packets", .number ((report.transportMetrics.droppedLoss.toNat +
      report.transportMetrics.droppedOverflow.toNat +
      report.transportMetrics.droppedAge.toNat) % 2 ^ 64 : ℕ) 0),
    (text "duplicated_packets", .number report.transportMetrics.duplicatedPackets.toNat 0),
    (text "reordered_packets", .number report.transportMetrics.reorderedPackets.toNat 0),
    (text "rollback_count", .number report.rollbackCount.toNat 0),
    (text "resimulated_frames", .number report.resimulatedFrames.toNat 0),
    (text "maximum_rollback_depth", .number report.maximumRollbackDepth.toNat 0),
    (text "predicted_input_count", .number report.predictedInputCount.toNat 0),
    (text "late_input_count", .number report.lateInputCount.toNat 0),
    (text "confirmed_frame", .number report.confirmedFrame.value.toNat 0),
    (text "final_hash_a", .string (hashForm report.finalHashA)),
    (text "final_hash_b", .string (hashForm report.finalHashB)),
    (text "replay_verification", .bool report.replayVerified),
    (text "desync_result", .string report.desyncResult),
    (text "timing_observations", timingJson report.timing),
    (text "identity_digest", .string (hashForm (reportIdentity report))),
    (text "success", .bool report.success),
    (text "failure_reason", .string report.failureReason)]

/-- Every byte is spelled so that it is read back, the control characters by their code. -/
theorem escape_spells (c : UInt8) : Spells (escape c) c := by
  by_cases hcontrol : c < 0x20
  · have hlt : c.toNat < 32 := UInt8.lt_iff_toNat_lt.1 hcontrol
    obtain ⟨n, hn, rfl⟩ : ∃ n < 32, c = UInt8.ofNat n := ⟨c.toNat, hlt, UInt8.ofNat_toNat.symm⟩
    interval_cases n <;> exact ⟨⟨92, _, rfl, by decide⟩, fun rest => rfl⟩
  · by_cases hquote : c = 34
    · subst hquote
      exact ⟨⟨92, _, rfl, by decide⟩, fun rest => rfl⟩
    · by_cases hbackslash : c = 92
      · subst hbackslash
        exact ⟨⟨92, _, rfl, by decide⟩, fun rest => rfl⟩
      · have hplain : escape c = [c] := by
          rw [escape, if_neg hquote, if_neg hbackslash, if_neg, if_neg, if_neg, if_neg, if_neg,
            if_neg hcontrol]
          all_goals
            rintro rfl
            exact hcontrol (by decide)
        rw [hplain]
        exact .plain ⟨UInt8.not_lt.1 hcontrol, hquote, hbackslash⟩

theorem hashText_eq (hash : StateHash) : hashText hash = hashForm hash := by
  have hlt : hash.toNat < 16 ^ (15 + 1) := hash.toNat_lt
  rw [hashText, hashForm, Numeral.padded_eq_places (by decide) hlt]

def Plain (key : List UInt8) : Prop :=
  ∀ c ∈ key, 32 ≤ c ∧ c ≠ Json.quote ∧ c ≠ Json.backslash

instance (key : List UInt8) : Decidable (Plain key) :=
  List.decidableBAll (fun c => 32 ≤ c ∧ c ≠ Json.quote ∧ c ≠ Json.backslash) key

theorem hashForm_plain (hash : StateHash) : Plain (hashForm hash) := by
  have hdigits : ∀ d < 16, 32 ≤ Numeral.upperHexDigit d ∧ Numeral.upperHexDigit d ≠ Json.quote ∧
      Numeral.upperHexDigit d ≠ Json.backslash := by decide
  intro c hc
  rcases List.mem_append.1 hc with hprefix | hplace
  · exact (by decide : Plain (text "0x")) c hprefix
  · obtain ⟨place, -, rfl⟩ := List.mem_map.1 (List.mem_reverse.1 hplace)
    exact hdigits _ (Nat.mod_lt _ (by decide))

/-- A string that needs no escapes. -/
theorem reads_quoted_plain {bytes : List UInt8} (h : Plain bytes) :
    Reads (quoted bytes) (.string bytes) := by
  have hspells : ∀ c ∈ bytes, Spells [c] c := fun c hc => .plain (h c hc)
  have hreads : Reads (Json.quote :: (bytes.flatMap (fun c => [c]) ++ [Json.quote])) (.string bytes) :=
    .string hspells
  rwa [List.flatMap_singleton'] at hreads

theorem reads_quoted_escaped (bytes : List UInt8) : Reads (quoted (escaped bytes)) (.string bytes) :=
  .string fun c _ => escape_spells c

section Members

variable {key : List UInt8}

theorem writes_decimal (hkey : Plain key) (n : ℕ) : Writes (key, decimal n) (key, .number n 0) :=
  ⟨rfl, hkey, .decimal n⟩

theorem writes_string (hkey : Plain key) (bytes : List UInt8) :
    Writes (key, quoted (escaped bytes)) (key, .string bytes) :=
  ⟨rfl, hkey, reads_quoted_escaped bytes⟩

theorem writes_hash (hkey : Plain key) (hash : StateHash) :
    Writes (key, quoted (hashText hash)) (key, .string (hashForm hash)) := by
  rw [hashText_eq]
  exact ⟨rfl, hkey, reads_quoted_plain (hashForm_plain hash)⟩

theorem writes_bool (hkey : Plain key) (value : Bool) :
    Writes (key, boolText value) (key, .bool value) :=
  ⟨rfl, hkey, .bool value⟩

theorem writes_policy (hkey : Plain key) (policy : QueueOverflowPolicy) :
    Writes (key, quoted (overflowPolicyText policy))
      (key, .string (if policy = .fail then text "fail" else text "drop_oldest")) := by
  refine ⟨rfl, hkey, reads_quoted_plain ?_⟩
  cases policy
  · exact (by decide : Plain (text "fail"))
  · exact (by decide : Plain (text "drop_oldest"))

theorem writes_object (hkey : Plain key) {fields : List (List UInt8 × List UInt8)}
    {members : List (List UInt8 × Json)} (h : List.Forall₂ Writes fields members)
    (hne : fields ≠ []) : Writes (key, inlineObject fields) (key, .object members) :=
  ⟨rfl, hkey, Reads.objectText (List.forall_mem_nil _) (List.forall_mem_nil _) h hne⟩

end Members

theorem writes_transport (config : TransportConfig) :
    Writes (text "transport_config", inlineObject (transportFields config))
      (text "transport_config", transportJson config) := by
  apply writes_object (by decide) _ (List.cons_ne_nil _ _)
  simp only [List.forall₂_cons, List.forall₂_nil_left_iff, and_true]
  exact ⟨writes_decimal (by decide) _, writes_decimal (by decide) _, writes_decimal (by decide) _,
    writes_decimal (by decide) _, writes_decimal (by decide) _, writes_decimal (by decide) _,
    writes_decimal (by decide) _, writes_decimal (by decide) _, writes_decimal (by decide) _,
    writes_decimal (by decide) _, writes_policy (by decide) _⟩

theorem writes_timing (timing : TimingObservations) :
    Writes (text "timing_observations", inlineObject (timingFields timing))
      (text "timing_observations", timingJson timing) := by
  apply writes_object (by decide) _ (List.cons_ne_nil _ _)
  simp only [List.forall₂_cons, List.forall₂_nil_left_iff, and_true]
  exact ⟨writes_decimal (by decide) _, writes_decimal (by decide) _⟩

/-- The counters of dropped packets are added up in 64 bits. -/
theorem droppedPackets_toNat (metrics : TransportMetrics) : (droppedPackets metrics).toNat =
    (metrics.droppedLoss.toNat + metrics.droppedOverflow.toNat + metrics.droppedAge.toNat) %
      2 ^ 64 := by
  simp [droppedPackets, UInt64.toNat_add, Nat.mod_add_mod]

/-- The text of a report is JSON, and it says what the report holds. -/
theorem canonical_json_faithful (report : RunReport) :
    ∃ bytes, canonicalJson report = .ok bytes ∧ Json.parse bytes = some (reportJson report) := by
  refine ⟨_, rfl, ?_⟩
  have hlines : ∀ c ∈ text "\n  ", Json.isSpace c = true := Numeral.forall_mem_of_all (by decide)
  have hend : ∀ c ∈ text "\n", Json.isSpace c = true := Numeral.forall_mem_of_all (by decide)
  apply Reads.parse _ hend
  apply Reads.objectText hlines hend _ (List.cons_ne_nil _ _)
  simp only [droppedPackets_toNat, List.forall₂_cons, List.forall₂_nil_left_iff, and_true]
  exact ⟨writes_string (by decide) _, writes_string (by decide) _, writes_string (by decide) _,
    writes_string (by decide) _, writes_decimal (by decide) _, writes_decimal (by decide) _,
    writes_decimal (by decide) _, writes_decimal (by decide) _, writes_decimal (by decide) _,
    writes_decimal (by decide) _, writes_transport _, writes_decimal (by decide) _,
    writes_decimal (by decide) _, writes_decimal (by decide) _, writes_decimal (by decide) _,
    writes_decimal (by decide) _, writes_decimal (by decide) _, writes_decimal (by decide) _,
    writes_decimal (by decide) _, writes_decimal (by decide) _, writes_decimal (by decide) _,
    writes_decimal (by decide) _, writes_hash (by decide) _, writes_hash (by decide) _,
    writes_bool (by decide) _, writes_string (by decide) _, writes_timing _,
    writes_hash (by decide) _, writes_bool (by decide) _, writes_string (by decide) _⟩

/-! ## The identity of a run -/

/-- The separator is no digit. -/
theorem separator_not_mem_decimal (n : ℕ) : (124 : UInt8) ∉ decimal n := by
  intro h
  obtain ⟨d, hd, hdigit⟩ := Numeral.mem_numeral (by decide) h
  have hall : ∀ d < 10, Numeral.decimalDigit d ≠ 124 := by decide
  exact hall d hd hdigit.symm

/-- Joined numbers are told apart, whatever follows them. -/
theorem joined_inj {ns ms : List ℕ} (hlen : ns.length = ms.length) {rest rest' : List UInt8} :
    ns.flatMap (fun n => decimal n ++ text "|") ++ rest =
        ms.flatMap (fun n => decimal n ++ text "|") ++ rest' ↔ ns = ms ∧ rest = rest' := by
  have hbar : text "|" = [124] := by decide
  induction ns generalizing ms with
  | nil =>
    rw [List.length_eq_zero_iff.1 hlen.symm]
    simp
  | cons n ns ih =>
    cases ms with
    | nil => simp at hlen
    | cons m ms =>
      have hrest : ns.length = ms.length := by simpa using hlen
      have htail := ih hrest
      simp only [hbar] at htail
      simp only [List.flatMap_cons, List.append_assoc, hbar, List.cons_append, List.nil_append]
      rw [Numeral.separated_inj (separator_not_mem_decimal n) (separator_not_mem_decimal m),
        Numeral.decimal_injective.eq_iff, List.cons.injEq, and_assoc]
      exact and_congr_right fun _ => htail

/-- Two reports agree on everything that their runs determine. -/
structure SameRun (report other : RunReport) : Prop where
  simulationVersion : report.simulationVersion = other.simulationVersion
  protocolVersion : report.protocolVersion = other.protocolVersion
  pcg32Version : report.pcg32Version = other.pcg32Version
  scenarioSeed : report.scenarioSeed = other.scenarioSeed
  transportSeed : report.transportSeed = other.transportSeed
  frameCount : report.frameCount = other.frameCount
  transportConfig : { report.transportConfig with seed := 0 } = { other.transportConfig with seed := 0 }
  transportMetrics : report.transportMetrics = other.transportMetrics
  rollbackCount : report.rollbackCount = other.rollbackCount
  resimulatedFrames : report.resimulatedFrames = other.resimulatedFrames
  maximumRollbackDepth : report.maximumRollbackDepth = other.maximumRollbackDepth
  predictedInputCount : report.predictedInputCount = other.predictedInputCount
  lateInputCount : report.lateInputCount = other.lateInputCount
  confirmedFrame : report.confirmedFrame = other.confirmedFrame
  finalHashA : report.finalHashA = other.finalHashA
  finalHashB : report.finalHashB = other.finalHashB
  replayVerified : report.replayVerified = other.replayVerified
  desyncResult : report.desyncResult = other.desyncResult
  success : report.success = other.success
  failureReason : report.failureReason = other.failureReason

theorem QueueOverflowPolicy.number_injective : Function.Injective QueueOverflowPolicy.number := by
  intro policy other h
  cases policy <;> cases other <;> first | rfl | cases h

theorem boolNumber_injective : Function.Injective Bool.toNat := by
  intro value other h
  cases value <;> cases other <;> first | rfl | cases h

/-- The values that the desync result is given. -/
def DesyncText (value : List UInt8) : Prop := value = text "none" ∨ value = text "detected"

theorem DesyncText.separator {value : List UInt8} (h : DesyncText value) : (124 : UInt8) ∉ value := by
  rcases h with rfl | rfl
  · decide
  · decide

/-- The text behind the identity is the same exactly when two runs are. -/
theorem identity_faithful (report other : RunReport) (hreport : DesyncText report.desyncResult)
    (hother : DesyncText other.desyncResult) :
    identityMaterial report = identityMaterial other ↔ SameRun report other := by
  have hbar : text "|" = [124] := by decide
  have hlen : (identityNumbers report).length = (identityNumbers other).length := rfl
  rw [identityMaterial, identityMaterial, joined_inj hlen]
  simp only [hbar, List.append_assoc, List.cons_append, List.nil_append]
  rw [Numeral.separated_inj hreport.separator hother.separator,
    Numeral.separated_inj (separator_not_mem_decimal _) (separator_not_mem_decimal _),
    Numeral.decimal_injective.eq_iff, boolNumber_injective.eq_iff]
  simp only [identityNumbers, List.cons.injEq, UInt32.toNat_inj, UInt64.toNat_inj,
    QueueOverflowPolicy.number_injective.eq_iff, boolNumber_injective.eq_iff, and_true]
  constructor
  · rintro ⟨⟨hsimulation, hprotocol, hpcg32, hscenario, htransport, hframes, hlatency, hjitter, hloss,
      hreorder, hduplicate, hburst, hpackets, hbytes, hbandwidth, hage, hpolicy, hsent, hdelivered,
      hdroppedLoss, hdroppedOverflow, hdroppedAge, hduplicated, hreordered, hrollbacks,
      hresimulated, hdepth, hpredicted, hlate, hconfirmed, hhashA, hhashB, hverified⟩, hdesync,
      hsuccess, hfailure⟩
    refine ⟨hsimulation, hprotocol, hpcg32, hscenario, htransport, hframes, ?_, ?_, hrollbacks,
      hresimulated, hdepth, hpredicted, hlate, ?_, hhashA, hhashB, hverified, hdesync, hsuccess,
      hfailure⟩
    · rw [TransportConfig.mk.injEq]
      exact ⟨rfl, hlatency, hjitter, hloss, hreorder, hduplicate, hburst, hpackets, hbytes,
        hbandwidth, hage, hpolicy⟩
    · rw [TransportMetrics.mk.injEq]
      exact ⟨hsent, hdelivered, hdroppedLoss, hdroppedOverflow, hdroppedAge, hduplicated, hreordered⟩
    · rw [FrameNumber.mk.injEq]
      exact hconfirmed
  · intro h
    have hconfig := h.transportConfig
    rw [TransportConfig.mk.injEq] at hconfig
    obtain ⟨-, hconfig⟩ := hconfig
    simp only [h.simulationVersion, h.protocolVersion, h.pcg32Version, h.scenarioSeed,
      h.transportSeed, h.frameCount, hconfig, h.transportMetrics, h.rollbackCount,
      h.resimulatedFrames, h.maximumRollbackDepth, h.predictedInputCount, h.lateInputCount,
      h.confirmedFrame, h.finalHashA, h.finalHashB, h.replayVerified, h.desyncResult, h.success,
      h.failureReason, and_self]

/-- The report of the sample run. -/
def sampleReport : RunReport where
  scenarioSeed := 12648430
  transportSeed := 5351397
  frameCount := 240
  transportConfig :=
    { baseLatencyTicks := 5, jitterTicks := 3, lossPercent := 5, reorderPercent := 10
      duplicatePercent := 5, burstLossPercent := 1, maxQueuePackets := 4096
      maxQueueBytes := 4194304, bandwidthBytesPerTick := 1048576 }
  transportMetrics :=
    { sentPackets := 608, deliveredPackets := 594, droppedLoss := 44, duplicatedPackets := 30
      reorderedPackets := 64 }
  rollbackCount := 189
  resimulatedFrames := 857
  maximumRollbackDepth := 9
  predictedInputCount := 480
  lateInputCount := 480
  confirmedFrame := ⟨240⟩
  finalHashA := 0x4B35DC3FD8F6009C
  finalHashB := 0x4B35DC3FD8F6009C
  replayVerified := true
  success := true

example : reportIdentity sampleReport = 0x8150FEDA020B66A8 := by decide +kernel

/-- The host of a run does not show in its identity, and its last hash does. -/
theorem identity_faithful_sample :
    identityMaterial sampleReport =
        identityMaterial { sampleReport with os := text "POSIX", timing := ⟨5, 7⟩ } ∧
      identityMaterial sampleReport ≠ identityMaterial { sampleReport with finalHashB := 0 } := by
  constructor
  · exact (identity_faithful _ _ (Or.inl rfl) (Or.inl rfl)).2
      ⟨rfl, rfl, rfl, rfl, rfl, rfl, rfl, rfl, rfl, rfl, rfl, rfl, rfl, rfl, rfl, rfl, rfl, rfl, rfl, rfl⟩
  · intro heq
    have hsame := (identity_faithful _ _ (Or.inl rfl) (Or.inl rfl)).1 heq
    exact absurd hsame.finalHashB (by decide)

end RollbackLab
