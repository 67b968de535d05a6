import RollbackLab.LegalWorld
import RollbackLab.ReplayCodec

/-!
# Verification of replays

Verification simulates the confirmed inputs from the initial world and consumes the
checkpoints with a cursor. The cursor only moves over a checkpoint that is at the
boundary just reached and has its hash, so every checkpoint behind it has been compared
with the world it stands for.
-/

namespace RollbackLab

structure ReplayVerification where
  success : Bool := false
  finalFrame : FrameNumber := default
  actualFinalHash : StateHash := 0
  deriving DecidableEq, Repr

namespace Replay

/-- One frame of the loop: the world and the cursor over the checkpoints. -/
def verifyFrame (replay : Replay) (state : WorldState × ℕ) (round : InputPair × ℕ) :
    Result (WorldState × ℕ) := do
  let inputs := round.1
  let frame := UInt32.ofNat round.2
  failIf (inputs.a.frame.value ≠ frame ∨ inputs.b.frame.value ≠ frame)
    ⟨.frameMismatch, frame.toUInt64, 0, "replay_frame"⟩
  let next ← simulateFrame state.1 ⟨frame⟩ inputs replay.variant
  let checkpointIndex := state.2
  if replay.checkpoints[checkpointIndex]?.any (·.frame = next.frame) then
    let actual := hashCanonical next
    failIf (replay.checkpoints[checkpointIndex]?.any (actual ≠ ·.hash))
      ⟨.replayMismatch, actual, next.frame.value.toNat, "checkpoint_hash"⟩
    pure (next, checkpointIndex + 1)
  else pure (next, checkpointIndex)

end Replay

def verifyReplay (replay : Replay) : Result ReplayVerification := do
  failIf (replay.replayVersion.toUInt32 ≠ kReplayVersion ∨
      replay.simulationVersion.toUInt32 ≠ kSimulationVersion ∨
      replay.protocolVersion.toUInt32 ≠ kProtocolVersion ∨
      replay.confirmedInputs.length ≠ replay.finalFrame.value.toNat)
    ⟨.unsupportedVersion, replay.replayVersion.toUInt64, 0, "verify_replay"⟩
  let (state, checkpointIndex) ←
    replay.confirmedInputs.zipIdx.foldlM (Replay.verifyFrame replay) (makeInitialWorld, 0)
  let finalHash := hashCanonical state
  failIf (checkpointIndex ≠ replay.checkpoints.length ∨ finalHash ≠ replay.expectedFinalHash)
    ⟨.replayMismatch, finalHash, replay.finalFrame.value.toNat, "final_hash"⟩
  pure ⟨true, replay.finalFrame, finalHash⟩

namespace Replay

/-- The hash after the first `n` pairs. -/
def HashAfter (replay : Replay) (n : ℕ) (hash : StateHash) : Prop :=
  ∃ world, simulateAll replay.variant makeInitialWorld (replay.confirmedInputs.take n) = .ok world ∧
    hashCanonical world = hash

theorem hashAfter_iff {replay : Replay} {n : ℕ} {hash : StateHash} : replay.HashAfter n hash ↔
    (simulateAll replay.variant makeInitialWorld (replay.confirmedInputs.take n)).toOption.map
      hashCanonical = some hash := by
  rw [HashAfter]
  cases simulateAll replay.variant makeInitialWorld (replay.confirmedInputs.take n) with
  | error e => simp [Except.toOption]
  | ok world => simp [Except.toOption]

instance (replay : Replay) (n : ℕ) (hash : StateHash) : Decidable (replay.HashAfter n hash) :=
  decidable_of_iff _ hashAfter_iff.symm

/-- What is known after `n` frames: the world is the fold of the inputs so far, and every
checkpoint behind the cursor is the hash of an earlier world. -/
structure Verified (replay : Replay) (n : ℕ) (state : WorldState × ℕ) : Prop where
  fold : simulateAll replay.variant makeInitialWorld (replay.confirmedInputs.take n) = .ok state.1
  reached : state.1.frame = ⟨UInt32.ofNat n⟩
  frames : ∀ (i : ℕ) (inputs : InputPair), i < n → replay.confirmedInputs[i]? = some inputs →
    inputs.a.frame = ⟨UInt32.ofNat i⟩ ∧ inputs.b.frame = ⟨UInt32.ofNat i⟩
  compared : ∀ (k : ℕ) (checkpoint : ReplayCheckpoint), k < state.2 →
    replay.checkpoints[k]? = some checkpoint →
      ∃ m, 1 ≤ m ∧ m ≤ n ∧ checkpoint.frame = ⟨UInt32.ofNat m⟩ ∧ replay.HashAfter m checkpoint.hash

variable {replay : Replay} {n : ℕ} {state after : WorldState × ℕ}

theorem Verified.start (replay : Replay) : replay.Verified 0 (makeInitialWorld, 0) where
  fold := rfl
  reached := rfl
  frames _ _ hi := absurd hi (Nat.not_lt_zero _)
  compared _ _ hk := absurd hk (Nat.not_lt_zero _)

/-- A frame either leaves the cursor where it is or moves it over a checkpoint with the
hash of the new world. -/
theorem verifyFrame_cases {inputs : InputPair}
    (h : replay.verifyFrame state (inputs, n) = .ok after) :
    (inputs.a.frame = ⟨UInt32.ofNat n⟩ ∧ inputs.b.frame = ⟨UInt32.ofNat n⟩) ∧
      simulateFrame state.1 ⟨UInt32.ofNat n⟩ inputs replay.variant = .ok after.1 ∧
        (after.2 = state.2 ∨ after.2 = state.2 + 1 ∧
          ∀ checkpoint, replay.checkpoints[state.2]? = some checkpoint →
            checkpoint.frame = after.1.frame ∧ hashCanonical after.1 = checkpoint.hash) := by
  rw [verifyFrame, failIf_bind_ok, bind_ok_iff] at h
  obtain ⟨hframes, next, hnext, h⟩ := h
  rw [not_or, not_not, not_not] at hframes
  have hframes' : inputs.a.frame = ⟨UInt32.ofNat n⟩ ∧ inputs.b.frame = ⟨UInt32.ofNat n⟩ :=
    ⟨congrArg FrameNumber.mk hframes.1, congrArg FrameNumber.mk hframes.2⟩
  refine ⟨hframes', ?_⟩
  dsimp only at h
  split at h
  next hat =>
    rw [failIf_bind_ok] at h
    obtain ⟨hhash, h⟩ := h
    cases h
    refine ⟨hnext, Or.inr ⟨rfl, fun checkpoint hcheckpoint => ?_⟩⟩
    rw [hcheckpoint] at hat hhash
    exact ⟨by simpa using hat, by simpa using hhash⟩
  next =>
    cases h
    exact ⟨hnext, Or.inl rfl⟩

theorem Verified.frame (h : replay.Verified n state) {inputs : InputPair}
    (hinputs : replay.confirmedInputs[n]? = some inputs)
    (hstep : replay.verifyFrame state (inputs, n) = .ok after) : replay.Verified (n + 1) after := by
  obtain ⟨hframes, hnext, hcursor⟩ := verifyFrame_cases hstep
  have htake : replay.confirmedInputs.take (n + 1) = replay.confirmedInputs.take n ++ [inputs] := by
    rw [List.take_add_one, hinputs]
    rfl
  have hfold : simulateAll replay.variant makeInitialWorld (replay.confirmedInputs.take (n + 1)) =
      .ok after.1 := by
    rw [htake]
    exact simulateAll_append_ok h.fold (h.reached ▸ hnext)
  have hreached : after.1.frame = ⟨UInt32.ofNat (n + 1)⟩ := by
    rw [(simulateFrame_frame hnext).2, UInt32.ofNat_add]
    rfl
  refine ⟨hfold, hreached, fun i inputs' hi hi' => ?_, fun k checkpoint hk hk' => ?_⟩
  · rcases Nat.lt_succ_iff_lt_or_eq.1 hi with hlt | rfl
    · exact h.frames i inputs' hlt hi'
    · cases hinputs.symm.trans hi'
      exact hframes
  · have hearlier : k < state.2 → ∃ m, 1 ≤ m ∧ m ≤ n + 1 ∧
        checkpoint.frame = ⟨UInt32.ofNat m⟩ ∧ replay.HashAfter m checkpoint.hash := by
      intro hlt
      obtain ⟨m, hm, hmn, hframe, hhash⟩ := h.compared k checkpoint hlt hk'
      exact ⟨m, hm, by omega, hframe, hhash⟩
    rcases hcursor with hsame | ⟨hmoved, hnew⟩
    · exact hearlier (hsame ▸ hk)
    · rcases Nat.lt_succ_iff_lt_or_eq.1 (hmoved ▸ hk) with hlt | rfl
      · exact hearlier hlt
      · obtain ⟨hframe, hhash⟩ := hnew checkpoint hk'
        exact ⟨n + 1, by omega, by omega, hframe.trans hreached, after.1, hfold, hhash⟩

/-- The loop from frame `n` on. -/
theorem Verified.run (h : replay.Verified n state)
    (hrun : ((replay.confirmedInputs.drop n).zipIdx n).foldlM replay.verifyFrame state = .ok after)
    (hn : n ≤ replay.confirmedInputs.length) :
    replay.Verified replay.confirmedInputs.length after := by
  induction hrest : replay.confirmedInputs.drop n generalizing n state with
  | nil =>
    rw [hrest] at hrun
    cases hrun
    have hlen : n = replay.confirmedInputs.length := by
      rw [List.drop_eq_nil_iff] at hrest
      omega
    exact hlen ▸ h
  | cons inputs rest ih =>
    rw [hrest, List.zipIdx_cons, List.foldlM_cons, bind_ok_iff] at hrun
    obtain ⟨middle, hstep, hrun⟩ := hrun
    have hget : replay.confirmedInputs[n]? = some inputs := by
      rw [← List.head?_drop, hrest]
      rfl
    have hdrop : replay.confirmedInputs.drop (n + 1) = rest := by
      rw [← List.tail_drop, hrest]
      rfl
    have hlt : n < replay.confirmedInputs.length := (List.getElem?_eq_some_iff.1 hget).1
    exact ih (h.frame hget hstep) (hdrop ▸ hrun) hlt hdrop

end Replay

/-- What a verification has compared. -/
theorem verifyReplay_verified {replay : Replay} {verification : ReplayVerification}
    (h : verifyReplay replay = .ok verification) :
    replay.confirmedInputs.length = replay.finalFrame.value.toNat ∧
      ∃ world, replay.Verified replay.confirmedInputs.length (world, replay.checkpoints.length) ∧
        hashCanonical world = replay.expectedFinalHash ∧
        verification.actualFinalHash = replay.expectedFinalHash := by
  rw [verifyReplay, failIf_bind_ok, bind_ok_iff] at h
  obtain ⟨hgood, ⟨world, cursor⟩, hrun, h⟩ := h
  simp only [failIf_bind_ok, not_or, not_not, ne_eq] at hgood h
  obtain ⟨⟨hcursor, hhash⟩, h⟩ := h
  cases h
  have hv := (Replay.Verified.start replay).run hrun (Nat.zero_le _)
  rw [hcursor] at hv
  refine ⟨hgood.2.2.2, world, hv, hhash, ?_⟩
  dsimp only
  exact hhash

/-- A replay that verifies is the fold of its inputs: every pair is for its frame, the
hash of the fold is the expected and the reported one, and every checkpoint is the hash
of the world after as many pairs as it says. -/
theorem verify_replay_sound (replay : Replay) (verification : ReplayVerification)
    (h : verifyReplay replay = .ok verification) :
    replay.confirmedInputs.length = replay.finalFrame.value.toNat ∧
      (∀ (i : ℕ) (inputs : InputPair), replay.confirmedInputs[i]? = some inputs →
        inputs.a.frame = ⟨UInt32.ofNat i⟩ ∧ inputs.b.frame = ⟨UInt32.ofNat i⟩) ∧
      (∃ world, simulateAll replay.variant makeInitialWorld replay.confirmedInputs = .ok world ∧
        hashCanonical world = replay.expectedFinalHash ∧
        verification.actualFinalHash = replay.expectedFinalHash) ∧
      ∀ checkpoint ∈ replay.checkpoints,
        (1 ≤ checkpoint.frame.value.toNat ∧
          checkpoint.frame.value.toNat ≤ replay.finalFrame.value.toNat) ∧
        ∃ world, simulateAll replay.variant makeInitialWorld
            (replay.confirmedInputs.take checkpoint.frame.value.toNat) = .ok world ∧
          hashCanonical world = checkpoint.hash := by
  obtain ⟨hfinal, world, hv, hhash, hactual⟩ := verifyReplay_verified h
  have hfold := hv.fold
  rw [List.take_length] at hfold
  refine ⟨hfinal, fun i inputs hi => hv.frames i inputs (List.getElem?_eq_some_iff.1 hi).1 hi,
    ⟨world, hfold, hhash, hactual⟩, fun checkpoint hmem => ?_⟩
  obtain ⟨k, hk⟩ := List.mem_iff_getElem?.1 hmem
  have hlt : k < replay.checkpoints.length := (List.getElem?_eq_some_iff.1 hk).1
  obtain ⟨m, hm, hmn, hframe, hafter⟩ := hv.compared k checkpoint hlt hk
  have hvalue : checkpoint.frame.value.toNat = m := by
    have hbound := replay.finalFrame.value.toNat_lt
    rw [hframe]
    exact UInt32.toNat_ofNat_of_lt' (by simp only [UInt32.size]; omega)
  rw [hvalue]
  exact ⟨⟨hm, by omega⟩, hafter⟩

theorem verify_replay_sound_opening :
    verifyReplay openingReplay = .ok ⟨true, ⟨1⟩, 14203825176458341089⟩ ∧
      ∃ world, simulateAll .canonical makeInitialWorld openingReplay.confirmedInputs = .ok world ∧
        hashCanonical world = 14203825176458341089 := by
  have hverify : verifyReplay openingReplay = .ok ⟨true, ⟨1⟩, 14203825176458341089⟩ := by
    decide +kernel
  obtain ⟨-, -, ⟨world, hfold, hhash, -⟩, -⟩ := verify_replay_sound openingReplay _ hverify
  exact ⟨hverify, world, hfold, hhash⟩

/-! ## Correct replays -/

namespace Replay

/-- Every hash of the replay is that of its own inputs. -/
structure Correct (replay : Replay) : Prop where
  checkpoints : ∀ checkpoint ∈ replay.checkpoints,
    replay.HashAfter checkpoint.frame.value.toNat checkpoint.hash
  final : replay.HashAfter replay.confirmedInputs.length replay.expectedFinalHash

/-- The verification of a correct replay after `n` frames: what the cursor has not passed
yet is still ahead. -/
structure Ahead (replay : Replay) (n : ℕ) (state : WorldState × ℕ) : Prop where
  fold : simulateAll replay.variant makeInitialWorld (replay.confirmedInputs.take n) = .ok state.1
  reached : state.1.frame = ⟨UInt32.ofNat n⟩
  cursor : state.2 ≤ replay.checkpoints.length
  ahead : ∀ checkpoint ∈ replay.checkpoints.drop state.2, n < checkpoint.frame.value.toNat

variable {replay : Replay} {n : ℕ} {state : WorldState × ℕ}

theorem Ahead.frame (h : replay.Ahead n state) (hwell : replay.WellFormed) (hcorrect : replay.Correct)
    (hsmall : replay.confirmedInputs.length < 2 ^ 32) {inputs : InputPair}
    (hinputs : replay.confirmedInputs[n]? = some inputs) :
    ∃ after, replay.verifyFrame state (inputs, n) = .ok after ∧ replay.Ahead (n + 1) after := by
  have hlt : n < replay.confirmedInputs.length := (List.getElem?_eq_some_iff.1 hinputs).1
  have htake : replay.confirmedInputs.take (n + 1) = replay.confirmedInputs.take n ++ [inputs] := by
    rw [List.take_add_one, hinputs]
    rfl
  obtain ⟨last, hlast, -⟩ := hcorrect.final
  rw [List.take_length] at hlast
  obtain ⟨next, hnext⟩ := simulateAll_getElem hlast hinputs h.fold
  have hfold : simulateAll replay.variant makeInitialWorld (replay.confirmedInputs.take (n + 1)) =
      .ok next := by
    rw [htake]
    exact simulateAll_append_ok h.fold hnext
  have hreached : next.frame = ⟨UInt32.ofNat (n + 1)⟩ := by
    rw [(simulateFrame_frame hnext).2, h.reached, UInt32.ofNat_add]
    rfl
  have hvalue : (UInt32.ofNat (n + 1)).toNat = n + 1 :=
    UInt32.toNat_ofNat_of_lt' (by simp only [UInt32.size]; omega)
  obtain ⟨hframeA, hframeB⟩ := hwell.frames n inputs hinputs
  have hframes : ¬(inputs.a.frame.value ≠ UInt32.ofNat n ∨ inputs.b.frame.value ≠ UInt32.ofNat n) := by
    rw [hframeA, hframeB]
    simp
  rw [h.reached] at hnext
  simp only [verifyFrame, failIf_bind_ok]
  cases hat : replay.checkpoints[state.2]? with
  | none =>
    refine ⟨(next, state.2), ⟨hframes, bind_ok_iff.2 ⟨next, hnext, rfl⟩⟩, hfold, hreached, h.cursor, ?_⟩
    rw [List.drop_eq_nil_of_le (List.getElem?_eq_none_iff.1 hat)]
    intro checkpoint hmem
    cases hmem
  | some checkpoint =>
    have hcursor : state.2 < replay.checkpoints.length := (List.getElem?_eq_some_iff.1 hat).1
    have hdrop : replay.checkpoints.drop state.2 = checkpoint :: replay.checkpoints.drop (state.2 + 1) := by
      rw [List.drop_eq_getElem_cons hcursor, (List.getElem?_eq_some_iff.1 hat).2]
    have hlater : ∀ later ∈ replay.checkpoints.drop (state.2 + 1),
        checkpoint.frame.value.toNat < later.frame.value.toNat := by
      intro later hmem
      have hpairwise : (checkpoint :: replay.checkpoints.drop (state.2 + 1)).Pairwise _ :=
        hdrop ▸ List.Pairwise.drop hwell.increasing
      exact UInt32.lt_iff_toNat_lt.1 ((List.pairwise_cons.1 hpairwise).1 later hmem)
    have hfirst : n < checkpoint.frame.value.toNat :=
      h.ahead checkpoint (hdrop ▸ List.mem_cons_self)
    by_cases hframe : checkpoint.frame = next.frame
    · have hhash : hashCanonical next = checkpoint.hash := by
        obtain ⟨world, hworld, hhash⟩ := hcorrect.checkpoints checkpoint (List.mem_of_getElem? hat)
        rw [hframe, hreached, hvalue, hfold] at hworld
        cases hworld
        exact hhash
      refine ⟨(next, state.2 + 1), ⟨hframes, bind_ok_iff.2 ⟨next, hnext, ?_⟩⟩, hfold, hreached, hcursor,
        fun later hmem => ?_⟩
      · simp [hframe, hhash, failIf, bind, Except.bind, pure, Except.pure]
      · have hafter := hlater later hmem
        rw [hframe, hreached, hvalue] at hafter
        exact hafter
    · have hbeyond : n + 1 < checkpoint.frame.value.toNat := by
        refine Nat.lt_of_le_of_ne hfirst fun he => hframe ?_
        rw [hreached]
        exact FrameNumber.ext (he.symm.trans hvalue.symm)
      refine ⟨(next, state.2), ⟨hframes, bind_ok_iff.2 ⟨next, hnext, ?_⟩⟩, hfold, hreached, h.cursor,
        fun later hmem => ?_⟩
      · simp [hframe, pure, Except.pure]
      · rw [hdrop] at hmem
        rcases List.mem_cons.1 hmem with rfl | hrest
        · exact hbeyond
        · exact hbeyond.trans (hlater later hrest)

/-- The loop from frame `n` on goes through. -/
theorem Ahead.run (h : replay.Ahead n state) (hwell : replay.WellFormed) (hcorrect : replay.Correct)
    (hsmall : replay.confirmedInputs.length < 2 ^ 32) (hn : n ≤ replay.confirmedInputs.length) :
    ∃ after, ((replay.confirmedInputs.drop n).zipIdx n).foldlM replay.verifyFrame state = .ok after ∧
      replay.Ahead replay.confirmedInputs.length after := by
  induction hrest : replay.confirmedInputs.drop n generalizing n state with
  | nil =>
    have hlen : n = replay.confirmedInputs.length := by
      rw [List.drop_eq_nil_iff] at hrest
      omega
    exact ⟨state, rfl, hlen ▸ h⟩
  | cons inputs rest ih =>
    have hget : replay.confirmedInputs[n]? = some inputs := by
      rw [← List.head?_drop, hrest]
      rfl
    have hdrop : replay.confirmedInputs.drop (n + 1) = rest := by
      rw [← List.tail_drop, hrest]
      rfl
    obtain ⟨middle, hstep, hmiddle⟩ := h.frame hwell hcorrect hsmall hget
    obtain ⟨after, hrun, hafter⟩ := ih hmiddle (List.getElem?_eq_some_iff.1 hget).1 hdrop
    refine ⟨after, ?_, hafter⟩
    rw [List.zipIdx_cons, List.foldlM_cons, hstep]
    exact hrun

end Replay

/-- A correct replay that the decoder returns verifies exactly when it has no checkpoint
at the first boundary, which the cursor never compares. -/
theorem verify_correct_replay (bytes : List UInt8) (replay : Replay)
    (hdecode : decodeReplay bytes = .ok replay) (hcorrect : replay.Correct) :
    (∃ verification, verifyReplay replay = .ok verification) ↔
      ∀ checkpoint ∈ replay.checkpoints, checkpoint.frame ≠ ⟨0⟩ := by
  obtain ⟨⟨hencodable, -⟩, hwell⟩ := decodeReplay_ok_iff.1 hdecode
  have hsmall : replay.confirmedInputs.length < 2 ^ 32 := by
    have hframes := hencodable.frames
    simp only [kMaxReplayFrames] at hframes
    omega
  constructor
  · rintro ⟨verification, hverify⟩ checkpoint hmem hzero
    obtain ⟨-, world, hverified, -⟩ := verifyReplay_verified hverify
    obtain ⟨k, hk⟩ := List.mem_iff_getElem?.1 hmem
    obtain ⟨m, hm, hmn, hframe, -⟩ :=
      hverified.compared k checkpoint (List.getElem?_eq_some_iff.1 hk).1 hk
    have hvalue := congrArg (fun frame => frame.value.toNat) (hframe.symm.trans hzero)
    simp only [UInt32.toNat_ofNat', UInt32.toNat_zero] at hvalue
    omega
  · intro hpositive
    have hstart : replay.Ahead 0 (makeInitialWorld, 0) := by
      refine ⟨rfl, rfl, Nat.zero_le _, fun checkpoint hmem => Nat.pos_of_ne_zero fun h0 => ?_⟩
      exact hpositive checkpoint hmem (FrameNumber.ext h0)
    obtain ⟨⟨world, cursor⟩, hrun, hafter⟩ := hstart.run hwell hcorrect hsmall (Nat.zero_le _)
    have hcursor : cursor = replay.checkpoints.length := by
      refine Nat.le_antisymm hafter.cursor (List.drop_eq_nil_iff.1 (List.eq_nil_iff_forall_not_mem.2 ?_))
      intro checkpoint hmem
      have hbeyond := hafter.ahead checkpoint hmem
      have hbound := UInt32.le_iff_toNat_le.1
        (hwell.bounded checkpoint (List.mem_of_mem_drop hmem))
      rw [hencodable.final] at hbeyond
      omega
    have hhash : hashCanonical world = replay.expectedFinalHash := by
      obtain ⟨last, hlast, hhash⟩ := hcorrect.final
      cases hlast.symm.trans hafter.fold
      exact hhash
    refine ⟨⟨true, replay.finalFrame, hashCanonical world⟩, ?_⟩
    rw [verifyReplay, failIf_bind_ok, bind_ok_iff]
    obtain ⟨hreplay, hsimulation, hprotocol⟩ := hencodable.versions
    refine ⟨by simp [hreplay, hsimulation, hprotocol, hencodable.final], (world, cursor), hrun, ?_⟩
    dsimp only
    rw [failIf_bind_ok]
    exact ⟨by simp [hcursor, hhash], rfl⟩

theorem verify_correct_replay_opening :
    (∃ verification, verifyReplay openingReplay = .ok verification) ↔
      ∀ checkpoint ∈ openingReplay.checkpoints, checkpoint.frame ≠ ⟨0⟩ :=
  verify_correct_replay openingReplay.wireBytes openingReplay (by decide +kernel)
    ⟨by decide +kernel, by decide +kernel⟩

/-- The same replay with a checkpoint of the initial world. -/
def anchoredReplay : Replay :=
  { openingReplay with
    checkpoints := ⟨⟨0⟩, 479350575277098922⟩ :: openingReplay.checkpoints }

theorem correct_replay_refused :
    decodeReplay anchoredReplay.wireBytes = .ok anchoredReplay ∧ anchoredReplay.Correct ∧
      verifyReplay anchoredReplay = .error ⟨.replayMismatch, 14203825176458341089, 1, "final_hash"⟩ :=
  ⟨by decide +kernel, ⟨by decide +kernel, by decide +kernel⟩, by decide +kernel⟩

end RollbackLab
