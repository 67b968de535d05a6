import RollbackLab.ReplayVerification
import RollbackLab.ScriptedInput

/-!
# Scripted matches

A script gives every player an input for every frame. The canonical simulation of a
script never fails while ids are left, and the replay that records it can be written out
and verifies.
-/

namespace RollbackLab

/-- An input of every player for every frame. -/
structure InputScript where
  input : PlayerId → FrameNumber → InputFrame
  frame : ∀ player frame, (input player frame).frame = frame
  player : ∀ player frame, (input player frame).player = player

namespace InputScript

def pair (script : InputScript) (k : ℕ) : InputPair :=
  ⟨script.input .a ⟨UInt32.ofNat k⟩, script.input .b ⟨UInt32.ofNat k⟩⟩

def pairs (script : InputScript) (n : ℕ) : List InputPair := (List.range n).map script.pair

/-- The world after `n` frames of the script. -/
def world (script : InputScript) (variant : SimulationVariant) (n : ℕ) : Result WorldState :=
  simulateAll variant makeInitialWorld (script.pairs n)

/-- The same world, when no frame fails. -/
def worldAt (script : InputScript) (variant : SimulationVariant) : ℕ → WorldState
  | 0 => makeInitialWorld
  | n + 1 =>
    (simulateFrame (script.worldAt variant n) ⟨UInt32.ofNat n⟩ (script.pair n)
      variant).toOption.getD default

@[simp] theorem length_pairs (script : InputScript) (n : ℕ) : (script.pairs n).length = n := by
  simp [pairs]

theorem pairs_succ (script : InputScript) (n : ℕ) :
    script.pairs (n + 1) = script.pairs n ++ [script.pair n] := by
  rw [pairs, List.range_succ, List.map_append]
  rfl

theorem getElem?_pairs (script : InputScript) {k n : ℕ} (h : k < n) :
    (script.pairs n)[k]? = some (script.pair k) := by
  simp [pairs, h]

/-- What two peers without players press. -/
def scripted (seed : UInt64) : InputScript where
  input player frame := scriptedInput seed frame player
  frame _ _ := rfl
  player _ _ := rfl

/-- The local inputs of the first `n` frames. -/
def locals (script : InputScript) (player : PlayerId) (n : ℕ) : List InputFrame :=
  (List.range n).map fun k => script.input player ⟨UInt32.ofNat k⟩

@[simp] theorem length_locals (script : InputScript) (player : PlayerId) (n : ℕ) :
    (script.locals player n).length = n := by
  simp [locals]

theorem locals_succ (script : InputScript) (player : PlayerId) (n : ℕ) :
    script.locals player (n + 1) = script.locals player n ++ [script.input player ⟨UInt32.ofNat n⟩] := by
  rw [locals, List.range_succ, List.map_append]
  rfl

theorem getElem?_locals (script : InputScript) (player : PlayerId) {k n : ℕ} (h : k < n) :
    (script.locals player n)[k]? = some (script.input player ⟨UInt32.ofNat k⟩) := by
  simp [locals, h]

/-! ## The simulation of a script -/

variable (script : InputScript) (variant : SimulationVariant)

theorem worldAt_legal {n : ℕ} (hn : n < 2 ^ 30) :
    LegalWorld (fun _ => 119) (script.worldAt variant n) ∧
      (script.worldAt variant n).frame = ⟨UInt32.ofNat n⟩ ∧
      (script.worldAt variant n).nextProjectileId.toNat ≤ 2 * n + 1 ∧
      ∀ k < n, simulateFrame (script.worldAt variant k) ⟨UInt32.ofNat k⟩ (script.pair k) variant =
        .ok (script.worldAt variant (k + 1)) := by
  induction n with
  | zero => exact ⟨LegalWorld.makeInitialWorld, rfl, le_rfl, fun k hk => absurd hk (Nat.not_lt_zero k)⟩
  | succ n ih =>
    obtain ⟨hlegal, hframe, hids, hbefore⟩ := ih (by omega)
    have hmatch : inputsMatch (script.worldAt variant n) ⟨UInt32.ofNat n⟩ (script.pair n) = true := by
      simp [inputsMatch, pair, hframe, script.frame, script.player]
    obtain ⟨after, hafter, hlegal', hframe', hids'⟩ :=
      hlegal.simulateFrame_ok hmatch variant (by omega)
    have hnext : script.worldAt variant (n + 1) = after := by
      rw [worldAt, hafter]
      rfl
    rw [hnext]
    refine ⟨hlegal', ?_, by omega, fun k hk => ?_⟩
    · rw [hframe', nextFrame, UInt32.ofNat_add]
      rfl
    · rcases Nat.lt_succ_iff_lt_or_eq.1 hk with hlt | rfl
      · exact hbefore k hlt
      · rw [hnext]
        exact hafter

theorem worldAt_frame {n : ℕ} (hn : n < 2 ^ 30) :
    (script.worldAt variant n).frame = ⟨UInt32.ofNat n⟩ := (script.worldAt_legal variant hn).2.1

theorem simulateFrame_worldAt {n : ℕ} (hn : n + 1 < 2 ^ 30) :
    simulateFrame (script.worldAt variant n) ⟨UInt32.ofNat n⟩ (script.pair n) variant =
      .ok (script.worldAt variant (n + 1)) :=
  (script.worldAt_legal variant hn).2.2.2 n (Nat.lt_succ_self n)

/-- The simulation of a script never fails. -/
theorem world_eq {n : ℕ} (hn : n < 2 ^ 30) :
    script.world variant n = .ok (script.worldAt variant n) := by
  induction n with
  | zero => rfl
  | succ n ih =>
    rw [world, pairs_succ]
    apply simulateAll_append_ok (ih (by omega))
    rw [script.worldAt_frame variant (by omega)]
    exact script.simulateFrame_worldAt variant hn

/-! ## Its replay -/

/-- The boundaries that a replay records: every thirtieth and the last. -/
def checkpointed (frameCount k : ℕ) : Bool := k % 30 == 0 || k == frameCount

def checkpoint (k : ℕ) : ReplayCheckpoint :=
  ⟨⟨UInt32.ofNat k⟩, hashCanonical (script.worldAt .canonical k)⟩

/-- The checkpoints at the boundaries `first, …, first + count - 1`. -/
def checkpointsFrom (frameCount first count : ℕ) : List ReplayCheckpoint :=
  ((List.range' first count).filter (checkpointed frameCount)).map script.checkpoint

/-- The replay of the canonical match. -/
def replay (scenarioSeed transportSeed : UInt64) (frameCount : ℕ) : Replay where
  scenarioSeed := scenarioSeed
  transportSeed := transportSeed
  finalFrame := ⟨UInt32.ofNat frameCount⟩
  confirmedInputs := script.pairs frameCount
  checkpoints := script.checkpointsFrom frameCount 1 frameCount
  expectedFinalHash := hashCanonical (script.worldAt .canonical frameCount)

theorem checkpointsFrom_succ (frameCount first count : ℕ) :
    script.checkpointsFrom frameCount first (count + 1) =
      script.checkpointsFrom frameCount first count ++
        if checkpointed frameCount (first + count) then [script.checkpoint (first + count)] else [] := by
  rw [checkpointsFrom, List.range'_concat, List.filter_append, List.map_append, Nat.one_mul]
  congr 1
  by_cases h : checkpointed frameCount (first + count) = true
  · simp [h]
  · simp [h]

theorem checkpointsFrom_append (frameCount first count rest : ℕ) :
    script.checkpointsFrom frameCount first (count + rest) =
      script.checkpointsFrom frameCount first count ++
        script.checkpointsFrom frameCount (first + count) rest := by
  rw [checkpointsFrom, checkpointsFrom, checkpointsFrom, ← List.map_append, ← List.filter_append,
    List.range'_append_1]

theorem mem_checkpointsFrom {frameCount first count : ℕ} {checkpoint : ReplayCheckpoint}
    (h : checkpoint ∈ script.checkpointsFrom frameCount first count) :
    ∃ k, first ≤ k ∧ k < first + count ∧ checkpoint = script.checkpoint k := by
  rw [checkpointsFrom, List.mem_map] at h
  obtain ⟨k, hk, rfl⟩ := h
  have := List.mem_range'_1.1 (List.mem_filter.1 hk).1
  exact ⟨k, this.1, this.2, rfl⟩

theorem ofNat_ne {k m : ℕ} (hk : k < m) (hm : m < 2 ^ 32) : UInt32.ofNat m ≠ UInt32.ofNat k := by
  intro h
  have := congrArg UInt32.toNat h
  rw [UInt32.toNat_ofNat_of_lt' (by simpa using hm),
    UInt32.toNat_ofNat_of_lt' (by simp only [UInt32.size]; omega)] at this
  omega

variable {script} {scenarioSeed transportSeed : UInt64} {frameCount : ℕ}

/-- The loop of the verification stays on the script's worlds, and its cursor behind the
checkpoints so far. -/
theorem verify_frames (hsmall : frameCount < 2 ^ 30) {n : ℕ} (hn : n ≤ frameCount) :
    ((script.pairs n).zipIdx).foldlM
        (Replay.verifyFrame (script.replay scenarioSeed transportSeed frameCount)) (makeInitialWorld, 0) =
      .ok (script.worldAt .canonical n, (script.checkpointsFrom frameCount 1 n).length) := by
  induction n with
  | zero => rfl
  | succ n ih =>
    rw [pairs_succ, List.zipIdx_append, List.foldlM_append, ih (by omega), length_pairs, Nat.zero_add]
    have hstep := script.simulateFrame_worldAt .canonical (n := n) (by omega)
    have hframe := script.worldAt_frame .canonical (n := n + 1) (by omega)
    have hinputs : (script.pair n).a.frame.value = UInt32.ofNat n ∧
        (script.pair n).b.frame.value = UInt32.ofNat n := by
      simp [pair, script.frame]
    have hnext : (script.replay scenarioSeed transportSeed frameCount).checkpoints[
        (script.checkpointsFrom frameCount 1 n).length]? =
          (script.checkpointsFrom frameCount (1 + n) (frameCount - n)).head? := by
      change (script.checkpointsFrom frameCount 1 frameCount)[_]? = _
      rw [show frameCount = n + (frameCount - n) by omega, checkpointsFrom_append,
        List.getElem?_append_right le_rfl, Nat.sub_self, List.head?_eq_getElem?,
        show n + (frameCount - n) = frameCount by omega]
    have hhead : script.checkpointsFrom frameCount (1 + n) (frameCount - n) =
        (if checkpointed frameCount (n + 1) then [script.checkpoint (n + 1)] else []) ++
          script.checkpointsFrom frameCount (n + 2) (frameCount - n - 1) := by
      rw [show frameCount - n = 1 + (frameCount - n - 1) by omega, checkpointsFrom_append,
        checkpointsFrom_succ, show 1 + n + 0 = n + 1 by omega, show 1 + n + 1 = n + 2 by omega,
        show 1 + (frameCount - n - 1) - 1 = frameCount - n - 1 by omega]
      rfl
    change (Replay.verifyFrame _ (script.worldAt .canonical n, _) (script.pair n, n) >>= pure) = _
    rw [bind_pure, Replay.verifyFrame, failIf_bind_ok, bind_ok_iff]
    refine ⟨by simp [hinputs], script.worldAt .canonical (n + 1), hstep, ?_⟩
    dsimp only
    rw [hnext, hhead, checkpointsFrom_succ, Nat.add_comm 1 n]
    cases hat : checkpointed frameCount (n + 1) with
    | true =>
      rw [if_pos rfl, if_pos (by simp [checkpoint, hframe]), failIf_bind_ok]
      refine ⟨by simp [checkpoint], ?_⟩
      rw [List.length_append]
      rfl
    | false =>
      rw [if_neg Bool.false_ne_true, List.nil_append, List.append_nil, if_neg]
      · rfl
      · cases hrest : script.checkpointsFrom frameCount (n + 2) (frameCount - n - 1) with
        | nil => simp
        | cons first rest =>
          obtain ⟨k, hk, hlt, rfl⟩ := script.mem_checkpointsFrom (hrest ▸ List.mem_cons_self)
          simp only [List.head?_cons, Option.any_some, decide_eq_true_eq, checkpoint, hframe,
            FrameNumber.mk.injEq]
          exact ofNat_ne (by omega) (by omega)

theorem length_checkpointsFrom_le {n : ℕ} (hn : n ≤ frameCount) :
    (script.checkpointsFrom frameCount 1 n).length ≤ n / 30 + if n = frameCount then 1 else 0 := by
  induction n with
  | zero => exact Nat.zero_le _
  | succ n ih =>
    have hbefore := ih (by omega)
    rw [if_neg (by omega)] at hbefore
    rw [checkpointsFrom_succ, List.length_append]
    by_cases hat : checkpointed frameCount (1 + n) = true
    · rw [if_pos hat, List.length_singleton]
      simp only [checkpointed, Bool.or_eq_true, beq_iff_eq] at hat
      split <;> omega
    · rw [if_neg hat, List.length_nil]
      omega

/-- The replay of a script verifies. -/
theorem verifyReplay_replay (hsmall : frameCount < 2 ^ 30) :
    verifyReplay (script.replay scenarioSeed transportSeed frameCount) =
      .ok ⟨true, ⟨UInt32.ofNat frameCount⟩, hashCanonical (script.worldAt .canonical frameCount)⟩ := by
  have hcount : (UInt32.ofNat frameCount).toNat = frameCount :=
    UInt32.toNat_ofNat_of_lt' (by simp only [UInt32.size]; omega)
  rw [verifyReplay, failIf_bind_ok, bind_ok_iff]
  refine ⟨?_, _, verify_frames hsmall le_rfl, ?_⟩
  · simp [replay, hcount]
    decide
  · dsimp only
    rw [failIf_bind_ok]
    exact ⟨by simp [replay], rfl⟩

/-- It can be written out, and read back when only the known buttons are pressed. -/
theorem encodeReplay_replay (hsmall : frameCount ≤ kMaxReplayFrames) :
    encodeReplay (script.replay scenarioSeed transportSeed frameCount) =
      .ok (script.replay scenarioSeed transportSeed frameCount).wireBytes := by
  have hcount : (UInt32.ofNat frameCount).toNat = frameCount :=
    UInt32.toNat_ofNat_of_lt' (by simp only [UInt32.size, kMaxReplayFrames] at *; omega)
  refine encodeReplay_ok_iff.2 ⟨⟨⟨rfl, rfl, rfl⟩, rfl, ?_, ?_, ?_, fun inputs hmem => ?_⟩, rfl⟩
  · rw [replay, length_pairs]
    exact hsmall
  · have hlength : (script.checkpointsFrom frameCount 1 frameCount).length ≤
        frameCount / 30 + if frameCount = frameCount then 1 else 0 :=
      script.length_checkpointsFrom_le le_rfl
    rw [if_pos rfl] at hlength
    change (script.checkpointsFrom frameCount 1 frameCount).length ≤ _
    simp only [kMaxReplayFrames, kMaxReplayCheckpoints] at *
    omega
  · rw [replay, length_pairs, hcount]
  · obtain ⟨k, -, rfl⟩ := List.mem_map.1 hmem
    exact ⟨script.player _ _, script.player _ _, (script.frame _ _).trans (script.frame _ _).symm⟩

theorem decodeReplay_replay (hsmall : frameCount ≤ kMaxReplayFrames)
    (hbuttons : ∀ player frame, (script.input player frame).buttons &&& 0xE0 = 0) :
    decodeReplay (script.replay scenarioSeed transportSeed frameCount).wireBytes =
      .ok (script.replay scenarioSeed transportSeed frameCount) := by
  have hof : ∀ k ≤ frameCount, (UInt32.ofNat k).toNat = k := fun k hk =>
    UInt32.toNat_ofNat_of_lt' (by simp only [UInt32.size, kMaxReplayFrames] at *; omega)
  refine decodeReplay_ok_iff.2 ⟨encodeReplay_ok_iff.1 (encodeReplay_replay hsmall), fun i inputs hi => ?_,
    fun inputs hmem => ?_, ?_, fun checkpoint hmem => ?_⟩
  · have hlt : i < frameCount := by
      have := (List.getElem?_eq_some_iff.1 hi).1
      rwa [replay, length_pairs] at this
    cases (script.getElem?_pairs hlt).symm.trans hi
    exact ⟨script.frame _ _, script.frame _ _⟩
  · obtain ⟨k, -, rfl⟩ := List.mem_map.1 hmem
    exact ⟨hbuttons _ _, hbuttons _ _⟩
  · refine List.pairwise_map.2 (List.Pairwise.imp_of_mem (fun {k m} hk hm hlt => ?_)
      (List.Pairwise.filter _ List.pairwise_lt_range'))
    have hkm := List.mem_range'_1.1 (List.mem_filter.1 hm).1
    rw [UInt32.lt_iff_toNat_lt]
    change (UInt32.ofNat k).toNat < (UInt32.ofNat m).toNat
    rw [hof k (by omega), hof m (by omega)]
    exact hlt
  · obtain ⟨k, hk, hlt, rfl⟩ := script.mem_checkpointsFrom hmem
    rw [UInt32.le_iff_toNat_le]
    change (UInt32.ofNat k).toNat ≤ (UInt32.ofNat frameCount).toNat
    rw [hof k (by omega), hof frameCount le_rfl]
    omega

end InputScript

end RollbackLab
