import RollbackLab.AttentiveSession
import RollbackLab.Outcome
import RollbackLab.PeerDriver

/-!
# Corrections that are paid for

A session that follows a script needs a correction only after an input that it had not
heard. So the inputs heard pay for the corrections, and there are no more of these than
the script has frames.
-/

namespace RollbackLab

open Speculation (Exact)

namespace RollbackSession

/-- How many corrections there have been, and how many frames they simulated again. -/
def tally (session : RollbackSession) : UInt32 × UInt64 :=
  (session.metrics.rollbackCount, session.metrics.totalResimulatedFrames)

theorem updateConfirmation_tally (session : RollbackSession) :
    session.updateConfirmation.tally = session.tally := rfl

theorem compareUsed_tally (session : RollbackSession) (remote : InputFrame) :
    (session.compareUsed remote).tally = session.tally := by
  have hmark : (session.markDirty remote.frame).tally = session.tally := by
    rw [markDirty]
    dsimp only
    split <;> split <;> rfl
  rw [compareUsed]
  split
  · split
    · exact hmark
    · rfl
  · rfl

theorem keepRemote_tally (session : RollbackSession) (remote : InputFrame) (isLate : Bool) :
    (session.keepRemote remote isLate).tally = session.tally := by
  rw [keepRemote]
  dsimp only
  split <;> rfl

/-- An input that arrives corrects nothing yet. -/
theorem ingestRemote_tally (session : RollbackSession) (remote : InputFrame) :
    (session.ingestRemote remote).2.tally = session.tally := by
  rw [ingestRemote]
  split
  · rfl
  dsimp only
  split
  · rfl
  rw [updateConfirmation_tally]
  split
  · rw [compareUsed_tally, keepRemote_tally]
  · rw [keepRemote_tally]

theorem ingestInputs_tally (session : RollbackSession) (inputs : List InputFrame) :
    (PeerRuntime.ingestInputs session inputs).2.tally = session.tally := by
  induction inputs generalizing session with
  | nil => rfl
  | cons input inputs ih =>
    have hone := session.ingestRemote_tally input
    rw [PeerRuntime.ingestInputs]
    rcases hingest : session.ingestRemote input with ⟨e | _, next⟩
    · rw [hingest] at hone
      exact hone
    · rw [hingest] at hone
      exact (ih next).trans hone

/-- An advance with nothing pending corrects nothing. -/
theorem advance_tally {session : RollbackSession} (hclean : session.earliestDirty = none)
    (loc : InputFrame) : (session.advance loc).2.tally = session.tally := by
  rw [advance, hclean, Option.isSome_none, if_neg Bool.false_ne_true, advanceClean]
  split
  · rfl
  · simp only [FrameRing.put_fst]
    split
    · split <;> rfl
    · rw [updateConfirmation_tally]
      split <;> rfl

theorem resimulateFrame_metrics (session : RollbackSession) (frame : FrameNumber) :
    (session.resimulateFrame frame).2.metrics = session.metrics := by
  rw [resimulateFrame]
  split
  · rfl
  · dsimp only
    split <;> rfl

theorem resimulate_metrics (session : RollbackSession) (dirty : FrameNumber) (rounds offset : ℕ) :
    (session.resimulate dirty rounds offset).2.metrics = session.metrics := by
  induction rounds generalizing session offset with
  | zero => rfl
  | succ rounds ih =>
    have hone := session.resimulateFrame_metrics ⟨dirty.value + UInt32.ofNat offset⟩
    rw [resimulate]
    rcases hcall : session.resimulateFrame ⟨dirty.value + UInt32.ofNat offset⟩ with ⟨e | _, next⟩
    · rw [hcall] at hone
      exact hone
    · rw [hcall] at hone
      exact (ih next (offset + 1)).trans hone

/-- What a correction that goes through does: nothing without a pending frame, else it
counts itself and every frame from the pending one on. -/
theorem flushCorrections_tally {session next : RollbackSession} {result : CorrectionResult}
    (h : session.flushCorrections = (.ok result, next)) :
    (session.earliestDirty = none ∧ result.performed = false ∧ next.tally = session.tally) ∨
      ∃ dirty, session.earliestDirty = some dirty ∧
        result = ⟨true, dirty, frameDistance dirty session.state.frame⟩ ∧
        next.tally = (session.tally.1 + 1,
          session.tally.2 + (frameDistance dirty session.state.frame).toUInt64) := by
  rw [flushCorrections] at h
  cases hdirty : session.earliestDirty with
  | none =>
    rw [hdirty] at h
    cases h
    exact Or.inl ⟨rfl, rfl, rfl⟩
  | some dirty =>
    rw [hdirty] at h
    dsimp only at h
    split at h
    · cases h
    split at h
    · cases h
    next snapshot hsnapshot =>
      have hrun := resimulate_metrics
        { session with state := snapshot, earliestDirty := some dirty } dirty
        (frameDistance dirty session.state.frame).toNat 0
      rcases hcall : resimulate { session with state := snapshot, earliestDirty := some dirty } dirty
        (frameDistance dirty session.state.frame).toNat 0 with ⟨e | _, last⟩
      · rw [hcall] at h
        cases h
      · rw [hcall] at h hrun
        cases h
        refine Or.inr ⟨dirty, rfl, rfl, ?_⟩
        rw [updateConfirmation_tally, tally, tally, ← hrun]
        rfl

end RollbackSession

/-- A session that follows the script of a partner that is never ahead, and has heard just
these inputs of it: they pay for its corrections, also for one that is pending. -/
structure Pays (config : SessionConfig) (script : InputScript) (limit n c : ℕ) (heard : Finset ℕ)
    (session : RollbackSession) : Prop where
  traces : ∃ run s worlds used, run.session = session ∧ Traces config script limit n c run s worlds used ∧
    Exact 256 s ∧ (∀ k, (s.accepted (256 + k)).isSome = true ↔ k ∈ heard) ∧
    session.tally.1.toNat + (if s.dirty.isSome = true then 1 else 0) ≤ heard.card
  depths : session.tally.2.toNat ≤ 120 * session.tally.1.toNat

namespace Pays

variable {config : SessionConfig} {script : InputScript} {limit n c : ℕ} {heard : Finset ℕ}
  {session : RollbackSession}

theorem hears (h : Pays config script limit n c heard session) :
    Hears config script limit n c (· ∈ heard) session := by
  obtain ⟨run, s, worlds, used, hrun, ht, hexact, hheard, -⟩ := h.traces
  exact ⟨run, s, worlds, used, hrun, ht, hexact, fun k hk => (hheard k).2 hk⟩

theorem heard_lt (h : Pays config script limit n c heard session) {k : ℕ} (hk : k ∈ heard) :
    k < limit := by
  obtain ⟨run, s, worlds, used, -, ht, -, hheard, -⟩ := h.traces
  have hsome := (hheard k).2 hk
  have hcount := ht.counted _ hsome
  rw [ht.refines.remembers.accepted_eq _ hcount, Option.isSome_map, Traces.origin_plus ht.initial] at hsome
  obtain ⟨remote, hremote⟩ := Option.isSome_iff_exists.1 hsome
  have hlt := (ht.accepted _ _ hremote).2
  rwa [UInt32.toNat_ofNat_of_lt' (by simp only [UInt32.size]; omega)] at hlt

/-- A session has no more corrections than the script has frames. -/
theorem count_le (h : Pays config script limit n c heard session) : session.tally.1.toNat ≤ limit := by
  obtain ⟨run, s, worlds, used, -, -, -, -, hpaid⟩ := h.traces
  have hsub : heard ⊆ Finset.range limit := fun k hk => Finset.mem_range.2 (h.heard_lt hk)
  have hcard := Finset.card_le_card hsub
  rw [Finset.card_range] at hcard
  omega

theorem start (hinitial : config.initialState = makeInitialWorld)
    (hwindow : config.maxRollbackFrames.toNat ≤ 120) :
    Pays config script limit 0 0 ∅ (.create config) := by
  obtain ⟨worlds, used, ht⟩ := @Traces.start config script limit hinitial hwindow
  exact ⟨⟨_, _, worlds, used, rfl, ht, .start, fun k => by simp [Speculation.State.start], le_rfl⟩, le_rfl⟩

/-- An input that is not too old is accepted, and corrects nothing yet. -/
theorem ingest (h : Pays config script limit n c heard session) (hn : n < 2 ^ 30) {k : ℕ}
    (hk : k ≤ n) (hlimit : k < limit) (hnear : n ≤ k + config.maxRollbackFrames.toNat) :
    ∃ next c', session.ingestRemote (script.input config.remotePeer ⟨UInt32.ofNat k⟩) =
        (.ok (), next) ∧ c ≤ c' ∧ Pays config script limit n c' (insert k heard) next := by
  have hdepths := h.depths
  obtain ⟨run, s, worlds, used, rfl, ht, hexact, hheard, hpaid⟩ := h.traces
  obtain ⟨next, c', accepted, hnext, hle, ht', hexact'⟩ := ht.ingest_near hexact hn hk hlimit hnear
  have htally := run.session.ingestRemote_tally (script.input config.remotePeer ⟨UInt32.ofNat k⟩)
  rw [hnext] at htally
  dsimp only at htally
  refine ⟨next, c', hnext, hle, ⟨_, _, worlds, used, rfl, ht', hexact', fun j => ?_, ?_⟩, ?_⟩
  · rw [Traces.accept_accepted, Finset.mem_insert, ← hheard j]
    rcases eq_or_ne j k with rfl | hne
    · rw [Function.update_self]
      simp
    · rw [Function.update_of_ne (by omega)]
      simp [hne]
  · rw [htally]
    by_cases hagain : k ∈ heard
    · -- what has been heard is in use, or a correction is pending anyway
      rw [Finset.insert_eq_of_mem hagain]
      cases hdirty : s.dirty with
      | none =>
        have hcurrent := ht.current_eq
        have hwide := ht.window
        rw [ht.truthful.dirty_accept ht.sound hexact (by omega) hdirty ((hheard k).2 hagain)]
        simpa [hdirty] using hpaid
      | some j =>
        rw [hdirty, Option.isSome_some, if_pos rfl] at hpaid
        split
        · exact hpaid
        · omega
    · rw [Finset.card_insert_of_notMem hagain]
      split
      · omega
      · omega
  · rw [htally]
    exact hdepths

/-- What a correction does to a session of `n` frames: nothing when nothing was pending, else
it simulates the frames from the pending one on, and counts them. -/
def Corrected (n : ℕ) (session : RollbackSession) (result : CorrectionResult) (next : RollbackSession) :
    Prop :=
  (result.performed = false ∧ next.tally = session.tally) ∨
    result.performed = true ∧ ∃ k < n, n ≤ k + 120 ∧ result.rollbackFrom = ⟨UInt32.ofNat k⟩ ∧
      result.resimulatedFrames = UInt32.ofNat (n - k) ∧
      next.tally.1.toNat = session.tally.1.toNat + 1 ∧
      next.tally.2.toNat = session.tally.2.toNat + (n - k)

/-- A correction goes through, and leaves nothing pending. -/
theorem flush (h : Pays config script limit n c heard session) (hlimit : limit < 2 ^ 30) :
    ∃ result next c', session.flushCorrections = (.ok result, next) ∧ c ≤ c' ∧
      next.earliestDirty = none ∧ Pays config script limit n c' heard next ∧
      Corrected n session result next := by
  have hdepths := h.depths
  have hcount := h.count_le
  have hframe := h.hears.follows.frame_eq
  obtain ⟨run, s, worlds, used, rfl, ht, hexact, hheard, hpaid⟩ := h.traces
  obtain ⟨result, next, c', worlds', used', hrun, hle, ht'⟩ := ht.flush
  have hclean : next.earliestDirty = none := by
    have hdirty := ht'.refines.remembers.dirty
    rw [Refines.flush_dirty] at hdirty
    exact hdirty
  have hpays (htally : next.tally.1.toNat ≤ heard.card)
      (hdepth : next.tally.2.toNat ≤ 120 * next.tally.1.toNat) :
      Pays config script limit n c' heard next := by
    refine ⟨⟨_, _, worlds', used', rfl, ht', hexact.flush ht.sound, fun k => ?_, ?_⟩, hdepth⟩
    · rw [Traces.flush_accepted]
      exact hheard k
    · rw [Refines.flush_dirty]
      simpa using htally
  rcases RollbackSession.flushCorrections_tally hrun with
    ⟨-, hperformed, htally⟩ | ⟨dirty, hdirty, rfl, htally⟩
  · refine ⟨result, next, c', hrun, hle, hclean, hpays ?_ ?_, Or.inl ⟨hperformed, htally⟩⟩
    · rw [htally]
      omega
    · rw [htally]
      exact hdepths
  · rw [ht.refines.remembers.dirty, Option.map_eq_some_iff] at hdirty
    obtain ⟨j, hj, rfl⟩ := hdirty
    obtain ⟨hfirst, hlt, -, hwindow⟩ := ht.refines.remembers.dirty_window j hj
    have hcurrent := ht.current_eq
    have hwide := ht.window
    obtain ⟨k, rfl⟩ := Nat.exists_eq_add_of_le hfirst
    have hdepth : frameDistance (config.origin.plus (256 + k)) run.session.state.frame =
        UInt32.ofNat (n - k) := by
      rw [hframe, Traces.origin_plus ht.initial, ← Traces.zero_plus, ← Traces.zero_plus]
      apply UInt32.toNat_inj.mp
      rw [frameDistance_plus _ (by omega) (by omega),
        UInt32.toNat_ofNat_of_lt' (by simp only [UInt32.size]; omega)]
    rw [hdepth] at htally hrun
    rw [hj, Option.isSome_some, if_pos rfl] at hpaid
    have hone : next.tally.1.toNat = run.session.tally.1.toNat + 1 := by
      rw [htally, UInt32.toNat_add, UInt32.toNat_one, Nat.mod_eq_of_lt (by omega)]
    have hsum : next.tally.2.toNat = run.session.tally.2.toNat + (n - k) := by
      rw [htally, UInt64.toNat_add, UInt32.toNat_toUInt64,
        UInt32.toNat_ofNat_of_lt' (by simp only [UInt32.size]; omega), Nat.mod_eq_of_lt (by omega)]
    refine ⟨_, next, c', hrun, hle, hclean, hpays (by omega) (by omega), Or.inr ⟨rfl, k, by omega,
      by omega, ?_, rfl, hone, hsum⟩⟩
    exact Traces.origin_plus ht.initial k

/-- An advance with nothing pending corrects nothing. -/
theorem advance (h : Pays config script limit n c heard session) (hn : n < 2 ^ 30)
    (hclean : session.earliestDirty = none) :
    ∃ result next c',
      session.advance (script.input config.localPeer session.state.frame) = (.ok result, next) ∧
        c ≤ c' ∧ next.earliestDirty = none ∧ next.tally = session.tally ∧
        Pays config script limit (n + 1) c' heard next := by
  have hdepths := h.depths
  obtain ⟨run, s, worlds, used, rfl, ht, hexact, hheard, hpaid⟩ := h.traces
  obtain ⟨ready, result, next, c', worlds', used', hnone, hready, hrun, hle, ht'⟩ := ht.advance hn
  have hkept : Speculation.Sound 256 256 ready ∧ Exact 256 ready ∧ ready.accepted = s.accepted := by
    rcases hready with rfl | rfl
    · exact ⟨ht.sound, hexact, rfl⟩
    · exact ⟨ht.sound.flush, hexact.flush ht.sound, Traces.flush_accepted s⟩
  obtain ⟨hsound, hexact', haccepted⟩ := hkept
  have htally := RollbackSession.advance_tally hclean (script.input config.localPeer run.session.state.frame)
  rw [hrun] at htally
  dsimp only at htally
  have hnone' : (Speculation.advance 256 0 ready).dirty = none := hnone
  refine ⟨result, next, c', hrun, hle, ?_, htally, ⟨_, _, worlds', used', rfl, ht',
    hexact'.advance hsound hnone (by norm_num), fun k => ?_, ?_⟩, ?_⟩
  · have hdirty := ht'.refines.remembers.dirty
    rw [hnone'] at hdirty
    exact hdirty
  · change (ready.accepted (256 + k)).isSome = true ↔ _
    rw [haccepted]
    exact hheard k
  · rw [hnone', htally]
    simp only [Option.isSome_none, Bool.false_eq_true, if_false]
    omega
  · rw [htally]
    exact hdepths

/-- Inputs of frames that have been reached are all accepted, unless one is too old. -/
theorem ingestInputs (h : Pays config script limit n c heard session) (hn : n < 2 ^ 30) {ks : List ℕ}
    (hks : ∀ k ∈ ks, k ≤ n ∧ k < limit) :
    Outcome
      (fun _ next => (∃ c', c ≤ c' ∧ Pays config script limit n c' (heard ∪ ks.toFinset) next) ∧
        ∀ k ∈ ks, n ≤ k + config.maxRollbackFrames.toNat)
      (fun e _ => e.code = .rollbackWindowExceeded ∧
        ∃ k ∈ ks, k + config.maxRollbackFrames.toNat < n)
      (PeerRuntime.ingestInputs session
        (ks.map fun k => script.input config.remotePeer ⟨UInt32.ofNat k⟩)) := by
  induction ks generalizing session c heard with
  | nil =>
    refine ⟨⟨c, le_rfl, ?_⟩, fun k hk => absurd hk List.not_mem_nil⟩
    rw [List.toFinset_nil, Finset.union_empty]
    exact h
  | cons k ks ih =>
    obtain ⟨hk, hlimit⟩ := hks k List.mem_cons_self
    rw [List.map_cons, PeerRuntime.ingestInputs]
    by_cases hnear : n ≤ k + config.maxRollbackFrames.toNat
    · obtain ⟨next, c', hnext, hle, hpays⟩ := h.ingest hn hk hlimit hnear
      rw [hnext]
      apply (ih hpays fun j hj => hks j (List.mem_cons_of_mem k hj)).mono
      · rintro _ last ⟨⟨c'', hle', hlast⟩, hrest⟩
        refine ⟨⟨c'', hle.trans hle', ?_⟩, fun j hj => ?_⟩
        · rw [List.toFinset_cons, Finset.union_insert, ← Finset.insert_union]
          exact hlast
        · rcases List.mem_cons.1 hj with rfl | hj
          · exact hnear
          · exact hrest j hj
      · rintro e last ⟨hcode, j, hj, hfar⟩
        exact ⟨hcode, j, List.mem_cons_of_mem k hj, hfar⟩
    · obtain ⟨e, he, hcode⟩ := h.hears.refuse hn (Nat.lt_of_not_le hnear)
      rw [he]
      exact ⟨hcode, k, List.mem_cons_self, Nat.lt_of_not_le hnear⟩

end Pays

end RollbackLab
