import RollbackLab.SessionFailure

/-!
# The current frame of a session

Whatever world a session starts from, no operation takes it more than one frame on: a
correction that breaks off leaves it behind the frame it was at, and an advance that
fails leaves it there. A session that was played before may hold inputs of frames ahead;
how far it falls back is then bounded by its window only.
-/

namespace RollbackLab

open RollbackSession (Stamped)

/-- A session `count` frames after its first one, with nothing dirty that is not behind. -/
structure Tracked (first : FrameNumber) (count : ℕ) (session : RollbackSession) : Prop where
  mark : Watermark first count session
  dirty : ∀ frame, session.earliestDirty = some frame → ∃ i < count, frame = first.plus i

/-- A session that stands at a frame it has been through. -/
def StandsWithin (first : FrameNumber) (count : ℕ) (session : RollbackSession) : Prop :=
  ∃ i ≤ count, session.state.frame = first.plus i

namespace Tracked

variable {first : FrameNumber} {count : ℕ} {session : RollbackSession}

theorem start (config : SessionConfig) :
    Tracked config.initialState.frame 0 (RollbackSession.create config) :=
  ⟨.start config, fun _ hdirty => (by cases hdirty)⟩

theorem within (h : Tracked first count session) : StandsWithin first count session :=
  ⟨count, le_rfl, h.mark.frame⟩

theorem updateConfirmation (h : Tracked first count session) (hcount : count < 2 ^ 32) :
    Tracked first count session.updateConfirmation :=
  ⟨h.mark.updateConfirmation hcount, h.dirty⟩

/-- A frame is marked only when it was simulated. -/
theorem compareUsed (h : Tracked first count session) (remote : InputFrame) :
    Tracked first count (session.compareUsed remote) := by
  refine ⟨h.mark.compareUsed remote, fun frame hdirty => ?_⟩
  rw [RollbackSession.compareUsed] at hdirty
  split at hdirty
  next used hused =>
    split at hdirty
    · have hmarked : frame = remote.frame ∨ session.earliestDirty = some frame := by
        simp only [RollbackSession.markDirty] at hdirty
        split at hdirty <;> split at hdirty
        · exact Or.inl (Option.some.inj hdirty).symm
        · exact Or.inl (Option.some.inj hdirty).symm
        · exact Or.inr hdirty
        · exact Or.inr hdirty
      rcases hmarked with rfl | hold
      · exact h.mark.usedRemoteInputs _ used hused
      · exact h.dirty frame hold
    · exact h.dirty frame hdirty
  next => exact h.dirty frame hdirty

theorem ingestRemote (h : Tracked first count session) (hcount : count < 2 ^ 32)
    (remote : InputFrame) : Tracked first count (session.ingestRemote remote).2 := by
  have hkeep : ∀ isLate, Tracked first count (session.keepRemote remote isLate) :=
    fun isLate => ⟨h.mark.keepRemote remote isLate, h.dirty⟩
  rw [RollbackSession.ingestRemote]
  split
  · exact h
  · dsimp only
    split
    · exact h
    · split
      · exact ((hkeep _).compareUsed remote).updateConfirmation hcount
      · exact (hkeep _).updateConfirmation hcount

/-- A correction that breaks off leaves the session at a frame it has been through. -/
theorem brokenOff (h : Tracked first count session) (hcount : count < 2 ^ 32) {dirty : FrameNumber}
    (hdirty : session.earliestDirty = some dirty) {next : RollbackSession} {k : ℕ}
    (hk : k ≤ (frameDistance dirty session.state.frame).toNat)
    (hframe : next.state.frame = dirty.plus k) : StandsWithin first count next := by
  obtain ⟨i, hi, rfl⟩ := h.dirty dirty hdirty
  refine ⟨i + k, ?_, ?_⟩
  · rw [h.mark.frame, frameDistance_plus first hi.le (by omega)] at hk
    omega
  · rw [hframe, FrameNumber.plus_plus]

theorem corrected (h : Tracked first count session) (hcount : count < 2 ^ 32)
    {next : RollbackSession} (hc : session.Corrects next) :
    Tracked first count next.updateConfirmation := by
  have hnext : Watermark first count next := by
    refine ⟨hc.stamped, hc.frame.trans h.mark.frame, ?_, fun f used hget => ?_, ?_⟩
    · rw [hc.localInputs]
      exact h.mark.localInputs
    · rcases hc.usesLocals f used hget with ⟨used', hused⟩ | ⟨loc, hloc⟩
      · exact h.mark.usedRemoteInputs f used' hused
      · exact h.mark.localInputs f loc hloc
    · rw [hc.confirmed]
      exact h.mark.confirmed
  refine updateConfirmation ⟨hnext, fun frame hmarked => ?_⟩ hcount
  rw [hc.clean] at hmarked
  cases hmarked

theorem advanced (h : Tracked first count session) (hcount : count + 1 < 2 ^ 32) {loc : InputFrame}
    {after : WorldState} {result : AdvanceResult} {next : RollbackSession}
    (hsim : simulateFrame session.state session.state.frame
      (session.config.makePair loc (session.remoteFor session.state.frame)) session.config.variant =
        .ok after) (hadvance : session.advanceClean loc = (.ok result, next))
    (hclean : next.earliestDirty = none) : Tracked first (count + 1) next := by
  rcases h.mark.advanceClean hcount fun _ _ => ⟨after, hsim⟩ with ⟨e, he⟩ | ⟨result', next', hnext, hmark⟩
  · cases hadvance.symm.trans he
  · cases hadvance.symm.trans hnext
    refine ⟨hmark, fun frame hmarked => ?_⟩
    rw [hclean] at hmarked
    cases hmarked

end Tracked

/-! ## Sessions that were played before -/

theorem RollbackSession.ingestRemote_fields (session : RollbackSession) (remote : InputFrame) :
    (session.ingestRemote remote).2.config = session.config ∧
      (session.ingestRemote remote).2.state = session.state := by
  have hcompare : ∀ kept : RollbackSession, (kept.compareUsed remote).config = kept.config ∧
      (kept.compareUsed remote).state = kept.state := by
    intro kept
    rw [compareUsed]
    split
    · split
      · exact ⟨(markDirty_fields kept remote.frame).1, (markDirty_fields kept remote.frame).2.1⟩
      · exact ⟨rfl, rfl⟩
    · exact ⟨rfl, rfl⟩
  rw [ingestRemote]
  split
  · exact ⟨rfl, rfl⟩
  dsimp only
  split
  · exact ⟨rfl, rfl⟩
  split
  · exact hcompare _
  · exact ⟨rfl, rfl⟩

/-- A session `count` frames after `first`, whatever its rings still hold. If it was `unplayed`
at first they hold nothing of frames ahead. -/
structure StandsAt (unplayed : Prop) (settings : SessionConfig) (first : FrameNumber) (count : ℕ)
    (session : RollbackSession) : Prop where
  config : session.config = settings
  stamped : session.Stamped
  frame : session.state.frame = first.plus count
  tracked : unplayed → Tracked first count session

/-- A session that has come `count` frames far and stands there or has fallen back, by no more
than its window. -/
structure Fallen (unplayed : Prop) (settings : SessionConfig) (first : FrameNumber) (count : ℕ)
    (session : RollbackSession) : Prop where
  config : session.config = settings
  behind : ∃ i ≤ count, ∃ j ≤ settings.maxRollbackFrames.toNat,
    session.state.frame.plus j = first.plus i
  within : unplayed → StandsWithin first count session

variable {unplayed : Prop} {settings : SessionConfig} {first : FrameNumber} {count : ℕ}
  {session : RollbackSession}

namespace Fallen

theorem mono (h : Fallen unplayed settings first count session) {later : ℕ} (hlater : count ≤ later) :
    Fallen unplayed settings first later session where
  config := h.config
  behind := by
    obtain ⟨i, hi, hbehind⟩ := h.behind
    exact ⟨i, hi.trans hlater, hbehind⟩
  within hfirst := by
    obtain ⟨i, hi, hframe⟩ := h.within hfirst
    exact ⟨i, hi.trans hlater, hframe⟩

/-- With a window far below half the ring that is not past in the order of the frames. -/
theorem not_past (h : Fallen unplayed settings first count session)
    (hwindow : settings.maxRollbackFrames.toNat < 2 ^ 30) (hcount : count < 2 ^ 30) :
    frameBefore (first.plus count) session.state.frame = false := by
  obtain ⟨i, hi, j, hj, hframe⟩ := h.behind
  have hlast : first.plus count = session.state.frame.plus (j + (count - i)) := by
    rw [← FrameNumber.plus_plus, hframe, FrameNumber.plus_plus, Nat.add_sub_cancel' hi]
  have horder := frameBefore_plus session.state.frame (i := j + (count - i)) (j := 0)
    (by omega) (by omega)
  rw [FrameNumber.plus_zero, ← hlast] at horder
  rw [← Bool.not_eq_true, horder]
  omega

end Fallen

namespace StandsAt

theorem fallen (h : StandsAt unplayed settings first count session) :
    Fallen unplayed settings first count session where
  config := h.config
  behind := ⟨count, le_rfl, 0, Nat.zero_le _, by rw [FrameNumber.plus_zero, h.frame]⟩
  within hfirst := (h.tracked hfirst).within

theorem ingestRemote (h : StandsAt unplayed settings first count session) (hcount : count < 2 ^ 32)
    (remote : InputFrame) :
    StandsAt unplayed settings first count (session.ingestRemote remote).2 := by
  obtain ⟨hconfig, hstate⟩ := session.ingestRemote_fields remote
  exact ⟨hconfig.trans h.config, RollbackSession.ingestRemote_stamped h.stamped remote,
    hstate ▸ h.frame, fun hfirst => (h.tracked hfirst).ingestRemote hcount remote⟩

/-- A correction that fails has gone back to a frame within the window at most. -/
theorem flushCorrections (h : StandsAt unplayed settings first count session) (hcount : count < 2 ^ 32) :
    (∃ e next, session.flushCorrections = (.error e, next) ∧
        Fallen unplayed settings first count next) ∨
      ∃ result next, session.flushCorrections = (.ok result, next) ∧
        StandsAt unplayed settings first count next ∧ next.earliestDirty = none := by
  cases hdirty : session.earliestDirty with
  | none =>
    refine Or.inr ⟨{}, session.updateConfirmation, ?_, ?_, hdirty⟩
    · rw [RollbackSession.flushCorrections, hdirty]
    · exact ⟨h.config, h.stamped, h.frame, fun hfirst => (h.tracked hfirst).updateConfirmation hcount⟩
  | some dirty =>
    rcases RollbackSession.flushCorrections_cases h.stamped hdirty with
      ⟨e, -, hflush⟩ | ⟨e, next, hwindow, -, -, hflush, hkeeps, -, -, k, hk, hframe⟩ |
      ⟨result, next, -, hflush, hc⟩
    · exact Or.inl ⟨e, session, hflush, h.fallen⟩
    · refine Or.inl ⟨e, next, hflush, hkeeps.config.trans h.config, ⟨count, le_rfl, ?_⟩,
        fun hfirst => (h.tracked hfirst).brokenOff hcount hdirty hk hframe⟩
      have hreach : dirty.plus (frameDistance dirty session.state.frame).toNat =
          session.state.frame := FrameNumber.plus_frameDistance _ _
      refine ⟨(frameDistance dirty session.state.frame).toNat - k,
        (Nat.sub_le _ _).trans (UInt32.le_iff_toNat_le.1 (h.config ▸ hwindow)), ?_⟩
      rw [hframe, FrameNumber.plus_plus, Nat.add_sub_cancel' hk, hreach, h.frame]
    · exact Or.inr ⟨result, next.updateConfirmation, hflush, ⟨hc.config.trans h.config, hc.stamped,
        hc.frame.trans h.frame, fun hfirst => (h.tracked hfirst).corrected hcount hc⟩, hc.clean⟩

theorem advanceClean (h : StandsAt unplayed settings first count session)
    (hclean : session.earliestDirty = none) (hcount : count + 1 < 2 ^ 32) (loc : InputFrame) :
    (∃ e next, session.advanceClean loc = (.error e, next) ∧
        Fallen unplayed settings first count next) ∨
      ∃ result next, session.advanceClean loc = (.ok result, next) ∧
        StandsAt unplayed settings first (count + 1) next := by
  by_cases hmatch : loc.frame = session.state.frame ∧ loc.player = session.config.localPeer
  · cases hsim : simulateFrame session.state session.state.frame
        (session.config.makePair loc (session.remoteFor session.state.frame))
        session.config.variant with
    | error e =>
      obtain ⟨next, hnext, hconfig, hstate, -⟩ :=
        RollbackSession.advanceClean_error hmatch.1 hmatch.2 hsim
      refine Or.inl ⟨e, next, hnext, hconfig.trans h.config, ⟨count, le_rfl, 0, Nat.zero_le _, ?_⟩,
        fun _ => ⟨count, le_rfl, ?_⟩⟩
      · rw [FrameNumber.plus_zero, hstate, h.frame]
      · rw [hstate, h.frame]
    | ok after =>
      obtain ⟨result, metrics, -, hadvance⟩ :=
        RollbackSession.advanceClean_ok hmatch.1 hmatch.2 hsim
      refine Or.inr ⟨result, _, hadvance, h.config, ?_, ?_, fun hfirst => ?_⟩
      · have hstamped := RollbackSession.advanceClean_stamped h.stamped loc
        rw [hadvance] at hstamped
        exact hstamped
      · change after.frame = first.plus (count + 1)
        rw [(simulateFrame_frame hsim).2, h.frame, nextFrame_plus]
      · exact (h.tracked hfirst).advanced hcount hsim hadvance hclean
  · exact Or.inl ⟨_, session, RollbackSession.advanceClean_mismatch hmatch, h.fallen⟩

/-- An advance goes one frame on, or fails at the current frame or behind it. -/
theorem advance (h : StandsAt unplayed settings first count session) (hcount : count + 1 < 2 ^ 32)
    (loc : InputFrame) :
    (∃ e next, session.advance loc = (.error e, next) ∧ Fallen unplayed settings first count next) ∨
      ∃ result next, session.advance loc = (.ok result, next) ∧
        StandsAt unplayed settings first (count + 1) next := by
  rw [RollbackSession.advance]
  split
  next =>
    rcases h.flushCorrections (by omega) with
      ⟨e, next, hflush, hfallen⟩ | ⟨result, next, hflush, hnext, hclean⟩
    · rw [hflush]
      exact Or.inl ⟨e, next, rfl, hfallen⟩
    · rw [hflush]
      exact hnext.advanceClean hclean hcount loc
  next hclean => exact h.advanceClean (Option.not_isSome_iff_eq_none.1 hclean) hcount loc

end StandsAt

/-! ## The past of a session -/

namespace SessionRun

/-- A caller that leaves the session at its first frame. -/
def Waits (_ : SessionRun) (c : SessionCall) : Prop := ∀ loc, c ≠ .advance loc

theorem call_session (run : SessionRun) (c : SessionCall) : (run.call c).session =
    match c with
    | .advance loc => (run.session.advance loc).2
    | .ingestRemote remote => (run.session.ingestRemote remote).2
    | .flushCorrections => run.session.flushCorrections.2 := by
  cases c with
  | advance loc =>
    simp only [call]
    rcases run.session.advance loc with ⟨_ | _, next⟩ <;> rfl
  | ingestRemote remote =>
    simp only [call]
    rcases run.session.ingestRemote remote with ⟨_ | _, next⟩ <;> rfl
  | flushCorrections => rfl

variable {config : SessionConfig} {guard : SessionRun → SessionCall → Prop} {run : SessionRun}

theorem Reachable.config_eq (h : Reachable config guard run) : run.session.config = config := by
  induction h with
  | start => rfl
  | @call run c hreach _ ih =>
    have hstanding : StandsAt False config run.session.state.frame 0 run.session :=
      ⟨ih, hreach.stamped, (FrameNumber.plus_zero _).symm, False.elim⟩
    rw [call_session]
    cases c with
    | advance loc =>
      dsimp only
      rcases hstanding.advance (by omega) loc with
        ⟨e, next, hnext, hfallen⟩ | ⟨result, next, hnext, hone⟩
      · rw [hnext]
        exact hfallen.config
      · rw [hnext]
        exact hone.config
    | ingestRemote remote => exact (hstanding.ingestRemote (by omega) remote).config
    | flushCorrections =>
      dsimp only
      rcases hstanding.flushCorrections (by omega) with
        ⟨e, next, hnext, hfallen⟩ | ⟨result, next, hnext, hsame, -⟩
      · rw [hnext]
        exact hfallen.config
      · rw [hnext]
        exact hsame.config

/-- Without an advance nothing is recorded of the first frame or later ones. -/
theorem Reachable.tracked (h : Reachable config Waits run) :
    Tracked config.initialState.frame 0 run.session := by
  induction h with
  | start => exact .start config
  | @call run c _ hwaits ih =>
    rw [call_session]
    cases c with
    | advance loc => exact absurd rfl (hwaits loc)
    | ingestRemote remote => exact ih.ingestRemote (by omega) remote
    | flushCorrections =>
      cases hdirty : run.session.earliestDirty with
      | none =>
        rw [RollbackSession.flushCorrections, hdirty]
        exact ih.updateConfirmation (by omega)
      | some dirty =>
        obtain ⟨i, hi, -⟩ := ih.dirty dirty hdirty
        omega

/-- Whatever has been called, a session at a frame stands there. -/
theorem Reachable.standing (h : Reachable config guard run) {first : FrameNumber}
    (hframe : run.session.state.frame = first) :
    StandsAt (Reachable config Waits run) config first 0 run.session := by
  refine ⟨h.config_eq, h.stamped, hframe.trans (FrameNumber.plus_zero _).symm, fun hwaits => ?_⟩
  have htracked := hwaits.tracked
  have hfirst : config.initialState.frame = first := by
    rw [← hframe, htracked.mark.frame, FrameNumber.plus_zero]
  exact hfirst ▸ htracked

end SessionRun

end RollbackLab
