import RollbackLab.SessionRefinement

/-!
# Sessions whose simulation can fail

From an arbitrary initial world a frame can overflow. A correction moves the world back
to the dirty snapshot before it knows that the resimulation goes through, and an advance
stores its local input before it knows that the frame does, so both leave a session
behind that no completed call produces. This file compares a correction with the
fold of the simulation that it attempts, and says which calls keep a session in order.
-/

namespace RollbackLab
namespace RollbackSession

/-- One frame of a correction, as a function of the inputs the session holds. -/
def correctFrame (session : RollbackSession) (world : WorldState) (frame : FrameNumber) :
    Result WorldState := do
  let loc ← session.storage.localInputs.get frame
  simulateFrame world frame (session.config.makePair loc (session.remoteFor frame))
    session.config.variant

def correctFrames (session : RollbackSession) (dirty : FrameNumber) (world : WorldState)
    (offset rounds : ℕ) : Result WorldState :=
  (List.range' offset rounds).foldlM
    (fun world offset => session.correctFrame world (dirty.plus offset)) world

/-- The world that a correction is meant to end in. -/
def corrected (session : RollbackSession) : Result WorldState :=
  match session.earliestDirty with
  | none => .ok session.state
  | some dirty => do
    let snapshot ← session.storage.snapshots.get dirty
    session.correctFrames dirty snapshot 0 (frameDistance dirty session.state.frame).toNat

/-- No correction is pending, or it is refused before it starts, or every frame of it
goes through. -/
def CorrectionCompletes (session : RollbackSession) : Prop :=
  ∀ dirty, session.earliestDirty = some dirty →
    frameDistance dirty session.state.frame ≤ session.config.maxRollbackFrames →
    session.storage.snapshots.contains dirty = true → ∃ world, session.corrected = .ok world

/-- What a resimulation leaves alone. -/
structure KeepsInputs (session next : RollbackSession) : Prop where
  config : next.config = session.config
  localInputs : next.storage.localInputs = session.storage.localInputs
  remoteInputs : next.storage.remoteInputs = session.storage.remoteInputs
  earliestDirty : next.earliestDirty = session.earliestDirty
  metrics : next.metrics = session.metrics

theorem KeepsInputs.refl (session : RollbackSession) : session.KeepsInputs session :=
  ⟨rfl, rfl, rfl, rfl, rfl⟩

theorem KeepsInputs.trans {session next last : RollbackSession} (h : session.KeepsInputs next)
    (h' : next.KeepsInputs last) : session.KeepsInputs last :=
  ⟨h'.config.trans h.config, h'.localInputs.trans h.localInputs,
    h'.remoteInputs.trans h.remoteInputs, h'.earliestDirty.trans h.earliestDirty,
    h'.metrics.trans h.metrics⟩

theorem KeepsInputs.correctFrame {session next : RollbackSession} (h : session.KeepsInputs next) :
    next.correctFrame = session.correctFrame := by
  funext world frame
  rw [RollbackSession.correctFrame, RollbackSession.correctFrame, h.config, h.localInputs,
    remoteFor_congr h.config h.remoteInputs]

theorem correctFrame_frame {session : RollbackSession} {world after : WorldState}
    {frame : FrameNumber} (h : session.correctFrame world frame = .ok after) :
    world.frame = frame ∧ after.frame = nextFrame frame := by
  simp only [correctFrame, bind, Except.bind] at h
  split at h
  · cases h
  · obtain ⟨hmatch, hframe⟩ := simulateFrame_frame h
    refine ⟨?_, hframe⟩
    simp only [inputsMatch, Bool.not_eq_true', Bool.or_eq_false_iff, bne_eq_false_iff_eq] at hmatch
    exact hmatch.1.1.1.1

theorem correctFrames_succ (session : RollbackSession) (dirty : FrameNumber) (world : WorldState)
    (offset rounds : ℕ) : session.correctFrames dirty world offset (rounds + 1) = (do
      let after ← session.correctFrame world (dirty.plus offset)
      session.correctFrames dirty after (offset + 1) rounds) := by
  rw [correctFrames, List.range'_succ, List.foldlM_cons]
  rfl

theorem correctFrames_frame {session : RollbackSession} {dirty : FrameNumber} {offset rounds : ℕ}
    {world after : WorldState} (hworld : world.frame = dirty.plus offset)
    (h : session.correctFrames dirty world offset rounds = .ok after) :
    after.frame = dirty.plus (offset + rounds) := by
  induction rounds generalizing offset world with
  | zero =>
    cases h
    exact hworld
  | succ rounds ih =>
    rw [correctFrames_succ] at h
    cases hstep : session.correctFrame world (dirty.plus offset) with
    | error e =>
      rw [hstep] at h
      cases h
    | ok next =>
      rw [hstep] at h
      have hnext : next.frame = dirty.plus (offset + 1) :=
        (correctFrame_frame hstep).2.trans (nextFrame_plus dirty offset)
      rw [ih hnext h, Nat.add_right_comm, Nat.add_assoc]

/-! ## A correction attempts the fold -/

/-- The rings a resimulation writes, after the frame has been entered. -/
structure Enters (session next : RollbackSession) (frame : FrameNumber) : Prop where
  inputs : session.KeepsInputs next
  snapshots : next.storage.snapshots = (session.storage.snapshots.put frame session.state).2
  usedRemoteInputs : next.storage.usedRemoteInputs =
    (session.storage.usedRemoteInputs.put frame (session.remoteFor frame)).2

/-- One round: the frame has no local input, or it is entered and its simulation
succeeds or not. -/
theorem resimulateFrame_cases (session : RollbackSession) (frame : FrameNumber) :
    (∃ e, session.storage.localInputs.get frame = .error e ∧
      session.correctFrame session.state frame = .error e ∧
      session.resimulateFrame frame = (.error e, session)) ∨
    (∃ loc e next, session.storage.localInputs.get frame = .ok loc ∧
      session.correctFrame session.state frame = .error e ∧
      session.resimulateFrame frame = (.error e, next) ∧ session.Enters next frame ∧
      next.state = session.state) ∨
    ∃ loc after next, session.storage.localInputs.get frame = .ok loc ∧
      session.correctFrame session.state frame = .ok after ∧
      session.resimulateFrame frame = (.ok (), next) ∧ session.Enters next frame ∧
      next.state = after := by
  cases hloc : session.storage.localInputs.get frame with
  | error e =>
    refine Or.inl ⟨e, rfl, ?_, ?_⟩
    · simp only [correctFrame, hloc]
      rfl
    · simp only [resimulateFrame, hloc]
  | ok loc =>
    have hcorrect : session.correctFrame session.state frame =
        simulateFrame session.state frame
          (session.config.makePair loc (session.remoteFor frame)) session.config.variant := by
      simp only [correctFrame, hloc]
      rfl
    cases hsim : simulateFrame session.state frame
        (session.config.makePair loc (session.remoteFor frame)) session.config.variant with
    | error e =>
      refine Or.inr (Or.inl ⟨loc, e, ?_⟩)
      simp only [resimulateFrame, hloc, hsim]
      exact ⟨_, trivial, hcorrect.trans hsim, rfl, ⟨⟨rfl, rfl, rfl, rfl, rfl⟩, rfl, rfl⟩, rfl⟩
    | ok after =>
      refine Or.inr (Or.inr ⟨loc, after, ?_⟩)
      simp only [resimulateFrame, hloc, hsim]
      exact ⟨_, trivial, hcorrect.trans hsim, rfl, ⟨⟨rfl, rfl, rfl, rfl, rfl⟩, rfl, rfl⟩, rfl⟩

/-- Every snapshot is kept under the frame it was taken at. -/
def Stamped (session : RollbackSession) : Prop :=
  ∀ frame world, session.storage.snapshots.get frame = .ok world → world.frame = frame

theorem Stamped.put {session : RollbackSession} (h : session.Stamped) {frame : FrameNumber}
    {world : WorldState} (hworld : world.frame = frame) {f : FrameNumber} {w : WorldState}
    (hget : (session.storage.snapshots.put frame world).2.get f = .ok w) : w.frame = f := by
  rcases FrameRing.get_put_ok hget with ⟨rfl, rfl⟩ | hold
  · exact hworld
  · exact h f w hold

theorem Enters.stamped {session next : RollbackSession} {frame : FrameNumber}
    (h : session.Enters next frame) (hs : session.Stamped) (hframe : session.state.frame = frame) :
    next.Stamped := by
  intro f w hget
  rw [h.snapshots] at hget
  exact hs.put hframe hget

/-- A frame whose remote input is on record as used was used before, or has a local input. -/
def UsesLocals (session next : RollbackSession) : Prop :=
  ∀ frame used, next.storage.usedRemoteInputs.get frame = .ok used →
    (∃ used, session.storage.usedRemoteInputs.get frame = .ok used) ∨
    ∃ loc, session.storage.localInputs.get frame = .ok loc

theorem UsesLocals.trans {session next last : RollbackSession} (hkeeps : session.KeepsInputs next)
    (h : session.UsesLocals next) (h' : next.UsesLocals last) : session.UsesLocals last := by
  intro frame used hget
  rcases h' frame used hget with ⟨used', hused⟩ | hloc
  · exact h frame used' hused
  · rw [hkeeps.localInputs] at hloc
    exact Or.inr hloc

theorem Enters.usesLocals {session next : RollbackSession} {frame : FrameNumber}
    (h : session.Enters next frame) {loc : InputFrame}
    (hloc : session.storage.localInputs.get frame = .ok loc) : session.UsesLocals next := by
  intro f used hget
  rw [h.usedRemoteInputs] at hget
  rcases FrameRing.get_put_ok hget with ⟨rfl, rfl⟩ | hold
  · exact Or.inr ⟨loc, hloc⟩
  · exact Or.inl ⟨used, hold⟩

/-- What a resimulation returns and leaves behind, by the fold that it attempts. -/
structure Resimulated (session : RollbackSession) (dirty : FrameNumber) (offset rounds : ℕ)
    (result : Result Unit) (next : RollbackSession) : Prop where
  inputs : session.KeepsInputs next
  stamped : next.Stamped
  usesLocals : session.UsesLocals next
  of_ok : ∀ world, session.correctFrames dirty session.state offset rounds = .ok world →
    result = .ok () ∧ next.state = world
  of_error : ∀ e, session.correctFrames dirty session.state offset rounds = .error e →
    result = .error e ∧ ∃ k < rounds, next.state.frame = dirty.plus (offset + k)

/-- A round that fails ends the resimulation at the frame it has reached. -/
theorem Resimulated.failed {session next : RollbackSession} {dirty : FrameNumber} {offset : ℕ}
    {e : Error} (rounds : ℕ) (hcorrect : session.correctFrame session.state (dirty.plus offset) = .error e)
    (hinputs : session.KeepsInputs next) (hstamped : next.Stamped) (hused : session.UsesLocals next)
    (hframe : next.state.frame = dirty.plus offset) :
    session.Resimulated dirty offset (rounds + 1) (.error e) next := by
  have hfail : session.correctFrames dirty session.state offset (rounds + 1) = .error e := by
    rw [correctFrames_succ, hcorrect]
    rfl
  refine ⟨hinputs, hstamped, hused, fun world hworld => ?_, fun e' he' => ?_⟩
  · rw [hfail] at hworld
    cases hworld
  · rw [hfail] at he'
    cases he'
    exact ⟨rfl, 0, by omega, hframe⟩

theorem resimulate_spec {session : RollbackSession} {dirty : FrameNumber} {offset : ℕ} (rounds : ℕ)
    (hs : session.Stamped) (hframe : session.state.frame = dirty.plus offset) :
    session.Resimulated dirty offset rounds (session.resimulate dirty rounds offset).1
      (session.resimulate dirty rounds offset).2 := by
  induction rounds generalizing session offset with
  | zero =>
    refine ⟨.refl _, hs, fun f used h => Or.inl ⟨used, h⟩, fun world hworld => ?_, fun e he => ?_⟩
    · cases hworld
      exact ⟨rfl, rfl⟩
    · cases he
  | succ rounds ih =>
    have hframe' : (⟨dirty.value + UInt32.ofNat offset⟩ : FrameNumber) = dirty.plus offset := rfl
    rcases session.resimulateFrame_cases (dirty.plus offset) with
      ⟨e, -, hcorrect, hstep⟩ | ⟨loc, e, next, hloc, hcorrect, hstep, henters, hstate⟩ |
      ⟨loc, after, next, hloc, hcorrect, hstep, henters, hstate⟩
    · rw [resimulate, hframe', hstep]
      exact .failed rounds hcorrect (.refl _) hs (fun f used h => Or.inl ⟨used, h⟩) hframe
    · rw [resimulate, hframe', hstep]
      exact .failed rounds hcorrect henters.inputs (henters.stamped hs hframe)
        (henters.usesLocals hloc) (by rw [hstate, hframe])
    · rw [resimulate, hframe', hstep]
      have hnext : next.state.frame = dirty.plus (offset + 1) := by
        rw [hstate, (correctFrame_frame hcorrect).2, nextFrame_plus]
      have hrest := ih (henters.stamped hs hframe) hnext
      have hfold : session.correctFrames dirty session.state offset (rounds + 1) =
          next.correctFrames dirty next.state (offset + 1) rounds := by
        rw [correctFrames_succ, hcorrect, hstate]
        change session.correctFrames dirty after (offset + 1) rounds = _
        rw [correctFrames, correctFrames, henters.inputs.correctFrame]
      refine ⟨henters.inputs.trans hrest.inputs, hrest.stamped,
        .trans henters.inputs (henters.usesLocals hloc) hrest.usesLocals, fun world hworld => ?_,
        fun e he => ?_⟩
      · exact hrest.of_ok world (hfold ▸ hworld)
      · obtain ⟨hresult, k, hk, hreached⟩ := hrest.of_error e (hfold ▸ he)
        exact ⟨hresult, k + 1, by omega, by rw [hreached, Nat.add_right_comm, Nat.add_assoc]⟩

/-- A correction that ends with the world `next.state` and no frame dirty. -/
structure Corrects (session next : RollbackSession) : Prop where
  config : next.config = session.config
  localInputs : next.storage.localInputs = session.storage.localInputs
  remoteInputs : next.storage.remoteInputs = session.storage.remoteInputs
  confirmed : next.metrics.confirmedFrame = session.metrics.confirmedFrame
  frame : next.state.frame = session.state.frame
  clean : next.earliestDirty = none
  stamped : next.Stamped
  usesLocals : session.UsesLocals next

/-- A pending correction is refused, or breaks off behind the current frame, or completes. -/
theorem flushCorrections_cases {session : RollbackSession} (hs : session.Stamped)
    {dirty : FrameNumber} (hdirty : session.earliestDirty = some dirty) :
    (∃ e, (session.config.maxRollbackFrames < frameDistance dirty session.state.frame ∨
        session.storage.snapshots.get dirty = .error e) ∧
      session.flushCorrections = (.error e, session)) ∨
    (∃ e next, frameDistance dirty session.state.frame ≤ session.config.maxRollbackFrames ∧
      session.storage.snapshots.contains dirty = true ∧ session.corrected = .error e ∧
      session.flushCorrections = (.error e, next) ∧ session.KeepsInputs next ∧ next.Stamped ∧
      next.state.frame ≠ session.state.frame ∧
      ∃ k ≤ (frameDistance dirty session.state.frame).toNat, next.state.frame = dirty.plus k) ∨
    ∃ result next, session.corrected = .ok next.state ∧
      session.flushCorrections = (.ok result, next.updateConfirmation) ∧ session.Corrects next := by
  rw [flushCorrections, corrected, hdirty]
  by_cases hwindow : session.config.maxRollbackFrames < frameDistance dirty session.state.frame
  · exact Or.inl ⟨_, Or.inl hwindow, if_pos hwindow⟩
  simp only [if_neg hwindow]
  cases hsnapshot : session.storage.snapshots.get dirty with
  | error e => exact Or.inl ⟨e, Or.inr rfl, rfl⟩
  | ok snapshot =>
    set depth := (frameDistance dirty session.state.frame).toNat with hdepth
    have hreach : dirty.plus depth = session.state.frame := FrameNumber.plus_frameDistance _ _
    have hstart : snapshot.frame = dirty.plus 0 := by
      rw [FrameNumber.plus_zero]
      exact hs dirty snapshot hsnapshot
    have hrun : Resimulated { session with state := snapshot, earliestDirty := some dirty } dirty 0
      depth _ _ := resimulate_spec depth hs hstart
    have hfold : correctFrames { session with state := snapshot, earliestDirty := some dirty } dirty
        snapshot 0 depth = session.correctFrames dirty snapshot 0 depth := rfl
    rcases hresim : resimulate { session with state := snapshot, earliestDirty := some dirty } dirty
      depth 0 with ⟨result, next⟩
    rw [hresim] at hrun
    simp only [hresim]
    cases hcorrect : session.correctFrames dirty snapshot 0 depth with
    | error e =>
      obtain ⟨hresult, k, hk, hreached⟩ := hrun.of_error e (hfold.trans hcorrect)
      cases hresult
      refine Or.inr (Or.inl ⟨e, next, UInt32.not_lt.1 hwindow, ?_, ?_, rfl, ?_, hrun.stamped, ?_, k,
        hk.le, by rw [hreached, Nat.zero_add]⟩)
      · exact (FrameRing.contains_iff _ _).2 ⟨snapshot, hsnapshot⟩
      · exact hcorrect
      · exact ⟨hrun.inputs.config, hrun.inputs.localInputs, hrun.inputs.remoteInputs,
          hrun.inputs.earliestDirty.trans hdirty.symm, hrun.inputs.metrics⟩
      · rw [hreached, ← hreach, Nat.zero_add, ne_eq, FrameNumber.plus_inj] <;>
          have := (frameDistance dirty session.state.frame).toNat_lt <;> omega
    | ok world =>
      obtain ⟨hresult, hstate⟩ := hrun.of_ok world (hfold.trans hcorrect)
      cases hresult
      refine Or.inr (Or.inr ⟨_, _, ?_, rfl, ?_⟩)
      · change session.correctFrames dirty snapshot 0 depth = .ok next.state
        rw [hcorrect, hstate]
      · refine ⟨hrun.inputs.config, hrun.inputs.localInputs, hrun.inputs.remoteInputs, ?_, ?_,
          rfl, hrun.stamped, hrun.usesLocals⟩
        · have hmetrics : next.metrics = session.metrics := hrun.inputs.metrics
          change next.metrics.confirmedFrame = session.metrics.confirmedFrame
          rw [hmetrics]
        · change next.state.frame = session.state.frame
          rw [hstate, correctFrames_frame hstart hcorrect, Nat.zero_add, hreach]

theorem updateConfirmation_stamped {session : RollbackSession} (hs : session.Stamped) :
    session.updateConfirmation.Stamped := hs

theorem flushCorrections_stamped {session : RollbackSession} (hs : session.Stamped) :
    session.flushCorrections.2.Stamped := by
  cases hdirty : session.earliestDirty with
  | none =>
    rw [flushCorrections, hdirty]
    exact updateConfirmation_stamped hs
  | some dirty =>
    rcases flushCorrections_cases hs hdirty with ⟨e, -, hflush⟩ | ⟨e, next, -, -, -, hflush, -, h, -, -⟩ |
      ⟨result, next, -, hflush, hcorrects⟩
    · rw [hflush]
      exact hs
    · rw [hflush]
      exact h
    · rw [hflush]
      exact updateConfirmation_stamped hcorrects.stamped

theorem advanceClean_stamped {session : RollbackSession} (hs : session.Stamped)
    (loc : InputFrame) : (session.advanceClean loc).2.Stamped := by
  rw [advanceClean]
  split
  · exact hs
  · simp only [FrameRing.put_fst]
    split
    · exact fun f w hget => hs.put rfl hget
    · exact fun f w hget => hs.put rfl hget

theorem ingestRemote_stamped {session : RollbackSession} (hs : session.Stamped)
    (remote : InputFrame) : (session.ingestRemote remote).2.Stamped := by
  have hkeep : ∀ isLate, (session.keepRemote remote isLate).Stamped := fun _ => hs
  have hcompare : ∀ s : RollbackSession, s.Stamped → (s.compareUsed remote).Stamped := by
    intro s hs
    rw [compareUsed]
    split
    · split
      · rw [Stamped, (markDirty_fields s remote.frame).2.2]
        exact hs
      · exact hs
    · exact hs
  rw [ingestRemote]
  split
  · exact hs
  · simp only []
    split
    · exact hs
    · split
      · exact updateConfirmation_stamped (hcompare _ (hkeep _))
      · exact updateConfirmation_stamped (hkeep _)

end RollbackSession

open RollbackSession (Stamped)

theorem SessionRun.call_stamped {run : SessionRun} (hs : run.session.Stamped) (c : SessionCall) :
    (run.call c).session.Stamped := by
  cases c with
  | advance loc =>
    have hadvance : (run.session.advance loc).2.Stamped := by
      rw [RollbackSession.advance]
      split
      · have hflush := RollbackSession.flushCorrections_stamped hs
        revert hflush
        rcases run.session.flushCorrections with ⟨_ | _, next⟩
        · exact id
        · exact fun hnext => RollbackSession.advanceClean_stamped hnext loc
      · exact RollbackSession.advanceClean_stamped hs loc
    revert hadvance
    rw [SessionRun.call]
    rcases run.session.advance loc with ⟨_ | _, next⟩ <;> exact id
  | ingestRemote remote =>
    have hingest := RollbackSession.ingestRemote_stamped hs remote
    revert hingest
    rw [SessionRun.call]
    rcases run.session.ingestRemote remote with ⟨_ | _, next⟩ <;> exact id
  | flushCorrections => exact RollbackSession.flushCorrections_stamped hs

theorem SessionRun.Reachable.stamped {config : SessionConfig}
    {guard : SessionRun → SessionCall → Prop} {run : SessionRun}
    (h : SessionRun.Reachable config guard run) : run.session.Stamped := by
  induction h with
  | start =>
    intro f w hget
    simp only [SessionRun.start, RollbackSession.create, FrameRing.get_empty] at hget
    cases hget
  | call c _ _ ih => exact SessionRun.call_stamped ih c

/-! ## Failed corrections -/

/-- What the readers of a session can tell. -/
structure RollbackSession.SameObservations (session next : RollbackSession) : Prop where
  report : next.report = session.report
  earliestDirty : next.earliestDirty = session.earliestDirty
  hashAt : ∀ boundary, next.hashAt boundary = session.hashAt boundary
  stateAt : ∀ boundary, next.stateAt boundary = session.stateAt boundary
  confirmedInput : ∀ player frame,
    next.confirmedInput player frame = session.confirmedInput player frame

/-- A correction that fails leaves the session as it was exactly when it failed before
its first frame. -/
theorem failed_correction_unchanged {config : SessionConfig} {run : SessionRun}
    (h : SessionRun.Reachable config (fun _ _ => True) run) :
    (∀ e next, run.session.flushCorrections = (.error e, next) →
      run.session.SameObservations next) ↔ run.session.CorrectionCompletes := by
  constructor
  · intro hsame dirty hdirty hwindow hsnapshot
    obtain ⟨snapshot, hget⟩ := (FrameRing.contains_iff _ _).1 hsnapshot
    rcases RollbackSession.flushCorrections_cases h.stamped hdirty with
      ⟨e, hrefused | hmissing, -⟩ | ⟨e, next, -, -, -, hflush, -, -, hmoved, -⟩ | ⟨result, next, hok, -⟩
    · exact absurd hrefused (UInt32.not_lt.2 hwindow)
    · rw [hget] at hmissing
      cases hmissing
    · have hstate := congrArg SessionReport.state (hsame e next hflush).report
      exact absurd (congrArg WorldState.frame hstate) hmoved
    · exact ⟨_, hok⟩
  · intro hcompletes e next hflush
    cases hdirty : run.session.earliestDirty with
    | none =>
      rw [RollbackSession.flushCorrections, hdirty] at hflush
      cases hflush
    | some dirty =>
      rcases RollbackSession.flushCorrections_cases h.stamped hdirty with
        ⟨e', -, hflush'⟩ | ⟨e', next', hwindow, hsnapshot, hfail, -⟩ | ⟨result, next', -, hflush', -⟩
      · rw [hflush'] at hflush
        cases hflush
        exact ⟨rfl, rfl, fun _ => rfl, fun _ => rfl, fun _ _ => rfl⟩
      · obtain ⟨world, hworld⟩ := hcompletes dirty hdirty hwindow hsnapshot
        rw [hfail] at hworld
        cases hworld
      · rw [hflush'] at hflush
        cases hflush

/-- The initial world with player B at the end of the number range. -/
def edgeWorld : WorldState :=
  makeInitialWorld.setPlayer (playerIndex .b)
    { makeInitialWorld.players.get (playerIndex .b) with x := 2147483647 }

/-- Player B stands still in the first frame, and is then said to have moved right. -/
def edgeRun : SessionRun :=
  (((SessionRun.start { initialState := edgeWorld }).call (.ingestRemote ⟨⟨0⟩, .b, 0, 0⟩)).call
    (.advance ⟨⟨0⟩, .a, 0, 0⟩)).call (.ingestRemote ⟨⟨0⟩, .b, 1, buttonMask .right⟩)

theorem edgeRun_reachable :
    SessionRun.Reachable { initialState := edgeWorld } (fun _ _ => True) edgeRun :=
  .call _ (.call _ (.call _ .start trivial) trivial) trivial

theorem edgeRun_flush : (∃ e, edgeRun.session.flushCorrections.1 = .error e) ∧
    edgeRun.session.flushCorrections.2.state.frame ≠ edgeRun.session.state.frame := by
  have ⟨hfails, hmoves⟩ : edgeRun.session.flushCorrections.1.isOk = false ∧
      edgeRun.session.flushCorrections.2.state.frame ≠ edgeRun.session.state.frame := by
    decide +kernel
  refine ⟨?_, hmoves⟩
  cases hflush : edgeRun.session.flushCorrections.1 with
  | error e => exact ⟨e, rfl⟩
  | ok result =>
    rw [hflush] at hfails
    cases hfails

theorem failed_correction_unchanged_edgeRun :
    (∀ e next, edgeRun.session.flushCorrections = (.error e, next) →
      edgeRun.session.SameObservations next) ↔ edgeRun.session.CorrectionCompletes :=
  failed_correction_unchanged edgeRun_reachable

/-- The correction of the first frame overflows and leaves the session at frame 0. -/
theorem failed_correction_moves_back : ¬ ∀ config run,
    SessionRun.Reachable config (fun _ _ => True) run →
    ∀ e next, run.session.flushCorrections = (.error e, next) →
      run.session.SameObservations next := by
  intro hsame
  obtain ⟨⟨e, hfails⟩, hmoves⟩ := edgeRun_flush
  have hflush : edgeRun.session.flushCorrections =
      (.error e, edgeRun.session.flushCorrections.2) := Prod.ext hfails rfl
  have hsame' := hsame _ edgeRun edgeRun_reachable e _ hflush
  exact hmoves (congrArg WorldState.frame (congrArg SessionReport.state hsame'.report))

/-! ## The confirmed boundary -/

namespace RollbackSession

/-- No correction is pending that the window refuses. -/
def WithinWindow (session : RollbackSession) : Prop :=
  ∀ dirty, session.earliestDirty = some dirty →
    frameDistance dirty session.state.frame ≤ session.config.maxRollbackFrames

/-- The simulation that a call runs goes through. -/
def SimulationSucceeds (session : RollbackSession) : SessionCall → Prop
  | .advance loc => session.CorrectionCompletes ∧ (session.WithinWindow →
      ∀ world, session.corrected = .ok world →
        loc.frame = world.frame → loc.player = session.config.localPeer →
        ∃ after, simulateFrame world world.frame
          (session.config.makePair loc (session.remoteFor world.frame)) session.config.variant =
            .ok after)
  | .ingestRemote _ => True
  | .flushCorrections => session.CorrectionCompletes

theorem withinWindow_of_flush {session next : RollbackSession} {result : CorrectionResult}
    (hflush : session.flushCorrections = (.ok result, next)) : session.WithinWindow := by
  intro dirty hdirty
  by_contra hrefused
  rw [flushCorrections, hdirty] at hflush
  dsimp only at hflush
  rw [if_pos (UInt32.not_le.1 hrefused)] at hflush
  cases hflush

/-- The condition can be evaluated: whether a correction and the frame after it go through. -/
def simulates (session : RollbackSession) : SessionCall → Bool
  | .advance loc =>
    match session.corrected with
    | .error _ => false
    | .ok world => (simulateFrame world world.frame
        (session.config.makePair loc (session.remoteFor world.frame)) session.config.variant).isOk
  | .ingestRemote _ => true
  | .flushCorrections => session.corrected.isOk

theorem SimulationSucceeds.of_simulates {session : RollbackSession} {c : SessionCall}
    (h : session.simulates c = true) : session.SimulationSucceeds c := by
  cases c with
  | ingestRemote remote => trivial
  | flushCorrections =>
    intro dirty _ _ _
    rw [simulates] at h
    cases hcorrected : session.corrected with
    | error e =>
      rw [hcorrected] at h
      cases h
    | ok world => exact ⟨world, rfl⟩
  | advance loc =>
    rw [simulates] at h
    cases hcorrected : session.corrected with
    | error e =>
      rw [hcorrected] at h
      cases h
    | ok world =>
      rw [hcorrected] at h
      refine ⟨fun _ _ _ _ => ⟨world, hcorrected⟩, fun _ world' hworld' _ _ => ?_⟩
      cases hcorrected.symm.trans hworld'
      dsimp only at h
      cases hsim : simulateFrame world world.frame
          (session.config.makePair loc (session.remoteFor world.frame)) session.config.variant with
      | error e =>
        rw [hsim] at h
        cases h
      | ok after => exact ⟨after, rfl⟩

end RollbackSession

/-- The frames that a session has recorded lie behind its current one, `count` frames
after the first, and the confirmed boundary is not after it. -/
structure Watermark (first : FrameNumber) (count : ℕ) (session : RollbackSession) : Prop where
  stamped : session.Stamped
  frame : session.state.frame = first.plus count
  localInputs : ∀ f loc, session.storage.localInputs.get f = .ok loc → ∃ i < count, f = first.plus i
  usedRemoteInputs : ∀ f used, session.storage.usedRemoteInputs.get f = .ok used →
    ∃ i < count, f = first.plus i
  confirmed : ∃ i ≤ count, session.metrics.confirmedFrame = first.plus i

namespace Watermark

variable {first : FrameNumber} {count : ℕ} {session : RollbackSession}

/-- The confirmed boundary passes frames with a local input only. -/
theorem confirmFrom (h : Watermark first count session) (hcount : count < 2 ^ 32) {rounds i : ℕ}
    (hi : i ≤ count) : ∃ j ≤ count, session.confirmFrom rounds (first.plus i) = first.plus j := by
  induction rounds generalizing i with
  | zero => exact ⟨i, hi, rfl⟩
  | succ rounds ih =>
    rw [RollbackSession.confirmFrom]
    split
    · rename_i hcontains
      split
      · exact ⟨i, hi, rfl⟩
      · obtain ⟨loc, hloc⟩ := (FrameRing.contains_iff _ _).1 (Bool.and_eq_true_iff.1 hcontains).1
        obtain ⟨k, hk, he⟩ := h.localInputs _ loc hloc
        rw [FrameNumber.plus_inj (by omega) (by omega)] at he
        rw [nextFrame_plus]
        exact ih (by omega)
    · exact ⟨i, hi, rfl⟩

theorem updateConfirmation (h : Watermark first count session) (hcount : count < 2 ^ 32) :
    Watermark first count session.updateConfirmation := by
  obtain ⟨i, hi, he⟩ := h.confirmed
  obtain ⟨j, hj, hj'⟩ : ∃ j ≤ count,
      session.confirmFrom kHistoryCapacity (first.plus i) = first.plus j := h.confirmFrom hcount hi
  refine ⟨h.stamped, h.frame, h.localInputs, h.usedRemoteInputs, j, hj, ?_⟩
  rw [RollbackSession.updateConfirmation, he]
  exact hj'

theorem start (config : SessionConfig) :
    Watermark config.initialState.frame 0 (RollbackSession.create config) := by
  have hempty : ∀ {α : Type} [Inhabited α] (f : FrameNumber) (v : α),
      (FrameRing.empty : FrameRing α kHistoryCapacity).get f ≠ .ok v := by
    intro α _ f v hget
    rw [FrameRing.get_empty] at hget
    cases hget
  refine ⟨fun f w hget => absurd hget (hempty f w), ?_, fun f v hget => absurd hget (hempty f v),
    fun f v hget => absurd hget (hempty f v), 0, le_rfl, ?_⟩
  · exact (FrameNumber.plus_zero _).symm
  · exact (FrameNumber.plus_zero _).symm

theorem keepRemote (h : Watermark first count session) (remote : InputFrame) (isLate : Bool) :
    Watermark first count (session.keepRemote remote isLate) := by
  refine ⟨h.stamped, h.frame, h.localInputs, h.usedRemoteInputs, ?_⟩
  rw [RollbackSession.keepRemote_confirmedFrame]
  exact h.confirmed

/-- Marking a frame that was simulated moves the boundary back at most. -/
theorem compareUsed (h : Watermark first count session) (remote : InputFrame) :
    Watermark first count (session.compareUsed remote) := by
  rw [RollbackSession.compareUsed]
  split
  · rename_i used hused
    split
    · obtain ⟨hconfig, hstate, hstorage⟩ := RollbackSession.markDirty_fields session remote.frame
      refine ⟨?_, hstate ▸ h.frame, ?_, ?_, ?_⟩
      · rw [Stamped, hstorage]
        exact h.stamped
      · rw [hstorage]
        exact h.localInputs
      · rw [hstorage]
        exact h.usedRemoteInputs
      · obtain ⟨i, hi, hframe⟩ := h.usedRemoteInputs _ used hused
        by_cases hbefore : frameBefore remote.frame session.metrics.confirmedFrame = true
        · refine ⟨i, hi.le, ?_⟩
          rw [RollbackSession.markDirty_confirmedFrame, if_pos hbefore, hframe]
        · obtain ⟨j, hj, hconfirmed⟩ := h.confirmed
          refine ⟨j, hj, ?_⟩
          rw [RollbackSession.markDirty_confirmedFrame, if_neg hbefore, hconfirmed]
    · exact h
  · exact h

theorem ingestRemote (h : Watermark first count session) (hcount : count < 2 ^ 32)
    (remote : InputFrame) : Watermark first count (session.ingestRemote remote).2 := by
  rw [RollbackSession.ingestRemote]
  split
  · exact h
  · simp only []
    split
    · exact h
    · split
      · exact ((h.keepRemote _ _).compareUsed _).updateConfirmation hcount
      · exact (h.keepRemote _ _).updateConfirmation hcount

/-- A correction that completes, or is refused, ends at the frame where it began. -/
theorem flushCorrections (h : Watermark first count session) (hcount : count < 2 ^ 32)
    (hcompletes : session.CorrectionCompletes) :
    Watermark first count session.flushCorrections.2 ∧
      ((∃ result, session.flushCorrections.1 = .ok result) →
        session.corrected = .ok session.flushCorrections.2.state ∧
        session.flushCorrections.2.config = session.config ∧
        session.flushCorrections.2.storage.remoteInputs = session.storage.remoteInputs) := by
  cases hdirty : session.earliestDirty with
  | none =>
    rw [RollbackSession.flushCorrections, RollbackSession.corrected, hdirty]
    exact ⟨h.updateConfirmation hcount, fun _ => ⟨rfl, rfl, rfl⟩⟩
  | some dirty =>
    rcases RollbackSession.flushCorrections_cases h.stamped hdirty with
      ⟨e, -, hflush⟩ | ⟨e, next, hwindow, hsnapshot, hfail, -⟩ | ⟨result, next, hok, hflush, hc⟩
    · rw [hflush]
      refine ⟨h, ?_⟩
      rintro ⟨result, hresult⟩
      cases hresult
    · obtain ⟨world, hworld⟩ := hcompletes dirty hdirty hwindow hsnapshot
      rw [hfail] at hworld
      cases hworld
    · rw [hflush]
      have hnext : Watermark first count next := by
        refine ⟨hc.stamped, hc.frame.trans h.frame, ?_, fun f used hget => ?_, ?_⟩
        · rw [hc.localInputs]
          exact h.localInputs
        · rcases hc.usesLocals f used hget with ⟨used', hused⟩ | ⟨loc, hloc⟩
          · exact h.usedRemoteInputs f used' hused
          · exact h.localInputs f loc hloc
        · rw [hc.confirmed]
          exact h.confirmed
      exact ⟨hnext.updateConfirmation hcount, fun _ => ⟨hok, hc.config, hc.remoteInputs⟩⟩

theorem advanceClean (h : Watermark first count session) (hcount : count + 1 < 2 ^ 32)
    {loc : InputFrame} (hsim : loc.frame = session.state.frame →
      loc.player = session.config.localPeer → ∃ after, simulateFrame session.state session.state.frame
        (session.config.makePair loc (session.remoteFor session.state.frame)) session.config.variant =
          .ok after) :
    (∃ e, session.advanceClean loc = (.error e, session)) ∨
      ∃ result next, session.advanceClean loc = (.ok result, next) ∧ Watermark first (count + 1) next := by
  by_cases hmatch : loc.frame = session.state.frame ∧ loc.player = session.config.localPeer
  · obtain ⟨after, hafter⟩ := hsim hmatch.1 hmatch.2
    obtain ⟨result, metrics, hmetrics, hadvance⟩ :=
      RollbackSession.advanceClean_ok hmatch.1 hmatch.2 hafter
    refine Or.inr ⟨result, _, hadvance, ?_⟩
    have hlater : ∀ f : FrameNumber, (∃ i < count, f = first.plus i) →
        ∃ i < count + 1, f = first.plus i :=
      fun f ⟨i, hi, he⟩ => ⟨i, by omega, he⟩
    have hnext : Watermark first (count + 1) (session.advanced loc
        (session.remoteFor session.state.frame) after metrics) := by
      refine ⟨fun f w hget => h.stamped.put rfl hget, ?_, fun f v hget => ?_, fun f v hget => ?_, ?_⟩
      · change after.frame = first.plus (count + 1)
        rw [(simulateFrame_frame hafter).2, h.frame, nextFrame_plus]
      · rcases FrameRing.get_put_ok hget with ⟨rfl, -⟩ | hold
        · exact ⟨count, by omega, hmatch.1.trans h.frame⟩
        · exact hlater f (h.localInputs f v hold)
      · rcases FrameRing.get_put_ok hget with ⟨rfl, -⟩ | hold
        · exact ⟨count, by omega, h.frame⟩
        · exact hlater f (h.usedRemoteInputs f v hold)
      · obtain ⟨i, hi, he⟩ := h.confirmed
        exact ⟨i, by omega, hmetrics.trans he⟩
    exact hnext.updateConfirmation hcount
  · exact Or.inl ⟨_, RollbackSession.advanceClean_mismatch hmatch⟩

theorem advance (h : Watermark first count session) (hcount : count + 1 < 2 ^ 32)
    {loc : InputFrame} (hsucceeds : session.SimulationSucceeds (.advance loc)) :
    (∃ e next, session.advance loc = (.error e, next) ∧ Watermark first count next) ∨
      ∃ result next, session.advance loc = (.ok result, next) ∧ Watermark first (count + 1) next := by
  obtain ⟨hcompletes, hsim⟩ := hsucceeds
  obtain ⟨hflushed, hok⟩ := h.flushCorrections (by omega) hcompletes
  rw [RollbackSession.advance]
  split
  · rcases hflush : session.flushCorrections with ⟨e | result, next⟩
    · rw [hflush] at hflushed
      exact Or.inl ⟨e, next, rfl, hflushed⟩
    · rw [hflush] at hflushed hok
      obtain ⟨hcorrected, hconfig, hremote⟩ := hok ⟨result, rfl⟩
      have hsim' := hsim (RollbackSession.withinWindow_of_flush hflush) next.state hcorrected
      rw [← hconfig, ← RollbackSession.remoteFor_congr hconfig hremote] at hsim'
      rcases hflushed.advanceClean hcount hsim' with ⟨e, he⟩ | hadvance
      · exact Or.inl ⟨e, next, he, hflushed⟩
      · exact Or.inr hadvance
  · rename_i hclean
    have hnone : session.earliestDirty = none := Option.not_isSome_iff_eq_none.1 hclean
    have hcorrected : session.corrected = .ok session.state := by
      rw [RollbackSession.corrected, hnone]
    have hwindow : session.WithinWindow := fun dirty hdirty => by cases hnone.symm.trans hdirty
    rcases h.advanceClean hcount (hsim hwindow session.state hcorrected) with ⟨e, he⟩ | hadvance
    · exact Or.inl ⟨e, session, he, h⟩
    · exact Or.inr hadvance

theorem call {run : SessionRun} {c : SessionCall}
    (h : Watermark first run.locals.length run.session) (hcount : run.locals.length + 1 < 2 ^ 32)
    (hsucceeds : run.session.SimulationSucceeds c) :
    Watermark first (run.call c).locals.length (run.call c).session := by
  cases c with
  | advance loc =>
    rw [SessionRun.call]
    rcases h.advance hcount hsucceeds with ⟨e, next, hadvance, hnext⟩ | ⟨result, next, hadvance, hnext⟩
    · rw [hadvance]
      exact hnext
    · rw [hadvance]
      simpa using hnext
  | ingestRemote remote =>
    have hnext := h.ingestRemote (by omega) remote
    rw [SessionRun.call]
    revert hnext
    rcases run.session.ingestRemote remote with ⟨_ | _, next⟩ <;> exact id
  | flushCorrections => exact (h.flushCorrections (by omega) hsucceeds).1

end Watermark

theorem SessionRun.Reachable.watermark {config : SessionConfig} {run : SessionRun}
    (h : SessionRun.Reachable config (fun run c => run.session.SimulationSucceeds c ∧
      run.locals.length < 2 ^ 30) run) :
    Watermark config.initialState.frame run.locals.length run.session := by
  induction h with
  | start => exact .start config
  | call c _ hc ih => exact ih.call (by have := hc.2; omega) hc.1

/-- While the simulation goes through in every call, the confirmed boundary is never
after the current frame. -/
theorem confirmed_not_after_current {config : SessionConfig} {run : SessionRun}
    (h : SessionRun.Reachable config (fun run c => run.session.SimulationSucceeds c) run)
    (hsmall : run.locals.length < 2 ^ 30) :
    frameBefore run.session.state.frame run.session.metrics.confirmedFrame = false := by
  have hmark := (h.bounded hsmall).watermark
  obtain ⟨i, hi, he⟩ := hmark.confirmed
  rw [hmark.frame, he, Bool.eq_false_iff, ne_eq, frameBefore_plus _ (by omega) (by omega)]
  omega

/-- The second frame is simulated on a guess, the input of the other peer arrives and is worked in,
and a third frame follows. -/
def caughtUpRun : SessionRun :=
  (((((SessionRun.start {}).call (.ingestRemote ⟨⟨0⟩, .b, 0, 0⟩)).call (.advance ⟨⟨0⟩, .a, 0, 8⟩)).call
    (.advance ⟨⟨1⟩, .a, 1, 8⟩)).call (.ingestRemote ⟨⟨1⟩, .b, 1, 4⟩)).call (.advance ⟨⟨2⟩, .a, 2, 16⟩)

theorem caughtUpRun_reachable :
    SessionRun.Reachable {} (fun run c => run.session.SimulationSucceeds c) caughtUpRun :=
  .call _ (.call _ (.call _ (.call _ (.call _ .start trivial) (.of_simulates (by decide)))
    (.of_simulates (by decide))) trivial) (.of_simulates (by decide +kernel))

theorem confirmed_not_after_current_caughtUp : caughtUpRun.session.metrics.confirmedFrame = ⟨2⟩ ∧
    caughtUpRun.session.metrics.rollbackCount = 1 ∧
    frameBefore caughtUpRun.session.state.frame caughtUpRun.session.metrics.confirmedFrame = false := by
  have hruns : caughtUpRun.session.metrics.confirmedFrame = ⟨2⟩ ∧
      caughtUpRun.session.metrics.rollbackCount = 1 ∧ caughtUpRun.locals.length < 2 ^ 30 := by
    decide +kernel
  exact ⟨hruns.1, hruns.2.1, confirmed_not_after_current caughtUpRun_reachable hruns.2.2⟩

/-- The first frame overflows after its local input was stored, so that the frame is
confirmed without ever being simulated. -/
theorem confirmed_after_current : ¬ ∀ (config : SessionConfig) (calls : List SessionCall),
    calls.length < 2 ^ 30 →
    frameBefore (calls.foldl SessionRun.call (.start config)).session.state.frame
      (calls.foldl SessionRun.call (.start config)).session.metrics.confirmedFrame = false := by
  intro hnever
  have hafter := hnever { localPeer := .b, initialState := edgeWorld }
    [.ingestRemote ⟨⟨0⟩, .a, 0, 0⟩, .advance ⟨⟨0⟩, .b, 0, buttonMask .right⟩, .flushCorrections]
    (by decide)
  revert hafter
  decide +kernel

end RollbackLab
