import RollbackLab.ConfirmedHistory
import RollbackLab.PeerDriver

/-!
# Sessions played by any calls

What holds of a session after so many frames, whatever its callers fed it: corrections go
through, advances with the input of the current frame do, and the boundaries that it shows
hashes of have been reached.
-/

namespace RollbackLab

/-- A session that calls have taken `n` frames from the initial world. -/
structure Played (config : SessionConfig) (n : ℕ) (session : RollbackSession) : Prop where
  initial : config.initialState = makeInitialWorld
  window : config.maxRollbackFrames.toNat ≤ 120
  refines : ∃ run s worlds used, run.session = session ∧ Refines config run s worlds used ∧
    Speculation.Sound 256 256 s ∧ run.locals.length = n

namespace Played

variable {config : SessionConfig} {n : ℕ} {session : RollbackSession}

theorem start (hinitial : config.initialState = makeInitialWorld)
    (hwindow : config.maxRollbackFrames.toNat ≤ 120) : Played config 0 (.create config) :=
  ⟨hinitial, hwindow, _, _, _, _, rfl, .start config (by rw [hinitial]), .start, rfl⟩

theorem frame_eq (h : Played config n session) : session.state.frame = ⟨UInt32.ofNat n⟩ := by
  obtain ⟨run, s, worlds, used, rfl, hrefines, -, rfl⟩ := h.refines
  rw [hrefines.frame_eq, hrefines.current_eq, config.origin_plus, h.initial]
  change (⟨0⟩ : FrameNumber).plus run.locals.length = _
  rw [FrameNumber.plus, UInt32.zero_add]

theorem ingestRemote (h : Played config n session) (remote : InputFrame) :
    Played config n (session.ingestRemote remote).2 := by
  obtain ⟨run, s, worlds, used, rfl, hrefines, hsound, hlength⟩ := h.refines
  rcases hrefines.ingest remote with ⟨e, hrun⟩ | ⟨next, i, hrun, hi, hframe, hwindow, hnext⟩
  · rw [hrun]
    exact h
  · rw [hrun]
    refine ⟨h.initial, h.window, _, _, worlds, used, rfl, hnext, hsound.accept fun hfirst hlt => ?_, hlength⟩
    have hsmall := hrefines.small
    have hnear := h.window
    rw [hframe, hrefines.frame_eq, frameBefore_plus config.origin (by omega) (by omega),
      frameDistance_plus config.origin hlt.le (by omega)] at hwindow
    have := hwindow hlt
    omega

theorem ingestInputs (h : Played config n session) (inputs : List InputFrame) :
    Played config n (PeerRuntime.ingestInputs session inputs).2 := by
  induction inputs generalizing session with
  | nil => exact h
  | cons input inputs ih =>
    have hone := h.ingestRemote input
    rw [PeerRuntime.ingestInputs]
    rcases hingest : session.ingestRemote input with ⟨e | _, next⟩
    · rw [hingest] at hone
      exact hone
    · rw [hingest] at hone
      exact ih hone

/-- A correction goes through, leaves nothing pending and is as deep as the window at most. -/
theorem flushCorrections (h : Played config n session) :
    ∃ result next, session.flushCorrections = (.ok result, next) ∧ Played config n next ∧
      next.earliestDirty = none ∧
      (result.performed = true → 1 ≤ result.resimulatedFrames.toNat ∧
        result.resimulatedFrames.toNat ≤ config.maxRollbackFrames.toNat) := by
  obtain ⟨run, s, worlds, used, rfl, hrefines, hsound, hlength⟩ := h.refines
  obtain ⟨result, next, worlds', used', hrun, hnext, -, hdepth⟩ := hrefines.flush
  refine ⟨result, next, hrun, ⟨h.initial, h.window, _, _, worlds', used', rfl, hnext, hsound.flush,
    hlength⟩, ?_, hdepth⟩
  have hdirty := hnext.remembers.dirty
  rw [Refines.flush_dirty] at hdirty
  exact hdirty

/-- An advance with the input of the current frame succeeds, any other one fails, and with
nothing pending before it nothing is pending after it. -/
theorem advance (h : Played config n session) (hn : n < 2 ^ 30) (loc : InputFrame) :
    (loc.frame = session.state.frame ∧ loc.player = config.localPeer ∧
        ∃ result next, session.advance loc = (.ok result, next) ∧ Played config (n + 1) next ∧
          next.earliestDirty = none) ∨
      ¬(loc.frame = session.state.frame ∧ loc.player = config.localPeer) ∧
        ∃ e next, session.advance loc = (.error e, next) ∧ Played config n next := by
  obtain ⟨run, s, worlds, used, rfl, hrefines, hsound, hlength⟩ := h.refines
  obtain ⟨ready, hclean, hready, hcases⟩ := hrefines.advance (by omega) loc
  have hsound' : Speculation.Sound 256 256 ready := by
    rcases hready with rfl | rfl
    · exact hsound
    · exact hsound.flush
  rcases hcases with ⟨hframe, hplayer, result, next, worlds', used', hrun, hnext, -⟩ |
    ⟨hother, e, next, worlds', used', hrun, hnext, -⟩
  · refine Or.inl ⟨hframe, hplayer, result, next, hrun, ⟨h.initial, h.window, _, _, worlds', used', rfl,
      hnext, hsound'.advance hclean, by rw [List.length_append, hlength, List.length_singleton]⟩, ?_⟩
    have hdirty := hnext.remembers.dirty
    rw [show (Speculation.advance 256 0 ready).dirty = ready.dirty from rfl, hclean] at hdirty
    exact hdirty
  · exact Or.inr ⟨hother, e, next, hrun, h.initial, h.window, _, _, worlds', used', rfl, hnext, hsound',
      hlength⟩

/-- A boundary that the session shows a hash of has been reached, and it shows the world. -/
theorem hashAt (h : Played config n session) (hn : n < 2 ^ 30) {boundary : FrameNumber} {hash : StateHash}
    (hhash : session.hashAt boundary = .ok hash) :
    boundary.value.toNat ≤ n ∧ ∃ world, session.stateAt boundary = .ok world := by
  obtain ⟨run, s, worlds, used, rfl, hrefines, hsound, hlength⟩ := h.refines
  obtain ⟨k, hk, hboundary, hworld, -⟩ := hrefines.hashAt hsound (by omega) hhash
  have hle := hk.trans hsound.confirmed_le
  rw [hrefines.current_eq, hlength] at hle
  refine ⟨?_, _, hworld⟩
  rw [hboundary, h.initial, FrameNumber.plus_value_toNat]
  change (0 + k) % 2 ^ 32 ≤ n
  omega

end Played

end RollbackLab
