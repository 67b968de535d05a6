import RollbackLab.ScriptedSession

/-!
# Sessions in step with their partner

The inputs of a partner that is never ahead are for frames that have been reached. Of such
a session it is known which inputs it has heard: once nothing is pending, every boundary
up to the first input that it misses is confirmed.
-/

namespace RollbackLab

open Speculation (Exact)

/-- Which inputs a session refuses, by count. -/
theorem Follows.tooOld_iff {config : SessionConfig} {script : InputScript} {limit n c : ℕ}
    {session : RollbackSession} (h : Follows config script limit n c session) (hn : n < 2 ^ 30) {k : ℕ}
    (hk : k ≤ n) :
    (frameBefore ⟨UInt32.ofNat k⟩ session.state.frame = true ∧
        session.config.maxRollbackFrames < frameDistance ⟨UInt32.ofNat k⟩ session.state.frame) ↔
      k + config.maxRollbackFrames.toNat < n := by
  rw [h.frame_eq, h.config_eq, ← Traces.zero_plus, ← Traces.zero_plus,
    frameBefore_plus _ (by omega) (by omega), UInt32.lt_iff_toNat_lt,
    frameDistance_plus _ hk (by omega)]
  omega

/-- An input that is not too old is accepted. -/
theorem Traces.ingest_near {config : SessionConfig} {script : InputScript} {limit n c : ℕ}
    {run : SessionRun} {s : Machine} {worlds : ℕ → WorldState} {used : ℕ → InputFrame}
    (ht : Traces config script limit n c run s worlds used) (hexact : Exact 256 s) (hn : n < 2 ^ 30)
    {k : ℕ} (hk : k ≤ n) (hlimit : k < limit) (hnear : n ≤ k + config.maxRollbackFrames.toNat) :
    ∃ next c' accepted, run.session.ingestRemote (script.input config.remotePeer ⟨UInt32.ofNat k⟩) =
        (.ok (), next) ∧ c ≤ c' ∧
      Traces config script limit n c' ⟨next, run.locals, accepted⟩
        (Speculation.accept 256 256 s (256 + k) (script.remoteButtons config (256 + k))) worlds used ∧
      Exact 256
        (Speculation.accept 256 256 s (256 + k) (script.remoteButtons config (256 + k))) := by
  have hold := (show Follows config script limit n c run.session from
    ⟨run, s, worlds, used, rfl, ht⟩).tooOld_iff hn hk
  have hcurrent := ht.current_eq
  have hvalue : (UInt32.ofNat k).toNat = k :=
    UInt32.toNat_ofNat_of_lt' (by simp only [UInt32.size]; omega)
  have hscripted : (⟨UInt32.ofNat k⟩ : FrameNumber).value.toNat < limit := by
    rw [hvalue]
    exact hlimit
  rcases ht.ingest hscripted with
    ⟨e, he, -⟩ | ⟨next, i, c', hnext, hi, hat, -, hle, ht'⟩
  · -- the session refuses what is too old, and nothing else
    rw [RollbackSession.ingestRemote_ok (by rw [script.player, ht.refines.simulated.config_eq])
      (by rw [script.frame, hold]; omega)] at he
    cases he
  · have hi' : i = 256 + k := by
      rw [← Traces.origin_plus ht.initial] at hat
      exact ((FrameNumber.plus_inj (by omega) hi).1 hat).symm
    subst hi'
    have hwide := ht.window
    exact ⟨next, c', _, hnext, hle, ht', hexact.accept ht.sound (by omega) (by omega)⟩

/-- A session that follows the script of a partner that is never ahead, and has accepted
the inputs of all frames of `heard`. -/
def Hears (config : SessionConfig) (script : InputScript) (limit n c : ℕ) (heard : ℕ → Prop)
    (session : RollbackSession) : Prop :=
  ∃ run s worlds used, run.session = session ∧ Traces config script limit n c run s worlds used ∧
    Exact 256 s ∧ ∀ k, heard k → (s.accepted (256 + k)).isSome = true

namespace Hears

variable {config : SessionConfig} {script : InputScript} {limit n c : ℕ} {heard : ℕ → Prop}
  {session : RollbackSession}

theorem follows (h : Hears config script limit n c heard session) :
    Follows config script limit n c session := by
  obtain ⟨run, s, worlds, used, hrun, ht, -, -⟩ := h
  exact ⟨run, s, worlds, used, hrun, ht⟩

/-- An input that is too old is refused. -/
theorem refuse (h : Hears config script limit n c heard session) (hn : n < 2 ^ 30) {k : ℕ}
    (hfar : k + config.maxRollbackFrames.toNat < n) :
    ∃ e, session.ingestRemote (script.input config.remotePeer ⟨UInt32.ofNat k⟩) =
      (.error e, session) ∧ e.code = .rollbackWindowExceeded := by
  refine ⟨⟨.rollbackWindowExceeded, (UInt32.ofNat k).toUInt64, 0, "remote_input"⟩, ?_, rfl⟩
  rw [RollbackSession.ingestRemote, if_neg (by rw [script.player, h.follows.config_eq]; simp)]
  dsimp only
  rw [script.frame]
  exact if_pos ((h.follows.tooOld_iff hn (by omega)).2 hfar)

/-- With nothing pending, what was heard without a gap is confirmed. -/
theorem le_confirmed (h : Hears config script limit n c heard session)
    (hclean : session.earliestDirty = none) {m : ℕ} (hm : m ≤ n) (hfilled : ∀ k < m, heard k) :
    m ≤ c := by
  obtain ⟨run, s, worlds, used, rfl, ht, hexact, hheard⟩ := h
  have hnone : s.dirty = none := by
    have hdirty := ht.refines.remembers.dirty
    rw [hclean] at hdirty
    exact Option.map_eq_none_iff.1 hdirty.symm
  have hcurrent := ht.current_eq
  have hconfirmed := ht.confirmed_eq
  rcases hexact.stuck with hend | hgap | hpending
  · omega
  · by_contra hlt
    have hsome := hheard c (hfilled c (Nat.lt_of_not_le hlt))
    rw [hconfirmed] at hgap
    rw [hgap] at hsome
    cases hsome
  · rw [hnone] at hpending
    cases hpending

end Hears

end RollbackLab
