import RollbackLab.ConfirmedHistory
import RollbackLab.MatchScript
import RollbackLab.SessionFailure
import RollbackLab.TruthfulArrivals

/-!
# Sessions that follow a script

Two peers of one match feed their sessions from one script: each advances with its own
inputs and ingests those of its partner, which are the same however often and whenever
they arrive. Such a session never fails except for the rollback window, its confirmed
boundary never moves back, and what it exposes below that boundary is a function of the
script.
-/

namespace RollbackLab

open Speculation (Sound Truthful)

namespace RollbackSession

theorem resimulateFrame_remoteInputs (session : RollbackSession) (frame : FrameNumber) :
    (session.resimulateFrame frame).2.storage.remoteInputs = session.storage.remoteInputs := by
  rw [resimulateFrame]
  split
  · rfl
  · dsimp only
    split <;> rfl

theorem resimulate_remoteInputs (session : RollbackSession) (dirty : FrameNumber) (rounds offset : ℕ) :
    (session.resimulate dirty rounds offset).2.storage.remoteInputs = session.storage.remoteInputs := by
  induction rounds generalizing session offset with
  | zero => rfl
  | succ rounds ih =>
    have hone := session.resimulateFrame_remoteInputs ⟨dirty.value + UInt32.ofNat offset⟩
    rw [resimulate]
    rcases hcall : session.resimulateFrame ⟨dirty.value + UInt32.ofNat offset⟩ with ⟨e | _, next⟩
    · rw [hcall] at hone
      exact hone
    · rw [hcall] at hone
      exact (ih next (offset + 1)).trans hone

theorem flushCorrections_remoteInputs (session : RollbackSession) :
    session.flushCorrections.2.storage.remoteInputs = session.storage.remoteInputs := by
  rw [flushCorrections]
  cases session.earliestDirty with
  | none => rfl
  | some dirty =>
    dsimp only
    split
    · rfl
    · cases session.storage.snapshots.get dirty with
      | error e => rfl
      | ok snapshot =>
        have hrun := resimulate_remoteInputs
          { session with state := snapshot, earliestDirty := some dirty } dirty
          (frameDistance dirty session.state.frame).toNat 0
        dsimp only
        rcases hcall : resimulate _ dirty (frameDistance dirty session.state.frame).toNat 0 with
          ⟨e | _, next⟩
        · rw [hcall] at hrun
          exact hrun
        · rw [hcall] at hrun
          exact hrun

theorem advanceClean_remoteInputs (session : RollbackSession) (loc : InputFrame) :
    (session.advanceClean loc).2.storage.remoteInputs = session.storage.remoteInputs := by
  rw [advanceClean]
  split
  · rfl
  · simp only [FrameRing.put_fst]
    split <;> rfl

theorem advance_remoteInputs (session : RollbackSession) (loc : InputFrame) :
    (session.advance loc).2.storage.remoteInputs = session.storage.remoteInputs := by
  have hflush := session.flushCorrections_remoteInputs
  rw [advance]
  split
  · rcases hcall : session.flushCorrections with ⟨e | _, next⟩
    · rw [hcall] at hflush
      exact hflush
    · rw [hcall] at hflush
      exact (next.advanceClean_remoteInputs loc).trans hflush
  · exact session.advanceClean_remoteInputs loc

theorem compareUsed_storage (session : RollbackSession) (remote : InputFrame) :
    (session.compareUsed remote).storage = session.storage := by
  rw [compareUsed]
  split
  · split
    · exact (markDirty_fields session remote.frame).2.2
    · rfl
  · rfl

/-- An accepted input is put into its slot. -/
theorem ingestRemote_remoteInputs {session next : RollbackSession} {remote : InputFrame}
    (h : session.ingestRemote remote = (.ok (), next)) :
    next.storage.remoteInputs = (session.storage.remoteInputs.put remote.frame remote).2 := by
  rw [ingestRemote] at h
  split at h
  · cases h
  · dsimp only at h
    split at h
    · cases h
    · cases h
      change (if _ then _ else _ : RollbackSession).storage.remoteInputs = _
      split
      · rw [compareUsed_storage]
        rfl
      · rfl

/-- An input of the right player is refused for the window only. -/
theorem ingestRemote_error {session : RollbackSession} {remote : InputFrame} {e : Error}
    {next : RollbackSession} (hplayer : remote.player = session.config.remotePeer)
    (h : session.ingestRemote remote = (.error e, next)) : e.code = .rollbackWindowExceeded := by
  rw [ingestRemote, if_neg (not_not.2 hplayer)] at h
  dsimp only at h
  split at h
  · cases h
    rfl
  · cases h

end RollbackSession

/-- What the script's partner presses at a count. -/
def InputScript.remoteButtons (script : InputScript) (config : SessionConfig) (i : ℕ) : UInt8 :=
  (script.input config.remotePeer (config.origin.plus i)).buttons

/-- A session of one peer after `n` frames of the script, `c` of them confirmed, that was
given inputs of its partner for frames below the limit only. -/
structure Traces (config : SessionConfig) (script : InputScript) (limit n c : ℕ) (run : SessionRun)
    (s : Machine) (worlds : ℕ → WorldState) (used : ℕ → InputFrame) : Prop where
  initial : config.initialState = makeInitialWorld
  window : config.maxRollbackFrames.toNat ≤ 120
  refines : Refines config run s worlds used
  sound : Sound 256 256 s
  truthful : Truthful 256 (script.remoteButtons config) s
  locals_eq : run.locals = script.locals config.localPeer n
  accepted : ∀ frame remote, run.accepted frame = some remote →
    remote = script.input config.remotePeer frame ∧ frame.value.toNat < limit
  counted : ∀ j, (s.accepted j).isSome = true → j < 2 ^ 32
  ring : ∀ frame remote, run.session.storage.remoteInputs.get frame = .ok remote →
    remote = script.input config.remotePeer frame
  confirmed_eq : s.confirmed = 256 + c

namespace Traces

variable {config : SessionConfig} {script : InputScript} {limit n c : ℕ} {run : SessionRun}
  {s : Machine} {worlds : ℕ → WorldState} {used : ℕ → InputFrame}

theorem zero_plus (k : ℕ) : (⟨0⟩ : FrameNumber).plus k = ⟨UInt32.ofNat k⟩ := by
  rw [FrameNumber.plus, UInt32.zero_add]

theorem origin_plus (hinitial : config.initialState = makeInitialWorld) (k : ℕ) :
    config.origin.plus (256 + k) = ⟨UInt32.ofNat k⟩ := by
  rw [config.origin_plus, hinitial, ← zero_plus]
  rfl

theorem current_eq (h : Traces config script limit n c run s worlds used) : s.current = 256 + n := by
  rw [h.refines.current_eq, h.locals_eq, InputScript.length_locals]

theorem start (hinitial : config.initialState = makeInitialWorld)
    (hwindow : config.maxRollbackFrames.toNat ≤ 120) :
    ∃ worlds used, Traces config script limit 0 0 (.start config) (.start 256 0) worlds used := by
  refine ⟨_, _, hinitial, hwindow, .start config (by rw [hinitial]), .start, .start, rfl, nofun, nofun,
    fun frame remote hget => ?_, rfl⟩
  simp only [SessionRun.start, RollbackSession.create, FrameRing.get_empty] at hget
  cases hget

theorem accept_accepted (s : Machine) (i : ℕ) (v : UInt8) :
    (Speculation.accept 256 256 s i v).accepted = Function.update s.accepted i (some v) := by
  rw [Speculation.accept]
  split <;> rfl

theorem flush_accepted (s : Machine) : (Speculation.flush 256 0 s).accepted = s.accepted := by
  rw [Speculation.flush]
  split <;> rfl

/-- An input of the partner is refused for the window, or accepted on the script. -/
theorem ingest (ht : Traces config script limit n c run s worlds used) {frame : FrameNumber}
    (hlimit : frame.value.toNat < limit) :
    (∃ e, run.session.ingestRemote (script.input config.remotePeer frame) =
        (.error e, run.session) ∧ e.code = .rollbackWindowExceeded) ∨
    ∃ next i c', run.session.ingestRemote (script.input config.remotePeer frame) = (.ok (), next) ∧
      i < 2 ^ 32 ∧ frame = config.origin.plus i ∧
      (256 ≤ i → i < s.current → s.current ≤ i + config.maxRollbackFrames.toNat) ∧ c ≤ c' ∧
      Traces config script limit n c'
        ⟨next, run.locals,
          Function.update run.accepted (script.input config.remotePeer frame).frame
            (some (script.input config.remotePeer frame))⟩
        (Speculation.accept 256 256 s i (script.remoteButtons config i)) worlds used := by
  rcases ht.refines.ingest (script.input config.remotePeer frame) with
    ⟨e, he⟩ | ⟨next, i, hnext, hi, hframe, hwindow, hrefines⟩
  · refine Or.inl ⟨e, he, RollbackSession.ingestRemote_error ?_ he⟩
    rw [script.player, ht.refines.simulated.config_eq]
  have hat : frame = config.origin.plus i := (script.frame _ _).symm.trans hframe
  have hnear : 256 ≤ i → i < s.current → s.current ≤ i + config.maxRollbackFrames.toNat := by
    intro hfirst hlt
    have hsmall := ht.refines.small
    rw [hframe, ht.refines.frame_eq, frameBefore_plus config.origin (by omega) (by omega),
      frameDistance_plus config.origin hlt.le (by omega)] at hwindow
    have := hwindow hlt
    omega
  have htruth : (script.input config.remotePeer frame).buttons =
      script.remoteButtons config i := by
    rw [InputScript.remoteButtons, ← hat]
  rw [htruth] at hrefines
  have hle := ht.truthful.confirmed_le_accept ht.sound i
  have hwide := ht.window
  have hsound := ht.sound.accept (v := script.remoteButtons config i)
    fun hfirst hlt => (hnear hfirst hlt).trans (by omega)
  obtain ⟨c', hc'⟩ := Nat.exists_eq_add_of_le hsound.first_le
  rw [ht.confirmed_eq, hc'] at hle
  refine Or.inr ⟨next, i, c', hnext, hi, hat, hnear, by omega, ht.initial, ht.window, hrefines, hsound,
    ht.truthful.accept i, ht.locals_eq, fun f r hr => ?_, fun j hj => ?_, fun f r hr => ?_, hc'⟩
  · dsimp only at hr
    rw [script.frame] at hr
    rcases eq_or_ne f frame with rfl | hne
    · rw [Function.update_self] at hr
      exact ⟨(Option.some.inj hr).symm, hlimit⟩
    · rw [Function.update_of_ne hne] at hr
      exact ht.accepted f r hr
  · rw [accept_accepted] at hj
    rcases eq_or_ne j i with rfl | hne
    · exact hi
    · rw [Function.update_of_ne hne] at hj
      exact ht.counted j hj
  · change next.storage.remoteInputs.get f = .ok r at hr
    rw [RollbackSession.ingestRemote_remoteInputs hnext, script.frame] at hr
    rcases FrameRing.get_put_ok hr with ⟨rfl, rfl⟩ | hold
    · rfl
    · exact ht.ring f r hold

theorem flush (ht : Traces config script limit n c run s worlds used) :
    ∃ result next c' worlds' used', run.session.flushCorrections = (.ok result, next) ∧ c ≤ c' ∧
      Traces config script limit n c' ⟨next, run.locals, run.accepted⟩ (Speculation.flush 256 0 s)
        worlds' used' := by
  obtain ⟨result, next, worlds', used', hrun, hrefines, -⟩ := ht.refines.flush
  have hle : s.confirmed ≤ (Speculation.flush 256 0 s).confirmed := Speculation.confirmed_le_flush s
  have hsound : Sound 256 256 (Speculation.flush 256 0 s) := ht.sound.flush
  obtain ⟨c', hc'⟩ := Nat.exists_eq_add_of_le hsound.first_le
  rw [ht.confirmed_eq, hc'] at hle
  refine ⟨result, next, c', worlds', used', hrun, by omega,
    ht.initial, ht.window, hrefines, hsound, ht.truthful.flush, ht.locals_eq, ht.accepted,
    fun j hj => ht.counted j ?_, fun f r hr => ht.ring f r ?_, hc'⟩
  · rwa [flush_accepted] at hj
  · have hsame := run.session.flushCorrections_remoteInputs
    rw [hrun] at hsame
    rw [← hsame]
    exact hr

theorem advance (ht : Traces config script limit n c run s worlds used) (hn : n < 2 ^ 30) :
    ∃ ready result next c' worlds' used', ready.dirty = none ∧
      (ready = s ∨ ready = Speculation.flush 256 0 s) ∧
      run.session.advance (script.input config.localPeer run.session.state.frame) =
        (.ok result, next) ∧ c ≤ c' ∧
      Traces config script limit (n + 1) c'
        ⟨next, run.locals ++ [script.input config.localPeer run.session.state.frame], run.accepted⟩
        (Speculation.advance 256 0 ready) worlds' used' := by
  have hframe : run.session.state.frame = ⟨UInt32.ofNat n⟩ := by
    rw [ht.refines.frame_eq, ht.current_eq, origin_plus ht.initial]
  have hlength : run.locals.length = n := by
    rw [ht.locals_eq, InputScript.length_locals]
  obtain ⟨ready, hclean, hready, hcase⟩ := ht.refines.advance (by omega)
    (script.input config.localPeer run.session.state.frame)
  have hkept : Sound 256 256 ready ∧ Truthful 256 (script.remoteButtons config) ready ∧ s.confirmed ≤ ready.confirmed ∧
      ready.accepted = s.accepted := by
    rcases hready with rfl | rfl
    · exact ⟨ht.sound, ht.truthful, le_rfl, rfl⟩
    · exact ⟨ht.sound.flush, ht.truthful.flush, Speculation.confirmed_le_flush s, flush_accepted s⟩
  obtain ⟨hsound, htruthful, hle, haccepted⟩ := hkept
  rcases hcase with ⟨-, -, result, next, worlds', used', hrun, hrefines, -⟩ | ⟨hmismatch, -⟩
  · have hle' : ready.confirmed ≤ (Speculation.advance 256 0 ready).confirmed :=
      Speculation.confirmed_le_advance ready
    have hsound' : Sound 256 256 (Speculation.advance 256 0 ready) := hsound.advance hclean
    obtain ⟨c', hc'⟩ := Nat.exists_eq_add_of_le hsound'.first_le
    rw [ht.confirmed_eq] at hle
    rw [hc'] at hle'
    refine ⟨ready, result, next, c', worlds', used', hclean, hready, hrun, by omega,
      ht.initial, ht.window, hrefines, hsound', htruthful.advance, ?_, ht.accepted,
      fun j hj => ht.counted j ?_, fun f r hr => ht.ring f r ?_, hc'⟩
    · rw [ht.locals_eq, InputScript.locals_succ, hframe]
    · rw [← haccepted]
      exact hj
    · have hsame := run.session.advance_remoteInputs
        (script.input config.localPeer run.session.state.frame)
      rw [hrun] at hsame
      rw [← hsame]
      exact hr
  · exact absurd ⟨script.frame _ _, script.player _ _⟩ hmismatch

end Traces

def Follows (config : SessionConfig) (script : InputScript) (limit n c : ℕ)
    (session : RollbackSession) : Prop :=
  ∃ run s worlds used, run.session = session ∧ Traces config script limit n c run s worlds used

namespace Follows

variable {config : SessionConfig} {script : InputScript} {limit n c : ℕ} {session : RollbackSession}

theorem start (hinitial : config.initialState = makeInitialWorld)
    (hwindow : config.maxRollbackFrames.toNat ≤ 120) :
    Follows config script limit 0 0 (.create config) := by
  obtain ⟨worlds, used, ht⟩ := Traces.start hinitial hwindow
  exact ⟨_, _, worlds, used, rfl, ht⟩

theorem config_eq (h : Follows config script limit n c session) : session.config = config := by
  obtain ⟨run, s, worlds, used, rfl, ht⟩ := h
  exact ht.refines.simulated.config_eq

theorem frame_eq (h : Follows config script limit n c session) :
    session.state.frame = ⟨UInt32.ofNat n⟩ := by
  obtain ⟨run, s, worlds, used, rfl, ht⟩ := h
  rw [ht.refines.frame_eq, ht.current_eq, Traces.origin_plus ht.initial]

theorem confirmedFrame_eq (h : Follows config script limit n c session) :
    session.metrics.confirmedFrame = ⟨UInt32.ofNat c⟩ := by
  obtain ⟨run, s, worlds, used, rfl, ht⟩ := h
  rw [ht.refines.remembers.confirmed, ht.confirmed_eq, Traces.origin_plus ht.initial]

theorem confirmed_le (h : Follows config script limit n c session) : c ≤ n := by
  obtain ⟨run, s, worlds, used, rfl, ht⟩ := h
  have hle := ht.sound.confirmed_le
  rw [ht.confirmed_eq, ht.current_eq] at hle
  omega

/-- An input of the partner is refused for the window, or leaves the session on the script. -/
theorem ingest (h : Follows config script limit n c session) {frame : FrameNumber}
    (hlimit : frame.value.toNat < limit) :
    (∃ e, session.ingestRemote (script.input config.remotePeer frame) = (.error e, session) ∧
      e.code = .rollbackWindowExceeded) ∨
    ∃ next c', session.ingestRemote (script.input config.remotePeer frame) = (.ok (), next) ∧
      c ≤ c' ∧ Follows config script limit n c' next := by
  obtain ⟨run, s, worlds, used, rfl, ht⟩ := h
  rcases ht.ingest hlimit with hrefused | ⟨next, i, c', hnext, hi, hframe, hnear, hle, ht'⟩
  · exact Or.inl hrefused
  · exact Or.inr ⟨next, c', hnext, hle, _, _, worlds, used, rfl, ht'⟩

/-- A correction goes through. -/
theorem flush (h : Follows config script limit n c session) :
    ∃ result next c', session.flushCorrections = (.ok result, next) ∧ c ≤ c' ∧
      Follows config script limit n c' next := by
  obtain ⟨run, s, worlds, used, rfl, ht⟩ := h
  obtain ⟨result, next, c', worlds', used', hrun, hle, ht'⟩ := ht.flush
  exact ⟨result, next, c', hrun, hle, _, _, worlds', used', rfl, ht'⟩

/-- An advance with the script's input of the current frame goes through. -/
theorem advance (h : Follows config script limit n c session) (hn : n < 2 ^ 30) :
    ∃ result next c',
      session.advance (script.input config.localPeer session.state.frame) = (.ok result, next) ∧
        c ≤ c' ∧ Follows config script limit (n + 1) c' next := by
  obtain ⟨run, s, worlds, used, rfl, ht⟩ := h
  obtain ⟨ready, result, next, c', worlds', used', hclean, hready, hrun, hle, ht'⟩ := ht.advance hn
  exact ⟨result, next, c', hrun, hle, _, _, worlds', used', rfl, ht'⟩

/-! ## What is exposed -/

theorem makePair_eq (config : SessionConfig) (script : InputScript) (k : ℕ) :
    config.makePair (script.input config.localPeer ⟨UInt32.ofNat k⟩)
      (script.input config.remotePeer ⟨UInt32.ofNat k⟩) = script.pair k := by
  rw [SessionConfig.makePair, SessionConfig.remotePeer]
  split
  next hlocal => rw [hlocal]; rfl
  next hlocal =>
    have hb : config.localPeer = .b := by
      cases hcase : config.localPeer with
      | a => exact absurd hcase hlocal
      | b => rfl
    rw [hb]
    rfl

/-- The accepted pairs are those of the script. -/
theorem acceptedPairs_eq {run : SessionRun} {s : Machine} {worlds : ℕ → WorldState}
    {used : ℕ → InputFrame} (h : Traces config script limit n c run s worlds used) {k : ℕ}
    {pairs : List InputPair} (hpairs : run.acceptedPairs config k = some pairs) :
    pairs = script.pairs k := by
  induction k generalizing pairs with
  | zero =>
    cases hpairs
    rfl
  | succ k ih =>
    simp only [SessionRun.acceptedPairs, SessionRun.acceptedPair, Option.bind_eq_bind,
      Option.bind_eq_some_iff, Option.some.injEq] at hpairs
    obtain ⟨before, hbefore, pair, ⟨loc, hloc, remote, hremote, rfl⟩, rfl⟩ := hpairs
    have hk : k < n := by
      have := (List.getElem?_eq_some_iff.1 hloc).1
      rwa [h.locals_eq, InputScript.length_locals] at this
    have hat : config.initialState.frame.plus k = ⟨UInt32.ofNat k⟩ := by
      rw [← config.origin_plus, Traces.origin_plus h.initial]
    rw [h.locals_eq, InputScript.getElem?_locals script _ hk] at hloc
    cases hloc
    rw [hat] at hremote
    rw [ih hbefore, (h.accepted _ _ hremote).1, makePair_eq, InputScript.pairs_succ]

theorem world_eq {run : SessionRun} {s : Machine} {worlds : ℕ → WorldState}
    {used : ℕ → InputFrame} (h : Traces config script limit n c run s worlds used) {k : ℕ}
    (hk : k ≤ c) : script.world config.variant k = .ok (worlds (256 + k)) := by
  obtain ⟨pairs, hpairs, hfold⟩ := h.refines.accepted_fold h.sound (n := k)
    (by rw [h.confirmed_eq]; omega)
  rw [acceptedPairs_eq h hpairs, h.initial] at hfold
  exact hfold

/-- A hash that is exposed is the hash of the script's world, which is exposed as well. -/
theorem hashAt (h : Follows config script limit n c session) (hn : n < 2 ^ 30)
    {boundary : FrameNumber} {hash : StateHash} (hhash : session.hashAt boundary = .ok hash) :
    ∃ k world, k ≤ c ∧ boundary = ⟨UInt32.ofNat k⟩ ∧ script.world config.variant k = .ok world ∧
      hash = hashCanonical world ∧ session.stateAt boundary = .ok world := by
  obtain ⟨run, s, worlds, used, rfl, ht⟩ := h
  have hlength : run.locals.length = n := by
    rw [ht.locals_eq, InputScript.length_locals]
  obtain ⟨k, hk, hboundary, hstate, hworld⟩ := ht.refines.hashAt ht.sound (by omega) hhash
  have hkc : k ≤ c := by
    rw [ht.confirmed_eq] at hk
    omega
  refine ⟨k, _, hkc, ?_, world_eq ht hkc, hworld, hstate⟩
  rw [hboundary, ← config.origin_plus, Traces.origin_plus ht.initial]

/-- The hash of a recent confirmed boundary is exposed. -/
theorem hashAt_ok (h : Follows config script limit n c session) {k : ℕ} (hk : k ≤ c)
    (hnear : n < k + 256) :
    ∃ hash, session.hashAt ⟨UInt32.ofNat k⟩ = .ok hash := by
  have hle := h.confirmed_le
  have hconfirmed := h.confirmedFrame_eq
  obtain ⟨run, s, worlds, used, rfl, ht⟩ := h
  have hcurrent := ht.current_eq
  have hget := ht.refines.simulated.hashes.full.get_eq (256 + k) (by omega) (by omega)
    (by simp only [kHistoryCapacity]; omega)
  rw [Traces.origin_plus ht.initial] at hget
  refine ⟨_, (if_neg ?_).trans hget⟩
  rw [hconfirmed, ← Traces.zero_plus, ← Traces.zero_plus, frameBefore_plus _ (by omega) (by omega)]
  omega

/-- The hash of the last boundary of a confirmed session. -/
theorem hashAt_last (h : Follows config script limit n n session) (hn : n < 2 ^ 30) :
    session.hashAt ⟨UInt32.ofNat n⟩ = .ok (hashCanonical (script.worldAt config.variant n)) := by
  obtain ⟨hash, hhash⟩ := h.hashAt_ok le_rfl (by omega)
  obtain ⟨k, world, hk, hboundary, hworld, hvalue, -⟩ := h.hashAt hn hhash
  have hkn : k = n := by
    have hsame := congrArg (fun frame => frame.value.toNat) hboundary
    simp only [UInt32.toNat_ofNat'] at hsame
    omega
  rw [hkn, script.world_eq config.variant hn] at hworld
  cases hworld
  rw [hhash, hvalue]

/-- Once every frame is confirmed the current world is the script's. -/
theorem final (h : Follows config script limit n n session) :
    script.world config.variant n = .ok session.state := by
  obtain ⟨run, s, worlds, used, rfl, ht⟩ := h
  rw [world_eq ht le_rfl, ht.refines.simulated.state_eq, ht.current_eq]

/-- While a match fits into the rings, every confirmed input is still there. -/
theorem confirmedInput (h : Follows config script limit n c session) (hn : n ≤ 256)
    (hlimit : limit ≤ 256) {k : ℕ} (hk : k < c) (player : PlayerId) :
    session.confirmedInput player ⟨UInt32.ofNat k⟩ = .ok (script.input player ⟨UInt32.ofNat k⟩) := by
  have hle := h.confirmed_le
  have hconfirmed := h.confirmedFrame_eq
  have hconfig := h.config_eq
  obtain ⟨run, s, worlds, used, rfl, ht⟩ := h
  have hcurrent := ht.current_eq
  have hbefore : frameBefore ⟨UInt32.ofNat k⟩ run.session.metrics.confirmedFrame = true := by
    rw [hconfirmed, ← Traces.zero_plus, ← Traces.zero_plus, frameBefore_plus _ (by omega) (by omega)]
    exact hk
  rw [RollbackSession.confirmedInput, if_neg (by rw [hbefore]; decide), hconfig]
  split
  next hlocal =>
    have hget := ht.refines.simulated.localInputs.get_eq (256 + k) (by omega) (by omega)
      (by simp only [kHistoryCapacity]; omega)
    have hloc := ht.refines.local_get (k := k) (by omega)
    rw [ht.locals_eq, InputScript.getElem?_locals script _ (by omega)] at hloc
    rw [Traces.origin_plus ht.initial] at hget
    rw [hget, hlocal, ht.locals_eq, ← Option.some.inj hloc]
  next hlocal =>
    have hremote : config.remotePeer = player := by
      rw [SessionConfig.remotePeer]
      cases hcase : config.localPeer <;> cases player <;> simp_all
    have hused := ht.sound.confirmed_accepted (256 + k) (by omega) (by rw [ht.confirmed_eq]; omega)
    have halone : ∀ j, (s.accepted j).isSome = true → j % 256 = (256 + k) % 256 → j = 256 + k := by
      intro j hj hslot
      have hj32 := ht.counted j hj
      rw [ht.refines.remembers.accepted_eq j hj32, Option.isSome_map] at hj
      obtain ⟨remote, hremote⟩ := Option.isSome_iff_exists.1 hj
      have hvalue := (ht.accepted _ _ hremote).2
      have horigin : config.origin.value.toNat = 2 ^ 32 - 256 := by
        rw [SessionConfig.origin, ht.initial]
        rfl
      rw [FrameNumber.plus_value_toNat, horigin] at hvalue
      omega
    have hretained := ht.truthful.retained _ _ hused halone
    rw [ht.refines.remembers.retained _ (by omega), Traces.origin_plus ht.initial] at hretained
    cases hget : run.session.storage.remoteInputs.get ⟨UInt32.ofNat k⟩ with
    | error e =>
      rw [hget] at hretained
      cases hretained
    | ok remote => rw [ht.ring _ _ hget, hremote]

end Follows

end RollbackLab
