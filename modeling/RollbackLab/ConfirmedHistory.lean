import RollbackLab.SessionRefinement

/-!
# The confirmed history

What a session exposes below its confirmed frame is the simulation of the inputs that
were given to it, whatever the order in which the remote ones arrived. Corrections never
fail, and under the guards of the session facade the confirmed frame is as high as the
arrivals allow.
-/

namespace RollbackLab

namespace SessionRun

/-- The inputs of the `k`-th frame: the local one it was advanced with and the remote one
accepted last. -/
def acceptedPair (config : SessionConfig) (run : SessionRun) (k : ℕ) : Option InputPair := do
  let loc ← run.locals[k]?
  let remote ← run.accepted (config.initialState.frame.plus k)
  some (config.makePair loc remote)

/-- The inputs of the first `n` frames, if all of them have been accepted. -/
def acceptedPairs (config : SessionConfig) (run : SessionRun) : ℕ → Option (List InputPair)
  | 0 => some []
  | n + 1 => do
    let pairs ← acceptedPairs config run n
    let pair ← acceptedPair config run n
    some (pairs ++ [pair])

end SessionRun

section History

variable {config : SessionConfig} {run : SessionRun} {s : Machine} {worlds : ℕ → WorldState}
  {used : ℕ → InputFrame}

/-- A count may be simulated with any remote input that has the buttons that were used. -/
theorem Refines.simulate_with (h : Refines config run s worlds used) (remote : InputFrame) {i : ℕ}
    (hfirst : 256 ≤ i) (hi : i < s.current)
    (hremote : remote.frame = config.origin.plus i ∧ remote.player = config.remotePeer)
    (hbuttons : remote.buttons = s.used i) :
    simulateFrame (worlds i) (worlds i).frame (config.makePair (localAt run.locals i) remote)
      config.variant = .ok (worlds (i + 1)) := by
  have hhistory := h.simulated.history
  have hframe := (hhistory.legal i hfirst hi.le).2.1
  have hloc := h.simulated.local_ok i hfirst hi
  have hsame := makePair_buttons config (localAt run.locals i)
    (hbuttons.trans (h.used_eq i hfirst hi))
  rw [hframe, ← hhistory.step i hfirst hi]
  exact simulateFrame_congr config.variant (config.makePair_match hframe hloc hremote)
    (config.makePair_match hframe hloc (hhistory.used_ok i hfirst hi)) hsame.1 hsame.2

theorem Refines.local_get (h : Refines config run s worlds used) {k : ℕ}
    (hk : 256 + k < s.current) : run.locals[k]? = some (localAt run.locals (256 + k)) := by
  have hlt : k < run.locals.length := by
    have := h.current_eq
    omega
  simp [localAt, hlt]

/-- Below the watermark the worlds are the simulation of the accepted inputs. -/
theorem Refines.accepted_fold (h : Refines config run s worlds used)
    (hs : Speculation.Sound 256 256 s) {n : ℕ} (hn : 256 + n ≤ s.confirmed) :
    ∃ pairs, run.acceptedPairs config n = some pairs ∧
      simulateAll config.variant config.initialState pairs = .ok (worlds (256 + n)) := by
  induction n with
  | zero => exact ⟨[], rfl, by rw [← h.simulated.history.initial]; rfl⟩
  | succ n ih =>
    obtain ⟨pairs, hpairs, hfold⟩ := ih (by omega)
    have hlt : 256 + n < s.current := lt_of_lt_of_le (by omega) hs.confirmed_le
    have hsmall := h.small
    have haccepted := h.remembers.accepted_eq (256 + n) (by omega)
    rw [hs.confirmed_accepted (256 + n) (by omega) (by omega)] at haccepted
    obtain ⟨remote, hremote, hbuttons⟩ := Option.map_eq_some_iff.1 haccepted.symm
    have hok := h.remembers.accepted_ok _ _ hremote
    have hpair : run.acceptedPair config n =
        some (config.makePair (localAt run.locals (256 + n)) remote) := by
      rw [SessionRun.acceptedPair, h.local_get hlt, ← config.origin_plus n, hremote]
      rfl
    refine ⟨_, by rw [SessionRun.acceptedPairs, hpairs, hpair]; rfl, ?_⟩
    exact simulateAll_append_ok hfold (h.simulate_with remote (by omega) hlt hok hbuttons)

/-- A hash that a session exposes is the hash of the world it exposes there, which is
the simulation of the accepted inputs. -/
theorem Refines.hashAt (h : Refines config run s worlds used) (hs : Speculation.Sound 256 256 s)
    (hsmall : run.locals.length < 2 ^ 30) {boundary : FrameNumber} {hash : StateHash}
    (hhash : run.session.hashAt boundary = .ok hash) :
    ∃ n, 256 + n ≤ s.confirmed ∧ boundary = config.initialState.frame.plus n ∧
      run.session.stateAt boundary = .ok (worlds (256 + n)) ∧
      hash = hashCanonical (worlds (256 + n)) := by
  have hcurrent := h.current_eq
  have hconfirmed := h.remembers.confirmed
  simp only [RollbackSession.hashAt] at hhash
  split at hhash
  · cases hhash
  rename_i hbelow
  obtain ⟨i, hfirst, hi, hnear, rfl⟩ := h.simulated.hashes.full.get_ok boundary hash hhash
  have hi : i ≤ s.current := Nat.le_of_lt_succ hi
  have hget := h.simulated.hashes.full.get_eq i hfirst (Nat.lt_succ_of_le hi) hnear
  have hik : i ≤ s.confirmed := by
    rw [hconfirmed, frameBefore_plus config.origin (by have := hs.first_le; omega)
      (by have := hs.confirmed_le; omega)] at hbelow
    omega
  obtain ⟨n, rfl⟩ : ∃ n, i = 256 + n := ⟨i - 256, by omega⟩
  refine ⟨n, hik, config.origin_plus n, ?_, Except.ok.inj (hhash.symm.trans hget)⟩
  rw [RollbackSession.stateAt, if_neg hbelow, h.frame_eq]
  rcases Nat.eq_or_lt_of_le hi with he | hlt
  · rw [he, if_pos rfl, h.simulated.state_eq]
  · have hne : config.origin.plus (256 + n) ≠ config.origin.plus s.current := fun he => by
      rw [FrameNumber.plus_inj (by omega) (by omega)] at he
      omega
    rw [if_neg hne]
    exact h.simulated.snapshots.full.get_eq (256 + n) hfirst hlt
      (by simp only [kHistoryCapacity] at *; omega)

end History

/-- Every hash a session exposes is the hash of the world it exposes there, and that
world is the fold of the simulation over the local inputs of the successful advances and
the remote inputs accepted last. -/
theorem hashAt_confirmed {config : SessionConfig} {run : SessionRun}
    (hinitial : config.initialState = { makeInitialWorld with frame := config.initialState.frame })
    (hwindow : config.maxRollbackFrames.toNat ≤ 120)
    (h : SessionRun.Reachable config (fun _ _ => True) run) (hsmall : run.locals.length < 2 ^ 30)
    {boundary : FrameNumber} {hash : StateHash}
    (hhash : run.session.hashAt boundary = .ok hash) :
    ∃ world n pairs, run.session.stateAt boundary = .ok world ∧ hash = hashCanonical world ∧
      n ≤ run.locals.length ∧ boundary = config.initialState.frame.plus n ∧
      run.acceptedPairs config n = some pairs ∧
      simulateAll config.variant config.initialState pairs = .ok world := by
  obtain ⟨s, worlds, used, hr, hs⟩ := (h.bounded hsmall).refines Speculation.Kept.sound hinitial
    (fun run loc hc => by have := hc.2; omega) (by
      intro run s worlds used remote i hr hc _ hi hframe hin hfirst hlt
      have hsmall := hr.small
      rw [hframe, hr.frame_eq, frameBefore_plus config.origin (by omega) (by omega),
        frameDistance_plus config.origin hlt.le (by omega)] at hin
      have := hin hlt
      omega)
  have hcurrent := hr.current_eq
  obtain ⟨n, hn, hboundary, hstate, hworld⟩ := hr.hashAt hs hsmall hhash
  obtain ⟨pairs, hpairs, hfold⟩ := hr.accepted_fold hs hn
  have hle := hn.trans hs.confirmed_le
  exact ⟨worlds (256 + n), n, pairs, hstate, hworld, by omega, hboundary, hpairs, hfold⟩

/-- A run whose guess for its first frame was wrong and has been corrected. -/
def correctedRun : SessionRun :=
  (((SessionRun.start {}).call (.advance ⟨⟨0⟩, .a, 0, 8⟩)).call
    (.ingestRemote ⟨⟨0⟩, .b, 0, 4⟩)).call .flushCorrections

theorem correctedRun_small : correctedRun.locals.length ≤ 3 :=
  SessionRun.locals_length_calls
    [.advance ⟨⟨0⟩, .a, 0, 8⟩, .ingestRemote ⟨⟨0⟩, .b, 0, 4⟩, .flushCorrections] (.start {})

theorem correctedRun_reachable : SessionRun.Reachable {} (fun _ _ => True) correctedRun :=
  .call _ (.call _ (.call _ .start trivial) trivial) trivial

theorem hashAt_confirmed_correctedRun : ∃ hash, correctedRun.session.hashAt ⟨1⟩ = .ok hash ∧
    ∃ world n pairs, correctedRun.session.stateAt ⟨1⟩ = .ok world ∧ hash = hashCanonical world ∧
      n ≤ correctedRun.locals.length ∧ (⟨1⟩ : FrameNumber) = FrameNumber.plus ⟨0⟩ n ∧
      correctedRun.acceptedPairs {} n = some pairs ∧
      simulateAll .canonical makeInitialWorld pairs = .ok world := by
  have hok : (correctedRun.session.hashAt ⟨1⟩).isOk = true := by decide +kernel
  cases hhash : correctedRun.session.hashAt ⟨1⟩ with
  | error e =>
    rw [hhash] at hok
    cases hok
  | ok hash =>
    have hlength : correctedRun.locals.length < 2 ^ 30 :=
      lt_of_le_of_lt correctedRun_small (by norm_num)
    exact ⟨hash, rfl, hashAt_confirmed rfl (by decide) correctedRun_reachable hlength hhash⟩

/-- No correction fails, none is empty or deeper than the window, none changes the current
frame, and an advance with the local input of the current frame succeeds. -/
theorem session_progress {config : SessionConfig} {run : SessionRun}
    (hinitial : config.initialState = { makeInitialWorld with frame := config.initialState.frame })
    (h : SessionRun.Reachable config (fun _ _ => True) run) (hsmall : run.locals.length < 2 ^ 30) :
    (∃ result next, run.session.flushCorrections = (.ok result, next) ∧
      next.state.frame = run.session.state.frame ∧
      (result.performed = true → 1 ≤ result.resimulatedFrames.toNat ∧
        result.resimulatedFrames.toNat ≤ config.maxRollbackFrames.toNat)) ∧
    ∀ loc : InputFrame, loc.frame = run.session.state.frame → loc.player = config.localPeer →
      ∃ result next, run.session.advance loc = (.ok result, next) ∧
        next.state.frame = nextFrame run.session.state.frame := by
  obtain ⟨s, worlds, used, hr, -⟩ := (h.bounded hsmall).refines (Speculation.Kept.trivial 0) hinitial
    (fun run loc hc => by have := hc.2; omega) (fun _ _ _ _ _ _ _ _ _ _ _ _ => trivial)
  constructor
  · obtain ⟨result, next, -, -, hrun, -, hframe, hdepth⟩ := hr.flush
    exact ⟨result, next, hrun, hframe, hdepth⟩
  · intro loc hframe hplayer
    obtain ⟨ready, -, -, hcase⟩ := hr.advance (by omega) loc
    rcases hcase with ⟨-, -, result, next, -, -, hrun, -, hnext⟩ | ⟨hmismatch, -⟩
    · exact ⟨result, next, hrun, hnext⟩
    · exact absurd ⟨hframe, hplayer⟩ hmismatch

/-- The same run before its correction. -/
def pendingRun : SessionRun :=
  ((SessionRun.start {}).call (.advance ⟨⟨0⟩, .a, 0, 8⟩)).call (.ingestRemote ⟨⟨0⟩, .b, 0, 4⟩)

theorem pendingRun_small : pendingRun.locals.length < 2 ^ 30 :=
  lt_of_le_of_lt (SessionRun.locals_length_calls
    [.advance ⟨⟨0⟩, .a, 0, 8⟩, .ingestRemote ⟨⟨0⟩, .b, 0, 4⟩] (.start {})) (by decide)

theorem session_progress_pendingRun :
    (∃ result next, pendingRun.session.flushCorrections = (.ok result, next) ∧
      next.state.frame = pendingRun.session.state.frame ∧
      (result.performed = true → 1 ≤ result.resimulatedFrames.toNat ∧
        result.resimulatedFrames.toNat ≤ kDefaultMaxRollbackFrames.toNat)) ∧
    ∀ loc : InputFrame, loc.frame = pendingRun.session.state.frame → loc.player = .a →
      ∃ result next, pendingRun.session.advance loc = (.ok result, next) ∧
        next.state.frame = nextFrame pendingRun.session.state.frame := by
  have hreach : SessionRun.Reachable {} (fun _ _ => True) pendingRun :=
    .call _ (.call _ .start trivial) trivial
  exact session_progress rfl hreach pendingRun_small

/-! ## The watermark under the facade's guards -/

/-- The facade refuses remote inputs for frames after the current one. -/
def facadeGuard (run : SessionRun) (c : SessionCall) : Prop :=
  ∀ remote, c = .ingestRemote remote → remote.frame = run.session.state.frame ∨
    frameBefore remote.frame run.session.state.frame = true

/-- The least frame number that is the current frame or was never accepted. -/
def SessionRun.firstGap (run : SessionRun) : ℕ :=
  Nat.find (p := fun n => ⟨UInt32.ofNat n⟩ = run.session.state.frame ∨
    run.accepted ⟨UInt32.ofNat n⟩ = none)
    ⟨run.session.state.frame.value.toNat, Or.inl (by simp)⟩

/-- The confirmed frame is the first gap, or the earliest dirty frame if that is lower. -/
theorem confirmed_exact {config : SessionConfig} {run : SessionRun}
    (hinitial : config.initialState = makeInitialWorld)
    (hwindow : 1 ≤ config.maxRollbackFrames.toNat ∧ config.maxRollbackFrames.toNat ≤ 120)
    (h : SessionRun.Reachable config facadeGuard run) (hsmall : run.locals.length < 2 ^ 30) :
    (run.session.earliestDirty = none →
      run.session.metrics.confirmedFrame.value.toNat = run.firstGap) ∧
    ∀ dirty, run.session.earliestDirty = some dirty →
      run.session.metrics.confirmedFrame.value.toNat = min run.firstGap dirty.value.toNat := by
  have hstart : config.initialState.frame = ⟨0⟩ := by
    rw [hinitial]
    rfl
  obtain ⟨s, worlds, used, hr, hs, he⟩ := (h.bounded hsmall).refines
    (Speculation.Kept.exact (by norm_num)) (by rw [hinitial])
    (fun run loc hc => by have := hc.2; omega) (by
      intro run s worlds used remote i hr hc _ hi hframe hin
      have hsmall := hr.small
      have hcurrent := hr.current_eq
      rcases hc.1 remote rfl with heq | hlate
      · rw [hframe, hr.frame_eq, FrameNumber.plus_inj hi (by omega)] at heq
        omega
      · have hdepth := hin hlate
        rw [hframe, hr.frame_eq, frameBefore_iff_toNat] at hlate
        rw [hframe, hr.frame_eq] at hdepth
        simp only [frameDistance, UInt32.toNat_sub, FrameNumber.plus_value_toNat] at hlate hdepth
        omega)
  have hcurrent := hr.current_eq
  have hvalue : ∀ k, config.origin.plus (256 + k) = ⟨UInt32.ofNat k⟩ := by
    intro k
    rw [config.origin_plus, hstart]
    apply FrameNumber.ext
    simp
  have hcount : ∀ k, k ≤ run.locals.length → ((⟨UInt32.ofNat k⟩ : FrameNumber) =
      run.session.state.frame ∨ run.accepted ⟨UInt32.ofNat k⟩ = none ↔
      256 + k = s.current ∨ s.accepted (256 + k) = none) := by
    intro k hk
    rw [hr.frame_eq, ← hvalue k, FrameNumber.plus_inj (by omega) (by omega),
      hr.remembers.accepted_eq (256 + k) (by omega), Option.map_eq_none_iff]
  have hgap := Nat.find_spec (p := fun n => ⟨UInt32.ofNat n⟩ = run.session.state.frame ∨
    run.accepted ⟨UInt32.ofNat n⟩ = none)
    ⟨run.session.state.frame.value.toNat, Or.inl (by simp)⟩
  have hleast : ∀ k < run.firstGap, ¬ (⟨UInt32.ofNat k⟩ = run.session.state.frame ∨
    run.accepted ⟨UInt32.ofNat k⟩ = none) := fun k hk => Nat.find_min _ hk
  change (⟨UInt32.ofNat run.firstGap⟩ : FrameNumber) = run.session.state.frame ∨
    run.accepted ⟨UInt32.ofNat run.firstGap⟩ = none at hgap
  have hbound : run.firstGap ≤ run.locals.length := by
    by_contra hlt
    exact hleast run.locals.length (by omega) ((hcount _ le_rfl).2 (Or.inl hcurrent.symm))
  have hconfirmed := he.confirmed_eq hs (m := 256 + run.firstGap) (by omega) (by omega)
    (fun i hf hi hnone => by
      obtain ⟨k, rfl⟩ : ∃ k, i = 256 + k := ⟨i - 256, by omega⟩
      exact hleast k (by omega) ((hcount k (by omega)).2 (Or.inr hnone)))
    ((hcount _ hbound).1 hgap)
  have hdirty := hr.remembers.dirty
  rw [hr.remembers.confirmed, hconfirmed, hdirty]
  cases hd : s.dirty with
  | none =>
    refine ⟨fun _ => ?_, fun dirty hk => (by cases hk)⟩
    rw [Option.getD_none, min_self, hvalue]
    simp only [UInt32.toNat_ofNat']
    omega
  | some j =>
    refine ⟨fun hk => (by cases hk), fun dirty hk => ?_⟩
    obtain ⟨hfirst, hlt, -⟩ := hr.remembers.dirty_window j hd
    obtain ⟨k, rfl⟩ : ∃ k, j = 256 + k := ⟨j - 256, by omega⟩
    obtain rfl := Option.some.inj hk
    rw [Option.getD_some, Nat.add_min_add_left, hvalue, hvalue]
    simp only [UInt32.toNat_ofNat']
    omega

theorem confirmed_exact_pendingRun :
    (pendingRun.session.earliestDirty = none →
      pendingRun.session.metrics.confirmedFrame.value.toNat = pendingRun.firstGap) ∧
    ∀ dirty, pendingRun.session.earliestDirty = some dirty →
      pendingRun.session.metrics.confirmedFrame.value.toNat =
        min pendingRun.firstGap dirty.value.toNat := by
  have hadvanced : SessionRun.Reachable {} facadeGuard
      ((SessionRun.start {}).call (.advance ⟨⟨0⟩, .a, 0, 8⟩)) :=
    .call _ .start (fun remote hc => by cases hc)
  have hreach : SessionRun.Reachable {} facadeGuard pendingRun := by
    refine .call _ hadvanced (fun remote hc => Or.inr ?_)
    cases hc
    decide +kernel
  exact confirmed_exact rfl (by decide) hreach pendingRun_small

end RollbackLab
