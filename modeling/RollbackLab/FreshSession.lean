import RollbackLab.HonestDriver
import RollbackLab.LiveScenario
import RollbackLab.SpeculativeWorld

/-!
# Sessions that a driver takes for new

A driver judges a session by the world it reports, while an input from the other peer
changes the session and not that world. What has been ingested is noticed later: the
frame it is meant for is simulated without a prediction.
-/

namespace RollbackLab

/-- What a call of a session answers. -/
inductive CallResult where
  | advanced (result : Result AdvanceResult)
  | ingested (result : Result Unit)
  | flushed (result : Result CorrectionResult)

/-- The calls that a new session refuses, and those that find nothing to do. -/
def SessionConfig.Ignores (config : SessionConfig) : SessionCall → Prop
  | .advance loc => loc.frame ≠ config.initialState.frame ∨ loc.player ≠ config.localPeer
  | .ingestRemote remote =>
    remote.player ≠ config.remotePeer ∨
      frameBefore remote.frame config.initialState.frame = true ∧
        config.maxRollbackFrames < frameDistance remote.frame config.initialState.frame
  | .flushCorrections => True

namespace RollbackSession

def answer (session : RollbackSession) : SessionCall → CallResult × RollbackSession
  | .advance loc => (.advanced (session.advance loc).1, (session.advance loc).2)
  | .ingestRemote remote => (.ingested (session.ingestRemote remote).1, (session.ingestRemote remote).2)
  | .flushCorrections => (.flushed session.flushCorrections.1, session.flushCorrections.2)

/-- The session after some calls. -/
def after (session : RollbackSession) (calls : List SessionCall) : RollbackSession :=
  calls.foldl (fun session call => (session.answer call).2) session

/-- Whatever is called from now on, the two sessions answer, report and can be asked for
the same. -/
structure Indistinguishable (session other : RollbackSession) : Prop where
  result : ∀ calls call, ((session.after calls).answer call).1 = ((other.after calls).answer call).1
  report : ∀ calls, (session.after calls).report = (other.after calls).report
  confirmedInput : ∀ calls player frame,
    (session.after calls).confirmedInput player frame = (other.after calls).confirmedInput player frame
  hashAt : ∀ calls boundary,
    (session.after calls).hashAt boundary = (other.after calls).hashAt boundary
  stateAt : ∀ calls boundary,
    (session.after calls).stateAt boundary = (other.after calls).stateAt boundary

theorem Indistinguishable.refl (session : RollbackSession) : Indistinguishable session session :=
  ⟨fun _ _ => rfl, fun _ => rfl, fun _ _ _ => rfl, fun _ _ => rfl, fun _ _ => rfl⟩

theorem after_concat (session : RollbackSession) (calls : List SessionCall) (call : SessionCall) :
    session.after (calls ++ [call]) = ((session.after calls).answer call).2 := List.foldl_concat ..

theorem searchRemote_empty (neutral : InputFrame) (frame : FrameNumber) (remaining offset : ℕ) :
    searchRemote .empty neutral frame remaining offset = neutral := by
  induction remaining generalizing offset with
  | zero => rfl
  | succ remaining ih =>
    rw [searchRemote, FrameRing.get_empty]
    exact ih (offset + 1)

/-! ## What is ingested stays -/

/-- A frame is simulated with a prediction exactly when no remote input is held for it. -/
theorem advanceClean_predicted {session next : RollbackSession} {loc : InputFrame}
    {result : AdvanceResult} (h : session.advanceClean loc = (.ok result, next)) :
    result.simulatedFrame = session.state.frame ∧
      result.predictedRemote = !(session.storage.remoteInputs.get result.simulatedFrame).isOk := by
  by_cases hmatch : loc.frame = session.state.frame ∧ loc.player = session.config.localPeer
  · rw [advanceClean, if_neg (by tauto)] at h
    simp only [FrameRing.put_fst] at h
    split at h
    · cases h
    · cases h
      exact ⟨rfl, rfl⟩
  · rw [advanceClean_mismatch hmatch] at h
    cases h

theorem advance_predicted {session next : RollbackSession} {loc : InputFrame} {result : AdvanceResult}
    (h : session.advance loc = (.ok result, next)) :
    result.predictedRemote = !(session.storage.remoteInputs.get result.simulatedFrame).isOk := by
  rw [advance] at h
  split at h
  · have hring := flushCorrections_remoteInputs session
    rcases hflush : session.flushCorrections with ⟨e | _, flushed⟩
    · rw [hflush] at h
      cases h
    · rw [hflush] at h hring
      rw [(advanceClean_predicted h).2, hring]
  · exact (advanceClean_predicted h).2

theorem ingestRemote_refused {session next : RollbackSession} {remote : InputFrame} {e : Error}
    (h : session.ingestRemote remote = (.error e, next)) : next = session := by
  rw [ingestRemote] at h
  split at h
  · cases h
    rfl
  · dsimp only at h
    split at h
    · cases h
      rfl
    · cases h

/-- Some remote input is held. -/
def Informed (session : RollbackSession) : Prop :=
  ∃ frame remote, session.storage.remoteInputs.get frame = .ok remote

/-- An input that was accepted takes the slot of another one at most. -/
theorem Informed.answer {session : RollbackSession} (h : session.Informed) (call : SessionCall) :
    (session.answer call).2.Informed := by
  obtain ⟨frame, remote, hget⟩ := h
  cases call with
  | advance loc =>
    refine ⟨frame, remote, ?_⟩
    change (session.advance loc).2.storage.remoteInputs.get frame = _
    rw [advance_remoteInputs, hget]
  | ingestRemote new =>
    change (session.ingestRemote new).2.Informed
    rcases hcall : session.ingestRemote new with ⟨e | _, next⟩
    · refine ⟨frame, remote, ?_⟩
      rw [ingestRemote_refused hcall, hget]
    · exact ⟨new.frame, new, by rw [ingestRemote_remoteInputs hcall, FrameRing.get_put_self]⟩
  | flushCorrections =>
    refine ⟨frame, remote, ?_⟩
    change session.flushCorrections.2.storage.remoteInputs.get frame = _
    rw [flushCorrections_remoteInputs, hget]

/-! ## A session that no remote input has reached -/

/-- What holds of a session after `k` frames of its own, as long as no remote input has been
accepted. -/
structure Solo (config : SessionConfig) (k : ℕ) (session : RollbackSession) : Prop where
  config_eq : session.config = config
  remoteInputs : session.storage.remoteInputs = .empty
  dirty : session.earliestDirty = none
  confirmed : session.metrics.confirmedFrame = ⟨0⟩
  frame : session.state.frame = ⟨UInt32.ofNat k⟩
  hashes : ∃ hash, session.storage.hashes.get ⟨UInt32.ofNat k⟩ = .ok hash
  previous : 0 < k → ∃ hash, session.storage.hashes.get ⟨UInt32.ofNat k - 1⟩ = .ok hash

namespace Solo

variable {config : SessionConfig} {session : RollbackSession} {k : ℕ}

theorem confirmFrom (h : Solo config k session) (rounds : ℕ) (boundary : FrameNumber) :
    session.confirmFrom rounds boundary = boundary := by
  have hnone : session.storage.remoteInputs.contains boundary = false := by
    rw [h.remoteInputs]
    simp [FrameRing.contains, FrameRing.empty]
  cases rounds with
  | zero => rfl
  | succ rounds => rw [RollbackSession.confirmFrom, hnone, Bool.and_false, if_neg (by simp)]

/-- Nothing is confirmed without the other peer. -/
theorem updateConfirmation (h : Solo config k session) : session.updateConfirmation = session := by
  rw [RollbackSession.updateConfirmation, h.confirmFrom]

omit session in
/-- The slot of the frame before is another one. -/
theorem get_put_next (ring : FrameRing StateHash kHistoryCapacity) (k : ℕ) (hash : StateHash) :
    (ring.put ⟨UInt32.ofNat (k + 1)⟩ hash).2.get ⟨UInt32.ofNat k⟩ = ring.get ⟨UInt32.ofNat k⟩ := by
  have hslot : ¬ frameRingIndex (⟨UInt32.ofNat k⟩ : FrameNumber) kHistoryCapacity =
      frameRingIndex ⟨UInt32.ofNat (k + 1)⟩ kHistoryCapacity := by
    rw [← Traces.zero_plus, ← Traces.zero_plus, frameRingIndex_plus kHistoryCapacity_dvd]
    simp only [kHistoryCapacity]
    omega
  rw [FrameRing.get_put, if_neg hslot, if_neg]
  intro heq
  exact hslot (congrArg (frameRingIndex · kHistoryCapacity) heq)

theorem start (hinitial : config.initialState = makeInitialWorld) :
    Solo config 0 (.create config) := by
  have hframe : config.initialState.frame = ⟨UInt32.ofNat 0⟩ := by
    rw [hinitial]
    rfl
  refine ⟨rfl, rfl, rfl, hframe, hframe, ⟨hashCanonical config.initialState, ?_⟩,
    fun h => absurd h (lt_irrefl 0)⟩
  change (FrameRing.empty.put config.initialState.frame _).2.get _ = _
  rw [hframe, FrameRing.get_put_self]

theorem remoteFor (h : Solo config k session) (frame : FrameNumber) :
    session.remoteFor frame = ⟨frame, config.remotePeer, 0, 0⟩ := by
  have hget : session.storage.remoteInputs.get frame = .error (FrameRing.staleError frame) := by
    rw [h.remoteInputs]
    exact FrameRing.get_empty frame
  rw [remoteFor_of_error hget, predictedRemote, h.remoteInputs, searchRemote_empty, h.config_eq]

theorem flushCorrections (h : Solo config k session) :
    session.flushCorrections = (.ok {}, session) := by
  rw [RollbackSession.flushCorrections, h.dirty]
  exact Prod.ext rfl h.updateConfirmation

/-- A frame of its own, with nothing known of the other peer's input. -/
theorem advance (h : Solo config k session) {loc : InputFrame} (hframe : loc.frame = ⟨UInt32.ofNat k⟩)
    (hplayer : loc.player = config.localPeer) {world : WorldState}
    (hsim : simulateFrame session.state ⟨UInt32.ofNat k⟩
      (config.makePair loc ⟨⟨UInt32.ofNat k⟩, config.remotePeer, 0, 0⟩) config.variant = .ok world) :
    ∃ result next, session.advance loc = (.ok result, next) ∧ Solo config (k + 1) next ∧
      next.state = world := by
  have hready : simulateFrame session.state session.state.frame
      (session.config.makePair loc (session.remoteFor session.state.frame)) session.config.variant =
        .ok world := by
    rw [h.remoteFor, h.config_eq, h.frame, hsim]
  obtain ⟨result, metrics, hconfirmed, hadvance⟩ :=
    advanceClean_ok (hframe.trans h.frame.symm)
      (hplayer.trans (congrArg SessionConfig.localPeer h.config_eq).symm) hready
  have hworld : world.frame = ⟨UInt32.ofNat (k + 1)⟩ := by
    rw [(simulateFrame_frame hsim).2, nextFrame_ofNat]
  have hback : UInt32.ofNat (k + 1) - 1 = UInt32.ofNat k := by
    rw [UInt32.ofNat_add]
    exact UInt32.add_sub_cancel _ _
  set next := session.advanced loc (session.remoteFor session.state.frame) world metrics with hnext
  have hsolo : Solo config (k + 1) next := by
    refine ⟨h.config_eq, h.remoteInputs, h.dirty, hconfirmed.trans h.confirmed, hworld,
      ⟨hashCanonical world, ?_⟩, fun _ => ?_⟩
    · change (session.storage.hashes.put world.frame _).2.get _ = _
      rw [hworld, FrameRing.get_put_self]
    · obtain ⟨hash, hhash⟩ := h.hashes
      refine ⟨hash, ?_⟩
      change (session.storage.hashes.put world.frame _).2.get _ = _
      rw [hback, hworld, get_put_next, hhash]
  refine ⟨result, next, ?_, hsolo, rfl⟩
  rw [RollbackSession.advance, h.dirty, hadvance, hsolo.updateConfirmation]
  rfl

/-- A frame that cannot be simulated leaves traces in the rings only. -/
theorem advance_failed (h : Solo config k session) {loc : InputFrame}
    (hframe : loc.frame = session.state.frame) (hplayer : loc.player = session.config.localPeer)
    {e : Error} (hsim : simulateFrame session.state session.state.frame
      (session.config.makePair loc (session.remoteFor session.state.frame)) session.config.variant =
        .error e) : Solo config k (session.advance loc).2 := by
  obtain ⟨next, hnext, hconfig, hstate, hdirty, hconfirmed, hremote, hhashes⟩ :=
    advanceClean_error hframe hplayer hsim
  rw [RollbackSession.advance, h.dirty]
  change Solo config k (session.advanceClean loc).2
  rw [hnext]
  exact ⟨hconfig.trans h.config_eq, hremote.trans h.remoteInputs, hdirty.trans h.dirty,
    hconfirmed.trans h.confirmed, hstate ▸ h.frame, hhashes ▸ h.hashes, hhashes ▸ h.previous⟩

/-- Any call lets the session be told, or leaves it as far as it was or further. -/
theorem answer (h : Solo config k session) (hpos : 0 < k) (call : SessionCall) :
    (session.answer call).2.Informed ∨ ∃ k' > 0, Solo config k' (session.answer call).2 := by
  cases call with
  | advance loc =>
    right
    change ∃ k' > 0, Solo config k' (session.advance loc).2
    by_cases hmatch : loc.frame = session.state.frame ∧ loc.player = session.config.localPeer
    · cases hsim : simulateFrame session.state session.state.frame
          (session.config.makePair loc (session.remoteFor session.state.frame))
          session.config.variant with
      | error e => exact ⟨k, hpos, h.advance_failed hmatch.1 hmatch.2 hsim⟩
      | ok world =>
        rw [h.remoteFor, h.config_eq, h.frame] at hsim
        obtain ⟨result, next, hadvance, hnext, -⟩ :=
          h.advance (hmatch.1.trans h.frame)
            (hmatch.2.trans (congrArg SessionConfig.localPeer h.config_eq)) hsim
        rw [hadvance]
        exact ⟨k + 1, k.succ_pos, hnext⟩
    · rw [RollbackSession.advance, h.dirty]
      change ∃ k' > 0, Solo config k' (session.advanceClean loc).2
      rw [advanceClean_mismatch hmatch]
      exact ⟨k, hpos, h⟩
  | ingestRemote remote =>
    change (session.ingestRemote remote).2.Informed ∨ ∃ k' > 0, Solo config k' (session.ingestRemote remote).2
    rcases hcall : session.ingestRemote remote with ⟨e | _, next⟩
    · rw [ingestRemote_refused hcall]
      exact Or.inr ⟨k, hpos, h⟩
    · exact Or.inl ⟨remote.frame, remote, by rw [ingestRemote_remoteInputs hcall, FrameRing.get_put_self]⟩
  | flushCorrections =>
    right
    change ∃ k' > 0, Solo config k' session.flushCorrections.2
    rw [h.flushCorrections]
    exact ⟨k, hpos, h⟩

end Solo

/-! ## New sessions -/

variable {config : SessionConfig}

theorem create_ignores (hinitial : config.initialState = makeInitialWorld) {call : SessionCall}
    (h : config.Ignores call) : ((create config).answer call).2 = create config := by
  cases call with
  | advance loc =>
    change ((create config).advanceClean loc).2 = _
    have hmismatch : ¬(loc.frame = (create config).state.frame ∧
        loc.player = (create config).config.localPeer) := by
      rw [not_and_or]
      exact h
    rw [advanceClean_mismatch hmismatch]
  | ingestRemote remote =>
    change ((create config).ingestRemote remote).2 = _
    rw [ingestRemote]
    split
    · rfl
    · rename_i hplayer
      dsimp only
      rw [if_pos]
      exact h.resolve_left hplayer
  | flushCorrections =>
    change (create config).flushCorrections.2 = _
    rw [(Solo.start hinitial).flushCorrections]

/-- A new session takes the input of its first frame. -/
theorem create_advances (hinitial : config.initialState = makeInitialWorld) {loc : InputFrame}
    (h : ¬config.Ignores (.advance loc)) :
    ∃ result next, (create config).advance loc = (.ok result, next) ∧ Solo config 1 next := by
  have hstart := Solo.start hinitial
  simp only [SessionConfig.Ignores, not_or, not_not] at h
  have hframe : loc.frame = ⟨UInt32.ofNat 0⟩ := h.1.trans hstart.frame
  have hmatch : inputsMatch makeInitialWorld ⟨UInt32.ofNat 0⟩
      (config.makePair loc ⟨⟨UInt32.ofNat 0⟩, config.remotePeer, 0, 0⟩) = true :=
    config.makePair_match rfl ⟨hframe, h.2⟩ ⟨rfl, rfl⟩
  obtain ⟨world, hworld, -⟩ :=
    LegalWorld.makeInitialWorld.simulateFrame_ok hmatch config.variant (by decide)
  rw [← hinitial] at hworld
  obtain ⟨result, next, hadvance, hnext, -⟩ := hstart.advance hframe h.2 hworld
  exact ⟨result, next, hadvance, hnext⟩

/-- Whatever a new session does not ignore changes it for good. -/
theorem create_changes (hinitial : config.initialState = makeInitialWorld) {call : SessionCall}
    (h : ¬config.Ignores call) : ((create config).answer call).2.Informed ∨
      ∃ k > 0, Solo config k ((create config).answer call).2 := by
  cases call with
  | advance loc =>
    right
    obtain ⟨result, next, hadvance, hnext⟩ := create_advances hinitial h
    change ∃ k > 0, Solo config k ((create config).advance loc).2
    rw [hadvance]
    exact ⟨1, one_pos, hnext⟩
  | ingestRemote remote =>
    left
    simp only [SessionConfig.Ignores, not_or, not_not] at h
    have hcall := @ingestRemote_ok (create config) remote h.1 h.2
    refine ⟨remote.frame, remote, ?_⟩
    change ((create config).ingestRemote remote).2.storage.remoteInputs.get _ = _
    rw [hcall]
    exact (congrArg (FrameRing.get · remote.frame) (ingestRemote_remoteInputs hcall)).trans
      (FrameRing.get_put_self ..)
  | flushCorrections => exact absurd trivial h

/-- What a history can make of a new session. -/
theorem after_cases (hinitial : config.initialState = makeInitialWorld) (calls : List SessionCall) :
    (∀ call ∈ calls, config.Ignores call) ∧ (create config).after calls = create config ∨
      (¬∀ call ∈ calls, config.Ignores call) ∧ (((create config).after calls).Informed ∨
        ∃ k > 0, Solo config k ((create config).after calls)) := by
  induction calls using List.reverseRecOn with
  | nil => exact Or.inl ⟨fun call hcall => absurd hcall List.not_mem_nil, rfl⟩
  | append_singleton calls call ih =>
    rw [after_concat]
    simp only [List.forall_mem_append, List.forall_mem_singleton]
    rcases ih with ⟨hall, hfresh⟩ | ⟨hsome, hinformed | ⟨k, hpos, hsolo⟩⟩
    · rw [hfresh]
      by_cases hcall : config.Ignores call
      · exact Or.inl ⟨⟨hall, hcall⟩, create_ignores hinitial hcall⟩
      · exact Or.inr ⟨fun h => hcall h.2, create_changes hinitial hcall⟩
    · exact Or.inr ⟨fun h => hsome h.1, Or.inl (hinformed.answer call)⟩
    · exact Or.inr ⟨fun h => hsome h.1, hsolo.answer hpos call⟩

/-! ## Telling them apart -/

def idleInput (config : SessionConfig) (k : ℕ) : InputFrame :=
  ⟨⟨UInt32.ofNat k⟩, config.localPeer, 0, 0⟩

def idleCalls (config : SessionConfig) (n : ℕ) : List SessionCall :=
  (List.range n).map fun k => .advance (idleInput config k)

theorem idleCalls_succ (config : SessionConfig) (n : ℕ) :
    idleCalls config (n + 1) = idleCalls config n ++ [.advance (idleInput config n)] := by
  rw [idleCalls, List.range_succ, List.map_append]
  rfl

theorem Solo.advance_idle {session : RollbackSession} {k : ℕ} (h : Solo config k session)
    (hstate : session.state = quietWorld k) :
    ∃ result next, session.advance (idleInput config k) = (.ok result, next) ∧
      Solo config (k + 1) next ∧ next.state = quietWorld (k + 1) := by
  have hmatch : inputsMatch (quietWorld k) ⟨UInt32.ofNat k⟩
      (config.makePair (idleInput config k) ⟨⟨UInt32.ofNat k⟩, config.remotePeer, 0, 0⟩) = true :=
    config.makePair_match rfl ⟨rfl, rfl⟩ ⟨rfl, rfl⟩
  have hquiet : ∀ id, (inputFor (config.makePair (idleInput config k)
      ⟨⟨UInt32.ofNat k⟩, config.remotePeer, 0, 0⟩) id).buttons = 0 := by
    intro id
    rw [SessionConfig.makePair]
    split <;> cases id <;> rfl
  have hsim := (resting_quietWorld k).simulateFrame hmatch hquiet config.variant
  rw [nextFrame_ofNat, ← hstate] at hsim
  obtain ⟨result, next, hadvance, hnext, hworld⟩ := h.advance rfl rfl hsim
  refine ⟨result, next, hadvance, hnext, ?_⟩
  rw [hworld, hstate]
  rfl

/-- A new session in which nobody presses a button predicts every frame. -/
theorem Solo.idle (hinitial : config.initialState = makeInitialWorld) (n : ℕ) :
    Solo config n ((create config).after (idleCalls config n)) ∧
      ((create config).after (idleCalls config n)).state = quietWorld n := by
  induction n with
  | zero => exact ⟨start hinitial, hinitial⟩
  | succ n ih =>
    obtain ⟨hsolo, hstate⟩ := ih
    obtain ⟨result, next, hadvance, hnext⟩ := hsolo.advance_idle hstate
    rw [idleCalls_succ, after_concat]
    change Solo config (n + 1) (RollbackSession.advance _ _).2 ∧
      (RollbackSession.advance _ _).2.state = _
    rw [hadvance]
    exact hnext

theorem idleCalls_remoteInputs (session : RollbackSession) (n : ℕ) :
    (session.after (idleCalls config n)).storage.remoteInputs = session.storage.remoteInputs := by
  induction n with
  | zero => rfl
  | succ n ih =>
    rw [idleCalls_succ, after_concat, ← ih]
    exact advance_remoteInputs ..

/-- A session that holds an input does not predict that frame. -/
theorem Informed.distinguishable (hinitial : config.initialState = makeInitialWorld)
    {session : RollbackSession} (h : session.Informed) :
    ¬session.Indistinguishable (create config) := by
  obtain ⟨frame, remote, hget⟩ := h
  intro hsame
  set n := frame.value.toNat with hn
  have hframe : (⟨UInt32.ofNat n⟩ : FrameNumber) = frame := by rw [hn, UInt32.ofNat_toNat]
  obtain ⟨hsolo, hstate⟩ := Solo.idle hinitial n
  obtain ⟨result, next, hadvance, -⟩ := hsolo.advance_idle hstate
  have hclean := hadvance
  rw [RollbackSession.advance, hsolo.dirty] at hclean
  have hsimulated := (advanceClean_predicted hclean).1
  rw [hsolo.frame, hframe] at hsimulated
  have hpredicted := advance_predicted hadvance
  rw [hsolo.remoteInputs, hsimulated, FrameRing.get_empty] at hpredicted
  have hresult := hsame.result (idleCalls config n) (.advance (idleInput config n))
  change CallResult.advanced (RollbackSession.advance _ _).1 =
    CallResult.advanced (RollbackSession.advance _ _).1 at hresult
  rw [hadvance, CallResult.advanced.injEq] at hresult
  rcases hcall : (session.after (idleCalls config n)).advance (idleInput config n) with ⟨answer, left⟩
  rw [hcall] at hresult
  cases hresult
  have hother := advance_predicted hcall
  rw [idleCalls_remoteInputs, hsimulated, hget, hpredicted] at hother
  cases hother

/-- A session that has gone through frames remembers the last boundary. -/
theorem Solo.distinguishable (hinitial : config.initialState = makeInitialWorld)
    {session : RollbackSession} {k : ℕ} (h : Solo config k session) (hpos : 0 < k) :
    ¬session.Indistinguishable (create config) := by
  intro hsame
  obtain ⟨hash, hhash⟩ := h.previous hpos
  have hreport := congrArg (fun report : SessionReport => report.state.frame.value) (hsame.report [])
  change session.state.frame.value = config.initialState.frame.value at hreport
  have hzero : UInt32.ofNat k = 0 := by
    rw [h.frame, hinitial] at hreport
    exact hreport
  rw [hzero] at hhash
  have hlast : session.hashAt ⟨0 - 1⟩ = .ok hash := by
    rw [hashAt, h.confirmed, if_neg (by decide), hhash]
  have hnew : (create config).hashAt ⟨0 - 1⟩ = .error (FrameRing.staleError ⟨0 - 1⟩) := by
    have hframe : config.initialState.frame = ⟨0⟩ := by
      rw [hinitial]
      rfl
    change (if frameBefore config.initialState.frame ⟨0 - 1⟩ then _
      else (FrameRing.empty.put config.initialState.frame (hashCanonical config.initialState)).2.get _) = _
    rw [hframe, if_neg (by decide), FrameRing.get_put, if_neg (by decide), if_neg (by decide),
      FrameRing.get_empty]
  have hboth := hsame.hashAt [] ⟨0 - 1⟩
  change session.hashAt _ = (create config).hashAt _ at hboth
  rw [hlast, hnew] at hboth
  cases hboth

/-- A session is as good as new exactly when every call before was ignored. -/
theorem indistinguishable_iff (hinitial : config.initialState = makeInitialWorld)
    (calls : List SessionCall) :
    ((create config).after calls).Indistinguishable (create config) ↔
      ∀ call ∈ calls, config.Ignores call := by
  rcases after_cases hinitial calls with ⟨hall, hfresh⟩ | ⟨hsome, hinformed | ⟨k, hpos, hsolo⟩⟩
  · rw [hfresh]
    exact iff_of_true (.refl _) hall
  · exact iff_of_false (hinformed.distinguishable hinitial) hsome
  · exact iff_of_false (hsolo.distinguishable hinitial hpos) hsome

end RollbackSession

/-! ## What the drivers accept -/

open RollbackSession (create)

/-- A scenario takes the session on as one of its peers, or a driver does whose socket binds. -/
def DriverAccepts (session : RollbackSession) : Prop :=
  (∃ config other, (LiveScenario.create config session other).isOk = true ∨
    (LiveScenario.create config other session).isOk = true) ∨
  ∃ config, (PeerDriver.create config session (.ok ())).isOk = true

/-- A session that a driver accepts is as good as new exactly when every call before was
ignored. -/
theorem drivers_accept_fresh (config : SessionConfig)
    (hinitial : config.initialState = makeInitialWorld) (calls : List SessionCall) :
    DriverAccepts ((create config).after calls) →
      (((create config).after calls).Indistinguishable (create config) ↔
        ∀ call ∈ calls, config.Ignores call) := by
  intro _
  exact RollbackSession.indistinguishable_iff hinitial calls

/-- A frame that is not due, inputs of the wrong player and from before the window, and a
flush with nothing to correct. -/
def ignoredCalls : List SessionCall :=
  [.advance ⟨⟨3⟩, .a, 3, 16⟩, .ingestRemote ⟨⟨0⟩, .a, 0, 1⟩, .ingestRemote ⟨⟨4294967000⟩, .b, 0, 1⟩,
    .flushCorrections]

theorem drivers_accept_fresh_ignored : DriverAccepts ((create {}).after ignoredCalls) ∧
    ((create {}).after ignoredCalls).Indistinguishable (create {}) := by
  have haccepts : DriverAccepts ((create {}).after ignoredCalls) := Or.inr ⟨{}, by decide⟩
  refine ⟨haccepts, (drivers_accept_fresh {} rfl ignoredCalls haccepts).2 fun call hcall => ?_⟩
  simp only [ignoredCalls, List.mem_cons, List.not_mem_nil, or_false] at hcall
  rcases hcall with rfl | rfl | rfl | rfl
  · exact Or.inl (by decide)
  · exact Or.inl (by decide)
  · exact Or.inr (by decide)
  · trivial

/-- The first input of the other peer, given to a new session. -/
def informedSession : RollbackSession := (create {}).after [.ingestRemote ⟨⟨0⟩, .b, 0, 0⟩]

theorem informedSession_eq : ∃ storage metrics,
    informedSession = { create {} with storage := storage, metrics := metrics } := by
  have hcall := @RollbackSession.ingestRemote_ok (create {}) ⟨⟨0⟩, .b, 0, 0⟩ rfl (by decide)
  refine ⟨_, _, congrArg Prod.snd hcall⟩

/-- Both drivers accept a session that has been told an input, and it is not as good as new. -/
theorem accepted_session_informed :
    (LiveScenario.create {} informedSession (create { localPeer := .b })).isOk = true ∧
      (PeerDriver.create {} informedSession (.ok ())).isOk = true ∧
      ¬informedSession.Indistinguishable (create {}) := by
  obtain ⟨storage, metrics, heq⟩ := informedSession_eq
  refine ⟨?_, ?_, ?_⟩
  · rw [heq, LiveScenario.create, if_neg (by decide), if_neg]
    · rfl
    · rintro (h | h | h | h)
      · exact h rfl
      · exact h rfl
      · exact h rfl
      · exact h rfl
  · rw [heq, PeerDriver.create_ok rfl (by decide) (by decide) rfl rfl]
    rfl
  · intro hsame
    have hignored := (RollbackSession.indistinguishable_iff rfl _).1 hsame _ List.mem_cons_self
    revert hignored
    simp only [SessionConfig.Ignores]
    decide

end RollbackLab
