import RollbackLab.ConfirmedHistory

/-!
# The speculative world

Above the confirmed frame a session runs on guesses. When remote inputs arrive for frames
that have been reached, and no gap has fallen too far behind, the guesses are those of the
final history: every frame was simulated with the nearest remote input accepted at or
before it, and the order in which the inputs arrived leaves no trace.

The order of frame numbers is modular. After half a ring of frames the first frame no
longer precedes the current one, so a late input for it is taken for a future one.
-/

namespace RollbackLab

open RollbackSession (remoteFor_of_ok remoteFor_of_error advanceClean_ok ingestRemote_ok)

/-- The buttons of the nearest remote input accepted at or before frame `k`. -/
def SessionRun.nearestButtons (run : SessionRun) : ℕ → UInt8
  | 0 => ((run.accepted ⟨0⟩).map InputFrame.buttons).getD 0
  | k + 1 =>
    ((run.accepted ⟨UInt32.ofNat (k + 1)⟩).map InputFrame.buttons).getD (nearestButtons run k)

def SessionRun.speculativePair (config : SessionConfig) (run : SessionRun) (k : ℕ) : InputPair :=
  config.makePair (run.locals.getD k default)
    ⟨⟨UInt32.ofNat k⟩, config.remotePeer, 0, run.nearestButtons k⟩

/-- The inputs of all frames so far, with guesses where nothing has arrived. -/
def SessionRun.speculativePairs (config : SessionConfig) (run : SessionRun) : List InputPair :=
  (List.range run.locals.length).map (run.speculativePair config)

/-- Remote inputs are accepted only for frames from 0 to the current one. -/
def reachedFramesOnly (run : SessionRun) (c : SessionCall) : Prop :=
  ∀ remote, c = .ingestRemote remote → (run.session.ingestRemote remote).1 = .ok () →
    remote.frame.value ≤ run.session.state.frame.value

/-- No advance is tried once half a ring of frames is about to be complete. -/
def belowHalfRing (run : SessionRun) (c : SessionCall) : Prop :=
  ∀ loc, c = .advance loc → run.locals.length + 1 < 2 ^ 31

section Settled

variable {config : SessionConfig} {run : SessionRun} {s : Machine} {worlds : ℕ → WorldState}
  {used : ℕ → InputFrame}

theorem SessionConfig.origin_plus_zero (hinitial : config.initialState = makeInitialWorld) (k : ℕ) :
    config.origin.plus (256 + k) = ⟨UInt32.ofNat k⟩ := by
  rw [config.origin_plus, hinitial]
  apply FrameNumber.ext
  rw [FrameNumber.plus_value_toNat, UInt32.toNat_ofNat']
  change (0 + k) % 2 ^ 32 = k % 2 ^ 32
  rw [Nat.zero_add]

theorem Refines.nearestButtons_eq (h : Refines config run s worlds used)
    (hinitial : config.initialState = makeInitialWorld)
    (hearly : ∀ i < 256, s.accepted i = none) {k : ℕ} (hk : 256 + k < 2 ^ 32) :
    run.nearestButtons k = Speculation.below s.accepted 0 (256 + k + 1) := by
  have haccepted := h.remembers.accepted_eq
  induction k with
  | zero =>
    rw [Speculation.below, Speculation.below_eq_neutral hearly, haccepted 256 (by norm_num),
      SessionConfig.origin_plus_zero hinitial 0]
    rfl
  | succ k ih =>
    have hnext := haccepted _ hk
    rw [SessionConfig.origin_plus_zero hinitial (k + 1)] at hnext
    rw [SessionRun.nearestButtons, ih (by omega), ← hnext]
    rfl

/-- Once every frame was simulated with the nearest accepted input, so is the fold. -/
theorem Refines.speculative_fold (h : Refines config run s worlds used)
    (hinitial : config.initialState = makeInitialWorld)
    (hearly : ∀ i < 256, s.accepted i = none)
    (hsettled : ∀ i, 256 ≤ i → i < s.current →
      s.used i = Speculation.below s.accepted 0 (i + 1)) {n : ℕ} (hn : n ≤ run.locals.length) :
    simulateAll config.variant makeInitialWorld
      ((List.range n).map (run.speculativePair config)) = .ok (worlds (256 + n)) := by
  have hcurrent := h.current_eq
  have hsmall := h.small
  induction n with
  | zero =>
    rw [← hinitial, ← h.simulated.history.initial]
    rfl
  | succ n ih =>
    have hframe := SessionConfig.origin_plus_zero hinitial n
    have hbuttons : run.nearestButtons n = s.used (256 + n) :=
      (h.nearestButtons_eq hinitial hearly (by omega)).trans
        (hsettled (256 + n) (by omega) (by omega)).symm
    have hstep := h.simulate_with
      ⟨⟨UInt32.ofNat n⟩, config.remotePeer, 0, run.nearestButtons n⟩
      (by omega : 256 ≤ 256 + n) (by omega) ⟨hframe.symm, rfl⟩ hbuttons
    have hlocal : localAt run.locals (256 + n) = run.locals.getD n default := by
      simp [localAt]
    rw [hlocal] at hstep
    rw [List.range_succ, List.map_append]
    exact simulateAll_append_ok (ih (by omega)) hstep

/-- The world of a session with no correction pending and no gap far behind. -/
theorem speculative_world_eq (hinitial : config.initialState = makeInitialWorld)
    (hwindow : config.maxRollbackFrames.toNat ≤ 120)
    (h : SessionRun.Reachable config (fun run c => reachedFramesOnly run c ∧ belowHalfRing run c) run)
    (hclean : run.session.earliestDirty = none)
    (hgap : ∀ k, run.accepted ⟨UInt32.ofNat k⟩ = none → run.locals.length ≤ k + 120) :
    simulateAll config.variant makeInitialWorld (run.speculativePairs config) =
      .ok run.session.state := by
  obtain ⟨s, worlds, used, hr, -, -, hsettled, hearly⟩ := h.refines
    (Speculation.Kept.settled 120 le_rfl (by norm_num)) (by rw [hinitial])
    (fun run loc hc => hc.2 loc rfl) (by
      intro run s worlds used remote i hr hc hok hi hframe hin
      have hsmall := hr.small
      have hcurrent := hr.current_eq
      have hle := hc.1 remote rfl hok
      have hstart : config.origin.value.toNat = 2 ^ 32 - 256 := by
        rw [SessionConfig.origin, hinitial]
        rfl
      rw [hframe, hr.frame_eq, UInt32.le_iff_toNat_le, FrameNumber.plus_value_toNat,
        FrameNumber.plus_value_toNat, hstart] at hle
      have hfirst : 256 ≤ i := by omega
      have hi' : i ≤ s.current := by omega
      refine ⟨hfirst, hi', ?_⟩
      rcases Nat.eq_or_lt_of_le hi' with rfl | hlt
      · omega
      · rw [hframe, hr.frame_eq, frameBefore_plus config.origin (by omega) (by omega),
          frameDistance_plus config.origin hlt.le (by omega)] at hin
        have := hin hlt
        omega)
  have hcurrent := hr.current_eq
  have hsmall := hr.small
  have hnone : s.dirty = none := by
    have hdirty := hr.remembers.dirty
    rw [hclean] at hdirty
    exact Option.map_eq_none_iff.1 hdirty.symm
  have hopen : ¬ ∃ x, 256 ≤ x ∧ s.accepted x = none ∧ x + 120 < s.current := by
    rintro ⟨x, hx, hmissing, hlt⟩
    obtain ⟨k, rfl⟩ : ∃ k, x = 256 + k := ⟨x - 256, by omega⟩
    rw [hr.remembers.accepted_eq (256 + k) (by omega), Option.map_eq_none_iff,
      SessionConfig.origin_plus_zero hinitial k] at hmissing
    have := hgap k hmissing
    omega
  have hused := hsettled.resolve_left hopen
  have hfold := hr.speculative_fold hinitial hearly
    (fun i hf hi => hused i hf hi (by simp [Speculation.State.Clean, hnone])) le_rfl
  rw [hr.simulated.state_eq, hcurrent]
  exact hfold

end Settled

theorem speculativePairs_congr {config : SessionConfig} {run other : SessionRun}
    (hlocals : other.locals = run.locals) (haccepted : other.accepted = run.accepted) :
    other.speculativePairs config = run.speculativePairs config := by
  have hnearest : ∀ k, other.nearestButtons k = run.nearestButtons k := by
    intro k
    induction k with
    | zero => simp only [SessionRun.nearestButtons, haccepted]
    | succ k ih => simp only [SessionRun.nearestButtons, haccepted, ih]
  simp only [SessionRun.speculativePairs, hlocals]
  apply List.map_congr_left
  intro k _
  simp only [SessionRun.speculativePair, hlocals, hnearest]

/-- The world depends on the local inputs and on what was accepted for each frame, not on
the order, the repetitions or the corrections in between. -/
theorem speculative_world {config : SessionConfig} {run : SessionRun}
    (hinitial : config.initialState = makeInitialWorld)
    (hwindow : config.maxRollbackFrames.toNat ≤ 120)
    (h : SessionRun.Reachable config (fun run c => reachedFramesOnly run c ∧ belowHalfRing run c) run)
    (hclean : run.session.earliestDirty = none)
    (hgap : ∀ k, run.accepted ⟨UInt32.ofNat k⟩ = none → run.locals.length ≤ k + 120) :
    simulateAll config.variant makeInitialWorld (run.speculativePairs config) =
      .ok run.session.state ∧
    ∀ other : SessionRun, SessionRun.Reachable config
        (fun run c => reachedFramesOnly run c ∧ belowHalfRing run c) other →
      other.session.earliestDirty = none → other.locals = run.locals →
      other.accepted = run.accepted → other.session.state = run.session.state := by
  have hrun := speculative_world_eq hinitial hwindow h hclean hgap
  refine ⟨hrun, fun other hother hclean' hlocals haccepted => ?_⟩
  have hgap' : ∀ k, other.accepted ⟨UInt32.ofNat k⟩ = none → other.locals.length ≤ k + 120 := by
    rw [hlocals, haccepted]
    exact hgap
  have hsame := speculative_world_eq hinitial hwindow hother hclean' hgap'
  rw [speculativePairs_congr hlocals haccepted, hrun] at hsame
  exact (Except.ok.inj hsame).symm

theorem speculative_world_correctedRun :
    simulateAll .canonical makeInitialWorld (correctedRun.speculativePairs {}) =
      .ok correctedRun.session.state ∧
    ∀ other : SessionRun, SessionRun.Reachable {}
        (fun run c => reachedFramesOnly run c ∧ belowHalfRing run c) other →
      other.session.earliestDirty = none → other.locals = correctedRun.locals →
      other.accepted = correctedRun.accepted →
      other.session.state = correctedRun.session.state := by
  have hreach : SessionRun.Reachable {}
      (fun run c => reachedFramesOnly run c ∧ belowHalfRing run c) correctedRun := by
    refine .call _ (.call _ (.call _ .start ⟨?_, ?_⟩) ⟨?_, ?_⟩) ⟨?_, ?_⟩
    · intro remote hc
      cases hc
    · intro loc _
      change 0 + 1 < 2 ^ 31
      norm_num
    · intro remote hc _
      cases hc
      exact UInt32.zero_le
    · intro loc hc
      cases hc
    · intro remote hc
      cases hc
    · intro loc hc
      cases hc
  have hclean : correctedRun.session.earliestDirty = none := by decide +kernel
  have hinitial : ({} : SessionConfig).initialState = makeInitialWorld := rfl
  have hwindow : ({} : SessionConfig).maxRollbackFrames.toNat ≤ 120 := by decide
  have hgap : ∀ k, correctedRun.accepted ⟨UInt32.ofNat k⟩ = none →
      correctedRun.locals.length ≤ k + 120 := by
    intro k _
    exact correctedRun_small.trans (by omega)
  exact @speculative_world {} correctedRun hinitial hwindow hreach hclean hgap

/-! ## Half a ring later -/

def quietInput (player : PlayerId) (k : ℕ) : InputFrame := ⟨⟨UInt32.ofNat k⟩, player, 0, 0⟩

/-- `n` frames in which nobody presses a button and every remote input arrives. -/
def quietRun : ℕ → SessionRun
  | 0 => .start {}
  | n + 1 => ((quietRun n).call (.advance (quietInput .a n))).call (.ingestRemote (quietInput .b n))

/-- Nothing moves unless a button is pressed. -/
structure Resting (world : WorldState) : Prop where
  x_mem : ∀ index : Fin 2, kPlayerRadius ≤ (getElem world.players index index.2).x ∧
    (getElem world.players index index.2).x ≤ kArenaWidth - kPlayerRadius
  y_mem : ∀ index : Fin 2, kPlayerRadius ≤ (getElem world.players index index.2).y ∧
    (getElem world.players index index.2).y ≤ kArenaHeight - kPlayerRadius
  velocity : ∀ index : Fin 2, (getElem world.players index index.2).velocityX = 0 ∧
    (getElem world.players index index.2).velocityY = 0
  cooldown : ∀ index : Fin 2, (getElem world.players index index.2).attackCooldown = 0
  inactive : ∀ slot : Fin kMaxProjectiles, (getElem world.projectiles slot slot.2).active = false

theorem checkedAddI32_zero (value : Int32) : checkedAddI32 value 0 = .ok value := by
  have hlow := value.le_toInt
  have hhigh := value.toInt_lt
  simp only [checkedAddI32, Int32.toInt_zero, Int.add_zero, Int32.ofInt_toInt]
  exact if_neg (by omega)

theorem clampPosition_eq {value lower upper : Int32} (h : lower ≤ value ∧ value ≤ upper) :
    clampPosition value lower upper = value := by
  rw [clampPosition, if_neg (Int32.not_lt.2 h.1), if_neg (Int32.not_lt.2 h.2)]

theorem Resting.movePlayer {world : WorldState} (h : Resting world) {inputs : InputPair}
    (hquiet : ∀ id, (inputFor inputs id).buttons = 0) (index : Fin 2) :
    movePlayer inputs world index = .ok world := by
  have hsteer : steer 0 world.players[index] = world.players[index] := by
    have hzero : (0 : Int32) * kPlayerSpeed = 0 := by decide
    have haxis : axis (hasButton 0 .left) (hasButton 0 .right) = 0 ∧
        axis (hasButton 0 .up) (hasButton 0 .down) = 0 := by decide
    obtain ⟨hx, hy⟩ := h.velocity index
    have hc := h.cooldown index
    generalize world.players[index] = player at hx hy hc
    cases player
    simp_all [steer]
  have hx : checkedAddI32 world.players[index].x world.players[index].velocityX =
      .ok world.players[index].x := by rw [(h.velocity index).1, checkedAddI32_zero]
  have hy : checkedAddI32 world.players[index].y world.players[index].velocityY =
      .ok world.players[index].y := by rw [(h.velocity index).2, checkedAddI32_zero]
  have hsame : world.setPlayer index world.players[index] = world := by
    simp [WorldState.setPlayer]
  simp only [RollbackLab.movePlayer, hquiet, hsteer, hx, hy, clampPosition_eq (h.x_mem index),
    clampPosition_eq (h.y_mem index)]
  exact congrArg _ hsame

/-- A resting world only grows older. -/
theorem Resting.simulateFrame {world : WorldState} (h : Resting world) {frame : FrameNumber}
    {inputs : InputPair} (hmatch : inputsMatch world frame inputs = true)
    (hquiet : ∀ id, (inputFor inputs id).buttons = 0) (variant : SimulationVariant) :
    simulateFrame world frame inputs variant = .ok { world with frame := nextFrame frame } := by
  have hmove : movePlayers inputs world = .ok world := by
    rw [movePlayers, List.foldlM_cons, h.movePlayer hquiet 0]
    change RollbackLab.movePlayer inputs world 1 >>= pure = _
    rw [h.movePlayer hquiet 1]
    rfl
  have hnobody : ∀ index, attackPlayer inputs world index = .ok world := by
    intro index
    have hattack : hasButton 0 .attack = false := by decide
    simp only [attackPlayer, hquiet, hattack, Bool.false_eq_true, false_and, if_false]
  have hattack : attackPlayers inputs world = .ok world := by
    rw [attackPlayers, List.foldlM_cons, hnobody 0]
    change attackPlayer inputs world 1 >>= pure = _
    rw [hnobody 1]
    rfl
  have horder : projectileOrder world = [] := by
    apply List.eq_nil_iff_forall_not_mem.2
    intro slot hslot
    rw [LegalWorld.mem_projectileOrder, h.inactive slot] at hslot
    cases hslot
  have hstep : stepProjectiles variant world = .ok world := by
    rw [stepProjectiles, horder]
    rfl
  simp only [RollbackLab.simulateFrame, hmatch, hmove, bind, Except.bind, hattack, hstep]
  rfl

/-- The initial world at a later frame. -/
def quietWorld (n : ℕ) : WorldState := { makeInitialWorld with frame := ⟨UInt32.ofNat n⟩ }

/-- What holds after `n` quiet frames. -/
structure Quiet (run : SessionRun) (n : ℕ) : Prop where
  config : run.session.config = {}
  state : run.session.state = quietWorld n
  dirty : run.session.earliestDirty = none
  remoteInputs : ∀ f remote, run.session.storage.remoteInputs.get f = .ok remote →
    remote.frame = f ∧ remote.player = .b ∧ remote.buttons = 0
  usedRemoteInputs : ∀ f remote, run.session.storage.usedRemoteInputs.get f = .ok remote →
    remote.buttons = 0
  locals : run.locals = (List.range n).map (quietInput .a)

theorem resting_quietWorld (n : ℕ) : Resting (quietWorld n) := by
  have hinactive : ∀ slot : Fin kMaxProjectiles, (quietWorld n).projectiles[slot].active = false := by
    intro slot
    simp [quietWorld, makeInitialWorld]
  exact ⟨(by decide : ∀ index : Fin 2, kPlayerRadius ≤ makeInitialWorld.players[index].x ∧
      makeInitialWorld.players[index].x ≤ kArenaWidth - kPlayerRadius),
    (by decide : ∀ index : Fin 2, kPlayerRadius ≤ makeInitialWorld.players[index].y ∧
      makeInitialWorld.players[index].y ≤ kArenaHeight - kPlayerRadius),
    (by decide : ∀ index : Fin 2, makeInitialWorld.players[index].velocityX = 0 ∧
      makeInitialWorld.players[index].velocityY = 0),
    (by decide : ∀ index : Fin 2, makeInitialWorld.players[index].attackCooldown = 0), hinactive⟩

theorem nextFrame_ofNat (n : ℕ) : nextFrame ⟨UInt32.ofNat n⟩ = ⟨UInt32.ofNat (n + 1)⟩ := by
  simp [nextFrame]

namespace Quiet

variable {run : SessionRun} {n : ℕ}

theorem start : Quiet (.start {}) 0 := by
  have hempty : ∀ frame,
      (FrameRing.empty : FrameRing InputFrame kHistoryCapacity).get frame =
        .error (FrameRing.staleError frame) := FrameRing.get_empty
  refine ⟨rfl, rfl, rfl, fun f remote hget => ?_, fun f remote hget => ?_, rfl⟩
  · rw [show (SessionRun.start {}).session.storage.remoteInputs = .empty from rfl, hempty] at hget
    cases hget
  · rw [show (SessionRun.start {}).session.storage.usedRemoteInputs = .empty from rfl, hempty] at hget
    cases hget

theorem searchRemote (h : Quiet run n) (neutral : InputFrame) (frame : FrameNumber)
    (hneutral : neutral.frame = frame ∧ neutral.player = .b ∧ neutral.buttons = 0)
    (remaining offset : ℕ) :
    let found := RollbackSession.searchRemote run.session.storage.remoteInputs neutral frame
      remaining offset
    found.frame = frame ∧ found.player = .b ∧ found.buttons = 0 := by
  induction remaining generalizing offset with
  | zero => exact hneutral
  | succ remaining ih =>
    simp only [RollbackSession.searchRemote]
    split
    · rename_i known hget
      exact ⟨rfl, (h.remoteInputs _ known hget).2⟩
    · exact ih (offset + 1)

theorem remoteFor (h : Quiet run n) (frame : FrameNumber) :
    (run.session.remoteFor frame).frame = frame ∧ (run.session.remoteFor frame).player = .b ∧
      (run.session.remoteFor frame).buttons = 0 := by
  cases hget : run.session.storage.remoteInputs.get frame with
  | ok actual =>
    rw [remoteFor_of_ok hget]
    exact h.remoteInputs frame actual hget
  | error e =>
    rw [remoteFor_of_error hget, RollbackSession.predictedRemote, h.config]
    exact h.searchRemote _ frame ⟨rfl, rfl, rfl⟩ _ _

theorem advance (h : Quiet run n) : Quiet (run.call (.advance (quietInput .a n))) (n + 1) ∧
    (run.call (.advance (quietInput .a n))).accepted = run.accepted := by
  have hframe : (quietInput .a n).frame = run.session.state.frame := by
    rw [h.state]
    rfl
  obtain ⟨hrframe, hrplayer, hrbuttons⟩ := h.remoteFor run.session.state.frame
  have hmatch : inputsMatch run.session.state run.session.state.frame
      (run.session.config.makePair (quietInput .a n)
        (run.session.remoteFor run.session.state.frame)) = true := by
    rw [inputsMatch_iff, h.config]
    exact ⟨rfl, hframe, hrframe, rfl, hrplayer⟩
  have hbuttons : ∀ id, (inputFor (run.session.config.makePair (quietInput .a n)
      (run.session.remoteFor run.session.state.frame)) id).buttons = 0 := by
    intro id
    rw [h.config]
    cases id
    · rfl
    · exact hrbuttons
  have hresting : Resting run.session.state := by
    rw [h.state]
    exact resting_quietWorld n
  have hsim := hresting.simulateFrame hmatch hbuttons run.session.config.variant
  obtain ⟨result, metrics, -, hrun⟩ := advanceClean_ok hframe (by rw [h.config]; rfl) hsim
  have hadvance : run.session.advance (quietInput .a n) =
      run.session.advanceClean (quietInput .a n) := by
    rw [RollbackSession.advance, h.dirty]
    rfl
  simp only [SessionRun.call, hadvance, hrun]
  refine ⟨⟨h.config, ?_, h.dirty, h.remoteInputs, fun f remote hget => ?_, ?_⟩, trivial⟩
  · change { run.session.state with frame := nextFrame run.session.state.frame } = _
    rw [h.state]
    change { makeInitialWorld with frame := nextFrame ⟨UInt32.ofNat n⟩ } = _
    rw [nextFrame_ofNat]
    rfl
  · rcases FrameRing.get_put_ok hget with ⟨-, rfl⟩ | hold
    · exact hrbuttons
    · exact h.usedRemoteInputs f remote hold
  · rw [h.locals, List.range_succ, List.map_append]
    rfl

/-- A remote input without buttons contradicts nothing. -/
theorem ingest (h : Quiet run n) (remote : InputFrame) (hplayer : remote.player = .b)
    (hwindow : ¬ (frameBefore remote.frame run.session.state.frame = true ∧
      run.session.config.maxRollbackFrames < frameDistance remote.frame run.session.state.frame))
    (hquiet : remote.buttons = 0 ∨ frameBefore remote.frame run.session.state.frame = false) :
    (run.session.ingestRemote remote).1 = .ok () ∧
    (run.call (.ingestRemote remote)).session.state = quietWorld n ∧
    (run.call (.ingestRemote remote)).session.earliestDirty = none ∧
    (run.call (.ingestRemote remote)).locals = (List.range n).map (quietInput .a) ∧
    (run.call (.ingestRemote remote)).accepted =
      Function.update run.accepted remote.frame (some remote) ∧
    (remote.buttons = 0 → Quiet (run.call (.ingestRemote remote)) n) := by
  have hpeer : remote.player = run.session.config.remotePeer := by
    rw [h.config]
    exact hplayer
  set kept := run.session.keepRemote remote (frameBefore remote.frame run.session.state.frame)
    with hkept
  have hrun : run.session.ingestRemote remote = (.ok (), kept.updateConfirmation) := by
    rw [ingestRemote_ok hpeer hwindow, ← hkept]
    rcases hquiet with hzero | hfuture
    · have hsame : kept.compareUsed remote = kept := by
        rw [RollbackSession.compareUsed]
        split
        · rename_i used hget
          have hused : used.buttons = 0 := h.usedRemoteInputs _ used hget
          have heq : samePredictedValue used remote = true := by
            rw [samePredictedValue, hused, hzero]
            rfl
          rw [heq]
          rfl
        · rfl
      rw [hsame, ite_self]
    · rw [hfuture]
      rfl
  simp only [SessionRun.call, hrun]
  refine ⟨trivial, h.state, h.dirty, h.locals, trivial, fun hzero =>
    ⟨h.config, h.state, h.dirty, fun f known hget => ?_, h.usedRemoteInputs, h.locals⟩⟩
  rcases FrameRing.get_put_ok hget with ⟨rfl, rfl⟩ | hold
  · exact ⟨rfl, hplayer, hzero⟩
  · exact h.remoteInputs f known hold

end Quiet

theorem quietRun_step {n : ℕ} (h : Quiet (quietRun n) n) :
    Quiet ((quietRun n).call (.advance (quietInput .a n))) (n + 1) ∧
      Quiet (quietRun (n + 1)) (n + 1) ∧
      (quietRun (n + 1)).accepted =
        Function.update (quietRun n).accepted ⟨UInt32.ofNat n⟩ (some (quietInput .b n)) := by
  obtain ⟨hadvanced, hsame⟩ := h.advance
  have hdistance : ¬ ({} : SessionConfig).maxRollbackFrames <
      frameDistance ⟨UInt32.ofNat n⟩ ⟨UInt32.ofNat (n + 1)⟩ := by
    have hone : UInt32.ofNat (n + 1) - UInt32.ofNat n = 1 := by
      rw [UInt32.ofNat_add]
      grind
    rw [frameDistance, hone]
    decide
  have hwindow : ¬ (frameBefore (quietInput .b n).frame
      ((quietRun n).call (.advance (quietInput .a n))).session.state.frame = true ∧
      ((quietRun n).call (.advance (quietInput .a n))).session.config.maxRollbackFrames <
        frameDistance (quietInput .b n).frame
          ((quietRun n).call (.advance (quietInput .a n))).session.state.frame) := by
    rw [hadvanced.state, hadvanced.config]
    exact fun hc => hdistance hc.2
  obtain ⟨-, -, -, -, haccepted, hquiet⟩ := hadvanced.ingest (quietInput .b n) rfl hwindow (Or.inl rfl)
  refine ⟨hadvanced, hquiet rfl, ?_⟩
  rw [← hsame]
  exact haccepted

theorem quiet_quietRun (n : ℕ) : Quiet (quietRun n) n := by
  induction n with
  | zero => exact Quiet.start
  | succ n ih =>
    exact (quietRun_step ih).2.1

theorem quietRun_accepted {n k : ℕ} (hk : k < n) (hn : n ≤ 2 ^ 32) :
    (quietRun n).accepted ⟨UInt32.ofNat k⟩ = some (quietInput .b k) := by
  induction n with
  | zero => omega
  | succ n ih =>
    rw [(quietRun_step (quiet_quietRun n)).2.2]
    rcases Nat.lt_succ_iff_lt_or_eq.1 hk with hlt | rfl
    · have hne : (⟨UInt32.ofNat k⟩ : FrameNumber) ≠ ⟨UInt32.ofNat n⟩ := by
        intro he
        have hv := congrArg (fun f : FrameNumber => f.value.toNat) he
        simp only [UInt32.toNat_ofNat'] at hv
        omega
      rw [Function.update_of_ne hne]
      exact ih hlt (by omega)
    · rw [Function.update_self]

theorem quietRun_reachable {n : ℕ} (hn : n < 2 ^ 32) :
    SessionRun.Reachable {} reachedFramesOnly (quietRun n) := by
  induction n with
  | zero => exact .start
  | succ n ih =>
    have hadvanced : SessionRun.Reachable {} reachedFramesOnly
        ((quietRun n).call (.advance (quietInput .a n))) :=
      .call _ (ih (by omega)) (fun remote hc => by cases hc)
    refine .call _ hadvanced (fun remote hc _ => ?_)
    cases hc
    rw [(quietRun_step (quiet_quietRun n)).1.state]
    change UInt32.ofNat n ≤ UInt32.ofNat (n + 1)
    rw [UInt32.le_iff_toNat_le, UInt32.toNat_ofNat', UInt32.toNat_ofNat']
    omega

/-- After `n` quiet frames, player B claims to have moved right in frame 0. -/
def lateRun (n : ℕ) : SessionRun := (quietRun n).call (.ingestRemote ⟨⟨0⟩, .b, 0, 8⟩)

/-- The initial world with player B one step to the right, at a later frame. -/
def shiftedWorld (n : ℕ) : WorldState :=
  let b := makeInitialWorld.players.get (playerIndex .b)
  { makeInitialWorld.setPlayer (playerIndex .b) { b with x := b.x + kPlayerSpeed, facingX := 1 } with
    frame := ⟨UInt32.ofNat n⟩ }

theorem resting_shiftedWorld (n : ℕ) : Resting (shiftedWorld n) := by
  have hinactive : ∀ slot : Fin kMaxProjectiles, (shiftedWorld n).projectiles[slot].active = false := by
    intro slot
    simp [shiftedWorld, WorldState.setPlayer, makeInitialWorld]
  exact ⟨(by decide : ∀ index : Fin 2, kPlayerRadius ≤ (shiftedWorld 0).players[index].x ∧
      (shiftedWorld 0).players[index].x ≤ kArenaWidth - kPlayerRadius),
    (by decide : ∀ index : Fin 2, kPlayerRadius ≤ (shiftedWorld 0).players[index].y ∧
      (shiftedWorld 0).players[index].y ≤ kArenaHeight - kPlayerRadius),
    (by decide : ∀ index : Fin 2, (shiftedWorld 0).players[index].velocityX = 0 ∧
      (shiftedWorld 0).players[index].velocityY = 0),
    (by decide : ∀ index : Fin 2, (shiftedWorld 0).players[index].attackCooldown = 0), hinactive⟩

theorem shiftedWorld_ne (n : ℕ) : shiftedWorld n ≠ quietWorld n := by
  have hmoved : (shiftedWorld 0).players[1].x ≠ (quietWorld 0).players[1].x := by decide
  intro he
  have hx := congrArg (fun world : WorldState => world.players[1].x) he
  exact hmoved hx

/-- One step to the right in frame 0 is still there after any number of quiet frames. -/
theorem simulateAll_shifted {pair : ℕ → InputPair} {n : ℕ}
    (hfirst : pair 0 = ⟨quietInput .a 0, ⟨⟨0⟩, .b, 0, 8⟩⟩)
    (hquiet : ∀ k, 0 < k → k < n + 2 → pair k = ⟨quietInput .a k, quietInput .b k⟩) :
    simulateAll .canonical makeInitialWorld ((List.range (n + 2)).map pair) =
      .ok (shiftedWorld (n + 2)) := by
  induction n with
  | zero =>
    have hpairs : (List.range 2).map pair =
        [⟨quietInput .a 0, ⟨⟨0⟩, .b, 0, 8⟩⟩, ⟨quietInput .a 1, quietInput .b 1⟩] := by
      change [pair 0, pair 1] = _
      rw [hfirst, hquiet 1 (by norm_num) (by norm_num)]
    rw [hpairs]
    decide +kernel
  | succ n ih =>
    rw [List.range_succ, List.map_append]
    refine simulateAll_append_ok (ih (fun k hk hkn => hquiet k hk (by omega))) ?_
    rw [hquiet (n + 2) (by omega) (by omega)]
    have hmatch : inputsMatch (shiftedWorld (n + 2)) ⟨UInt32.ofNat (n + 2)⟩
        ⟨quietInput .a (n + 2), quietInput .b (n + 2)⟩ = true := by
      rw [inputsMatch_iff]
      exact ⟨rfl, rfl, rfl, rfl, rfl⟩
    have hbuttons : ∀ id, (inputFor ⟨quietInput .a (n + 2), quietInput .b (n + 2)⟩ id).buttons = 0 := by
      intro id
      cases id <;> rfl
    have hsim := (resting_shiftedWorld (n + 2)).simulateFrame hmatch hbuttons .canonical
    rw [nextFrame_ofNat] at hsim
    exact hsim

theorem late_accepted {n k : ℕ} (hk : k < n) (hn : n ≤ 2 ^ 32) :
    Function.update (quietRun n).accepted ⟨0⟩ (some ⟨⟨0⟩, .b, 0, 8⟩) ⟨UInt32.ofNat k⟩ =
      some ⟨⟨UInt32.ofNat k⟩, .b, 0, if k = 0 then 8 else 0⟩ := by
  rcases Nat.eq_zero_or_pos k with rfl | hpos
  · exact Function.update_self _ _ _
  · have hne : (⟨UInt32.ofNat k⟩ : FrameNumber) ≠ ⟨0⟩ := by
      intro he
      have hv := congrArg (fun f : FrameNumber => f.value.toNat) he
      simp only [UInt32.toNat_ofNat', UInt32.toNat_zero] at hv
      omega
    rw [Function.update_of_ne hne, quietRun_accepted hk hn, if_neg (by omega)]
    rfl

/-- The fold of a quiet run with a late contradiction of frame 0. -/
theorem late_fold {run : SessionRun} {n : ℕ} (hn : n + 2 ≤ 2 ^ 32)
    (hlocals : run.locals = (List.range (n + 2)).map (quietInput .a))
    (haccepted : run.accepted =
      Function.update (quietRun (n + 2)).accepted ⟨0⟩ (some ⟨⟨0⟩, .b, 0, 8⟩)) :
    simulateAll .canonical makeInitialWorld (run.speculativePairs {}) = .ok (shiftedWorld (n + 2)) := by
  have hlate : ∀ k < n + 2, run.accepted ⟨UInt32.ofNat k⟩ =
      some ⟨⟨UInt32.ofNat k⟩, .b, 0, if k = 0 then 8 else 0⟩ := by
    intro k hk
    rw [haccepted]
    exact late_accepted hk hn
  have hnearest : ∀ k < n + 2, run.nearestButtons k = if k = 0 then 8 else 0 := by
    intro k hk
    have hk' := hlate k hk
    cases k with
    | zero =>
      change ((run.accepted ⟨UInt32.ofNat 0⟩).map InputFrame.buttons).getD 0 = _
      rw [hk']
      rfl
    | succ k =>
      rw [SessionRun.nearestButtons, hk']
      rfl
  have hlocal : ∀ k < n + 2, run.locals.getD k default = quietInput .a k := by
    intro k hk
    rw [hlocals]
    simp [hk]
  have hpair : ∀ k < n + 2, run.speculativePair {} k =
      ⟨quietInput .a k, ⟨⟨UInt32.ofNat k⟩, .b, 0, if k = 0 then 8 else 0⟩⟩ := by
    intro k hk
    rw [SessionRun.speculativePair, hlocal k hk, hnearest k hk]
    rfl
  rw [SessionRun.speculativePairs, hlocals, List.length_map, List.length_range]
  apply simulateAll_shifted
  · exact hpair 0 (by omega)
  · intro k hpos hk
    rw [hpair k hk, if_neg (by omega)]
    rfl

/-- Once the order of frame numbers has turned, the late input changes nothing. -/
theorem lateRun_spec {n : ℕ} (hn : n = 2 ^ 31) :
    SessionRun.Reachable {} reachedFramesOnly (lateRun n) ∧
    (lateRun n).session.state = quietWorld n ∧ (lateRun n).session.earliestDirty = none ∧
    (lateRun n).locals = (List.range n).map (quietInput .a) ∧
    (lateRun n).accepted =
      Function.update (quietRun n).accepted ⟨0⟩ (some ⟨⟨0⟩, .b, 0, 8⟩) := by
  have hquiet := quiet_quietRun n
  have hnotLate : frameBefore ⟨0⟩ (quietRun n).session.state.frame = false := by
    rw [hquiet.state, hn]
    decide
  obtain ⟨-, hstate, hdirty, hlocals, haccepted, -⟩ := hquiet.ingest ⟨⟨0⟩, .b, 0, 8⟩ rfl
    (fun hc => Bool.false_ne_true (hnotLate.symm.trans hc.1)) (Or.inr hnotLate)
  refine ⟨.call _ (quietRun_reachable (by omega)) (fun remote hc _ => ?_), hstate, hdirty, hlocals,
    haccepted⟩
  cases hc
  exact UInt32.zero_le

/-- Without the bound on the number of advances the speculative world may depend on the
order of arrival: a late input for frame 0 is accepted and never simulated. -/
theorem speculative_world_half_ring :
    SessionRun.Reachable {} reachedFramesOnly (lateRun (2 ^ 31)) ∧
    (lateRun (2 ^ 31)).session.earliestDirty = none ∧
    (∀ k, (lateRun (2 ^ 31)).accepted ⟨UInt32.ofNat k⟩ = none →
      (lateRun (2 ^ 31)).locals.length ≤ k + 120) ∧
    simulateAll .canonical makeInitialWorld ((lateRun (2 ^ 31)).speculativePairs {}) ≠
      .ok (lateRun (2 ^ 31)).session.state := by
  generalize hn : 2 ^ 31 = n
  obtain ⟨hreach, hstate, hdirty, hlocals, haccepted⟩ := lateRun_spec hn.symm
  refine ⟨hreach, hdirty, fun k hk => ?_, ?_⟩
  · rw [hlocals, List.length_map, List.length_range]
    by_contra hlt
    rw [haccepted, late_accepted (by omega : k < n) (by omega)] at hk
    cases hk
  · obtain ⟨m, rfl⟩ : ∃ m, n = m + 2 := ⟨n - 2, by omega⟩
    rw [late_fold (by omega) hlocals haccepted, hstate]
    exact fun he => shiftedWorld_ne _ (Except.ok.inj he)

end RollbackLab
