import RollbackLab.LegalWorld
import RollbackLab.Session
import RollbackLab.Speculation

/-!
# Sessions refine speculative execution

Frame numbers are counted from an origin one whole ring before the first frame, so that
every frame the rings can name has a count and the first frame has count 256. Under this
reading each call of a session is an operation of the abstract speculative machine, and
the rings, the dirty mark and the confirmed frame are its components.
-/

namespace RollbackLab

open Speculation (Kept)
open RollbackSession (remoteFor_of_ok remoteFor_of_error remoteFor_congr advanceClean_ok
  advanceClean_mismatch ingestRemote_ok markDirty_fields)

abbrev Machine := Speculation.State UInt8

def SessionConfig.origin (config : SessionConfig) : FrameNumber :=
  ⟨config.initialState.frame.value - 256⟩

theorem SessionConfig.origin_plus (config : SessionConfig) (k : ℕ) :
    config.origin.plus (256 + k) = config.initialState.frame.plus k := by
  apply FrameNumber.ext
  have := config.initialState.frame.value.toNat_lt
  simp only [SessionConfig.origin, FrameNumber.plus_value_toNat, UInt32.toNat_sub,
    UInt32.reduceToNat]
  omega

/-- The local input that was advanced with at count `i`. -/
def localAt (locals : List InputFrame) (i : ℕ) : InputFrame := locals.getD (i - 256) default

theorem localAt_append (locals : List InputFrame) (loc : InputFrame) {i : ℕ} (hi : 256 ≤ i)
    (hlen : i < 256 + locals.length) : localAt (locals ++ [loc]) i = localAt locals i := by
  simp only [localAt]
  rw [List.getD_append _ _ _ _ (by omega)]

theorem localAt_last (locals : List InputFrame) (loc : InputFrame) :
    localAt (locals ++ [loc]) (256 + locals.length) = loc := by
  simp [localAt]

/-- The worlds up to `reached` are the simulation of the local inputs with the remote
inputs that were used. -/
structure History (config : SessionConfig) (locals : List InputFrame) (worlds : ℕ → WorldState)
    (used : ℕ → InputFrame) (reached : ℕ) : Prop where
  first_le : 256 ≤ reached
  initial : worlds 256 = config.initialState
  legal : ∀ i, 256 ≤ i → i ≤ reached → LegalWorld (fun _ => 119) (worlds i) ∧
    (worlds i).frame = config.origin.plus i ∧ (worlds i).nextProjectileId.toNat + 511 ≤ 2 * i
  step : ∀ i, 256 ≤ i → i < reached → simulateFrame (worlds i) (config.origin.plus i)
    (config.makePair (localAt locals i) (used i)) config.variant = .ok (worlds (i + 1))
  used_ok : ∀ i, 256 ≤ i → i < reached →
    (used i).frame = config.origin.plus i ∧ (used i).player = config.remotePeer

/-- What the simulating part of a session holds when the counts up to `current` have
been advanced through, and those up to `reached` are up to date. -/
structure Simulated (config : SessionConfig) (session : RollbackSession) (locals : List InputFrame)
    (worlds : ℕ → WorldState) (used : ℕ → InputFrame) (reached current : ℕ) : Prop where
  history : History config locals worlds used reached
  config_eq : session.config = config
  reached_le : reached ≤ current
  state_eq : session.state = worlds reached
  local_ok : ∀ i, 256 ≤ i → i < current →
    (localAt locals i).frame = config.origin.plus i ∧ (localAt locals i).player = config.localPeer
  localInputs : session.storage.localInputs.Holds config.origin 256 current (localAt locals)
  usedRemoteInputs : session.storage.usedRemoteInputs.HoldsTo config.origin 256 current reached used
  snapshots : session.storage.snapshots.HoldsTo config.origin 256 current reached worlds
  hashes : session.storage.hashes.HoldsTo config.origin 256 (current + 1) (reached + 1)
    (fun i => hashCanonical (worlds i))

/-- The remembering part of a session, as components of the abstract machine. -/
structure Remembers (config : SessionConfig) (session : RollbackSession)
    (accepted : FrameNumber → Option InputFrame) (s : Machine) : Prop where
  retained : ∀ i < 2 ^ 32, s.retained i =
    (session.storage.remoteInputs.get (config.origin.plus i)).toOption.map InputFrame.buttons
  retained_ok : ∀ f remote, session.storage.remoteInputs.get f = .ok remote →
    remote.frame = f ∧ remote.player = config.remotePeer
  accepted_eq : ∀ i < 2 ^ 32, s.accepted i =
    (accepted (config.origin.plus i)).map InputFrame.buttons
  accepted_ok : ∀ f remote, accepted f = some remote →
    remote.frame = f ∧ remote.player = config.remotePeer
  dirty : session.earliestDirty = s.dirty.map config.origin.plus
  dirty_window : ∀ j, s.dirty = some j → 256 ≤ j ∧ j < s.current ∧ s.current ≤ j + 256 ∧
    s.current ≤ j + config.maxRollbackFrames.toNat
  confirmed : session.metrics.confirmedFrame = config.origin.plus s.confirmed
  first_le : 256 ≤ s.confirmed
  confirmed_le : s.confirmed ≤ s.current

structure Refines (config : SessionConfig) (run : SessionRun) (s : Machine)
    (worlds : ℕ → WorldState) (used : ℕ → InputFrame) : Prop where
  current_eq : s.current = 256 + run.locals.length
  small : s.current < 256 + 2 ^ 31
  simulated : Simulated config run.session run.locals worlds used s.current s.current
  remembers : Remembers config run.session run.accepted s
  used_eq : ∀ i, 256 ≤ i → i < s.current → s.used i = (used i).buttons

/-! ## Predictions -/

theorem kHistoryCapacity_dvd : kHistoryCapacity ∣ 2 ^ 32 := by decide

/-- Frame `offset` before count `i`. -/
theorem plus_sub (origin : FrameNumber) {i offset : ℕ} (h : offset ≤ i) :
    (⟨(origin.plus i).value - UInt32.ofNat offset⟩ : FrameNumber) = origin.plus (i - offset) := by
  apply FrameNumber.ext
  have := origin.value.toNat_lt
  simp only [UInt32.toNat_sub, FrameNumber.plus_value_toNat, UInt32.toNat_ofNat']
  omega

section Predictions

variable {config : SessionConfig} {session : RollbackSession}
  {accepted : FrameNumber → Option InputFrame} {s : Machine}

theorem searchRemote_spec (h : Remembers config session accepted s) {i : ℕ} (hi : i < 2 ^ 32)
    (neutral : InputFrame) {remaining offset : ℕ} (hpos : 1 ≤ offset)
    (hroom : remaining + offset ≤ i + 1) (hframe : neutral.frame = config.origin.plus i)
    (hplayer : neutral.player = config.remotePeer) :
    let found := RollbackSession.searchRemote session.storage.remoteInputs neutral
      (config.origin.plus i) remaining offset
    found.frame = config.origin.plus i ∧ found.player = config.remotePeer ∧
      found.buttons = Speculation.lookBack s.retained neutral.buttons remaining (i + 1 - offset) := by
  induction remaining generalizing offset with
  | zero => exact ⟨hframe, hplayer, rfl⟩
  | succ remaining ih =>
    simp only [RollbackSession.searchRemote, Speculation.lookBack]
    rw [plus_sub config.origin (by omega),
      show i + 1 - offset - 1 = i - offset by omega, h.retained (i - offset) (by omega)]
    cases hget : session.storage.remoteInputs.get (config.origin.plus (i - offset)) with
    | ok known => exact ⟨rfl, (h.retained_ok _ _ hget).2, rfl⟩
    | error e =>
      have := ih (show 1 ≤ offset + 1 by omega) (by omega)
      rwa [show i + 1 - (offset + 1) = i - offset by omega] at this

theorem predictedRemote_spec (hconfig : session.config = config)
    (h : Remembers config session accepted s) {i : ℕ} (hfirst : 256 ≤ i) (hi : i < 2 ^ 32) :
    (session.predictedRemote (config.origin.plus i)).frame = config.origin.plus i ∧
    (session.predictedRemote (config.origin.plus i)).player = config.remotePeer ∧
    (session.predictedRemote (config.origin.plus i)).buttons =
      Speculation.lookBack s.retained 0 256 i := by
  have hroom : kHistoryCapacity + 1 ≤ i + 1 := Nat.succ_le_succ hfirst
  have hsearch := searchRemote_spec h hi ⟨config.origin.plus i, config.remotePeer, 0, 0⟩ le_rfl
    hroom rfl rfl
  rw [Nat.add_sub_cancel] at hsearch
  rw [RollbackSession.predictedRemote, hconfig]
  exact hsearch

/-- The input a count is simulated with has the buttons the abstract machine resolves. -/
theorem remoteFor_spec (hconfig : session.config = config)
    (h : Remembers config session accepted s) {i : ℕ} (hfirst : 256 ≤ i) (hi : i < 2 ^ 32) :
    (session.remoteFor (config.origin.plus i)).frame = config.origin.plus i ∧
    (session.remoteFor (config.origin.plus i)).player = config.remotePeer ∧
    (session.remoteFor (config.origin.plus i)).buttons = Speculation.resolve 256 0 s i := by
  have hretained := h.retained i hi
  cases hget : session.storage.remoteInputs.get (config.origin.plus i) with
  | ok actual =>
    rw [hget] at hretained
    rw [remoteFor_of_ok hget, Speculation.Sound.resolve_eq hretained]
    exact ⟨(h.retained_ok _ _ hget).1, (h.retained_ok _ _ hget).2, rfl⟩
  | error e =>
    have hnone : s.retained i = none := by
      rw [hretained, hget]
      rfl
    have hguess : Speculation.resolve 256 0 s i = Speculation.lookBack s.retained 0 256 i := by
      rw [Speculation.resolve, hnone, Option.getD_none]
    rw [remoteFor_of_error hget, hguess]
    exact predictedRemote_spec hconfig h hfirst hi

end Predictions

/-! ## Simulating one count -/

theorem inputsMatch_iff (before : WorldState) (frame : FrameNumber) (inputs : InputPair) :
    inputsMatch before frame inputs = true ↔ before.frame = frame ∧ inputs.a.frame = frame ∧
      inputs.b.frame = frame ∧ inputs.a.player = .a ∧ inputs.b.player = .b := by
  simp [inputsMatch, and_assoc]

theorem SessionConfig.makePair_match (config : SessionConfig) {before : WorldState}
    {frame : FrameNumber} {loc remote : InputFrame} (hbefore : before.frame = frame)
    (hloc : loc.frame = frame ∧ loc.player = config.localPeer)
    (hremote : remote.frame = frame ∧ remote.player = config.remotePeer) :
    inputsMatch before frame (config.makePair loc remote) = true := by
  rw [inputsMatch_iff]
  simp only [SessionConfig.makePair, SessionConfig.remotePeer] at *
  cases hl : config.localPeer <;> simp_all

theorem makePair_buttons (config : SessionConfig) (loc : InputFrame) {remote remote' : InputFrame}
    (h : remote.buttons = remote'.buttons) :
    (config.makePair loc remote).a.buttons = (config.makePair loc remote').a.buttons ∧
      (config.makePair loc remote).b.buttons = (config.makePair loc remote').b.buttons := by
  simp only [SessionConfig.makePair]
  split
  · exact ⟨rfl, h⟩
  · exact ⟨h, rfl⟩

namespace History

variable {config : SessionConfig} {locals locals' : List InputFrame} {worlds : ℕ → WorldState}
  {used : ℕ → InputFrame} {reached : ℕ}

theorem earlier (h : History config locals worlds used reached) {j : ℕ} (hfirst : 256 ≤ j)
    (hj : j ≤ reached) : History config locals worlds used j where
  first_le := hfirst
  initial := h.initial
  legal := fun i hf hi => h.legal i hf (hi.trans hj)
  step := fun i hf hi => h.step i hf (lt_of_lt_of_le hi hj)
  used_ok := fun i hf hi => h.used_ok i hf (lt_of_lt_of_le hi hj)

theorem congr (h : History config locals worlds used reached)
    (hlocals : ∀ i, 256 ≤ i → i < reached → localAt locals' i = localAt locals i) :
    History config locals' worlds used reached where
  first_le := h.first_le
  initial := h.initial
  legal := h.legal
  step := fun i hf hi => by
    rw [hlocals i hf hi]
    exact h.step i hf hi
  used_ok := h.used_ok

/-- The world reached so far can be simulated with any remote input for its frame. -/
theorem simulate (h : History config locals worlds used reached) {loc remote : InputFrame}
    (hloc : loc.frame = config.origin.plus reached ∧ loc.player = config.localPeer)
    (hremote : remote.frame = config.origin.plus reached ∧ remote.player = config.remotePeer)
    (hsmall : reached + 1 < 256 + 2 ^ 31) :
    ∃ after, simulateFrame (worlds reached) (config.origin.plus reached)
        (config.makePair loc remote) config.variant = .ok after ∧
      LegalWorld (fun _ => 119) after ∧ after.frame = config.origin.plus (reached + 1) ∧
      after.nextProjectileId.toNat + 511 ≤ 2 * (reached + 1) := by
  obtain ⟨hlegal, hframe, hids⟩ := h.legal reached h.first_le le_rfl
  have hmatch := config.makePair_match hframe hloc hremote
  obtain ⟨after, hafter, hlegal', hframe', hids'⟩ :=
    hlegal.simulateFrame_ok hmatch config.variant (by omega)
  exact ⟨after, hafter, hlegal', by rw [hframe', nextFrame_plus], by omega⟩

theorem update_worlds (worlds : ℕ → WorldState) (after : WorldState) {i : ℕ} (hi : i ≤ reached) :
    Function.update worlds (reached + 1) after i = worlds i :=
  Function.update_of_ne (by omega) _ _

theorem update_used (used : ℕ → InputFrame) (remote : InputFrame) {i : ℕ} (hi : i < reached) :
    Function.update used reached remote i = used i :=
  Function.update_of_ne (by omega) _ _

theorem snoc (h : History config locals worlds used reached) {remote : InputFrame}
    {after : WorldState}
    (hremote : remote.frame = config.origin.plus reached ∧ remote.player = config.remotePeer)
    (hsim : simulateFrame (worlds reached) (config.origin.plus reached)
      (config.makePair (localAt locals reached) remote) config.variant = .ok after)
    (hlegal : LegalWorld (fun _ => 119) after) (hframe : after.frame = config.origin.plus (reached + 1))
    (hids : after.nextProjectileId.toNat + 511 ≤ 2 * (reached + 1)) :
    History config locals (Function.update worlds (reached + 1) after)
      (Function.update used reached remote) (reached + 1) where
  first_le := h.first_le.trans (Nat.le_succ _)
  initial := by
    rw [update_worlds worlds after h.first_le]
    exact h.initial
  legal := fun i hf hi => by
    rcases Nat.le_add_one_iff.1 hi with hi | rfl
    · rw [update_worlds worlds after hi]
      exact h.legal i hf hi
    · rw [Function.update_self]
      exact ⟨hlegal, hframe, hids⟩
  step := fun i hf hi => by
    rw [update_worlds worlds after (Nat.le_of_lt_succ hi)]
    rcases Nat.lt_succ_iff_lt_or_eq.1 hi with hlt | rfl
    · rw [update_used used remote hlt, update_worlds worlds after hlt]
      exact h.step i hf hlt
    · rw [Function.update_self, Function.update_self]
      exact hsim
  used_ok := fun i hf hi => by
    rcases Nat.lt_succ_iff_lt_or_eq.1 hi with hlt | rfl
    · rw [update_used used remote hlt]
      exact h.used_ok i hf hlt
    · rw [Function.update_self]
      exact hremote

end History

namespace Simulated

open History (update_worlds update_used)

variable {config : SessionConfig} {session : RollbackSession} {locals : List InputFrame}
  {worlds : ℕ → WorldState} {used : ℕ → InputFrame} {reached current : ℕ}

theorem congr (h : Simulated config session locals worlds used reached current)
    {next : RollbackSession} (hconfig : next.config = session.config)
    (hstate : next.state = session.state)
    (hlocal : next.storage.localInputs = session.storage.localInputs)
    (hused : next.storage.usedRemoteInputs = session.storage.usedRemoteInputs)
    (hsnapshots : next.storage.snapshots = session.storage.snapshots)
    (hhashes : next.storage.hashes = session.storage.hashes) :
    Simulated config next locals worlds used reached current where
  history := h.history
  config_eq := hconfig.trans h.config_eq
  reached_le := h.reached_le
  state_eq := hstate.trans h.state_eq
  local_ok := h.local_ok
  localInputs := hlocal ▸ h.localInputs
  usedRemoteInputs := hused ▸ h.usedRemoteInputs
  snapshots := hsnapshots ▸ h.snapshots
  hashes := hhashes ▸ h.hashes

/-- What remains known when the simulation starts over from an earlier snapshot. -/
theorem restart (h : Simulated config session locals worlds used current current) {j : ℕ}
    (hfirst : 256 ≤ j) (hj : j ≤ current) :
    Simulated config { session with state := worlds j } locals worlds used j current where
  history := h.history.earlier hfirst hj
  config_eq := h.config_eq
  reached_le := hj
  state_eq := rfl
  local_ok := h.local_ok
  localInputs := h.localInputs
  usedRemoteInputs := h.usedRemoteInputs.congr hj (fun _ _ => rfl)
  snapshots := h.snapshots.congr hj (fun _ _ => rfl)
  hashes := h.hashes.congr (Nat.succ_le_succ hj) (fun _ _ => rfl)

/-- One round of the resimulation loop brings one more count up to date and touches
nothing that the session remembers. -/
theorem resimulateFrame (h : Simulated config session locals worlds used reached current)
    (hlt : reached < current) (hnear : current ≤ reached + 256) (hsmall : current < 256 + 2 ^ 31)
    (hremote : (session.remoteFor (config.origin.plus reached)).frame = config.origin.plus reached ∧
      (session.remoteFor (config.origin.plus reached)).player = config.remotePeer) :
    ∃ after next, session.resimulateFrame (config.origin.plus reached) = (.ok (), next) ∧
      Simulated config next locals (Function.update worlds (reached + 1) after)
        (Function.update used reached (session.remoteFor (config.origin.plus reached)))
        (reached + 1) current ∧
      next.storage.remoteInputs = session.storage.remoteInputs ∧
      next.earliestDirty = session.earliestDirty ∧ next.metrics = session.metrics := by
  set remote := session.remoteFor (config.origin.plus reached) with hr
  have hfirst := h.history.first_le
  have hloc := h.local_ok reached hfirst hlt
  have hget := h.localInputs.get_eq reached hfirst hlt hnear
  obtain ⟨after, hsim, hlegal, hframe, hids⟩ := h.history.simulate hloc hremote (by omega)
  have hrun : session.resimulateFrame (config.origin.plus reached) = (.ok (),
      { session with
        state := after
        storage :=
          { session.storage with
            snapshots :=
              (session.storage.snapshots.put (config.origin.plus reached) session.state).2
            usedRemoteInputs :=
              (session.storage.usedRemoteInputs.put (config.origin.plus reached) remote).2
            hashes := (session.storage.hashes.put after.frame (hashCanonical after)).2 } }) := by
    rw [← h.state_eq] at hsim
    rw [RollbackSession.resimulateFrame, hget]
    simp only [← hr, h.config_eq, hsim]
  have hle : current ≤ 2 ^ 32 := by omega
  refine ⟨after, _, hrun, ?_, rfl, rfl, rfl⟩
  constructor
  · exact h.history.snoc hremote hsim hlegal hframe hids
  · exact h.config_eq
  · exact hlt
  · rw [Function.update_self]
  · exact h.local_ok
  · exact h.localInputs
  · apply h.usedRemoteInputs.rewrite kHistoryCapacity_dvd hle hfirst hlt hnear
    · exact fun i hi => (update_used used remote hi).symm
    · rw [Function.update_self]
  · apply h.snapshots.rewrite kHistoryCapacity_dvd hle hfirst hlt hnear
    · exact fun i hi => (update_worlds worlds after hi.le).symm
    · rw [update_worlds worlds after le_rfl, h.state_eq]
  · rw [hframe]
    apply h.hashes.rewrite kHistoryCapacity_dvd (by omega) (by omega) (by omega)
      (by simp only [kHistoryCapacity]; omega)
    · exact fun i hi =>
        congrArg hashCanonical (update_worlds worlds after (Nat.le_of_lt_succ hi)).symm
    · rw [Function.update_self]

/-- Advancing runs one more count and pushes it onto every ring. -/
theorem extend (h : Simulated config session locals worlds used current current)
    (hlen : current = 256 + locals.length) (hsmall : current + 1 < 256 + 2 ^ 31)
    {loc remote : InputFrame}
    (hloc : loc.frame = config.origin.plus current ∧ loc.player = config.localPeer)
    (hremote : remote.frame = config.origin.plus current ∧ remote.player = config.remotePeer) :
    ∃ after, simulateFrame session.state (config.origin.plus current)
        (config.makePair loc remote) config.variant = .ok after ∧
      after.frame = config.origin.plus (current + 1) ∧
      ∀ metrics, Simulated config (session.advanced loc remote after metrics)
        (locals ++ [loc]) (Function.update worlds (current + 1) after)
        (Function.update used current remote) (current + 1) (current + 1) := by
  have hfirst := h.history.first_le
  have hold : ∀ i, 256 ≤ i → i < current → localAt (locals ++ [loc]) i = localAt locals i :=
    fun i hf hi => localAt_append locals loc hf (hlen ▸ hi)
  have hlast : localAt (locals ++ [loc]) current = loc := by
    rw [hlen]
    exact localAt_last locals loc
  obtain ⟨after, hsim, hlegal, hframe, hids⟩ := h.history.simulate hloc hremote (by omega)
  have hle : current < 2 ^ 32 := by omega
  have hstate : session.state.frame = config.origin.plus current := by
    rw [h.state_eq]
    exact (h.history.legal current hfirst le_rfl).2.1
  have hrings : ∀ metrics, (session.advanced loc remote after metrics).storage =
      { session.storage with
        snapshots := (session.storage.snapshots.put (config.origin.plus current) session.state).2
        localInputs := (session.storage.localInputs.put (config.origin.plus current) loc).2
        usedRemoteInputs :=
          (session.storage.usedRemoteInputs.put (config.origin.plus current) remote).2
        hashes := (session.storage.hashes.put (config.origin.plus (current + 1))
          (hashCanonical after)).2 } := by
    intro metrics
    rw [RollbackSession.advanced, hstate, hframe, hloc.1]
  refine ⟨after, h.state_eq ▸ hsim, hframe, fun metrics => ?_⟩
  constructor
  · apply (h.history.congr hold).snoc hremote
    · rw [hlast]
      exact hsim
    · exact hlegal
    · exact hframe
    · exact hids
  · exact h.config_eq
  · exact le_rfl
  · rw [Function.update_self]
    rfl
  · intro i hf hi
    rcases Nat.lt_succ_iff_lt_or_eq.1 hi with hlt | rfl
    · rw [hold i hf hlt]
      exact h.local_ok i hf hlt
    · rw [hlast]
      exact hloc
  · rw [hrings]
    apply (h.localInputs.push kHistoryCapacity_dvd hfirst hle loc).congr
    intro i hf hi _
    rcases Nat.lt_succ_iff_lt_or_eq.1 hi with hlt | rfl
    · rw [Function.update_of_ne (by omega), hold i hf hlt]
    · rw [Function.update_self, hlast]
  · rw [hrings]
    exact (h.usedRemoteInputs.full.push kHistoryCapacity_dvd hfirst hle remote).upTo _
  · rw [hrings]
    apply ((h.snapshots.full.push kHistoryCapacity_dvd hfirst hle session.state).upTo _).congr le_rfl
    intro i hi
    rcases Nat.lt_succ_iff_lt_or_eq.1 hi with hlt | rfl
    · rw [Function.update_of_ne (by omega), update_worlds worlds after hlt.le]
    · rw [Function.update_self, update_worlds worlds after le_rfl, h.state_eq]
  · rw [hrings]
    apply ((h.hashes.full.push kHistoryCapacity_dvd (by omega) (by omega) _).upTo _).congr le_rfl
    intro i hi
    rcases Nat.lt_succ_iff_lt_or_eq.1 hi with hlt | rfl
    · rw [Function.update_of_ne (by omega), update_worlds worlds after (Nat.le_of_lt_succ hlt)]
    · rw [Function.update_self, Function.update_self]

theorem resimulate (h : Simulated config session locals worlds used reached current)
    {j rounds offset : ℕ} (hoffset : j + offset = reached) (hrounds : reached + rounds = current)
    (hnear : current ≤ reached + 256) (hsmall : current < 256 + 2 ^ 31)
    (hremote : ∀ i, reached ≤ i → i < current →
      (session.remoteFor (config.origin.plus i)).frame = config.origin.plus i ∧
        (session.remoteFor (config.origin.plus i)).player = config.remotePeer) :
    ∃ next worlds' used',
      session.resimulate (config.origin.plus j) rounds offset = (.ok (), next) ∧
      Simulated config next locals worlds' used' current current ∧
      (∀ i < reached, used' i = used i) ∧
      (∀ i, reached ≤ i → i < current → used' i = session.remoteFor (config.origin.plus i)) ∧
      next.storage.remoteInputs = session.storage.remoteInputs ∧
      next.earliestDirty = session.earliestDirty ∧ next.metrics = session.metrics := by
  induction rounds generalizing session worlds used reached offset with
  | zero =>
    obtain rfl : reached = current := by omega
    exact ⟨session, worlds, used, rfl, h, fun _ _ => rfl, fun i hf hi => by omega, rfl, rfl, rfl⟩
  | succ rounds ih =>
    have hfirst := hremote reached le_rfl (by omega)
    obtain ⟨after, middle, hround, hsim, hring, hdirty, hmetrics⟩ :=
      h.resimulateFrame (by omega) hnear hsmall hfirst
    have hsame := remoteFor_congr (hsim.config_eq.trans h.config_eq.symm) hring
    obtain ⟨next, worlds', used', hloop, hdone, hold, hnew, hring', hdirty', hmetrics'⟩ :=
      ih hsim (show j + (offset + 1) = reached + 1 by omega) (by omega) (by omega) (fun i hf hi => by
        rw [hsame]
        exact hremote i (by omega) hi)
    refine ⟨next, worlds', used', ?_, hdone, fun i hi => ?_, fun i hf hi => ?_,
      hring'.trans hring, hdirty'.trans hdirty, hmetrics'.trans hmetrics⟩
    · have hframe : (⟨(config.origin.plus j).value + UInt32.ofNat offset⟩ : FrameNumber) =
          config.origin.plus reached := by
        rw [← hoffset]
        exact config.origin.plus_plus j offset
      rw [RollbackSession.resimulate, hframe, hround]
      exact hloop
    · rw [hold i (by omega), Function.update_of_ne (by omega)]
    · rcases Nat.eq_or_lt_of_le hf with rfl | hlt
      · rw [hold reached (Nat.lt_succ_self _), Function.update_self]
      · rw [hnew i hlt hi, hsame]

end Simulated

/-! ## The watermark -/

section Confirmation

variable {config : SessionConfig} {session : RollbackSession} {locals : List InputFrame}
  {accepted : FrameNumber → Option InputFrame} {s : Machine}

theorem contains_iff_isSome (ring : FrameRing InputFrame kHistoryCapacity) (frame : FrameNumber) :
    ring.contains frame = ((ring.get frame).toOption.map InputFrame.buttons).isSome := by
  rw [Bool.eq_iff_iff, FrameRing.contains_iff]
  cases ring.get frame <;> simp [Except.toOption]

theorem dirtyStops_iff (h : Remembers config session accepted s) (hsmall : s.current < 256 + 2 ^ 31)
    {k : ℕ} (hfirst : 256 ≤ k) (hk : k ≤ s.current) :
    session.dirtyStops (config.origin.plus k) = true ↔ ¬ s.Clean k := by
  have hwindow := h.dirty_window
  simp only [RollbackSession.dirtyStops, h.dirty, Speculation.State.Clean]
  cases hd : s.dirty with
  | none => simp
  | some j =>
    obtain ⟨hfj, hjc, -⟩ := hwindow j hd
    simp only [Option.map_some, Option.any_some, Bool.or_eq_true, beq_iff_eq,
      FrameNumber.plus_inj (show k < 2 ^ 32 by omega) (show j < 2 ^ 32 by omega),
      frameBefore_plus config.origin (show k < j + 2 ^ 31 by omega) (show j ≤ k + 2 ^ 31 by omega),
      Option.some.injEq, forall_eq']
    omega

theorem confirmFrom_spec (h : Remembers config session accepted s)
    (hlocal : session.storage.localInputs.Holds config.origin 256 s.current (localAt locals))
    (hsmall : s.current < 256 + 2 ^ 31) {rounds k : ℕ} (hfirst : 256 ≤ k) (hk : k ≤ s.current) :
    session.confirmFrom rounds (config.origin.plus k) =
      config.origin.plus (Speculation.scan (Speculation.eligible 256 s) rounds k) := by
  induction rounds generalizing k with
  | zero => rfl
  | succ rounds ih =>
    have hheld : session.storage.localInputs.contains (config.origin.plus k) = true ↔
        k < s.current ∧ s.current ≤ k + 256 := by
      rw [hlocal.contains_iff (by omega) (by omega)]
      exact and_iff_right hfirst
    have hremote : session.storage.remoteInputs.contains (config.origin.plus k) = true ↔
        ∃ v, s.retained k = some v := by
      rw [contains_iff_isSome, ← h.retained k (by omega), Option.isSome_iff_exists]
    have hstops := dirtyStops_iff h hsmall hfirst hk
    have heligible : Speculation.eligible 256 s k = true ↔ _ := Speculation.eligible_iff s k
    simp only [RollbackSession.confirmFrom, Speculation.scan]
    by_cases he : Speculation.eligible 256 s k = true
    · obtain ⟨hcur, hcap, hret, hclean⟩ := heligible.1 he
      rw [if_pos he, hheld.2 ⟨hcur, hcap⟩, hremote.2 hret,
        Bool.eq_false_iff.2 (fun hs => hstops.1 hs hclean), nextFrame_plus]
      exact ih (by omega) (by omega)
    · rw [if_neg he]
      split
      · rename_i hboth
        rw [Bool.and_eq_true, hheld, hremote] at hboth
        rw [if_pos]
        rw [hstops]
        exact fun hclean => he (heligible.2 ⟨hboth.1.1, hboth.1.2, hboth.2, hclean⟩)
      · rfl

theorem confirm_confirmed_le (s : Machine) (h : s.confirmed ≤ s.current) :
    (Speculation.confirm 256 s).confirmed ≤ s.current := by
  rcases Nat.eq_or_lt_of_le
    (Speculation.le_scan (Speculation.eligible 256 s) 256 s.confirmed) with he | hlt
  · change Speculation.scan _ 256 s.confirmed ≤ _
    rwa [← he]
  · have hpass := Speculation.scan_passed _ _ (Nat.le_sub_one_of_lt hlt) (Nat.sub_one_lt (by omega))
    have := ((Speculation.eligible_iff s _).1 hpass).1
    exact Nat.le_of_pred_lt this

theorem Remembers.updateConfirmation (h : Remembers config session accepted s)
    (hlocal : session.storage.localInputs.Holds config.origin 256 s.current (localAt locals))
    (hsmall : s.current < 256 + 2 ^ 31) :
    Remembers config session.updateConfirmation accepted (Speculation.confirm 256 s) where
  retained := h.retained
  retained_ok := h.retained_ok
  accepted_eq := h.accepted_eq
  accepted_ok := h.accepted_ok
  dirty := h.dirty
  dirty_window := h.dirty_window
  confirmed := by
    simp only [RollbackSession.updateConfirmation, h.confirmed]
    exact confirmFrom_spec h hlocal hsmall h.first_le h.confirmed_le
  first_le := h.first_le.trans (Speculation.le_scan _ _ _)
  confirmed_le := confirm_confirmed_le s h.confirmed_le

/-- A remote input that arrives takes its slot of the ring. -/
theorem Remembers.store (h : Remembers config session accepted s) {remote : InputFrame} {i : ℕ}
    (hi : i < 2 ^ 32) (hframe : remote.frame = config.origin.plus i)
    (hplayer : remote.player = config.remotePeer) {next : RollbackSession}
    (hring : next.storage.remoteInputs =
      (session.storage.remoteInputs.put remote.frame remote).2)
    (hdirty : next.earliestDirty = session.earliestDirty)
    (hconfirmed : next.metrics.confirmedFrame = session.metrics.confirmedFrame) :
    Remembers config next (Function.update accepted remote.frame (some remote))
      (Speculation.store 256 s i remote.buttons) where
  retained := fun g hg => by
    rw [hring, FrameRing.get_put, hframe]
    simp only [FrameNumber.plus_inj hg hi, frameRingIndex_plus kHistoryCapacity_dvd]
    change (if g = i then _ else if g % kHistoryCapacity = i % kHistoryCapacity then _
      else s.retained g) = _
    split
    · rfl
    · by_cases hmod : g % kHistoryCapacity = i % kHistoryCapacity
      · rw [if_pos hmod, if_pos hmod]
        rfl
      · rw [if_neg hmod, if_neg hmod]
        exact h.retained g hg
  retained_ok := fun f known hknown => by
    rw [hring, FrameRing.get_put] at hknown
    split at hknown
    · rename_i he
      obtain rfl := Except.ok.inj hknown
      exact ⟨he.symm, hplayer⟩
    · split at hknown
      · cases hknown
      · exact h.retained_ok f known hknown
  accepted_eq := fun g hg => by
    change Function.update s.accepted i (some remote.buttons) g = _
    rw [hframe]
    rcases eq_or_ne g i with rfl | hne
    · rw [Function.update_self, Function.update_self]
      rfl
    · rw [Function.update_of_ne hne, Function.update_of_ne
        (fun he => hne ((FrameNumber.plus_inj hg hi).1 he))]
      exact h.accepted_eq g hg
  accepted_ok := fun f known hknown => by
    rcases eq_or_ne f remote.frame with rfl | hne
    · rw [Function.update_self] at hknown
      obtain rfl := Option.some.inj hknown
      exact ⟨rfl, hplayer⟩
    · rw [Function.update_of_ne hne] at hknown
      exact h.accepted_ok f known hknown
  dirty := hdirty.trans h.dirty
  dirty_window := h.dirty_window
  confirmed := hconfirmed.trans h.confirmed
  first_le := h.first_le
  confirmed_le := h.confirmed_le

theorem Remembers.mark (h : Remembers config session accepted s) (hsmall : s.current < 256 + 2 ^ 31)
    {i : ℕ} (hfirst : 256 ≤ i) (hlt : i < s.current) (hnear : s.current ≤ i + 256)
    (hwindow : s.current ≤ i + config.maxRollbackFrames.toNat) :
    Remembers config (session.markDirty (config.origin.plus i)) accepted
      (Speculation.mark s i) := by
  have hdirty := h.dirty
  have hbefore : frameBefore (config.origin.plus i) (config.origin.plus s.confirmed) = true ↔
      i < s.confirmed := by
    have hle := h.confirmed_le
    have hge := h.first_le
    exact frameBefore_plus config.origin (by omega) (by omega)
  have hfield : (session.markDirty (config.origin.plus i)).earliestDirty =
      (Speculation.mark s i).dirty.map config.origin.plus := by
    change _ = some (config.origin.plus (min (s.dirty.getD i) i))
    have hmin : (if session.earliestDirty.all fun dirty => frameBefore (config.origin.plus i) dirty
        then some (config.origin.plus i) else session.earliestDirty) =
        some (config.origin.plus (min (s.dirty.getD i) i)) := by
      rw [hdirty]
      cases hd : s.dirty with
      | none => simp
      | some j =>
        obtain ⟨hfj, hjc, -⟩ := h.dirty_window j hd
        simp only [Option.map_some, Option.all_some, Option.getD_some,
          frameBefore_plus config.origin (show j < i + 2 ^ 31 by omega) (show i ≤ j + 2 ^ 31 by omega)]
        by_cases hij : i < j
        · rw [if_pos hij, Nat.min_eq_right hij.le]
        · rw [if_neg hij, Nat.min_eq_left (Nat.le_of_not_lt hij)]
    rw [← hmin]
    simp only [RollbackSession.markDirty]
    split <;> split <;> rfl
  have hmetrics : (session.markDirty (config.origin.plus i)).metrics.confirmedFrame =
      config.origin.plus (min s.confirmed i) := by
    have hmarked : (session.markDirty (config.origin.plus i)).metrics.confirmedFrame =
        if frameBefore (config.origin.plus i) session.metrics.confirmedFrame then
          config.origin.plus i else session.metrics.confirmedFrame := by
      simp only [RollbackSession.markDirty]
      split <;> split <;> simp_all
    rw [hmarked, h.confirmed]
    simp only [hbefore]
    by_cases hi : i < s.confirmed
    · rw [if_pos hi, Nat.min_eq_right hi.le]
    · rw [if_neg hi, Nat.min_eq_left (Nat.le_of_not_lt hi)]
  have hstorage := (markDirty_fields session (config.origin.plus i)).2.2
  refine ⟨?_, ?_, h.accepted_eq, h.accepted_ok, hfield, fun j hj => ?_, hmetrics,
    le_min h.first_le hfirst, (min_le_left _ _).trans h.confirmed_le⟩
  · rw [hstorage]
    exact h.retained
  · rw [hstorage]
    exact h.retained_ok
  · obtain rfl : min (s.dirty.getD i) i = j := Option.some.inj hj
    rcases min_choice (s.dirty.getD i) i with he | he
    · rw [he]
      cases hd : s.dirty with
      | none => exact ⟨hfirst, hlt, hnear, hwindow⟩
      | some k => exact h.dirty_window k hd
    · rw [he]
      exact ⟨hfirst, hlt, hnear, hwindow⟩

end Confirmation

/-! ## Every call is an operation of the machine -/

namespace Refines

variable {config : SessionConfig} {run : SessionRun} {s : Machine} {worlds : ℕ → WorldState}
  {used : ℕ → InputFrame}

theorem updateConfirmation (h : Refines config run s worlds used) :
    Refines config { run with session := run.session.updateConfirmation }
      (Speculation.confirm 256 s) worlds used where
  current_eq := h.current_eq
  small := h.small
  simulated := h.simulated.congr rfl rfl rfl rfl rfl rfl
  remembers := h.remembers.updateConfirmation h.simulated.localInputs h.small
  used_eq := h.used_eq

theorem frame_eq (h : Refines config run s worlds used) :
    run.session.state.frame = config.origin.plus s.current := by
  rw [h.simulated.state_eq]
  exact (h.simulated.history.legal s.current h.simulated.history.first_le le_rfl).2.1

theorem remoteFor_spec (h : Refines config run s worlds used) {i : ℕ} (hfirst : 256 ≤ i)
    (hi : i < 2 ^ 32) :
    ((run.session.remoteFor (config.origin.plus i)).frame = config.origin.plus i ∧
      (run.session.remoteFor (config.origin.plus i)).player = config.remotePeer) ∧
    (run.session.remoteFor (config.origin.plus i)).buttons = Speculation.resolve 256 0 s i := by
  obtain ⟨hframe, hplayer, hbuttons⟩ :=
    RollbackLab.remoteFor_spec h.simulated.config_eq h.remembers hfirst hi
  exact ⟨⟨hframe, hplayer⟩, hbuttons⟩

/-- A correction never fails, resimulates within the window and ends where it began. -/
theorem flush (h : Refines config run s worlds used) :
    ∃ result next worlds' used', run.session.flushCorrections = (.ok result, next) ∧
      Refines config { run with session := next } (Speculation.flush 256 0 s) worlds' used' ∧
      next.state.frame = run.session.state.frame ∧
      (result.performed = true → 1 ≤ result.resimulatedFrames.toNat ∧
        result.resimulatedFrames.toNat ≤ config.maxRollbackFrames.toNat) := by
  have hsmall := h.small
  cases hd : s.dirty with
  | none =>
    have hnone : run.session.earliestDirty = none := by rw [h.remembers.dirty, hd]; rfl
    refine ⟨{}, run.session.updateConfirmation, worlds, used, ?_, ?_, rfl, fun hp => by cases hp⟩
    · rw [RollbackSession.flushCorrections, hnone]
    · rw [Speculation.flush, hd]
      exact h.updateConfirmation
  | some j =>
    have hsome : run.session.earliestDirty = some (config.origin.plus j) := by
      rw [h.remembers.dirty, hd]
      rfl
    obtain ⟨hfirst, hlt, hnear, hwindow⟩ := h.remembers.dirty_window j hd
    have hdepth : (frameDistance (config.origin.plus j) run.session.state.frame).toNat =
        s.current - j := by
      rw [h.frame_eq]
      exact frameDistance_plus config.origin hlt.le (by omega)
    have hin : ¬ run.session.config.maxRollbackFrames <
        frameDistance (config.origin.plus j) run.session.state.frame := by
      rw [UInt32.lt_iff_toNat_lt, hdepth, h.simulated.config_eq]
      omega
    have hsnapshot := h.simulated.snapshots.full.get_eq j hfirst hlt hnear
    have hstart := h.simulated.restart hfirst hlt.le
    have hsame : ∀ frame, ({ run.session with state := worlds j } : RollbackSession).remoteFor frame =
        run.session.remoteFor frame := fun frame => remoteFor_congr rfl rfl frame
    obtain ⟨next, worlds', used', hloop, hdone, hold, hnew, hring, hdirty, hmetrics⟩ :=
      hstart.resimulate (Nat.add_zero j) (Nat.add_sub_of_le hlt.le) hnear (by omega)
        (fun i hf hi => by
          rw [hsame]
          exact (h.remoteFor_spec (by omega) (by omega)).1)
    have hrun : run.session.flushCorrections = (.ok ⟨true, config.origin.plus j,
        frameDistance (config.origin.plus j) run.session.state.frame⟩,
        ({ next with
          earliestDirty := none
          metrics := RollbackSession.recordRollback next.metrics
            (frameDistance (config.origin.plus j) run.session.state.frame) } :
          RollbackSession).updateConfirmation) := by
      rw [hsome] at hloop
      rw [RollbackSession.flushCorrections, hsome]
      simp only [if_neg hin, hsnapshot, hdepth, hloop]
    have hreruns : Refines config
        { run with
          session :=
            { next with
              earliestDirty := none
              metrics := RollbackSession.recordRollback next.metrics
                (frameDistance (config.origin.plus j) run.session.state.frame) } }
        (Speculation.rerun 256 0 s j) worlds' used' := by
      refine ⟨h.current_eq, h.small, hdone.congr rfl rfl rfl rfl rfl rfl,
        ⟨?_, ?_, h.remembers.accepted_eq, h.remembers.accepted_ok, rfl, fun k hk => (by cases hk), ?_,
          h.remembers.first_le, h.remembers.confirmed_le⟩, fun i hf hi => ?_⟩
      · rw [hring]
        exact h.remembers.retained
      · rw [hring]
        exact h.remembers.retained_ok
      · rw [RollbackSession.recordRollback, hmetrics]
        exact h.remembers.confirmed
      · change (if j ≤ i ∧ i < s.current then _ else _) = _
        by_cases hji : j ≤ i
        · rw [if_pos ⟨hji, hi⟩, hnew i hji hi, hsame, (h.remoteFor_spec hf (by
            have : i < s.current := hi
            omega)).2]
        · rw [if_neg (fun hc => hji hc.1), hold i (by omega)]
          exact h.used_eq i hf hi
    refine ⟨_, _, worlds', used', hrun, ?_, ?_, fun _ => ?_⟩
    · rw [Speculation.flush, hd]
      exact hreruns.updateConfirmation
    · exact (hreruns.frame_eq).trans h.frame_eq.symm
    · rw [hdepth]
      omega

/-- With no correction pending, an advance with the local input of the current frame
succeeds and moves on by one frame. -/
theorem advanceClean (h : Refines config run s worlds used) (hsmall : run.locals.length + 1 < 2 ^ 31)
    (hclean : s.dirty = none) {loc : InputFrame} (hframe : loc.frame = run.session.state.frame)
    (hplayer : loc.player = config.localPeer) :
    ∃ result next worlds' used', run.session.advanceClean loc = (.ok result, next) ∧
      Refines config ⟨next, run.locals ++ [loc], run.accepted⟩ (Speculation.advance 256 0 s)
        worlds' used' ∧
      next.state.frame = nextFrame run.session.state.frame := by
  have hcurrent := h.current_eq
  have hstate := h.frame_eq
  have hconfig := h.simulated.config_eq
  have hloc : loc.frame = config.origin.plus s.current ∧ loc.player = config.localPeer :=
    ⟨hframe.trans hstate, hplayer⟩
  obtain ⟨hremote, hbuttons⟩ := h.remoteFor_spec (by omega : 256 ≤ s.current) (by omega)
  obtain ⟨after, hsim, hafter, hextend⟩ := h.simulated.extend hcurrent (by omega) hloc hremote
  rw [← hstate] at hsim hextend hbuttons
  rw [← hconfig] at hsim
  obtain ⟨result, metrics, hwatermark, hrun⟩ := advanceClean_ok hframe (hconfig ▸ hplayer) hsim
  have hextended : Refines config ⟨run.session.advanced loc
      (run.session.remoteFor run.session.state.frame) after metrics, run.locals ++ [loc],
      run.accepted⟩ (Speculation.extend 256 0 s) (Function.update worlds (s.current + 1) after)
      (Function.update used s.current (run.session.remoteFor run.session.state.frame)) := by
    refine ⟨?_, ?_, hextend metrics, ⟨h.remembers.retained, h.remembers.retained_ok,
      h.remembers.accepted_eq, h.remembers.accepted_ok, h.remembers.dirty, fun j hj => ?_,
      hwatermark.trans h.remembers.confirmed, h.remembers.first_le,
      h.remembers.confirmed_le.trans (Nat.le_succ _)⟩, fun i hf hi => ?_⟩
    · change s.current + 1 = _
      rw [List.length_append, List.length_singleton]
      omega
    · change s.current + 1 < _
      omega
    · rw [show (Speculation.extend 256 0 s).dirty = s.dirty from rfl, hclean] at hj
      cases hj
    · change Function.update s.used s.current _ i = _
      rcases Nat.lt_succ_iff_lt_or_eq.1 hi with hlt | rfl
      · rw [Function.update_of_ne (by omega), Function.update_of_ne (by omega)]
        exact h.used_eq i hf hlt
      · rw [Function.update_self, Function.update_self, hbuttons]
  refine ⟨result, _, _, _, hrun, hextended.updateConfirmation, ?_⟩
  change after.frame = _
  rw [hafter, hstate, nextFrame_plus]

/-- A remote input is either refused, and nothing changes, or it arrives at its count,
which is then inside the window or ahead. -/
theorem ingest (h : Refines config run s worlds used) (remote : InputFrame) :
    (∃ e, run.session.ingestRemote remote = (.error e, run.session)) ∨
    ∃ next i, run.session.ingestRemote remote = (.ok (), next) ∧ i < 2 ^ 32 ∧
      remote.frame = config.origin.plus i ∧
      (frameBefore remote.frame run.session.state.frame = true →
        (frameDistance remote.frame run.session.state.frame).toNat ≤
          config.maxRollbackFrames.toNat) ∧
      Refines config
        ⟨next, run.locals, Function.update run.accepted remote.frame (some remote)⟩
        (Speculation.accept 256 256 s i remote.buttons) worlds used := by
  have hsmall := h.small
  have hconfig := h.simulated.config_eq
  have hstate := h.frame_eq
  obtain ⟨i, hi, hframe⟩ := FrameNumber.exists_plus config.origin remote.frame
  by_cases hplayer : remote.player ≠ run.session.config.remotePeer
  · exact Or.inl ⟨_, by rw [RollbackSession.ingestRemote, if_pos hplayer]⟩
  by_cases hwindow : frameBefore remote.frame run.session.state.frame = true ∧
      run.session.config.maxRollbackFrames < frameDistance remote.frame run.session.state.frame
  · exact Or.inl ⟨_, by rw [RollbackSession.ingestRemote, if_neg hplayer]; exact if_pos hwindow⟩
  have hpeer : remote.player = run.session.config.remotePeer := not_not.1 hplayer
  have hin : frameBefore remote.frame run.session.state.frame = true →
      (frameDistance remote.frame run.session.state.frame).toNat ≤
        config.maxRollbackFrames.toNat := by
    intro hl
    by_contra hgt
    refine hwindow ⟨hl, ?_⟩
    rw [UInt32.lt_iff_toNat_lt, hconfig]
    omega
  refine Or.inr ⟨_, i, ingestRemote_ok hpeer hwindow, hi, hframe, hin, ?_⟩
  set late := frameBefore remote.frame run.session.state.frame with hlate
  set kept := run.session.keepRemote remote late with hkept
  have hremembers : Remembers config kept (Function.update run.accepted remote.frame (some remote))
      (Speculation.store 256 s i remote.buttons) :=
    h.remembers.store hi hframe (hconfig ▸ hpeer) rfl rfl
      (RollbackSession.keepRemote_confirmedFrame _ _ _)
  have hsimulated : Simulated config kept run.locals worlds used s.current s.current :=
    h.simulated.congr rfl rfl rfl rfl rfl rfl
  rw [Speculation.accept]
  -- the count is marked exactly when the abstract machine finds a contradiction
  by_cases hc : Speculation.Contradicts 256 256 s i remote.buttons
  · obtain ⟨hfirst, hlt, hnear, hne⟩ := hc
    have hl : late = true := by
      rw [hlate, hframe, hstate]
      exact (frameBefore_plus config.origin (by omega) (by omega)).2 hlt
    have hdepth : s.current ≤ i + config.maxRollbackFrames.toNat := by
      have := hin hl
      rw [hframe, hstate, frameDistance_plus config.origin hlt.le (by omega)] at this
      omega
    have hget : kept.storage.usedRemoteInputs.get remote.frame = .ok (used i) := by
      rw [hframe]
      exact h.simulated.usedRemoteInputs.full.get_eq i hfirst hlt hnear
    have hdiffers : samePredictedValue (used i) remote = false := by
      rw [samePredictedValue, ← h.used_eq i hfirst hlt]
      exact beq_false_of_ne hne
    have hmark : kept.compareUsed remote = kept.markDirty (config.origin.plus i) := by
      rw [RollbackSession.compareUsed, hget, ← hframe]
      simp only [hdiffers, Bool.not_false, if_true]
    have hmarks := hremembers.mark hsmall hfirst hlt hnear hdepth
    obtain ⟨hmconfig, hmstate, hmstorage⟩ := markDirty_fields kept (config.origin.plus i)
    have hsame := hsimulated.congr hmconfig hmstate (congrArg _ hmstorage) (congrArg _ hmstorage)
      (congrArg _ hmstorage) (congrArg _ hmstorage)
    have hrefines : Refines config ⟨kept.markDirty (config.origin.plus i), run.locals,
        Function.update run.accepted remote.frame (some remote)⟩
        (Speculation.mark (Speculation.store 256 s i remote.buttons) i) worlds used :=
      ⟨h.current_eq, hsmall, hsame, hmarks, h.used_eq⟩
    have hcontradicts : Speculation.Contradicts 256 256 s i remote.buttons :=
      ⟨hfirst, hlt, hnear, hne⟩
    rw [if_pos hcontradicts, if_pos hl, hmark]
    exact hrefines.updateConfirmation
  · have hmark : (if late = true then kept.compareUsed remote else kept) = kept := by
      split
      · simp only [RollbackSession.compareUsed]
        split
        · rename_i earlier hget
          have hget' : run.session.storage.usedRemoteInputs.get (config.origin.plus i) =
              .ok earlier := hframe ▸ hget
          obtain ⟨hfirst, hlt, hnear⟩ := (h.simulated.usedRemoteInputs.full.get_eq_ok_iff
            (by omega) hi).1 ⟨earlier, hget'⟩
          have hearlier : earlier = used i := Except.ok.inj
            (hget'.symm.trans (h.simulated.usedRemoteInputs.full.get_eq i hfirst hlt hnear))
          have hsame : s.used i = remote.buttons := by
            by_contra hne
            exact hc ⟨hfirst, hlt, hnear, hne⟩
          have heq : samePredictedValue earlier remote = true := by
            rw [samePredictedValue, hearlier, ← h.used_eq i hfirst hlt, hsame]
            exact beq_self_eq_true _
          rw [heq]
          rfl
        · rfl
      · rfl
    have hrefines : Refines config ⟨kept, run.locals,
        Function.update run.accepted remote.frame (some remote)⟩
        (Speculation.store 256 s i remote.buttons) worlds used :=
      ⟨h.current_eq, hsmall, hsimulated, hremembers, h.used_eq⟩
    rw [if_neg hc, hmark]
    exact hrefines.updateConfirmation

theorem flush_dirty (s : Machine) : (Speculation.flush 256 0 s).dirty = none := by
  unfold Speculation.flush
  cases hd : s.dirty with
  | none => exact hd
  | some j => rfl

/-- An advance corrects first, whether or not it then accepts its argument. -/
theorem advance (h : Refines config run s worlds used) (hsmall : run.locals.length + 1 < 2 ^ 31)
    (loc : InputFrame) :
    ∃ ready : Machine, ready.dirty = none ∧
      (ready = s ∨ ready = Speculation.flush 256 0 s) ∧
      ((loc.frame = run.session.state.frame ∧ loc.player = config.localPeer ∧
        ∃ result next worlds' used', run.session.advance loc = (.ok result, next) ∧
          Refines config ⟨next, run.locals ++ [loc], run.accepted⟩
            (Speculation.advance 256 0 ready) worlds' used' ∧
          next.state.frame = nextFrame run.session.state.frame) ∨
      (¬ (loc.frame = run.session.state.frame ∧ loc.player = config.localPeer) ∧
        ∃ e next worlds' used', run.session.advance loc = (.error e, next) ∧
          Refines config { run with session := next } ready worlds' used' ∧
          next.state.frame = run.session.state.frame)) := by
  -- once nothing is pending the argument decides
  have hclean : ∀ {session : RollbackSession} {ready : Machine} {worlds used},
      Refines config { run with session := session } ready worlds used → ready.dirty = none →
      (loc.frame = session.state.frame ∧ loc.player = config.localPeer ∧
        ∃ result next worlds' used', session.advanceClean loc = (.ok result, next) ∧
          Refines config ⟨next, run.locals ++ [loc], run.accepted⟩
            (Speculation.advance 256 0 ready) worlds' used' ∧
          next.state.frame = nextFrame session.state.frame) ∨
      (¬ (loc.frame = session.state.frame ∧ loc.player = config.localPeer) ∧
        ∃ e next worlds' used', session.advanceClean loc = (.error e, next) ∧
          Refines config { run with session := next } ready worlds' used' ∧
          next.state.frame = session.state.frame) := by
    intro session ready worlds used hr hd
    by_cases hmatch : loc.frame = session.state.frame ∧ loc.player = config.localPeer
    · exact Or.inl ⟨hmatch.1, hmatch.2, hr.advanceClean hsmall hd hmatch.1 hmatch.2⟩
    · have hrun := advanceClean_mismatch (hr.simulated.config_eq.symm ▸ hmatch)
      exact Or.inr ⟨hmatch, _, session, worlds, used, hrun, hr, rfl⟩
  have hdirty := h.remembers.dirty
  cases hd : s.dirty with
  | none =>
    have hadvance : run.session.advance loc = run.session.advanceClean loc := by
      rw [RollbackSession.advance, hdirty, hd]
      rfl
    refine ⟨s, hd, Or.inl rfl, ?_⟩
    rw [hadvance]
    exact hclean h hd
  | some j =>
    obtain ⟨result, flushed, worlds', used', hrun, hrefines, hframe, -⟩ := h.flush
    have hadvance : run.session.advance loc = flushed.advanceClean loc := by
      rw [RollbackSession.advance, hdirty, hd, hrun]
      rfl
    refine ⟨_, flush_dirty s, Or.inr rfl, ?_⟩
    rw [hadvance, ← hframe]
    exact hclean hrefines (flush_dirty s)

end Refines

/-! ## Runs -/

section Runs

variable {config : SessionConfig} {guard : SessionRun → SessionCall → Prop} {run : SessionRun}
  {arrival : Machine → ℕ → Prop} {P : Machine → Prop}

theorem Refines.start (config : SessionConfig)
    (hinitial : config.initialState =
      { makeInitialWorld with frame := config.initialState.frame }) :
    Refines config (SessionRun.start config) (Speculation.State.start 256 0)
      (fun _ => config.initialState) (fun _ => default) := by
  have horigin : config.origin.plus 256 = config.initialState.frame := by
    rw [config.origin_plus 0, FrameNumber.plus_zero]
  have hlegal : LegalWorld (fun _ => 119) config.initialState := by
    rw [hinitial]
    exact LegalWorld.makeInitialWorld.withFrame _
  have hids : config.initialState.nextProjectileId = 1 := by
    rw [hinitial]
    rfl
  have hempty : ∀ frame,
      (FrameRing.empty : FrameRing InputFrame kHistoryCapacity).get frame =
        .error (FrameRing.staleError frame) := FrameRing.get_empty
  refine ⟨rfl, by simp [Speculation.State.start], ⟨⟨le_rfl, rfl, ?_, ?_, ?_⟩, rfl, le_rfl, rfl,
    ?_, ?_, ?_, ?_, ?_⟩, ⟨?_, ?_, fun _ _ => rfl, ?_, rfl, ?_, ?_, le_rfl, le_rfl⟩, ?_⟩
  · intro i hf hi
    obtain rfl : i = 256 := Nat.le_antisymm hi hf
    exact ⟨hlegal, horigin.symm, by rw [hids]; decide⟩
  · intro i hf hi
    exact absurd hi (Nat.not_lt.2 hf)
  · intro i hf hi
    exact absurd hi (Nat.not_lt.2 hf)
  · intro i hf hi
    exact absurd hi (Nat.not_lt.2 hf)
  · exact FrameRing.holds_empty _ _ _
  · exact (FrameRing.holds_empty _ _ _).upTo _
  · exact (FrameRing.holds_empty _ _ _).upTo _
  · have hpush := (FrameRing.holds_empty config.origin 256
      (fun _ => hashCanonical config.initialState)).push kHistoryCapacity_dvd le_rfl (by norm_num)
      (hashCanonical config.initialState)
    rw [horigin] at hpush
    refine (hpush.upTo _).congr le_rfl (fun i _ => ?_)
    rcases eq_or_ne i 256 with rfl | hne
    · rw [Function.update_self]
    · rw [Function.update_of_ne hne]
  · intro i _
    rw [show (SessionRun.start config).session.storage.remoteInputs = .empty from rfl, hempty]
    rfl
  · intro f remote hget
    rw [show (SessionRun.start config).session.storage.remoteInputs = .empty from rfl, hempty] at hget
    cases hget
  · intro f remote hget
    cases hget
  · intro j hj
    cases hj
  · exact horigin.symm
  · intro i hf hi
    exact absurd hi (Nat.not_lt.2 hf)

/-- What every operation keeps, every call keeps. -/
theorem Refines.call (hkept : Kept 256 256 0 arrival P) {s : Machine} {worlds used}
    (h : Refines config run s worlds used) (hP : P s) (c : SessionCall)
    (hsmall : ∀ loc, c = .advance loc → run.locals.length + 1 < 2 ^ 31)
    (harrival : ∀ remote i, c = .ingestRemote remote →
      (run.session.ingestRemote remote).1 = .ok () → i < 2 ^ 32 →
      remote.frame = config.origin.plus i →
      (frameBefore remote.frame run.session.state.frame = true →
        (frameDistance remote.frame run.session.state.frame).toNat ≤
          config.maxRollbackFrames.toNat) → arrival s i) :
    ∃ s' worlds' used', Refines config (run.call c) s' worlds' used' ∧ P s' := by
  cases c with
  | advance loc =>
    obtain ⟨ready, hclean, hready, hcase⟩ := h.advance (hsmall loc rfl) loc
    have hPready : P ready := by
      rcases hready with rfl | rfl
      · exact hP
      · exact hkept.flush s hP
    rcases hcase with ⟨-, -, result, next, worlds', used', hrun, hrefines, -⟩ |
        ⟨-, e, next, worlds', used', hrun, hrefines, -⟩
    · simp only [SessionRun.call, hrun]
      exact ⟨_, _, _, hrefines, hkept.advance ready hPready hclean⟩
    · simp only [SessionRun.call, hrun]
      exact ⟨_, _, _, hrefines, hPready⟩
  | ingestRemote remote =>
    rcases h.ingest remote with ⟨e, hrun⟩ | ⟨next, i, hrun, hi, hframe, hwindow, hrefines⟩
    · simp only [SessionRun.call, hrun]
      exact ⟨_, _, _, h, hP⟩
    · have harrives := harrival remote i rfl (by rw [hrun]) hi hframe hwindow
      simp only [SessionRun.call, hrun]
      exact ⟨_, _, _, hrefines, hkept.accept s i _ hP harrives⟩
  | flushCorrections =>
    obtain ⟨result, next, worlds', used', hrun, hrefines, -⟩ := h.flush
    simp only [SessionRun.call, hrun]
    exact ⟨_, _, _, hrefines, hkept.flush s hP⟩

theorem SessionRun.locals_length_le (run : SessionRun) (c : SessionCall) :
    run.locals.length ≤ (run.call c).locals.length := by
  cases c with
  | advance loc =>
    simp only [SessionRun.call]
    split
    · simp
    · exact le_rfl
  | ingestRemote remote =>
    simp only [SessionRun.call]
    split <;> exact le_rfl
  | flushCorrections => exact le_rfl

theorem SessionRun.locals_length_le_succ (run : SessionRun) (c : SessionCall) :
    (run.call c).locals.length ≤ run.locals.length + 1 := by
  cases c with
  | advance loc =>
    simp only [SessionRun.call]
    split
    · simp
    · exact Nat.le_succ _
  | ingestRemote remote =>
    simp only [SessionRun.call]
    split <;> exact Nat.le_succ _
  | flushCorrections => exact Nat.le_succ _

theorem SessionRun.locals_length_calls (calls : List SessionCall) (run : SessionRun) :
    (calls.foldl SessionRun.call run).locals.length ≤ run.locals.length + calls.length := by
  induction calls generalizing run with
  | nil => exact le_rfl
  | cons c calls ih =>
    have hcalls := ih (run.call c)
    have hcall := run.locals_length_le_succ c
    rw [List.foldl_cons, List.length_cons]
    omega

/-- In a run that ends with fewer than `n` advances, every call was made with fewer. -/
theorem SessionRun.Reachable.bounded {n : ℕ} (h : SessionRun.Reachable config guard run)
    (hn : run.locals.length < n) : SessionRun.Reachable config
      (fun run c => guard run c ∧ run.locals.length < n) run := by
  induction h with
  | start => exact .start
  | call c _ hc ih =>
    have hlt := lt_of_le_of_lt (SessionRun.locals_length_le _ c) hn
    exact .call c (ih hlt) ⟨hc, hlt⟩

/-- Every reachable session refines a reachable state of the abstract machine. -/
theorem SessionRun.Reachable.refines (hkept : Kept 256 256 0 arrival P)
    (hinitial : config.initialState =
      { makeInitialWorld with frame := config.initialState.frame })
    (hsmall : ∀ run loc, guard run (.advance loc) → run.locals.length + 1 < 2 ^ 31)
    (harrival : ∀ run s worlds used remote i, Refines config run s worlds used →
      guard run (.ingestRemote remote) → (run.session.ingestRemote remote).1 = .ok () →
      i < 2 ^ 32 → remote.frame = config.origin.plus i →
      (frameBefore remote.frame run.session.state.frame = true →
        (frameDistance remote.frame run.session.state.frame).toNat ≤
          config.maxRollbackFrames.toNat) → arrival s i)
    (h : SessionRun.Reachable config guard run) :
    ∃ s worlds used, Refines config run s worlds used ∧ P s := by
  induction h with
  | start => exact ⟨_, _, _, Refines.start config hinitial, hkept.start⟩
  | @call run c _ hc ih =>
    obtain ⟨s, worlds, used, hrefines, hP⟩ := ih
    apply hrefines.call hkept hP c
    · rintro loc rfl
      exact hsmall run loc hc
    · rintro remote i rfl
      exact harrival run s worlds used remote i hrefines hc

end Runs

end RollbackLab
