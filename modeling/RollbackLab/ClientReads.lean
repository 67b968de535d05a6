import RollbackLab.CanonicalBytes
import RollbackLab.DriverIsolation
import RollbackLab.TraceTexts

/-!
# What a client reads

A client of the C ABI asks for the size of a text first, and then for the text. What it reads
of a match that it has stepped to its end is what the runner of scenarios returns, byte for
byte, whatever else the process has called meanwhile.
-/

namespace RollbackLab

open LiveScenario (totalTicks play Refused)

/-! ## Two-stage copies -/

/-- The status of a copy, and what it writes: the size that is needed, and the bytes if there is
room for all of them. -/
structure RlCopy where
  status : RlStatus
  required : Option UInt32 := none
  bytes : Option (List UInt8) := none
  deriving DecidableEq, Repr

/-- `buffer` and `required` tell whether the pointers are there. -/
def copyBytes (bytes : List UInt8) (buffer : Bool) (capacity : UInt32) (required : Bool) : RlCopy :=
  if !required ∨ (!buffer ∧ capacity ≠ 0) then { status := .invalidArgument }
  else if 2 ^ 32 ≤ bytes.length then { status := .capacity }
  else
    let size := UInt32.ofNat bytes.length
    if !buffer ∨ capacity < size then { status := .bufferTooSmall, required := some size }
    else { status := .ok, required := some size, bytes := some bytes }

/-- A text is copied with the zero at its end. -/
def copyString (text : List UInt8) : Bool → UInt32 → Bool → RlCopy := copyBytes (text ++ [0])

/-- A client asks for the size, and then for the bytes. -/
def twoStageCopy (copy : Bool → UInt32 → Bool → RlCopy) : Except RlStatus (List UInt8) :=
  let asked := copy false 0 true
  match asked.status, asked.required with
  | .bufferTooSmall, some size =>
    let copied := copy true size true
    match copied.bytes with
    | some bytes => .ok bytes
    | none => .error copied.status
  | status, _ => .error status

/-- Bytes whose number fits into 32 bits. -/
def sized (bytes : List UInt8) : Except RlStatus (List UInt8) :=
  if 2 ^ 32 ≤ bytes.length then .error .capacity else .ok bytes

theorem twoStageCopy_copyBytes (bytes : List UInt8) : twoStageCopy (copyBytes bytes) = sized bytes := by
  rw [sized]
  split
  next hlong =>
    have hasked : copyBytes bytes false 0 true = { status := .capacity } := by
      rw [copyBytes, if_neg (by simp), if_pos hlong]
    rw [twoStageCopy, hasked]
  next hshort =>
    have hasked : copyBytes bytes false 0 true =
        { status := .bufferTooSmall, required := some (UInt32.ofNat bytes.length) } := by
      rw [copyBytes, if_neg (by simp), if_neg hshort]
      exact if_pos (Or.inl rfl)
    have hcopied : copyBytes bytes true (UInt32.ofNat bytes.length) true =
        { status := .ok, required := some (UInt32.ofNat bytes.length), bytes := some bytes } := by
      rw [copyBytes, if_neg (by simp), if_neg hshort]
      exact if_neg (by simp)
    rw [twoStageCopy, hasked]
    dsimp only
    rw [hcopied]

theorem twoStageCopy_refused (status : RlStatus) :
    twoStageCopy (fun _ _ _ => { status }) = .error status := by
  cases status <;> rfl

namespace RlMemory

theorem Taken.unique {memory : RlMemory} {pointer : Option ℕ} {session other : RlSession}
    (h : memory.Taken pointer session) (hother : memory.Taken pointer other) : session = other := by
  obtain ⟨handle, rfl, hsession, -⟩ := h
  obtain ⟨_, ⟨⟩, hother, -⟩ := hother
  exact Option.some.inj (hsession.symm.trans hother)

/-- What is taken is a new session. -/
theorem Taken.created {memory : RlMemory} {pointer : Option ℕ} {session : RlSession}
    (h : memory.Taken pointer session) (hsound : memory.Sound) :
    session.native = .create session.native.config := by
  obtain ⟨handle, -, hsession, huntouched⟩ := h
  exact (hsound.unused handle session hsession huntouched).created

variable (memory : RlMemory)

/-- The bytes of a session come without a question whether there is a buffer: without one there
is no capacity. -/
def sessionSerializeState (session : Option ℕ) (buffer : Bool) (capacity : UInt32) (required : Bool) :
    RlCopy :=
  match memory.checkSession session with
  | .error status => { status }
  | .ok (_, session) =>
    if !required ∨ (!buffer ∧ capacity ≠ 0) then { status := .invalidArgument }
    else
      let bytes := serializeCanonical session.native.report.state
      if 2 ^ 32 ≤ bytes.length then { status := .capacity }
      else
        let size := UInt32.ofNat bytes.length
        if capacity < size then { status := .bufferTooSmall, required := some size }
        else { status := .ok, required := some size, bytes := some bytes }

def liveCopyReport (live : Option ℕ) (buffer : Bool) (capacity : UInt32) (required : Bool) : RlCopy :=
  match memory.checkLive live with
  | .error status => { status }
  | .ok (_, live) =>
    if !live.finished then { status := .invalidFrame }
    else
      match canonicalJson live.native.artifacts.report with
      | .error error => { status := toStatus error.code }
      | .ok json => copyString json buffer capacity required

def liveCopyTrace (live : Option ℕ) (buffer : Bool) (capacity : UInt32) (required : Bool) : RlCopy :=
  match memory.checkLive live with
  | .error status => { status }
  | .ok (_, live) =>
    match canonicalTraceJson live.native.artifacts.trace with
    | .error error => { status := toStatus error.code }
    | .ok json => copyString json buffer capacity required

def liveCopyReplay (live : Option ℕ) (buffer : Bool) (capacity : UInt32) (required : Bool) : RlCopy :=
  match memory.checkLive live with
  | .error status => { status }
  | .ok (_, live) =>
    if !live.finished then { status := .invalidFrame }
    else
      match encodeReplay live.native.artifacts.replay with
      | .error error => { status := toStatus error.code }
      | .ok bytes => copyBytes bytes buffer capacity required

variable {memory} {handle address : ℕ} {session : RlSession}

/-- A client reads the canonical bytes of the world, also of a session that is borrowed. -/
theorem twoStageCopy_serializeState (hfound : memory.sessions handle = some session) :
    twoStageCopy (memory.sessionSerializeState (some handle)) =
      .ok (serializeCanonical session.native.report.state) := by
  have hchecked : memory.checkSession (some handle) = .ok (handle, session) :=
    checkSession_ok.2 ⟨rfl, hfound, by simp⟩
  have hlength := serializeCanonical_length session.native.report.state
  have hshort : ¬2 ^ 32 ≤ (serializeCanonical session.native.report.state).length := by
    rw [hlength]
    decide
  have hasked : memory.sessionSerializeState (some handle) false 0 true =
      { status := .bufferTooSmall, required := some 1598 } := by
    rw [sessionSerializeState, hchecked]
    dsimp only
    rw [if_neg (by simp), if_neg hshort, hlength]
    rfl
  have hcopied : memory.sessionSerializeState (some handle) true 1598 true =
      { status := .ok, required := some 1598, bytes := some (serializeCanonical session.native.report.state) } := by
    rw [sessionSerializeState, hchecked]
    dsimp only
    rw [if_neg (by simp), if_neg hshort, hlength]
    rfl
  rw [twoStageCopy, hasked]
  dsimp only
  rw [hcopied]

/-- What a client gets for bytes or for the error that was found instead of them. -/
def exported : Result (List UInt8) → Except RlStatus (List UInt8)
  | .error error => .error (toStatus error.code)
  | .ok bytes => sized bytes

/-- A text with the zero that a client expects at its end. -/
def terminated (text : Result (List UInt8)) : Result (List UInt8) := text.map fun json => json ++ [0]

theorem twoStageCopy_exported {copy : Bool → UInt32 → Bool → RlCopy} {source : Result (List UInt8)}
    (hcopy : copy = fun buffer capacity required =>
      match source with
      | .error error => { status := toStatus error.code }
      | .ok bytes => copyBytes bytes buffer capacity required) :
    twoStageCopy copy = exported source := by
  subst hcopy
  cases source with
  | error e => exact twoStageCopy_refused (toStatus e.code)
  | ok bytes => exact twoStageCopy_copyBytes bytes

variable {scenario : LiveScenario}

/-- The trace can be read at any time. -/
theorem Hosts.copyTrace (h : memory.Hosts address scenario) :
    twoStageCopy (memory.liveCopyTrace (some address)) =
      exported (terminated (canonicalTraceJson scenario.artifacts.trace)) := by
  obtain ⟨live, sessionA, sessionB, hlive, -, -, rfl, -⟩ := h
  have hchecked : memory.checkLive (some address) = .ok (address, live) := lookUp_ok.2 ⟨rfl, hlive⟩
  refine twoStageCopy_exported (funext fun buffer => funext fun capacity => funext fun required => ?_)
  rw [liveCopyTrace, hchecked]
  dsimp only
  rw [show (live.scenario sessionA.native sessionB.native).artifacts.trace =
    live.native.artifacts.trace from rfl]
  cases canonicalTraceJson live.native.artifacts.trace with
  | error e => rfl
  | ok json => rfl

/-- Report and replay can be read once the scenario has ended well. -/
theorem Hosts.copyOutcome (h : memory.Hosts address scenario) (hworked : scenario.failure = none)
    (hended : scenario.finished = true) :
    twoStageCopy (memory.liveCopyReport (some address)) =
        exported (terminated (canonicalJson scenario.artifacts.report)) ∧
      twoStageCopy (memory.liveCopyReplay (some address)) =
        exported (encodeReplay scenario.artifacts.replay) := by
  obtain ⟨live, sessionA, sessionB, hlive, -, -, rfl, -, hfinished⟩ := h
  have hchecked : memory.checkLive (some address) = .ok (address, live) := lookUp_ok.2 ⟨rfl, hlive⟩
  have hdone := hfinished.2 ⟨hworked, hended⟩
  have hsame : (live.scenario sessionA.native sessionB.native).artifacts = live.native.artifacts := rfl
  rw [hsame]
  constructor
  · refine twoStageCopy_exported (funext fun buffer => funext fun capacity => funext fun required => ?_)
    rw [liveCopyReport, hchecked]
    dsimp only
    rw [hdone, if_neg (by decide)]
    cases canonicalJson live.native.artifacts.report with
    | error e => rfl
    | ok json => rfl
  · refine twoStageCopy_exported (funext fun buffer => funext fun capacity => funext fun required => ?_)
    rw [liveCopyReplay, hchecked]
    dsimp only
    rw [hdone]
    rfl

/-- There is nothing to read of a scenario that has not ended well. -/
theorem Hosts.copyRefused (h : memory.Hosts address scenario) (hworked : scenario.failure ≠ none) :
    twoStageCopy (memory.liveCopyReport (some address)) = .error .invalidFrame ∧
      twoStageCopy (memory.liveCopyReplay (some address)) = .error .invalidFrame := by
  obtain ⟨live, sessionA, sessionB, hlive, -, -, rfl, -, hfinished⟩ := h
  have hchecked : memory.checkLive (some address) = .ok (address, live) := lookUp_ok.2 ⟨rfl, hlive⟩
  have hopen : live.finished = false := Bool.eq_false_iff.2 fun hdone => hworked (hfinished.1 hdone).1
  have hreport : memory.liveCopyReport (some address) = fun _ _ _ => { status := .invalidFrame } := by
    funext buffer capacity required
    rw [liveCopyReport, hchecked]
    dsimp only
    rw [hopen]
    rfl
  have hreplay : memory.liveCopyReplay (some address) = fun _ _ _ => { status := .invalidFrame } := by
    funext buffer capacity required
    rw [liveCopyReplay, hchecked]
    dsimp only
    rw [hopen]
    rfl
  rw [hreport, hreplay]
  exact ⟨twoStageCopy_refused _, twoStageCopy_refused _⟩

end RlMemory

/-! ## A client and the runner -/

namespace LiveScenario

variable {first : LiveScenario}

/-- Steps without a press. -/
theorem foldl_unpressed {presses : List (Option UInt8)} (h : ∀ press ∈ presses, press = none)
    (live : LiveScenario) :
    presses.foldl (fun live press => (live.step press).2) live = play (fun _ => none) live presses.length := by
  induction presses generalizing live with
  | nil => rfl
  | cons press rest ih =>
    obtain ⟨rfl, hrest⟩ := List.forall_mem_cons.1 h
    rw [List.foldl_cons, ih hrest, List.length_cons, play_succ]

/-- There is nothing left to do after the last tick. -/
theorem play_total_closed (hopen : first.Open) (hindex : first.tickIndex = 0)
    (hroom : totalTicks first.config < 2 ^ 32) :
    ¬(play (fun _ => none) first (totalTicks first.config)).Open := by
  intro hlast
  have hnone : ∀ t : ℕ, ¬Refused ((fun _ => none : ℕ → Option UInt8) t) :=
    fun _ => not_refused fun _ hmem => by cases hmem
  have htick := play_index hnone hlast
  have hstanding := (TickRule.any first.config).reaches rfl hopen hindex hroom
    (reaches_play (fun _ => none) first (totalTicks first.config))
  rw [hindex, UInt32.zero_add] at htick
  generalize play (fun _ => none) first (totalTicks first.config) = last at hlast htick hstanding
  cases hstanding with
  | running _ _ hticks =>
    rw [htick, UInt32.toNat_ofNat_of_lt' hroom] at hticks
    exact absurd hticks (lt_irrefl _)
  | failed => cases hlast.1
  | ended => exact not_open_ending _ hlast

theorem play_beyond {n : ℕ} (hclosed : ¬(play (fun _ => none) first n).Open) (m : ℕ) :
    play (fun _ => none) first (n + m) = play (fun _ => none) first n := by
  induction m with
  | zero => rfl
  | succ m ih => rw [← Nat.add_assoc, play, ih, step_idle fun hactive => hclosed hactive.1]

/-- The runner returns what a client finds who steps often enough without a press. -/
theorem foldl_runSteps {presses : List (Option UInt8)} (hopen : first.Open) (hindex : first.tickIndex = 0)
    (hroom : totalTicks first.config < 2 ^ 32) (hnone : ∀ press ∈ presses, press = none)
    (henough : totalTicks first.config ≤ presses.length) :
    let last := presses.foldl (fun live press => (live.step press).2) first
    (∃ error, last.failure = some error ∧ first.runSteps (totalTicks first.config) = .error error) ∨
      last.failure = none ∧ last.finished = true ∧
        first.runSteps (totalTicks first.config) = .ok last.artifacts := by
  have hclosed := play_total_closed hopen hindex hroom
  obtain ⟨hfails, hends⟩ := runSteps_play hopen (totalTicks first.config)
  intro last
  have hlast : last = play (fun _ => none) first (totalTicks first.config) := by
    rw [← play_beyond hclosed (presses.length - totalTicks first.config), Nat.add_sub_cancel' henough]
    exact foldl_unpressed hnone first
  rw [hlast]
  cases hfailure : (play (fun _ => none) first (totalTicks first.config)).failure with
  | some error => exact Or.inl ⟨error, rfl, hfails error hfailure⟩
  | none =>
    have hfinished : (play (fun _ => none) first (totalTicks first.config)).finished = true := by
      by_contra hunfinished
      exact hclosed ⟨hfailure, Bool.not_eq_true _ ▸ hunfinished⟩
    exact Or.inr ⟨rfl, hfinished, hends hfailure hfinished⟩

end LiveScenario

open RlMemory (exported terminated)

/-- The default run of the command line. -/
def sampleLiveConfig : RlLiveConfig :=
  { plainLiveConfig with
    scenarioSeed := 12648430
    transportSeed := 5351397
    frameCount := 240
    baseLatencyTicks := 5
    jitterTicks := 3
    lossPercent := 5
    reorderPercent := 10
    duplicatePercent := 5
    burstLossPercent := 1 }

end RollbackLab
