import RollbackLab.TraceSampling
import RollbackLab.TruthfulRun

/-!
# The verdict on a match

A match that ends is judged by what both sessions have confirmed. If both have confirmed
all frames, and play by rules that lead to the hash of the canonical world, it is a
success. Sessions that both play by the canonical rules never see each other differ.
-/

namespace RollbackLab

open LiveScenario (Reaches totalTicks)

namespace LiveMatch

variable {m : LiveMatch}

/-! ## After the last tick -/

theorem replayOf_end (m : LiveMatch) {t : ℕ} (ht : m.frames ≤ t) :
    m.replayOf t m.frames =
      m.script.replay m.config.scenarioSeed m.config.transportSeed m.frames := by
  rw [replayOf, if_pos ht]
  rfl

/-- The verdict follows a correction of each session, which goes through. -/
theorem exists_verdict {live : LiveScenario} {heard : Sides (Finset ℕ)} {n : ℕ}
    (h : m.Peers n heard live.context) :
    ∃ peers : Sides RollbackSession,
      live.finalize =
          (({ live with context := { live.context with peer := peers } } : LiveScenario).judged.judge,
            ({ live with context := { live.context with peer := peers } } : LiveScenario).judged) ∧
        m.Peers n heard { live.context with peer := peers } := by
  have hlimit := m.frames_lt
  obtain ⟨cA, hpaysA⟩ := h.pays .a
  obtain ⟨cB, hpaysB⟩ := h.pays .b
  obtain ⟨resultA, nextA, cA', hflushA, -, hcleanA, hnextA, -⟩ := hpaysA.flush hlimit
  obtain ⟨resultB, nextB, cB', hflushB, -, hcleanB, hnextB, -⟩ := hpaysB.flush hlimit
  obtain ⟨correctionA, peerA, correctionB, peerB, hA, hB, hcases⟩ := live.finalize_cases
  rw [show live.context.peer.a.flushCorrections = _ from hflushA] at hA
  rw [show live.context.peer.b.flushCorrections = _ from hflushB] at hB
  cases hA
  cases hB
  rcases hcases with ⟨error, -, herror | herror⟩ | ⟨-, hfinal⟩
  · cases herror
  · cases herror
  · refine ⟨⟨nextA, nextB⟩, hfinal, fun id => ?_, fun id => ?_⟩
    · cases id with
      | a => exact ⟨cA', hnextA⟩
      | b => exact ⟨cB', hnextB⟩
    · cases id with
      | a => exact hcleanA
      | b => exact hcleanB

/-- The frame that both peers have confirmed, in the report. -/
theorem buildReport_confirmed {live : LiveScenario} {cA cB : ℕ}
    (hA : live.context.peer.a.metrics.confirmedFrame = ⟨UInt32.ofNat cA⟩)
    (hB : live.context.peer.b.metrics.confirmedFrame = ⟨UInt32.ofNat cB⟩)
    (hsmallA : cA < 2 ^ 30) (hsmallB : cB < 2 ^ 30) :
    live.buildReport.confirmedFrame = ⟨UInt32.ofNat (min cA cB)⟩ := by
  have hbefore : frameBefore ⟨UInt32.ofNat cA⟩ ⟨UInt32.ofNat cB⟩ = true ↔ cA < cB := by
    rw [← Traces.zero_plus, ← Traces.zero_plus]
    exact frameBefore_plus _ (by omega) (by omega)
  change (if frameBefore live.context.peer.a.metrics.confirmedFrame
      live.context.peer.b.metrics.confirmedFrame then live.context.peer.a.metrics.confirmedFrame
    else live.context.peer.b.metrics.confirmedFrame) = _
  rw [hA, hB]
  split
  next hlt => rw [min_eq_left (hbefore.1 hlt).le]
  next hge => rw [min_eq_right (Nat.le_of_not_lt fun hlt => hge (hbefore.2 hlt))]

/-- The rules of a session lead to the hash of the canonical world. -/
def Agrees (m : LiveMatch) : Prop :=
  ∀ id, hashCanonical (m.script.worldAt (m.session.of id).variant m.frames) =
    hashCanonical (m.script.worldAt .canonical m.frames)

/-- Both sessions have confirmed the whole script. -/
def Settled (m : LiveMatch) (peers : Sides RollbackSession) : Prop :=
  ∀ id, Follows (m.session.of id) m.script m.frames m.frames m.frames (peers.of id)

theorem Settled.finalHash {peers : Sides RollbackSession} (h : m.Settled peers) (id : PlayerId) :
    (peers.of id).report.finalHash =
      hashCanonical (m.script.worldAt (m.session.of id).variant m.frames) := by
  have hstate := (h id).final
  rw [m.script.world_eq _ m.frames_lt] at hstate
  rw [RollbackSession.report, ← Except.ok.inj hstate]

/-- A settled match without a desync is a success, if the rules agree. -/
theorem buildReport_success {live : LiveScenario} (hsettled : m.Settled live.context.peer)
    (hagrees : m.Agrees) (hconfig : live.config = m.config)
    (hreplay : live.replay =
      m.script.replay m.config.scenarioSeed m.config.transportSeed m.frames)
    (hdesync : ∀ id, (live.context.desync.of id).diagnostic = none) :
    live.buildReport.success = true ∧ live.buildReport.replayVerified = true ∧
      live.buildReport.confirmedFrame = ⟨m.config.frameCount⟩ := by
  have hlimit := m.frames_lt
  have hcount : UInt32.ofNat m.frames = m.config.frameCount := UInt32.ofNat_toNat
  have hconfirmed := buildReport_confirmed (hsettled .a).confirmedFrame_eq
    (hsettled .b).confirmedFrame_eq hlimit hlimit
  rw [min_self, hcount] at hconfirmed
  have hverified : (verifyReplay live.replay).isOk = true := by
    rw [hreplay, InputScript.verifyReplay_replay hlimit]
    rfl
  have hhash : ∀ id, (live.context.peer.of id).report.finalHash = live.replay.expectedFinalHash := by
    intro id
    rw [hsettled.finalHash id, hagrees id, hreplay, InputScript.replay]
  have hhashA : live.context.peer.a.report.finalHash = live.replay.expectedFinalHash := hhash .a
  have hhashB : live.context.peer.b.report.finalHash = live.replay.expectedFinalHash := hhash .b
  have hdesyncA : live.context.desync.a.diagnostic = none := hdesync .a
  have hdesyncB : live.context.desync.b.diagnostic = none := hdesync .b
  refine ⟨?_, hverified, hconfirmed⟩
  change (live.buildReport.confirmedFrame == ⟨live.config.frameCount⟩ &&
    live.context.peer.a.report.finalHash == live.context.peer.b.report.finalHash &&
    live.context.peer.a.report.finalHash == live.replay.expectedFinalHash &&
    (verifyReplay live.replay).isOk && !(live.context.desync.a.diagnostic.isSome ||
      live.context.desync.b.diagnostic.isSome)) = true
  rw [hconfirmed, hconfig, hhashA, hhashB, hverified, hdesyncA, hdesyncB]
  simp

/-! ## Rules with the same hashes -/

/-- Both sessions see the same hashes. -/
def SameHashes (m : LiveMatch) : Prop :=
  ∀ id, ∀ k ≤ m.frames, hashCanonical (m.script.worldAt (m.session.of id).variant k) =
    hashCanonical (m.script.worldAt (m.session.of (remoteId id)).variant k)

/-- No hashes have been found to differ. -/
def Undiverged (context : DeliveryContext) : Prop :=
  (∀ id, (context.desync.of id).diagnostic = none) ∧ context.trace.desync = none

theorem Undiverged.quiet {context next : DeliveryContext} (hquiet : context.Quiet next)
    (h : Undiverged context) : Undiverged next := by
  rw [Undiverged, hquiet.desync, hquiet.marker]
  exact h

/-- A hash that the receiver shares is compared without a trace. -/
theorem compareHash_same {n c k : ℕ} {receiver : PlayerId} {context : DeliveryContext}
    {hash : ConfirmedHash}
    (hfollows : Follows (m.session.of receiver) m.script m.frames n c (context.peer.of receiver))
    (hn : n < 2 ^ 30) (hk : k < 2 ^ 30) (hframe : hash.frame = ⟨UInt32.ofNat k⟩)
    (hhash : hash.hash = hashCanonical (m.script.worldAt (m.session.of receiver).variant k)) :
    context.compareHash receiver hash = context := by
  rw [DeliveryContext.compareHash]
  dsimp only
  cases hlocal : (context.peer.of receiver).hashAt hash.frame with
  | error error => rfl
  | ok localHash =>
    obtain ⟨j, world, hj, hboundary, hworld, hvalue, -⟩ := hfollows.hashAt hn hlocal
    have hle := hfollows.confirmed_le
    have hjk : j = k := by
      rw [hframe, FrameNumber.mk.injEq, ← UInt32.toNat_inj,
        UInt32.toNat_ofNat_of_lt' (by simp only [UInt32.size]; omega),
        UInt32.toNat_ofNat_of_lt' (by simp only [UInt32.size]; omega)] at hboundary
      exact hboundary.symm
    rw [hjk, m.script.world_eq _ hk] at hworld
    dsimp only
    rw [if_pos (by rw [hvalue, hhash, ← Except.ok.inj hworld])]

theorem compareHashes_same {n c : ℕ} {receiver : PlayerId} {context : DeliveryContext}
    {hashes : List ConfirmedHash}
    (hfollows : Follows (m.session.of receiver) m.script m.frames n c (context.peer.of receiver))
    (hn : n < 2 ^ 30)
    (hhashes : ∀ hash ∈ hashes, ∃ k < 2 ^ 30, hash.frame = ⟨UInt32.ofNat k⟩ ∧
      hash.hash = hashCanonical (m.script.worldAt (m.session.of receiver).variant k)) :
    hashes.foldl (DeliveryContext.compareHash receiver) context = context := by
  induction hashes with
  | nil => rfl
  | cons hash hashes ih =>
    obtain ⟨⟨k, hk, hframe, hhash⟩, hrest⟩ := List.forall_mem_cons.1 hhashes
    rw [List.foldl_cons, compareHash_same hfollows hn hk hframe hhash, ih hrest]

/-- A packet shows no difference when both sessions see the same hashes. -/
theorem Peers.receive_undiverged (hsame : m.SameHashes) {n k n' c' : ℕ} {context : DeliveryContext}
    {heard : Sides (Finset ℕ)} (hpeers : m.Peers n heard context) {receiver : PlayerId}
    {sequence : UInt32} {packet : Packet}
    (htells : Tells m.script (m.session.of (remoteId receiver)).variant (remoteId receiver) sequence k
      n' c' packet)
    (hn : n ≤ m.frames) (hc : c' ≤ m.frames) (hreached : ∀ j < k, j ≤ n ∧ j < m.frames)
    (h : Undiverged context) : Undiverged (context.receive receiver packet).2 := by
  have hlimit := m.frames_lt
  rcases hpeers.receive receiver htells hn hreached with
    ⟨error, session, heq, -, -, -⟩ | ⟨before, correction, session, heq, -, hafter, -⟩
  · rw [heq]
    exact h
  obtain ⟨c, hpays⟩ := hafter.pays receiver
  obtain ⟨corrections, rollbacks, omitted, hrecord⟩ :=
    (context.setPeer receiver session).recordCorrection_eq receiver before correction
  rw [heq, hrecord]
  have hfollows : Follows (m.session.of receiver) m.script m.frames n c
      ((DeliveryContext.setPeer context receiver session).peer.of receiver) := hpays.hears.follows
  dsimp only
  rw [@compareHashes_same m _ _ receiver
    { context.setPeer receiver session with
      corrections := corrections
      trace :=
        { (context.setPeer receiver session).trace with
          rollbacks := rollbacks, omittedRollbackEvents := omitted } } _ hfollows (by omega)]
  · exact h
  · intro hash hmem
    obtain ⟨k, hk, hframe, hhash⟩ := htells.hashes hash hmem
    rw [← hsame receiver k (by omega)] at hhash
    exact ⟨k, by omega, hframe, hhash⟩

/-- A genuine packet shows no difference when both sessions see the same hashes. -/
theorem receive_undiverged (hsame : m.SameHashes) {t : ℕ} {context : DeliveryContext}
    {heard : Sides (Finset ℕ)} {receiver : PlayerId} {packet : Packet} {sent : Sent}
    (hpeers : m.Peers (m.simulated t) heard context) (htransit : m.InTransit t sent)
    (hside : sent.receiver.side = receiver) (hdecode : decodePacket sent.bytes = .ok packet)
    (h : Undiverged context) : Undiverged (context.receive receiver packet).2 := by
  obtain ⟨⟨id, other, c, -, hreceiver, -, hother, htells, hc⟩, hbefore⟩ := htransit
  cases hdecode.symm.trans hother
  rw [hreceiver, PlayerId.side_endpoint] at hside
  subst hside
  rw [← remoteId_remoteId id] at htells
  refine hpeers.receive_undiverged hsame htells (m.simulated_le t) (hc.trans (m.simulated_le _))
    (fun j hj => ?_) h
  rw [simulated] at hj ⊢
  omega

end LiveMatch

/-- A match that has ended well: both worlds are what the recorded inputs lead to, and the
replay that says so can be written out and read back. -/
structure LiveScenario.Converged (live : LiveScenario) : Prop where
  finished : live.finished = true
  failure : live.failure = none
  success : live.report.success = true
  verified : live.report.replayVerified = true
  diagnostic : live.desyncDiagnostic = none
  marker : live.context.trace.desync = none
  worlds : ∀ id, simulateAll .canonical makeInitialWorld live.replay.confirmedInputs =
    .ok (live.context.peer.of id).state
  replay : ∃ bytes verification, encodeReplay live.replay = .ok bytes ∧
    decodeReplay bytes = .ok live.replay ∧ verifyReplay live.replay = .ok verification ∧
    verification.success = true

namespace LiveMatch

variable {m : LiveMatch}

/-- The replay of a match can be written out, read back, and verifies. -/
theorem replay_verified (m : LiveMatch) {live : LiveScenario}
    (hreplay : live.replay = m.script.replay m.config.scenarioSeed m.config.transportSeed m.frames) :
    ∃ bytes verification, encodeReplay live.replay = .ok bytes ∧
      decodeReplay bytes = .ok live.replay ∧ verifyReplay live.replay = .ok verification ∧
      verification.success = true := by
  rw [hreplay]
  exact ⟨_, _, InputScript.encodeReplay_replay m.frames_le,
    InputScript.decodeReplay_replay m.frames_le m.script_legal,
    InputScript.verifyReplay_replay m.frames_lt, rfl⟩

theorem judge_timeout {live : LiveScenario} (hdesync : Undiverged live.context)
    (hunconfirmed : live.buildReport.confirmedFrame ≠ ⟨live.config.frameCount⟩) :
    ∃ error, live.judged.judge = .error error ∧ error.code = .timeout := by
  have hA : live.judged.context.desync.a.diagnostic = none := hdesync.1 .a
  have hB : live.judged.context.desync.b.diagnostic = none := hdesync.1 .b
  have hfailed : live.judged.report.success = false := by
    change (live.buildReport.confirmedFrame == ⟨live.config.frameCount⟩ && _ && _ && _ && _) = false
    rw [beq_eq_false_iff_ne.2 hunconfirmed]
    rfl
  have hframe : live.judged.report.confirmedFrame ≠ ⟨live.judged.config.frameCount⟩ := hunconfirmed
  refine ⟨⟨.timeout, live.judged.report.confirmedFrame.value.toUInt64, 0, "seeded_scenario"⟩, ?_, rfl⟩
  rw [LiveScenario.judge, hA, hB, hfailed, if_neg (by decide), if_pos (by decide), if_pos hframe]

theorem judge_success {live : LiveScenario} (hdesync : Undiverged live.context)
    (hsuccess : live.buildReport.success = true) : live.judged.judge = .ok true := by
  have hA : live.judged.context.desync.a.diagnostic = none := hdesync.1 .a
  have hB : live.judged.context.desync.b.diagnostic = none := hdesync.1 .b
  have hreport : live.judged.report.success = true := hsuccess
  rw [LiveScenario.judge, hA, hB, hreport, if_neg (by decide), if_neg (by decide)]

/-- A settled match without a desync ends well, if the rules agree. -/
theorem ending_agrees {live : LiveScenario} (h : m.Truthful .begun none live) (hagrees : m.Agrees)
    (hdesync : Undiverged live.context) (hover : m.frames ≤ live.tickIndex.toNat)
    (hopen : live.failure = none ∧ live.finished = false) {peers : Sides RollbackSession}
    (hfinal : live.finalize =
      (({ live with context := { live.context with peer := peers } } : LiveScenario).judged.judge,
        ({ live with context := { live.context with peer := peers } } : LiveScenario).judged))
    (hsettled : m.Settled peers) :
    live.ending.finished = true ∧ live.ending.failure = none ∧ live.ending.report.success = true ∧
      live.ending.report.replayVerified = true ∧ live.ending.desyncDiagnostic = none ∧
      live.ending.context = { live.context with peer := peers } ∧ live.ending.replay = live.replay ∧
      live.ending.report =
        LiveScenario.buildReport { live with context := { live.context with peer := peers } } := by
  have hreplay := h.replay_eq
  rw [show m.notedFrames live.tickIndex.toNat none = m.frames from min_eq_right hover,
    m.replayOf_end hover] at hreplay
  obtain ⟨hsuccess, hverified, -⟩ := @buildReport_success m
    { live with context := { live.context with peer := peers } } hsettled hagrees h.config_eq hreplay
    hdesync.1
  have hdiagnostic : LiveScenario.chooseDiagnostic (live.context.desync.of .a).diagnostic
      (live.context.desync.of .b).diagnostic = none := by
    rw [hdesync.1, hdesync.1]
    rfl
  rw [LiveScenario.ending, hfinal,
    @judge_success { live with context := { live.context with peer := peers } } hdesync hsuccess]
  exact ⟨rfl, hopen.1, hsuccess, hverified, hdiagnostic, rfl, rfl, rfl⟩

/-- A match without a desync ends well if both sessions have confirmed all frames. -/
theorem ending_settled {live : LiveScenario} (h : m.Truthful .begun none live)
    (hcanonical : ∀ id, (m.session.of id).variant = .canonical) (hdesync : Undiverged live.context)
    (hover : m.frames ≤ live.tickIndex.toNat) (hopen : live.failure = none ∧ live.finished = false)
    {peers : Sides RollbackSession}
    (hfinal : live.finalize =
      (({ live with context := { live.context with peer := peers } } : LiveScenario).judged.judge,
        ({ live with context := { live.context with peer := peers } } : LiveScenario).judged))
    (hsettled : m.Settled peers) :
    live.ending.Converged ∧ live.ending.context.peer = peers ∧
      live.ending.report =
        LiveScenario.buildReport { live with context := { live.context with peer := peers } } := by
  have hreplay := h.replay_eq
  rw [show m.notedFrames live.tickIndex.toNat none = m.frames from min_eq_right hover,
    m.replayOf_end hover] at hreplay
  obtain ⟨hfinished, hfailure, hsuccess, hverified, hdiagnostic, hcontext, hsame, hreport⟩ :=
    ending_agrees h (fun id => by rw [hcanonical id]) hdesync hover hopen hfinal hsettled
  refine ⟨⟨hfinished, hfailure, hsuccess, hverified, hdiagnostic, ?_, fun id => ?_, ?_⟩, ?_, hreport⟩
  · rw [hcontext]
    exact hdesync.2
  · have hstate := (hsettled id).final
    rw [hcanonical id] at hstate
    rw [hcontext, hsame, hreplay]
    exact hstate
  · rw [hsame]
    exact m.replay_verified hreplay
  · rw [hcontext]

/-- Otherwise it runs out of time. -/
theorem ending_cases {live : LiveScenario} (h : m.Truthful .begun none live)
    (hcanonical : ∀ id, (m.session.of id).variant = .canonical) (hdesync : Undiverged live.context)
    (hover : m.frames ≤ live.tickIndex.toNat) (hopen : live.failure = none ∧ live.finished = false) :
    live.ending.Converged ∨
      live.ending.finished = false ∧ ∃ error, live.ending.failure = some error ∧ error.code = .timeout := by
  have hlimit := m.frames_lt
  obtain ⟨heard, hpeers⟩ := h.peers
  rw [show m.simulated live.tickIndex.toNat = m.frames from min_eq_right hover] at hpeers
  obtain ⟨peers, hfinal, hafter⟩ := exists_verdict hpeers
  obtain ⟨cA, hpaysA⟩ := hafter.pays .a
  obtain ⟨cB, hpaysB⟩ := hafter.pays .b
  have hleA := hpaysA.hears.follows.confirmed_le
  have hleB := hpaysB.hears.follows.confirmed_le
  by_cases hdone : cA = m.frames ∧ cB = m.frames
  · obtain ⟨rfl, rfl⟩ := hdone
    have hsettled : m.Settled peers := by
      intro id
      cases id with
      | a => exact hpaysA.hears.follows
      | b => exact hpaysB.hears.follows
    exact Or.inl (ending_settled h hcanonical hdesync hover hopen hfinal hsettled).1
  · have hconfirmed := @buildReport_confirmed
      { live with context := { live.context with peer := peers } } cA cB
      hpaysA.hears.follows.confirmedFrame_eq hpaysB.hears.follows.confirmedFrame_eq (by omega) (by omega)
    obtain ⟨error, hjudge, hcode⟩ := @judge_timeout
      { live with context := { live.context with peer := peers } } hdesync (by
        rw [hconfirmed, ne_eq, FrameNumber.mk.injEq, ← UInt32.toNat_inj,
          UInt32.toNat_ofNat_of_lt' (by simp only [UInt32.size]; omega)]
        dsimp only
        rw [h.config_eq]
        change ¬min cA cB = m.frames
        omega)
    rw [LiveScenario.ending, hfinal, hjudge]
    exact Or.inr ⟨hopen.2, error, rfl, hcode⟩

end LiveMatch

/-- What stops a match that both peers play by the canonical rules. -/
def StopsMatch (error : Error) : Prop :=
  error.code ∈ [.invalidArgument, .queueOverflow, .rollbackWindowExceeded, .timeout]

theorem LiveScenario.create_error {config : ScenarioRunConfig} {peerA peerB : RollbackSession}
    {error : Error} (h : create config peerA peerB = .error error) : error.code = .invalidArgument := by
  rw [create] at h
  split at h
  · exact Except.error.inj h ▸ rfl
  · split at h
    · exact Except.error.inj h ▸ rfl
    · cases h

/-- A match that both peers play by the canonical rules ends well, or it fails for a reason
that has nothing to do with what they compute; and it does so after its last tick, whatever
the player presses. -/
theorem canonical_match_verdict {config : ScenarioRunConfig} {session : Sides SessionConfig}
    (hcanonical : ∀ id, (session.of id).variant = .canonical)
    (hwindow : ∀ id, (session.of id).maxRollbackFrames ≤ kDefaultMaxRollbackFrames) :
    (∀ error, LiveScenario.create config (.create session.a) (.create session.b) = .error error →
      StopsMatch error) ∧
    ∀ first, LiveScenario.create config (.create session.a) (.create session.b) = .ok first →
      (∀ last, Reaches (fun _ _ => True) first last →
        (last.failure = none ∧ last.finished = false ∨ last.Converged ∨
          last.finished = false ∧ ∃ error, last.failure = some error ∧ StopsMatch error) ∧
        ∀ press error, (last.step press).1 = .error error → StopsMatch error) ∧
      ∀ presses : ℕ → Option UInt8, (∀ t, ∀ buttons ∈ presses t, buttons ≤ 31) →
        ¬((LiveScenario.play presses first (totalTicks config)).failure = none ∧
          (LiveScenario.play presses first (totalTicks config)).finished = false) := by
  refine ⟨fun error herror => ?_, fun first hcreate => ?_⟩
  · rw [StopsMatch, LiveScenario.create_error herror]
    decide
  have hstands : ∀ last, Reaches (fun _ _ => True) first last →
      last.failure = none ∧ last.finished = false ∧ last.tickIndex.toNat < totalTicks config ∨
        last.Converged ∨
        last.finished = false ∧ ∃ error, last.failure = some error ∧ StopsMatch error := by
    intro last hreach
    obtain ⟨m, rfl, rfl, rfl, hpath⟩ := LiveMatch.exists_match
      (fun id => UInt32.le_iff_toNat_le.1 (hwindow id)) hcreate hreach
    have hsame : m.SameHashes := fun id k _ => by rw [hcanonical, hcanonical]
    have hrule := m.rule (fun _ _ => LiveMatch.Undiverged.quiet)
      fun t context heard receiver packet sent hpeers _ => LiveMatch.receive_undiverged hsame hpeers
    have hfirst : LiveMatch.Undiverged m.first.context := by
      refine ⟨fun id => ?_, rfl⟩
      cases id with
      | a => rfl
      | b => rfl
    cases hrule.reaches ⟨m.first_truthful, hfirst⟩ ⟨rfl, rfl⟩ rfl m.room hpath with
    | running h hopen hticks => exact Or.inl ⟨hopen.1, hopen.2, hticks⟩
    | @failed live error h hopen =>
      refine Or.inr (Or.inr ⟨hopen.2, error, rfl, ?_⟩)
      rcases h.1 with hcode | hcode | hcode
      all_goals
        rw [StopsMatch, hcode]
        decide
    | @ended live h hticks hopen =>
      have hover : m.frames ≤ live.tickIndex.toNat := by
        rw [hticks, totalTicks, LiveMatch.frames]
        omega
      rcases LiveMatch.ending_cases h.1 hcanonical h.2 hover hopen with hgood |
        ⟨hfinished, error, hfailure, hcode⟩
      · exact Or.inr (Or.inl hgood)
      · refine Or.inr (Or.inr ⟨hfinished, error, hfailure, ?_⟩)
        rw [StopsMatch, hcode]
        decide
  refine ⟨fun last hreach => ⟨?_, fun press error herror => ?_⟩, fun presses hpresses hopen => ?_⟩
  · exact (hstands last hreach).imp_left fun h => ⟨h.1, h.2.1⟩
  · rcases LiveScenario.step_error herror with hfailure | hcode
    · rcases hstands _ (hreach.step press trivial) with ⟨hnone, -⟩ | hgood | ⟨-, other, hother, hcode⟩
      · rw [hnone] at hfailure
        cases hfailure
      · rw [hgood.failure] at hfailure
        cases hfailure
      · rw [hother] at hfailure
        cases hfailure
        exact hcode
    · rw [StopsMatch, hcode]
      decide
  · have hindex := LiveScenario.play_index (fun t => LiveScenario.not_refused (hpresses t)) hopen
    have hreach := LiveScenario.reaches_play presses first (totalTicks config)
    obtain ⟨rfl, -, -, hroom, -, -⟩ := LiveScenario.create_ok hcreate
    have hticks : (LiveScenario.play presses
        (LiveScenario.start config (.create session.a) (.create session.b))
        (totalTicks config)).tickIndex.toNat = totalTicks config := by
      rw [hindex]
      change ((0 : UInt32) + UInt32.ofNat (totalTicks config)).toNat = _
      rw [UInt32.zero_add, UInt32.toNat_ofNat_of_lt' hroom]
    rcases hstands _ hreach with ⟨-, -, hlt⟩ | hgood | ⟨-, error, hfailure, -⟩
    · omega
    · rw [hgood.failure, hgood.finished] at hopen
      cases hopen.2
    · rw [hfailure] at hopen
      cases hopen.1

/-- A match of one frame in which the first peer runs and jumps. -/
theorem canonical_match_verdict_short :
    ¬((LiveScenario.play (fun _ => some 6) shortMatch (totalTicks shortConfig)).failure = none ∧
      (LiveScenario.play (fun _ => some 6) shortMatch (totalTicks shortConfig)).finished = false) :=
  ((@canonical_match_verdict shortConfig ⟨{ localPeer := .a }, { localPeer := .b }⟩
    (fun id => by cases id <;> rfl) (fun id => by cases id <;> decide)).2 shortMatch
    shortMatch_created).2 (fun _ => some 6) fun _ buttons hbuttons => by cases hbuttons; decide

end RollbackLab
