import RollbackLab.ConstantLatency
import RollbackLab.DesyncMarker

/-!
# The first divergence over a transport that loses nothing

Two sessions whose rules differ end with different hashes somewhere. When nothing is lost
and every packet comes within 31 ticks, the hashes of successive packets leave no gap, and
who takes a packet has confirmed whatever its sender had. So both trackers find the first
boundary at which the hashes differ.
-/

namespace RollbackLab

open LiveScenario (sendingTicks totalTicks)

namespace LiveMatch

variable {m : LiveMatch} {t : ℕ} {ledger : Ledger} {context next : DeliveryContext}

/-- The hashes of the two peers differ at a boundary. -/
def Diverges (m : LiveMatch) (k : ℕ) : Prop :=
  hashCanonical (m.script.worldAt (m.session.of .a).variant k) ≠
    hashCanonical (m.script.worldAt (m.session.of .b).variant k)

theorem diverges_iff (id : PlayerId) {k : ℕ} : m.Diverges k ↔
    hashCanonical (m.script.worldAt (m.session.of id).variant k) ≠
      hashCanonical (m.script.worldAt (m.session.of (remoteId id)).variant k) := by
  cases id with
  | a => exact Iff.rfl
  | b => exact ne_comm

/-- What is on record about the divergences of a match: nothing but divergences is, and what
the packets taken so far have shown is not missed. -/
structure Watches (m : LiveMatch) (ledger : Ledger) (context : DeliveryContext) : Prop where
  found : ∀ id frame, context.known id = some frame →
    ∃ k ≤ m.frames, frame = ⟨UInt32.ofNat k⟩ ∧ m.Diverges k
  noticed : ∀ id, ∀ s ∈ ledger.received.of id, ∀ k ≤ ledger.said.of (remoteId id) s,
    ledger.said.of (remoteId id) s < k + 32 → m.Diverges k →
      ∃ frame, context.known id = some frame ∧ frame.value.toNat ≤ k
  marked : ∀ frame, context.marked = some frame → ∃ id, context.known id = some frame
  shown : ∀ id frame, context.known id = some frame → context.marked ≠ none

/-- With the packet of a tick, who takes it in time has heard all inputs before that tick. -/
theorem Hearing.covers (h : m.Hearing t ledger context) (hlongest : m.network.longestDelay ≤ 31)
    (receiver : PlayerId) {s : ℕ} (hst : s ≤ t) {j : ℕ} (hj : j < m.simulated s) :
    j ∈ ledger.heard.of receiver ∨ Latest (m.simulated (s + 1)) j := by
  by_cases hrecent : m.simulated (s + 1) ≤ j + 32
  · exact Or.inr ⟨hj.trans_le (m.simulated_mono (Nat.le_succ s)), hrecent⟩
  · refine Or.inl (h.heard_all receiver ?_)
    rw [simulated] at hj hrecent ⊢
    omega

/-- A packet shows nothing but divergences. -/
theorem shown_diverges {n c n' c' k : ℕ} {session : RollbackSession} {receiver : PlayerId}
    {sequence : UInt32} {packet : Packet}
    (hfollows : Follows (m.session.of receiver) m.script m.frames n c session) (hn : n < 2 ^ 30)
    (htells : Tells m.script (m.session.of (remoteId receiver)).variant (remoteId receiver) sequence k
      n' c' packet) (hc : c' ≤ m.frames) {frame : FrameNumber}
    (hshown : ∃ hash ∈ packet.confirmedHashes, session.Contradicts hash ∧ hash.frame = frame) :
    ∃ j ≤ m.frames, frame = ⟨UInt32.ofNat j⟩ ∧ m.Diverges j := by
  have hlimit := m.frames_lt
  obtain ⟨hash, hmem, ⟨loc, state, hloc, hne, -⟩, rfl⟩ := hshown
  obtain ⟨j, hj, hframe, hhash⟩ := htells.hashes hash hmem
  obtain ⟨i, world, hi, hboundary, hworld, hvalue, -⟩ := hfollows.hashAt hn hloc
  have hle := hfollows.confirmed_le
  have hij : i = j := by
    have hsame := congrArg (fun frame => frame.value.toNat) (hboundary.symm.trans hframe)
    simp only [UInt32.toNat_ofNat'] at hsame
    omega
  rw [hij, m.script.world_eq _ (by omega)] at hworld
  refine ⟨j, by omega, hframe, (diverges_iff receiver).2 ?_⟩
  rw [Except.ok.inj hworld, ← hvalue, ← hhash]
  exact hne

/-- It shows all that lie in its window, if its receiver has confirmed them. -/
theorem diverges_shown {n c n' c' k j : ℕ} {session : RollbackSession} {receiver : PlayerId}
    {sequence : UInt32} {packet : Packet}
    (hfollows : Follows (m.session.of receiver) m.script m.frames n c session) (hn : n < 2 ^ 30)
    (htells : Tells m.script (m.session.of (remoteId receiver)).variant (remoteId receiver) sequence k
      n' c' packet)
    (hj : j ≤ c') (hrecent : c' < j + 32) (hsaid : n' < j + 256) (hconfirmed : j ≤ c)
    (hheld : n < j + 256) (hdiverges : m.Diverges j) :
    ∃ hash ∈ packet.confirmedHashes, session.Contradicts hash ∧ hash.frame = ⟨UInt32.ofNat j⟩ := by
  obtain ⟨hhash, hstate⟩ := hfollows.hashAt_recent hn hconfirmed hheld
  have hne := (diverges_iff receiver).1 hdiverges
  have hmem := htells.recent j hj hrecent hsaid
  refine ⟨_, hmem, ?_, rfl⟩
  rw [RollbackSession.Contradicts]
  dsimp only
  exact ⟨_, _, hhash, hne, hstate⟩

/-- What a receiver knew, it knows after the packet as well, or something earlier. -/
theorem Noted.kept {receiver : PlayerId} {shown : FrameNumber → Prop}
    (h : context.Noted receiver shown next) {id : PlayerId} {held : FrameNumber}
    (hheld : context.known id = some held) :
    ∃ frame, next.known id = some frame ∧ frame.value.toNat ≤ held.value.toNat := by
  by_cases hid : id = receiver
  · subst hid
    rcases h.found with ⟨-, hkept, -⟩ | ⟨-, frame, hframe, -, -, hle, -⟩
    · exact ⟨held, hkept.trans hheld, le_rfl⟩
    · exact ⟨frame, hframe, hle held hheld⟩
  · exact ⟨held, (h.other id hid).trans hheld, le_rfl⟩

/-- What a packet shows is put on record. -/
theorem Watches.noted {receiver : PlayerId} {s : ℕ} {frames : List ℕ} {shown : FrameNumber → Prop}
    (h : m.Watches ledger context) (hnoted : context.Noted receiver shown next)
    (hsound : ∀ frame, shown frame → ∃ k ≤ m.frames, frame = ⟨UInt32.ofNat k⟩ ∧ m.Diverges k)
    (hcomplete : ∀ k ≤ ledger.said.of (remoteId receiver) s,
      ledger.said.of (remoteId receiver) s < k + 32 → m.Diverges k → shown ⟨UInt32.ofNat k⟩)
    (hsmall : ledger.said.of (remoteId receiver) s < 2 ^ 30) :
    m.Watches (ledger.receive receiver s frames) next := by
  refine ⟨fun id frame hframe => ?_, fun id other hother k hk hrecent hdiverges => ?_,
    fun frame hframe => ?_, fun id frame hframe => ?_⟩
  · by_cases hid : id = receiver
    · subst hid
      exact (hnoted.held hframe).elim (h.found id frame) (hsound frame)
    · exact h.found id frame ((hnoted.other id hid).symm.trans hframe)
  · rcases Ledger.mem_received.1 hother with hold | ⟨rfl, rfl⟩
    · obtain ⟨held, hheld, hle⟩ := h.noticed id other hold k hk hrecent hdiverges
      obtain ⟨frame, hframe, hearlier⟩ := Noted.kept hnoted hheld
      exact ⟨frame, hframe, hearlier.trans hle⟩
    · have hshown := hcomplete k hk hrecent hdiverges
      rcases hnoted.found with ⟨hnone, -⟩ | ⟨-, frame, hframe, -, -, -, hleast⟩
      · exact absurd hshown (hnone _)
      · have hle := hleast _ hshown
        have hk' : k ≤ ledger.said.of (remoteId id) other := hk
        rw [UInt32.toNat_ofNat_of_lt' (by simp only [UInt32.size]; omega)] at hle
        exact ⟨frame, hframe, hle⟩
  · rcases hnoted.found with ⟨-, hkept, hmarked⟩ | ⟨-, found, hfound, hmarked, -⟩
    · obtain ⟨id, hid⟩ := h.marked frame (hmarked.symm.trans hframe)
      by_cases heq : id = receiver
      · subst heq
        exact ⟨id, hkept.trans hid⟩
      · exact ⟨id, (hnoted.other id heq).trans hid⟩
    · rw [Option.some.inj (hframe.symm.trans hmarked)]
      exact ⟨receiver, hfound⟩
  · rcases hnoted.found with ⟨-, hkept, hmarked⟩ | ⟨-, found, -, hmarked, -⟩
    · rw [hmarked]
      by_cases heq : id = receiver
      · subst heq
        exact h.shown id frame (hkept.symm.trans hframe)
      · exact h.shown id frame ((hnoted.other id heq).symm.trans hframe)
    · rw [hmarked]
      exact Option.some_ne_none found

theorem watches_kept (hcapture : m.config.captureTrace = true)
    (hlongest : m.network.longestDelay ≤ 31) : m.Keeps m.Watches where
  quiet ledger context next hquiet h := by
    have hknown : ∀ id, next.known id = context.known id := by
      intro id
      rw [DeliveryContext.known, hquiet.desync, DeliveryContext.known]
    have hmarked : next.marked = context.marked := by
      rw [DeliveryContext.marked, hquiet.marker, DeliveryContext.marked]
    constructor
    · simp only [hknown]
      exact h.found
    · simp only [hknown]
      exact h.noticed
    · simp only [hknown, hmarked]
      exact h.marked
    · simp only [hknown, hmarked]
      exact h.shown
  say ledger context id c hbefore h := by
    refine ⟨h.found, fun other s hs => ?_, h.marked, h.shown⟩
    rw [Ledger.said_say_of_lt c (hbefore other s hs)]
    exact h.noticed other s hs
  receive t ledger context next receiver s packet hhearing hs hst hlate htells hsaid h hreceive := by
    have hlimit := m.frames_lt
    have hle := m.simulated_le t
    have hframes := hsaid.2.trans (m.simulated_le s)
    rcases hhearing.peers.receive receiver htells hle (reached hst) with
      ⟨error, session, heq, -⟩ | ⟨before, correction, session, heq, -, hafter, -⟩
    · rw [heq] at hreceive
      cases hreceive
    rw [heq] at hreceive
    cases hreceive
    obtain ⟨c, hpays⟩ := hafter.pays receiver
    have hcovers : m.simulated s ≤ c := by
      refine hpays.hears.le_confirmed (hafter.clean receiver) (m.simulated_mono hst) fun j hj => ?_
      rw [Sides.of_put_self, Finset.mem_union, List.mem_toFinset, mem_latest]
      exact hhearing.covers hlongest receiver hst hj
    have hself : (context.setPeer receiver session).peer.of receiver = session := Sides.of_put_self ..
    have hfollows := hpays.hears.follows
    rw [hself] at hfollows
    obtain ⟨corrections, rollbacks, omitted, hrecord⟩ :=
      (context.setPeer receiver session).recordCorrection_eq receiver before correction
    have hpeer : ((context.setPeer receiver session).recordCorrection receiver before
        correction).peer.of receiver = session := by
      rw [hrecord]
      exact hself
    have hnoted := @DeliveryContext.compareHashes_noted receiver
      ((context.setPeer receiver session).recordCorrection receiver before correction) (by rw [hrecord]; exact hhearing.capture.trans hcapture)
      packet.confirmedHashes (fun held hheld => ?_) fun hash hcontra => ?_
    · rw [hpeer] at hnoted
      refine h.noted (hnoted.of_start (by rw [hrecord]; rfl) (by rw [hrecord]; rfl))
        (fun frame hshown => shown_diverges hfollows (by omega) htells hframes hshown)
        (fun k hk hrecent hdiverges => ?_) (by omega)
      obtain ⟨hfresh, hearly⟩ := hsaid
      refine diverges_shown hfollows (by omega) htells hk hrecent ?_ ?_ ?_ hdiverges
      all_goals simp only [simulated] at hfresh hearly hcovers hle ⊢
      all_goals omega
    · have hknown : context.known receiver = some held := by
        rw [hrecord] at hheld
        exact hheld
      obtain ⟨k, hk, rfl, -⟩ := h.found receiver held hknown
      rw [UInt32.toNat_ofNat_of_lt' (by simp only [UInt32.size]; omega)]
      omega
    · rw [hpeer] at hcontra
      obtain ⟨loc, state, hloc, -, -⟩ := hcontra
      obtain ⟨i, world, hi, hboundary, -, -, -⟩ := hfollows.hashAt (by omega) hloc
      have hconfirmed := hfollows.confirmed_le
      rw [hboundary, UInt32.toNat_ofNat_of_lt' (by simp only [UInt32.size]; omega)]
      omega

theorem first_watches (m : LiveMatch) : m.Watches .start m.first.context := by
  have hknown : ∀ id, m.first.context.known id = none := by
    intro id
    cases id with
    | a => rfl
    | b => rfl
  refine ⟨fun id frame hframe => ?_, fun id s hs => ?_, fun frame hframe => ?_, fun id frame hframe => ?_⟩
  · rw [hknown] at hframe
    cases hframe
  · rw [Ledger.received_start] at hs
    cases hs
  · cases hframe
  · rw [hknown] at hframe
    cases hframe

/-! ## No gap between the packets -/

/-- The packet that a peer sends 31 ticks after a boundary shows the hash of the boundary. -/
theorem Prompt.covered {K : Ledger → DeliveryContext → Prop} {live : LiveScenario}
    (h : m.Prompt K .begun ledger live) (hlongest : m.network.longestDelay ≤ 31)
    (hsends : m.frames + 31 < sendingTicks m.config)
    (hticks : m.frames + 31 + m.network.longestDelay < live.tickIndex.toNat) (id : PlayerId) {d : ℕ}
    (hd : d ≤ m.frames) :
    ∃ s ∈ ledger.received.of id, d ≤ ledger.said.of (remoteId id) s ∧
      ledger.said.of (remoteId id) s < d + 32 := by
  obtain ⟨now, -, hconveyed⟩ := h.conveyed
  have hsent : d + 31 < ledger.sent.of (remoteId id) := by
    rw [h.sent, sentTicks, if_pos rfl]
    omega
  obtain ⟨hfresh, hearly⟩ := hconveyed.said (remoteId id) (d + 31) hsent
  refine ⟨d + 31, hconveyed.attends.hearing.arrived id _ (by omega) (by omega), ?_, ?_⟩
  · rw [simulated] at hfresh
    omega
  · rw [simulated] at hearly
    omega

section Ending

variable {live : LiveScenario}

/-- Both trackers have found the first divergence by the end. -/
theorem Prompt.found (h : m.Prompt m.Watches .begun ledger live)
    (hlongest : m.network.longestDelay ≤ 31) (hsends : m.frames + 31 < sendingTicks m.config)
    (hticks : m.frames + 31 + m.network.longestDelay < live.tickIndex.toNat) {d : ℕ}
    (hd : d ≤ m.frames) (hdiverges : m.Diverges d) (hfirst : ∀ k < d, ¬m.Diverges k) (id : PlayerId) :
    live.context.known id = some ⟨UInt32.ofNat d⟩ := by
  have hlimit := m.frames_lt
  obtain ⟨now, -, hconveyed⟩ := h.conveyed
  have hwatches := hconveyed.attends.kept
  obtain ⟨s, hs, hsaid, hrecent⟩ := h.covered hlongest hsends hticks id hd
  obtain ⟨frame, hframe, hle⟩ := hwatches.noticed id s hs d hsaid hrecent hdiverges
  obtain ⟨k, hk, rfl, hknown⟩ := hwatches.found id frame hframe
  rw [UInt32.toNat_ofNat_of_lt' (by simp only [UInt32.size]; omega)] at hle
  have hge : d ≤ k := not_lt.1 fun hlt => hfirst k hlt hknown
  rw [hframe, le_antisymm hle hge]

theorem Watches.marked_eq (h : m.Watches ledger live.context) {frame : FrameNumber}
    (hknown : ∀ id, live.context.known id = some frame) : live.context.marked = some frame := by
  obtain ⟨marker, hmarker⟩ := Option.ne_none_iff_exists'.1 (h.shown .a frame (hknown .a))
  obtain ⟨id, hid⟩ := h.marked marker hmarker
  rw [hmarker, ← hid, hknown]

/-- Where there is no divergence none is put on record. -/
theorem Watches.undiverged (h : m.Watches ledger live.context) (hsame : ∀ k ≤ m.frames, ¬m.Diverges k) :
    Undiverged live.context := by
  have hknown : ∀ id, live.context.known id = none := by
    intro id
    refine Option.eq_none_iff_forall_ne_some.2 fun frame hframe => ?_
    obtain ⟨k, hk, -, hdiverges⟩ := h.found id frame hframe
    exact hsame k hk hdiverges
  have hmarked : live.context.marked = none := by
    refine Option.eq_none_iff_forall_ne_some.2 fun frame hframe => ?_
    obtain ⟨id, hid⟩ := h.marked frame hframe
    rw [hknown] at hid
    cases hid
  exact ⟨fun id => Option.map_eq_none_iff.1 (hknown id), Option.map_eq_none_iff.1 hmarked⟩

theorem chooseDiagnostic_map {a b : Option DesyncDiagnostic} {frame : FrameNumber}
    (ha : a.map DesyncDiagnostic.earliestDivergentFrame = some frame)
    (hb : b.map DesyncDiagnostic.earliestDivergentFrame = some frame) :
    (LiveScenario.chooseDiagnostic a b).map DesyncDiagnostic.earliestDivergentFrame = some frame := by
  obtain ⟨diagnosticA, rfl, hframeA⟩ := Option.map_eq_some_iff.1 ha
  obtain ⟨diagnosticB, rfl, hframeB⟩ := Option.map_eq_some_iff.1 hb
  rw [LiveScenario.chooseDiagnostic]
  split
  · exact congrArg some hframeB
  · exact congrArg some hframeA

/-- A match in which both trackers know a divergence is over, and that is its verdict. -/
theorem ending_known {n : ℕ} {heard : Sides (Finset ℕ)} (hpeers : m.Peers n heard live.context)
    {frame : FrameNumber} (hknown : ∀ id, live.context.known id = some frame) :
    live.ending.finished = true ∧ live.ending.failure = live.failure ∧
      live.ending.desyncDiagnostic.map DesyncDiagnostic.earliestDivergentFrame = some frame := by
  obtain ⟨peers, hfinal, -⟩ := exists_verdict hpeers
  obtain ⟨diagnostic, hdiagnostic, -⟩ := Option.map_eq_some_iff.1 (hknown .a)
  have hjudge : ({ live with context := { live.context with peer := peers } } : LiveScenario).judged.judge =
      .ok true := by
    have hA : live.context.desync.a.diagnostic = some diagnostic := hdiagnostic
    rw [LiveScenario.judge, LiveScenario.judged]
    dsimp only
    rw [hA]
    rfl
  rw [LiveScenario.ending, hfinal, hjudge]
  exact ⟨rfl, rfl, chooseDiagnostic_map (hknown .a) (hknown .b)⟩

end Ending

section Run

/-- Such a match comes to its verdict. -/
theorem exists_ending (hm : m.LosesNothing) (hcapture : m.config.captureTrace = true)
    (hwindow : ∀ id, (m.session.of id).maxRollbackFrames.toNat = 120)
    (hlongest : m.network.longestDelay ≤ 31) :
    ∃ live ledger, m.Truthful .begun none live ∧ m.Prompt m.Watches .begun ledger live ∧ live.Open ∧
      live.tickIndex.toNat = totalTicks m.config ∧
      LiveScenario.play m.presses m.first (totalTicks m.config) = live.ending := by
  rcases (m.promptRule _ (watches_kept hcapture hlongest) hm).play m.pressed
    ⟨m.first_truthful, _, m.first_prompt m.first_watches⟩ ⟨rfl, rfl⟩ rfl m.room le_rfl with
    ⟨_, _, ⟨-, hlate⟩, -⟩ | ⟨hlt, -⟩ | ⟨-, live, hlive, hopen, htick, heq⟩
  · exact absurd hlate (not_tooLate hwindow (by omega))
  · omega
  · obtain ⟨htruthful, ledger, hprompt⟩ := hlive
    exact ⟨live, ledger, htruthful, hprompt, hopen, htick, heq⟩

variable {live : LiveScenario}

/-- The verdict on a match whose rules differ is the first boundary at which they do. -/
theorem ending_diverges (hprompt : m.Prompt m.Watches .begun ledger live)
    (hlongest : m.network.longestDelay ≤ 31) (hsends : m.frames + 31 < sendingTicks m.config)
    (hticks : m.frames + 31 + m.network.longestDelay < live.tickIndex.toNat) (hopen : live.Open)
    {d : ℕ} (hd : d ≤ m.frames) (hdiverges : m.Diverges d) (hfirst : ∀ k < d, ¬m.Diverges k) :
    live.ending.finished = true ∧ live.ending.failure = none ∧
      live.ending.desyncDiagnostic.map DesyncDiagnostic.earliestDivergentFrame =
        some ⟨UInt32.ofNat d⟩ ∧
      live.ending.context.trace.desync.map TraceDesyncMarker.frame = some ⟨UInt32.ofNat d⟩ := by
  have hknown := hprompt.found hlongest hsends hticks hd hdiverges hfirst
  obtain ⟨now, -, hconveyed⟩ := hprompt.conveyed
  obtain ⟨hfinished, hfailure, hdiagnostic⟩ := ending_known hconveyed.attends.hearing.peers hknown
  refine ⟨hfinished, hfailure.trans hopen.1, hdiagnostic, ?_⟩
  rw [live.ending_trace]
  exact hconveyed.attends.kept.marked_eq hknown

/-- If they never do, the match ends without a desync. -/
theorem ending_same (htruthful : m.Truthful .begun none live)
    (hprompt : m.Prompt m.Watches .begun ledger live)
    (hticks : m.frames + m.network.longestDelay ≤ live.tickIndex.toNat) (hopen : live.Open)
    (hcanonical : (m.session.of .a).variant = .canonical) (hsame : ∀ k ≤ m.frames, ¬m.Diverges k) :
    live.ending.finished = true ∧ live.ending.failure = none ∧ live.ending.desyncDiagnostic = none ∧
      live.ending.context.trace.desync = none := by
  obtain ⟨now, -, hconveyed⟩ := hprompt.conveyed
  have hundiverged := hconveyed.attends.kept.undiverged hsame
  obtain ⟨peers, hfinal, hsettled⟩ := hprompt.settled hticks
  have hagrees : m.Agrees := by
    have hlast := not_not.1 (hsame m.frames le_rfl)
    intro id
    cases id with
    | a => rw [hcanonical]
    | b => rw [← hlast, hcanonical]
  obtain ⟨hfinished, hfailure, -, -, hdiagnostic, -⟩ :=
    ending_agrees htruthful hagrees hundiverged (by omega) hopen hfinal hsettled
  refine ⟨hfinished, hfailure, hdiagnostic, ?_⟩
  rw [live.ending_trace]
  exact hundiverged.2

end Run

end LiveMatch

/-- The hash of the canonical fold of a script differs from that of the biased fold. -/
def InputScript.Departs (script : InputScript) (k : ℕ) : Prop :=
  ∃ world biased, simulateAll .canonical makeInitialWorld (script.pairs k) = .ok world ∧
    simulateAll .damageBias makeInitialWorld (script.pairs k) = .ok biased ∧
    hashCanonical world ≠ hashCanonical biased

theorem LiveMatch.departs_iff {m : LiveMatch} (hsession : m.session = LiveMatch.newSessions .damageBias)
    {k : ℕ} (hk : k ≤ m.frames) : m.script.Departs k ↔ m.Diverges k := by
  have hlimit := m.frames_lt
  have hworld := m.script.world_eq .canonical (n := k) (by omega)
  have hbiased := m.script.world_eq .damageBias (n := k) (by omega)
  rw [InputScript.world] at hworld hbiased
  rw [InputScript.Departs, hworld, hbiased, LiveMatch.Diverges, hsession]
  constructor
  · rintro ⟨world, biased, hok, hok', hne⟩
    cases hok
    cases hok'
    exact hne
  · intro hne
    exact ⟨_, _, rfl, rfl, hne⟩

/-- A scenario with a biased peer, over a transport that delays a packet by at most 31 ticks and
has room for all that are under way. -/
structure BiasedScenario (config : ScenarioRunConfig) : Prop where
  biased : config.peerBVariant = .damageBias
  capture : config.captureTrace = true
  positive : 1 ≤ config.frameCount
  frames : config.frameCount ≤ 1000000
  tail : 64 ≤ config.tailRedundancyTicks
  tail_le : config.tailRedundancyTicks ≤ 4096
  delay : config.transport.baseLatencyTicks.toNat + 2 * config.transport.jitterTicks.toNat + 2 ≤ 31
  loss : config.transport.lossPercent = 0
  burst : config.transport.burstLossPercent = 0
  reorder : config.transport.reorderPercent ≤ 100
  duplicate : config.transport.duplicatePercent ≤ 100
  packets : 128 ≤ config.transport.maxQueuePackets
  bytes : 128 * 1200 ≤ config.transport.maxQueueBytes
  bandwidth : 128 * 1200 ≤ config.transport.bandwidthBytesPerTick
  age : 31 ≤ config.transport.maxPacketAgeTicks

/-- The match that such a scenario plays without a player. -/
theorem BiasedScenario.exists_match {config : ScenarioRunConfig} (h : BiasedScenario config) :
    ∃ m : LiveMatch, m.config = config ∧ m.session = LiveMatch.newSessions .damageBias ∧
      m.LosesNothing ∧ m.network.longestDelay ≤ 31 ∧
      m.script = .scripted config.scenarioSeed ∧
      m.presses = (fun _ => none) ∧ runSeededScenario config = m.first.runSteps (totalTicks config) := by
  obtain ⟨m, rfl, hsession, hpresses, hcreate⟩ := @LiveMatch.exists_newMatch config
    (fun _ => none) .damageBias (fun _ buttons hbuttons => by cases hbuttons) h.positive
    h.frames h.tail_le
  have hlongest : m.network.longestDelay ≤ 31 := @TransportConfig.longestDelay_le m.network _ h.delay
  have hframes : m.config.frameCount.toNat ≤ 1000000 := UInt32.le_iff_toNat_le.1 h.frames
  have htail : m.config.tailRedundancyTicks.toNat ≤ 4096 := UInt32.le_iff_toNat_le.1 h.tail_le
  refine ⟨m, rfl, hsession, ⟨.of_room h.loss h.burst h.reorder h.duplicate hlongest h.packets
    h.bytes h.bandwidth (UInt32.le_iff_toNat_le.1 h.age), ?_, by omega⟩, hlongest, ?_, hpresses, ?_⟩
  · rw [sendingTicks]
    omega
  · rw [LiveMatch.script, hpresses, script_unpressed]
  · rw [runSeededScenario, h.biased, ← LiveScenario.toNat_totalTicks m.room]
    rw [hcreate]
    rfl

/-- A complete run reports exactly the first boundary at which the biased rules depart from the
canonical ones, and nothing if there is none. -/
theorem first_divergence_diagnosed {config : ScenarioRunConfig} (h : BiasedScenario config) :
    ∃ artifacts, runSeededScenario config = .ok artifacts ∧
      (∀ d ≤ config.frameCount.toNat, (InputScript.scripted config.scenarioSeed).Departs d →
        (∀ k < d, ¬(InputScript.scripted config.scenarioSeed).Departs k) →
          artifacts.desyncDiagnostic.map DesyncDiagnostic.earliestDivergentFrame =
              some ⟨UInt32.ofNat d⟩ ∧
            artifacts.trace.desync.map TraceDesyncMarker.frame = some ⟨UInt32.ofNat d⟩) ∧
      ((∀ k ≤ config.frameCount.toNat, ¬(InputScript.scripted config.scenarioSeed).Departs k) →
        artifacts.desyncDiagnostic = none ∧ artifacts.trace.desync = none) := by
  obtain ⟨m, rfl, hsession, hm, hlongest, hscript, hpresses, hrun⟩ := h.exists_match
  have htail : 64 ≤ m.config.tailRedundancyTicks.toNat := UInt32.le_iff_toNat_le.1 h.tail
  have hsends : sendingTicks m.config = m.frames + m.config.tailRedundancyTicks.toNat := rfl
  have hticks : totalTicks m.config = m.frames + m.config.tailRedundancyTicks.toNat + 32 := rfl
  have hcanonical : (m.session.of .a).variant = .canonical := by
    rw [hsession]
    rfl
  obtain ⟨live, ledger, htruthful, hprompt, hopen, htick, hend⟩ :=
    LiveMatch.exists_ending hm h.capture (hsession ▸ LiveMatch.newSessions_window .damageBias) hlongest
  have hdeparts : ∀ k ≤ m.frames, (InputScript.scripted m.config.scenarioSeed).Departs k ↔ m.Diverges k :=
    fun k hk => hscript ▸ LiveMatch.departs_iff hsession hk
  have hdiverges := fun d => LiveMatch.ending_diverges (d := d) hprompt hlongest (by omega) (by omega) hopen
  have hsame := LiveMatch.ending_same htruthful hprompt (by omega) hopen hcanonical
  have hgood : live.ending.failure = none ∧ live.ending.finished = true := by
    classical
    by_cases hex : ∃ d ≤ m.frames, m.Diverges d
    · obtain ⟨hd, hdiv⟩ := Nat.find_spec hex
      obtain ⟨hfinished, hfailure, -⟩ := hdiverges _ hd hdiv fun k hk hk' =>
        Nat.find_min hex hk ⟨by omega, hk'⟩
      exact ⟨hfailure, hfinished⟩
    · obtain ⟨hfinished, hfailure, -⟩ := hsame fun k hk hk' => hex ⟨k, hk, hk'⟩
      exact ⟨hfailure, hfinished⟩
  rw [hpresses] at hend
  rw [hrun, (LiveScenario.runSteps_play ⟨rfl, rfl⟩ _).2 (hend ▸ hgood.1) (hend ▸ hgood.2), hend]
  refine ⟨_, rfl, fun d hd hdeparted hfirst => ?_, fun hnone => ?_⟩
  · exact (hdiverges d hd ((hdeparts d hd).1 hdeparted) fun k hk hk' =>
      hfirst k hk ((hdeparts k (hk.le.trans hd)).2 hk')).2.2
  · exact (hsame fun k hk hk' => hnone k hk ((hdeparts k hk).2 hk')).2.2

/-- A peer that deals too much damage, over a transport that delays, reorders and duplicates. -/
def biasedConfig : ScenarioRunConfig :=
  { frameCount := 600
    tailRedundancyTicks := 64
    peerBVariant := .damageBias
    captureTrace := true
    transport :=
      { baseLatencyTicks := 9, jitterTicks := 10, reorderPercent := 100, duplicatePercent := 100 } }

theorem first_divergence_diagnosed_biased : ∃ artifacts, runSeededScenario biasedConfig = .ok artifacts := by
  obtain ⟨artifacts, hok, -⟩ := @first_divergence_diagnosed biasedConfig (by
    constructor
    all_goals decide)
  exact ⟨artifacts, hok⟩

end RollbackLab
