import RollbackLab.EarliestDivergence
import RollbackLab.LiveRun
import RollbackLab.PlayedSession

/-!
# The marker of a divergence

Both peers of a scenario have a tracker, and the trace has one marker for both. A packet
that shows a divergence sets the marker to what its receiver's tracker holds, so the marker
is the earlier of both findings as long as no packet sets it back to a later one.
-/

namespace RollbackLab

/-- A confirmed hash of the partner that differs from the session's own. -/
def RollbackSession.Contradicts (session : RollbackSession) (remoteHash : ConfirmedHash) : Prop :=
  ∃ loc state, session.hashAt remoteHash.frame = .ok loc ∧ loc ≠ remoteHash.hash ∧
    session.stateAt remoteHash.frame = .ok state

namespace DeliveryContext

def known (context : DeliveryContext) (id : PlayerId) : Option FrameNumber :=
  (context.desync.of id).diagnostic.map DesyncDiagnostic.earliestDivergentFrame

def marked (context : DeliveryContext) : Option FrameNumber :=
  context.trace.desync.map TraceDesyncMarker.frame

/-! ## Comparing hashes -/

section Comparing

variable {receiver : PlayerId} {context : DeliveryContext} {remoteHash : ConfirmedHash}

theorem compareHash_agrees (h : ¬(context.peer.of receiver).Contradicts remoteHash) :
    compareHash receiver context remoteHash = context := by
  rw [compareHash]
  dsimp only
  cases hhash : (context.peer.of receiver).hashAt remoteHash.frame with
  | error e => rfl
  | ok loc =>
    dsimp only
    split
    · rfl
    next hne =>
      cases hstate : (context.peer.of receiver).stateAt remoteHash.frame with
      | error e => rfl
      | ok state => exact absurd ⟨loc, state, hhash, hne, hstate⟩ h

/-- A hash that contradicts the receiver's is noted, unless its tracker holds one that it is
not before; in any case the marker becomes what the tracker holds. -/
theorem compareHash_contradicts (hcapture : context.captureTrace = true)
    (h : (context.peer.of receiver).Contradicts remoteHash) :
    ∃ tracker frame marker, compareHash receiver context remoteHash =
        { context with
          desync := context.desync.put receiver tracker
          trace := { context.trace with desync := some marker } } ∧
      marker.frame = frame ∧
      tracker.diagnostic.map DesyncDiagnostic.earliestDivergentFrame = some frame ∧
      ((frame = remoteHash.frame ∧
          ∀ held, context.known receiver = some held → frameBefore remoteHash.frame held = true) ∨
        context.known receiver = some frame ∧ frameBefore remoteHash.frame frame = false) := by
  obtain ⟨loc, state, hhash, hne, hstate⟩ := h
  set call : Observation := ⟨⟨remoteHash.frame, loc, true⟩, ⟨remoteHash.frame, remoteHash.hash, true⟩,
    peerDiagnosticInputs (context.peer.of receiver) remoteHash.frame, state⟩ with hcall
  have hdiverges : call.Diverges := ⟨rfl, rfl, rfl, hne⟩
  have htracker := DesyncTracker.observeCall_eq (context.desync.of receiver) call
  have hstep : ∀ diagnostic, ((context.desync.of receiver).observeCall call).diagnostic =
      some diagnostic → compareHash receiver context remoteHash =
        { context with
          desync := context.desync.put receiver ((context.desync.of receiver).observeCall call)
          trace :=
            { context.trace with
              desync := some ⟨diagnostic.earliestDivergentFrame, diagnostic.localHash,
                diagnostic.remoteHash⟩ } } := by
    intro diagnostic hdiagnostic
    rw [DesyncTracker.observeCall, hcall] at hdiagnostic
    dsimp only at hdiagnostic
    rw [compareHash]
    dsimp only
    rw [hhash]
    dsimp only
    rw [if_neg hne, hstate]
    dsimp only
    rw [hdiagnostic]
    dsimp only
    rw [if_pos hcapture]
    rfl
  by_cases hearlier : ∀ held ∈ (context.desync.of receiver).diagnostic,
      frameBefore remoteHash.frame held.earliestDivergentFrame = true
  · rw [if_pos ⟨hdiverges, hearlier⟩] at htracker
    refine ⟨_, _, _, hstep _ (by rw [htracker]), rfl, by rw [htracker]; rfl, Or.inl ⟨rfl, ?_⟩⟩
    intro held hheld
    rw [known, Option.map_eq_some_iff] at hheld
    obtain ⟨diagnostic, hdiagnostic, rfl⟩ := hheld
    exact hearlier diagnostic hdiagnostic
  · have hlater := hearlier
    push Not at hearlier
    obtain ⟨held, hheld, hnot⟩ := hearlier
    rw [Option.mem_def] at hheld
    rw [if_neg fun hboth => hlater hboth.2] at htracker
    refine ⟨_, held.earliestDivergentFrame, _, hstep held (by rw [htracker, hheld]), rfl,
      by rw [htracker, hheld]; rfl, Or.inr ⟨by rw [known, hheld]; rfl, Bool.eq_false_of_not_eq_true hnot⟩⟩

theorem frameBefore_small {frame other : FrameNumber} (hframe : frame.value.toNat < 2 ^ 30)
    (hother : other.value.toNat < 2 ^ 30) :
    frameBefore frame other = true ↔ frame.value.toNat < other.value.toNat := by
  have hplus (f : FrameNumber) : f = (⟨0⟩ : FrameNumber).plus f.value.toNat := by
    rw [FrameNumber.plus, UInt32.zero_add, UInt32.ofNat_toNat]
  rw [hplus frame, hplus other, frameBefore_plus _ (by omega) (by omega), ← hplus, ← hplus]

/-- What is on record once the receiver was shown these boundaries to differ: nothing new
if there are none, else the earliest of them and of what its tracker held. -/
structure Noted (context : DeliveryContext) (receiver : PlayerId) (shown : FrameNumber → Prop)
    (next : DeliveryContext) : Prop where
  other : ∀ id, id ≠ receiver → next.known id = context.known id
  found : ((∀ frame, ¬shown frame) ∧ next.known receiver = context.known receiver ∧
      next.marked = context.marked) ∨
    (∃ frame, shown frame) ∧
      ∃ frame, next.known receiver = some frame ∧ next.marked = some frame ∧
        (context.known receiver = some frame ∨ shown frame) ∧
        (∀ held, context.known receiver = some held → frame.value.toNat ≤ held.value.toNat) ∧
        ∀ other, shown other → frame.value.toNat ≤ other.value.toNat

namespace Noted

variable {shown : FrameNumber → Prop} {next : DeliveryContext}

theorem refl (context : DeliveryContext) (receiver : PlayerId) (hnone : ∀ frame, ¬shown frame) :
    context.Noted receiver shown context :=
  ⟨fun _ _ => rfl, Or.inl ⟨hnone, rfl, rfl⟩⟩

/-- The tracker of the receiver holds what it held, or one of the boundaries shown. -/
theorem held (h : context.Noted receiver shown next) {frame : FrameNumber}
    (hheld : next.known receiver = some frame) : context.known receiver = some frame ∨ shown frame := by
  rcases h.found with ⟨-, hkept, -⟩ | ⟨-, found, hfound, -, hfrom, -⟩
  · exact Or.inl (hkept.symm.trans hheld)
  · rw [← Option.some.inj (hfound.symm.trans hheld)]
    exact hfrom

/-- No boundary shown is before what the tracker of the receiver holds now, and what it
held is not either. -/
theorem least (h : context.Noted receiver shown next) {frame : FrameNumber}
    (hheld : next.known receiver = some frame) :
    (∀ held, context.known receiver = some held → frame.value.toNat ≤ held.value.toNat) ∧
      ∀ other, shown other → frame.value.toNat ≤ other.value.toNat := by
  rcases h.found with ⟨hnone, hkept, -⟩ | ⟨-, found, hfound, -, -, hleast⟩
  · refine ⟨fun held hbefore => ?_, fun other hother => absurd hother (hnone other)⟩
    rw [Option.some.inj (hheld.symm.trans (hkept.trans hbefore))]
  · rw [← Option.some.inj (hfound.symm.trans hheld)]
    exact hleast

theorem congr (h : context.Noted receiver shown next) {shown' : FrameNumber → Prop}
    (hiff : ∀ frame, shown frame ↔ shown' frame) : context.Noted receiver shown' next := by
  rw [← funext fun frame => propext (hiff frame)]
  exact h

theorem compareHash (h : context.Noted receiver shown next) (hcapture : next.captureTrace = true)
    (hknown : ∀ held, context.known receiver = some held → held.value.toNat < 2 ^ 30)
    (hshown : ∀ frame, shown frame → frame.value.toNat < 2 ^ 30)
    (hhash : remoteHash.frame.value.toNat < 2 ^ 30)
    (hcontra : (next.peer.of receiver).Contradicts remoteHash) :
    context.Noted receiver (fun frame => shown frame ∨ frame = remoteHash.frame)
      (compareHash receiver next remoteHash) := by
  obtain ⟨tracker, frame, marker, heq, hmarker, htracker, hcases⟩ :=
    compareHash_contradicts hcapture hcontra
  have hsmall {held : FrameNumber} (hheld : next.known receiver = some held) :
      held.value.toNat < 2 ^ 30 :=
    (h.held hheld).elim (hknown held) (hshown held)
  rw [heq]
  refine ⟨fun id hid => ?_, Or.inr ⟨⟨_, Or.inr rfl⟩, frame, ?_, ?_, ?_⟩⟩
  · rw [known, Sides.of_put, if_neg hid]
    exact h.other id hid
  · rw [known, Sides.of_put_self, htracker]
  · rw [marked, ← hmarker]
    rfl
  rcases hcases with ⟨rfl, hbefore⟩ | ⟨hheld, hnot⟩
  · -- The hash is before what the tracker held, and that before all that came before.
    refine ⟨Or.inr (Or.inr rfl), fun held hheld => ?_, fun other hother => ?_⟩
    · rcases h.found with ⟨-, hkept, -⟩ | ⟨-, found, hfound, -, -, hle, -⟩
      · exact ((frameBefore_small hhash (hknown held hheld)).mp (hbefore held (hkept.trans hheld))).le
      · have hlt := (frameBefore_small hhash (hsmall hfound)).mp (hbefore found hfound)
        exact hlt.le.trans (hle held hheld)
    · rcases hother with hother | rfl
      · rcases h.found with ⟨hnone, -⟩ | ⟨-, found, hfound, -, -, -, hleast⟩
        · exact absurd hother (hnone other)
        · have hlt := (frameBefore_small hhash (hsmall hfound)).mp (hbefore found hfound)
          exact hlt.le.trans (hleast other hother)
      · exact le_rfl
  · -- The tracker keeps what it held, which the hash is not before.
    have hle : frame.value.toNat ≤ remoteHash.frame.value.toNat := by
      rw [Bool.eq_false_iff, ne_eq, frameBefore_small hhash (hsmall hheld)] at hnot
      omega
    refine ⟨(h.held hheld).imp_right Or.inl, (h.least hheld).1, fun other hother => ?_⟩
    rcases hother with hother | rfl
    · exact (h.least hheld).2 other hother
    · exact hle

end Noted

/-- Comparing hashes puts on record the boundaries of those that contradict the receiver's. -/
theorem compareHashes_noted (hcapture : context.captureTrace = true) (hashes : List ConfirmedHash)
    (hknown : ∀ held, context.known receiver = some held → held.value.toNat < 2 ^ 30)
    (hsmall : ∀ hash, (context.peer.of receiver).Contradicts hash →
      hash.frame.value.toNat < 2 ^ 30) :
    context.Noted receiver
      (fun frame => ∃ hash ∈ hashes, (context.peer.of receiver).Contradicts hash ∧ hash.frame = frame)
      (hashes.foldl (compareHash receiver) context) := by
  induction hashes using List.reverseRecOn with
  | nil => exact .refl context receiver fun frame hshown => by simp at hshown
  | append_singleton hashes hash ih =>
    obtain ⟨desync, marker, heq⟩ := compareHashes_eq receiver context hashes
    rw [List.foldl_concat]
    have hpeer : (hashes.foldl (compareHash receiver) context).peer = context.peer := by rw [heq]
    have hcapture' : (hashes.foldl (compareHash receiver) context).captureTrace = true := by
      rw [heq]
      exact hcapture
    by_cases hcontra : (context.peer.of receiver).Contradicts hash
    · refine (ih.compareHash hcapture' hknown ?_ (hsmall hash hcontra) (hpeer ▸ hcontra)).congr fun frame => ?_
      · rintro frame ⟨other, -, hother, rfl⟩
        exact hsmall other hother
      · simp only [List.mem_append, List.mem_singleton, or_and_right, exists_or, exists_eq_left,
          hcontra, true_and]
        rw [eq_comm (a := frame)]
    · rw [compareHash_agrees (hpeer ▸ hcontra)]
      refine ih.congr fun frame => ?_
      simp only [List.mem_append, List.mem_singleton, or_and_right, exists_or, exists_eq_left,
        hcontra, false_and, or_false]

end Comparing

/-! ## Deliveries -/

/-- The session takes the inputs of a packet, and corrects itself to this one. -/
def Corrects (session : RollbackSession) (packet : Packet) (corrected : RollbackSession) : Prop :=
  ∃ ingested correction, ingestInputs session packet.inputs = (.ok (), ingested) ∧
    ingested.flushCorrections = (.ok correction, corrected)

/-- The packet has a hash of that boundary which contradicts that of the corrected receiver. -/
def Displays (context : DeliveryContext) (receiver : PlayerId) (packet : Packet) (frame : FrameNumber) :
    Prop :=
  ∃ corrected, Corrects (context.peer.of receiver) packet corrected ∧
    ∃ hash ∈ packet.confirmedHashes, corrected.Contradicts hash ∧ hash.frame = frame

/-- The packet of a delivery is received, and shows a divergence at that boundary. -/
def Reveals (context : DeliveryContext) (delivery : Delivery) (frame : FrameNumber) : Prop :=
  ∃ packet, decodePacket delivery.bytes = .ok packet ∧
    (∃ disposition window,
      (context.window.of delivery.receiver.side).observe packet.sequence = (disposition, window) ∧
        ¬(disposition = .duplicate ∨ disposition = .stale)) ∧
    context.Displays delivery.receiver.side packet frame

/-- If a delivery reveals a divergence, then it or an earlier one has shown its receiver a
divergence that is not after the one that the other peer knows. -/
def KeepsEarliest (context : DeliveryContext) (delivery : Delivery) : Prop :=
  (∃ frame, context.Reveals delivery frame) →
    ∀ held, context.known (remoteId delivery.receiver.side) = some held →
      ∃ frame, (context.known delivery.receiver.side = some frame ∨ context.Reveals delivery frame) ∧
        frame.value.toNat ≤ held.value.toNat

/-- Both sessions are played, no further than a scenario goes, and so are the divergences known. -/
structure Ready (config : Sides SessionConfig) (context : DeliveryContext) : Prop where
  captureTrace : context.captureTrace = true
  played : ∀ id, ∃ n, n ≤ kMaxReplayFrames ∧ Played (config.of id) n (context.peer.of id)
  known : ∀ id held, context.known id = some held → held.value.toNat < 2 ^ 30

namespace Ready

variable {config : Sides SessionConfig} {context : DeliveryContext}

theorem contradicts {n : ℕ} (hn : n ≤ kMaxReplayFrames) {sessionConfig : SessionConfig}
    {session : RollbackSession} (h : Played sessionConfig n session) {hash : ConfirmedHash}
    (hcontra : session.Contradicts hash) : hash.frame.value.toNat < 2 ^ 30 := by
  obtain ⟨loc, state, hhash, -⟩ := hcontra
  have hlimit : kMaxReplayFrames = 1000000 := rfl
  have hle := (h.hashAt (by omega) hhash).1
  omega

/-- A change of one session that leaves the records alone. -/
theorem setPeer (h : Ready config context) {id : PlayerId} {n : ℕ} {session : RollbackSession}
    (hn : n ≤ kMaxReplayFrames) (hplayed : Played (config.of id) n session) :
    Ready config (context.setPeer id session) := by
  refine ⟨h.captureTrace, fun other => ?_, h.known⟩
  rw [DeliveryContext.setPeer, Sides.of_put]
  split
  next heq =>
    subst heq
    exact ⟨n, hn, hplayed⟩
  · exact h.played other

/-- A change of neither the sessions nor what is on record. -/
theorem note (h : Ready config context) {next : DeliveryContext} (hpeer : next.peer = context.peer)
    (hdesync : next.desync = context.desync) (hcapture : next.captureTrace = context.captureTrace) :
    Ready config next := by
  refine ⟨hcapture.trans h.captureTrace, ?_, fun id held hheld => h.known id held ?_⟩
  · rw [hpeer]
    exact h.played
  · rw [DeliveryContext.known, ← hdesync]
    exact hheld

/-- The boundaries that were shown are on record. -/
theorem compared (h : Ready config context) {receiver : PlayerId} {shown : FrameNumber → Prop}
    {next : DeliveryContext} (hnoted : context.Noted receiver shown next)
    (hshown : ∀ frame, shown frame → frame.value.toNat < 2 ^ 30) (hpeer : next.peer = context.peer)
    (hcapture : next.captureTrace = context.captureTrace) : Ready config next := by
  refine ⟨hcapture.trans h.captureTrace, ?_, fun id held hheld => ?_⟩
  · rw [hpeer]
    exact h.played
  · by_cases hid : id = receiver
    · subst hid
      exact (hnoted.held hheld).elim (h.known id held) (hshown held)
    · exact h.known id held ((hnoted.other id hid).symm.trans hheld)

end Ready

theorem Noted.of_same {context next : DeliveryContext} {receiver : PlayerId} {shown : FrameNumber → Prop}
    (hdesync : next.desync = context.desync) (htrace : next.trace.desync = context.trace.desync)
    (hnone : ∀ frame, ¬shown frame) : context.Noted receiver shown next := by
  refine ⟨fun id _ => ?_, Or.inl ⟨hnone, ?_, ?_⟩⟩
  · rw [DeliveryContext.known, hdesync, DeliveryContext.known]
  · rw [DeliveryContext.known, hdesync, DeliveryContext.known]
  · rw [marked, htrace, marked]

theorem Noted.of_start {context start next : DeliveryContext} {receiver : PlayerId}
    {shown : FrameNumber → Prop} (h : start.Noted receiver shown next)
    (hdesync : start.desync = context.desync) (htrace : start.trace.desync = context.trace.desync) :
    context.Noted receiver shown next := by
  have hknown (id : PlayerId) : start.known id = context.known id := by
    rw [DeliveryContext.known, hdesync, DeliveryContext.known]
  have hmarked : start.marked = context.marked := by rw [marked, htrace, marked]
  refine ⟨fun id hid => (h.other id hid).trans (hknown id), ?_⟩
  rw [← hknown, ← hmarked]
  exact h.found

section Receiving

variable {config : Sides SessionConfig} {context : DeliveryContext}

theorem receive_noted (h : Ready config context) (receiver : PlayerId) (packet : Packet) :
    Ready config (context.receive receiver packet).2 ∧
      context.Noted receiver (context.Displays receiver packet) (context.receive receiver packet).2 := by
  obtain ⟨n, hn, hplayed⟩ := h.played receiver
  have hingested := hplayed.ingestInputs packet.inputs
  obtain ⟨ingested, session, hingest, hcases⟩ := receive_cases context receiver packet
  have hingest' : PeerRuntime.ingestInputs (context.peer.of receiver) packet.inputs = (ingested, session) :=
    hingest
  rw [hingest'] at hingested
  obtain ⟨correction, corrected, hflush, hcorrected, -⟩ := hingested.flushCorrections
  rcases hcases with ⟨error, rfl, hreceive⟩ | ⟨rfl, result, next, hresult, hcases⟩
  · rw [hreceive]
    refine ⟨h.setPeer hn hingested, .of_same rfl rfl ?_⟩
    rintro frame ⟨corrected, ⟨other, _, hother, -⟩, -⟩
    cases hingest.symm.trans hother
  · rw [hflush] at hresult
    cases hresult
    rcases hcases with ⟨error, herror, -⟩ | ⟨correction, -, hreceive⟩
    · cases herror
    obtain ⟨corrections, rollbacks, omitted, hrecord⟩ := recordCorrection_eq
      (context.setPeer receiver corrected) receiver session.state correction
    have hstart : Ready config ((context.setPeer receiver corrected).recordCorrection receiver
        session.state correction) :=
      (h.setPeer hn hcorrected).note (by rw [hrecord]) (by rw [hrecord]) (by rw [hrecord])
    have hpeer : ((context.setPeer receiver corrected).recordCorrection receiver session.state
        correction).peer.of receiver = corrected := by
      rw [hrecord]
      exact Sides.of_put_self _ _ _
    have hnoted := compareHashes_noted hstart.captureTrace packet.confirmedHashes
      (hstart.known receiver) fun hash hcontra => Ready.contradicts hn hcorrected (hpeer ▸ hcontra)
    have hdisplays (frame : FrameNumber) : context.Displays receiver packet frame ↔
        ∃ hash ∈ packet.confirmedHashes, corrected.Contradicts hash ∧ hash.frame = frame := by
      constructor
      · rintro ⟨other, ⟨_, _, hother, hotherFlush⟩, hshown⟩
        cases hingest.symm.trans hother
        cases hflush.symm.trans hotherFlush
        exact hshown
      · exact fun hshown => ⟨corrected, ⟨session, _, hingest, hflush⟩, hshown⟩
    obtain ⟨desync, marker, hcompared⟩ := compareHashes_eq receiver
      ((context.setPeer receiver corrected).recordCorrection receiver session.state correction)
      packet.confirmedHashes
    rw [hreceive]
    refine ⟨hstart.compared hnoted ?_ (by rw [hcompared]) (by rw [hcompared]), ?_⟩
    · rintro frame ⟨hash, -, hcontra, rfl⟩
      exact Ready.contradicts hn hcorrected (hpeer ▸ hcontra)
    · refine (hnoted.of_start (by rw [hrecord]; rfl) (by rw [hrecord]; rfl)).congr fun frame => ?_
      rw [hdisplays, hpeer]

/-- A delivery puts on record what it reveals. -/
theorem processDelivery_noted (h : Ready config context) (delivery : Delivery) :
    Ready config (context.processDelivery delivery).2 ∧
      context.Noted delivery.receiver.side (context.Reveals delivery)
        (context.processDelivery delivery).2 := by
  rw [processDelivery]
  cases hdecode : decodePacket delivery.bytes with
  | error error =>
    refine ⟨h, .refl _ _ ?_⟩
    rintro frame ⟨packet, hpacket, -⟩
    cases hdecode.symm.trans hpacket
  | ok packet =>
    rcases hobserve : (context.window.of delivery.receiver.side).observe packet.sequence with
      ⟨disposition, window⟩
    obtain ⟨start, hpeer, hdesync, hmarker, hcapture, heq⟩ : ∃ start : DeliveryContext,
        start.peer = context.peer ∧ start.desync = context.desync ∧
          start.trace.desync = context.trace.desync ∧ start.captureTrace = context.captureTrace ∧
          recordDelivery
            { context with window := context.window.put delivery.receiver.side window } delivery
            packet.sequence = start := by
      obtain ⟨trace, ⟨packets, omitted, rfl⟩, heq⟩ := recordDelivery_eq
        { context with window := context.window.put delivery.receiver.side window } delivery
        packet.sequence
      refine ⟨_, ?_, ?_, ?_, ?_, heq⟩
      all_goals rfl
    have hreveals (frame : FrameNumber) : context.Reveals delivery frame ↔
        ¬(disposition = .duplicate ∨ disposition = .stale) ∧
          context.Displays delivery.receiver.side packet frame := by
      constructor
      · rintro ⟨other, hother, ⟨_, _, hobserved, hfresh⟩, hdisplays⟩
        cases hdecode.symm.trans hother
        cases hobserve.symm.trans hobserved
        exact ⟨hfresh, hdisplays⟩
      · rintro ⟨hfresh, hdisplays⟩
        exact ⟨packet, hdecode, ⟨_, _, hobserve, hfresh⟩, hdisplays⟩
    dsimp only
    rw [hobserve]
    dsimp only
    rw [heq]
    split
    next hold =>
      refine ⟨h.note hpeer hdesync hcapture, .of_same hdesync hmarker fun frame hframe => ?_⟩
      exact ((hreveals frame).mp hframe).1 hold
    next hfresh =>
      obtain ⟨hready, hnoted⟩ :=
        receive_noted (h.note hpeer hdesync hcapture) delivery.receiver.side packet
      refine ⟨hready, (hnoted.of_start hdesync hmarker).congr fun frame => ?_⟩
      rw [hreveals, and_iff_right hfresh, Displays, hpeer, Displays]

end Receiving

/-! ## Sequences of deliveries -/

/-- The marker is the earliest divergence that a tracker holds, and there is none without one. -/
def MarksEarliest (context : DeliveryContext) : Prop :=
  ∀ frame, context.marked = some frame ↔ (∃ id, context.known id = some frame) ∧
    ∀ id held, context.known id = some held → frame.value.toNat ≤ held.value.toNat

/-- Both sessions are new, and no divergence is on record. -/
structure Fresh (config : Sides SessionConfig) (context : DeliveryContext) : Prop where
  captureTrace : context.captureTrace = true
  peer : ∀ id, context.peer.of id = .create (config.of id)
  initial : ∀ id, (config.of id).initialState = makeInitialWorld
  window : ∀ id, (config.of id).maxRollbackFrames.toNat ≤ 120
  tracker : ∀ id, (context.desync.of id).diagnostic = none
  marker : context.trace.desync = none

/-- What a context becomes by deliveries that are allowed, in any order, while the sessions
are fed, corrected and advanced between them. -/
inductive Unfolds (allowed : DeliveryContext → Delivery → Prop) (first : DeliveryContext) :
    DeliveryContext → Prop
  | start : Unfolds allowed first first
  | deliver {context : DeliveryContext} (h : Unfolds allowed first context) (delivery : Delivery)
      (hallowed : allowed context delivery) : Unfolds allowed first (context.processDelivery delivery).2
  | ingest {context : DeliveryContext} (h : Unfolds allowed first context) (id : PlayerId)
      (remote : InputFrame) :
      Unfolds allowed first (context.setPeer id ((context.peer.of id).ingestRemote remote).2)
  | flush {context : DeliveryContext} (h : Unfolds allowed first context) (id : PlayerId) :
      Unfolds allowed first (context.setPeer id (context.peer.of id).flushCorrections.2)
  | advance {context : DeliveryContext} (h : Unfolds allowed first context) (id : PlayerId)
      (loc : InputFrame) (hroom : (context.peer.of id).state.frame.value.toNat < kMaxReplayFrames) :
      Unfolds allowed first (context.setPeer id ((context.peer.of id).advance loc).2)
  | note {context : DeliveryContext} (h : Unfolds allowed first context)
      (corrections : Sides LiveCorrection) (trace : Trace) (htrace : trace.desync = context.trace.desync) :
      Unfolds allowed first { context with corrections := corrections, trace := trace }

section Unfolding

variable {config : Sides SessionConfig} {first context : DeliveryContext}
  {allowed : DeliveryContext → Delivery → Prop}

theorem eq_remoteId_of_ne {id receiver : PlayerId} (h : id ≠ receiver) : id = remoteId receiver := by
  cases id <;> cases receiver <;> first | rfl | exact absurd rfl h

theorem remoteId_ne (id : PlayerId) : remoteId id ≠ id := by
  cases id <;> decide

/-- The marker stays the earliest exactly if no later divergence is put in its place. -/
theorem Noted.marksEarliest_iff {receiver : PlayerId} {shown : FrameNumber → Prop} {next : DeliveryContext}
    (hnoted : context.Noted receiver shown next) (h : context.MarksEarliest) :
    next.MarksEarliest ↔ ((∃ frame, shown frame) →
      ∀ held, context.known (remoteId receiver) = some held →
        ∃ frame, (context.known receiver = some frame ∨ shown frame) ∧
          frame.value.toNat ≤ held.value.toNat) := by
  rcases hnoted.found with ⟨hnone, hreceiver, hmarked⟩ | ⟨hsome, frame, hheld, hmarked, hfrom, -, -⟩
  · have hknown (id : PlayerId) : next.known id = context.known id := by
      by_cases hid : id = receiver
      · rw [hid, hreceiver]
      · exact hnoted.other id hid
    refine iff_of_true (fun frame => ?_) fun ⟨frame, hshown⟩ => absurd hshown (hnone frame)
    rw [hmarked, h frame]
    simp only [hknown]
  · rw [forall_prop_of_true hsome]
    constructor
    · intro hnext held hother
      rw [← hnoted.other _ (remoteId_ne receiver)] at hother
      exact ⟨frame, hfrom, ((hnext frame).mp hmarked).2 _ held hother⟩
    · intro hkeeps
      have hleast (id : PlayerId) (held : FrameNumber) (hid : next.known id = some held) :
          frame.value.toNat ≤ held.value.toNat := by
        by_cases hreceiver : id = receiver
        · rw [hreceiver, hheld] at hid
          rw [Option.some.inj hid]
        · rw [hnoted.other id hreceiver, eq_remoteId_of_ne hreceiver] at hid
          obtain ⟨earlier, hearlier, hle⟩ := hkeeps held hid
          exact (hearlier.elim ((hnoted.least hheld).1 earlier) ((hnoted.least hheld).2 earlier)).trans hle
      intro other
      rw [hmarked, Option.some.injEq]
      constructor
      · rintro rfl
        exact ⟨⟨receiver, hheld⟩, hleast⟩
      · rintro ⟨⟨id, hid⟩, hother⟩
        have hvalue := le_antisymm (hleast id other hid) (hother receiver frame hheld)
        exact FrameNumber.ext hvalue

/-- A marker does not move to a later boundary while it is the earliest. -/
theorem Noted.marked_le {receiver : PlayerId} {shown : FrameNumber → Prop} {next : DeliveryContext}
    (hnoted : context.Noted receiver shown next) (h : context.MarksEarliest) (hnext : next.MarksEarliest)
    {frame : FrameNumber} (hmarked : context.marked = some frame) :
    ∃ moved, next.marked = some moved ∧ moved.value.toNat ≤ frame.value.toNat := by
  rcases hnoted.found with ⟨-, -, hsame⟩ | ⟨-, moved, hheld, hmoved, -, -, -⟩
  · exact ⟨frame, hsame.trans hmarked, le_rfl⟩
  · refine ⟨moved, hmoved, ?_⟩
    obtain ⟨⟨id, hid⟩, -⟩ := (h frame).mp hmarked
    by_cases hreceiver : id = receiver
    · exact (hnoted.least hheld).1 frame (hreceiver ▸ hid)
    · exact ((hnext moved).mp hmoved).2 id frame ((hnoted.other id hreceiver).trans hid)

theorem Fresh.ready (h : first.Fresh config) : Ready config first := by
  refine ⟨h.captureTrace, fun id => ⟨0, Nat.zero_le _, ?_⟩, fun id held hheld => ?_⟩
  · rw [h.peer id]
    exact .start (h.initial id) (h.window id)
  · rw [known, h.tracker id] at hheld
    cases hheld

theorem Fresh.marksEarliest (h : first.Fresh config) : first.MarksEarliest := by
  intro frame
  rw [marked, h.marker]
  refine iff_of_false (fun hnone => (by cases hnone)) ?_
  rintro ⟨⟨id, hid⟩, -⟩
  rw [known, h.tracker id] at hid
  cases hid

theorem Ready.ingest (h : Ready config context) (id : PlayerId) (remote : InputFrame) :
    Ready config (context.setPeer id ((context.peer.of id).ingestRemote remote).2) := by
  obtain ⟨n, hn, hplayed⟩ := h.played id
  exact h.setPeer hn (hplayed.ingestRemote remote)

theorem Ready.flush (h : Ready config context) (id : PlayerId) :
    Ready config (context.setPeer id (context.peer.of id).flushCorrections.2) := by
  obtain ⟨n, hn, hplayed⟩ := h.played id
  obtain ⟨result, next, hflush, hnext, -⟩ := hplayed.flushCorrections
  rw [hflush]
  exact h.setPeer hn hnext

theorem Ready.advance (h : Ready config context) (id : PlayerId) (loc : InputFrame)
    (hroom : (context.peer.of id).state.frame.value.toNat < kMaxReplayFrames) :
    Ready config (context.setPeer id ((context.peer.of id).advance loc).2) := by
  obtain ⟨n, hn, hplayed⟩ := h.played id
  have hlimit : kMaxReplayFrames = 1000000 := rfl
  rw [hplayed.frame_eq, UInt32.toNat_ofNat_of_lt' (by simp only [UInt32.size]; omega)] at hroom
  rcases hplayed.advance (by omega) loc with ⟨-, -, result, next, hadvance, hnext, -⟩ |
    ⟨-, e, next, hadvance, hnext⟩
  · rw [hadvance]
    exact h.setPeer hroom hnext
  · rw [hadvance]
    exact h.setPeer hn hnext

/-- What holds after deliveries that keep the marker the earliest. -/
theorem Unfolds.kept (h : Unfolds KeepsEarliest first context) (hready : Ready config first)
    (hfirst : first.MarksEarliest) : Ready config context ∧ context.MarksEarliest ∧
      ∀ frame, first.marked = some frame →
        ∃ moved, context.marked = some moved ∧ moved.value.toNat ≤ frame.value.toNat := by
  induction h with
  | start => exact ⟨hready, hfirst, fun frame hframe => ⟨frame, hframe, le_rfl⟩⟩
  | deliver h delivery hallowed ih =>
    obtain ⟨hready, hmarks, hmoved⟩ := ih
    obtain ⟨hnext, hnoted⟩ := processDelivery_noted hready delivery
    have hmarksNext := (hnoted.marksEarliest_iff hmarks).mpr hallowed
    refine ⟨hnext, hmarksNext, fun frame hframe => ?_⟩
    obtain ⟨between, hbetween, hle⟩ := hmoved frame hframe
    obtain ⟨moved, hmoved, hle'⟩ := hnoted.marked_le hmarks hmarksNext hbetween
    exact ⟨moved, hmoved, hle'.trans hle⟩
  | ingest h id remote ih => exact ⟨ih.1.ingest id remote, ih.2⟩
  | flush h id ih => exact ⟨ih.1.flush id, ih.2⟩
  | advance h id loc hroom ih => exact ⟨ih.1.advance id loc hroom, ih.2⟩
  | note h corrections trace htrace ih =>
    refine ⟨ih.1.note rfl rfl rfl, ?_⟩
    rw [MarksEarliest, marked, htrace]
    exact ih.2

/-- The diagnostic that a complete run chooses is that of the earliest divergence. -/
theorem Ready.chosen (h : Ready config context) (hmarks : context.MarksEarliest) :
    context.marked = (LiveScenario.chooseDiagnostic context.desync.a.diagnostic
      context.desync.b.diagnostic).map DesyncDiagnostic.earliestDivergentFrame := by
  have hboth (frame : FrameNumber) : context.marked = some frame ↔
      (context.known .a = some frame ∨ context.known .b = some frame) ∧
        (∀ held, context.known .a = some held → frame.value.toNat ≤ held.value.toNat) ∧
        ∀ held, context.known .b = some held → frame.value.toNat ≤ held.value.toNat := by
    rw [hmarks frame]
    refine and_congr ⟨?_, ?_⟩ ⟨fun hle => ⟨hle .a, hle .b⟩, fun hle id => ?_⟩
    · rintro ⟨id, hid⟩
      cases id with
      | a => exact Or.inl hid
      | b => exact Or.inr hid
    · rintro (hid | hid)
      · exact ⟨.a, hid⟩
      · exact ⟨.b, hid⟩
    · cases id with
      | a => exact hle.1
      | b => exact hle.2
  have hsmall (id : PlayerId) (diagnostic : DesyncDiagnostic)
      (hid : (context.desync.of id).diagnostic = some diagnostic) :
      diagnostic.earliestDivergentFrame.value.toNat < 2 ^ 30 :=
    h.known id _ (by rw [DeliveryContext.known, hid]; rfl)
  have hknownA : context.known .a = context.desync.a.diagnostic.map
    DesyncDiagnostic.earliestDivergentFrame := rfl
  have hknownB : context.known .b = context.desync.b.diagnostic.map
    DesyncDiagnostic.earliestDivergentFrame := rfl
  apply Option.ext
  intro frame
  rw [hboth, hknownA, hknownB]
  cases ha : context.desync.a.diagnostic with
  | none =>
    cases hb : context.desync.b.diagnostic with
    | none => simp [LiveScenario.chooseDiagnostic]
    | some b =>
      simp only [LiveScenario.chooseDiagnostic, Option.map_none, Option.map_some, Option.some.injEq, reduceCtorEq, false_or,
        false_implies, implies_true, true_and, forall_eq', and_iff_left_iff_imp]
      rintro rfl
      exact le_rfl
  | some a =>
    cases hb : context.desync.b.diagnostic with
    | none =>
      simp only [LiveScenario.chooseDiagnostic, Option.map_none, Option.map_some, Option.some.injEq, reduceCtorEq, or_false,
        false_implies, implies_true, and_true, forall_eq', and_iff_left_iff_imp]
      rintro rfl
      exact le_rfl
    | some b =>
      have hbefore := frameBefore_small (hsmall .b b hb) (hsmall .a a ha)
      simp only [LiveScenario.chooseDiagnostic, Option.map_some, Option.some.injEq, forall_eq']
      split
      next hlt =>
        rw [hbefore] at hlt
        constructor
        · rintro ⟨rfl | rfl, hle, hle'⟩
          · omega
          · rfl
        · intro hframe
          rw [Option.map_some, Option.some.injEq] at hframe
          subst hframe
          exact ⟨Or.inr rfl, hlt.le, le_rfl⟩
      next hnot =>
        rw [hbefore, Nat.not_lt] at hnot
        constructor
        · rintro ⟨rfl | rfl, hle, hle'⟩
          · rfl
          · exact congrArg some (FrameNumber.ext (le_antisymm hnot hle))
        · intro hframe
          rw [Option.map_some, Option.some.injEq] at hframe
          subst hframe
          exact ⟨Or.inl rfl, le_rfl, hnot⟩

/-- The verdict of a complete run chooses the diagnostic of the marker, which it leaves alone. -/
theorem Ready.finalize {live : LiveScenario} (h : Ready config live.context)
    (hmarks : live.context.MarksEarliest) :
    live.finalize.2.context.marked =
      live.finalize.2.desyncDiagnostic.map DesyncDiagnostic.earliestDivergentFrame := by
  obtain ⟨nA, -, hplayedA⟩ := h.played .a
  obtain ⟨nB, -, hplayedB⟩ := h.played .b
  obtain ⟨resultA, nextA, hflushA, -⟩ := hplayedA.flushCorrections
  obtain ⟨resultB, nextB, hflushB, -⟩ := hplayedB.flushCorrections
  obtain ⟨correctionA, peerA, correctionB, peerB, hA, hB, ⟨error, -, hfailed⟩ | ⟨-, hfinal⟩⟩ :=
    live.finalize_cases
  · rcases hfailed with rfl | rfl
    · cases hA.symm.trans hflushA
    · cases hB.symm.trans hflushB
  · rw [hfinal]
    exact h.chosen hmarks

end Unfolding

/-- The marker of a context is the earliest divergence, which a complete run reports, and it
is not after the marker of an earlier context. -/
structure Agrees (earlier context : DeliveryContext) : Prop where
  earliest : context.MarksEarliest
  reported : ∀ live : LiveScenario, live.context = context →
    live.finalize.2.context.marked = context.marked ∧
      live.finalize.2.desyncDiagnostic.map DesyncDiagnostic.earliestDivergentFrame = context.marked
  never_later : ∀ frame, earlier.marked = some frame →
    ∃ moved, context.marked = some moved ∧ moved.value.toNat ≤ frame.value.toNat

/-- The marker agrees with both trackers in every sequence of deliveries each of which, if it
reveals a divergence, is to a peer that has not learned only of later ones than its partner. -/
theorem desync_marker_agrees {config : Sides SessionConfig} {first earlier context : DeliveryContext}
    (hfirst : first.Fresh config) (hearlier : Unfolds KeepsEarliest first earlier)
    (h : Unfolds KeepsEarliest earlier context) : Agrees earlier context := by
  obtain ⟨hready, hmarks, -⟩ := hearlier.kept hfirst.ready hfirst.marksEarliest
  obtain ⟨hready, hmarks, hmoved⟩ := h.kept hready hmarks
  refine ⟨hmarks, ?_, hmoved⟩
  rintro live rfl
  have hfinal := Ready.finalize hready hmarks
  have htrace : live.finalize.2.context.marked = live.context.marked := by
    obtain ⟨_, peerA, _, peerB, -, -, ⟨error, hfailed, -⟩ | ⟨-, hdone⟩⟩ := live.finalize_cases
    · rw [hfailed]
      rfl
    · rw [hdone]
      rfl
  exact ⟨htrace, hfinal.symm.trans htrace⟩

/-! ## A marker that is overwritten -/

def freshConfig : Sides SessionConfig := ⟨{ localPeer := .a }, { localPeer := .b }⟩

def freshContext : DeliveryContext where
  peer := ⟨.create freshConfig.a, .create freshConfig.b⟩
  window := ⟨{}, {}⟩
  desync := ⟨⟨1, none⟩, ⟨1, none⟩⟩
  trace := { scenarioSeed := 1 }
  captureTrace := true
  corrections := ⟨{}, {}⟩

theorem freshContext_fresh : freshContext.Fresh freshConfig := by
  refine ⟨rfl, ?_, ?_, ?_, ?_, rfl⟩
  all_goals
    intro id
    cases id <;> rfl

/-- A packet of the partner with the input of its first frame, and a hash that is not its own. -/
def falseHash (receiver : Endpoint) (frame : FrameNumber) : Delivery where
  sender := (remoteId receiver.side).endpoint
  receiver := receiver
  bytes :=
    match encodePacket
      { type := .input
        sender := remoteId receiver.side
        sequence := 1
        confirmedFrame := frame
        inputs := [{ player := remoteId receiver.side }]
        confirmedHashes := [⟨frame, 0⟩] } with
    | .ok bytes => bytes
    | .error _ => []
  enqueuedAt := ⟨frame.value⟩
  deliveredAt := ⟨frame.value⟩
  ordinal := 0
  duplicate := false

/-- The second peer is told the first input of its partner and plays a frame. -/
def playedFirst (context : DeliveryContext) : DeliveryContext :=
  let told := context.setPeer .b ((context.peer.of .b).ingestRemote { player := .a }).2
  told.setPeer .b ((told.peer.of .b).advance { player := .b }).2

/-- The second peer has played a frame and is shown a divergence after it. -/
def shownLater : DeliveryContext := (freshContext.playedFirst.processDelivery (falseHash .b ⟨1⟩)).2

/-- Then the first peer is shown one at the beginning. -/
def shownBoth : DeliveryContext := (shownLater.processDelivery (falseHash .a ⟨0⟩)).2

theorem shownBoth_known : shownLater.marked = some ⟨1⟩ ∧ shownBoth.known .a = some ⟨0⟩ ∧
    shownBoth.known .b = some ⟨1⟩ ∧ shownBoth.marked = some ⟨0⟩ := by decide +kernel

theorem shownBoth_marks : shownBoth.MarksEarliest := by
  obtain ⟨-, hknown, -, hmarked⟩ := shownBoth_known
  intro frame
  rw [hmarked]
  constructor
  · rintro ⟨⟩
    refine ⟨⟨.a, hknown⟩, fun id held hheld => ?_⟩
    exact Nat.zero_le _
  · rintro ⟨-, hleast⟩
    have hzero := Nat.le_zero.1 (hleast .a ⟨0⟩ hknown)
    exact congrArg some (FrameNumber.ext hzero.symm)

theorem shownLater_unfolds : Unfolds KeepsEarliest freshContext shownLater := by
  refine .deliver (.advance (.ingest .start .b { player := .a }) .b { player := .b } (by decide))
    (falseHash .b ⟨1⟩) ?_
  intro _ held hheld
  cases hheld

/-- The marker moves back to the earlier divergence. -/
theorem desync_marker_agrees_both : Agrees shownLater shownBoth ∧
    shownLater.marked = some ⟨1⟩ ∧ shownBoth.marked = some ⟨0⟩ := by
  obtain ⟨hready, hmarks, -⟩ := shownLater_unfolds.kept freshContext_fresh.ready
    freshContext_fresh.marksEarliest
  have hallowed : shownLater.KeepsEarliest (falseHash .a ⟨0⟩) :=
    ((processDelivery_noted hready (falseHash .a ⟨0⟩)).2.marksEarliest_iff hmarks).1 shownBoth_marks
  exact ⟨desync_marker_agrees freshContext_fresh shownLater_unfolds (.deliver .start _ hallowed),
    shownBoth_known.1, shownBoth_known.2.2.2⟩

/-- The first peer is shown a divergence at the beginning, then the second one after a frame
that it has played: the marker moves on to the later one. -/
theorem unfolds_overwritten : ∃ context, Unfolds (fun _ _ => True) freshContext context ∧
    context.known .a = some ⟨0⟩ ∧ context.marked = some ⟨1⟩ := by
  refine ⟨((freshContext.processDelivery (falseHash .a ⟨0⟩)).2.playedFirst.processDelivery
    (falseHash .b ⟨1⟩)).2, .deliver (.advance (.ingest (.deliver .start (falseHash .a ⟨0⟩) trivial) .b
      { player := .a }) .b { player := .b } ?_) (falseHash .b ⟨1⟩) trivial, ?_⟩
  · decide +kernel
  · decide +kernel

theorem desync_marker_overwritten : ¬∀ (config : Sides SessionConfig) (first context : DeliveryContext),
    first.Fresh config → Unfolds (fun _ _ => True) first context → Agrees first context := by
  intro hagrees
  obtain ⟨context, hunfolds, hknown, hmarked⟩ := unfolds_overwritten
  have hmarks := (hagrees freshConfig freshContext context freshContext_fresh hunfolds).earliest
  exact absurd (((hmarks ⟨1⟩).mp hmarked).2 .a ⟨0⟩ hknown) (by decide)

end DeliveryContext

end RollbackLab
