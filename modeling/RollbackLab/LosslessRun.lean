import RollbackLab.LosslessTransport
import RollbackLab.SequenceWindow
import RollbackLab.TruthfulRun

/-!
# Runs of a scenario that loses nothing

Over a transport that loses nothing every packet arrives in time: it is taken between the
shortest and the longest delay after its tick. So either both sessions have heard all
inputs before the longest delay, or an input was too old for the rollback window.
-/

namespace RollbackLab

open LiveScenario (Phase sendingTicks totalTicks)

namespace SequenceWindow

/-- Near the newest number only what is known is dropped. -/
theorem classify_dropped {history : List ℤ} {number : ℤ} (hnear : ∀ x ∈ history, x < number + 64)
    (h : classify history number = .duplicate ∨ classify history number = .stale) :
    number ∈ history := by
  rw [classify] at h
  cases hmax : history.max? with
  | none =>
    rw [hmax] at h
    rcases h with h | h
    · cases h
    · cases h
  | some m =>
    have hbelow := hnear m (List.max?_eq_some_iff.1 hmax).1
    rw [hmax] at h
    dsimp only at h
    split at h
    · rcases h with h | h
      · cases h
      · cases h
    split at h
    next hstale => omega
    split at h
    next hold => exact hold
    · rcases h with h | h
      · cases h
      · cases h

end SequenceWindow

/-- What two peers have told each other: in how many ticks each has sent, what it had
confirmed when it did, the ticks whose packets it has taken, and the inputs it has heard. -/
structure Ledger where
  sent : Sides ℕ
  said : Sides (ℕ → ℕ)
  received : Sides (Finset ℕ)
  heard : Sides (Finset ℕ)

namespace Ledger

def start : Ledger := ⟨⟨0, 0⟩, ⟨fun _ => 0, fun _ => 0⟩, ⟨∅, ∅⟩, ⟨∅, ∅⟩⟩

theorem sent_start (id : PlayerId) : start.sent.of id = 0 := by
  cases id <;> rfl

theorem received_start (id : PlayerId) : start.received.of id = ∅ := by
  cases id <;> rfl

/-- A peer sends in its next tick. -/
def say (ledger : Ledger) (id : PlayerId) (c : ℕ) : Ledger :=
  { ledger with
    sent := ledger.sent.put id (ledger.sent.of id + 1)
    said := ledger.said.put id (Function.update (ledger.said.of id) (ledger.sent.of id) c) }

/-- A peer takes the packet of a tick, with the inputs of some frames. -/
def receive (ledger : Ledger) (id : PlayerId) (s : ℕ) (frames : List ℕ) : Ledger :=
  { ledger with
    received := ledger.received.put id (insert s (ledger.received.of id))
    heard := ledger.heard.put id (ledger.heard.of id ∪ frames.toFinset) }

variable {ledger : Ledger} {id other : PlayerId} {s k : ℕ} {frames : List ℕ}

theorem mem_received : k ∈ (ledger.receive id s frames).received.of other ↔
    k ∈ ledger.received.of other ∨ other = id ∧ k = s := by
  rw [receive, Sides.of_put]
  split
  next heq => rw [heq, Finset.mem_insert, or_comm, and_iff_right rfl]
  next hne => rw [or_iff_left (fun h => hne h.1)]

/-- What has been taken once changes nothing when it is taken again. -/
theorem received_of_mem (h : s ∈ ledger.received.of id) :
    (ledger.receive id s frames).received = ledger.received := by
  rw [receive, Finset.insert_eq_of_mem h]
  cases id <;> rfl

theorem mem_heard : k ∈ (ledger.receive id s frames).heard.of other ↔
    k ∈ ledger.heard.of other ∨ other = id ∧ k ∈ frames := by
  rw [receive, Sides.of_put]
  split
  next heq => rw [heq, Finset.mem_union, List.mem_toFinset, and_iff_right rfl]
  next hne => rw [or_iff_left (fun h => hne h.1)]

theorem sent_say (c : ℕ) : (ledger.say id c).sent.of other =
    if other = id then ledger.sent.of id + 1 else ledger.sent.of other := by
  rw [say, Sides.of_put]

theorem lt_sent_say (c : ℕ) : k < (ledger.say id c).sent.of other ↔
    k < ledger.sent.of other ∨ other = id ∧ k = ledger.sent.of id := by
  rw [sent_say]
  split
  next heq => rw [heq, Nat.lt_succ_iff_lt_or_eq, and_iff_right rfl]
  next hne => rw [or_iff_left (fun h => hne h.1)]

theorem said_say_self (c : ℕ) : (ledger.say id c).said.of id (ledger.sent.of id) = c := by
  rw [say, Sides.of_put_self, Function.update_self]

theorem said_say_of_lt (c : ℕ) (h : k < ledger.sent.of other) :
    (ledger.say id c).said.of other k = ledger.said.of other k := by
  rw [say, Sides.of_put]
  split
  next heq =>
    subst heq
    rw [Function.update_of_ne h.ne]
  · rfl

/-- A ledger with more packets taken. -/
structure Later (ledger later : Ledger) : Prop where
  sent : later.sent = ledger.sent
  said : later.said = ledger.said
  received : ∀ id, ledger.received.of id ⊆ later.received.of id

theorem Later.refl (ledger : Ledger) : Later ledger ledger := ⟨rfl, rfl, fun _ _ => id⟩

theorem Later.trans {ledger later last : Ledger} (h : Later ledger later) (h' : Later later last) :
    Later ledger last :=
  ⟨h'.sent.trans h.sent, h'.said.trans h.said, fun id => (h.received id).trans (h'.received id)⟩

end Ledger

namespace LiveMatch

variable (m : LiveMatch)

/-- The transport between the peers. -/
def network : TransportConfig := LiveScenario.seededConfig m.config

/-- A boundary that a peer can have confirmed when it sends in a tick: all that had the time to
arrive is in it. -/
def Fresh (c s : ℕ) : Prop := m.simulated (s - m.network.longestDelay) ≤ c ∧ c ≤ m.simulated s

/-- What a peer sends in a tick, when it has confirmed what is on the ledger. -/
structure Says (ledger : Ledger) (id : PlayerId) (s : ℕ) (sent : Sent) : Prop where
  sender : sent.sender = id.endpoint
  receiver : sent.receiver = (remoteId id).endpoint
  tick : sent.now.value.toNat = s
  confirmed : m.Fresh (ledger.said.of id s) s
  tells : ∃ packet, decodePacket sent.bytes = .ok packet ∧
    Tells m.script (m.session.of id).variant id (UInt32.ofNat (s + 1)) (m.simulated (s + 1))
      (m.simulated s) (ledger.said.of id s) packet

/-- Some input of a packet may be too old when it arrives. -/
def TooLate : Prop :=
  ∃ id s j, s < sendingTicks m.config ∧ Latest (m.simulated (s + 1)) j ∧
    j + (m.session.of id).maxRollbackFrames.toNat <
      m.simulated (s + m.network.longestDelay)

/-- What the sessions know in a tick, if everything arrives in time. -/
structure Hearing (t : ℕ) (ledger : Ledger) (context : DeliveryContext) : Prop where
  capture : context.captureTrace = m.config.captureTrace
  peers : m.Peers (m.simulated t) ledger.heard context
  heard : ∀ id, ∀ s ∈ ledger.received.of id, ∀ j, Latest (m.simulated (s + 1)) j →
    j ∈ ledger.heard.of id
  sent_le : ∀ id, ledger.sent.of id ≤ sendingTicks m.config
  early : ∀ id, ∀ s ∈ ledger.received.of id,
    s < ledger.sent.of (remoteId id) ∧ s + m.network.shortestDelay ≤ t
  near : ∀ id, ∀ s ∈ ledger.received.of id, ∀ j, Latest (m.simulated (s + 1)) j →
    m.simulated (s + m.network.shortestDelay) ≤
      j + (m.session.of id).maxRollbackFrames.toNat
  arrived : ∀ id, ∀ s < sendingTicks m.config, s + m.network.longestDelay < t →
    s ∈ ledger.received.of id

/-- The windows know which packets have been taken. -/
def Windows (ledger : Ledger) (context : DeliveryContext) : Prop :=
  ∀ id, ∃ history, SequenceWindow.Remembers history (context.window.of id) ∧
    ∀ x, x ∈ history ↔ ∃ s ∈ ledger.received.of id, x = ((s + 1 : ℕ) : ℤ)

/-- What is kept along a run: it does not depend on quiet changes, nor on what is still to be
taken, and receiving a packet in time keeps it. -/
structure Keeps (K : Ledger → DeliveryContext → Prop) : Prop where
  quiet : ∀ ledger context next, context.Quiet next → K ledger context → K ledger next
  say : ∀ ledger context id c,
    (∀ other, ∀ s ∈ ledger.received.of other, s < ledger.sent.of (remoteId other)) →
      K ledger context → K (ledger.say id c) context
  receive : ∀ t ledger context next receiver s packet, m.Hearing t ledger context →
    s < ledger.sent.of (remoteId receiver) → s ≤ t → t ≤ s + m.network.longestDelay →
    Tells m.script (m.session.of (remoteId receiver)).variant (remoteId receiver)
      (UInt32.ofNat (s + 1)) (m.simulated (s + 1)) (m.simulated s)
      (ledger.said.of (remoteId receiver) s) packet →
    m.Fresh (ledger.said.of (remoteId receiver) s) s → K ledger context → context.receive receiver packet = (.ok (), next) →
    K (ledger.receive receiver s (latest (m.simulated (s + 1)))) next

variable {m} {K : Ledger → DeliveryContext → Prop} {t : ℕ} {ledger : Ledger} {context next : DeliveryContext}
  {transport : SeededTransport}

theorem Keeps.nothing : m.Keeps fun _ _ => True :=
  ⟨fun _ _ _ _ _ => trivial, fun _ _ _ _ _ _ => trivial, fun _ _ _ _ _ _ _ _ _ _ _ _ _ _ _ => trivial⟩

theorem Peers.congr {n : ℕ} {heard : Sides (Finset ℕ)} (h : m.Peers n heard context)
    (hpeer : next.peer = context.peer) : m.Peers n heard next := by
  constructor
  · rw [hpeer]
    exact h.pays
  · rw [hpeer]
    exact h.clean

theorem Hearing.congr (h : m.Hearing t ledger context) (hpeer : next.peer = context.peer)
    (hcapture : next.captureTrace = context.captureTrace) : m.Hearing t ledger next :=
  ⟨hcapture.trans h.capture, h.peers.congr hpeer, h.heard, h.sent_le, h.early, h.near, h.arrived⟩

/-! ## Taking a packet -/

theorem simulated_mono (m : LiveMatch) {t later : ℕ} (h : t ≤ later) : m.simulated t ≤ m.simulated later := by
  rw [simulated, simulated]
  omega

/-- The inputs of a tick are for frames that have been reached. -/
theorem reached {s t : ℕ} (hst : s ≤ t) : ∀ j < m.simulated (s + 1), j ≤ m.simulated t ∧ j < m.frames := by
  intro j hj
  rw [simulated] at hj ⊢
  omega

/-- A packet that comes in time is taken, unless an input of it may be too old. -/
theorem Hearing.receive (h : m.Hearing t ledger context) {receiver : PlayerId} {s : ℕ} {packet : Packet}
    (hs : s < ledger.sent.of (remoteId receiver))
    (hearly : s + m.network.shortestDelay ≤ t)
    (hlate : t ≤ s + m.network.longestDelay)
    (htells : Tells m.script (m.session.of (remoteId receiver)).variant (remoteId receiver)
      (UInt32.ofNat (s + 1)) (m.simulated (s + 1)) (m.simulated s)
      (ledger.said.of (remoteId receiver) s) packet) :
    Outcome
      (fun _ next => m.Hearing t (ledger.receive receiver s (latest (m.simulated (s + 1)))) next ∧
        next.window = context.window)
      (fun error _ => error.code = .rollbackWindowExceeded ∧ m.TooLate)
      (context.receive receiver packet) := by
  rcases h.peers.receive receiver htells (m.simulated_le t) (reached (by omega)) with
    ⟨error, session, heq, hcode, -, j, hlatest, hfar⟩ |
    ⟨before, correction, session, heq, -, hpeers, hnear⟩
  · rw [heq]
    exact ⟨hcode, receiver, s, j, hs.trans_le (h.sent_le _), hlatest, hfar.trans_le (m.simulated_mono hlate)⟩
  obtain ⟨corrections, rollbacks, omitted, hrecord⟩ :=
    (context.setPeer receiver session).recordCorrection_eq receiver before correction
  obtain ⟨desync, marker, hcompare⟩ := DeliveryContext.compareHashes_eq receiver
    ((context.setPeer receiver session).recordCorrection receiver before correction)
    packet.confirmedHashes
  rw [heq, hcompare, hrecord]
  refine ⟨⟨h.capture, hpeers.congr rfl, fun id other hother j hj => ?_, h.sent_le,
    fun id other hother => ?_, fun id other hother j hj => ?_, fun id other hother hpast => ?_⟩, rfl⟩
  · rw [Ledger.mem_heard]
    rcases Ledger.mem_received.1 hother with hold | ⟨rfl, rfl⟩
    · exact Or.inl (h.heard id other hold j hj)
    · exact Or.inr ⟨rfl, mem_latest.2 hj⟩
  · rcases Ledger.mem_received.1 hother with hold | ⟨rfl, rfl⟩
    · exact h.early id other hold
    · exact ⟨hs, hearly⟩
  · rcases Ledger.mem_received.1 hother with hold | ⟨rfl, rfl⟩
    · exact h.near id other hold j hj
    · exact (m.simulated_mono hearly).trans (hnear j hj)
  · exact Ledger.mem_received.2 (Or.inl (h.arrived id other hother hpast))

/-- A number on the ledger is known to the window, and one near it is not taken for stale. -/
theorem Windows.observe (h : Windows ledger context) (hearing : m.Hearing t ledger context)
    (hspan : sendingTicks m.config < 2 ^ 31)
    (hnarrow : m.network.longestDelay ≤ m.network.shortestDelay + 63)
    {receiver : PlayerId} {s : ℕ} (hs : s < ledger.sent.of (remoteId receiver))
    (hlate : t ≤ s + m.network.longestDelay) (frames : List ℕ) :
    let observed := (context.window.of receiver).observe (UInt32.ofNat (s + 1))
    Windows (ledger.receive receiver s frames)
        { context with window := context.window.put receiver observed.2 } ∧
      ((observed.1 = .duplicate ∨ observed.1 = .stale) → s ∈ ledger.received.of receiver) := by
  obtain ⟨history, hremembers, hhistory⟩ := h receiver
  have hbounds : ∀ x ∈ history ++ [((s + 1 : ℕ) : ℤ)], 0 ≤ x ∧ x < 2 ^ 31 := by
    intro x hx
    rcases List.mem_append.1 hx with hold | hnew
    · obtain ⟨other, hother, rfl⟩ := (hhistory x).1 hold
      have hearly := (hearing.early receiver other hother).1
      have hle := hearing.sent_le (remoteId receiver)
      omega
    · have hle := hearing.sent_le (remoteId receiver)
      rw [List.mem_singleton.1 hnew]
      omega
  have hwrap : SequenceWindow.wrap ((s + 1 : ℕ) : ℤ) = UInt32.ofNat (s + 1) := by
    have hle := hearing.sent_le (remoteId receiver)
    rw [SequenceWindow.wrap, UInt32.ofInt]
    congr 1
    omega
  obtain ⟨hclass, hnext⟩ := hremembers.observe (fun x hx y hy => by
    have hxs := hbounds x hx
    have hys := hbounds y hy
    omega)
  rw [hwrap] at hclass hnext
  intro observed
  refine ⟨fun id => ?_, fun hdropped => ?_⟩
  · dsimp only
    rw [Sides.of_put]
    split
    next heq =>
      subst heq
      refine ⟨_, hnext, fun x => ?_⟩
      rw [List.mem_append, List.mem_singleton, hhistory]
      constructor
      · rintro (⟨other, hother, rfl⟩ | rfl)
        · exact ⟨other, Ledger.mem_received.2 (Or.inl hother), rfl⟩
        · exact ⟨s, Ledger.mem_received.2 (Or.inr ⟨rfl, rfl⟩), rfl⟩
      · rintro ⟨other, hother, rfl⟩
        rcases Ledger.mem_received.1 hother with hold | ⟨-, rfl⟩
        · exact Or.inl ⟨other, hold, rfl⟩
        · exact Or.inr rfl
    next hne =>
      obtain ⟨old, hremembers, hold⟩ := h id
      refine ⟨old, hremembers, fun x => ?_⟩
      rw [hold]
      constructor
      · rintro ⟨other, hother, rfl⟩
        exact ⟨other, Ledger.mem_received.2 (Or.inl hother), rfl⟩
      · rintro ⟨other, hother, rfl⟩
        exact ⟨other, (Ledger.mem_received.1 hother).resolve_right fun h => hne h.1, rfl⟩
  · rw [hclass] at hdropped
    have hmem := SequenceWindow.classify_dropped (fun x hx => by
      obtain ⟨other, hother, rfl⟩ := (hhistory x).1 hx
      have hearly := (hearing.early receiver other hother).2
      omega) hdropped
    obtain ⟨other, hother, heq⟩ := (hhistory _).1 hmem
    obtain rfl : s = other := by omega
    exact hother

variable (m K) in
/-- All that is kept while the packets of a tick are delivered. -/
structure Attends (t : ℕ) (ledger : Ledger) (context : DeliveryContext) : Prop where
  hearing : m.Hearing t ledger context
  windows : Windows ledger context
  kept : K ledger context

theorem Windows.congr {other : Ledger} (h : Windows ledger context)
    (hreceived : other.received = ledger.received) (hwindow : next.window = context.window) :
    Windows other next := by
  rw [Windows, hreceived, hwindow]
  exact h

theorem Says.congr {other : Ledger} {id : PlayerId} {s : ℕ} {sent : Sent} (h : m.Says ledger id s sent)
    (hsaid : other.said = ledger.said) : m.Says other id s sent := by
  refine ⟨h.sender, h.receiver, h.tick, ?_, ?_⟩
  · rw [hsaid]
    exact h.confirmed
  · rw [hsaid]
    exact h.tells

theorem Attends.processDelivery (hkeeps : m.Keeps K) (h : m.Attends K t ledger context)
    (hspan : sendingTicks m.config < 2 ^ 31)
    (hnarrow : m.network.longestDelay ≤ m.network.shortestDelay + 63)
    {delivery : Delivery} {receiver : PlayerId} {s : ℕ}
    (hword : m.Says ledger (remoteId receiver) s delivery.sent)
    (hs : s < ledger.sent.of (remoteId receiver))
    (hearly : s + m.network.shortestDelay ≤ t)
    (hlate : t ≤ s + m.network.longestDelay) :
    Outcome
      (fun _ next => ∃ later, Ledger.Later ledger later ∧ m.Attends K t later next ∧
        s ∈ later.received.of receiver)
      (fun error _ => error.code = .rollbackWindowExceeded ∧ m.TooLate)
      (context.processDelivery delivery) := by
  obtain ⟨packet, hdecode, htells⟩ := hword.tells
  have hside : delivery.receiver.side = receiver := by
    rw [show delivery.receiver = _ from hword.receiver, remoteId_remoteId, PlayerId.side_endpoint]
  have hdecode' : decodePacket delivery.bytes = .ok packet := hdecode
  obtain ⟨hwindows, hdropped⟩ := h.windows.observe h.hearing hspan hnarrow hs hlate (latest (m.simulated (s + 1)))
  rw [DeliveryContext.processDelivery, hdecode', hside]
  dsimp only at hwindows hdropped ⊢
  rw [htells.sequence_eq]
  revert hwindows hdropped
  rcases (context.window.of receiver).observe (UInt32.ofNat (s + 1)) with ⟨disposition, window⟩
  intro hwindows hdropped
  obtain ⟨trace, ⟨packets, omitted, rfl⟩, hrecord⟩ := DeliveryContext.recordDelivery_eq
    { context with window := context.window.put receiver window } delivery
    (UInt32.ofNat (s + 1))
  dsimp only at hwindows hdropped ⊢
  rw [hrecord]
  have hhearing : m.Hearing t ledger { context with
      window := context.window.put receiver window
      trace := { context.trace with packets := packets, omittedPacketEvents := omitted } } :=
    h.hearing.congr rfl rfl
  have hkept := hkeeps.quiet ledger context { context with
    window := context.window.put receiver window
    trace := { context.trace with packets := packets, omittedPacketEvents := omitted } }
    ⟨fun _ => rfl, rfl, rfl, rfl, rfl⟩ h.kept
  split
  next hdrop =>
    have hold := hdropped hdrop
    refine ⟨ledger, .refl ledger, ⟨hhearing, ?_, hkept⟩, hold⟩
    exact hwindows.congr (Ledger.received_of_mem hold).symm rfl
  next hfresh =>
    have hreceive := hhearing.receive hs hearly hlate htells
    rcases hcall : DeliveryContext.receive { context with
        window := context.window.put receiver window
        trace := { context.trace with packets := packets, omittedPacketEvents := omitted } }
      receiver packet with ⟨error | _, next⟩
    · rw [hcall] at hreceive
      exact hreceive
    · rw [hcall] at hreceive
      obtain ⟨hnext, hwindow⟩ := hreceive
      refine ⟨ledger.receive receiver s (latest (m.simulated (s + 1))),
        ⟨rfl, rfl, fun other k hk => Ledger.mem_received.2 (Or.inl hk)⟩, ⟨hnext, hwindows.congr rfl hwindow, ?_⟩, Ledger.mem_received.2 (Or.inr ⟨rfl, rfl⟩)⟩
      exact hkeeps.receive t ledger _ next receiver s packet hhearing hs (by omega) hlate htells
        hword.confirmed hkept hcall

/-- What the deliveries of a tick hand out is taken. -/
theorem Attends.processAll (hkeeps : m.Keeps K) (h : m.Attends K t ledger context)
    (hspan : sendingTicks m.config < 2 ^ 31)
    (hnarrow : m.network.longestDelay ≤ m.network.shortestDelay + 63)
    {deliveries : List Delivery} (hall : ∀ delivery ∈ deliveries, ∃ receiver s,
      m.Says ledger (remoteId receiver) s delivery.sent ∧ s < ledger.sent.of (remoteId receiver) ∧
        s + m.network.shortestDelay ≤ t ∧ t ≤ s + m.network.longestDelay) :
    Outcome
      (fun _ next => ∃ later, Ledger.Later ledger later ∧ m.Attends K t later next ∧
        ∀ delivery ∈ deliveries, ∀ receiver, delivery.sender = (remoteId receiver).endpoint →
          delivery.enqueuedAt.value.toNat ∈ later.received.of receiver)
      (fun error _ => error.code = .rollbackWindowExceeded ∧ m.TooLate)
      (context.processAll deliveries) := by
  induction deliveries generalizing ledger context with
  | nil => exact ⟨ledger, .refl ledger, h, fun delivery hdelivery => absurd hdelivery List.not_mem_nil⟩
  | cons delivery deliveries ih =>
    obtain ⟨⟨receiver, s, hword, hs, hearly, hlate⟩, hrest⟩ := List.forall_mem_cons.1 hall
    have hone := h.processDelivery hkeeps hspan hnarrow hword hs hearly hlate
    rw [DeliveryContext.processAll]
    rcases hprocessed : context.processDelivery delivery with ⟨error | _, next⟩
    · rw [hprocessed] at hone
      exact hone
    rw [hprocessed] at hone
    obtain ⟨later, hlater, hnext, hmem⟩ := hone
    refine (ih hnext fun other hother => ?_).mono ?_ fun _ _ => id
    · obtain ⟨side, k, hother, hk, htimes⟩ := hrest other hother
      rw [← hlater.sent] at hk
      exact ⟨side, k, hother.congr hlater.said, hk, htimes⟩
    · rintro _ last ⟨latest, hlatest, hlast, hreceived⟩
      refine ⟨latest, hlater.trans hlatest, hlast, List.forall_mem_cons.2 ⟨fun other hother => ?_, hreceived⟩⟩
      obtain rfl : receiver = other := by
        have hsender : delivery.sender = (remoteId receiver).endpoint := hword.sender
        rw [hsender] at hother
        cases receiver <;> cases other <;> first | rfl | cases hother
      rw [show delivery.enqueuedAt.value.toNat = s from hword.tick]
      exact hlatest.received _ hmem

/-! ## Sending -/

variable (m) in
/-- A match whose transport loses nothing, and whose packets all come near each other. -/
structure LosesNothing : Prop where
  transport : m.network.Lossless
  ticks : sendingTicks m.config + m.network.longestDelay < 2 ^ 31
  narrow : m.network.longestDelay ≤ m.network.shortestDelay + 63

variable (m K) in
/-- What has been sent over a transport that loses nothing has been taken, or it is under way. -/
structure Conveyed (t flow now : ℕ) (ledger : Ledger) (transport : SeededTransport)
    (context : DeliveryContext) : Prop where
  attends : m.Attends K t ledger context
  flows : transport.Flows m.network flow now
  spoken : ∀ packet ∈ transport.queue, ∃ receiver,
    m.Says ledger (remoteId receiver) packet.tick packet.sent ∧
      packet.tick < ledger.sent.of (remoteId receiver)
  pending : ∀ receiver, ∀ s < ledger.sent.of (remoteId receiver), s ∈ ledger.received.of receiver ∨
    ∃ packet ∈ transport.queue, packet.sender = (remoteId receiver).endpoint ∧ packet.tick = s
  said : ∀ id, ∀ s < ledger.sent.of id, m.Fresh (ledger.said.of id s) s

/-- What has had the time to arrive has been heard. -/
theorem Hearing.heard_all (h : m.Hearing t ledger context) (id : PlayerId) {j : ℕ}
    (hj : j < m.simulated (t - m.network.longestDelay)) : j ∈ ledger.heard.of id := by
  rw [simulated] at hj
  have hsends : m.frames ≤ sendingTicks m.config := Nat.le_add_right _ _
  refine h.heard id j (h.arrived id j (by omega) (by omega)) j ?_
  rw [simulated, Latest]
  omega

theorem Hearing.confirmed (h : m.Hearing t ledger context) {id : PlayerId} {c : ℕ}
    (hpays : Pays (m.session.of id) m.script m.frames (m.simulated t) c (ledger.heard.of id)
      (context.peer.of id)) :
    m.simulated (t - m.network.longestDelay) ≤ c :=
  hpays.hears.le_confirmed (h.peers.clean id) (m.simulated_mono (Nat.sub_le _ _)) fun _ hj =>
    h.heard_all id hj

theorem Says.say {id other : PlayerId} {s : ℕ} {sent : Sent} (h : m.Says ledger other s sent) (c : ℕ)
    (hs : s < ledger.sent.of other) : m.Says (ledger.say id c) other s sent := by
  refine ⟨h.sender, h.receiver, h.tick, ?_, ?_⟩
  · rw [Ledger.said_say_of_lt c hs]
    exact h.confirmed
  · rw [Ledger.said_say_of_lt c hs]
    exact h.tells

/-- One of the peers sends. -/
theorem Conveyed.send (hkeeps : m.Keeps K) (hm : m.LosesNothing) {live : LiveScenario} {now : ℕ}
    (h : m.Conveyed K t t now ledger live.transport live.context) (ht : live.tickIndex.toNat = t)
    (id : PlayerId) (hsent : ledger.sent.of id = t)
    (hroom : now + m.network.copies ≤ 2 * m.network.copies)
    (hconfig : live.config = m.config)
    (hhistory : live.history.of id = m.script.locals id (m.simulated (t + 1)))
    (hsequence : live.sequence.of id = UInt32.ofNat (t + 1)) (hsends : t < sendingTicks m.config) :
    ∃ c after trace, live.send id ⟨live.tickIndex⟩ =
        (.ok (),
          { live with
            sequence := live.sequence.put id (live.sequence.of id + 1)
            transport := after
            context := { live.context with trace := trace } }) ∧
      m.Conveyed K t t (now + m.network.copies) (ledger.say id c) after
        { live.context with trace := trace } := by
  have hspan := hm.ticks
  subst ht
  obtain ⟨c, hpays⟩ := h.attends.hearing.peers.pays id
  obtain ⟨bytes, packet, hlength, hdecode, htells, hle, hsending⟩ :=
    send_spoken id rfl hconfig hpays hhistory hsequence
  obtain ⟨added, after, hsend, hqueue, hadded, hall, hflows⟩ := @SeededTransport.Flows.send _ _ _ _
    id.endpoint (remoteId id).endpoint bytes ⟨live.tickIndex⟩ h.flows hm.transport hroom hlength rfl
    (by omega)
  obtain ⟨trace, htrace, heq⟩ := hsending _ _ hsend
  have hcopy : ∀ copy ∈ added, copy.sender = id.endpoint ∧ copy.tick = ledger.sent.of id := by
    intro copy hcopy
    have hsame := hall copy hcopy
    rw [SeededTransport.Scheduled.sent, Sent.mk.injEq] at hsame
    rw [SeededTransport.Scheduled.tick, hsame.2.2.2, hsent]
    exact ⟨hsame.1, rfl⟩
  refine ⟨c, after, trace, heq, ⟨?_, ?_, ?_⟩, hflows, fun copy hmem => ?_, fun receiver s hs => ?_,
    fun other s hs => ?_⟩
  · have hhearing := h.attends.hearing
    refine ⟨hhearing.capture, hhearing.peers.congr rfl, hhearing.heard, fun other => ?_,
      fun other s hs => ?_, hhearing.near, hhearing.arrived⟩
    · rw [Ledger.sent_say]
      split
      · omega
      · exact hhearing.sent_le other
    · obtain ⟨hlt, hearly⟩ := hhearing.early other s hs
      exact ⟨(Ledger.lt_sent_say c).2 (Or.inl hlt), hearly⟩
  · exact h.attends.windows.congr rfl rfl
  · obtain ⟨packets, omitted, rfl⟩ := htrace
    refine hkeeps.quiet _ live.context _ ⟨fun _ => rfl, rfl, rfl, rfl, rfl⟩
      (hkeeps.say _ _ id c (fun other s hs => (h.attends.hearing.early other s hs).1) h.attends.kept)
  · rw [hqueue] at hmem
    rcases List.mem_append.1 hmem with hold | hnew
    · obtain ⟨receiver, hword, hlt⟩ := h.spoken copy hold
      exact ⟨receiver, hword.say c hlt, (Ledger.lt_sent_say c).2 (Or.inl hlt)⟩
    · refine ⟨remoteId id, ?_⟩
      rw [remoteId_remoteId, (hcopy copy hnew).2]
      refine ⟨?_, (Ledger.lt_sent_say c).2 (Or.inr ⟨rfl, rfl⟩)⟩
      rw [hall copy hnew]
      have hself : (ledger.say id c).said.of id live.tickIndex.toNat = c := by
        rw [← hsent, Ledger.said_say_self]
      rw [hsent]
      refine ⟨rfl, rfl, rfl, ?_, packet, hdecode, ?_⟩
      · rw [hself]
        exact ⟨h.attends.hearing.confirmed hpays, hle⟩
      · rw [hself]
        exact htells
  · rw [hqueue]
    rcases (Ledger.lt_sent_say c).1 hs with hold | ⟨hid, rfl⟩
    · refine (h.pending receiver s hold).imp_right ?_
      rintro ⟨copy, hmem, hcopy⟩
      exact ⟨copy, List.mem_append_left _ hmem, hcopy⟩
    · obtain ⟨copy, hmem⟩ := List.exists_mem_of_ne_nil added hadded
      obtain ⟨hsender, htick⟩ := hcopy copy hmem
      exact Or.inr ⟨copy, List.mem_append_right _ hmem, hid ▸ hsender, htick⟩
  · rcases (Ledger.lt_sent_say c).1 hs with hold | ⟨rfl, rfl⟩
    · rw [Ledger.said_say_of_lt c hold]
      exact h.said other s hold
    · rw [Ledger.said_say_self, hsent]
      exact ⟨h.attends.hearing.confirmed hpays, hle⟩

/-! ## Delivering -/

/-- The packets whose tick has come are taken, and the rest stays under way. -/
theorem Conveyed.process (hkeeps : m.Keeps K) (hm : m.LosesNothing) {live : LiveScenario} {now : ℕ}
    (h : m.Conveyed K t t now ledger live.transport live.context) (ht : live.tickIndex.toNat = t) :
    Outcome
      (fun _ next => ∃ later, Ledger.Later ledger later ∧
        m.Conveyed K t (t + 1) 0 later next.transport next.context)
      (fun error _ => error.code = .rollbackWindowExceeded ∧ m.TooLate)
      (live.process ⟨live.tickIndex⟩) := by
  have hspan := hm.ticks
  obtain ⟨⟨hhanded, hdue, hstays⟩, hflows⟩ :=
    @SeededTransport.Flows.deliver _ _ _ _ ⟨live.tickIndex⟩ h.flows hm.transport ht
  rcases hdeliver : live.transport.deliver ⟨live.tickIndex⟩ with ⟨deliveries, transport⟩
  rw [hdeliver] at hhanded hdue hstays hflows
  have hall := @Attends.processAll m K t ledger live.context hkeeps h.attends (by omega) hm.narrow deliveries
    fun delivery hdelivery => ?_
  · rw [live.process_eq _ hdeliver]
    rcases hprocessed : live.context.processAll deliveries with ⟨error | _, context⟩
    · rw [hprocessed] at hall
      exact hall
    rw [hprocessed] at hall
    obtain ⟨later, hlater, hattends, hreceived⟩ := hall
    refine ⟨later, hlater, hattends, hflows, fun packet hpacket => ?_, fun receiver s hs => ?_,
      fun id s hs => ?_⟩
    · obtain ⟨receiver, hword, hlt⟩ := h.spoken packet ((hstays packet).1 hpacket).1
      rw [hlater.sent]
      exact ⟨receiver, hword.congr hlater.said, hlt⟩
    · rw [hlater.sent] at hs
      rcases h.pending receiver s hs with hold | ⟨packet, hpacket, hsender, rfl⟩
      · exact Or.inl (hlater.received receiver hold)
      · by_cases hcome : SeededTransport.isDue ⟨live.tickIndex⟩ packet
        · exact Or.inl (hreceived _ (hdue packet hpacket hcome) receiver hsender)
        · exact Or.inr ⟨packet, (hstays packet).2 ⟨hpacket, hcome⟩, hsender, rfl⟩
    · rw [hlater.sent] at hs
      rw [hlater.said]
      exact h.said id s hs
  · obtain ⟨packet, hpacket, hcome, rfl⟩ := hhanded delivery hdelivery
    obtain ⟨receiver, hword, hlt⟩ := h.spoken packet hpacket
    have hunder := h.flows.underWay packet hpacket
    have hearly := hunder.early
    have hlate := hunder.late
    have hat := (h.flows.isDue_iff ht hpacket).1 hcome
    exact ⟨receiver, packet.tick, hword, hlt, by omega, by omega⟩

/-- The next tick begins with what this one has left. -/
theorem Conveyed.later (h : m.Conveyed K t (t + 1) 0 ledger transport context) (hkeeps : m.Keeps K)
    (hsent : ∀ id, ledger.sent.of id = min (t + 1) (sendingTicks m.config))
    (hpeers : m.Peers (m.simulated (t + 1)) ledger.heard next) (hquiet : context.Quiet next)
    (hcapture : next.captureTrace = context.captureTrace) (hwindow : next.window = context.window) :
    m.Conveyed K (t + 1) (t + 1) 0 ledger transport next := by
  have hhearing := h.attends.hearing
  refine ⟨⟨⟨hcapture.trans hhearing.capture, hpeers, hhearing.heard, hhearing.sent_le,
    fun id s hs => ?_, hhearing.near, fun id s hs hpast => ?_⟩, h.attends.windows.congr rfl hwindow,
    hkeeps.quiet _ _ _ hquiet h.attends.kept⟩, h.flows, h.spoken, h.pending, h.said⟩
  · obtain ⟨hlt, hearly⟩ := hhearing.early id s hs
    exact ⟨hlt, hearly.trans (Nat.le_succ t)⟩
  · rcases h.pending id s (by rw [hsent]; omega) with hold | ⟨packet, hpacket, -, rfl⟩
    · exact hold
    · have hunder := h.flows.underWay packet hpacket
      have hdue := hunder.due
      have hlate := hunder.late
      omega

theorem Conveyed.congr {flow now : ℕ} (h : m.Conveyed K t flow now ledger transport context)
    (hkeeps : m.Keeps K) (hquiet : context.Quiet next) (hpeer : next.peer = context.peer)
    (hcapture : next.captureTrace = context.captureTrace) (hwindow : next.window = context.window) :
    m.Conveyed K t flow now ledger transport next :=
  ⟨⟨h.attends.hearing.congr hpeer hcapture, h.attends.windows.congr rfl hwindow,
    hkeeps.quiet _ _ _ hquiet h.attends.kept⟩, h.flows, h.spoken, h.pending, h.said⟩

/-! ## Runs -/

/-- The ticks in which each of the peers has sent. -/
def sentTicks (m : LiveMatch) (phase : Phase) (t : ℕ) : ℕ :=
  min (if phase = .begun then t else t + 1) (sendingTicks m.config)

variable (m K) in
/-- A scenario in which nothing has been lost. -/
structure Prompt (phase : Phase) (ledger : Ledger) (live : LiveScenario) : Prop where
  sent : ∀ id, ledger.sent.of id = m.sentTicks phase live.tickIndex.toNat
  conveyed : ∃ now, (phase ≠ .sent → now = 0) ∧
    m.Conveyed K live.tickIndex.toNat
      (if phase = .processed then live.tickIndex.toNat + 1 else live.tickIndex.toNat) now ledger
      live.transport live.context

section Tick

variable {noted : Option InputPair} {live : LiveScenario}

/-- Both peers send, and nothing is lost. -/
theorem Prompt.send (hkeeps : m.Keeps K) (hm : m.LosesNothing) (h : m.Truthful .begun noted live)
    (hprompt : m.Prompt K .begun ledger live)
    (hnoted : noted = none → m.config.frameCount ≤ live.tickIndex)
    (hticks : live.tickIndex.toNat < sendingTicks m.config) :
    Outcome (fun _ next => ∃ later, m.Prompt K .sent later next) (fun _ _ => False)
      (live.sendBoth ⟨live.tickIndex⟩) := by
  obtain ⟨now, hnow, hconveyed⟩ := hprompt.conveyed
  obtain rfl := hnow (by decide)
  have hbegun : ∀ id, ledger.sent.of id = live.tickIndex.toNat := by
    intro id
    rw [hprompt.sent, sentTicks, if_pos rfl, min_eq_left hticks.le]
  obtain ⟨cA, afterA, traceA, heqA, hA⟩ := hconveyed.send hkeeps hm rfl .a (hbegun .a) (by omega)
    h.config_eq (h.history_noted hnoted .a) (h.sequence_begun hticks .a) hticks
  obtain ⟨cB, afterB, traceB, heqB, hB⟩ := @Conveyed.send m K _ _ hkeeps hm
      { live with
        sequence := live.sequence.put .a (live.sequence.of .a + 1)
        transport := afterA
        context := { live.context with trace := traceA } } _ hA rfl .b
    (by rw [Ledger.sent_say, if_neg (by decide), hbegun]) (by omega) h.config_eq
    (h.history_noted hnoted .b) (h.sequence_begun hticks .b) hticks
  obtain ⟨sentA, next, sentB, last, hcallA, hcallB, hboth⟩ := live.sendBoth_eq ⟨live.tickIndex⟩
  rw [heqA] at hcallA
  cases hcallA
  rw [show LiveScenario.send _ .b ⟨live.tickIndex⟩ = _ from heqB] at hcallB
  cases hcallB
  rcases hboth with ⟨error, herror, -⟩ | ⟨-, heq⟩
  · cases herror
  rw [heq]
  have htold : ∀ id, ((ledger.say .a cA).say .b cB).sent.of id = live.tickIndex.toNat + 1 := by
    intro id
    cases id with
    | a => exact congrArg (· + 1) (hbegun .a)
    | b => exact congrArg (· + 1) (hbegun .b)
  refine ⟨_, fun id => ?_, _, fun hphase => absurd rfl hphase, hB⟩
  rw [htold, sentTicks, if_neg (by decide)]
  exact (min_eq_left hticks).symm

theorem Prompt.process (hkeeps : m.Keeps K) (hm : m.LosesNothing) {phase : Phase}
    (hprompt : m.Prompt K phase ledger live)
    (hdelivering : LiveScenario.Delivering m.config phase live) :
    Outcome (fun _ next => ∃ later, m.Prompt K .processed later next)
      (fun error _ => error.code = .rollbackWindowExceeded ∧ m.TooLate)
      (live.process ⟨live.tickIndex⟩) := by
  obtain ⟨now, -, hconveyed⟩ := hprompt.conveyed
  have hphase : phase ≠ .processed := by
    rintro rfl
    rcases hdelivering with ⟨h, -⟩ | ⟨h, -⟩
    · cases h
    · cases h
  rw [if_neg hphase] at hconveyed
  have hsent : m.sentTicks .processed live.tickIndex.toNat = m.sentTicks phase live.tickIndex.toNat := by
    rw [sentTicks, sentTicks, if_neg (by decide)]
    rcases hdelivering with ⟨rfl, -⟩ | ⟨rfl, hdrain⟩
    · rfl
    · rw [if_pos rfl, min_eq_right hdrain, min_eq_right (hdrain.trans (Nat.le_succ _))]
  refine ((hconveyed.process hkeeps hm rfl).with_state (live.process_clock ⟨live.tickIndex⟩)).mono ?_
    fun _ _ => id
  rintro _ next ⟨hclock, later, hlater, hnext⟩
  refine ⟨later, fun id => ?_, 0, fun _ => rfl, ?_⟩
  · rw [hlater.sent, hprompt.sent, hclock.tickIndex, hsent]
  · rw [hclock.tickIndex]
    exact hnext

/-- A tick is over, with the sessions as they are in the next one. -/
theorem Prompt.later (hkeeps : m.Keeps K) (hprompt : m.Prompt K .processed ledger live)
    {next : LiveScenario} (hindex : next.tickIndex.toNat = live.tickIndex.toNat + 1)
    (htransport : next.transport = live.transport)
    (hpeers : m.Peers (m.simulated (live.tickIndex.toNat + 1)) ledger.heard next.context)
    (hquiet : live.context.Quiet next.context)
    (hcapture : next.context.captureTrace = live.context.captureTrace)
    (hwindow : next.context.window = live.context.window) : m.Prompt K .begun ledger next := by
  obtain ⟨now, hnow, hconveyed⟩ := hprompt.conveyed
  obtain rfl := hnow (by decide)
  have hsent : ∀ id, ledger.sent.of id = min (live.tickIndex.toNat + 1) (sendingTicks m.config) :=
    fun id => hprompt.sent id
  refine ⟨fun id => ?_, 0, fun _ => rfl, ?_⟩
  · rw [hsent, hindex]
    rfl
  · rw [hindex, htransport, if_neg (by decide)]
    exact hconveyed.later hkeeps hsent hpeers hquiet hcapture hwindow

end Tick

variable (m K) in
/-- A match that loses nothing keeps to its script and on time, unless an input comes too late. -/
theorem promptRule (hkeeps : m.Keeps K) (hm : m.LosesNothing) :
    LiveScenario.TickRule m.config (fun live press => press = m.presses live.tickIndex.toNat)
      (fun phase noted live => m.Truthful phase noted live ∧ ∃ ledger, m.Prompt K phase ledger live)
      (fun error _ => error.code = .rollbackWindowExceeded ∧ m.TooLate) where
  config_eq _ _ _ h := h.1.config_eq
  clear live h := by
    obtain ⟨htruthful, ledger, hprompt⟩ := h
    obtain ⟨now, hnow, hconveyed⟩ := hprompt.conveyed
    exact ⟨htruthful.clear, ledger, hprompt.sent, now, hnow,
      hconveyed.congr hkeeps ⟨fun _ => rfl, rfl, rfl, rfl, rfl⟩ rfl rfl rfl⟩
  record live press h hpress hframe := by
    obtain ⟨htruthful, ledger, hprompt⟩ := h
    obtain ⟨now, hnow, hconveyed⟩ := hprompt.conveyed
    obtain ⟨next, heq, hcontext, htransport, hnext⟩ := htruthful.clear.record hpress hframe
    have hclock := live.clearCorrections.record_clock live.tickIndex
      (LiveScenario.frameInputs m.config ⟨live.tickIndex⟩ press)
    have heq' : live.clearCorrections.record live.tickIndex
        (LiveScenario.frameInputs m.config ⟨live.tickIndex⟩ press) = (.ok (), next) := heq
    rw [heq'] at hclock ⊢
    have hindex : next.tickIndex = live.tickIndex := hclock.tickIndex
    refine ⟨hnext, ledger, fun id => ?_, now, hnow, ?_⟩
    · rw [hindex]
      exact hprompt.sent id
    · rw [hindex, hcontext, htransport]
      exact hconveyed.congr hkeeps ⟨fun _ => rfl, rfl, rfl, rfl, rfl⟩ rfl rfl rfl
  send noted live h hnoted hticks := by
    obtain ⟨htruthful, ledger, hprompt⟩ := h
    have hsend := hprompt.send hkeeps hm htruthful hnoted hticks
    have hnext := htruthful.send hnoted hticks
    rcases hcall : live.sendBoth ⟨live.tickIndex⟩ with ⟨error | _, next⟩
    · rw [hcall] at hsend
      exact hsend.elim
    · rw [hcall] at hsend hnext
      exact ⟨hnext, hsend⟩
  process phase noted live h hdelivering := by
    obtain ⟨htruthful, ledger, hprompt⟩ := h
    have hnext := htruthful.process hdelivering (K := fun _ => True) trivial
      (fun _ _ _ _ => trivial) fun _ _ _ _ _ _ _ _ _ _ _ => trivial
    exact (hnext.and (hprompt.process hkeeps hm hdelivering)).mono
      (fun _ _ h => ⟨h.1.1, h.2⟩) fun _ _ h => h.2
  advance inputs live h hframe := by
    obtain ⟨htruthful, ledger, hprompt⟩ := h
    have hnext := htruthful.advance
    obtain ⟨hlt, rfl⟩ := htruthful.noted_eq inputs rfl
    obtain ⟨now, -, hconveyed⟩ := hprompt.conveyed
    have hpeers := hconveyed.attends.hearing.peers
    rw [m.simulated_eq hlt.le] at hpeers
    obtain ⟨peers, heq, hpeers', htally⟩ := Truthful.advanceBoth_peers hpeers hlt
    obtain ⟨frames, omitted, replay, hend⟩ := LiveScenario.endFrame_eq
      { live with context := { live.context with peer := peers } } live.tickIndex
    rw [heq, Outcome.ok_iff] at hnext ⊢
    refine ⟨hnext.1, ledger, ?_⟩
    rw [hend] at hnext ⊢
    refine hprompt.later hkeeps ?_ rfl ?_ ⟨htally, rfl, rfl, rfl, rfl⟩ rfl rfl
    · have hlimit := m.frames_lt
      rw [UInt32.toNat_add, UInt32.toNat_one, Nat.mod_eq_of_lt (by omega)]
    · rw [m.simulated_eq (t := live.tickIndex.toNat + 1) hlt]
      exact hpeers'.congr rfl
  pass live h hpass hticks := by
    obtain ⟨htruthful, ledger, hprompt⟩ := h
    have hroom := m.room
    have hpassed : m.frames ≤ live.tickIndex.toNat := UInt32.le_iff_toNat_le.1 hpass
    obtain ⟨now, -, hconveyed⟩ := hprompt.conveyed
    have hpeers := hconveyed.attends.hearing.peers
    have hsimulated : m.simulated (live.tickIndex.toNat + 1) = m.simulated live.tickIndex.toNat := by
      rw [simulated, simulated, min_eq_right hpassed, min_eq_right (by omega)]
    refine ⟨htruthful.pass hpass hticks, ledger, hprompt.later hkeeps ?_ rfl ?_
      ⟨fun _ => rfl, rfl, rfl, rfl, rfl⟩ rfl rfl⟩
    · rw [UInt32.toNat_add, UInt32.toNat_one, Nat.mod_eq_of_lt (by omega)]
    · rw [hsimulated]
      exact hpeers

theorem Hearing.first (m : LiveMatch) : m.Hearing 0 .start m.first.context := by
  have hnothing : ∀ {id : PlayerId} {s : ℕ}, s ∉ Ledger.start.received.of id := by
    intro id s
    rw [Ledger.received_start]
    exact Finset.notMem_empty s
  refine ⟨rfl, ?_, fun id s hs => absurd hs hnothing, fun id => ?_, fun id s hs => absurd hs hnothing,
    fun id s hs => absurd hs hnothing, fun id s hs hpast => absurd hpast (Nat.not_lt_zero _)⟩
  · rw [show m.simulated 0 = 0 from Nat.zero_min _]
    refine ⟨fun id => ⟨0, ?_⟩, fun id => ?_⟩
    · cases id with
      | a => exact .start (m.initial .a) (m.window .a)
      | b => exact .start (m.initial .b) (m.window .b)
    · cases id with
      | a => rfl
      | b => rfl
  · rw [Ledger.sent_start]
    exact Nat.zero_le _

/-- Nothing has been sent when a match begins. -/
theorem first_prompt (m : LiveMatch) (hstart : K .start m.first.context) :
    m.Prompt K .begun .start m.first := by
  refine ⟨fun id => ?_, 0, fun _ => rfl, ⟨.first m, fun id => ⟨[], ?_, fun x => ?_⟩, hstart⟩,
    .create m.network, fun packet hpacket => absurd hpacket List.not_mem_nil, fun receiver s hs => ?_,
    fun id s hs => ?_⟩
  · rw [Ledger.sent_start]
    exact (Nat.zero_min _).symm
  · cases id with
    | a => exact .start
    | b => exact .start
  · rw [Ledger.received_start]
    simp
  · rw [Ledger.sent_start] at hs
    exact absurd hs (Nat.not_lt_zero s)
  · rw [Ledger.sent_start] at hs
    exact absurd hs (Nat.not_lt_zero s)

end LiveMatch

end RollbackLab
