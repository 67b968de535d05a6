import RollbackLab.SeededTransport

/-!
# Sends that are refused

Under `dropOldest` a send makes room before it knows whether its copies fit at all. A
packet that cannot fit drives everything else out of the queue and is then refused. In
all other cases a send that fails leaves the queue alone.
-/

namespace RollbackLab

namespace SeededTransport

/-! ### Making room -/

/-- Some packets and bytes exceed the limits even of an empty queue. -/
def TooLarge (config : TransportConfig) (packetCount byteCount : ℕ) : Prop :=
  config.maxQueuePackets < packetCount ∨ config.maxQueueBytes < byteCount

theorem TooLarge.exceeds {transport : SeededTransport} {packetCount byteCount : ℕ}
    (h : TooLarge transport.config packetCount byteCount) :
    transport.exceeds packetCount byteCount = true := by
  rw [SeededTransport.exceeds, Bool.or_eq_true, decide_eq_true_eq, decide_eq_true_eq]
  apply Or.imp _ _ h
  · intro hpackets
    omega
  · intro hbytes
    omega

/-- The loop goes on until there is room or nothing is left to remove. -/
theorem makeRoom_exceeds (packetCount byteCount rounds : ℕ) {transport : SeededTransport}
    (hrounds : transport.queue.length ≤ rounds)
    (hexceeds : (makeRoom packetCount byteCount rounds transport).exceeds packetCount byteCount =
      true) :
    (makeRoom packetCount byteCount rounds transport).queue = [] := by
  induction rounds generalizing transport with
  | zero => exact List.eq_nil_of_length_eq_zero (Nat.le_zero.1 hrounds)
  | succ rounds ih =>
    rw [makeRoom] at hexceeds ⊢
    cases hqueue : transport.queue with
    | nil =>
      simp only [hqueue]
    | cons first rest =>
      simp only [hqueue] at hexceeds ⊢
      split at hexceeds
      · have hmem : oldest first rest ∈ transport.queue := hqueue ▸ oldest_mem first rest
        rename_i hfull
        rw [if_pos hfull]
        apply ih _ hexceeds
        simp only [evict]
        rw [List.length_erase_of_mem hmem]
        omega
      · rename_i hroom
        exact absurd hexceeds hroom

/-- In the end there is room, unless there cannot be any. -/
theorem Books.makeRoom_exceeds_iff {transport : SeededTransport} {credit : UInt64}
    {quota : Sent → ℕ} {made : ℕ} {deliveries : List Delivery}
    (h : transport.Books credit quota made deliveries) (packetCount byteCount : ℕ) :
    (SeededTransport.makeRoom packetCount byteCount transport.queue.length transport).exceeds
        packetCount byteCount = true ↔
      TooLarge transport.config packetCount byteCount := by
  obtain ⟨hbooks, hconfig, -, -⟩ := h.makeRoom packetCount byteCount transport.queue.length
  rw [← hconfig]
  constructor
  · intro hexceeds
    have hempty := SeededTransport.makeRoom_exceeds packetCount byteCount _ le_rfl hexceeds
    have hbytes := hbooks.bytes
    rw [hempty, List.map_nil, List.sum_nil] at hbytes
    rw [SeededTransport.exceeds, hempty, hbytes, Bool.or_eq_true, decide_eq_true_eq,
      decide_eq_true_eq, List.length_nil, Nat.zero_add, Nat.zero_add] at hexceeds
    exact hexceeds
  · exact TooLarge.exceeds

/-- A request for room that is refused leaves the queue alone, unless it is too large and
the policy is to drop packets. -/
theorem Books.ensureCapacity_refused {transport : SeededTransport} {credit : UInt64}
    {quota : Sent → ℕ} {made : ℕ} {deliveries : List Delivery}
    (h : transport.Books credit quota made deliveries) (packetCount byteCount : ℕ) :
    ((transport.ensureCapacity packetCount byteCount).1 ≠ .ok () →
        (transport.ensureCapacity packetCount byteCount).2.queue = transport.queue) ↔
      ¬ (transport.config.overflowPolicy = .dropOldest ∧ transport.queue ≠ [] ∧
        TooLarge transport.config packetCount byteCount) := by
  rw [SeededTransport.ensureCapacity]
  by_cases hexceeds : transport.exceeds packetCount byteCount = true
  · rw [if_neg (by simp [hexceeds])]
    cases hpolicy : transport.config.overflowPolicy with
    | fail =>
      rw [if_pos rfl]
      simp
    | dropOldest =>
      rw [if_neg (by decide)]
      have hiff := h.makeRoom_exceeds_iff packetCount byteCount
      have hempty := SeededTransport.makeRoom_exceeds packetCount byteCount _ (le_refl
        transport.queue.length)
      simp only []
      split
      · rename_i hstill
        rw [hempty hstill]
        have hlarge := hiff.1 hstill
        simp [hlarge, eq_comm]
      · rename_i hroom
        have hfits := mt hiff.2 hroom
        simp [hfits]
  · have hfits : ¬ TooLarge transport.config packetCount byteCount := mt TooLarge.exceeds hexceeds
    rw [if_pos (by simp [hexceeds])]
    simp [hfits]

/-! ### Refused sends -/

/-- The metrics have no influence on the draws. -/
theorem chance_countSent (transport : SeededTransport) (percent : UInt32) :
    transport.countSent.chance percent =
      ((transport.chance percent).1, (transport.chance percent).2.countSent) := by
  rw [chance, chance, show transport.countSent.random = transport.random from rfl]
  split
  · rfl
  · rcases transport.random.bounded 100 with ⟨draw, random⟩
    rfl

theorem drawLoss_countSent (transport : SeededTransport) :
    transport.countSent.drawLoss = (transport.drawLoss.1, transport.drawLoss.2.countSent) := by
  rw [drawLoss, drawLoss,
    show transport.countSent.burstRemaining = transport.burstRemaining from rfl]
  split
  · rfl
  · rw [show transport.countSent.config = transport.config from rfl, chance_countSent]
    rcases transport.chance transport.config.burstLossPercent with ⟨_ | _, after⟩
    · exact after.chance_countSent after.config.lossPercent
    · simp only [show after.countSent.random = after.random from rfl]
      rcases after.random.bounded 3 with ⟨draw, random⟩
      rfl

/-- How many copies of a packet the next draws ask for, none if it is lost. -/
def drawnCopies (transport : SeededTransport) : ℕ :=
  match transport.drawLoss with
  | (true, _) => 0
  | (false, transport) => if (transport.chance transport.config.duplicatePercent).1 then 2 else 1

theorem drawnCopies_countSent (transport : SeededTransport) :
    transport.countSent.drawnCopies = transport.drawnCopies := by
  rw [drawnCopies, drawnCopies, drawLoss_countSent]
  rcases transport.drawLoss with ⟨_ | _, after⟩
  · simp only [show after.countSent.config = after.config from rfl, chance_countSent]
  · rfl

theorem Chooses.drawnCopies {transport chosen : SeededTransport} {duplicate : Bool}
    (h : transport.Chooses duplicate chosen) :
    transport.drawnCopies = if duplicate then 2 else 1 := by
  obtain ⟨drawn, hloss, hchance⟩ := h.drawn
  rw [← drawnCopies_countSent, SeededTransport.drawnCopies, hloss]
  dsimp only
  rw [hchance]

/-- To be refused room leaves the queue alone, unless packets have been dropped for nothing. -/
theorem Chooses.refused {transport chosen after : SeededTransport} {duplicate : Bool}
    (h : transport.Chooses duplicate chosen) {credit : UInt64} {quota : Sent → ℕ} {made : ℕ}
    {deliveries : List Delivery} (hbooks : transport.Books credit quota made deliveries)
    {packetCount byteCount : ℕ} {result : Result Unit}
    (hcapacity : chosen.ensureCapacity packetCount byteCount = (result, after)) :
    (result ≠ .ok () → after.queue = transport.queue) ↔
      ¬ (transport.config.overflowPolicy = .dropOldest ∧ transport.queue ≠ [] ∧
        TooLarge transport.config packetCount byteCount) := by
  have hrefused := (hbooks.countSent.draws h.draws).ensureCapacity_refused packetCount byteCount
  rw [hcapacity, h.draws.config, h.draws.queue] at hrefused
  exact hrefused

/-- A packet passes the checks of `send` and is not lost, but its copies exceed the limits
of a queue from which packets may be dropped. -/
def Overfull (transport : SeededTransport) (bytes : List UInt8) : Prop :=
  transport.config.overflowPolicy = .dropOldest ∧ transport.queue ≠ [] ∧
    bytes.length ≤ kMaxPacketBytes ∧ percentsInvalid transport.config = false ∧
    TooLarge transport.config transport.drawnCopies (bytes.length * transport.drawnCopies)

theorem Books.send_refused {transport : SeededTransport} {credit : UInt64} {quota : Sent → ℕ}
    {made : ℕ} {deliveries : List Delivery}
    (h : transport.Books credit quota made deliveries) (sender receiver : Endpoint)
    (bytes : List UInt8) (now : LogicalTick) :
    ((transport.send sender receiver bytes now).1 ≠ .ok () →
        (transport.send sender receiver bytes now).2.queue = transport.queue) ↔
      ¬ transport.Overfull bytes := by
  have hqueue := transport.countSent_queue.queue
  rcases hsend : transport.send sender receiver bytes now with ⟨result, after⟩
  dsimp only
  cases sends hsend with
  | tooLong hlength =>
    exact iff_of_true (fun _ => hqueue) fun hfull => absurd hfull.2.2.1 (Nat.not_le.2 hlength)
  | badPercent hpercents =>
    refine iff_of_true (fun _ => hqueue) fun hfull => ?_
    exact Bool.false_ne_true (hfull.2.2.2.1.symm.trans hpercents)
  | lost _ hloss =>
    refine iff_of_true (fun hne => absurd rfl hne) fun hfull => ?_
    have hlarge := hfull.2.2.2.2
    rw [← drawnCopies_countSent, drawnCopies, hloss] at hlarge
    simp [TooLarge] at hlarge
  | full hadmits hchosen hcapacity =>
    have hrefused := hchosen.refused h hcapacity
    simp only [ne_eq, reduceCtorEq, not_false_eq_true, forall_const] at hrefused ⊢
    rw [hrefused, Overfull, hchosen.drawnCopies]
    simp [hadmits.length, hadmits.percents]
  | queued _ hchosen hcapacity =>
    have hfits := (hchosen.refused h hcapacity).1 fun hne => absurd rfl hne
    refine iff_of_true (fun hne => absurd rfl hne) fun hfull => hfits ⟨hfull.1, hfull.2.1, ?_⟩
    have hlarge := hfull.2.2.2.2
    rw [hchosen.drawnCopies] at hlarge
    exact hlarge
  | doubled _ hchosen hcapacity =>
    have hfits := (hchosen.refused h hcapacity).1 fun hne => absurd rfl hne
    refine iff_of_true (fun hne => absurd rfl hne) fun hfull => hfits ⟨hfull.1, hfull.2.1, ?_⟩
    have hlarge := hfull.2.2.2.2
    rw [hchosen.drawnCopies] at hlarge
    exact hlarge

end SeededTransport

namespace TransportRun

open SeededTransport

/-- In every state that is reached, and for every packet: if the send fails the queue is
what it was, if and only if the packet does not overfill the queue. -/
theorem failed_send_undisturbed (config : TransportConfig) (calls : List TransportCall)
    (sender receiver : Endpoint) (bytes : List UInt8) (now : LogicalTick) :
    let transport := (TransportRun.calls config calls).transport
    (∀ error after, transport.send sender receiver bytes now = (.error error, after) →
        after.queue = transport.queue) ↔
      ¬ transport.Overfull bytes := by
  obtain ⟨made, -, hbooks, -, -⟩ := calls_books config calls
  intro transport
  rw [← hbooks.send_refused sender receiver bytes now]
  constructor
  · intro hkept hne
    rcases hsend : transport.send sender receiver bytes now with ⟨e | _, after⟩
    · exact hkept e after hsend
    · rw [hsend] at hne
      exact absurd rfl hne
  · intro hkept error after hsend
    rw [hsend] at hkept
    exact hkept fun hok => by cases hok

/-- Three bytes hold one packet of three. -/
def smallConfig : TransportConfig :=
  { baseLatencyTicks := 20, maxQueueBytes := 3, overflowPolicy := .dropOldest }

/-- One packet waits, and a larger one that can never fit is refused. The first is gone. -/
theorem refused_send_empties : ¬ ∀ (config : TransportConfig) (calls : List TransportCall)
    (sender receiver : Endpoint) (bytes : List UInt8) (now : LogicalTick) (error : Error)
    (after : SeededTransport),
    (TransportRun.calls config calls).transport.send sender receiver bytes now =
        (.error error, after) →
      after.queue = (TransportRun.calls config calls).transport.queue := by
  intro hkept
  have hempties := hkept smallConfig [.send .a .b [1, 2, 3] ⟨0⟩] .a .b [1, 2, 3, 4] ⟨1⟩
    ⟨.queueOverflow, 4, 0, "transport_packet"⟩ _ rfl
  exact absurd hempties (by decide)

end TransportRun

end RollbackLab
