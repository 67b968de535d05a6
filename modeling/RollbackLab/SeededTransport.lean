import RollbackLab.Packet
import RollbackLab.Pcg32
import Mathlib.Data.List.Sort

/-!
# The seeded transport

A queue of packets with random loss, duplication, delay and reordering. Sizes and
counts of packets that lie in memory are natural numbers; the counters, the ordinals
and the ticks are machine words.
-/

namespace RollbackLab

structure LogicalTick where
  value : UInt32
  deriving DecidableEq, Repr, Inhabited

inductive Endpoint where
  | a | b | relay
  deriving DecidableEq, Repr, Inhabited

inductive QueueOverflowPolicy where
  | fail | dropOldest
  deriving DecidableEq, Repr, Inhabited

structure TransportConfig where
  seed : UInt64 := 1
  baseLatencyTicks : UInt32 := 0
  jitterTicks : UInt32 := 0
  lossPercent : UInt32 := 0
  reorderPercent : UInt32 := 0
  duplicatePercent : UInt32 := 0
  burstLossPercent : UInt32 := 0
  maxQueuePackets : ℕ := 1024
  maxQueueBytes : ℕ := 1 <<< 20
  bandwidthBytesPerTick : ℕ := 1 <<< 20
  maxPacketAgeTicks : UInt32 := 600
  overflowPolicy : QueueOverflowPolicy := .fail
  deriving DecidableEq, Repr

structure Delivery where
  sender : Endpoint
  receiver : Endpoint
  bytes : List UInt8
  enqueuedAt : LogicalTick
  deliveredAt : LogicalTick
  ordinal : UInt64
  duplicate : Bool
  deriving DecidableEq, Repr

structure TransportMetrics where
  sentPackets : UInt64 := 0
  deliveredPackets : UInt64 := 0
  droppedLoss : UInt64 := 0
  droppedOverflow : UInt64 := 0
  droppedAge : UInt64 := 0
  duplicatedPackets : UInt64 := 0
  reorderedPackets : UInt64 := 0
  deriving DecidableEq, Repr

structure SeededTransport.Scheduled where
  sender : Endpoint
  receiver : Endpoint
  bytes : List UInt8
  enqueuedAt : LogicalTick
  scheduledFor : LogicalTick
  reorderRank : UInt32
  ordinal : UInt64
  duplicate : Bool
  deriving DecidableEq, Repr

structure SeededTransport where
  config : TransportConfig
  random : Pcg32
  queue : List SeededTransport.Scheduled
  queuedBytes : ℕ
  nextOrdinal : UInt64
  burstRemaining : UInt32
  metrics : TransportMetrics

namespace SeededTransport

/-- The source also reserves room for `maxQueuePackets`. That allocation, like every other
one, is taken to succeed. -/
def create (config : TransportConfig) : SeededTransport :=
  ⟨config, .create config.seed, [], 0, 0, 0, {}⟩

def queuedPackets (transport : SeededTransport) : ℕ := transport.queue.length

/-- Nothing is drawn for zero percent. -/
def chance (transport : SeededTransport) (percent : UInt32) : Bool × SeededTransport :=
  if percent = 0 then (false, transport)
  else
    match transport.random.bounded 100 with
    | (draw, random) => (draw < percent, { transport with random := random })

def exceeds (transport : SeededTransport) (packetCount byteCount : ℕ) : Bool :=
  transport.config.maxQueuePackets < transport.queue.length + packetCount ||
    transport.config.maxQueueBytes < transport.queuedBytes + byteCount

/-- The first packet of smallest ordinal. -/
def oldest (first : Scheduled) (rest : List Scheduled) : Scheduled :=
  rest.foldl (fun best packet => if packet.ordinal < best.ordinal then packet else best) first

def evict (transport : SeededTransport) (packet : Scheduled) : SeededTransport :=
  { transport with
    queue := transport.queue.erase packet
    queuedBytes := transport.queuedBytes - packet.bytes.length
    metrics :=
      { transport.metrics with droppedOverflow := transport.metrics.droppedOverflow + 1 } }

/-- The loop of `ensureCapacity`. Every round removes a packet, so the length of the queue
bounds the rounds. -/
def makeRoom (packetCount byteCount : ℕ) : (rounds : ℕ) → SeededTransport → SeededTransport
  | 0, transport => transport
  | rounds + 1, transport =>
    match transport.queue with
    | [] => transport
    | first :: rest =>
      if transport.exceeds packetCount byteCount then
        makeRoom packetCount byteCount rounds (transport.evict (oldest first rest))
      else transport

def ensureCapacity (transport : SeededTransport) (packetCount byteCount : ℕ) :
    Result Unit × SeededTransport :=
  if !transport.exceeds packetCount byteCount then (.ok (), transport)
  else if transport.config.overflowPolicy = .fail then
    (.error ⟨.queueOverflow, UInt64.ofNat transport.queue.length, 0, "transport_queue"⟩, transport)
  else
    let transport := makeRoom packetCount byteCount transport.queue.length transport
    if transport.exceeds packetCount byteCount then
      (.error ⟨.queueOverflow, UInt64.ofNat byteCount, 0, "transport_packet"⟩, transport)
    else (.ok (), transport)

/-- The base latency with its jitter, before reordering. -/
def drawDelay (transport : SeededTransport) : ℤ × SeededTransport :=
  let base : ℤ := transport.config.baseLatencyTicks.toNat
  if 0 < transport.config.jitterTicks then
    let width := transport.config.jitterTicks.toUInt64 * 2 + 1
    match transport.random.nextU32 with
    | (draw, random) =>
      (max 0 (base + (draw.toUInt64 % width).toNat - transport.config.jitterTicks.toNat),
        { transport with random := random })
  else (max 0 base, transport)

/-- How far a packet is pushed back, if it is. -/
def drawReorder (transport : SeededTransport) : UInt32 × SeededTransport :=
  match transport.chance transport.config.reorderPercent with
  | (false, transport) => (0, transport)
  | (true, transport) =>
    match transport.random.bounded (max 2 (transport.config.jitterTicks + 2)) with
    | (draw, random) =>
      (1 + draw,
        { transport with
          random := random
          metrics :=
            { transport.metrics with
              reorderedPackets := transport.metrics.reorderedPackets + 1 } })

/-- Put one copy of a packet into the queue. -/
def enqueueCopy (sender receiver : Endpoint) (bytes : List UInt8) (now : LogicalTick)
    (duplicate : Bool) (transport : SeededTransport) : SeededTransport :=
  match transport.drawDelay with
  | (delay, transport) =>
    match transport.drawReorder with
    | (rank, transport) =>
      let scheduled := now.value.toNat + (delay + rank.toNat).toNat
      { transport with
        queue := transport.queue ++
          [⟨sender, receiver, bytes, now, ⟨UInt32.ofNat (min scheduled 0xFFFFFFFF)⟩, rank,
            transport.nextOrdinal, duplicate⟩]
        nextOrdinal := transport.nextOrdinal + 1
        queuedBytes := transport.queuedBytes + bytes.length }

/-- Whether the packet is lost: within a burst, at the start of one, or by itself. -/
def drawLoss (transport : SeededTransport) : Bool × SeededTransport :=
  if 0 < transport.burstRemaining then
    (true, { transport with burstRemaining := transport.burstRemaining - 1 })
  else
    match transport.chance transport.config.burstLossPercent with
    | (true, transport) =>
      match transport.random.bounded 3 with
      | (draw, random) =>
        (true, { transport with random := random, burstRemaining := 1 + draw })
    | (false, transport) => transport.chance transport.config.lossPercent

def percentsInvalid (config : TransportConfig) : Bool :=
  100 < config.lossPercent || 100 < config.reorderPercent || 100 < config.duplicatePercent ||
    100 < config.burstLossPercent

def countSent (transport : SeededTransport) : SeededTransport :=
  { transport with
    metrics := { transport.metrics with sentPackets := transport.metrics.sentPackets + 1 } }

def countLoss (transport : SeededTransport) : SeededTransport :=
  { transport with
    metrics := { transport.metrics with droppedLoss := transport.metrics.droppedLoss + 1 } }

def countDuplicate (transport : SeededTransport) : SeededTransport :=
  { transport with
    metrics :=
      { transport.metrics with duplicatedPackets := transport.metrics.duplicatedPackets + 1 } }

def send (transport : SeededTransport) (sender receiver : Endpoint) (bytes : List UInt8)
    (now : LogicalTick) : Result Unit × SeededTransport :=
  let transport := transport.countSent
  if kMaxPacketBytes < bytes.length then
    (.error ⟨.invalidLength, UInt64.ofNat bytes.length, 0, "transport_packet"⟩, transport)
  else if percentsInvalid transport.config then
    (.error ⟨.invalidArgument, 100, 0, "transport_percent"⟩, transport)
  else
    match transport.drawLoss with
    | (true, transport) => (.ok (), transport.countLoss)
    | (false, transport) =>
      match transport.chance transport.config.duplicatePercent with
      | (duplicate, transport) =>
        let copies := if duplicate then 2 else 1
        match transport.ensureCapacity copies (bytes.length * copies) with
        | (.error error, transport) => (.error error, transport)
        | (.ok _, transport) =>
          let transport := transport.enqueueCopy sender receiver bytes now false
          if duplicate then
            (.ok (), (transport.enqueueCopy sender receiver bytes now true).countDuplicate)
          else (.ok (), transport)

/-- The order packets are looked at for delivery. -/
def scheduledBefore (left right : Scheduled) : Bool :=
  if left.scheduledFor.value ≠ right.scheduledFor.value then
    left.scheduledFor.value < right.scheduledFor.value
  else if left.reorderRank ≠ right.reorderRank then left.reorderRank < right.reorderRank
  else left.ordinal < right.ordinal

def deliveryOf (packet : Scheduled) (now : LogicalTick) : Delivery :=
  ⟨packet.sender, packet.receiver, packet.bytes, packet.enqueuedAt, now, packet.ordinal,
    packet.duplicate⟩

/-- What looking through the sorted queue yields. -/
structure Delivered where
  deliveries : List Delivery
  queue : List Scheduled
  queuedBytes : ℕ
  metrics : TransportMetrics

/-- The loop of `deliver`: drop what is too old, hand out what is due and fits into the
budget, and keep the rest. -/
def deliverEach (config : TransportConfig) (now : LogicalTick) :
    List Scheduled → (budget queuedBytes : ℕ) → TransportMetrics → Delivered
  | [], _, queuedBytes, metrics => ⟨[], [], queuedBytes, metrics⟩
  | packet :: rest, budget, queuedBytes, metrics =>
    if config.maxPacketAgeTicks < now.value - packet.enqueuedAt.value then
      deliverEach config now rest budget (queuedBytes - packet.bytes.length)
        { metrics with droppedAge := metrics.droppedAge + 1 }
    else if packet.scheduledFor.value ≤ now.value ∧ packet.bytes.length ≤ budget then
      let delivered := deliverEach config now rest (budget - packet.bytes.length)
        (queuedBytes - packet.bytes.length)
        { metrics with deliveredPackets := metrics.deliveredPackets + 1 }
      { delivered with deliveries := deliveryOf packet now :: delivered.deliveries }
    else
      let delivered := deliverEach config now rest budget queuedBytes metrics
      { delivered with queue := packet :: delivered.queue }

def deliver (transport : SeededTransport) (now : LogicalTick) : List Delivery × SeededTransport :=
  let sorted := transport.queue.insertionSort fun left right => ¬ scheduledBefore right left
  let delivered := deliverEach transport.config now sorted
    transport.config.bandwidthBytesPerTick transport.queuedBytes transport.metrics
  (delivered.deliveries,
    { transport with
      queue := delivered.queue
      queuedBytes := delivered.queuedBytes
      metrics := delivered.metrics })

end SeededTransport

/-! ## Runs of the transport -/

inductive TransportCall where
  | send (sender receiver : Endpoint) (bytes : List UInt8) (now : LogicalTick)
  | deliver (now : LogicalTick)

/-- What a caller put in. -/
structure Sent where
  sender : Endpoint
  receiver : Endpoint
  bytes : List UInt8
  now : LogicalTick
  deriving DecidableEq, Repr

def SeededTransport.Scheduled.sent (packet : SeededTransport.Scheduled) : Sent :=
  ⟨packet.sender, packet.receiver, packet.bytes, packet.enqueuedAt⟩

def Delivery.sent (delivery : Delivery) : Sent :=
  ⟨delivery.sender, delivery.receiver, delivery.bytes, delivery.enqueuedAt⟩

/-- A transport with what was sent, how many sends failed, and what was delivered. -/
structure TransportRun where
  transport : SeededTransport
  sends : List Sent
  failed : ℕ
  deliveries : List Delivery

namespace TransportRun

def start (config : TransportConfig) : TransportRun := ⟨.create config, [], 0, []⟩

def call (run : TransportRun) : TransportCall → TransportRun
  | .send sender receiver bytes now =>
    match run.transport.send sender receiver bytes now with
    | (.ok _, transport) =>
      { run with
        transport := transport
        sends := run.sends ++ [⟨sender, receiver, bytes, now⟩] }
    | (.error _, transport) => { run with transport := transport, failed := run.failed + 1 }
  | .deliver now =>
    match run.transport.deliver now with
    | (deliveries, transport) =>
      { run with transport := transport, deliveries := run.deliveries ++ deliveries }

def calls (config : TransportConfig) (calls : List TransportCall) : TransportRun :=
  calls.foldl call (start config)

end TransportRun

/-! ## Accounting -/

namespace SeededTransport

/-- The ordinals of all packets that are queued or were delivered. -/
def ordinals (transport : SeededTransport) (deliveries : List Delivery) : List UInt64 :=
  transport.queue.map Scheduled.ordinal ++ deliveries.map Delivery.ordinal

/-- The books of a transport. `credit` is what entered and was not accounted for, `quota`
how many packets may stem from each send, and `made` the number of packets ever queued. -/
structure Books (transport : SeededTransport) (credit : UInt64) (quota : Sent → ℕ) (made : ℕ)
    (deliveries : List Delivery) : Prop where
  bytes : transport.queuedBytes = (transport.queue.map fun packet => packet.bytes.length).sum
  balance : transport.metrics.sentPackets + transport.metrics.duplicatedPackets =
    credit + transport.metrics.droppedLoss + transport.metrics.deliveredPackets +
      transport.metrics.droppedOverflow + transport.metrics.droppedAge +
      UInt64.ofNat transport.queue.length
  origin : ∀ sent, (transport.queue.map Scheduled.sent).count sent +
    (deliveries.map Delivery.sent).count sent ≤ quota sent
  next : transport.nextOrdinal = UInt64.ofNat made
  fresh : made ≤ 2 ^ 64 → (transport.ordinals deliveries).Nodup ∧
    ∀ ordinal ∈ transport.ordinals deliveries, ordinal.toNat < made

/-- Drawing random numbers changes nothing else but the count of reordered packets. -/
structure Draws (transport after : SeededTransport) : Prop where
  config : after.config = transport.config
  queue : after.queue = transport.queue
  queuedBytes : after.queuedBytes = transport.queuedBytes
  nextOrdinal : after.nextOrdinal = transport.nextOrdinal
  metrics : ∃ reordered, after.metrics = { transport.metrics with reorderedPackets := reordered }

theorem Draws.refl (transport : SeededTransport) : transport.Draws transport :=
  ⟨rfl, rfl, rfl, rfl, _, rfl⟩

theorem Draws.trans {transport after last : SeededTransport} (h : transport.Draws after)
    (h' : after.Draws last) : transport.Draws last := by
  obtain ⟨reordered, hmetrics⟩ := h.metrics
  obtain ⟨reordered', hmetrics'⟩ := h'.metrics
  refine ⟨h'.config.trans h.config, h'.queue.trans h.queue, h'.queuedBytes.trans h.queuedBytes,
    h'.nextOrdinal.trans h.nextOrdinal, reordered', ?_⟩
  rw [hmetrics', hmetrics]

theorem chance_draws (transport : SeededTransport) (percent : UInt32) :
    transport.Draws (transport.chance percent).2 := by
  rw [chance]
  split
  · exact .refl _
  · rcases transport.random.bounded 100 with ⟨draw, random⟩
    exact ⟨rfl, rfl, rfl, rfl, _, rfl⟩

theorem drawDelay_draws (transport : SeededTransport) : transport.Draws transport.drawDelay.2 := by
  rw [drawDelay]
  split
  · rcases transport.random.nextU32 with ⟨draw, random⟩
    exact ⟨rfl, rfl, rfl, rfl, _, rfl⟩
  · exact .refl _

theorem drawReorder_draws (transport : SeededTransport) :
    transport.Draws transport.drawReorder.2 := by
  have hchance := transport.chance_draws transport.config.reorderPercent
  rw [drawReorder]
  revert hchance
  rcases transport.chance transport.config.reorderPercent with ⟨_ | _, after⟩
  · exact id
  · simp only []
    rcases after.random.bounded (max 2 (after.config.jitterTicks + 2)) with ⟨draw, random⟩
    exact fun hchance => hchance.trans ⟨rfl, rfl, rfl, rfl, _, rfl⟩

theorem drawLoss_draws (transport : SeededTransport) : transport.Draws transport.drawLoss.2 := by
  rw [drawLoss]
  split
  · exact ⟨rfl, rfl, rfl, rfl, _, rfl⟩
  · have hburst := transport.chance_draws transport.config.burstLossPercent
    revert hburst
    rcases transport.chance transport.config.burstLossPercent with ⟨_ | _, after⟩
    · exact fun hburst => hburst.trans (after.chance_draws _)
    · rcases after.random.bounded 3 with ⟨draw, random⟩
      exact fun hburst => hburst.trans ⟨rfl, rfl, rfl, rfl, _, rfl⟩

namespace Books

variable {transport after : SeededTransport} {credit : UInt64} {quota : Sent → ℕ} {made : ℕ}
  {deliveries : List Delivery}

theorem draws (h : transport.Books credit quota made deliveries) (hdraws : transport.Draws after) :
    after.Books credit quota made deliveries := by
  obtain ⟨-, hqueue, hbytes, hnext, reordered, hmetrics⟩ := hdraws
  constructor
  · rw [hbytes, hqueue, h.bytes]
  · rw [hmetrics, hqueue]
    exact h.balance
  · rw [hqueue]
    exact h.origin
  · rw [hnext, h.next]
  · rw [ordinals, hqueue]
    exact h.fresh

theorem countSent (h : transport.Books credit quota made deliveries) :
    transport.countSent.Books (credit + 1) quota made deliveries := by
  refine ⟨h.bytes, ?_, h.origin, h.next, h.fresh⟩
  have hbalance := h.balance
  simp only [SeededTransport.countSent]
  grind

theorem countLoss (h : transport.Books (credit + 1) quota made deliveries) :
    transport.countLoss.Books credit quota made deliveries := by
  refine ⟨h.bytes, ?_, h.origin, h.next, h.fresh⟩
  have hbalance := h.balance
  simp only [SeededTransport.countLoss]
  grind

theorem countDuplicate (h : transport.Books credit quota made deliveries) :
    transport.countDuplicate.Books (credit + 1) quota made deliveries := by
  refine ⟨h.bytes, ?_, h.origin, h.next, h.fresh⟩
  have hbalance := h.balance
  simp only [SeededTransport.countDuplicate]
  grind

end Books

/-! ### Eviction -/

theorem oldest_mem (first : Scheduled) (rest : List Scheduled) :
    oldest first rest ∈ first :: rest := by
  rw [oldest]
  induction rest generalizing first with
  | nil => exact List.mem_cons_self
  | cons packet rest ih =>
    rw [List.foldl_cons]
    split
    · exact List.mem_cons_of_mem _ (ih packet)
    · rcases List.mem_cons.1 (ih first) with he | hmem
      · rw [he]
        exact List.mem_cons_self
      · exact List.mem_cons_of_mem _ (List.mem_cons_of_mem _ hmem)

theorem Books.evict {transport : SeededTransport} {credit : UInt64} {quota : Sent → ℕ} {made : ℕ}
    {deliveries : List Delivery} (h : transport.Books credit quota made deliveries)
    {packet : Scheduled} (hmem : packet ∈ transport.queue) :
    (transport.evict packet).Books credit quota made deliveries := by
  have hperm : transport.queue.Perm (packet :: transport.queue.erase packet) :=
    List.perm_cons_erase hmem
  constructor
  · have hsum := (hperm.map fun packet => packet.bytes.length).sum_eq
    have hbytes := h.bytes
    simp only [List.map_cons, List.sum_cons] at hsum
    simp only [SeededTransport.evict]
    omega
  · have hlength : UInt64.ofNat transport.queue.length =
        UInt64.ofNat (transport.queue.erase packet).length + 1 := by
      rw [hperm.length_eq, List.length_cons, UInt64.ofNat_add]
      rfl
    have hbalance := h.balance
    simp only [SeededTransport.evict]
    grind
  · intro sent
    have hcount := (hperm.map Scheduled.sent).count_eq sent
    have horigin := h.origin sent
    rw [List.map_cons, List.count_cons] at hcount
    simp only [SeededTransport.evict]
    omega
  · exact h.next
  · intro hmade
    obtain ⟨hnodup, hlt⟩ := h.fresh hmade
    have hsub : (transport.evict packet).ordinals deliveries |>.Sublist
        (transport.ordinals deliveries) :=
      ((List.erase_sublist).map _).append (.refl _)
    exact ⟨hnodup.sublist hsub, fun o ho => hlt o (hsub.subset ho)⟩

/-- Making room removes packets only, and ends with room or with nothing left to remove. -/
theorem Books.makeRoom {credit : UInt64} {quota : Sent → ℕ} {made : ℕ} {deliveries : List Delivery}
    (packetCount byteCount : ℕ) (rounds : ℕ) {transport : SeededTransport}
    (h : transport.Books credit quota made deliveries) :
    (makeRoom packetCount byteCount rounds transport).Books credit quota made deliveries ∧
      (makeRoom packetCount byteCount rounds transport).config = transport.config ∧
      (makeRoom packetCount byteCount rounds transport).queue.length ≤ transport.queue.length ∧
      (makeRoom packetCount byteCount rounds transport).queuedBytes ≤ transport.queuedBytes := by
  induction rounds generalizing transport with
  | zero => exact ⟨h, rfl, le_rfl, le_rfl⟩
  | succ rounds ih =>
    rw [SeededTransport.makeRoom]
    cases hqueue : transport.queue with
    | nil => exact ⟨h, rfl, by rw [hqueue], le_rfl⟩
    | cons first rest =>
      simp only []
      split
      · have hmem : oldest first rest ∈ transport.queue := hqueue ▸ oldest_mem first rest
        obtain ⟨hbooks, hconfig, hlength, hbytes⟩ := ih (h.evict hmem)
        refine ⟨hbooks, hconfig, hlength.trans ?_, hbytes.trans (Nat.sub_le _ _)⟩
        rw [← hqueue]
        exact List.erase_sublist.length_le
      · exact ⟨h, rfl, by rw [hqueue], le_rfl⟩

/-- The queue stays within the limits of its configuration, with room left for some
packets and bytes. -/
def Room (transport : SeededTransport) (packetCount byteCount : ℕ) : Prop :=
  transport.queue.length + packetCount ≤ transport.config.maxQueuePackets ∧
    transport.queuedBytes + byteCount ≤ transport.config.maxQueueBytes

theorem room_iff (transport : SeededTransport) (packetCount byteCount : ℕ) :
    transport.Room packetCount byteCount ↔ transport.exceeds packetCount byteCount = false := by
  simp [Room, exceeds]

theorem Room.draws {transport after : SeededTransport} {packetCount byteCount : ℕ}
    (h : transport.Room packetCount byteCount) (hdraws : transport.Draws after) :
    after.Room packetCount byteCount := by
  rwa [Room, hdraws.queue, hdraws.config, hdraws.queuedBytes]

theorem Books.ensureCapacity {transport : SeededTransport} {credit : UInt64} {quota : Sent → ℕ}
    {made : ℕ} {deliveries : List Delivery} (h : transport.Books credit quota made deliveries)
    (hroom : transport.Room 0 0) (packetCount byteCount : ℕ) :
    (transport.ensureCapacity packetCount byteCount).2.Books credit quota made deliveries ∧
      (transport.ensureCapacity packetCount byteCount).2.config = transport.config ∧
      (transport.ensureCapacity packetCount byteCount).2.Room 0 0 ∧
      ((transport.ensureCapacity packetCount byteCount).1 = .ok () →
        (transport.ensureCapacity packetCount byteCount).2.Room packetCount byteCount) := by
  obtain ⟨hbooks, hconfig, hlength, hbytes⟩ :=
    h.makeRoom packetCount byteCount transport.queue.length
  have hkept : (SeededTransport.makeRoom packetCount byteCount transport.queue.length
      transport).Room 0 0 := by
    rw [Room, hconfig]
    obtain ⟨hpackets, htotal⟩ := hroom
    exact ⟨by omega, by omega⟩
  rw [SeededTransport.ensureCapacity]
  by_cases hexceeds : transport.exceeds packetCount byteCount = true
  · rw [if_neg (by simp [hexceeds])]
    split
    · exact ⟨h, rfl, hroom, fun hok => by cases hok⟩
    · simp only []
      split
      · exact ⟨hbooks, hconfig, hkept, fun hok => by cases hok⟩
      · rename_i hfits
        exact ⟨hbooks, hconfig, hkept, fun _ => (room_iff _ _ _).2 (by simpa using hfits)⟩
  · rw [if_pos (by simp [hexceeds])]
    exact ⟨h, rfl, hroom, fun _ => (room_iff _ _ _).2 (by simpa using hexceeds)⟩

/-- What a send allows one more packet of. -/
def allow (quota : Sent → ℕ) (sent : Sent) : Sent → ℕ :=
  Function.update quota sent (quota sent + 1)

/-- A copy joins the queue under the next ordinal. -/
theorem enqueueCopy_spec (sender receiver : Endpoint) (bytes : List UInt8) (now : LogicalTick)
    (duplicate : Bool) (transport : SeededTransport) :
    ∃ (drawn : SeededTransport) (packet : Scheduled), transport.Draws drawn ∧
      packet.sent = ⟨sender, receiver, bytes, now⟩ ∧ packet.ordinal = transport.nextOrdinal ∧
      enqueueCopy sender receiver bytes now duplicate transport =
        { drawn with
          queue := drawn.queue ++ [packet]
          nextOrdinal := drawn.nextOrdinal + 1
          queuedBytes := drawn.queuedBytes + bytes.length } := by
  have hdelay := transport.drawDelay_draws
  rw [enqueueCopy]
  revert hdelay
  rcases transport.drawDelay with ⟨delay, delayed⟩
  intro hdelay
  have hreorder := delayed.drawReorder_draws
  revert hreorder
  simp only []
  rcases delayed.drawReorder with ⟨rank, drawn⟩
  intro hreorder
  have hdraws := hdelay.trans hreorder
  exact ⟨drawn, _, hdraws, rfl, hdraws.nextOrdinal, rfl⟩

theorem Books.enqueueCopy {transport : SeededTransport} {credit : UInt64} {quota : Sent → ℕ}
    {made : ℕ} {deliveries : List Delivery}
    (h : transport.Books (credit + 1) quota made deliveries) (sender receiver : Endpoint)
    (bytes : List UInt8) (now : LogicalTick) (duplicate : Bool) :
    (enqueueCopy sender receiver bytes now duplicate transport).Books credit
      (allow quota ⟨sender, receiver, bytes, now⟩) (made + 1) deliveries := by
  obtain ⟨drawn, packet, hdraws, hsent, hordinal, hafter⟩ :=
    enqueueCopy_spec sender receiver bytes now duplicate transport
  rw [hafter]
  have hbooks := h.draws hdraws
  rw [← hdraws.nextOrdinal] at hordinal
  have hlength : packet.bytes.length = bytes.length := congrArg (fun s : Sent => s.bytes.length) hsent
  constructor
  · simp [hbooks.bytes, hlength]
  · have hbalance := hbooks.balance
    have hone : UInt64.ofNat (drawn.queue ++ [packet]).length =
        UInt64.ofNat drawn.queue.length + 1 := by
      rw [List.length_append, UInt64.ofNat_add]
      rfl
    simp only []
    grind
  · intro sent
    have horigin := hbooks.origin sent
    simp only [List.map_append, List.map_cons, List.map_nil, List.count_append, hsent, allow]
    by_cases he : sent = ⟨sender, receiver, bytes, now⟩
    · subst he
      rw [Function.update_self, List.count_singleton_self]
      omega
    · rw [Function.update_of_ne he, List.count_singleton, if_neg (by simpa using Ne.symm he)]
      omega
  · simp only [hbooks.next, UInt64.ofNat_add]
    rfl
  · intro hmade
    obtain ⟨hnodup, hlt⟩ := hbooks.fresh (by omega)
    have hvalue : packet.ordinal.toNat = made := by
      rw [hordinal, hbooks.next, UInt64.toNat_ofNat', Nat.mod_eq_of_lt (by omega)]
    have hperm : (packet.ordinal :: drawn.ordinals deliveries).Perm
        (SeededTransport.ordinals
          { drawn with
            queue := drawn.queue ++ [packet]
            nextOrdinal := drawn.nextOrdinal + 1
            queuedBytes := drawn.queuedBytes + bytes.length } deliveries) := by
      simp only [ordinals, List.map_append, List.map_cons, List.map_nil, List.append_assoc,
        List.singleton_append]
      exact List.perm_middle.symm
    have hnew : packet.ordinal ∉ drawn.ordinals deliveries := by
      intro hmem
      have := hlt _ hmem
      omega
    refine ⟨hperm.nodup (List.nodup_cons.2 ⟨hnew, hnodup⟩), fun o ho => ?_⟩
    rcases List.mem_cons.1 (hperm.mem_iff.2 ho) with rfl | hold
    · omega
    · have := hlt o hold
      omega

theorem Room.enqueueCopy {transport : SeededTransport} {packetCount byteCount : ℕ}
    {sender receiver : Endpoint} {bytes : List UInt8} {now : LogicalTick} {duplicate : Bool}
    (h : transport.Room (packetCount + 1) (byteCount + bytes.length)) :
    (enqueueCopy sender receiver bytes now duplicate transport).Room packetCount byteCount := by
  obtain ⟨drawn, packet, hdraws, hsent, hordinal, hafter⟩ :=
    enqueueCopy_spec sender receiver bytes now duplicate transport
  obtain ⟨hpackets, hbytes⟩ := h.draws hdraws
  rw [hafter]
  constructor
  · simp only [List.length_append, List.length_cons, List.length_nil]
    omega
  · simp only []
    omega

/-- Counting leaves the queue alone. -/
structure SameQueue (transport after : SeededTransport) : Prop where
  config : after.config = transport.config
  queue : after.queue = transport.queue
  queuedBytes : after.queuedBytes = transport.queuedBytes

theorem countSent_queue (transport : SeededTransport) : transport.SameQueue transport.countSent := by
  cases transport
  exact ⟨rfl, rfl, rfl⟩

theorem countLoss_queue (transport : SeededTransport) : transport.SameQueue transport.countLoss := by
  cases transport
  exact ⟨rfl, rfl, rfl⟩

theorem countDuplicate_queue (transport : SeededTransport) :
    transport.SameQueue transport.countDuplicate := by
  cases transport
  exact ⟨rfl, rfl, rfl⟩

theorem Room.sameQueue {transport after : SeededTransport} {packetCount byteCount : ℕ}
    (h : transport.Room packetCount byteCount) (hsame : transport.SameQueue after) :
    after.Room packetCount byteCount := by
  rwa [Room, hsame.queue, hsame.config, hsame.queuedBytes]

theorem enqueueCopy_config (sender receiver : Endpoint) (bytes : List UInt8) (now : LogicalTick)
    (duplicate : Bool) (transport : SeededTransport) :
    (enqueueCopy sender receiver bytes now duplicate transport).config = transport.config := by
  obtain ⟨drawn, packet, hdraws, -, -, hafter⟩ :=
    enqueueCopy_spec sender receiver bytes now duplicate transport
  rw [hafter]
  exact hdraws.config

/-! ### What a send can do -/

/-- The draws for a packet that is not lost tell whether it is doubled. -/
structure Chooses (transport : SeededTransport) (duplicate : Bool) (chosen : SeededTransport) : Prop where
  drawn : ∃ drawn, transport.countSent.drawLoss = (false, drawn) ∧
    drawn.chance drawn.config.duplicatePercent = (duplicate, chosen)
  draws : transport.countSent.Draws chosen

/-- A packet passes the checks of `send`. -/
structure Admits (transport : SeededTransport) (bytes : List UInt8) : Prop where
  length : bytes.length ≤ kMaxPacketBytes
  percents : percentsInvalid transport.config = false

/-- A packet is refused, lost, finds no room, or enters the queue once or twice. -/
inductive Sends (transport : SeededTransport) (sender receiver : Endpoint) (bytes : List UInt8)
    (now : LogicalTick) : Result Unit → SeededTransport → Prop
  | tooLong (hlength : kMaxPacketBytes < bytes.length) :
      Sends transport sender receiver bytes now
        (.error ⟨.invalidLength, UInt64.ofNat bytes.length, 0, "transport_packet"⟩) transport.countSent
  | badPercent (hpercents : percentsInvalid transport.config = true) :
      Sends transport sender receiver bytes now
        (.error ⟨.invalidArgument, 100, 0, "transport_percent"⟩) transport.countSent
  | lost {drawn : SeededTransport} (hadmits : transport.Admits bytes)
      (hloss : transport.countSent.drawLoss = (true, drawn)) (hdraws : transport.countSent.Draws drawn) :
      Sends transport sender receiver bytes now (.ok ()) drawn.countLoss
  | full {duplicate : Bool} {chosen after : SeededTransport} {error : Error}
      (hadmits : transport.Admits bytes) (hchosen : transport.Chooses duplicate chosen)
      (hcapacity : chosen.ensureCapacity (if duplicate then 2 else 1)
        (bytes.length * if duplicate then 2 else 1) = (.error error, after)) :
      Sends transport sender receiver bytes now (.error error) after
  | queued {chosen ready : SeededTransport} (hadmits : transport.Admits bytes)
      (hchosen : transport.Chooses false chosen)
      (hcapacity : chosen.ensureCapacity 1 (bytes.length * 1) = (.ok (), ready)) :
      Sends transport sender receiver bytes now (.ok ())
        (ready.enqueueCopy sender receiver bytes now false)
  | doubled {chosen ready : SeededTransport} (hadmits : transport.Admits bytes)
      (hchosen : transport.Chooses true chosen)
      (hcapacity : chosen.ensureCapacity 2 (bytes.length * 2) = (.ok (), ready)) :
      Sends transport sender receiver bytes now (.ok ())
        ((ready.enqueueCopy sender receiver bytes now false).enqueueCopy sender receiver bytes now
          true).countDuplicate

theorem sends {transport after : SeededTransport} {sender receiver : Endpoint} {bytes : List UInt8}
    {now : LogicalTick} {result : Result Unit}
    (h : transport.send sender receiver bytes now = (result, after)) :
    transport.Sends sender receiver bytes now result after := by
  rw [send] at h
  dsimp only at h
  split at h
  next hlength =>
    cases h
    exact .tooLong hlength
  next hlength =>
  split at h
  next hpercents =>
    cases h
    exact .badPercent hpercents
  next hpercents =>
  have hadmits : transport.Admits bytes := ⟨Nat.not_lt.1 hlength, Bool.eq_false_iff.2 hpercents⟩
  have hdraws := transport.countSent.drawLoss_draws
  rcases hloss : transport.countSent.drawLoss with ⟨_ | _, drawn⟩
  · have hchance := drawn.chance_draws drawn.config.duplicatePercent
    rw [hloss] at h hdraws
    dsimp only at h
    rcases hchosen : drawn.chance drawn.config.duplicatePercent with ⟨duplicate, chosen⟩
    rw [hchosen] at h hchance
    have hchooses : transport.Chooses duplicate chosen :=
      ⟨⟨drawn, hloss, hchosen⟩, hdraws.trans hchance⟩
    dsimp only at h
    split at h
    next hcapacity =>
      cases h
      exact .full hadmits hchooses hcapacity
    next hcapacity =>
      cases duplicate with
      | false =>
        cases h
        exact .queued hadmits hchooses hcapacity
      | true =>
        cases h
        exact .doubled hadmits hchooses hcapacity
  · rw [hloss] at h hdraws
    cases h
    exact .lost hadmits hloss hdraws

theorem le_allow (quota : Sent → ℕ) (sent s : Sent) : quota s ≤ allow quota sent s := by
  rw [allow]
  by_cases he : s = sent
  · rw [he, Function.update_self]
    omega
  · rw [Function.update_of_ne he]

theorem Books.mono {transport : SeededTransport} {credit : UInt64} {quota quota' : Sent → ℕ}
    {made : ℕ} {deliveries : List Delivery} (h : transport.Books credit quota made deliveries)
    (hle : ∀ sent, quota sent ≤ quota' sent) : transport.Books credit quota' made deliveries :=
  ⟨h.bytes, h.balance, fun sent => (h.origin sent).trans (hle sent), h.next, h.fresh⟩

theorem Books.capacity {transport after : SeededTransport} {credit : UInt64} {quota : Sent → ℕ}
    {made packetCount byteCount : ℕ} {deliveries : List Delivery} {result : Result Unit}
    (h : transport.Books credit quota made deliveries) (hroom : transport.Room 0 0)
    (hcapacity : transport.ensureCapacity packetCount byteCount = (result, after)) :
    after.Books credit quota made deliveries ∧ after.config = transport.config ∧ after.Room 0 0 ∧
      (result = .ok () → after.Room packetCount byteCount) := by
  have hspec := h.ensureCapacity hroom packetCount byteCount
  rw [hcapacity] at hspec
  exact hspec

/-- The books after a send. If it fails it has made nothing and leaves one more credit. -/
structure SendBooks (before after : SeededTransport) (result : Result Unit) (credit : UInt64)
    (quota allowed : Sent → ℕ) (made : ℕ) (deliveries : List Delivery) : Prop where
  books : match result with
    | .ok _ => ∃ made' ≤ made + 2, after.Books credit allowed made' deliveries
    | .error _ => after.Books (credit + 1) quota made deliveries
  config : after.config = before.config
  room : after.Room 0 0

/-- A send either fails, with one more credit, or uses up what it allows. -/
theorem Books.send {transport : SeededTransport} {credit : UInt64} {quota : Sent → ℕ} {made : ℕ}
    {deliveries : List Delivery} (h : transport.Books credit quota made deliveries)
    (hroom : transport.Room 0 0) (sender receiver : Endpoint) (bytes : List UInt8)
    (now : LogicalTick) :
    SendBooks transport (transport.send sender receiver bytes now).2
      (transport.send sender receiver bytes now).1 credit quota
      (allow (allow quota ⟨sender, receiver, bytes, now⟩) ⟨sender, receiver, bytes, now⟩) made
      deliveries := by
  set sent : Sent := ⟨sender, receiver, bytes, now⟩
  have hallow : ∀ s, quota s ≤ allow (allow quota sent) sent s :=
    fun s => (le_allow quota sent s).trans (le_allow _ sent s)
  have hcounted := h.countSent
  have hconfig := transport.countSent_queue.config
  have hroom' := hroom.sameQueue transport.countSent_queue
  rcases hsend : transport.send sender receiver bytes now with ⟨result, after⟩
  dsimp only
  cases sends hsend with
  | tooLong => exact ⟨hcounted, hconfig, hroom'⟩
  | badPercent => exact ⟨hcounted, hconfig, hroom'⟩
  | @lost drawn _ hloss hdraws =>
    have hlost := ((hcounted.draws hdraws).countLoss).mono hallow
    exact ⟨⟨made, by omega, hlost⟩, drawn.countLoss_queue.config.trans (hdraws.config.trans hconfig),
      (hroom'.draws hdraws).sameQueue drawn.countLoss_queue⟩
  | full _ hchosen hcapacity =>
    obtain ⟨hbooks, hready, hkept, -⟩ :=
      (hcounted.draws hchosen.draws).capacity (hroom'.draws hchosen.draws) hcapacity
    exact ⟨hbooks, hready.trans (hchosen.draws.config.trans hconfig), hkept⟩
  | @queued chosen ready _ hchosen hcapacity =>
    obtain ⟨hbooks, hready, -, hfits⟩ :=
      (hcounted.draws hchosen.draws).capacity (hroom'.draws hchosen.draws) hcapacity
    have hfit := hfits rfl
    have hroom₁ : ready.Room (0 + 1) (0 + bytes.length) := by simpa using hfit
    have hfirst := hbooks.enqueueCopy sender receiver bytes now false
    exact ⟨⟨made + 1, by omega, hfirst.mono (le_allow _ sent)⟩,
      (enqueueCopy_config ..).trans (hready.trans (hchosen.draws.config.trans hconfig)),
      hroom₁.enqueueCopy⟩
  | @doubled chosen ready _ hchosen hcapacity =>
    obtain ⟨hbooks, hready, -, hfits⟩ :=
      (hcounted.draws hchosen.draws).capacity (hroom'.draws hchosen.draws) hcapacity
    have hfit := hfits rfl
    have hroom₂ : ready.Room (0 + 1 + 1) (0 + bytes.length + bytes.length) := by
      simpa [Nat.mul_two] using hfit
    have hfirst := hbooks.enqueueCopy sender receiver bytes now false
    have hcredit : credit = credit - 1 + 1 := by grind
    have hsecond := (hcredit ▸ hfirst).enqueueCopy sender receiver bytes now true
    have hdoubled := hsecond.countDuplicate
    rw [← hcredit] at hdoubled
    refine ⟨⟨made + 1 + 1, by omega, hdoubled⟩, ?_, ?_⟩
    · rw [(countDuplicate_queue _).config, enqueueCopy_config, enqueueCopy_config, hready,
        hchosen.draws.config, hconfig]
    · exact hroom₂.enqueueCopy.enqueueCopy.sameQueue (countDuplicate_queue _)

/-! ### Delivery -/

/-- Looking through the queue splits it into what stays, what is dropped and what is
handed out. -/
theorem deliverEach_spec (config : TransportConfig) (now : LogicalTick) (pending : List Scheduled)
    (budget queuedBytes : ℕ) (metrics : TransportMetrics)
    (hbytes : (pending.map fun packet => packet.bytes.length).sum ≤ queuedBytes) :
    let delivered := deliverEach config now pending budget queuedBytes metrics
    ∃ aged out : List Scheduled,
      (delivered.queue ++ (aged ++ out)).Perm pending ∧
      delivered.deliveries = out.map (deliveryOf · now) ∧
      delivered.queuedBytes + ((aged ++ out).map fun packet => packet.bytes.length).sum =
        queuedBytes ∧
      delivered.metrics =
        { metrics with
          droppedAge := metrics.droppedAge + UInt64.ofNat aged.length
          deliveredPackets := metrics.deliveredPackets + UInt64.ofNat out.length } := by
  induction pending generalizing budget queuedBytes metrics with
  | nil => exact ⟨[], [], by simp [deliverEach]⟩
  | cons packet rest ih =>
    rw [List.map_cons, List.sum_cons] at hbytes
    simp only [deliverEach]
    split
    · obtain ⟨aged, out, hperm, hout, htotal, hmetrics⟩ := ih budget
        (queuedBytes - packet.bytes.length) { metrics with droppedAge := metrics.droppedAge + 1 }
        (by omega)
      refine ⟨packet :: aged, out, ?_, hout, ?_, ?_⟩
      · exact List.perm_middle.trans (hperm.cons packet)
      · simp only [List.cons_append, List.map_cons, List.sum_cons]
        omega
      · rw [hmetrics, List.length_cons, UInt64.ofNat_add]
        simp only [TransportMetrics.mk.injEq, and_true, true_and]
        grind
    · split
      · obtain ⟨aged, out, hperm, hout, htotal, hmetrics⟩ := ih (budget - packet.bytes.length)
          (queuedBytes - packet.bytes.length)
          { metrics with deliveredPackets := metrics.deliveredPackets + 1 } (by omega)
        refine ⟨aged, packet :: out, ?_, ?_, ?_, ?_⟩
        · rw [← List.append_assoc] at hperm ⊢
          exact List.perm_middle.trans (hperm.cons packet)
        · rw [hout]
          rfl
        · simp only [List.map_append, List.sum_append, List.map_cons, List.sum_cons] at htotal ⊢
          omega
        · simp only [hmetrics, List.length_cons, UInt64.ofNat_add, TransportMetrics.mk.injEq,
            and_true, true_and]
          grind
      · obtain ⟨aged, out, hperm, hout, htotal, hmetrics⟩ := ih budget queuedBytes metrics (by omega)
        exact ⟨aged, out, hperm.cons packet, hout, htotal, hmetrics⟩

theorem Books.deliver {transport : SeededTransport} {credit : UInt64} {quota : Sent → ℕ} {made : ℕ}
    {deliveries : List Delivery} (h : transport.Books credit quota made deliveries)
    (now : LogicalTick) :
    (transport.deliver now).2.Books credit quota made (deliveries ++ (transport.deliver now).1) ∧
      (transport.deliver now).2.config = transport.config ∧
      (transport.deliver now).2.queue.length ≤ transport.queue.length ∧
      (transport.deliver now).2.queuedBytes ≤ transport.queuedBytes := by
  rw [SeededTransport.deliver]
  have hsorted := List.perm_insertionSort
    (fun left right => ¬ scheduledBefore right left) transport.queue
  have hbytes := (hsorted.map fun packet => packet.bytes.length).sum_eq
  obtain ⟨aged, out, hperm, hout, htotal, hmetrics⟩ := deliverEach_spec transport.config now
    (transport.queue.insertionSort fun left right => ¬ scheduledBefore right left)
    transport.config.bandwidthBytesPerTick transport.queuedBytes transport.metrics
    (by rw [hbytes, h.bytes])
  revert hperm hout htotal hmetrics
  generalize deliverEach transport.config now
    (transport.queue.insertionSort fun left right => ¬ scheduledBefore right left)
    transport.config.bandwidthBytesPerTick transport.queuedBytes transport.metrics = delivered
  intro hperm hout htotal hmetrics
  have hall := hperm.trans hsorted
  have hsum := (hall.map fun packet => packet.bytes.length).sum_eq
  rw [List.map_append, List.sum_append] at hsum
  have hlength := hall.length_eq
  simp only [List.length_append] at hlength
  refine ⟨⟨?_, ?_, ?_, h.next, ?_⟩, rfl, ?_, ?_⟩
  · have := h.bytes
    simp only []
    omega
  · have hbalance := h.balance
    rw [← hlength, UInt64.ofNat_add, UInt64.ofNat_add] at hbalance
    simp only [hmetrics]
    grind
  · intro sent
    have horigin := h.origin sent
    rw [← (hall.map Scheduled.sent).count_eq sent] at horigin
    have hdelivered : (delivered.deliveries.map Delivery.sent) = out.map Scheduled.sent := by
      rw [hout, List.map_map]
      rfl
    simp only [List.map_append, List.count_append, hdelivered] at horigin ⊢
    omega
  · intro hmade
    obtain ⟨hnodup, hlt⟩ := h.fresh hmade
    have hdelivered : delivered.deliveries.map Delivery.ordinal = out.map Scheduled.ordinal := by
      rw [hout, List.map_map]
      rfl
    have hordinals : (transport.ordinals deliveries).Perm
        (aged.map Scheduled.ordinal ++
          SeededTransport.ordinals
            { transport with
              queue := delivered.queue
              queuedBytes := delivered.queuedBytes
              metrics := delivered.metrics } (deliveries ++ delivered.deliveries)) := by
      refine ((hall.symm.map Scheduled.ordinal).append_right _).trans ?_
      simp only [ordinals, List.map_append, hdelivered]
      rw [List.perm_iff_count]
      intro o
      simp only [List.count_append]
      omega
    have hsublist := List.sublist_append_right (aged.map Scheduled.ordinal)
      (SeededTransport.ordinals
        { transport with
          queue := delivered.queue
          queuedBytes := delivered.queuedBytes
          metrics := delivered.metrics } (deliveries ++ delivered.deliveries))
    exact ⟨(hordinals.nodup hnodup).sublist hsublist,
      fun o ho => hlt o (hordinals.mem_iff.2 (hsublist.subset ho))⟩
  · simp only []
    omega
  · simp only []
    omega

end SeededTransport

namespace TransportRun

open SeededTransport

theorem calls_concat (config : TransportConfig) (calls : List TransportCall) (c : TransportCall) :
    TransportRun.calls config (calls ++ [c]) = (TransportRun.calls config calls).call c := by
  rw [TransportRun.calls, TransportRun.calls, List.foldl_append, List.foldl_cons, List.foldl_nil]

/-- The invariant of all runs. -/
theorem calls_books (config : TransportConfig) (calls : List TransportCall) :
    ∃ made ≤ 2 * (TransportRun.calls config calls).sends.length,
      (TransportRun.calls config calls).transport.Books
        (UInt64.ofNat (TransportRun.calls config calls).failed)
        (fun sent => 2 * (TransportRun.calls config calls).sends.count sent) made
        (TransportRun.calls config calls).deliveries ∧
      (TransportRun.calls config calls).transport.config = config ∧
      (TransportRun.calls config calls).transport.Room 0 0 := by
  induction calls using List.reverseRecOn with
  | nil =>
    refine ⟨0, le_rfl, ⟨rfl, rfl, fun _ => le_rfl, rfl, fun _ => ⟨List.nodup_nil, ?_⟩⟩, rfl,
      Nat.zero_le _, Nat.zero_le _⟩
    intro o ho
    cases ho
  | append_singleton calls c ih =>
    rw [calls_concat]
    obtain ⟨made, hmade, hbooks, hconfig, hroom⟩ := ih
    generalize TransportRun.calls config calls = run at hmade hbooks hconfig hroom ⊢
    cases c with
    | send sender receiver bytes now =>
      obtain ⟨hsend, hsame, hkept⟩ := hbooks.send hroom sender receiver bytes now
      revert hsend hsame hkept
      rw [TransportRun.call]
      rcases run.transport.send sender receiver bytes now with ⟨e | _, transport⟩
      · intro hsend hsame hkept
        refine ⟨made, hmade, ?_, hsame.trans hconfig, hkept⟩
        simp only [UInt64.ofNat_add]
        exact hsend
      · rintro ⟨made', hle, hsend⟩ hsame hkept
        refine ⟨made', ?_, ?_, hsame.trans hconfig, hkept⟩
        · simp only [List.length_append, List.length_cons, List.length_nil]
          omega
        · refine hsend.mono fun sent => ?_
          simp only [List.count_append, List.count_singleton, allow]
          by_cases he : sent = ⟨sender, receiver, bytes, now⟩
          · subst he
            simp
            omega
          · rw [Function.update_of_ne he, Function.update_of_ne he]
            omega
    | deliver now =>
      obtain ⟨hdeliver, hsame, hlength, hbytes⟩ := hbooks.deliver now
      rw [TransportRun.call]
      refine ⟨made, hmade, hdeliver, hsame.trans hconfig, ?_⟩
      obtain ⟨hpackets, htotal⟩ := hroom
      change (run.transport.deliver now).2.Room 0 0
      rw [Room, hsame]
      exact ⟨by omega, by omega⟩

/-- The queue stays within its limits, its bytes are counted, every delivery stems from a
send that succeeded and no send has more than two, no ordinal is delivered twice while
ordinals do not wrap, and every packet is accounted for. -/
theorem accounts (config : TransportConfig) (calls : List TransportCall) :
    let run := TransportRun.calls config calls
    run.transport.queuedPackets ≤ config.maxQueuePackets ∧
    run.transport.queuedBytes =
      (run.transport.queue.map fun packet => packet.bytes.length).sum ∧
    run.transport.queuedBytes ≤ config.maxQueueBytes ∧
    (run.deliveries.map Delivery.sent).Subperm (run.sends ++ run.sends) ∧
    (run.sends.length ≤ 2 ^ 63 → (run.deliveries.map Delivery.ordinal).Nodup) ∧
    run.transport.metrics.sentPackets + run.transport.metrics.duplicatedPackets =
      UInt64.ofNat run.failed + run.transport.metrics.droppedLoss +
        run.transport.metrics.deliveredPackets + run.transport.metrics.droppedOverflow +
        run.transport.metrics.droppedAge + UInt64.ofNat run.transport.queuedPackets := by
  obtain ⟨made, hmade, hbooks, hconfig, hroom⟩ := calls_books config calls
  generalize TransportRun.calls config calls = run at hmade hbooks hconfig hroom ⊢
  simp only []
  obtain ⟨hpackets, htotal⟩ := hroom
  rw [hconfig] at hpackets htotal
  refine ⟨hpackets, hbooks.bytes, htotal, ?_, fun hsmall => ?_, hbooks.balance⟩
  · rw [List.subperm_ext_iff]
    intro sent _
    have horigin := hbooks.origin sent
    rw [List.count_append]
    omega
  · have hmade' : made ≤ 2 ^ 64 := by omega
    exact (hbooks.fresh hmade').1.sublist (List.sublist_append_right _ _)

end TransportRun

/-! ### Ordinals that repeat -/

namespace SeededTransport

theorem chance_zero (transport : SeededTransport) : transport.chance 0 = (false, transport) := by
  rw [chance, if_pos rfl]

/-- With the default configuration nothing is drawn. -/
theorem draws_default {transport : SeededTransport} (hconfig : transport.config = {})
    (hburst : transport.burstRemaining = 0) :
    transport.drawLoss = (false, transport) ∧
      transport.chance transport.config.duplicatePercent = (false, transport) ∧
      transport.drawDelay = (0, transport) ∧ transport.drawReorder = (0, transport) := by
  have hchance : ∀ percent : UInt32, percent = 0 → transport.chance percent = (false, transport) := by
    rintro percent rfl
    exact chance_zero transport
  have hloss := hchance transport.config.lossPercent (by rw [hconfig])
  have hburstLoss := hchance transport.config.burstLossPercent (by rw [hconfig])
  have hreorder := hchance transport.config.reorderPercent (by rw [hconfig])
  refine ⟨?_, hchance _ (by rw [hconfig]), ?_, ?_⟩
  · rw [drawLoss, if_neg (by rw [hburst]; decide), hburstLoss]
    exact hloss
  · rw [drawDelay, if_neg (by rw [hconfig]; decide), hconfig]
    rfl
  · rw [drawReorder, hreorder]

/-- An empty packet joins the empty queue. -/
theorem send_idle {transport : SeededTransport} (hconfig : transport.config = {})
    (hqueue : transport.queue = []) (hburst : transport.burstRemaining = 0)
    (hbytes : transport.queuedBytes = 0) :
    ∃ (after : SeededTransport) (packet : Scheduled),
      transport.send .a .b [] ⟨0⟩ = (.ok (), after) ∧ after.config = {} ∧ after.queue = [packet] ∧
      after.burstRemaining = 0 ∧ after.queuedBytes = 0 ∧
      after.nextOrdinal = transport.nextOrdinal + 1 ∧ packet.bytes = [] ∧
      packet.enqueuedAt = ⟨0⟩ ∧ packet.scheduledFor = ⟨0⟩ ∧
      packet.ordinal = transport.nextOrdinal := by
  obtain ⟨hconfig', hqueue', hbytes'⟩ := transport.countSent_queue
  have hburst' : transport.countSent.burstRemaining = transport.burstRemaining := by
    cases transport
    rfl
  have hnext' : transport.countSent.nextOrdinal = transport.nextOrdinal := by
    cases transport
    rfl
  rw [hconfig] at hconfig'
  rw [hqueue] at hqueue'
  rw [hbytes] at hbytes'
  rw [hburst] at hburst'
  rw [← hnext', SeededTransport.send]
  generalize transport.countSent = counted at *
  obtain ⟨hloss, hduplicate, hdelay, hreorder⟩ := draws_default hconfig' hburst'
  have hvalid : percentsInvalid counted.config = false := by
    rw [hconfig']
    decide
  have hroom : counted.ensureCapacity 1 0 = (.ok (), counted) := by
    rw [ensureCapacity, if_pos]
    rw [exceeds, hconfig', hqueue', hbytes']
    decide
  have henqueue : enqueueCopy .a .b [] ⟨0⟩ false counted =
      { counted with
        queue := [⟨.a, .b, [], ⟨0⟩, ⟨0⟩, 0, counted.nextOrdinal, false⟩]
        nextOrdinal := counted.nextOrdinal + 1
        queuedBytes := 0 } := by
    rw [enqueueCopy, hdelay]
    simp only [hreorder, hqueue', hbytes', List.nil_append, List.length_nil]
    rfl
  refine ⟨enqueueCopy .a .b [] ⟨0⟩ false counted,
    ⟨.a, .b, [], ⟨0⟩, ⟨0⟩, 0, counted.nextOrdinal, false⟩, ?_, ?_⟩
  · rw [if_neg (by decide), if_neg (by simp [hvalid])]
    simp only [hloss, hduplicate, Bool.false_eq_true, if_false, List.length_nil, Nat.zero_mul, hroom]
  · rw [henqueue]
    exact ⟨hconfig', rfl, hburst', rfl, rfl, rfl, rfl, rfl, rfl⟩

theorem deliver_idle {transport : SeededTransport} {packet : Scheduled}
    (hconfig : transport.config = {}) (hqueue : transport.queue = [packet])
    (hbytes : transport.queuedBytes = 0) (hempty : packet.bytes = [])
    (henqueued : packet.enqueuedAt = ⟨0⟩) (hscheduled : packet.scheduledFor = ⟨0⟩) :
    ∃ after : SeededTransport, transport.deliver ⟨0⟩ = ([deliveryOf packet ⟨0⟩], after) ∧
      after.config = {} ∧ after.queue = [] ∧ after.burstRemaining = transport.burstRemaining ∧
      after.queuedBytes = 0 ∧ after.nextOrdinal = transport.nextOrdinal := by
  have hyoung : ¬ ({} : TransportConfig).maxPacketAgeTicks < (0 : UInt32) - packet.enqueuedAt.value := by
    rw [henqueued]
    decide
  have hdue : packet.scheduledFor.value ≤ (0 : UInt32) ∧
      packet.bytes.length ≤ ({} : TransportConfig).bandwidthBytesPerTick := by
    rw [hscheduled, hempty]
    decide
  have heach : deliverEach {} ⟨0⟩ [packet] ({} : TransportConfig).bandwidthBytesPerTick 0
      transport.metrics =
        ⟨[deliveryOf packet ⟨0⟩], [], 0, { transport.metrics with
          deliveredPackets := transport.metrics.deliveredPackets + 1 }⟩ := by
    rw [deliverEach, if_neg hyoung, if_pos hdue, deliverEach, hempty]
    rfl
  have hsort : List.insertionSort (fun left right => ¬ scheduledBefore right left) [packet] =
      [packet] := rfl
  rw [SeededTransport.deliver, hqueue, hconfig, hbytes, hsort, heach]
  exact ⟨_, rfl, rfl, rfl, rfl, rfl, rfl⟩
end SeededTransport

namespace TransportRun

open SeededTransport

/-- One empty packet over a transport without delay and loss. -/
def idleRound : List TransportCall := [.send .a .b [] ⟨0⟩, .deliver ⟨0⟩]

/-- A run of empty packets, each delivered before the next is sent. -/
def idleRun (rounds : ℕ) : TransportRun :=
  calls {} (List.replicate rounds idleRound).flatten

/-- The transport after a number of idle rounds. -/
structure Idle (run : TransportRun) (rounds : ℕ) : Prop where
  config : run.transport.config = {}
  queue : run.transport.queue = []
  burstRemaining : run.transport.burstRemaining = 0
  queuedBytes : run.transport.queuedBytes = 0
  nextOrdinal : run.transport.nextOrdinal = UInt64.ofNat rounds
  ordinals : run.deliveries.map Delivery.ordinal = (List.range rounds).map UInt64.ofNat

theorem Idle.round {run : TransportRun} {rounds : ℕ} (h : Idle run rounds) :
    Idle (idleRound.foldl call run) (rounds + 1) := by
  obtain ⟨sent, packet, hsend, hconfig, hqueue, hburst, hbytes, hnext, hempty, henqueued, hscheduled,
    hordinal⟩ := send_idle h.config h.queue h.burstRemaining h.queuedBytes
  obtain ⟨after, hdeliver, hconfig', hqueue', hburst', hbytes', hnext'⟩ :=
    deliver_idle hconfig hqueue hbytes hempty henqueued hscheduled
  have hround : idleRound.foldl call run =
      { run with
        transport := after
        sends := run.sends ++ [⟨.a, .b, [], ⟨0⟩⟩]
        deliveries := run.deliveries ++ [deliveryOf packet ⟨0⟩] } := by
    simp only [idleRound, List.foldl_cons, List.foldl_nil, call, hsend, hdeliver]
  rw [hround]
  refine ⟨hconfig', hqueue', hburst'.trans hburst, hbytes', ?_, ?_⟩
  · rw [UInt64.ofNat_add, ← h.nextOrdinal]
    exact hnext'.trans hnext
  · rw [List.map_append, h.ordinals, List.range_succ, List.map_append]
    exact congrArg (_ ++ [·]) (hordinal.trans h.nextOrdinal)

theorem idle_idleRun (rounds : ℕ) : Idle (idleRun rounds) rounds := by
  induction rounds with
  | zero => exact ⟨rfl, rfl, rfl, rfl, rfl, rfl⟩
  | succ rounds ih =>
    have hround := ih.round
    rw [idleRun, calls, List.replicate_succ', List.flatten_append, List.foldl_append,
      List.flatten_singleton]
    exact hround

/-- After `2 ^ 64` packets the ordinals start again. -/
theorem ordinals_repeat : ¬ ∀ (config : TransportConfig) (calls : List TransportCall),
    ((TransportRun.calls config calls).deliveries.map Delivery.ordinal).Nodup := by
  intro hnodup
  have hidle := hnodup {} (List.replicate (2 ^ 64 + 1) idleRound).flatten
  rw [show TransportRun.calls {} (List.replicate (2 ^ 64 + 1) idleRound).flatten =
    idleRun (2 ^ 64 + 1) from rfl, (idle_idleRun _).ordinals] at hidle
  have hsame := List.inj_on_of_nodup_map hidle (List.mem_range.2 (Nat.succ_pos _))
    (List.mem_range.2 (Nat.lt_succ_self _)) (show UInt64.ofNat 0 = UInt64.ofNat (2 ^ 64) by decide)
  omega

end TransportRun

end RollbackLab
