import RollbackLab.SeededTransport
import Mathlib.Data.Prod.Lex

/-!
# The schedule of deliveries

A delivery drops the packets that are too old and looks through the others in the order
of their scheduled ticks. It hands out greedily what is due and fits into the bandwidth.
The scheduled tick of a packet lies close to the tick it was sent at.
-/

namespace RollbackLab

/-! ## Taking under a budget -/

section Budget

variable {α : Type*} (due : α → Prop) [DecidablePred due] (size : α → ℕ)

/-- Go through a list and mark what is taken: everything due that fits into what is left
of the budget. -/
def markUnder : (budget : ℕ) → List α → List (α × Bool)
  | _, [] => []
  | budget, a :: rest =>
    if due a ∧ size a ≤ budget then (a, true) :: markUnder (budget - size a) rest
    else (a, false) :: markUnder budget rest

def taken (marks : List (α × Bool)) : List α := (marks.filter Prod.snd).map Prod.fst

def passedOver (marks : List (α × Bool)) : List α := (marks.filter (! ·.2)).map Prod.fst

theorem markUnder_map_fst (budget : ℕ) (list : List α) :
    (markUnder due size budget list).map Prod.fst = list := by
  induction list generalizing budget with
  | nil => rfl
  | cons a rest ih =>
    rw [markUnder]
    split
    · rw [List.map_cons, ih]
    · rw [List.map_cons, ih]

/-- An element is taken if and only if it is due and fits in beside what was taken
before it. -/
theorem markUnder_iff {budget : ℕ} {list : List α} {earlier later : List (α × Bool)} {a : α}
    {mark : Bool} (h : markUnder due size budget list = earlier ++ (a, mark) :: later) :
    mark = true ↔ due a ∧ size a + ((taken earlier).map size).sum ≤ budget := by
  induction list generalizing budget earlier with
  | nil =>
    rw [markUnder] at h
    simp at h
  | cons first rest ih =>
    rw [markUnder] at h
    split at h
    · rename_i htaken
      rcases earlier with _ | ⟨⟨head, marked⟩, earlier⟩
      · rw [List.nil_append, List.cons.injEq, Prod.mk.injEq] at h
        obtain ⟨⟨rfl, rfl⟩, -⟩ := h
        simpa [taken] using htaken
      · rw [List.cons_append, List.cons.injEq, Prod.mk.injEq] at h
        obtain ⟨⟨rfl, rfl⟩, hrest⟩ := h
        have hsum : ((taken ((first, true) :: earlier)).map size).sum =
            size first + ((taken earlier).map size).sum := by
          simp [taken]
        rw [ih hrest, hsum]
        exact and_congr_right fun _ => by omega
    · rename_i hpassed
      rcases earlier with _ | ⟨⟨head, marked⟩, earlier⟩
      · rw [List.nil_append, List.cons.injEq, Prod.mk.injEq] at h
        obtain ⟨⟨rfl, rfl⟩, -⟩ := h
        simpa [taken] using hpassed
      · rw [List.cons_append, List.cons.injEq, Prod.mk.injEq] at h
        obtain ⟨⟨rfl, rfl⟩, hrest⟩ := h
        have hsame : taken ((first, false) :: earlier) = taken earlier := by
          simp [taken]
        rw [ih hrest, hsame]

end Budget

namespace SeededTransport

/-! ## Delivery -/

/-- The order of delivery: scheduled tick, then rank, then ordinal. -/
def Scheduled.key (packet : Scheduled) : ℕ ×ₗ ℕ ×ₗ ℕ :=
  toLex (packet.scheduledFor.value.toNat,
    toLex (packet.reorderRank.toNat, packet.ordinal.toNat))

theorem scheduledBefore_iff (left right : Scheduled) :
    scheduledBefore left right = true ↔ left.key < right.key := by
  rw [scheduledBefore, Scheduled.key, Scheduled.key, Prod.Lex.toLex_lt_toLex,
    Prod.Lex.toLex_lt_toLex]
  simp only [UInt32.toNat_inj]
  split
  · rename_i htick
    simp [htick, UInt32.lt_iff_toNat_lt]
  · rename_i htick
    rw [not_not] at htick
    split
    · rename_i hrank
      simp [htick, hrank, UInt32.lt_iff_toNat_lt]
    · rename_i hrank
      rw [not_not] at hrank
      simp [htick, hrank, UInt64.lt_iff_toNat_lt]

/-- The queue as `deliver` sorts it. -/
def inOrder (transport : SeededTransport) : List Scheduled :=
  transport.queue.insertionSort fun left right => ¬ scheduledBefore right left

theorem inOrder_perm (transport : SeededTransport) : transport.inOrder.Perm transport.queue :=
  List.perm_insertionSort _ _

theorem inOrder_pairwise (transport : SeededTransport) :
    transport.inOrder.Pairwise fun left right => left.key ≤ right.key := by
  have hrelation : (fun left right => ¬ scheduledBefore right left = true) =
      fun left right : Scheduled => left.key ≤ right.key := by
    funext left right
    rw [scheduledBefore_iff, not_lt]
  have : Std.Total fun left right : Scheduled => left.key ≤ right.key := ⟨fun _ _ => le_total _ _⟩
  have : IsTrans Scheduled fun left right => left.key ≤ right.key := ⟨fun _ _ _ => le_trans⟩
  rw [inOrder]
  simp only [hrelation]
  exact List.pairwise_insertionSort _ _

/-- The age of a packet as `deliver` computes it. -/
def isYoung (config : TransportConfig) (now : LogicalTick) (packet : Scheduled) : Bool :=
  ¬ config.maxPacketAgeTicks < now.value - packet.enqueuedAt.value

/-- The loop of `deliver` marks what it hands out of the packets that are young enough. -/
theorem deliverEach_eq (config : TransportConfig) (now : LogicalTick) (pending : List Scheduled)
    (budget queuedBytes : ℕ) (metrics : TransportMetrics) :
    let marks := markUnder (fun packet : Scheduled => packet.scheduledFor.value ≤ now.value)
      (fun packet => packet.bytes.length) budget (pending.filter (isYoung config now))
    (deliverEach config now pending budget queuedBytes metrics).deliveries =
        (taken marks).map (deliveryOf · now) ∧
      (deliverEach config now pending budget queuedBytes metrics).queue = passedOver marks := by
  induction pending generalizing budget queuedBytes metrics with
  | nil => exact ⟨rfl, rfl⟩
  | cons packet rest ih =>
    rw [deliverEach]
    split
    · rename_i haged
      rw [List.filter_cons_of_neg (by simpa [isYoung] using haged)]
      apply ih
    · rename_i hyoung
      rw [List.filter_cons_of_pos (by simpa [isYoung] using hyoung)]
      simp only [markUnder]
      split
      · obtain ⟨hdeliveries, hqueue⟩ := ih (budget - packet.bytes.length)
          (queuedBytes - packet.bytes.length)
          { metrics with deliveredPackets := metrics.deliveredPackets + 1 }
        rw [hdeliveries, hqueue]
        exact ⟨rfl, rfl⟩
      · obtain ⟨hdeliveries, hqueue⟩ := ih budget queuedBytes metrics
        rw [hdeliveries, hqueue]
        exact ⟨rfl, rfl⟩

/-- What a delivery at a tick does, told by marking the packets that are not too old. They
are looked at in order, and one is handed out if and only if it is due and fits into what
the packets handed out before it left of the bandwidth. All others stay. -/
structure OnSchedule (transport : SeededTransport) (now : LogicalTick)
    (marks : List (Scheduled × Bool)) (deliveries : List Delivery) (queue : List Scheduled) :
    Prop where
  young : (marks.map Prod.fst).Perm (transport.queue.filter fun packet =>
    now.value.toNat - packet.enqueuedAt.value.toNat ≤ transport.config.maxPacketAgeTicks.toNat)
  ordered : (marks.map Prod.fst).Pairwise fun left right => left.key ≤ right.key
  handed : ∀ earlier packet mark later, marks = earlier ++ (packet, mark) :: later →
    (mark = true ↔ packet.scheduledFor.value ≤ now.value ∧
      packet.bytes.length + ((taken earlier).map fun other => other.bytes.length).sum ≤
        transport.config.bandwidthBytesPerTick)
  deliveries : deliveries = (taken marks).map (deliveryOf · now)
  queue : queue = passedOver marks

/-- If no packet is from the future its age is what has passed since it was sent. -/
theorem isYoung_iff {config : TransportConfig} {now : LogicalTick} {packet : Scheduled}
    (h : packet.enqueuedAt.value ≤ now.value) :
    isYoung config now packet = decide (now.value.toNat - packet.enqueuedAt.value.toNat ≤
      config.maxPacketAgeTicks.toNat) := by
  rw [isYoung, decide_eq_decide, UInt32.lt_iff_toNat_lt, UInt32.toNat_sub_of_le _ _ h, not_lt]

theorem deliver_onSchedule {transport : SeededTransport} {now : LogicalTick}
    (h : ∀ packet ∈ transport.queue, packet.enqueuedAt.value ≤ now.value) :
    ∃ marks, transport.OnSchedule now marks (transport.deliver now).1
      (transport.deliver now).2.queue := by
  obtain ⟨hdeliveries, hqueue⟩ := deliverEach_eq transport.config now transport.inOrder
    transport.config.bandwidthBytesPerTick transport.queuedBytes transport.metrics
  have hfst := markUnder_map_fst (fun packet : Scheduled => packet.scheduledFor.value ≤ now.value)
    (fun packet => packet.bytes.length) transport.config.bandwidthBytesPerTick
    (transport.inOrder.filter (isYoung transport.config now))
  refine ⟨_, ?_, ?_, ?_, hdeliveries, hqueue⟩
  · rw [hfst]
    refine (transport.inOrder_perm.filter _).trans (List.Perm.of_eq ?_)
    exact List.filter_congr fun packet hpacket => isYoung_iff (h packet hpacket)
  · rw [hfst]
    exact transport.inOrder_pairwise.sublist List.filter_sublist
  · intro earlier packet mark later hmarks
    exact markUnder_iff _ _ hmarks

/-! ## Scheduling -/

theorem drawDelay_bounds (transport : SeededTransport) :
    max 0 ((transport.config.baseLatencyTicks.toNat : ℤ) - transport.config.jitterTicks.toNat) ≤
        transport.drawDelay.1 ∧
      transport.drawDelay.1 ≤
        transport.config.baseLatencyTicks.toNat + transport.config.jitterTicks.toNat := by
  rw [drawDelay]
  split
  · rcases transport.random.nextU32 with ⟨draw, random⟩
    have hjitter := transport.config.jitterTicks.toNat_lt
    have hwidth : (transport.config.jitterTicks.toUInt64 * 2 + 1).toNat =
        transport.config.jitterTicks.toNat * 2 + 1 := by
      rw [UInt64.toNat_add, UInt64.toNat_mul, UInt32.toNat_toUInt64]
      simp
      omega
    have hdraw : (draw.toUInt64 % (transport.config.jitterTicks.toUInt64 * 2 + 1)).toNat <
        transport.config.jitterTicks.toNat * 2 + 1 := by
      rw [UInt64.toNat_mod, hwidth]
      exact Nat.mod_lt _ (Nat.succ_pos _)
    simp only []
    omega
  · simp only []
    omega

/-- A packet is pushed back by at most two ticks more than the jitter. -/
theorem drawReorder_bounds {transport : SeededTransport}
    (h : transport.config.jitterTicks.toNat + 2 < 2 ^ 32) :
    transport.drawReorder.1.toNat ≤ transport.config.jitterTicks.toNat + 2 := by
  have hdraws := transport.chance_draws transport.config.reorderPercent
  rw [drawReorder]
  revert hdraws
  rcases transport.chance transport.config.reorderPercent with ⟨_ | _, after⟩
  · intro hdraws
    exact Nat.zero_le _
  · intro hdraws
    have hbound : (max 2 (after.config.jitterTicks + 2)).toNat =
        transport.config.jitterTicks.toNat + 2 := by
      have hsum : (after.config.jitterTicks + 2).toNat = transport.config.jitterTicks.toNat + 2 := by
        rw [hdraws.config, UInt32.toNat_add]
        exact Nat.mod_eq_of_lt h
      change (if (2 : UInt32) ≤ after.config.jitterTicks + 2 then after.config.jitterTicks + 2
        else 2).toNat = _
      rw [if_pos, hsum]
      rw [UInt32.le_iff_toNat_le, hsum]
      exact Nat.le_add_left _ _
    have hne : max 2 (after.config.jitterTicks + 2) ≠ 0 := by
      intro hzero
      rw [hzero] at hbound
      simp at hbound
    have hlt := after.random.bounded_lt hne
    rw [UInt32.lt_iff_toNat_lt, hbound] at hlt
    simp only []
    revert hlt
    rcases after.random.bounded (max 2 (after.config.jitterTicks + 2)) with ⟨draw, random⟩
    intro hlt
    simp only [UInt32.toNat_add] at hlt ⊢
    rw [show (1 : UInt32).toNat = 1 from rfl, Nat.mod_eq_of_lt (by omega)]
    omega

/-- The scheduled tick of a packet sent now is early and late enough. -/
def Scheduled.WithinBounds (packet : Scheduled) (config : TransportConfig) (now : LogicalTick) :
    Prop :=
  now.value.toNat + (config.baseLatencyTicks.toNat - config.jitterTicks.toNat) ≤
      packet.scheduledFor.value.toNat ∧
    packet.scheduledFor.value.toNat ≤
      now.value.toNat + config.baseLatencyTicks.toNat + 2 * config.jitterTicks.toNat + 2

theorem enqueueCopy_schedule (sender receiver : Endpoint) (bytes : List UInt8) {now : LogicalTick}
    (duplicate : Bool) {transport : SeededTransport}
    (h : now.value.toNat + transport.config.baseLatencyTicks.toNat +
      2 * transport.config.jitterTicks.toNat + 2 < 2 ^ 32) :
    ∃ packet : Scheduled,
      (enqueueCopy sender receiver bytes now duplicate transport).queue =
        transport.queue ++ [packet] ∧
      (enqueueCopy sender receiver bytes now duplicate transport).config = transport.config ∧
      packet.sent = ⟨sender, receiver, bytes, now⟩ ∧
      packet.WithinBounds transport.config now := by
  have hdelay := transport.drawDelay_draws
  have hlate := transport.drawDelay_bounds
  rw [enqueueCopy]
  revert hdelay hlate
  rcases transport.drawDelay with ⟨delay, delayed⟩
  intro hdelay hlate
  have hreorder := delayed.drawReorder_draws
  have hback := delayed.drawReorder_bounds (by rw [hdelay.config]; omega)
  rw [hdelay.config] at hback
  revert hreorder hback
  simp only []
  rcases delayed.drawReorder with ⟨rank, drawn⟩
  intro hreorder hback
  have hdraws := hdelay.trans hreorder
  refine ⟨_, congrArg (· ++ _) hdraws.queue, hdraws.config, rfl, ?_⟩
  simp only [] at hlate hback
  have hscheduled : now.value.toNat + (delay + rank.toNat).toNat < 2 ^ 32 := by omega
  simp only [Scheduled.WithinBounds]
  rw [UInt32.toNat_ofNat', min_eq_left (by omega), Nat.mod_eq_of_lt hscheduled]
  omega

theorem makeRoom_sublist (packetCount byteCount rounds : ℕ) (transport : SeededTransport) :
    (makeRoom packetCount byteCount rounds transport).queue.Sublist transport.queue ∧
      (makeRoom packetCount byteCount rounds transport).config = transport.config := by
  induction rounds generalizing transport with
  | zero => exact ⟨.refl _, rfl⟩
  | succ rounds ih =>
    rw [makeRoom]
    split
    · exact ⟨.refl _, rfl⟩
    · rename_i first rest hqueue
      split
      · obtain ⟨hsublist, hconfig⟩ := ih (transport.evict (oldest first rest))
        exact ⟨hsublist.trans List.erase_sublist, hconfig⟩
      · exact ⟨.refl _, rfl⟩

theorem ensureCapacity_sublist (transport : SeededTransport) (packetCount byteCount : ℕ) :
    (transport.ensureCapacity packetCount byteCount).2.queue.Sublist transport.queue ∧
      (transport.ensureCapacity packetCount byteCount).2.config = transport.config := by
  have hroom := makeRoom_sublist packetCount byteCount transport.queue.length transport
  rw [ensureCapacity]
  split
  · exact ⟨.refl _, rfl⟩
  split
  · exact ⟨.refl _, rfl⟩
  simp only []
  split
  · exact hroom
  · exact hroom

/-- What is left of the queue once there is room for the copies of a packet, or none. -/
theorem Chooses.capacity_sublist {transport chosen after : SeededTransport} {duplicate : Bool}
    {packetCount byteCount : ℕ} {result : Result Unit} (h : transport.Chooses duplicate chosen)
    (hcapacity : chosen.ensureCapacity packetCount byteCount = (result, after)) :
    after.queue.Sublist transport.queue ∧ after.config = transport.config := by
  have hkept := chosen.ensureCapacity_sublist packetCount byteCount
  rw [hcapacity, h.draws.queue, h.draws.config] at hkept
  exact hkept

/-- A send that succeeds keeps some of the queue and adds copies of its packet whose
scheduled ticks are within bounds. -/
theorem send_schedule {transport after : SeededTransport} {sender receiver : Endpoint}
    {bytes : List UInt8} {now : LogicalTick}
    (h : now.value.toNat + transport.config.baseLatencyTicks.toNat +
      2 * transport.config.jitterTicks.toNat + 2 < 2 ^ 32)
    (hsend : transport.send sender receiver bytes now = (.ok (), after)) :
    ∃ kept copies, after.queue = kept ++ copies ∧ kept.Sublist transport.queue ∧
      ∀ packet ∈ copies, packet.sent = ⟨sender, receiver, bytes, now⟩ ∧
        packet.WithinBounds transport.config now := by
  obtain ⟨hconfig, hqueue, -⟩ := transport.countSent_queue
  cases sends hsend with
  | @lost drawn _ _ hdraws =>
    refine ⟨drawn.countLoss.queue, [], (List.append_nil _).symm, ?_, fun packet hpacket => by cases hpacket⟩
    rw [(countLoss_queue _).queue, hdraws.queue, hqueue]
  | @queued chosen ready _ hchosen hcapacity =>
    obtain ⟨hkept, hready⟩ := hchosen.capacity_sublist hcapacity
    rw [← hready] at h ⊢
    obtain ⟨first, hfirst, -, hsent, hbounds⟩ :=
      enqueueCopy_schedule sender receiver bytes false h
    refine ⟨ready.queue, [first], hfirst, hkept, fun packet hpacket => ?_⟩
    rw [List.mem_singleton.1 hpacket]
    exact ⟨hsent, hbounds⟩
  | @doubled chosen ready _ hchosen hcapacity =>
    obtain ⟨hkept, hready⟩ := hchosen.capacity_sublist hcapacity
    rw [← hready] at h ⊢
    obtain ⟨first, hfirst, hsame, hsent, hbounds⟩ :=
      enqueueCopy_schedule sender receiver bytes false h
    rw [← hsame] at h
    obtain ⟨second, hsecond, -, hsent', hbounds'⟩ :=
      enqueueCopy_schedule sender receiver bytes true h
    rw [hsame] at hbounds'
    refine ⟨ready.queue, [first, second], ?_, hkept, fun packet hpacket => ?_⟩
    · rw [(countDuplicate_queue _).queue, hsecond, hfirst, List.append_assoc]
      rfl
    · rcases List.mem_cons.1 hpacket with rfl | hpacket
      · exact ⟨hsent, hbounds⟩
      · rw [List.mem_singleton.1 hpacket]
        exact ⟨hsent', hbounds'⟩

theorem ensureCapacity_error {transport after : SeededTransport} {packetCount byteCount : ℕ}
    {error : Error} (h : transport.ensureCapacity packetCount byteCount = (.error error, after)) :
    error.code = .queueOverflow := by
  rw [ensureCapacity] at h
  split at h
  · cases h
  split at h
  · cases h
    rfl
  dsimp only at h
  split at h
  · cases h
    rfl
  · cases h

/-- A packet that is not too long is refused for the percentages or for want of room. -/
theorem send_error {transport after : SeededTransport} {sender receiver : Endpoint}
    {bytes : List UInt8} {now : LogicalTick} {error : Error} (hbytes : bytes.length ≤ kMaxPacketBytes)
    (hsend : transport.send sender receiver bytes now = (.error error, after)) :
    error.code = .invalidArgument ∨ error.code = .queueOverflow := by
  cases sends hsend with
  | tooLong hlength => exact absurd hbytes (Nat.not_le.2 hlength)
  | badPercent => exact Or.inl rfl
  | full _ _ hcapacity => exact Or.inr (ensureCapacity_error hcapacity)

/-! ## What is in the queue -/

/-- Everything that waits was sent with this property. -/
def Carries (Q : Sent → Prop) (transport : SeededTransport) : Prop :=
  ∀ packet ∈ transport.queue, Q packet.sent

namespace Carries

variable {Q : Sent → Prop} {transport after : SeededTransport}

theorem of_sublist (h : transport.Carries Q) (hqueue : after.queue.Sublist transport.queue) :
    after.Carries Q :=
  fun packet hpacket => h packet (hqueue.subset hpacket)

theorem of_queue (h : transport.Carries Q) (hqueue : after.queue = transport.queue) :
    after.Carries Q :=
  h.of_sublist (hqueue ▸ .refl _)

theorem enqueueCopy (h : transport.Carries Q) {sender receiver : Endpoint} {bytes : List UInt8}
    {now : LogicalTick} (hnew : Q ⟨sender, receiver, bytes, now⟩) (duplicate : Bool) :
    (transport.enqueueCopy sender receiver bytes now duplicate).Carries Q := by
  obtain ⟨drawn, packet, hdraws, hsent, -, heq⟩ :=
    enqueueCopy_spec sender receiver bytes now duplicate transport
  rw [heq]
  intro other hother
  rcases List.mem_append.1 hother with hother | hother
  · rw [hdraws.queue] at hother
    exact h other hother
  · rw [List.mem_singleton.1 hother, hsent]
    exact hnew

/-- A send puts copies of its packet into the queue at most, whether it fails or not. -/
theorem send (h : transport.Carries Q) {sender receiver : Endpoint} {bytes : List UInt8}
    {now : LogicalTick} (hnew : Q ⟨sender, receiver, bytes, now⟩) :
    (transport.send sender receiver bytes now).2.Carries Q := by
  have hcounted := h.of_queue transport.countSent_queue.queue
  rcases hsend : transport.send sender receiver bytes now with ⟨result, after⟩
  cases sends hsend with
  | tooLong => exact hcounted
  | badPercent => exact hcounted
  | lost _ _ hdraws => exact hcounted.of_queue ((countLoss_queue _).queue.trans hdraws.queue)
  | full _ hchosen hcapacity => exact h.of_sublist (hchosen.capacity_sublist hcapacity).1
  | queued _ hchosen hcapacity =>
    exact (h.of_sublist (hchosen.capacity_sublist hcapacity).1).enqueueCopy hnew false
  | doubled _ hchosen hcapacity =>
    have hready := h.of_sublist (hchosen.capacity_sublist hcapacity).1
    exact ((hready.enqueueCopy hnew false).enqueueCopy hnew true).of_queue (countDuplicate_queue _).queue

theorem deliver (h : transport.Carries Q) (now : LogicalTick) :
    (∀ delivery ∈ (transport.deliver now).1, Q delivery.sent) ∧ (transport.deliver now).2.Carries Q := by
  obtain ⟨hdeliveries, hqueue⟩ := deliverEach_eq transport.config now transport.inOrder
    transport.config.bandwidthBytesPerTick transport.queuedBytes transport.metrics
  have hmarks : ∀ mark ∈ markUnder (fun packet : Scheduled => packet.scheduledFor.value ≤ now.value)
      (fun packet => packet.bytes.length) transport.config.bandwidthBytesPerTick
      (transport.inOrder.filter (isYoung transport.config now)), Q mark.1.sent := by
    intro mark hmark
    have hmem := List.mem_map_of_mem (f := Prod.fst) hmark
    rw [markUnder_map_fst] at hmem
    exact h _ (transport.inOrder_perm.subset (List.mem_of_mem_filter hmem))
  constructor
  · intro delivery hdelivery
    change delivery ∈ (deliverEach transport.config now transport.inOrder _ _ _).deliveries at hdelivery
    rw [hdeliveries] at hdelivery
    obtain ⟨packet, hpacket, rfl⟩ := List.mem_map.1 hdelivery
    obtain ⟨mark, hmark, rfl⟩ := List.mem_map.1 hpacket
    exact hmarks mark (List.mem_of_mem_filter hmark)
  · intro packet hpacket
    change packet ∈ (deliverEach transport.config now transport.inOrder _ _ _).queue at hpacket
    rw [hqueue] at hpacket
    obtain ⟨mark, hmark, rfl⟩ := List.mem_map.1 hpacket
    exact hmarks mark (List.mem_of_mem_filter hmark)

end Carries

end SeededTransport

/-! ## Runs -/

def TransportCall.now : TransportCall → LogicalTick
  | .send _ _ _ now => now
  | .deliver now => now

namespace TransportRun

open SeededTransport

/-- The ticks of the calls do not decrease, and none is after the given one. -/
def Timely (calls : List TransportCall) (now : LogicalTick) : Prop :=
  (calls.map TransportCall.now ++ [now]).Pairwise fun earlier later => earlier.value ≤ later.value

/-- What was sent was sent by one of the calls. -/
theorem exists_call {config : TransportConfig} {calls : List TransportCall} {sent : Sent}
    (h : sent ∈ (TransportRun.calls config calls).sends) : ∃ c ∈ calls, c.now = sent.now := by
  induction calls using List.reverseRecOn with
  | nil =>
    rw [TransportRun.calls, List.foldl_nil, start] at h
    exact absurd h List.not_mem_nil
  | append_singleton calls c ih =>
    rw [calls_concat] at h
    revert h ih
    generalize TransportRun.calls config calls = run
    intro ih hcall
    cases c with
    | send sender receiver bytes now =>
      rw [TransportRun.call] at hcall
      revert hcall
      rcases run.transport.send sender receiver bytes now with ⟨e | _, transport⟩
      · intro hcall
        obtain ⟨c, hc, hnow⟩ := ih hcall
        exact ⟨c, List.mem_append_left _ hc, hnow⟩
      · intro hcall
        rcases List.mem_append.1 hcall with hold | hnew
        · obtain ⟨c, hc, hnow⟩ := ih hold
          exact ⟨c, List.mem_append_left _ hc, hnow⟩
        · rw [List.mem_singleton] at hnew
          exact ⟨_, List.mem_append_right _ (List.mem_singleton_self _), by rw [hnew]; rfl⟩
    | deliver now =>
      obtain ⟨c, hc, hnow⟩ := ih hcall
      exact ⟨c, List.mem_append_left _ hc, hnow⟩

/-- With ticks in order, no queued packet is from the future. -/
theorem Timely.enqueuedAt_le {config : TransportConfig} {calls : List TransportCall}
    {now : LogicalTick} (h : Timely calls now) :
    ∀ packet ∈ (TransportRun.calls config calls).transport.queue,
      packet.enqueuedAt.value ≤ now.value := by
  intro packet hpacket
  obtain ⟨made, -, hbooks, -, -⟩ := calls_books config calls
  have hqueued : 0 < ((TransportRun.calls config calls).transport.queue.map Scheduled.sent).count
      packet.sent := List.count_pos_iff.2 (List.mem_map_of_mem hpacket)
  have horigin := hbooks.origin packet.sent
  have hsent : packet.sent ∈ (TransportRun.calls config calls).sends :=
    List.count_pos_iff.1 (by omega)
  obtain ⟨c, hc, hnow⟩ := exists_call hsent
  have hle := (List.pairwise_append.1 h).2.2 c.now (List.mem_map_of_mem hc) now
    (List.mem_singleton_self _)
  rw [hnow] at hle
  exact hle

/-- While ordinals do not repeat, no two packets have the same place in the order. -/
theorem keys_nodup {config : TransportConfig} {calls : List TransportCall}
    (hsmall : (TransportRun.calls config calls).sends.length ≤ 2 ^ 63) :
    ((TransportRun.calls config calls).transport.queue.map Scheduled.key).Nodup := by
  obtain ⟨made, hmade, hbooks, -, -⟩ := calls_books config calls
  have hnodup := (List.nodup_append.1 (hbooks.fresh (by omega)).1).1
  refine List.Nodup.of_map (fun key => UInt64.ofNat (ofLex (ofLex key).2).2) ?_
  rw [List.map_map]
  convert hnodup using 2
  funext packet
  simp [Scheduled.key]

/-- Deliveries follow the schedule, and a send schedules its copies close to its tick. -/
theorem delivery_follows_schedule (config : TransportConfig) (calls : List TransportCall) :
    let run := TransportRun.calls config calls
    (∀ now, Timely calls now →
      ∃ marks, run.transport.OnSchedule now marks (run.transport.deliver now).1
          (run.transport.deliver now).2.queue ∧
        (run.sends.length ≤ 2 ^ 63 →
          (marks.map Prod.fst).Pairwise fun left right => left.key < right.key)) ∧
    ∀ sender receiver bytes now after,
      run.transport.send sender receiver bytes now = (.ok (), after) →
      now.value.toNat + config.baseLatencyTicks.toNat + 2 * config.jitterTicks.toNat + 2 < 2 ^ 32 →
      ∃ kept copies, after.queue = kept ++ copies ∧ kept.Sublist run.transport.queue ∧
        ∀ packet ∈ copies, packet.sent = ⟨sender, receiver, bytes, now⟩ ∧
          packet.WithinBounds config now := by
  intro run
  constructor
  · intro now htimely
    obtain ⟨marks, hschedule⟩ := deliver_onSchedule (htimely.enqueuedAt_le : ∀ packet ∈ run.transport.queue, _)
    refine ⟨marks, hschedule, fun hsmall => ?_⟩
    have hkeys := (hschedule.young.map Scheduled.key).nodup_iff.2
      ((keys_nodup hsmall).sublist (List.filter_sublist.map _))
    exact (hschedule.ordered.and (List.pairwise_map.1 hkeys)).imp fun h => lt_of_le_of_ne h.1 h.2
  · intro sender receiver bytes now after hsend hbound
    obtain ⟨-, -, -, hconfig, -⟩ := calls_books config calls
    have hschedule := send_schedule (by rwa [hconfig]) hsend
    rwa [hconfig] at hschedule

/-- Bandwidth for one packet of three bytes at a time. -/
def crowdedConfig : TransportConfig :=
  { baseLatencyTicks := 2, jitterTicks := 1, bandwidthBytesPerTick := 4 }

def crowdedCalls : List TransportCall := [.send .a .b [1, 2, 3] ⟨0⟩, .send .a .b [4, 5, 6] ⟨1⟩]

theorem delivery_follows_schedule_crowded :
    (∃ marks, (TransportRun.calls crowdedConfig crowdedCalls).transport.OnSchedule ⟨9⟩ marks
        ((TransportRun.calls crowdedConfig crowdedCalls).transport.deliver ⟨9⟩).1
        ((TransportRun.calls crowdedConfig crowdedCalls).transport.deliver ⟨9⟩).2.queue ∧
      (marks.map Prod.fst).Pairwise fun left right => left.key < right.key) ∧
    ∃ kept copies,
      ((TransportRun.calls crowdedConfig crowdedCalls).transport.send .a .b [7] ⟨2⟩).2.queue =
        kept ++ copies ∧
      kept.Sublist (TransportRun.calls crowdedConfig crowdedCalls).transport.queue ∧
      ∀ packet ∈ copies, packet.sent = ⟨.a, .b, [7], ⟨2⟩⟩ ∧
        packet.WithinBounds crowdedConfig ⟨2⟩ := by
  obtain ⟨hdeliver, hsend⟩ := delivery_follows_schedule crowdedConfig crowdedCalls
  constructor
  · obtain ⟨marks, hschedule, hstrict⟩ := hdeliver ⟨9⟩ (by unfold Timely; decide)
    exact ⟨marks, hschedule, hstrict (by decide)⟩
  · exact hsend .a .b [7] ⟨2⟩ _ rfl (by decide)

end TransportRun

end RollbackLab
