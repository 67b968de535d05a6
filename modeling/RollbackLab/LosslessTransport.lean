import RollbackLab.DeliverySchedule
import Mathlib.Algebra.BigOperators.Group.Finset.Basic
import Mathlib.Algebra.Order.BigOperators.Group.Finset
import Mathlib.Order.Interval.Finset.Nat

/-!
# A transport that loses nothing

Without loss, and with room for everything that can be under way at once, a packet is
queued until its tick has come and is handed out then. This tick lies between the shortest
and the longest delay of the configuration.
-/

namespace RollbackLab

section Budget

variable {α : Type*} {due : α → Prop} [DecidablePred due] {size : α → ℕ}

/-- If everything due fits into the budget, all of it is taken. -/
theorem markUnder_of_fits {budget : ℕ} {list : List α}
    (h : ((list.filter fun a => due a).map size).sum ≤ budget) :
    markUnder due size budget list = list.map fun a => (a, decide (due a)) := by
  induction list generalizing budget with
  | nil => rfl
  | cons a rest ih =>
    rw [markUnder, List.map_cons]
    by_cases hdue : due a
    · rw [List.filter_cons_of_pos (by simpa using hdue), List.map_cons, List.sum_cons] at h
      rw [if_pos ⟨hdue, by omega⟩, ih (by omega), decide_eq_true hdue]
    · rw [List.filter_cons_of_neg (by simpa using hdue)] at h
      rw [if_neg (fun hboth => hdue hboth.1), ih h, decide_eq_false hdue]

theorem taken_map (list : List α) :
    taken (list.map fun a => (a, decide (due a))) = list.filter fun a => due a := by
  induction list with
  | nil => rfl
  | cons a rest ih =>
    rw [taken] at ih ⊢
    by_cases hdue : due a
    · rw [List.map_cons, List.filter_cons_of_pos (by simpa using hdue), List.map_cons, ih,
        List.filter_cons_of_pos (by simpa using hdue)]
    · rw [List.map_cons, List.filter_cons_of_neg (by simpa using hdue), ih,
        List.filter_cons_of_neg (by simpa using hdue)]

theorem passedOver_map (list : List α) :
    passedOver (list.map fun a => (a, decide (due a))) = list.filter fun a => ¬due a := by
  induction list with
  | nil => rfl
  | cons a rest ih =>
    rw [passedOver] at ih ⊢
    by_cases hdue : due a
    · rw [List.map_cons, List.filter_cons_of_neg (by simpa using hdue), ih,
        List.filter_cons_of_neg (by simpa using hdue)]
    · rw [List.map_cons, List.filter_cons_of_pos (by simpa using hdue), List.map_cons, ih,
        List.filter_cons_of_pos (by simpa using hdue)]

/-- Keys from an interval, none of them too often, are not too many. -/
theorem length_le_of_count {keys : List ℕ} {first last times : ℕ}
    (hrange : ∀ key ∈ keys, first ≤ key ∧ key < last) (hcount : ∀ key, keys.count key ≤ times) :
    keys.length ≤ (last - first) * times := by
  have hsub : keys.toFinset ⊆ Finset.Ico first last := fun key hkey =>
    Finset.mem_Ico.2 (hrange key (List.mem_toFinset.1 hkey))
  have hcard := Finset.card_le_card hsub
  rw [Nat.card_Ico] at hcard
  calc keys.length = ∑ key ∈ keys.toFinset, keys.count key := (List.sum_toFinset_count_eq_length keys).symm
    _ ≤ ∑ _key ∈ keys.toFinset, times := Finset.sum_le_sum fun key _ => hcount key
    _ = keys.toFinset.card * times := by rw [Finset.sum_const, smul_eq_mul]
    _ ≤ (last - first) * times := Nat.mul_le_mul_right _ hcard

end Budget

namespace TransportConfig

/-- How many copies of a packet a send makes at most. -/
def copies (config : TransportConfig) : ℕ := if config.duplicatePercent = 0 then 1 else 2

def shortestDelay (config : TransportConfig) : ℕ :=
  config.baseLatencyTicks.toNat - config.jitterTicks.toNat

def longestDelay (config : TransportConfig) : ℕ :=
  config.baseLatencyTicks.toNat + config.jitterTicks.toNat +
    if config.reorderPercent = 0 then 0 else config.jitterTicks.toNat + 2

/-- Nothing is lost, and everything that two peers send has room. -/
structure Lossless (config : TransportConfig) : Prop where
  loss : config.lossPercent = 0
  burst : config.burstLossPercent = 0
  reorder : config.reorderPercent ≤ 100
  duplicate : config.duplicatePercent ≤ 100
  packets : 2 * config.copies * (config.longestDelay + 1) ≤ config.maxQueuePackets
  bytes : 2 * config.copies * (config.longestDelay + 1) * kMaxPacketBytes ≤ config.maxQueueBytes
  bandwidth : 2 * config.copies * (config.longestDelay + 1 - config.shortestDelay) * kMaxPacketBytes ≤
    config.bandwidthBytesPerTick
  age : config.longestDelay ≤ config.maxPacketAgeTicks.toNat

theorem copies_pos (config : TransportConfig) : 0 < config.copies := by
  rw [copies]
  split <;> decide

theorem shortestDelay_le (config : TransportConfig) : config.shortestDelay ≤ config.longestDelay := by
  rw [shortestDelay, longestDelay]
  omega

end TransportConfig

namespace SeededTransport

/-! ## Draws -/

theorem chance_burst (transport : SeededTransport) (percent : UInt32) :
    (transport.chance percent).2.burstRemaining = transport.burstRemaining := by
  rw [chance]
  split
  · rfl
  · rcases transport.random.bounded 100 with ⟨draw, random⟩
    rfl

theorem drawDelay_burst (transport : SeededTransport) :
    transport.drawDelay.2.burstRemaining = transport.burstRemaining := by
  rw [drawDelay]
  split
  · rcases transport.random.nextU32 with ⟨draw, random⟩
    rfl
  · rfl

theorem drawReorder_burst (transport : SeededTransport) :
    transport.drawReorder.2.burstRemaining = transport.burstRemaining := by
  have hchance := transport.chance_burst transport.config.reorderPercent
  rw [drawReorder]
  rcases hcall : transport.chance transport.config.reorderPercent with ⟨_ | _, after⟩
  · rw [hcall] at hchance
    exact hchance
  · rw [hcall] at hchance
    dsimp only at hchance ⊢
    rcases after.random.bounded (max 2 (after.config.jitterTicks + 2)) with ⟨draw, random⟩
    exact hchance

theorem drawReorder_none {transport : SeededTransport} (h : transport.config.reorderPercent = 0) :
    transport.drawReorder.1 = 0 := by
  rw [drawReorder, chance, if_pos h]

/-- Without loss nothing is drawn for it. -/
theorem drawLoss_none {transport : SeededTransport} (hloss : transport.config.lossPercent = 0)
    (hburst : transport.config.burstLossPercent = 0) (hremaining : transport.burstRemaining = 0) :
    transport.drawLoss = (false, transport) := by
  rw [drawLoss, hremaining, if_neg (by decide), chance, if_pos hburst]
  dsimp only
  rw [chance, if_pos hloss]

/-! ## What is under way -/

/-- The tick a packet was sent in. -/
def Scheduled.tick (packet : Scheduled) : ℕ := packet.enqueuedAt.value.toNat

/-- A packet that is under way in a tick. -/
structure Scheduled.UnderWay (packet : Scheduled) (config : TransportConfig) (t : ℕ) : Prop where
  short : packet.bytes.length ≤ kMaxPacketBytes
  sent : packet.tick ≤ t
  due : t ≤ packet.scheduledFor.value.toNat
  early : packet.tick + config.shortestDelay ≤ packet.scheduledFor.value.toNat
  late : packet.scheduledFor.value.toNat ≤ packet.tick + config.longestDelay

/-- The queue of a transport that loses nothing, in a tick in which at most `now` packets
have been sent so far. -/
structure Flows (transport : SeededTransport) (config : TransportConfig) (t now : ℕ) : Prop where
  config_eq : transport.config = config
  burst : transport.burstRemaining = 0
  bytes_eq : transport.queuedBytes = (transport.queue.map fun packet => packet.bytes.length).sum
  underWay : ∀ packet ∈ transport.queue, packet.UnderWay config t
  count : ∀ s, (transport.queue.map Scheduled.tick).count s ≤ 2 * config.copies
  count_now : (transport.queue.map Scheduled.tick).count t ≤ now

theorem Flows.create (config : TransportConfig) : (create config).Flows config 0 0 :=
  ⟨rfl, rfl, rfl, fun _ hpacket => absurd hpacket List.not_mem_nil, fun _ => Nat.zero_le _, le_rfl⟩

section Flow

variable {config : TransportConfig} {transport : SeededTransport} {t now : ℕ}
  {sender receiver : Endpoint} {bytes : List UInt8} {tick : LogicalTick}

theorem enqueueCopy_underWay (duplicate : Bool) (hconfig : transport.config = config)
    (hbytes : bytes.length ≤ kMaxPacketBytes) (htick : tick.value.toNat = t)
    (hsmall : t + config.longestDelay < 2 ^ 32) (hjitter : config.jitterTicks.toNat + 2 < 2 ^ 32) :
    ∃ packet : Scheduled,
      (enqueueCopy sender receiver bytes tick duplicate transport).queue =
        transport.queue ++ [packet] ∧
      (enqueueCopy sender receiver bytes tick duplicate transport).config = transport.config ∧
      (enqueueCopy sender receiver bytes tick duplicate transport).burstRemaining =
        transport.burstRemaining ∧
      (enqueueCopy sender receiver bytes tick duplicate transport).queuedBytes =
        transport.queuedBytes + packet.bytes.length ∧
      packet.sent = ⟨sender, receiver, bytes, tick⟩ ∧ packet.UnderWay config t := by
  subst hconfig
  have hdelay := transport.drawDelay_draws
  have hlate := transport.drawDelay_bounds
  have hburst := transport.drawDelay_burst
  rw [enqueueCopy]
  revert hdelay hlate hburst
  rcases transport.drawDelay with ⟨delay, delayed⟩
  intro hdelay hlate hburst
  have hreorder := delayed.drawReorder_draws
  have hburst' := delayed.drawReorder_burst
  have hback := @drawReorder_bounds delayed (by rw [hdelay.config]; exact hjitter)
  have hnone := @drawReorder_none delayed
  rw [hdelay.config] at hback hnone
  revert hreorder hburst' hback hnone
  simp only []
  rcases delayed.drawReorder with ⟨rank, drawn⟩
  intro hreorder hburst' hback hnone
  have hdraws := hdelay.trans hreorder
  simp only [] at hlate hback hnone
  have hrank : delay + rank.toNat ≤ transport.config.longestDelay := by
    rw [TransportConfig.longestDelay]
    split
    next hzero =>
      rw [hnone hzero, UInt32.toNat_zero]
      omega
    · omega
  have hearly : transport.config.shortestDelay ≤ delay + rank.toNat := by
    rw [TransportConfig.shortestDelay]
    omega
  have hscheduled : tick.value.toNat + (delay + rank.toNat).toNat < 2 ^ 32 := by omega
  have hvalue : (UInt32.ofNat (min (tick.value.toNat + (delay + rank.toNat).toNat) 0xFFFFFFFF)).toNat =
      tick.value.toNat + (delay + rank.toNat).toNat := by
    rw [UInt32.toNat_ofNat', min_eq_left (by omega), Nat.mod_eq_of_lt hscheduled]
  refine ⟨_, congrArg (· ++ _) hdraws.queue, hdraws.config, hburst'.trans hburst,
    congrArg (· + _) hdraws.queuedBytes, rfl, hbytes, htick.le, ?_, ?_, ?_⟩
  · rw [hvalue]
    omega
  · rw [hvalue, Scheduled.tick]
    dsimp only
    omega
  · rw [hvalue, Scheduled.tick]
    dsimp only
    omega

/-- A copy joins what is under way. -/
theorem Flows.enqueueCopy (h : transport.Flows config t now) (duplicate : Bool)
    (hroom : now + 1 ≤ 2 * config.copies) (hbytes : bytes.length ≤ kMaxPacketBytes)
    (htick : tick.value.toNat = t) (hsmall : t + config.longestDelay < 2 ^ 32)
    (hjitter : config.jitterTicks.toNat + 2 < 2 ^ 32) :
    ∃ packet : Scheduled,
      (enqueueCopy sender receiver bytes tick duplicate transport).queue =
        transport.queue ++ [packet] ∧ packet.sent = ⟨sender, receiver, bytes, tick⟩ ∧
      (enqueueCopy sender receiver bytes tick duplicate transport).Flows config t (now + 1) := by
  obtain ⟨packet, hqueue, hconfig, hburst, hqueued, hsent, hunder⟩ :=
    @enqueueCopy_underWay config transport t sender receiver bytes tick duplicate h.config_eq hbytes
      htick hsmall hjitter
  have hpacket : packet.tick = t := by
    rw [Scheduled.tick, show packet.enqueuedAt = tick from congrArg Sent.now hsent, htick]
  refine ⟨packet, hqueue, hsent, hconfig.trans h.config_eq, hburst.trans h.burst, ?_, ?_, ?_, ?_⟩
  · rw [hqueue, hqueued, h.bytes_eq, List.map_append, List.sum_append, List.map_singleton,
      List.sum_singleton]
  · rw [hqueue]
    intro other hother
    rcases List.mem_append.1 hother with hold | hnew
    · exact h.underWay other hold
    · rw [List.mem_singleton.1 hnew]
      exact hunder
  · intro s
    have hcount := h.count s
    have hnow := h.count_now
    rw [hqueue, List.map_append, List.map_singleton, List.count_append, hpacket]
    rcases eq_or_ne s t with rfl | hne
    · rw [List.count_singleton_self]
      omega
    · rw [List.count_singleton, if_neg (by simpa using hne.symm)]
      omega
  · have hnow := h.count_now
    rw [hqueue, List.map_append, List.map_singleton, List.count_append, hpacket,
      List.count_singleton_self]
    omega

/-! ## Sending -/

theorem Flows.draws {after : SeededTransport} (h : transport.Flows config t now)
    (hdraws : transport.Draws after) (hburst : after.burstRemaining = transport.burstRemaining) :
    after.Flows config t now := by
  refine ⟨hdraws.config.trans h.config_eq, hburst.trans h.burst, ?_, ?_, ?_, ?_⟩
  · rw [hdraws.queuedBytes, hdraws.queue, h.bytes_eq]
  · rw [hdraws.queue]
    exact h.underWay
  · rw [hdraws.queue]
    exact h.count
  · rw [hdraws.queue]
    exact h.count_now

theorem Flows.mono {later : ℕ} (h : transport.Flows config t now) (hle : now ≤ later) :
    transport.Flows config t later :=
  ⟨h.config_eq, h.burst, h.bytes_eq, h.underWay, h.count, h.count_now.trans hle⟩

/-- There is room for some more copies in this tick. -/
theorem Flows.length_le (h : transport.Flows config t now) {more : ℕ}
    (hroom : now + more ≤ 2 * config.copies) :
    transport.queue.length + more ≤ 2 * config.copies * (config.longestDelay + 1) := by
  have hkeys := @length_le_of_count
    (transport.queue.map Scheduled.tick ++ List.replicate more t) (t - config.longestDelay) (t + 1)
    (2 * config.copies) (fun key hkey => ?_) fun key => ?_
  · rw [List.length_append, List.length_map, List.length_replicate] at hkeys
    calc transport.queue.length + more ≤ (t + 1 - (t - config.longestDelay)) * (2 * config.copies) := hkeys
      _ ≤ (config.longestDelay + 1) * (2 * config.copies) := Nat.mul_le_mul_right _ (by omega)
      _ = 2 * config.copies * (config.longestDelay + 1) := Nat.mul_comm _ _
  · rcases List.mem_append.1 hkey with hqueued | hnew
    · obtain ⟨packet, hpacket, rfl⟩ := List.mem_map.1 hqueued
      have hunder := h.underWay packet hpacket
      have hsent := hunder.sent
      have hdue := hunder.due
      have hlate := hunder.late
      omega
    · have hkey := List.eq_of_mem_replicate hnew
      omega
  · have hcount := h.count key
    have hnow := h.count_now
    rw [List.count_append, List.count_replicate]
    split
    next heq =>
      rw [beq_iff_eq] at heq
      subst heq
      omega
    · omega

theorem Flows.bytes_le (h : transport.Flows config t now) :
    transport.queuedBytes ≤ transport.queue.length * kMaxPacketBytes := by
  rw [h.bytes_eq, ← List.length_map (f := fun packet : Scheduled => packet.bytes.length),
    ← smul_eq_mul]
  refine List.sum_le_card_nsmul _ _ fun size hsize => ?_
  obtain ⟨packet, hpacket, rfl⟩ := List.mem_map.1 hsize
  exact (h.underWay packet hpacket).short

/-- There is room for the copies of a packet. -/
theorem Flows.ensureCapacity (h : transport.Flows config t now) (hlossless : config.Lossless) {more : ℕ}
    (hroom : now + more ≤ 2 * config.copies) (hbytes : bytes.length ≤ kMaxPacketBytes) :
    transport.ensureCapacity more (bytes.length * more) = (.ok (), transport) := by
  have hlength := h.length_le hroom
  have hpackets := hlossless.packets
  have hexceeds : transport.exceeds more (bytes.length * more) = false := by
    rw [exceeds, h.config_eq, Bool.or_eq_false_iff, decide_eq_false_iff_not, decide_eq_false_iff_not]
    refine ⟨by omega, Nat.not_lt.2 ?_⟩
    calc transport.queuedBytes + bytes.length * more
        ≤ transport.queue.length * kMaxPacketBytes + kMaxPacketBytes * more :=
          Nat.add_le_add h.bytes_le (Nat.mul_le_mul_right _ hbytes)
      _ = (transport.queue.length + more) * kMaxPacketBytes := by
          rw [Nat.add_mul, Nat.mul_comm kMaxPacketBytes more]
      _ ≤ 2 * config.copies * (config.longestDelay + 1) * kMaxPacketBytes := Nat.mul_le_mul_right _ hlength
      _ ≤ config.maxQueueBytes := hlossless.bytes
  rw [SeededTransport.ensureCapacity, hexceeds]
  rfl

theorem Flows.countDuplicate (h : transport.Flows config t now) :
    transport.countDuplicate.Flows config t now :=
  ⟨h.config_eq, h.burst, h.bytes_eq, h.underWay, h.count, h.count_now⟩

theorem Flows.drawLoss (h : transport.Flows config t now) (hlossless : config.Lossless) :
    transport.countSent.drawLoss = (false, transport.countSent) := by
  have hconfig : transport.countSent.config = config := h.config_eq
  exact drawLoss_none (by rw [hconfig, hlossless.loss]) (by rw [hconfig, hlossless.burst]) h.burst

/-- The draws of a send ask for no more copies than the configuration admits. -/
theorem Flows.chosen (h : transport.Flows config t now) (hlossless : config.Lossless) {duplicate : Bool}
    {chosen : SeededTransport} (hchosen : transport.Chooses duplicate chosen) :
    chosen.Flows config t now ∧ chosen.queue = transport.queue ∧
      (if duplicate = true then 2 else 1) ≤ config.copies := by
  have hcounted : transport.countSent.Flows config t now :=
    ⟨h.config_eq, h.burst, h.bytes_eq, h.underWay, h.count, h.count_now⟩
  obtain ⟨drawn, hloss, hchance⟩ := hchosen.drawn
  rw [h.drawLoss hlossless] at hloss
  cases hloss
  have hburst := transport.countSent.chance_burst transport.countSent.config.duplicatePercent
  rw [hchance] at hburst
  refine ⟨hcounted.draws hchosen.draws hburst, hchosen.draws.queue, ?_⟩
  rw [TransportConfig.copies]
  split
  next hduplicate =>
    subst hduplicate
    rw [if_neg]
    intro hzero
    rw [chance, if_pos (by rw [hcounted.config_eq, hzero])] at hchance
    cases hchance
  · exact config.copies_pos

/-- A packet is sent, in one copy or two. -/
theorem Flows.send (h : transport.Flows config t now) (hlossless : config.Lossless)
    (hroom : now + config.copies ≤ 2 * config.copies) (hbytes : bytes.length ≤ kMaxPacketBytes)
    (htick : tick.value.toNat = t) (hsmall : t + config.longestDelay + 2 < 2 ^ 32) :
    ∃ added after, transport.send sender receiver bytes tick = (.ok (), after) ∧
      after.queue = transport.queue ++ added ∧ added ≠ [] ∧
      (∀ packet ∈ added, packet.sent = ⟨sender, receiver, bytes, tick⟩) ∧
      after.Flows config t (now + config.copies) := by
  have hjitter : config.jitterTicks.toNat + 2 < 2 ^ 32 := by
    rw [TransportConfig.longestDelay] at hsmall
    omega
  rcases hsend : transport.send sender receiver bytes tick with ⟨result, after⟩
  cases sends hsend with
  | tooLong hlength => exact absurd hbytes (Nat.not_le.2 hlength)
  | badPercent hpercents =>
    have hvalid : percentsInvalid transport.config = false := by
      rw [percentsInvalid, h.config_eq, hlossless.loss, hlossless.burst]
      simp [hlossless.reorder, hlossless.duplicate]
    cases hvalid.symm.trans hpercents
  | lost _ hloss =>
    rw [h.drawLoss hlossless] at hloss
    cases hloss
  | @full duplicate chosen _ _ _ hchosen hcapacity =>
    obtain ⟨hflows, -, hcopies⟩ := h.chosen hlossless hchosen
    rw [hflows.ensureCapacity hlossless (by omega) hbytes] at hcapacity
    cases hcapacity
  | @queued chosen _ _ hchosen hcapacity =>
    obtain ⟨hdrawn, hqueue, hcopies⟩ := h.chosen hlossless hchosen
    rw [if_neg Bool.false_ne_true] at hcopies
    rw [hdrawn.ensureCapacity hlossless (by omega) hbytes] at hcapacity
    cases hcapacity
    obtain ⟨packet, hfirst, hsent, hflows⟩ := @Flows.enqueueCopy config chosen t now sender receiver
      bytes tick hdrawn false (by omega) hbytes htick (by omega) hjitter
    refine ⟨[packet], _, rfl, by rw [hfirst, hqueue], List.cons_ne_nil _ _, fun other hother => ?_,
      hflows.mono (by omega)⟩
    rw [List.mem_singleton.1 hother, hsent]
  | @doubled chosen _ _ hchosen hcapacity =>
    obtain ⟨hdrawn, hqueue, hcopies⟩ := h.chosen hlossless hchosen
    rw [if_pos rfl] at hcopies
    rw [hdrawn.ensureCapacity hlossless (by omega) hbytes] at hcapacity
    cases hcapacity
    obtain ⟨first, hfirst, hsentFirst, hflows⟩ := @Flows.enqueueCopy config chosen t now sender
      receiver bytes tick hdrawn false (by omega) hbytes htick (by omega) hjitter
    obtain ⟨second, hsecond, hsentSecond, hlast⟩ := @Flows.enqueueCopy config _ t (now + 1) sender
      receiver bytes tick hflows true (by omega) hbytes htick (by omega) hjitter
    refine ⟨[first, second], _, rfl, ?_, List.cons_ne_nil _ _, fun other hother => ?_,
      hlast.countDuplicate.mono (by omega)⟩
    · rw [(countDuplicate_queue _).queue, hsecond, hfirst, hqueue, List.append_assoc]
      rfl
    · rcases List.mem_cons.1 hother with rfl | hother
      · exact hsentFirst
      · rw [List.mem_singleton.1 hother]
        exact hsentSecond

/-! ## Delivering -/

/-- The packets whose tick has come. -/
def isDue (now : LogicalTick) (packet : Scheduled) : Prop := packet.scheduledFor.value ≤ now.value

instance (now : LogicalTick) : DecidablePred (isDue now) := fun _ => UInt32.decLe _ _

theorem Flows.isDue_iff (h : transport.Flows config t now) (htick : tick.value.toNat = t)
    {packet : Scheduled} (hpacket : packet ∈ transport.queue) :
    isDue tick packet ↔ packet.scheduledFor.value.toNat = t := by
  have hdue := (h.underWay packet hpacket).due
  rw [isDue, UInt32.le_iff_toNat_le, htick]
  omega

theorem Flows.isYoung (h : transport.Flows config t now) (hlossless : config.Lossless)
    (htick : tick.value.toNat = t) {packet : Scheduled} (hpacket : packet ∈ transport.queue) :
    isYoung config tick packet = true := by
  have hunder := h.underWay packet hpacket
  have hsent : packet.enqueuedAt.value.toNat ≤ t := hunder.sent
  have hdue := hunder.due
  have hlate : packet.scheduledFor.value.toNat ≤ packet.enqueuedAt.value.toNat + config.longestDelay :=
    hunder.late
  have hage := hlossless.age
  rw [isYoung_iff (UInt32.le_iff_toNat_le.2 (by omega)), decide_eq_true_iff]
  omega

/-- What is due fits into the bandwidth of a tick. -/
theorem Flows.due_fits (h : transport.Flows config t now) (hlossless : config.Lossless)
    (htick : tick.value.toNat = t) :
    ((transport.inOrder.filter fun packet => isDue tick packet).map
      fun packet => packet.bytes.length).sum ≤ config.bandwidthBytesPerTick := by
  have hqueued : ∀ packet ∈ transport.inOrder.filter fun packet => isDue tick packet,
      packet ∈ transport.queue ∧ packet.scheduledFor.value.toNat = t := by
    intro packet hpacket
    obtain ⟨hmem, hdue⟩ := List.mem_filter.1 hpacket
    have hqueue := transport.inOrder_perm.mem_iff.1 hmem
    exact ⟨hqueue, (h.isDue_iff htick hqueue).1 (of_decide_eq_true hdue)⟩
  have hkeys := @length_le_of_count
    ((transport.inOrder.filter fun packet => isDue tick packet).map Scheduled.tick)
    (t - config.longestDelay) (t + 1 - config.shortestDelay) (2 * config.copies)
    (fun key hkey => ?_) fun key => ?_
  · rw [List.length_map] at hkeys
    have hshort := config.shortestDelay_le
    calc ((transport.inOrder.filter fun packet => isDue tick packet).map
          fun packet => packet.bytes.length).sum
        ≤ (transport.inOrder.filter fun packet => isDue tick packet).length * kMaxPacketBytes := by
          rw [← List.length_map (f := fun packet : Scheduled => packet.bytes.length), ← smul_eq_mul]
          refine List.sum_le_card_nsmul _ _ fun size hsize => ?_
          obtain ⟨packet, hpacket, rfl⟩ := List.mem_map.1 hsize
          exact (h.underWay packet (hqueued packet hpacket).1).short
      _ ≤ (config.longestDelay + 1 - config.shortestDelay) * (2 * config.copies) * kMaxPacketBytes :=
          Nat.mul_le_mul_right _ (hkeys.trans (Nat.mul_le_mul_right _ (by omega)))
      _ = 2 * config.copies * (config.longestDelay + 1 - config.shortestDelay) * kMaxPacketBytes := by
          rw [Nat.mul_comm (2 * config.copies)]
      _ ≤ config.bandwidthBytesPerTick := hlossless.bandwidth
  · obtain ⟨packet, hpacket, rfl⟩ := List.mem_map.1 hkey
    obtain ⟨hqueue, hdue⟩ := hqueued packet hpacket
    have hunder := h.underWay packet hqueue
    have hearly := hunder.early
    have hlate := hunder.late
    omega
  · calc ((transport.inOrder.filter fun packet => isDue tick packet).map Scheduled.tick).count key
        ≤ (transport.inOrder.map Scheduled.tick).count key :=
          (List.filter_sublist.map _).count_le _
      _ = (transport.queue.map Scheduled.tick).count key :=
          (transport.inOrder_perm.map _).count_eq _
      _ ≤ 2 * config.copies := h.count key

/-- What a delivery does when nothing is lost: what is due is handed out, and the rest stays. -/
structure HandsOut (transport : SeededTransport) (tick : LogicalTick) (deliveries : List Delivery)
    (after : SeededTransport) : Prop where
  handed : ∀ delivery ∈ deliveries, ∃ packet ∈ transport.queue, isDue tick packet ∧
    delivery = deliveryOf packet tick
  due : ∀ packet ∈ transport.queue, isDue tick packet → deliveryOf packet tick ∈ deliveries
  stays : ∀ packet, packet ∈ after.queue ↔ packet ∈ transport.queue ∧ ¬isDue tick packet

theorem Flows.deliver_eq (h : transport.Flows config t now) (hlossless : config.Lossless)
    (htick : tick.value.toNat = t) :
    (transport.deliver tick).1 =
        (transport.inOrder.filter fun packet => isDue tick packet).map (deliveryOf · tick) ∧
      (transport.deliver tick).2.queue = transport.inOrder.filter fun packet => ¬isDue tick packet := by
  have hyoung : transport.inOrder.filter (SeededTransport.isYoung transport.config tick) =
      transport.inOrder := by
    refine List.filter_eq_self.2 fun packet hpacket => ?_
    rw [h.config_eq]
    exact h.isYoung hlossless htick (transport.inOrder_perm.mem_iff.1 hpacket)
  have hfits := h.due_fits hlossless htick
  rw [← h.config_eq] at hfits
  have hmarks : markUnder (fun packet : Scheduled => packet.scheduledFor.value ≤ tick.value)
      (fun packet => packet.bytes.length) transport.config.bandwidthBytesPerTick
      (transport.inOrder.filter (SeededTransport.isYoung transport.config tick)) =
        transport.inOrder.map fun packet => (packet, decide (isDue tick packet)) := by
    rw [hyoung]
    exact markUnder_of_fits hfits
  have hparts := deliverEach_eq transport.config tick transport.inOrder
    transport.config.bandwidthBytesPerTick transport.queuedBytes transport.metrics
  rw [hmarks] at hparts
  dsimp only at hparts
  rw [taken_map, passedOver_map] at hparts
  exact hparts

/-- A tick hands out what is due, and the next one begins with the rest. -/
theorem Flows.deliver (h : transport.Flows config t now) (hlossless : config.Lossless)
    (htick : tick.value.toNat = t) :
    transport.HandsOut tick (transport.deliver tick).1 (transport.deliver tick).2 ∧
      (transport.deliver tick).2.Flows config (t + 1) 0 := by
  obtain ⟨hdeliveries, hqueue⟩ := h.deliver_eq hlossless htick
  obtain ⟨aged, out, hperm, -, htotal, -⟩ := deliverEach_spec transport.config tick
    transport.inOrder transport.config.bandwidthBytesPerTick transport.queuedBytes transport.metrics
    (by rw [(transport.inOrder_perm.map fun packet => packet.bytes.length).sum_eq, h.bytes_eq])
  have hstays : ∀ packet, packet ∈ (transport.deliver tick).2.queue ↔
      packet ∈ transport.queue ∧ ¬isDue tick packet := by
    intro packet
    rw [hqueue, List.mem_filter, transport.inOrder_perm.mem_iff, decide_eq_true_iff]
  have hcount : ∀ s, ((transport.deliver tick).2.queue.map Scheduled.tick).count s ≤
      (transport.queue.map Scheduled.tick).count s := by
    intro s
    rw [hqueue, ← (transport.inOrder_perm.map Scheduled.tick).count_eq s]
    exact (List.filter_sublist.map _).count_le _
  refine ⟨⟨fun delivery hdelivery => ?_, fun packet hpacket hdue => ?_, hstays⟩,
    h.config_eq, h.burst, ?_, fun packet hpacket => ?_, fun s => (hcount s).trans (h.count s), ?_⟩
  · rw [hdeliveries] at hdelivery
    obtain ⟨packet, hpacket, rfl⟩ := List.mem_map.1 hdelivery
    obtain ⟨hmem, hdue⟩ := List.mem_filter.1 hpacket
    exact ⟨packet, transport.inOrder_perm.mem_iff.1 hmem, of_decide_eq_true hdue, rfl⟩
  · rw [hdeliveries]
    exact List.mem_map_of_mem
      (List.mem_filter.2 ⟨transport.inOrder_perm.mem_iff.2 hpacket, decide_eq_true hdue⟩)
  · -- the bytes of what was handed out have been taken off
    have hsum := (hperm.map fun packet => packet.bytes.length).sum_eq
    rw [(transport.inOrder_perm.map fun packet => packet.bytes.length).sum_eq, ← h.bytes_eq,
      List.map_append, List.sum_append] at hsum
    exact Nat.add_right_cancel (htotal.trans hsum.symm)
  · obtain ⟨hmem, hdue⟩ := (hstays packet).1 hpacket
    have hunder := h.underWay packet hmem
    have hlater : packet.scheduledFor.value.toNat ≠ t := fun heq =>
      hdue ((h.isDue_iff htick hmem).2 heq)
    have hat := hunder.due
    exact ⟨hunder.short, hunder.sent.trans (Nat.le_succ t), by omega, hunder.early, hunder.late⟩
  · refine Nat.le_zero.2 (List.count_eq_zero.2 fun hmem => ?_)
    obtain ⟨packet, hpacket, htwice⟩ := List.mem_map.1 hmem
    have hsent := (h.underWay packet ((hstays packet).1 hpacket).1).sent
    omega

end Flow

end SeededTransport

end RollbackLab
