import RollbackLab.FiringRate
import RollbackLab.Simulates
import Mathlib.Data.Prod.Lex

/-!
# Battlefields

A world without slots: the players, and the projectiles that fly in the order of their
ids. A frame of a battlefield fires, moves and hits as the simulation does, and the
simulation refines it. So nothing but the battlefield of a world has an influence on it,
in particular not the slots.
-/

namespace RollbackLab

/-! ## The abstract frame -/

/-- The players of the arena, whose slots are not used, and what flies. -/
structure Battlefield where
  arena : WorldState
  flying : List ProjectileState

namespace Battlefield

def attackPlayer (inputs : InputPair) (field : Battlefield) (index : Fin 2) : Result Battlefield :=
  let player := field.arena.playerAt index
  if hasButton (inputFor inputs player.id).buttons .attack ∧ player.attackCooldown = 0 ∧
      field.flying.length < kMaxProjectiles then
    if field.arena.nextProjectileId = 0xFFFFFFFF then
      .error ⟨.arithmeticOverflow, field.arena.nextProjectileId.toUInt64, 0, "next_projectile_id"⟩
    else
      let arena := { field.arena with nextProjectileId := field.arena.nextProjectileId + 1 }
      .ok ⟨arena.setPlayer index { player with attackCooldown := kAttackCooldownTicks },
        field.flying ++ [firedProjectile player field.arena.nextProjectileId]⟩
  else .ok field

/-- Move one projectile after the other and keep those that fly on. -/
def fly (variant : SimulationVariant) (arena : WorldState) :
    List ProjectileState → Result Battlefield
  | [] => .ok ⟨arena, []⟩
  | projectile :: rest =>
    match moveProjectile projectile with
    | .error error => .error error
    | .ok moved =>
      if !moved.active then fly variant arena rest
      else if !overlaps moved (arena.playerAt (playerIndex (opponent moved.owner))) then do
        let field ← fly variant arena rest
        .ok { field with flying := moved :: field.flying }
      else
        fly variant (hitPlayer variant arena (playerIndex moved.owner)
          (playerIndex (opponent moved.owner))) rest

def simulateFrame (field : Battlefield) (frame : FrameNumber) (inputs : InputPair)
    (variant : SimulationVariant) : Result Battlefield :=
  if !inputsMatch field.arena frame inputs then
    .error ⟨.frameMismatch, frame.value.toUInt64, 0, "simulate_frame"⟩
  else do
    let arena ← movePlayers inputs field.arena
    let field ← turns.foldlM (attackPlayer inputs) { field with arena := arena }
    let field ← fly variant field.arena field.flying
    .ok { field with arena := { field.arena with frame := nextFrame frame } }

end Battlefield

/-! ## The battlefield of a world -/

def WorldState.arena (world : WorldState) : WorldState :=
  { world with projectiles := Vector.replicate kMaxProjectiles {} }

def WorldState.flying (world : WorldState) : List ProjectileState :=
  (projectileOrder world).map fun slot => getElem world.projectiles slot slot.2

def WorldState.battlefield (world : WorldState) : Battlefield := ⟨world.arena, world.flying⟩

/-- The collection of projectiles in some slots. -/
def collect (world : WorldState) (slots : Finset (Fin kMaxProjectiles)) : Multiset ProjectileState :=
  slots.val.map fun slot => getElem world.projectiles slot slot.2

/-- The collection of active projectiles. -/
def activeProjectiles (world : WorldState) : Multiset ProjectileState :=
  collect world (activeSlots world)

/-- The ids of active projectiles are distinct, and below the next one. -/
structure Indexed (world : WorldState) : Prop where
  distinct : ((activeProjectiles world).map ProjectileState.stableId).Nodup
  below : ∀ projectile ∈ activeProjectiles world, projectile.stableId < world.nextProjectileId

theorem flying_coe (world : WorldState) :
    (world.flying : Multiset ProjectileState) = activeProjectiles world := by
  have hslots : (projectileOrder world : Multiset (Fin kMaxProjectiles)) = (activeSlots world).val := by
    rw [Multiset.Nodup.ext (Multiset.coe_nodup.2 (LegalWorld.projectileOrder_nodup world))
      (activeSlots world).nodup]
    intro slot
    rw [Multiset.mem_coe, LegalWorld.mem_projectileOrder, Finset.mem_val, mem_activeSlots]
  rw [WorldState.flying, ← Multiset.map_coe, hslots]
  rfl

/-- The place of a slot in the order of processing. -/
def slotKey (world : WorldState) (slot : Fin kMaxProjectiles) : ℕ ×ₗ ℕ :=
  toLex ((getElem world.projectiles slot slot.2).stableId.toNat, slot.val)

theorem projectileBefore_iff (world : WorldState) (left right : Fin kMaxProjectiles) :
    projectileBefore world left right = true ↔ slotKey world left < slotKey world right := by
  simp only [projectileBefore]
  rw [slotKey, slotKey, Prod.Lex.toLex_lt_toLex]
  generalize (getElem world.projectiles left left.2).stableId = leftId
  generalize (getElem world.projectiles right right.2).stableId = rightId
  by_cases hid : leftId = rightId
  · rw [if_pos hid, decide_eq_true_eq, hid]
    exact ⟨fun h => Or.inr ⟨rfl, h⟩, fun h => h.elim (fun h => absurd h (lt_irrefl _)) And.right⟩
  · rw [if_neg hid, decide_eq_true_eq, UInt32.lt_iff_toNat_lt]
    have hne : leftId.toNat ≠ rightId.toNat := fun he => hid (UInt32.toNat_inj.1 he)
    exact ⟨Or.inl, fun h => h.elim id fun h => absurd h.1 hne⟩

theorem flying_pairwise {world : WorldState} (h : Indexed world) :
    world.flying.Pairwise fun left right => left.stableId < right.stableId := by
  have hrelation : (fun left right => ¬ projectileBefore world right left = true) =
      fun left right => slotKey world left ≤ slotKey world right := by
    funext left right
    rw [projectileBefore_iff, not_lt]
  have : Std.Total fun left right => slotKey world left ≤ slotKey world right :=
    ⟨fun _ _ => le_total _ _⟩
  have : IsTrans (Fin kMaxProjectiles) fun left right => slotKey world left ≤ slotKey world right :=
    ⟨fun _ _ _ => le_trans⟩
  have hsorted : (projectileOrder world).Pairwise
      fun left right => slotKey world left ≤ slotKey world right := by
    rw [projectileOrder]
    simp only [hrelation]
    exact List.pairwise_insertionSort _ _
  have hids : (world.flying.map ProjectileState.stableId).Nodup := by
    have hdistinct := h.distinct
    rw [← flying_coe, Multiset.map_coe, Multiset.coe_nodup] at hdistinct
    exact hdistinct
  rw [WorldState.flying, List.map_map, List.Nodup, List.pairwise_map] at hids
  rw [WorldState.flying, List.pairwise_map]
  apply (hsorted.and hids).imp
  rintro left right ⟨hle, hne⟩
  rw [slotKey, slotKey, Prod.Lex.toLex_le_toLex] at hle
  rw [UInt32.lt_iff_toNat_lt]
  rcases hle with hlt | ⟨heq, -⟩
  · exact hlt
  · exact absurd (UInt32.toNat_inj.1 heq) hne

/-- The flying projectiles are the only list of the active ones in the order of ids. -/
theorem eq_flying {world : WorldState} (h : Indexed world) {list : List ProjectileState}
    (hlist : (list : Multiset ProjectileState) = activeProjectiles world)
    (hsorted : list.Pairwise fun left right => left.stableId < right.stableId) :
    list = world.flying := by
  rw [← flying_coe, Multiset.coe_eq_coe] at hlist
  apply hlist.eq_of_pairwise _ hsorted (flying_pairwise h)
  intro left right _ _ hlt hlt'
  exact absurd (UInt32.lt_trans hlt hlt') (UInt32.lt_irrefl _)

/-! ## Collections -/

theorem collect_congr {first second : WorldState} {slots : Finset (Fin kMaxProjectiles)}
    (h : ∀ slot ∈ slots, getElem first.projectiles slot slot.2 =
      getElem second.projectiles slot slot.2) : collect first slots = collect second slots :=
  Multiset.map_congr rfl h

theorem collect_insert (world : WorldState) {slot : Fin kMaxProjectiles}
    {slots : Finset (Fin kMaxProjectiles)} (h : slot ∉ slots) :
    collect world (insert slot slots) =
      getElem world.projectiles slot slot.2 ::ₘ collect world slots := by
  rw [collect, Finset.insert_val_of_notMem h, Multiset.map_cons]
  rfl

theorem collect_setProjectile (world : WorldState) {slot : Fin kMaxProjectiles}
    {slots : Finset (Fin kMaxProjectiles)} (h : slot ∉ slots) (projectile : ProjectileState) :
    collect (world.setProjectile slot projectile) slots = collect world slots := by
  apply collect_congr
  intro other hother
  rw [WorldState.setProjectile_projectiles, if_neg]
  rintro rfl
  exact h hother

theorem length_flying (world : WorldState) : world.flying.length = (activeSlots world).card := by
  rw [← Multiset.coe_card, flying_coe, activeProjectiles, collect, Multiset.card_map]
  rfl

theorem activeProjectiles_withPlayers {world after : WorldState}
    (h : after.projectiles = world.projectiles) :
    activeProjectiles after = activeProjectiles world ∧ after.flying = world.flying := by
  constructor
  · simp only [activeProjectiles, collect, activeSlots, h]
  · simp only [WorldState.flying, projectileOrder, projectileBefore, h]
    rfl

theorem Indexed.withPlayers {world after : WorldState} (h : Indexed world)
    (hprojectiles : after.projectiles = world.projectiles)
    (hnext : after.nextProjectileId = world.nextProjectileId) : Indexed after := by
  obtain ⟨hactive, -⟩ := activeProjectiles_withPlayers hprojectiles
  constructor
  · rw [hactive]
    exact h.distinct
  · rw [hactive, hnext]
    exact h.below

/-! ## The phases of a frame -/

/-- What a world and a battlefield have in common during a frame. -/
def Shows (world : WorldState) (field : Battlefield) : Prop :=
  world.battlefield = field ∧ Indexed world

theorem movePlayer_simulates (inputs : InputPair) (world : WorldState) (index : Fin 2) :
    Simulates (fun after arena => after.arena = arena ∧ after.projectiles = world.projectiles ∧
        after.nextProjectileId = world.nextProjectileId)
      (movePlayer inputs world index) (movePlayer inputs world.arena index) := by
  simp only [movePlayer, show world.arena.players = world.players from rfl]
  generalize steer (inputFor inputs (getElem world.players index index.2).id).buttons
    (getElem world.players index index.2) = player
  cases checkedAddI32 player.x player.velocityX with
  | error e => exact .error _
  | ok movedX =>
    cases checkedAddI32 player.y player.velocityY with
    | error e => exact .error _
    | ok movedY =>
      apply Simulates.ok
      exact ⟨rfl, rfl, rfl⟩

theorem movePlayers_simulates (inputs : InputPair) (world : WorldState) :
    Simulates (fun after arena => after.arena = arena ∧ after.projectiles = world.projectiles ∧
        after.nextProjectileId = world.nextProjectileId)
      (movePlayers inputs world) (movePlayers inputs world.arena) := by
  refine Simulates.foldlM (R := fun reached arena : WorldState => reached.arena = arena ∧
    reached.projectiles = world.projectiles ∧ reached.nextProjectileId = world.nextProjectileId)
    ?_ [0, 1] ?_
  · rintro index reached _ ⟨rfl, hprojectiles, hnext⟩
    apply (movePlayer_simulates inputs reached index).mono
    rintro after arena ⟨harena, hprojectiles', hnext'⟩
    exact ⟨harena, hprojectiles'.trans hprojectiles, hnext'.trans hnext⟩
  · exact ⟨rfl, rfl, rfl⟩

theorem activeProjectiles_fireInto {world : WorldState} {index : Fin 2}
    {slot : Fin kMaxProjectiles} (hfree : slot ∉ activeSlots world) :
    activeProjectiles (fireInto world index slot) =
      firedProjectile (getElem world.players index index.2) world.nextProjectileId ::ₘ
        activeProjectiles world := by
  have hslots : activeSlots (fireInto world index slot) = insert slot (activeSlots world) :=
    (activeSlots_setProjectile world slot _).trans (if_pos rfl)
  rw [activeProjectiles, hslots, collect_insert _ hfree, activeProjectiles]
  congr 1
  · exact world.setProjectile_self slot _
  · exact collect_setProjectile world hfree _

theorem Indexed.fireInto {world : WorldState} (h : Indexed world) {index : Fin 2}
    {slot : Fin kMaxProjectiles} (hfree : slot ∉ activeSlots world)
    (hids : world.nextProjectileId ≠ 0xFFFFFFFF) : Indexed (fireInto world index slot) := by
  have hgrows : world.nextProjectileId < world.nextProjectileId + 1 := by grind
  constructor
  · rw [activeProjectiles_fireInto hfree, Multiset.map_cons, Multiset.nodup_cons]
    refine ⟨fun hmem => ?_, h.distinct⟩
    obtain ⟨projectile, hprojectile, hid⟩ := Multiset.mem_map.1 hmem
    have hlt := h.below projectile hprojectile
    rw [hid] at hlt
    exact UInt32.lt_irrefl _ hlt
  · rw [activeProjectiles_fireInto hfree]
    intro projectile hprojectile
    rcases Multiset.mem_cons.1 hprojectile with rfl | hold
    · exact hgrows
    · exact UInt32.lt_trans (h.below projectile hold) hgrows

theorem flying_fireInto {world : WorldState} (h : Indexed world) {index : Fin 2}
    {slot : Fin kMaxProjectiles} (hfree : slot ∉ activeSlots world)
    (hids : world.nextProjectileId ≠ 0xFFFFFFFF) :
    (fireInto world index slot).flying =
      world.flying ++
        [firedProjectile (getElem world.players index index.2) world.nextProjectileId] := by
  symm
  apply eq_flying (h.fireInto hfree hids)
  · rw [activeProjectiles_fireInto hfree, ← flying_coe, Multiset.cons_coe, Multiset.coe_eq_coe]
    exact List.perm_append_singleton _ _
  · rw [List.pairwise_append]
    refine ⟨flying_pairwise h, List.pairwise_singleton _ _, fun projectile hprojectile other hother => ?_⟩
    rw [List.mem_singleton.1 hother]
    apply h.below
    rw [← flying_coe, Multiset.mem_coe]
    exact hprojectile

theorem attackPlayer_simulates {inputs : InputPair} {index : Fin 2} {world : WorldState}
    {field : Battlefield} (h : Shows world field) :
    Simulates Shows (attackPlayer inputs world index) (field.attackPlayer inputs index) := by
  obtain ⟨rfl, hindexed⟩ := h
  simp only [attackPlayer, Battlefield.attackPlayer, spawnProjectile,
    show world.battlefield.arena.players = world.players from rfl,
    show world.battlefield.arena.nextProjectileId = world.nextProjectileId from rfl]
  by_cases hattack : hasButton (inputFor inputs (getElem world.players index index.2).id).buttons
      .attack ∧ (getElem world.players index index.2).attackCooldown = 0
  · rw [if_pos hattack]
    cases hfree : freeSlot world with
    | none =>
      rw [if_neg]
      · exact .ok ⟨rfl, hindexed⟩
      · rintro ⟨-, -, hroom⟩
        rw [show world.battlefield.flying = world.flying from rfl, length_flying] at hroom
        obtain ⟨slot, hslot⟩ := exists_freeSlot hroom
        rw [hfree] at hslot
        cases hslot
    | some slot =>
      have hroom : world.battlefield.flying.length < kMaxProjectiles := by
        rw [show world.battlefield.flying = world.flying from rfl, length_flying]
        have hcard := Finset.card_lt_univ_of_notMem (freeSlot_some hfree)
        rwa [Fintype.card_fin] at hcard
      rw [if_pos ⟨hattack.1, hattack.2, hroom⟩]
      simp only []
      by_cases hids : world.nextProjectileId = 0xFFFFFFFF
      · rw [if_pos hids, if_pos hids]
        exact .error _
      · rw [if_neg hids, if_neg hids]
        apply Simulates.ok
        have hflying : (fireInto world index slot).flying = _ :=
          flying_fireInto hindexed (freeSlot_some hfree) hids
        refine ⟨?_, hindexed.fireInto (freeSlot_some hfree) hids⟩
        change Battlefield.mk (fireInto world index slot).arena (fireInto world index slot).flying = _
        rw [hflying]
        rfl
  · rw [if_neg hattack, if_neg fun h => hattack ⟨h.1, h.2.1⟩]
    exact .ok ⟨rfl, hindexed⟩

theorem attackPlayers_simulates (inputs : InputPair) {world : WorldState} {field : Battlefield}
    (h : Shows world field) :
    Simulates Shows (attackPlayers inputs world)
      (turns.foldlM (Battlefield.attackPlayer inputs) field) := by
  apply Simulates.foldlM _ turns h
  intro index world field h
  exact attackPlayer_simulates h

theorem hitPlayer_arena (variant : SimulationVariant) (world : WorldState) (owner target : Fin 2) :
    (hitPlayer variant world owner target).arena = hitPlayer variant world.arena owner target := by
  simp only [hitPlayer]
  rw [apply_ite WorldState.arena]
  rfl

/-- What a step leaves behind when it puts a projectile back into its slot. -/
theorem collect_step {world after : WorldState} {slot : Fin kMaxProjectiles}
    {rest : List (Fin kMaxProjectiles)} (hslot : slot ∉ rest)
    (hactive : ∀ other ∈ slot :: rest, other ∈ activeSlots world) {projectile : ProjectileState}
    (hafter : after.projectiles = (world.setProjectile slot projectile).projectiles) :
    (rest.map fun other => getElem after.projectiles other other.2) =
        (rest.map fun other => getElem world.projectiles other other.2) ∧
      (∀ other ∈ rest, other ∈ activeSlots after) ∧
      collect after (activeSlots after \ rest.toFinset) =
        (if projectile.active then {projectile} else 0) +
          collect world (activeSlots world \ (slot :: rest).toFinset) := by
  have hkept : ∀ other ∈ rest, getElem after.projectiles other other.2 =
      getElem world.projectiles other other.2 := by
    intro other hother
    simp only [hafter]
    rw [WorldState.setProjectile_projectiles, if_neg]
    rintro rfl
    exact hslot hother
  have hslots : activeSlots after = if projectile.active then insert slot (activeSlots world)
      else (activeSlots world).erase slot := by
    rw [← activeSlots_setProjectile, activeSlots, activeSlots, hafter]
  have hsame : ∀ slots, collect after slots = collect (world.setProjectile slot projectile) slots := by
    intro slots
    rw [collect, collect, hafter]
  have hnew : slot ∉ activeSlots world \ (slot :: rest).toFinset := by
    simp
  refine ⟨List.map_congr_left hkept, fun other hother => ?_, ?_⟩
  · rw [mem_activeSlots, hkept other hother, ← mem_activeSlots]
    exact hactive other (List.mem_cons_of_mem _ hother)
  · rw [hsame, hslots]
    split
    · have hset : insert slot (activeSlots world) \ rest.toFinset =
          insert slot (activeSlots world \ (slot :: rest).toFinset) := by
        ext other
        by_cases he : other = slot
        · simp [he, hslot]
        · simp [he]
      rw [hset, collect_insert _ hnew, WorldState.setProjectile_self,
        collect_setProjectile world hnew, Multiset.singleton_add]
    · have hset : (activeSlots world).erase slot \ rest.toFinset =
          activeSlots world \ (slot :: rest).toFinset := by
        ext other
        by_cases he : other = slot
        · simp [he]
        · simp [he]
      rw [hset, collect_setProjectile world hnew, Multiset.zero_add]

/-- The rest of the projectiles fly, and what has flown before stays. -/
theorem stepProjectiles_simulates {variant : SimulationVariant}
    {rest : List (Fin kMaxProjectiles)} (hnodup : rest.Nodup) {world : WorldState}
    (hactive : ∀ slot ∈ rest, slot ∈ activeSlots world) :
    Simulates (fun after field => after.arena = field.arena ∧
        activeProjectiles after =
          (field.flying : Multiset ProjectileState) +
            collect world (activeSlots world \ rest.toFinset))
      (rest.foldlM (stepProjectile variant) world)
      (Battlefield.fly variant world.arena
        (rest.map fun slot => getElem world.projectiles slot slot.2)) := by
  induction rest generalizing world with
  | nil =>
    apply Simulates.ok
    refine ⟨rfl, ?_⟩
    simp [activeProjectiles]
  | cons slot rest ih =>
    obtain ⟨hslot, hrest⟩ := List.nodup_cons.1 hnodup
    have hmem := mem_activeSlots.1 (hactive slot List.mem_cons_self)
    rw [List.foldlM_cons, List.map_cons, Battlefield.fly]
    simp only [stepProjectile, hmem, Bool.not_true, Bool.false_eq_true, if_false]
    cases moveProjectile (getElem world.projectiles slot slot.2) with
    | error e => exact .error e
    | ok moved =>
      simp only []
      cases hm : moved.active with
      | false =>
        simp only [Bool.not_false, if_true]
        obtain ⟨hlist, hactive', hcollect⟩ := collect_step hslot hactive
          (rfl : (world.setProjectile slot moved).projectiles = _)
        have hih := ih hrest hactive'
        rw [hlist] at hih
        apply hih.mono
        rintro after field ⟨harena, hflying⟩
        refine ⟨harena, ?_⟩
        rw [hflying, hcollect, hm]
        simp
      | true =>
        have hplayers : (world.setProjectile slot moved).players = world.players := rfl
        have htarget : world.arena.playerAt (playerIndex (opponent moved.owner)) =
          getElem world.players (playerIndex (opponent moved.owner))
            (playerIndex (opponent moved.owner)).2 := rfl
        simp only [Bool.not_true, Bool.false_eq_true, if_false, hplayers, htarget]
        cases overlaps moved (getElem world.players (playerIndex (opponent moved.owner))
            (playerIndex (opponent moved.owner)).2) with
        | false =>
          simp only [Bool.not_false, if_true]
          obtain ⟨hlist, hactive', hcollect⟩ := collect_step hslot hactive
            (rfl : (world.setProjectile slot moved).projectiles = _)
          have hih := ih hrest hactive'
          rw [hlist] at hih
          apply hih.bind_ok
          rintro after field ⟨harena, hflying⟩
          refine ⟨harena, ?_⟩
          rw [hflying, hcollect, hm, if_pos rfl, ← Multiset.cons_coe, Multiset.cons_add,
            Multiset.singleton_add, Multiset.add_cons]
        | true =>
          simp only [Bool.not_true, Bool.false_eq_true, if_false, hitTarget,
            WorldState.setProjectile_self, WorldState.setProjectile_setProjectile]
          obtain ⟨hlist, hactive', hcollect⟩ := collect_step hslot hactive
            (hitPlayer_rest variant (world.setProjectile slot { moved with active := false })
              (playerIndex moved.owner) (playerIndex (opponent moved.owner))).1
          have hih := ih hrest hactive'
          rw [hlist, hitPlayer_arena] at hih
          apply hih.mono
          rintro after field ⟨harena, hflying⟩
          refine ⟨harena, ?_⟩
          rw [hflying, hcollect]
          simp

/-- Flying takes no ids and gives none, and what flies on keeps its id and its place. -/
theorem Battlefield.fly_ids {variant : SimulationVariant} {list : List ProjectileState}
    {arena : WorldState} {field : Battlefield} (h : Battlefield.fly variant arena list = .ok field) :
    (field.flying.map ProjectileState.stableId).Sublist (list.map ProjectileState.stableId) ∧
      field.arena.nextProjectileId = arena.nextProjectileId := by
  induction list generalizing arena field with
  | nil =>
    cases h
    exact ⟨.slnil, rfl⟩
  | cons projectile rest ih =>
    rw [Battlefield.fly] at h
    cases hmove : moveProjectile projectile with
    | error e =>
      rw [hmove] at h
      cases h
    | ok moved =>
      have hid := (moveProjectile_fields hmove).1
      simp only [hmove] at h
      rw [List.map_cons]
      split at h
      · obtain ⟨hsublist, hnext⟩ := ih h
        exact ⟨hsublist.cons _, hnext⟩
      · split at h
        · obtain ⟨kept, hkept, hafter⟩ := bind_ok_iff.1 h
          cases hafter
          obtain ⟨hsublist, hnext⟩ := ih hkept
          refine ⟨?_, hnext⟩
          rw [List.map_cons, hid]
          exact hsublist.cons_cons _
        · obtain ⟨hsublist, hnext⟩ := ih h
          exact ⟨hsublist.cons _, hnext.trans (hitPlayer_rest _ _ _ _).2⟩

theorem stepAll_simulates {world : WorldState} (h : Indexed world) (variant : SimulationVariant) :
    Simulates Shows (stepProjectiles variant world)
      (Battlefield.fly variant world.arena world.flying) := by
  have hactive : ∀ slot ∈ projectileOrder world, slot ∈ activeSlots world :=
    fun slot hslot => mem_activeSlots.2 ((LegalWorld.mem_projectileOrder world slot).1 hslot)
  have hall : Simulates _ (stepProjectiles variant world)
      (Battlefield.fly variant world.arena world.flying) :=
    stepProjectiles_simulates (LegalWorld.projectileOrder_nodup world) hactive
  apply hall.results.mono
  rintro after field ⟨⟨harena, hflying⟩, -, hfly⟩
  have hnone : activeSlots world \ (projectileOrder world).toFinset = ∅ := by
    ext slot
    simp [LegalWorld.mem_projectileOrder, mem_activeSlots]
  rw [hnone, collect, Finset.empty_val, Multiset.map_zero, Multiset.add_zero] at hflying
  obtain ⟨hsublist, hnext⟩ := Battlefield.fly_ids hfly
  have hsorted : (field.flying.map ProjectileState.stableId).Pairwise (· < ·) := by
    apply List.Pairwise.sublist hsublist
    rw [List.pairwise_map]
    exact flying_pairwise h
  have hindexed : Indexed after := by
    constructor
    · rw [hflying, Multiset.map_coe, Multiset.coe_nodup]
      exact hsorted.imp fun hlt => UInt32.ne_of_lt hlt
    · rw [hflying]
      intro projectile hprojectile
      obtain ⟨old, hold, hid⟩ := List.mem_map.1 (hsublist.subset
        (List.mem_map_of_mem (Multiset.mem_coe.1 hprojectile)))
      rw [← hid, show after.nextProjectileId = world.nextProjectileId from
        (congrArg WorldState.nextProjectileId harena).trans hnext]
      apply h.below
      rw [← flying_coe]
      exact hold
  refine ⟨?_, hindexed⟩
  rw [WorldState.battlefield, harena, ← eq_flying hindexed hflying.symm (List.pairwise_map.1 hsorted)]

/-- A frame of the world is a frame of its battlefield. -/
theorem simulateFrame_simulates {world : WorldState} (h : Indexed world) (frame : FrameNumber)
    (inputs : InputPair) (variant : SimulationVariant) :
    Simulates Shows (simulateFrame world frame inputs variant)
      (world.battlefield.simulateFrame frame inputs variant) := by
  rw [simulateFrame, Battlefield.simulateFrame,
    show inputsMatch world.battlefield.arena frame inputs = inputsMatch world frame inputs from rfl]
  split
  · exact .error _
  · apply (movePlayers_simulates inputs world).bind
    rintro moved arena ⟨harena, hprojectiles, hnext⟩
    have hmoved : Shows moved { world.battlefield with arena := arena } := by
      refine ⟨?_, h.withPlayers hprojectiles hnext⟩
      rw [WorldState.battlefield, harena, (activeProjectiles_withPlayers hprojectiles).2]
      rfl
    apply (attackPlayers_simulates inputs hmoved).bind
    rintro fired field ⟨rfl, hindexed⟩
    apply (stepAll_simulates hindexed variant).bind
    rintro stepped field ⟨rfl, hindexed'⟩
    apply Simulates.ok
    refine ⟨?_, hindexed'.withPlayers rfl rfl⟩
    rw [WorldState.battlefield, (activeProjectiles_withPlayers rfl).2]
    rfl

/-! ## Slots do not matter -/

/-- Two worlds with the same frame, players and next id, and with the same collection of
active projectiles, whose ids are distinct and below the next one. -/
structure Agree (first second : WorldState) : Prop where
  frame : first.frame = second.frame
  players : first.players = second.players
  nextProjectileId : first.nextProjectileId = second.nextProjectileId
  projectiles : activeProjectiles first = activeProjectiles second
  indexed : Indexed first

theorem Agree.indexed_second {first second : WorldState} (h : Agree first second) :
    Indexed second := by
  constructor
  · rw [← h.projectiles]
    exact h.indexed.distinct
  · rw [← h.projectiles, ← h.nextProjectileId]
    exact h.indexed.below

theorem Agree.battlefield_eq {first second : WorldState} (h : Agree first second) :
    first.battlefield = second.battlefield := by
  have hflying : first.flying = second.flying := by
    apply eq_flying h.indexed_second _ (flying_pairwise h.indexed)
    rw [flying_coe, h.projectiles]
  rw [WorldState.battlefield, WorldState.battlefield, hflying, WorldState.arena, WorldState.arena,
    h.frame, h.players, h.nextProjectileId]

/-- Which slots projectiles occupy, and what is left in inactive ones, has no influence:
both frames fail with the same error, or succeed with worlds that agree again. -/
theorem slots_do_not_matter (first second : WorldState) (h : Agree first second)
    (frame : FrameNumber) (inputs : InputPair) (variant : SimulationVariant) :
    Simulates Agree (simulateFrame first frame inputs variant)
      (simulateFrame second frame inputs variant) := by
  have hfirst := simulateFrame_simulates h.indexed frame inputs variant
  have hsecond := simulateFrame_simulates h.indexed_second frame inputs variant
  rw [h.battlefield_eq] at hfirst
  apply (hfirst.join hsecond).mono
  rintro after after' ⟨field, ⟨rfl, hindexed⟩, hsame, -⟩
  rw [WorldState.battlefield, WorldState.battlefield, Battlefield.mk.injEq] at hsame
  obtain ⟨harena, hflying⟩ := hsame
  refine ⟨?_, ?_, ?_, ?_, hindexed⟩
  · exact (congrArg WorldState.frame harena).symm
  · exact (congrArg WorldState.players harena).symm
  · exact (congrArg WorldState.nextProjectileId harena).symm
  · rw [← flying_coe, ← flying_coe, hflying]

/-- A projectile in one slot, and something stale in another. -/
def shotWorld (slot stale : Fin kMaxProjectiles) : WorldState :=
  { (makeInitialWorld.setProjectile stale { stableId := 9 }).setProjectile slot
      (firedProjectile (makeInitialWorld.playerAt (playerIndex .a)) 1) with nextProjectileId := 2 }

def earlyShot : WorldState := shotWorld ⟨0, by decide⟩ ⟨1, by decide⟩

def lateShot : WorldState := shotWorld ⟨5, by decide⟩ ⟨3, by decide⟩

theorem slots_do_not_matter_shot :
    Agree earlyShot lateShot ∧
      Simulates Agree (simulateFrame earlyShot ⟨0⟩ openingAttack .canonical)
        (simulateFrame lateShot ⟨0⟩ openingAttack .canonical) := by
  have hagree : Agree earlyShot lateShot := by
    refine ⟨rfl, rfl, rfl, by decide, ?_, ?_⟩
    · decide
    · decide
  exact ⟨hagree, slots_do_not_matter _ _ hagree ⟨0⟩ openingAttack .canonical⟩

end RollbackLab
