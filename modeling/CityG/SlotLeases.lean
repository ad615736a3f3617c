import CityG.Lib.Run
import CityG.Persist
import CityG.Slots

/-!
# No lease is held twice

A run of the slot allocator with the pairs of leaf and lease held in any state
so far, and with the leases that `allocate_slot_lease` has returned since the
free slots were last rebuilt. A rebuild forgets leases that were returned but
not bound to their leaf.
-/

namespace CityG

def GroupState.holdings (state : GroupState) : List (Bytes32 × SlotLease) :=
  state.leafSlotLeases.entries ++ state.pendingJoinFinalizeAuth.entries.map fun e => (e.1, e.2.lease)

theorem GroupState.mem_holdings {state : GroupState} {leaf : Bytes32} {lease : SlotLease} :
    (leaf, lease) ∈ state.holdings ↔ state.leafSlotLeases.get? leaf = some lease ∨
      (state.pendingJoinFinalizeAuth.get? leaf).map (·.lease) = some lease := by
  simp only [holdings, List.mem_append, OrdMap.mem_entries_iff, List.mem_map, Prod.exists,
    Prod.mk.injEq, Option.map_eq_some_iff]
  constructor
  · rintro (h | ⟨l, record, h, rfl, rfl⟩)
    · exact .inl h
    · exact .inr ⟨record, h, rfl⟩
  · rintro (h | ⟨record, h, rfl⟩)
    · exact .inl h
    · exact .inr ⟨leaf, record, h, rfl, rfl⟩

def GroupState.bindActive (state : GroupState) (leaf : Bytes32) (lease : SlotLease) : GroupState :=
  { state with leafSlotLeases := state.leafSlotLeases.insert leaf lease }

structure SlotRun where
  group : GroupState
  outstanding : OrdMap Bytes32 SlotLease := .empty
  held : List (Bytes32 × SlotLease) := []

inductive SlotOp where
  | allocate (leaf : Bytes32)
  | insertPending (leaf : Bytes32) (lease : SlotLease) (token : Bytes32)
  | activate (leaf : Bytes32) (lease : SlotLease)
  | release (leaf : Bytes32)
  | saveRestore (kbroadPublic : Bytes)

namespace SlotRun

def next (run : SlotRun) (group : GroupState) (outstanding : OrdMap Bytes32 SlotLease) : SlotRun :=
  ⟨group, outstanding, run.held ++ group.holdings⟩

def entered (run : SlotRun) : OrdMap Bytes32 SlotLease :=
  if run.group.rebuildsFreeSlots then .empty else run.outstanding

def leased (run : SlotRun) (leaf : Bytes32) : Bool :=
  leaf ∈ run.group.leafSlotLeases ∨ leaf ∈ run.group.pendingJoinFinalizeAuth

section
variable (hL : HashL) (dec : WireDecoder) (hex : HexCodec) (gid : Bytes)

/-- A refused operation keeps the edits it made; a restore that fails is no step. -/
def step (run : SlotRun) : SlotOp → Option SlotRun
  | .allocate leaf =>
    let outstanding := if run.leased leaf then run.outstanding else run.entered
    some (run.next ((GroupState.allocateSlotLease leaf).final run.group)
      (match (GroupState.allocateSlotLease leaf).value run.group with
        | .ok lease => outstanding.insert leaf lease
        | .error _ => outstanding))
  | .insertPending leaf lease token =>
    some (run.next (run.group.insertPending ⟨leaf, lease, token⟩) run.outstanding)
  | .activate leaf lease =>
    some (run.next ((GroupState.activateSlotLease leaf lease).final run.group)
      (if run.group.slotCapacity ≤ lease.slotIndex then run.outstanding else run.entered))
  | .release leaf =>
    some (run.next ((GroupState.releaseSlotLease leaf).final run.group) run.entered)
  | .saveRestore kbroadPublic =>
    let room := persistedKbroadRoomState hex (some run.group) kbroadPublic
      run.group.kbroadGeneration run.group.rotationRequired []
    match applyPersistedRoomState hex hL dec gid room {} with
    | .ok _ group => some (run.next group .empty)
    | .error _ _ => none

end

/-- The lease is the leaf's own: active, pending, or returned for it since the
free slots were last rebuilt. -/
def Owns (run : SlotRun) (leaf : Bytes32) (lease : SlotLease) : Prop :=
  run.outstanding.get? leaf = some lease ∨ (leaf, lease) ∈ run.group.holdings

/-- Tickets and activations name the leaf's own lease, no released generation is
the last one, and no generation is lost in a restore. -/
def Careful (run : SlotRun) : SlotOp → Prop
  | .allocate _ => True
  | .insertPending leaf lease _ => run.Owns leaf lease
  | .activate leaf lease => run.Owns leaf lease
  | .release leaf =>
    ∀ lease, run.group.leafSlotLeases.get? leaf = some lease → lease.slotGeneration < U64_MAX
  | .saveRestore _ => ∀ slot, run.group.generation slot = 0

def Claims (run : SlotRun) (leaf : Bytes32) (lease : SlotLease) : Prop :=
  (leaf, lease) ∈ run.held ∨ run.outstanding.get? leaf = some lease

def Current (run : SlotRun) (lease : SlotLease) : Prop :=
  lease.slotGeneration = run.group.generation lease.slotIndex

/-- The invariant of careful runs. A lease of the current generation is off the
free slots as long as someone claims it, and stays with its holder. -/
structure Inv (run : SlotRun) : Prop where
  keyed : ∀ leaf record, run.group.pendingJoinFinalizeAuth.get? leaf = some record →
    record.leafId = leaf
  unique : ∀ leaf leaf' lease, run.Claims leaf lease → run.Claims leaf' lease → leaf = leaf'
  recorded : ∀ leaf lease, (leaf, lease) ∈ run.group.holdings → (leaf, lease) ∈ run.held
  le_generation : ∀ leaf lease, run.Claims leaf lease →
    lease.slotGeneration ≤ run.group.generation lease.slotIndex
  not_free : ∀ leaf lease, run.Claims leaf lease → run.Current lease →
    lease.slotIndex ∉ run.group.freeSlots
  kept : ∀ leaf lease, (leaf, lease) ∈ run.held → run.Current lease →
    (leaf, lease) ∈ run.group.holdings
  active_current : ∀ leaf lease, run.group.leafSlotLeases.get? leaf = some lease →
    run.Current lease
  owns_eq : ∀ leaf lease lease', run.Owns leaf lease → run.Owns leaf lease' → lease = lease'

variable {run : SlotRun} {leaf : Bytes32} {lease : SlotLease} {group : GroupState}

theorem Inv.owns_claims (h : run.Inv) (howns : run.Owns leaf lease) : run.Claims leaf lease :=
  howns.elim .inr fun hmem => .inl (h.recorded leaf lease hmem)

theorem Inv.shrink {run' : SlotRun} (h : run.Inv)
    (hgen : ∀ slot, run'.group.generation slot = run.group.generation slot)
    (hfree : ∀ slot ∈ run'.group.freeSlots, slot ∈ run.group.freeSlots)
    (hclaims : ∀ leaf lease, run'.Claims leaf lease → run.Claims leaf lease)
    (howns : ∀ leaf lease, run'.Owns leaf lease → run.Owns leaf lease)
    (hkeyed : ∀ leaf record, run'.group.pendingJoinFinalizeAuth.get? leaf = some record →
      record.leafId = leaf)
    (hrecorded : ∀ leaf lease, (leaf, lease) ∈ run'.group.holdings → (leaf, lease) ∈ run'.held)
    (hkept : ∀ leaf lease, (leaf, lease) ∈ run'.held → run.Current lease →
      (leaf, lease) ∈ run'.group.holdings)
    (hactive : ∀ leaf lease, run'.group.leafSlotLeases.get? leaf = some lease →
      run.Current lease) : run'.Inv := by
  have hcurrent : ∀ lease, run'.Current lease ↔ run.Current lease := by
    intro lease
    rw [Current, Current, hgen]
  constructor
  · exact hkeyed
  · intro leaf leaf' lease hc hc'
    exact h.unique leaf leaf' lease (hclaims _ _ hc) (hclaims _ _ hc')
  · exact hrecorded
  · intro leaf lease hc
    rw [hgen]
    exact h.le_generation leaf lease (hclaims _ _ hc)
  · intro leaf lease hc hcur hslot
    exact h.not_free leaf lease (hclaims _ _ hc) ((hcurrent _).mp hcur) (hfree _ hslot)
  · exact fun leaf lease hh hcur => hkept leaf lease hh ((hcurrent _).mp hcur)
  · exact fun leaf lease ha => (hcurrent _).mpr (hactive leaf lease ha)
  · exact fun leaf lease lease' ho ho' => h.owns_eq leaf lease lease' (howns _ _ ho) (howns _ _ ho')

structure SameLeases (group group' : GroupState) : Prop where
  active : group'.leafSlotLeases = group.leafSlotLeases
  pending : group'.pendingJoinFinalizeAuth = group.pendingJoinFinalizeAuth
  generation : ∀ slot, group'.generation slot = group.generation slot

theorem SameLeases.holdings {group' : GroupState} (h : SameLeases group group') :
    group'.holdings = group.holdings := by
  rw [GroupState.holdings, GroupState.holdings, h.active, h.pending]

theorem Inv.next_same (h : run.Inv) {out : OrdMap Bytes32 SlotLease}
    (hsame : SameLeases run.group group)
    (hfree : ∀ slot ∈ group.freeSlots, slot ∈ run.group.freeSlots)
    (hout : ∀ leaf lease, out.get? leaf = some lease → run.Owns leaf lease) :
    (run.next group out).Inv := by
  have hmem : ∀ leaf lease, (leaf, lease) ∈ (run.next group out).held ↔ (leaf, lease) ∈ run.held := by
    intro leaf lease
    rw [next, List.mem_append, hsame.holdings]
    exact ⟨fun hp => hp.elim id (h.recorded leaf lease), .inl⟩
  apply h.shrink
  · exact hsame.generation
  · exact hfree
  · rintro leaf lease (hheld | ho)
    · exact .inl ((hmem _ _).mp hheld)
    · exact h.owns_claims (hout _ _ ho)
  · rintro leaf lease (ho | hhold)
    · exact hout _ _ ho
    · exact .inr (hsame.holdings ▸ hhold)
  · intro leaf record hrec
    exact h.keyed leaf record (hsame.pending ▸ hrec)
  · intro leaf lease hhold
    exact (hmem _ _).mpr (h.recorded leaf lease (hsame.holdings ▸ hhold))
  · intro leaf lease hheld hcur
    change (leaf, lease) ∈ group.holdings
    rw [hsame.holdings]
    exact h.kept leaf lease ((hmem _ _).mp hheld) hcur
  · intro leaf lease ha
    exact h.active_current leaf lease (hsame.active ▸ ha)

theorem Inv.record (h : run.Inv) : (run.next run.group run.outstanding).Inv :=
  h.next_same ⟨rfl, rfl, fun _ => rfl⟩ (fun _ hs => hs) fun _ _ ho => .inl ho

theorem Inv.next_bind (h : run.Inv) (howns : run.Owns leaf lease)
    (hgen : ∀ slot, group.generation slot = run.group.generation slot)
    (hfree : ∀ slot ∈ group.freeSlots, slot ∈ run.group.freeSlots)
    (hhold : ∀ l x, (l, x) ∈ group.holdings ↔ (l, x) ∈ run.group.holdings ∨ l = leaf ∧ x = lease)
    (hkeyed : ∀ l record, group.pendingJoinFinalizeAuth.get? l = some record → record.leafId = l)
    (hactive : ∀ l x, group.leafSlotLeases.get? l = some x → run.Current x) :
    (run.next group run.outstanding).Inv := by
  have hmem : ∀ l x, (l, x) ∈ (run.next group run.outstanding).held ↔
      (l, x) ∈ run.held ∨ l = leaf ∧ x = lease := by
    intro l x
    rw [next, List.mem_append, hhold]
    constructor
    · rintro (hp | hp | hp)
      · exact .inl hp
      · exact .inl (h.recorded l x hp)
      · exact .inr hp
    · exact fun hp => hp.imp id .inr
  apply h.shrink hgen hfree
  · rintro l x (hheld | ho)
    · rcases (hmem l x).mp hheld with hheld | ⟨rfl, rfl⟩
      · exact .inl hheld
      · exact h.owns_claims howns
    · exact .inr ho
  · rintro l x (ho | hp)
    · exact .inl ho
    · rcases (hhold l x).mp hp with hp | ⟨rfl, rfl⟩
      · exact .inr hp
      · exact howns
  · exact hkeyed
  · intro l x hp
    rw [hmem]
    exact ((hhold l x).mp hp).imp (h.recorded l x) id
  · intro l x hheld hcur
    exact (hhold l x).mpr (((hmem l x).mp hheld).imp (fun hh => h.kept l x hh hcur) id)
  · exact hactive

@[simp] theorem generation_ensure (group : GroupState) (slot : Nat) :
    group.ensureSlotAllocatorInitialized.generation slot = group.generation slot := by
  change (group.initialGenerations.get? slot).getD 0 = (group.slotGenerations.get? slot).getD 0
  unfold GroupState.initialGenerations
  split_ifs with hempty
  · have hnone : group.slotGenerations.get? slot = none := by
      rw [← OrdMap.not_mem_iff, ← OrdMap.mem_keys, OrdMap.keys]
      simp [List.isEmpty_iff.mp hempty]
    rw [hnone, OrdMap.get?_range]
    split_ifs <;> rfl
  · rfl

theorem sameLeases_ensure (group : GroupState) :
    SameLeases group group.ensureSlotAllocatorInitialized :=
  ⟨rfl, rfl, generation_ensure group⟩

theorem not_mem_unleasedSlots (h : (leaf, lease) ∈ group.holdings) :
    lease.slotIndex ∉ group.unleasedSlots := by
  intro hmem
  simp only [GroupState.unleasedSlots, OrdSet.mem_eraseAll, List.mem_map, OrdMap.mem_values_iff]
    at hmem
  obtain ⟨hpending, hactive, -⟩ := hmem
  rcases GroupState.mem_holdings.mp h with ha | hp
  · exact hactive ⟨lease, ⟨leaf, ha⟩, rfl⟩
  · obtain ⟨record, hrecord, rfl⟩ := Option.map_eq_some_iff.mp hp
    exact hpending ⟨record, ⟨leaf, hrecord⟩, rfl⟩

theorem Inv.rebuild (h : run.Inv) (hsame : SameLeases run.group group)
    (hfree : ∀ leaf lease, (leaf, lease) ∈ run.group.holdings → lease.slotIndex ∉ group.freeSlots) :
    Inv ⟨group, .empty, run.held⟩ := by
  have hclaims : ∀ leaf lease, Claims ⟨group, .empty, run.held⟩ leaf lease →
      (leaf, lease) ∈ run.held := by
    rintro leaf lease (hheld | ho)
    · exact hheld
    · cases ho
  have hcurrent : ∀ lease, Current ⟨group, .empty, run.held⟩ lease ↔ run.Current lease := by
    intro lease
    rw [Current, Current, hsame.generation]
  have howns : ∀ leaf lease, Owns ⟨group, .empty, run.held⟩ leaf lease → run.Owns leaf lease := by
    rintro leaf lease (ho | hp)
    · cases ho
    · exact .inr (hsame.holdings ▸ hp)
  constructor
  · exact fun leaf record hr => h.keyed leaf record (hsame.pending ▸ hr)
  · intro leaf leaf' lease hc hc'
    exact h.unique leaf leaf' lease (.inl (hclaims _ _ hc)) (.inl (hclaims _ _ hc'))
  · exact fun leaf lease hp => h.recorded leaf lease (hsame.holdings ▸ hp)
  · intro leaf lease hc
    rw [hsame.generation]
    exact h.le_generation leaf lease (.inl (hclaims _ _ hc))
  · intro leaf lease hc hcur
    exact hfree leaf lease (h.kept leaf lease (hclaims _ _ hc) ((hcurrent _).mp hcur))
  · intro leaf lease hheld hcur
    rw [hsame.holdings]
    exact h.kept leaf lease hheld ((hcurrent _).mp hcur)
  · exact fun leaf lease ha => (hcurrent _).mpr (h.active_current leaf lease (hsame.active ▸ ha))
  · exact fun leaf lease lease' ho ho' =>
      h.owns_eq leaf lease lease' (howns _ _ ho) (howns _ _ ho')

theorem freeSlots_of_rebuild (h : group.rebuildsFreeSlots = true) :
    group.ensureSlotAllocatorInitialized.freeSlots = group.unleasedSlots := if_pos h

theorem freeSlots_of_no_rebuild (h : ¬ group.rebuildsFreeSlots = true) :
    group.ensureSlotAllocatorInitialized.freeSlots = group.freeSlots := if_neg h

theorem Inv.enter (h : run.Inv) :
    Inv ⟨run.group.ensureSlotAllocatorInitialized, run.entered, run.held⟩ := by
  by_cases hrebuild : run.group.rebuildsFreeSlots = true
  · rw [entered, if_pos hrebuild]
    apply h.rebuild (sameLeases_ensure run.group)
    intro leaf lease hhold
    rw [freeSlots_of_rebuild hrebuild]
    exact not_mem_unleasedSlots hhold
  · rw [entered, if_neg hrebuild]
    refine h.shrink (generation_ensure run.group) ?_ (fun _ _ hc => hc) (fun _ _ ho => ho) h.keyed
      h.recorded h.kept h.active_current
    intro slot hslot
    exact freeSlots_of_no_rebuild hrebuild ▸ hslot

def taken (run : SlotRun) (leaf : Bytes32) (slot : Nat) : SlotRun :=
  ⟨{ run.group with freeSlots := run.group.freeSlots.erase slot },
    run.outstanding.insert leaf ⟨slot, run.group.generation slot⟩, run.held⟩

theorem taken_outstanding {l : Bytes32} {slot : Nat}
    (h : (run.taken leaf slot).outstanding.get? l = some lease) :
    run.outstanding.get? l = some lease ∧ l ≠ leaf ∨
      l = leaf ∧ lease = ⟨slot, run.group.generation slot⟩ := by
  change (run.outstanding.insert leaf _).get? l = some lease at h
  rw [OrdMap.get?_insert] at h
  split_ifs at h with hl
  · exact .inr ⟨hl, (Option.some.inj h).symm⟩
  · exact .inl ⟨h, hl⟩

theorem Inv.take (h : run.Inv) {slot : Nat} (hslot : slot ∈ run.group.freeSlots)
    (hleaf : ∀ lease, (leaf, lease) ∉ run.group.holdings) :
    (run.taken leaf slot).Inv := by
  -- Nobody claims the current lease of a free slot.
  have hunclaimed : ∀ l, ¬ run.Claims l ⟨slot, run.group.generation slot⟩ :=
    fun l hc => h.not_free l _ hc rfl hslot
  have hclaims : ∀ l x, (run.taken leaf slot).Claims l x →
      run.Claims l x ∨ l = leaf ∧ x = ⟨slot, run.group.generation slot⟩ := by
    rintro l x (hheld | ho)
    · exact .inl (.inl hheld)
    · exact (taken_outstanding ho).imp (fun ho => .inr ho.1) id
  constructor
  · exact h.keyed
  · intro l l' x hcl hcl'
    rcases hclaims l x hcl with hc | ⟨hl, hx⟩ <;> rcases hclaims l' x hcl' with hc' | ⟨hl', hx'⟩
    · exact h.unique l l' x hc hc'
    · exact absurd (hx' ▸ hc) (hunclaimed l)
    · exact absurd (hx ▸ hc') (hunclaimed l')
    · rw [hl, hl']
  · exact h.recorded
  · intro l x hcl
    rcases hclaims l x hcl with hc | ⟨_, rfl⟩
    · exact h.le_generation l x hc
    · exact le_rfl
  · intro l x hcl hcur hfree
    obtain ⟨hne, hfree⟩ := OrdMap.mem_erase.mp hfree
    rcases hclaims l x hcl with hc | ⟨_, rfl⟩
    · exact h.not_free l x hc hcur hfree
    · exact hne rfl
  · exact h.kept
  · exact h.active_current
  · intro l x x' ho ho'
    have howns : ∀ y, (run.taken leaf slot).Owns l y →
        run.Owns l y ∧ l ≠ leaf ∨ l = leaf ∧ y = ⟨slot, run.group.generation slot⟩ := by
      rintro y (ho | hp)
      · exact (taken_outstanding ho).imp (fun ho => ⟨.inl ho.1, ho.2⟩) id
      · exact .inl ⟨.inr hp, fun hl => hleaf y (hl ▸ hp)⟩
    rcases howns x ho with ⟨hx, hl⟩ | ⟨hl, hx⟩ <;> rcases howns x' ho' with ⟨hx', hl'⟩ | ⟨hl', hx'⟩
    · exact h.owns_eq l x x' hx hx'
    · exact absurd hl' hl
    · exact absurd hl hl'
    · rw [hx, hx']

def released (run : SlotRun) (leaf : Bytes32) (lease : SlotLease) : SlotRun :=
  ⟨{ run.group with
      leafSlotLeases := run.group.leafSlotLeases.erase leaf
      slotGenerations := run.group.slotGenerations.insert lease.slotIndex
        (min (lease.slotGeneration + 1) U64_MAX)
      freeSlots := run.group.freeSlots.add lease.slotIndex },
    run.outstanding, run.held⟩

theorem released_generation (hmax : lease.slotGeneration < U64_MAX) (slot : Nat) :
    (run.released leaf lease).group.generation slot =
      if slot = lease.slotIndex then lease.slotGeneration + 1 else run.group.generation slot := by
  change ((run.group.slotGenerations.insert _ _).get? slot).getD 0 = _
  rw [OrdMap.get?_insert]
  split_ifs
  · exact min_eq_left hmax
  · rfl

theorem released_holdings {l : Bytes32} {x : SlotLease} :
    (l, x) ∈ (run.released leaf lease).group.holdings ↔
      run.group.leafSlotLeases.get? l = some x ∧ l ≠ leaf ∨
        (run.group.pendingJoinFinalizeAuth.get? l).map (·.lease) = some x := by
  rw [GroupState.mem_holdings]
  change (run.group.leafSlotLeases.erase leaf).get? l = some x ∨ _ ↔ _
  rw [OrdMap.get?_erase]
  split_ifs with hl <;> simp [hl, released]

theorem Inv.release (h : run.Inv) (hactive : run.group.leafSlotLeases.get? leaf = some lease)
    (hmax : lease.slotGeneration < U64_MAX) : (run.released leaf lease).Inv := by
  have hcurrent : run.Current lease := h.active_current leaf lease hactive
  -- The new generation of the slot is above every lease of it so far.
  have hslot : ∀ l x, run.Claims l x → (run.released leaf lease).Current x →
      x.slotIndex ≠ lease.slotIndex ∧ run.Current x := by
    intro l x hc hcur
    have hle := h.le_generation l x hc
    rw [Current, released_generation hmax] at hcur
    split_ifs at hcur with heq
    · rw [heq, ← hcurrent] at hle
      omega
    · exact ⟨heq, hcur⟩
  constructor
  · exact h.keyed
  · exact h.unique
  · intro l x hp
    apply h.recorded l x
    rw [GroupState.mem_holdings]
    exact (released_holdings.mp hp).imp And.left id
  · intro l x hc
    rw [released_generation hmax]
    have hle := h.le_generation l x hc
    split_ifs with heq
    · rw [heq, ← hcurrent] at hle
      omega
    · exact hle
  · intro l x hc hcur hfree
    obtain ⟨hne, hcur⟩ := hslot l x hc hcur
    rcases OrdSet.mem_add.mp hfree with heq | hfree
    · exact hne heq
    · exact h.not_free l x hc hcur hfree
  · intro l x hheld hcur
    obtain ⟨hne, hcur⟩ := hslot l x (.inl hheld) hcur
    rw [released_holdings]
    refine (GroupState.mem_holdings.mp (h.kept l x hheld hcur)).imp (fun ha => ⟨ha, ?_⟩) id
    rintro rfl
    rw [hactive] at ha
    exact hne (congrArg SlotLease.slotIndex (Option.some.inj ha).symm)
  · intro l x ha
    change (run.group.leafSlotLeases.erase leaf).get? l = some x at ha
    rw [OrdMap.get?_erase] at ha
    split_ifs at ha with hl
    have hcur := h.active_current l x ha
    rw [Current, released_generation hmax, if_neg]
    · exact hcur
    -- Two active leases on one slot would be the same lease of two leaves.
    · intro heq
      have hx : x = lease := by
        cases x
        cases lease
        simp only [Current] at hcur hcurrent heq
        simp [heq, hcur, hcurrent]
      subst hx
      exact hl (h.unique l leaf x
        (.inl (h.recorded l x (GroupState.mem_holdings.mpr (.inl ha))))
        (.inl (h.recorded leaf x (GroupState.mem_holdings.mpr (.inl hactive)))))
  · intro l x x' ho ho'
    have howns : ∀ y, (run.released leaf lease).Owns l y → run.Owns l y := by
      rintro y (ho | hp)
      · exact .inl ho
      · exact .inr (GroupState.mem_holdings.mpr ((released_holdings.mp hp).imp And.left id))
    exact h.owns_eq l x x' (howns x ho) (howns x' ho')

section
variable {group : GroupState} {leaf : Bytes32} {lease : SlotLease}

theorem allocate_of_active (h : group.leafSlotLeases.get? leaf = some lease) :
    GroupState.allocateSlotLease leaf group = .ok lease group := by
  refine EStateM.bind_eq_ok.mpr ⟨group, group, rfl, ?_⟩
  rw [h]
  rfl

theorem allocate_of_pending {record : JoinFinalizeAuthRecord}
    (hactive : group.leafSlotLeases.get? leaf = none)
    (h : group.pendingJoinFinalizeAuth.get? leaf = some record) :
    GroupState.allocateSlotLease leaf group = .ok record.lease group := by
  refine EStateM.bind_eq_ok.mpr ⟨group, group, rfl, ?_⟩
  rw [hactive, h]
  rfl

theorem allocate_exhausted (hactive : group.leafSlotLeases.get? leaf = none)
    (hpending : group.pendingJoinFinalizeAuth.get? leaf = none)
    (hfree : group.ensureSlotAllocatorInitialized.freeSlots.keys = []) :
    GroupState.allocateSlotLease leaf group =
      .error (.invalidInput "slot allocator exhausted") group.ensureSlotAllocatorInitialized := by
  refine (EStateM.bind_of_ok (t := group) rfl).trans ?_
  rw [hactive, hpending]
  refine (EStateM.bind_of_ok (t := group.ensureSlotAllocatorInitialized) rfl).trans ?_
  rw [hfree]
  rfl

theorem allocate_fresh {slot : Nat} {rest : List Nat}
    (hactive : group.leafSlotLeases.get? leaf = none)
    (hpending : group.pendingJoinFinalizeAuth.get? leaf = none)
    (hfree : group.ensureSlotAllocatorInitialized.freeSlots.keys = slot :: rest) :
    GroupState.allocateSlotLease leaf group =
      .ok ⟨slot, group.ensureSlotAllocatorInitialized.generation slot⟩
        { group.ensureSlotAllocatorInitialized with
          freeSlots := group.ensureSlotAllocatorInitialized.freeSlots.erase slot } := by
  refine EStateM.bind_eq_ok.mpr ⟨group, group, rfl, ?_⟩
  rw [hactive, hpending]
  refine EStateM.bind_eq_ok.mpr ⟨(), group.ensureSlotAllocatorInitialized, rfl, ?_⟩
  rw [hfree]
  rfl

/-- What activation can do to the allocator's part of a group: refuse a slot out
of range, refuse or repeat a lease after the free slots were initialised, or
bind the current lease of the slot to a leaf that has none. -/
inductive ActivateEffect (group : GroupState) (leaf : Bytes32) (lease : SlotLease)
    (group' : GroupState) : Prop
  | outOfRange (hslot : group.slotCapacity ≤ lease.slotIndex) (h : group' = group)
  | same (hslot : ¬ group.slotCapacity ≤ lease.slotIndex) (h : SameLeases group group')
      (hfree : group'.freeSlots = group.ensureSlotAllocatorInitialized.freeSlots)
  | bound (hslot : ¬ group.slotCapacity ≤ lease.slotIndex)
      (hnone : group.leafSlotLeases.get? leaf = none)
      (hcurrent : lease.slotGeneration = group.generation lease.slotIndex)
      (hactive : group'.leafSlotLeases = group.leafSlotLeases.insert leaf lease)
      (hpending : group'.pendingJoinFinalizeAuth = group.pendingJoinFinalizeAuth)
      (hgen : ∀ slot, group'.generation slot = group.generation slot)
      (hfree : group'.freeSlots =
        group.ensureSlotAllocatorInitialized.freeSlots.erase lease.slotIndex)

theorem lookUpGeneration_generation (group : GroupState) (slotIndex slot : Nat) :
    (group.lookUpGeneration slotIndex).generation slot = group.generation slot := by
  rw [← generation_ensure group slot]
  change ((OrdMap.insertNew _ slotIndex 0).get? slot).getD 0 = _
  rw [OrdMap.get?_insertNew]
  split_ifs with h
  · subst h
    simp [GroupState.generation]
  · rfl

theorem reserve_final (group : GroupState) (leaf : Bytes32) (lease : SlotLease) :
    group.slotCapacity ≤ lease.slotIndex ∧
        (GroupState.reserveSlotLease leaf lease).final group = group ∨
      lease.slotIndex < group.slotCapacity ∧
        (GroupState.reserveSlotLease leaf lease).final group =
          group.lookUpGeneration lease.slotIndex ∨
      lease.slotIndex < group.slotCapacity ∧
        lease.slotGeneration = group.generation lease.slotIndex ∧
        group.leafSlotLeases.get? leaf = none ∧
        (GroupState.reserveSlotLease leaf lease).final group =
          { group.lookUpGeneration lease.slotIndex with
            freeSlots := (group.lookUpGeneration lease.slotIndex).freeSlots.erase lease.slotIndex
            leafSlotLeases := group.leafSlotLeases.insert leaf lease } := by
  have hrun : GroupState.reserveSlotLease leaf lease group = _ :=
    EStateM.bind_of_ok (t := group) rfl
  by_cases hslot : group.slotCapacity ≤ lease.slotIndex
  · rw [if_pos hslot] at hrun
    rw [EStateM.final, hrun]
    exact .inl ⟨hslot, rfl⟩
  rw [if_neg hslot] at hrun
  replace hrun := hrun.trans (EStateM.bind_of_ok (t := group.lookUpGeneration _) rfl)
  rw [lookUpGeneration_generation group lease.slotIndex] at hrun
  by_cases hcurrent : group.generation lease.slotIndex ≠ lease.slotGeneration
  · rw [if_pos hcurrent] at hrun
    rw [EStateM.final, hrun]
    exact .inr (.inl ⟨not_le.mp hslot, rfl⟩)
  rw [if_neg hcurrent] at hrun
  replace hrun := hrun.trans (EStateM.bind_of_ok (t := group.lookUpGeneration _) rfl)
  have hactive : (group.lookUpGeneration lease.slotIndex).leafSlotLeases = group.leafSlotLeases := rfl
  rw [hactive] at hrun
  cases hleaf : group.leafSlotLeases.get? leaf with
  | some existing =>
    rw [hleaf] at hrun
    dsimp only at hrun
    rw [EStateM.final, hrun]
    split_ifs
    · exact .inr (.inl ⟨not_le.mp hslot, rfl⟩)
    · exact .inr (.inl ⟨not_le.mp hslot, rfl⟩)
  | none =>
    rw [hleaf] at hrun
    rw [EStateM.final, hrun]
    exact .inr (.inr ⟨not_le.mp hslot, (not_not.mp hcurrent).symm, rfl, rfl⟩)

theorem reserve_effect (group : GroupState) (leaf : Bytes32) (lease : SlotLease) :
    ActivateEffect group leaf lease ((GroupState.reserveSlotLease leaf lease).final group) := by
  have hgen := lookUpGeneration_generation group lease.slotIndex
  rcases reserve_final group leaf lease with ⟨hslot, hfinal⟩ | ⟨hslot, hfinal⟩ |
    ⟨hslot, hcurrent, hnone, hfinal⟩
  · exact .outOfRange hslot hfinal
  · rw [hfinal]
    exact .same (not_le.mpr hslot) ⟨rfl, rfl, hgen⟩ rfl
  · rw [hfinal]
    exact .bound (not_le.mpr hslot) hnone hcurrent rfl rfl hgen rfl

theorem activate_effect (group : GroupState) (leaf : Bytes32) (lease : SlotLease) :
    ActivateEffect group leaf lease ((GroupState.activateSlotLease leaf lease).final group) := by
  have h := reserve_effect group leaf lease
  unfold EStateM.final GroupState.activateSlotLease
  unfold EStateM.final at h
  cases hrun : GroupState.reserveSlotLease leaf lease group with
  | error e t =>
    rw [EStateM.bind_of_error hrun]
    rwa [hrun] at h
  | ok u t =>
    rw [EStateM.bind_of_ok hrun]
    rw [hrun] at h
    -- The revoked leaf and its old lease are forgotten; the leases stay.
    cases h with
    | outOfRange hslot ht =>
      have hrange : GroupState.reserveSlotLease leaf lease group =
          .error (.invalidInput "slot lease index out of range") group := by
        refine (EStateM.bind_of_ok (t := group) rfl).trans ?_
        rw [if_pos hslot]
        rfl
      rw [hrange] at hrun
      cases hrun
    | same hslot ht hfree => exact .same hslot ⟨ht.active, ht.pending, ht.generation⟩ hfree
    | bound hslot hnone hcurrent hactive hpending hgen hfree =>
      exact .bound hslot hnone hcurrent hactive hpending hgen hfree

theorem release_none (h : group.leafSlotLeases.get? leaf = none) :
    (GroupState.releaseSlotLease leaf).final group = group.ensureSlotAllocatorInitialized := by
  have hrun : GroupState.releaseSlotLease leaf group = _ := EStateM.bind_of_ok (t := group) rfl
  replace hrun := hrun.trans (EStateM.bind_of_ok (t := group.ensureSlotAllocatorInitialized) rfl)
  rw [show group.ensureSlotAllocatorInitialized.leafSlotLeases = group.leafSlotLeases from rfl, h]
    at hrun
  rw [EStateM.final, hrun]
  rfl

theorem release_some (h : group.leafSlotLeases.get? leaf = some lease)
    (out : OrdMap Bytes32 SlotLease) (held : List (Bytes32 × SlotLease)) :
    (GroupState.releaseSlotLease leaf).final group =
      (released ⟨group.ensureSlotAllocatorInitialized, out, held⟩ leaf lease).group := by
  have hrun : GroupState.releaseSlotLease leaf group = _ := EStateM.bind_of_ok (t := group) rfl
  replace hrun := hrun.trans (EStateM.bind_of_ok (t := group.ensureSlotAllocatorInitialized) rfl)
  rw [show group.ensureSlotAllocatorInitialized.leafSlotLeases = group.leafSlotLeases from rfl, h]
    at hrun
  rw [EStateM.final, hrun]
  rfl

end

theorem Inv.next_own (h : run.Inv) (hhold : (leaf, lease) ∈ run.group.holdings) :
    (run.next run.group (run.outstanding.insert leaf lease)).Inv := by
  apply h.next_same ⟨rfl, rfl, fun _ => rfl⟩ fun _ hs => hs
  intro l x hx
  rw [OrdMap.get?_insert] at hx
  split_ifs at hx with hl
  · rw [hl, ← Option.some.inj hx]
    exact .inr hhold
  · exact .inl hx

section
variable {hL : HashL} {dec : WireDecoder} {hex : HexCodec} {gid : Bytes} {run run' : SlotRun}

variable {leaf : Bytes32} {lease : SlotLease}

theorem Inv.allocate (h : run.Inv) (hstep : run.step hL dec hex gid (.allocate leaf) = some run') :
    run'.Inv := by
  obtain rfl := Option.some.inj hstep
  rw [EStateM.final, EStateM.value]
  cases hactive : run.group.leafSlotLeases.get? leaf with
  | some lease =>
    have hleased : run.leased leaf = true := by simp [leased, OrdMap.mem_iff, hactive]
    rw [allocate_of_active hactive, if_pos hleased]
    exact h.next_own (GroupState.mem_holdings.mpr (.inl hactive))
  | none =>
    cases hpending : run.group.pendingJoinFinalizeAuth.get? leaf with
    | some record =>
      have hleased : run.leased leaf = true := by simp [leased, OrdMap.mem_iff, hpending]
      rw [allocate_of_pending hactive hpending, if_pos hleased]
      exact h.next_own (GroupState.mem_holdings.mpr (.inr (by rw [hpending]; rfl)))
    | none =>
      have hleased : ¬ run.leased leaf = true := by
        simp [leased, OrdMap.mem_iff, hactive, hpending]
      rw [if_neg hleased]
      cases hfree : run.group.ensureSlotAllocatorInitialized.freeSlots.keys with
      | nil =>
        rw [allocate_exhausted hactive hpending hfree]
        exact h.enter.record
      | cons slot rest =>
        rw [allocate_fresh hactive hpending hfree]
        have hslot : slot ∈ run.group.ensureSlotAllocatorInitialized.freeSlots :=
          OrdMap.mem_keys.mp (hfree ▸ List.mem_cons_self)
        have hnone : ∀ lease, (leaf, lease) ∉ run.group.holdings := by
          intro lease hhold
          rcases GroupState.mem_holdings.mp hhold with ha | hp
          · rw [hactive] at ha
            cases ha
          · rw [hpending] at hp
            cases hp
        exact (h.enter.take hslot hnone).record

theorem Inv.insertPending (h : run.Inv) {token : Bytes32} (howns : run.Owns leaf lease)
    (hstep : run.step hL dec hex gid (.insertPending leaf lease token) = some run') :
    run'.Inv := by
  obtain rfl := Option.some.inj hstep
  apply h.next_bind howns
  · exact fun _ => rfl
  · exact fun _ hs => hs
  · intro l x
    simp only [GroupState.mem_holdings, GroupState.insertPending, OrdMap.get?_insert]
    by_cases hl : l = leaf
    · subst hl
      rw [if_pos rfl, Option.map_some, Option.some.injEq]
      constructor
      · rintro (ha | rfl)
        · exact .inl (.inl ha)
        · exact .inr ⟨rfl, rfl⟩
      · rintro ((ha | hp) | ⟨_, rfl⟩)
        · exact .inl ha
        -- A ticket that is replaced named the same lease.
        · exact .inr (h.owns_eq l lease x howns (.inr (GroupState.mem_holdings.mpr (.inr hp))))
        · exact .inr rfl
    · simp [hl]
  · intro l record hrecord
    change (run.group.pendingJoinFinalizeAuth.insert leaf ⟨leaf, lease, token⟩).get? l = _ at hrecord
    rw [OrdMap.get?_insert] at hrecord
    split_ifs at hrecord with hl
    · rw [hl, ← Option.some.inj hrecord]
    · exact h.keyed l record hrecord
  · exact h.active_current

theorem holdings_of_bound {group group' : GroupState}
    (hnone : group.leafSlotLeases.get? leaf = none)
    (hactive : group'.leafSlotLeases = group.leafSlotLeases.insert leaf lease)
    (hpending : group'.pendingJoinFinalizeAuth = group.pendingJoinFinalizeAuth) (l : Bytes32)
    (x : SlotLease) :
    (l, x) ∈ group'.holdings ↔ (l, x) ∈ group.holdings ∨ l = leaf ∧ x = lease := by
  rw [GroupState.mem_holdings, GroupState.mem_holdings, hactive, hpending, OrdMap.get?_insert]
  split_ifs with hl
  · subst hl
    rw [hnone, Option.some.injEq]
    simp only [reduceCtorEq, false_or, true_and]
    rw [or_comm, eq_comm (a := lease)]
  · simp [hl]

theorem Inv.current_of_bound (h : run.Inv) {group : GroupState} (hcurrent : run.Current lease)
    (hactive : group.leafSlotLeases = run.group.leafSlotLeases.insert leaf lease) (l : Bytes32)
    (x : SlotLease) (hx : group.leafSlotLeases.get? l = some x) : run.Current x := by
  rw [hactive, OrdMap.get?_insert] at hx
  split_ifs at hx
  · exact Option.some.inj hx ▸ hcurrent
  · exact h.active_current l x hx

theorem Inv.activate (h : run.Inv) (howns : run.Owns leaf lease)
    (hstep : run.step hL dec hex gid (.activate leaf lease) = some run') : run'.Inv := by
  obtain rfl := Option.some.inj hstep
  cases activate_effect run.group leaf lease with
  | outOfRange hslot hgroup =>
    rw [hgroup, if_pos hslot]
    exact h.record
  | same hslot hsame hfree =>
    rw [if_neg hslot]
    exact h.enter.next_same ⟨hsame.active, hsame.pending, fun slot => by
      rw [hsame.generation, generation_ensure]⟩ (fun _ hs => hfree ▸ hs) fun _ _ ho => .inl ho
  | bound hslot hnone hcurrent hactive hpending hgen hfree =>
    rw [if_neg hslot]
    have hhold := holdings_of_bound hnone hactive hpending
    have hkeyed : ∀ l record, ((GroupState.activateSlotLease leaf lease).final
        run.group).pendingJoinFinalizeAuth.get? l = some record → record.leafId = l :=
      fun l record hr => h.keyed l record (hpending ▸ hr)
    have hcur := h.current_of_bound hcurrent hactive
    by_cases hrebuild : run.group.rebuildsFreeSlots = true
    · rw [entered, if_pos hrebuild]
      -- First the lease is bound, then the free slots are rebuilt around it.
      have hbound : (run.next (run.group.bindActive leaf lease) run.outstanding).Inv := by
        apply h.next_bind howns
        · exact fun _ => rfl
        · exact fun _ hs => hs
        · exact holdings_of_bound hnone rfl rfl
        · exact h.keyed
        · exact h.current_of_bound hcurrent rfl
      have hsame : SameLeases (run.group.bindActive leaf lease)
          ((GroupState.activateSlotLease leaf lease).final run.group) :=
        ⟨hactive, hpending, hgen⟩
      rw [next, hsame.holdings]
      apply hbound.rebuild hsame
      intro l x hx hslot
      rw [hfree, freeSlots_of_rebuild hrebuild] at hslot
      obtain ⟨hne, hslot⟩ := OrdMap.mem_erase.mp hslot
      have hmem : (l, x) ∈ (run.group.bindActive leaf lease).holdings ↔
          (l, x) ∈ run.group.holdings ∨ l = leaf ∧ x = lease :=
        holdings_of_bound hnone (by rfl) (by rfl) l x
      rcases hmem.mp hx with hx | ⟨_, rfl⟩
      · exact not_mem_unleasedSlots hx hslot
      · exact hne rfl
    · rw [entered, if_neg hrebuild]
      refine h.next_bind howns hgen ?_ hhold hkeyed hcur
      intro slot hs
      rw [hfree, freeSlots_of_no_rebuild hrebuild] at hs
      exact (OrdMap.mem_erase.mp hs).2

theorem Inv.releaseStep (h : run.Inv)
    (hmax : ∀ lease, run.group.leafSlotLeases.get? leaf = some lease →
      lease.slotGeneration < U64_MAX) (hstep : run.step hL dec hex gid (.release leaf) = some run') :
    run'.Inv := by
  obtain rfl := Option.some.inj hstep
  cases hactive : run.group.leafSlotLeases.get? leaf with
  | none =>
    rw [release_none hactive]
    exact h.enter.record
  | some lease =>
    rw [release_some hactive run.entered run.held]
    exact (h.enter.release hactive (hmax lease hactive)).record

theorem persisted_slots (group : GroupState) (kbroadPublic : Bytes) (generation : Nat)
    (rotation : Bool) (hkeyed : ∀ leaf record,
      group.pendingJoinFinalizeAuth.get? leaf = some record → record.leafId = leaf) :
    let room := persistedKbroadRoomState hex (some group) kbroadPublic generation rotation []
    decodePersistedLeafSlotLeases hex room.activeSlotLeases = group.leafSlotLeases ∧
    decodePersistedJoinFinalizeAuth hex room.pendingJoinFinalizeAuth =
      group.pendingJoinFinalizeAuth := by
  have hcore : (pruneBarrierPublicTreeHistory.final group).withoutHistory =
      group.withoutHistory := KeepsCore.prune group
  have hleases : (pruneBarrierPublicTreeHistory.final group).leafSlotLeases =
      group.leafSlotLeases := by
    have h := congrArg GroupState.leafSlotLeases hcore
    exact h
  have hpending : (pruneBarrierPublicTreeHistory.final group).pendingJoinFinalizeAuth =
      group.pendingJoinFinalizeAuth := by
    have h := congrArg GroupState.pendingJoinFinalizeAuth hcore
    exact h
  constructor
  · change decodePersistedLeafSlotLeases hex (persistedLeafSlotLeases hex _) = _
    rw [decodePersistedLeafSlotLeases_persisted, hleases]
  · change decodePersistedJoinFinalizeAuth hex (persistedJoinFinalizeAuth hex _) = _
    rw [decodePersistedJoinFinalizeAuth_persisted, hpending]
    rwa [hpending]

/-- A restore keeps the leases and loses the generations, which does no harm
while they are all zero. -/
theorem Inv.saveRestore (h : run.Inv) {kbroadPublic : Bytes}
    (hzero : ∀ slot, run.group.generation slot = 0)
    (hstep : run.step hL dec hex gid (.saveRestore kbroadPublic) = some run') : run'.Inv := by
  unfold step at hstep
  dsimp only at hstep
  split at hstep
  · rename_i u group hrestore
    obtain rfl := Option.some.inj hstep
    obtain ⟨hactive, hpending, hgenerations, hfree⟩ := applyPersistedRoomState_slots hrestore
    obtain ⟨hleases, htickets⟩ := persisted_slots run.group kbroadPublic
      run.group.kbroadGeneration run.group.rotationRequired h.keyed
    have hsame : SameLeases run.group group := by
      refine ⟨hactive.trans hleases, hpending.trans htickets, ?_⟩
      intro slot
      rw [hzero, GroupState.generation, hgenerations]
      rfl
    apply h.next_same hsame
    · intro slot hslot
      rw [hfree] at hslot
      exact absurd hslot (OrdMap.not_mem_empty slot)
    · exact fun _ _ ho => nomatch ho
  · cases hstep

theorem Inv.step (h : run.Inv) {op : SlotOp} (hcare : run.Careful op)
    (hstep : run.step hL dec hex gid op = some run') : run'.Inv := by
  cases op with
  | allocate leaf => exact h.allocate hstep
  | insertPending leaf lease token => exact h.insertPending hcare hstep
  | activate leaf lease => exact h.activate hcare hstep
  | release leaf => exact h.releaseStep hcare hstep
  | saveRestore kbroadPublic => exact h.saveRestore hcare hstep

def Fresh (run : SlotRun) : Prop := ∃ nMax, run = { group := { nMax } }

theorem Fresh.inv (h : run.Fresh) : run.Inv := by
  obtain ⟨nMax, rfl⟩ := h
  constructor
  · exact fun leaf record hr => nomatch hr
  · rintro leaf leaf' lease (hheld | ho)
    · exact absurd hheld List.not_mem_nil
    · cases ho
  · intro leaf lease hhold
    rcases GroupState.mem_holdings.mp hhold with ha | hp
    · cases ha
    · cases hp
  · rintro leaf lease (hheld | ho)
    · exact absurd hheld List.not_mem_nil
    · cases ho
  · exact fun leaf lease _ _ => OrdMap.not_mem_empty _
  · exact fun leaf lease hheld => absurd hheld List.not_mem_nil
  · exact fun leaf lease ha => nomatch ha
  · rintro leaf lease lease' (ho | hp)
    · cases ho
    · rcases GroupState.mem_holdings.mp hp with ha | hp
      · cases ha
      · cases hp

end

end SlotRun

/-- In every run whose tickets and activations name the leaf's own lease, whose
releases do not saturate the generation and whose restores lose no generation,
no lease is ever held by two leaves. -/
theorem slot_leases_held_once (hL : HashL) (dec : WireDecoder) (hex : HexCodec) (gid : Bytes)
    (run : SlotRun)
    (h : Run.Reach SlotRun.Fresh (SlotRun.step hL dec hex gid) SlotRun.Careful run)
    (leaf leaf' : Bytes32) (lease : SlotLease) (hleaf : (leaf, lease) ∈ run.held)
    (hleaf' : (leaf', lease) ∈ run.held) : leaf = leaf' := by
  have hinv : run.Inv := h.invariant (fun _ hfresh => hfresh.inv)
    (fun _ _ _ hi hcare hstep => hi.step hcare hstep)
  exact hinv.unique leaf leaf' lease (.inl hleaf) (.inl hleaf')

def charCodec : HexCodec where
  encode b := b.map fun byte => Char.ofNat byte.val
  decode s := some (s.map fun c => Fin.ofNat 256 c.toNat)
  decode_encode b := by
    have hbyte : ∀ byte : Byte, Fin.ofNat 256 (Char.ofNat byte.val).toNat = byte := by
      decide +kernel
    rw [List.map_map, Option.some.injEq]
    conv_rhs => rw [← List.map_id b]
    exact List.map_congr_left fun byte _ => hbyte byte

def blankHash : HashL := fun _ _ => Bytes32.zero

def blankDecoder : WireDecoder := ⟨fun _ => none, fun _ => none, fun _ => none⟩

/-- Leaf 1 holds the first lease of slot 0 and gives it back. After a restore
the generation starts over, and leaf 2 holds the same lease. -/
theorem slot_lease_held_again_after_restore :
    ∃ run, Run.exec (SlotRun.step blankHash blankDecoder charCodec []) { group := { nMax := 2 } }
        [.allocate (Bytes32.fill 1), .activate (Bytes32.fill 1) ⟨0, 0⟩, .release (Bytes32.fill 1),
          .saveRestore [], .allocate (Bytes32.fill 2), .activate (Bytes32.fill 2) ⟨0, 0⟩] =
        some run ∧
      (Bytes32.fill 1, ⟨0, 0⟩) ∈ run.held ∧ (Bytes32.fill 2, ⟨0, 0⟩) ∈ run.held := by
  refine ⟨_, rfl, ?_, ?_⟩ <;> decide

theorem slot_leases_held_once_two_leaves :
    ∃ run, Run.exec (SlotRun.step blankHash blankDecoder charCodec []) { group := { nMax := 2 } }
        [.allocate (Bytes32.fill 1), .insertPending (Bytes32.fill 1) ⟨0, 0⟩ Bytes32.zero,
          .activate (Bytes32.fill 1) ⟨0, 0⟩, .release (Bytes32.fill 1),
          .allocate (Bytes32.fill 2), .activate (Bytes32.fill 2) ⟨0, 1⟩] = some run ∧
      (Bytes32.fill 2, ⟨0, 1⟩) ∈ run.held ∧
      ∀ leaf, (leaf, ⟨0, 1⟩) ∈ run.held → leaf = Bytes32.fill 2 := by
  let Reached := Run.Reach SlotRun.Fresh (SlotRun.step blankHash blankDecoder charCodec [])
    SlotRun.Careful
  have h0 : Reached { group := { nMax := 2 } } := .start ⟨2, rfl⟩
  have h1 : Reached _ := .next (.allocate (Bytes32.fill 1)) h0 trivial rfl
  have h2 : Reached _ := .next (.insertPending (Bytes32.fill 1) ⟨0, 0⟩ Bytes32.zero) h1
    (.inl (by decide)) rfl
  have h3 : Reached _ := .next (.activate (Bytes32.fill 1) ⟨0, 0⟩) h2 (.inl (by decide)) rfl
  have h4 : Reached _ := .next (.release (Bytes32.fill 1)) h3 (by
    intro lease hlease
    obtain rfl : (⟨0, 0⟩ : SlotLease) = lease := Option.some.inj hlease
    decide) rfl
  have h5 : Reached _ := .next (.allocate (Bytes32.fill 2)) h4 trivial rfl
  have h6 : Reached _ := .next (.activate (Bytes32.fill 2) ⟨0, 1⟩) h5 (.inl (by decide)) rfl
  refine ⟨_, rfl, by decide, ?_⟩
  intro leaf hleaf
  exact slot_leases_held_once blankHash blankDecoder charCodec [] _ h6 leaf _ _ hleaf (by decide)

end CityG
