import CityG.Lib.Except
import CityG.Lib.Stateful
import CityG.Roster

/-!
# Slot leases

Every member holds a lease on a leaf slot of the barrier tree. A released slot
is leased again under the next generation.
-/

namespace CityG

def isPowerOfTwo (n : Nat) : Bool := n ≠ 0 ∧ 2 ^ n.log2 = n

def validateBarrierNMax (nMax : Nat) : Except CityGError Nat := do
  Except.ensure (isPowerOfTwo nMax)
    (.invalidInput "barrier n_max must be a non-zero power of two")
  Except.ensure (nMax ≤ MAX_BARRIER_N_MAX)
    (.invalidInput "barrier n_max exceeds MAX_BARRIER_N_MAX")
  pure nMax

theorem validateBarrierNMax_eq_ok {n m : Nat} (h : validateBarrierNMax n = .ok m) :
    m = n ∧ max n 1 = n := by
  simp only [validateBarrierNMax, Except.bind_eq_ok, Except.ensure_eq_ok, Except.pure_eq_ok] at h
  obtain ⟨_, hpow, _, -, rfl⟩ := h
  simp only [isPowerOfTwo, decide_eq_true_eq] at hpow
  exact ⟨rfl, max_eq_left (Nat.one_le_iff_ne_zero.mpr hpow.1)⟩

namespace GroupState

def slotCapacity (state : GroupState) : Nat := min (max state.nMax 1) U32_MAX

def generation (state : GroupState) (slotIndex : Nat) : Nat :=
  (state.slotGenerations.get? slotIndex).getD 0

def initialGenerations (state : GroupState) : OrdMap Nat Nat :=
  if state.slotGenerations.isEmpty then OrdMap.range state.slotCapacity fun _ => 0
  else state.slotGenerations

def unleasedSlots (state : GroupState) : OrdSet Nat :=
  let allSlots : OrdSet Nat := OrdMap.range state.slotCapacity fun _ => ()
  (allSlots.eraseAll (state.leafSlotLeases.values.map (·.slotIndex))).eraseAll
    (state.pendingJoinFinalizeAuth.values.map (·.lease.slotIndex))

def rebuildsFreeSlots (state : GroupState) : Bool :=
  state.freeSlots.isEmpty ∧ state.initialGenerations.size = state.slotCapacity

def ensureSlotAllocatorInitialized (state : GroupState) : GroupState :=
  { state with
    slotGenerations := state.initialGenerations
    freeSlots := if state.rebuildsFreeSlots then state.unleasedSlots else state.freeSlots }

/-- The leaf's own lease if it has one, else the lowest free slot. The lease is
taken out of the free slots but not yet bound to the leaf. -/
def allocateSlotLease (leafId : Bytes32) : EStateM CityGError GroupState SlotLease := do
  let state ← get
  match state.leafSlotLeases.get? leafId, state.pendingJoinFinalizeAuth.get? leafId with
  | some existing, _ => pure existing
  | none, some existing => pure existing.lease
  | none, none => do
    let state := state.ensureSlotAllocatorInitialized
    set state
    match state.freeSlots.keys with
    | [] => throw (.invalidInput "slot allocator exhausted")
    | slotIndex :: _ => do
      set { state with freeSlots := state.freeSlots.erase slotIndex }
      pure ⟨slotIndex, state.generation slotIndex⟩

def lookUpGeneration (state : GroupState) (slotIndex : Nat) : GroupState :=
  let state := state.ensureSlotAllocatorInitialized
  { state with slotGenerations := state.slotGenerations.insertNew slotIndex 0 }

def bindSlotLease (leafId : Bytes32) (lease : SlotLease) : EStateM CityGError GroupState Unit := do
  let state ← get
  match state.leafSlotLeases.get? leafId with
  | some existing =>
    if existing ≠ lease then throw (.invalidInput "leaf already bound to another slot lease")
    else pure ()
  | none =>
    set { state with
      freeSlots := state.freeSlots.erase lease.slotIndex
      leafSlotLeases := state.leafSlotLeases.insert leafId lease }

/-- The generation must be the slot's current one. Whether another leaf holds
the lease is not checked. -/
def reserveSlotLease (leafId : Bytes32) (lease : SlotLease) : EStateM CityGError GroupState Unit := do
  let state ← get
  if state.slotCapacity ≤ lease.slotIndex then
    throw (.invalidInput "slot lease index out of range")
  else do
    let state := state.lookUpGeneration lease.slotIndex
    set state
    if state.generation lease.slotIndex ≠ lease.slotGeneration then
      throw (.invalidInput "slot lease generation mismatch")
    else bindSlotLease leafId lease

def releaseSlotLease (leafId : Bytes32) : EStateM CityGError GroupState (Option SlotLease) := do
  let state := (← get).ensureSlotAllocatorInitialized
  set state
  match state.leafSlotLeases.get? leafId with
  | none => pure none
  | some lease => do
    set { state with
      leafSlotLeases := state.leafSlotLeases.erase leafId
      slotGenerations := state.slotGenerations.insert lease.slotIndex
        (min (lease.slotGeneration + 1) U64_MAX)
      freeSlots := state.freeSlots.add lease.slotIndex }
    pure (some lease)

def activateSlotLease (leafId : Bytes32) (lease : SlotLease) : EStateM CityGError GroupState Unit := do
  reserveSlotLease leafId lease
  modify fun state =>
    { state with
      revoked := state.revoked.erase leafId
      revokedSlotLeases := state.revokedSlotLeases.erase leafId }

def insertPending (state : GroupState) (record : JoinFinalizeAuthRecord) : GroupState :=
  { state with
    pendingJoinFinalizeAuth := state.pendingJoinFinalizeAuth.insert record.leafId record }

def finalizeSlotReclaim (state : GroupState) (lease : SlotLease) : GroupState :=
  let superseded := (state.revokedSlotLeases.filter
    fun e => e.2.slotIndex == lease.slotIndex).keys
  { state with
    revoked := state.revoked.eraseAll superseded
    revokedSlotLeases :=
      state.revokedSlotLeases.filter fun e => ¬ e.1 ∈ superseded }

end GroupState

def checkedInsertUnique {K V : Type} [LinearOrder K] [DecidableEq V] (map : OrdMap K V) (key : K)
    (value : V) (err : String) : Except CityGError (OrdMap K V) :=
  match map.get? key with
  | some existing => if existing ≠ value then .error (.invalidInput err) else .ok map
  | none => .ok (map.insert key value)

section Leases
variable (state : GroupState)

def requireActiveSlotLease (leaf : Bytes32) : Except CityGError SlotLease :=
  Except.ofOption (.invalidInput "missing active slot lease") (state.leafSlotLeases.get? leaf)

def requireRevokedSlotLease (leaf : Bytes32) : Except CityGError SlotLease :=
  Except.ofOption (.invalidInput "missing revoked slot lease") (state.revokedSlotLeases.get? leaf)

def pendingOrActiveLease (leaf : Bytes32) : Option SlotLease :=
  ((state.pendingJoinFinalizeAuth.get? leaf).map (·.lease)).or (state.leafSlotLeases.get? leaf)

def requirePendingOrActiveSlotLease (leaf : Bytes32) : Except CityGError SlotLease :=
  Except.ofOption (.invalidInput "missing pending or active slot lease")
    (pendingOrActiveLease state leaf)

def activeCoverLeafAllocations : Except CityGError (OrdMap Nat Bytes32) :=
  (match state.latestSnapshot with
    | some snapshot => snapshot.members.keys
    | none => []).foldlM (fun byIndex leaf => do
      let lease ← requireActiveSlotLease state leaf
      checkedInsertUnique byIndex lease.slotIndex leaf "duplicate active cover leaf allocation")
    .empty

def ensureDistinctActiveSlotIndices : Except CityGError Unit := do
  let _ ← activeCoverLeafAllocations state
  pure ()

def committedRevokedSlotIndices : OrdSet Nat :=
  OrdSet.ofList (state.revokedSlotLeases.values.map (·.slotIndex))

def reservedSlotIndices : Except CityGError (OrdSet Nat) := do
  let active ← activeCoverLeafAllocations state
  pure ((OrdSet.ofList active.keys).addAll
    (state.pendingJoinFinalizeAuth.values.map (·.lease.slotIndex)))

def ensureJoinSlotIndicesAvailable (joined : List Bytes32) : Except CityGError Unit := do
  let active ← activeCoverLeafAllocations state
  let others := state.pendingJoinFinalizeAuth.values.filter fun record => record.leafId ∉ joined
  let reserved := (OrdSet.ofList active.keys).addAll (others.map (·.lease.slotIndex))
  let _ ← joined.foldlM (fun reserved leaf => do
      let lease ← requirePendingOrActiveSlotLease state leaf
      Except.ensure (lease.slotIndex ∉ reserved) (.invalidInput "cover leaf index already allocated")
      pure (OrdSet.add reserved lease.slotIndex)) reserved
  pure ()

end Leases

end CityG
