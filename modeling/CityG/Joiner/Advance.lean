import CityG.Joiner.ForwardSecrecy

/-!
# Catching up with the clock

A device that was offline moves its ratchet to the epoch of the clock, a bounded
number of steps at a time. The key is fed the counter of every step, so what has
to be shown is that the slices leave no counter out and feed none twice.
-/

namespace CityG

/-- The retention and the size of the tau cache stand in `TauCache`. -/
structure ForwardSecrecyPolicy where
  epochPeriod : Nat
  epochBaseTs : Nat
  forwardSlack : Nat
  ratchetBudgetPerTick : Nat
  deriving DecidableEq

structure Clock where
  wall : Nat
  mono : Nat
  deriving DecidableEq

structure BoundaryCounter where
  epochBaseTs : Nat
  periodSecs : Nat
  forwardSlack : Nat
  t0 : Clock
  ec0 : Nat
  ecLocal : Nat
  deriving DecidableEq

structure ClockedState where
  fs : ForwardSecrecyState
  policy : ForwardSecrecyPolicy
  boundary : BoundaryCounter
  deriving DecidableEq

def computeWallEpoch (wallSecs baseTs period : Nat) : Nat :=
  if baseTs = 0 then 0
  else if wallSecs ≤ baseTs then 0
  else (wallSecs - baseTs) / period

namespace BoundaryCounter

def resetOrigin (fresh : Clock) (policy : ForwardSecrecyPolicy) (boundary : BoundaryCounter) :
    BoundaryCounter :=
  let period := max policy.epochPeriod 1
  let ec0 := computeWallEpoch fresh.wall policy.epochBaseTs period
  { epochBaseTs := policy.epochBaseTs
    periodSecs := period
    forwardSlack := policy.forwardSlack
    t0 := fresh
    ec0 := ec0
    ecLocal := max boundary.ecLocal ec0 }

def follow (now : Clock) (boundary : BoundaryCounter) : BoundaryCounter :=
  let period := max boundary.periodSecs 1
  let ecWall := computeWallEpoch now.wall boundary.epochBaseTs period
  let ecPred := min (boundary.ec0 + (now.mono - boundary.t0.mono) / period) U64_MAX
  let forwardCap := min (ecWall + boundary.forwardSlack) U64_MAX
  let target := min ecPred forwardCap
  if target > boundary.ecLocal then { boundary with ecLocal := target } else boundary

def update (now fresh : Clock) (policy : ForwardSecrecyPolicy) (boundary : BoundaryCounter) :
    BoundaryCounter :=
  if boundary.epochBaseTs ≠ policy.epochBaseTs then (boundary.resetOrigin fresh policy).follow now
  else boundary.follow now

theorem le_ecLocal_follow (now : Clock) (boundary : BoundaryCounter) :
    boundary.ecLocal ≤ (boundary.follow now).ecLocal := by
  simp only [follow]
  split
  · exact Nat.le_of_lt ‹_›
  · exact le_rfl

end BoundaryCounter

namespace FsHashes

def evolveThrough (hash : FsHashes) (weid : Bytes32) : Nat → Nat → Bytes32 → Bytes32
  | 0, _, key => key
  | steps + 1, current, key =>
    hash.evolveThrough weid steps (current + 1) (hash.evolveKFs key weid (current + 1))

theorem evolveThrough_add (hash : FsHashes) (weid : Bytes32) (m n current : Nat) (key : Bytes32) :
    hash.evolveThrough weid (m + n) current key =
      hash.evolveThrough weid n (current + m) (hash.evolveThrough weid m current key) := by
  induction m generalizing current key with
  | zero => rw [Nat.zero_add, Nat.add_zero, evolveThrough]
  | succ m ih =>
    rw [Nat.succ_add, evolveThrough, ih, evolveThrough, Nat.add_right_comm, Nat.add_assoc]

end FsHashes

namespace ClockedState
variable (hash : FsHashes)

def ratchet (steps : Nat) (state : ClockedState) : ClockedState :=
  let ending := state.fs.fsEc + steps
  { state with
    fs := { state.fs with
      kFs := hash.evolveThrough state.fs.lastWeid steps state.fs.fsEc state.fs.kFs
      fsEc := ending }
    boundary := { state.boundary with ecLocal := max state.boundary.ecLocal ending } }

def advanceToWithBudget (targetEc budget : Nat) (state : ClockedState) : Nat × ClockedState :=
  if targetEc ≤ state.fs.fsEc then (0, state)
  else if state.fs.lastWeid = Bytes32.zero then
    (0, { state with
      fs := { state.fs with fsEc := targetEc }
      boundary := { state.boundary with ecLocal := max state.boundary.ecLocal targetEc } })
  else
    let steps := min (targetEc - state.fs.fsEc) budget
    (steps, state.ratchet hash steps)

/-- One call after the other towards one target. -/
def advanceInSlices (targetEc : Nat) (budgets : List Nat) (state : ClockedState) : ClockedState :=
  budgets.foldl (fun state budget => (state.advanceToWithBudget hash targetEc budget).2) state

def autonomicEvolveWithClock (now fresh : Clock) (state : ClockedState) : ClockedState :=
  let boundary := state.boundary.update now fresh state.policy
  let budget := max state.policy.ratchetBudgetPerTick 1
  ({ state with boundary }.advanceToWithBudget hash boundary.ecLocal budget).2

section Slices

variable {hash} {state : ClockedState} {targetEc limit : Nat}

theorem ratchet_ratchet (state : ClockedState) (m n : Nat) :
    (state.ratchet hash m).ratchet hash n = state.ratchet hash (m + n) := by
  simp only [ratchet, ← FsHashes.evolveThrough_add, Nat.add_assoc, max_assoc]
  rw [max_eq_right (show state.fs.fsEc + m ≤ state.fs.fsEc + (m + n) by omega)]

theorem advanceToWithBudget_of_le (h : targetEc ≤ state.fs.fsEc) (budget : Nat) :
    state.advanceToWithBudget hash targetEc budget = (0, state) := if_pos h

theorem advanceToWithBudget_of_lt (h : state.fs.fsEc < targetEc)
    (hweid : state.fs.lastWeid ≠ Bytes32.zero) (budget : Nat) :
    state.advanceToWithBudget hash targetEc budget =
      (min (targetEc - state.fs.fsEc) budget,
        state.ratchet hash (min (targetEc - state.fs.fsEc) budget)) := by
  rw [advanceToWithBudget, if_neg (Nat.not_le.mpr h), if_neg hweid]

theorem advanceToWithBudget_unlimited (h : state.fs.fsEc < targetEc)
    (hweid : state.fs.lastWeid ≠ Bytes32.zero) (hlimit : targetEc ≤ limit) :
    (state.advanceToWithBudget hash targetEc limit).2 =
      state.ratchet hash (targetEc - state.fs.fsEc) := by
  rw [advanceToWithBudget_of_lt h hweid, Nat.min_eq_left (by omega)]

theorem lastWeid_advanceToWithBudget (state : ClockedState) (budget : Nat) :
    (state.advanceToWithBudget hash targetEc budget).2.fs.lastWeid = state.fs.lastWeid := by
  unfold advanceToWithBudget
  split
  · rfl
  · split <;> rfl

theorem lastWeid_advanceInSlices (budgets : List Nat) (state : ClockedState) :
    (state.advanceInSlices hash targetEc budgets).fs.lastWeid = state.fs.lastWeid := by
  induction budgets generalizing state with
  | nil => rfl
  | cons budget budgets ih =>
    exact (ih _).trans (lastWeid_advanceToWithBudget state budget)

theorem advanceToWithBudget_step (hweid : state.fs.lastWeid ≠ Bytes32.zero) (budget : Nat) :
    let call := state.advanceToWithBudget hash targetEc budget
    call.1 ≤ budget ∧
      call.2.fs.kFs = hash.evolveThrough state.fs.lastWeid call.1 state.fs.fsEc state.fs.kFs ∧
      call.2.fs.fsEc = state.fs.fsEc + call.1 ∧
      call.2.fs.fsEc ≤ max state.fs.fsEc targetEc := by
  by_cases htarget : targetEc ≤ state.fs.fsEc
  · rw [advanceToWithBudget_of_le htarget]
    exact ⟨Nat.zero_le _, rfl, rfl, le_max_left _ _⟩
  · rw [advanceToWithBudget_of_lt (by omega) hweid]
    exact ⟨Nat.min_le_right _ _, rfl, rfl, by simp only [ratchet]; omega⟩

theorem advanceToWithBudget_then (hweid : state.fs.lastWeid ≠ Bytes32.zero)
    (hlimit : targetEc ≤ limit) (budget : Nat) :
    ((state.advanceToWithBudget hash targetEc budget).2.advanceToWithBudget hash targetEc limit).2 =
      (state.advanceToWithBudget hash targetEc limit).2 := by
  by_cases htarget : targetEc ≤ state.fs.fsEc
  · rw [advanceToWithBudget_of_le htarget]
  have hlt : state.fs.fsEc < targetEc := by omega
  rw [advanceToWithBudget_of_lt hlt hweid budget, advanceToWithBudget_unlimited hlt hweid hlimit]
  by_cases hbudget : targetEc - state.fs.fsEc ≤ budget
  · rw [Nat.min_eq_left hbudget, advanceToWithBudget_of_le (by simp only [ratchet]; omega)]
  · have hmoved : (state.ratchet hash budget).fs.fsEc < targetEc := by simp only [ratchet]; omega
    have hseen : (state.ratchet hash budget).fs.lastWeid ≠ Bytes32.zero := hweid
    rw [Nat.min_eq_right (by omega), advanceToWithBudget_unlimited hmoved hseen hlimit,
      ratchet_ratchet]
    congr 1
    simp only [ratchet]
    omega

theorem advanceInSlices_then (budgets : List Nat)
    (hweid : state.fs.lastWeid ≠ Bytes32.zero) (hlimit : targetEc ≤ limit) :
    ((state.advanceInSlices hash targetEc budgets).advanceToWithBudget hash targetEc limit).2 =
      (state.advanceToWithBudget hash targetEc limit).2 := by
  induction budgets generalizing state with
  | nil => rfl
  | cons budget budgets ih =>
    refine (ih ?_).trans (advanceToWithBudget_then hweid hlimit budget)
    exact (lastWeid_advanceToWithBudget state budget).trans_ne hweid

/-- The slices that reach the target end in the state of one unlimited call. Every call among them
takes at most its budget of steps, one for each counter, and the counter never passes the target. -/
theorem advanceInSlices_eq_unlimited (hash : FsHashes) (state : ClockedState) (targetEc : Nat)
    (budgets : List Nat) (hweid : state.fs.lastWeid ≠ Bytes32.zero) (htarget : targetEc ≤ U64_MAX) :
    (targetEc ≤ (state.advanceInSlices hash targetEc budgets).fs.fsEc →
      state.advanceInSlices hash targetEc budgets =
        (state.advanceToWithBudget hash targetEc U64_MAX).2) ∧
    ∀ earlier budget later, budgets = earlier ++ budget :: later →
      let before := state.advanceInSlices hash targetEc earlier
      let call := before.advanceToWithBudget hash targetEc budget
      call.1 ≤ budget ∧
        call.2.fs.kFs =
          hash.evolveThrough before.fs.lastWeid call.1 before.fs.fsEc before.fs.kFs ∧
        call.2.fs.fsEc = before.fs.fsEc + call.1 ∧
        call.2.fs.fsEc ≤ max before.fs.fsEc targetEc := by
  constructor
  · intro hreach
    rw [← advanceInSlices_then budgets hweid htarget, advanceToWithBudget_of_le hreach]
  · intro earlier budget later _
    exact advanceToWithBudget_step ((lastWeid_advanceInSlices earlier state).trans_ne hweid) budget

def idleHashes : FsHashes := ⟨fun _ _ => .zero, fun _ _ _ => .zero⟩

def seenState : ClockedState where
  fs := ⟨.zero, 4, .zero, ⟨List.replicate 32 1, rfl⟩, ⟨[], 600, 2000⟩⟩
  policy := ⟨300, 0, 0, 1024⟩
  boundary := ⟨0, 300, 0, ⟨0, 0⟩, 4, 4⟩

theorem advanceInSlices_eq_unlimited_seen :
    seenState.advanceInSlices idleHashes 9 [2, 2, 7] =
      (seenState.advanceToWithBudget idleHashes 9 U64_MAX).2 :=
  (advanceInSlices_eq_unlimited idleHashes seenState 9 [2, 2, 7] (by decide) (by decide)).1
    (by decide)

end Slices

section Ticks

/-- The largest counter that the wall clock allows at a tick. -/
def allowedEc (policy : ForwardSecrecyPolicy) (now : Clock) : Nat :=
  computeWallEpoch now.wall policy.epochBaseTs (max policy.epochPeriod 1) + policy.forwardSlack

/-- The ratchet is not ahead of the clock, which was set up under the policy. -/
structure InStep (bound : Nat) (state : ClockedState) : Prop where
  behind : state.fs.fsEc ≤ state.boundary.ecLocal
  within : state.boundary.ecLocal ≤ bound
  base : state.boundary.epochBaseTs = state.policy.epochBaseTs
  period : state.boundary.periodSecs = max state.policy.epochPeriod 1
  slack : state.boundary.forwardSlack = state.policy.forwardSlack

def ticks (clocks : List (Clock × Clock)) (state : ClockedState) : ClockedState :=
  clocks.foldl (fun state clock => state.autonomicEvolveWithClock hash clock.1 clock.2) state

variable {hash} {state : ClockedState} {bound : Nat}

theorem InStep.follow (h : state.InStep bound) {now : Clock}
    (hnow : allowedEc state.policy now ≤ bound) :
    InStep bound { state with boundary := state.boundary.follow now } := by
  have hlater := BoundaryCounter.le_ecLocal_follow now state.boundary
  have hwithin : (state.boundary.follow now).ecLocal ≤ bound := by
    have hold := h.within
    rw [allowedEc, ← h.base, ← h.period, ← h.slack] at hnow
    simp only [BoundaryCounter.follow, h.period, max_assoc, max_self] at hnow ⊢
    split
    · dsimp only
      omega
    · exact hold
  have hkept : ∃ ec, state.boundary.follow now = { state.boundary with ecLocal := ec } := by
    unfold BoundaryCounter.follow
    dsimp only
    split
    · exact ⟨_, rfl⟩
    · exact ⟨_, rfl⟩
  obtain ⟨ec, hec⟩ := hkept
  rw [hec] at hlater hwithin ⊢
  exact ⟨h.behind.trans hlater, hwithin, h.base, h.period, h.slack⟩

theorem InStep.advance (h : state.InStep bound) (budget : Nat) :
    let next := (state.advanceToWithBudget hash state.boundary.ecLocal budget).2
    next.InStep bound ∧ next.policy = state.policy ∧ state.fs.fsEc ≤ next.fs.fsEc := by
  unfold advanceToWithBudget
  split
  · exact ⟨h, rfl, le_rfl⟩
  · split
    · refine ⟨⟨le_max_right _ _, ?_, h.base, h.period, h.slack⟩, rfl, h.behind⟩
      exact max_le h.within h.within
    · refine ⟨⟨le_max_right _ _, max_le h.within ?_, h.base, h.period, h.slack⟩, rfl, Nat.le_add_right _ _⟩
      have := h.within
      omega

theorem InStep.tick (h : state.InStep bound) {now : Clock} (fresh : Clock)
    (hnow : allowedEc state.policy now ≤ bound) :
    let next := state.autonomicEvolveWithClock hash now fresh
    next.InStep bound ∧ next.policy = state.policy ∧ state.fs.fsEc ≤ next.fs.fsEc := by
  have hfollow : state.boundary.update now fresh state.policy = state.boundary.follow now :=
    if_neg (not_not.mpr h.base)
  unfold autonomicEvolveWithClock
  rw [hfollow]
  exact (h.follow hnow).advance _

def startedState : ClockedState :=
  { seenState with
    policy := ⟨300, 1000, 1, 1⟩
    boundary := ⟨1000, 300, 1, ⟨2200, 0⟩, 4, 4⟩ }

end Ticks

end ClockedState

end CityG
