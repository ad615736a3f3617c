import CityG.Roster

/-!
# Revoked leaves and the latest membership set

A delta may start from any stored snapshot, an old one included. The set it
produces is free of revoked leaves exactly when the revoked leaves of its base
are revoked by it again.
-/

namespace CityG

namespace GroupState

@[simp] theorem commitSnapshot_latestSnapshot (state : GroupState) (newRoot : Bytes32)
    (next : GroupMembership) : (state.commitSnapshot newRoot next).latestSnapshot = some next := by
  change (state.snapshots.insert newRoot next).get? newRoot = some next
  simp

structure Fits (delta : MembershipDelta) (base : GroupMembership) : Prop where
  revoked_mem : ∀ leaf ∈ delta.revoked, leaf ∈ base.members
  joined_not_mem : ∀ leaf ∈ delta.joined, leaf ∉ base.members

structure Applied (H : MerkleHash) (state : GroupState) (baseRoot : Bytes32)
    (delta : MembershipDelta) (state' : GroupState) (root : Bytes32) where
  base : GroupMembership
  base_eq : state.baseSnapshot baseRoot = some base
  fits : Fits delta base
  root_eq : canonicalSetRoot H (base.applyDelta delta).members.keys = .ok root
  latest_eq : state'.latestSnapshot = some (base.applyDelta delta)
  revoked_eq : state'.revoked = (state.revoked.eraseAll delta.joined).addAll delta.revoked

variable {H : MerkleHash} {state : GroupState} {baseRoot : Bytes32} {delta : MembershipDelta}

theorem applyDelta_ok {state' : GroupState} {root : Bytes32}
    (h : state.applyDelta H baseRoot delta = (state', .ok root)) :
    Nonempty (Applied H state baseRoot delta state' root) := by
  unfold applyDelta at h
  split at h
  · cases h
  · rename_i base hbase
    split_ifs at h with hrevoked hjoined
    · cases h
    · cases h
    · push Not at hrevoked hjoined
      dsimp only at h
      split at h
      · cases h
      · rename_i newRoot hroot
        obtain ⟨rfl, hnew⟩ := Prod.mk.inj h
        obtain rfl := Except.ok.inj hnew
        exact ⟨⟨base, hbase, ⟨hrevoked, hjoined⟩, hroot, commitSnapshot_latestSnapshot _ _ _, rfl⟩⟩

theorem applyDelta_of_unknown (hbase : state.baseSnapshot baseRoot = none) :
    (state.applyDelta H baseRoot delta).1 = state := by
  simp [applyDelta, hbase]

theorem applyDelta_revoked {base : GroupMembership}
    (hbase : state.baseSnapshot baseRoot = some base) :
    (state.applyDelta H baseRoot delta).1.revoked =
      (state.revoked.eraseAll delta.joined).addAll delta.revoked := by
  unfold applyDelta
  rw [hbase]
  dsimp only
  split_ifs
  · rfl
  · rfl
  · cases canonicalSetRoot H (base.applyDelta delta).members.keys <;> rfl

theorem applyDelta_of_fits {base : GroupMembership}
    (hbase : state.baseSnapshot baseRoot = some base) (hfits : Fits delta base) :
    ∃ root, (state.applyDelta H baseRoot delta).2 = .ok root := by
  obtain ⟨root, hroot⟩ := canonicalSetRoot_of_sorted H (base.applyDelta delta).members.keys_sorted
  have hrevoked : ¬ ∃ leaf ∈ delta.revoked, leaf ∉ base.members := by
    push Not
    exact hfits.revoked_mem
  have hjoined : ¬ ∃ leaf ∈ delta.joined, leaf ∈ base.members := by
    push Not
    exact hfits.joined_not_mem
  exact ⟨root, by simp [applyDelta, hbase, hroot, hrevoked, hjoined]⟩

def LatestExcludesRevoked (state : GroupState) : Prop :=
  ∀ set, state.latestSnapshot = some set → ∀ leaf ∈ set.members, leaf ∉ state.revoked

def RevokesAgain (state : GroupState) (baseRoot : Bytes32) (delta : MembershipDelta) : Prop :=
  ∀ base, state.baseSnapshot baseRoot = some base →
    ∀ leaf ∈ base.members, leaf ∈ state.revoked → leaf ∈ delta.revoked

def RefusedJoinsNoneRevoked (state : GroupState) (baseRoot : Bytes32)
    (delta : MembershipDelta) : Prop :=
  ∀ base, state.baseSnapshot baseRoot = some base → ¬ Fits delta base →
    ∀ leaf ∈ delta.joined, leaf ∉ state.revoked

theorem Applied.latestExcludesRevoked_iff {state' : GroupState} {root : Bytes32}
    (a : Applied H state baseRoot delta state' root) :
    state'.LatestExcludesRevoked ↔ state.RevokesAgain baseRoot delta := by
  have hdisjoint : ∀ leaf ∈ delta.revoked, leaf ∉ delta.joined := fun leaf hr hj =>
    a.fits.joined_not_mem leaf hj (a.fits.revoked_mem leaf hr)
  unfold LatestExcludesRevoked RevokesAgain
  rw [a.latest_eq, a.base_eq, a.revoked_eq]
  simp only [Option.some.injEq, forall_eq', GroupMembership.applyDelta, OrdSet.mem_addAll,
    OrdSet.mem_eraseAll]
  constructor
  · intro h leaf hbase hrevoked
    by_contra hnot
    exact h leaf (.inr ⟨hnot, hbase⟩)
      (.inr ⟨fun hj => a.fits.joined_not_mem leaf hj hbase, hrevoked⟩)
  · intro h leaf hmem hrev
    rcases hmem with hjoin | ⟨hnot, hbase⟩
    · rcases hrev with hr | ⟨hnj, _⟩
      · exact hdisjoint leaf hr hjoin
      · exact hnj hjoin
    · rcases hrev with hr | ⟨_, hr⟩
      · exact hnot hr
      · exact hnot (h leaf hbase hr)

end GroupState

structure RosterCall where
  gid : Bytes
  baseRoot : Bytes32
  delta : MembershipDelta
  deriving DecidableEq

structure RosterRun where
  roster : GroupRoster := .empty
  applied : List (Bytes × MembershipDelta) := []
  deriving DecidableEq

def RevokedSince (gid : Bytes) (leaf : Bytes32) : List (Bytes × MembershipDelta) → Prop
  | [] => False
  | d :: older =>
    (d.1 = gid ∧ leaf ∈ d.2.revoked) ∨ (¬ (d.1 = gid ∧ leaf ∈ d.2.joined) ∧
      RevokedSince gid leaf older)

namespace RosterRun

def call (H : MerkleHash) (run : RosterRun) (c : RosterCall) :
    RosterRun × Except CityGError Bytes32 :=
  let (roster, result) := GroupRoster.applyDelta H run.roster c.gid c.baseRoot c.delta
  (⟨roster, if result.toBool then (c.gid, c.delta) :: run.applied else run.applied⟩, result)

def step (H : MerkleHash) (run : RosterRun) (c : RosterCall) : Option RosterRun :=
  some (run.call H c).1

def Careful (run : RosterRun) (c : RosterCall) : Prop :=
  (GroupRoster.group run.roster c.gid).RevokesAgain c.baseRoot c.delta ∧
    (GroupRoster.group run.roster c.gid).RefusedJoinsNoneRevoked c.baseRoot c.delta

def Remembers (run : RosterRun) : Prop :=
  ∀ gid leaf, RevokedSince gid leaf run.applied → leaf ∈ (GroupRoster.group run.roster gid).revoked

theorem call_group (H : MerkleHash) (run : RosterRun) (c : RosterCall) (gid : Bytes) :
    GroupRoster.group (run.call H c).1.roster gid =
      if gid = c.gid then
        ((GroupRoster.group run.roster gid).applyDelta H c.baseRoot c.delta).1
      else GroupRoster.group run.roster gid := by
  simp only [call, GroupRoster.applyDelta, GroupRoster.group, OrdMap.get?_insert]
  split_ifs with h
  · simp [h]
  · rfl

theorem call_result (H : MerkleHash) (run : RosterRun) (c : RosterCall) :
    (run.call H c).2 = ((GroupRoster.group run.roster c.gid).applyDelta H c.baseRoot c.delta).2 :=
  rfl

theorem call_applied (H : MerkleHash) (run : RosterRun) (c : RosterCall) :
    (run.call H c).1.applied =
      if (run.call H c).2.toBool then (c.gid, c.delta) :: run.applied else run.applied := rfl

theorem Remembers.call {H : MerkleHash} {run : RosterRun} {c : RosterCall}
    (h : run.Remembers) (hcare : run.Careful c) : (run.call H c).1.Remembers := by
  intro gid leaf hsince
  rw [call_group]
  rw [call_applied] at hsince
  by_cases hgid : gid = c.gid
  · subst hgid
    rw [if_pos rfl]
    cases hbase : (GroupRoster.group run.roster c.gid).baseSnapshot c.baseRoot with
    | none =>
      -- The call is refused before anything is edited.
      have hrefused : (run.call H c).2.toBool = false := by
        simp [call_result, GroupState.applyDelta, hbase, Except.toBool]
      rw [hrefused] at hsince
      rw [GroupState.applyDelta_of_unknown hbase]
      exact h c.gid leaf hsince
    | some base =>
      rw [GroupState.applyDelta_revoked hbase, OrdSet.mem_addAll, OrdSet.mem_eraseAll]
      split_ifs at hsince with hok
      · rcases hsince with ⟨_, hrevoked⟩ | ⟨hnot, holder⟩
        · exact .inl hrevoked
        · exact .inr ⟨fun hjoined => hnot ⟨rfl, hjoined⟩, h c.gid leaf holder⟩
      · have hunfit : ¬ GroupState.Fits c.delta base := by
          intro hfits
          obtain ⟨root, hroot⟩ := GroupState.applyDelta_of_fits (H := H) hbase hfits
          exact hok (by rw [call_result, hroot]; rfl)
        have hmem := h c.gid leaf hsince
        exact .inr ⟨fun hjoined => hcare.2 base hbase hunfit leaf hjoined hmem, hmem⟩
  · rw [if_neg hgid]
    apply h gid leaf
    split_ifs at hsince with hok
    · rcases hsince with ⟨heq, _⟩ | ⟨_, holder⟩
      · exact absurd heq.symm hgid
      · exact holder
    · exact hsince

end RosterRun

/-- A delta leaves no revoked leaf in the latest set exactly when the revoked
leaves of its base are revoked by it again. In a run of such calls, whose
refused deltas join no revoked leaf, a leaf once revoked is a member again only
after a later delta that joined it. -/
theorem roster_latest_excludes_revoked (H : MerkleHash) :
    (∀ (state state' : GroupState) (baseRoot root : Bytes32) (delta : MembershipDelta),
      state.applyDelta H baseRoot delta = (state', .ok root) →
      (state'.LatestExcludesRevoked ↔ state.RevokesAgain baseRoot delta)) ∧
    ∀ (run : RosterRun) (c : RosterCall) (root : Bytes32),
      Run.Reach (· = {}) (RosterRun.step H) RosterRun.Careful run → run.Careful c →
      (run.call H c).2 = .ok root →
      (GroupRoster.group (run.call H c).1.roster c.gid).LatestExcludesRevoked ∧
      ∀ leaf, RevokedSince c.gid leaf (run.call H c).1.applied →
        leaf ∉ GroupRoster.members (run.call H c).1.roster c.gid := by
  constructor
  · intro state state' baseRoot root delta h
    obtain ⟨applied⟩ := GroupState.applyDelta_ok h
    exact applied.latestExcludesRevoked_iff
  · intro run c root hreach hcare hok
    have hremembers : run.Remembers := hreach.invariant
      (fun run hrun gid leaf hsince => by subst hrun; exact hsince.elim)
      (fun run c run' hrun hcare hstep => Option.some.inj hstep ▸ hrun.call hcare)
    obtain ⟨applied⟩ := GroupState.applyDelta_ok (Prod.ext rfl hok :
      (GroupRoster.group run.roster c.gid).applyDelta H c.baseRoot c.delta = (_, .ok root))
    have hexcludes := applied.latestExcludesRevoked_iff.mpr hcare.1
    have hgroup : GroupRoster.group (run.call H c).1.roster c.gid =
        ((GroupRoster.group run.roster c.gid).applyDelta H c.baseRoot c.delta).1 := by
      rw [RosterRun.call_group, if_pos rfl]
    refine ⟨hgroup ▸ hexcludes, ?_⟩
    intro leaf hsince hmem
    have hrevoked := hremembers.call (H := H) hcare c.gid leaf hsince
    obtain ⟨set, hset, hleaf⟩ := GroupRoster.mem_members.mp hmem
    rw [hgroup] at hrevoked hset
    exact hexcludes set hset leaf hleaf hrevoked

def smallSetHash : MerkleHash where
  hashNode x y := Bytes32.fill (x.val.headD 0 * 16 + y.val.headD 0)
  hashIntervalBinding _ _ _ _ _ _ := Bytes32.zero

def joinThenRevoke : List RosterCall :=
  [⟨[], Bytes32.zero, ⟨[Bytes32.fill 1, Bytes32.fill 2], []⟩⟩,
    ⟨[], Bytes32.fill 18, ⟨[], [Bytes32.fill 1]⟩⟩]

/-- Leaf 3 joins on the root from before the revocation, and leaf 1 is a member
again although it is still in the revoked set. -/
theorem roster_readmits_revoked_leaf :
    ∃ run, Run.exec (RosterRun.step smallSetHash) {} (joinThenRevoke ++
        [⟨[], Bytes32.fill 18, ⟨[Bytes32.fill 3], []⟩⟩]) = some run ∧
      run.applied.length = 3 ∧
      Bytes32.fill 1 ∈ GroupRoster.revoked run.roster [] ∧
      Bytes32.fill 1 ∈ GroupRoster.members run.roster [] := by
  refine ⟨_, rfl, ?_, ?_, ?_⟩ <;> decide

theorem RosterRun.careful_of_none_revoked {run : RosterRun} {c : RosterCall}
    (h : (GroupRoster.group run.roster c.gid).revoked = .empty) : run.Careful c := by
  constructor
  · intro base _ leaf _ hrevoked
    rw [h] at hrevoked
    exact absurd hrevoked (OrdMap.not_mem_empty leaf)
  · intro base _ _ leaf _
    rw [h]
    exact OrdMap.not_mem_empty leaf

theorem roster_excludes_revoked_leaf_one :
    ∃ run, Run.exec (RosterRun.step smallSetHash) {} joinThenRevoke = some run ∧
      Bytes32.fill 1 ∈ GroupRoster.revoked run.roster [] ∧
      Bytes32.fill 1 ∉ GroupRoster.members run.roster [] := by
  have hstart : RosterRun.Careful {} ⟨[], Bytes32.zero, ⟨[Bytes32.fill 1, Bytes32.fill 2], []⟩⟩ :=
    RosterRun.careful_of_none_revoked rfl
  have hreach : Run.Reach (· = {}) (RosterRun.step smallSetHash) RosterRun.Careful _ :=
    .next _ (.start rfl) hstart rfl
  have hcare : RosterRun.Careful
      (RosterRun.call smallSetHash {}
        ⟨[], Bytes32.zero, ⟨[Bytes32.fill 1, Bytes32.fill 2], []⟩⟩).1
      ⟨[], Bytes32.fill 18, ⟨[], [Bytes32.fill 1]⟩⟩ :=
    RosterRun.careful_of_none_revoked (by decide)
  obtain ⟨_, hmember⟩ := (roster_latest_excludes_revoked smallSetHash).2 _ _ (Bytes32.fill 2)
    hreach hcare (by decide)
  exact ⟨_, rfl, by decide, hmember (Bytes32.fill 1) (.inl ⟨rfl, List.mem_singleton_self _⟩)⟩

end CityG
