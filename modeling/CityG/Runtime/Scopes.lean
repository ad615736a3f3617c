import CityG.Accept.ForwardJump
import CityG.Lib.Run
import CityG.Runtime.Volatile

/-!
# Scopes and bundles

An epoch should have a scope exactly while its bundle is retained. Storing a
bundle records the scope first and drops the indexes of what expired last, so
an epoch whose old bundle expires in the very call that stores its new one
keeps the bundle and loses the scope.
-/

namespace CityG

namespace RoomIndexes
variable (indexes : RoomIndexes)

@[simp] theorem recordMemberJoin_epochScopes (leaf weid : Bytes32) (now : Nat) :
    (indexes.recordMemberJoin leaf weid now).epochScopes = indexes.epochScopes := rfl

theorem foldl_recordMemberJoin_epochScopes (leaves : List Bytes32) (weid : Bytes32) (now : Nat) :
    (leaves.foldl (fun indexes leaf => indexes.recordMemberJoin leaf weid now) indexes).epochScopes =
      indexes.epochScopes := by
  induction leaves generalizing indexes with
  | nil => rfl
  | cons leaf rest ih => exact (ih _).trans (indexes.recordMemberJoin_epochScopes leaf weid now)

theorem mem_pruneExpiredWeids {expired : List Bytes32} {weid : Bytes32} :
    weid ∈ (indexes.pruneExpiredWeids expired).epochScopes ↔
      weid ∉ expired ∧ weid ∈ indexes.epochScopes := by
  simp only [pruneExpiredWeids, OrdMap.mem_def, OrdMap.get?_filter]
  cases indexes.epochScopes.get? weid <;> simp [Option.filter]

end RoomIndexes

namespace RoomVolatileState

def Expires (room : RoomVolatileState) (now : Nat) (retention : Duration) (weid : Bytes32) : Prop :=
  room.bundlePruneDueMs ≤ now ∧
    ∃ bundle, room.bundles.get? weid = some bundle ∧ bundleExpired now retention bundle = true

instance (room : RoomVolatileState) (now : Nat) (retention : Duration) (weid : Bytes32) :
    Decidable (room.Expires now retention weid) :=
  decidable_of_iff
    (room.bundlePruneDueMs ≤ now ∧
      (room.bundles.get? weid).any (bundleExpired now retention) = true)
    (and_congr_right fun _ => by rw [Option.any_eq_true])

def Scoped (room : RoomVolatileState) : Prop :=
  ∀ weid, (room.indexes.epochScopeForWeid weid).isSome ↔ weid ∈ room.bundles

section
variable {room : RoomVolatileState} {now interval : Nat} {retention : Duration} {weid : Bytes32}

theorem mem_expired : weid ∈ (room.pruneBundlesDue now retention interval).1 ↔
    room.Expires now retention weid := by
  unfold pruneBundlesDue Expires
  split
  · next hdue => simp [not_le.mpr hdue]
  · next hdue =>
      simp only [pruneExpiredBundles, List.mem_map, List.mem_filter, not_lt.mp hdue, true_and]
      constructor
      · rintro ⟨e, ⟨hmem, hexpired⟩, rfl⟩
        exact ⟨e.2, OrdMap.mem_entries_iff.mp hmem, hexpired⟩
      · rintro ⟨bundle, hget, hexpired⟩
        exact ⟨(weid, bundle), ⟨OrdMap.mem_entries_iff.mpr hget, hexpired⟩, rfl⟩

theorem mem_pruneBundlesDue : weid ∈ (room.pruneBundlesDue now retention interval).2.bundles ↔
    weid ∈ room.bundles ∧ ¬ room.Expires now retention weid := by
  unfold pruneBundlesDue Expires
  split
  · next hdue => simp [not_le.mpr hdue]
  · next hdue =>
      simp only [pruneExpiredBundles, OrdMap.mem_def, OrdMap.get?_filter, not_lt.mp hdue, true_and]
      cases room.bundles.get? weid with
      | none => simp
      | some bundle => simp [Option.filter]

theorem pruneBundlesDue_indexes :
    (room.pruneBundlesDue now retention interval).2.indexes = room.indexes := by
  unfold pruneBundlesDue
  split <;> rfl

theorem storeBundle_scopes (bundle : StoredBundle) (key : Bytes32) :
    weid ∈ (room.storeBundle key bundle now retention interval).indexes.epochScopes ↔
      ¬ room.Expires now retention weid ∧ weid ∈ room.indexes.epochScopes := by
  change weid ∈ ((room.pruneBundlesDue now retention interval).2.indexes.pruneExpiredWeids
    (room.pruneBundlesDue now retention interval).1).epochScopes ↔ _
  rw [RoomIndexes.mem_pruneExpiredWeids, mem_expired, pruneBundlesDue_indexes]

theorem storeBundle_bundles (bundle : StoredBundle) (key : Bytes32) :
    weid ∈ (room.storeBundle key bundle now retention interval).bundles ↔
      weid = key ∨ weid ∈ room.bundles ∧ ¬ room.Expires now retention weid := by
  change weid ∈ (room.pruneBundlesDue now retention interval).2.bundles.insert key bundle ↔ _
  rw [OrdMap.mem_insert, mem_pruneBundlesDue]

theorem Scoped.bundle (h : room.Scoped) (weid : Bytes32) (now : Nat) (retention : Duration)
    (interval : Nat) : (room.bundle weid now retention interval).2.Scoped := by
  intro other
  change other ∈ ((room.pruneBundlesDue now retention interval).2.indexes.pruneExpiredWeids
    (room.pruneBundlesDue now retention interval).1).epochScopes ↔
    other ∈ (room.pruneBundlesDue now retention interval).2.bundles
  rw [RoomIndexes.mem_pruneExpiredWeids, mem_expired, pruneBundlesDue_indexes,
    mem_pruneBundlesDue, and_comm]
  exact and_congr_left fun _ => h other

end

end RoomVolatileState

theorem applyBundleIndexes_eq_ok {codec : AnchorCodec} {room room' : RoomVolatileState}
    {bundle : ClientEpochBundle} {update : BundleIndexUpdate} {policy : RoomRetentionPolicy}
    (h : applyBundleIndexes codec room bundle update policy = .ok room') :
    ∃ indexes scope, indexes.epochScopes = room.indexes.epochScopes.insert update.weEpochId scope ∧
      room' = RoomVolatileState.storeBundle { room with indexes } update.weEpochId
        ⟨update.bytes, update.timestampMs⟩ update.timestampMs policy.retention
        policy.pruneIntervalMs := by
  obtain ⟨gid, _, h⟩ := Except.bind_eq_ok.mp h
  obtain ⟨delta, _, h⟩ := Except.bind_eq_ok.mp h
  refine ⟨_, ⟨gid, update.membershipRoot⟩, ?_, (Except.pure_eq_ok.mp h).symm⟩
  have hjoined := RoomIndexes.foldl_recordMemberJoin_epochScopes
    (room.indexes.recordEpochScope update.weEpochId ⟨gid, update.membershipRoot⟩) delta.joined
    update.weEpochId update.timestampMs
  split
  · exact hjoined
  · exact hjoined

/-- An applied bundle keeps scopes and bundles together exactly when the old
bundle of its epoch does not expire in this call. -/
theorem applyBundleIndexes_scoped {codec : AnchorCodec} {room room' : RoomVolatileState}
    {bundle : ClientEpochBundle} {update : BundleIndexUpdate} {policy : RoomRetentionPolicy}
    (hscoped : room.Scoped) (h : applyBundleIndexes codec room bundle update policy = .ok room') :
    room'.Scoped ↔ ¬ room.Expires update.timestampMs policy.retention update.weEpochId := by
  obtain ⟨indexes, scope, hscopes, rfl⟩ := applyBundleIndexes_eq_ok h
  have hsame : ∀ weid, RoomVolatileState.Expires { room with indexes } update.timestampMs
      policy.retention weid ↔ room.Expires update.timestampMs policy.retention weid :=
    fun _ => Iff.rfl
  have hafter : ∀ weid, ((RoomVolatileState.storeBundle { room with indexes } update.weEpochId
      ⟨update.bytes, update.timestampMs⟩ update.timestampMs policy.retention
      policy.pruneIntervalMs).indexes.epochScopeForWeid weid).isSome ↔
      ¬ room.Expires update.timestampMs policy.retention weid ∧
        (weid = update.weEpochId ∨ weid ∈ room.bundles) := by
    intro weid
    refine RoomVolatileState.storeBundle_scopes _ _ |>.trans ?_
    rw [hsame, hscopes, OrdMap.mem_insert]
    exact and_congr_right fun _ => or_congr_right (hscoped weid)
  constructor
  · intro hscoped'
    have hstored := (hscoped' update.weEpochId).mpr
      ((RoomVolatileState.storeBundle_bundles _ _).mpr (.inl rfl))
    exact ((hafter _).mp hstored).1
  · intro hstays weid
    rw [hafter, RoomVolatileState.storeBundle_bundles, hsame]
    constructor
    · rintro ⟨hkeep, rfl | hmem⟩
      · exact .inl rfl
      · exact .inr ⟨hmem, hkeep⟩
    · rintro (rfl | ⟨hmem, hkeep⟩)
      · exact ⟨hstays, .inl rfl⟩
      · exact ⟨hkeep, .inr hmem⟩

inductive BundleCall where
  | apply (bundle : ClientEpochBundle) (update : BundleIndexUpdate) (policy : RoomRetentionPolicy)
  | ask (weid : Bytes32) (now : Nat) (policy : RoomRetentionPolicy)

structure BundleRun where
  room : RoomVolatileState := {}
  last : Nat := 0
  deriving DecidableEq

namespace BundleRun

def step (codec : AnchorCodec) (run : BundleRun) : BundleCall → Option BundleRun
  | .apply bundle update policy => some
      { room := (applyBundleIndexes codec run.room bundle update policy).toOption.getD run.room
        last := update.timestampMs }
  | .ask weid now policy => some
      { room := (run.room.bundle weid now policy.retention policy.pruneIntervalMs).2
        last := now }

def Timed (run : BundleRun) : BundleCall → Prop
  | .apply _ update _ => run.last ≤ update.timestampMs
  | .ask _ now _ => run.last ≤ now

def ReplacesNoExpiring (run : BundleRun) : BundleCall → Prop
  | .apply _ update policy =>
    ¬ run.room.Expires update.timestampMs policy.retention update.weEpochId
  | .ask _ _ _ => True

instance (run : BundleRun) : (call : BundleCall) → Decidable (run.Timed call)
  | .apply _ _ _ => inferInstanceAs (Decidable (_ ≤ _))
  | .ask _ _ _ => inferInstanceAs (Decidable (_ ≤ _))

instance (run : BundleRun) : (call : BundleCall) → Decidable (run.ReplacesNoExpiring call)
  | .apply _ update policy => inferInstanceAs
      (Decidable (¬ run.room.Expires update.timestampMs policy.retention update.weEpochId))
  | .ask _ _ _ => .isTrue trivial

theorem step_scoped {codec : AnchorCodec} {run run' : BundleRun} {call : BundleCall}
    (hscoped : run.room.Scoped) (hguard : run.ReplacesNoExpiring call)
    (hstep : step codec run call = some run') : run'.room.Scoped := by
  cases call with
  | apply bundle update policy =>
    obtain rfl := Option.some.inj hstep
    cases happly : applyBundleIndexes codec run.room bundle update policy with
    | error e => exact hscoped
    | ok room' => exact (applyBundleIndexes_scoped hscoped happly).mpr hguard
  | ask weid now policy =>
    obtain rfl := Option.some.inj hstep
    exact hscoped.bundle weid now _ _

/-- As long as no bundle replaces one that expires in the same call, an epoch
has a scope exactly when its bundle is retained. -/
theorem scope_iff_retained {codec : AnchorCodec} {run : BundleRun}
    (h : Run.Reach (· = {}) (step codec) (fun run call => run.Timed call ∧ run.ReplacesNoExpiring call)
      run) (weid : Bytes32) :
    (run.room.indexes.epochScopeForWeid weid).isSome ↔ (run.room.bundles.get? weid).isSome := by
  have hscoped : run.room.Scoped := by
    refine @Run.Reach.invariant _ _ _ _ _ (fun run => run.room.Scoped) ?_ ?_ run h
    · rintro run rfl weid
      exact Iff.rfl
    · intro run call run' hscoped hguard hstep
      exact step_scoped hscoped hguard.2 hstep
  exact hscoped weid

def quietMerge : ClientEpochBundle where
  anchor := ⟨Bytes32.zero.val, [], [], .zero, .zero, .zero, .zero, none, []⟩
  headerMap := .ofList [(HDR_MH_HEADS, .array [])]
  hpProof := []
  hpBinding := ⟨"", "", .zero, .zero, .zero, .zero, .zero⟩
  witness := none
  capssWitness := []
  weEpochId := .fill 1

def shortPolicy : RoomRetentionPolicy := ⟨⟨10000000⟩, 5⟩

def applyAt (now : Nat) : BundleCall :=
  .apply quietMerge ⟨.fill 1, .zero, [], now⟩ shortPolicy

theorem scope_after_expiry :
    ∃ run, Run.Reach (· = {}) (step zeroCodec)
        (fun run call => run.Timed call ∧ run.ReplacesNoExpiring call) run ∧
      (run.room.bundles.get? (.fill 1)).isSome = true ∧
      (run.room.indexes.epochScopeForWeid (.fill 1)).isSome = true := by
  let calls := [applyAt 0, .ask (.fill 1) 20 shortPolicy, applyAt 21]
  let run := (Run.exec (step zeroCodec) {} calls).getD {}
  have hexec : Run.exec (Run.guarded (step zeroCodec)
      fun run call => run.Timed call ∧ run.ReplacesNoExpiring call) {} calls = some run := by
    decide +kernel
  have hreach : Run.Reach (· = {}) (step zeroCodec)
      (fun run call => run.Timed call ∧ run.ReplacesNoExpiring call) run :=
    Run.reach_of_exec (.start rfl) hexec
  have hretained : (run.room.bundles.get? (.fill 1)).isSome = true := by decide +kernel
  exact ⟨run, hreach, hretained, (scope_iff_retained hreach (.fill 1)).mpr hretained⟩

/-- Stored again before anything else pruned it: the bundle stays, its scope is
dropped with the old one. -/
theorem replaced_bundle_loses_scope :
    ∃ run, Run.Reach (· = {}) (step zeroCodec) (fun run call => run.Timed call) run ∧
      run.room.bundles.get? (.fill 1) = some ⟨[], 20⟩ ∧
      run.room.indexes.epochScopeForWeid (.fill 1) = none := by
  let calls := [applyAt 0, applyAt 20]
  let run := (Run.exec (step zeroCodec) {} calls).getD {}
  have hexec : Run.exec (Run.guarded (step zeroCodec) fun run call => run.Timed call) {} calls =
      some run := by
    decide +kernel
  exact ⟨run, Run.reach_of_exec (.start rfl) hexec, by decide +kernel, by decide +kernel⟩

end BundleRun

end CityG
