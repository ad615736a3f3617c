import CityG.Accept.Window
import CityG.Lib.Run
import Mathlib.Data.List.Nodup

/-!
# The reverse index of the window

The index is written beside the head lists, in every place that pushes, expires
or retires a head. It stays exact as long as no call pushes an epoch that some
window still lists: heads expire lazily, and expiry erases an index entry by its
epoch, whichever window the entry names.
-/

namespace CityG

namespace MultiHeadWindow

def idsAt (w : MultiHeadWindow) (wid : Bytes) : List Bytes32 :=
  (w.headsAt wid).map HeadRecord.weEpochId

def Holds (w : MultiHeadWindow) (weid : Bytes32) : Prop :=
  ∃ record ∈ w.heads.values.flatten, record.weEpochId = weid

def Live (w : MultiHeadWindow) (now : Nat) (weid : Bytes32) : Prop :=
  ∃ record ∈ w.heads.values.flatten, record.weEpochId = weid ∧ w.keep now record = true

instance (w : MultiHeadWindow) (weid : Bytes32) : Decidable (w.Holds weid) :=
  inferInstanceAs (Decidable (∃ _ ∈ _, _))

instance (w : MultiHeadWindow) (now : Nat) (weid : Bytes32) : Decidable (w.Live now weid) :=
  inferInstanceAs (Decidable (∃ _ ∈ _, _))

structure Indexed (w : MultiHeadWindow) : Prop where
  index : ∀ weid wid, w.findHeadWindow weid = some wid ↔ weid ∈ w.idsAt wid
  nodup : ∀ wid, (w.idsAt wid).Nodup

structure Removes (gone : List Bytes32) (w w' : MultiHeadWindow) : Prop where
  ids : ∀ wid, w'.idsAt wid = (w.idsAt wid).filter (· ∉ gone)
  index : ∀ weid, w'.findHeadWindow weid = if weid ∈ gone then none else w.findHeadWindow weid

section
variable {w w' : MultiHeadWindow} {wid wid' : Bytes} {weid : Bytes32} {now : Nat}

theorem mem_idsAt : weid ∈ w.idsAt wid ↔ ∃ record ∈ w.headsAt wid, record.weEpochId = weid :=
  List.mem_map

theorem mem_values_flatten {record : HeadRecord} :
    record ∈ w.heads.values.flatten ↔ ∃ wid, record ∈ w.headsAt wid := by
  simp only [List.mem_flatten, OrdMap.mem_values_iff, headsAt]
  constructor
  · rintro ⟨records, ⟨wid, hget⟩, hmem⟩
    exact ⟨wid, by rw [hget]; exact hmem⟩
  · rintro ⟨wid, hmem⟩
    cases hget : w.heads.get? wid with
    | none =>
      rw [hget] at hmem
      cases hmem
    | some records =>
      rw [hget] at hmem
      exact ⟨records, ⟨wid, hget⟩, hmem⟩

theorem not_holds_iff : ¬ w.Holds weid ↔ ∀ wid, weid ∉ w.idsAt wid := by
  simp only [Holds, mem_values_flatten, mem_idsAt]
  constructor
  · rintro h wid ⟨record, hmem, heq⟩
    exact h ⟨record, ⟨wid, hmem⟩, heq⟩
  · rintro h ⟨record, ⟨wid, hmem⟩, heq⟩
    exact h wid ⟨record, hmem, heq⟩

namespace Indexed

theorem record_unique (h : w.Indexed) {record record' : HeadRecord}
    (hmem : record ∈ w.headsAt wid) (hmem' : record' ∈ w.headsAt wid')
    (heq : record.weEpochId = record'.weEpochId) : wid = wid' ∧ record = record' := by
  have hwid := (h.index _ wid).mpr (mem_idsAt.mpr ⟨record, hmem, rfl⟩)
  have hwid' := (h.index _ wid').mpr (mem_idsAt.mpr ⟨record', hmem', rfl⟩)
  rw [heq, hwid'] at hwid
  obtain rfl := Option.some.inj hwid
  exact ⟨rfl, List.inj_on_of_nodup_map (h.nodup wid') hmem hmem' heq⟩

theorem removes {gone : List Bytes32} (h : w.Indexed) (hremoves : Removes gone w w') :
    w'.Indexed := by
  constructor
  · intro weid wid
    rw [hremoves.index, hremoves.ids, List.mem_filter, decide_eq_true_iff]
    split
    · next hgone => simp [hgone]
    · next hgone => rw [h.index, and_iff_left hgone]
  · intro wid
    rw [hremoves.ids]
    exact (h.nodup wid).filter _

end Indexed

theorem get?_dropExpired (w : MultiHeadWindow) (now : Nat) (records : List HeadRecord)
    (weid : Bytes32) :
    (w.dropExpired now records).get? weid =
      if weid ∈ (records.filter fun record => !w.keep now record).map HeadRecord.weEpochId then none
      else w.weidIndex.get? weid := by
  rw [dropExpired, OrdMap.get?_foldl_erase]
  congr

/-- Expiry in some of the windows takes out what expired there and nothing else:
an expired epoch is listed nowhere else. -/
theorem Indexed.expire (h : w.Indexed) (pruned : Bytes → Prop) [DecidablePred pruned]
    {records : List HeadRecord}
    (hheads : ∀ wid, w'.headsAt wid =
      if pruned wid then (w.headsAt wid).filter (w.keep now) else w.headsAt wid)
    (hindex : w'.weidIndex = w.dropExpired now records)
    (hrecords : ∀ record, record ∈ records ↔ ∃ wid, pruned wid ∧ record ∈ w.headsAt wid) :
    w'.Indexed := by
  refine h.removes (show Removes
    ((records.filter fun record => !w.keep now record).map HeadRecord.weEpochId) w w' from ⟨?_, ?_⟩)
  · intro wid
    have hgone : ∀ record ∈ w.headsAt wid,
        (record.weEpochId ∈ (records.filter fun record => !w.keep now record).map
          HeadRecord.weEpochId ↔ pruned wid ∧ w.keep now record = false) := by
      intro record hmem
      simp only [List.mem_map, List.mem_filter, hrecords, Bool.not_eq_true']
      constructor
      · rintro ⟨record', ⟨⟨wid', hpruned, hmem'⟩, hexpired⟩, heq⟩
        obtain ⟨rfl, rfl⟩ := h.record_unique hmem' hmem heq
        exact ⟨hpruned, hexpired⟩
      · rintro ⟨hpruned, hexpired⟩
        exact ⟨record, ⟨⟨wid, hpruned, hmem⟩, hexpired⟩, rfl⟩
    rw [idsAt, idsAt, hheads, List.filter_map]
    split
    · next hpruned =>
        congr 1
        refine List.filter_congr fun record hmem => ?_
        simp only [Function.comp, hgone record hmem, hpruned, true_and, Bool.not_eq_false,
          Bool.decide_eq_true]
    · next hpruned =>
        rw [List.filter_eq_self.mpr]
        intro record hmem
        simp only [Function.comp, hgone record hmem, hpruned, false_and, not_false_eq_true,
          decide_true]
  · intro weid
    rw [findHeadWindow, hindex]
    exact get?_dropExpired w now records weid

theorem headsAt_prune (w : MultiHeadWindow) (wid : Bytes) (now : Nat) (wid' : Bytes) :
    (w.prune wid now).headsAt wid' =
      if wid' = wid then (w.headsAt wid').filter (w.keep now) else w.headsAt wid' := by
  rw [prune, headsAt_insert]
  split
  · next heq => rw [heq]
  · rfl

theorem Indexed.prune (h : w.Indexed) (wid : Bytes) (now : Nat) : (w.prune wid now).Indexed :=
  h.expire (· = wid) (w.headsAt_prune wid now) rfl (by simp)

theorem Indexed.pruneAll (h : w.Indexed) (now : Nat) : (w.pruneAll now).Indexed :=
  h.expire (fun _ => True) (by simp [headsAt_pruneAll]) rfl fun record => by
    rw [mem_values_flatten]
    simp only [true_and]

theorem Indexed.setTtl (h : w.Indexed) (ttl now : Nat) : (w.setTtl ttl now).Indexed :=
  have hset : Indexed { w with ttl } := ⟨h.index, h.nodup⟩
  hset.pruneAll now

theorem map_eraseP_epoch {records : List HeadRecord}
    (hnodup : (records.map HeadRecord.weEpochId).Nodup) (weid : Bytes32) :
    (records.eraseP fun record => record.weEpochId = weid).map HeadRecord.weEpochId =
      (records.map HeadRecord.weEpochId).filter (· ≠ weid) := by
  induction records with
  | nil => rfl
  | cons record rest ih =>
    obtain ⟨hnotin, hrest⟩ := List.nodup_cons.mp hnodup
    by_cases heq : record.weEpochId = weid
    · have hothers : (rest.map HeadRecord.weEpochId).filter (· ≠ weid) =
          rest.map HeadRecord.weEpochId :=
        List.filter_eq_self.mpr fun other hother =>
          decide_eq_true fun h => hnotin (heq.trans h.symm ▸ hother)
      rw [List.eraseP_cons_of_pos (by simpa using heq), List.map_cons,
        List.filter_cons_of_neg (by simp [heq]), hothers]
    · simpa [heq] using ih hrest

theorem Indexed.retire (h : w.Indexed) (hfound : (w.findHead wid weid).isSome = true) :
    (w.retire wid weid).Indexed := by
  obtain ⟨record, hmem, hrecord⟩ := List.find?_isSome.mp hfound
  have hlisted : weid ∈ w.idsAt wid := mem_idsAt.mpr ⟨record, hmem, of_decide_eq_true hrecord⟩
  refine h.removes (show Removes [weid] w (w.retire wid weid) from ⟨?_, ?_⟩)
  · intro wid'
    simp only [List.mem_singleton]
    rw [idsAt, MultiHeadWindow.retire, headsAt_insert]
    split
    · next heq =>
        subst heq
        exact map_eraseP_epoch (h.nodup wid') weid
    · next hne =>
        refine (List.filter_eq_self.mpr fun other hother => decide_eq_true ?_).symm
        rintro rfl
        have hwid := (h.index other wid).mpr hlisted
        rw [(h.index other wid').mpr hother] at hwid
        exact hne (Option.some.inj hwid)
  · intro other
    simp [findHeadWindow, MultiHeadWindow.retire]

theorem Indexed.removeIfEmpty (h : w.Indexed) (wid : Bytes) : (w.removeIfEmpty wid).Indexed := by
  have hindex : (w.removeIfEmpty wid).weidIndex = w.weidIndex := by
    unfold MultiHeadWindow.removeIfEmpty
    split <;> rfl
  constructor
  · intro weid wid'
    rw [findHeadWindow, hindex, idsAt, headsAt_removeIfEmpty]
    exact h.index weid wid'
  · intro wid'
    rw [idsAt, headsAt_removeIfEmpty]
    exact h.nodup wid'

theorem Indexed.push (h : w.Indexed) {record : HeadRecord} (hnew : ¬ w.Holds record.weEpochId) :
    (w.push wid record).Indexed := by
  have hids : ∀ wid', (w.push wid record).idsAt wid' =
      if wid' = wid then w.idsAt wid ++ [record.weEpochId] else w.idsAt wid' := by
    intro wid'
    rw [idsAt, MultiHeadWindow.push, headsAt_insert]
    split
    · exact List.map_append
    · rfl
  have hnone : ∀ wid', record.weEpochId ∉ w.idsAt wid' := not_holds_iff.mp hnew
  constructor
  · intro weid wid'
    rw [hids]
    simp only [findHeadWindow, MultiHeadWindow.push, OrdMap.get?_insert]
    by_cases hweid : weid = record.weEpochId
    · subst hweid
      by_cases hwid : wid' = wid
      · simp [hwid]
      · simp [hwid, Ne.symm hwid, hnone wid']
    · rw [if_neg hweid]
      refine (h.index weid wid').trans ?_
      split
      · next hwid => simp [hwid, hweid]
      · rfl
  · intro wid'
    rw [hids]
    split
    · exact List.nodup_append.mpr ⟨h.nodup wid, List.nodup_singleton _, by
        rintro a ha b hb rfl
        exact hnone wid (List.mem_singleton.mp hb ▸ ha)⟩
    · exact h.nodup wid'

end

def prepareMerge (widOld widNew : Bytes) (mhHeads : List Bytes32) (now : Nat) :
    EStateM FreezeError MultiHeadWindow Unit :=
  if isSortedUnique mhHeads then do
    modify (·.prune widOld now)
    retireHeads widOld mhHeads
    if widOld = widNew then pure ()
    else modify fun w => (w.removeIfEmpty widOld).prune widNew now
  else throw mergeInvalid

theorem acceptMerge_eq (widOld widNew : Bytes) (mhHeads : List Bytes32) (record : HeadRecord)
    (now : Nat) : acceptMerge widOld widNew mhHeads record now = (do
      prepareMerge widOld widNew mhHeads now
      pushPruned widNew { record with acceptTime := now }) := by
  unfold acceptMerge prepareMerge
  by_cases hsorted : isSortedUnique mhHeads = true
  · by_cases hwid : widOld = widNew
    · simp [hsorted, hwid]
    · simp only [if_pos hsorted, if_neg hwid, bind_assoc]
      rfl
  · simp only [if_neg hsorted]
    rfl

def Fresh (prepare : EStateM FreezeError MultiHeadWindow Unit) (wid : Bytes) (record : HeadRecord)
    (w : MultiHeadWindow) : Prop :=
  match prepare w with
  | .ok _ w₁ => w₁.activeHeads wid < w₁.hMax → ¬ w₁.Holds record.weEpochId
  | .error _ _ => True

instance (prepare : EStateM FreezeError MultiHeadWindow Unit) (wid : Bytes) (record : HeadRecord)
    (w : MultiHeadWindow) : Decidable (Fresh prepare wid record w) := by
  unfold Fresh
  split <;> infer_instance

theorem final_retireHeads_cons (w : MultiHeadWindow) (wid : Bytes) (head : Bytes32)
    (rest : List Bytes32) : (retireHeads wid (head :: rest)).final w =
      if (w.findHead wid head).isSome then (retireHeads wid rest).final (w.retire wid head)
      else w := by
  by_cases hfound : (w.findHead wid head).isSome = true
  · simp only [EStateM.final, retireHeads, if_pos hfound]
  · simp only [EStateM.final, retireHeads, if_neg hfound]

theorem Indexed.retireHeads {w : MultiHeadWindow} (h : w.Indexed) (wid : Bytes)
    (heads : List Bytes32) : ((MultiHeadWindow.retireHeads wid heads).final w).Indexed := by
  induction heads generalizing w with
  | nil => exact h
  | cons head rest ih =>
    rw [final_retireHeads_cons]
    split
    · next hfound => exact ih (h.retire hfound)
    · exact h

theorem prepareMerge_indexed (widOld widNew : Bytes) (mhHeads : List Bytes32) (now : Nat) :
    EStateM.Preserves Indexed (prepareMerge widOld widNew mhHeads now) := by
  unfold prepareMerge
  split
  · refine .bind (.modify fun w h => h.prune widOld now) fun _ => ?_
    refine .bind (fun w h => h.retireHeads widOld mhHeads) fun _ => ?_
    split
    · exact .pure ()
    · exact .modify fun w h => (h.removeIfEmpty widOld).prune widNew now
  · exact fun w h => h

theorem Indexed.insert {w : MultiHeadWindow} (h : w.Indexed)
    {prepare : EStateM FreezeError MultiHeadWindow Unit} (hprepare : prepare.Preserves Indexed)
    {wid : Bytes} {record : HeadRecord} (now : Nat) (hfresh : Fresh prepare wid record w) :
    ((do prepare; pushPruned wid { record with acceptTime := now }).final w).Indexed := by
  unfold Fresh at hfresh
  refine EStateM.final_bind (hprepare w h) fun _ w₁ hrun hw₁ => ?_
  rw [hrun] at hfresh
  by_cases hroom : w₁.hMax ≤ w₁.activeHeads wid
  · simpa only [EStateM.final, pushPruned, if_pos hroom] using hw₁
  · simp only [EStateM.final, pushPruned, if_neg hroom]
    exact hw₁.push (hfresh (not_le.mp hroom))

structure Bounded (limit : Nat) (w : MultiHeadWindow) : Prop where
  hMax : w.hMax = limit
  activeHeads : ∀ wid, w.activeHeads wid ≤ limit

theorem Bounded.shrink {limit : Nat} {w w' : MultiHeadWindow} (h : w.Bounded limit)
    (hmax : w'.hMax = w.hMax)
    (hheads : ∀ wid, (w'.headsAt wid).length ≤ (w.headsAt wid).length) : w'.Bounded limit :=
  ⟨hmax.trans h.hMax, fun wid => (hheads wid).trans (h.activeHeads wid)⟩

section
variable {w : MultiHeadWindow} {limit : Nat}

theorem Bounded.prune (h : w.Bounded limit) (wid : Bytes) (now : Nat) : (w.prune wid now).Bounded limit := by
  refine h.shrink rfl fun wid' => ?_
  rw [headsAt_prune]
  split
  · exact List.length_filter_le _ _
  · exact le_rfl

theorem Bounded.pruneAll (h : w.Bounded limit) (now : Nat) : (w.pruneAll now).Bounded limit :=
  h.shrink rfl fun wid => headsAt_pruneAll w now wid ▸ List.length_filter_le _ _

theorem Bounded.setTtl (h : w.Bounded limit) (ttl now : Nat) : (w.setTtl ttl now).Bounded limit :=
  have hset : Bounded limit { w with ttl } := ⟨h.hMax, h.activeHeads⟩
  hset.pruneAll now

theorem Bounded.retire (h : w.Bounded limit) (wid : Bytes) (weid : Bytes32) :
    (w.retire wid weid).Bounded limit := by
  refine h.shrink rfl fun wid' => ?_
  rw [MultiHeadWindow.retire, headsAt_insert]
  split
  · next heq => exact heq ▸ List.length_eraseP_le
  · exact le_rfl

theorem Bounded.retireHeads (h : w.Bounded limit) (wid : Bytes) (heads : List Bytes32) :
    ((MultiHeadWindow.retireHeads wid heads).final w).Bounded limit := by
  induction heads generalizing w with
  | nil => exact h
  | cons head rest ih =>
    rw [final_retireHeads_cons]
    split
    · exact ih (h.retire wid head)
    · exact h

theorem Bounded.removeIfEmpty (h : w.Bounded limit) (wid : Bytes) : (w.removeIfEmpty wid).Bounded limit := by
  have hmax : (w.removeIfEmpty wid).hMax = w.hMax := by
    unfold MultiHeadWindow.removeIfEmpty
    split <;> rfl
  exact h.shrink hmax fun wid' => le_of_eq (by rw [headsAt_removeIfEmpty])

theorem Bounded.pushPruned (h : w.Bounded limit) (wid : Bytes) (record : HeadRecord) :
    ((MultiHeadWindow.pushPruned wid record).final w).Bounded limit := by
  by_cases hroom : w.hMax ≤ w.activeHeads wid
  · simpa only [EStateM.final, MultiHeadWindow.pushPruned, if_pos hroom] using h
  · simp only [EStateM.final, MultiHeadWindow.pushPruned, if_neg hroom]
    refine ⟨h.hMax, fun wid' => ?_⟩
    rw [MultiHeadWindow.activeHeads, push, headsAt_insert]
    split
    · rw [List.length_append, ← h.hMax]
      exact Nat.succ_le_of_lt (not_le.mp hroom)
    · exact h.activeHeads wid'

end

theorem prepareMerge_bounded (limit : Nat) (widOld widNew : Bytes) (mhHeads : List Bytes32) (now : Nat) :
    EStateM.Preserves (Bounded limit) (prepareMerge widOld widNew mhHeads now) := by
  unfold prepareMerge
  split
  · refine .bind (.modify fun w h => h.prune widOld now) fun _ => ?_
    refine .bind (fun w h => h.retireHeads widOld mhHeads) fun _ => ?_
    split
    · exact .pure ()
    · exact .modify fun w h => (h.removeIfEmpty widOld).prune widNew now
  · exact fun w h => h

end MultiHeadWindow

inductive WindowCall where
  | acceptHead (wid : Bytes) (record : HeadRecord) (now : Nat)
  | acceptMerge (widOld widNew : Bytes) (mhHeads : List Bytes32) (record : HeadRecord) (now : Nat)
  | setTtl (ttl now : Nat)
  | pruneAll (now : Nat)

namespace WindowCall

open MultiHeadWindow (Indexed Bounded Fresh prepareMerge)

def run (w : MultiHeadWindow) : WindowCall → MultiHeadWindow
  | acceptHead wid record now => (MultiHeadWindow.acceptHead wid record now).final w
  | acceptMerge widOld widNew mhHeads record now =>
    (MultiHeadWindow.acceptMerge widOld widNew mhHeads record now).final w
  | setTtl ttl now => w.setTtl ttl now
  | pruneAll now => w.pruneAll now

def PushesFresh (w : MultiHeadWindow) : WindowCall → Prop
  | acceptHead wid record now => Fresh (modify (·.prune wid now)) wid record w
  | acceptMerge widOld widNew mhHeads record now =>
    Fresh (prepareMerge widOld widNew mhHeads now) widNew record w
  | setTtl _ _ => True
  | pruneAll _ => True

def PushesNoLive (w : MultiHeadWindow) : WindowCall → Prop
  | acceptHead _ record now => ¬ w.Live now record.weEpochId
  | acceptMerge _ _ _ record now => ¬ w.Live now record.weEpochId
  | setTtl _ _ => True
  | pruneAll _ => True

instance (w : MultiHeadWindow) : (call : WindowCall) → Decidable (call.PushesFresh w)
  | acceptHead wid record now =>
    inferInstanceAs (Decidable (Fresh (modify (·.prune wid now)) wid record w))
  | acceptMerge widOld widNew mhHeads record now =>
    inferInstanceAs (Decidable (Fresh (prepareMerge widOld widNew mhHeads now) widNew record w))
  | setTtl _ _ => .isTrue trivial
  | pruneAll _ => .isTrue trivial

instance (w : MultiHeadWindow) : (call : WindowCall) → Decidable (call.PushesNoLive w)
  | acceptHead _ record now => inferInstanceAs (Decidable (¬ w.Live now record.weEpochId))
  | acceptMerge _ _ _ record now => inferInstanceAs (Decidable (¬ w.Live now record.weEpochId))
  | setTtl _ _ => .isTrue trivial
  | pruneAll _ => .isTrue trivial

theorem run_indexed {w : MultiHeadWindow} {call : WindowCall} (h : w.Indexed)
    (hfresh : call.PushesFresh w) : (call.run w).Indexed := by
  cases call with
  | acceptHead wid record now => exact h.insert (.modify fun w hw => hw.prune wid now) now hfresh
  | acceptMerge widOld widNew mhHeads record now =>
    rw [run, MultiHeadWindow.acceptMerge_eq]
    exact h.insert (MultiHeadWindow.prepareMerge_indexed widOld widNew mhHeads now) now hfresh
  | setTtl ttl now => exact h.setTtl ttl now
  | pruneAll now => exact h.pruneAll now

theorem run_bounded {w : MultiHeadWindow} {limit : Nat} (call : WindowCall) (h : w.Bounded limit) :
    (call.run w).Bounded limit := by
  cases call with
  | acceptHead wid record now => exact (h.prune wid now).pushPruned wid _
  | acceptMerge widOld widNew mhHeads record now =>
    rw [run, MultiHeadWindow.acceptMerge_eq]
    exact EStateM.Preserves.bind (MultiHeadWindow.prepareMerge_bounded limit widOld widNew mhHeads now)
      (fun _ w hw => hw.pushPruned widNew _) w h
  | setTtl ttl now => exact h.setTtl ttl now
  | pruneAll now => exact h.pruneAll now

end WindowCall

abbrev WindowRun (hMax ttl : Nat) (guard : MultiHeadWindow → WindowCall → Prop) :
    MultiHeadWindow → Prop :=
  Run.Reach (· = .new hMax ttl) (fun w call => some (WindowCall.run w call)) guard

/-- As long as only epochs that no window lists are pushed, the index names for
an epoch exactly the window that lists it, and no window outgrows the limit. -/
theorem WindowRun.index_exact {hMax ttl : Nat} {w : MultiHeadWindow}
    (h : WindowRun hMax ttl (fun w call => call.PushesFresh w) w) :
    (∀ weid wid, w.findHeadWindow weid = some wid ↔
      ∃ record ∈ w.headsAt wid, record.weEpochId = weid) ∧
    ∀ wid, w.activeHeads wid ≤ hMax := by
  have hinv : w.Indexed ∧ w.Bounded hMax := by
    refine @Run.Reach.invariant _ _ _ _ _ (fun w => w.Indexed ∧ w.Bounded hMax) ?_ ?_ w h
    · rintro w rfl
      refine ⟨⟨fun weid wid => ?_, fun wid => List.nodup_nil⟩, ⟨rfl, fun wid => Nat.zero_le _⟩⟩
      simp [MultiHeadWindow.findHeadWindow, MultiHeadWindow.idsAt, MultiHeadWindow.headsAt,
        MultiHeadWindow.new]
    · rintro w call w' ⟨hindexed, hbounded⟩ hfresh hrun
      obtain rfl := Option.some.inj hrun
      exact ⟨WindowCall.run_indexed hindexed hfresh, call.run_bounded hbounded⟩
  obtain ⟨hindexed, hbounded⟩ := hinv
  refine ⟨fun weid wid => ?_, hbounded.activeHeads⟩
  exact (hindexed.index weid wid).trans MultiHeadWindow.mem_idsAt

def headOf (weid : Byte) : HeadRecord :=
  ⟨.fill weid, .zero, .zero, .zero, .zero, .zero, .zero, .zero, .zero, 0, 0⟩

def windowCalls : List WindowCall :=
  [.acceptHead [1] (headOf 1) 0, .acceptHead [1] (headOf 2) 1,
    .acceptMerge [1] [2] [.fill 1, .fill 2] (headOf 3) 2, .acceptHead [2] (headOf 1) 9]

theorem index_exact_after_expiry :
    ∃ w, WindowRun 2 5 (fun w call => call.PushesFresh w) w ∧
      w.findHeadWindow (.fill 1) = some [2] ∧ w.findHeadWindow (.fill 3) = none ∧
      (∀ weid wid, w.findHeadWindow weid = some wid ↔
        ∃ record ∈ w.headsAt wid, record.weEpochId = weid) ∧
      ∀ wid, w.activeHeads wid ≤ 2 := by
  let w := windowCalls.foldl WindowCall.run (.new 2 5)
  have hrun : WindowRun 2 5 (fun w call => call.PushesFresh w) w := by
    have hexec : Run.exec (Run.guarded (fun w call => some (WindowCall.run w call))
        fun w call => call.PushesFresh w) (.new 2 5) windowCalls = some w := by decide +kernel
    exact Run.reach_of_exec (.start rfl) hexec
  exact ⟨w, hrun, by decide +kernel, by decide +kernel, WindowRun.index_exact hrun⟩

/-- An epoch whose head has expired but was not pruned yet, pushed into another
window: pruning the first window erases the index entry of the second. -/
theorem index_lost_to_expired_head :
    ∃ w, WindowRun 16 1 (fun w call => call.PushesNoLive w) w ∧
      w.Live 6 (.fill 1) ∧ (∃ record ∈ w.headsAt [2], record.weEpochId = .fill 1) ∧
      w.findHeadWindow (.fill 1) = none := by
  let calls : List WindowCall :=
    [.acceptHead [1] (headOf 1) 0, .acceptHead [2] (headOf 1) 5, .acceptHead [1] (headOf 2) 6]
  let w := calls.foldl WindowCall.run (.new 16 1)
  have hexec : Run.exec (Run.guarded (fun w call => some (WindowCall.run w call))
      fun w call => call.PushesNoLive w) (.new 16 1) calls = some w := by decide +kernel
  exact ⟨w, Run.reach_of_exec (.start rfl) hexec, by decide +kernel, by decide +kernel,
    by decide +kernel⟩

end CityG
