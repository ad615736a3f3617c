import CityG.Client.Replay
import CityG.Lib.Except
import CityG.SlotLeases

/-!
# Saving and restoring the replay window

The saved form lists the tuples in tag order with their stamps. Restoring replays
the indices through `record`, which stamps the tuples anew: contents survive, the
order in which the tuples were last seen becomes the order of their tags.
-/

namespace CityG

def HexCodec.EncodesNonempty (hex : HexCodec) : Prop := ∀ b, hex.encode b = [] → b = []

namespace Client

structure PersistedMsgReplayTupleState where
  tupleTagHex : HexText := []
  contextIdHex : HexText := []
  seenMsgIndices : List Nat := []
  lastSeenOrder : Nat := 0
  deriving DecidableEq

/-- The first two fields are the form of an earlier version, with a single tuple. -/
structure PersistedMsgReplayState where
  tupleTagHex : HexText := []
  seenMsgIndices : List Nat := []
  tuples : List PersistedMsgReplayTupleState := []
  nextSeenOrder : Nat := 0
  deriving DecidableEq

section Codec
variable (hex : HexCodec)

def decodeHex32 (name : String) (value : HexText) : Except String Bytes32 := do
  let bytes ← Except.ofOption (name ++ " is not valid hex") (hex.decode value)
  Except.ofOption (name ++ " must decode to 32 bytes, got " ++ toString bytes.length)
    (toBytes32 bytes)

def decodeHex32OrZero (name : String) (value : HexText) : Except String Bytes32 :=
  if value = [] then pure Bytes32.zero else decodeHex32 hex name value

namespace PersistedMsgReplayState

def savedTuple (e : Bytes32 × MsgReplayTupleState) : PersistedMsgReplayTupleState where
  tupleTagHex := hex.encode32 e.1
  contextIdHex := hex.encode32 e.2.contextId
  seenMsgIndices := e.2.seenMsgIndices
  lastSeenOrder := e.2.lastSeenOrder

def fromRuntime (state : MsgReplayState) : PersistedMsgReplayState where
  tuples := state.tuples.entries.map (savedTuple hex)
  nextSeenOrder := state.nextSeenOrder

def recordAll (tupleTag contextId : Bytes32) (indices : List Nat) (runtime : MsgReplayState) :
    MsgReplayState :=
  indices.foldl (fun runtime msgIndex => runtime.record tupleTag contextId msgIndex)
    (runtime.ensureTuple tupleTag contextId)

def raiseOrder (tupleTag : Bytes32) (lastSeenOrder : Nat) (runtime : MsgReplayState) :
    MsgReplayState :=
  match runtime.tuples.get? tupleTag with
  | none => runtime
  | some state => { runtime with
      tuples := runtime.tuples.insert tupleTag
        { state with lastSeenOrder := max lastSeenOrder state.lastSeenOrder } }

def restoreTuple (runtime : MsgReplayState) (entry : PersistedMsgReplayTupleState × Nat) :
    Except String MsgReplayState := do
  let field := "msg_replay_state.tuples[" ++ toString entry.2 ++ "]."
  let tupleTag ← decodeHex32OrZero hex (field ++ "tuple_tag_hex") entry.1.tupleTagHex
  let contextId ← decodeHex32OrZero hex (field ++ "context_id_hex") entry.1.contextIdHex
  pure (raiseOrder tupleTag entry.1.lastSeenOrder
    (recordAll tupleTag contextId entry.1.seenMsgIndices runtime))

def intoRuntime (saved : PersistedMsgReplayState) : Except String MsgReplayState :=
  let runtime : MsgReplayState := { nextSeenOrder := saved.nextSeenOrder }
  if saved.tuples = [] ∧ (saved.tupleTagHex ≠ [] ∨ saved.seenMsgIndices ≠ []) then do
    let tupleTag ← decodeHex32OrZero hex "msg_replay_state.tuple_tag_hex" saved.tupleTagHex
    pure (recordAll tupleTag Bytes32.zero saved.seenMsgIndices runtime)
  else do
    let runtime ← saved.tuples.zipIdx.foldlM (restoreTuple hex) runtime
    pure { runtime with
      nextSeenOrder := max runtime.nextSeenOrder
        (((runtime.tuples.values.map (·.lastSeenOrder)).max?).getD 0) }

end PersistedMsgReplayState

end Codec

theorem decodeHex32OrZero_encode32 {hex : HexCodec} (hhex : hex.EncodesNonempty)
    (name : String) (b : Bytes32) : decodeHex32OrZero hex name (hex.encode32 b) = .ok b := by
  have hne : hex.encode32 b ≠ [] := by
    intro hnil
    have hlen := b.property
    rw [hhex b.val hnil] at hlen
    simp at hlen
  rw [decodeHex32OrZero, if_neg hne, decodeHex32, Except.bind_eq_ok]
  exact ⟨b.val, by simp [HexCodec.encode32, hex.decode_encode], by simp⟩

def stampAfter (next count : Nat) : Nat := min (next + count) U64_MAX

theorem stampAfter_stampAfter (next m n : Nat) :
    stampAfter (stampAfter next m) n = stampAfter next (m + n) := by
  unfold stampAfter
  omega

namespace PersistedMsgReplayState

variable {tupleTag contextId : Bytes32} {runtime : MsgReplayState}

def withWindow (contextId : Bytes32) (seen : List Nat) (order : Nat) : MsgReplayTupleState :=
  ⟨contextId, seen, seen.toFinset, order⟩

variable {order : Nat} {hex : HexCodec}

theorem record_withWindow {seen : List Nat} {msgIndex : Nat}
    (hget : runtime.tuples.get? tupleTag = some (withWindow contextId seen order))
    (hnew : msgIndex ∉ seen) (hlen : seen.length < MAX_MSGS_PER_REPLAY_TUPLE) :
    runtime.record tupleTag contextId msgIndex =
      { tuples := runtime.tuples.insert tupleTag
          (withWindow contextId (seen ++ [msgIndex]) (stampAfter runtime.nextSeenOrder 1))
        nextSeenOrder := stampAfter runtime.nextSeenOrder 1 } := by
  have htuple : runtime.tupleOr tupleTag = withWindow contextId seen order := by
    rw [MsgReplayState.tupleOr, hget]
    rfl
  have hpushed : (withWindow contextId seen order).remember (stampAfter runtime.nextSeenOrder 1)
      msgIndex = withWindow contextId (seen ++ [msgIndex]) (stampAfter runtime.nextSeenOrder 1) := by
    have hset : insert msgIndex seen.toFinset = (seen ++ [msgIndex]).toFinset := by
      ext i
      simp [or_comm]
    rw [MsgReplayTupleState.remember, MsgReplayTupleState.trim, if_neg]
    · simp only [MsgReplayTupleState.pushBack, withWindow, hset]
    · simp only [MsgReplayTupleState.pushBack, withWindow, List.length_append,
        List.length_singleton]
      omega
  have hset : msgIndex ∉ (withWindow contextId seen order).seenMsgIndexSet := by
    simpa [withWindow] using hnew
  have hentered : (withWindow contextId seen order).enter contextId =
      withWindow contextId seen order := MsgReplayTupleState.enter_of_eq rfl
  rw [MsgReplayState.record, htuple, hentered, if_neg hset]
  exact congrArg (fun tuple => (⟨runtime.tuples.insert tupleTag tuple,
    stampAfter runtime.nextSeenOrder 1⟩ : MsgReplayState)) hpushed

theorem foldl_record {seen rest : List Nat}
    (hget : runtime.tuples.get? tupleTag = some (withWindow contextId seen order))
    (hnodup : (seen ++ rest).Nodup) (hlen : (seen ++ rest).length ≤ MAX_MSGS_PER_REPLAY_TUPLE)
    (hmax : runtime.nextSeenOrder ≤ U64_MAX) :
    rest.foldl (fun runtime msgIndex => runtime.record tupleTag contextId msgIndex) runtime =
      { tuples := runtime.tuples.insert tupleTag (withWindow contextId (seen ++ rest)
          (if rest = [] then order else stampAfter runtime.nextSeenOrder rest.length))
        nextSeenOrder := stampAfter runtime.nextSeenOrder rest.length } := by
  induction rest generalizing runtime seen order with
  | nil =>
    have hsame : runtime.tuples.insert tupleTag (withWindow contextId seen order) =
        runtime.tuples := OrdMap.insert_eq_self.mpr hget
    simp [hsame, stampAfter, Nat.min_eq_left hmax]
  | cons msgIndex rest ih =>
    have hsplit : seen ++ msgIndex :: rest = (seen ++ [msgIndex]) ++ rest := by simp
    rw [hsplit] at hnodup hlen ⊢
    have hnew : msgIndex ∉ seen := by
      intro hmem
      have hdisjoint := (List.nodup_append.mp (List.nodup_append.mp hnodup).1).2.2
      exact hdisjoint msgIndex hmem msgIndex (List.mem_singleton_self _) rfl
    have hstep := record_withWindow hget hnew (by simp at hlen; omega)
    have hget' : (runtime.record tupleTag contextId msgIndex).tuples.get? tupleTag =
        some (withWindow contextId (seen ++ [msgIndex]) (stampAfter runtime.nextSeenOrder 1)) := by
      rw [hstep]
      simp
    rw [List.foldl_cons, ih hget' hnodup hlen (by rw [hstep]; exact Nat.min_le_right _ _), hstep]
    simp only [OrdMap.insert_insert, stampAfter_stampAfter, List.length_cons]
    rw [Nat.add_comm 1]
    cases rest <;> simp

theorem recordAll_absent {indices : List Nat} (hget : runtime.tuples.get? tupleTag = none)
    (hnodup : indices.Nodup) (hlen : indices.length ≤ MAX_MSGS_PER_REPLAY_TUPLE)
    (hmax : runtime.nextSeenOrder ≤ U64_MAX) :
    recordAll tupleTag contextId indices runtime =
      { tuples := runtime.tuples.insert tupleTag (withWindow contextId indices
          (if indices = [] then 0 else stampAfter runtime.nextSeenOrder indices.length))
        nextSeenOrder := stampAfter runtime.nextSeenOrder indices.length } := by
  have hfresh : runtime.ensureTuple tupleTag contextId =
      { runtime with tuples := runtime.tuples.insert tupleTag (withWindow contextId [] 0) } := by
    rw [MsgReplayState.ensureTuple, MsgReplayState.tupleOr, hget]
    rfl
  have hget' : (runtime.ensureTuple tupleTag contextId).tuples.get? tupleTag =
      some (withWindow contextId [] 0) := by
    rw [hfresh]
    simp
  rw [recordAll, foldl_record hget' hnodup hlen (by rwa [hfresh]), hfresh]
  simp [OrdMap.insert_insert]

def restoredOrder (next : Nat) (tuple : MsgReplayTupleState) : Nat :=
  if tuple.seenMsgIndices = [] then tuple.lastSeenOrder
  else stampAfter next tuple.seenMsgIndices.length

theorem raiseOrder_insert (m : OrdMap Bytes32 MsgReplayTupleState) (next lastSeenOrder : Nat)
    (tuple : MsgReplayTupleState) :
    raiseOrder tupleTag lastSeenOrder ⟨m.insert tupleTag tuple, next⟩ =
      ⟨m.insert tupleTag { tuple with lastSeenOrder := max lastSeenOrder tuple.lastSeenOrder },
        next⟩ := by
  simp [raiseOrder, OrdMap.insert_insert]

theorem max_restoredOrder {tuple : MsgReplayTupleState} {next : Nat} (hwf : tuple.WellFormed order)
    (hle : order ≤ next) (hmax : next ≤ U64_MAX) :
    max tuple.lastSeenOrder (if tuple.seenMsgIndices = [] then 0
      else stampAfter next tuple.seenMsgIndices.length) = restoredOrder next tuple := by
  have hstamped := hwf.stamped_le
  unfold restoredOrder stampAfter
  split <;> omega

theorem restoreTuple_saved (hhex : hex.EncodesNonempty) {e : Bytes32 × MsgReplayTupleState}
    (i : Nat) (hwf : e.2.WellFormed order) (hle : order ≤ runtime.nextSeenOrder)
    (hmax : runtime.nextSeenOrder ≤ U64_MAX) (hget : runtime.tuples.get? e.1 = none) :
    restoreTuple hex runtime (savedTuple hex e, i) = .ok
      { tuples := runtime.tuples.insert e.1
          { e.2 with lastSeenOrder := restoredOrder runtime.nextSeenOrder e.2 }
        nextSeenOrder := stampAfter runtime.nextSeenOrder e.2.seenMsgIndices.length } := by
  rw [restoreTuple, savedTuple, decodeHex32OrZero_encode32 hhex, Except.ok_bind,
    decodeHex32OrZero_encode32 hhex, Except.ok_bind,
    recordAll_absent hget hwf.nodup hwf.bounded hmax, raiseOrder_insert]
  simp only [withWindow, max_restoredOrder hwf hle hmax, ← hwf.agree]
  rfl

def restamp : Nat → List (Bytes32 × MsgReplayTupleState) → List (Bytes32 × MsgReplayTupleState)
  | _, [] => []
  | next, e :: rest =>
    (e.1, { e.2 with lastSeenOrder := restoredOrder next e.2 }) ::
      restamp (stampAfter next e.2.seenMsgIndices.length) rest

theorem foldlM_restoreTuple (hhex : hex.EncodesNonempty) {es : List (Bytes32 × MsgReplayTupleState)}
    (i : Nat) (hwf : ∀ e ∈ es, e.2.WellFormed order) (hle : order ≤ runtime.nextSeenOrder)
    (hmax : runtime.nextSeenOrder ≤ U64_MAX)
    (hsorted : (runtime.tuples.entries ++ es).Pairwise fun a b => a.1 < b.1) :
    ∃ restored, ((es.map (savedTuple hex)).zipIdx i).foldlM (restoreTuple hex) runtime =
        .ok restored ∧
      restored.tuples.entries = runtime.tuples.entries ++ restamp runtime.nextSeenOrder es := by
  induction es generalizing runtime i with
  | nil => exact ⟨runtime, rfl, by simp [restamp]⟩
  | cons e es ih =>
    have hbelow : ∀ a ∈ runtime.tuples.entries, a.1 < e.1 := fun a ha =>
      (List.pairwise_append.mp hsorted).2.2 a ha e List.mem_cons_self
    have hget : runtime.tuples.get? e.1 = none := by
      cases hcase : runtime.tuples.get? e.1 with
      | none => rfl
      | some tuple => exact absurd (hbelow _ (OrdMap.mem_entries_iff.mpr hcase)) (lt_irrefl _)
    let next : MsgReplayState := ⟨runtime.tuples.insert e.1
      { e.2 with lastSeenOrder := restoredOrder runtime.nextSeenOrder e.2 },
      stampAfter runtime.nextSeenOrder e.2.seenMsgIndices.length⟩
    have hstep : restoreTuple hex runtime (savedTuple hex e, i) = .ok next :=
      restoreTuple_saved hhex i (hwf e List.mem_cons_self) hle hmax hget
    have hentries : next.tuples.entries = runtime.tuples.entries ++
        [(e.1, { e.2 with lastSeenOrder := restoredOrder runtime.nextSeenOrder e.2 })] :=
      OrdMap.insertEntry_append hbelow
    have hsorted' : (next.tuples.entries ++ es).Pairwise fun a b => a.1 < b.1 := by
      rw [← List.pairwise_map] at hsorted ⊢
      rw [hentries]
      simpa using hsorted
    have hle' : order ≤ next.nextSeenOrder := by
      simp only [next, stampAfter]
      omega
    obtain ⟨restored, hfold, hrestored⟩ := @ih next (i + 1)
      (fun a ha => hwf a (List.mem_cons_of_mem _ ha)) hle' (Nat.min_le_right _ _) hsorted'
    refine ⟨restored, ?_, ?_⟩
    · rw [List.map_cons, List.zipIdx_cons, List.foldlM_cons, hstep]
      exact hfold
    · rw [hrestored, hentries, restamp, List.append_assoc]
      rfl

theorem intoRuntime_fromRuntime (hhex : hex.EncodesNonempty) {state : MsgReplayState}
    (hwf : state.WellFormed) :
    ∃ restored, intoRuntime hex (fromRuntime hex state) = .ok restored ∧
      restored.tuples.entries = restamp state.nextSeenOrder state.tuples.entries := by
  let start : MsgReplayState := { nextSeenOrder := state.nextSeenOrder }
  have hle : state.nextSeenOrder ≤ start.nextSeenOrder := le_rfl
  have hsorted : (start.tuples.entries ++ state.tuples.entries).Pairwise fun a b => a.1 < b.1 :=
    state.tuples.sorted
  obtain ⟨restored, hfold, hentries⟩ := foldlM_restoreTuple hhex 0
    (fun e he => hwf.tuples e.1 e.2 (OrdMap.mem_entries_iff.mp he)) hle hwf.order_le hsorted
  refine ⟨{ restored with
    nextSeenOrder := max restored.nextSeenOrder
      (((restored.tuples.values.map (·.lastSeenOrder)).max?).getD 0) }, ?_, hentries⟩
  rw [intoRuntime, if_neg (by simp [fromRuntime]), Except.bind_eq_ok]
  exact ⟨restored, hfold, rfl⟩

def stampWith (order : Bytes32 → Nat) (e : Bytes32 × MsgReplayTupleState) :
    Bytes32 × MsgReplayTupleState :=
  (e.1, { e.2 with lastSeenOrder := order e.1 })

structure TagOrder (es : List (Bytes32 × MsgReplayTupleState)) (order : Bytes32 → Nat) : Prop where
  empty : ∀ e ∈ es, e.2.seenMsgIndices = [] → order e.1 = e.2.lastSeenOrder
  stamped : ∀ e ∈ es, e.2.seenMsgIndices ≠ [] → 0 < order e.1
  sorted : ∀ a ∈ es, ∀ b ∈ es, a.2.seenMsgIndices ≠ [] → b.2.seenMsgIndices ≠ [] → a.1 < b.1 →
    order a.1 ≤ order b.1

theorem restamp_eq_map {next : Nat} {es : List (Bytes32 × MsgReplayTupleState)}
    (hsorted : es.Pairwise fun a b => a.1 < b.1) (hmax : next ≤ U64_MAX) :
    ∃ order, restamp next es = es.map (stampWith order) ∧ TagOrder es order ∧
      ∀ e ∈ es, e.2.seenMsgIndices ≠ [] → next ≤ order e.1 := by
  induction es generalizing next with
  | nil => exact ⟨fun _ => 0, rfl, ⟨by simp, by simp, by simp⟩, by simp⟩
  | cons e es ih =>
    obtain ⟨hhead, htail⟩ := List.pairwise_cons.mp hsorted
    obtain ⟨order, hmap, htags, hnext⟩ :=
      ih htail (Nat.min_le_right (next + e.2.seenMsgIndices.length) U64_MAX)
    have hne : ∀ a ∈ es, a.1 ≠ e.1 := fun a ha => (hhead a ha).ne'
    have hself : e.2.seenMsgIndices ≠ [] → restoredOrder next e.2 =
        stampAfter next e.2.seenMsgIndices.length := fun hseen => if_neg hseen
    refine ⟨fun tag => if tag = e.1 then restoredOrder next e.2 else order tag, ?_, ⟨?_, ?_, ?_⟩, ?_⟩
    · have hrest : es.map (stampWith fun tag =>
          if tag = e.1 then restoredOrder next e.2 else order tag) = es.map (stampWith order) :=
        List.map_congr_left fun a ha => by simp only [stampWith, if_neg (hne a ha)]
      rw [restamp, List.map_cons, hrest, stampAfter, hmap]
      simp [stampWith]
    · rintro a (_ | ⟨_, ha⟩) hseen
      · simp [restoredOrder, hseen]
      · simp [hne a ha, htags.empty a ha hseen]
    · rintro a (_ | ⟨_, ha⟩) hseen
      · have hlen := List.length_pos_of_ne_nil hseen
        simp only [if_true, hself hseen, stampAfter]
        exact Nat.lt_min.mpr ⟨by omega, by decide⟩
      · simpa [hne a ha] using htags.stamped a ha hseen
    · rintro a (_ | ⟨_, ha⟩) b (_ | ⟨_, hb⟩) hseen hseen' hlt
      · exact absurd hlt (lt_irrefl _)
      · simp only [if_true, hne b hb, if_false, hself hseen]
        exact hnext b hb hseen'
      · exact absurd hlt (lt_asymm (hhead a ha))
      · simpa [hne a ha, hne b hb] using htags.sorted a ha b hb hseen hseen' hlt
    · rintro a (_ | ⟨_, ha⟩) hseen
      · simp only [if_true, hself hseen, stampAfter]
        omega
      · have := hnext a ha hseen
        simp only [hne a ha, if_false]
        omega

end PersistedMsgReplayState

open PersistedMsgReplayState

/-- Queries give the same answers, and a prune keeps the same tuples. -/
structure MsgReplayState.SameBehaviour (state restored : MsgReplayState) : Prop where
  contains : ∀ tupleTag msgIndex,
    state.contains tupleTag msgIndex = restored.contains tupleTag msgIndex
  len : ∀ tupleTag, state.len tupleTag = restored.len tupleTag
  kept : ∀ contextId maxTuples tupleTag,
    tupleTag ∈ (state.pruneToContext contextId maxTuples).tuples ↔
      tupleTag ∈ (restored.pruneToContext contextId maxTuples).tuples

/-- Some context retains both tuples. -/
def MsgReplayTupleState.Together (a b : MsgReplayTupleState) : Prop :=
  a.contextId = Bytes32.zero ∨ b.contextId = Bytes32.zero ∨ a.contextId = b.contextId

instance (a b : MsgReplayTupleState) : Decidable (a.Together b) :=
  inferInstanceAs (Decidable (_ ∨ _ ∨ _))

/-- Of two non-empty tuples that one context retains, the one with the smaller tag was not seen
later. -/
def MsgReplayState.RecencyFollowsTags (state : MsgReplayState) : Prop :=
  ∀ a ∈ state.tuples.entries, ∀ b ∈ state.tuples.entries,
    a.2.seenMsgIndices ≠ [] → b.2.seenMsgIndices ≠ [] → a.2.Together b.2 → a.1 < b.1 →
      a.2.lastSeenOrder ≤ b.2.lastSeenOrder

instance (state : MsgReplayState) : Decidable state.RecencyFollowsTags :=
  inferInstanceAs (Decidable (∀ a ∈ _, ∀ b ∈ _, _))

section Compare

variable {state restored : MsgReplayState} {order : Bytes32 → Nat}

theorem get?_of_entries_map (h : restored.tuples.entries = state.tuples.entries.map (stampWith order))
    (tupleTag : Bytes32) :
    restored.tuples.get? tupleTag = (state.tuples.get? tupleTag).map fun tuple =>
      { tuple with lastSeenOrder := order tupleTag } := by
  ext tuple
  rw [← OrdMap.mem_entries_iff, h, List.mem_map, Option.map_eq_some_iff]
  simp only [Prod.exists, OrdMap.mem_entries_iff, stampWith, Prod.mk.injEq]
  constructor
  · rintro ⟨_, old, hget, rfl, rfl⟩
    exact ⟨old, hget, rfl⟩
  · rintro ⟨old, hget, rfl⟩
    exact ⟨tupleTag, old, hget, rfl, rfl⟩

def retained (contextId : Bytes32) (state : MsgReplayState) : OrdMap Bytes32 MsgReplayTupleState :=
  state.tuples.filter fun e => e.2.contextId = Bytes32.zero ∨ e.2.contextId = contextId

variable {contextId : Bytes32}

theorem mem_pruneToContext {tupleTag : Bytes32} {maxTuples : Nat} :
    tupleTag ∈ (state.pruneToContext contextId maxTuples).tuples ↔
      ∃ e ∈ (retained contextId state).entries, e.1 = tupleTag ∧
        (retained contextId state).newerCount (·.lastSeenOrder) e < max maxTuples 1 := by
  have hprune : (state.pruneToContext contextId maxTuples).tuples =
      (retained contextId state).evict (·.lastSeenOrder) (max maxTuples 1) := rfl
  rw [hprune, OrdMap.mem_iff]
  constructor
  · rintro ⟨tuple, hget⟩
    have hmem := (OrdMap.mem_evict _).mp (OrdMap.mem_entries_iff.mpr hget)
    exact ⟨(tupleTag, tuple), hmem.1, rfl, hmem.2⟩
  · rintro ⟨e, he, rfl, hcount⟩
    exact ⟨e.2, OrdMap.mem_entries_iff.mp ((OrdMap.mem_evict e).mpr ⟨he, hcount⟩)⟩

theorem retained_entries (h : restored.tuples.entries = state.tuples.entries.map (stampWith order))
    (contextId : Bytes32) :
    (retained contextId restored).entries =
      (retained contextId state).entries.map (stampWith order) := by
  change restored.tuples.entries.filter _ = (state.tuples.entries.filter _).map _
  rw [h, List.filter_map]
  rfl

theorem older_stampWith {a b : Bytes32 × MsgReplayTupleState} (hwf : state.WellFormed)
    (htags : TagOrder state.tuples.entries order) (ha : a ∈ state.tuples.entries)
    (hb : b ∈ state.tuples.entries) :
    OrdMap.Older (·.lastSeenOrder) (stampWith order a) (stampWith order b) ↔
      if a.2.seenMsgIndices ≠ [] ∧ b.2.seenMsgIndices ≠ [] then a.1 < b.1
      else OrdMap.Older (·.lastSeenOrder) a b := by
  have hwfa := hwf.tuples a.1 a.2 (OrdMap.mem_entries_iff.mp ha)
  have hwfb := hwf.tuples b.1 b.2 (OrdMap.mem_entries_iff.mp hb)
  have hab := htags.sorted a ha b hb
  have hba := htags.sorted b hb a ha
  have hemptya := htags.empty a ha
  have hemptyb := htags.empty b hb
  have hstampa := htags.stamped a ha
  have hstampb := htags.stamped b hb
  have hzeroa := hwfa.unstamped
  have hzerob := hwfb.unstamped
  have hposa := hwfa.stamped
  have hposb := hwfb.stamped
  unfold OrdMap.Older stampWith
  simp only
  by_cases hseena : a.2.seenMsgIndices = [] <;> by_cases hseenb : b.2.seenMsgIndices = []
  · rw [hemptya hseena, hemptyb hseenb, if_neg (by simp [hseena])]
  · rw [if_neg (by simp [hseena])]
    have := hstampb hseenb
    have := hposb hseenb
    have := hemptya hseena
    have := hzeroa hseena
    constructor <;> intro <;> left <;> omega
  · rw [if_neg (by simp [hseenb])]
    have := hstampa hseena
    have := hposa hseena
    have := hemptyb hseenb
    have := hzerob hseenb
    constructor <;> rintro (h | ⟨h, -⟩) <;> omega
  · rw [if_pos ⟨hseena, hseenb⟩]
    constructor
    · rintro (hlt | ⟨-, hlt⟩)
      · rcases lt_trichotomy a.1 b.1 with h | h | h
        · exact h
        · rw [h] at hlt
          exact absurd hlt (lt_irrefl _)
        · have := hba hseenb hseena h
          omega
      · exact hlt
    · intro hlt
      have := hab hseena hseenb hlt
      rcases Nat.lt_or_eq_of_le this with h | h
      · exact .inl h
      · exact .inr ⟨h, hlt⟩

theorem mem_retained {e : Bytes32 × MsgReplayTupleState} :
    e ∈ (retained contextId state).entries ↔ e ∈ state.tuples.entries ∧
      (e.2.contextId = Bytes32.zero ∨ e.2.contextId = contextId) := by
  change e ∈ state.tuples.entries.filter _ ↔ _
  simp

theorem newerCount_stampWith
    (h : restored.tuples.entries = state.tuples.entries.map (stampWith order))
    {a : Bytes32 × MsgReplayTupleState} (hagree : ∀ b ∈ (retained contextId state).entries,
      OrdMap.Older (·.lastSeenOrder) (stampWith order a) (stampWith order b) ↔
        OrdMap.Older (·.lastSeenOrder) a b) :
    (retained contextId restored).newerCount (·.lastSeenOrder) (stampWith order a) =
      (retained contextId state).newerCount (·.lastSeenOrder) a := by
  rw [OrdMap.newerCount, retained_entries h, List.filter_map, List.length_map, OrdMap.newerCount]
  congr 1
  refine List.filter_congr fun b hb => ?_
  simpa using hagree b hb

theorem kept_iff_of_recencyFollowsTags (hwf : state.WellFormed)
    (h : restored.tuples.entries = state.tuples.entries.map (stampWith order))
    (htags : TagOrder state.tuples.entries order) (hrecency : state.RecencyFollowsTags)
    (contextId : Bytes32) (maxTuples : Nat) (tupleTag : Bytes32) :
    tupleTag ∈ (state.pruneToContext contextId maxTuples).tuples ↔
      tupleTag ∈ (restored.pruneToContext contextId maxTuples).tuples := by
  have hcount : ∀ a ∈ (retained contextId state).entries,
      (retained contextId restored).newerCount (·.lastSeenOrder) (stampWith order a) =
        (retained contextId state).newerCount (·.lastSeenOrder) a := by
    intro a ha
    obtain ⟨hamem, hacontext⟩ := mem_retained.mp ha
    refine newerCount_stampWith h fun b hb => ?_
    obtain ⟨hbmem, hbcontext⟩ := mem_retained.mp hb
    have htogether : a.2.Together b.2 ∧ b.2.Together a.2 := by
      unfold MsgReplayTupleState.Together
      grind
    rw [older_stampWith hwf htags hamem hbmem]
    split_ifs with hseen
    · have hab := hrecency a hamem b hbmem hseen.1 hseen.2 htogether.1
      have hba := hrecency b hbmem a hamem hseen.2 hseen.1 htogether.2
      unfold OrdMap.Older
      constructor
      · intro hlt
        rcases Nat.lt_or_eq_of_le (hab hlt) with hord | hord
        · exact .inl hord
        · exact .inr ⟨hord, hlt⟩
      · rintro (hord | ⟨-, hlt⟩)
        · rcases lt_trichotomy a.1 b.1 with hlt | heq | hgt
          · exact hlt
          · rw [OrdMap.key_eq hamem hbmem heq] at hord
            exact absurd hord (lt_irrefl _)
          · exact absurd (hba hgt) (Nat.not_le.mpr hord)
        · exact hlt
    · exact Iff.rfl
  rw [mem_pruneToContext, mem_pruneToContext, retained_entries h]
  simp only [List.mem_map, exists_exists_and_eq_and]
  exact exists_congr fun a => and_congr_right fun ha => by rw [hcount a ha]; rfl

theorem recencyFollowsTags_of_kept (hwf : state.WellFormed)
    (h : restored.tuples.entries = state.tuples.entries.map (stampWith order))
    (htags : TagOrder state.tuples.entries order)
    (hkept : ∀ contextId maxTuples tupleTag,
      tupleTag ∈ (state.pruneToContext contextId maxTuples).tuples ↔
        tupleTag ∈ (restored.pruneToContext contextId maxTuples).tuples) :
    state.RecencyFollowsTags := by
  intro a ha b hb hseena hseenb htogether hlt
  by_contra hnot
  have hba : OrdMap.Older (·.lastSeenOrder) b a := .inl (Nat.lt_of_not_le hnot)
  obtain ⟨contextId, hra, hrb⟩ : ∃ contextId, a ∈ (retained contextId state).entries ∧
      b ∈ (retained contextId state).entries := by
    simp only [mem_retained, ha, hb, true_and]
    unfold MsgReplayTupleState.Together at htogether
    by_cases hzero : a.2.contextId = Bytes32.zero
    · exact ⟨b.2.contextId, .inl hzero, .inr rfl⟩
    · exact ⟨a.2.contextId, .inr rfl, by grind⟩
  -- There is room for `a` and everything newer.
  let room := (retained contextId state).newerCount (·.lastSeenOrder) a + 1
  have hroom : max room 1 = room := by omega
  have hkeepa : a.1 ∈ (state.pruneToContext contextId room).tuples :=
    mem_pruneToContext.mpr ⟨a, hra, rfl, by omega⟩
  have hdropb : b.1 ∉ (state.pruneToContext contextId room).tuples := by
    rw [mem_pruneToContext]
    rintro ⟨e, he, hkey, hcount⟩
    obtain rfl := OrdMap.key_eq he hrb hkey
    have := OrdMap.newerCount_lt_of_older hra hba
    omega
  rw [hkept] at hkeepa hdropb
  obtain ⟨a', ha', hkey, hcount⟩ := mem_pruneToContext.mp hkeepa
  have hab : OrdMap.Older (·.lastSeenOrder) (stampWith order a) (stampWith order b) := by
    rw [older_stampWith hwf htags ha hb, if_pos ⟨hseena, hseenb⟩]
    exact hlt
  have hra' : stampWith order a ∈ (retained contextId restored).entries := by
    rw [retained_entries h]
    exact List.mem_map_of_mem hra
  have hrb' : stampWith order b ∈ (retained contextId restored).entries := by
    rw [retained_entries h]
    exact List.mem_map_of_mem hrb
  obtain rfl := OrdMap.key_eq ha' hra' hkey
  refine hdropb (mem_pruneToContext.mpr ⟨stampWith order b, hrb', rfl, ?_⟩)
  exact (OrdMap.newerCount_lt_of_older hrb' hab).trans hcount

theorem contains_of_entries_map (h : restored.tuples.entries = state.tuples.entries.map (stampWith order))
    (tupleTag : Bytes32) (msgIndex : Nat) :
    state.contains tupleTag msgIndex = restored.contains tupleTag msgIndex := by
  rw [MsgReplayState.contains, MsgReplayState.contains, get?_of_entries_map h]
  cases state.tuples.get? tupleTag <;> rfl

theorem len_of_entries_map (h : restored.tuples.entries = state.tuples.entries.map (stampWith order))
    (tupleTag : Bytes32) : state.len tupleTag = restored.len tupleTag := by
  rw [MsgReplayState.len, MsgReplayState.len, get?_of_entries_map h]
  cases state.tuples.get? tupleTag <;> rfl

end Compare

/-- A saved and restored state behaves as before exactly when the tags of its tuples follow their
recency. -/
theorem restored_sameBehaviour_iff {hex : HexCodec} (hhex : hex.EncodesNonempty)
    {state : MsgReplayState} (hstate : state.Reachable) :
    (∃ restored, intoRuntime hex (fromRuntime hex state) = .ok restored ∧
      state.SameBehaviour restored) ↔ state.RecencyFollowsTags := by
  have hwf := hstate.wellFormed
  obtain ⟨restored, hinto, hentries⟩ := intoRuntime_fromRuntime hhex hwf
  obtain ⟨order, hmap, htags, -⟩ := restamp_eq_map state.tuples.sorted hwf.order_le
  rw [hmap] at hentries
  constructor
  · rintro ⟨other, hother, hsame⟩
    obtain rfl := Except.ok.inj (hinto.symm.trans hother)
    exact recencyFollowsTags_of_kept hwf hentries htags hsame.kept
  · intro hrecency
    exact ⟨restored, hinto, contains_of_entries_map hentries, len_of_entries_map hentries,
      kept_iff_of_recencyFollowsTags hwf hentries htags hrecency⟩

def seenAgainstTags : MsgReplayState :=
  (MsgReplayState.record (.fill 2) (.fill 9) 7 {}).record (.fill 1) (.fill 9) 7

theorem restored_prunes_last_seen :
    ∃ restored, intoRuntime charCodec (fromRuntime charCodec seenAgainstTags) = .ok restored ∧
      Bytes32.fill 1 ∈ (seenAgainstTags.pruneToContext (.fill 9) 1).tuples ∧
      Bytes32.fill 1 ∉ (restored.pruneToContext (.fill 9) 1).tuples := by
  refine ⟨_, rfl, ?_, ?_⟩ <;> decide +kernel

theorem charCodec_encodesNonempty : charCodec.EncodesNonempty :=
  fun _ h => List.map_eq_nil_iff.mp h

def seenAlongTags : MsgReplayState :=
  (MsgReplayState.record (.fill 1) (.fill 9) 7 {}).record (.fill 2) (.fill 9) 7

theorem restored_sameBehaviour_along_tags :
    ∃ restored, intoRuntime charCodec (fromRuntime charCodec seenAlongTags) = .ok restored ∧
      seenAlongTags.SameBehaviour restored :=
  (restored_sameBehaviour_iff charCodec_encodesNonempty (.record _ _ _ (.record _ _ _ .start))).mpr
    (by decide +kernel)

end Client

end CityG
