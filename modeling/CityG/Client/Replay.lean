import CityG.Bytes
import CityG.Lib.BoundedQueue
import CityG.Lib.Evict

/-!
# The receiver's replay window

For each sender-scoped tuple tag the receiver remembers the indices of the
messages it accepted last. The window is bounded, so that an index leaves it once
enough later messages of the tuple were accepted.
-/

namespace CityG.Client

open BoundedQueue

def MAX_MSGS_PER_REPLAY_TUPLE : Nat := 4096

/-- The indices stand twice: in arrival order, and as the set that answers queries. -/
structure MsgReplayTupleState where
  contextId : Bytes32 := .zero
  seenMsgIndices : List Nat := []
  seenMsgIndexSet : Finset Nat := ∅
  lastSeenOrder : Nat := 0
  deriving DecidableEq

namespace MsgReplayTupleState

def enter (contextId : Bytes32) (tuple : MsgReplayTupleState) : MsgReplayTupleState :=
  if tuple.contextId = Bytes32.zero then { tuple with contextId := contextId }
  else if tuple.contextId ≠ contextId then { contextId := contextId }
  else tuple

def pushBack (order msgIndex : Nat) (tuple : MsgReplayTupleState) : MsgReplayTupleState :=
  { tuple with
    seenMsgIndexSet := insert msgIndex tuple.seenMsgIndexSet
    lastSeenOrder := order
    seenMsgIndices := tuple.seenMsgIndices ++ [msgIndex] }

def trim (tuple : MsgReplayTupleState) : MsgReplayTupleState :=
  if tuple.seenMsgIndices.length > MAX_MSGS_PER_REPLAY_TUPLE then
    match tuple.seenMsgIndices with
    | [] => tuple
    | oldest :: rest =>
      { tuple with seenMsgIndices := rest, seenMsgIndexSet := tuple.seenMsgIndexSet.erase oldest }
  else tuple

def remember (order msgIndex : Nat) (tuple : MsgReplayTupleState) : MsgReplayTupleState :=
  (tuple.pushBack order msgIndex).trim

/-- The two copies of the window agree, and an empty window has never been stamped. -/
structure WellFormed (tuple : MsgReplayTupleState) (nextSeenOrder : Nat) : Prop where
  agree : tuple.seenMsgIndexSet = tuple.seenMsgIndices.toFinset
  nodup : tuple.seenMsgIndices.Nodup
  bounded : tuple.seenMsgIndices.length ≤ MAX_MSGS_PER_REPLAY_TUPLE
  unstamped : tuple.seenMsgIndices = [] → tuple.lastSeenOrder = 0
  stamped : tuple.seenMsgIndices ≠ [] → 0 < tuple.lastSeenOrder
  stamped_le : tuple.lastSeenOrder ≤ nextSeenOrder

variable {tuple : MsgReplayTupleState} {contextId : Bytes32} {order order' msgIndex : Nat}

theorem WellFormed.mono (h : tuple.WellFormed order) (hle : order ≤ order') :
    tuple.WellFormed order' := { h with stamped_le := h.stamped_le.trans hle }

theorem wellFormed_fresh (contextId : Bytes32) (order : Nat) :
    ({ contextId := contextId } : MsgReplayTupleState).WellFormed order where
  agree := rfl
  nodup := List.nodup_nil
  bounded := Nat.zero_le _
  unstamped _ := rfl
  stamped h := absurd rfl h
  stamped_le := Nat.zero_le _

theorem WellFormed.enter (h : tuple.WellFormed order) (contextId : Bytes32) :
    (tuple.enter contextId).WellFormed order := by
  unfold MsgReplayTupleState.enter
  split_ifs
  · exact { h with }
  · exact wellFormed_fresh contextId order
  · exact h

theorem WellFormed.mem_set (h : tuple.WellFormed order) :
    msgIndex ∈ tuple.seenMsgIndexSet ↔ msgIndex ∈ tuple.seenMsgIndices := by
  rw [h.agree, List.mem_toFinset]

@[simp] theorem contextId_enter :
    (tuple.enter contextId).contextId = contextId := by
  unfold enter
  split_ifs with hzero hne
  · rfl
  · rfl
  · exact not_not.mp hne

theorem seenMsgIndices_enter_subset :
    (tuple.enter contextId).seenMsgIndices ⊆ tuple.seenMsgIndices := by
  unfold enter
  split_ifs
  · exact List.Subset.refl _
  · exact List.nil_subset _
  · exact List.Subset.refl _

theorem enter_of_eq (h : tuple.contextId = contextId) : tuple.enter contextId = tuple := by
  subst h
  unfold enter
  split_ifs with hzero hne
  · rfl
  · exact absurd rfl hne
  · rfl

theorem trim_cases (tuple : MsgReplayTupleState) :
    tuple.trim = tuple ∧ tuple.seenMsgIndices.length ≤ MAX_MSGS_PER_REPLAY_TUPLE ∨
    ∃ oldest rest, tuple.seenMsgIndices = oldest :: rest ∧
      MAX_MSGS_PER_REPLAY_TUPLE < tuple.seenMsgIndices.length ∧
      tuple.trim = { tuple with
        seenMsgIndices := rest
        seenMsgIndexSet := tuple.seenMsgIndexSet.erase oldest } := by
  unfold trim
  split_ifs with hlen
  · right
    cases hseen : tuple.seenMsgIndices with
    | nil => simp [hseen] at hlen
    | cons oldest rest => exact ⟨oldest, rest, rfl, hseen ▸ hlen, rfl⟩
  · exact .inl ⟨rfl, Nat.le_of_not_lt hlen⟩

@[simp] theorem contextId_remember :
    (tuple.remember order msgIndex).contextId = tuple.contextId := by
  rcases trim_cases (tuple.pushBack order msgIndex) with ⟨h, -⟩ | ⟨_, _, -, -, h⟩ <;>
    rw [remember, h] <;> rfl

@[simp] theorem lastSeenOrder_remember :
    (tuple.remember order msgIndex).lastSeenOrder = order := by
  rcases trim_cases (tuple.pushBack order msgIndex) with ⟨h, -⟩ | ⟨_, _, -, -, h⟩ <;>
    rw [remember, h] <;> rfl

@[simp] theorem seenMsgIndices_remember :
    (tuple.remember order msgIndex).seenMsgIndices =
      push MAX_MSGS_PER_REPLAY_TUPLE tuple.seenMsgIndices msgIndex := by
  have hlen : (tuple.pushBack order msgIndex).seenMsgIndices.length =
      tuple.seenMsgIndices.length + 1 := by simp [pushBack]
  rcases trim_cases (tuple.pushBack order msgIndex) with ⟨h, hle⟩ | ⟨oldest, rest, hcons, hlt, h⟩
  · rw [remember, h, push, if_neg (by omega)]
    rfl
  · have hseen : tuple.seenMsgIndices ++ [msgIndex] = oldest :: rest := hcons
    rw [remember, h, push, if_pos (by omega), hseen, List.tail_cons]

theorem seenMsgIndexSet_remember (h : tuple.WellFormed order') (hnew : msgIndex ∉ tuple.seenMsgIndices) :
    (tuple.remember order msgIndex).seenMsgIndexSet =
      (tuple.remember order msgIndex).seenMsgIndices.toFinset := by
  have hpush : (tuple.pushBack order msgIndex).seenMsgIndexSet =
      (tuple.pushBack order msgIndex).seenMsgIndices.toFinset := by
    ext i
    simp [pushBack, h.agree, or_comm]
  rcases trim_cases (tuple.pushBack order msgIndex) with ⟨htrim, -⟩ | ⟨oldest, rest, hcons, -, htrim⟩
  · rw [remember, htrim, hpush]
  · have hnodup : (oldest :: rest).Nodup := by
      rw [← hcons]
      refine List.nodup_append.mpr ⟨h.nodup, List.nodup_singleton _, ?_⟩
      rintro i hi j hj rfl
      exact hnew (List.mem_singleton.mp hj ▸ hi)
    rw [remember, htrim]
    ext i
    simp only [hpush, hcons, Finset.mem_erase, List.mem_toFinset, List.mem_cons]
    have := List.nodup_cons.mp hnodup
    grind

theorem WellFormed.remember (h : tuple.WellFormed order) (hnew : msgIndex ∉ tuple.seenMsgIndices)
    (hpos : 0 < order') (hle : order' ≤ order) :
    (tuple.remember order' msgIndex).WellFormed order where
  agree := seenMsgIndexSet_remember h hnew
  nodup := by
    rw [seenMsgIndices_remember]
    exact nodup_push h.nodup hnew
  bounded := by
    rw [seenMsgIndices_remember]
    exact length_push_le h.bounded
  unstamped hnil := by
    rw [seenMsgIndices_remember] at hnil
    exact absurd hnil (push_ne_nil (by decide))
  stamped _ := lastSeenOrder_remember ▸ hpos
  stamped_le := lastSeenOrder_remember ▸ hle

end MsgReplayTupleState

structure MsgReplayState where
  tuples : OrdMap Bytes32 MsgReplayTupleState := .empty
  nextSeenOrder : Nat := 0
  deriving DecidableEq

namespace MsgReplayState

def tupleOr (state : MsgReplayState) (tupleTag : Bytes32) : MsgReplayTupleState :=
  (state.tuples.get? tupleTag).getD {}

def ensureTuple (tupleTag contextId : Bytes32) (state : MsgReplayState) : MsgReplayState :=
  { state with
    tuples := state.tuples.insert tupleTag ((state.tupleOr tupleTag).enter contextId) }

def pruneToContext (contextId : Bytes32) (maxTuples : Nat) (state : MsgReplayState) :
    MsgReplayState :=
  let retained := state.tuples.filter fun e =>
    e.2.contextId = Bytes32.zero ∨ e.2.contextId = contextId
  { state with tuples := retained.evict (·.lastSeenOrder) (max maxTuples 1) }

def contains (state : MsgReplayState) (tupleTag : Bytes32) (msgIndex : Nat) : Bool :=
  (state.tuples.get? tupleTag).any fun tuple => msgIndex ∈ tuple.seenMsgIndexSet

def record (tupleTag contextId : Bytes32) (msgIndex : Nat) (state : MsgReplayState) :
    MsgReplayState :=
  let tuple := (state.tupleOr tupleTag).enter contextId
  if msgIndex ∈ tuple.seenMsgIndexSet then
    { state with tuples := state.tuples.insert tupleTag tuple }
  else
    let order := min (state.nextSeenOrder + 1) U64_MAX
    { tuples := state.tuples.insert tupleTag (tuple.remember order msgIndex)
      nextSeenOrder := order }

def len (state : MsgReplayState) (tupleTag : Bytes32) : Nat :=
  ((state.tuples.get? tupleTag).map (·.seenMsgIndices.length)).getD 0

inductive Reachable : MsgReplayState → Prop
  | start : Reachable {}
  | ensureTuple {state} (tupleTag contextId) : Reachable state →
      Reachable (state.ensureTuple tupleTag contextId)
  | record {state} (tupleTag contextId msgIndex) : Reachable state →
      Reachable (state.record tupleTag contextId msgIndex)
  | pruneToContext {state} (contextId maxTuples) : Reachable state →
      Reachable (state.pruneToContext contextId maxTuples)

structure WellFormed (state : MsgReplayState) : Prop where
  tuples : ∀ tupleTag tuple, state.tuples.get? tupleTag = some tuple →
    tuple.WellFormed state.nextSeenOrder
  order_le : state.nextSeenOrder ≤ U64_MAX

variable {state : MsgReplayState} {tupleTag contextId : Bytes32} {msgIndex : Nat}

theorem WellFormed.tupleOr (h : state.WellFormed) (tupleTag : Bytes32) :
    (state.tupleOr tupleTag).WellFormed state.nextSeenOrder := by
  unfold MsgReplayState.tupleOr
  cases hget : state.tuples.get? tupleTag with
  | none => exact MsgReplayTupleState.wellFormed_fresh _ _
  | some tuple => exact h.tuples tupleTag tuple hget

theorem WellFormed.insert (h : state.WellFormed) {order : Nat} {tuple : MsgReplayTupleState}
    (htuple : tuple.WellFormed order) (hle : state.nextSeenOrder ≤ order) (hmax : order ≤ U64_MAX) :
    WellFormed ⟨state.tuples.insert tupleTag tuple, order⟩ where
  tuples other tuple' hget := by
    rw [OrdMap.get?_insert] at hget
    split at hget
    · exact Option.some.inj hget ▸ htuple
    · exact (h.tuples other tuple' hget).mono hle
  order_le := hmax

theorem WellFormed.ensureTuple (h : state.WellFormed) (tupleTag contextId : Bytes32) :
    (state.ensureTuple tupleTag contextId).WellFormed :=
  h.insert ((h.tupleOr tupleTag).enter contextId) le_rfl h.order_le

theorem WellFormed.record (h : state.WellFormed) (tupleTag contextId : Bytes32) (msgIndex : Nat) :
    (state.record tupleTag contextId msgIndex).WellFormed := by
  have htuple := (h.tupleOr tupleTag).enter contextId
  have hmax := h.order_le
  unfold MsgReplayState.record
  simp only
  split_ifs with hseen
  · exact h.insert htuple le_rfl hmax
  · have hle : state.nextSeenOrder ≤ min (state.nextSeenOrder + 1) U64_MAX := by omega
    refine h.insert ((htuple.mono hle).remember ?_ ?_ le_rfl) hle (Nat.min_le_right _ _)
    · exact fun hmem => hseen (htuple.mem_set.mpr hmem)
    · exact Nat.lt_min.mpr ⟨Nat.succ_pos _, by decide⟩

theorem get?_pruneToContext {contextId : Bytes32} {maxTuples : Nat} {tuple : MsgReplayTupleState}
    (h : (state.pruneToContext contextId maxTuples).tuples.get? tupleTag = some tuple) :
    state.tuples.get? tupleTag = some tuple := by
  have hmem := ((OrdMap.mem_evict _).mp (OrdMap.mem_entries_iff.mpr h)).1
  rw [OrdMap.mem_entries_iff, OrdMap.get?_filter] at hmem
  exact (Option.filter_eq_some_iff.mp hmem).1

theorem WellFormed.pruneToContext (h : state.WellFormed) (contextId : Bytes32) (maxTuples : Nat) :
    (state.pruneToContext contextId maxTuples).WellFormed where
  tuples tupleTag tuple hget := h.tuples tupleTag tuple (get?_pruneToContext hget)
  order_le := h.order_le

theorem Reachable.wellFormed (h : state.Reachable) : state.WellFormed := by
  induction h with
  | start => exact ⟨fun _ _ hget => by simp at hget, Nat.zero_le _⟩
  | ensureTuple tupleTag contextId _ ih => exact ih.ensureTuple tupleTag contextId
  | record tupleTag contextId msgIndex _ ih => exact ih.record tupleTag contextId msgIndex
  | pruneToContext contextId maxTuples _ ih => exact ih.pruneToContext contextId maxTuples

def receive (contextId : Bytes32) (state : MsgReplayState) (message : Bytes32 × Nat) :
    Option MsgReplayState :=
  if state.contains message.1 message.2 then none
  else some (state.record message.1 contextId message.2)

def accepted (contextId : Bytes32) : MsgReplayState → List (Bytes32 × Nat) → List (Bytes32 × Nat)
  | _, [] => []
  | state, message :: messages =>
    match state.receive contextId message with
    | none => accepted contextId state messages
    | some state' => message :: accepted contextId state' messages

def window (state : MsgReplayState) (tupleTag : Bytes32) : List Nat :=
  (state.tupleOr tupleTag).seenMsgIndices

theorem contains_iff (h : state.WellFormed) :
    state.contains tupleTag msgIndex = true ↔ msgIndex ∈ state.window tupleTag := by
  unfold contains window tupleOr
  cases hget : state.tuples.get? tupleTag with
  | none => simp
  | some tuple => simpa using (h.tuples tupleTag tuple hget).mem_set

theorem tupleOr_record_ne (state : MsgReplayState) (contextId : Bytes32) (msgIndex : Nat)
    {other : Bytes32} (hne : other ≠ tupleTag) :
    (state.record tupleTag contextId msgIndex).tupleOr other = state.tupleOr other := by
  unfold record tupleOr
  simp only
  split_ifs <;> simp [hne]

theorem contextId_record :
    ((state.record tupleTag contextId msgIndex).tupleOr tupleTag).contextId = contextId := by
  unfold record tupleOr
  simp only
  split_ifs <;> simp

theorem window_record (h : state.WellFormed)
    (hnew : msgIndex ∉ ((state.tupleOr tupleTag).enter contextId).seenMsgIndices) :
    (state.record tupleTag contextId msgIndex).window tupleTag =
      push MAX_MSGS_PER_REPLAY_TUPLE ((state.tupleOr tupleTag).enter contextId).seenMsgIndices
        msgIndex := by
  have hset : msgIndex ∉ ((state.tupleOr tupleTag).enter contextId).seenMsgIndexSet :=
    fun hmem => hnew (((h.tupleOr tupleTag).enter contextId).mem_set.mp hmem)
  rw [record, if_neg hset, window, tupleOr]
  simp

theorem receive_eq_some {message : Bytes32 × Nat} {state' : MsgReplayState} (h : state.WellFormed)
    (hreceive : state.receive contextId message = some state') :
    message.2 ∉ state.window message.1 ∧ state' = state.record message.1 contextId message.2 := by
  unfold receive at hreceive
  split at hreceive
  · cases hreceive
  next hnot => exact ⟨fun hmem => hnot ((contains_iff h).mpr hmem), (Option.some.inj hreceive).symm⟩

theorem recent_record (h : state.WellFormed) (hnew : msgIndex ∉ state.window tupleTag) :
    Recent ((state.record tupleTag contextId msgIndex).window tupleTag) msgIndex 1 := by
  rw [window_record h (fun hmem => hnew (MsgReplayTupleState.seenMsgIndices_enter_subset hmem))]
  exact recent_push_self (by decide)

/-- An index that entered the window before fewer than `count` others is accepted again only after
enough messages of its tuple to push it out. -/
theorem spacing_of_recent {message : Bytes32 × Nat} {count : Nat}
    {messages between later : List (Bytes32 × Nat)} (h : state.WellFormed)
    (hcontext : (state.tupleOr message.1).contextId = contextId)
    (hrecent : Recent (state.window message.1) message.2 count)
    (hcount : count ≤ MAX_MSGS_PER_REPLAY_TUPLE)
    (haccepted : accepted contextId state messages = between ++ message :: later) :
    MAX_MSGS_PER_REPLAY_TUPLE < count + (between.filter (·.1 = message.1)).length := by
  induction messages generalizing state count between with
  | nil => simp [accepted] at haccepted
  | cons next messages ih =>
    unfold accepted at haccepted
    cases hreceive : state.receive contextId next with
    | none =>
      rw [hreceive] at haccepted
      exact ih h hcontext hrecent hcount haccepted
    | some state' =>
      rw [hreceive] at haccepted
      obtain ⟨hnew, rfl⟩ := receive_eq_some h hreceive
      have hwf := h.record next.1 contextId next.2
      cases between with
      | nil =>
        obtain ⟨rfl, -⟩ := List.cons.inj haccepted
        exact absurd hrecent.mem hnew
      | cons first between =>
        obtain ⟨rfl, hrest⟩ := List.cons.inj haccepted
        by_cases htag : next.1 = message.1
        · rw [List.filter_cons_of_pos (by simpa using htag), List.length_cons]
          rcases Nat.lt_or_ge count MAX_MSGS_PER_REPLAY_TUPLE with hlt | hge
          · rw [htag] at hnew hwf hrest
            have hentered := MsgReplayTupleState.enter_of_eq hcontext
            have hpushed : Recent ((state.record message.1 contextId next.2).window
                message.1) message.2 (count + 1) := by
              rw [window_record h (by rwa [hentered]), hentered]
              exact hrecent.push hlt
            have := ih hwf contextId_record hpushed hlt hrest
            omega
          · omega
        · rw [List.filter_cons_of_neg (by simpa using htag)]
          have hsame := tupleOr_record_ne state contextId next.2 (Ne.symm htag)
          exact ih hwf (hsame ▸ hcontext) (by rw [window, hsame]; exact hrecent) hcount hrest

theorem accepted_append {state' : MsgReplayState} {first : List (Bytes32 × Nat)}
    (h : first.foldlM (receive contextId) state = some state') (rest : List (Bytes32 × Nat)) :
    accepted contextId state (first ++ rest) = first ++ accepted contextId state' rest := by
  induction first generalizing state with
  | nil => simp [Option.some.inj h]
  | cons message first ih =>
    obtain ⟨next, hreceive, hrest⟩ := Option.bind_eq_some_iff.mp h
    rw [List.cons_append, accepted, hreceive, List.cons_append]
    simp only [ih hrest]

def ofTuple (tupleTag : Bytes32) (indices : List Nat) : List (Bytes32 × Nat) :=
  indices.map (tupleTag, ·)

theorem receive_new (h : state.WellFormed) {tupleTag : Bytes32} {msgIndex : Nat}
    {queue : List Nat} (hqueue : ((state.tupleOr tupleTag).enter contextId).seenMsgIndices = queue)
    (hwindow : state.window tupleTag = queue) (hnew : msgIndex ∉ queue) :
    ∃ state', state.receive contextId (tupleTag, msgIndex) = some state' ∧ state'.WellFormed ∧
      ((state'.tupleOr tupleTag).enter contextId).seenMsgIndices =
        push MAX_MSGS_PER_REPLAY_TUPLE queue msgIndex ∧
      state'.window tupleTag = push MAX_MSGS_PER_REPLAY_TUPLE queue msgIndex := by
  have hcontains : ¬state.contains tupleTag msgIndex = true :=
    fun hmem => hnew (hwindow ▸ (contains_iff h).mp hmem)
  have hpushed : (state.record tupleTag contextId msgIndex).window tupleTag =
      push MAX_MSGS_PER_REPLAY_TUPLE queue msgIndex := by
    rw [window_record h (hqueue ▸ hnew), hqueue]
  refine ⟨_, if_neg hcontains, h.record tupleTag contextId msgIndex, ?_, hpushed⟩
  rw [MsgReplayTupleState.enter_of_eq contextId_record]
  exact hpushed

theorem receive_range (contextId tupleTag : Bytes32) {n : Nat} (hn : n ≤ MAX_MSGS_PER_REPLAY_TUPLE) :
    ∃ state, (ofTuple tupleTag (List.range n)).foldlM (receive contextId) {} = some state ∧
      state.WellFormed ∧
      ((state.tupleOr tupleTag).enter contextId).seenMsgIndices = List.range n ∧
      state.window tupleTag = List.range n := by
  induction n with
  | zero =>
    refine ⟨{}, rfl, Reachable.start.wellFormed, ?_, rfl⟩
    exact List.eq_nil_of_subset_nil MsgReplayTupleState.seenMsgIndices_enter_subset
  | succ n ih =>
    obtain ⟨state, hfold, hwf, hqueue, hwindow⟩ := ih (by omega)
    obtain ⟨state', hreceive, hwf', hqueue', hwindow'⟩ :=
      receive_new hwf hqueue hwindow (show n ∉ List.range n by simp)
    rw [push_of_lt (by rw [List.length_range]; omega), ← List.range_succ] at hqueue' hwindow'
    refine ⟨state', ?_, hwf', hqueue', hwindow'⟩
    rw [ofTuple, List.range_succ, List.map_append, List.foldlM_append, ← ofTuple, hfold]
    simp [hreceive]

/-- As many messages as the window holds, one more, and then the first again. -/
def windowThenReplay : List (Bytes32 × Nat) :=
  ofTuple (.fill 2) (List.range (MAX_MSGS_PER_REPLAY_TUPLE + 1)) ++ [(.fill 2, 0)]

theorem accepted_windowThenReplay : accepted (.fill 1) {} windowThenReplay = windowThenReplay := by
  obtain ⟨state, hfold, hwf, hqueue, hwindow⟩ := receive_range (.fill 1) (.fill 2) le_rfl
  obtain ⟨state', hreceive, hwf', -, hwindow'⟩ :=
    receive_new hwf hqueue hwindow List.not_mem_range_self
  have hpop : push MAX_MSGS_PER_REPLAY_TUPLE (List.range MAX_MSGS_PER_REPLAY_TUPLE)
      MAX_MSGS_PER_REPLAY_TUPLE = List.range' 1 MAX_MSGS_PER_REPLAY_TUPLE := by
    rw [push, if_pos (by simp), ← List.range_succ, List.range_eq_range', List.range'_succ,
      List.tail_cons]
  have hfold' : (ofTuple (.fill 2) (List.range (MAX_MSGS_PER_REPLAY_TUPLE + 1))).foldlM
      (receive (.fill 1)) {} = some state' := by
    rw [ofTuple, List.range_succ, List.map_append, List.foldlM_append, ← ofTuple, hfold]
    simp [hreceive]
  have hfresh : ¬state'.contains (.fill 2) 0 = true := by
    rw [contains_iff hwf', hwindow', hpop]
    simp
  rw [windowThenReplay, accepted_append hfold', accepted, receive, if_neg hfresh]
  rfl

theorem replayed_after_eviction : ¬(accepted (.fill 1) {} windowThenReplay).Nodup := by
  rw [accepted_windowThenReplay, windowThenReplay, List.range_eq_range', List.range'_succ]
  simp [ofTuple]

/-- Between two acceptances of one message, at least as many others of its tuple are accepted as
the window holds. -/
theorem replay_spacing {start : MsgReplayState} {message : Bytes32 × Nat}
    {messages earlier between later : List (Bytes32 × Nat)} (hstart : start.Reachable)
    (haccepted : accepted contextId start messages =
      earlier ++ message :: (between ++ message :: later)) :
    MAX_MSGS_PER_REPLAY_TUPLE ≤ (between.filter (·.1 = message.1)).length := by
  have h := hstart.wellFormed
  clear hstart
  induction messages generalizing start earlier with
  | nil => simp [accepted] at haccepted
  | cons next messages ih =>
    unfold accepted at haccepted
    cases hreceive : start.receive contextId next with
    | none =>
      rw [hreceive] at haccepted
      exact ih haccepted h
    | some state' =>
      rw [hreceive] at haccepted
      obtain ⟨hnew, rfl⟩ := receive_eq_some h hreceive
      have hwf := h.record next.1 contextId next.2
      cases earlier with
      | nil =>
        obtain ⟨rfl, hrest⟩ := List.cons.inj haccepted
        have := spacing_of_recent hwf contextId_record (recent_record h hnew) (by decide) hrest
        omega
      | cons first earlier =>
        exact ih (List.cons.inj haccepted).2 hwf

theorem replay_spacing_window :
    MAX_MSGS_PER_REPLAY_TUPLE ≤
      ((ofTuple (.fill 2) (List.range' 1 MAX_MSGS_PER_REPLAY_TUPLE)).filter
        (·.1 = Bytes32.fill 2)).length := by
  have hrun : accepted (.fill 1) {} windowThenReplay = [] ++ (Bytes32.fill 2, 0) ::
      (ofTuple (.fill 2) (List.range' 1 MAX_MSGS_PER_REPLAY_TUPLE) ++ [(Bytes32.fill 2, 0)]) := by
    rw [accepted_windowThenReplay, windowThenReplay, List.range_eq_range', List.range'_succ]
    rfl
  exact replay_spacing .start hrun

end MsgReplayState

end CityG.Client
