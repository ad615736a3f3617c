import CityG.Lib.Run
import CityG.Runtime.Volatile

/-!
# How long messages are kept

Pruning is lazy and its due time is shared by all epochs. What a room keeps is
at every moment the stored messages from some time stamp on: storing appends,
pruning moves the time stamp up, and a snapshot gives back the same lists.
-/

namespace CityG

def ofEpoch (weid : Bytes32) (messages : List StoredMessage) : List StoredMessage :=
  messages.filter fun m => m.weEpochId = weid

namespace RoomVolatileState

section
variable (room : RoomVolatileState)

theorem messagesOf_pushMessage (key weid : Bytes32) (message : StoredMessage) :
    (room.pushMessage key message).messagesOf weid =
      if weid = key then room.messagesOf key ++ [message] else room.messagesOf weid := by
  simp only [messagesOf, pushMessage, OrdMap.get?_insert]
  split <;> rfl

theorem get?_pruneExpiredMessages (store : OrdMap Bytes32 (List StoredMessage)) (now : Nat)
    (retention : Duration) (weid : Bytes32) :
    ((pruneExpiredMessages store now retention).get? weid).getD [] =
      ((store.get? weid).getD []).filter fun m => retentionCutoff now retention ≤ m.timestampMs := by
  rw [pruneExpiredMessages, OrdMap.get?_filterMap]
  cases store.get? weid with
  | none => rfl
  | some messages =>
    simp only [Option.bind_some, Option.getD_some]
    split
    · next hempty => exact (List.isEmpty_iff.mp hempty).symm
    · rfl

theorem messagesOf_pruneMessagesDue (now : Nat) (retention : Duration) (interval : Nat)
    (weid : Bytes32) :
    (room.pruneMessagesDue now retention interval).messagesOf weid =
      if now < room.messagePruneDueMs then room.messagesOf weid
      else (room.messagesOf weid).filter fun m => retentionCutoff now retention ≤ m.timestampMs := by
  unfold pruneMessagesDue
  split
  · rfl
  · exact get?_pruneExpiredMessages room.messages now retention weid

end

theorem get?_foldl_groupMessage (messages : List StoredMessage)
    (groups : OrdMap Bytes32 (List StoredMessage)) (weid : Bytes32) :
    ((messages.foldl groupMessage groups).get? weid).getD [] =
      (groups.get? weid).getD [] ++ ofEpoch weid messages := by
  induction messages generalizing groups with
  | nil => simp [ofEpoch]
  | cons message rest ih =>
    rw [List.foldl_cons, ih, groupMessage, OrdMap.get?_insert]
    by_cases hweid : message.weEpochId = weid
    · simp [ofEpoch, hweid]
    · simp [ofEpoch, hweid, Ne.symm hweid]

theorem ofEpoch_insertionSort {weid : Bytes32} {messages : List StoredMessage}
    (hordered : (ofEpoch weid messages).Pairwise fun a b => a.timestampMs ≤ b.timestampMs) :
    ofEpoch weid (messages.insertionSort StoredMessage.LE) = ofEpoch weid messages := by
  have hsorted : (ofEpoch weid messages).Pairwise StoredMessage.LE := by
    refine hordered.imp_of_mem fun ha hb hab => .inr ⟨?_, hab⟩
    have ha' := of_decide_eq_true (List.mem_filter.mp ha).2
    have hb' := of_decide_eq_true (List.mem_filter.mp hb).2
    exact ha'.trans hb'.symm
  have hsub : (ofEpoch weid messages).Sublist
      (ofEpoch weid (messages.insertionSort StoredMessage.LE)) := by
    have hall := List.sublist_insertionSort hsorted List.filter_sublist
    have hfiltered := hall.filter fun m => m.weEpochId = weid
    simpa only [ofEpoch, List.filter_filter, Bool.and_self] using hfiltered
  have hlength := ((List.perm_insertionSort StoredMessage.LE messages).filter
    fun m => decide (m.weEpochId = weid)).length_eq
  exact (hsub.eq_of_length hlength.symm).symm

def Filed (room : RoomVolatileState) : Prop :=
  ∀ key, ∀ m ∈ room.messagesOf key, m.weEpochId = key

theorem Filed.ofEpoch_messagesOf {room : RoomVolatileState} (h : room.Filed) (weid key : Bytes32) :
    ofEpoch weid (room.messagesOf key) = if key = weid then room.messagesOf key else [] := by
  split
  · next heq =>
      exact List.filter_eq_self.mpr fun m hm => decide_eq_true ((h key m hm).trans heq)
  · next hne =>
      exact List.filter_eq_nil_iff.mpr fun m hm heq =>
        hne ((h key m hm).symm.trans (of_decide_eq_true heq))

theorem Filed.ofEpoch_flatMap {room : RoomVolatileState} (h : room.Filed) {order : List Bytes32}
    (hnodup : order.Nodup) (weid : Bytes32) :
    ofEpoch weid (order.flatMap room.messagesOf) =
      if weid ∈ order then room.messagesOf weid else [] := by
  induction order with
  | nil => rfl
  | cons key rest ih =>
    obtain ⟨hnotin, hrest⟩ := List.nodup_cons.mp hnodup
    have hcons : ofEpoch weid ((key :: rest).flatMap room.messagesOf) =
        ofEpoch weid (room.messagesOf key) ++ ofEpoch weid (rest.flatMap room.messagesOf) := by
      rw [List.flatMap_cons, ofEpoch, List.filter_append]
      rfl
    rw [hcons, h.ofEpoch_messagesOf, ih hrest]
    by_cases hkey : key = weid
    · subst hkey
      simp [hnotin]
    · simp [hkey, Ne.symm hkey]

theorem Filed.messagesOf_reload {room : RoomVolatileState} (h : room.Filed) {order : List Bytes32}
    (horder : order.Perm room.messages.keys)
    (hordered : ∀ key, (room.messagesOf key).Pairwise fun a b => a.timestampMs ≤ b.timestampMs)
    (weid : Bytes32) :
    (fromSnapshot (room.snapshot order)).messagesOf weid = room.messagesOf weid := by
  have hnodup : order.Nodup := horder.nodup_iff.mpr room.messages.keys_nodup
  have hepoch : ofEpoch weid (order.flatMap room.messagesOf) = room.messagesOf weid := by
    rw [h.ofEpoch_flatMap hnodup]
    split
    · rfl
    · next hnotin =>
        have hnone : room.messages.get? weid = none := OrdMap.not_mem_iff.mp fun hmem =>
          hnotin (horder.mem_iff.mpr (OrdMap.mem_keys.mpr hmem))
        rw [messagesOf, hnone]
        rfl
  rw [messagesOf, fromSnapshot, snapshot, get?_foldl_groupMessage, OrdMap.get?_empty,
    Option.getD_none, List.nil_append, ofEpoch_insertionSort (by rw [hepoch]; exact hordered weid),
    hepoch]

end RoomVolatileState

inductive MessageCall where
  | store (weEpochId : Bytes32) (message : StoredMessage) (now : Nat)
  | ask (weEpochId : Bytes32) (now : Nat)
  /-- A snapshot, with the order in which its hash map is listed, and back. -/
  | reload (order : List Bytes32)

/-- A room with everything that was ever stored in it, under which key, and the
time of the last call. -/
structure MessageRun where
  room : RoomVolatileState := {}
  stored : List (Bytes32 × StoredMessage) := []
  last : Nat := 0
  deriving DecidableEq

namespace MessageRun

def storedUnder (run : MessageRun) (weid : Bytes32) : List StoredMessage :=
  (run.stored.filter fun e => e.1 = weid).map Prod.snd

def step (retention : Duration) (interval : Nat) (run : MessageRun) : MessageCall → Option MessageRun
  | .store weid message now => some
      { room := run.room.storeMessage weid message now retention interval
        stored := run.stored ++ [(weid, message)]
        last := now }
  | .ask weid now => some
      { run with
        room := (run.room.messagesForEpoch weid now retention interval).2
        last := now }
  | .reload order =>
    if order.Perm run.room.messages.keys then
      some { run with room := .fromSnapshot (run.room.snapshot order) }
    else none

def Timed (run : MessageRun) : MessageCall → Prop
  | .store _ message now => run.last ≤ now ∧ now ≤ U64_MAX ∧ message.timestampMs = now
  | .ask _ now => run.last ≤ now ∧ now ≤ U64_MAX
  | .reload _ => True

def TimedFiled (run : MessageRun) : MessageCall → Prop
  | .store weid message now => run.Timed (.store weid message now) ∧ message.weEpochId = weid
  | .ask weid now => run.Timed (.ask weid now)
  | .reload order => run.Timed (.reload order)

instance (run : MessageRun) : (call : MessageCall) → Decidable (run.Timed call)
  | .store _ _ _ => inferInstanceAs (Decidable (_ ∧ _))
  | .ask _ _ => inferInstanceAs (Decidable (_ ∧ _))
  | .reload _ => .isTrue trivial

instance (run : MessageRun) : (call : MessageCall) → Decidable (run.TimedFiled call)
  | .store weid message now =>
    inferInstanceAs (Decidable (run.Timed (.store weid message now) ∧ message.weEpochId = weid))
  | .ask weid now => inferInstanceAs (Decidable (run.Timed (.ask weid now)))
  | .reload order => inferInstanceAs (Decidable (run.Timed (.reload order)))

/-- The room keeps exactly the stored messages from `oldest` on. -/
structure KeepsFrom (retention : Duration) (interval : Nat) (run : MessageRun) (oldest : Nat) :
    Prop where
  kept : ∀ weid, run.room.messagesOf weid =
    (run.storedUnder weid).filter fun m => oldest ≤ m.timestampMs
  old : oldest ≤ retentionCutoff run.last retention
  due : run.room.messagePruneDueMs ≤ oldest + min retention.asMillis U64_MAX + interval

structure Ordered (run : MessageRun) : Prop where
  times : run.stored.Pairwise fun a b => a.2.timestampMs ≤ b.2.timestampMs
  past : ∀ e ∈ run.stored, e.2.timestampMs ≤ run.last
  filed : ∀ e ∈ run.stored, e.2.weEpochId = e.1

section
variable {retention : Duration} {interval oldest now : Nat} {run : MessageRun}

theorem retentionCutoff_mono {last : Nat} (h : last ≤ now) :
    retentionCutoff last retention ≤ retentionCutoff now retention := Nat.sub_le_sub_right h _

theorem KeepsFrom.prune (h : KeepsFrom retention interval run oldest) (hnow : run.last ≤ now) :
    ∃ oldest', KeepsFrom retention interval
      { run with room := run.room.pruneMessagesDue now retention interval, last := now } oldest' ∧
      (now < oldest' + min retention.asMillis U64_MAX + interval ∨
        oldest' = retentionCutoff now retention) := by
  by_cases hdue : now < run.room.messagePruneDueMs
  · refine ⟨oldest, ⟨fun weid => ?_, h.old.trans (retentionCutoff_mono hnow), ?_⟩,
      .inl (hdue.trans_le h.due)⟩
    · rw [RoomVolatileState.messagesOf_pruneMessagesDue, if_pos hdue]
      exact h.kept weid
    · rw [RoomVolatileState.pruneMessagesDue, if_pos hdue]
      exact h.due
  · refine ⟨retentionCutoff now retention, ⟨fun weid => ?_, le_rfl, ?_⟩, .inr rfl⟩
    · rw [RoomVolatileState.messagesOf_pruneMessagesDue, if_neg hdue, h.kept, List.filter_filter]
      refine List.filter_congr fun m _ => ?_
      have hold := h.old.trans (retentionCutoff_mono hnow)
      by_cases hm : retentionCutoff now retention ≤ m.timestampMs
      · simp [hm, hold.trans hm]
      · simp [hm]
    · rw [RoomVolatileState.pruneMessagesDue, if_neg hdue]
      simp only [retentionCutoff, saturatingAdd]
      omega

theorem storedUnder_append (run : MessageRun) (key weid : Bytes32) (message : StoredMessage)
    (room : RoomVolatileState) (now : Nat) :
    storedUnder ⟨room, run.stored ++ [(key, message)], now⟩ weid =
      if weid = key then run.storedUnder weid ++ [message] else run.storedUnder weid := by
  by_cases hkey : key = weid
  · simp [storedUnder, hkey]
  · simp [storedUnder, hkey, Ne.symm hkey]

theorem KeepsFrom.push (h : KeepsFrom retention interval run oldest) (hnow : run.last ≤ now)
    (key : Bytes32) {message : StoredMessage} (hstamp : message.timestampMs = now) :
    KeepsFrom retention interval
      ⟨run.room.pushMessage key message, run.stored ++ [(key, message)], now⟩ oldest := by
  refine ⟨fun weid => ?_, h.old.trans (retentionCutoff_mono hnow), h.due⟩
  have hkeep : oldest ≤ message.timestampMs :=
    hstamp ▸ (h.old.trans (Nat.sub_le _ _)).trans hnow
  rw [RoomVolatileState.messagesOf_pushMessage, storedUnder_append]
  split
  · next heq => simp [heq, h.kept, hkeep]
  · exact h.kept weid

theorem Ordered.storedUnder_times (h : run.Ordered) (weid : Bytes32) :
    (run.storedUnder weid).Pairwise fun a b => a.timestampMs ≤ b.timestampMs := by
  rw [storedUnder, List.pairwise_map]
  exact h.times.filter _

theorem Ordered.mem_storedUnder (h : run.Ordered) {weid : Bytes32} {m : StoredMessage}
    (hm : m ∈ run.storedUnder weid) : m.weEpochId = weid := by
  obtain ⟨e, he, rfl⟩ := List.mem_map.mp hm
  obtain ⟨hmem, hkey⟩ := List.mem_filter.mp he
  exact (h.filed e hmem).trans (of_decide_eq_true hkey)

theorem Ordered.push (h : run.Ordered) (hnow : run.last ≤ now) {key : Bytes32}
    {message : StoredMessage} (hstamp : message.timestampMs = now)
    (hfiled : message.weEpochId = key) (room : RoomVolatileState) :
    Ordered ⟨room, run.stored ++ [(key, message)], now⟩ := by
  refine ⟨?_, ?_, ?_⟩
  · refine List.pairwise_append.mpr ⟨h.times, List.pairwise_singleton _ _, ?_⟩
    intro a ha b hb
    rw [List.mem_singleton.mp hb, hstamp]
    exact (h.past a ha).trans hnow
  · intro e he
    rcases List.mem_append.mp he with he | he
    · exact (h.past e he).trans hnow
    · rw [List.mem_singleton.mp he, hstamp]
  · intro e he
    rcases List.mem_append.mp he with he | he
    · exact h.filed e he
    · rw [List.mem_singleton.mp he]
      exact hfiled

theorem KeepsFrom.reload (h : KeepsFrom retention interval run oldest) (hordered : run.Ordered)
    {order : List Bytes32} (horder : order.Perm run.room.messages.keys) :
    KeepsFrom retention interval
      { run with room := .fromSnapshot (run.room.snapshot order) } oldest := by
  refine ⟨fun weid => ?_, h.old, h.due⟩
  have hfiled : run.room.Filed := by
    intro key m hm
    rw [h.kept] at hm
    exact hordered.mem_storedUnder (List.mem_filter.mp hm).1
  have htimes : ∀ key, (run.room.messagesOf key).Pairwise fun a b =>
      a.timestampMs ≤ b.timestampMs := by
    intro key
    rw [h.kept]
    exact (hordered.storedUnder_times key).filter _
  exact (hfiled.messagesOf_reload horder htimes weid).trans (h.kept weid)

theorem step_keeps {run' : MessageRun} {call : MessageCall}
    (h : run.Ordered ∧ ∃ oldest, KeepsFrom retention interval run oldest)
    (hguard : run.TimedFiled call) (hstep : step retention interval run call = some run') :
    run'.Ordered ∧ ∃ oldest, KeepsFrom retention interval run' oldest := by
  obtain ⟨hordered, oldest, hkeeps⟩ := h
  cases call with
  | store weid message now =>
    obtain ⟨⟨hlast, _, hstamp⟩, hfiled⟩ := hguard
    obtain rfl := Option.some.inj hstep
    obtain ⟨oldest', hkeeps', _⟩ := (hkeeps.push hlast weid hstamp).prune le_rfl
    exact ⟨hordered.push hlast hstamp hfiled _, oldest', hkeeps'⟩
  | ask weid now =>
    obtain rfl := Option.some.inj hstep
    obtain ⟨oldest', hkeeps', _⟩ := hkeeps.prune hguard.1
    refine ⟨⟨hordered.times, ?_, hordered.filed⟩, oldest', hkeeps'⟩
    exact fun e he => (hordered.past e he).trans hguard.1
  | reload order =>
    simp only [step] at hstep
    split at hstep
    · next horder =>
        obtain rfl := Option.some.inj hstep
        exact ⟨⟨hordered.times, hordered.past, hordered.filed⟩, oldest,
          hkeeps.reload hordered horder⟩
    · cases hstep

end

def young (retention : Duration) (now : Nat) (m : StoredMessage) : Bool :=
  (now - m.timestampMs) * 1000000 ≤ retention.nanos

/-- At any time from the last call on, the answer for an epoch lists what was
stored for it in store order, with everything that is at most `retention` old
and nothing older than `retention` and the prune interval together. -/
theorem answer_within_retention {retention : Duration} {interval : Nat} {run : MessageRun}
    (h : Run.Reach (· = {}) (step retention interval) TimedFiled run) (weid : Bytes32) {now : Nat}
    (hlast : run.last ≤ now) (hnow : now ≤ U64_MAX) :
    (run.room.messagesForEpoch weid now retention interval).1.Sublist (run.storedUnder weid) ∧
    (run.room.messagesForEpoch weid now retention interval).1.filter (young retention now) =
      (run.storedUnder weid).filter (young retention now) ∧
    ∀ m ∈ (run.room.messagesForEpoch weid now retention interval).1,
      (now - m.timestampMs) * 1000000 ≤ retention.nanos + interval * 1000000 := by
  have hinv : run.Ordered ∧ ∃ oldest, KeepsFrom retention interval run oldest := by
    refine @Run.Reach.invariant _ _ _ _ _
      (fun run => run.Ordered ∧ ∃ oldest, KeepsFrom retention interval run oldest) ?_ ?_ run h
    · rintro run rfl
      exact ⟨⟨.nil, nofun, nofun⟩, 0, fun weid => rfl, Nat.zero_le _, Nat.zero_le _⟩
    · intro run call run' hinv hguard hstep
      exact step_keeps hinv hguard hstep
  obtain ⟨_, oldest, hkeeps⟩ := hinv
  obtain ⟨oldest', hkeeps', hbound⟩ := hkeeps.prune hlast
  have hanswer : (run.room.messagesForEpoch weid now retention interval).1 =
      (run.storedUnder weid).filter fun m => oldest' ≤ m.timestampMs := hkeeps'.kept weid
  have hmillis := Nat.div_mul_le_self retention.nanos 1000000
  rw [hanswer]
  refine ⟨List.filter_sublist, ?_, ?_⟩
  · rw [List.filter_filter]
    refine List.filter_congr fun m _ => ?_
    by_cases hyoung : young retention now m = true
    · have hage : now - m.timestampMs ≤ retention.asMillis :=
        (Nat.le_div_iff_mul_le (by decide)).mpr (of_decide_eq_true hyoung)
      have hold : oldest' ≤ now - min retention.asMillis U64_MAX := hkeeps'.old
      simp only [hyoung, Bool.true_and, decide_eq_true_iff]
      omega
    · simp [hyoung]
  · intro m hm
    have hkept : oldest' ≤ m.timestampMs := of_decide_eq_true (List.mem_filter.mp hm).2
    have hage : now - m.timestampMs ≤ retention.asMillis + interval := by
      rcases hbound with hbound | hbound
      · omega
      · rw [retentionCutoff] at hbound
        omega
    calc (now - m.timestampMs) * 1000000
        ≤ (retention.asMillis + interval) * 1000000 := Nat.mul_le_mul_right _ hage
      _ ≤ retention.nanos + interval * 1000000 := by
          rw [Nat.add_mul]
          exact Nat.add_le_add_right hmillis _

def noteAt (weid : Byte) (byte : Byte) (now : Nat) : StoredMessage := ⟨.fill weid, [byte], [], now⟩

def messageCalls : List MessageCall :=
  [.store (.fill 1) (noteAt 1 10 0) 0, .store (.fill 2) (noteAt 2 20 1) 1,
    .store (.fill 1) (noteAt 1 11 2) 2, .reload [.fill 2, .fill 1],
    .store (.fill 1) (noteAt 1 12 4) 4]

theorem answer_after_reload :
    ∃ run, Run.Reach (· = {}) (step ⟨2000000⟩ 3) TimedFiled run ∧ run.last ≤ 5 ∧
      (run.room.messagesForEpoch (.fill 1) 5 ⟨2000000⟩ 3).1 = [noteAt 1 11 2, noteAt 1 12 4] ∧
      (run.storedUnder (.fill 1)).filter (young ⟨2000000⟩ 5) = [noteAt 1 12 4] ∧
      (run.room.messagesForEpoch (.fill 1) 5 ⟨2000000⟩ 3).1.filter (young ⟨2000000⟩ 5) =
        (run.storedUnder (.fill 1)).filter (young ⟨2000000⟩ 5) := by
  let run := (Run.exec (step ⟨2000000⟩ 3) {} messageCalls).getD {}
  have hexec : Run.exec (Run.guarded (step ⟨2000000⟩ 3) TimedFiled) {} messageCalls = some run := by
    decide +kernel
  have hreach : Run.Reach (· = {}) (step ⟨2000000⟩ 3) TimedFiled run :=
    Run.reach_of_exec (.start rfl) hexec
  have hlast : run.last ≤ 5 := by decide +kernel
  exact ⟨run, hreach, hlast, by decide +kernel, by decide +kernel,
    (answer_within_retention hreach (.fill 1) hlast (by decide)).2.1⟩

/-- A message that names another epoch than its key: asked for the epoch it
names, the room has nothing, and once reloaded it has nothing under the key. -/
theorem misfiled_message_moves :
    ∃ before after, Run.Reach (· = {}) (step ⟨60000000000⟩ 1000) Timed before ∧
      Run.Reach (· = {}) (step ⟨60000000000⟩ 1000) Timed after ∧
      before.stored = [(.fill 1, noteAt 2 10 0)] ∧ after.stored = [(.fill 1, noteAt 2 10 0)] ∧
      young ⟨60000000000⟩ 0 (noteAt 2 10 0) = true ∧
      (before.room.messagesForEpoch (.fill 2) 0 ⟨60000000000⟩ 1000).1 = [] ∧
      (after.room.messagesForEpoch (.fill 1) 0 ⟨60000000000⟩ 1000).1 = [] := by
  let calls : List MessageCall := [.store (.fill 1) (noteAt 2 10 0) 0]
  let before := (Run.exec (step ⟨60000000000⟩ 1000) {} calls).getD {}
  let after := (Run.exec (step ⟨60000000000⟩ 1000) {} (calls ++ [.reload [.fill 1]])).getD {}
  have hbefore : Run.exec (Run.guarded (step ⟨60000000000⟩ 1000) Timed) {} calls = some before := by
    decide +kernel
  have hafter : Run.exec (Run.guarded (step ⟨60000000000⟩ 1000) Timed) {}
      (calls ++ [.reload [.fill 1]]) = some after := by
    decide +kernel
  exact ⟨before, after, Run.reach_of_exec (.start rfl) hbefore, Run.reach_of_exec (.start rfl) hafter,
    by decide +kernel, by decide +kernel, by decide +kernel, by decide +kernel, by decide +kernel⟩

end MessageRun

end CityG
