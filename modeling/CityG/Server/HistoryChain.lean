import Mathlib.Data.List.Chain
import Mathlib.Data.Set.Function
import Mathlib.Logic.Function.Iterate
import CityG.Server.Reads
import CityG.Server.TreeHash

/-!
# The chain of history commitments

The commitment of a group names a view, a few fields of its state, and the
commitment before it. Requests go on in the chain of the view they find;
registrations and epochs may change the view. A chain whose commitments hash
injectively never comes back to an earlier one.
-/

namespace CityG

open EStateM (check Keeps Preserves)

structure HistoryView where
  barrierInitialized : Bool
  barrierVersion : Nat
  barrierRootsHash : Bytes32
  kemTreeHashAfter : Bytes32
  latestRoot : Bytes32
  lastCheckpointEc : Nat
  lastAcceptedEc : Nat
  nMax : Nat
  deriving DecidableEq

def GroupState.historyView (state : GroupState) : HistoryView where
  barrierInitialized := state.barrierInitialized
  barrierVersion := state.barrierVersion
  barrierRootsHash := state.barrierRootsHash
  kemTreeHashAfter := state.kemTreeHashAfter
  latestRoot := state.latestRoot.getD .zero
  lastCheckpointEc := state.lastCheckpointEc
  lastAcceptedEc := state.lastAcceptedEc
  nMax := state.nMax

namespace HistoryView

def value (gid : Bytes) (view : HistoryView) : Value :=
  Value.ofFields
    [("gid", .bytes gid), ("barrier_initialized", .bool view.barrierInitialized),
      ("barrier_version", .ofNat view.barrierVersion),
      ("barrier_roots_hash", .bytes view.barrierRootsHash.val),
      ("kem_tree_hash_after", .bytes view.kemTreeHashAfter.val),
      ("latest_root", .bytes view.latestRoot.val),
      ("last_checkpoint_ec", .ofNat view.lastCheckpointEc),
      ("last_accepted_ec", .ofNat view.lastAcceptedEc), ("n_max", .ofNat view.nMax)]

def id (hL : HashL) (gid : Bytes) (view : HistoryView) : Except CityGError Bytes32 := do
  let _ ← validateBarrierNMax view.nMax
  pure (hL "barrier/history-view" (view.value gid))

theorem hash_of_id {hL : HashL} {gid : Bytes} {view : HistoryView} {historyViewId : Bytes32}
    (h : view.id hL gid = .ok historyViewId) :
    hL "barrier/history-view" (view.value gid) = historyViewId := by
  simp only [id, Except.bind_eq_ok, Except.pure_eq_ok] at h
  obtain ⟨_, -, hhash⟩ := h
  exact hhash

theorem value_injective (gid : Bytes) : Function.Injective (value gid) := by
  intro view view' h
  simp only [value, Value.ofFields, Value.ofNat, List.map_cons, List.map_nil, Value.map.injEq,
    List.cons.injEq, Prod.mk.injEq, Value.bool.injEq, Value.integer.injEq, Value.bytes.injEq,
    Int.natCast_inj, true_and, and_true] at h
  obtain ⟨hinit, hversion, hroots, hkem, hroot, hcheckpoint, haccepted, hnMax⟩ := h
  cases view
  cases view'
  simp_all [Subtype.ext_iff]

end HistoryView

theorem computeHistoryViewId_eq (hL : HashL) (gid : Bytes) (state : GroupState) :
    computeHistoryViewId hL gid state = state.historyView.id hL gid := by
  unfold computeHistoryViewId HistoryView.id
  cases hvalid : validateBarrierNMax state.nMax with
  | error e =>
    rw [show validateBarrierNMax state.historyView.nMax = .error e from hvalid]
    rfl
  | ok nMax =>
    rw [show validateBarrierNMax state.historyView.nMax = .ok nMax from hvalid,
      (validateBarrierNMax_eq_ok hvalid).1]
    rfl

namespace HistoryCommitment

def value (gid : Bytes) (commitment : HistoryCommitment) : Value :=
  Value.ofFields
    [("gid", .bytes gid), ("history_view_id", .bytes commitment.historyViewId.val),
      ("prev_history_commitment_id", .bytes commitment.prevHistoryCommitmentId.val),
      ("history_seq", .ofNat commitment.historySeq)]

theorem value_eq_iff {gid : Bytes} {a b : HistoryCommitment} :
    a.value gid = b.value gid ↔ a.historyViewId = b.historyViewId ∧
      a.prevHistoryCommitmentId = b.prevHistoryCommitmentId ∧ a.historySeq = b.historySeq := by
  simp only [value, Value.ofFields, Value.ofNat, List.map_cons, List.map_nil, Value.map.injEq,
    List.cons.injEq, Prod.mk.injEq, Value.integer.injEq, Value.bytes.injEq, Int.natCast_inj,
    true_and, and_true, Subtype.ext_iff]

def renew (hL : HashL) (gid : Bytes) (view : HistoryView) (commitment : HistoryCommitment) :
    HistoryCommitment :=
  match view.id hL gid with
  | .error _ => commitment
  | .ok historyViewId =>
    if commitment.historyViewId = historyViewId ∧ commitment.historyCommitmentId ≠ .zero then
      commitment
    else nextHistoryCommitment hL gid commitment historyViewId

end HistoryCommitment

theorem GroupState.advanced_commitment (hL : HashL) (gid : Bytes) (state : GroupState) :
    (state.advanced hL gid).currentHistoryCommitment =
      state.currentHistoryCommitment.renew hL gid state.historyView := by
  unfold advanced HistoryCommitment.renew
  rw [computeHistoryViewId_eq]
  cases state.historyView.id hL gid with
  | error e => rfl
  | ok historyViewId =>
    dsimp only
    split <;> rfl

theorem GroupState.advanced_historyView (hL : HashL) (gid : Bytes) (state : GroupState) :
    (state.advanced hL gid).historyView = state.historyView := by
  unfold advanced
  split
  · rfl
  · split <;> rfl

theorem nodup_of_unique_predecessor {α : Type*} {R : α → α → Prop} {l : List α} {base : α}
    (hchain : l.IsChain R) (hlast : l.getLast? = some base) (hbase : ∀ a, ¬ R base a)
    (hunique : ∀ a ∈ l, ∀ b ∈ l, ∀ c ∈ l, R a b → R a c → b = c) : l.Nodup := by
  induction l with
  | nil => exact .nil
  | cons a rest ih =>
    cases rest with
    | nil => exact List.nodup_singleton a
    | cons b rest =>
      rw [List.isChain_cons_cons] at hchain
      obtain ⟨hab, htail⟩ := hchain
      have hnodup : (b :: rest).Nodup := by
        refine ih htail (by simpa using hlast) fun x hx y hy z hz => ?_
        exact hunique x (.tail _ hx) y (.tail _ hy) z (.tail _ hz)
      refine List.nodup_cons.mpr ⟨fun hmem => ?_, hnodup⟩
      -- The second occurrence has the same predecessor, which then occurs twice as well.
      obtain ⟨before, after, hsplit⟩ := List.append_of_mem hmem
      cases after with
      | nil =>
        have hbaseLast : (b :: rest).getLast? = some a := by rw [hsplit]; simp
        rw [List.getLast?_cons_cons, hbaseLast, Option.some.injEq] at hlast
        exact hbase b (hlast ▸ hab)
      | cons c after =>
        have hac : R a c :=
          List.isChain_iff_forall_rel_of_append_cons_cons.mp htail hsplit
        have hc : c ∈ rest := by
          cases before with
          | nil =>
            cases hsplit
            exact List.mem_cons_self
          | cons x before =>
            cases hsplit
            simp
        have hbc : b = c := hunique a List.mem_cons_self b (by simp) c (by simp [hc]) hab hac
        exact (List.nodup_cons.mp hnodup).1 (hbc ▸ hc)

def Follows (hL : HashL) (gid : Bytes) (newer older : HistoryCommitment) : Prop :=
  newer = nextHistoryCommitment hL gid older newer.historyViewId

structure Chained (hL : HashL) (gid : Bytes) (chain : List HistoryCommitment) : Prop where
  links : chain.IsChain (Follows hL gid)
  base : chain.getLast? = some {}

section Chain
variable {hL : HashL} {gid : Bytes} {commitment newer older : HistoryCommitment}
  {chain earlier : List HistoryCommitment}

theorem Follows.seq_pos (h : Follows hL gid newer older) : 0 < newer.historySeq := by
  rw [h]
  exact Nat.lt_min.mpr ⟨Nat.succ_pos _, by decide⟩

theorem not_follows_none (older : HistoryCommitment) : ¬ Follows hL gid {} older :=
  fun h => Nat.lt_irrefl 0 h.seq_pos

theorem Follows.id_eq (h : Follows hL gid newer older) :
    newer.historyCommitmentId = hL "barrier/history-commitment" (newer.value gid) := by
  rw [h]
  rfl

theorem renew_eq_or_follows (view : HistoryView) (commitment : HistoryCommitment) :
    commitment.renew hL gid view = commitment ∨
      Follows hL gid (commitment.renew hL gid view) commitment := by
  unfold HistoryCommitment.renew
  split
  · exact .inl rfl
  · split
    · exact .inl rfl
    · exact .inr rfl

theorem Chained.mem_cases (h : Chained hL gid chain) (hmem : commitment ∈ chain) :
    commitment = {} ∨ ∃ older ∈ chain, Follows hL gid commitment older := by
  obtain ⟨before, after, rfl⟩ := List.append_of_mem hmem
  cases after with
  | nil =>
    have hbase := h.base
    rw [List.getLast?_append_cons, List.getLast?_singleton, Option.some.injEq] at hbase
    exact .inl hbase
  | cons older after =>
    refine .inr ⟨older, by simp, ?_⟩
    exact List.isChain_iff_forall_rel_of_append_cons_cons.mp h.links rfl

theorem Chained.nodup (h : Chained hL gid chain)
    (hinj : ∀ a ∈ chain, ∀ b ∈ chain, a ≠ {} → b ≠ {} →
      hL "barrier/history-commitment" (a.value gid) = hL "barrier/history-commitment" (b.value gid) →
        a.value gid = b.value gid) : chain.Nodup := by
  refine nodup_of_unique_predecessor h.links h.base not_follows_none ?_
  intro a _ b hb c hc hab hac
  have hprev : b.historyCommitmentId = c.historyCommitmentId := by
    have hb' := congrArg (·.prevHistoryCommitmentId) hab
    have hc' := congrArg (·.prevHistoryCommitmentId) hac
    exact hb'.symm.trans hc'
  have hseq : min (b.historySeq + 1) U64_MAX = min (c.historySeq + 1) U64_MAX := by
    have hb' := congrArg (·.historySeq) hab
    have hc' := congrArg (·.historySeq) hac
    exact hb'.symm.trans hc'
  have hmax : 2 ≤ U64_MAX := by decide
  rcases h.mem_cases hb with rfl | ⟨b', -, hb'⟩ <;> rcases h.mem_cases hc with rfl | ⟨c', -, hc'⟩
  · rfl
  · have hpos := hc'.seq_pos
    have hzero : ({} : HistoryCommitment).historySeq = 0 := rfl
    omega
  · have hpos := hb'.seq_pos
    have hzero : ({} : HistoryCommitment).historySeq = 0 := rfl
    omega
  · have hvalue : b.value gid = c.value gid := by
      refine hinj b hb c hc (fun hnone => ?_) (fun hnone => ?_) ?_
      · exact not_follows_none b' (hnone ▸ hb')
      · exact not_follows_none c' (hnone ▸ hc')
      · rw [← hb'.id_eq, ← hc'.id_eq, hprev]
    obtain ⟨hview, hbefore, hnumber⟩ := HistoryCommitment.value_eq_iff.mp hvalue
    cases b
    cases c
    simp_all

theorem Chained.renew (h : Chained hL gid (commitment :: earlier)) (view : HistoryView) (k : Nat) :
    ∃ earlier', Chained hL gid ((HistoryCommitment.renew hL gid view)^[k] commitment :: earlier') ∧
      (commitment :: earlier) <:+ (HistoryCommitment.renew hL gid view)^[k] commitment :: earlier' ∧
      ∀ c ∈ (HistoryCommitment.renew hL gid view)^[k] commitment :: earlier',
        c ∈ commitment :: earlier ∨ ∃ i, c = (HistoryCommitment.renew hL gid view)^[i] commitment := by
  induction k with
  | zero => exact ⟨earlier, h, List.suffix_rfl, fun c hc => .inl hc⟩
  | succ k ih =>
    obtain ⟨earlier', hchained, hsuffix, hmem⟩ := ih
    rw [Function.iterate_succ_apply']
    rcases renew_eq_or_follows view ((HistoryCommitment.renew hL gid view)^[k] commitment) with
      hsame | hfollows
    · rw [hsame]
      exact ⟨earlier', hchained, hsuffix, hmem⟩
    · refine ⟨_, ⟨List.isChain_cons_cons.mpr ⟨hfollows, hchained.links⟩, ?_⟩,
        hsuffix.trans (List.suffix_cons _ _), fun c hc => ?_⟩
      · rw [List.getLast?_cons_cons]
        exact hchained.base
      · rcases List.mem_cons.mp hc with rfl | hc
        · exact .inr ⟨k + 1, (Function.iterate_succ_apply' _ _ _).symm⟩
        · exact hmem c hc

theorem Chained.proceed (h : Chained hL gid (commitment :: earlier)) (view view' : HistoryView)
    (j m : Nat) :
    ∃ middle earlier',
      Chained hL gid ((HistoryCommitment.renew hL gid view')^[m]
        ((HistoryCommitment.renew hL gid view)^[j] commitment) :: earlier') ∧
      (commitment :: earlier) <:+ (HistoryCommitment.renew hL gid view)^[j] commitment :: middle ∧
      ((HistoryCommitment.renew hL gid view)^[j] commitment :: middle) <:+
        (HistoryCommitment.renew hL gid view')^[m]
          ((HistoryCommitment.renew hL gid view)^[j] commitment) :: earlier' ∧
      ∀ c ∈ (HistoryCommitment.renew hL gid view')^[m]
          ((HistoryCommitment.renew hL gid view)^[j] commitment) :: earlier',
        c ∈ commitment :: earlier ∨ ∃ i k, c = (HistoryCommitment.renew hL gid view')^[k]
          ((HistoryCommitment.renew hL gid view)^[i] commitment) := by
  obtain ⟨middle, hmiddle, hsuffix, hmem⟩ := h.renew view j
  obtain ⟨earlier', hchained, hsuffix', hmem'⟩ := hmiddle.renew view' m
  refine ⟨middle, earlier', hchained, hsuffix, hsuffix', fun c hc => ?_⟩
  rcases hmem' c hc with hc | ⟨k, rfl⟩
  · rcases hmem c hc with hc | ⟨i, rfl⟩
    · exact .inl hc
    · exact .inr ⟨i, 0, rfl⟩
  · exact .inr ⟨j, k, rfl⟩

theorem head_eq_of_suffix {α : Type*} {a b : α} {l l' : List α} (hnodup : (a :: l).Nodup)
    (hsuffix : (b :: l') <:+ a :: l) (hmem : a ∈ b :: l') : b = a := by
  rcases List.suffix_cons_iff.mp hsuffix with heq | htail
  · exact (List.cons.inj heq).1
  · exact absurd (htail.subset hmem) (List.nodup_cons.mp hnodup).1

end Chain

namespace GroupState

def historyChain (state : GroupState) : HistoryView × HistoryCommitment :=
  (state.historyView, state.currentHistoryCommitment)

def Continues (hL : HashL) (gid : Bytes) (state state' : GroupState) : Prop :=
  state'.historyView = state.historyView ∧
    ∃ k, state'.currentHistoryCommitment =
      (HistoryCommitment.renew hL gid state.historyView)^[k] state.currentHistoryCommitment

variable {hL : HashL} {gid : Bytes} {state mid state' : GroupState} {α : Type}
  {x : EStateM CityGError GroupState α}

theorem Continues.of_chain (h : state'.historyChain = state.historyChain) :
    Continues hL gid state state' :=
  ⟨congrArg Prod.fst h, 0, congrArg Prod.snd h⟩

theorem Continues.trans (h : Continues hL gid state mid) (h' : Continues hL gid mid state') :
    Continues hL gid state state' := by
  obtain ⟨hview, k, hk⟩ := h
  obtain ⟨hview', m, hm⟩ := h'
  refine ⟨hview'.trans hview, m + k, ?_⟩
  rw [hm, hk, hview, Function.iterate_add_apply]

theorem Continues.of_advanced (h : state'.historyChain = (state.advanced hL gid).historyChain) :
    Continues hL gid state state' := by
  refine ⟨?_, 1, ?_⟩
  · exact (congrArg Prod.fst h).trans (advanced_historyView hL gid state)
  · rw [Function.iterate_one, ← advanced_commitment]
    exact congrArg Prod.snd h

abbrev Browses (hL : HashL) (gid : Bytes) (x : EStateM CityGError GroupState α) : Prop :=
  ∀ state, Preserves (Continues hL gid state) x

theorem Browses.of_final (h : ∀ state, Continues hL gid state (x.final state)) : Browses hL gid x :=
  fun _ s hs => hs.trans (h s)

theorem Browses.of_keeps (h : Keeps historyChain x) : Browses hL gid x :=
  .of_final fun s => .of_chain (h s)

theorem Browses.of_offLeaves (h : KeepsOffLeaves x) : Browses hL gid x :=
  .of_keeps (h.comp historyChain)

theorem Browses.of_looks (h : LooksOnce hL gid x) : Browses hL gid x := by
  refine .of_final fun s => ?_
  rcases h s with hsame | hadvanced
  · have hchain := congrArg historyChain hsame
    exact .of_chain hchain
  · rw [← historyCore_advanced] at hadvanced
    have hchain := congrArg historyChain hadvanced
    exact .of_advanced hchain

theorem Browses.of_offTrees (h : KeepsOffTrees x) : Browses hL gid x :=
  .of_looks (.of_keeps (keepsHistoryCore_of_offTrees h))

theorem Browses.ensureCurrent (dec : WireDecoder) :
    Browses hL gid (ensureCurrentHistoryCommitment hL dec gid) :=
  .of_looks (.ensureCurrent dec)

end GroupState

section Groups
open GroupState (Browses)
variable {env : ServerEnv} {gid : Bytes}

theorem record_browses :
    Browses env.hL gid (recordBarrierPublicTreeSnapshot env.hL env.wire gid) := by
  intro state
  refine .bind .get fun s => ?_
  split
  · exact .pure _
  · refine .bind (Browses.of_offTrees (.encode _) state) fun _ => ?_
    refine .bind (Browses.ensureCurrent _ state) fun _ => ?_
    refine .bind (.modify fun _ hs => hs) fun _ => ?_
    exact Browses.of_offTrees .prune state

theorem continues_ticketStable (state : GroupState) :
    GroupState.TicketStable env gid (state.Continues env.hL gid) where
  reserve H percent leaf := Browses.of_offLeaves (.reserveJoin H percent leaf) state
  current := Browses.ensureCurrent _ state
  joinHistory := Browses.of_offLeaves .pruneJoinHistory state
  pending _ _ hs := hs.trans (.of_chain rfl)
  admins _ _ _ hs := hs.trans (.of_chain rfl)

end Groups

namespace CityGServer

def Continues (env : ServerEnv) (server server' : CityGServer) : Prop :=
  ∀ gid, (server.roster.group gid).Continues env.hL gid (server'.roster.group gid)

variable {env : ServerEnv} {server : CityGServer} {α : Type}

theorem Continues.onGroup {gid : Bytes} {x : EStateM CityGError GroupState α}
    (h : GroupState.Browses env.hL gid x) :
    Preserves (server.Continues env) (onGroup gid x) := by
  intro s hs gid'
  rw [CityGServer.onGroup, EStateM.final_zoom, putGroup, GroupRoster.group_insert]
  split
  · next heq =>
      subst heq
      exact h _ _ (hs gid')
  · exact hs gid'

theorem Continues.editGroup {gid : Bytes} {f : GroupState → GroupState}
    (h : ∀ state : GroupState, (f state).historyChain = state.historyChain) :
    Preserves (server.Continues env) (CityGServer.onGroup gid (modify f)) :=
  .onGroup (.of_keeps (.modify h))

theorem continues_requestStable : RequestStable env (server.Continues env) where
  group hx := Continues.onGroup fun state => hx _ (continues_ticketStable state)
  pivots s hs := hs
  rotate gid key := by
    refine .bind (.check _) fun _ => .bind (.check _) fun _ => ?_
    exact .bind (.modify fun s hs => hs) fun _ => Continues.editGroup fun _ => rfl

end CityGServer

namespace GroupState

def Proceeds (hL : HashL) (gid : Bytes) (state state' : GroupState) : Prop :=
  ∃ j m, state'.currentHistoryCommitment = (HistoryCommitment.renew hL gid state'.historyView)^[m]
    ((HistoryCommitment.renew hL gid state.historyView)^[j] state.currentHistoryCommitment)

variable {hL : HashL} {gid : Bytes} {state mid state' : GroupState}

theorem Continues.proceeds (h : Continues hL gid state state') : Proceeds hL gid state state' := by
  obtain ⟨-, k, hk⟩ := h
  exact ⟨k, 0, hk⟩

theorem Continues.trans_proceeds (h : Continues hL gid state mid) (h' : Proceeds hL gid mid state') :
    Proceeds hL gid state state' := by
  obtain ⟨hview, k, hk⟩ := h
  obtain ⟨j, m, hm⟩ := h'
  refine ⟨j + k, m, ?_⟩
  rw [hm, hk, hview, Function.iterate_add_apply]

theorem Proceeds.trans_continues (h : Proceeds hL gid state mid) (h' : Continues hL gid mid state') :
    Proceeds hL gid state state' := by
  obtain ⟨j, m, hm⟩ := h
  obtain ⟨hview, k, hk⟩ := h'
  refine ⟨j, k + m, ?_⟩
  rw [hk, hm, hview, Function.iterate_add_apply]

theorem initializeGroup_proceeds {env : ServerEnv} (hasHistory : Bool) (state : GroupState) :
    Proceeds env.hL gid state
      ((CityGServer.initializeGroup env gid hasHistory).final state) := by
  have hsame : ∀ {after : GroupState}, after.historyChain = state.historyChain →
      Proceeds env.hL gid state after := fun h => (Continues.of_chain h).proceeds
  rw [CityGServer.initializeGroup, EStateM.final_modify_bind, EStateM.final_read_bind]
  split
  · rw [CityGServer.bootstrapGroup, EStateM.final_read_bind]
    cases hblank : buildAllBlankPkEntries state.withMaxBarrierUpdateBytes.treeNMax with
    | error e => exact hsame rfl
    | ok blank =>
      rw [EStateM.final_check_bind (f := fun _ => .ok blank) rfl]
      cases hhash : computeBarrierTreeHash env.hL state.withMaxBarrierUpdateBytes.treeNMax blank with
      | error e => exact hsame rfl
      | ok kemTreeHash =>
        rw [EStateM.final_check_bind (f := fun _ => .ok kemTreeHash) rfl,
          EStateM.final_modify_bind]
        have hrecord : GroupState.Browses env.hL gid _ := record_browses
        obtain ⟨hview, k, hk⟩ := hrecord _ _ (.of_chain rfl)
        refine ⟨0, k, ?_⟩
        rw [hview]
        exact hk
  · exact hsame rfl

end GroupState

namespace CityGServer

def Proceeds (env : ServerEnv) (server server' : CityGServer) : Prop :=
  ∀ gid, (server.roster.group gid).Proceeds env.hL gid (server'.roster.group gid)

def KeepsPace {α : Type} (env : ServerEnv) (x : ServerM α) : Prop :=
  ∀ server, Proceeds env server (x.final server)

variable {env : ServerEnv} {server mid server' : CityGServer} {α β : Type} {x : ServerM α}
  {f : α → ServerM β}

theorem Continues.refl (server : CityGServer) : server.Continues env server :=
  fun _ => .of_chain rfl

theorem Continues.proceeds (h : server.Continues env server') : server.Proceeds env server' :=
  fun gid => (h gid).proceeds

theorem KeepsPace.of_continues (h : ∀ server : CityGServer, Preserves (server.Continues env) x) :
    KeepsPace env x :=
  fun server => (h server server (.refl server)).proceeds

theorem KeepsPace.continues_bind (hx : ∀ server : CityGServer, Preserves (server.Continues env) x)
    (hf : ∀ a, KeepsPace env (f a)) : KeepsPace env (x >>= f) := by
  intro server
  refine EStateM.final_bind (KeepsPace.of_continues hx server) fun a t hrun _ gid => ?_
  exact ((hx server).of_ok (.refl server) hrun gid).trans_proceeds (hf a t gid)

theorem KeepsPace.bind_continues (hx : KeepsPace env x)
    (hf : ∀ a, ∀ server : CityGServer, Preserves (server.Continues env) (f a)) :
    KeepsPace env (x >>= f) := by
  intro server
  refine EStateM.final_bind (hx server) fun a t _ ht gid => ?_
  exact (ht gid).trans_continues (hf a t t (.refl t) gid)

theorem initializeGroupBarrierBootstrapState_proceeds (gid : Bytes32) :
    KeepsPace env (initializeGroupBarrierBootstrapState env gid) := by
  refine .continues_bind (fun _ => .check _) fun hasHistory => ?_
  refine .bind_continues (fun server gid' => ?_) fun _ _ => .modify fun _ hs => hs
  rw [onGroup, EStateM.final_zoom, putGroup, GroupRoster.group_insert]
  split
  · next heq =>
      subst heq
      exact GroupState.initializeGroup_proceeds hasHistory _
  · exact (GroupState.Continues.of_chain rfl).proceeds

theorem registerGroup_proceeds (gid : Bytes32) (kbroadPublic : Bytes) :
    KeepsPace env (registerGroup env gid kbroadPublic) := by
  refine .continues_bind (fun _ => .check _) fun _ => .continues_bind (fun _ => .check _) fun _ => ?_
  refine .continues_bind (fun _ => .modify fun _ hs => hs) fun _ => ?_
  refine .continues_bind (fun _ => Continues.editGroup fun _ => rfl) fun _ => ?_
  exact initializeGroupBarrierBootstrapState_proceeds gid

theorem registerGroupWithAdmin_proceeds (gid : Bytes32) (kbroadPublic popKey : Bytes) :
    KeepsPace env (registerGroupWithAdmin env gid kbroadPublic popKey) :=
  .bind_continues (registerGroup_proceeds gid kbroadPublic) fun _ _ =>
    Continues.editGroup fun _ => rfl

theorem serve_proceeds (request : ServerRequest) (server : CityGServer) :
    server.Proceeds env (serve env request server) := by
  cases request with
  | registerGroup gid kbroadPublic => exact registerGroup_proceeds gid kbroadPublic server
  | registerGroupWithAdmin gid kbroadPublic popKey =>
    exact registerGroupWithAdmin_proceeds gid kbroadPublic popKey server
  | _ => exact Continues.proceeds (continues_requestStable.serve rfl (.refl server))

end CityGServer

def ClientEpochBundle.startCommitment (hL : HashL) (bundle : ClientEpochBundle)
    (state : GroupState) : HistoryCommitment :=
  if bundle.hasUpdate then state.currentHistoryCommitment.renew hL bundle.gid state.historyView
  else state.currentHistoryCommitment

section Epoch
variable {env : ServerEnv} {bundle : ClientEpochBundle} {prepared : Prepared}
  {barrier : BarrierGroupState} {start done activated member changed : GroupState}
  {newRoot : Bytes32} {fields : MemberFields} {token : Option Bytes32}

theorem PreparedBundle.group_commitment {replaying : Bool}
    (h : PreparedBundle env bundle replaying start prepared) :
    prepared.group.currentHistoryCommitment = bundle.startCommitment env.hL start := by
  have hrefreshed := h.refreshed
  unfold refreshHistory at hrefreshed
  unfold ClientEpochBundle.startCommitment
  split at hrefreshed
  · next hupdate =>
      simp only [EStateM.bind_eq_ok, EStateM.pure_eq_ok] at hrefreshed
      obtain ⟨_, _, hensured, -, rfl⟩ := hrefreshed
      have hadvanced := ensureCurrentHistoryCommitment_advances env.hL env.wire bundle.gid start
      rw [EStateM.final_of_ok hensured] at hadvanced
      have hcommitment := congrArg (·.currentHistoryCommitment) hadvanced
      rw [if_pos hupdate, ← GroupState.advanced_commitment]
      exact hcommitment
  · next hupdate =>
      rw [EStateM.pure_eq_ok] at hrefreshed
      rw [if_neg hupdate, hrefreshed.2]

theorem GroupState.commitment_of_withoutLeaves {state state' : GroupState}
    (h : state'.withoutLeaves = state.withoutLeaves) :
    state'.currentHistoryCommitment = state.currentHistoryCommitment := by
  have hcommitment := congrArg GroupState.currentHistoryCommitment h
  exact hcommitment

theorem GroupState.recordCurrentUpdate_commitment (header : HeaderMap) (before state : GroupState)
    (validation : Option BarrierUpdateValidationOutcome) :
    (recordCurrentUpdate header before validation state).currentHistoryCommitment =
      state.currentHistoryCommitment := by
  unfold recordCurrentUpdate
  split <;> rfl

theorem CommitSteps.commitment_changed (h : CommitSteps env bundle prepared barrier start done newRoot
    activated member changed fields token) :
    (GroupState.finalizeJoin token fields.popPk changed).currentHistoryCommitment =
      start.currentHistoryCommitment := by
  obtain ⟨record, -, happlied⟩ := h.record
  obtain ⟨_, _, _, _, hmember⟩ := GroupState.applyDelta_edits happlied
  calc (GroupState.finalizeJoin token fields.popPk changed).currentHistoryCommitment
      = changed.currentHistoryCommitment := GroupState.commitment_of_withoutLeaves
        (GroupState.finalizeJoin_withoutLeaves _ _ _)
    _ = member.currentHistoryCommitment := GroupState.commitment_of_withoutLeaves
        ((GroupState.KeepsOffLeaves.changeMembers _ _).of_ok h.change)
    _ = ((record.map (activated.withBarrierState barrier).putMergeRecord).getD
          (activated.withBarrierState barrier)).currentHistoryCommitment := by
        rw [hmember]
        exact GroupState.recordCurrentUpdate_commitment _ _ _ _
    _ = activated.currentHistoryCommitment := by cases record <;> rfl
    _ = start.currentHistoryCommitment := GroupState.commitment_of_withoutLeaves
        ((GroupState.KeepsOffLeaves.activateSlotLeases _).of_ok h.activate)

theorem commitTree_proceeds {validation : Option BarrierUpdateValidationOutcome}
    {state : GroupState} (h : commitTree env bundle.gid validation state = .ok () done) :
    ∃ m, done.currentHistoryCommitment =
      (HistoryCommitment.renew env.hL bundle.gid done.historyView)^[m]
        state.currentHistoryCommitment := by
  cases validation with
  | none =>
    rw [commitTree, EStateM.pure_eq_ok] at h
    exact ⟨0, congrArg (·.currentHistoryCommitment) h.2.symm⟩
  | some validation =>
    simp only [commitTree, EStateM.check_bind_eq_ok, EStateM.modify_bind_eq_ok] at h
    obtain ⟨predecessor, -, _, -, h⟩ := h
    simp only [EStateM.bind_eq_ok, EStateM.check_eq_ok] at h
    obtain ⟨commitment, _, hensured, version, _, ⟨-, rfl⟩, _, _, hrecorded, hdone⟩ := h
    have hensures : GroupState.Browses env.hL bundle.gid _ := .ensureCurrent env.wire
    have hrecords : GroupState.Browses env.hL bundle.gid
        (recordBarrierPublicTreeSnapshotWithMetadata predecessor version commitment
          validation.snapshotPre) := .of_offTrees (.recordWithMetadata _ _ _ _)
    have hbefore := (hensures _).of_ok (.of_chain rfl) hensured
    obtain ⟨hview, m, hm⟩ := (record_browses _).of_ok ((hrecords _).of_ok hbefore hrecorded) hdone
    refine ⟨m, ?_⟩
    rw [hview]
    exact hm

end Epoch

namespace AcceptedEpoch
variable {env : ServerEnv} {bundle : ClientEpochBundle} {server server' : CityGServer}
  {prepared : Prepared} {accepted : AcceptanceContext} {barrier : BarrierGroupState}
  {group : GroupState} {newRoot : Bytes32}

theorem roster_historyChain
    (h : AcceptedEpoch env bundle server server' prepared accepted barrier group newRoot) :
    (server'.roster.group bundle.gid).historyChain = group.historyChain := by
  rw [h.roster, GroupRoster.group_insert, if_pos rfl, markRotation]
  split <;> rfl

theorem commitment
    (h : AcceptedEpoch env bundle server server' prepared accepted barrier group newRoot) :
    ∃ m, (server'.roster.group bundle.gid).currentHistoryCommitment =
      (HistoryCommitment.renew env.hL bundle.gid (server'.roster.group bundle.gid).historyView)^[m]
        (bundle.startCommitment env.hL (server.roster.group bundle.gid)) := by
  obtain ⟨activated, member, changed, fields, token, hsteps⟩ := commitBundle_ok h.commit
  obtain ⟨m, hm⟩ := commitTree_proceeds hsteps.tree
  have hchain := h.roster_historyChain
  simp only [GroupState.historyChain, Prod.mk.injEq] at hchain
  refine ⟨m, ?_⟩
  rw [hchain.1, hchain.2, hm, hsteps.commitment_changed, (prepareBundle_ok h.prepare).group_commitment]

theorem initialized
    (h : AcceptedEpoch env bundle server server' prepared accepted barrier group newRoot) :
    (server'.roster.group bundle.gid).historyView.barrierInitialized = true := by
  obtain ⟨gate, hgate⟩ := h.gate
  have hbarrier := hgate.initialized (AcceptanceContext.knows_modify.mpr (.inl rfl))
  rw [AcceptanceContext.barrierGroupStateEntry, h.barrier_eq, Option.getD_some] at hbarrier
  obtain ⟨activated, member, changed, fields, token, hsteps⟩ := commitBundle_ok h.commit
  have hgroup : group.barrierInitialized = barrier.barrierInitialized := by
    cases hvalidation : prepared.validation with
    | none => exact congrArg Prod.fst (hsteps.treeFields_join hvalidation)
    | some validation => exact congrArg Prod.fst (hsteps.treeFields_merge hvalidation)
  have hview := congrArg (·.1.barrierInitialized) h.roster_historyChain
  exact hview.trans (hgroup.trans hbarrier)

theorem others
    (h : AcceptedEpoch env bundle server server' prepared accepted barrier group newRoot)
    {gid : Bytes} (hne : gid ≠ bundle.gid) : server'.roster.group gid = server.roster.group gid := by
  rw [h.roster, GroupRoster.group_insert, if_neg hne]

end AcceptedEpoch

end CityG
