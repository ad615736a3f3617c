import CityG.Accept.DeviceChain

/-!
# Replayed joins and the order of acceptance

The guard remembers the commitment of a join before the rest of the join is
checked, and a sequence number is used up whether or not the anchor is accepted
in the end. Nothing else in the pipelines writes either.
-/

namespace CityG

open EStateM (Keeps Leads Preserves)

abbrev Ledger := RhoReplayGuard × AcceptClock × Nat

/-- What orders the anchors of a context. -/
def AcceptanceContext.ledger (ctx : AcceptanceContext) : Ledger :=
  (ctx.rhoGuard, ctx.clock, ctx.nextAcceptSeq)

namespace RhoReplayGuard

variable {guard : RhoReplayGuard} {gid parentRoot : Bytes} {rhoCommit : Bytes32} {time now : Nat}

theorem filter_live (hle : time ≤ now) (key : Bytes) :
    (guard.live key time).filter (fun entry => now - entry.2 ≤ guard.ttl) = guard.live key now := by
  unfold live
  rw [List.filter_filter]
  refine List.filter_congr fun entry _ => ?_
  -- what is remembered now was remembered before
  have hkept : now - entry.2 ≤ guard.ttl → time - entry.2 ≤ guard.ttl := by omega
  simpa using hkept

/-- Later on, a guard that was asked remembers what it would have, and the
commitment it took up then. -/
theorem live_record (hle : time ≤ now) (key : Bytes) :
    (guard.record gid parentRoot rhoCommit time).2.live key now = guard.live key now ++
      if key = makeKey gid parentRoot ∧ (guard.record gid parentRoot rhoCommit time).1 = true ∧
        now - time ≤ guard.ttl then [(rhoCommit, time)] else [] := by
  have hput : ∀ deque,
      live ⟨guard.limit, guard.ttl, guard.entries.insert (makeKey gid parentRoot) deque⟩ key now =
        if key = makeKey gid parentRoot then deque.filter (fun entry => now - entry.2 ≤ guard.ttl)
        else guard.live key now := by
    intro deque
    rw [live, OrdMap.get?_insert]
    split <;> rfl
  unfold record
  dsimp only
  by_cases hkey : key = makeKey gid parentRoot
  · split <;> rw [hput, if_pos hkey, hkey]
    · rw [filter_live hle, if_neg (by simp), List.append_nil]
    · rw [List.filter_append, filter_live hle]
      simp [List.filter_cons]
  · split <;> rw [hput, if_neg hkey, if_neg fun h => hkey h.1, List.append_nil]

theorem record_taken (h : (guard.record gid parentRoot rhoCommit time).1 = true) :
    (∀ entry ∈ guard.live (makeKey gid parentRoot) time, entry.1 ≠ rhoCommit) ∧
      (guard.live (makeKey gid parentRoot) time).length < guard.limit := by
  unfold record at h
  dsimp only at h
  split at h
  · cases h
  · next htaken =>
      push Not at htaken
      exact htaken

end RhoReplayGuard

section Pipelines
variable (codec : AnchorCodec) (verifiers : AnchorProofs) (parts : AnchorInstanceParts)
  (header : HeaderMap)

theorem joinFs_ledger (popPk : Bytes) (digest : Bytes32) :
    Keeps (·.ledger) (joinFs codec parts header popPk digest) := by
  refine .bind (.check _) fun _ => ?_
  refine .bind (.bind (.check _) fun _ => .bind (.check _) fun _ => .modify fun _ => rfl) fun _ => ?_
  refine .bind (.check _) fun _ => .bind (.check _) fun _ => ?_
  refine .bind (.bind (.check _) fun _ => .bind (.check _) fun _ =>
    .bind (.modify fun _ => rfl) fun _ => .check _) fun _ => ?_
  refine .bind (.check _) fun _ => .bind (.check _) fun _ => .bind (.check _) fun _ => ?_
  exact .bind (.check _) fun _ => .pure _

theorem mergeFs_ledger : Keeps (·.ledger) (mergeFs codec parts header) := by
  refine .bind (.check _) fun _ => ?_
  refine .bind (.bind (.check _) fun _ => .bind (.check _) fun _ => .modify fun _ => rfl) fun _ => ?_
  refine .bind (.bind (.check _) fun _ => .bind (.check _) fun _ =>
    .bind (.modify fun _ => rfl) fun _ => .check _) fun _ => ?_
  exact .bind (.check _) fun _ => .bind (.check _) fun _ => .pure _

theorem mergeSrx_ledger (required : Bool) (roots : AnchorRoots) (binding : SrxBinding) (now : Nat)
    (artifacts : ProofArtifacts) : Keeps (·.ledger)
      (mergeSrx codec verifiers parts header required roots binding now artifacts) := by
  refine .bind (.check _) fun _ => .bind (.modify fun _ => rfl) fun _ => ?_
  refine .bind (.check _) fun _ => .bind (.check _) fun _ => ?_
  split
  · exact .bind (.zoom fun _ _ => rfl) fun _ => .pure _
  · exact .pure _

theorem ledger_commitStable (l : Ledger) :
    MergeCommitStable fun ctx => ctx.ledger = l where
  window _ _ h := h
  pivotStore _ _ h := h
  deviceChain _ _ _ _ h := h
  acceptedEc _ _ _ h := h
  checkpointEc _ _ _ h := h
  srxRootSet _ _ _ h := h

theorem joinCommit_ledger (mhNote : Option String) (now : Nat) (c : JoinChecked) :
    Keeps (·.ledger) (joinCommit codec parts header mhNote now c) :=
  EStateM.keeps_iff_preserves.mpr fun l => (ledger_commitStable l).joinCommit codec parts header _ _ _

theorem mergeCommit_ledger (mhHeads : List Bytes32) (mhNote : Option String) (now : Nat)
    (fs : MergeFs) (c : MergeChecked) (required : Bool) (root : Bytes32) : Keeps (·.ledger)
      (mergeCommit codec parts header mhHeads mhNote now fs c required root) :=
  EStateM.keeps_iff_preserves.mpr fun l =>
    (ledger_commitStable l).mergeCommit codec parts header _ _ _ _ _ _ _

theorem applyBarrierAcceptanceCommit_ledger (ctx : AcceptanceContext) (gid : Bytes)
    (gate : Accept.BarrierGateDecision) :
    (ctx.applyBarrierAcceptanceCommit gid header gate).ledger = ctx.ledger := by
  unfold AcceptanceContext.applyBarrierAcceptanceCommit AcceptanceContext.commitRefresh
  repeat' split
  all_goals rfl

end Pipelines

def AnchorInput.rhoCommit (input : AnchorInput) : Except AcceptanceError Bytes32 :=
  headerBytes32OrFreeze input.header HDR_RHO_COMMIT freezeRhoParity

/-- What a call can have done to the ledger, with a sequence number used up or not. -/
structure LedgerMoves (input : AnchorInput) (ctx : AcceptanceContext) (used : Bool) (l : Ledger) :
    Prop where
  guard : l.1 = ctx.rhoGuard ∨ ∃ rho, input.rhoCommit = .ok rho ∧
    l.1 = (ctx.rhoGuard.record input.parts.gid input.parts.parentRoot rho ctx.clock.nextTick).2
  clock : l.2.1 = ctx.clock.tick
  seq : l.2.2 = ctx.nextAcceptSeq ∨ used = true ∧ l.2.2 = ctx.bumpAcceptSeq.nextAcceptSeq

section Moves
variable {codec : AnchorCodec} {verifiers : AnchorProofs} {input : AnchorInput} {used : Bool}
  {l : Ledger} {ctx after : AcceptanceContext}

theorem LedgerMoves.start (h : after.ledger = ctx.startAnchor.ledger) :
    LedgerMoves input ctx used after.ledger :=
  h ▸ ⟨.inl rfl, rfl, .inl rfl⟩

theorem recordRho_moves (h : after.ledger = ctx.startAnchor.ledger) : LedgerMoves input ctx false
    ((recordRho input.parts input.header ctx.clock.nextTick).final after).ledger := by
  have hguard : after.rhoGuard = ctx.rhoGuard := congrArg Prod.fst h
  unfold recordRho
  cases hrho : headerBytes32OrFreeze input.header HDR_RHO_COMMIT freezeRhoParity with
  | error e =>
    rw [EStateM.final_check_bind_error (f := fun _ => .error e) rfl]
    exact .start h
  | ok rho =>
    rw [EStateM.final_check_bind (f := fun _ => .ok rho) rfl]
    have hrest : ∀ recorded : Bool, Keeps (·.ledger) ((EStateM.check fun _ =>
        Except.ensure (recorded = true) (.freeze freezeRhoParity)) >>= fun _ =>
          (pure rho : AcceptM Bytes32)) :=
      fun _ => .bind (.check _) fun _ => .pure _
    refine (congrArg (LedgerMoves input ctx false) (hrest _ _)).mpr ?_
    refine ⟨.inr ⟨rho, hrho, ?_⟩, congrArg (·.2.1) h, .inl (congrArg (·.2.2) h)⟩
    rw [← hguard]
    rfl

theorem takeAcceptSeq_moves (h : LedgerMoves input ctx false after.ledger) :
    LedgerMoves input ctx true (takeAcceptSeq.final after).ledger := by
  obtain ⟨hguard, hclock, hseq | ⟨hused, -⟩⟩ := h
  · refine ⟨hguard, hclock, .inr ⟨rfl, ?_⟩⟩
    exact congrArg (fun n => (n + 1) % 18446744073709551616) hseq
  · cases hused

theorem LedgerMoves.weaken (h : LedgerMoves input ctx used l) : LedgerMoves input ctx true l :=
  ⟨h.guard, h.clock, h.seq.imp id fun hused => ⟨rfl, hused.2⟩⟩

theorem joinChecks_moves (claim digest : Bytes32) :
    Leads (fun s => s.ledger = ctx.startAnchor.ledger)
      (fun s => LedgerMoves input ctx true s.ledger)
      (joinChecks codec verifiers input.parts input.header claim digest ctx.clock.nextTick) := by
  refine .after (.check _) (fun _ => ?_) fun _ => .start
  refine .bind (fun s => recordRho_moves) (fun _ => ?_) fun _ => LedgerMoves.weaken
  refine .after (.check _) (fun _ => ?_) fun _ => LedgerMoves.weaken
  refine .after (.of_keeps (joinFs_ledger _ _ _ _ _)) (fun _ => ?_) fun _ => LedgerMoves.weaken
  refine .after (.check _) (fun _ => ?_) fun _ => LedgerMoves.weaken
  refine .bind (fun s => takeAcceptSeq_moves) (fun _ => ?_) fun _ h => h
  refine Preserves.bind (.check _) fun _ => .bind (.check _) fun _ => .bind (.check _) fun _ => ?_
  refine .bind (.check _) fun _ => .bind (.check _) fun _ => .bind (.modifyGet fun _ h => h) fun _ => ?_
  exact .bind (.check _) fun _ => .pure _

theorem mergeChecks_moves (claim : Bytes32) (heads : List Bytes32) (now : Nat) :
    Leads (fun s => s.ledger = ctx.startAnchor.ledger)
      (fun s => LedgerMoves input ctx true s.ledger)
      (mergeChecks codec input.parts input.header claim heads now) := by
  refine .after (.check _) (fun _ => ?_) fun _ => .start
  refine .after (.check _) (fun _ => ?_) fun _ => .start
  refine .after (.check _) (fun _ => ?_) fun _ => .start
  refine .after (.check _) (fun _ => ?_) fun _ => .start
  refine .after (.check _) (fun _ => ?_) fun _ => .start
  refine .after (.check _) (fun _ => ?_) fun _ => .start
  refine .bind (fun s h => takeAcceptSeq_moves (.start h)) (fun _ => ?_) fun _ h => h
  refine Preserves.bind (.check _) fun _ => ?_
  refine .bind (.bind (.modify fun _ h => h) fun _ => .check _) fun _ => .bind (.check _) fun _ => ?_
  exact .bind (.check _) fun _ => .bind (.check _) fun _ => .bind (.check _) fun _ => .pure _

theorem acceptAnchorPipeline_moves (mhNote : Option String) (digest : Bytes32) :
    Leads (fun s => s.ledger = ctx.startAnchor.ledger)
      (fun s => LedgerMoves input ctx true s.ledger)
      (acceptAnchorPipeline codec verifiers input mhNote digest ctx.clock.nextTick) := by
  unfold acceptAnchorPipeline
  split
  · refine .after (.check _) (fun _ => ?_) fun _ => .start
    refine .after (.of_keeps (P := (· = ctx.startAnchor.ledger)) (mergeFs_ledger _ _ _)) (fun _ => ?_)
      fun _ => .start
    refine .bind (mergeChecks_moves _ _ _) (fun _ => ?_) fun _ h => h
    refine Preserves.bind (.check _) fun _ => ?_
    refine .bind (.of_keeps (mergeSrx_ledger _ _ _ _ _ _ _ _ _)) fun _ => .bind (.check _) fun _ => ?_
    refine .bind (.modifyGet fun _ h => h) fun _ => ?_
    exact .of_keeps (mergeCommit_ledger _ _ _ _ _ _ _ _ _ _)
  · refine .bind (joinChecks_moves _ _) (fun _ => ?_) fun _ h => h
    exact Preserves.bind (.check _) fun _ => .of_keeps (joinCommit_ledger _ _ _ _ _ _)

theorem callAnchor_moves (ctx : AcceptanceContext) (input : AnchorInput) :
    LedgerMoves input ctx true (callAnchor codec verifiers ctx input).after.ledger := by
  unfold callAnchor acceptAnchor
  rw [EStateM.final_modify_bind, EStateM.final_read_bind]
  refine Leads.after (P := fun s : AcceptanceContext => s.ledger = ctx.startAnchor.ledger)
    (Q := fun s => LedgerMoves input ctx true s.ledger) (.check _) (fun gate => ?_)
    (fun _ => .start) _ rfl
  refine .bind (acceptAnchorPipeline_moves _ _) (fun _ => ?_) fun _ h => h
  refine Preserves.bind (.modify fun s h => ?_) fun _ => .pure _
  rwa [applyBarrierAcceptanceCommit_ledger]

/-- What an accepted anchor did to the ledger. -/
structure LedgerTaken (input : AnchorInput) (ctx after : AcceptanceContext) (acceptSeq : Nat) :
    Prop where
  seq : acceptSeq = ctx.nextAcceptSeq
  next : after.nextAcceptSeq = ctx.bumpAcceptSeq.nextAcceptSeq
  rho : isMergeAnchor input.header = false → ∃ rho, input.rhoCommit = .ok rho ∧
    (ctx.rhoGuard.record input.parts.gid input.parts.parentRoot rho ctx.clock.nextTick).1 = true ∧
    after.rhoGuard =
      (ctx.rhoGuard.record input.parts.gid input.parts.parentRoot rho ctx.clock.nextTick).2

theorem LedgerTaken.of_ledger {staged : AcceptanceContext} {acceptSeq : Nat}
    (h : LedgerTaken input ctx staged acceptSeq) (hledger : after.ledger = staged.ledger) :
    LedgerTaken input ctx after acceptSeq where
  seq := h.seq
  next := (congrArg (·.2.2) hledger).trans h.next
  rho hjoin := by
    obtain ⟨rho, hread, htaken, hguard⟩ := h.rho hjoin
    exact ⟨rho, hread, htaken, (congrArg Prod.fst hledger).trans hguard⟩

theorem joinStage_taken {st : StagedJoin} (h : joinStage codec verifiers input ctx = .ok st after) :
    LedgerTaken input ctx after st.checked.acceptSeq := by
  simp only [joinStage, joinChecks, EStateM.modify_bind_eq_ok, EStateM.check_bind_eq_ok] at h
  obtain ⟨_, hnow, gate, -, h⟩ := h
  obtain rfl := Except.pure_eq_ok.mp hnow
  obtain ⟨_, checked, h, hrest⟩ := EStateM.bind_eq_ok.mp h
  obtain ⟨_, -, h⟩ := EStateM.check_bind_eq_ok.mp h
  obtain ⟨_, recorded, hrecord, h⟩ := EStateM.bind_eq_ok.mp h
  obtain ⟨_, -, h⟩ := EStateM.check_bind_eq_ok.mp h
  obtain ⟨_, joined, hfs, h⟩ := EStateM.bind_eq_ok.mp h
  simp only [recordRho, takeAcceptSeq, takeWitness, EStateM.check_bind_eq_ok,
    EStateM.modifyGet_bind_eq_ok, EStateM.pure_eq_ok, Except.ensure_eq_ok] at hrecord h hrest
  obtain ⟨_, -, _, -, _, -, _, -, _, -, _, -, _, -, rfl, rfl⟩ := h
  obtain ⟨rho, hrho, _, htaken, rfl, rfl⟩ := hrecord
  obtain ⟨_, -, rfl, rfl⟩ := hrest
  have hledger := (joinFs_ledger codec input.parts input.header _ _).of_ok hfs
  have hseq : joined.nextAcceptSeq = ctx.nextAcceptSeq := congrArg (·.2.2) hledger
  refine ⟨hseq, congrArg (fun n => (n + 1) % 18446744073709551616) hseq, fun _ => ?_⟩
  exact ⟨rho, hrho, htaken, congrArg Prod.fst hledger⟩

theorem joinCommit_acceptSeq {mhNote : Option String} {now : Nat} {c : JoinChecked}
    {outcome : AcceptanceOutcome}
    (h : joinCommit codec input.parts input.header mhNote now c ctx = .ok outcome after) :
    outcome.acceptSeq = c.acceptSeq := by
  simp only [joinCommit, EStateM.bind_eq_ok, EStateM.pure_eq_ok] at h
  obtain ⟨_, _, -, _, _, -, _, _, -, _, _, -, _, _, -, _, _, -, rfl, -⟩ := h
  rfl

theorem mergeCommit_acceptSeq {heads : List Bytes32} {mhNote : Option String} {now : Nat}
    {fs : MergeFs} {c : MergeChecked} {required : Bool} {root : Bytes32} {outcome : AcceptanceOutcome}
    (h : mergeCommit codec input.parts input.header heads mhNote now fs c required root ctx =
      .ok outcome after) : outcome.acceptSeq = c.acceptSeq := by
  simp only [mergeCommit, EStateM.bind_eq_ok, EStateM.pure_eq_ok] at h
  obtain ⟨_, _, -, _, _, -, _, _, -, _, _, -, _, _, -, _, _, -, _, _, -, _, _, -, _, _, -, _, _, -, rfl,
    -⟩ := h
  rfl

theorem acceptAnchor_taken {outcome : AcceptanceOutcome}
    (h : acceptAnchor codec verifiers input ctx = .ok outcome after) :
    LedgerTaken input ctx after outcome.acceptSeq := by
  cases hmerge : isMergeAnchor input.header with
  | false =>
    rw [acceptAnchor_join_eq hmerge, EStateM.bind_eq_ok] at h
    obtain ⟨st, staged, hstage, hfinish⟩ := h
    simp only [joinFinish, EStateM.bind_eq_ok, EStateM.modify_eq_ok, EStateM.pure_eq_ok] at hfinish
    obtain ⟨_, committed, hcommit, _, _, rfl, rfl, rfl⟩ := hfinish
    have hledger := (joinCommit_ledger _ _ _ _ _ _).of_ok hcommit
    have hseq : _ = st.checked.acceptSeq := joinCommit_acceptSeq hcommit
    rw [hseq]
    refine (joinStage_taken hstage).of_ledger (Eq.trans ?_ hledger)
    exact applyBarrierAcceptanceCommit_ledger _ _ _ _
  | true =>
    obtain ⟨st, staged, related, committed, root, hdone⟩ := acceptAnchor_merge_done hmerge h
    obtain ⟨joined, hfs, hsteps⟩ := (mergeStage_staged hdone.stage).checks
    have hfs := (mergeFs_ledger _ _ _).of_ok hfs
    have hsrx : related.ledger = staged.ledger := (mergeSrx_ledger _ _ _ _ _ _ _ _ _).of_ok hdone.srx
    have hcommitted : committed.ledger = related.takePendingCapssWitness.ledger :=
      (mergeCommit_ledger _ _ _ _ _ _ _ _ _ _).of_ok hdone.commit
    have hseq : joined.nextAcceptSeq = ctx.nextAcceptSeq := congrArg (·.2.2) hfs
    have hstaged : LedgerTaken input ctx staged st.checked.acceptSeq := by
      refine ⟨hsteps.acceptSeq.trans hseq, ?_, fun hjoin => by simp [hmerge] at hjoin⟩
      rw [hsteps.after]
      exact congrArg (fun n => (n + 1) % 18446744073709551616) hseq
    rw [mergeCommit_acceptSeq hdone.commit, ← hdone.barrier]
    refine hstaged.of_ledger (Eq.trans ?_ (hcommitted.trans hsrx))
    exact applyBarrierAcceptanceCommit_ledger _ _ _ _

end Moves

namespace AnchorCall

/-- The commitment and the instant of an accepted join to a root. -/
def joined (gid parentRoot : Bytes) (c : AnchorCall) : Option (Bytes32 × Nat) :=
  if c.Accepted ∧ isMergeAnchor c.input.header = false ∧ c.input.parts.gid = gid ∧
    c.input.parts.parentRoot = parentRoot then
    c.input.rhoCommit.toOption.map fun rho => (rho, c.before.clock.nextTick)
  else none

def acceptSeq? (c : AnchorCall) : Option Nat := c.result.toOption.map (·.acceptSeq)

end AnchorCall

section Runs
variable {codec : AnchorCodec} {verifiers : AnchorProofs} {ctx : AcceptanceContext}
  {input : AnchorInput} {used : Bool} {l : Ledger} {inputs : List AnchorInput}
  {done later : List AnchorCall} {c : AnchorCall} {gid parentRoot : Bytes}

/-- The guard remembers every accepted join that has not expired. -/
structure Remembered (gid parentRoot : Bytes) (start : RhoReplayGuard) (done : List AnchorCall)
    (ctx : AcceptanceContext) : Prop where
  limit : ctx.rhoGuard.limit = start.limit
  ttl : ctx.rhoGuard.ttl = start.ttl
  clock : ctx.clock.nextTick ≤ U64_MAX
  live : ∀ now, ctx.clock.nextTick ≤ now →
    ((done.filterMap (·.joined gid parentRoot)).filter fun e => now - e.2 ≤ start.ttl).Sublist
      (ctx.rhoGuard.live (RhoReplayGuard.makeKey gid parentRoot) now)

theorem joined_callAnchor {rho : Bytes32} {time : Nat}
    (h : (callAnchor codec verifiers ctx input).joined gid parentRoot = some (rho, time)) :
    input.parts.gid = gid ∧ input.parts.parentRoot = parentRoot ∧ time = ctx.clock.nextTick ∧
      (ctx.rhoGuard.record gid parentRoot rho time).1 = true ∧
      (callAnchor codec verifiers ctx input).after.rhoGuard =
        (ctx.rhoGuard.record gid parentRoot rho time).2 := by
  unfold AnchorCall.joined at h
  split at h
  · next hjoined =>
      obtain ⟨haccepted, hjoin, rfl, rfl⟩ := hjoined
      obtain ⟨outcome, hrun⟩ := callAnchor_ok haccepted
      obtain ⟨rho', hread, htaken, hguard⟩ := (acceptAnchor_taken hrun).rho hjoin
      rw [show (callAnchor codec verifiers ctx input).input.rhoCommit = .ok rho' from hread] at h
      obtain ⟨rfl, rfl⟩ := Prod.mk.inj (Option.some.inj h)
      exact ⟨rfl, rfl, rfl, htaken, hguard⟩
  · cases h

theorem LedgerMoves.guard_params (h : LedgerMoves input ctx used l) :
    l.1.limit = ctx.rhoGuard.limit ∧ l.1.ttl = ctx.rhoGuard.ttl := by
  obtain hsame | ⟨rho, -, hrecord⟩ := h.guard
  · rw [hsame]
    exact ⟨rfl, rfl⟩
  · rw [hrecord]
    unfold RhoReplayGuard.record
    dsimp only
    split <;> exact ⟨rfl, rfl⟩

/-- No call makes the guard forget. -/
theorem LedgerMoves.live (h : LedgerMoves input ctx used l) {now : Nat}
    (hle : ctx.clock.nextTick ≤ now) (key : Bytes) :
    (ctx.rhoGuard.live key now).Sublist (l.1.live key now) := by
  obtain hsame | ⟨rho, -, hrecord⟩ := h.guard
  · rw [hsame]
  · rw [hrecord, RhoReplayGuard.live_record hle]
    exact List.sublist_append_left _ _

theorem Remembered.step {start : RhoReplayGuard} (h : Remembered gid parentRoot start done ctx)
    (input : AnchorInput) : Remembered gid parentRoot start
      (done ++ [callAnchor codec verifiers ctx input]) (callAnchor codec verifiers ctx input).after := by
  have hmoves := @callAnchor_moves codec verifiers ctx input
  have hclock : (callAnchor codec verifiers ctx input).after.clock.nextTick =
      min (ctx.clock.nextTick + 1) U64_MAX := congrArg AcceptClock.nextTick hmoves.clock
  have hlater : ctx.clock.nextTick ≤ (callAnchor codec verifiers ctx input).after.clock.nextTick := by
    have := h.clock
    omega
  refine ⟨hmoves.guard_params.1.trans h.limit, hmoves.guard_params.2.trans h.ttl,
    hclock ▸ min_le_right _ _, fun now hnow => ?_⟩
  have hle := hlater.trans hnow
  rw [List.filterMap_append, List.filter_append]
  cases hjoined : (callAnchor codec verifiers ctx input).joined gid parentRoot with
  | none =>
    rw [List.filterMap_cons_none hjoined, List.filterMap_nil, List.filter_nil, List.append_nil]
    exact (h.live now hle).trans (hmoves.live hle _)
  | some entry =>
    obtain ⟨-, -, htime, htaken, hguard⟩ := joined_callAnchor hjoined
    rw [hguard, RhoReplayGuard.live_record (htime ▸ hle)]
    refine (h.live now hle).append ?_
    simp [hjoined, htaken, h.ttl, List.filter_cons]

/-- Over a whole run, rejected anchors included, joins to one root with one
commitment are accepted only once the earlier one has expired, and fewer than
the limit are accepted before the oldest of them expires. -/
theorem accepted_joins_apart {rho : Bytes32} {time : Nat} (hclock : ctx.clock.nextTick ≤ U64_MAX)
    (hcut : anchorCalls codec verifiers ctx inputs = done ++ c :: later)
    (hjoined : c.joined gid parentRoot = some (rho, time)) :
    (∀ earlier ∈ done, ∀ time', earlier.joined gid parentRoot = some (rho, time') →
      time' + ctx.rhoGuard.ttl < time) ∧
    ((done.filterMap (·.joined gid parentRoot)).filter
      fun e => time - e.2 ≤ ctx.rhoGuard.ttl).length < ctx.rhoGuard.limit := by
  obtain ⟨hinv, hc⟩ := anchorCalls_invariant (R := Remembered gid parentRoot ctx.rhoGuard)
    (fun done ctx input h => h.step input) ⟨rfl, rfl, hclock, fun _ _ => List.nil_sublist _⟩ hcut
  rw [hc] at hjoined
  obtain ⟨-, -, rfl, htaken, -⟩ := joined_callAnchor hjoined
  obtain ⟨hother, hroom⟩ := RhoReplayGuard.record_taken htaken
  have hlive := hinv.live _ le_rfl
  constructor
  · intro earlier hmem time' hearlier
    by_contra hsoon
    have hentry : (rho, time') ∈ (done.filterMap (·.joined gid parentRoot)).filter
        fun e => c.before.clock.nextTick - e.2 ≤ ctx.rhoGuard.ttl := by
      refine List.mem_filter.mpr ⟨List.mem_filterMap.mpr ⟨earlier, hmem, hearlier⟩, ?_⟩
      exact decide_eq_true (by omega)
    exact hother _ (hlive.subset hentry) rfl
  · exact (hlive.length_le.trans_lt hroom).trans_eq hinv.limit

set_option maxRecDepth 1000000 in
/-- Two joins of one device to one root. -/
theorem accepted_joins_apart_two : ∃ rho, secondCall.joined [1] headA.parts.parentRoot = some rho ∧
    (([firstCall].filterMap (·.joined [1] headA.parts.parentRoot)).filter
      fun e => rho.2 - e.2 ≤ onePlace.rhoGuard.ttl).length < onePlace.rhoGuard.limit := by
  have hsome : (secondCall.joined [1] headA.parts.parentRoot).isSome = true := by decide +kernel
  obtain ⟨rho, hrho⟩ := Option.isSome_iff_exists.mp hsome
  have hcut : anchorCalls sampleCodec sampleProofs onePlace [headA.join 10, continuedJoin 10] =
      [firstCall] ++ secondCall :: [] := rfl
  exact ⟨rho, hrho, (accepted_joins_apart (by decide +kernel) hcut hrho).2⟩

/-- The next number lies above the numbers given, as long as it has not wrapped. -/
def Numbered (start : Nat) (done : List AnchorCall) (ctx : AcceptanceContext) : Prop :=
  start + done.length < 18446744073709551616 → ctx.nextAcceptSeq ≤ start + done.length ∧
    ∀ c ∈ done, ∀ n, c.acceptSeq? = some n → n < ctx.nextAcceptSeq

theorem acceptSeq?_callAnchor {n : Nat}
    (h : (callAnchor codec verifiers ctx input).acceptSeq? = some n) :
    n = ctx.nextAcceptSeq ∧ (callAnchor codec verifiers ctx input).after.nextAcceptSeq =
      ctx.bumpAcceptSeq.nextAcceptSeq := by
  obtain ⟨outcome, hresult, rfl⟩ := Option.map_eq_some_iff.mp h
  obtain ⟨after, hrun⟩ := EStateM.value_toOption_eq_some.mp hresult
  have htaken := acceptAnchor_taken hrun
  exact ⟨htaken.seq, (congrArg _ (EStateM.final_of_ok hrun)).trans htaken.next⟩

theorem Numbered.step {start : Nat} (h : Numbered start done ctx) (input : AnchorInput) :
    Numbered start (done ++ [callAnchor codec verifiers ctx input])
      (callAnchor codec verifiers ctx input).after := by
  intro hroom
  rw [List.length_append, List.length_singleton] at hroom ⊢
  obtain ⟨hle, hbelow⟩ := h (by omega)
  have hbump : ctx.bumpAcceptSeq.nextAcceptSeq = ctx.nextAcceptSeq + 1 := Nat.mod_eq_of_lt (by omega)
  have hseq : (callAnchor codec verifiers ctx input).after.nextAcceptSeq = ctx.nextAcceptSeq ∨
      (callAnchor codec verifiers ctx input).after.nextAcceptSeq = ctx.nextAcceptSeq + 1 :=
    (callAnchor_moves ctx input).seq.imp id fun h => h.2.trans hbump
  refine ⟨by omega, fun c hmem n hn => ?_⟩
  rcases List.mem_append.mp hmem with hmem | hmem
  · have := hbelow c hmem n hn
    omega
  · obtain rfl := List.mem_singleton.mp hmem
    obtain ⟨rfl, hnext⟩ := acceptSeq?_callAnchor hn
    omega

/-- The numbers of the accepted anchors of a run are in the order of their
acceptance, whatever was rejected in between. -/
theorem accepted_in_order {n m : Nat} {earlier : AnchorCall}
    (hroom : ctx.nextAcceptSeq + done.length < 18446744073709551616)
    (hcut : anchorCalls codec verifiers ctx inputs = done ++ c :: later) (hmem : earlier ∈ done)
    (hearlier : earlier.acceptSeq? = some n) (hc : c.acceptSeq? = some m) : n < m := by
  obtain ⟨hinv, hcall⟩ := anchorCalls_invariant (R := Numbered ctx.nextAcceptSeq)
    (fun done ctx input h => h.step input) (fun _ => ⟨le_rfl, by simp⟩) hcut
  rw [hcall] at hc
  rw [(acceptSeq?_callAnchor hc).1]
  exact (hinv hroom).2 earlier hmem n hearlier

set_option maxRecDepth 1000000 in
theorem accepted_in_order_two : ∃ n m,
    firstCall.acceptSeq? = some n ∧ secondCall.acceptSeq? = some m ∧ n < m := by
  have hsome : firstCall.acceptSeq?.isSome = true ∧ secondCall.acceptSeq?.isSome = true := by
    decide +kernel
  obtain ⟨n, hn⟩ := Option.isSome_iff_exists.mp hsome.1
  obtain ⟨m, hm⟩ := Option.isSome_iff_exists.mp hsome.2
  have hcut : anchorCalls sampleCodec sampleProofs onePlace [headA.join 10, continuedJoin 10] =
      [firstCall] ++ secondCall :: [] := rfl
  exact ⟨n, m, hn, hm, accepted_in_order (by decide +kernel) hcut (.head _) hn hm⟩

end Runs

end CityG
