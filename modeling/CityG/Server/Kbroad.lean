import CityG.Server.Expulsion

/-!
# Broadcast keys after a revocation

A revocation asks for a new broadcast key before the next epoch. A rotation is
compared with the key in force only, so the law is about whole runs: no rotation
may bring back a key that a revoked member knows.
-/

namespace CityG

open EStateM (check Keeps Preserves)

theorem kbroadRegistry_blind : BlindToCommits AcceptanceContext.kbroadRegistry where
  start _ := rfl
  window _ _ := rfl
  rhoGuard _ _ := rfl
  vckCache _ _ := rfl
  pivotStore _ _ := rfl
  policyVersion _ _ := rfl
  baseTs _ _ := rfl
  acceptSeq _ := rfl
  witness _ := rfl
  deviceChain _ _ _ _ := rfl
  srxRoot _ _ := rfl
  acceptedEc _ _ _ := rfl
  checkpointEc _ _ _ := rfl
  srxRootSet _ _ _ := rfl

theorem kbroadRegistry_applyBarrierAcceptanceCommit (ctx : AcceptanceContext) (gid : Bytes)
    (header : HeaderMap) (gate : Accept.BarrierGateDecision) :
    (ctx.applyBarrierAcceptanceCommit gid header gate).kbroadRegistry = ctx.kbroadRegistry := by
  unfold AcceptanceContext.applyBarrierAcceptanceCommit
  split
  · rw [kbroadRegistry_blind.commitRefresh]
    rfl
  · rfl

def headerKbroad (header : HeaderMap) : Option Bytes :=
  (header.get? HDR_KBROAD_PUB).bind Value.asBytes

theorem ensureSuite_kbroad {codec : AnchorCodec} {ctx : AcceptanceContext} {gid : Bytes}
    {header : HeaderMap} (h : ensureSuite codec ctx gid header = .ok ()) :
    ∃ key, headerKbroad header = some key ∧
      ∀ registry ∈ ctx.kbroadRegistry, registry.get? gid = some key := by
  simp only [ensureSuite, Except.bind_eq_ok] at h
  obtain ⟨_, -, _, -, _, -, _, -, _, hkbroad, -⟩ := h
  unfold ensureKbroadPub at hkbroad
  split at hkbroad
  · cases hkbroad
  · next pub hpub =>
      rw [Except.ensure_eq_ok] at hkbroad
      exact ⟨pub, by rw [headerKbroad, hpub]; rfl, hkbroad.2⟩
  · cases hkbroad

theorem acceptAnchor_kbroad {codec : AnchorCodec} {verifiers : AnchorProofs} {input : AnchorInput}
    {ctx after : AcceptanceContext} {outcome : AcceptanceOutcome}
    (h : acceptAnchor codec verifiers input ctx = .ok outcome after) :
    after.kbroadRegistry = ctx.kbroadRegistry ∧ ∃ key, headerKbroad input.header = some key ∧
      ∀ registry ∈ ctx.kbroadRegistry, registry.get? input.parts.gid = some key := by
  simp only [acceptAnchor, EStateM.bind_eq_ok, EStateM.modify_eq_ok, EStateM.check_eq_ok,
    EStateM.pure_eq_ok] at h
  obtain ⟨_, _, rfl, now, _, ⟨-, rfl⟩, gate, _, ⟨-, rfl⟩, _, done, hpipeline, _, _, rfl, rfl, rfl⟩ := h
  refine ⟨?_, ?_⟩
  · rw [kbroadRegistry_applyBarrierAcceptanceCommit]
    have hkept :=
      (kbroadRegistry_blind.acceptAnchorPipeline codec verifiers input _ _ now).of_ok hpipeline
    exact hkept
  · unfold acceptAnchorPipeline at hpipeline
    split at hpipeline
    · simp only [acceptAnchorMerge, mergeFs, mergePrelude, EStateM.bind_eq_ok, EStateM.check_eq_ok,
        Except.bind_eq_ok] at hpipeline
      obtain ⟨_, _, ⟨-, rfl⟩, _, _, ⟨_, _, ⟨⟨_, hsuite, -⟩, rfl⟩, -⟩, -⟩ := hpipeline
      exact ensureSuite_kbroad hsuite
    · simp only [acceptAnchorJoin, joinChecks, joinPrelude, EStateM.bind_eq_ok, EStateM.check_eq_ok,
        Except.bind_eq_ok] at hpipeline
      obtain ⟨_, _, ⟨_, _, ⟨⟨_, hsuite, -⟩, rfl⟩, -⟩, -⟩ := hpipeline
      exact ensureSuite_kbroad hsuite

theorem processAnchorOr_kbroad {codec : AnchorCodec} {verifiers : AnchorProofs}
    {anchor : AnchorInstance} {header : HeaderMap} {hpProof witness : Bytes}
    {binding : HpBindingInputs} {ctx after : AcceptanceContext} {result : AnchorAcceptanceResult}
    (h : processAnchorOr codec verifiers anchor header hpProof binding witness ctx =
      .ok result after) :
    after.kbroadRegistry = ctx.kbroadRegistry ∧ ∃ key, headerKbroad header = some key ∧
      ∀ registry ∈ ctx.kbroadRegistry, registry.get? anchor.gid = some key := by
  simp only [processAnchorOr, acceptAnchorOr, EStateM.bind_eq_ok, EStateM.check_eq_ok,
    EStateM.pure_eq_ok] at h
  obtain ⟨_, _, ⟨_, _, ⟨-, rfl⟩, _, _, haccept, _, _, ⟨-, rfl⟩, _, _, ⟨-, rfl⟩, rfl, rfl⟩, _, _,
    ⟨-, rfl⟩, _, _, hbinding, -, rfl⟩ := h
  obtain ⟨hregistry, hheader⟩ := acceptAnchor_kbroad haccept
  have hkept := (kbroadRegistry_blind.verifyBinding codec verifiers header anchor _ _ _ _).of_ok
    hbinding
  exact ⟨hkept.trans hregistry, hheader⟩

namespace GroupState

abbrev KeepsRotation {α : Type} (x : EStateM CityGError GroupState α) : Prop :=
  Keeps GroupState.rotationRequired x

namespace KeepsRotation
variable {α : Type} {x : EStateM CityGError GroupState α}

theorem of_keepsCore (h : KeepsCore x) : KeepsRotation x := by
  intro s
  have hrotation := congrArg GroupState.rotationRequired (h s)
  exact hrotation

theorem of_offLeaves (h : KeepsOffLeaves x) : KeepsRotation x := h.comp GroupState.rotationRequired

theorem ticketStable (env : ServerEnv) (gid : Bytes) (required : Bool) :
    TicketStable env gid (·.rotationRequired = required) where
  reserve H percent leaf :=
    EStateM.keeps_iff_preserves.mp (of_offLeaves (.reserveJoin H percent leaf)) required
  current := EStateM.keeps_iff_preserves.mp (of_keepsCore (.ensureCurrent _ _ _)) required
  joinHistory := EStateM.keeps_iff_preserves.mp (of_offLeaves .pruneJoinHistory) required
  pending _ _ hs := hs
  admins _ _ _ hs := hs

end KeepsRotation

end GroupState

namespace CityGServer

def kbroadView (server : CityGServer) : Option (OrdMap Bytes Bytes) × (Bytes → Bool) :=
  (server.ctx.kbroadRegistry, fun gid => server.roster.kbroadRotationRequired gid)

abbrev KeepsKbroad {α : Type} (x : ServerM α) : Prop := Keeps kbroadView x

theorem KeepsKbroad.onGroup {α : Type} {x : EStateM CityGError GroupState α} (gid : Bytes)
    (h : GroupState.KeepsRotation x) : KeepsKbroad (CityGServer.onGroup gid x) := by
  intro server
  have hgroup := h (server.roster.group gid)
  unfold EStateM.KeepsAt at hgroup ⊢
  rw [CityGServer.onGroup, EStateM.final_zoom]
  refine Prod.ext rfl ?_
  funext gid'
  unfold kbroadView putGroup GroupRoster.kbroadRotationRequired
  dsimp only
  rw [GroupRoster.group_insert]
  split
  · next heq =>
      rw [heq]
      exact hgroup
  · rfl

theorem KeepsKbroad.of_stable (env : ServerEnv) {α : Type} {x : ServerM α}
    (h : ∀ P, TicketStable env P → Preserves P x) : KeepsKbroad x := by
  refine EStateM.keeps_iff_preserves.mpr fun view => h _ ⟨fun {_ gid _} hx => ?_, fun _ hs => hs⟩
  refine EStateM.keeps_iff_preserves.mp (KeepsKbroad.onGroup gid ?_) view
  exact EStateM.keeps_iff_preserves.mpr fun required => hx _ (GroupState.KeepsRotation.ticketStable env gid required)

/-- At most one group gets a new key, and no other group is spared its rotation. -/
inductive Rekeys (server server' : CityGServer) : Prop
  | keep (same : server'.kbroadView = server.kbroadView)
  | rekey (gid key : Bytes) (fresh : server.kbroadKey gid ≠ some key)
      (registry : server'.ctx.kbroadRegistry =
        some ((server.ctx.kbroadRegistry.getD .empty).insert gid key))
      (others : ∀ gid', gid' ≠ gid → server'.roster.kbroadRotationRequired gid' =
        server.roster.kbroadRotationRequired gid')

theorem Rekeys.refl (server : CityGServer) : Rekeys server server := .keep rfl

theorem Rekeys.then_keep {a b c : CityGServer} (h : Rekeys a b) (hkeep : c.kbroadView = b.kbroadView) :
    Rekeys a c := by
  have hregistry := congrArg Prod.fst hkeep
  have hrotation := fun gid => congrFun (congrArg Prod.snd hkeep) gid
  cases h with
  | keep same => exact .keep (hkeep.trans same)
  | rekey gid key fresh registry others =>
    exact .rekey gid key fresh (hregistry.trans registry) fun gid' hne =>
      (hrotation gid').trans (others gid' hne)

def RekeysBy {α : Type} (x : ServerM α) : Prop := ∀ server, Rekeys server (x.final server)

namespace RekeysBy
variable {α β : Type}

theorem of_keeps {x : ServerM α} (h : KeepsKbroad x) : RekeysBy x := fun server => .keep (h server)

theorem check_bind {f : CityGServer → Except CityGError α} {g : α → ServerM β}
    (h : ∀ a, RekeysBy (g a)) : RekeysBy (check f >>= g) := by
  intro server
  cases hf : f server with
  | ok a =>
    rw [EStateM.final_check_bind hf]
    exact h a server
  | error e =>
    rw [EStateM.final_check_bind_error hf]
    exact .refl server

theorem bind_keeps {x : ServerM α} {f : α → ServerM β} (hx : RekeysBy x)
    (hf : ∀ a, KeepsKbroad (f a)) : RekeysBy (x >>= f) := by
  intro server
  have hfirst := hx server
  unfold EStateM.final at hfirst ⊢
  cases hrun : x server with
  | ok a t =>
    rw [hrun] at hfirst
    rw [EStateM.bind_of_ok hrun]
    exact hfirst.then_keep (hf a t)
  | error e t =>
    rw [hrun] at hfirst
    rw [EStateM.bind_of_error hrun]
    exact hfirst

theorem insert {gid key : Bytes} {f : GroupState → GroupState} {server : CityGServer}
    (hfresh : server.kbroadKey gid ≠ some key) :
    Rekeys server ((modify (insertKbroad gid key) >>= fun _ =>
      CityGServer.onGroup gid (modify f) : ServerM Unit).final server) := by
  rw [EStateM.final_modify_bind, CityGServer.onGroup, EStateM.final_zoom]
  refine .rekey gid key hfresh rfl fun gid' hne => ?_
  unfold putGroup GroupRoster.kbroadRotationRequired
  dsimp only
  rw [GroupRoster.group_insert, if_neg hne]
  rfl

end RekeysBy

section Operations
open GroupState (KeepsRotation)

theorem rotateGroupKbroad_rekeys (gid : Bytes32) (kbroadPublic : Bytes) :
    RekeysBy (rotateGroupKbroad gid kbroadPublic) := by
  intro server
  unfold rotateGroupKbroad
  cases hkey : server.kbroadKey gid.val with
  | none =>
    rw [EStateM.final_check_bind_error (e := .invalidInput "kbroad key missing")
      (by rw [hkey]; rfl)]
    exact .refl server
  | some existing =>
    rw [EStateM.final_check_bind (a := existing) (by rw [hkey]; rfl)]
    by_cases hsame : existing = kbroadPublic
    · rw [EStateM.final_check_bind_error (e := .invalidInput "kbroad key unchanged")
        (by simp [Except.ensure, hsame])]
      exact .refl server
    · rw [EStateM.final_check_bind (a := ()) (by simp [Except.ensure, hsame])]
      exact RekeysBy.insert fun heq => hsame (Option.some.inj (hkey.symm.trans heq))

theorem ensureKbroadReady_rekeys (gid : Bytes32) (freshKbroadPublic : Bytes) :
    RekeysBy (ensureKbroadReady gid freshKbroadPublic) := by
  refine .check_bind fun required => ?_
  split
  · exact rotateGroupKbroad_rekeys gid freshKbroadPublic
  · exact .of_keeps (.pure _)

variable (env : ServerEnv)

theorem initializeGroupBarrierBootstrapState_keepsKbroad (gid : Bytes32) :
    KeepsKbroad (initializeGroupBarrierBootstrapState env gid) := by
  have hbootstrap : KeepsRotation (bootstrapGroup env gid.val) := by
    refine .bind (.check _) fun _ => .bind (.check _) fun _ => .bind (.check _) fun _ => ?_
    exact .bind (.modify fun _ => rfl) fun _ => KeepsRotation.of_keepsCore (.record _ _ _)
  refine .bind (.check _) fun hasHistory => .bind (KeepsKbroad.onGroup _ ?_) fun _ =>
    .modify fun _ => rfl
  refine .bind (.modify fun _ => rfl) fun _ => .bind (.check _) fun initialized => ?_
  split
  · exact hbootstrap
  · exact .pure _

theorem registerGroup_rekeys (gid : Bytes32) (kbroadPublic : Bytes) :
    RekeysBy (registerGroup env gid kbroadPublic) := by
  refine .check_bind fun _ => fun server => ?_
  cases hkey : server.kbroadKey gid.val with
  | some existing =>
    rw [EStateM.final_check_bind_error (e := .invalidInput "kbroad key already registered")
      (by simp [Except.ensure, hkey])]
    exact .refl server
  | none =>
    rw [EStateM.final_check_bind (a := ()) (by simp [Except.ensure, hkey])]
    have hinsert : Rekeys server ((modify (insertKbroad gid.val kbroadPublic) >>= fun _ =>
        CityGServer.onGroup gid.val (modify (·.clearKbroad)) : ServerM Unit).final server) :=
      RekeysBy.insert (by simp [hkey])
    have hrest := initializeGroupBarrierBootstrapState_keepsKbroad env gid
    rw [← bind_assoc]
    unfold EStateM.final at hinsert ⊢
    cases hrun : (modify (insertKbroad gid.val kbroadPublic) >>= fun _ =>
        CityGServer.onGroup gid.val (modify (·.clearKbroad)) : ServerM Unit) server with
    | ok a t =>
      rw [hrun] at hinsert
      rw [EStateM.bind_of_ok hrun]
      exact hinsert.then_keep (hrest t)
    | error e t =>
      rw [hrun] at hinsert
      rw [EStateM.bind_of_error hrun]
      exact hinsert

theorem buildJoinTicketWithLeaf_rekeys (gid : Bytes32) (leafIdOverride : Option Bytes32)
    (fresh : FreshValues) : RekeysBy (buildJoinTicketWithLeaf env gid leafIdOverride fresh) := by
  obtain ⟨rest, heq, hrest⟩ := joinTicket_rest env gid leafIdOverride fresh
  rw [heq]
  exact .bind_keeps (ensureKbroadReady_rekeys gid _) fun _ => .of_stable env hrest

theorem buildMergeTicketCore_rekeys (gid author : Bytes32) (revokedLeafId : Option Bytes32)
    (freshKbroadPublic : Bytes) :
    RekeysBy (buildMergeTicketCore env gid author revokedLeafId freshKbroadPublic) := by
  obtain ⟨rest, heq, hrest⟩ := mergeTicket_rest env gid author revokedLeafId freshKbroadPublic
  rw [heq]
  exact .bind_keeps (ensureKbroadReady_rekeys gid _) fun _ => .of_stable env hrest

theorem serve_rekeys (request : ServerRequest) (server : CityGServer) :
    Rekeys server (serve env request server) := by
  have hstable : ∀ {α : Type} {x : ServerM α}, (∀ P, TicketStable env P → Preserves P x) →
      Rekeys server (x.final server) := fun h => RekeysBy.of_keeps (.of_stable env h) server
  cases request with
  | registerGroup gid kbroadPublic => exact registerGroup_rekeys env gid kbroadPublic server
  | registerGroupWithAdmin gid kbroadPublic popKey =>
    exact RekeysBy.bind_keeps (registerGroup_rekeys env gid kbroadPublic)
      (fun _ => .of_stable env fun _ h => h.insertRoomAdmin gid.val popKey) server
  | attachInitialRoomAdmin gid popKey => exact hstable fun _ h => h.attachInitialRoomAdmin gid popKey
  | rotateGroupKbroad gid kbroadPublic => exact rotateGroupKbroad_rekeys gid kbroadPublic server
  | rotateGroupKbroadWithActor gid kbroadPublic actor replayKey =>
    refine RekeysBy.check_bind (fun _ => .check_bind fun _ => .check_bind fun _ => ?_) server
    exact .bind_keeps (rotateGroupKbroad_rekeys gid kbroadPublic) fun _ =>
      .of_stable env fun _ h => h.insertReplayKey gid.val replayKey
  | grantRoomAdmin gid actor target replayKey =>
    exact hstable fun _ h => h.grantRoomAdmin gid actor target replayKey
  | revokeRoomAdmin gid actor target replayKey =>
    exact hstable fun _ h => h.revokeRoomAdmin gid actor target replayKey
  | buildJoinTicket gid leafIdOverride fresh =>
    exact buildJoinTicketWithLeaf_rekeys env gid leafIdOverride fresh server
  | buildMergeTicket gid author revokedLeafId freshKbroadPublic =>
    exact buildMergeTicketCore_rekeys env gid author revokedLeafId freshKbroadPublic server
  | buildAdminExpelTicket gid actor author target replayKey freshKbroadPublic =>
    refine RekeysBy.check_bind (fun _ => .check_bind fun _ => .check_bind fun _ =>
      .check_bind fun _ => ?_) server
    exact .bind_keeps (buildMergeTicketCore_rekeys env gid author _ _) fun _ =>
      .bind (KeepsKbroad.of_stable env fun _ h => h.insertReplayKey gid.val replayKey) fun _ => .pure _
  | resolveRevokedOccupancies gid rootsHash =>
    exact hstable fun _ h => h.resolveRevokedOccupancies gid rootsHash
  | resolveJoinOccupanciesSince gid version =>
    exact hstable fun _ h => h.resolveJoinOccupanciesSince gid version
  | currentHistoryCommitment gid => exact hstable fun _ h => h.currentHistoryCommitment gid

end Operations

end CityGServer

section Epoch
variable {env : ServerEnv} {bundle : ClientEpochBundle} {server server' : CityGServer}

/-- An accepted epoch carries the key in force, for a group that does not wait
for a new one. The registry stays; the group waits if somebody was revoked. -/
structure KbroadEpoch (env : ServerEnv) (bundle : ClientEpochBundle)
    (server server' : CityGServer) : Prop where
  ready : server.roster.kbroadRotationRequired bundle.gid = false
  registry : server'.ctx.kbroadRegistry = server.ctx.kbroadRegistry
  header : ∃ key, headerKbroad bundle.headerMap = some key ∧
    ∀ registry ∈ server.ctx.kbroadRegistry, registry.get? bundle.gid = some key
  revoking : (bundle.delta env.codec).revoked ≠ [] →
    server'.roster.kbroadRotationRequired bundle.gid = true
  others : ∀ gid, gid ≠ bundle.gid →
    server'.roster.kbroadRotationRequired gid = server.roster.kbroadRotationRequired gid

theorem acceptEpoch_kbroad {outcome : ServerOutcome}
    (h : CityGServer.acceptEpoch env bundle server = .ok outcome server') :
    KbroadEpoch env bundle server server' := by
  obtain ⟨prepared, accepted, barrier, group, newRoot, hepoch⟩ := acceptEpoch_ok h
  obtain ⟨acceptance, haccepted, hctx⟩ := hepoch.anchor
  rw [acceptBundleAnchor, Except.mapError_eq_ok, EStateM.toExcept_eq_ok] at haccepted
  obtain ⟨hregistry, hheader⟩ := processAnchorOr_kbroad haccepted
  refine ⟨hepoch.ready, ?_, hheader, fun hrevoked => ?_, fun gid hne => ?_⟩
  · rw [hctx]
    exact hregistry
  · have hdelta := (prepareBundle_ok hepoch.prepare).delta
    rw [ClientEpochBundle.delta, hdelta] at hrevoked
    rw [GroupRoster.kbroadRotationRequired, hepoch.roster, GroupRoster.group_insert, if_pos rfl,
      markRotation, if_neg hrevoked]
    rfl
  · rw [GroupRoster.kbroadRotationRequired, hepoch.roster, GroupRoster.group_insert, if_neg hne]
    rfl

end Epoch

/-- A server with the keys that were in force for its groups so far, and those
that were at or before a revocation in their group. -/
structure KbroadRun where
  server : CityGServer
  inForce : List (Bytes × Bytes)
  retired : List (Bytes × Bytes)

def CityGServer.keysInForce (server : CityGServer) : List (Bytes × Bytes) :=
  (server.ctx.kbroadRegistry.getD .empty).entries

namespace KbroadRun

def start (server : CityGServer) : KbroadRun := ⟨server, server.keysInForce, []⟩

def retire (run : KbroadRun) (codec : AnchorCodec) (bundle : ClientEpochBundle) :
    List (Bytes × Bytes) :=
  if (bundle.delta codec).revoked = [] then run.retired
  else run.inForce.filter (fun e => e.1 = bundle.gid) ++ run.retired

def step (env : ServerEnv) (run : KbroadRun) : ServerOp → Option KbroadRun
  | .request request =>
    let server := CityGServer.serve env request run.server
    some ⟨server, server.keysInForce ++ run.inForce, run.retired⟩
  | .acceptEpoch bundle =>
    match CityGServer.acceptEpoch env bundle run.server with
    | .ok _ server =>
      some ⟨server, server.keysInForce ++ run.inForce, run.retire env.codec bundle⟩
    | .error _ server => some { run with server := server }

/-- No rotation puts a retired key in force again. -/
def NoneReturns (env : ServerEnv) (run : KbroadRun) : ServerOp → Prop
  | .request request => ∀ e ∈ run.retired,
      (CityGServer.serve env request run.server).kbroadKey e.1 = some e.2 →
        run.server.kbroadKey e.1 = some e.2
  | .acceptEpoch _ => True

instance (env : ServerEnv) (run : KbroadRun) (op : ServerOp) :
    Decidable (NoneReturns env run op) := by
  unfold NoneReturns
  split <;> infer_instance

/-- What rotations keep up between epochs. -/
structure Inv (run : KbroadRun) : Prop where
  current : ∀ gid key, run.server.kbroadKey gid = some key → (gid, key) ∈ run.inForce
  known : run.inForce ≠ [] → run.server.ctx.kbroadRegistry.isSome = true
  retired : ∀ e ∈ run.retired, e ∈ run.inForce
  fresh : ∀ e ∈ run.retired, run.server.roster.kbroadRotationRequired e.1 = false →
    run.server.kbroadKey e.1 ≠ some e.2

theorem mem_keysInForce {server : CityGServer} {gid key : Bytes} :
    (gid, key) ∈ server.keysInForce ↔ server.kbroadKey gid = some key := by
  unfold CityGServer.keysInForce CityGServer.kbroadKey
  rw [OrdMap.mem_entries_iff]
  cases server.ctx.kbroadRegistry <;> rfl

theorem registry_of_keysInForce {server : CityGServer} (h : server.keysInForce ≠ []) :
    server.ctx.kbroadRegistry.isSome = true := by
  unfold CityGServer.keysInForce at h
  cases hregistry : server.ctx.kbroadRegistry with
  | none => exact absurd (by rw [hregistry]; rfl) h
  | some registry => rfl

theorem Inv.start (server : CityGServer) : (start server).Inv where
  current _ _ := mem_keysInForce.mpr
  known := registry_of_keysInForce
  retired _ he := absurd he List.not_mem_nil
  fresh _ he := absurd he List.not_mem_nil

variable {env : ServerEnv} {run : KbroadRun}

theorem Inv.request (h : run.Inv) {request : ServerRequest}
    (hguard : run.NoneReturns env (.request request)) :
    Inv ⟨CityGServer.serve env request run.server,
      (CityGServer.serve env request run.server).keysInForce ++ run.inForce, run.retired⟩ := by
  have hrekeys := CityGServer.serve_rekeys env request run.server
  refine ⟨fun gid key hkey => ?_, fun hne => ?_, fun e he => ?_, fun e he hready hkey => ?_⟩
  · exact List.mem_append_left _ (mem_keysInForce.mpr hkey)
  · by_cases hkeys : (CityGServer.serve env request run.server).keysInForce = []
    · cases hrekeys with
      | keep same =>
        have hregistry := congrArg Prod.fst same
        rw [hkeys] at hne
        exact (congrArg Option.isSome hregistry).trans (h.known hne)
      | rekey gid key hfresh hregistry hothers =>
        exact congrArg Option.isSome hregistry
    · exact registry_of_keysInForce hkeys
  · exact List.mem_append_right _ (h.retired e he)
  · have hbefore := hguard e he hkey
    cases hrekeys with
    | keep same =>
      have hrotation := congrFun (congrArg Prod.snd same) e.1
      exact h.fresh e he (hrotation.symm.trans hready) hbefore
    | rekey gid key hfresh hregistry hothers =>
      by_cases hgid : e.1 = gid
      · -- the new key of the group would be the one it had
        unfold CityGServer.kbroadKey at hkey
        rw [hregistry, Option.bind_some, hgid, OrdMap.get?_insert, if_pos rfl] at hkey
        rw [hgid, ← hkey] at hbefore
        exact hfresh hbefore
      · exact h.fresh e he ((hothers e.1 hgid).symm.trans hready) hbefore

theorem Inv.accept (h : run.Inv) {bundle : ClientEpochBundle} {server' : CityGServer}
    (hepoch : KbroadEpoch env bundle run.server server') :
    Inv ⟨server', server'.keysInForce ++ run.inForce, run.retire env.codec bundle⟩ := by
  have hkeys : ∀ gid, server'.kbroadKey gid = run.server.kbroadKey gid := by
    intro gid
    unfold CityGServer.kbroadKey
    rw [hepoch.registry]
  have hready : ∀ e ∈ run.retired, server'.roster.kbroadRotationRequired e.1 = false →
      server'.kbroadKey e.1 ≠ some e.2 := by
    intro e he hrotation
    rw [hkeys]
    by_cases hgid : e.1 = bundle.gid
    · exact h.fresh e he (hgid ▸ hepoch.ready)
    · exact h.fresh e he ((hepoch.others e.1 hgid).symm.trans hrotation)
  have hmem : ∀ e ∈ run.retire env.codec bundle, e ∈ run.inForce := by
    intro e he
    unfold KbroadRun.retire at he
    split at he
    · exact h.retired e he
    · rcases List.mem_append.mp he with he | he
      · exact (List.mem_filter.mp he).1
      · exact h.retired e he
  refine ⟨fun gid key hkey => ?_, fun hne => ?_, fun e he => ?_, fun e he hrotation => ?_⟩
  · exact List.mem_append_left _ (mem_keysInForce.mpr hkey)
  · by_cases hnew : server'.keysInForce = []
    · rw [hnew] at hne
      rw [hepoch.registry]
      exact h.known hne
    · exact registry_of_keysInForce hnew
  · exact List.mem_append_right _ (hmem e he)
  · unfold KbroadRun.retire at he
    split at he
    · exact hready e he hrotation
    · next hrevoked =>
        rcases List.mem_append.mp he with he | he
        · -- a group with a fresh revocation waits for a new key
          have hgid : e.1 = bundle.gid := by simpa using (List.mem_filter.mp he).2
          rw [hgid, hepoch.revoking hrevoked] at hrotation
          cases hrotation
        · exact hready e he hrotation

theorem Inv.step {run' : KbroadRun} {op : ServerOp} (h : run.Inv) (hguard : run.NoneReturns env op)
    (hstep : run.step env op = some run') : run'.Inv := by
  cases op with
  | request request =>
    cases hstep
    exact h.request hguard
  | acceptEpoch bundle =>
    cases haccept : CityGServer.acceptEpoch env bundle run.server with
    | ok outcome server' =>
      rw [KbroadRun.step, haccept] at hstep
      cases hstep
      exact h.accept (acceptEpoch_kbroad haccept)
    | error e server' =>
      rw [KbroadRun.step, haccept] at hstep
      cases hstep
      rw [acceptEpoch_error haccept]
      exact h

/-- In every run without the return of a retired key, every accepted epoch
carries a key that was never in force up to a revocation in its group. -/
theorem epochs_carry_fresh_kbroad
    (hreach : Run.Reach (fun r => ∃ server, r = start server) (step env) (NoneReturns env) run) :
    ∀ bundle outcome server', CityGServer.acceptEpoch env bundle run.server = .ok outcome server' →
      ∃ key, headerKbroad bundle.headerMap = some key ∧ (bundle.gid, key) ∉ run.retired := by
  have hinv : run.Inv := by
    refine hreach.invariant ?_ fun s op s' h hguard hstep => h.step hguard hstep
    rintro _ ⟨server, rfl⟩
    exact .start server
  intro bundle outcome server' haccept
  have hepoch := acceptEpoch_kbroad haccept
  obtain ⟨key, hkey, hregistered⟩ := hepoch.header
  refine ⟨key, hkey, fun hretired => ?_⟩
  have hknown := hinv.known (List.ne_nil_of_mem (hinv.retired _ hretired))
  obtain ⟨registry, hregistry⟩ := Option.isSome_iff_exists.mp hknown
  refine hinv.fresh _ hretired hepoch.ready ?_
  unfold CityGServer.kbroadKey
  rw [hregistry, Option.bind_some]
  exact hregistered registry hregistry

end KbroadRun

section Room
open Bytes32 (fill)

def rotatedRoom (keys : List Byte) : List ServerOp :=
  roomJoins (deviceLeaf 10) ++ .acceptEpoch ownExpulsion ::
    keys.map (fun key => .request (.rotateGroupKbroad roomGid (kemKey key))) ++
    [.request (.buildJoinTicket roomGid (some (deviceLeaf 12)) ⟨kemKey 9, fill 79⟩)]

def thirdEpoch (kbroad : Byte) : RoomEpoch where
  fsEc := 9
  device := 12
  version := 1
  parentRoot := deviceLeaf 10
  joinRoot := deviceLeaf 12
  revoked := (deviceLeaf 11, deviceLeaf 11)
  kbroad := kbroad

def thirdJoin (kbroad : Byte) : ClientEpochBundle := (thirdEpoch kbroad).join 22

set_option maxRecDepth 1000000 in
theorem epochs_carry_fresh_kbroad_rotated :
    ∃ run ∈ Run.exec (Run.guarded (KbroadRun.step roomEnv) (KbroadRun.NoneReturns roomEnv))
        (.start roomServer) (rotatedRoom [2]),
      (roomGid.val, kemKey 1) ∈ run.retired ∧
      (CityGServer.acceptEpoch roomEnv (thirdJoin 2)).Succeeds run.server ∧
      ∃ key, headerKbroad (thirdJoin 2).headerMap = some key ∧
        ((thirdJoin 2).gid, key) ∉ run.retired := by
  obtain ⟨run, hrun, hretired, outcome, server', haccept⟩ :
      ∃ run ∈ Run.exec (Run.guarded (KbroadRun.step roomEnv) (KbroadRun.NoneReturns roomEnv))
          (.start roomServer) (rotatedRoom [2]),
        (roomGid.val, kemKey 1) ∈ run.retired ∧
        (CityGServer.acceptEpoch roomEnv (thirdJoin 2)).Succeeds run.server := by
    decide +kernel
  have hreach : Run.Reach (fun r => ∃ server, r = KbroadRun.start server) (KbroadRun.step roomEnv)
      (KbroadRun.NoneReturns roomEnv) run := Run.reach_of_exec (.start ⟨roomServer, rfl⟩) hrun
  exact ⟨run, hrun, hretired, ⟨outcome, server', haccept⟩,
    KbroadRun.epochs_carry_fresh_kbroad hreach _ outcome server' haccept⟩

set_option maxRecDepth 1000000 in
/-- Two rotations bring back the key that device 11 was expelled under, and the
next join carries it. -/
theorem retired_kbroad_returns :
    ∃ run ∈ Run.exec (KbroadRun.step roomEnv) (.start roomServer) (rotatedRoom [2, 1]),
      (CityGServer.acceptEpoch roomEnv (thirdJoin 1)).Succeeds run.server ∧
      headerKbroad (thirdJoin 1).headerMap = some (kemKey 1) ∧
      (roomGid.val, kemKey 1) ∈ run.retired := by
  decide +kernel

end Room

end CityG
