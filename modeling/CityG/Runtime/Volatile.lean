import CityG.Server.Bundle

/-!
# The volatile state of a room

Messages and bundles that a room keeps for a while, with the indexes from epochs
to members and scopes. Nothing expires on its own: a call prunes when the time
for it has come. The maps of the source are hash maps; only the snapshot of the
messages shows their iteration order, which is an argument there.
-/

namespace CityG

structure Duration where
  nanos : Nat
  deriving DecidableEq

def Duration.asMillis (d : Duration) : Nat := d.nanos / 1000000

structure MemberMetadata where
  joinTimestampMs : Nat
  lastSeenTimestampMs : Nat
  deriving DecidableEq

structure EpochScope where
  gid : Bytes32
  membershipRoot : Bytes32
  deriving DecidableEq

structure StoredMessage where
  weEpochId : Bytes32
  ciphertext : Bytes
  sender : Bytes
  timestampMs : Nat
  deriving DecidableEq

structure StoredBundle where
  bytes : Bytes
  storedAtMs : Nat
  deriving DecidableEq

structure RoomIndexes where
  memberMetadata : OrdMap Bytes32 MemberMetadata := .empty
  weidToLeaf : OrdMap Bytes32 Bytes32 := .empty
  epochScopes : OrdMap Bytes32 EpochScope := .empty
  deriving DecidableEq

namespace RoomIndexes
variable (indexes : RoomIndexes)

def recordMemberJoin (leafId weEpochId : Bytes32) (timestampMs : Nat) : RoomIndexes :=
  { indexes with
    memberMetadata := indexes.memberMetadata.insert leafId ⟨timestampMs, timestampMs⟩
    weidToLeaf := (indexes.weidToLeaf.filter fun e => e.2 ≠ leafId).insert weEpochId leafId }

def revokeMembers (leaves : List Bytes32) : RoomIndexes :=
  { indexes with
    memberMetadata := indexes.memberMetadata.filter fun e => e.1 ∉ leaves
    weidToLeaf := indexes.weidToLeaf.filter fun e => e.2 ∉ leaves }

def recordEpochScope (weEpochId : Bytes32) (scope : EpochScope) : RoomIndexes :=
  { indexes with epochScopes := indexes.epochScopes.insert weEpochId scope }

def epochScopeForWeid (weEpochId : Bytes32) : Option EpochScope :=
  indexes.epochScopes.get? weEpochId

def pruneExpiredWeids (expired : List Bytes32) : RoomIndexes :=
  { indexes with
    epochScopes := indexes.epochScopes.filter fun e => e.1 ∉ expired
    weidToLeaf := indexes.weidToLeaf.filter fun e => e.1 ∉ expired }

end RoomIndexes

/-- The oldest time stamp that pruning at `now` keeps. -/
def retentionCutoff (now : Nat) (retention : Duration) : Nat := now - min retention.asMillis U64_MAX

def pruneExpiredMessages (store : OrdMap Bytes32 (List StoredMessage)) (now : Nat)
    (retention : Duration) : OrdMap Bytes32 (List StoredMessage) :=
  store.filterMap fun messages =>
    let kept := messages.filter fun m => retentionCutoff now retention ≤ m.timestampMs
    if kept.isEmpty then none else some kept

def bundleExpired (now : Nat) (retention : Duration) (bundle : StoredBundle) : Bool :=
  bundle.storedAtMs < retentionCutoff now retention

def pruneExpiredBundles (store : OrdMap Bytes32 StoredBundle) (now : Nat) (retention : Duration) :
    List Bytes32 × OrdMap Bytes32 StoredBundle :=
  (((store.entries.filter fun e => bundleExpired now retention e.2).map Prod.fst),
    store.filter fun e => !bundleExpired now retention e.2)

structure RoomVolatileState where
  indexes : RoomIndexes := {}
  messages : OrdMap Bytes32 (List StoredMessage) := .empty
  bundles : OrdMap Bytes32 StoredBundle := .empty
  messagePruneDueMs : Nat := 0
  bundlePruneDueMs : Nat := 0
  deriving DecidableEq

namespace RoomVolatileState
variable (room : RoomVolatileState)

def pruneMessagesDue (now : Nat) (retention : Duration) (interval : Nat) : RoomVolatileState :=
  if now < room.messagePruneDueMs then room
  else { room with
    messages := pruneExpiredMessages room.messages now retention
    messagePruneDueMs := saturatingAdd now interval }

def messagesOf (weEpochId : Bytes32) : List StoredMessage :=
  (room.messages.get? weEpochId).getD []

def pushMessage (weEpochId : Bytes32) (message : StoredMessage) : RoomVolatileState :=
  { room with messages := room.messages.insert weEpochId (room.messagesOf weEpochId ++ [message]) }

def storeMessage (weEpochId : Bytes32) (message : StoredMessage) (now : Nat)
    (retention : Duration) (interval : Nat) : RoomVolatileState :=
  (room.pushMessage weEpochId message).pruneMessagesDue now retention interval

def messagesForEpoch (weEpochId : Bytes32) (now : Nat) (retention : Duration) (interval : Nat) :
    List StoredMessage × RoomVolatileState :=
  let room := room.pruneMessagesDue now retention interval
  (room.messagesOf weEpochId, room)

def pruneBundlesDue (now : Nat) (retention : Duration) (interval : Nat) :
    List Bytes32 × RoomVolatileState :=
  if now < room.bundlePruneDueMs then ([], room)
  else
    let (expired, bundles) := pruneExpiredBundles room.bundles now retention
    (expired, { room with bundles, bundlePruneDueMs := saturatingAdd now interval })

def storeBundle (weEpochId : Bytes32) (bundle : StoredBundle) (now : Nat) (retention : Duration)
    (interval : Nat) : RoomVolatileState :=
  let (expired, room) := room.pruneBundlesDue now retention interval
  { room with
    bundles := room.bundles.insert weEpochId bundle
    indexes := room.indexes.pruneExpiredWeids expired }

def bundle (weEpochId : Bytes32) (now : Nat) (retention : Duration) (interval : Nat) :
    Option StoredBundle × RoomVolatileState :=
  let (expired, room) := room.pruneBundlesDue now retention interval
  let room := { room with indexes := room.indexes.pruneExpiredWeids expired }
  (room.bundles.get? weEpochId, room)

end RoomVolatileState

structure RoomVolatileSnapshot where
  memberMetadata : List (Bytes32 × MemberMetadata)
  weidToLeaf : List (Bytes32 × Bytes32)
  epochScopes : List (Bytes32 × EpochScope)
  messages : List StoredMessage
  bundles : List (Bytes32 × StoredBundle)
  messagePruneDueMs : Nat
  bundlePruneDueMs : Nat

def StoredMessage.LE (a b : StoredMessage) : Prop :=
  a.weEpochId < b.weEpochId ∨ a.weEpochId = b.weEpochId ∧ a.timestampMs ≤ b.timestampMs

instance : DecidableRel StoredMessage.LE := fun a b => by
  unfold StoredMessage.LE
  infer_instance

def groupMessage (groups : OrdMap Bytes32 (List StoredMessage)) (message : StoredMessage) :
    OrdMap Bytes32 (List StoredMessage) :=
  groups.insert message.weEpochId ((groups.get? message.weEpochId).getD [] ++ [message])

namespace RoomVolatileState

def snapshot (room : RoomVolatileState) (order : List Bytes32) : RoomVolatileSnapshot where
  memberMetadata := room.indexes.memberMetadata.entries
  weidToLeaf := room.indexes.weidToLeaf.entries
  epochScopes := room.indexes.epochScopes.entries
  messages := (order.flatMap room.messagesOf).insertionSort StoredMessage.LE
  bundles := room.bundles.entries
  messagePruneDueMs := room.messagePruneDueMs
  bundlePruneDueMs := room.bundlePruneDueMs

def fromSnapshot (snapshot : RoomVolatileSnapshot) : RoomVolatileState where
  indexes :=
    { memberMetadata := .ofList snapshot.memberMetadata
      weidToLeaf := .ofList snapshot.weidToLeaf
      epochScopes := .ofList snapshot.epochScopes }
  messages := snapshot.messages.foldl groupMessage .empty
  bundles := .ofList snapshot.bundles
  messagePruneDueMs := snapshot.messagePruneDueMs
  bundlePruneDueMs := snapshot.bundlePruneDueMs

end RoomVolatileState

inductive RoomServiceError where
  | invalidGidLength
  | membershipDelta (error : CityGError)

structure BundleIndexUpdate where
  weEpochId : Bytes32
  membershipRoot : Bytes32
  bytes : Bytes
  timestampMs : Nat

structure RoomRetentionPolicy where
  retention : Duration
  pruneIntervalMs : Nat

/-- The state after the side effects of an accepted bundle: scope, joins,
revocations, and the bundle itself. Nothing is written when it fails. -/
def applyBundleIndexes (codec : AnchorCodec) (room : RoomVolatileState)
    (bundle : ClientEpochBundle) (update : BundleIndexUpdate) (policy : RoomRetentionPolicy) :
    Except RoomServiceError RoomVolatileState := do
  let gid ← Except.ofOption .invalidGidLength (toBytes32 bundle.gid)
  let delta ← (bundle.membershipDelta codec).mapError .membershipDelta
  let indexes := room.indexes.recordEpochScope update.weEpochId ⟨gid, update.membershipRoot⟩
  let indexes := delta.joined.foldl
    (fun indexes leaf => indexes.recordMemberJoin leaf update.weEpochId update.timestampMs) indexes
  let indexes := if delta.revoked.isEmpty then indexes else indexes.revokeMembers delta.revoked
  pure (RoomVolatileState.storeBundle { room with indexes } update.weEpochId
    ⟨update.bytes, update.timestampMs⟩ update.timestampMs policy.retention policy.pruneIntervalMs)

end CityG
