import CityG.Client.Tree

/-!
# Reading a barrier update

The checks of a recovering member, in the order in which they refuse.
-/

namespace CityG

namespace Client

open Except (ensure ofOption mapList)

structure ParsedNodeCiphertext where
  sourceNode : Nat
  targetNode : Nat
  targetPkHash : Bytes
  kemCt : Bytes
  wrappedPs : Bytes
  deriving DecidableEq

structure ParsedBarrierUpdate where
  barrierVersion : Nat
  prevBarrierVersion : Nat
  treeSize : Nat
  revocationRootsHash : Bytes32
  kemTreeHashBefore : Bytes32
  kemTreeHashAfter : Bytes32
  updaterSlotIndex : Nat
  updaterSlotGeneration : Nat
  pathNodes : List Nat
  nodeCiphertexts : List ParsedNodeCiphertext
  newPublicKeys : OrdMap Nat Bytes
  deriving DecidableEq

def toArray32 (label : String) (bytes : Bytes) : Except ClientError Bytes32 :=
  ofOption ⟨label ++ " must be 32 bytes"⟩ (toBytes32 bytes)

def checkPathNodes (maxIndex : Nat) : List Nat → List Nat → Except ClientError Unit
  | _, [] => pure ()
  | seen, node :: rest => do
    ensure (node ≤ maxIndex) ⟨"barrier path node out of range"⟩
    ensure (node ∉ seen) ⟨"barrier path_nodes contains duplicate nodes"⟩
    checkPathNodes maxIndex (node :: seen) rest

def checkPath (pathNodes : List Nat) (maxIndex expectedLeaf : Nat) : Except ClientError Unit := do
  ensure (pathNodes ≠ []) ⟨"barrier path_nodes must be non-empty"⟩
  ensure (pathNodes.head? = some expectedLeaf)
    ⟨"barrier path_nodes must start at updater leaf node"⟩
  ensure (pathNodes.getLast? = some 0) ⟨"barrier path_nodes must end at root node"⟩
  checkPathNodes maxIndex [] pathNodes
  ensure (pathNodes.IsChain fun child parent => child ≠ 0 ∧ (child - 1) / 2 = parent)
    ⟨"barrier path_nodes parent chain is invalid"⟩

def checkNewPublicKeys (maxIndex leafBase : Nat) :
    Option Nat → OrdMap Nat Bytes → List NewPublicKeyWire → Except ClientError (OrdMap Nat Bytes)
  | _, parsed, [] => pure parsed
  | prev, parsed, key :: rest => do
    ensure (key.node ≤ maxIndex) ⟨"barrier new_public_keys node out of range"⟩
    ensure (key.node < leafBase) ⟨"barrier new_public_keys may reference only internal nodes"⟩
    ensure (key.ek.length = PUBLIC_KEY_BYTES)
      ⟨"barrier new_public_keys ek must be ML-KEM-768 length"⟩
    ensure (∀ node ∈ prev, node < key.node)
      ⟨"barrier new_public_keys must be sorted by node index"⟩
    ensure (key.node ∉ parsed) ⟨"barrier new_public_keys contains duplicate node index"⟩
    checkNewPublicKeys maxIndex leafBase (some key.node) (parsed.insert key.node key.ek) rest

def checkNodeCiphertexts (maxIndex : Nat) : Option (Nat × Nat) → List NodeCiphertextWire →
    Except ClientError (List ParsedNodeCiphertext)
  | _, [] => pure []
  | prev, ct :: rest => do
    ensure (ct.source ≤ maxIndex ∧ ct.target ≤ maxIndex)
      ⟨"barrier node_ciphertext index out of range"⟩
    ensure (ct.targetPkHash.length = 16) ⟨"barrier target_pk_hash must be 16 bytes"⟩
    ensure (ct.kemCt.length = CIPHERTEXT_BYTES) ⟨"barrier kem_ct length mismatch"⟩
    ensure (ct.wrappedPs.length = 48) ⟨"barrier wrapped_ps must be 48 bytes"⟩
    ensure (∀ pair ∈ prev, pairLT pair (ct.source, ct.target))
      ⟨"barrier node_ciphertexts must be sorted and duplicate-free"⟩
    let parsed ← checkNodeCiphertexts maxIndex (some (ct.source, ct.target)) rest
    pure (⟨ct.source, ct.target, ct.targetPkHash, ct.kemCt, ct.wrappedPs⟩ :: parsed)

def checkCoverPayload (payload : KemTreeCoverPayloadWire) (expectedNMax : Nat) :
    Except ClientError (OrdMap Nat Bytes × List ParsedNodeCiphertext) := do
  ensure (payload.updaterSlotIndex < expectedNMax) ⟨"barrier updater_slot_index out of range"⟩
  let maxIndex := 2 * expectedNMax - 2
  let leafBase := expectedNMax - 1
  checkPath payload.pathNodes maxIndex (leafBase + payload.updaterSlotIndex)
  let expectedPublicNodes := OrdSet.ofList payload.pathNodes.tail
  ensure (payload.newPublicKeys.length = expectedPublicNodes.size)
    ⟨"barrier new_public_keys length does not match ExpectedNodeSet"⟩
  let newPublicKeys ← checkNewPublicKeys maxIndex leafBase none .empty payload.newPublicKeys
  ensure (newPublicKeys.keys = expectedPublicNodes.keys)
    ⟨"barrier new_public_keys must match ExpectedNodeSet exactly"⟩
  let nodeCiphertexts ← checkNodeCiphertexts maxIndex none payload.nodeCiphertexts
  pure (newPublicKeys, nodeCiphertexts)

def parseBarrierUpdateForRecover (dec : WireDecoder) (rawUpdate : Bytes)
    (expectedNMax maxBarrierUpdateBytes : Nat) : Except ClientError ParsedBarrierUpdate := do
  ensure (rawUpdate.length ≤ maxBarrierUpdateBytes)
    ⟨"barrier_update exceeds max_barrier_update_bytes: " ++ toString rawUpdate.length ++ " > " ++
      toString maxBarrierUpdateBytes⟩
  let expectedNMax ← validateBarrierNMax expectedNMax
  let wire ← ofOption ⟨"failed to parse barrier_update"⟩ (dec.barrierUpdate rawUpdate)
  ensure (wire.mode = "barrier-v1") ⟨"unsupported barrier update mode: " ++ wire.mode⟩
  ensure (wire.treeSize = expectedNMax) ⟨"barrier tree_size mismatch: expected " ++
    toString expectedNMax ++ ", got " ++ toString wire.treeSize⟩
  let payload ← ofOption ⟨"failed to parse barrier cover payload"⟩
    (dec.coverPayload wire.coverPayload)
  let (newPublicKeys, nodeCiphertexts) ← checkCoverPayload payload expectedNMax
  let revocationRootsHash ← toArray32 "revocation_roots_hash" wire.revocationRootsHash
  let kemTreeHashBefore ← toArray32 "kem_tree_hash_before" wire.kemTreeHashBefore
  let kemTreeHashAfter ← toArray32 "kem_tree_hash_after" wire.kemTreeHashAfter
  pure {
    barrierVersion := wire.barrierVersion
    prevBarrierVersion := wire.prevBarrierVersion
    treeSize := wire.treeSize
    revocationRootsHash := revocationRootsHash
    kemTreeHashBefore := kemTreeHashBefore
    kemTreeHashAfter := kemTreeHashAfter
    updaterSlotIndex := payload.updaterSlotIndex
    updaterSlotGeneration := payload.updaterSlotGeneration
    pathNodes := payload.pathNodes
    nodeCiphertexts := nodeCiphertexts
    newPublicKeys := newPublicKeys }

theorem checkPathNodes_ok {maxIndex : Nat} {seen path : List Nat}
    (hrange : ∀ node ∈ path, node ≤ maxIndex) (hnodup : path.Nodup)
    (hseen : ∀ node ∈ path, node ∉ seen) : checkPathNodes maxIndex seen path = .ok () := by
  induction path generalizing seen with
  | nil => rfl
  | cons node rest ih =>
    obtain ⟨hnode, hrest⟩ := List.nodup_cons.mp hnodup
    have hfresh : ∀ other ∈ rest, other ∉ node :: seen := by
      intro other hother hmem
      rcases List.mem_cons.mp hmem with rfl | hmem
      · exact hnode hother
      · exact hseen other (List.mem_cons_of_mem _ hother) hmem
    rw [checkPathNodes, ensure, if_pos (hrange node List.mem_cons_self), Except.ok_bind, ensure,
      if_pos (hseen node List.mem_cons_self), Except.ok_bind]
    exact ih (fun other hother => hrange other (List.mem_cons_of_mem _ hother)) hrest hfresh

theorem checkPath_directPath {nMax slot : Nat} (hslot : slot < nMax) :
    checkPath (directPathNodes (leafNode nMax slot)) (2 * nMax - 2) (nMax - 1 + slot) = .ok () := by
  obtain ⟨rest, hrest⟩ := HeapTree.path_eq_cons (leafNode nMax slot)
  have hrange : ∀ node ∈ directPathNodes (leafNode nMax slot), node ≤ 2 * nMax - 2 := by
    intro node hnode
    have hle := (HeapTree.mem_path.mp hnode).le
    simp only [leafNode] at hle
    omega
  have hnodes := checkPathNodes_ok hrange (HeapTree.path_nodup _) fun _ _ => List.not_mem_nil
  have hlast := HeapTree.getLast?_path (leafNode nMax slot)
  have hchain := HeapTree.isChain_path (leafNode nMax slot)
  simp only [checkPath, Except.bind_eq_ok, Except.ensure_eq_ok]
  refine ⟨(), ?_, (), ?_, (), hlast, (), hnodes, hchain⟩
  · rw [directPathNodes, hrest]
    exact List.cons_ne_nil _ _
  · rw [directPathNodes, hrest]
    rfl

theorem checkNewPublicKeys_ok {maxIndex leafBase : Nat} {keys : List NewPublicKeyWire}
    (hkeys : ∀ key ∈ keys, key.node ≤ maxIndex ∧ key.node < leafBase ∧
      key.ek.length = PUBLIC_KEY_BYTES)
    (hsorted : keys.Pairwise fun a b => a.node < b.node) {prev : Option Nat}
    {parsed : OrdMap Nat Bytes} (hprev : ∀ node ∈ prev, ∀ key ∈ keys, node < key.node)
    (hparsed : ∀ key ∈ keys, key.node ∉ parsed) :
    checkNewPublicKeys maxIndex leafBase prev parsed keys =
      .ok (keys.foldl (fun parsed key => parsed.insert key.node key.ek) parsed) := by
  induction keys generalizing prev parsed with
  | nil => rfl
  | cons key rest ih =>
    obtain ⟨hhead, hrest⟩ := List.pairwise_cons.mp hsorted
    obtain ⟨hrange, hinner, hlength⟩ := hkeys key List.mem_cons_self
    have hfresh : ∀ other ∈ rest, other.node ∉ parsed.insert key.node key.ek := by
      intro other hother hmem
      rcases OrdMap.mem_insert.mp hmem with heq | hmem
      · exact absurd (hhead other hother) (by omega)
      · exact hparsed other (List.mem_cons_of_mem _ hother) hmem
    have hnext : ∀ node ∈ some key.node, ∀ other ∈ rest, node < other.node := by
      rintro node ⟨⟩
      exact hhead
    rw [checkNewPublicKeys, ensure, if_pos hrange, Except.ok_bind, ensure, if_pos hinner,
      Except.ok_bind, ensure, if_pos hlength, Except.ok_bind, ensure,
      if_pos fun node hnode => hprev node hnode key List.mem_cons_self, Except.ok_bind, ensure,
      if_pos (hparsed key List.mem_cons_self), Except.ok_bind]
    exact ih (fun other hother => hkeys other (List.mem_cons_of_mem _ hother)) hrest hnext hfresh

structure WireSized (maxIndex : Nat) (ct : NodeCiphertextWire) : Prop where
  source : ct.source ≤ maxIndex
  target : ct.target ≤ maxIndex
  targetPkHash : ct.targetPkHash.length = 16
  kemCt : ct.kemCt.length = CIPHERTEXT_BYTES
  wrappedPs : ct.wrappedPs.length = 48

def ParsedNodeCiphertext.ofWire (ct : NodeCiphertextWire) : ParsedNodeCiphertext :=
  ⟨ct.source, ct.target, ct.targetPkHash, ct.kemCt, ct.wrappedPs⟩

theorem checkNodeCiphertexts_ok {maxIndex : Nat} {cts : List NodeCiphertextWire}
    (hcts : ∀ ct ∈ cts, WireSized maxIndex ct)
    (hsorted : cts.Pairwise fun a b => pairLT (a.source, a.target) (b.source, b.target))
    {prev : Option (Nat × Nat)}
    (hprev : ∀ pair ∈ prev, ∀ ct ∈ cts, pairLT pair (ct.source, ct.target)) :
    checkNodeCiphertexts maxIndex prev cts = .ok (cts.map .ofWire) := by
  induction cts generalizing prev with
  | nil => rfl
  | cons ct rest ih =>
    obtain ⟨hhead, hrest⟩ := List.pairwise_cons.mp hsorted
    have hct := hcts ct List.mem_cons_self
    have hnext : ∀ pair ∈ some (ct.source, ct.target), ∀ other ∈ rest,
        pairLT pair (other.source, other.target) := by
      rintro pair ⟨⟩
      exact hhead
    rw [checkNodeCiphertexts, ensure, if_pos ⟨hct.source, hct.target⟩, Except.ok_bind, ensure,
      if_pos hct.targetPkHash, Except.ok_bind, ensure, if_pos hct.kemCt, Except.ok_bind, ensure,
      if_pos hct.wrappedPs, Except.ok_bind, ensure,
      if_pos fun pair hpair => hprev pair hpair ct List.mem_cons_self, Except.ok_bind,
      ih (fun other hother => hcts other (List.mem_cons_of_mem _ hother)) hrest hnext]
    rfl

end Client

end CityG
