import CityG.Accept.SrxParse
import CityG.SrxSound

/-!
# Writing an SRX payload

The writer sorts the pool of membership witnesses by root and leaf and renumbers
the references of the anchors. It looks at the lengths of an anchor's query and
root; the reader also at those of the bounds, the interval hash and the paths.
-/

namespace CityG.Joiner

open Except (ensure ofOption mapList)

structure SrxNonMembershipAnchor where
  witness : RawNonMembershipWitness
  leftRef : Option Nat
  rightRef : Option Nat
  deriving DecidableEq, Repr

structure SrxInputs where
  joinLeafIds : List Bytes32
  joinNonmemParent : List SrxNonMembershipAnchor
  joinNonmemRevokedSince : List SrxNonMembershipAnchor
  sinceLeafIds : List Bytes32
  sinceMemRevoked : List RawMembershipWitness
  anchorMemPool : List RawMembershipWitness
  joinFrontier : Option (List Bytes32)
  sinceFrontier : Option (List Bytes32)

def serializePathEntry (entry : RawPathEntry) : Value :=
  .map [(.ofNat 1, .bytes entry.sibling), (.ofNat 2, .ofNat entry.dir.val)]

def optionalBytesValue : Option Bytes → Value
  | some bytes => .bytes bytes
  | none => .null

def optionalIntegerValue : Option Nat → Value
  | some n => .ofNat n
  | none => .null

def pathValue (path : List RawPathEntry) : Value := .array (path.map serializePathEntry)

def nonmemAnchorValue (anchor : SrxNonMembershipAnchor) : Value :=
  .map [(.ofNat 1, .bytes anchor.witness.query),
    (.ofNat 2, .bytes anchor.witness.root),
    (.ofNat 3, optionalBytesValue anchor.witness.left),
    (.ofNat 4, optionalBytesValue anchor.witness.right),
    (.ofNat 5, pathValue anchor.witness.path),
    (.ofNat 6, optionalIntegerValue anchor.leftRef),
    (.ofNat 7, optionalIntegerValue anchor.rightRef),
    (.ofNat 8, pathValue anchor.witness.leftBelow),
    (.ofNat 9, pathValue anchor.witness.rightBelow),
    (.ofNat 10, pathValue anchor.witness.above),
    (.ofNat 11, optionalBytesValue anchor.witness.nmint),
    (.ofNat 12, optionalIntegerValue (anchor.witness.lcaLeftHeight.map (·.val))),
    (.ofNat 13, optionalIntegerValue (anchor.witness.lcaRightHeight.map (·.val)))]

def serializeNonmemAnchor (anchor : SrxNonMembershipAnchor) : Except MsphfError Value := do
  ensure (anchor.witness.query.length = 32 ∧ anchor.witness.root.length = 32)
    (.invalidInput "srx anchor malformed")
  pure (nonmemAnchorValue anchor)

def validateAnchorRef (side : String) (bound : Option Bytes) (ref : Option Nat) :
    Except MsphfError Unit :=
  match bound, ref with
  | some _, none => .error (.invalidInput ("srx anchor missing " ++ side ++ " ref"))
  | none, some _ => .error (.invalidInput ("srx anchor unexpected " ++ side ++ " ref"))
  | _, _ => pure ()

def validateAnchorIndices (anchor : SrxNonMembershipAnchor) (poolLen : Nat) :
    Except MsphfError Unit := do
  validateAnchorRef "left" anchor.witness.left anchor.leftRef
  validateAnchorRef "right" anchor.witness.right anchor.rightRef
  ensure (∀ idx ∈ anchor.leftRef, idx < poolLen) (.invalidInput "srx anchor left ref out of range")
  ensure (∀ idx ∈ anchor.rightRef, idx < poolLen) (.invalidInput "srx anchor right ref out of range")

abbrev AnchorKey := Bytes32 ×ₗ Bytes32

structure PoolEntry where
  key : AnchorKey
  witness : RawMembershipWitness
  /-- The index in the pool as given; a `u32`. -/
  oldIdx : Nat

def asU32 (n : Nat) : Nat := n % 2 ^ 32

def poolEntry (entry : RawMembershipWitness × Nat) : Except MsphfError PoolEntry := do
  let root ← ofOption (.invalidInput "anchor root length") (toBytes32 entry.1.root)
  let leaf ← ofOption (.invalidInput "anchor leaf length") (toBytes32 entry.1.leafId)
  pure ⟨toLex (root, leaf), entry.1, asU32 entry.2⟩

def PoolEntry.LE (a b : PoolEntry) : Prop := a.key ≤ b.key

instance : DecidableRel PoolEntry.LE := fun a b => inferInstanceAs (Decidable (a.key ≤ b.key))

def sortPool (pool : List RawMembershipWitness) : Except MsphfError (List PoolEntry) := do
  let entries ← mapList poolEntry pool.zipIdx
  let sorted := entries.insertionSort PoolEntry.LE
  ensure ((sorted.map (·.key)).IsChain (· < ·)) (.invalidInput "srx anchor pool unsorted")
  pure sorted

def indexMap (sorted : List PoolEntry) : OrdMap Nat Nat :=
  OrdMap.ofList (sorted.zipIdx.map fun e => (e.1.oldIdx, asU32 e.2))

def remapRef (index : OrdMap Nat Nat) (missing : String) :
    Option Nat → Except MsphfError (Option Nat)
  | none => pure none
  | some idx => some <$> ofOption (.invalidInput missing) (index.get? idx)

def remapAnchor (index : OrdMap Nat Nat) (anchor : SrxNonMembershipAnchor) :
    Except MsphfError Value := do
  let leftRef ← remapRef index "srx anchor left ref invalid" anchor.leftRef
  let rightRef ← remapRef index "srx anchor right ref invalid" anchor.rightRef
  serializeNonmemAnchor ⟨anchor.witness, leftRef, rightRef⟩

def leafArrayValue (leaves : List Bytes32) : Value := .array (leaves.map fun leaf => .bytes leaf.val)

def frontierValue : Option (List Bytes32) → Value
  | some frontier => leafArrayValue frontier
  | none => .null

def metaValue (inputs : SrxInputs) : Value :=
  Value.ofFields
    [("join_count", .ofNat inputs.joinLeafIds.length),
      ("since_count", .ofNat inputs.sinceLeafIds.length),
      ("join_frontier_size", .ofNat (inputs.joinFrontier.getD []).length),
      ("since_frontier_size", .ofNat (inputs.sinceFrontier.getD []).length)]

def payloadArray (codec : MemberCodec) (inputs : SrxInputs)
    (joinNonmemParent joinNonmemRevokedSince : List Value) (sorted : List PoolEntry) : Value :=
  .array [.array joinNonmemParent, .array joinNonmemRevokedSince,
    .array (inputs.sinceMemRevoked.map codec.toValue), metaValue inputs,
    leafArrayValue inputs.joinLeafIds, frontierValue inputs.joinFrontier,
    leafArrayValue inputs.sinceLeafIds, frontierValue inputs.sinceFrontier,
    .array (sorted.map fun entry => codec.toValue entry.witness)]

def srxPayloadValue (codec : MemberCodec) (inputs : SrxInputs) : Except MsphfError Value := do
  let poolLen := inputs.anchorMemPool.length
  let _ ← mapList (fun anchor => validateAnchorIndices anchor poolLen)
    (inputs.joinNonmemParent ++ inputs.joinNonmemRevokedSince)
  let sorted ← sortPool inputs.anchorMemPool
  let index := indexMap sorted
  let joinNonmemParent ← mapList (remapAnchor index) inputs.joinNonmemParent
  let joinNonmemRevokedSince ← mapList (remapAnchor index) inputs.joinNonmemRevokedSince
  pure (payloadArray codec inputs joinNonmemParent joinNonmemRevokedSince sorted)

abbrev AttachProof := HeaderMap → Bytes32 → Bytes → Except MsphfError HeaderMap

section Populate
variable (codec : AnchorCodec) (members : MemberCodec) (H : MerkleHash) (attach : AttachProof)

def rootArray (label : String) (bytes : Bytes) : Except MsphfError Bytes32 :=
  ofOption (.invalidInput label) (toBytes32 bytes)

def requireFrontier (leaves : List Bytes32) : Option (List Bytes32) → Except MsphfError Unit
  | some _ => pure ()
  | none => ensure (leaves.IsChain (· < ·)) (.invalidInput "set must be strictly increasing")

def populateMergeSrxComplete (parts : AnchorInstanceParts) (srx : Option SrxInputs)
    (header : HeaderMap) : Except MsphfError HeaderMap := do
  let inputs ← ofOption (.invalidInput "srx inputs required for merge anchor") srx
  let _ ← rootArray "parent_root" parts.parentRoot
  let revokedSinceRoot ← rootArray "revoked_since_root" parts.revokedSincePrevRoot
  let _ ← rootArray "revoked_root" parts.revokedRoot
  let joinRootExpected ← rootArray "join_delta_root" parts.joinDeltaRoot
  let joinRoot ← canonicalSetRoot H inputs.joinLeafIds
  ensure (joinRoot = joinRootExpected) (.invalidInput "srx join root mismatch")
  let sinceRoot ← canonicalSetRoot H inputs.sinceLeafIds
  ensure (sinceRoot = revokedSinceRoot) (.invalidInput "srx revoked-since root mismatch")
  requireFrontier inputs.joinLeafIds inputs.joinFrontier
  requireFrontier inputs.sinceLeafIds inputs.sinceFrontier
  let value ← srxPayloadValue members inputs
  let payload := codec.toCbor value
  let commit := codec.hL "srx/commit" (.bytes payload)
  let header ← attach (header.insert HDR_SRX_COMMIT (.bytes commit.val)) commit payload
  pure (header.insert HDR_SRX_PAYLOAD (.bytes payload))

end Populate

section Fields
open Accept

theorem parsePathEntries_pathValue {path : List RawPathEntry} (h : ∀ e ∈ path, StepReadable e) :
    parsePathEntries (pathValue path) = .ok path := by
  rw [pathValue, parsePathEntries, Except.mapList_eq_ok, List.forall₂_map_left_iff,
    List.forall₂_same]
  exact fun e he => parsePathEntry_map (h e he)

theorem readBound_value (bound : Option Bytes32) :
    readBound (optionalBytesValue (bound.map (·.val))) = .ok bound := by
  cases bound with
  | none => rfl
  | some b => rw [Option.map_some, optionalBytesValue, readBound, valueBytes32_val]; rfl

theorem readRef_value {ref : Option Nat} (h : ∀ idx ∈ ref, idx < 2 ^ 64) :
    readRef (optionalIntegerValue ref) = .ok ref := by
  cases ref with
  | none => rfl
  | some idx =>
    have hread : integerToU64 (.ofNat idx) = .ok idx := integerToU64_ofNat (h idx rfl)
    change some <$> integerToU64 (.ofNat idx) = _
    rw [hread]
    rfl

theorem readNmint_value {nmint : Option Bytes} (h : ∀ b ∈ nmint, b.length = 32) :
    readNmint (optionalBytesValue nmint) = .ok nmint := by
  cases nmint with
  | none => rfl
  | some b =>
    rw [optionalBytesValue, readNmint, ensure, if_pos (h b rfl)]
    rfl

theorem readHeight_value (height : Option Byte) :
    readHeight (optionalIntegerValue (height.map (·.val))) = .ok height := by
  cases height with
  | none => rfl
  | some b =>
    have hread : integerToU64 (.ofNat b.val) = .ok b.val :=
      integerToU64_ofNat (by have := b.isLt; omega)
    have hstep : readHeight (.ofNat b.val) = integerToU64 (.ofNat b.val) >>= fun value =>
        if h : value < 256 then pure (some (⟨value, h⟩ : Byte)) else srxInvalid := rfl
    rw [Option.map_some, optionalIntegerValue, hstep, hread, Except.ok_bind, dif_pos b.isLt]
    rfl

structure WitnessReadable (witness : RawNonMembershipWitness) : Prop where
  query : witness.query.length = 32
  root : witness.root.length = 32
  left : ∀ b ∈ witness.left, b.length = 32
  right : ∀ b ∈ witness.right, b.length = 32
  nmint : ∀ b ∈ witness.nmint, b.length = 32
  path : ∀ e ∈ witness.path, StepReadable e
  leftBelow : ∀ e ∈ witness.leftBelow, StepReadable e
  rightBelow : ∀ e ∈ witness.rightBelow, StepReadable e
  above : ∀ e ∈ witness.above, StepReadable e

theorem exists_bound {raw : Option Bytes} (h : ∀ b ∈ raw, b.length = 32) :
    ∃ bound : Option Bytes32, raw = bound.map (·.val) := by
  cases raw with
  | none => exact ⟨none, rfl⟩
  | some b => exact ⟨some ⟨b, h b rfl⟩, rfl⟩

theorem parseNonmemAnchor_value {anchor : SrxNonMembershipAnchor}
    (h : WitnessReadable anchor.witness) (hleft : ∀ idx ∈ anchor.leftRef, idx < 2 ^ 64)
    (hright : ∀ idx ∈ anchor.rightRef, idx < 2 ^ 64) :
    parseNonmemAnchor (nonmemAnchorValue anchor) =
      .ok ⟨anchor.witness, anchor.leftRef, anchor.rightRef⟩ := by
  obtain ⟨⟨query, root, left, right, path, leftBelow, rightBelow, above, nmint, lcaLeft, lcaRight⟩,
    leftRef, rightRef⟩ := anchor
  obtain ⟨hquery, hroot, hl, hr, hnmint, hpath, hlb, hrb, hab⟩ := h
  obtain ⟨left, rfl⟩ := exists_bound hl
  obtain ⟨right, rfl⟩ := exists_bound hr
  have hkey : ∀ {n : Nat}, n < 14 → integerToU64 (.ofNat n) = .ok n :=
    fun hn => integerToU64_ofNat (by omega)
  have hq := valueBytes32_val freezeSrxInvalid ⟨query, hquery⟩
  have hrt := valueBytes32_val freezeSrxInvalid ⟨root, hroot⟩
  simp only [nonmemAnchorValue, parseNonmemAnchor, List.foldlM_cons, List.foldlM_nil,
    readNonmemField, hkey (show 1 < 14 by decide), hkey (show 2 < 14 by decide),
    hkey (show 3 < 14 by decide), hkey (show 4 < 14 by decide), hkey (show 5 < 14 by decide),
    hkey (show 6 < 14 by decide), hkey (show 7 < 14 by decide), hkey (show 8 < 14 by decide),
    hkey (show 9 < 14 by decide), hkey (show 10 < 14 by decide), hkey (show 11 < 14 by decide),
    hkey (show 12 < 14 by decide), hkey (show 13 < 14 by decide), Except.ok_bind, hq, hrt,
    readBound_value, readRef_value hleft, readRef_value hright, readNmint_value hnmint,
    readHeight_value, parsePathEntries_pathValue hpath, parsePathEntries_pathValue hlb,
    parsePathEntries_pathValue hrb, parsePathEntries_pathValue hab]
  rfl

end Fields

section Pool
variable {pool : List RawMembershipWitness}

def rawKey (witness : RawMembershipWitness) : Bytes ×ₗ Bytes := toLex (witness.root, witness.leafId)

structure PoolOk (pool : List RawMembershipWitness) : Prop where
  sized : ∀ w ∈ pool, w.root.length = 32 ∧ w.leafId.length = 32
  distinct : (pool.map rawKey).Nodup
  short : pool.length ≤ 2 ^ 32

def PoolEntry.Of (e : PoolEntry) (w : RawMembershipWitness) (idx : Nat) : Prop :=
  e.witness = w ∧ e.oldIdx = idx ∧ (ofLex e.key).1.val = w.root ∧ (ofLex e.key).2.val = w.leafId

theorem poolEntry_of {w : RawMembershipWitness} {idx : Nat} (hroot : w.root.length = 32)
    (hleaf : w.leafId.length = 32) (hidx : idx < 2 ^ 32) :
    ∃ e, poolEntry (w, idx) = .ok e ∧ e.Of w idx := by
  have hr : toBytes32 w.root = some ⟨w.root, hroot⟩ := dif_pos hroot
  have hl : toBytes32 w.leafId = some ⟨w.leafId, hleaf⟩ := dif_pos hleaf
  refine ⟨⟨toLex (⟨w.root, hroot⟩, ⟨w.leafId, hleaf⟩), w, asU32 idx⟩, ?_, rfl,
    Nat.mod_eq_of_lt hidx, rfl, rfl⟩
  simp only [poolEntry, hr, hl, ofOption, Except.ok_bind]
  rfl

theorem poolEntries_of (hpool : PoolOk pool) :
    ∃ entries, mapList poolEntry pool.zipIdx = .ok entries ∧
      List.Forall₂ (fun w e => PoolEntry.Of e w.1 w.2) pool.zipIdx entries := by
  refine Except.exists_mapList fun w hw => ?_
  obtain ⟨_, hlt, hget⟩ := List.mem_zipIdx hw
  have hmem : w.1 ∈ pool := hget ▸ List.getElem_mem _
  obtain ⟨hroot, hleaf⟩ := hpool.sized w.1 hmem
  have hshort := hpool.short
  exact poolEntry_of hroot hleaf (by omega)

instance : Std.Total PoolEntry.LE := ⟨fun a b => le_total a.key b.key⟩

instance : IsTrans PoolEntry PoolEntry.LE := ⟨fun _ _ _ hab hbc => le_trans hab hbc⟩

def keyBytes (key : AnchorKey) : Bytes ×ₗ Bytes := toLex ((ofLex key).1.val, (ofLex key).2.val)

theorem keyBytes_lt {a b : AnchorKey} (h : a < b) : keyBytes a < keyBytes b := by
  rw [Prod.Lex.lt_iff] at h ⊢
  rcases h with hlt | ⟨heq, hlt⟩
  · exact .inl hlt
  · exact .inr ⟨congrArg Subtype.val heq, hlt⟩

theorem PoolEntry.Of.keyBytes_eq {e : PoolEntry} {w : RawMembershipWitness} {idx : Nat}
    (h : e.Of w idx) : keyBytes e.key = rawKey w := by
  obtain ⟨_, _, hroot, hleaf⟩ := h
  rw [keyBytes, rawKey, hroot, hleaf]

structure SortedPool (pool : List RawMembershipWitness) (sorted : List PoolEntry) : Prop where
  written : sortPool pool = .ok sorted
  keys : (sorted.map (·.key)).Pairwise (· < ·)
  perm : (sorted.map (·.witness)).Perm pool
  distinct : (sorted.map (·.oldIdx)).Nodup
  length : sorted.length = pool.length
  origin : ∀ e ∈ sorted, ∃ w ∈ pool, keyBytes e.key = rawKey w ∧ e.witness = w
  entry : ∀ idx w, pool[idx]? = some w → ∃ e ∈ sorted, e.witness = w ∧ e.oldIdx = idx

variable {α β : Type*} {R : α → β → Prop} {as : List α} {bs : List β} {sorted : List PoolEntry}

theorem forall₂_map_eq {γ : Type*} {f : α → γ} {g : β → γ} (hfg : ∀ a b, R a b → g b = f a)
    (h : List.Forall₂ R as bs) :
    bs.map g = as.map f := by
  induction h with
  | nil => rfl
  | cons hab _ ih => rw [List.map_cons, List.map_cons, hfg _ _ hab, ih]

theorem exists_sortedPool (hpool : PoolOk pool) : ∃ sorted, SortedPool pool sorted := by
  obtain ⟨entries, hentries, hof⟩ := poolEntries_of hpool
  have hperm := List.perm_insertionSort PoolEntry.LE entries
  have hwitness : entries.map (·.witness) = pool := by
    rw [forall₂_map_eq (fun _ _ h => h.1) hof]
    exact List.zipIdx_map_fst 0 pool
  have hold : entries.map (·.oldIdx) = List.range' 0 pool.length := by
    rw [forall₂_map_eq (fun _ _ h => h.2.1) hof]
    exact List.zipIdx_map_snd 0 pool
  have hraw : entries.map (fun e => keyBytes e.key) = pool.map rawKey := by
    have hfirst : pool.zipIdx.map (fun w => rawKey w.1) = pool.map rawKey := by
      have hfst := congrArg (List.map rawKey) (List.zipIdx_map_fst 0 pool)
      rwa [List.map_map] at hfst
    rw [← hfirst]
    exact forall₂_map_eq (fun _ _ h => h.keyBytes_eq) hof
  have hnodup : (entries.map (·.key)).Nodup := by
    refine List.Nodup.of_map keyBytes ?_
    rw [List.map_map]
    exact hraw ▸ hpool.distinct
  have hle : (entries.insertionSort PoolEntry.LE).Pairwise PoolEntry.LE :=
    List.pairwise_insertionSort PoolEntry.LE entries
  have hkeys : ((entries.insertionSort PoolEntry.LE).map (·.key)).Pairwise (· < ·) := by
    have hdistinct : ((entries.insertionSort PoolEntry.LE).map (·.key)).Nodup :=
      (hperm.map _).nodup_iff.mpr hnodup
    have hsorted : ((entries.insertionSort PoolEntry.LE).map (·.key)).Pairwise (· ≤ ·) :=
      List.pairwise_map.mpr hle
    exact (hsorted.and hdistinct).imp fun h => lt_of_le_of_ne h.1 h.2
  refine ⟨entries.insertionSort PoolEntry.LE, ?_, hkeys, ?_, ?_, ?_, ?_, ?_⟩
  · simp only [sortPool, hentries, Except.ok_bind, Except.bind_eq_ok, Except.ensure_eq_ok]
    exact ⟨(), hkeys.isChain, rfl⟩
  · exact hwitness ▸ hperm.map _
  · refine (hperm.map _).nodup_iff.mpr ?_
    rw [hold]
    exact List.nodup_range'
  · rw [hperm.length_eq, ← List.length_map (f := (·.witness)), hwitness]
  · intro e he
    obtain ⟨w, hw, hofw⟩ := exists_of_mem_right hof (hperm.mem_iff.mp he)
    obtain ⟨_, _, hget⟩ := List.mem_zipIdx hw
    exact ⟨w.1, hget ▸ List.getElem_mem _, hofw.keyBytes_eq, hofw.1⟩
  · intro idx w hw
    have hmem : (w, idx) ∈ pool.zipIdx := List.mem_zipIdx_iff_getElem?.mpr hw
    obtain ⟨e, he, hofe⟩ := exists_of_mem_left hof hmem
    exact ⟨e, hperm.mem_iff.mpr he, hofe.1, hofe.2.1⟩

theorem indexMap_get? (hdistinct : (sorted.map (·.oldIdx)).Nodup) (hshort : sorted.length ≤ 2 ^ 32)
    {j : Nat} {e : PoolEntry} (he : sorted[j]? = some e) :
    (indexMap sorted).get? e.oldIdx = some j := by
  have hkeys : sorted.zipIdx.map (fun e => e.1.oldIdx) = sorted.map (·.oldIdx) := by
    have hfst := congrArg (List.map PoolEntry.oldIdx) (List.zipIdx_map_fst 0 sorted)
    rwa [List.map_map] at hfst
  have hj : asU32 j = j := by
    have hlt := (List.getElem?_eq_some_iff.mp he).1
    exact Nat.mod_eq_of_lt (by omega)
  have hmem : (e.oldIdx, asU32 j) ∈ sorted.zipIdx.map fun e => (e.1.oldIdx, asU32 e.2) :=
    List.mem_map_of_mem (f := fun e => (e.1.oldIdx, asU32 e.2))
      (List.mem_zipIdx_iff_getElem?.mpr he : (e, j) ∈ sorted.zipIdx)
  rw [hj] at hmem
  refine OrdMap.get?_ofList ?_ hmem
  rw [List.map_map]
  exact hkeys ▸ hdistinct

def SameRef (pool pool' : List RawMembershipWitness) : Option Nat → Option Nat → Prop
  | none, none => True
  | some i, some j => ∃ w, pool[i]? = some w ∧ pool'[j]? = some w
  | _, _ => False

theorem remapRef_same (hpool : PoolOk pool) (hs : SortedPool pool sorted) (missing : String)
    {ref : Option Nat} (href : ∀ idx ∈ ref, idx < pool.length) :
    ∃ ref', remapRef (indexMap sorted) missing ref = .ok ref' ∧
      SameRef pool (sorted.map (·.witness)) ref ref' ∧ ∀ j ∈ ref', j < 2 ^ 64 := by
  cases ref with
  | none => exact ⟨none, rfl, trivial, nofun⟩
  | some idx =>
    have hget : pool[idx]? = some _ := List.getElem?_eq_getElem (href idx rfl)
    obtain ⟨e, he, hwitness, hidx⟩ := hs.entry idx _ hget
    obtain ⟨j, hj⟩ := List.getElem?_of_mem he
    have hshort : sorted.length ≤ 2 ^ 32 := hs.length ▸ hpool.short
    have hindex := indexMap_get? hs.distinct hshort hj
    rw [hidx] at hindex
    have hlt := (List.getElem?_eq_some_iff.mp hj).1
    refine ⟨some j, ?_, ⟨_, hget, ?_⟩, ?_⟩
    · rw [remapRef, hindex]
      rfl
    · rw [List.getElem?_map, hj, Option.map_some, hwitness]
    · rintro _ ⟨⟩
      omega

structure SameAnchor (pool pool' : List RawMembershipWitness) (written : SrxNonMembershipAnchor)
    (read : AnchoredNonMembership) : Prop where
  witness : read.witness = written.witness
  left : SameRef pool pool' written.leftRef read.leftRef
  right : SameRef pool pool' written.rightRef read.rightRef

theorem validateAnchorIndices_range {anchor : SrxNonMembershipAnchor} {poolLen : Nat} {u : Unit}
    (h : validateAnchorIndices anchor poolLen = .ok u) :
    (∀ idx ∈ anchor.leftRef, idx < poolLen) ∧ ∀ idx ∈ anchor.rightRef, idx < poolLen := by
  simp only [validateAnchorIndices, Except.bind_eq_ok, Except.ensure_eq_ok] at h
  obtain ⟨_, _, _, _, _, hleft, hright⟩ := h
  exact ⟨hleft, hright⟩

theorem remapAnchor_read (hpool : PoolOk pool) (hs : SortedPool pool sorted)
    {anchor : SrxNonMembershipAnchor} (hindices : validateAnchorIndices anchor pool.length = .ok ())
    (hread : WitnessReadable anchor.witness) :
    ∃ value read, remapAnchor (indexMap sorted) anchor = .ok value ∧
      Accept.parseNonmemAnchor value = .ok read ∧
      SameAnchor pool (sorted.map (·.witness)) anchor read := by
  obtain ⟨hleft, hright⟩ := validateAnchorIndices_range hindices
  obtain ⟨leftRef, hl, hsameL, hl64⟩ :=
    remapRef_same hpool hs "srx anchor left ref invalid" hleft
  obtain ⟨rightRef, hr, hsameR, hr64⟩ :=
    remapRef_same hpool hs "srx anchor right ref invalid" hright
  refine ⟨nonmemAnchorValue ⟨anchor.witness, leftRef, rightRef⟩,
    ⟨anchor.witness, leftRef, rightRef⟩, ?_, parseNonmemAnchor_value hread hl64 hr64, rfl, hsameL,
    hsameR⟩
  simp only [remapAnchor, hl, hr, Except.ok_bind, serializeNonmemAnchor, Except.bind_eq_ok,
    Except.ensure_eq_ok]
  exact ⟨(), ⟨hread.query, hread.root⟩, rfl⟩

theorem remapAnchors_read (hpool : PoolOk pool) (hs : SortedPool pool sorted)
    {anchors : List SrxNonMembershipAnchor}
    (hindices : ∀ anchor ∈ anchors, validateAnchorIndices anchor pool.length = .ok ())
    (hread : ∀ anchor ∈ anchors, WitnessReadable anchor.witness) :
    ∃ values reads, mapList (remapAnchor (indexMap sorted)) anchors = .ok values ∧
      Accept.parseNonmemAnchorList (.array values) = .ok reads ∧
      List.Forall₂ (SameAnchor pool (sorted.map (·.witness))) anchors reads := by
  induction anchors with
  | nil => exact ⟨[], [], rfl, rfl, .nil⟩
  | cons anchor rest ih =>
    obtain ⟨value, read, hvalue, hparse, hsame⟩ := remapAnchor_read hpool hs
      (hindices anchor List.mem_cons_self) (hread anchor List.mem_cons_self)
    obtain ⟨values, reads, hvalues, hparses, hsames⟩ := ih
      (fun a ha => hindices a (List.mem_cons_of_mem _ ha))
      (fun a ha => hread a (List.mem_cons_of_mem _ ha))
    refine ⟨value :: values, read :: reads, ?_, ?_, .cons hsame hsames⟩
    · rw [mapList, hvalue, Except.ok_bind, hvalues]
      rfl
    · rw [Accept.parseNonmemAnchorList, mapList, hparse, Except.ok_bind]
      rw [Accept.parseNonmemAnchorList] at hparses
      rw [hparses]
      rfl

theorem validateAnchorPoolFrom_ok {prev : Option (Bytes ×ₗ Bytes)}
    (hsized : ∀ w ∈ pool, w.root.length = 32 ∧ w.leafId.length = 32)
    (hshort : ∀ w ∈ pool, w.path.length ≤ 64)
    (hkeys : (prev.toList ++ pool.map rawKey).Pairwise (· < ·)) :
    validateAnchorPoolFrom prev pool = .ok () := by
  induction pool generalizing prev with
  | nil => rfl
  | cons w rest ih =>
    have hprev : ∀ key ∈ prev, key < rawKey w := by
      rintro key hkey
      obtain rfl := hkey
      exact (List.pairwise_cons.mp hkeys).1 _ List.mem_cons_self
    have hrest : ((some (rawKey w)).toList ++ rest.map rawKey).Pairwise (· < ·) :=
      hkeys.sublist (List.sublist_append_right _ _)
    obtain ⟨hroot, hleaf⟩ := hsized w List.mem_cons_self
    rw [validateAnchorPoolFrom, ensure, if_pos ⟨hleaf, hroot⟩, Except.ok_bind, ensure,
      if_pos (hshort w List.mem_cons_self), Except.ok_bind, ensure, if_pos (by exact hprev),
      Except.ok_bind]
    exact ih (fun w' hw' => hsized w' (List.mem_cons_of_mem _ hw'))
      (fun w' hw' => hshort w' (List.mem_cons_of_mem _ hw')) hrest

theorem SortedPool.rawKeys (hs : SortedPool pool sorted) :
    ((sorted.map (·.witness)).map rawKey).Pairwise (· < ·) := by
  have heq : (sorted.map (·.witness)).map rawKey = (sorted.map (·.key)).map keyBytes := by
    rw [List.map_map, List.map_map]
    refine List.map_congr_left fun e he => ?_
    obtain ⟨w, _, hkey, hwitness⟩ := hs.origin e he
    exact (hwitness ▸ hkey).symm
  rw [heq]
  exact List.pairwise_map.mpr (hs.keys.imp keyBytes_lt)

theorem parseMemList_values {members : MemberCodec} {ws : List RawMembershipWitness}
    (h : ∀ w ∈ ws, members.ofValue (members.toValue w) = some w) :
    Accept.parseMemList members (.array (ws.map members.toValue)) = .ok ws := by
  rw [Accept.parseMemList, Except.mapList_eq_ok, List.forall₂_map_left_iff, List.forall₂_same]
  exact fun w hw => Except.ofOption_eq_ok.mpr (h w hw)

theorem parseLeafArray_value (leaves : List Bytes32) :
    Accept.parseLeafArray (leafArrayValue leaves) = .ok leaves := by
  rw [leafArrayValue, Accept.parseLeafArray, Except.mapList_eq_ok, List.forall₂_map_left_iff,
    List.forall₂_same]
  exact fun leaf _ => Accept.valueBytes32_val freezeSrxInvalid leaf

theorem parseOptionalFrontier_value (frontier : Option (List Bytes32)) :
    Accept.parseOptionalFrontier (frontierValue frontier) = .ok frontier := by
  cases frontier with
  | none => rfl
  | some leaves =>
    have hread : Accept.parseOptionalFrontier (frontierValue (some leaves)) =
        some <$> Accept.parseLeafArray (leafArrayValue leaves) := rfl
    rw [hread, parseLeafArray_value]
    rfl

end Pool

structure ReadsBack (inputs : SrxInputs) (srx : SrxPayload) : Prop where
  joinLeafIds : srx.joinLeafIds = inputs.joinLeafIds
  sinceLeafIds : srx.sinceLeafIds = inputs.sinceLeafIds
  joinFrontier : srx.joinFrontier = inputs.joinFrontier
  sinceFrontier : srx.sinceFrontier = inputs.sinceFrontier
  sinceMemRevoked : srx.revokedSinceMemInRevoked = inputs.sinceMemRevoked
  poolPerm : srx.anchorMemPool.Perm inputs.anchorMemPool
  poolOrdered : (srx.anchorMemPool.map rawKey).Pairwise (· < ·)
  poolAccepted : (∀ w ∈ inputs.anchorMemPool, w.path.length ≤ 64) →
    validateAnchorPool srx.anchorMemPool = .ok ()
  joinNonmemParent : List.Forall₂ (SameAnchor inputs.anchorMemPool srx.anchorMemPool)
    inputs.joinNonmemParent srx.joinNonmemParent
  joinNonmemRevokedSince : List.Forall₂ (SameAnchor inputs.anchorMemPool srx.anchorMemPool)
    inputs.joinNonmemRevokedSince srx.joinNonmemRevokedSince

def SrxInputs.anchors (inputs : SrxInputs) : List SrxNonMembershipAnchor :=
  inputs.joinNonmemParent ++ inputs.joinNonmemRevokedSince

/-- The payload of inputs with readable witnesses is read back, with every reference
naming its witness in the sorted pool. -/
theorem srxPayloadValue_read {members : MemberCodec} {inputs : SrxInputs}
    (hpool : PoolOk inputs.anchorMemPool)
    (hindices : ∀ anchor ∈ inputs.anchors,
      validateAnchorIndices anchor inputs.anchorMemPool.length = .ok ())
    (hread : ∀ anchor ∈ inputs.anchors, WitnessReadable anchor.witness)
    (hmembers : ∀ w ∈ inputs.sinceMemRevoked ++ inputs.anchorMemPool,
      members.ofValue (members.toValue w) = some w) :
    ∃ value srx, srxPayloadValue members inputs = .ok value ∧
      Accept.parseSrxPayload members value = .ok srx ∧ ReadsBack inputs srx := by
  obtain ⟨sorted, hs⟩ := exists_sortedPool hpool
  obtain ⟨parents, readParents, hparents, hparseP, hsameP⟩ := remapAnchors_read hpool hs
    (fun a ha => hindices a (List.mem_append_left _ ha))
    (fun a ha => hread a (List.mem_append_left _ ha))
  obtain ⟨revokeds, readRevokeds, hrevokeds, hparseR, hsameR⟩ := remapAnchors_read hpool hs
    (fun a ha => hindices a (List.mem_append_right _ ha))
    (fun a ha => hread a (List.mem_append_right _ ha))
  have hall : mapList (fun anchor => validateAnchorIndices anchor inputs.anchorMemPool.length)
      inputs.anchors = .ok (inputs.anchors.map fun _ => ()) :=
    Except.mapList_eq_map hindices
  have hsubset := parseMemList_values fun w hw => hmembers w (List.mem_append_left _ hw)
  have hpoolRead : Accept.parseMemList members
      (.array (sorted.map fun entry => members.toValue entry.witness)) =
        .ok (sorted.map (·.witness)) := by
    have hread : Accept.parseMemList members
        (.array ((sorted.map (·.witness)).map members.toValue)) = .ok (sorted.map (·.witness)) :=
      parseMemList_values fun w hw =>
        hmembers w (List.mem_append_right _ (hs.perm.mem_iff.mp hw))
    rwa [List.map_map] at hread
  refine ⟨payloadArray members inputs parents revokeds sorted, ⟨readParents, readRevokeds, inputs.sinceMemRevoked, inputs.joinLeafIds,
    inputs.joinFrontier, inputs.sinceLeafIds, inputs.sinceFrontier, sorted.map (·.witness)⟩,
    ?_, ?_, rfl, rfl, rfl, rfl, rfl, hs.perm, hs.rawKeys, ?_, hsameP, hsameR⟩
  · rw [SrxInputs.anchors] at hall
    simp only [srxPayloadValue, hall, hs.written, hparents, hrevokeds, Except.ok_bind]
    rfl
  · simp only [payloadArray, Accept.parseSrxPayload, hparseP, hparseR, hsubset, hpoolRead,
      parseLeafArray_value, parseOptionalFrontier_value, Except.ok_bind]
    rfl
  · intro hshort
    exact validateAnchorPoolFrom_ok (fun w hw => hpool.sized w (hs.perm.mem_iff.mp hw))
      (fun w hw => hshort w (hs.perm.mem_iff.mp hw)) hs.rawKeys

/-- The payload that a merge carries in its header is read back into its inputs. -/
theorem srx_payload_read_back (codec : AnchorCodec) (members : MemberCodec) (inputs : SrxInputs)
    (hpool : PoolOk inputs.anchorMemPool)
    (hindices : ∀ anchor ∈ inputs.anchors,
      validateAnchorIndices anchor inputs.anchorMemPool.length = .ok ())
    (hread : ∀ anchor ∈ inputs.anchors, WitnessReadable anchor.witness)
    (hmembers : ∀ w ∈ inputs.sinceMemRevoked ++ inputs.anchorMemPool,
      members.ofValue (members.toValue w) = some w)
    (hcbor : ∀ value, srxPayloadValue members inputs = .ok value →
      codec.fromReader (codec.toCbor value) = some value) :
    ∃ payload value srx, codec.fromReader payload = some value ∧
      Accept.parseSrxPayload members value = .ok srx ∧ ReadsBack inputs srx ∧
      ∀ H attach parts header merged,
        populateMergeSrxComplete codec members H attach parts (some inputs) header = .ok merged →
          merged.get? HDR_SRX_PAYLOAD = some (.bytes payload) := by
  obtain ⟨value, srx, hvalue, hparse, hback⟩ := srxPayloadValue_read hpool hindices hread hmembers
  refine ⟨codec.toCbor value, value, srx, hcbor value hvalue, hparse, hback, ?_⟩
  intro H attach parts header merged hpopulate
  simp only [populateMergeSrxComplete, ofOption, Except.ok_bind, hvalue, Except.bind_eq_ok,
    Except.pure_eq_ok] at hpopulate
  obtain ⟨_, _, _, _, _, _, _, _, _, _, _, _, _, _, _, _, _, _, _, _, _, _, rfl⟩ := hpopulate
  rw [OrdMap.get?_insert, if_pos rfl]

def serdeStep (entry : RawPathEntry) : Value :=
  Value.ofFields [("sibling", .bytes entry.sibling), ("dir", .ofNat entry.dir.val)]

def ofSerdeStep : Value → Option RawPathEntry
  | .map [(.text "sibling", .bytes sibling), (.text "dir", dir)] => do
    let n ← dir.asU64
    if h : n < 256 then some ⟨sibling, ⟨n, h⟩⟩ else none
  | _ => none

def serdeMembers : MemberCodec where
  toValue w := Value.ofFields [("leaf_id", .bytes w.leafId), ("root", .bytes w.root),
    ("path", .array (w.path.map serdeStep))]
  ofValue
    | .map [(.text "leaf_id", .bytes leafId), (.text "root", .bytes root),
        (.text "path", .array steps)] => do
        let path ← steps.mapM ofSerdeStep
        some ⟨leafId, root, path⟩
    | _ => none

theorem ofSerdeStep_serdeStep (entry : RawPathEntry) : ofSerdeStep (serdeStep entry) = some entry := by
  have hu64 : (Value.ofNat entry.dir.val).asU64 = some entry.dir.val :=
    if_pos (by have := entry.dir.isLt; omega)
  simp only [serdeStep, Value.ofFields, List.map_cons, List.map_nil, ofSerdeStep, hu64,
    Option.bind_eq_bind, Option.bind_some, dif_pos entry.dir.isLt]

theorem serdeMembers_read (w : RawMembershipWitness) :
    serdeMembers.ofValue (serdeMembers.toValue w) = some w := by
  have hsteps : (w.path.map serdeStep).mapM ofSerdeStep = some w.path := by
    induction w.path with
    | nil => rfl
    | cons e path ih =>
      rw [List.map_cons, List.mapM_cons, ofSerdeStep_serdeStep, ih]
      rfl
  simp only [serdeMembers, Value.ofFields, List.map_cons, List.map_nil, hsteps,
    Option.bind_eq_bind, Option.bind_some]

def poolWitness (root leaf : Byte) : RawMembershipWitness :=
  ⟨(Bytes32.fill leaf).val, (Bytes32.fill root).val, []⟩

def unorderedInputs (left : Bytes) : SrxInputs where
  joinLeafIds := []
  joinNonmemParent :=
    [⟨{ query := (Bytes32.fill 5).val, root := (Bytes32.fill 9).val, left := some left
        right := none, path := [] }, some 0, none⟩]
  joinNonmemRevokedSince := []
  sinceLeafIds := []
  sinceMemRevoked := []
  anchorMemPool := [poolWitness 9 3, poolWitness 9 1]
  joinFrontier := none
  sinceFrontier := some []

def payloadCodec (inputs : SrxInputs) : AnchorCodec where
  hL _ _ := .zero
  toCbor _ := []
  fromReader _ := (srxPayloadValue serdeMembers inputs).toOption
  fromUtf8 _ := none
  asBytes _ := []
  wire := ⟨fun _ => none, fun _ => none, fun _ => none⟩

theorem unorderedInputs_pool (left : Bytes) : PoolOk (unorderedInputs left).anchorMemPool := by
  refine ⟨?_, ?_, (by decide : 2 ≤ 2 ^ 32)⟩
  · change ∀ w ∈ [poolWitness 9 3, poolWitness 9 1], w.root.length = 32 ∧ w.leafId.length = 32
    decide
  · change ([poolWitness 9 3, poolWitness 9 1].map rawKey).Nodup
    decide

theorem srx_payload_read_back_unordered :
    ∃ payload value srx, (payloadCodec (unorderedInputs (Bytes32.fill 3).val)).fromReader payload =
        some value ∧
      Accept.parseSrxPayload serdeMembers value = .ok srx ∧
      ReadsBack (unorderedInputs (Bytes32.fill 3).val) srx := by
  have hindices : ∀ anchor ∈ (unorderedInputs (Bytes32.fill 3).val).anchors,
      validateAnchorIndices anchor (unorderedInputs (Bytes32.fill 3).val).anchorMemPool.length =
        .ok () := by
    intro anchor hanchor
    obtain rfl := List.mem_singleton.mp hanchor
    rfl
  have hread : ∀ anchor ∈ (unorderedInputs (Bytes32.fill 3).val).anchors,
      WitnessReadable anchor.witness := by
    intro anchor hanchor
    obtain rfl := List.mem_singleton.mp hanchor
    exact ⟨by decide, by decide, by rintro b ⟨⟩; decide, nofun, nofun, nofun, nofun, nofun, nofun⟩
  obtain ⟨payload, value, srx, hcbor, hparse, hback, _⟩ := srx_payload_read_back
    (payloadCodec (unorderedInputs (Bytes32.fill 3).val)) serdeMembers
    (unorderedInputs (Bytes32.fill 3).val) (unorderedInputs_pool _) hindices hread
    (fun w _ => serdeMembers_read w) (fun value hvalue => Except.toOption_eq_some.mpr hvalue)
  exact ⟨payload, value, srx, hcbor, hparse, hback⟩

/-- A bound of one byte passes the writer, and its payload is refused by the reader. -/
theorem srx_payload_short_bound :
    PoolOk (unorderedInputs [7]).anchorMemPool ∧
    (∀ anchor ∈ (unorderedInputs [7]).anchors,
      validateAnchorIndices anchor (unorderedInputs [7]).anchorMemPool.length = .ok ()) ∧
    ∃ merged value,
      populateMergeSrxComplete (payloadCodec (unorderedInputs [7])) serdeMembers threeLeafHash
        (fun header _ _ => .ok header)
        ⟨[], [], [], Bytes32.zero.val, Bytes32.zero.val, Bytes32.zero.val, Bytes32.zero.val, none⟩
        (some (unorderedInputs [7])) .empty = .ok merged ∧
      merged.get? HDR_SRX_PAYLOAD = some (.bytes []) ∧
      (payloadCodec (unorderedInputs [7])).fromReader [] = some value ∧
      Accept.parseSrxPayload serdeMembers value = .error (.freeze freezeSrxInvalid) := by
  refine ⟨unorderedInputs_pool _, ?_, _, _, rfl, rfl, rfl, rfl⟩
  intro anchor hanchor
  obtain rfl := List.mem_singleton.mp hanchor
  rfl

end CityG.Joiner
