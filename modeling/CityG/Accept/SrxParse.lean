import CityG.Accept.SrxRelations

/-!
# Reading an SRX payload

The payload is an array of nine values. Non-membership anchors and path entries
are maps with numbered keys, read entry by entry; a key that comes twice keeps its
last value. How serde lays out a membership witness is a parameter.
-/

namespace CityG

open Except (ensure ofOption mapList)

structure MemberCodec where
  /-- `value_from_serde`. -/
  toValue : RawMembershipWitness → Value
  /-- `deserialize_value`. -/
  ofValue : Value → Option RawMembershipWitness

namespace Accept

def srxInvalid {α : Type} : Except AcceptanceError α := freezeWith freezeSrxInvalid

def integerToU64 (value : Value) : Except AcceptanceError Nat :=
  ofOption (.freeze freezeSrxInvalid) value.asU64

/-- One entry of the map of a path step; the sibling and the direction read so far. -/
def readPathField (fields : Option Bytes × Option Byte) (entry : Value × Value) :
    Except AcceptanceError (Option Bytes × Option Byte) := do
  match ← integerToU64 entry.1 with
  | 1 =>
    match entry.2 with
    | .bytes b => do
      ensure (b.length = 32) (.freeze freezeSrxInvalid)
      pure (some b, fields.2)
    | _ => srxInvalid
  | 2 => do
    let value ← integerToU64 entry.2
    if h : value ≤ 1 then pure (fields.1, some ⟨value, by omega⟩) else srxInvalid
  | _ => srxInvalid

def parsePathEntry : Value → Except AcceptanceError RawPathEntry
  | .map entries => do
    let fields ← entries.foldlM readPathField (none, none)
    let sibling ← ofOption (.freeze freezeSrxInvalid) fields.1
    let dir ← ofOption (.freeze freezeSrxInvalid) fields.2
    pure ⟨sibling, dir⟩
  | _ => srxInvalid

def parsePathEntries : Value → Except AcceptanceError (List RawPathEntry)
  | .array entries => mapList parsePathEntry entries
  | _ => srxInvalid

def readBound : Value → Except AcceptanceError (Option Bytes32)
  | .null => pure none
  | .bytes b => some <$> valueBytes32 freezeSrxInvalid (.bytes b)
  | _ => srxInvalid

def readRef : Value → Except AcceptanceError (Option Nat)
  | .null => pure none
  | .integer i => some <$> integerToU64 (.integer i)
  | _ => srxInvalid

def readNmint : Value → Except AcceptanceError (Option Bytes)
  | .null => pure none
  | .bytes b => do
    ensure (b.length = 32) (.freeze freezeSrxInvalid)
    pure (some b)
  | _ => srxInvalid

def readHeight : Value → Except AcceptanceError (Option Byte)
  | .null => pure none
  | .integer i => do
    let value ← integerToU64 (.integer i)
    if h : value < 256 then pure (some ⟨value, h⟩) else srxInvalid
  | _ => srxInvalid

structure NonmemFields where
  query : Option Bytes32 := none
  root : Option Bytes32 := none
  left : Option Bytes32 := none
  right : Option Bytes32 := none
  path : Option (List RawPathEntry) := none
  leftRef : Option Nat := none
  rightRef : Option Nat := none
  leftBelow : List RawPathEntry := []
  rightBelow : List RawPathEntry := []
  above : List RawPathEntry := []
  nmint : Option Bytes := none
  lcaLeftHeight : Option Byte := none
  lcaRightHeight : Option Byte := none

def readNonmemField (fields : NonmemFields) (entry : Value × Value) :
    Except AcceptanceError NonmemFields := do
  let val := entry.2
  match ← integerToU64 entry.1 with
  | 1 => do
    let query ← valueBytes32 freezeSrxInvalid val
    pure { fields with query := some query }
  | 2 => do
    let root ← valueBytes32 freezeSrxInvalid val
    pure { fields with root := some root }
  | 3 => do
    let left ← readBound val
    pure { fields with left }
  | 4 => do
    let right ← readBound val
    pure { fields with right }
  | 5 => do
    let path ← parsePathEntries val
    pure { fields with path := some path }
  | 6 => do
    let leftRef ← readRef val
    pure { fields with leftRef }
  | 7 => do
    let rightRef ← readRef val
    pure { fields with rightRef }
  | 8 => do
    let leftBelow ← parsePathEntries val
    pure { fields with leftBelow }
  | 9 => do
    let rightBelow ← parsePathEntries val
    pure { fields with rightBelow }
  | 10 => do
    let above ← parsePathEntries val
    pure { fields with above }
  | 11 => do
    let nmint ← readNmint val
    pure { fields with nmint }
  | 12 => do
    let lcaLeftHeight ← readHeight val
    pure { fields with lcaLeftHeight }
  | 13 => do
    let lcaRightHeight ← readHeight val
    pure { fields with lcaRightHeight }
  | _ => srxInvalid

def NonmemFields.finish (fields : NonmemFields) : Except AcceptanceError AnchoredNonMembership := do
  let query ← ofOption (.freeze freezeSrxInvalid) fields.query
  let root ← ofOption (.freeze freezeSrxInvalid) fields.root
  let path ← ofOption (.freeze freezeSrxInvalid) fields.path
  pure {
    witness :=
      { query := query.val
        root := root.val
        left := fields.left.map (·.val)
        right := fields.right.map (·.val)
        path
        leftBelow := fields.leftBelow
        rightBelow := fields.rightBelow
        above := fields.above
        nmint := fields.nmint
        lcaLeftHeight := fields.lcaLeftHeight
        lcaRightHeight := fields.lcaRightHeight }
    leftRef := fields.leftRef
    rightRef := fields.rightRef }

def parseNonmemAnchor : Value → Except AcceptanceError AnchoredNonMembership
  | .map entries => do
    let fields ← entries.foldlM readNonmemField {}
    fields.finish
  | _ => srxInvalid

def parseNonmemAnchorList : Value → Except AcceptanceError (List AnchoredNonMembership)
  | .array entries => mapList parseNonmemAnchor entries
  | _ => srxInvalid

def parseMemList (codec : MemberCodec) : Value → Except AcceptanceError (List RawMembershipWitness)
  | .array entries =>
    mapList (fun value => ofOption (.freeze freezeSrxInvalid) (codec.ofValue value)) entries
  | _ => srxInvalid

def parseLeafArray : Value → Except AcceptanceError (List Bytes32)
  | .array entries => mapList (valueBytes32 freezeSrxInvalid) entries
  | _ => srxInvalid

def parseOptionalFrontier : Value → Except AcceptanceError (Option (List Bytes32))
  | .null => pure none
  | .array entries => some <$> parseLeafArray (.array entries)
  | _ => srxInvalid

/-- The counts of the fourth value are not read. -/
def checkMeta : Value → Except AcceptanceError Unit
  | .null => pure ()
  | .map _ => pure ()
  | _ => srxInvalid

def parseSrxPayload (codec : MemberCodec) : Value → Except AcceptanceError SrxPayload
  | .array [parent, revoked, subset, counts, joins, joinFront, sinces, sinceFront, pool] => do
    let joinNonmemParent ← parseNonmemAnchorList parent
    let joinNonmemRevokedSince ← parseNonmemAnchorList revoked
    let revokedSinceMemInRevoked ← parseMemList codec subset
    checkMeta counts
    let joinLeafIds ← parseLeafArray joins
    let joinFrontier ← parseOptionalFrontier joinFront
    let sinceLeafIds ← parseLeafArray sinces
    let sinceFrontier ← parseOptionalFrontier sinceFront
    let anchorMemPool ← parseMemList codec pool
    pure ⟨joinNonmemParent, joinNonmemRevokedSince, revokedSinceMemInRevoked, joinLeafIds,
      joinFrontier, sinceLeafIds, sinceFrontier, anchorMemPool⟩
  | _ => srxInvalid

theorem integerToU64_ofNat {n : Nat} (h : n < 2 ^ 64) : integerToU64 (.ofNat n) = .ok n := by
  have hu64 : (Value.ofNat n).asU64 = some n := if_pos h
  rw [integerToU64, hu64]
  rfl

def StepReadable (entry : RawPathEntry) : Prop := entry.sibling.length = 32 ∧ entry.dir ≤ 1

theorem parsePathEntry_map {entry : RawPathEntry} (h : StepReadable entry) :
    parsePathEntry (.map [(.ofNat 1, .bytes entry.sibling), (.ofNat 2, .ofNat entry.dir.val)]) =
      .ok entry := by
  obtain ⟨hlen, hdir⟩ := h
  have hval : entry.dir.val ≤ 1 := hdir
  have h1 : integerToU64 (.ofNat 1) = .ok 1 := integerToU64_ofNat (by decide)
  have h2 : integerToU64 (.ofNat 2) = .ok 2 := integerToU64_ofNat (by decide)
  have hd : integerToU64 (.ofNat entry.dir.val) = .ok entry.dir.val := integerToU64_ofNat (by omega)
  simp only [parsePathEntry, List.foldlM_cons, List.foldlM_nil, readPathField, h1, h2, hd,
    Except.ok_bind, Except.ensure, if_pos hlen, dif_pos hval]
  rfl

theorem valueBytes32_val (freeze : FreezeError) (b : Bytes32) :
    valueBytes32 freeze (.bytes b.val) = .ok b := by
  rw [valueBytes32, toBytes32_val]
  rfl

end Accept

end CityG
