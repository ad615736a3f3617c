import CityG.Accept.Gate
import CityG.Client.Update

/-!
# Three readers of one barrier update

The acceptance gate, the server and a recovering client check the decoded update
with loops of their own. The gate and the server refuse with one error each, so
their loops are written once, over that error; the client's messages differ and
its loops stand in `Client.Update`.
-/

namespace CityG

open Except (ensure ofOption)

instance : IsTrans (Nat × Nat) pairLT where
  trans a b c hab hbc := by
    unfold pairLT at *
    omega

namespace CoverLoops
variable {ε : Type} (e : ε)

def increasing : Option Nat → List Nat → Except ε Unit
  | _, [] => pure ()
  | prev, value :: rest => do
    ensure (∀ p ∈ prev, p < value) e
    increasing (some value) rest

def distinctNodes (maxIndex : Nat) : OrdSet Nat → List Nat → Except ε Unit
  | _, [] => pure ()
  | seen, node :: rest => do
    ensure (node ≤ maxIndex) e
    ensure (node ∉ seen) e
    distinctNodes maxIndex (seen.add node) rest

def parentChain : List Nat → Except ε Unit
  | child :: parent :: rest => do
    ensure (child ≠ 0) e
    ensure ((child - 1) / 2 = parent) e
    parentChain (parent :: rest)
  | _ => pure ()

def publicKeys (maxIndex leafBase : Nat) :
    Option Nat → OrdSet Nat → List NewPublicKeyWire → Except ε (OrdSet Nat)
  | _, seen, [] => pure seen
  | prev, seen, key :: rest => do
    ensure (key.node ≤ maxIndex) e
    ensure (key.node < leafBase) e
    ensure (key.ek.length = 1184) e
    ensure (∀ p ∈ prev, p < key.node) e
    ensure (key.node ∉ seen) e
    publicKeys maxIndex leafBase (some key.node) (seen.add key.node) rest

def ciphertexts (maxIndex : Nat) : Option (Nat × Nat) → List NodeCiphertextWire → Except ε Unit
  | _, [] => pure ()
  | prev, ct :: rest => do
    ensure (ct.source ≤ maxIndex) e
    ensure (ct.target ≤ maxIndex) e
    ensure (ct.targetPkHash.length = 16) e
    ensure (ct.kemCt.length = 1088) e
    ensure (ct.wrappedPs.length = 48) e
    ensure (∀ p ∈ prev, pairLT p (ct.source, ct.target)) e
    ciphertexts maxIndex (some (ct.source, ct.target)) rest

def pathNodes (nodes : List Nat) (updaterSlotIndex nMax maxIndex : Nat) : Except ε Unit := do
  ensure (nodes ≠ []) e
  ensure (updaterSlotIndex < nMax) e
  ensure (nodes.head? = some (nMax - 1 + updaterSlotIndex)) e
  ensure (nodes.getLast? = some 0) e
  distinctNodes e maxIndex .empty nodes
  parentChain e nodes

def newPublicKeys (keys : List NewPublicKeyWire) (nodes : List Nat) (nMax maxIndex : Nat) :
    Except ε Unit := do
  let expectedSet := OrdSet.ofList nodes.tail
  ensure (keys.length = expectedSet.size) e
  let seen ← publicKeys e maxIndex (nMax - 1) none .empty keys
  ensure (seen = expectedSet) e

def revokedHint : Option (List Nat) → Except ε Unit
  | none => pure ()
  | some hint => increasing e none hint

variable {e}

theorem increasing_eq_ok {prev : Option Nat} {values : List Nat} {u : Unit} :
    increasing e prev values = .ok u ↔ (prev.toList ++ values).IsChain (· < ·) := by
  induction values generalizing prev with
  | nil => cases prev <;> simp [increasing, pure, Except.pure]
  | cons value rest ih =>
    simp only [increasing, Except.bind_eq_ok, Except.ensure_eq_ok, ih]
    cases prev <;> simp

theorem distinctNodes_eq_ok {maxIndex : Nat} {seen : OrdSet Nat} {nodes : List Nat} {u : Unit} :
    distinctNodes e maxIndex seen nodes = .ok u ↔
      (∀ node ∈ nodes, node ≤ maxIndex) ∧ nodes.Nodup ∧ ∀ node ∈ nodes, node ∉ seen := by
  induction nodes generalizing seen with
  | nil => simp [distinctNodes, pure, Except.pure]
  | cons node rest ih =>
    simp only [distinctNodes, Except.bind_eq_ok, Except.ensure_eq_ok, ih, OrdSet.mem_add,
      List.mem_cons, forall_eq_or_imp, List.nodup_cons, not_or]
    constructor
    · rintro ⟨_, hle, _, hseen, hrange, hnodup, hrest⟩
      refine ⟨⟨hle, hrange⟩, ⟨?_, hnodup⟩, hseen, fun other hother => (hrest other hother).2⟩
      exact fun hmem => (hrest node hmem).1 rfl
    · rintro ⟨⟨hle, hrange⟩, ⟨hnode, hnodup⟩, hseen, hrest⟩
      refine ⟨(), hle, (), hseen, hrange, hnodup, fun other hother => ⟨?_, hrest other hother⟩⟩
      rintro rfl
      exact hnode hother

theorem parentChain_eq_ok {nodes : List Nat} {u : Unit} :
    parentChain e nodes = .ok u ↔
      nodes.IsChain fun child up => child ≠ 0 ∧ (child - 1) / 2 = up := by
  fun_induction parentChain e nodes with
  | case1 child up rest ih =>
    simp only [Except.bind_eq_ok, Except.ensure_eq_ok, ih, List.isChain_cons_cons]
    constructor
    · rintro ⟨_, hpos, _, hup, hrest⟩
      exact ⟨⟨hpos, hup⟩, hrest⟩
    · rintro ⟨⟨hpos, hup⟩, hrest⟩
      exact ⟨(), hpos, (), hup, hrest⟩
  | case2 nodes hshort =>
    rcases nodes with _ | ⟨child, _ | ⟨up, rest⟩⟩
    · simp [pure, Except.pure]
    · simp [pure, Except.pure]
    · exact absurd rfl (hshort child up rest)

theorem publicKeys_eq_ok {maxIndex leafBase : Nat} {prev : Option Nat} {seen out : OrdSet Nat}
    {keys : List NewPublicKeyWire} :
    publicKeys e maxIndex leafBase prev seen keys = .ok out ↔
      (∀ key ∈ keys, key.node ≤ maxIndex ∧ key.node < leafBase ∧ key.ek.length = 1184) ∧
      (prev.toList ++ keys.map (·.node)).IsChain (· < ·) ∧ (∀ key ∈ keys, key.node ∉ seen) ∧
      seen.addAll (keys.map (·.node)) = out := by
  induction keys generalizing prev seen with
  | nil => cases prev <;> simp [publicKeys, OrdSet.addAll, pure, Except.pure]
  | cons key rest ih =>
    have hprev : (prev.toList ++ (key :: rest).map (·.node)).IsChain (· < ·) ↔
        (∀ p ∈ prev, p < key.node) ∧ (key.node :: rest.map (·.node)).IsChain (· < ·) := by
      cases prev <;> simp
    simp only [publicKeys, Except.bind_eq_ok, Except.ensure_eq_ok, ih, hprev, List.mem_cons,
      forall_eq_or_imp, OrdSet.mem_add, not_or, Option.toList_some, List.singleton_append]
    constructor
    · rintro ⟨_, hmax, _, hbase, _, hek, _, hlt, _, hseen, hrange, hchain, hrest, hout⟩
      exact ⟨⟨⟨hmax, hbase, hek⟩, hrange⟩, ⟨hlt, hchain⟩,
        ⟨hseen, fun other hother => (hrest other hother).2⟩, hout⟩
    · rintro ⟨⟨⟨hmax, hbase, hek⟩, hrange⟩, ⟨hlt, hchain⟩, ⟨hseen, hrest⟩, hout⟩
      refine ⟨(), hmax, (), hbase, (), hek, (), hlt, (), hseen, hrange, hchain, ?_, hout⟩
      intro other hother
      refine ⟨?_, hrest other hother⟩
      have hsorted := List.isChain_iff_pairwise.mp hchain
      have hgt := (List.pairwise_cons.mp hsorted).1 other.node (List.mem_map_of_mem hother)
      omega

theorem ciphertexts_eq_ok {maxIndex : Nat} {prev : Option (Nat × Nat)}
    {cts : List NodeCiphertextWire} {u : Unit} :
    ciphertexts e maxIndex prev cts = .ok u ↔
      (∀ ct ∈ cts, ct.source ≤ maxIndex ∧ ct.target ≤ maxIndex ∧ ct.targetPkHash.length = 16 ∧
        ct.kemCt.length = 1088 ∧ ct.wrappedPs.length = 48) ∧
      (prev.toList ++ cts.map fun ct => (ct.source, ct.target)).IsChain pairLT := by
  induction cts generalizing prev with
  | nil => cases prev <;> simp [ciphertexts, pure, Except.pure]
  | cons ct rest ih =>
    have hprev : (prev.toList ++ (ct :: rest).map fun ct => (ct.source, ct.target)).IsChain pairLT ↔
        (∀ p ∈ prev, pairLT p (ct.source, ct.target)) ∧
          ((ct.source, ct.target) :: rest.map fun ct => (ct.source, ct.target)).IsChain pairLT := by
      cases prev <;> simp
    simp only [ciphertexts, Except.bind_eq_ok, Except.ensure_eq_ok, ih, hprev, List.mem_cons,
      forall_eq_or_imp, Option.toList_some, List.singleton_append]
    constructor
    · rintro ⟨_, hsource, _, htarget, _, hpk, _, hct, _, hps, _, hlt, hrange, hchain⟩
      exact ⟨⟨⟨hsource, htarget, hpk, hct, hps⟩, hrange⟩, hlt, hchain⟩
    · rintro ⟨⟨⟨hsource, htarget, hpk, hct, hps⟩, hrange⟩, hlt, hchain⟩
      exact ⟨(), hsource, (), htarget, (), hpk, (), hct, (), hps, (), hlt, hrange, hchain⟩

theorem revokedHint_eq_ok {hint : Option (List Nat)} {u : Unit} :
    revokedHint e hint = .ok u ↔ (hint.getD []).IsChain (· < ·) := by
  cases hint with
  | none => simp [revokedHint, pure, Except.pure]
  | some hint => exact increasing_eq_ok

variable {payload : KemTreeCoverPayloadWire} {nMax : Nat} {u : Unit}

theorem pathNodes_eq_ok :
    pathNodes e payload.pathNodes payload.updaterSlotIndex nMax (2 * nMax - 2) = .ok u ↔
      payload.PathOk nMax := by
  simp only [pathNodes, Except.bind_eq_ok, Except.ensure_eq_ok, distinctNodes_eq_ok,
    parentChain_eq_ok, OrdMap.not_mem_empty, not_false_iff, implies_true, and_true,
    KemTreeCoverPayloadWire.PathOk]
  constructor
  · rintro ⟨_, _, _, hslot, _, hhead, _, hlast, _, ⟨hrange, hnodup⟩, hchain⟩
    exact ⟨hslot, hhead, hlast, hrange, hnodup, hchain⟩
  · rintro ⟨hslot, hhead, hlast, hrange, hnodup, hchain⟩
    refine ⟨(), ?_, (), hslot, (), hhead, (), hlast, (), ⟨hrange, hnodup⟩, hchain⟩
    intro hnil
    rw [hnil] at hhead
    cases hhead

theorem ciphertexts_wellFormed :
    ciphertexts e (2 * nMax - 2) none payload.nodeCiphertexts = .ok u ↔
      payload.CiphertextsOk nMax :=
  ciphertexts_eq_ok

theorem newPublicKeys_eq_ok (hpath : payload.PathOk nMax) :
    newPublicKeys e payload.newPublicKeys payload.pathNodes nMax (2 * nMax - 2) = .ok u ↔
      payload.KeysOk nMax := by
  obtain ⟨hslot, _, _, _, hnodup, _⟩ := hpath
  have htail : payload.pathNodes.tail.Nodup := hnodup.sublist (List.tail_sublist _)
  simp only [newPublicKeys, Except.bind_eq_ok, Except.ensure_eq_ok, publicKeys_eq_ok,
    OrdSet.size_ofList htail, OrdMap.not_mem_empty, not_false_iff, implies_true, true_and,
    Option.toList_none, List.nil_append, KemTreeCoverPayloadWire.KeysOk]
  constructor
  · rintro ⟨_, hlen, seen, ⟨hkeys, hchain, rfl⟩, hseen⟩
    refine ⟨hlen, fun key hkey => ⟨(hkeys key hkey).2.1, (hkeys key hkey).2.2⟩, hchain, ?_⟩
    intro node hnode
    have hmem : node ∈ OrdSet.ofList payload.pathNodes.tail := OrdSet.mem_ofList.mpr hnode
    rw [← hseen, OrdSet.mem_addAll] at hmem
    exact hmem.resolve_right (OrdMap.not_mem_empty node)
  · rintro ⟨hlen, hkeys, hchain, hcover⟩
    refine ⟨(), hlen, _, ⟨fun key hkey => ?_, hchain, rfl⟩, ?_⟩
    · obtain ⟨hbase, hek⟩ := hkeys key hkey
      exact ⟨by omega, hbase, hek⟩
    · -- As many different keys as nodes, so the cover is exact.
      have hsorted := List.isChain_iff_pairwise.mp hchain
      have hperm : List.Perm payload.pathNodes.tail (payload.newPublicKeys.map (·.node)) := by
        refine (List.subperm_of_subset htail hcover).perm_of_length_le ?_
        rw [List.length_map, hlen]
      refine OrdSet.ext_mem fun node => ?_
      rw [OrdSet.mem_addAll, OrdSet.mem_ofList, hperm.mem_iff]
      simp

theorem increasing_refuses (prev : Option Nat) (values : List Nat) :
    (increasing e prev values).RefusesWith e := by
  induction values generalizing prev with
  | nil => exact .ok ()
  | cons value rest ih => exact .bind (.ensure _) fun _ => ih _

theorem distinctNodes_refuses (maxIndex : Nat) (seen : OrdSet Nat) (nodes : List Nat) :
    (distinctNodes e maxIndex seen nodes).RefusesWith e := by
  induction nodes generalizing seen with
  | nil => exact .ok ()
  | cons node rest ih => exact .bind (.ensure _) fun _ => .bind (.ensure _) fun _ => ih _

theorem parentChain_refuses (nodes : List Nat) : (parentChain e nodes).RefusesWith e := by
  fun_induction parentChain e nodes with
  | case1 child up rest ih => exact .bind (.ensure _) fun _ => .bind (.ensure _) fun _ => ih
  | case2 => exact .ok ()

theorem publicKeys_refuses (maxIndex leafBase : Nat) (prev : Option Nat) (seen : OrdSet Nat)
    (keys : List NewPublicKeyWire) :
    (publicKeys e maxIndex leafBase prev seen keys).RefusesWith e := by
  induction keys generalizing prev seen with
  | nil => exact .ok seen
  | cons key rest ih =>
    exact .bind (.ensure _) fun _ => .bind (.ensure _) fun _ => .bind (.ensure _) fun _ =>
      .bind (.ensure _) fun _ => .bind (.ensure _) fun _ => ih _ _

theorem ciphertexts_refuses (maxIndex : Nat) (prev : Option (Nat × Nat))
    (cts : List NodeCiphertextWire) : (ciphertexts e maxIndex prev cts).RefusesWith e := by
  induction cts generalizing prev with
  | nil => exact .ok ()
  | cons ct rest ih =>
    exact .bind (.ensure _) fun _ => .bind (.ensure _) fun _ => .bind (.ensure _) fun _ =>
      .bind (.ensure _) fun _ => .bind (.ensure _) fun _ => .bind (.ensure _) fun _ => ih _

theorem pathNodes_refuses (nodes : List Nat) (slot nMax maxIndex : Nat) :
    (pathNodes e nodes slot nMax maxIndex).RefusesWith e :=
  .bind (.ensure _) fun _ => .bind (.ensure _) fun _ => .bind (.ensure _) fun _ =>
    .bind (.ensure _) fun _ => .bind (distinctNodes_refuses _ _ _) fun _ => parentChain_refuses _

theorem newPublicKeys_refuses (keys : List NewPublicKeyWire) (nodes : List Nat)
    (nMax maxIndex : Nat) : (newPublicKeys e keys nodes nMax maxIndex).RefusesWith e :=
  .bind (.ensure _) fun _ => .bind (publicKeys_refuses _ _ _ _ _) fun _ => .ensure _

theorem revokedHint_refuses (hint : Option (List Nat)) : (revokedHint e hint).RefusesWith e := by
  cases hint with
  | none => exact .ok ()
  | some hint => exact increasing_refuses none hint

end CoverLoops

namespace Accept

def validateRevokedHint (hint : Option (List Nat)) : Except AcceptanceError Unit :=
  CoverLoops.revokedHint (.freeze freezeBarrierUpdateMalformed) hint

def validatePathNodes (pathNodes : List Nat) (updaterSlotIndex nMax maxIndex : Nat) :
    Except AcceptanceError Unit :=
  CoverLoops.pathNodes (.freeze freezeBarrierUpdateMalformed) pathNodes updaterSlotIndex nMax
    maxIndex

def validateNodeCiphertexts (nodeCiphertexts : List NodeCiphertextWire) (maxIndex : Nat) :
    Except AcceptanceError Unit :=
  CoverLoops.ciphertexts (.freeze freezeBarrierUpdateMalformed) maxIndex none nodeCiphertexts

def validateNewPublicKeys (keys : List NewPublicKeyWire) (pathNodes : List Nat)
    (nMax maxIndex : Nat) : Except AcceptanceError Unit :=
  CoverLoops.newPublicKeys (.freeze freezeBarrierUpdateMalformed) keys pathNodes nMax maxIndex

def validateCover (payload : KemTreeCoverPayloadWire) (nMax : Nat) : Except AcceptanceError Unit := do
  let maxIndex := 2 * nMax - 2
  validateRevokedHint payload.revokedLeafIndicesHint
  validatePathNodes payload.pathNodes payload.updaterSlotIndex nMax maxIndex
  validateNodeCiphertexts payload.nodeCiphertexts maxIndex
  validateNewPublicKeys payload.newPublicKeys payload.pathNodes nMax maxIndex

/-- The one condition of `parseBarrierUpdateFromHeader` is the sequence of the gate's loops. -/
theorem validateCover_eq (payload : KemTreeCoverPayloadWire) (nMax : Nat) :
    validateCover payload nMax =
      ensure (payload.WellFormed nMax) (.freeze freezeBarrierUpdateMalformed) := by
  have hrefuses : (validateCover payload nMax).RefusesWith (.freeze freezeBarrierUpdateMalformed) :=
    .bind (CoverLoops.revokedHint_refuses _) fun _ =>
      .bind (CoverLoops.pathNodes_refuses _ _ _ _) fun _ =>
        .bind (CoverLoops.ciphertexts_refuses _ _ _) fun _ =>
          CoverLoops.newPublicKeys_refuses _ _ _ _
  refine hrefuses.eq_ensure ?_
  simp only [validateCover, validateRevokedHint, validatePathNodes, validateNodeCiphertexts,
    validateNewPublicKeys, Except.bind_eq_ok, CoverLoops.revokedHint_eq_ok,
    CoverLoops.pathNodes_eq_ok, CoverLoops.ciphertexts_wellFormed]
  constructor
  · rintro ⟨_, hhint, _, hpath, _, hcts, hkeys⟩
    exact ⟨hpath, hhint, (CoverLoops.newPublicKeys_eq_ok hpath).mp hkeys, hcts⟩
  · rintro ⟨hpath, hhint, hkeys, hcts⟩
    exact ⟨(), hhint, (), hpath, (), hcts, (CoverLoops.newPublicKeys_eq_ok hpath).mpr hkeys⟩

end Accept

def checkCover (payload : KemTreeCoverPayloadWire) (nMax : Nat) : Except CityGError Unit := do
  let maxIndex := 2 * nMax - 2
  CoverLoops.pathNodes barrierUpdateMalformed payload.pathNodes payload.updaterSlotIndex nMax maxIndex
  CoverLoops.revokedHint barrierUpdateMalformed payload.revokedLeafIndicesHint
  CoverLoops.newPublicKeys barrierUpdateMalformed payload.newPublicKeys payload.pathNodes nMax
    maxIndex
  CoverLoops.ciphertexts barrierUpdateMalformed maxIndex none payload.nodeCiphertexts

/-- The one condition of `parseBarrierUpdate` is the sequence of the server's loops. -/
theorem checkCover_eq (payload : KemTreeCoverPayloadWire) (nMax : Nat) :
    checkCover payload nMax = ensure (payload.WellFormed nMax) barrierUpdateMalformed := by
  have hrefuses : (checkCover payload nMax).RefusesWith barrierUpdateMalformed :=
    .bind (CoverLoops.pathNodes_refuses _ _ _ _) fun _ =>
      .bind (CoverLoops.revokedHint_refuses _) fun _ =>
        .bind (CoverLoops.newPublicKeys_refuses _ _ _ _) fun _ =>
          CoverLoops.ciphertexts_refuses _ _ _
  refine hrefuses.eq_ensure ?_
  simp only [checkCover, Except.bind_eq_ok, CoverLoops.revokedHint_eq_ok,
    CoverLoops.pathNodes_eq_ok, CoverLoops.ciphertexts_wellFormed]
  constructor
  · rintro ⟨_, hpath, _, hhint, _, hkeys, hcts⟩
    exact ⟨hpath, hhint, (CoverLoops.newPublicKeys_eq_ok hpath).mp hkeys, hcts⟩
  · rintro ⟨hpath, hhint, hkeys, hcts⟩
    exact ⟨(), hpath, (), hhint, (), (CoverLoops.newPublicKeys_eq_ok hpath).mpr hkeys, hcts⟩

theorem eq_path_of_chain {nodes : List Nat} {leaf : Nat} (hhead : nodes.head? = some leaf)
    (hlast : nodes.getLast? = some 0)
    (hchain : nodes.IsChain fun child up => child ≠ 0 ∧ (child - 1) / 2 = up) :
    nodes = HeapTree.path leaf := by
  induction nodes generalizing leaf with
  | nil => cases hhead
  | cons node rest ih =>
    obtain rfl : node = leaf := Option.some.inj hhead
    cases rest with
    | nil =>
      obtain rfl : node = 0 := Option.some.inj hlast
      rfl
    | cons up rest =>
      obtain ⟨⟨hpos, hup⟩, hrest⟩ := List.isChain_cons_cons.mp hchain
      have hpath : HeapTree.path node = node :: HeapTree.path up := by
        rw [← hup]
        exact HeapTree.path_of_pos (Nat.pos_of_ne_zero hpos)
      rw [hpath, ih rfl hlast hrest]

namespace KemTreeCoverPayloadWire
variable {payload : KemTreeCoverPayloadWire} {nMax : Nat}

theorem PathOk.pathNodes_eq (h : payload.PathOk nMax) :
    payload.pathNodes = directPathNodes (leafNode nMax payload.updaterSlotIndex) :=
  eq_path_of_chain h.2.1 h.2.2.1 h.2.2.2.2.2

theorem KeysOk.sorted (h : payload.KeysOk nMax) :
    payload.newPublicKeys.Pairwise fun a b => a.node < b.node :=
  List.pairwise_map.mp (List.isChain_iff_pairwise.mp h.2.2.1)

theorem WellFormed.tail_nodup (h : payload.WellFormed nMax) : payload.pathNodes.tail.Nodup :=
  h.1.2.2.2.2.1.sublist (List.tail_sublist _)

theorem WellFormed.keys_perm (h : payload.WellFormed nMax) :
    (payload.newPublicKeys.map (·.node)).Perm payload.pathNodes.tail := by
  have hkeys := h.2.2.1
  refine ((List.subperm_of_subset h.tail_nodup hkeys.2.2.2).perm_of_length_le ?_).symm
  rw [List.length_map, hkeys.1]

theorem WellFormed.tail_eq_inner (h : payload.WellFormed nMax) :
    payload.pathNodes.tail = payload.pathNodes.filter (· < nMax - 1) := by
  obtain ⟨_, hhead, _⟩ := h.1
  obtain ⟨rest, hrest⟩ := List.head?_eq_some_iff.mp hhead
  have hinner : ∀ node ∈ rest, node < nMax - 1 := by
    intro node hnode
    have hmem : node ∈ payload.newPublicKeys.map (·.node) := by
      refine h.2.2.1.2.2.2 node ?_
      rw [hrest]
      exact hnode
    obtain ⟨key, hkey, rfl⟩ := List.mem_map.mp hmem
    exact (h.2.2.1.2.1 key hkey).1
  rw [hrest, List.tail_cons, List.filter_cons_of_neg (by simp), eq_comm, List.filter_eq_self]
  exact fun node hnode => decide_eq_true (hinner node hnode)

end KemTreeCoverPayloadWire

namespace Client

def wireKey (key : NewPublicKeyWire) : Nat × Bytes := (key.node, key.ek)

theorem checkCoverPayload_wellFormed {payload : KemTreeCoverPayloadWire} {nMax : Nat}
    (h : payload.WellFormed nMax) :
    checkCoverPayload payload nMax = .ok (OrdMap.ofList (payload.newPublicKeys.map wireKey),
      payload.nodeCiphertexts.map .ofWire) := by
  have hpath := h.1
  have hkeys := h.2.2.1
  have hcts := h.2.2.2
  have hpathOk : checkPath payload.pathNodes (2 * nMax - 2)
      (nMax - 1 + payload.updaterSlotIndex) = .ok () := by
    rw [hpath.pathNodes_eq]
    exact checkPath_directPath hpath.1
  have hkeysOk : checkNewPublicKeys (2 * nMax - 2) (nMax - 1) none .empty payload.newPublicKeys =
      .ok (OrdMap.ofList (payload.newPublicKeys.map wireKey)) := by
    have hrange : ∀ key ∈ payload.newPublicKeys, key.node ≤ 2 * nMax - 2 ∧ key.node < nMax - 1 ∧
        key.ek.length = PUBLIC_KEY_BYTES := by
      intro key hkey
      obtain ⟨hbase, hek⟩ := hkeys.2.1 key hkey
      exact ⟨by omega, hbase, hek⟩
    rw [checkNewPublicKeys_ok hrange hkeys.sorted (by simp) (by simp), OrdMap.ofList,
      List.foldl_map]
    rfl
  have hctsOk : checkNodeCiphertexts (2 * nMax - 2) none payload.nodeCiphertexts =
      .ok (payload.nodeCiphertexts.map .ofWire) := by
    refine checkNodeCiphertexts_ok (fun ct hct => ?_) ?_ (by simp)
    · obtain ⟨hsource, htarget, hpk, hkem, hps⟩ := hcts.1 ct hct
      exact ⟨hsource, htarget, hpk, hkem, hps⟩
    · exact List.pairwise_map.mp (List.isChain_iff_pairwise.mp hcts.2)
  have hnodes : (OrdMap.ofList (payload.newPublicKeys.map wireKey)).keys =
      (OrdSet.ofList payload.pathNodes.tail).keys := by
    have hentries : (OrdMap.ofList (payload.newPublicKeys.map wireKey)).entries =
        payload.newPublicKeys.map wireKey :=
      OrdMap.entries_ofList (List.pairwise_map.mpr hkeys.sorted)
    have hkeysOf : (OrdSet.ofList payload.pathNodes.tail).keys =
        payload.newPublicKeys.map (·.node) :=
      OrdSet.keys_ofList (List.pairwise_map.mpr hkeys.sorted) fun node => h.keys_perm.mem_iff
    rw [hkeysOf, OrdMap.keys, hentries, List.map_map]
    rfl
  simp only [checkCoverPayload, Except.bind_eq_ok, Except.ensure_eq_ok, hpathOk, hkeysOk, hctsOk,
    Except.ok_bind]
  refine ⟨(), hpath.1, (), ?_, (), hnodes, rfl⟩
  rw [OrdSet.size_ofList h.tail_nodup, hkeys.1]

def ParsedBarrierUpdate.shared (update : ParsedBarrierUpdate) : Accept.ParsedBarrierUpdate where
  barrierVersion := update.barrierVersion
  prevBarrierVersion := update.prevBarrierVersion
  treeSize := update.treeSize
  updaterSlotIndex := update.updaterSlotIndex
  updaterSlotGeneration := update.updaterSlotGeneration
  revocationRootsHash := update.revocationRootsHash
  kemTreeHashBefore := update.kemTreeHashBefore
  kemTreeHashAfter := update.kemTreeHashAfter

end Client

def ParsedBarrierUpdate.shared (update : ParsedBarrierUpdate) (barrierVersion : Nat) :
    Accept.ParsedBarrierUpdate where
  barrierVersion := barrierVersion
  prevBarrierVersion := update.prevBarrierVersion
  treeSize := update.treeSize
  updaterSlotIndex := update.updaterSlotIndex
  updaterSlotGeneration := update.updaterSlotGeneration
  revocationRootsHash := update.revocationRootsHash
  kemTreeHashBefore := update.kemTreeHashBefore
  kemTreeHashAfter := update.kemTreeHashAfter

/-- The server and the client read the same as the gate, the path of the updater's
slot, and one new key for each inner node of that path. -/
structure ReadersAgree (nMax : Nat) (gate : Accept.ParsedBarrierUpdate)
    (server : ParsedBarrierUpdate) (client : Client.ParsedBarrierUpdate) : Prop where
  server_fields : server.shared gate.barrierVersion = gate
  client_fields : client.shared = gate
  server_path : Client.barrierPathNodes nMax gate.updaterSlotIndex = .ok server.pathNodes
  client_path : Client.barrierPathNodes nMax gate.updaterSlotIndex = .ok client.pathNodes
  server_keys : (server.newPublicKeys.map (·.1)).Perm (server.pathNodes.filter (· < nMax - 1))
  client_keys : client.newPublicKeys.entries = server.newPublicKeys

structure DecodedUpdate (dec : WireDecoder) (header : HeaderMap) (nMax : Nat) where
  raw : Bytes
  update : BarrierUpdateWire
  payload : KemTreeCoverPayloadWire
  roots : Bytes32
  before : Bytes32
  after : Bytes32
  header_eq : header.get? HDR_BARRIER_UPDATE = some (.bytes raw)
  update_eq : dec.barrierUpdate raw = some update
  mode_eq : update.mode = "barrier-v1"
  treeSize_eq : update.treeSize = nMax
  payload_eq : dec.coverPayload update.coverPayload = some payload
  wellFormed : payload.WellFormed nMax
  roots_eq : toBytes32 update.revocationRootsHash = some roots
  before_eq : toBytes32 update.kemTreeHashBefore = some before
  after_eq : toBytes32 update.kemTreeHashAfter = some after
  powerOfTwo : isPowerOfTwo nMax = true
  bounded : 2 * nMax ≤ U64_MAX

namespace DecodedUpdate
variable {dec : WireDecoder} {header : HeaderMap} {nMax : Nat} (d : DecodedUpdate dec header nMax)

def gate : Accept.ParsedBarrierUpdate where
  barrierVersion := d.update.barrierVersion
  prevBarrierVersion := d.update.prevBarrierVersion
  treeSize := d.update.treeSize
  updaterSlotIndex := d.payload.updaterSlotIndex
  updaterSlotGeneration := d.payload.updaterSlotGeneration
  revocationRootsHash := d.roots
  kemTreeHashBefore := d.before
  kemTreeHashAfter := d.after

def server : ParsedBarrierUpdate where
  prevBarrierVersion := d.update.prevBarrierVersion
  updaterSlotIndex := d.payload.updaterSlotIndex
  updaterSlotGeneration := d.payload.updaterSlotGeneration
  treeSize := d.update.treeSize
  revocationRootsHash := d.roots
  kemTreeHashBefore := d.before
  kemTreeHashAfter := d.after
  pathNodes := d.payload.pathNodes
  nodeCiphertexts := d.payload.nodeCiphertexts.map fun ct => ⟨ct.source, ct.target, ct.targetPkHash⟩
  newPublicKeys := d.payload.newPublicKeys.map fun key => (key.node, key.ek)

def client : Client.ParsedBarrierUpdate where
  barrierVersion := d.update.barrierVersion
  prevBarrierVersion := d.update.prevBarrierVersion
  treeSize := d.update.treeSize
  revocationRootsHash := d.roots
  kemTreeHashBefore := d.before
  kemTreeHashAfter := d.after
  updaterSlotIndex := d.payload.updaterSlotIndex
  updaterSlotGeneration := d.payload.updaterSlotGeneration
  pathNodes := d.payload.pathNodes
  nodeCiphertexts := d.payload.nodeCiphertexts.map .ofWire
  newPublicKeys := OrdMap.ofList (d.payload.newPublicKeys.map Client.wireKey)

theorem server_reads : parseBarrierUpdate dec header nMax = .ok (some d.server) := by
  simp only [parseBarrierUpdate, d.header_eq, d.update_eq, d.payload_eq, vecTo32, d.roots_eq,
    d.before_eq, d.after_eq, Except.ofOption, Except.ok_bind, Except.bind_eq_ok, Except.ensure_eq_ok]
  exact ⟨(), ⟨d.powerOfTwo, d.bounded⟩, (), ⟨d.mode_eq, d.treeSize_eq⟩, (), d.wellFormed, rfl⟩

theorem client_reads (hbound : nMax ≤ 65536) {maxBytes : Nat} (hlen : d.raw.length ≤ maxBytes) :
    Client.parseBarrierUpdateForRecover dec d.raw nMax maxBytes = .ok d.client := by
  have hvalid : Client.ValidNMax nMax := ⟨d.powerOfTwo, hbound⟩
  simp only [Client.parseBarrierUpdateForRecover, Client.toArray32, hvalid.validate, d.update_eq,
    d.payload_eq, d.roots_eq, d.before_eq, d.after_eq,
    Client.checkCoverPayload_wellFormed d.wellFormed, Except.ofOption, Except.ok_bind,
    Except.bind_eq_ok, Except.ensure_eq_ok]
  exact ⟨(), hlen, (), d.mode_eq, (), d.treeSize_eq, rfl⟩

theorem agree (hbound : nMax ≤ 65536) : ReadersAgree nMax d.gate d.server d.client := by
  have hvalid : Client.ValidNMax nMax := ⟨d.powerOfTwo, hbound⟩
  have hpath : Client.barrierPathNodes nMax d.payload.updaterSlotIndex =
      .ok d.payload.pathNodes := by
    rw [d.wellFormed.1.pathNodes_eq]
    exact hvalid.pathNodes d.wellFormed.1.1
  refine ⟨rfl, rfl, hpath, hpath, ?_, ?_⟩
  · have hperm := d.wellFormed.keys_perm
    rw [d.wellFormed.tail_eq_inner] at hperm
    simpa [server, Function.comp_def] using hperm
  · exact OrdMap.entries_ofList (List.pairwise_map.mpr d.wellFormed.2.2.1.sorted)

end DecodedUpdate

theorem decoded_of_gate {dec : WireDecoder} {header : HeaderMap} {nMax maxBytes : Nat}
    {gate : Accept.ParsedBarrierUpdate}
    (h : Accept.parseBarrierUpdateFromHeader dec header nMax maxBytes = .ok gate) :
    ∃ d : DecodedUpdate dec header nMax, d.gate = gate ∧ d.raw.length ≤ maxBytes := by
  simp only [Accept.parseBarrierUpdateFromHeader, headerBytesOr, Accept.vec32,
    Except.bind_eq_ok, Except.ensure_eq_ok, Except.ofOption_eq_ok, Except.pure_eq_ok] at h
  obtain ⟨_, ⟨hpower, hsize⟩, raw, hraw, _, hlen, update, hupdate, _, ⟨hmode, htree⟩, payload,
    hpayload, _, hwf, roots, hroots, before, hbefore, after, hafter, rfl⟩ := h
  have hheader : header.get? HDR_BARRIER_UPDATE = some (.bytes raw) := by
    obtain ⟨value, hvalue, hbytes⟩ := Option.bind_eq_some_iff.mp hraw
    cases value with
    | bytes b => rw [hvalue, Option.some.inj hbytes]
    | _ => cases hbytes
  exact ⟨⟨raw, update, payload, roots, before, after, hheader, hupdate, hmode, htree, hpayload, hwf,
    hroots, hbefore, hafter, hpower, hsize⟩, rfl, hlen⟩

/-- An update that the gate accepts is accepted by the server and by a client whose
size limit is at least that of the gate, and all three read the same. -/
theorem barrier_update_readers_agree (dec : WireDecoder) (header : HeaderMap)
    (nMax maxBytes clientMaxBytes : Nat) (gate : Accept.ParsedBarrierUpdate)
    (hbound : nMax ≤ 65536) (hlimit : maxBytes ≤ clientMaxBytes)
    (h : Accept.parseBarrierUpdateFromHeader dec header nMax maxBytes = .ok gate) :
    ∃ raw server client, header.get? HDR_BARRIER_UPDATE = some (.bytes raw) ∧
      parseBarrierUpdate dec header nMax = .ok (some server) ∧
      Client.parseBarrierUpdateForRecover dec raw nMax clientMaxBytes = .ok client ∧
      ReadersAgree nMax gate server client := by
  obtain ⟨d, rfl, hlen⟩ := decoded_of_gate h
  exact ⟨d.raw, d.server, d.client, d.header_eq, d.server_reads,
    d.client_reads hbound (hlen.trans hlimit), d.agree hbound⟩

def twoSlotDecoder : WireDecoder where
  barrierUpdate _ := some {
    mode := "barrier-v1"
    barrierVersion := 1
    prevBarrierVersion := 0
    treeSize := 2
    revocationRootsHash := (Bytes32.fill 1).val
    kemTreeHashBefore := (Bytes32.fill 2).val
    kemTreeHashAfter := (Bytes32.fill 3).val
    coverPayload := [] }
  coverPayload _ := some {
    updaterSlotIndex := 0
    updaterSlotGeneration := 4
    pathNodes := [1, 0]
    revokedLeafIndicesHint := none
    nodeCiphertexts := []
    newPublicKeys := [⟨0, List.replicate 1184 7⟩] }
  historyCommitment _ := none

def twoSlotHeader : HeaderMap := OrdMap.empty.insert HDR_BARRIER_UPDATE (.bytes [])

def twoSlotGate : Accept.ParsedBarrierUpdate :=
  ⟨1, 0, 2, 0, 4, .fill 1, .fill 2, .fill 3⟩

theorem barrier_update_readers_agree_twoSlots :
    Accept.parseBarrierUpdateFromHeader twoSlotDecoder twoSlotHeader 2 64 = .ok twoSlotGate ∧
    ∃ raw server client, twoSlotHeader.get? HDR_BARRIER_UPDATE = some (.bytes raw) ∧
      parseBarrierUpdate twoSlotDecoder twoSlotHeader 2 = .ok (some server) ∧
      Client.parseBarrierUpdateForRecover twoSlotDecoder raw 2 64 = .ok client ∧
      ReadersAgree 2 twoSlotGate server client := by
  have hgate : Accept.parseBarrierUpdateFromHeader twoSlotDecoder twoSlotHeader 2 64 =
      .ok twoSlotGate := by decide +kernel
  exact ⟨hgate, barrier_update_readers_agree twoSlotDecoder twoSlotHeader 2 64 64 twoSlotGate
    (by decide) (Nat.le_refl 64) hgate⟩

end CityG
