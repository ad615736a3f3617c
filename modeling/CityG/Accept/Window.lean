import CityG.Bytes
import CityG.Errors
import CityG.Lib.OrdMap
import CityG.Lib.Stateful

/-!
# The multi-head window

Accepted heads live under a window identifier for `ttl` ticks. Time is the tick
counter of the acceptance clock; a tick counts as one second against `ttl`.
-/

namespace CityG

structure AcceptClock where
  nextTick : Nat
  last : Nat
  deriving DecidableEq

def AcceptClock.new : AcceptClock := ⟨0, 0⟩

def AcceptClock.tick (clock : AcceptClock) : AcceptClock :=
  ⟨min (clock.nextTick + 1) U64_MAX, clock.nextTick⟩

structure HeadRecord where
  weEpochId : Bytes32
  msphfHpCommit : Bytes32
  seedCtxHash : Bytes32
  rhoCommit : Bytes32
  seedCommit : Bytes32
  xkHash : Bytes32
  joinDeltaRoot : Bytes32
  revokedSinceRoot : Bytes32
  revokedRoot : Bytes32
  acceptSeq : Nat
  acceptTime : Nat
  deriving DecidableEq

structure MultiHeadWindow where
  hMax : Nat
  ttl : Nat
  heads : OrdMap Bytes (List HeadRecord)
  /-- Reverse index from an epoch to its window. -/
  weidIndex : OrdMap Bytes32 Bytes
  deriving DecidableEq

def windowFull : FreezeError := ⟨925, "mh_window_full"⟩
def mergeInvalid : FreezeError := ⟨927, "mh_merge_invalid"⟩

def isSortedUnique (heads : List Bytes32) : Bool := heads ≠ [] ∧ heads.IsChain (· < ·)

namespace MultiHeadWindow

def new (hMax ttl : Nat) : MultiHeadWindow := ⟨hMax, ttl, .empty, .empty⟩

section Read
variable (w : MultiHeadWindow)

def headsAt (wid : Bytes) : List HeadRecord := (w.heads.get? wid).getD []

def activeHeads (wid : Bytes) : Nat := (w.headsAt wid).length

def findHead (wid : Bytes) (weid : Bytes32) : Option HeadRecord :=
  (w.headsAt wid).find? fun record => record.weEpochId = weid

def findHeadWindow (weid : Bytes32) : Option Bytes := w.weidIndex.get? weid

def keep (now : Nat) (record : HeadRecord) : Bool := now - record.acceptTime ≤ w.ttl

def dropExpired (now : Nat) (records : List HeadRecord) : OrdMap Bytes32 Bytes :=
  (records.filter fun record => !w.keep now record).foldl
    (fun index record => index.erase record.weEpochId) w.weidIndex

/-- Expire the heads of one window, creating its entry if there is none. -/
def prune (wid : Bytes) (now : Nat) : MultiHeadWindow :=
  { w with
    heads := w.heads.insert wid ((w.headsAt wid).filter (w.keep now))
    weidIndex := w.dropExpired now (w.headsAt wid) }

def pruneAll (now : Nat) : MultiHeadWindow :=
  { w with
    heads := w.heads.filterMap fun records =>
      if (records.filter (w.keep now)).isEmpty then none else some (records.filter (w.keep now))
    weidIndex := w.dropExpired now w.heads.values.flatten }

def setTtl (ttl now : Nat) : MultiHeadWindow := { w with ttl }.pruneAll now

def push (wid : Bytes) (record : HeadRecord) : MultiHeadWindow :=
  { w with
    heads := w.heads.insert wid (w.headsAt wid ++ [record])
    weidIndex := w.weidIndex.insert record.weEpochId wid }

def retire (wid : Bytes) (weid : Bytes32) : MultiHeadWindow :=
  { w with
    heads := w.heads.insert wid ((w.headsAt wid).eraseP fun record => record.weEpochId = weid)
    weidIndex := w.weidIndex.erase weid }

def removeIfEmpty (wid : Bytes) : MultiHeadWindow :=
  if w.headsAt wid = [] then { w with heads := w.heads.erase wid } else w

end Read

def pushPruned (wid : Bytes) (record : HeadRecord) : EStateM FreezeError MultiHeadWindow Unit :=
  fun w =>
    if w.hMax ≤ w.activeHeads wid then .error windowFull w else .ok () (w.push wid record)

def acceptHead (wid : Bytes) (record : HeadRecord) (now : Nat) :
    EStateM FreezeError MultiHeadWindow Unit := do
  modify (·.prune wid now)
  pushPruned wid { record with acceptTime := now }

/-- Heads retired before a missing one stay retired. -/
def retireHeads (wid : Bytes) : List Bytes32 → EStateM FreezeError MultiHeadWindow Unit
  | [] => pure ()
  | head :: rest => fun w =>
    if (w.findHead wid head).isSome then retireHeads wid rest (w.retire wid head)
    else .error mergeInvalid w

def acceptMerge (widOld widNew : Bytes) (mhHeads : List Bytes32) (record : HeadRecord)
    (now : Nat) : EStateM FreezeError MultiHeadWindow Unit :=
  if isSortedUnique mhHeads then do
    modify (·.prune widOld now)
    retireHeads widOld mhHeads
    if widOld = widNew then pushPruned widOld { record with acceptTime := now }
    else do
      modify (·.removeIfEmpty widOld)
      modify (·.prune widNew now)
      pushPruned widNew { record with acceptTime := now }
  else throw mergeInvalid

theorem headsAt_insert (w : MultiHeadWindow) (wid wid' : Bytes) (records : List HeadRecord)
    (index : OrdMap Bytes32 Bytes) :
    headsAt { w with heads := w.heads.insert wid records, weidIndex := index } wid' =
      if wid' = wid then records else w.headsAt wid' := by
  simp only [headsAt, OrdMap.get?_insert]
  split <;> rfl

theorem headsAt_pruneAll (w : MultiHeadWindow) (now : Nat) (wid : Bytes) :
    (w.pruneAll now).headsAt wid = (w.headsAt wid).filter (w.keep now) := by
  simp only [pruneAll, headsAt, OrdMap.get?_filterMap]
  cases w.heads.get? wid with
  | none => rfl
  | some records =>
    simp only [Option.bind_some, Option.getD_some]
    split
    · next hempty => exact (List.isEmpty_iff.mp hempty).symm
    · rfl

theorem headsAt_removeIfEmpty (w : MultiHeadWindow) (wid : Bytes) :
    (w.removeIfEmpty wid).headsAt = w.headsAt := by
  funext wid'
  unfold removeIfEmpty
  split
  · next hempty =>
      by_cases heq : wid' = wid
      · rw [heq, hempty]
        simp [headsAt]
      · simp [headsAt, heq]
  · rfl

end MultiHeadWindow

end CityG
