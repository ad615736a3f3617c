import CityG.Bytes
import CityG.Lib.Run
import Mathlib.Data.List.Basic
import Mathlib.Logic.Function.Basic

/-!
# The cache of forward-secrecy tokens

`record_tau` and `cached_tau` of the forward-secrecy state hand over to this
queue. Instants are `Nat` and each call reads the clock once; `duration_since`
is the truncated difference.
-/

namespace CityG

abbrev TauKey := Bytes32 × Nat

structure TauEntry where
  key : TauKey
  tau : Bytes32
  createdAt : Nat
  deriving DecidableEq

structure TauCache where
  entries : List TauEntry
  retention : Nat
  maxEntries : Nat
  deriving DecidableEq

namespace TauCache

def new (retention maxEntries : Nat) : TauCache := ⟨[], retention, max maxEntries 1⟩

def expired (c : TauCache) (now : Nat) (e : TauEntry) : Bool :=
  decide (c.retention < now - e.createdAt)

def withEntries (c : TauCache) (entries : List TauEntry) : TauCache := { c with entries }

def prune (c : TauCache) (now : Nat) : TauCache :=
  let fresh := c.entries.dropWhile (c.expired now)
  c.withEntries (fresh.drop (fresh.length - c.maxEntries))

def refresh (key : TauKey) (tau : Bytes32) (now : Nat) : List TauEntry → Option (List TauEntry)
  | [] => none
  | e :: rest =>
    if e.key = key then some (⟨e.key, tau, now⟩ :: rest)
    else (refresh key tau now rest).map (e :: ·)

def record (c : TauCache) (now : Nat) (weid : Bytes32) (fsEc : Nat) (tau : Bytes32) : TauCache :=
  let c := c.prune now
  match refresh (weid, fsEc) tau now c.entries with
  | some entries => c.withEntries entries
  | none => (c.withEntries (c.entries ++ [⟨(weid, fsEc), tau, now⟩])).prune now

def get (c : TauCache) (now : Nat) (weid : Bytes32) (fsEc : Nat) : Option Bytes32 × TauCache :=
  let c := c.prune now
  ((c.entries.reverse.find? fun e => e.key = (weid, fsEc)).map TauEntry.tau, c)

end TauCache

inductive TauCall where
  | recordTau (weid : Bytes32) (fsEc : Nat) (tau : Bytes32)
  | cachedTau (weid : Bytes32) (fsEc : Nat)
  deriving DecidableEq

/-- The cache, the instant of the last call, and beside them when each key was
last recorded, which the code does not keep. -/
structure TauRun where
  cache : TauCache
  now : Nat
  recordedAt : TauKey → Option Nat

namespace TauRun

def start (retention maxEntries : Nat) : TauRun :=
  ⟨TauCache.new retention maxEntries, 0, fun _ => none⟩

def apply (s : TauRun) (now : Nat) : TauCall → TauRun
  | .recordTau weid fsEc tau =>
    ⟨s.cache.record now weid fsEc tau, now,
      Function.update s.recordedAt (weid, fsEc) (some now)⟩
  | .cachedTau weid fsEc => ⟨(s.cache.get now weid fsEc).2, now, s.recordedAt⟩

def step (s : TauRun) (call : Nat × TauCall) : Option TauRun :=
  if s.now ≤ call.1 then some (s.apply call.1 call.2) else none

def behind (key : TauKey) : List TauEntry → List TauEntry
  | [] => []
  | e :: rest => if e.key = key then rest else behind key rest

/-- Recording a key that is still cached leaves no older entry behind it: what
stands behind it was recorded at this very instant. -/
def RefreshesInOrder (s : TauRun) (call : Nat × TauCall) : Prop :=
  match call.2 with
  | .recordTau weid fsEc _ =>
    ∀ e ∈ behind (weid, fsEc) (s.cache.prune call.1).entries, e.createdAt = call.1
  | .cachedTau _ _ => True

instance (s : TauRun) (call : Nat × TauCall) : Decidable (RefreshesInOrder s call) := by
  unfold RefreshesInOrder
  split <;> infer_instance

end TauRun

namespace TauCache

@[simp] theorem withEntries_entries (c : TauCache) (entries : List TauEntry) :
    (c.withEntries entries).entries = entries := rfl

theorem prune_suffix (c : TauCache) (now : Nat) : (c.prune now).entries <:+ c.entries :=
  (List.drop_suffix _ _).trans (List.dropWhile_suffix _)

def Sorted (entries : List TauEntry) : Prop :=
  entries.Pairwise fun a b => a.createdAt ≤ b.createdAt

variable {now : Nat}

theorem prune_fresh {c : TauCache} (h : Sorted c.entries) :
    ∀ e ∈ (c.prune now).entries, now - e.createdAt ≤ c.retention := by
  intro e he
  have he : e ∈ c.entries.dropWhile (c.expired now) := List.mem_of_mem_drop he
  cases hq : c.entries.dropWhile (c.expired now) with
  | nil => simp [hq] at he
  | cons front rest =>
    have hsorted : Sorted (front :: rest) := hq ▸ h.sublist (List.dropWhile_sublist _)
    have hfront : c.expired now front = false := by
      have := List.head?_dropWhile_not (c.expired now) c.entries
      simpa [hq] using this
    have hlive : now - front.createdAt ≤ c.retention := by
      simpa [expired] using hfront
    rw [hq] at he
    rcases List.mem_cons.mp he with rfl | hrest
    · exact hlive
    · have := List.rel_of_pairwise_cons hsorted hrest
      omega

theorem refresh_eq_none {key : TauKey} {tau : Bytes32} {entries : List TauEntry}
    (h : refresh key tau now entries = none) : ∀ e ∈ entries, e.key ≠ key := by
  induction entries with
  | nil => simp
  | cons e rest ih =>
    by_cases hkey : e.key = key
    · simp [refresh, hkey] at h
    · simp only [refresh, hkey, if_false, Option.map_eq_none_iff] at h
      simpa [hkey] using ih h

theorem refresh_eq_some {key : TauKey} {tau : Bytes32} {entries refreshed : List TauEntry}
    (h : refresh key tau now entries = some refreshed) :
    ∃ front e, entries = front ++ e :: TauRun.behind key entries ∧ e.key = key ∧
      refreshed = front ++ ⟨key, tau, now⟩ :: TauRun.behind key entries := by
  induction entries generalizing refreshed with
  | nil => simp [refresh] at h
  | cons e rest ih =>
    by_cases hkey : e.key = key
    · refine ⟨[], e, ?_⟩
      simp only [refresh, hkey, if_true, Option.some.injEq] at h
      simp [TauRun.behind, hkey, ← h]
    · simp only [refresh, hkey, if_false, Option.map_eq_some_iff] at h
      obtain ⟨tail, htail, rfl⟩ := h
      obtain ⟨front, old, hrest, hold, rfl⟩ := ih htail
      refine ⟨e :: front, old, ?_, hold, ?_⟩
      · simpa [TauRun.behind, hkey] using hrest
      · simp [TauRun.behind, hkey]

end TauCache

namespace TauRun

open TauCache

/-- The queue is in the order of its timestamps, one entry per key, each with
the instant its key was last recorded, and none past the retention. -/
structure InOrder (retention : Nat) (s : TauRun) : Prop where
  retention_eq : s.cache.retention = retention
  sorted : Sorted s.cache.entries
  past : ∀ e ∈ s.cache.entries, e.createdAt ≤ s.now
  distinct : (s.cache.entries.map TauEntry.key).Nodup
  recorded : ∀ e ∈ s.cache.entries, s.recordedAt e.key = some e.createdAt
  fresh : ∀ e ∈ s.cache.entries, s.now - e.createdAt ≤ retention

theorem inOrder_start (retention maxEntries : Nat) :
    InOrder retention (start retention maxEntries) := by
  constructor <;> simp [start, TauCache.new, Sorted]

def pruned (s : TauRun) (now : Nat) : TauRun := ⟨s.cache.prune now, now, s.recordedAt⟩

variable {retention now : Nat} {s : TauRun}

theorem InOrder.pruned (h : InOrder retention s) (hnow : s.now ≤ now) :
    InOrder retention (s.pruned now) where
  retention_eq := h.retention_eq
  sorted := h.sorted.sublist (s.cache.prune_suffix now).sublist
  past e he := (h.past e ((s.cache.prune_suffix now).subset he)).trans hnow
  distinct := h.distinct.sublist ((s.cache.prune_suffix now).sublist.map _)
  recorded e he := h.recorded e ((s.cache.prune_suffix now).subset he)
  fresh e he := h.retention_eq ▸ prune_fresh h.sorted e he

theorem InOrder.push (h : InOrder retention s) (key : TauKey) (tau : Bytes32)
    (hnew : ∀ e ∈ s.cache.entries, e.key ≠ key) :
    InOrder retention ⟨s.cache.withEntries (s.cache.entries ++ [⟨key, tau, s.now⟩]), s.now,
      Function.update s.recordedAt key (some s.now)⟩ where
  retention_eq := h.retention_eq
  sorted := by
    refine List.pairwise_append.mpr ⟨h.sorted, List.pairwise_singleton _ _, ?_⟩
    intro e he back hback
    rw [List.mem_singleton.mp hback]
    exact h.past e he
  past := by
    intro e he
    rcases List.mem_append.mp he with he | he
    · exact h.past e he
    · rw [List.mem_singleton.mp he]
  distinct := by
    rw [withEntries_entries, List.map_append, List.nodup_append]
    refine ⟨h.distinct, by simp, ?_⟩
    intro k hk back hback
    obtain ⟨e, he, rfl⟩ := List.mem_map.mp hk
    rw [List.mem_singleton.mp hback]
    exact hnew e he
  recorded := by
    intro e he
    rcases List.mem_append.mp he with he | he
    · exact (Function.update_of_ne (hnew e he) ..).trans (h.recorded e he)
    · rw [List.mem_singleton.mp he]
      exact Function.update_self ..
  fresh := by
    intro e he
    rcases List.mem_append.mp he with he | he
    · exact h.fresh e he
    · rw [List.mem_singleton.mp he]
      simp

/-- A key is refreshed in its place; the order survives because nothing behind
it is older than this instant. -/
theorem InOrder.overwrite {cache : TauCache} {recordedAt : TauKey → Option Nat}
    {front rest : List TauEntry} {old : TauEntry} (h : InOrder retention ⟨cache, now, recordedAt⟩)
    (hentries : cache.entries = front ++ old :: rest) (tau : Bytes32)
    (hrest : ∀ e ∈ rest, e.createdAt = now) :
    InOrder retention ⟨cache.withEntries (front ++ ⟨old.key, tau, now⟩ :: rest), now,
      Function.update recordedAt old.key (some now)⟩ := by
  obtain ⟨hretention, hsorted, hpast, hdistinct, hrecorded, hfresh⟩ := h
  simp only [hentries] at hsorted hpast hdistinct hrecorded hfresh
  have hother : ∀ e ∈ front ++ rest, e.key ≠ old.key := by
    intro e he heq
    have hperm : (front ++ old :: rest).Perm (old :: (front ++ rest)) := List.perm_middle
    have hnodup := (hperm.map TauEntry.key).nodup_iff.mp hdistinct
    exact (List.nodup_cons.mp hnodup).1 (heq ▸ List.mem_map_of_mem he)
  have hmem : ∀ e ∈ front ++ (⟨old.key, tau, now⟩ :: rest : List TauEntry),
      e = ⟨old.key, tau, now⟩ ∨ e ∈ front ++ rest := by
    intro e he
    simp only [List.mem_append, List.mem_cons] at he ⊢
    tauto
  have hkept : ∀ e ∈ front ++ rest, e ∈ front ++ old :: rest := by
    intro e he
    simp only [List.mem_append, List.mem_cons] at he ⊢
    tauto
  refine ⟨hretention, ?_, ?_, ?_, ?_, ?_⟩
  · obtain ⟨hfront, hback, hcross⟩ := List.pairwise_append.mp hsorted
    refine List.pairwise_append.mpr ⟨hfront, List.pairwise_cons.mpr
      ⟨fun e he => (hrest e he).ge, (List.pairwise_cons.mp hback).2⟩, ?_⟩
    intro e he later hlater
    rcases List.mem_cons.mp hlater with rfl | hlater
    · exact hpast e (List.mem_append_left _ he)
    · exact hcross e he later (List.mem_cons_of_mem _ hlater)
  · intro e he
    rcases hmem e he with rfl | he
    · exact le_rfl
    · exact hpast e (hkept e he)
  · simpa using hdistinct
  · intro e he
    rcases hmem e he with rfl | he
    · exact Function.update_self ..
    · exact (Function.update_of_ne (hother e he) ..).trans (hrecorded e (hkept e he))
  · intro e he
    rcases hmem e he with rfl | he
    · simp
    · exact hfresh e (hkept e he)

theorem InOrder.apply {call : TauCall} (h : InOrder retention s) (hnow : s.now ≤ now)
    (horder : RefreshesInOrder s (now, call)) :
    InOrder retention (s.apply now call) := by
  have hpruned := h.pruned hnow
  cases call with
  | cachedTau weid fsEc => exact hpruned
  | recordTau weid fsEc tau =>
    cases hfound : refresh (weid, fsEc) tau now (s.cache.prune now).entries with
    | some refreshed =>
      obtain ⟨front, old, hentries, hold, rfl⟩ := refresh_eq_some hfound
      have := hpruned.overwrite hentries tau horder
      simpa only [TauRun.apply, TauCache.record, hfound, hold] using this
    | none =>
      have := (hpruned.push (weid, fsEc) tau (refresh_eq_none hfound)).pruned le_rfl
      simpa only [TauRun.apply, TauCache.record, hfound, TauRun.pruned] using this

theorem InOrder.step {s' : TauRun} {call : Nat × TauCall} (h : InOrder retention s)
    (horder : RefreshesInOrder s call) (hstep : s.step call = some s') : InOrder retention s' := by
  unfold TauRun.step at hstep
  split at hstep
  · exact Option.some.inj hstep ▸ h.apply ‹_› horder
  · cases hstep

theorem mem_of_get {c : TauCache} {weid : Bytes32} {fsEc : Nat} {tau : Bytes32}
    (h : (c.get now weid fsEc).1 = some tau) :
    ∃ e ∈ (c.prune now).entries, e.key = (weid, fsEc) ∧ e.tau = tau := by
  obtain ⟨e, hfind, rfl⟩ := Option.map_eq_some_iff.mp h
  exact ⟨e, List.mem_reverse.mp (List.mem_of_find?_eq_some hfind),
    by simpa using List.find?_some hfind, rfl⟩

/-- In every run of calls at non-decreasing times in which no refresh overtakes
an older entry, no entry outlives the retention past a call, and a token is
answered only within the retention of the last time its key was recorded. -/
theorem tau_gone_after_retention {retention maxEntries : Nat} {s : TauRun}
    (h : Run.Reach (· = start retention maxEntries) step RefreshesInOrder s) :
    (∀ e ∈ s.cache.entries, s.now - e.createdAt ≤ retention) ∧
      ∀ now weid fsEc tau, s.now ≤ now → (s.cache.get now weid fsEc).1 = some tau →
        ∃ recorded, s.recordedAt (weid, fsEc) = some recorded ∧ now - recorded ≤ retention := by
  have hs : InOrder retention s := h.invariant
    (fun _ hs => hs ▸ inOrder_start retention maxEntries)
    (fun _ _ _ hs horder hstep => hs.step horder hstep)
  refine ⟨hs.fresh, ?_⟩
  intro now weid fsEc tau hnow hget
  obtain ⟨e, he, hkey, -⟩ := mem_of_get hget
  have hpruned := hs.pruned hnow
  exact ⟨e.createdAt, hkey ▸ hpruned.recorded e he, hpruned.fresh e he⟩

def orderlyCalls : List (Nat × TauCall) :=
  [(0, .recordTau (.fill 1) 7 (.fill 21)), (1, .recordTau (.fill 2) 7 (.fill 22)),
    (5, .recordTau (.fill 2) 7 (.fill 23)), (11, .cachedTau (.fill 2) 7)]

theorem tau_gone_after_orderly_calls :
    ∃ s, Run.exec (Run.guarded step RefreshesInOrder) (start 10 4) orderlyCalls = some s ∧
      ∀ e ∈ s.cache.entries, s.now - e.createdAt ≤ 10 := by
  have hstart : Run.Reach (· = start 10 4) step RefreshesInOrder (start 10 4) := .start rfl
  obtain ⟨s, hs⟩ : ∃ s, Run.exec (Run.guarded step RefreshesInOrder) (start 10 4) orderlyCalls =
      some s := ⟨_, rfl⟩
  exact ⟨s, hs, (tau_gone_after_retention (Run.reach_of_exec hstart hs)).1⟩

/-- A refresh of the older of two keys shields the other: eleven instants after
it was recorded, with a retention of ten, its token is still answered. -/
theorem tau_outlives_retention_behind_refresh :
    ∃ s, Run.exec step (start 10 4)
        [(0, .recordTau (.fill 1) 7 (.fill 21)), (1, .recordTau (.fill 2) 7 (.fill 22)),
          (5, .recordTau (.fill 1) 7 (.fill 23)), (12, .cachedTau (.fill 2) 7)] = some s ∧
      s.cache.entries = [⟨(.fill 1, 7), .fill 23, 5⟩, ⟨(.fill 2, 7), .fill 22, 1⟩] ∧
      s.now = 12 ∧ s.recordedAt (.fill 2, 7) = some 1 ∧
      (s.cache.get 12 (.fill 2) 7).1 = some (.fill 22) :=
  ⟨_, rfl, by decide, rfl, by decide, by decide⟩

end TauRun

end CityG
