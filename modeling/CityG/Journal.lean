import CityG.Bytes
import CityG.Lib.Frames
import CityG.Lib.Run

/-!
# The server journal

The journal file is opened for appending and never truncated. An entry is
written as its length in four little-endian bytes followed by the bundle's
CBOR; a crash can leave an initial part of the frame being written.
-/

namespace CityG

namespace ServerJournal

abbrev Disk := Option Bytes

def «open» (disk : Disk) : Disk := some (disk.getD [])

def frame (bytes : Bytes) : Bytes := Frames.frame 4 bytes

def append (disk : Disk) (bytes : Bytes) : Disk := some (disk.getD [] ++ frame bytes)

def loadEntries : Disk → List Bytes
  | none => []
  | some buf => Frames.parse 4 buf.length buf

theorem loadEntries_loop (buf : Bytes) :
    loadEntries (some buf) =
      if 4 ≤ buf.length then
        if (buf.drop 4).length < Frames.ofLE (buf.take 4) then []
        else (buf.drop 4).take (Frames.ofLE (buf.take 4)) ::
          loadEntries (some ((buf.drop 4).drop (Frames.ofLE (buf.take 4))))
      else [] := by
  cases hlen : buf.length with
  | zero => simp [loadEntries, hlen, Frames.parse]
  | succ n =>
    have hrest : ((buf.drop 4).drop (Frames.ofLE (buf.take 4))).length ≤ n := by
      simp only [List.length_drop]
      omega
    simp only [loadEntries, hlen, Frames.parse]
    rw [Frames.parse_fuel (by decide) hrest le_rfl]

end ServerJournal

structure JournalState where
  disk : ServerJournal.Disk
  isOpen : Bool
  completed : List Bytes
  deriving DecidableEq, Repr

inductive JournalStep where
  | «open»
  | append (bytes : Bytes)
  | crash (bytes : Bytes) (written : Nat)
  deriving DecidableEq, Repr

namespace JournalState

def init : JournalState := ⟨none, false, []⟩

def step (s : JournalState) : JournalStep → Option JournalState
  | .open => some { s with disk := ServerJournal.open s.disk, isOpen := true }
  | .append bytes =>
    if s.isOpen then
      some { s with
        disk := ServerJournal.append s.disk bytes
        completed := s.completed ++ [bytes] }
    else none
  | .crash bytes written =>
    if s.isOpen ∧ written < (ServerJournal.frame bytes).length then
      some { s with
        disk := some (s.disk.getD [] ++ (ServerJournal.frame bytes).take written)
        isOpen := false }
    else none

def NoTornTail (s : JournalState) : Prop := s.disk.getD [] = Frames.frames 4 s.completed

/-- An append that writes anything, completed or not, starts after a complete
frame, and its entry's length fits the four length bytes. -/
def WritesAtFrameEnd (s : JournalState) : JournalStep → Prop
  | .open => True
  | .append bytes => s.NoTornTail ∧ bytes.length < 2 ^ 32
  | .crash bytes written => written = 0 ∨ s.NoTornTail ∧ bytes.length < 2 ^ 32

structure Framed (s : JournalState) : Prop where
  lengths : ∀ e ∈ s.completed, e.length < 256 ^ 4
  content : ∃ tail, s.disk.getD [] = Frames.frames 4 s.completed ++ tail ∧
    ∀ m, Frames.parse 4 m tail = []

theorem framed_init : init.Framed := by
  refine ⟨by simp [init], [], rfl, ?_⟩
  intro m
  cases m <;> rfl

theorem Framed.step {s s' : JournalState} {a : JournalStep} (h : s.Framed)
    (hguard : s.WritesAtFrameEnd a) (hs : s.step a = some s') : s'.Framed := by
  cases a with
  | «open» =>
    obtain rfl := Option.some.inj hs
    exact ⟨h.lengths, h.content⟩
  | append bytes =>
    simp only [JournalState.step, Option.ite_none_right_eq_some, Option.some.injEq] at hs
    obtain ⟨_, rfl⟩ := hs
    obtain ⟨hend, hlen⟩ := hguard
    refine ⟨?_, [], ?_, fun m => by cases m <;> rfl⟩
    · intro e he
      rcases List.mem_append.mp he with he | he
      · exact h.lengths e he
      · rw [List.mem_singleton.mp he]
        exact hlen
    · have hdisk : s.disk.getD [] = Frames.frames 4 s.completed := hend
      simp [ServerJournal.append, ServerJournal.frame, hdisk, Frames.frames]
  | crash bytes written =>
    simp only [JournalState.step, Option.ite_none_right_eq_some, Option.some.injEq] at hs
    obtain ⟨⟨_, hwritten⟩, rfl⟩ := hs
    rcases hguard with rfl | ⟨hend, hlen⟩
    · exact ⟨h.lengths, by simpa using h.content⟩
    · refine ⟨h.lengths, (ServerJournal.frame bytes).take written, ?_, ?_⟩
      · have hdisk : s.disk.getD [] = Frames.frames 4 s.completed := hend
        simp [hdisk]
      · intro m
        exact Frames.parse_torn m written bytes hlen hwritten

theorem Framed.loadEntries {s : JournalState} (h : s.Framed) :
    ServerJournal.loadEntries s.disk = s.completed := by
  obtain ⟨tail, hdisk, htail⟩ := h.content
  cases hd : s.disk with
  | none =>
    rw [hd] at hdisk
    have hnil : Frames.frames 4 s.completed = [] :=
      (List.append_eq_nil_iff.mp hdisk.symm).1
    have hle := Frames.length_le_frames (w := 4) (by decide) s.completed
    rw [hnil] at hle
    simpa [ServerJournal.loadEntries] using (List.length_eq_zero_iff.mp (by simpa using hle)).symm
  | some buf =>
    rw [hd] at hdisk
    obtain rfl : buf = Frames.frames 4 s.completed ++ tail := hdisk
    have hle := Frames.length_le_frames (w := 4) (by decide) s.completed
    exact Frames.parse_frames _ _ _ h.lengths htail (by simp; omega)

end JournalState

/-- In every run whose appends all start after a complete frame and fit the
length field, the journal loads exactly the completed entries, in order. -/
theorem journal_loads_completed (s : JournalState)
    (h : Run.Reach (· = JournalState.init) JournalState.step JournalState.WritesAtFrameEnd s) :
    ServerJournal.loadEntries s.disk = s.completed := by
  have hframed : s.Framed := h.invariant
    (fun s hs => hs ▸ JournalState.framed_init) (fun s a s' hi hg hs => hi.step hg hs)
  exact hframed.loadEntries

theorem journal_loads_completed_torn :
    ServerJournal.loadEntries (some [1, 0, 0, 0, 7, 2]) = [[7]] := by
  have h0 : Run.Reach (· = JournalState.init) JournalState.step JournalState.WritesAtFrameEnd
      ⟨some [], true, []⟩ := .next .open (.start rfl) trivial rfl
  have h1 : Run.Reach (· = JournalState.init) JournalState.step JournalState.WritesAtFrameEnd
      ⟨some [1, 0, 0, 0, 7], true, [[7]]⟩ := .next (.append [7]) h0 ⟨rfl, by decide⟩ rfl
  have h2 : Run.Reach (· = JournalState.init) JournalState.step JournalState.WritesAtFrameEnd
      ⟨some [1, 0, 0, 0, 7, 2], false, [[7]]⟩ :=
    .next (.crash [9, 9] 1) h1 (.inr ⟨rfl, by decide⟩) rfl
  exact journal_loads_completed _ h2

/-- One torn byte before an append: the entry appended after the restart is
lost, although its append completed. -/
theorem journal_loses_entry_after_torn_tail :
    ∃ s, Run.exec JournalState.step JournalState.init
        [.open, .crash [9, 9] 1, .open, .append [7]] = some s ∧
      s.completed = [[7]] ∧ ServerJournal.loadEntries s.disk = [] := by
  refine ⟨⟨some [2, 1, 0, 0, 0, 7], true, [[7]]⟩, by decide, rfl, by decide⟩

end CityG
