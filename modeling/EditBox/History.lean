import EditBox.Event
import EditBox.Selection

/-!
# Undo history

Two stacks of snapshots, newest first. The newest undo entry describes the text as it stands: an
edit settles that entry on the state before it and pushes the state after it. A push that repeats
the text and caret of the newest entry is skipped, and the oldest entry goes when the stack
outgrows its capacity, so one entry always remains to return to.

Each operation is a plain function; what it reports is a second function of the same arguments.
-/

namespace EditBox

/-- Number of undo entries kept unless the settings say otherwise. -/
def defaultUndoLimit : Nat := 200

/-- Text, caret and selection at one moment. -/
structure Snapshot where
  text : List Char
  caret : Nat
  selection : Selection
  deriving DecidableEq, Repr

/-- Whether two snapshots have the same text and caret. -/
def Snapshot.samePoint (s t : Snapshot) : Bool := s.caret == t.caret && s.text == t.text

/-- Bounded undo history; both stacks hold their newest entry first. -/
structure History where
  undos : List Snapshot
  redos : List Snapshot
  capacity : Nat
  /-- Snapshots that repeated the newest entry. -/
  skipped : Nat
  deriving DecidableEq, Repr

namespace History

/-- History of a text that has not been edited; a capacity of 0 counts as 1. -/
def start (baseline : Snapshot) (capacity : Nat) : History :=
  ⟨[baseline], [], max capacity 1, 0⟩

/-- Number of undo entries, the one for the present state included. -/
def undoDepth (h : History) : Nat := h.undos.length

/-- Number of redo entries. -/
def redoDepth (h : History) : Nat := h.redos.length

/-- Whether there is a state to go back to. -/
def canUndo (h : History) : Bool := 1 < h.undos.length

/-- Whether there is a state to go forward to. -/
def canRedo (h : History) : Bool := !h.redos.isEmpty

/-- Whether the newest undo entry has the text and caret of a snapshot. -/
def repeatsTop (h : History) (s : Snapshot) : Bool :=
  match h.undos with
  | [] => false
  | top :: _ => top.samePoint s

/-- Put a snapshot on the undo stack unless it repeats the newest entry. -/
def push (h : History) (s : Snapshot) : History :=
  if h.repeatsTop s then { h with skipped := h.skipped + 1 }
  else
    let undos := s :: h.undos
    { h with undos := if h.capacity < undos.length then undos.dropLast else undos }

/-- What `push` reports. -/
def pushEvents (h : History) (s : Snapshot) : List HistoryEvent :=
  if h.repeatsTop s then [.skipped h.undoDepth h.redoDepth s.caret]
  else
    .pushed (h.undoDepth + 1) h.redoDepth s.caret ::
      if h.capacity < h.undoDepth + 1 then [.trimmed h.capacity] else []

/-- Bring the newest undo entry up to date: where only the caret or selection differ they are
replaced there, otherwise the snapshot is pushed. -/
def settle (h : History) (s : Snapshot) : History :=
  match h.undos with
  | [] => h.push s
  | top :: rest =>
      if top.text = s.text then
        if top = s then { h with skipped := h.skipped + 1 }
        else { h with undos := s :: rest }
      else h.push s

/-- What `settle` reports. -/
def settleEvents (h : History) (s : Snapshot) : List HistoryEvent :=
  match h.undos with
  | [] => h.pushEvents s
  | top :: _ =>
      if top.text = s.text then if top = s then [] else [.topUpdated s.caret]
      else h.pushEvents s

/-- Record the state before an edit and drop what could be redone. -/
def beginEdit (h : History) (s : Snapshot) : History := { h.settle s with redos := [] }

/-- What `beginEdit` reports. -/
def beginEditEvents (h : History) (s : Snapshot) : List HistoryEvent :=
  h.settleEvents s ++ if h.redos.isEmpty then [] else [.redoCleared]

/-- Record the state after an edit. -/
def commit (h : History) (s : Snapshot) : History := h.push s

/-- What `commit` reports. -/
def commitEvents (h : History) (s : Snapshot) : List HistoryEvent := h.pushEvents s

/-- Go back one entry from the present state `s`; the second component is the state to restore. -/
def undo (h : History) (s : Snapshot) : History × Option Snapshot :=
  match h.undos with
  | _ :: top :: rest => ({ h with undos := top :: rest, redos := s :: h.redos }, some top)
  | _ => (h, none)

/-- What `undo` reports. -/
def undoEvents (h : History) : List HistoryEvent :=
  if h.canUndo then [.undone (h.undoDepth - 1) (h.redoDepth + 1)] else [.atBaseline]

/-- Go forward one entry from the present state `s`; the second component is the state to
restore. -/
def redo (h : History) (s : Snapshot) : History × Option Snapshot :=
  match h.redos with
  | [] => (h, none)
  | next :: rest => ((({ h with redos := rest }).settle s).push next, some next)

/-- What `redo` reports. -/
def redoEvents (h : History) (s : Snapshot) : List HistoryEvent :=
  match h.redos with
  | [] => []
  | next :: rest =>
      let popped := { h with redos := rest }
      .redone h.undoDepth rest.length ::
        (popped.settleEvents s ++ (popped.settle s).pushEvents next)

/-- Drop all entries and begin again from `baseline`. -/
def reset (h : History) (baseline : Snapshot) : History :=
  { h with undos := [baseline], redos := [] }

/-- What `reset` reports. -/
def resetEvents : List HistoryEvent := [.reset]

/-- A push keeps the capacity. -/
@[simp] theorem capacity_push (h : History) (s : Snapshot) : (h.push s).capacity = h.capacity := by
  unfold push
  split <;> rfl

/-- A push keeps what can be redone. -/
@[simp] theorem redos_push (h : History) (s : Snapshot) : (h.push s).redos = h.redos := by
  unfold push
  split <;> rfl

/-- Settling keeps the capacity. -/
@[simp] theorem capacity_settle (h : History) (s : Snapshot) :
    (h.settle s).capacity = h.capacity := by
  unfold settle
  split
  · exact capacity_push h s
  · split
    · split <;> rfl
    · exact capacity_push h s

/-- Settling keeps what can be redone. -/
@[simp] theorem redos_settle (h : History) (s : Snapshot) : (h.settle s).redos = h.redos := by
  unfold settle
  split
  · exact redos_push h s
  · split
    · split <;> rfl
    · exact redos_push h s

/-- There is a state to go back to exactly when undo finds one. -/
theorem canUndo_iff (h : History) (s : Snapshot) :
    h.canUndo = true ↔ (h.undo s).2.isSome = true := by
  obtain ⟨undos, redos, capacity, skipped⟩ := h
  rcases undos with _ | ⟨top, _ | ⟨next, rest⟩⟩ <;> simp [canUndo, undo]

/-- There is a state to go forward to exactly when redo finds one. -/
theorem canRedo_iff (h : History) (s : Snapshot) :
    h.canRedo = true ↔ (h.redo s).2.isSome = true := by
  obtain ⟨undos, redos, capacity, skipped⟩ := h
  rcases redos with _ | ⟨next, rest⟩ <;> simp [canRedo, redo]

end History

end EditBox
