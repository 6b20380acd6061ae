/-!
# Reported events

What the edit box reports while it works: one constructor for each kind of event, with the
quantities that belong to it. `Event.record` lays an event out as a log record with a severity, a
topic, a message and named fields.
-/

namespace EditBox

/-- Severity of a log record. -/
inductive Severity where
  | trace | debug | info | warn
  deriving DecidableEq, Repr

/-- Value of a named field of a log record. -/
inductive FieldValue where
  | number (n : Nat)
  | flag (b : Bool)
  | word (s : String)
  deriving DecidableEq, Repr

/-- Log record of one event. -/
structure LogRecord where
  severity : Severity
  topic : String
  message : String
  fields : List (String × FieldValue)
  deriving DecidableEq, Repr

/-- Events of the text being edited. -/
inductive EditEvent where
  /-- Characters inserted, and the caret after them. -/
  | inserted (count caret : Nat)
  /-- A range deleted. -/
  | deleted (start stop : Nat)
  deriving DecidableEq, Repr

/-- Events of the undo history. -/
inductive HistoryEvent where
  | skipped (undoDepth redoDepth caret : Nat)
  | pushed (undoDepth redoDepth caret : Nat)
  | trimmed (capacity : Nat)
  | topUpdated (caret : Nat)
  | redoCleared
  | atBaseline
  | undone (undoDepth redoDepth : Nat)
  | redone (undoDepth redoDepth : Nat)
  | reset
  deriving DecidableEq, Repr

/-- Events of commands. -/
inductive CommandEvent where
  /-- A keyboard command without focus. -/
  | ignored (command : String)
  /-- A command finished. -/
  | finished (command : String) (dirty textChanged : Bool) (caret : Nat)
  | inserted (count caret : Nat)
  | rangeDeleted (start stop : Nat)
  /-- A backward or forward deletion was tried. -/
  | deletion (op : String) (byWord changed : Bool)
  | moved (motion : String) (start target : Nat) (shift : Bool)
  | pressed (offset count : Nat)
  | clipboard (op : String) (count : Nat)
  | undone (undoDepth : Nat)
  | redone (redoDepth : Nat)
  deriving DecidableEq, Repr

/-- Events of the settings file. -/
inductive SettingsEvent where
  | loaded
  | missing
  | unusable
  | undoLimitRaised (raw raised : Nat)
  | minContentWidthRaised (raw raised : Nat)
  deriving DecidableEq, Repr

/-- Everything the edit box reports. -/
inductive Event where
  | edit (e : EditEvent)
  | history (e : HistoryEvent)
  /-- The rows were laid out anew. -/
  | relaid (rows logicalLines contentWidth : Nat) (degraded : Bool) (revision : Nat)
  | command (e : CommandEvent)
  /-- A frame was assembled. -/
  | frameBuilt (rows selectionRects : Nat) (caret : Bool)
  | settings (e : SettingsEvent)
  deriving DecidableEq, Repr

/-- Record of an edit. -/
def EditEvent.record : EditEvent → LogRecord
  | inserted count caret =>
      ⟨.trace, "state.edit", "edit",
        [("op", .word "insert"), ("chars", .number count), ("caret", .number caret)]⟩
  | deleted start stop =>
      ⟨.trace, "state.edit", "edit",
        [("op", .word "delete"), ("start", .number start), ("end", .number stop)]⟩

/-- Record of a history event. -/
def HistoryEvent.record (e : HistoryEvent) : LogRecord :=
  let entry (message : String) (fields : List (String × FieldValue)) : LogRecord :=
    ⟨.trace, "state.undo", message, fields⟩
  match e with
  | skipped undoDepth redoDepth caret =>
      entry "snapshot_dedupe_skip"
        [("undo_depth", .number undoDepth), ("redo_depth", .number redoDepth),
          ("caret", .number caret)]
  | pushed undoDepth redoDepth caret =>
      entry "push_snapshot"
        [("undo_depth", .number undoDepth), ("redo_depth", .number redoDepth),
          ("caret", .number caret)]
  | trimmed capacity => entry "undo_stack_trimmed" [("capacity", .number capacity)]
  | topUpdated caret => entry "top_caret_updated" [("caret", .number caret)]
  | redoCleared => entry "redo_stack_cleared_on_new_edit" []
  | atBaseline => entry "undo_at_baseline" []
  | undone undoDepth redoDepth =>
      entry "undo_pop" [("undo_depth", .number undoDepth), ("redo_depth", .number redoDepth)]
  | redone undoDepth redoDepth =>
      entry "redo_pop" [("undo_depth", .number undoDepth), ("redo_depth", .number redoDepth)]
  | reset => entry "history_reset" []

/-- Record of a command event. -/
def CommandEvent.record (e : CommandEvent) : LogRecord :=
  let entry (message : String) (fields : List (String × FieldValue)) : LogRecord :=
    ⟨.trace, "actions.dispatch", message, fields⟩
  match e with
  | ignored command => entry "ignored_unfocused" [("cmd", .word command)]
  | finished command dirty textChanged caret =>
      entry "dispatch"
        [("cmd", .word command), ("dirty", .flag dirty), ("text_changed", .flag textChanged),
          ("caret", .number caret)]
  | inserted count caret =>
      entry "edit" [("op", .word "insert"), ("chars", .number count), ("caret", .number caret)]
  | rangeDeleted start stop =>
      entry "edit" [("op", .word "delete_range"), ("start", .number start), ("end", .number stop)]
  | deletion op byWord changed =>
      entry "edit" [("op", .word op), ("word", .flag byWord), ("changed", .flag changed)]
  | moved motion start target shift =>
      entry "motion"
        [("op", .word "move"), ("kind", .word motion), ("from", .number start),
          ("to", .number target), ("shift", .flag shift)]
  | pressed offset count =>
      entry "mouse" [("op", .word "press"), ("offset", .number offset), ("count", .number count)]
  | clipboard op count => entry "clipboard" [("op", .word op), ("chars", .number count)]
  | undone undoDepth => entry "undo" [("op", .word "undo"), ("undo_depth", .number undoDepth)]
  | redone redoDepth => entry "redo" [("op", .word "redo"), ("redo_depth", .number redoDepth)]

/-- Record of a settings event. -/
def SettingsEvent.record : SettingsEvent → LogRecord
  | loaded => ⟨.info, "config", "config_loaded", []⟩
  | missing => ⟨.info, "config", "config_missing_using_defaults", []⟩
  | unusable => ⟨.warn, "config", "config_unusable_using_defaults", []⟩
  | undoLimitRaised raw raised =>
      ⟨.info, "config", "undo_limit_clamped", [("raw", .number raw), ("clamped", .number raised)]⟩
  | minContentWidthRaised raw raised =>
      ⟨.info, "config", "min_content_width_clamped",
        [("raw", .number raw), ("clamped", .number raised)]⟩

/-- Log record of an event. -/
def Event.record : Event → LogRecord
  | edit e => e.record
  | history e => e.record
  | relaid rows logicalLines contentWidth degraded revision =>
      ⟨.debug, "model.layout", "layout_recomputed",
        [("rows", .number rows), ("logical_lines", .number logicalLines),
          ("content_width", .number contentWidth), ("degraded", .flag degraded),
          ("revision", .number revision)]⟩
  | command e => e.record
  | frameBuilt rows selectionRects caret =>
      ⟨.trace, "render", "frame_built",
        [("rows", .number rows), ("selection_rects", .number selectionRects),
          ("caret", .flag caret)]⟩
  | settings e => e.record

end EditBox
