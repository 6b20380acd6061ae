import EditBox.Proofs.Box.Queries
import EditBox.Proofs.Box.Reach
import EditBox.Proofs.Layout.Window

/-!
# Effects of commands

What a command can make of a sound box. Either it carries out an edit that the buffer counts and
scrolls the caret into view (`Edits`), or it leaves the text and its history alone and does one of
a few things to the rest (`Effect`). `executes` says so of every command.
-/

namespace EditBox

open EditBox.Layout EditBox.Text

variable {α : Type}

/-- Selected characters. -/
def Editor.selected (e : Editor) : List Char :=
  (e.text.drop e.selection.range.1).take (e.selection.range.2 - e.selection.range.1)

/-- The ends of a selection differ if a character is selected. -/
theorem Editor.hasSelection_iff (e : Editor) :
    e.hasSelection = true ↔ e.selection.range.1 < e.selection.range.2 := by
  simp only [hasSelection, Selection.isEmpty, Selection.range, Bool.not_eq_true',
    beq_eq_false_iff_ne]
  omega

/-- Moving the caret keeps the history. -/
theorem Editor.history_moveCaret (e : Editor) (target : Nat) (shift : Bool) :
    (e.moveCaret target shift).history = e.history := by
  cases shift <;> rfl

namespace Box

variable {box box' origin : Box} {c : Command} {edit? : Option Editor.Operation} {dirty : Bool}

/-- Edit of the text that a command asks of the editor. An empty clipboard is not pasted. -/
def edit (box : Box) (clipboard : Clipboard) : Command → Option Editor.Operation
  | .insertText text => some (.insertText text)
  | .newline => some (.insertText ['\n'])
  | .tab => some (.insertText (List.replicate box.options.tabSpaces ' '))
  | .deleteRange start stop => some (.deleteRange start stop)
  | .backspace word => some (if word then .deleteWordBack else .backspace)
  | .deleteForward word => some (if word then .deleteWordForward else .deleteForward)
  | .cut => some .deleteSelection
  | .paste => if clipboard.isEmpty then none else some (.insertText (normalize clipboard))
  | .undo => some .undo
  | .redo => some .redo
  | _ => none

/-- Clipboard after a command: copying and cutting fill it with the selected characters, if there
are any. -/
def clipboardAfter (box : Box) (clipboard : Clipboard) : Command → Clipboard
  | .copy | .cut => if box.editor.hasSelection then box.editor.selected else clipboard
  | _ => clipboard

/-- Where a scroll may go without leaving the text: towards its start, or as far as its rows
allow. -/
def ScrollsTo (box : Box) (scroll : Nat) : Prop :=
  scroll ≤ box.view.scroll ∨ ∃ rows lineHeight limit, box.Typeset rows lineHeight ∧
    box.view.maxScroll rows.length lineHeight = .ok limit ∧ scroll ≤ limit

/-- The same box with the same editor, but laid out, scrolled, or with another pointer or focus. -/
structure Turned (box origin : Box) : Prop where
  sound : origin.Sound
  editor_eq : origin.editor = box.editor
  view_eq : origin.view = { box.view with scroll := origin.view.scroll }
  options_eq : origin.options = box.options
  measure_eq : origin.measure = box.measure
  scrollsTo : box.ScrollsTo origin.view.scroll

/-- A box that was turned has the same rows. -/
theorem Turned.sameRows (h : box.Turned origin) : box.SameRows origin :=
  ⟨congrArg Editor.buffer h.editor_eq, h.view_eq, h.options_eq, h.measure_eq⟩

/-- A box that was turned has the same rows with another editor on the same text. -/
theorem Turned.sameRows_moved (h : box.Turned origin) {editor : Editor}
    (hb : editor.buffer = box.editor.buffer) :
    box.SameRows { origin with editor := editor } :=
  ⟨hb, h.view_eq, h.options_eq, h.measure_eq⟩

/-- A laid out box with another pointer or focus. -/
theorem turned_of_sound {layout : LayoutCache} (hs : (box.laid layout).Sound) (pointer : Pointer)
    (focused : Bool) :
    box.Turned { box with layout := layout, pointer := pointer, focused := focused } :=
  ⟨hs, rfl, rfl, rfl, rfl, .inl (Nat.le_refl _)⟩

private theorem Turned.laid (h : box.Turned origin) {layout : LayoutCache}
    (hs : (origin.laid layout).Sound) : box.Turned (origin.laid layout) :=
  ⟨hs, h.editor_eq, h.view_eq, h.options_eq, h.measure_eq, h.scrollsTo⟩

/-- A box that was laid out may be scrolled. -/
theorem Current.turned {layout : LayoutCache} (h : (box.laid layout).Current) {view : View}
    (hview : view = { box.view with scroll := view.scroll }) (hs : box.ScrollsTo view.scroll) :
    box.Turned { box.laid layout with view := view } :=
  ⟨h.sound, rfl, hview, rfl, rfl, hs⟩

/-- The caret was looked up on the rows of the text and the view scrolled to it. -/
inductive Revealed (box : Box) : Box → Prop where
  | intro {layout : LayoutCache} {pos : VisualPos} {view : View}
      (current : (box.laid layout).Current)
      (place : offsetToVisual layout box.editor.buffer box.measurer box.editor.caret = .ok pos)
      (hview : box.view.ensureVisible pos.y layout.lineHeight layout.rowCount = .ok view) :
      Revealed box { box.laid layout with view := view }

/-- What a look for the caret makes of a sound box, and whether it says that the view scrolled. -/
theorem Sound.of_ensureCaretVisible (hs : box.Sound) {scrolled : Bool}
    (h : box.ensureCaretVisible.result = .ok (box', scrolled)) :
    box.Revealed box' ∧ scrolled = (box'.view.scroll != box.view.scroll) := by
  rw [ensureCaretVisible, caretVisual, offsetVisual, bind_assoc] at h
  obtain ⟨layout, hcurrent, h⟩ := hs.exists_of_layOut h
  simp only [bind_assoc, pure_bind, Run.result_bind, Run.result_liftM] at h
  obtain ⟨pos, hplace, h⟩ := Fault.bind_eq_ok_iff.mp h
  obtain ⟨view, hview, h⟩ := Fault.bind_eq_ok_iff.mp h
  cases h
  exact ⟨.intro hcurrent hplace hview, rfl⟩

/-- What scrolling the caret into view makes of a sound box. -/
theorem Sound.revealed (hs : box.Sound) (h : box.reveal.result = .ok (box', dirty)) :
    box.Revealed box' ∧ dirty = true := by
  rw [reveal, Run.result_bind] at h
  obtain ⟨⟨seen, scrolled⟩, hseen, h⟩ := Fault.bind_eq_ok_iff.mp h
  cases h
  exact ⟨(hs.of_ensureCaretVisible hseen).1, rfl⟩

/-- An edit that the buffer counts, and the caret scrolled into view. -/
inductive Edits (box : Box) (op : Editor.Operation) : Box → Prop where
  | intro {box' : Box} {after : Editor} {answer : Editor.Response}
      (ha : (box.editor.apply op).result = .ok (after, answer))
      (hlt : box.editor.buffer.revision < after.buffer.revision)
      (hr : Revealed { box with editor := after } box') : Edits box op box'

/-- What a command that leaves the text alone makes of a box, and whether that is visible. -/
inductive Effect (box : Box) : Command → Box → Bool → Prop where
  /-- Nothing happens but to the pointer. -/
  | rest {c : Command} (pointer : Pointer) : Effect box c { box with pointer := pointer } false
  /-- The caret is moved and scrolled into view. -/
  | point {c : Command} {origin box' : Box} {op : Editor.Operation} {after : Editor}
      {answer : Editor.Response} (ho : box.Turned origin)
      (ha : (box.editor.apply op).result = .ok (after, answer))
      (hb : after.buffer = box.editor.buffer) (hh : after.history = box.editor.history)
      (hr : Revealed { origin with editor := after } box') : Effect box c box' true
  | selectAll : Effect box .selectAll { box with editor := box.editor.selectAll } true
  /-- The view is scrolled. -/
  | scroll {c : Command} {origin : Box} (ho : box.Turned origin)
      (he : origin.focused = box.focused) :
      Effect box c origin (origin.view.scroll != box.view.scroll)
  /-- The selection and the focus are dropped. -/
  | defocus {c : Command} (pointer : Pointer) :
      Effect box c
        { box with
          editor := box.editor.collapseSelection
          pointer := pointer
          focused := false }
        (box.editor.hasSelection || box.focused)
  | focus {c : Command} : Effect box c { box with focused := true } !box.focused

/-- A command carries out its edit, or leaves the text alone. -/
def Acts (box : Box) (c : Command) (edit? : Option Editor.Operation) (r : Run (Box × Bool)) :
    Prop :=
  ∀ p, r.result = .ok p →
    (p.2 = true ∧ ∃ op, edit? = some op ∧ box.Edits op p.1) ∨ box.Effect c p.1 p.2

namespace Acts

/-- Nothing happens. -/
theorem rest (box : Box) : Acts box c edit? (pure (box, false)) := by
  rintro p ⟨⟩
  exact .inr (.rest box.pointer)

/-- An edit that was counted is revealed. -/
theorem edit {op : Editor.Operation} {after : Editor} {answer : Editor.Response} (hs : box.Sound)
    (ha : (box.editor.apply op).result = .ok (after, answer))
    (hlt : box.editor.buffer.revision < after.buffer.revision) :
    Acts box c (some op) (Box.reveal { box with editor := after }) := by
  rintro ⟨box', dirty⟩ hr
  have hedited := hs.of_comesFrom (.inr hlt) box.view box.pointer box.focused
  obtain ⟨hrevealed, rfl⟩ := hedited.revealed hr
  exact .inl ⟨rfl, op, rfl, .intro ha hlt hrevealed⟩

/-- A caret that was moved is revealed. -/
theorem point {op : Editor.Operation} {after : Editor} {answer : Editor.Response}
    (ho : box.Turned origin) (ha : (box.editor.apply op).result = .ok (after, answer))
    (hb : after.buffer = box.editor.buffer) (hh : after.history = box.editor.history) :
    Acts box c edit? (Box.reveal { origin with editor := after }) := by
  rintro ⟨box', dirty⟩ hr
  have hkept : after.buffer.ComesFrom origin.editor.buffer :=
    .inl (hb.trans (congrArg Editor.buffer ho.editor_eq).symm)
  have hmoved := ho.sound.of_comesFrom hkept origin.view origin.pointer origin.focused
  obtain ⟨hrevealed, rfl⟩ := hmoved.revealed hr
  exact .inr (.point ho ha hb hh hrevealed)

/-- A command may begin with a run of anything. -/
theorem after {r : Run α} {f : α → Run (Box × Bool)}
    (hf : ∀ a, r.result = .ok a → Acts box c edit? (f a)) : Acts box c edit? (r >>= f) := by
  intro p hp
  rw [Run.result_bind] at hp
  obtain ⟨a, ha, hp⟩ := Fault.bind_eq_ok_iff.mp hp
  exact hf a ha p hp

/-- A command may begin with a layout. -/
theorem layOut (hs : box.Sound) {f : Box → Run (Box × Bool)}
    (hf : ∀ layout, (box.laid layout).Current → Acts box c edit? (f (box.laid layout))) :
    Acts box c edit? (box.ensureLayout >>= f) := by
  intro p hp
  obtain ⟨layout, hcurrent, hp⟩ := hs.exists_of_layOut hp
  exact hf layout hcurrent p hp

/-- A command may begin with a query. -/
theorem query {r : Run (Box × α)} {f : Box × α → Run (Box × Bool)} (h : Queries origin r)
    (hf : ∀ layout a, (origin.laid layout).Sound →
      Acts box c edit? (f (origin.laid layout, a))) : Acts box c edit? (r >>= f) := by
  intro p hp
  obtain ⟨layout, a, hs, hp⟩ := h.exists_of_bind hp
  exact hf layout a hs p hp

/-- Either side of a choice. -/
theorem choose {q : Prop} [Decidable q] {x y : Run (Box × Bool)} (hx : q → Acts box c edit? x)
    (hy : ¬ q → Acts box c edit? y) : Acts box c edit? (if q then x else y) := by
  split
  · next h => exact hx h
  · next h => exact hy h

end Acts

section Edits

variable (hw : box.editor.WellFormed) (hs : box.Sound)
include hw hs

/-- An operation that says whether it did something, and the caret scrolled into view if it did. -/
theorem acts_edit (op : Editor.Operation) (hq : box.editor.snapshot.answer op = none)
    {r : Run (Editor × Bool)} (hop : box.editor.apply op = Editor.apply.answer r)
    {f : Editor × Bool → Run (Box × Bool)}
    (hf : ∀ p, (f p).result = if p.2 then (Box.reveal { box with editor := p.1 }).result
      else .ok ({ box with editor := p.1 }, false)) : Acts box c (some op) (r >>= f) := by
  refine .after fun ⟨after, done⟩ hr ↦ ?_
  have ha : (box.editor.apply op).result = .ok (after, .flag done) := by
    rw [hop, Editor.result_answer, hr]
    rfl
  have hflag := (Editor.apply_step hw.within ha).of_flag hq
  intro p hp
  rw [hf] at hp
  cases done with
  | true => exact Acts.edit hs ha hflag p hp
  | false =>
    obtain rfl : after = box.editor := hflag
    cases hp
    exact .inr (.rest box.pointer)

private theorem acts_insert {text : List Char} (hne : text ≠ [] ∨ box.editor.hasSelection = true)
    {f : Editor → Run (Box × Bool)}
    (hf : ∀ e, (f e).result = (Box.reveal { box with editor := e }).result) :
    Acts box c (some (.insertText text)) (box.editor.insertText text >>= f) := by
  refine .after fun after hr p hp ↦ ?_
  have ha : (box.editor.apply (.insertText text)).result = .ok (after, .nothing) := by
    rw [Editor.apply, Run.result_bind, hr]
    rfl
  rw [Editor.result_insertText, Editor.insertionRange_eq hw.within] at hr
  cases hr
  rw [hf] at hp
  have hsplice : box.editor.selection.range.1 ≠ box.editor.selection.range.2 ∨ text ≠ [] :=
    hne.symm.imp (fun hsel ↦ Nat.ne_of_lt (box.editor.hasSelection_iff.mp hsel)) id
  exact Acts.edit hs ha (box.editor.buffer.revision_lt_splice hsplice) p hp

private theorem acts_insertAtCaret (text : List Char) :
    Acts box c (some (.insertText text)) (box.insertAtCaret text) := by
  refine .choose (fun _ ↦ .rest box) fun hne ↦ acts_insert hw hs ?_ fun e ↦ ?_
  · by_cases ht : text = []
    · right
      simpa [ht] using hne
    · exact .inl ht
  · rw [Run.result_bind]
    rfl

private theorem acts_deleteRange (start stop : Nat) :
    Acts box c (some (.deleteRange start stop)) (box.deleteRange start stop) := by
  refine acts_edit hw hs (.deleteRange start stop) rfl rfl fun p ↦ ?_
  rw [Run.result_ite, Run.result_bind]
  rfl

private theorem acts_backspace (word : Bool) :
    Acts box c (some (if word then .deleteWordBack else .backspace)) (box.backspace word) := by
  cases word with
  | true =>
    refine acts_edit hw hs .deleteWordBack rfl rfl fun p ↦ ?_
    rw [Run.result_bind, ← Run.result_pure, ← Run.result_ite]
    rfl
  | false =>
    refine acts_edit hw hs .backspace rfl rfl fun p ↦ ?_
    rw [Run.result_bind, ← Run.result_pure, ← Run.result_ite]
    rfl

private theorem acts_deleteForward (word : Bool) :
    Acts box c (some (if word then .deleteWordForward else .deleteForward))
      (box.deleteForward word) := by
  cases word with
  | true =>
    refine acts_edit hw hs .deleteWordForward rfl rfl fun p ↦ ?_
    rw [Run.result_bind, ← Run.result_pure, ← Run.result_ite]
    rfl
  | false =>
    refine acts_edit hw hs .deleteForward rfl rfl fun p ↦ ?_
    rw [Run.result_bind, ← Run.result_pure, ← Run.result_ite]
    rfl

private theorem acts_undo : Acts box c (some .undo) box.undo := by
  refine acts_edit hw hs .undo rfl rfl fun p ↦ ?_
  rw [Run.result_ite, Run.result_bind]
  rfl

private theorem acts_redo : Acts box c (some .redo) box.redo := by
  refine acts_edit hw hs .redo rfl rfl fun p ↦ ?_
  rw [Run.result_ite, Run.result_bind]
  rfl

private theorem acts_paste (clipboard : Clipboard) :
    Acts box c (box.edit clipboard .paste) (box.paste clipboard) := by
  refine .choose (fun _ ↦ .rest box) fun hne ↦ .after fun _ _ ↦ ?_
  rw [edit, if_neg hne]
  refine acts_insert hw hs (.inl fun hn ↦ hne ?_) fun e ↦ rfl
  rw [List.isEmpty_iff]
  revert hn
  fun_cases normalize clipboard <;> simp

end Edits

section Motions

private theorem acts_moveCaret (ho : box.Turned origin) (target : Nat) (shift : Bool) :
    Acts box c edit?
      (Box.reveal { origin with editor := origin.editor.moveCaret target shift }) := by
  have ha : (box.editor.apply (.moveCaret target shift)).result =
      .ok (box.editor.moveCaret target shift, .nothing) := rfl
  rw [ho.editor_eq]
  exact .point ho ha (box.editor.buffer_moveCaret target shift)
    (box.editor.history_moveCaret target shift)

private theorem acts_selectRange (ho : box.Turned origin) (anchor caret : Nat) :
    Acts box c edit?
      (Box.reveal { origin with editor := origin.editor.selectRange anchor caret }) := by
  have ha : (box.editor.apply (.selectRange anchor caret)).result =
      .ok (box.editor.selectRange anchor caret, .nothing) := rfl
  rw [ho.editor_eq]
  exact .point ho ha rfl rfl

private theorem acts_moveRow (ho : box.Turned origin) (target : VisualPos → Nat) :
    Acts box c edit? (do
      let (box, pos) ← origin.caretVisual
      let (box, offset) ← box.rowXToOffset (target pos) (Bounded.toCoordinate pos.x)
      Box.reveal { box with editor := box.editor.moveCaret offset false }) := by
  refine .query ho.sound.queries_caretVisual fun layout pos hs ↦ ?_
  refine .query (hs.queries_rowXToOffset _ _) fun layout' offset hs' ↦ ?_
  exact acts_moveCaret (ho.laid hs') _ _

variable (hs : box.Sound)
include hs

private theorem acts_move (direction : Direction) (mods : Modifiers) :
    Acts box c edit? (box.move direction mods) := by
  refine .query (hs.queries_motionTarget direction mods.ctrl) fun layout target hs ↦ ?_
  exact .after fun _ _ ↦ acts_moveCaret (turned_of_sound hs box.pointer box.focused) _ _

private theorem acts_press (x y : Int) (time : Nat) (mods : Modifiers) :
    Acts box c edit? (box.press x y time mods) := by
  have hfocused : Sound { box with focused := true } := hs
  refine .query (hfocused.queries_pointToOffset x y .truncate) fun layout offset hs ↦ ?_
  refine .after fun _ _ ↦ ?_
  have hlaid : (box.laid layout).Sound := hs
  have hturned (pointer : Pointer) := turned_of_sound hlaid pointer true
  dsimp only [laid]
  generalize box.pointer.press time box.options.multiClickMs = pointer
  split
  · exact acts_moveCaret (hturned (pointer.beginDrag _)) offset mods.shift
  · exact .after fun _ _ ↦ acts_selectRange (hturned _) _ _
  · exact .after fun _ _ ↦ acts_selectRange (hturned _) _ _

private theorem acts_drag (x y : Int) : Acts box c edit? (box.drag x y) := by
  unfold drag
  split
  · refine .query (hs.queries_pointToOffset x y .nearest) fun layout offset hs ↦ ?_
    exact acts_selectRange (turned_of_sound hs box.pointer box.focused) _ _
  · exact .rest box

private theorem acts_wheel (delta : Int) : Acts box c edit? (box.wheel delta) := by
  refine .layOut hs fun layout hcurrent ↦ .after fun notch _ ↦ .after fun view hview ↦ ?_
  rw [Run.result_liftM] at hview
  obtain ⟨limit, hlimit, hview, hle⟩ := View.of_scrollWheel hview
  have ho := hcurrent.turned hview (.inr ⟨_, _, limit, hcurrent.typeset_of_laid, hlimit, hle⟩)
  rintro p ⟨⟩
  exact .inr (.scroll ho rfl)

private theorem acts_page (down : Bool) : Acts box c edit? (box.page down) := by
  refine .layOut hs fun layout hcurrent ↦ ?_
  cases down with
  | true =>
    refine .after fun view hview ↦ .after fun content _ ↦ ?_
    rw [Run.result_liftM] at hview
    obtain ⟨limit, hlimit, hview, hle⟩ := View.of_pageDown hview
    have hscroll : box.ScrollsTo view.scroll :=
      .inr ⟨_, _, limit, hcurrent.typeset_of_laid, hlimit, hle⟩
    exact acts_moveRow (hcurrent.turned hview hscroll) fun pos ↦
      min (pos.row + max (content / max layout.lineHeight 1) 1) (layout.rowCount - 1)
  | false =>
    refine .after fun view hview ↦ .after fun content _ ↦ ?_
    rw [Run.result_liftM] at hview
    obtain ⟨hview, hle⟩ := View.of_pageUp hview
    exact acts_moveRow (hcurrent.turned hview (.inl hle)) fun pos ↦
      pos.row - max (content / max layout.lineHeight 1) 1

end Motions

/-- What a command made of a box and the clipboard. -/
structure Executes (box : Box) (clipboard : Clipboard) (c : Command)
    (p : Box × Clipboard × Bool) : Prop where
  acts : (p.2.2 = true ∧ ∃ op, box.edit clipboard c = some op ∧ box.Edits op p.1) ∨
    box.Effect c p.1 p.2.2
  clipboard_eq : p.2.1 = box.clipboardAfter clipboard c

private theorem Executes.keepClipboard {clipboard : Clipboard} {r : Run (Box × Bool)}
    {p : Box × Clipboard × Bool} (hc : box.clipboardAfter clipboard c = clipboard)
    (h : Acts box c (box.edit clipboard c) r)
    (hp : (Box.keepClipboard clipboard r).result = .ok p) : box.Executes clipboard c p := by
  rw [Box.keepClipboard, Run.result_bind] at hp
  obtain ⟨q, hq, hp⟩ := Fault.bind_eq_ok_iff.mp hp
  cases hp
  exact ⟨h q hq, hc.symm⟩

section Execute

variable (hw : box.editor.WellFormed) (hs : box.Sound) (clipboard : Clipboard)
  {p : Box × Clipboard × Bool}
include hw

/-- The selected characters are read. -/
theorem selectedText_eq : box.editor.selectedText =
    .ok (if box.editor.hasSelection then some box.editor.selected else none) := by
  rw [Editor.selectedText_eq hw.within]
  simp only [← Editor.hasSelection_iff]
  rfl

private theorem executes_copy (hp : (box.copy clipboard).result = .ok p) :
    box.Executes clipboard .copy p := by
  rw [copy, Run.result_bind, Run.result_liftM, selectedText_eq hw, Fault.ok_bind] at hp
  cases hsel : box.editor.hasSelection with
  | true =>
    simp only [hsel, if_true] at hp
    cases hp
    exact ⟨.inr (.rest box.pointer), by simp only [clipboardAfter, hsel, if_true]⟩
  | false =>
    simp only [hsel] at hp
    cases hp
    exact ⟨.inr (.rest box.pointer), by simp [clipboardAfter, hsel]⟩

include hs

private theorem executes_cut (hp : (box.cut clipboard).result = .ok p) :
    box.Executes clipboard .cut p := by
  rw [cut, Run.result_bind, Run.result_liftM, selectedText_eq hw, Fault.ok_bind] at hp
  cases hsel : box.editor.hasSelection with
  | true =>
    have hlt := box.editor.hasSelection_iff.mp hsel
    have hdeleted := Editor.result_deleteSelection hw.within
    rw [Editor.deleted, if_pos hlt] at hdeleted
    have ha : (box.editor.apply .deleteSelection).result =
        .ok (box.editor.spliced box.editor.selection.range.1 box.editor.selection.range.2 [],
          .flag true) := by
      rw [Editor.apply, Editor.result_answer, hdeleted]
      rfl
    have hcounted := (Editor.apply_step hw.within ha).of_flag rfl
    simp only [hsel, if_true, reportCommand, Run.result_bind, Run.result_report, hdeleted,
      Fault.ok_bind] at hp
    obtain ⟨⟨box', dirty⟩, hr, hp⟩ := Fault.bind_eq_ok_iff.mp hp
    cases hp
    exact ⟨Acts.edit hs ha hcounted _ hr, by simp only [clipboardAfter, hsel, if_true]⟩
  | false =>
    simp only [hsel] at hp
    cases hp
    exact ⟨.inr (.rest box.pointer), by simp [clipboardAfter, hsel]⟩

/-- Any command. -/
theorem executes (hp : (box.execute clipboard c).result = .ok p) :
    box.Executes clipboard c p := by
  cases c with
  | insertText text => exact .keepClipboard rfl (acts_insertAtCaret hw hs text) hp
  | newline => exact .keepClipboard rfl (acts_insertAtCaret hw hs _) hp
  | tab =>
    refine .keepClipboard rfl (.after fun text ht ↦ ?_) hp
    rw [Run.result_liftM, tabText] at ht
    split at ht
    · cases ht
      exact acts_insertAtCaret hw hs _
    · cases ht
  | deleteRange start stop => exact .keepClipboard rfl (acts_deleteRange hw hs start stop) hp
  | backspace word => exact .keepClipboard rfl (acts_backspace hw hs word) hp
  | deleteForward word => exact .keepClipboard rfl (acts_deleteForward hw hs word) hp
  | move direction mods => exact .keepClipboard rfl (acts_move hs direction mods) hp
  | selectAll =>
    cases hp
    exact ⟨.inr .selectAll, rfl⟩
  | copy => exact executes_copy hw clipboard hp
  | cut => exact executes_cut hw hs clipboard hp
  | paste => exact .keepClipboard rfl (acts_paste hw hs clipboard) hp
  | undo => exact .keepClipboard rfl (acts_undo hw hs) hp
  | redo => exact .keepClipboard rfl (acts_redo hw hs) hp
  | mousePress x y time mods => exact .keepClipboard rfl (acts_press hs x y time mods) hp
  | mouseDrag x y => exact .keepClipboard rfl (acts_drag hs x y) hp
  | mouseRelease =>
    cases hp
    exact ⟨.inr (.rest _), rfl⟩
  | wheel delta => exact .keepClipboard rfl (acts_wheel hs delta) hp
  | pageUp => exact .keepClipboard rfl (acts_page hs false) hp
  | pageDown => exact .keepClipboard rfl (acts_page hs true) hp
  | escape =>
    cases hp
    exact ⟨.inr (.defocus _), rfl⟩
  | blur =>
    cases hp
    exact ⟨.inr (.defocus _), rfl⟩
  | focus =>
    cases hp
    exact ⟨.inr .focus, rfl⟩

end Execute

end Box

end EditBox
