import EditBox.Proofs.Box.Session
import EditBox.Proofs.Editor.Run
import Mathlib.Logic.Relation

/-!
# Reachable sessions

A command that does not touch the pointer keeps any property of a box that is `Lasting`: one that
lasts while the box is redrawn, its editor is operated on and the focus comes and goes. So whatever
a host does with an edit box, the editor in it is only ever operated on, and what holds of every
reachable editor holds of the editor of every reachable session, as `Session.Reachable.editor` puts
it.
-/

namespace EditBox

open EditBox.Box EditBox.Layout EditBox.Text

variable {α β : Type}

/-- Whether a command touches the pointer. -/
def Command.turnsPointer : Command → Bool
  | mousePress .. | mouseRelease | blur => true
  | _ => false

namespace Editor

variable {e e' e'' : Editor}

/-- An operation leads from one editor to another. -/
def Steps (e after : Editor) : Prop :=
  ∃ op answer, (e.apply op).result = .ok (after, answer)

/-- Operations lead from one editor to another. -/
def LeadsTo (e after : Editor) : Prop := Relation.ReflTransGen Steps e after

/-- An editor leads to itself. -/
theorem LeadsTo.refl (e : Editor) : e.LeadsTo e := Relation.ReflTransGen.refl

/-- Operations may follow each other. -/
theorem LeadsTo.trans (h : e.LeadsTo e') (h' : e'.LeadsTo e'') : e.LeadsTo e'' :=
  Relation.ReflTransGen.trans h h'

/-- A single operation. -/
theorem LeadsTo.of_apply (op : Operation) {answer : Response}
    (h : (e.apply op).result = .ok (e', answer)) : e.LeadsTo e' :=
  Relation.ReflTransGen.single ⟨op, answer, h⟩

private theorem LeadsTo.of_result (op : Operation) {r : Run (Editor × Bool)}
    (hop : e.apply op = apply.answer r) {p : Editor × Bool} (h : r.result = .ok p) :
    e.LeadsTo p.1 := by
  apply LeadsTo.of_apply op
  rw [hop, result_answer, h]
  rfl

/-- Operations on a reachable editor lead to reachable editors. -/
theorem Reachable.leadsTo (hr : e.Reachable) (h : e.LeadsTo e') : e'.Reachable := by
  induction h with
  | refl => exact hr
  | @tail mid last _ hstep ih =>
    obtain ⟨buffer, limit, ops, hmid⟩ := ih
    obtain ⟨op, answer, hop⟩ := hstep
    refine ⟨buffer, limit, ops ++ [op], ?_⟩
    rw [result_applyAll_append, hmid, Fault.ok_bind, result_applyAll_cons, hop]
    rfl

private theorem leadsTo_insertText {text : List Char} (h : (e.insertText text).result = .ok e') :
    e.LeadsTo e' := by
  apply LeadsTo.of_apply (.insertText text)
  rw [apply, Run.result_bind, h]
  rfl

private theorem leadsTo_moveCaret (e : Editor) (target : Nat) (shift : Bool) :
    e.LeadsTo (e.moveCaret target shift) :=
  .of_apply (.moveCaret target shift) rfl

private theorem leadsTo_selectRange (e : Editor) (anchor caret : Nat) :
    e.LeadsTo (e.selectRange anchor caret) :=
  .of_apply (.selectRange anchor caret) rfl

end Editor

namespace Box

variable {box : Box}

/-- The same box, but for its layout and its view. -/
structure Redrawn (box box' : Box) : Prop where
  editor_eq : box'.editor = box.editor
  pointer_eq : box'.pointer = box.pointer
  focused_eq : box'.focused = box.focused
  options_eq : box'.options = box.options
  measure_eq : box'.measure = box.measure

/-- Another layout and another view redraw a box. -/
theorem redrawn (box : Box) (layout : LayoutCache) (view : View) :
    box.Redrawn { box with layout := layout, view := view } :=
  ⟨rfl, rfl, rfl, rfl, rfl⟩

private theorem redrawn_ensureLayout {box' : Box} (h : box.ensureLayout.result = .ok box') :
    box.Redrawn box' := by
  rw [ensureLayout, Run.result_bind] at h
  obtain ⟨width, -, h⟩ := Fault.bind_eq_ok_iff.mp h
  rw [Run.result_bind] at h
  obtain ⟨layout, -, h⟩ := Fault.bind_eq_ok_iff.mp h
  cases h
  exact box.redrawn layout box.view

private theorem redrawn_ensureCaretVisible {p : Box × Bool}
    (h : box.ensureCaretVisible.result = .ok p) :
    box.Redrawn p.1 := by
  rw [ensureCaretVisible, caretVisual, offsetVisual, bind_assoc, Run.result_bind] at h
  obtain ⟨laidOut, hlaid, h⟩ := Fault.bind_eq_ok_iff.mp h
  have hl := redrawn_ensureLayout hlaid
  simp only [bind_assoc, pure_bind, Run.result_bind, Run.result_liftM] at h
  obtain ⟨pos, -, h⟩ := Fault.bind_eq_ok_iff.mp h
  obtain ⟨view, -, h⟩ := Fault.bind_eq_ok_iff.mp h
  cases h
  exact ⟨hl.editor_eq, hl.pointer_eq, hl.focused_eq, hl.options_eq, hl.measure_eq⟩

/-- Scrolling the caret into view after a command redraws a box. -/
theorem redrawn_reveal {p : Box × Bool} (h : box.reveal.result = .ok p) : box.Redrawn p.1 := by
  rw [reveal, Run.result_bind] at h
  obtain ⟨q, hq, h⟩ := Fault.bind_eq_ok_iff.mp h
  cases h
  exact (redrawn_ensureCaretVisible hq :)

/-- Bringing the scroll within the rows redraws a box. -/
theorem redrawn_clampScroll {box' : Box} (h : box.clampScroll.result = .ok box') :
    box.Redrawn box' := by
  rw [clampScroll, Run.result_bind] at h
  obtain ⟨laidOut, hlaid, h⟩ := Fault.bind_eq_ok_iff.mp h
  have hl := redrawn_ensureLayout hlaid
  rw [Run.result_bind] at h
  obtain ⟨limit, -, h⟩ := Fault.bind_eq_ok_iff.mp h
  cases h
  exact ⟨hl.editor_eq, hl.pointer_eq, hl.focused_eq, hl.options_eq, hl.measure_eq⟩

/-- A run that leaves a box with a property. -/
def Holds (R : Box → Prop) (r : Run (Box × α)) : Prop := ∀ p, r.result = .ok p → R p.1

/-- A run that does nothing to an editor but operate on it. -/
def Operates (e : Editor) (r : Run (Box × α)) : Prop :=
  ∀ p, r.result = .ok p → e.LeadsTo p.1.editor

/-- A property of boxes that lasts while a box is redrawn, its editor is operated on, and the focus
comes and goes. -/
structure Lasting (R : Box → Prop) : Prop where
  redraw {box box' : Box} (h : R box) (hr : box.Redrawn box') : R box'
  operate {box : Box} {e : Editor} (h : R box) (hl : box.editor.LeadsTo e) :
    R { box with editor := e }
  refocus {box : Box} (h : R box) (focused : Bool) : R { box with focused := focused }

variable {R : Box → Prop}

namespace Holds

/-- A result with the property. -/
theorem done {p : Box × α} (h : R p.1) : Holds R (pure p) := by
  rintro p ⟨⟩
  exact h

/-- A run goes on from the box that its first part leaves. -/
theorem andThen {r : Run (Box × α)} {f : Box × α → Run (Box × β)} (h : Holds R r)
    (hf : ∀ p, R p.1 → Holds R (f p)) : Holds R (r >>= f) := by
  intro q hq
  rw [Run.result_bind] at hq
  obtain ⟨p, hp, hq⟩ := Fault.bind_eq_ok_iff.mp hq
  exact hf p (h p hp) q hq

/-- A run that begins with anything goes on from its result. -/
theorem after {r : Run β} {f : β → Run (Box × α)}
    (hf : ∀ a, r.result = .ok a → Holds R (f a)) : Holds R (r >>= f) := by
  intro q hq
  rw [Run.result_bind] at hq
  obtain ⟨a, ha, hq⟩ := Fault.bind_eq_ok_iff.mp hq
  exact hf a ha q hq

/-- Either side of a choice. -/
theorem choose {c : Prop} [Decidable c] {x y : Run (Box × α)} (hx : Holds R x) (hy : Holds R y) :
    Holds R (if c then x else y) := by
  split
  · exact hx
  · exact hy

/-- A command that does not write the clipboard. -/
theorem keepClipboard {r : Run (Box × Bool)} (h : Holds R r) (clipboard : Clipboard) :
    Holds R (Box.keepClipboard clipboard r) :=
  h.andThen fun _ hp ↦ .done hp

end Holds

namespace Lasting

variable (hR : Lasting R) (h : R box)
include hR h

/-- A run may begin with a layout. -/
theorem layOut {f : Box → Run (Box × α)} (hf : ∀ b, R b → Holds R (f b)) :
    Holds R (box.ensureLayout >>= f) :=
  .after fun b hb ↦ hf b (hR.redraw h (redrawn_ensureLayout hb))

/-- The caret is scrolled into view. -/
theorem reveal : Holds R box.reveal := fun _ hp ↦ hR.redraw h (redrawn_reveal hp)

/-- The caret is scrolled into view after operations. -/
theorem operate_reveal {e : Editor} (hl : box.editor.LeadsTo e) :
    Holds R (Box.reveal { box with editor := e }) :=
  hR.reveal (hR.operate h hl)

/-- A run may begin with an operation that says whether it did something. -/
theorem edit (op : Editor.Operation) {r : Run (Editor × Bool)}
    (hop : box.editor.apply op = Editor.apply.answer r) {f : Editor × Bool → Run (Box × α)}
    (hf : ∀ p, R { box with editor := p.1 } → Holds R (f p)) : Holds R (r >>= f) :=
  .after fun p hp ↦ hf p (hR.operate h (.of_result op hop hp))

private theorem insertAtCaret (text : List Char) : Holds R (box.insertAtCaret text) :=
  .choose (.done h) (.after fun _ he ↦ .after fun _ _ ↦
    hR.operate_reveal h (Editor.leadsTo_insertText he))

private theorem deleteRange (start stop : Nat) : Holds R (box.deleteRange start stop) :=
  hR.edit h (.deleteRange start stop) rfl fun _ hp ↦
    .choose (.after fun _ _ ↦ hR.reveal hp) (.done hp)

private theorem backspace (word : Bool) : Holds R (box.backspace word) := by
  cases word with
  | true =>
    exact hR.edit h .deleteWordBack rfl fun _ hp ↦ .after fun _ _ ↦
      .choose (hR.reveal hp) (.done hp)
  | false =>
    exact hR.edit h .backspace rfl fun _ hp ↦ .after fun _ _ ↦ .choose (hR.reveal hp) (.done hp)

private theorem deleteForward (word : Bool) : Holds R (box.deleteForward word) := by
  cases word with
  | true =>
    exact hR.edit h .deleteWordForward rfl fun _ hp ↦ .after fun _ _ ↦
      .choose (hR.reveal hp) (.done hp)
  | false =>
    exact hR.edit h .deleteForward rfl fun _ hp ↦ .after fun _ _ ↦
      .choose (hR.reveal hp) (.done hp)

private theorem rowCount : Holds R box.rowCount := hR.layOut h fun _ hb ↦ .done hb

private theorem caretVisual : Holds R box.caretVisual :=
  hR.layOut h fun _ hb ↦ .after fun _ _ ↦ .done hb

private theorem rowXToOffset (row : Nat) (x : Int) : Holds R (box.rowXToOffset row x) :=
  hR.layOut h fun _ hb ↦ .after fun _ _ ↦ .done hb

private theorem pointToOffset (px py : Int) (rounding : RowRounding) :
    Holds R (box.pointToOffset px py rounding) :=
  hR.layOut h fun _ hb ↦ .after fun _ _ ↦ hR.rowXToOffset hb _ _

private theorem verticalTarget (down : Bool) : Holds R (box.verticalTarget down) :=
  (hR.caretVisual h).andThen fun _ hp ↦ (hR.rowCount hp).andThen fun _ hq ↦
    hR.rowXToOffset hq _ _

private theorem motionTarget (direction : Direction) (ctrl : Bool) :
    Holds R (box.motionTarget direction ctrl) := by
  have lookup (x : Except Fault Nat) : Holds R (do return (box, ← x) : Run (Box × Nat)) :=
    .after fun _ _ ↦ .done h
  cases direction with
  | up => exact hR.verticalTarget h false
  | down => exact hR.verticalTarget h true
  | left =>
    cases ctrl with
    | true => exact lookup _
    | false => exact .done h
  | right =>
    cases ctrl with
    | true => exact lookup _
    | false => exact lookup _
  | home =>
    cases ctrl with
    | true => exact .done h
    | false => exact lookup _
  | stop =>
    cases ctrl with
    | true => exact .done h
    | false => exact lookup _

private theorem move (direction : Direction) (mods : Modifiers) :
    Holds R (box.move direction mods) :=
  (hR.motionTarget h direction mods.ctrl).andThen fun _ hp ↦ .after fun _ _ ↦
    hR.operate_reveal hp (Editor.leadsTo_moveCaret _ _ _)

omit hR in
private theorem copy (clipboard : Clipboard) : Holds R (box.copy clipboard) := by
  refine .after fun text _ ↦ ?_
  cases text with
  | none => exact .done h
  | some text => exact .after fun _ _ ↦ .done h

private theorem cut (clipboard : Clipboard) : Holds R (box.cut clipboard) := by
  refine .after fun text _ ↦ ?_
  cases text with
  | none => exact .done h
  | some text =>
    refine .after fun _ _ ↦ hR.edit h .deleteSelection rfl fun _ hp ↦ ?_
    exact (hR.reveal hp).andThen fun _ hq ↦ .done hq

private theorem paste (clipboard : Clipboard) : Holds R (box.paste clipboard) :=
  .choose (.done h) (.after fun _ _ ↦ .after fun _ he ↦
    hR.operate_reveal h (Editor.leadsTo_insertText he))

private theorem undo : Holds R box.undo :=
  hR.edit h .undo rfl fun _ hp ↦ .choose (.after fun _ _ ↦ hR.reveal hp) (.done hp)

private theorem redo : Holds R box.redo :=
  hR.edit h .redo rfl fun _ hp ↦ .choose (.after fun _ _ ↦ hR.reveal hp) (.done hp)

private theorem drag (x y : Int) : Holds R (box.drag x y) := by
  unfold Box.drag
  split
  · exact (hR.pointToOffset h x y .nearest).andThen fun _ hp ↦
      hR.operate_reveal hp (Editor.leadsTo_selectRange _ _ _)
  · exact .done h

private theorem wheel (delta : Int) : Holds R (box.wheel delta) :=
  hR.layOut h fun b hb ↦ .after fun _ _ ↦ .after fun view _ ↦
    .done (hR.redraw hb (b.redrawn b.layout view))

private theorem page (down : Bool) : Holds R (box.page down) := by
  refine hR.layOut h fun b hb ↦ .choose (.after fun view _ ↦ ?_) (.after fun view _ ↦ ?_)
  all_goals
    have hview := hR.redraw hb (b.redrawn b.layout view)
    refine .after fun content _ ↦ (hR.caretVisual hview).andThen fun _ hp ↦ ?_
    refine (hR.rowXToOffset hp _ _).andThen fun _ hq ↦ ?_
    exact hR.operate_reveal hq (Editor.leadsTo_moveCaret _ _ _)

/-- Any command that does not touch the pointer. -/
theorem execute (clipboard : Clipboard) {c : Command} (hc : c.turnsPointer = false) :
    Holds R (box.execute clipboard c) := by
  cases c with
  | insertText text => exact (hR.insertAtCaret h text).keepClipboard _
  | newline => exact (hR.insertAtCaret h _).keepClipboard _
  | tab => exact .keepClipboard (.after fun text _ ↦ hR.insertAtCaret h text) _
  | deleteRange start stop => exact (hR.deleteRange h start stop).keepClipboard _
  | backspace word => exact (hR.backspace h word).keepClipboard _
  | deleteForward word => exact (hR.deleteForward h word).keepClipboard _
  | move direction mods => exact (hR.move h direction mods).keepClipboard _
  | selectAll => exact .done (hR.operate h (.of_apply .selectAll rfl))
  | copy => exact Lasting.copy h clipboard
  | cut => exact hR.cut h clipboard
  | paste => exact (hR.paste h clipboard).keepClipboard _
  | undo => exact (hR.undo h).keepClipboard _
  | redo => exact (hR.redo h).keepClipboard _
  | mouseDrag x y => exact (hR.drag h x y).keepClipboard _
  | wheel delta => exact (hR.wheel h delta).keepClipboard _
  | pageUp => exact (hR.page h false).keepClipboard _
  | pageDown => exact (hR.page h true).keepClipboard _
  | escape => exact .done (hR.refocus (hR.operate h (.of_apply .collapseSelection rfl)) false)
  | focus => exact .done (hR.refocus h true)
  | mousePress x y time mods => cases hc
  | mouseRelease => cases hc
  | blur => cases hc

private theorem press (hpoint : ∀ {b : Box}, R b → ∀ pointer, R { b with pointer := pointer })
    (x y : Int) (time : Nat) (mods : Modifiers) : Holds R (box.press x y time mods) := by
  refine (hR.pointToOffset (hR.refocus h true) x y .truncate).andThen fun p hp ↦ ?_
  have hpressed {e : Editor} (hl : p.1.editor.LeadsTo e) (pointer : Pointer) :
      R { p.1 with editor := e, pointer := pointer } := hpoint (hR.operate hp hl) pointer
  refine .after fun _ _ ↦ ?_
  split
  · exact hR.reveal (hpressed (Editor.leadsTo_moveCaret _ _ _) _)
  · exact .after fun _ _ ↦ hR.reveal (hpressed (Editor.leadsTo_selectRange _ _ _) _)
  · exact .after fun _ _ ↦ hR.reveal (hpressed (Editor.leadsTo_selectRange _ _ _) _)

/-- A command and its reply, after what the command does focus or not. -/
theorem dispatch {clipboard : Clipboard} {c : Command} (hx : Holds R (box.execute clipboard c)) :
    Holds R (box.dispatch clipboard c) := by
  refine .choose (.after fun _ _ ↦ .done h) (hx.andThen fun p hp ↦ ?_)
  refine .choose (.after fun b hb ↦ ?_) (.after fun b hb ↦ ?_)
  · exact .after fun _ _ ↦ .done (hR.redraw hp (redrawn_clampScroll hb))
  · cases hb
    exact .after fun _ _ ↦ .done hp

end Lasting

/-- What the editor was led from lasts. -/
theorem lasting_leadsTo (e : Editor) : Lasting fun box ↦ e.LeadsTo box.editor where
  redraw h hr := hr.editor_eq ▸ h
  operate h hl := h.trans hl
  refocus h _ := h

/-- Any command operates on the editor and does nothing else to it. -/
theorem operates_execute (box : Box) (clipboard : Clipboard) (c : Command) :
    Operates box.editor (box.execute clipboard c) := by
  have hR := lasting_leadsTo box.editor
  have h : box.editor.LeadsTo box.editor := .refl _
  cases hc : c.turnsPointer with
  | false => exact hR.execute h clipboard hc
  | true =>
    cases c with
    | mousePress x y time mods =>
      exact (hR.press h (fun hb _ ↦ hb) x y time mods).keepClipboard clipboard
    | mouseRelease =>
      rintro p ⟨⟩
      exact h
    | blur =>
      rintro p ⟨⟩
      exact .of_apply .collapseSelection rfl
    | _ => cases hc

/-- A command and its reply. -/
theorem operates_dispatch (box : Box) (clipboard : Clipboard) (command : Command) :
    Operates box.editor (box.dispatch clipboard command) :=
  (lasting_leadsTo box.editor).dispatch (.refl _) (box.operates_execute clipboard command)

/-- A command that was carried out and left the text as it was scrolls no further. -/
theorem result_dispatch_of_heard {clipboard clipboard' : Clipboard} {command : Command}
    {box' : Box} {dirty : Bool} (hheard : (command.needsFocus && !box.focused) = false)
    (hx : (box.execute clipboard command).result = .ok (box', clipboard', dirty))
    (hb : box'.editor.buffer = box.editor.buffer) :
    (box.dispatch clipboard command).result = .ok (box', clipboard', ⟨dirty, false⟩) := by
  simp only [dispatch, hheard, Bool.false_eq_true, if_false, Run.result_bind, hx, Fault.ok_bind, hb,
    bne_self_eq_false, Bool.or_false, Run.result_pure, reportCommand, Run.result_report]

/-- With the focus every command is carried out. -/
theorem result_dispatch_of_execute {clipboard clipboard' : Clipboard} {command : Command}
    {box' : Box} {dirty : Bool} (hf : box.focused = true)
    (hx : (box.execute clipboard command).result = .ok (box', clipboard', dirty))
    (hb : box'.editor.buffer = box.editor.buffer) :
    (box.dispatch clipboard command).result = .ok (box', clipboard', ⟨dirty, false⟩) :=
  result_dispatch_of_heard (by simp [hf]) hx hb

/-- A command that was carried out and changed the text has its scroll brought within the rows. -/
theorem result_dispatch_of_edited {clipboard clipboard' : Clipboard} {command : Command}
    {box' : Box} {dirty : Bool} (hf : box.focused = true)
    (hx : (box.execute clipboard command).result = .ok (box', clipboard', dirty))
    (hb : box.editor.buffer.revision < box'.editor.buffer.revision) :
    (box.dispatch clipboard command).result = do
      let clamped ← box'.clampScroll.result
      return (clamped, clipboard', ⟨true, true⟩) := by
  have hfocus : (command.needsFocus && !box.focused) = false := by simp [hf]
  have hchanged : (box'.editor.buffer.revision != box.editor.buffer.revision) = true :=
    bne_iff_ne.mpr (Nat.ne_of_gt hb)
  simp only [dispatch, hfocus, Bool.false_eq_true, if_false, Run.result_bind, hx, Fault.ok_bind,
    hchanged, if_true, Bool.or_true]
  rfl

end Box

namespace Session

variable {s t : Session}

/-- A session that a host makes of a new edit box. -/
def Reachable (s : Session) : Prop :=
  ∃ buffer view options clipboard steps answers,
    ((start buffer view options clipboard).run steps).result = .ok (s, answers)

section Actions

variable {answer : Answer}

private theorem dispatch_of_act {c : Command} (h : (s.act (.command c)).result = .ok (t, answer)) :
    ∃ reply, (s.box.dispatch s.clipboard c).result = .ok (t.box, t.clipboard, reply) := by
  rw [act, Run.result_bind] at h
  obtain ⟨⟨box, clipboard, reply⟩, hp, h⟩ := Fault.bind_eq_ok_iff.mp h
  cases h
  exact ⟨reply, hp⟩

private theorem apply_of_act {op : Editor.Operation}
    (h : (s.act (.edit op)).result = .ok (t, answer)) :
    ∃ response, (s.box.editor.apply op).result = .ok (t.box.editor, response) := by
  rw [act, Run.result_bind] at h
  obtain ⟨⟨editor, response⟩, hp, h⟩ := Fault.bind_eq_ok_iff.mp h
  cases h
  exact ⟨response, hp⟩

private theorem editor_of_resize {width height : Nat}
    (h : (s.act (.resize width height)).result = .ok (t, answer)) :
    t.box.editor = s.box.editor := by
  rw [act, Run.result_bind, Run.result_liftM] at h
  obtain ⟨box, hbox, h⟩ := Fault.bind_eq_ok_iff.mp h
  obtain ⟨before, -, hbox⟩ := Fault.bind_eq_ok_iff.mp hbox
  obtain ⟨after, -, hbox⟩ := Fault.bind_eq_ok_iff.mp hbox
  cases hbox
  cases h
  rfl

private theorem editor_of_ensureCaretVisible
    (h : (s.act .ensureCaretVisible).result = .ok (t, answer)) :
    t.box.editor = s.box.editor := by
  rw [act, Run.result_bind] at h
  obtain ⟨p, hp, h⟩ := Fault.bind_eq_ok_iff.mp h
  cases h
  exact (redrawn_ensureCaretVisible hp).editor_eq

private theorem editor_of_clampScroll (h : (s.act .clampScroll).result = .ok (t, answer)) :
    t.box.editor = s.box.editor := by
  rw [act, Run.result_bind] at h
  obtain ⟨box, hbox, h⟩ := Fault.bind_eq_ok_iff.mp h
  cases h
  exact (redrawn_clampScroll hbox).editor_eq

private theorem editor_of_ask (hs : s.box.Sound) {q : Query}
    (h : (s.act (.ask q)).result = .ok (t, answer)) : t.box.editor = s.box.editor := by
  rw [act, Run.result_bind] at h
  obtain ⟨p, hp, h⟩ := Fault.bind_eq_ok_iff.mp h
  cases h
  obtain ⟨layout, hlaid, -, -⟩ := hs.of_ask hp
  change p.1.editor = s.box.editor
  rw [hlaid]
  rfl

/-- An action is a command, an operation on the editor, or leaves the editor alone. -/
theorem editor_of_act (hs : s.box.Sound) {action : Action}
    (h : (s.act action).result = .ok (t, answer)) :
    (∃ c reply, action = .command c ∧
      (s.box.dispatch s.clipboard c).result = .ok (t.box, t.clipboard, reply)) ∨
    (∃ op response, action = .edit op ∧
      (s.box.editor.apply op).result = .ok (t.box.editor, response)) ∨
    t.box.editor = s.box.editor := by
  cases action with
  | command c =>
    obtain ⟨reply, hd⟩ := dispatch_of_act h
    exact .inl ⟨c, reply, rfl, hd⟩
  | edit op =>
    obtain ⟨response, ha⟩ := apply_of_act h
    exact .inr (.inl ⟨op, response, rfl, ha⟩)
  | resize width height => exact .inr (.inr (editor_of_resize h))
  | ensureCaretVisible => exact .inr (.inr (editor_of_ensureCaretVisible h))
  | clampScroll => exact .inr (.inr (editor_of_clampScroll h))
  | ask q => exact .inr (.inr (editor_of_ask hs h))
  | setMeasure | setFields | setClipboard =>
    cases h
    exact .inr (.inr rfl)

end Actions

/-- An action operates on the editor and does nothing else to it. -/
theorem leadsTo_of_act (hs : s.box.Sound) {action : Action} {answer : Answer}
    (h : (s.act action).result = .ok (t, answer)) : s.box.editor.LeadsTo t.box.editor := by
  rcases editor_of_act hs h with ⟨c, reply, -, hd⟩ | ⟨op, response, -, ha⟩ | heq
  · exact s.box.operates_dispatch s.clipboard c _ hd
  · exact .of_apply op ha
  · exact heq ▸ .refl _

/-- A run operates on the editor and keeps the box sound. -/
theorem leadsTo_of_run (hs : s.box.Sound) {steps : List (Query ⊕ Action)} {answers : List Answer}
    (h : (s.run steps).result = .ok (t, answers)) :
    s.box.editor.LeadsTo t.box.editor ∧ t.box.Sound := by
  induction steps generalizing s answers with
  | nil =>
    cases h
    exact ⟨.refl _, hs⟩
  | cons step steps ih =>
    cases step with
    | inl q =>
      rw [run, Run.result_bind] at h
      obtain ⟨⟨box, answer⟩, hask, h⟩ := Fault.bind_eq_ok_iff.mp h
      obtain ⟨layout, rfl, hnext, -⟩ := hs.of_ask hask
      exact ih (s := { s with box := s.box.laid layout }) hnext h
    | inr action =>
      rw [run, Run.result_bind] at h
      obtain ⟨⟨next, answer⟩, hact, h⟩ := Fault.bind_eq_ok_iff.mp h
      rw [Run.result_bind] at h
      obtain ⟨⟨last, rest⟩, hrest, h⟩ := Fault.bind_eq_ok_iff.mp h
      cases h
      obtain ⟨hlead, hsound⟩ := ih (sound_of_act rfl hs hact).2 hrest
      exact ⟨(leadsTo_of_act hs hact).trans hlead, hsound⟩

/-- A run goes on where its first part leads. -/
theorem result_run_append (s : Session) (first second : List (Query ⊕ Action)) :
    (s.run (first ++ second)).result =
      (s.run first).result >>= fun p ↦
        (fun q ↦ (q.1, p.2 ++ q.2)) <$> (p.1.run second).result := by
  induction first generalizing s with
  | nil =>
    change (s.run second).result = (fun q ↦ (q.1, [] ++ q.2)) <$> (s.run second).result
    cases (s.run second).result <;> rfl
  | cons step first ih =>
    cases step with
    | inl q =>
      rw [List.cons_append, run, run, Run.result_bind, Run.result_bind]
      cases (s.box.ask q).result with
      | error f => rfl
      | ok p => exact ih _
    | inr action =>
      rw [List.cons_append, run, run, Run.result_bind, Run.result_bind]
      cases (s.act action).result with
      | error f => rfl
      | ok p =>
        simp only [Fault.ok_bind, Run.result_bind, ih]
        cases (p.1.run first).result with
        | error f => rfl
        | ok q =>
          simp only [Fault.ok_bind, Run.result_pure]
          cases (q.1.run second).result <;> rfl

/-- An action leads from a reachable session to a reachable one. -/
theorem Reachable.act (h : s.Reachable) {action : Action} {answer : Answer}
    (ha : (s.act action).result = .ok (t, answer)) : t.Reachable := by
  obtain ⟨buffer, view, options, clipboard, steps, answers, hr⟩ := h
  refine ⟨buffer, view, options, clipboard, steps ++ [.inr action], answers ++ [answer], ?_⟩
  rw [result_run_append, hr, Fault.ok_bind, run, Run.result_bind, ha]
  rfl

/-- The editor of a reachable session is reachable, and the cache of its box is sound. -/
theorem Reachable.editor (h : s.Reachable) : s.box.editor.Reachable ∧ s.box.Sound := by
  obtain ⟨buffer, view, options, clipboard, steps, answers, hr⟩ := h
  have hs : (start buffer view options clipboard).box.Sound := LayoutCache.sound_fresh
  obtain ⟨hlead, hsound⟩ := leadsTo_of_run hs hr
  have hnew : (start buffer view options clipboard).box.editor.Reachable :=
    ⟨buffer, options.undoLimit, [], rfl⟩
  exact ⟨hnew.leadsTo hlead, hsound⟩

end Session

end EditBox
