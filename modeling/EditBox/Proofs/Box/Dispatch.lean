import EditBox.Command.Dispatch
import EditBox.Proofs.Box.Twin
import EditBox.Proofs.Editor.Counting

/-!
# Commands on twins

Every command gives boxes that differ in their layouts the same reply and leaves them twins.
-/

namespace EditBox.Box

open EditBox.Layout EditBox.Text

variable {α β : Type} {measure : Option Measure} {a b : Box} {layout : LayoutCache}

/-- Boxes alike but for their sound caches stay so under the same change of the editor, view,
pointer and focus. -/
theorem Sound.twin (h : a.Sound) (h' : (a.laid layout).Sound) {editor : Editor}
    (he : editor.buffer.ComesFrom a.editor.buffer) (view : View) (pointer : Pointer)
    (focused : Bool) :
    Twin a.measure
      { a with editor := editor, view := view, pointer := pointer, focused := focused }
      { a with
        editor := editor, layout := layout, view := view, pointer := pointer,
        focused := focused } :=
  .intro rfl (h.of_comesFrom he view pointer focused) (h'.of_comesFrom he view pointer focused)

/-- Boxes alike but for their sound caches are alike after the same edit and whatever follows it in
a like manner. -/
theorem Sound.edit (h : a.Sound) (h' : (a.laid layout).Sound) {r : Run (Editor × β)}
    (hr : Editor.Counts a.measure a.editor r.result) {f g : Editor × β → Run (Box × α)}
    (hfg : ∀ editor answer,
      Twin a.measure { a with editor := editor } { a with editor := editor, layout := layout } →
      Alike a.measure (Both (Twin a.measure)) (f (editor, answer)).result
        (g (editor, answer)).result) :
    Alike a.measure (Both (Twin a.measure)) (r >>= f).result (r >>= g).result := by
  apply Alike.share hr.safe
  intro p hp
  obtain ⟨editor, answer⟩ := p
  exact hfg editor answer (h.twin h' (hr.comesFrom _ hp) a.view a.pointer a.focused)

private theorem alike_keepClipboard (clipboard : Clipboard) {r r' : Run (Box × Bool)}
    (hr : Alike measure (Both (Twin measure)) r.result r'.result) :
    Alike measure (Both (Twin measure)) (keepClipboard clipboard r).result
      (keepClipboard clipboard r').result := by
  apply hr.andThen
  intro p q hpq
  obtain ⟨dirty, htwin⟩ := hpq
  exact .ok (.intro _ htwin)

namespace Twin

variable (h : Twin measure a b)
include h

/-- The caret is scrolled into view. -/
theorem reveal : Alike measure (Both (Twin measure)) a.reveal.result b.reveal.result := by
  apply h.ensureCaretVisible.andThen
  intro p q hpq
  obtain ⟨scrolled, h⟩ := hpq
  exact .ok (.intro true h)

/-- The caret is scrolled into view if something changed. -/
theorem keepOrReveal (changed : Bool) :
    Alike measure (Both (Twin measure))
      (if changed then a.reveal else pure (a, false) : Run (Box × Bool)).result
      (if changed then b.reveal else pure (b, false) : Run (Box × Bool)).result :=
  Alike.choose (fun _ ↦ h.reveal) fun _ ↦ .ok (.intro false h)

/-- The caret is scrolled into view if something changed, which is reported. -/
theorem revealIf (changed : Bool) (event : CommandEvent) :
    Alike measure (Both (Twin measure))
      (if changed then do
        reportCommand event
        a.reveal
      else pure (a, false) : Run (Box × Bool)).result
      (if changed then do
        reportCommand event
        b.reveal
      else pure (b, false) : Run (Box × Bool)).result := by
  refine Alike.choose (fun _ ↦ ?_) fun _ ↦ .ok (.intro false h)
  exact Alike.report h.reveal

private theorem insertAtCaret (text : List Char) :
    Alike measure (Both (Twin measure)) (a.insertAtCaret text).result
      (b.insertAtCaret text).result := by
  have htwin := h
  obtain @⟨layout, rfl, hs, hs'⟩ := h
  refine Alike.choose (fun _ ↦ .ok (.intro false htwin)) fun _ ↦ ?_
  apply Alike.share (.of_eq_ok (Editor.result_insertText _ _))
  intro editor he
  apply Alike.report
  exact reveal (hs.twin hs' (Editor.comesFrom_insertText he) a.view a.pointer a.focused)

private theorem deleteRange (start stop : Nat) :
    Alike measure (Both (Twin measure)) (a.deleteRange start stop).result
      (b.deleteRange start stop).result := by
  obtain @⟨layout, rfl, hs, hs'⟩ := h
  apply hs.edit hs' (Editor.counts_deleteRange _ _ _)
  intro editor changed htwin
  exact htwin.revealIf changed (.rangeDeleted start stop)

private theorem backspace (word : Bool) :
    Alike measure (Both (Twin measure)) (a.backspace word).result (b.backspace word).result := by
  obtain @⟨layout, rfl, hs, hs'⟩ := h
  cases word with
  | true =>
    apply hs.edit hs' (Editor.counts_deleteWordBack _)
    intro editor changed htwin
    exact Alike.report (htwin.keepOrReveal changed)
  | false =>
    apply hs.edit hs' (Editor.counts_backspace _)
    intro editor changed htwin
    exact Alike.report (htwin.keepOrReveal changed)

private theorem deleteForward (word : Bool) :
    Alike measure (Both (Twin measure)) (a.deleteForward word).result
      (b.deleteForward word).result := by
  obtain @⟨layout, rfl, hs, hs'⟩ := h
  cases word with
  | true =>
    apply hs.edit hs' (Editor.counts_deleteWordForward _)
    intro editor changed htwin
    exact Alike.report (htwin.keepOrReveal changed)
  | false =>
    apply hs.edit hs' (Editor.counts_deleteForward _)
    intro editor changed htwin
    exact Alike.report (htwin.keepOrReveal changed)

private theorem verticalTarget (down : Bool) :
    Alike measure (Both (Twin measure)) (a.verticalTarget down).result
      (b.verticalTarget down).result := by
  apply h.caretVisual.andThen
  intro p q hpq
  obtain ⟨pos, hlevel⟩ := hpq
  have htwin := hlevel.twin h.measure_eq
  apply htwin.rowCount.andThen
  intro p q hpq
  obtain ⟨rows, hlevel⟩ := hpq
  have htwin := hlevel.twin htwin.measure_eq
  apply (htwin.rowXToOffset _ _).mono
  intro p q hpq
  exact hpq.mono fun _ _ hlevel ↦ hlevel.twin htwin.measure_eq

private theorem motionTarget (direction : Direction) (ctrl : Bool) :
    Alike measure (Both (Twin measure)) (a.motionTarget direction ctrl).result
      (b.motionTarget direction ctrl).result := by
  have htwin := h
  have lookup {x : Except Fault Nat} (hx : Safe measure x) :
      Alike measure (Both (Twin measure))
        (do return (a, ← x) : Run (Box × Nat)).result
        (do return (b, ← x) : Run (Box × Nat)).result :=
    Alike.shareLift hx fun target _ ↦ .ok (.intro target htwin)
  obtain @⟨layout, rfl, hs, hs'⟩ := h
  cases direction with
  | up => exact htwin.verticalTarget false
  | down => exact htwin.verticalTarget true
  | left =>
    cases ctrl with
    | true => exact lookup (Motion.safe_wordLeft _ _)
    | false => exact .ok (.intro _ htwin)
  | right =>
    cases ctrl with
    | true => exact lookup (Motion.safe_wordRight _ _)
    | false => exact lookup (Motion.safe_right _ _)
  | home =>
    cases ctrl with
    | true => exact .ok (.intro _ htwin)
    | false => exact lookup (Buffer.safe_lineStart_lineOf _ _)
  | stop =>
    cases ctrl with
    | true => exact .ok (.intro _ htwin)
    | false => exact lookup (Buffer.safe_lineEnd _ _)

private theorem move (direction : Direction) (mods : Modifiers) :
    Alike measure (Both (Twin measure)) (a.move direction mods).result
      (b.move direction mods).result := by
  have hcaret : b.editor.caret = a.editor.caret := by
    cases h
    rfl
  apply (h.motionTarget direction mods.ctrl).andThen
  intro p q hpq
  rw [hcaret]
  obtain @⟨a, _, target, layout, rfl, hs, hs'⟩ := hpq
  apply Alike.report
  have hbuffer := a.editor.buffer_moveCaret target mods.shift
  exact reveal (hs.twin hs' (.inl hbuffer) a.view a.pointer a.focused)

private theorem copy (clipboard : Clipboard) :
    Alike measure (Both (Twin measure)) (a.copy clipboard).result (b.copy clipboard).result := by
  have htwin := h
  obtain @⟨layout, rfl, hs, hs'⟩ := h
  apply Alike.shareLift (Editor.safe_selectedText _)
  intro text _
  cases text with
  | none => exact .ok (.intro _ htwin)
  | some text => exact Alike.report (.ok (.intro _ htwin))

private theorem cut (clipboard : Clipboard) :
    Alike measure (Both (Twin measure)) (a.cut clipboard).result (b.cut clipboard).result := by
  have htwin := h
  obtain @⟨layout, rfl, hs, hs'⟩ := h
  apply Alike.shareLift (Editor.safe_selectedText _)
  intro text _
  cases text with
  | none => exact .ok (.intro _ htwin)
  | some text =>
    apply Alike.report
    apply hs.edit hs' (Editor.counts_deleteSelection _)
    intro editor changed htwin
    apply htwin.reveal.andThen
    intro p q hpq
    obtain ⟨dirty, htwin⟩ := hpq
    exact .ok (.intro _ htwin)

private theorem paste (clipboard : Clipboard) :
    Alike measure (Both (Twin measure)) (a.paste clipboard).result
      (b.paste clipboard).result := by
  refine Alike.choose (fun _ ↦ .ok (.intro false h)) fun _ ↦ ?_
  apply Alike.report
  obtain @⟨layout, rfl, hs, hs'⟩ := h
  apply Alike.share (.of_eq_ok (Editor.result_insertText _ _))
  intro editor he
  exact reveal (hs.twin hs' (Editor.comesFrom_insertText he) a.view a.pointer a.focused)

private theorem undo : Alike measure (Both (Twin measure)) a.undo.result b.undo.result := by
  obtain @⟨layout, rfl, hs, hs'⟩ := h
  apply hs.edit hs' (.of_eq_ok rfl (Editor.comesFrom_travelled _ _))
  intro editor found htwin
  exact htwin.revealIf found (.undone editor.history.undoDepth)

private theorem redo : Alike measure (Both (Twin measure)) a.redo.result b.redo.result := by
  obtain @⟨layout, rfl, hs, hs'⟩ := h
  apply hs.edit hs' (.of_eq_ok rfl (Editor.comesFrom_travelled _ _))
  intro editor found htwin
  exact htwin.revealIf found (.redone editor.history.redoDepth)

private theorem press (x y : Int) (time : Nat) (mods : Modifiers) :
    Alike measure (Both (Twin measure)) (a.press x y time mods).result
      (b.press x y time mods).result := by
  have hfocused : Twin measure { a with focused := true } { b with focused := true } := by
    obtain @⟨layout, rfl, hs, hs'⟩ := h
    exact hs.twin hs' (.refl _) a.view a.pointer true
  apply (hfocused.pointToOffset x y .truncate).andThen
  intro p q hpq
  obtain @⟨a, _, offset, hlevel⟩ := hpq
  obtain @⟨layout, rfl, hs, hs'⟩ := hlevel.twin hfocused.measure_eq
  apply Alike.report
  have hselect (span : Nat × Nat) :
      (a.editor.selectRange span.1 span.2).buffer.ComesFrom a.editor.buffer := .inl rfl
  -- The clicks are counted by the pointer, which twins share, so one split serves both sides.
  dsimp only [laid]
  split
  · have hbuffer := a.editor.buffer_moveCaret offset mods.shift
    exact reveal (hs.twin hs' (.inl hbuffer) a.view _ a.focused)
  · apply Alike.shareLift (Motion.safe_wordAt _ _)
    intro span _
    exact reveal (hs.twin hs' (hselect span) a.view _ a.focused)
  · apply Alike.shareLift (Motion.safe_lineAt _ _)
    intro span _
    exact reveal (hs.twin hs' (hselect span) a.view _ a.focused)

private theorem drag (x y : Int) :
    Alike measure (Both (Twin measure)) (a.drag x y).result (b.drag x y).result := by
  have htwin := h
  obtain @⟨layout, rfl, hs, hs'⟩ := h
  unfold Box.drag
  dsimp only [laid]
  split
  · next anchor _ _ =>
    apply (htwin.pointToOffset x y .nearest).andThen
    intro p q hpq
    obtain @⟨a, _, offset, hlevel⟩ := hpq
    obtain @⟨layout, hm, hs, hs'⟩ := hlevel.twin htwin.measure_eq
    have hbuffer : (a.editor.selectRange anchor offset).buffer = a.editor.buffer := rfl
    exact hm ▸ reveal (hs.twin hs' (.inl hbuffer) a.view a.pointer a.focused)
  · exact .ok (.intro false htwin)

private theorem wheel (delta : Int) :
    Alike measure (Both (Twin measure)) (a.wheel delta).result (b.wheel delta).result := by
  obtain rfl := h.measure_eq
  apply h.ensureLayout.andThen
  intro _ _ hlevel
  obtain @⟨layout, n, hs, -⟩ := hlevel
  have hs' : (a.laid (layout.counted n)).Sound := hs.counted n
  apply Alike.shareLift (Safe.mul _ _ _)
  intro notch _
  apply Alike.shareLift (a.view.safe_scrollWheel _ _ _ _)
  intro view _
  exact .ok (.intro _ (hs.twin hs' (.refl _) view a.pointer a.focused))

private theorem moveRow (target : Nat → Nat) :
    Alike measure (Both (Twin measure))
      (do
        let (box, pos) ← a.caretVisual
        let (box, offset) ← box.rowXToOffset (target pos.row) (Bounded.toCoordinate pos.x)
        Box.reveal { box with editor := box.editor.moveCaret offset false } :
          Run (Box × Bool)).result
      (do
        let (box, pos) ← b.caretVisual
        let (box, offset) ← box.rowXToOffset (target pos.row) (Bounded.toCoordinate pos.x)
        Box.reveal { box with editor := box.editor.moveCaret offset false } :
          Run (Box × Bool)).result := by
  apply h.caretVisual.andThen
  intro p q hpq
  obtain ⟨pos, hlevel⟩ := hpq
  have htwin := hlevel.twin h.measure_eq
  apply (htwin.rowXToOffset _ _).andThen
  intro p q hpq
  obtain @⟨a, _, offset, hlevel⟩ := hpq
  obtain @⟨layout, rfl, hs, hs'⟩ := hlevel.twin htwin.measure_eq
  have hbuffer := a.editor.buffer_moveCaret offset false
  exact reveal (hs.twin hs' (.inl hbuffer) a.view a.pointer a.focused)

private theorem page (down : Bool) :
    Alike measure (Both (Twin measure)) (a.page down).result (b.page down).result := by
  obtain rfl := h.measure_eq
  apply h.ensureLayout.andThen
  intro _ _ hlevel
  obtain @⟨layout, n, hs, -⟩ := hlevel
  have hs' : (a.laid (layout.counted n)).Sound := hs.counted n
  have hview (view : View) := hs.twin hs' (.refl _) view a.pointer a.focused
  cases down with
  | true =>
    apply Alike.shareLift (a.view.safe_pageDown _ _)
    intro view _
    apply Alike.shareLift view.safe_contentHeight
    intro content _
    exact (hview view).moveRow fun row ↦
      min (row + max (content / max layout.lineHeight 1) 1) (layout.rowCount - 1)
  | false =>
    apply Alike.shareLift a.view.safe_pageUp
    intro view _
    apply Alike.shareLift view.safe_contentHeight
    intro content _
    exact (hview view).moveRow fun row ↦ row - max (content / max layout.lineHeight 1) 1

private theorem defocus (clipboard : Clipboard) (endDrag : Bool) :
    Both (Twin measure) ((a.defocus endDrag).1, clipboard, (a.defocus endDrag).2)
      ((b.defocus endDrag).1, clipboard, (b.defocus endDrag).2) := by
  obtain @⟨layout, rfl, hs, hs'⟩ := h
  have hbuffer : a.editor.collapseSelection.buffer = a.editor.buffer := rfl
  exact .intro _ (hs.twin hs' (.inl hbuffer) a.view _ false)

/-- Any command. -/
theorem execute (clipboard : Clipboard) (command : Command) :
    Alike measure (Both (Twin measure)) (a.execute clipboard command).result
      (b.execute clipboard command).result := by
  cases command with
  | insertText text => exact alike_keepClipboard clipboard (h.insertAtCaret text)
  | newline => exact alike_keepClipboard clipboard (h.insertAtCaret _)
  | tab =>
    refine alike_keepClipboard clipboard ?_
    have htab : b.tabText = a.tabText := by
      cases h
      rfl
    rw [htab]
    refine Alike.shareLift (Safe.ite (fun _ ↦ .ok _) fun _ ↦ .error rfl) fun text _ ↦ ?_
    exact h.insertAtCaret text
  | deleteRange start stop => exact alike_keepClipboard clipboard (h.deleteRange start stop)
  | backspace word => exact alike_keepClipboard clipboard (h.backspace word)
  | deleteForward word => exact alike_keepClipboard clipboard (h.deleteForward word)
  | move direction mods => exact alike_keepClipboard clipboard (h.move direction mods)
  | selectAll =>
    obtain @⟨layout, rfl, hs, hs'⟩ := h
    have hbuffer : a.editor.selectAll.buffer = a.editor.buffer := rfl
    exact .ok (.intro _ (hs.twin hs' (.inl hbuffer) a.view a.pointer a.focused))
  | copy => exact h.copy clipboard
  | cut => exact h.cut clipboard
  | paste => exact alike_keepClipboard clipboard (h.paste clipboard)
  | undo => exact alike_keepClipboard clipboard h.undo
  | redo => exact alike_keepClipboard clipboard h.redo
  | mousePress x y time mods => exact alike_keepClipboard clipboard (h.press x y time mods)
  | mouseDrag x y => exact alike_keepClipboard clipboard (h.drag x y)
  | mouseRelease =>
    obtain @⟨layout, rfl, hs, hs'⟩ := h
    exact .ok (.intro _ (hs.twin hs' (.refl _) a.view _ a.focused))
  | wheel delta => exact alike_keepClipboard clipboard (h.wheel delta)
  | pageUp => exact alike_keepClipboard clipboard (h.page false)
  | pageDown => exact alike_keepClipboard clipboard (h.page true)
  | escape => exact .ok (h.defocus clipboard false)
  | blur => exact .ok (h.defocus clipboard true)
  | focus =>
    obtain @⟨layout, rfl, hs, hs'⟩ := h
    exact .ok (.intro _ (hs.twin hs' (.refl _) a.view a.pointer true))

/-- A command and its reply. -/
theorem dispatch (clipboard : Clipboard) (command : Command) :
    Alike measure (Both (Twin measure)) (a.dispatch clipboard command).result
      (b.dispatch clipboard command).result := by
  have htwin := h
  obtain @⟨layout, rfl, hs, hs'⟩ := h
  refine Alike.choose (fun _ ↦ ?_) fun _ ↦ ?_
  · exact Alike.report (.ok (.intro _ htwin))
  apply (htwin.execute clipboard command).andThen
  intro p q hpq
  obtain @⟨a', b', ⟨clipboard', dirty⟩, htwin'⟩ := hpq
  have hlater := htwin'
  obtain @⟨layout', hm, hs, hs'⟩ := htwin'
  refine Alike.choose (fun _ ↦ ?_) fun _ ↦ ?_
  · apply hlater.clampScroll.andThen
    intro a b hab
    obtain @⟨layout, hm, hs, hs'⟩ := hab
    exact Alike.report (.ok (.intro _ (.intro hm hs hs')))
  · rw [pure_bind, pure_bind]
    exact Alike.report (.ok (.intro _ hlater))

end Twin

end EditBox.Box
