import EditBox.Proofs.Box.Ready

/-!
# Commands without faults

With the usual settings, ten pixels for every character and rows within screen coordinates, one
thing alone stops a command: a point so far to the left of the text that its distance from the text
is no 32-bit number. `commands_answer_in_reach` says so of every command after every run of
commands.
-/

namespace EditBox

open EditBox.Box EditBox.Layout EditBox.Text Bounded

variable {α β : Type}

/-- A signed 32-bit number. -/
def IsCoordinate (n : Int) : Prop := -(coordinateBound : Int) ≤ n ∧ n < coordinateBound

instance (n : Int) : Decidable (IsCoordinate n) := inferInstanceAs (Decidable (_ ∧ _))

/-- The points and turns of the wheel that a command carries are 32-bit numbers. -/
def Command.InRange : Command → Prop
  | mousePress x y _ _ | mouseDrag x y => IsCoordinate x ∧ IsCoordinate y
  | wheel delta => IsCoordinate delta
  | _ => True

namespace Box

variable {box box' : Box} {clipboard : Clipboard} {c : Command} {op : Editor.Operation}

/-- The distance of a point from the left edge of the text is no 32-bit number. -/
def Beyond (box : Box) (x : Int) : Prop :=
  x - (box.view.gutter + box.view.padding : Nat) < -(coordinateBound : Int)

/-- A command looks up a point too far to the left: a press does so at its point, and a motion of
the mouse at its own while a drag is armed. -/
def TooFarLeft (box : Box) : Command → Prop
  | .mousePress x _ _ _ => box.Beyond x
  | .mouseDrag x _ => box.pointer.isDragging = true ∧ box.Beyond x
  | _ => False

/-- The text is small after an operation. -/
def SmallAfter (box : Box) (op : Editor.Operation) : Prop :=
  ∀ after answer, (box.editor.apply op).result = .ok (after, answer) →
    Small { box with editor := after }

/-- The text is small after the edit that a command asks for, if any, unless the command is ignored
for want of the focus. -/
def StaysSmall (box : Box) (clipboard : Clipboard) (c : Command) : Prop :=
  box.Hears c → ∀ op, box.edit clipboard c = some op → box.SmallAfter op

private theorem Sound.of_apply (hs : box.Sound) {after : Editor} {answer : Editor.Response}
    (ha : (box.editor.apply op).result = .ok (after, answer)) :
    Sound { box with editor := after } := by
  have hcounts : Editor.Counts box.measure box.editor (box.editor.apply op).result :=
    box.editor.counts_apply op
  exact hs.of_comesFrom (hcounts.comesFrom _ ha) box.view box.pointer box.focused

/-- The scroll of a laid out box can be brought down to what its rows allow. -/
theorem Current.succeeds_clampScroll (h : box.Current) (hf : box.Fits) :
    Succeeds box.clampScroll := by
  obtain ⟨width, hw, -⟩ := id h
  obtain ⟨content, hcontent⟩ := View.exists_contentHeight hw
  refine .andThen ⟨box, h.result_ensureLayout⟩ fun laidOut hlaid ↦ ?_
  obtain rfl : box = laidOut := Except.ok.inj (h.result_ensureLayout.symm.trans hlaid)
  exact .liftThen ⟨_, h.maxScroll_eq hf hcontent⟩ fun _ _ ↦ .done _

/-- A command that does not write the clipboard. -/
theorem succeeds_keepClipboard {r : Run (Box × Bool)} (h : Succeeds r) :
    Succeeds (keepClipboard clipboard r) :=
  h.andThen fun _ _ ↦ .done _

private theorem succeeds_copy (hw : box.editor.WellFormed) (clipboard : Clipboard) :
    Succeeds (box.copy clipboard) := by
  refine .liftThen ⟨_, selectedText_eq hw⟩ fun found _ ↦ ?_
  cases found with
  | some text => exact .report (.done _)
  | none => exact .done _

namespace Ready

variable (h : box.Ready)
include h

private theorem succeeds_moveCaret (target : Nat) (shift : Bool) :
    Succeeds (Box.reveal { box with editor := box.editor.moveCaret target shift }) := by
  refine (h.moved (box.editor.buffer_moveCaret target shift)).succeeds_reveal ?_
  cases shift with
  | true => exact box.editor.clampOffset_le target
  | false => exact box.editor.clampOffset_le target

private theorem succeeds_selectRange (anchor caret : Nat) :
    Succeeds (Box.reveal { box with editor := box.editor.selectRange anchor caret }) := by
  have hselected : Ready { box with editor := box.editor.selectRange anchor caret } := h.moved rfl
  exact hselected.succeeds_reveal (box.editor.clampOffset_le caret)

private theorem succeeds_wheel {delta : Int} (hd : Command.InRange (.wheel delta)) :
    Succeeds (box.wheel delta) := by
  refine h.succeeds_layOut fun layout hcurrent hready ↦ ?_
  have htypeset := hcurrent.typeset
  have hheight : layout.lineHeight = 20 := hready.usual.lineHeight_eq htypeset
  have hlines : box.options.wheelLines = 3 := congrArg Options.wheelLines h.usual.options_eq
  have hlimit := View.maxScroll_eq h.usual.contentHeight_eq (hready.small.fits _ _ htypeset)
    htypeset.lineHeight_pos
  have hnotch : mul pixelBound layout.lineHeight box.options.wheelLines = .ok 60 := by
    rw [hheight, hlines]
    rfl
  refine .liftThen ⟨60, hnotch⟩ fun notch hn ↦ ?_
  obtain rfl : 60 = notch := Except.ok.inj (hnotch.symm.trans hn)
  refine .liftThen (View.exists_scrollWheel hlimit ?_) fun _ _ ↦ .done _
  -- Scroll and notches have 32 bits and a notch 60 pixels, so the distance is far within 64.
  have hscroll := h.scroll_lt
  have hrange : -(coordinateBound : Int) ≤ delta ∧ delta < coordinateBound := hd
  change -(distanceBound : Int) ≤ (box.view.scroll : Int) - delta * (60 : Nat) ∧
    (box.view.scroll : Int) - delta * (60 : Nat) < distanceBound
  simp only [coordinateBound, distanceBound] at *
  omega

section Caret

variable (hcaret : box.editor.caret ≤ box.editor.buffer.length)
include hcaret

private theorem succeeds_moveRow (target : VisualPos → Nat) :
    Succeeds (do
      let (box, pos) ← box.caretVisual
      let (box, offset) ← box.rowXToOffset (target pos) (toCoordinate pos.x)
      Box.reveal { box with editor := box.editor.moveCaret offset false }) := by
  refine h.succeeds_query (h.succeeds_caretVisual hcaret) h.sound.queries_caretVisual
    fun layout pos hready ↦ ?_
  refine hready.succeeds_query (hready.succeeds_rowXToOffset _ _)
    (hready.sound.queries_rowXToOffset _ _) fun layout' offset hready' ↦ ?_
  exact hready'.succeeds_moveCaret offset false

private theorem succeeds_page (down : Bool) : Succeeds (box.page down) := by
  refine h.succeeds_layOut fun layout hcurrent hready ↦ ?_
  have hcontent := h.usual.contentHeight_eq
  have htypeset := hcurrent.typeset
  have hlimit := View.maxScroll_eq hcontent (hready.small.fits _ _ htypeset)
    htypeset.lineHeight_pos
  cases down with
  | true =>
    have hend : box.view.scroll + (box.view.height - 16) < pixelBound := by
      have hscroll := h.scroll_lt
      have hheight := h.usual.height_lt
      simp only [coordinateBound, pixelBound] at *
      omega
    refine .liftThen ⟨_, View.pageDown_eq hlimit hcontent hend⟩ fun view hview ↦ ?_
    obtain ⟨limit, hmax, hscrolled, hle⟩ := View.of_pageDown hview
    have ho : box.Turned { box.laid layout with view := view } :=
      hcurrent.turned hscrolled (.inr ⟨_, _, limit, hcurrent.typeset_of_laid, hmax, hle⟩)
    refine .liftThen ⟨_, (h.turned ho).usual.contentHeight_eq⟩ fun content _ ↦ ?_
    exact (h.turned ho).succeeds_moveRow hcaret fun pos ↦
      min (pos.row + max (content / max layout.lineHeight 1) 1) (layout.rowCount - 1)
  | false =>
    refine .liftThen ⟨_, View.pageUp_eq hcontent 0⟩ fun view hview ↦ ?_
    obtain ⟨hscrolled, hle⟩ := View.of_pageUp hview
    have ho : box.Turned { box.laid layout with view := view } :=
      hcurrent.turned hscrolled (.inl hle)
    refine .liftThen ⟨_, (h.turned ho).usual.contentHeight_eq⟩ fun content _ ↦ ?_
    exact (h.turned ho).succeeds_moveRow hcaret fun pos ↦
      pos.row - max (content / max layout.lineHeight 1) 1

private theorem succeeds_verticalTarget (down : Bool) : Succeeds (box.verticalTarget down) := by
  refine h.succeeds_query (h.succeeds_caretVisual hcaret) h.sound.queries_caretVisual
    fun layout pos hready ↦ ?_
  refine hready.succeeds_query hready.succeeds_rowCount hready.sound.queries_rowCount
    fun layout' rows hready' ↦ ?_
  exact hready'.succeeds_rowXToOffset _ _

private theorem succeeds_motionTarget (direction : Direction) (ctrl : Bool) :
    Succeeds (box.motionTarget direction ctrl) := by
  have hb := h.length_succ_lt
  have lookup {x : Except Fault Nat} (hx : ∃ target, x = .ok target) :
      Succeeds (do return (box, ← x) : Run (Box × Nat)) :=
    .liftThen hx fun _ _ ↦ .done _
  cases direction with
  | up => exact h.succeeds_verticalTarget hcaret false
  | down => exact h.succeeds_verticalTarget hcaret true
  | left =>
    cases ctrl with
    | true => exact lookup (Motion.exists_wordLeft hb _)
    | false => exact .done _
  | right =>
    cases ctrl with
    | true => exact lookup (Motion.exists_wordRight hb _)
    | false => exact lookup (Motion.exists_right hb hcaret)
  | home =>
    cases ctrl with
    | true => exact .done _
    | false => exact lookup (Motion.exists_lineHome _ _)
  | stop =>
    cases ctrl with
    | true => exact .done _
    | false => exact lookup (Motion.exists_lineEnd_lineOf hb _)

private theorem succeeds_move (direction : Direction) (mods : Modifiers) :
    Succeeds (box.move direction mods) := by
  refine h.succeeds_query (h.succeeds_motionTarget hcaret direction mods.ctrl)
    (h.sound.queries_motionTarget direction mods.ctrl) fun layout target hready ↦ ?_
  exact .report (hready.succeeds_moveCaret target mods.shift)

end Caret

section Points

private theorem focused (focused : Bool) : Ready { box with focused := focused } :=
  h.turned (turned_of_sound h.sound box.pointer focused)

/-- A point is in reach or too far to the left of the text. -/
theorem beyond_iff (x : Int) :
    box.Beyond x ↔ x - 56 < -(coordinateBound : Int) := by
  rw [Beyond, h.usual.gutter_eq, h.usual.padding_eq]
  rfl

private theorem succeeds_press {x y : Int} {time : Nat} {mods : Modifiers}
    (hc : Command.InRange (.mousePress x y time mods)) (hx : ¬ box.Beyond x) :
    Succeeds (box.press x y time mods) := by
  rw [h.beyond_iff, Int.not_lt] at hx
  have hfocused := h.focused true
  refine hfocused.succeeds_query (hfocused.succeeds_pointToOffset y .truncate hx hc.1.2)
    (hfocused.sound.queries_pointToOffset x y .truncate) fun layout offset hready ↦ .report ?_
  have hlaid : (box.laid layout).Sound := hready.sound
  have hpointed (pointer : Pointer) := h.turned (turned_of_sound hlaid pointer true)
  have hb := h.length_succ_lt
  dsimp only [Box.laid]
  generalize box.pointer.press time box.options.multiClickMs = pointer
  split
  · exact (hpointed (pointer.beginDrag _)).succeeds_moveCaret offset mods.shift
  · exact .liftThen (Motion.exists_wordAt hb offset) fun _ _ ↦
      (hpointed _).succeeds_selectRange _ _
  · exact .liftThen (Motion.exists_lineAt hb offset) fun _ _ ↦
      (hpointed _).succeeds_selectRange _ _

private theorem succeeds_drag {x y : Int} (hc : Command.InRange (.mouseDrag x y))
    (hx : ¬ box.TooFarLeft (.mouseDrag x y)) : Succeeds (box.drag x y) := by
  unfold drag
  split
  · next anchor hpressed hanchor =>
    have hdragging : box.pointer.isDragging = true :=
      box.pointer.isDragging_iff.mpr ⟨hpressed, anchor, hanchor⟩
    have hreach : ¬ box.Beyond x := fun hbeyond ↦ hx ⟨hdragging, hbeyond⟩
    rw [h.beyond_iff, Int.not_lt] at hreach
    refine h.succeeds_query (h.succeeds_pointToOffset y .nearest hreach hc.1.2)
      (h.sound.queries_pointToOffset x y .nearest) fun layout offset hready ↦ ?_
    exact hready.succeeds_selectRange anchor offset
  · exact .done _

/-- A command that looks up a point too far to the left stops at the distance of the point. -/
theorem result_execute_eq_error (hx : box.TooFarLeft c) :
    (box.execute clipboard c).result = .error .subOverflow := by
  cases c with
  | mousePress x y time mods =>
    have hx := (h.beyond_iff x).mp hx
    have hpoint := (h.focused true).result_pointToOffset_eq_error y .truncate hx
    rw [execute, keepClipboard, Run.result_bind, press, Run.result_bind, hpoint]
    rfl
  | mouseDrag x y =>
    obtain ⟨hdragging, hx⟩ := hx
    obtain ⟨hpressed, anchor, hanchor⟩ := box.pointer.isDragging_iff.mp hdragging
    have hpoint := h.result_pointToOffset_eq_error y .nearest ((h.beyond_iff x).mp hx)
    simp only [execute, keepClipboard, drag, hpressed, hanchor, Run.result_bind, hpoint]
    rfl
  | _ => exact hx.elim

end Points

section Edits

private theorem countable : box.editor.Countable := by
  have hlength := h.length_succ_lt
  have hcount := box.editor.buffer.lineCount_le
  exact ⟨Nat.lt_of_succ_lt hlength, Nat.lt_of_le_of_lt hcount hlength⟩

variable (hw : box.editor.WellFormed)
include hw

private theorem succeeds_reveal_edited {after : Editor} {answer : Editor.Response}
    (hsmall : box.SmallAfter op) (ha : (box.editor.apply op).result = .ok (after, answer)) :
    Succeeds (Box.reveal { box with editor := after }) := by
  have hready : Ready { box with editor := after } :=
    ⟨h.sound.of_apply ha, h.usual.congr rfl rfl rfl, hsmall after answer ha, h.scroll_lt⟩
  have hwithin := ((Editor.apply_step hw.within ha).wellFormed hw).within
  exact hready.succeeds_reveal hwithin.caret_le

private theorem succeeds_operation (hsmall : box.SmallAfter op) {r : Run (Editor × Bool)}
    (hop : box.editor.apply op = Editor.apply.answer r) {f : Editor × Bool → Run β}
    (hf : ∀ p, Succeeds (Box.reveal { box with editor := p.1 }) → Succeeds (f p)) :
    Succeeds (r >>= f) := by
  obtain ⟨p, hp⟩ := Editor.exists_apply_eq_ok hw.within h.countable op
  rw [hop, Editor.result_answer] at hp
  cases hr : r.result with
  | error e =>
    rw [hr] at hp
    cases hp
  | ok q =>
    refine .andThen ⟨q, hr⟩ fun q' hq' ↦ hf q' ?_
    have ha : (box.editor.apply op).result = .ok (q'.1, .flag q'.2) := by
      rw [hop, Editor.result_answer, hq']
      rfl
    exact h.succeeds_reveal_edited hw hsmall ha

private theorem succeeds_insertText {text : List Char} (hsmall : box.SmallAfter (.insertText text))
    {f : Editor → Run β}
    (hf : ∀ e, Succeeds (Box.reveal { box with editor := e }) → Succeeds (f e)) :
    Succeeds (box.editor.insertText text >>= f) := by
  refine .andThen ⟨_, Editor.result_insertText box.editor text⟩ fun after hr ↦ hf after ?_
  have ha : (box.editor.apply (.insertText text)).result = .ok (after, .nothing) := by
    rw [Editor.apply, Run.result_bind, hr]
    rfl
  exact h.succeeds_reveal_edited hw hsmall ha

private theorem succeeds_insertAtCaret {text : List Char}
    (hsmall : box.SmallAfter (.insertText text)) :
    Succeeds (box.insertAtCaret text) :=
  .choose (fun _ ↦ .done _) fun _ ↦ h.succeeds_insertText hw hsmall fun _ hr ↦ .report hr

private theorem succeeds_deleteRange {start stop : Nat}
    (hsmall : box.SmallAfter (.deleteRange start stop)) :
    Succeeds (box.deleteRange start stop) :=
  h.succeeds_operation hw hsmall rfl fun _ hr ↦ .choose (fun _ ↦ .report hr) fun _ ↦ .done _

private theorem succeeds_backspace {word : Bool}
    (hsmall : box.SmallAfter (if word then .deleteWordBack else .backspace)) :
    Succeeds (box.backspace word) := by
  cases word with
  | true =>
    exact h.succeeds_operation hw hsmall rfl fun _ hr ↦
      .report (.choose (fun _ ↦ hr) fun _ ↦ .done _)
  | false =>
    exact h.succeeds_operation hw hsmall rfl fun _ hr ↦
      .report (.choose (fun _ ↦ hr) fun _ ↦ .done _)

private theorem succeeds_deleteForward {word : Bool}
    (hsmall : box.SmallAfter (if word then .deleteWordForward else .deleteForward)) :
    Succeeds (box.deleteForward word) := by
  cases word with
  | true =>
    exact h.succeeds_operation hw hsmall rfl fun _ hr ↦
      .report (.choose (fun _ ↦ hr) fun _ ↦ .done _)
  | false =>
    exact h.succeeds_operation hw hsmall rfl fun _ hr ↦
      .report (.choose (fun _ ↦ hr) fun _ ↦ .done _)

private theorem succeeds_undo (hsmall : box.SmallAfter .undo) : Succeeds box.undo :=
  h.succeeds_operation hw hsmall rfl fun _ hr ↦ .choose (fun _ ↦ .report hr) fun _ ↦ .done _

private theorem succeeds_redo (hsmall : box.SmallAfter .redo) : Succeeds box.redo :=
  h.succeeds_operation hw hsmall rfl fun _ hr ↦ .choose (fun _ ↦ .report hr) fun _ ↦ .done _

private theorem succeeds_cut (clipboard : Clipboard) (hsmall : box.SmallAfter .deleteSelection) :
    Succeeds (box.cut clipboard) := by
  refine .liftThen ⟨_, selectedText_eq hw⟩ fun found _ ↦ ?_
  cases found with
  | some text =>
    exact .report (h.succeeds_operation hw hsmall rfl fun _ hr ↦ hr.andThen fun _ _ ↦ .done _)
  | none => exact .done _

private theorem succeeds_paste
    (hsmall : ∀ op, box.edit clipboard .paste = some op → box.SmallAfter op) :
    Succeeds (box.paste clipboard) := by
  refine .choose (fun _ ↦ .done _) fun hne ↦ .report ?_
  exact h.succeeds_insertText hw (hsmall _ (if_neg hne)) fun _ hr ↦ hr

private theorem succeeds_tab
    (hsmall : box.SmallAfter (.insertText (List.replicate box.options.tabSpaces ' '))) :
    Succeeds (do
      let text ← box.tabText
      box.insertAtCaret text) := by
  have hspaces : box.tabText = .ok (List.replicate box.options.tabSpaces ' ') := by
    rw [tabText, h.usual.options_eq]
    rfl
  refine .liftThen ⟨_, hspaces⟩ fun text ht ↦ ?_
  cases hspaces.symm.trans ht
  exact h.succeeds_insertAtCaret hw hsmall

/-- Any command that looks up no point too far to the left. -/
theorem succeeds_execute (hc : c.InRange)
    (hsmall : ∀ op, box.edit clipboard c = some op → box.SmallAfter op)
    (hx : ¬ box.TooFarLeft c) : Succeeds (box.execute clipboard c) := by
  have hcaret : box.editor.caret ≤ box.editor.buffer.length := hw.within.caret_le
  cases c with
  | insertText text => exact succeeds_keepClipboard (h.succeeds_insertAtCaret hw (hsmall _ rfl))
  | newline => exact succeeds_keepClipboard (h.succeeds_insertAtCaret hw (hsmall _ rfl))
  | tab => exact succeeds_keepClipboard (h.succeeds_tab hw (hsmall _ rfl))
  | deleteRange start stop =>
    exact succeeds_keepClipboard (h.succeeds_deleteRange hw (hsmall _ rfl))
  | backspace word => exact succeeds_keepClipboard (h.succeeds_backspace hw (hsmall _ rfl))
  | deleteForward word =>
    exact succeeds_keepClipboard (h.succeeds_deleteForward hw (hsmall _ rfl))
  | move direction mods => exact succeeds_keepClipboard (h.succeeds_move hcaret direction mods)
  | selectAll => exact .done _
  | copy => exact succeeds_copy hw clipboard
  | cut => exact h.succeeds_cut hw clipboard (hsmall _ rfl)
  | paste => exact succeeds_keepClipboard (h.succeeds_paste hw hsmall)
  | undo => exact succeeds_keepClipboard (h.succeeds_undo hw (hsmall _ rfl))
  | redo => exact succeeds_keepClipboard (h.succeeds_redo hw (hsmall _ rfl))
  | mousePress x y time mods => exact succeeds_keepClipboard (h.succeeds_press hc hx)
  | mouseDrag x y => exact succeeds_keepClipboard (h.succeeds_drag hc hx)
  | mouseRelease => exact .done _
  | wheel delta => exact succeeds_keepClipboard (h.succeeds_wheel hc)
  | pageUp => exact succeeds_keepClipboard (h.succeeds_page hcaret false)
  | pageDown => exact succeeds_keepClipboard (h.succeeds_page hcaret true)
  | escape => exact .done _
  | blur => exact .done _
  | focus => exact .done _

/-- A command that looks up no point too far to the left is carried out. -/
theorem succeeds_dispatch (hc : c.InRange) (hsmall : box.StaysSmall clipboard c)
    (hx : ¬ box.TooFarLeft c) : Succeeds (box.dispatch clipboard c) := by
  refine .choose (fun _ ↦ .report (.done _)) fun hheard ↦ ?_
  replace hsmall := hsmall (hears_iff.mpr hheard)
  refine (h.succeeds_execute hw hc hsmall hx).andThen fun ⟨acted, clipboard', dirty⟩ hp ↦ ?_
  refine .choose (fun hchanged ↦ ?_) fun _ ↦ .andThen (.done acted) fun _ _ ↦ .report (.done _)
  have hclamped : Succeeds acted.clampScroll := by
    rcases (executes hw h.sound clipboard hp).acts with ⟨-, op, hop, hedits⟩ | heffect
    · obtain ⟨ha, -, hr⟩ := hedits
      exact hr.current.succeeds_clampScroll ((hsmall op hop _ _ ha).fits.congr hr.sameRows)
    · -- Without an edit the revision is as before, and nothing is brought down.
      exact absurd (congrArg Buffer.revision heffect.buffer_eq) (bne_iff_ne.mp hchanged)
  exact hclamped.andThen fun _ _ ↦ .report (.done _)

end Edits

/-- A command that looks up a point too far to the left is not carried out. -/
theorem result_dispatch_eq_error (hx : box.TooFarLeft c) :
    (box.dispatch clipboard c).result = .error .subOverflow := by
  have hheard : (c.needsFocus && !box.focused) = false := by
    cases c with
    | mousePress | mouseDrag => rfl
    | _ => exact hx.elim
  rw [dispatch, Run.result_ite, hheard, if_neg Bool.false_ne_true, Run.result_bind,
    h.result_execute_eq_error hx]
  rfl

end Ready

private theorem Dispatches.usual {p : Box × Clipboard × Reply} (h : box.Dispatches clipboard c p)
    (hu : box.Usual) : p.1.Usual :=
  hu.congr h.sameRows.view_eq h.sameRows.options_eq h.sameRows.measure_eq

private theorem ScrollLegal.scroll_lt (hl : box.ScrollLegal) (hu : box.Usual) (hs : box.Small) :
    box.view.scroll < coordinateBound := by
  obtain ⟨rows, lineHeight, htypeset, -, -⟩ := id hs
  obtain ⟨limit, hlimit, hle⟩ := hl rows lineHeight htypeset
  exact Nat.lt_of_le_of_lt hle (hs.limit_lt htypeset hu hlimit)

end Box

namespace Session

variable {s t u : Session} {c : Command} {text : List Char} {width height : Nat}
  {clipboard : Clipboard}

/-- Session on a new box of a size with the usual settings and ten pixels for every character. -/
def usual (text : List Char) (width height : Nat) (clipboard : Clipboard) : Session :=
  ⟨(Box.ofSettings (.ofText text) {} width height).setMeasure (some (.perChar 10)), clipboard⟩

/-- A host can make such a session. -/
theorem reachable_usual : (usual text width height clipboard).Reachable :=
  ⟨_, _, _, _, [.inr (.setMeasure (some (.perChar 10)))], _, rfl⟩

/-- The box of such a session has the usual settings if its height is within screen coordinates. -/
theorem usual_box (hheight : height < coordinateBound) :
    (usual text width height clipboard).box.Usual :=
  ⟨rfl, rfl, rfl, rfl, hheight⟩

/-- Commands keep the usual settings. -/
theorem Commands.usual (h : s.Commands t) (hs : s.Reachable) (hu : s.box.Usual) :
    t.Reachable ∧ t.box.Usual := by
  induction h with
  | nil => exact ⟨hs, hu⟩
  | snoc h hd hf ih =>
    obtain ⟨hreachable, hkept⟩ := ih
    exact ⟨hd.reachable hreachable, (hd.dispatches hreachable).usual hkept⟩

/-- Commands lead to boxes that are ready as long as the text is small. -/
theorem Commands.ready (h : (Session.usual text width height clipboard).Commands t)
    (hheight : height < coordinateBound)
    (hstart : (Session.usual text width height clipboard).box.Small) (hsmall : t.box.Small) :
    t.Reachable ∧ t.box.Ready := by
  obtain ⟨hreachable, husual⟩ := h.usual reachable_usual (usual_box hheight)
  obtain ⟨-, hlegal⟩ := h.scrollLegal reachable_usual (scrollLegal_of_eq_zero hstart.fits rfl)
  exact ⟨hreachable, hreachable.editor.2, husual, hsmall, hlegal.scroll_lt husual hsmall⟩

/-- A host opens any text in a box with the usual settings, ten pixels for every character and a
height within screen coordinates, and sends commands with any arguments, as long as the height of
all rows and the width of each stay within screen coordinates too. No command fails but a press, or
a motion of an armed drag, at a point so far to the left that its distance from the text is no
32-bit number. Such a point always stops the command, at the subtraction of the left edge of the
text. And whatever text is edited into the box has rows, if its offsets have numbers. -/
theorem commands_answer_in_reach (hheight : height < coordinateBound)
    (hstart : (usual text width height clipboard).box.Small)
    (h : (usual text width height clipboard).Commands t) (hc : c.InRange) (hnow : t.box.Small)
    (hafter : t.box.StaysSmall t.clipboard c) :
    (¬ t.box.TooFarLeft c → ∃ u reply, t.Dispatched c u reply) ∧
    (t.box.TooFarLeft c → (t.box.dispatch t.clipboard c).result = .error .subOverflow) ∧
    ∀ editor : Editor, editor.buffer.length + 1 < offsetBound →
      ∃ rows lineHeight, Typeset { t.box with editor := editor } rows lineHeight := by
  obtain ⟨hreachable, hready⟩ := h.ready hheight hstart hnow
  refine ⟨fun hx ↦ ?_, fun hx ↦ hready.result_dispatch_eq_error hx, fun editor hb ↦ ?_⟩
  · obtain ⟨⟨box, clipboard', reply⟩, hp⟩ :=
      hready.succeeds_dispatch hreachable.editor.1.wellFormed hc hafter hx
    exact ⟨⟨box, clipboard'⟩, reply, hp⟩
  · have husual : Usual { t.box with editor := editor } := hready.usual.congr rfl rfl rfl
    exact husual.exists_typeset hb

/-- After a press in a box with three characters a line feed is typed, and a drag as far to the left
as 32 bits go fails. -/
theorem commands_answer_in_reach_drag :
    ∃ t, (usual "abc".toList 320 200 []).Commands t ∧
      (∃ u reply, t.Dispatched .newline u reply) ∧
      (t.box.dispatch t.clipboard (.mouseDrag (-0x8000_0000) 0)).result = .error .subOverflow := by
  have hstart : (usual "abc".toList 320 200 []).box.Small :=
    small_of_layout reachable_usual.editor.2 (by decide +kernel)
  have hcheck : ((usual "abc".toList 320 200 []).box.dispatch []
      (.mousePress 80 20 0 .none)).result.toOption.any (fun p ↦
        (p.1.pointer.isDragging && p.1.lowAndNarrow) &&
          (p.1.editor.apply (.insertText ['\n'])).result.toOption.any fun q ↦
            Box.lowAndNarrow { p.1 with editor := q.1 }) = true := by
    decide +kernel
  obtain ⟨⟨pressed, clipboard, reply⟩, hpress, hcheck⟩ := exists_of_any hcheck
  simp only [Bool.and_eq_true] at hcheck
  obtain ⟨⟨hdragging, hlow⟩, hcheck⟩ := hcheck
  let t : Session := ⟨pressed, clipboard⟩
  have hd : (usual "abc".toList 320 200 []).Dispatched (.mousePress 80 20 0 .none) t reply := hpress
  have ht := hd.reachable reachable_usual
  have hsmall : t.box.Small := small_of_layout ht.editor.2 hlow
  have hcommands : (usual "abc".toList 320 200 []).Commands t := .snoc .nil hd hsmall.fits
  have hready := (hcommands.ready (by decide) hstart hsmall).2
  have hnewline : t.box.StaysSmall t.clipboard .newline := by
    rintro - op ⟨⟩ after answer ha
    obtain ⟨q, hq, hlow⟩ := exists_of_any hcheck
    cases ha.symm.trans hq
    exact small_of_layout (hready.sound.of_apply ha) hlow
  have hdrag : t.box.TooFarLeft (.mouseDrag (-0x8000_0000) 0) :=
    ⟨hdragging, (hready.beyond_iff _).mpr (by decide)⟩
  refine ⟨t, hcommands, ?_, ?_⟩
  · have hc : Command.InRange .newline := trivial
    exact (commands_answer_in_reach (by decide) hstart hcommands hc hsmall hnewline).1 id
  · have hc : Command.InRange (.mouseDrag (-0x8000_0000) 0) := ⟨by decide, by decide⟩
    exact (commands_answer_in_reach (by decide) hstart hcommands hc hsmall
      (by rintro - op ⟨⟩)).2.1 hdrag

/-- Not every command is carried out: a press as far to the left as 32 bits go fails. -/
theorem not_forall_commands_answer :
    ¬ ∀ text width height clipboard c, width < coordinateBound → height < coordinateBound →
      (usual text width height clipboard).box.Small → c.InRange →
      (usual text width height clipboard).box.StaysSmall clipboard c →
      ∃ u reply, (usual text width height clipboard).Dispatched c u reply := by
  intro hall
  have hsmall : (usual "abc".toList 320 200 []).box.Small :=
    small_of_layout reachable_usual.editor.2 (by decide +kernel)
  have hc : Command.InRange (.mousePress (-0x8000_0000) 0 0 .none) := ⟨by decide, by decide⟩
  obtain ⟨u, reply, hd⟩ := hall "abc".toList 320 200 [] (.mousePress (-0x8000_0000) 0 0 .none)
    (by decide) (by decide) hsmall hc (by rintro - op ⟨⟩)
  have hfails : ((usual "abc".toList 320 200 []).box.dispatch []
      (.mousePress (-0x8000_0000) 0 0 .none)).result.toOption.isNone = true := by
    decide +kernel
  have hanswers : ((usual "abc".toList 320 200 []).box.dispatch []
      (.mousePress (-0x8000_0000) 0 0 .none)).result = .ok (u.box, u.clipboard, reply) := hd
  rw [hanswers] at hfails
  cases hfails

end Session

end EditBox
