import EditBox.Proofs.Box.Dispatch
import EditBox.Proofs.Box.Frame

/-!
# Sessions

What a host can do with an edit box: send commands, edit the text itself, change the size, the
measurer and the public fields, and ask for geometry at any time. The layout is made lazily, and
`layout_indistinguishable_from_fresh` says that nobody can tell: after a query the rows are those
of a layout made from nothing, and queries change nothing but when layouts are made.
-/

namespace EditBox

open EditBox.Box EditBox.Layout EditBox.Text

/-- Question about the geometry of an edit box. -/
inductive Query where
  | ensureLayout
  | lineHeight
  | rowCount
  | offsetVisual (offset : Nat)
  | caretVisual
  | rowXToOffset (row : Nat) (x : Int)
  | pointToOffset (px py : Int) (rounding : RowRounding)
  | frame (caretOn : Bool)

/-- What a host does with an edit box and its clipboard. -/
inductive Action where
  | command (c : Command)
  /-- Operate on the editor directly. -/
  | edit (op : Editor.Operation)
  | resize (width height : Nat)
  | setMeasure (m : Option Measure)
  /-- Write the public fields. -/
  | setFields (view : View) (pointer : Pointer) (focused : Bool)
  | setClipboard (text : Clipboard)
  | ensureCaretVisible
  | clampScroll
  | ask (q : Query)

/-- Answer to an action. -/
inductive Answer where
  | nothing
  | flag (b : Bool)
  | number (n : Nat)
  | place (pos : VisualPos)
  | frame (f : Frame)
  | reply (r : Reply)
  | response (r : Editor.Response)

/-- The measurer after an action. -/
def Action.measureAfter (measure : Option Measure) : Action → Option Measure
  | .setMeasure m => m
  | _ => measure

private theorem Action.eq_of_measureAfter (action : Action) {measure m : Option Measure}
    (h : action.measureAfter measure = m) : measure = m ∨ action = .setMeasure m := by
  cases action with
  | setMeasure m' => exact .inr (congrArg Action.setMeasure h)
  | _ => exact .inl h

/-- Edit box and clipboard of a host. -/
structure Session where
  box : Box
  clipboard : Clipboard

/-- Answer a question. -/
def Box.ask (box : Box) : Query → Run (Box × Answer)
  | .ensureLayout => do
      let box ← box.ensureLayout
      return (box, .nothing)
  | .lineHeight => answer .number box.lineHeight
  | .rowCount => answer .number box.rowCount
  | .offsetVisual offset => answer .place (box.offsetVisual offset)
  | .caretVisual => answer .place box.caretVisual
  | .rowXToOffset row x => answer .number (box.rowXToOffset row x)
  | .pointToOffset px py rounding => answer .number (box.pointToOffset px py rounding)
  | .frame caretOn => answer .frame (Frame.build box caretOn)
where
  /-- Give the answer of a query as one of a session. -/
  answer {α : Type} (f : α → Answer) (r : Run (Box × α)) : Run (Box × Answer) := do
    let (box, a) ← r
    return (box, f a)

namespace Session

/-- Session on a fresh edit box. -/
def start (buffer : Buffer) (view : View) (options : Options) (clipboard : Clipboard) : Session :=
  ⟨.new buffer view options, clipboard⟩

/-- Carry out an action. -/
def act (s : Session) : Action → Run (Session × Answer)
  | .command c => do
      let (box, clipboard, reply) ← s.box.dispatch s.clipboard c
      return (⟨box, clipboard⟩, .reply reply)
  | .edit op => do
      let (editor, response) ← s.box.editor.apply op
      return ({ s with box := { s.box with editor := editor } }, .response response)
  | .resize width height => do
      let box ← s.box.resize width height
      return ({ s with box := box }, .nothing)
  | .setMeasure m => return ({ s with box := s.box.setMeasure m }, .nothing)
  | .setFields view pointer focused =>
      return ({ s with
        box := { s.box with view := view, pointer := pointer, focused := focused } }, .nothing)
  | .setClipboard text => return ({ s with clipboard := text }, .nothing)
  | .ensureCaretVisible => do
      let (box, scrolled) ← s.box.ensureCaretVisible
      return ({ s with box := box }, .flag scrolled)
  | .clampScroll => do
      let box ← s.box.clampScroll
      return ({ s with box := box }, .nothing)
  | .ask q => do
      let (box, answer) ← s.box.ask q
      return ({ s with box := box }, answer)

/-- Carry out actions and ask questions in between; the answers to the actions are collected, those
to the questions are not. -/
def run (s : Session) : List (Query ⊕ Action) → Run (Session × List Answer)
  | [] => return (s, [])
  | .inl q :: steps => do
      let (box, _) ← s.box.ask q
      run { s with box := box } steps
  | .inr action :: steps => do
      let (s, answer) ← s.act action
      let (s, answers) ← s.run steps
      return (s, answer :: answers)

end Session

variable {α : Type} {measure : Option Measure}

namespace Box

/-- The cache of a box holds the layout of its text made from nothing. -/
def LaidOut (box : Box) : Prop :=
  ∃ width, box.view.contentWidth = .ok width ∧
    box.layout.Shows (.ofText box.editor.text) width box.measure box.options.layout

/-- A layout of the buffer is one of its text. -/
theorem Shows.laidOut {box : Box} (h : box.Shows) : box.LaidOut := by
  obtain ⟨width, hw, hrows, hheight, hdegraded⟩ := h
  exact ⟨width, hw, (wrapBuffer_ofText _ _ _ _).trans hrows, hheight, hdegraded⟩

variable {a b : Box}

private theorem alike_answer {R : Box → Box → Prop} (f : α → Answer) {r r' : Run (Box × α)}
    (h : Alike measure (Both R) r.result r'.result) :
    Alike measure (Both R) (ask.answer f r).result (ask.answer f r').result := by
  apply h.andThen
  intro p q hpq
  obtain ⟨answer, hR⟩ := hpq
  exact .ok (.intro _ hR)

/-- Twins give the same answer to a question and are level after it. -/
theorem Twin.ask (h : Twin measure a b) (q : Query) :
    Alike measure (Both (Level a)) (a.ask q).result (b.ask q).result := by
  cases q with
  | ensureLayout => exact h.ensureLayout.andThen fun _ _ hlevel ↦ .ok (.intro _ hlevel)
  | lineHeight => exact alike_answer _ h.lineHeight
  | rowCount => exact alike_answer _ h.rowCount
  | offsetVisual offset => exact alike_answer _ (h.offsetVisual offset)
  | caretVisual => exact alike_answer _ h.caretVisual
  | rowXToOffset row x => exact alike_answer _ (h.rowXToOffset row x)
  | pointToOffset px py rounding => exact alike_answer _ (h.pointToOffset px py rounding)
  | frame caretOn => exact alike_answer _ (Frame.alike_build h caretOn)

/-- A question leaves a box as it was but for the layout, which then shows the text. -/
theorem Sound.of_ask (h : a.Sound) {q : Query} {answer : Answer}
    (ha : (a.ask q).result = .ok (b, answer)) :
    ∃ layout, b = a.laid layout ∧ b.Sound ∧ b.Shows := by
  obtain ⟨p, -, hboth⟩ := ((Twin.refl rfl h).ask q).exists_right ha
  obtain ⟨-, hlevel⟩ := hboth
  obtain @⟨layout, n, hs, hshows⟩ := hlevel
  exact ⟨layout, rfl, hs, hshows⟩

private theorem Twin.resize (h : Twin measure a b) (width height : Nat) :
    Alike measure (Twin measure) (a.resize width height) (b.resize width height) := by
  obtain @⟨layout, rfl, hs, hs'⟩ := h
  apply (Alike.refl a.view.safe_contentWidth).bind
  intro _ before hbefore
  obtain ⟨rfl, -⟩ := hbefore
  apply (Alike.refl (View.safe_contentWidth _)).bind
  intro _ after hafter
  obtain ⟨rfl, -⟩ := hafter
  refine .ok (.intro rfl ?_ ?_)
  · exact LayoutCache.Sound.keepOrInvalidate hs _
  · exact LayoutCache.Sound.keepOrInvalidate hs' _

end Box

namespace Session

/-- Sessions with the same clipboard whose boxes are twins. -/
inductive Twin (measure : Option Measure) : Session → Session → Prop where
  | intro {a b : Box} (clipboard : Clipboard) (h : Box.Twin measure a b) :
      Twin measure ⟨a, clipboard⟩ ⟨b, clipboard⟩

variable {s t : Session}

/-- An action gives twins the same answer and leaves them twins. -/
theorem Twin.act (h : Twin measure s t) (action : Action) :
    Alike measure (fun p q ↦ Twin (action.measureAfter measure) p.1 q.1 ∧ q.2 = p.2)
      (s.act action).result (t.act action).result := by
  obtain @⟨a, b, clipboard, h⟩ := h
  cases action with
  | command c =>
    apply (h.dispatch clipboard c).andThen
    intro p q hpq
    obtain ⟨⟨clipboard, reply⟩, h⟩ := hpq
    exact .ok ⟨.intro clipboard h, rfl⟩
  | edit op =>
    obtain @⟨layout, rfl, hs, hs'⟩ := h
    have hcounts : Editor.Counts a.measure a.editor (a.editor.apply op).result :=
      Editor.counts_apply _ _
    refine Alike.share hcounts.safe fun p hp ↦ .ok ⟨.intro clipboard ?_, rfl⟩
    exact hs.twin hs' (hcounts.comesFrom p hp) a.view a.pointer a.focused
  | resize width height =>
    exact Alike.liftThen (h.resize width height) fun _ _ h ↦ .ok ⟨.intro clipboard h, rfl⟩
  | setMeasure m =>
    obtain @⟨layout, rfl, hs, hs'⟩ := h
    refine .ok ⟨.intro clipboard (.intro rfl ?_ ?_), rfl⟩
    · exact LayoutCache.sound_invalidate _
    · exact LayoutCache.sound_invalidate _
  | setFields view pointer focused =>
    obtain @⟨layout, rfl, hs, hs'⟩ := h
    exact .ok ⟨.intro clipboard (hs.twin hs' (.refl _) view pointer focused), rfl⟩
  | setClipboard text => exact .ok ⟨.intro text h, rfl⟩
  | ensureCaretVisible =>
    apply h.ensureCaretVisible.andThen
    intro p q hpq
    obtain ⟨scrolled, h⟩ := hpq
    exact .ok ⟨.intro clipboard h, rfl⟩
  | clampScroll => exact h.clampScroll.andThen fun _ _ h ↦ .ok ⟨.intro clipboard h, rfl⟩
  | ask q =>
    apply (h.ask q).andThen
    intro p q hpq
    obtain ⟨answer, hlevel⟩ := hpq
    exact .ok ⟨.intro clipboard (hlevel.twin h.measure_eq), rfl⟩

/-- A box stays sound under an action, and has the measurer that the action leaves it. -/
theorem sound_of_act (hm : s.box.measure = measure) (h : s.box.Sound) {action : Action}
    {answer : Answer} (hr : (s.act action).result = .ok (t, answer)) :
    t.box.measure = action.measureAfter measure ∧ t.box.Sound := by
  have hself : Twin measure s s := .intro s.clipboard (.refl hm h)
  obtain ⟨⟨t', _⟩, -, htwin, -⟩ := (hself.act action).exists_right hr
  dsimp only at htwin
  obtain ⟨clipboard, hm, hs, -⟩ := htwin
  exact ⟨hm, hs⟩

/-- A fault of arithmetic, or of a measurer that there is at first or that a step gives. -/
def Explained (measure : Option Measure) (steps : List (Query ⊕ Action)) (f : Fault) : Prop :=
  f.isArithmetic = true ∨ ∃ m text,
    (measure = some m ∨ .inr (.setMeasure (some m)) ∈ steps) ∧ m.width text = .error f

namespace Explained

variable {steps : List (Query ⊕ Action)} {f : Fault}

private theorem of_excused (h : f.Excused measure) : Explained measure steps f := by
  rcases h with h | ⟨m, text, hm, hw⟩
  · exact .inl h
  · exact .inr ⟨m, text, .inl hm, hw⟩

private theorem of_ask (h : Explained measure steps f) (q : Query) :
    Explained measure (.inl q :: steps) f := by
  rcases h with h | ⟨m, text, h, hw⟩
  · exact .inl h
  · exact .inr ⟨m, text, h.imp id (List.mem_cons_of_mem _), hw⟩

private theorem of_act {action : Action} (h : Explained (action.measureAfter measure) steps f) :
    Explained measure (.inr action :: steps) f := by
  rcases h with h | ⟨m, text, h, hw⟩
  · exact .inl h
  · refine .inr ⟨m, text, ?_, hw⟩
    rcases h with h | h
    · rcases action.eq_of_measureAfter h with h | rfl
      · exact .inl h
      · exact .inr (List.mem_cons_self ..)
    · exact .inr (List.mem_cons_of_mem _ h)

end Explained

/-- A run stops only with a fault of arithmetic, or of a measurer that the box had or was given on
the way. -/
theorem explained_of_run (hm : s.box.measure = measure) (hs : s.box.Sound)
    (steps : List (Query ⊕ Action)) {f : Fault} (hf : (s.run steps).result = .error f) :
    Explained measure steps f := by
  induction steps generalizing measure s with
  | nil => cases hf
  | cons step steps ih =>
    cases step with
    | inl q =>
      rw [run, Run.result_bind] at hf
      cases hq : (s.box.ask q).result with
      | error f' =>
        rw [hq] at hf
        cases hf
        exact .of_excused (((Box.Twin.refl hm hs).ask q).safe_left _ hq)
      | ok p =>
        obtain ⟨box, answer⟩ := p
        obtain ⟨layout, rfl, hnext, -⟩ := hs.of_ask hq
        rw [hq] at hf
        exact .of_ask (ih (s := { s with box := s.box.laid layout }) hm hnext hf) q
    | inr action =>
      rw [run, Run.result_bind] at hf
      cases ha : (s.act action).result with
      | error f' =>
        rw [ha] at hf
        cases hf
        have hself : Twin measure s s := .intro s.clipboard (.refl hm hs)
        exact .of_excused ((hself.act action).safe_left _ ha)
      | ok p =>
        obtain ⟨next, answer⟩ := p
        obtain ⟨hm', hs'⟩ := sound_of_act hm hs ha
        rw [ha, Fault.ok_bind, Run.result_bind] at hf
        cases hr : (next.run steps).result with
        | ok p =>
          rw [hr] at hf
          cases hf
        | error f' =>
          rw [hr] at hf
          cases hf
          exact .of_act (ih hm' hs' hr)

/-- Questions leave no trace but layouts: without them a run gives the same answers and ends in a
twin. -/
theorem Twin.run (h : Twin measure s t) (steps : List (Query ⊕ Action)) {s' : Session}
    {answers : List Answer} (hr : (s.run steps).result = .ok (s', answers)) :
    ∃ t' measure', (t.run (steps.filter Sum.isRight)).result = .ok (t', answers) ∧
      Twin measure' s' t' := by
  induction steps generalizing measure s t answers with
  | nil =>
    cases hr
    exact ⟨t, measure, rfl, h⟩
  | cons step steps ih =>
    cases step with
    | inl q =>
      rw [Session.run, Run.result_bind] at hr
      obtain ⟨⟨box, answer⟩, hask, hr⟩ := Fault.bind_eq_ok_iff.mp hr
      obtain @⟨a, b, clipboard, h⟩ := h
      obtain @⟨layout, hm, hs, hs'⟩ := h
      obtain ⟨layout', rfl, hnext, -⟩ := hs.of_ask hask
      -- The question is asked on the left alone and leaves another layout there.
      have htwin : Box.Twin measure (a.laid layout') (a.laid layout) := .intro hm hnext hs'
      exact ih (.intro clipboard htwin) hr
    | inr action =>
      rw [Session.run, Run.result_bind] at hr
      obtain ⟨⟨next, answer⟩, hact, hr⟩ := Fault.bind_eq_ok_iff.mp hr
      rw [Run.result_bind] at hr
      obtain ⟨⟨last, rest⟩, hrest, hr⟩ := Fault.bind_eq_ok_iff.mp hr
      cases hr
      obtain ⟨⟨next', answer'⟩, hact', htwin, hanswer⟩ := (h.act action).exists_right hact
      obtain rfl : answer' = answer := hanswer
      obtain ⟨t', measure', hrun, hlast⟩ := ih htwin hrest
      refine ⟨t', measure', ?_, hlast⟩
      rw [List.filter_cons_of_pos rfl, Session.run, Run.result_bind, hact', Fault.ok_bind,
        Run.result_bind, hrun]
      rfl

/-- The layout of an edit box is made lazily, and nobody can tell. Whatever a host does with a new
box, and wherever it asks about geometry in between: after any question the rows, their height and
the missing measurer are those of a layout of the text made from nothing, for the present width and
measurer; without the questions the actions get the same answers, and the box ends the same but
for its layout; and nothing stops the host but arithmetic or a measurer of its own, so no line is
looked up that the buffer does not have. -/
theorem layout_indistinguishable_from_fresh (buffer : Buffer) (view : View) (options : Options)
    (clipboard : Clipboard) (steps : List (Query ⊕ Action)) :
    (∀ s answers,
      ((start buffer view options clipboard).run steps).result = .ok (s, answers) →
        (∀ q box answer, (s.box.ask q).result = .ok (box, answer) → box.LaidOut) ∧
        ∃ s', ((start buffer view options clipboard).run (steps.filter Sum.isRight)).result =
            .ok (s', answers) ∧
          s'.clipboard = s.clipboard ∧ s'.box.laid .fresh = s.box.laid .fresh) ∧
    ∀ f, ((start buffer view options clipboard).run steps).result = .error f →
      f.isArithmetic = true ∨
        ∃ m text, .inr (.setMeasure (some m)) ∈ steps ∧ m.width text = .error f := by
  have hs : (start buffer view options clipboard).box.Sound := LayoutCache.sound_fresh
  have hself : Twin none (start buffer view options clipboard)
      (start buffer view options clipboard) := .intro clipboard (.refl rfl hs)
  refine ⟨fun s answers hr ↦ ?_, fun f hf ↦ ?_⟩
  · obtain ⟨t, measure, hrun, htwin⟩ := hself.run steps hr
    obtain ⟨clipboard, -, hsound, -⟩ := htwin
    refine ⟨fun q box answer hask ↦ ?_, _, hrun, rfl, rfl⟩
    obtain ⟨layout, -, -, hshows⟩ := hsound.of_ask hask
    exact hshows.laidOut
  · rcases explained_of_run rfl hs steps hf with h | ⟨m, text, h, hw⟩
    · exact .inl h
    · exact .inr ⟨m, text, h.resolve_left (fun hm ↦ by cases hm), hw⟩

/-- A line feed typed, undone and redone, with questions in between that lay out what is undone. -/
theorem layout_indistinguishable_redo :
    let s := start (.ofText []) (.unscrolled 120 100 0 0) ⟨200, 500, 4, 3, 1, 530, ⟨4, 10⟩⟩ []
    let steps := [.inr (.setMeasure (some (.perChar 10))), .inl .rowCount,
      .inr (.command (.insertText ['\n'])), .inr (.command .undo), .inl .caretVisual,
      .inr (.command .redo), .inr (.ask .rowCount)]
    ∃ s' s'' answers, (s.run steps).result = .ok (s', answers) ∧
      (s.run (steps.filter Sum.isRight)).result = .ok (s'', answers) ∧
      s''.box.laid .fresh = s'.box.laid .fresh := by
  intro s steps
  obtain ⟨hok, -⟩ := layout_indistinguishable_from_fresh (.ofText []) (.unscrolled 120 100 0 0)
    ⟨200, 500, 4, 3, 1, 530, ⟨4, 10⟩⟩ [] steps
  have hrun : (s.run steps).result.isOk = true := by decide +kernel
  cases hr : (s.run steps).result with
  | error f =>
    rw [hr] at hrun
    cases hrun
  | ok p =>
    obtain ⟨s', answers⟩ := p
    obtain ⟨-, s'', hbare, -, hbox⟩ := hok s' answers hr
    exact ⟨s', s'', answers, rfl, hbare, hbox⟩

end Session

end EditBox
