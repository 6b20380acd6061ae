import EditBox.Proofs.Box.Gestures

/-!
# Dragging

A press that counts as a first click arms a drag, and the next press, release or loss of the focus
ends it. Edits, undos and the escape key in between do not: `drags_follow_presses` says that the
drag stays armed by its press, and that it goes on from the anchor of that press in whatever text
there is by then.
-/

namespace EditBox.Session

open EditBox.Box EditBox.Text

variable {s t u : Session} {c : Command} {commands : List Command} {reply : Reply} {anchor : Nat}

/-- Commands lead from one session to another, one after the other. -/
inductive Sends (s : Session) : List Command → Session → Prop where
  | nil : Sends s [] s
  | snoc {commands : List Command} {t u : Session} {c : Command} {reply : Reply}
      (h : Sends s commands t) (hd : t.Dispatched c u reply) : Sends s (commands ++ [c]) u

/-- Commands lead from a reachable session to a reachable one. -/
theorem Sends.reachable (h : s.Sends commands t) (hs : s.Reachable) : t.Reachable := by
  induction h with
  | nil => exact hs
  | snoc h hd ih => exact hd.reachable ih

private theorem Sends.pointer_eq (h : s.Sends commands t)
    (hquiet : ∀ c ∈ commands, c.turnsPointer = false) : t.box.pointer = s.box.pointer := by
  induction h with
  | nil => rfl
  | @snoc before mid last c reply h hd ih =>
    have hlast : c.turnsPointer = false := hquiet c (by simp)
    have hbefore : ∀ c ∈ before, c.turnsPointer = false := fun c hc ↦ hquiet c (by simp [hc])
    rw [hd.pointer_eq hlast, ih hbefore]

/-- The latest of the commands to touch the pointer is a press that counted as a first click and
anchored its drag here. -/
inductive ArmedBy (s : Session) (commands : List Command) (t : Session) (anchor : Nat) : Prop where
  | intro {before after : List Command} {p q : Session} {x y : Int} {time : Nat}
      {mods : Modifiers} {reply : Reply} {offset : Nat}
      (split : commands = before ++ .mousePress x y time mods :: after)
      (arrives : s.Sends before p)
      (pressed : p.Dispatched (.mousePress x y time mods) q reply)
      (counted : q.box.pointer.clickCount = 1)
      (under : p.box.Under x y .truncate offset)
      (anchored : anchor = p.box.editor.pressAnchor offset mods.shift)
      (leaves : q.Sends after t)
      (quiet : ∀ c ∈ after, c.turnsPointer = false)

private theorem ArmedBy.snoc (h : s.ArmedBy commands t anchor) (hd : t.Dispatched c u reply)
    (hc : c.turnsPointer = false) : s.ArmedBy (commands ++ [c]) u anchor := by
  obtain ⟨rfl, harrives, hpressed, hcounted, hunder, hanchored, hleaves, hquiet⟩ := h
  refine .intro (by simp) harrives hpressed hcounted hunder hanchored (hleaves.snoc hd) ?_
  intro c' hc'
  rcases List.mem_append.mp hc' with hafter | hlast
  · exact hquiet c' hafter
  · rw [List.mem_singleton.mp hlast, hc]

/-- The press that armed a drag left the pointer pressed and the drag anchored, and nothing has
touched it since. -/
theorem ArmedBy.pointer (h : s.ArmedBy commands t anchor) (hs : s.Reachable) :
    t.box.pointer.pressed = true ∧ t.box.pointer.dragAnchor = some anchor := by
  obtain ⟨-, harrives, hpressed, hcounted, hunder, rfl, hleaves, hquiet⟩ := h
  obtain ⟨offset, hunder', -, hplaced⟩ := hpressed.of_press (harrives.reachable hs)
  obtain rfl := hunder'.unique hunder
  have harmed := hplaced hcounted
  rw [hleaves.pointer_eq hquiet]
  exact ⟨harmed.pressed_eq, harmed.dragAnchor_eq⟩

/-- What a command makes of a drag: a press that counts as a first click arms one, a release or the
loss of the focus leaves none, and any other command leaves it alone. -/
theorem isDragging_cases (hd : t.Dispatched c u reply) (ht : t.Reachable)
    (hdragging : u.box.pointer.isDragging = true) :
    (c.turnsPointer = false ∧ t.box.pointer.isDragging = true) ∨
      ∃ x y time mods, c = .mousePress x y time mods ∧ u.box.pointer.clickCount = 1 := by
  cases c with
  | mousePress x y time mods =>
    obtain ⟨offset, -, hpointer, -⟩ := hd.of_press ht
    rw [hpointer, Pointer.isDragging_clicked] at hdragging
    refine .inr ⟨x, y, time, mods, rfl, ?_⟩
    rw [hpointer, Pointer.clickCount_clicked, hdragging]
  | mouseRelease =>
    rw [hd.pointer_release (.inl rfl), Pointer.isDragging_release] at hdragging
    cases hdragging
  | blur =>
    rw [hd.pointer_release (.inr rfl), Pointer.isDragging_release] at hdragging
    cases hdragging
  | _ =>
    rw [hd.pointer_eq rfl] at hdragging
    exact .inl ⟨rfl, hdragging⟩

/-- A drag in progress was armed by a press. -/
theorem exists_armedBy (hs : s.Reachable) (hidle : s.box.pointer.isDragging = false)
    (h : s.Sends commands t) (hdragging : t.box.pointer.isDragging = true) :
    ∃ anchor, s.ArmedBy commands t anchor := by
  induction h with
  | nil =>
    rw [hidle] at hdragging
    cases hdragging
  | snoc h hd ih =>
    rcases isDragging_cases hd (h.reachable hs) hdragging with
      ⟨hc, hbefore⟩ | ⟨x, y, time, mods, rfl, hcounted⟩
    · obtain ⟨anchor, harmed⟩ := ih hbefore
      exact ⟨anchor, harmed.snoc hd hc⟩
    · obtain ⟨offset, hunder, -, -⟩ := hd.of_press (h.reachable hs)
      exact ⟨_, .intro rfl h hd hcounted hunder rfl .nil (by simp)⟩

/-- Commands are sent to a session without a drag, such as a fresh one. A drag is in progress
exactly when the latest press, release or loss of the focus was a press that counted as a first
click. While none is, a motion of the mouse changes nothing at all. While one is, a motion selects
from the anchor of that press, brought down to the length of the text, to the offset under the
pointer, and leaves the text, its history, the focus and the clipboard alone; and it is carried out
whenever the text can be drawn and the point has an offset. -/
theorem drags_follow_presses (hs : s.Reachable) (hidle : s.box.pointer.isDragging = false)
    (h : s.Sends commands t) :
    (t.box.pointer.isDragging = true ↔ ∃ anchor, s.ArmedBy commands t anchor) ∧
    (t.box.pointer.isDragging = false → ∀ x y,
      (t.box.dispatch t.clipboard (.mouseDrag x y)).result =
        .ok (t.box, t.clipboard, ⟨false, false⟩)) ∧
    ∀ anchor, s.ArmedBy commands t anchor → ∀ x y,
      (∀ u reply, t.Dispatched (.mouseDrag x y) u reply → u.clipboard = t.clipboard ∧
        ∃ offset, t.box.Under x y .nearest offset ∧ t.box.Dragged anchor offset u.box) ∧
      (t.box.Drawable → ∀ offset, t.box.Under x y .nearest offset →
        ∃ u reply, t.Dispatched (.mouseDrag x y) u reply) := by
  have ht := h.reachable hs
  refine ⟨⟨exists_armedBy hs hidle h, ?_⟩, result_drag_of_not_isDragging, ?_⟩
  · rintro ⟨anchor, harmed⟩
    obtain ⟨hpressed, hanchor⟩ := harmed.pointer hs
    exact (Pointer.isDragging_iff _).mpr ⟨hpressed, anchor, hanchor⟩
  · intro anchor harmed x y
    obtain ⟨hpressed, hanchor⟩ := harmed.pointer hs
    constructor
    · intro u reply hd
      obtain ⟨offset, hunder, hdragged, hclipboard⟩ := hd.of_drag ht hpressed hanchor
      exact ⟨hclipboard, offset, hunder, hdragged⟩
    · intro hdrawable offset hunder
      exact exists_dispatched_drag ht hpressed hanchor hdrawable hunder

/-- A press behind the fourth character arms a drag. Four of five characters are deleted and the
selection is dropped, and still a motion to the left edge selects from the end of what is left. -/
theorem drags_follow_presses_shrunk :
    let box := (Box.new (.ofText "hello".toList) (.unscrolled 320 100 0 0)
      ⟨200, 500, 4, 3, 1, 530, ⟨4, 10⟩⟩).setMeasure (some (.perChar 10))
    let s : Session := ⟨box, []⟩
    let commands := [.mousePress 40 0 0 .none, .deleteRange 1 5, .escape]
    ∃ t u reply, s.Sends commands t ∧ s.ArmedBy commands t 4 ∧ t.box.editor.length = 1 ∧
      t.box.pointer.isDragging = true ∧ t.Dispatched (.mouseDrag 0 0) u reply ∧
      t.box.Dragged 4 0 u.box := by
  intro box s commands
  have hs : s.Reachable := ⟨_, _, _, _, [.inr (.setMeasure (some (.perChar 10)))], _, rfl⟩
  have hcheck : ((s.box.pointToOffset 40 0 .truncate).result.toOption.any (·.2 == 4) &&
      (s.box.dispatch s.clipboard (.mousePress 40 0 0 .none)).result.toOption.any fun p ↦
        p.1.pointer.clickCount == 1 &&
          (p.1.dispatch p.2.1 (.deleteRange 1 5)).result.toOption.any fun q ↦
            (q.1.dispatch q.2.1 .escape).result.toOption.any fun r ↦
              r.1.editor.length == 1 &&
                (r.1.dispatch r.2.1 (.mouseDrag 0 0)).result.toOption.any fun d ↦
                  d.1.editor.caret == 0) = true := by
    decide +kernel
  rw [Bool.and_eq_true] at hcheck
  obtain ⟨hpoint, hcheck⟩ := hcheck
  obtain ⟨⟨laidOut, offset⟩, hpoint, hoffset⟩ := exists_of_any hpoint
  obtain rfl : offset = 4 := beq_iff_eq.mp hoffset
  obtain ⟨⟨pressed, clipboard₁, reply₁⟩, hpressed, hcheck⟩ := exists_of_any hcheck
  simp only [Bool.and_eq_true, beq_iff_eq] at hcheck
  obtain ⟨hcounted, hcheck⟩ := hcheck
  obtain ⟨⟨deleted, clipboard₂, reply₂⟩, hdeleted, hcheck⟩ := exists_of_any hcheck
  obtain ⟨⟨escaped, clipboard₃, reply₃⟩, hescaped, hcheck⟩ := exists_of_any hcheck
  simp only [Bool.and_eq_true, beq_iff_eq] at hcheck
  obtain ⟨hlength, hcheck⟩ := hcheck
  obtain ⟨⟨dragged, clipboard₄, reply₄⟩, hdragged, hcaret⟩ := exists_of_any hcheck
  let p : Session := ⟨pressed, clipboard₁⟩
  let q : Session := ⟨deleted, clipboard₂⟩
  let t : Session := ⟨escaped, clipboard₃⟩
  let u : Session := ⟨dragged, clipboard₄⟩
  have hd₁ : s.Dispatched (.mousePress 40 0 0 .none) p reply₁ := hpressed
  have hd₂ : p.Dispatched (.deleteRange 1 5) q reply₂ := hdeleted
  have hd₃ : q.Dispatched .escape t reply₃ := hescaped
  have hd₄ : t.Dispatched (.mouseDrag 0 0) u reply₄ := hdragged
  have harmed : s.ArmedBy commands t 4 :=
    have hsplit : commands = [] ++ .mousePress 40 0 0 .none :: [.deleteRange 1 5, .escape] := rfl
    .intro hsplit .nil hd₁ hcounted ⟨laidOut, hpoint⟩ rfl (.snoc (.snoc .nil hd₂) hd₃) (by decide)
  have hsends : s.Sends commands t := .snoc (.snoc (.snoc .nil hd₁) hd₂) hd₃
  obtain ⟨hdragging, -, hdrag⟩ := drags_follow_presses hs rfl hsends
  obtain ⟨-, offset, -, h⟩ := (hdrag 4 harmed 0 0).1 u reply₄ hd₄
  obtain rfl : offset = 0 := h.caret_eq.symm.trans (beq_iff_eq.mp hcaret)
  exact ⟨t, u, reply₄, hsends, harmed, hlength, hdragging.mpr ⟨4, harmed⟩, hd₄, h⟩

end EditBox.Session
