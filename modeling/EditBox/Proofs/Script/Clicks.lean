import EditBox.Program.Replay
import EditBox.Proofs.Box.Dragging
import EditBox.Proofs.Script.Reading

/-!
# Clicks of a script

The reader of a script keeps the time of the latest click, and an edit box keeps the time of the
latest press. `parseLines_append` and `Dispatched.lastClick_eq` say how the two go on. They go on
alike, so they agree wherever the commands of a script are sent in order (`Sends.lastClick_eq`). A
click without a time then comes a second after the press before it, and
`untimed_clicks_never_combine` concludes that it counts as a first click.
-/

namespace EditBox

open EditBox.Box EditBox.Text

namespace Script

variable {text x y : List Char} {before rest : List (List Char)} {commands : List Command}
  {shift : Bool}

/-- A line that clicks, with shift or without, at the point of two words and without a time. -/
structure UntimedClick (text : List Char) (shift : Bool) (x y : List Char) : Prop where
  typedText?_eq : typedText? text = none
  words_eq : words (withoutComment text) = [clickHead shift, x, y]

private theorem UntimedClick.exists_eq (h : UntimedClick text shift x y) {entry : Entry}
    (hentry : entry.On Form.ReadFrom text) :
    ∃ px py, coordinate? x = some px ∧ coordinate? y = some py ∧
      entry = .command (.click shift px py none) := by
  obtain ⟨htyped, hwords⟩ := h
  rw [typedText?_eq_none_iff] at htyped
  obtain ⟨form, rfl, hform⟩ := hentry.exists_form htyped (wordLine_iff.mpr hwords)
  obtain ⟨px, py, hx, hy, rfl⟩ := hform.of_clickHead
  exact ⟨px, py, coordinate?_eq_some_iff.mpr hx, coordinate?_eq_some_iff.mpr hy, rfl⟩

/-- A click without a time on a line of a script is a press a second after the latest press that the
lines before it ask for. -/
theorem exists_press_of_parse {src : List Char} (hparse : parse src = .ok (.ok commands))
    (hlines : lines src = before ++ text :: rest) (hclick : UntimedClick text shift x y) :
    ∃ first px py later,
      commands = first ++ .mousePress px py (clockAfter 0 first + clickSpacing) ⟨false, shift⟩ ::
        later ∧
      parseLines 0 1 before = .ok (.ok first) ∧ coordinate? x = some px ∧
      coordinate? y = some py := by
  rw [parse, hlines] at hparse
  obtain ⟨entries, hread, rfl⟩ := exists_readAs hparse
  obtain ⟨first, later, rfl, hfirst, hlater⟩ := hread.exists_of_append
  obtain ⟨entry, later, hentry, -, rfl⟩ := List.forall₂_cons_right_iff.mp hlater
  obtain ⟨px, py, hx, hy, rfl⟩ := hclick.exists_eq hentry
  rw [commandsOf_append, commandsOf]
  exact ⟨commandsOf 0 first, px, py, _, rfl, hfirst.parseLines_eq 1, hx, hy⟩

end Script

namespace Session

variable {s t u : Session} {c : Command} {commands : List Command} {reply : Reply}

/-- The time of the latest press is that of a press, or as before. -/
theorem Dispatched.lastClick_eq (h : s.Dispatched c t reply) (hs : s.Reachable) :
    t.box.pointer.lastClick = c.pressTime?.or s.box.pointer.lastClick := by
  cases c with
  | mousePress x y time mods =>
    obtain ⟨offset, -, hpointer, -⟩ := h.of_press hs
    rw [hpointer, Pointer.lastClick_clicked]
    rfl
  | mouseRelease =>
    rw [h.pointer_release (.inl rfl)]
    rfl
  | blur =>
    rw [h.pointer_release (.inr rfl)]
    rfl
  | _ =>
    rw [h.pointer_eq rfl]
    rfl

/-- The press that an edit box saw last is the one that a reader of the commands saw last. -/
theorem Sends.lastClick_eq (h : s.Sends commands t) (hs : s.Reachable) {clock : Nat}
    (hclock : ∀ last, s.box.pointer.lastClick = some last → last = clock) :
    ∀ last, t.box.pointer.lastClick = some last → last = Script.clockAfter clock commands := by
  induction h with
  | nil => exact hclock
  | @snoc before mid last c reply h hd ih =>
    intro time htime
    rw [hd.lastClick_eq (h.reachable hs)] at htime
    rw [Script.clockAfter_append]
    change time = c.pressTime?.getD _
    cases hpress : c.pressTime? with
    | none =>
      rw [hpress] at htime
      exact ih time htime
    | some last =>
      rw [hpress] at htime
      exact (Option.some.inj htime).symm

private theorem Sends.options_eq (h : s.Sends commands t) (hs : s.Reachable) :
    t.box.options = s.box.options := by
  induction h with
  | nil => rfl
  | snoc h hd ih => rw [(hd.dispatches (h.reachable hs)).sameRows.options_eq, ih]

private theorem Sends.cons (hd : s.Dispatched c t reply) (h : t.Sends commands u) :
    s.Sends (c :: commands) u := by
  induction h with
  | nil => exact .snoc .nil hd
  | snoc h hlast ih => exact .snoc ih hlast

private theorem Sends.exists_of_snoc (h : s.Sends (commands ++ [c]) u) :
    ∃ t reply, s.Sends commands t ∧ t.Dispatched c u reply := by
  generalize hsplit : commands ++ [c] = all at h
  cases h with
  | nil => simp at hsplit
  | @snoc before mid last c' reply h hd =>
    obtain ⟨rfl, hlast⟩ := List.append_inj' hsplit rfl
    cases hlast
    exact ⟨mid, reply, h, hd⟩

/-- The program sends the commands of a script one after the other. -/
theorem exists_sends_of_replay {box box' : Box} {clipboard : Clipboard} {blink blink' : Blink}
    (h : (Program.replay box clipboard blink commands).result = .ok (box', blink')) :
    ∃ clipboard', Sends ⟨box, clipboard⟩ commands ⟨box', clipboard'⟩ := by
  induction commands generalizing box clipboard blink with
  | nil =>
    cases h
    exact ⟨clipboard, .nil⟩
  | cons c commands ih =>
    rw [Program.replay, Run.result_bind] at h
    obtain ⟨⟨next, clipboard₁, reply⟩, hd, h⟩ := Fault.bind_eq_ok_iff.mp h
    obtain ⟨clipboard', hsends⟩ := ih h
    have hfirst : Dispatched ⟨box, clipboard⟩ c ⟨next, clipboard₁⟩ reply := hd
    exact ⟨clipboard', .cons hfirst hsends⟩

/-- A script is replayed in a session that has seen no press, with an interval for further clicks
of at most a second. For every line that clicks without a time there is a press among its commands,
at the point that the line gives. Sent after the commands of the lines before it, whatever they are,
that press always counts as a first click: it places the caret or takes the selection along and arms
a drag, and selects no word or line. And it is carried out whenever the text can be drawn and the
point has an offset. -/
theorem untimed_clicks_never_combine {src text x y : List Char} {before rest : List (List Char)}
    {shift : Bool} (hparse : Script.parse src = .ok (.ok commands))
    (hlines : Script.lines src = before ++ text :: rest)
    (hclick : Script.UntimedClick text shift x y) (hs : s.Reachable)
    (hfresh : s.box.pointer.lastClick = none)
    (hinterval : s.box.options.multiClickMs ≤ Script.clickSpacing) :
    ∃ first px py time later,
      commands = first ++ .mousePress px py time ⟨false, shift⟩ :: later ∧
      Script.parseLines 0 1 before = .ok (.ok first) ∧
      Script.coordinate? x = some px ∧ Script.coordinate? y = some py ∧
      ∀ p, s.Sends first p →
        (∀ q reply, p.Dispatched (.mousePress px py time ⟨false, shift⟩) q reply →
          ∃ offset, p.box.Under px py .truncate offset ∧ p.box.Placed offset shift q.box) ∧
        (p.box.Drawable → ∀ offset, p.box.Under px py .truncate offset →
          ∃ q reply, p.Dispatched (.mousePress px py time ⟨false, shift⟩) q reply) := by
  obtain ⟨first, px, py, later, hsplit, hfirst, hx, hy⟩ :=
    Script.exists_press_of_parse hparse hlines hclick
  refine ⟨first, px, py, _, later, hsplit, hfirst, hx, hy, fun p hsends ↦ ?_⟩
  have hp := hsends.reachable hs
  have hclock : ∀ last, s.box.pointer.lastClick = some last → last = 0 := by simp [hfresh]
  have hlast := hsends.lastClick_eq hs hclock
  have hcount : p.box.pointer.countPress (Script.clockAfter 0 first + Script.clickSpacing)
      p.box.options.multiClickMs = 1 := by
    refine Pointer.countPress_of_late fun last hpressed _ ↦ ?_
    rw [hlast last hpressed, hsends.options_eq hs]
    omega
  constructor
  · intro q reply hd
    obtain ⟨offset, hunder, hpointer, hplaced⟩ := hd.of_press hp
    refine ⟨offset, hunder, hplaced ?_⟩
    rw [hpointer, Pointer.clickCount_clicked, hcount]
  · intro hdrawable offset hunder
    exact exists_dispatched_press hp hdrawable hunder hcount

/-- Two clicks at five seconds select a word, and a third one goes back in time. The last click,
which has no time and comes with shift, extends the selection from where the third one placed the
caret. -/
theorem untimed_clicks_never_combine_backwards :
    let src := "click 10 0 5000\nclick 10 0 5100\nblur\nclick 20 0 700\nshift+click 40 0".toList
    let box := (Box.new (.ofText "hello".toList) (.unscrolled 320 100 0 0)
      ⟨200, 1000, 4, 3, 1, 530, ⟨4, 10⟩⟩).setMeasure (some (.perChar 10))
    let s : Session := ⟨box, []⟩
    let first := [.mousePress 10 0 5000 .none, .mousePress 10 0 5100 .none, .blur,
      .mousePress 20 0 700 .none]
    ∃ p q reply, Script.parse src = .ok (.ok (first ++ [.mousePress 40 0 1700 ⟨false, true⟩])) ∧
      s.Sends first p ∧ p.Dispatched (.mousePress 40 0 1700 ⟨false, true⟩) q reply ∧
      p.box.Placed 4 true q.box ∧ q.box.editor.selection = ⟨2, 4⟩ := by
  intro src box s first
  have hparse : Script.parse src = .ok (.ok (first ++ [.mousePress 40 0 1700 ⟨false, true⟩])) := by
    decide +kernel
  have hlines : Script.lines src = ["click 10 0 5000".toList, "click 10 0 5100".toList,
      "blur".toList, "click 20 0 700".toList] ++ "shift+click 40 0".toList :: [] := by
    decide +kernel
  have hclick : Script.UntimedClick "shift+click 40 0".toList true ['4', '0'] ['0'] := by
    constructor <;> decide +kernel
  have hs : s.Reachable := ⟨_, _, _, _, [.inr (.setMeasure (some (.perChar 10)))], _, rfl⟩
  have hcheck : (Program.replay s.box s.clipboard (.start 530)
      (first ++ [.mousePress 40 0 1700 ⟨false, true⟩])).result.toOption.any (fun r ↦
        r.1.editor.selection == ⟨2, 4⟩) = true := by
    decide +kernel
  obtain ⟨⟨clicked, blink⟩, hreplay, hselection⟩ := exists_of_any hcheck
  obtain ⟨clipboard, hsends⟩ := exists_sends_of_replay hreplay
  obtain ⟨p, reply, hbefore, hd⟩ := hsends.exists_of_snoc
  obtain ⟨first', px, py, time, later, hsplit, hfirst, -, -, hall⟩ :=
    untimed_clicks_never_combine hparse hlines hclick hs rfl (by decide)
  have hread : Script.parseLines 0 1 ["click 10 0 5000".toList, "click 10 0 5100".toList,
      "blur".toList, "click 20 0 700".toList] = .ok (.ok first) := by
    decide +kernel
  obtain rfl : first = first' := Except.ok.inj (Except.ok.inj (hread.symm.trans hfirst))
  cases List.append_cancel_left hsplit
  obtain ⟨offset, -, hplaced⟩ := (hall p hbefore).1 _ reply hd
  have hselected : clicked.editor.selection = ⟨2, 4⟩ := beq_iff_eq.mp hselection
  obtain rfl : 4 = offset := congrArg Selection.caret (hselected.symm.trans hplaced.selection_eq)
  exact ⟨p, ⟨clicked, clipboard⟩, reply, hparse, hbefore, hd, hplaced, hselected⟩

end Session

end EditBox
