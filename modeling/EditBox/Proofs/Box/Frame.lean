import EditBox.Frame
import EditBox.Proofs.Box.Twin

/-!
# Frames of twins

Boxes that differ in their layouts have the same frame.
-/

namespace EditBox.Frame

open EditBox.Box EditBox.Layout EditBox.Text

variable {measure : Option Measure} {b : Buffer} {m : Measure}

private theorem safe_rowStart {r : Row} (hr : r.line < b.lineCount) (degraded : Bool) :
    Safe measure (rowStart degraded b r) := by
  refine Safe.ite (fun _ ↦ .ok _) fun _ ↦ ?_
  exact Safe.bind (Buffer.safe_lineStart hr) fun start _ ↦ .ok _

private theorem safe_selectionRect (hm : ∀ text, Safe measure (m.width text)) (left y : Int)
    (lineHeight : Nat) (selected : Nat × Nat) (start : Nat) (r : Row) :
    Safe measure (selectionRect m left y lineHeight selected start r) := by
  refine Safe.ite (fun _ ↦ ?_) fun _ ↦ .ok none
  apply Safe.bind (Safe.sub _ _)
  intro last _
  apply Safe.bind (Safe.sub _ _)
  intro count _
  apply Safe.bind (hm _)
  intro before _
  apply Safe.bind (Safe.intAdd _ _ _)
  intro x _
  exact Safe.bind (hm _) fun width _ ↦ .ok _

private theorem safe_rowFrames (box : Box) (left : Int) (lineHeight row : Nat) (y : Int)
    {rows : List Row} (hr : ∀ r ∈ rows, r.line < box.editor.buffer.lineCount) :
    Safe box.measure (rowFrames box left lineHeight row y rows) := by
  induction rows generalizing row y with
  | nil => exact .ok _
  | cons r rest ih =>
    have hfirst := hr r (List.mem_cons_self ..)
    have hrest : ∀ r ∈ rest, r.line < box.editor.buffer.lineCount := fun r' h ↦
      hr r' (List.mem_cons_of_mem _ h)
    apply Safe.bind (safe_rowStart hfirst _)
    intro start _
    apply Safe.bind (safe_selectionRect (Safe.width box.measure) _ _ _ _ _ _)
    intro rect _
    apply Safe.bind (Safe.intAdd _ _ _)
    intro below _
    exact Safe.bind (ih _ _ hrest) fun p _ ↦ .ok _

private theorem rowFrames_counted (box : Box) (n : Nat) (left : Int) (lineHeight row : Nat)
    (y : Int) (rows : List Row) :
    rowFrames (box.laid (box.layout.counted n)) left lineHeight row y rows =
      rowFrames box left lineHeight row y rows := by
  induction rows generalizing row y with
  | nil => rfl
  | cons r rest ih =>
    simp only [rowFrames, ih]
    rfl

private theorem safe_caretRect (box : Box) (shown : Bool) (pos : VisualPos) (left top : Int)
    (lineHeight first last : Nat) (hidden : Int) :
    Safe measure (caretRect box shown pos left top lineHeight first last hidden) := by
  refine Safe.ite (fun _ ↦ ?_) fun _ ↦ .ok none
  apply Safe.bind (Safe.intAdd _ _ _)
  intro x _
  apply Safe.bind (Safe.mul _ _ _)
  intro down _
  apply Safe.bind (Safe.intAdd _ _ _)
  intro lowered _
  exact Safe.bind (Safe.intSub _ _ _) fun y _ ↦ .ok _

/-- Twins have the same frame. -/
theorem alike_build {a a' : Box} (h : Twin measure a a') (caretOn : Bool) :
    Alike measure (Both (Level a)) (build a caretOn).result (build a' caretOn).result := by
  obtain rfl := h.measure_eq
  apply h.caretVisual.andThen
  intro p q hpq
  obtain @⟨_, _, pos, layout, n, hs, hshows⟩ := hpq
  have hrows : ∀ r ∈ layout.rows, r.line < a.editor.buffer.lineCount := by
    obtain ⟨width, -, hrows⟩ := hshows
    exact fun r hr ↦ hrows.line_lt hr
  apply Alike.shareLift a.view.safe_contentLeft
  intro left _
  apply Alike.shareLift a.view.safe_contentHeight
  intro height _
  apply Alike.shareLift (Safe.intSub _ _ _)
  intro y _
  have hcounted := rowFrames_counted (a.laid layout) n
  simp only [laid] at hcounted ⊢
  simp only [hcounted]
  refine Alike.shareLift (safe_rowFrames (a.laid layout) _ _ _ _ fun r hr ↦ ?_) fun frames _ ↦ ?_
  · exact hrows r (List.mem_of_mem_take (List.mem_of_mem_drop hr))
  apply Alike.shareLift (safe_caretRect _ _ _ _ _ _ _ _ _)
  intro caret _
  exact Alike.report (.ok (.intro _ (.intro n hs hshows)))

/-- A frame of a sound box stops with excused faults only. -/
theorem safe_build {box : Box} (hs : box.Sound) (caretOn : Bool) :
    Safe box.measure (build box caretOn).result :=
  (alike_build (Twin.refl rfl hs) caretOn).safe_left

end EditBox.Frame
