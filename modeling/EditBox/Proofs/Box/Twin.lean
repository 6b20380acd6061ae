import EditBox.Box
import EditBox.Proofs.Layout.Geometry

/-!
# Boxes that differ in their layouts

`Twin` relates two boxes that are the same but for the contents of their caches, both sound. A
query makes twins `Level`: it leaves them with the rows of the text, and then they differ in the
number of layouts made alone. So queries give twins the same answers.
-/

namespace EditBox.Box

open EditBox.Layout EditBox.Text

variable {α : Type} {measure : Option Measure} {a b : Box}

/-- The box with another layout. -/
def laid (box : Box) (layout : LayoutCache) : Box := { box with layout := layout }

/-- The cache of a box is sound. -/
def Sound (box : Box) : Prop :=
  box.layout.Sound box.editor.buffer box.measure box.options.layout

/-- The cache of a box shows its text at its content width. -/
def Shows (box : Box) : Prop :=
  ∃ width, box.view.contentWidth = .ok width ∧
    box.layout.Shows box.editor.buffer width box.measure box.options.layout

/-- Boxes with the measurer and sound caches, alike but for them. -/
inductive Twin (measure : Option Measure) : Box → Box → Prop where
  | intro {box : Box} {layout : LayoutCache} (hm : box.measure = measure) (h : box.Sound)
      (h' : (box.laid layout).Sound) : Twin measure box (box.laid layout)

/-- Boxes that a query made of one box: they show its text, and differ from it and from each other
in nothing but layouts, of which more or fewer were made. -/
inductive Level (origin : Box) : Box → Box → Prop where
  | intro {layout : LayoutCache} (n : Nat) (h : (origin.laid layout).Sound)
      (hs : (origin.laid layout).Shows) :
      Level origin (origin.laid layout) (origin.laid (layout.counted n))

/-- Related boxes with the same answer. -/
inductive Both (R : Box → Box → Prop) : Box × α → Box × α → Prop where
  | intro {a b : Box} (answer : α) (h : R a b) : Both R (a, answer) (b, answer)

/-- Boxes related in one way are related in a weaker one. -/
theorem Both.mono {R R' : Box → Box → Prop} {p q : Box × α} (h : Both R p q)
    (hR : ∀ a b, R a b → R' a b) : Both R' p q := by
  obtain ⟨answer, h⟩ := h
  exact .intro answer (hR _ _ h)

/-- A box with a sound cache is its own twin. -/
theorem Twin.refl (hm : a.measure = measure) (h : a.Sound) : Twin measure a a :=
  .intro hm h h

/-- Twins have the measurer. -/
theorem Twin.measure_eq (h : Twin measure a b) : a.measure = measure := by
  obtain ⟨hm, -, -⟩ := h
  exact hm

/-- Boxes that a query made of one box are twins. -/
theorem Level.twin {origin : Box} (h : Level origin a b) (hm : origin.measure = measure) :
    Twin measure a b := by
  obtain ⟨n, h, hs⟩ := h
  exact .intro hm h (h.counted n)

/-- Queries one after the other make of a box what one query does. -/
theorem Level.trans {origin a' b' : Box} (h : Level origin a b) (h' : Level a a' b') :
    Level origin a' b' := by
  obtain ⟨-, -, -⟩ := h
  obtain ⟨n, h, hs⟩ := h'
  exact .intro n h hs

/-- A cache stays sound under any change of the editor, view, pointer and focus, if changes of the
buffer are counted. -/
theorem Sound.of_comesFrom {box : Box} (h : box.Sound) {editor : Editor}
    (he : editor.buffer.ComesFrom box.editor.buffer) (view : View) (pointer : Pointer)
    (focused : Bool) :
    Sound { box with editor := editor, view := view, pointer := pointer, focused := focused } :=
  LayoutCache.Sound.of_comesFrom h he

namespace Twin

variable (h : Twin measure a b)
include h

/-- Twins are made level by a layout. -/
theorem ensureLayout :
    Alike measure (Level a) a.ensureLayout.result b.ensureLayout.result := by
  obtain @⟨layout, rfl, hs, hs'⟩ := h
  apply Alike.shareLift a.view.safe_contentWidth
  intro width hw
  refine (LayoutCache.Sound.alike_ensure hs hs' width).andThen ?_
  rintro c _ ⟨⟨n, rfl⟩, hsound, hshows⟩
  have hlaid : (a.laid c).Sound := hsound
  exact .ok (.intro n hlaid ⟨width, hw, hshows⟩)

/-- Twins have rows of the same height. -/
theorem lineHeight :
    Alike measure (Both (Level a)) a.lineHeight.result b.lineHeight.result := by
  apply h.ensureLayout.andThen
  intro _ _ hlevel
  obtain ⟨n, hs, hshows⟩ := hlevel
  exact .ok (.intro _ (.intro n hs hshows))

/-- Twins have as many rows. -/
theorem rowCount :
    Alike measure (Both (Level a)) a.rowCount.result b.rowCount.result := by
  apply h.ensureLayout.andThen
  intro _ _ hlevel
  obtain ⟨n, hs, hshows⟩ := hlevel
  exact .ok (.intro _ (.intro n hs hshows))

/-- Twins show an offset at the same place. -/
theorem offsetVisual (offset : Nat) :
    Alike measure (Both (Level a)) (a.offsetVisual offset).result
      (b.offsetVisual offset).result := by
  obtain rfl := h.measure_eq
  apply h.ensureLayout.andThen
  intro _ _ hlevel
  obtain @⟨layout, n, hs, hshows⟩ := hlevel
  have hsafe := safe_offsetToVisual (Safe.width a.measure) layout a.editor.buffer offset
  exact Alike.shareLift hsafe fun pos _ ↦ .ok (.intro _ (.intro n hs hshows))

/-- Twins show the caret at the same place. -/
theorem caretVisual :
    Alike measure (Both (Level a)) a.caretVisual.result b.caretVisual.result := by
  have hcaret : b.editor.caret = a.editor.caret := by
    cases h
    rfl
  unfold Box.caretVisual
  rw [hcaret]
  exact h.offsetVisual _

/-- Twins have the same offset under a pixel of a row. -/
theorem rowXToOffset (row : Nat) (x : Int) :
    Alike measure (Both (Level a)) (a.rowXToOffset row x).result
      (b.rowXToOffset row x).result := by
  obtain rfl := h.measure_eq
  apply h.ensureLayout.andThen
  intro _ _ hlevel
  obtain @⟨layout, n, hs, hshows⟩ := hlevel
  obtain ⟨width, -, hrows⟩ := id hshows
  have hsafe := safe_visualToOffset (Safe.width a.measure) hrows row x
  exact Alike.shareLift hsafe fun offset _ ↦ .ok (.intro _ (.intro n hs hshows))

/-- Twins have the same offset under a point. -/
theorem pointToOffset (px py : Int) (rounding : RowRounding) :
    Alike measure (Both (Level a)) (a.pointToOffset px py rounding).result
      (b.pointToOffset px py rounding).result := by
  apply h.ensureLayout.andThen
  intro a' b' hlevel
  have htwin := hlevel.twin h.measure_eq
  have htrans {p q : Box × Nat} (hpq : Both (Level a') p q) : Both (Level a) p q :=
    hpq.mono fun _ _ h' ↦ hlevel.trans h'
  obtain ⟨n, hs, hshows⟩ := id hlevel
  apply Alike.shareLift (a.view.safe_pointToRowX _ _ _ _ _)
  intro p _
  exact (htwin.rowXToOffset p.1 p.2).mono fun _ _ ↦ htrans

/-- Twins scroll alike to show the caret. -/
theorem ensureCaretVisible :
    Alike measure (Both (Twin measure)) a.ensureCaretVisible.result
      b.ensureCaretVisible.result := by
  obtain rfl := h.measure_eq
  apply h.caretVisual.andThen
  intro p q hpq
  obtain ⟨pos, n, hs, -⟩ := hpq
  refine Alike.shareLift (a.view.safe_ensureVisible _ _ _) fun view _ ↦ .ok (.intro _ ?_)
  exact .intro rfl hs (hs.counted n)

/-- Twins bring their scroll within the rows alike. -/
theorem clampScroll :
    Alike measure (Twin measure) a.clampScroll.result b.clampScroll.result := by
  obtain rfl := h.measure_eq
  apply h.ensureLayout.andThen
  intro _ _ hlevel
  obtain ⟨n, hs, -⟩ := hlevel
  refine Alike.shareLift (a.view.safe_maxScroll _ _) fun limit _ ↦ .ok ?_
  exact .intro rfl hs (hs.counted n)

end Twin

end EditBox.Box
