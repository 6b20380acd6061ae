import EditBox.Layout.Cache
import EditBox.Proofs.Editor.Splice
import EditBox.Proofs.Layout.Wrap

/-!
# Soundness of the layout cache

A cache stands for a layout made from nothing. `LayoutCache.Sound` is what every operation keeps of
it: unless it is invalidated, it was laid out at some revision that the buffer has reached, and if
the buffer is still at that revision it shows the buffer. `Sound.result_ensure` says that asking
a sound cache for rows gives the layout made from nothing, whatever the cache held.
-/

namespace EditBox

open EditBox.Text

namespace Text.Buffer

/-- One buffer comes from another by counted changes: it is the same or has a later revision. -/
def ComesFrom (after before : Buffer) : Prop := after = before ∨ before.revision < after.revision

/-- A buffer comes from itself. -/
theorem ComesFrom.refl (b : Buffer) : b.ComesFrom b := .inl rfl

/-- Replacing the whole text is a counted change. -/
theorem comesFrom_setText (b : Buffer) (text : List Char) : (b.setText text).ComesFrom b :=
  .inr (Nat.lt_succ_self _)

/-- A splice is a counted change or none. -/
theorem comesFrom_splice (b : Buffer) (start stop : Nat) (text : List Char) :
    (b.splice start stop text).ComesFrom b :=
  b.splice_eq_or_revision_lt start stop text

end Text.Buffer

namespace Layout.LayoutCache

variable {c c' : LayoutCache} {b b' : Buffer} {width : Nat} {measure : Option Measure}
  {options : LayoutOptions}

/-- The rows, their height and the missing measurer are those of a layout made from nothing. -/
structure Shows (c : LayoutCache) (b : Buffer) (width : Nat) (measure : Option Measure)
    (options : LayoutOptions) : Prop where
  rows : wrapBuffer b width measure options.minContentWidth = .ok c.rows
  lineHeight : rowHeight measure options = .ok c.lineHeight
  degraded : c.degraded = measure.isNone

/-- A cache that is not invalidated was laid out at a revision that the buffer has reached, and
shows the buffer if no change was counted since. -/
def Sound (c : LayoutCache) (b : Buffer) (measure : Option Measure) (options : LayoutOptions) :
    Prop :=
  c.dirty = false → ∃ r, c.builtRevision = some r ∧ r ≤ b.revision ∧
    (r = b.revision → c.Shows b c.builtWidth measure options)

/-- The same cache with another number of layouts made. -/
def counted (c : LayoutCache) (n : Nat) : LayoutCache := { c with recomputes := n }

private theorem Shows.counted (h : c.Shows b width measure options) (n : Nat) :
    (c.counted n).Shows b width measure options :=
  ⟨h.rows, h.lineHeight, h.degraded⟩

/-- Whether a cache is sound does not depend on what it counts. -/
theorem Sound.counted (h : c.Sound b measure options) (n : Nat) :
    (c.counted n).Sound b measure options := by
  intro hd
  obtain ⟨r, hr, hle, hshows⟩ := h hd
  exact ⟨r, hr, hle, fun he ↦ (hshows he).counted n⟩

/-- A cache before the first layout is sound. -/
theorem sound_fresh : fresh.Sound b measure options := by
  intro h
  cases h

/-- An invalidated cache is sound. -/
theorem sound_invalidate (c : LayoutCache) : c.invalidate.Sound b measure options := by
  intro h
  cases h

/-- A sound cache is sound whether it is kept or invalidated. -/
theorem Sound.keepOrInvalidate (h : c.Sound b measure options) (keep : Prop) [Decidable keep] :
    (if keep then c else c.invalidate).Sound b measure options := by
  split
  · exact h
  · exact c.sound_invalidate

/-- A cache stays sound when the buffer changes. -/
theorem Sound.of_comesFrom (h : c.Sound b measure options) (hb : b'.ComesFrom b) :
    c.Sound b' measure options := by
  intro hd
  obtain ⟨r, hr, hle, hshows⟩ := h hd
  rcases hb with rfl | hlt
  · exact ⟨r, hr, hle, hshows⟩
  · -- The revision of the cache is behind, so nothing is asked of its rows.
    refine ⟨r, hr, by omega, fun he ↦ ?_⟩
    omega

/-- A layout made from nothing shows the buffer. -/
theorem shows_of_rebuild (h : fresh.rebuild b width measure options = .ok c) :
    c.Shows b width measure options := by
  obtain ⟨rows, hrows, h⟩ := Fault.bind_eq_ok_iff.mp h
  obtain ⟨height, hheight, h⟩ := Fault.bind_eq_ok_iff.mp h
  cases h
  exact ⟨hrows, hheight, rfl⟩

/-- A layout made from nothing is sound. -/
theorem sound_of_rebuild (h : fresh.rebuild b width measure options = .ok c) :
    c.Sound b measure options := by
  have hshows := shows_of_rebuild h
  obtain ⟨rows, -, h⟩ := Fault.bind_eq_ok_iff.mp h
  obtain ⟨height, -, h⟩ := Fault.bind_eq_ok_iff.mp h
  cases h
  exact fun _ ↦ ⟨b.revision, rfl, Nat.le_refl _, fun _ ↦ hshows⟩

private theorem rebuild_eq (c : LayoutCache) (b : Buffer) (width : Nat) (measure : Option Measure)
    (options : LayoutOptions) :
    c.rebuild b width measure options =
      (fun l ↦ l.counted (c.recomputes + 1)) <$> fresh.rebuild b width measure options := by
  unfold rebuild
  cases wrapBuffer b width measure options.minContentWidth with
  | error f => rfl
  | ok rows => cases rowHeight measure options <;> rfl

private theorem Sound.rebuild_eq_of_needsRebuild (h : c.Sound b measure options)
    (hn : c.needsRebuild b width = false) :
    fresh.rebuild b width measure options = .ok (c.counted 1) := by
  obtain ⟨rows, dirty, built, builtWidth, degraded, lineHeight, recomputes⟩ := c
  simp only [needsRebuild, Bool.or_eq_false_iff, bne_eq_false_iff_eq] at hn
  obtain ⟨⟨rfl, rfl⟩, rfl⟩ := hn
  obtain ⟨r, hr, -, hshows⟩ := h rfl
  obtain ⟨hrows, hheight, hdegraded⟩ := hshows (Option.some.inj hr).symm
  dsimp only at hrows hheight hdegraded
  simp only [rebuild, hrows, hheight, Fault.ok_bind, hdegraded]
  rfl

/-- A sound cache, asked for rows, gives the layout made from nothing. -/
theorem Sound.result_ensure (h : c.Sound b measure options) (width : Nat) :
    ∃ n, (c.ensure b width measure options).result =
      (fun l ↦ l.counted n) <$> fresh.rebuild b width measure options := by
  rw [LayoutCache.result_ensure]
  cases hn : c.needsRebuild b width with
  | true =>
    rw [if_pos rfl, rebuild_eq]
    exact ⟨_, rfl⟩
  | false =>
    rw [if_neg Bool.false_ne_true, h.rebuild_eq_of_needsRebuild hn]
    exact ⟨c.recomputes, rfl⟩

/-- A sound cache, asked for rows, shows the buffer and is sound again. -/
theorem Sound.of_ensure (h : c.Sound b measure options)
    (hc : (c.ensure b width measure options).result = .ok c') :
    c'.Sound b measure options ∧ c'.Shows b width measure options := by
  obtain ⟨n, hn⟩ := h.result_ensure width
  rw [hn] at hc
  cases hl : fresh.rebuild b width measure options with
  | error f =>
    rw [hl] at hc
    cases hc
  | ok l =>
    rw [hl] at hc
    cases hc
    exact ⟨(sound_of_rebuild hl).counted n, (shows_of_rebuild hl).counted n⟩

/-- A row is at least one pixel high. -/
theorem one_le_of_rowHeight {height : Nat} (h : rowHeight measure options = .ok height) :
    1 ≤ height := by
  obtain ⟨sum, -, h⟩ := Fault.bind_eq_ok_iff.mp h
  rw [← Except.ok.inj h]
  exact Nat.le_max_right _ _

private theorem safe_rowHeight (measure : Option Measure) (options : LayoutOptions) :
    Safe measure (rowHeight measure options) :=
  Safe.bind (Safe.add _ _ _) fun _ _ ↦ .ok _

private theorem safe_rebuild (c : LayoutCache) (b : Buffer) (width : Nat) (measure : Option Measure)
    (options : LayoutOptions) : Safe measure (c.rebuild b width measure options) := by
  apply Safe.bind (safe_wrapBuffer _ _ _ _)
  intro rows _
  exact Safe.bind (safe_rowHeight _ _) fun height _ ↦ .ok _

/-- Two sound caches, asked for rows, differ in the number of layouts made alone, and show the
buffer. -/
theorem Sound.alike_ensure (h : c.Sound b measure options) (h' : c'.Sound b measure options)
    (width : Nat) :
    Alike measure
      (fun d d' ↦ (∃ n, d' = d.counted n) ∧ d.Sound b measure options ∧
        d.Shows b width measure options)
      (c.ensure b width measure options).result (c'.ensure b width measure options).result := by
  obtain ⟨n, hn⟩ := h.result_ensure width
  obtain ⟨n', hn'⟩ := h'.result_ensure width
  rw [hn, hn']
  cases hl : fresh.rebuild b width measure options with
  | error f => exact .error (safe_rebuild _ _ _ _ _ f hl)
  | ok l =>
    have hsound := (sound_of_rebuild hl).counted n
    have hshows := (shows_of_rebuild hl).counted n
    exact .ok ⟨⟨n', rfl⟩, hsound, hshows⟩

end Layout.LayoutCache

end EditBox
