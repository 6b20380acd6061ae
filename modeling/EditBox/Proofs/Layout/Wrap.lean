import EditBox.Layout.Wrap
import EditBox.Proofs.Text.Lookup

/-!
# Rows of a buffer

Wrapping stops only with the faults of its measurer, it depends on the text of the buffer alone,
and its rows belong to lines that the buffer has.
-/

namespace EditBox.Layout

open EditBox.Text

variable {measure : Option Measure} {m : Measure} {width line col : Nat} {b : Buffer}

section Safe

variable (hm : ∀ text, Safe measure (m.width text))
include hm

private theorem safe_fittingPieces (width : Nat) (row : List Char) (pieces : List (List Char)) :
    Safe measure (fittingPieces m width row pieces) := by
  induction pieces generalizing row with
  | nil => exact .ok 0
  | cons piece rest ih =>
    refine Safe.bind (hm _) fun w _ ↦ Safe.ite (fun _ ↦ ?_) fun _ ↦ .ok 0
    exact Safe.bind (ih _) fun more _ ↦ .ok _

private theorem safe_wrapTokens (width line col : Nat) (tokens : List (List Char)) :
    Safe measure (wrapTokens m width line col tokens) := by
  fun_induction wrapTokens m width line col tokens with
  | case1 => exact .ok []
  | case2 col token rest ihCut ihWhole ihPack =>
    apply Safe.bind (safe_fittingPieces hm _ _ _)
    intro n _
    cases n with
    | zero =>
      apply Safe.bind (safe_fittingPieces hm _ _ _)
      intro k _
      refine Safe.ite (fun hc ↦ ?_) fun hc ↦ ?_
      · exact Safe.bind (ihCut k hc) fun rows _ ↦ .ok _
      · exact Safe.bind (ihWhole k) fun rows _ ↦ .ok _
    | succ n => exact Safe.bind (ihPack n) fun rows _ ↦ .ok _

private theorem safe_wrapLine (width line : Nat) (text : List Char) :
    Safe measure (wrapLine m width line text) :=
  Safe.ite (fun _ ↦ .ok _) fun _ ↦ safe_wrapTokens hm _ _ _ _

private theorem safe_wrapLines {count : Nat} (h : line + count ≤ b.lineCount) :
    Safe measure (wrapLines m width b line count) := by
  induction count generalizing line with
  | zero => exact .ok []
  | succ count ih =>
    apply Safe.bind (Buffer.safe_lineText (by omega))
    intro text _
    apply Safe.bind (safe_wrapLine hm _ _ _)
    intro rows _
    exact Safe.bind (ih (by omega)) fun more _ ↦ .ok _

end Safe

/-- A buffer is wrapped as long as the measurer of the host does not give up. -/
theorem safe_wrapBuffer (b : Buffer) (width : Nat) (measure : Option Measure) (minWidth : Nat) :
    Safe measure (wrapBuffer b width measure minWidth) := by
  cases measure with
  | none => exact .ok _
  | some m =>
    have hm : ∀ text, Safe (some m) (m.width text) := Safe.width (some m)
    exact safe_wrapLines hm (by omega)

private theorem lineText_ofText (b : Buffer) (line : Nat) :
    (Buffer.ofText b.chars).lineText line = b.lineText line := by
  obtain ⟨chars, lines, revision, rfl⟩ := b
  rfl

private theorem wrapLines_ofText (m : Measure) (width : Nat) (b : Buffer) (line count : Nat) :
    wrapLines m width (Buffer.ofText b.chars) line count = wrapLines m width b line count := by
  induction count generalizing line with
  | zero => rfl
  | succ count ih => simp only [wrapLines, lineText_ofText, ih]

/-- Wrapping looks at the text alone. -/
theorem wrapBuffer_ofText (b : Buffer) (width : Nat) (measure : Option Measure)
    (minWidth : Nat) :
    wrapBuffer (Buffer.ofText b.chars) width measure minWidth =
      wrapBuffer b width measure minWidth := by
  have hcount : (Buffer.ofText b.chars).lineCount = b.lineCount := by
    rw [Buffer.lineCount_eq, Buffer.lineCount_eq]
    rfl
  cases measure with
  | none => rfl
  | some m => simp only [wrapBuffer, hcount, wrapLines_ofText]

private theorem line_of_mem_wrapTokens {tokens : List (List Char)} {rows : List Row}
    (h : wrapTokens m width line col tokens = .ok rows) : ∀ r ∈ rows, r.line = line := by
  have hcons {r : Row} {more : List Row} (hr : r.line = line)
      (hm : ∀ r ∈ more, r.line = line) : ∀ r' ∈ r :: more, r'.line = line := by
    intro r' hr'
    rcases List.mem_cons.mp hr' with rfl | hr'
    · exact hr
    · exact hm r' hr'
  fun_induction wrapTokens m width line col tokens generalizing rows with
  | case1 =>
    cases h
    intro r hr
    cases hr
  | case2 col token rest ihCut ihWhole ihPack =>
    obtain ⟨n, -, h⟩ := Fault.bind_eq_ok_iff.mp h
    cases n with
    | zero =>
      obtain ⟨k, -, h⟩ := Fault.bind_eq_ok_iff.mp h
      by_cases hc : max 1 k < token.length
      · simp only [hc, if_true] at h
        obtain ⟨more, hm, h⟩ := Fault.bind_eq_ok_iff.mp h
        cases h
        exact hcons rfl (ihCut k hc hm)
      · simp only [hc, if_false] at h
        obtain ⟨more, hm, h⟩ := Fault.bind_eq_ok_iff.mp h
        cases h
        exact hcons rfl (ihWhole k hm)
    | succ n =>
      obtain ⟨more, hm, h⟩ := Fault.bind_eq_ok_iff.mp h
      cases h
      exact hcons rfl (ihPack n hm)

/-- The rows of a line belong to it. -/
theorem line_of_mem_wrapLine {text : List Char} {rows : List Row}
    (h : wrapLine m width line text = .ok rows) : ∀ r ∈ rows, r.line = line := by
  unfold wrapLine at h
  split at h
  · cases h
    intro r hr
    rw [List.mem_singleton.mp hr]
  · exact line_of_mem_wrapTokens h

private theorem line_lt_of_mem_wrapLines {count : Nat} {rows : List Row}
    (h : wrapLines m width b line count = .ok rows) : ∀ r ∈ rows, r.line < line + count := by
  induction count generalizing line rows with
  | zero =>
    cases h
    intro r hr
    cases hr
  | succ count ih =>
    obtain ⟨text, -, h⟩ := Fault.bind_eq_ok_iff.mp h
    obtain ⟨first, hfirst, h⟩ := Fault.bind_eq_ok_iff.mp h
    obtain ⟨more, hmore, h⟩ := Fault.bind_eq_ok_iff.mp h
    cases h
    intro r hr
    rcases List.mem_append.mp hr with hr | hr
    · have := line_of_mem_wrapLine hfirst r hr
      omega
    · have := ih hmore r hr
      omega

/-- The rows of a buffer belong to lines that it has. -/
theorem line_lt_of_mem_wrapBuffer {minWidth : Nat} {rows : List Row}
    (h : wrapBuffer b width measure minWidth = .ok rows) : ∀ r ∈ rows, r.line < b.lineCount := by
  cases measure with
  | none =>
    cases h
    intro r hr
    rw [List.mem_singleton.mp hr, Buffer.lineCount_eq]
    exact Nat.succ_pos _
  | some m =>
    intro r hr
    have := line_lt_of_mem_wrapLines h r hr
    omega

end EditBox.Layout
