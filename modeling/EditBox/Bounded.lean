import EditBox.Fault

/-!
# Bounded arithmetic

Pixel lengths are kept below `2 ^ 32`, offsets and times below `2 ^ 64`, screen coordinates within
32 signed bits and distances between them within 64. An operation whose exact result leaves its
width is a fault; a conversion between widths keeps the low bits.
-/

namespace EditBox.Bounded

/-- Pixel lengths lie below this bound. -/
def pixelBound : Nat := 0x1_0000_0000

/-- Offsets, row numbers and times lie below this bound. -/
def offsetBound : Nat := 0x1_0000_0000_0000_0000

/-- Screen coordinates lie in `[-coordinateBound, coordinateBound)`. -/
def coordinateBound : Nat := 0x8000_0000

/-- Distances lie in `[-distanceBound, distanceBound)`. -/
def distanceBound : Nat := 0x8000_0000_0000_0000

/-- Sum of two naturals below `bound`. -/
def add (bound a b : Nat) : Except Fault Nat :=
  if a + b < bound then .ok (a + b) else .error .addOverflow

/-- Product of two naturals below `bound`. -/
def mul (bound a b : Nat) : Except Fault Nat :=
  if a * b < bound then .ok (a * b) else .error .mulOverflow

/-- Difference of two naturals that must not fall below zero. -/
def sub (a b : Nat) : Except Fault Nat :=
  if b ≤ a then .ok (a - b) else .error .subOverflow

/-- Sum of two integers within `[-bound, bound)`. -/
def intAdd (bound : Nat) (a b : Int) : Except Fault Int :=
  if -bound ≤ a + b ∧ a + b < bound then .ok (a + b) else .error .addOverflow

/-- Difference of two integers within `[-bound, bound)`. -/
def intSub (bound : Nat) (a b : Int) : Except Fault Int :=
  if -bound ≤ a - b ∧ a - b < bound then .ok (a - b) else .error .subOverflow

/-- Low 32 bits of a row number or length. -/
def toPixel (n : Nat) : Nat := n % pixelBound

/-- Low 32 bits read as a signed screen coordinate. -/
def toCoordinate (n : Int) : Int := n.bmod pixelBound

/-- Low 64 bits read as a signed distance. -/
def toDistance (n : Int) : Int := n.bmod offsetBound

/-- Nearest value within `[low, high]`; a fault when that range is empty. -/
def clamp (low high n : Int) : Except Fault Int :=
  if low ≤ high then .ok (max low (min high n)) else .error (.invertedClamp low high)

/-- A sum is exact, and has a result exactly below the bound. -/
theorem add_eq_ok_iff {bound a b c : Nat} :
    add bound a b = .ok c ↔ a + b < bound ∧ a + b = c := by
  unfold add
  split
  · next h => simp [h]
  · next h => simp [h]

/-- A sum that stays below the bound is exact. -/
theorem add_eq_ok {bound a b : Nat} (h : a + b < bound) : add bound a b = .ok (a + b) :=
  add_eq_ok_iff.mpr ⟨h, rfl⟩

/-- A product is exact, and has a result exactly below the bound. -/
theorem mul_eq_ok_iff {bound a b c : Nat} :
    mul bound a b = .ok c ↔ a * b < bound ∧ a * b = c := by
  unfold mul
  split
  · next h => simp [h]
  · next h => simp [h]

/-- A product that stays below the bound is exact. -/
theorem mul_eq_ok {bound a b : Nat} (h : a * b < bound) : mul bound a b = .ok (a * b) :=
  mul_eq_ok_iff.mpr ⟨h, rfl⟩

/-- A difference is exact, and has a result exactly when it does not fall below zero. -/
theorem sub_eq_ok_iff {a b c : Nat} : sub a b = .ok c ↔ b ≤ a ∧ a - b = c := by
  unfold sub
  split
  · next h => simp [h]
  · next h => simp [h]

/-- A difference that stays above zero is exact. -/
theorem sub_eq_ok {a b : Nat} (h : b ≤ a) : sub a b = .ok (a - b) :=
  sub_eq_ok_iff.mpr ⟨h, rfl⟩

/-- A sum of integers is exact, and has a result exactly within the bounds. -/
theorem intAdd_eq_ok_iff {bound : Nat} {a b c : Int} :
    intAdd bound a b = .ok c ↔ (-bound ≤ a + b ∧ a + b < bound) ∧ a + b = c := by
  unfold intAdd
  split
  · next h => simp only [h, true_and, Except.ok.injEq]
  · next h => simp only [h, false_and, reduceCtorEq]

/-- A difference of integers is exact, and has a result exactly within the bounds. -/
theorem intSub_eq_ok_iff {bound : Nat} {a b c : Int} :
    intSub bound a b = .ok c ↔ (-bound ≤ a - b ∧ a - b < bound) ∧ a - b = c := by
  unfold intSub
  split
  · next h => simp only [h, true_and, Except.ok.injEq]
  · next h => simp only [h, false_and, reduceCtorEq]

/-- Taking away what was added to an integer within the bounds gives it back. -/
theorem intSub_add_left {bound : Nat} {a b : Int} (h : -bound ≤ b ∧ b < bound) :
    intSub bound (a + b) a = .ok b := by
  rw [intSub_eq_ok_iff]
  omega

/-- A clamped value has a result exactly when the range is not inverted. -/
theorem clamp_eq_ok_iff {low high n c : Int} :
    clamp low high n = .ok c ↔ low ≤ high ∧ max low (min high n) = c := by
  unfold clamp
  split
  · next h => simp [h]
  · next h => simp [h]

/-- A clamped value lies in the range. -/
theorem clamp_mem {low high n c : Int} (h : clamp low high n = .ok c) : low ≤ c ∧ c ≤ high := by
  obtain ⟨hl, hc⟩ := clamp_eq_ok_iff.mp h
  omega

/-- A length below the bound is kept by the conversion. -/
theorem toPixel_of_lt {n : Nat} (h : n < pixelBound) : toPixel n = n :=
  Nat.mod_eq_of_lt h

/-- A length below the bound of coordinates is kept by the conversion. -/
theorem toCoordinate_of_lt {n : Nat} (h : n < coordinateBound) : toCoordinate n = n := by
  unfold coordinateBound at h
  unfold toCoordinate pixelBound
  rw [Int.bmod_def]
  omega

/-- A screen coordinate lies within its bounds. -/
theorem toCoordinate_mem (n : Int) :
    -(coordinateBound : Int) ≤ toCoordinate n ∧ toCoordinate n < coordinateBound := by
  unfold toCoordinate coordinateBound pixelBound
  rw [Int.bmod_def]
  omega

/-- A row number below the bound of distances is kept by the conversion. -/
theorem toDistance_of_lt {n : Nat} (h : n < distanceBound) : toDistance n = n := by
  unfold distanceBound at h
  unfold toDistance offsetBound
  rw [Int.bmod_def]
  omega

end EditBox.Bounded
