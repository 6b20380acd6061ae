import EditBox.Pointer
import Mathlib.Data.List.Chain

/-!
# Counting of clicks

The count of a press is the length of the series that it ends: the latest presses, as many as
possible, each of which came soon after the one before. `Counted` says so of a pointer after any
gestures, `Counted.perform` that one gesture keeps it. Drags and releases between the presses change
nothing, and neither does a clock that goes back, except that it ends the series.
-/

namespace EditBox.Pointer

variable {p : Pointer} {interval time : Nat} {times series : List Nat}

/-- What a pointer is told, in any order. -/
inductive Gesture where
  | press (time : Nat)
  | beginDrag (anchor : Nat)
  | cancelDrag
  | release
  deriving DecidableEq, Repr

/-- Pointer after a gesture. -/
def perform (interval : Nat) (p : Pointer) : Gesture → Pointer
  | .press time => p.press time interval
  | .beginDrag anchor => p.beginDrag anchor
  | .cancelDrag => p.cancelDrag
  | .release => p.release

/-- Pointer after gestures, the earliest first. -/
def after (interval : Nat) (p : Pointer) (gestures : List Gesture) : Pointer :=
  gestures.foldl (perform interval) p

/-- Time of a press. -/
def Gesture.pressTime? : Gesture → Option Nat
  | .press time => some time
  | .beginDrag _ | .cancelDrag | .release => none

/-- Times of the presses among gestures. -/
def pressTimes (gestures : List Gesture) : List Nat := gestures.filterMap Gesture.pressTime?

/-- A press comes soon after another if the clock has not gone back and less than an interval has
passed. -/
def Soon (interval first second : Nat) : Prop := first ≤ second ∧ second - first < interval

/-- The longest of the series of presses, each soon after the one before, that reach up to now. -/
structure LatestSeries (interval : Nat) (times series : List Nat) : Prop where
  latest : series <:+ times
  soon : series.IsChain (Soon interval)
  longest : ∀ other, other <:+ times → other.IsChain (Soon interval) →
    other.length ≤ series.length

namespace LatestSeries

private theorem nil (interval : Nat) : LatestSeries interval [] [] where
  latest := List.suffix_refl []
  soon := .nil
  longest _ hlatest _ := hlatest.length_le

private theorem concat (h : LatestSeries interval times series)
    (hsoon : ∀ last ∈ times.getLast?, Soon interval last time) :
    LatestSeries interval (times ++ [time]) (series ++ [time]) := by
  obtain ⟨⟨earlier, rfl⟩, hchain, hlongest⟩ := h
  constructor
  · exact ⟨earlier, (List.append_assoc ..).symm⟩
  · refine hchain.append (.singleton time) fun last hlast next hnext ↦ ?_
    obtain rfl : time = next := by simpa using hnext
    exact hsoon last (List.mem_getLast?_append_of_mem_getLast? hlast)
  · intro other hother hsoon
    rcases List.suffix_concat_iff.mp hother with rfl | ⟨before, rfl, hbefore⟩
    · exact Nat.zero_le _
    · simpa using hlongest before hbefore hsoon.left_of_append

private theorem restart (hlate : ∀ last ∈ times.getLast?, ¬ Soon interval last time) :
    LatestSeries interval (times ++ [time]) [time] := by
  constructor
  · exact List.suffix_append times [time]
  · exact .singleton time
  · intro other hother hsoon
    rcases List.suffix_concat_iff.mp hother with rfl | ⟨before, rfl, earlier, rfl⟩
    · exact Nat.zero_le _
    · -- A longer series would go through the last press, which is no part of one with this.
      cases before using List.reverseRecOn with
      | nil => exact Nat.le_refl 1
      | append_singleton before last =>
        have hlast := (List.isChain_append.mp hsoon).2.2 last (by simp) time rfl
        exact absurd hlast (hlate last (by simp))

end LatestSeries

/-- The pointer remembers the last press and has counted the presses of its series. -/
structure Counted (interval : Nat) (times : List Nat) (p : Pointer) : Prop where
  lastClick_eq : p.lastClick = times.getLast?
  clickCount_eq : ∃ series, LatestSeries interval times series ∧
    p.clickCount = min maxClicks series.length

namespace Counted

private theorem idle (interval : Nat) : Counted interval [] .idle where
  lastClick_eq := rfl
  clickCount_eq := ⟨[], .nil interval, rfl⟩

/-- A press is counted. -/
theorem press (h : Counted interval times p) (time : Nat) :
    Counted interval (times ++ [time]) (p.press time interval) := by
  refine ⟨List.getLast?_concat.symm, ?_⟩
  obtain ⟨hlast, series, hseries, hcount⟩ := h
  change ∃ series, _ ∧ p.countPress time interval = _
  by_cases hsoon : ∃ last, times.getLast? = some last ∧ Soon interval last time
  · obtain ⟨last, htimes, hsoon⟩ := hsoon
    refine ⟨_, hseries.concat fun last' hlast' ↦ ?_, ?_⟩
    · obtain rfl := Option.some.inj (htimes.symm.trans hlast')
      exact hsoon
    · rw [countPress_of_soon (hlast.trans htimes) hsoon.1 hsoon.2, List.length_append,
        List.length_singleton, hcount]
      omega
  · refine ⟨_, .restart fun last hlast' hsoon' ↦ hsoon ⟨last, hlast', hsoon'⟩, ?_⟩
    rw [countPress_of_late fun last hlast' hle ↦ ?_]
    · rfl
    · exact Nat.not_lt.mp fun hlt ↦ hsoon ⟨last, hlast.symm.trans hlast', hle, hlt⟩

/-- What a gesture makes of the count: a press is counted, and the others leave it alone. -/
theorem perform (h : Counted interval times p) (g : Gesture) :
    Counted interval (times ++ g.pressTime?.toList) (p.perform interval g) := by
  cases g with
  | press time => exact h.press time
  | beginDrag _ | cancelDrag | release =>
    rw [Gesture.pressTime?, Option.toList_none, List.append_nil]
    exact ⟨h.lastClick_eq, h.clickCount_eq⟩

/-- Gestures go on with the count. -/
theorem after (h : Counted interval times p) (gestures : List Gesture) :
    Counted interval (times ++ pressTimes gestures) (p.after interval gestures) := by
  induction gestures generalizing times p with
  | nil => rwa [pressTimes, List.filterMap_nil, List.append_nil]
  | cons g gestures ih =>
    have hnext := ih (h.perform g)
    have htimes : pressTimes (g :: gestures) = g.pressTime?.toList ++ pressTimes gestures := by
      cases g <;> rfl
    rwa [htimes, ← List.append_assoc]

end Counted

/-- A press counts as many clicks as the longest series of presses, each soon after the one before,
that it ends, up to the largest number there is. This is so after any gestures: presses at any
times, and drags begun, given up and released in between. The check whether it comes soon takes a
difference of times that must not fall below zero, and always has an answer. -/
theorem press_counts_series (interval : Nat) (before : List Gesture) (time : Nat) :
    (∃ goesOn, (idle.after interval before).continues time interval = .ok goesOn) ∧
    ∃ series, LatestSeries interval (pressTimes before ++ [time]) series ∧
      ((idle.after interval before).press time interval).clickCount =
        min maxClicks series.length := by
  refine ⟨⟨_, continues_eq _ time interval⟩, ?_⟩
  have hbefore := (Counted.idle interval).after before
  rw [List.nil_append] at hbefore
  exact (hbefore.press time).clickCount_eq

/-- Two quick presses with a drag between them, one after exactly an interval, and one on a clock
that has gone back. -/
example :
    (idle.after 400 [.press 1000, .beginDrag 7, .release, .press 1399]).clickCount = 2 ∧
      (idle.after 400 [.press 1000, .press 1399, .press 1799]).clickCount = 1 ∧
      (idle.after 400 [.press 1000, .press 1399, .press 50]).clickCount = 1 := by
  decide

end EditBox.Pointer
