/-
Windows that recur. Time is cut into cycles of one length behind a first delay, and every cycle has a window at the
same place.

- `holds_iff`: where an instant lies in its cycle decides whether it is in a window.
- `holds_add_cycle`: the windows repeat with the cycle.
- `card_holds`: as many instants of any stretch of one cycle are in a window as a window is long.
- `Recurring.apart`: a gap between the windows of two such systems keeps every instant of the one away from every
  instant of the other, whichever cycles they are in.
-/
import Mathlib.Algebra.Order.Interval.Finset.Basic
import Mathlib.Data.Nat.Periodic
import Mathlib.Order.Interval.Finset.Nat

namespace WfbLink.Core

/-- a window in every cycle -/
structure Recurring where
  delay : ℕ
  cycle : ℕ
  start : ℕ
  len : ℕ
  fits : start + len ≤ cycle

namespace Recurring

variable {w v : Recurring} {time : ℕ}

/-- some cycle's window holds the instant -/
def Holds (w : Recurring) (time : ℕ) : Prop :=
  ∃ k, w.delay + (k * w.cycle + w.start) ≤ time ∧ time < w.delay + (k * w.cycle + w.start) + w.len

/-- the same windows on a finer clock -/
def scale (w : Recurring) (unit : ℕ) : Recurring where
  delay := w.delay * unit
  cycle := w.cycle * unit
  start := w.start * unit
  len := w.len * unit
  fits := by
    rw [← Nat.add_mul]
    exact Nat.mul_le_mul_right unit w.fits

/-- where a time lies in its cycle -/
theorem mod_window_iff {time cycle start len : ℕ} (hfits : start + len ≤ cycle) :
    (start ≤ time % cycle ∧ time % cycle < start + len) ↔
      ∃ k, k * cycle + start ≤ time ∧ time < k * cycle + start + len := by
  constructor
  · rintro ⟨hle, hlt⟩
    have hdiv : time = time / cycle * cycle + time % cycle := by rw [Nat.mul_comm]; exact (Nat.div_add_mod _ _).symm
    exact ⟨time / cycle, by omega, by omega⟩
  · rintro ⟨k, hle, hlt⟩
    have hmod : time % cycle = time - k * cycle := by
      have htime : time = time - k * cycle + k * cycle := by omega
      rw [htime, Nat.add_mul_mod_self_right, Nat.add_sub_cancel]
      exact Nat.mod_eq_of_lt (by omega)
    omega

theorem not_holds_of_lt (htime : time < w.delay) : ¬ w.Holds time := by
  unfold Holds
  intro ⟨k, hle, _⟩
  omega

theorem holds_iff (htime : w.delay ≤ time) :
    w.Holds time ↔ w.start ≤ (time - w.delay) % w.cycle ∧ (time - w.delay) % w.cycle < w.start + w.len := by
  unfold Holds
  rw [mod_window_iff w.fits]
  exact exists_congr fun k => by omega

theorem holds_add_cycle (htime : w.delay ≤ time) : w.Holds (time + w.cycle) ↔ w.Holds time := by
  rw [holds_iff htime, holds_iff (Nat.le_add_right_of_le htime), Nat.sub_add_comm htime, Nat.add_mod_right]

/-- an instant of the finer clock is in a window when the instant of the coarser clock is -/
theorem holds_scale {unit : ℕ} (hunit : 0 < unit) : (w.scale unit).Holds time ↔ w.Holds (time / unit) := by
  unfold Holds
  refine exists_congr fun k => and_congr ?_ ?_
  · rw [Nat.le_div_iff_mul_le hunit]
    simp only [scale, Nat.add_mul, Nat.mul_assoc, Nat.mul_comm w.cycle unit]
  · rw [Nat.div_lt_iff_lt_mul hunit]
    simp only [scale, Nat.add_mul, Nat.mul_assoc, Nat.mul_comm w.cycle unit]

/-- the offsets of a cycle that are in its window -/
theorem count_offsets (w : Recurring) :
    w.cycle.count (fun offset => w.start ≤ offset % w.cycle ∧ offset % w.cycle < w.start + w.len) = w.len := by
  have hfits := w.fits
  have hoffsets : (Finset.range w.cycle).filter
      (fun offset => w.start ≤ offset % w.cycle ∧ offset % w.cycle < w.start + w.len) =
        Finset.Ico w.start (w.start + w.len) := by
    ext offset
    simp only [Finset.mem_filter, Finset.mem_range, Finset.mem_Ico]
    constructor
    · rintro ⟨hlt, h⟩
      rwa [Nat.mod_eq_of_lt hlt] at h
    · intro h
      have hlt : offset < w.cycle := by omega
      rw [Nat.mod_eq_of_lt hlt]
      exact ⟨hlt, h⟩
  rw [Nat.count_eq_card_filter_range, hoffsets, Nat.card_Ico, Nat.add_sub_cancel_left]

/-- a stretch of one cycle has one window's length of instants in windows -/
theorem card_holds [DecidablePred w.Holds] {since : ℕ} (hsince : w.delay ≤ since) :
    ((Finset.Ico since (since + w.cycle)).filter w.Holds).card = w.len := by
  obtain ⟨offset, rfl⟩ := Nat.exists_eq_add_of_le hsince
  have hperiodic : Function.Periodic
      (fun offset => w.start ≤ offset % w.cycle ∧ offset % w.cycle < w.start + w.len) w.cycle := by
    intro offset
    simp only [Nat.add_mod_right]
  have hshift : (Finset.Ico (w.delay + offset) (w.delay + offset + w.cycle)).filter w.Holds =
      ((Finset.Ico offset (offset + w.cycle)).filter
        (fun offset => w.start ≤ offset % w.cycle ∧ offset % w.cycle < w.start + w.len)).map
          (addLeftEmbedding w.delay) := by
    rw [Nat.add_assoc, ← Finset.map_add_left_Ico, Finset.filter_map]
    congr 1
    refine Finset.filter_congr fun offset _ => ?_
    simp only [Function.comp_apply, addLeftEmbedding_apply]
    rw [holds_iff (Nat.le_add_right _ _), Nat.add_sub_cancel_left]
  rw [hshift, Finset.card_map, Nat.filter_Ico_card_eq_of_periodic _ _ _ hperiodic, count_offsets]

/-- windows with a gap on both sides, in cycles of the same length -/
theorem apart {gap a b : ℕ} (ha : v.Holds a) (hb : w.Holds b) (hdelay : v.delay = w.delay)
    (hcycle : v.cycle = w.cycle) (hbehind : v.start + v.len + gap ≤ w.start)
    (hahead : w.start + w.len + gap ≤ w.cycle + v.start) : a + gap < b ∨ b + gap < a := by
  obtain ⟨i, hia, hai⟩ := ha
  obtain ⟨j, hjb, hbj⟩ := hb
  rw [hdelay, hcycle] at hia hai
  rcases Nat.lt_or_ge j i with hji | hij
  · -- the window of `w` is of an earlier cycle
    have hcycles : (j + 1) * w.cycle ≤ i * w.cycle := Nat.mul_le_mul_right w.cycle hji
    rw [Nat.succ_mul] at hcycles
    exact Or.inr (by omega)
  · have hcycles : i * w.cycle ≤ j * w.cycle := Nat.mul_le_mul_right w.cycle hij
    exact Or.inl (by omega)

end Recurring

end WfbLink.Core
