/-
Single bits of words.

- `and_not_eq_iff`, `or_twoPow_eq_iff`: when clearing or setting bits changes nothing.
-/
import Mathlib.Tactic

namespace WfbLink.Core

theorem and_two_pow_eq_zero (n i : ℕ) : n &&& 2 ^ i = 0 ↔ n.testBit i = false := by
  constructor
  · intro h
    have hbit := congrArg (·.testBit i) h
    simpa [Nat.testBit_and, Nat.testBit_two_pow_self] using hbit
  · intro h
    apply Nat.eq_of_testBit_eq
    intro j
    rw [Nat.testBit_and, Nat.testBit_two_pow, Nat.zero_testBit]
    by_cases hij : i = j
    · rw [← hij, h, Bool.false_and]
    · rw [decide_eq_false hij, Bool.and_false]

/-- clearing bits changes nothing iff none of them is set -/
theorem and_not_eq_iff {w : ℕ} (x m : BitVec w) : x &&& ~~~m = x ↔ x &&& m = 0#w := by
  constructor
  · intro h
    rw [← h, BitVec.and_assoc, BitVec.not_and_self]
    exact BitVec.and_zero
  · intro h
    ext i hi
    have hbit := congrArg (fun y : BitVec w => y[i]) h
    simp only [BitVec.getElem_and, BitVec.getElem_zero] at hbit
    rw [BitVec.getElem_and, BitVec.getElem_not]
    cases hx : x[i] with
    | false => rfl
    | true =>
      rw [hx, Bool.true_and] at hbit
      rw [hbit]
      rfl

theorem or_and_not {w : ℕ} (x m : BitVec w) : (x ||| m) &&& ~~~m = x &&& ~~~m := by
  ext i hi
  simp only [BitVec.getElem_and, BitVec.getElem_or, BitVec.getElem_not]
  cases x[i] <;> cases m[i] <;> rfl

/-- setting a bit changes nothing iff it is set -/
theorem or_twoPow_eq_iff {w : ℕ} (x : BitVec w) {i : ℕ} (hi : i < w) :
    x ||| BitVec.twoPow w i = x ↔ x &&& BitVec.twoPow w i ≠ 0#w := by
  have hbits : x ||| BitVec.twoPow w i = x ↔ x.getLsbD i = true := by
    constructor
    · intro h
      rw [← h, BitVec.getLsbD_or, BitVec.getLsbD_twoPow, decide_eq_true hi, decide_eq_true rfl]
      exact Bool.or_true _
    · intro h
      ext j hj
      rw [BitVec.getElem_or, BitVec.getElem_twoPow]
      by_cases hij : j = i
      · rw [← BitVec.getLsbD_eq_getElem hj, hij, h]
        rfl
      · rw [decide_eq_false hij, Bool.or_false]
  have htwo : BitVec.twoPow w i ≠ 0#w := by
    intro h
    have hbit := congrArg (fun y : BitVec w => y.getLsbD i) h
    simp only [BitVec.getLsbD_twoPow, BitVec.getLsbD_zero, decide_eq_true hi, decide_true, Bool.and_true,
      Bool.true_eq_false] at hbit
  rw [hbits, BitVec.and_twoPow]
  split
  · rename_i h
    exact iff_of_true h htwo
  · rename_i h
    exact iff_of_false h fun hne => hne rfl

end WfbLink.Core
