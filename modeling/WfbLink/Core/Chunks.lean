/-
Cutting a string into chunks (`slice::chunks`).

- `flatten_chunks`: the chunks put together are the string.
- `map_zipIdx_chunks`: numbers and lengths of the chunks, when they are all whole.
- `zipIdx_chunks`: an element at position `j` of the string is at position `j % n` of chunk `j / n`.
-/
import Mathlib.Tactic

namespace WfbLink.Core

variable {α β : Type}

/-- chunks of `n` elements; the last one may be shorter -/
def chunks (n : ℕ) (xs : List α) : List (List α) :=
  if xs = [] ∨ n = 0 then [] else xs.take n :: chunks n (xs.drop n)
termination_by xs.length
decreasing_by
  rename_i h
  have := List.length_pos_iff.2 (fun hxs => h (.inl hxs))
  simp only [List.length_drop]; omega

@[simp] theorem chunks_nil (n : ℕ) : chunks n ([] : List α) = [] := by
  rw [chunks, if_pos (.inl rfl)]

theorem chunks_of_ne_nil {n : ℕ} (hn : 0 < n) {xs : List α} (hxs : xs ≠ []) :
    chunks n xs = xs.take n :: chunks n (xs.drop n) := by
  rw [chunks, if_neg (not_or.2 ⟨hxs, Nat.pos_iff_ne_zero.1 hn⟩)]

/-- induction along the chunks -/
theorem chunks_induct {n : ℕ} (hn : 0 < n) {P : List α → Prop} (nil : P [])
    (chunk : ∀ xs, xs ≠ [] → P (xs.drop n) → P xs) : ∀ xs, P xs := by
  intro xs
  induction hlen : xs.length using Nat.strong_induction_on generalizing xs with
  | _ k ih =>
    by_cases hxs : xs = []
    · subst hxs; exact nil
    · have hpos := List.length_pos_iff.2 hxs
      exact chunk xs hxs (ih _ (by rw [List.length_drop]; omega) _ rfl)

theorem flatten_chunks {n : ℕ} (hn : 0 < n) (xs : List α) : (chunks n xs).flatten = xs := by
  induction xs using chunks_induct hn with
  | nil => rw [chunks_nil, List.flatten_nil]
  | chunk xs hxs ih => rw [chunks_of_ne_nil hn hxs, List.flatten_cons, ih, List.take_append_drop]

theorem chunks_ne_nil {n : ℕ} (hn : 0 < n) (xs : List α) : ∀ chunk ∈ chunks n xs, chunk ≠ [] := by
  induction xs using chunks_induct hn with
  | nil =>
    intro chunk hchunk
    rw [chunks_nil] at hchunk
    exact absurd hchunk List.not_mem_nil
  | chunk xs hxs ih =>
    intro chunk hchunk
    rw [chunks_of_ne_nil hn hxs] at hchunk
    rcases List.mem_cons.1 hchunk with rfl | hchunk
    · intro htake
      rcases List.take_eq_nil_iff.1 htake with h | h
      · omega
      · exact hxs h
    · exact ih chunk hchunk

/-- chunk number `k` starts at position `k * n` and lies within the string -/
theorem chunks_bound {n : ℕ} (hn : 0 < n) (xs : List α) (k : ℕ) :
    ∀ chunk ∈ (chunks n xs).zipIdx k, chunk.1.length ≤ n ∧ chunk.2 * n + chunk.1.length ≤ k * n + xs.length := by
  induction xs using chunks_induct hn generalizing k with
  | nil =>
    intro chunk hchunk
    rw [chunks_nil] at hchunk
    exact absurd hchunk List.not_mem_nil
  | chunk xs hxs ih =>
    intro chunk hchunk
    rw [chunks_of_ne_nil hn hxs, List.zipIdx_cons] at hchunk
    rcases List.mem_cons.1 hchunk with rfl | hchunk
    · simp only [List.length_take]; omega
    · obtain ⟨hle, hend⟩ := ih (k + 1) chunk hchunk
      refine ⟨hle, ?_⟩
      by_cases hlen : xs.length ≤ n
      · rw [List.drop_eq_nil_of_le hlen, chunks_nil] at hchunk
        exact absurd hchunk List.not_mem_nil
      · rw [List.length_drop, Nat.succ_mul] at hend
        omega

/-- a string of `count` whole chunks is cut into chunks that are all of the same length -/
theorem map_zipIdx_chunks {n : ℕ} (hn : 0 < n) (f : ℕ → ℕ → β) {count : ℕ} {xs : List α} (hlen : xs.length = count * n)
    (k : ℕ) : ((chunks n xs).zipIdx k).map (fun chunk => f chunk.2 chunk.1.length)
      = (List.range' k count).map fun number => f number n := by
  induction count generalizing xs k with
  | zero =>
    rw [Nat.zero_mul] at hlen
    rw [List.length_eq_zero_iff.1 hlen, chunks_nil]
    rfl
  | succ count ih =>
    have hxs : xs ≠ [] := by
      rintro rfl
      rw [List.length_nil, Nat.succ_mul] at hlen
      omega
    have hfirst : (xs.take n).length = n := by
      rw [List.length_take, hlen, Nat.succ_mul]
      omega
    have hrest : (xs.drop n).length = count * n := by
      rw [List.length_drop, hlen, Nat.succ_mul, Nat.add_sub_cancel]
    rw [chunks_of_ne_nil hn hxs, List.zipIdx_cons, List.map_cons, ih hrest, hfirst, List.range'_succ, List.map_cons]

/-- **Positions.** Element `j` of the string is element `j % n` of chunk `j / n`. -/
theorem zipIdx_chunks {n : ℕ} (hn : 0 < n) (f : ℕ → α → ℕ → β) (xs : List α) (k : ℕ) :
    ((chunks n xs).zipIdx k).flatMap (fun chunk => chunk.1.zipIdx.map fun e => f chunk.2 e.1 e.2)
      = (xs.zipIdx (k * n)).map fun e => f (e.2 / n) e.1 (e.2 % n) := by
  induction xs using chunks_induct hn generalizing k with
  | nil => simp
  | chunk xs hxs ih =>
    have hfront : (xs.take n).zipIdx.map (fun e => f k e.1 e.2)
        = ((xs.take n).zipIdx (k * n)).map fun e => f (e.2 / n) e.1 (e.2 % n) := by
      apply List.ext_getElem
      · simp only [List.length_map, List.length_zipIdx]
      · intro i hi _
        simp only [List.length_map, List.length_zipIdx, List.length_take] at hi
        simp only [List.getElem_map, List.getElem_zipIdx, Nat.zero_add]
        rw [Nat.add_comm (k * n) i, Nat.add_mul_div_right _ _ hn, Nat.add_mul_mod_self_right,
          Nat.div_eq_of_lt (by omega), Nat.mod_eq_of_lt (by omega), Nat.zero_add]
    rw [chunks_of_ne_nil hn hxs, List.zipIdx_cons, List.flatMap_cons, ih, hfront]
    by_cases hlen : xs.length ≤ n
    · rw [List.drop_eq_nil_of_le hlen, List.take_of_length_le hlen]
      simp
    · have htake : (xs.take n).length = n := by rw [List.length_take]; omega
      have hsplit : xs.zipIdx (k * n) = (xs.take n).zipIdx (k * n) ++ (xs.drop n).zipIdx ((k + 1) * n) := by
        conv_lhs => rw [← List.take_append_drop n xs]
        rw [List.zipIdx_append, htake, Nat.succ_mul]
      rw [hsplit, List.map_append]

end WfbLink.Core
