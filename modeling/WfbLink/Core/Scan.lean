/-
Scanning a string into records.

A record parser looks at the remaining input and either yields one record together with the number of bytes it used,
or stops the scan for a reason of its own. `scan` runs it from the front of the input to the end: the shape of every
`while offset < len { .. offset += used }` loop.

- `scan_frames`: if the parser, in front of any continuation, decodes an encoded item, then scanning the concatenation
  of encodings yields exactly one record per item, in order, and goes on with what follows them.
- `scan_forall`: what holds of every record the parser yields holds of every record of the scan.
- `scan_count`: if each record uses at least `c` bytes, the scan of `n` bytes makes at most `n / c + 1` steps.
-/
import Mathlib.Tactic

namespace WfbLink.Core

variable {α ρ ε : Type}

/-- what a record parser does at the front of the remaining input -/
inductive ScanStep (ρ ε : Type) where
  /-- one record, and how many elements of the input it used -/
  | record (r : ρ) (used : ℕ)
  /-- no further records, for this reason -/
  | halt (e : ε)
deriving DecidableEq, Repr

/-- the records of the input in order, and why the scan stopped early, if it did. A record that uses nothing ends the
scan: the parser would see the same input again. -/
def scan (step : List α → ScanStep ρ ε) (xs : List α) : List ρ × Option ε :=
  if _hxs : xs = [] then ([], none)
  else
    match step xs with
    | .halt e => ([], some e)
    | .record r used =>
      if used = 0 then ([r], none) else ((r :: (scan step (xs.drop used)).1), (scan step (xs.drop used)).2)
termination_by xs.length
decreasing_by
  all_goals
    have := List.length_pos_iff.2 _hxs
    simp only [List.length_drop]; omega

variable {step : List α → ScanStep ρ ε}

@[simp] theorem scan_nil (step : List α → ScanStep ρ ε) : scan step [] = ([], none) := by
  rw [scan]; simp

theorem scan_record {xs : List α} {r : ρ} {used : ℕ} (hxs : xs ≠ []) (hs : step xs = .record r used)
    (hu : 0 < used) : scan step xs = (r :: (scan step (xs.drop used)).1, (scan step (xs.drop used)).2) := by
  rw [scan, dif_neg hxs, hs]
  simp only [Nat.pos_iff_ne_zero.1 hu, if_false]

theorem scan_record_zero {xs : List α} {r : ρ} (hxs : xs ≠ []) (hs : step xs = .record r 0) :
    scan step xs = ([r], none) := by
  rw [scan, dif_neg hxs, hs]
  simp only [if_true]

theorem scan_halt {xs : List α} {e : ε} (hxs : xs ≠ []) (hs : step xs = .halt e) :
    scan step xs = ([], some e) := by
  rw [scan, dif_neg hxs, hs]

/-- induction along a scan -/
theorem scan_induct (step : List α → ScanStep ρ ε) {P : List α → Prop} (nil : P [])
    (halt : ∀ xs e, xs ≠ [] → step xs = .halt e → P xs)
    (last : ∀ xs r, xs ≠ [] → step xs = .record r 0 → P xs)
    (more : ∀ xs r used, xs ≠ [] → step xs = .record r used → 0 < used → P (xs.drop used) → P xs) :
    ∀ xs, P xs := by
  intro xs
  induction hn : xs.length using Nat.strong_induction_on generalizing xs with
  | _ n ih =>
    by_cases hxs : xs = []
    · subst hxs; exact nil
    · cases hs : step xs with
      | halt e => exact halt xs e hxs hs
      | record r used =>
        rcases Nat.eq_zero_or_pos used with hu | hu
        · subst hu; exact last xs r hxs hs
        · have hpos := List.length_pos_iff.2 hxs
          exact more xs r used hxs hs hu (ih _ (by rw [List.length_drop]; omega) _ rfl)

/-! ## Lists related element by element -/

theorem forall₂_exists_left {β γ : Type} {R : β → γ → Prop} {xs : List β} {ys : List γ} (h : List.Forall₂ R xs ys) :
    ∀ y ∈ ys, ∃ x ∈ xs, R x y := by
  induction h with
  | nil => exact nofun
  | cons hR _ ih =>
    intro y hy
    rcases List.mem_cons.1 hy with rfl | hy
    · exact ⟨_, List.mem_cons_self, hR⟩
    · obtain ⟨x, hx, hxy⟩ := ih y hy
      exact ⟨x, List.mem_cons_of_mem _ hx, hxy⟩

theorem forall₂_exists_right {β γ : Type} {R : β → γ → Prop} {xs : List β} {ys : List γ}
    (h : List.Forall₂ R xs ys) : ∀ x ∈ xs, ∃ y ∈ ys, R x y :=
  forall₂_exists_left h.flip

theorem forall₂_imp_left {β γ : Type} {R S : β → γ → Prop} {xs : List β} {ys : List γ}
    (himp : ∀ x ∈ xs, ∀ y, R x y → S x y) (h : List.Forall₂ R xs ys) : List.Forall₂ S xs ys := by
  induction h with
  | nil => exact .nil
  | cons hR _ ih =>
    exact .cons (himp _ List.mem_cons_self _ hR) (ih fun x hx => himp x (List.mem_cons_of_mem _ hx))

/-! ## Round trip -/

/-- **Scanning a concatenation of encoded records.** If in front of any continuation the parser yields a record that
matches the encoded item, then the scan of the concatenated encodings yields one matching record per item, in order,
and goes on with the continuation. -/
theorem scan_frames {ι : Type} {R : ι → ρ → Prop} (enc : ι → List α) (items : List ι) (rest : List α)
    (hne : ∀ i ∈ items, enc i ≠ [])
    (hstep : ∀ i ∈ items, ∀ tail, ∃ r, step (enc i ++ tail) = .record r (enc i).length ∧ R i r) :
    ∃ records, List.Forall₂ R items records ∧
      scan step (items.flatMap enc ++ rest) = (records ++ (scan step rest).1, (scan step rest).2) := by
  induction items with
  | nil => exact ⟨[], .nil, by simp⟩
  | cons i items ih =>
    have hi := hne i List.mem_cons_self
    have hlen : 0 < (enc i).length := List.length_pos_iff.2 hi
    obtain ⟨records, hall, hscan⟩ :=
      ih (fun j hj => hne j (List.mem_cons_of_mem i hj)) (fun j hj => hstep j (List.mem_cons_of_mem i hj))
    obtain ⟨r, hr, hR⟩ := hstep i List.mem_cons_self (items.flatMap enc ++ rest)
    refine ⟨r :: records, .cons hR hall, ?_⟩
    rw [List.flatMap_cons, List.append_assoc, scan_record (by simp [hi]) hr hlen, List.drop_left, hscan]
    rfl

/-! ## What holds of every record -/

theorem scan_forall {P : ρ → Prop} (hstep : ∀ xs r used, xs ≠ [] → step xs = .record r used → P r) (xs : List α) :
    ∀ r ∈ (scan step xs).1, P r := by
  induction xs using scan_induct step with
  | nil => simp
  | halt xs e hxs hs => rw [scan_halt hxs hs]; simp
  | last xs r hxs hs =>
    rw [scan_record_zero hxs hs]
    intro r' hr'
    rw [List.mem_singleton.1 hr']; exact hstep xs r 0 hxs hs
  | more xs r used hxs hs hu ih =>
    rw [scan_record hxs hs hu]
    intro r' hr'
    rcases List.mem_cons.1 hr' with rfl | hr'
    · exact hstep xs r' used hxs hs
    · exact ih r' hr'

theorem scan_forall_halt {P : ε → Prop} (hstep : ∀ xs e, xs ≠ [] → step xs = .halt e → P e) (xs : List α) :
    ∀ e ∈ (scan step xs).2, P e := by
  induction xs using scan_induct step with
  | nil => simp
  | halt xs e hxs hs =>
    rw [scan_halt hxs hs]
    intro e' he'
    rw [← Option.some.inj he']; exact hstep xs e hxs hs
  | last xs r hxs hs => rw [scan_record_zero hxs hs]; simp
  | more xs r used hxs hs hu ih => rw [scan_record hxs hs hu]; exact ih

/-! ## How many steps a scan makes -/

/-- the number of parser calls of a scan: one per record, and one for the call that halted it -/
def scanSteps (out : List ρ × Option ε) : ℕ := out.1.length + out.2.toList.length

/-- every call but the last used at least `c` elements, and the last one still had an element to look at -/
theorem scan_count {c : ℕ} (hstep : ∀ xs r used, xs ≠ [] → step xs = .record r used → c ≤ used) (xs : List α)
    (hxs : xs ≠ []) : c * (scanSteps (scan step xs) - 1) < xs.length := by
  induction xs using scan_induct step with
  | nil => exact absurd rfl hxs
  | halt xs e hxs hs =>
    have := List.length_pos_iff.2 hxs
    rw [scan_halt hxs hs]; simpa [scanSteps] using this
  | last xs r hxs hs =>
    have := List.length_pos_iff.2 hxs
    rw [scan_record_zero hxs hs]; simpa [scanSteps] using this
  | more xs r used hxs hs hu ih =>
    have hpos := List.length_pos_iff.2 hxs
    have hc := hstep xs r used hxs hs
    rw [scan_record hxs hs hu]
    by_cases hrest : xs.drop used = []
    · simp only [hrest, scan_nil, scanSteps]; simpa using hpos
    · have ih := ih hrest
      rw [List.length_drop] at ih
      have hsteps : scanSteps (r :: (scan step (xs.drop used)).1, (scan step (xs.drop used)).2) - 1 =
          scanSteps (scan step (xs.drop used)) := by
        simp only [scanSteps, List.length_cons]; omega
      rw [hsteps]
      generalize hn : scanSteps (scan step (xs.drop used)) = n at ih ⊢
      cases n with
      | zero => simpa using hpos
      | succ n =>
        simp only [Nat.add_sub_cancel] at ih
        rw [Nat.mul_succ]; omega

theorem scan_count_div {c : ℕ} (hc : 0 < c) (hstep : ∀ xs r used, xs ≠ [] → step xs = .record r used → c ≤ used)
    (xs : List α) : scanSteps (scan step xs) ≤ xs.length / c + 1 := by
  by_cases hxs : xs = []
  · subst hxs; simp [scanSteps]
  · have h := scan_count hstep xs hxs
    have : scanSteps (scan step xs) - 1 ≤ xs.length / c := by
      rw [Nat.le_div_iff_mul_le hc, Nat.mul_comm]; exact h.le
    omega

end WfbLink.Core
