/-
The signal metric of a list of samples (`wfb-radio-runtime/src/lib.rs`).

The average is the sum and half the count, divided by the count, in an `i64`. With overflow checks the addition can
stop the program: the sum of very many negative samples, made positive, leaves no room for half of their count.

- `roundedAverage_rounds`: the average rounds half away from zero.
- `recordSignal_ok_iff`: a list is recorded iff no prefix of it overflows, and then nothing is lost.
- `metric_homomorphism`: merging two metrics is recording both lists, exactly then.
-/
import WfbLink.Runtime.RxSignal

namespace WfbLink.Runtime

open WfbLink.Core

/-! ## Overflow checks -/

def i64Checked (n : ℤ) : Checked ℤ := if -2 ^ 63 ≤ n ∧ n ≤ 2 ^ 63 - 1 then .ok n else .error .arithmeticOverflow

/-- `rounded_average_i64` with overflow checks -/
def roundedAverageChecked (sum : ℤ) (count : UInt64) : Checked ℤ := do
  let count : ℤ := max (min count.toNat (2 ^ 63 - 1) : ℕ) 1
  if sum ≥ 0 then
    let rounded ← i64Checked (sum + count / 2)
    return rounded / count
  else
    let opposite ← i64Checked (-sum)
    let rounded ← i64Checked (opposite + count / 2)
    return -(rounded / count)

namespace RuntimeRxSignalMetric

def averageChecked (metric : RuntimeRxSignalMetric) : Checked RuntimeRxSignalMetric := do
  let average ← roundedAverageChecked metric.sum metric.sampleCount
  return { metric with average := some average }

/-- `observe` with overflow checks -/
def observeChecked (metric : RuntimeRxSignalMetric) (value : Int8) : Checked RuntimeRxSignalMetric :=
  (metric.observe value).averageChecked

/-- `merge` with overflow checks -/
def mergeChecked (metric other : RuntimeRxSignalMetric) : Checked RuntimeRxSignalMetric :=
  if other.sampleCount = 0 then .ok metric else (metric.merge other).averageChecked

end RuntimeRxSignalMetric

/-- the metric of a list, one sample after the other -/
def recordSignal (samples : List Int8) : Checked RuntimeRxSignalMetric :=
  samples.foldlM RuntimeRxSignalMetric.observeChecked {}

/-- the average of these samples is within an `i64` all the way -/
def AverageFits (samples : List Int8) : Prop := -sampleSum samples + samples.length / 2 < 2 ^ 63

/-- so many samples leave room for their sum -/
def Few (samples : List Int8) : Prop := samples.length < 2 ^ 56

theorem sampleSum_bounds (samples : List Int8) :
    -128 * samples.length ≤ sampleSum samples ∧ sampleSum samples ≤ 127 * samples.length := by
  refine ⟨le_sampleSum fun v _ => v.le_toInt, sampleSum_le fun v _ => ?_⟩
  have hv := v.toInt_lt
  omega

theorem Few.inI64 {samples : List Int8} (h : Few samples) : InI64 (sampleSum samples) := by
  obtain ⟨hlo, hhi⟩ := sampleSum_bounds samples
  unfold Few at h
  constructor
  · omega
  · omega

/-! ## Rounding -/

/-- the mean of `n` numbers with this sum, rounded to the nearest integer and half away from zero -/
structure RoundsAway (sum : ℤ) (n : ℕ) (average : ℤ) : Prop where
  nearest : 2 * |sum - average * n| ≤ n
  tie : 2 * |sum - average * n| = n → |sum| < |average * n|

theorem roundsAway_nonneg {sum : ℤ} {n : ℕ} (hn : 0 < n) (hsum : 0 ≤ sum) : RoundsAway sum n ((sum + n / 2) / n) := by
  have hpos : (0 : ℤ) < n := by exact_mod_cast hn
  have hdiv := Int.emod_add_mul_ediv (sum + n / 2) n
  have hmod := Int.emod_nonneg (sum + n / 2) hpos.ne'
  have hlt := Int.emod_lt_of_pos (sum + n / 2) hpos
  have hq : (sum + n / 2) / n * n = (n : ℤ) * ((sum + n / 2) / n) := mul_comm _ _
  have hdivNonneg : 0 ≤ (n : ℤ) * ((sum + n / 2) / n) :=
    mul_nonneg hpos.le (Int.ediv_nonneg (by omega) hpos.le)
  constructor
  · rw [hq]
    rcases abs_cases (sum - (n : ℤ) * ((sum + n / 2) / n)) with ⟨habs, -⟩ | ⟨habs, -⟩
    · omega
    · omega
  · rw [hq, abs_of_nonneg hsum, abs_of_nonneg hdivNonneg]
    rcases abs_cases (sum - (n : ℤ) * ((sum + n / 2) / n)) with ⟨habs, -⟩ | ⟨habs, -⟩
    · omega
    · omega

theorem RoundsAway.neg {sum average : ℤ} {n : ℕ} (h : RoundsAway sum n average) : RoundsAway (-sum) n (-average) := by
  have habs : |-sum - -average * n| = |sum - average * n| := by
    rw [show -sum - -average * n = -(sum - average * n) by ring, abs_neg]
  constructor
  · rw [habs]
    exact h.nearest
  · rw [habs, abs_neg, neg_mul, abs_neg]
    exact h.tie

/-- **The average** rounds half away from zero -/
theorem roundedAverage_rounds {sum : ℤ} {count : UInt64} (hpos : 0 < count.toNat) (hfew : count.toNat < 2 ^ 56)
    (hrange : AverageInRange sum count.toNat) : RoundsAway sum count.toNat (roundedAverageI64 sum count) := by
  have hdivisor : max ((min count.toNat (2 ^ 63 - 1) : ℕ) : ℤ) 1 = count.toNat := by omega
  rw [roundedAverageI64_eq hdivisor hrange]
  split_ifs with hsign
  · exact roundsAway_nonneg hpos hsign
  · have hopposite : RoundsAway (-sum) count.toNat ((-sum + count.toNat / 2) / count.toNat) :=
      roundsAway_nonneg hpos (by omega)
    have hneg := hopposite.neg
    rwa [neg_neg] at hneg

/-! ## Recording -/

theorem i64Checked_of_in {n : ℤ} (h : InI64 n) : i64Checked n = .ok n := if_pos h

theorem i64Checked_of_not {n : ℤ} (h : ¬InI64 n) : i64Checked n = .error .arithmeticOverflow := if_neg h

/-- in range, the checks change nothing -/
theorem roundedAverageChecked_of_range {sum : ℤ} {count : UInt64} (h : AverageInRange sum count.toNat) :
    roundedAverageChecked sum count = .ok (roundedAverageI64 sum count) := by
  obtain ⟨c, hc⟩ : ∃ c, max ((min count.toNat (2 ^ 63 - 1) : ℕ) : ℤ) 1 = c := ⟨_, rfl⟩
  have hhalf : c / 2 = (min count.toNat (2 ^ 63 - 1) / 2 : ℕ) := by omega
  have hbounds := abs_le.1 (show |sum| ≤ 2 ^ 63 - 1 - c / 2 by unfold AverageInRange at h; omega)
  rw [roundedAverageI64_eq hc h, roundedAverageChecked, hc]
  split_ifs with hsign
  · rw [i64Checked_of_in ⟨by omega, by omega⟩]
    rfl
  · rw [i64Checked_of_in ⟨by omega, by omega⟩, Core.checked_bind_ok, i64Checked_of_in ⟨by omega, by omega⟩]
    rfl

/-- out of range, the addition of the half is stopped, or already the change of sign -/
theorem roundedAverageChecked_of_not {sum : ℤ} {count : UInt64} (h : ¬AverageInRange sum count.toNat) :
    roundedAverageChecked sum count = .error .arithmeticOverflow := by
  obtain ⟨c, hc⟩ : ∃ c, max ((min count.toNat (2 ^ 63 - 1) : ℕ) : ℤ) 1 = c := ⟨_, rfl⟩
  have hhalf : c / 2 = (min count.toNat (2 ^ 63 - 1) / 2 : ℕ) := by omega
  have hover : 2 ^ 63 ≤ |sum| + c / 2 := by unfold AverageInRange at h; omega
  rw [roundedAverageChecked, hc]
  split_ifs with hsign
  · rw [abs_of_nonneg hsign] at hover
    rw [i64Checked_of_not fun hin => absurd hin.2 (by omega)]
    rfl
  · rw [abs_of_neg (by omega)] at hover
    by_cases hopposite : InI64 (-sum)
    · rw [i64Checked_of_in hopposite, Core.checked_bind_ok, i64Checked_of_not fun hin => absurd hin.2 (by omega)]
      rfl
    · rw [i64Checked_of_not hopposite]
      rfl

/-- few samples only overflow in the average of a negative sum -/
theorem Few.average_iff {samples : List Int8} (hfew : Few samples) :
    AverageInRange (sampleSum samples) samples.length ↔ AverageFits samples := by
  obtain ⟨hlo, hhi⟩ := sampleSum_bounds samples
  unfold Few at hfew
  have hmin : min samples.length (2 ^ 63 - 1) = samples.length := min_eq_left (by omega)
  unfold AverageInRange AverageFits
  rw [hmin]
  rcases abs_cases (sampleSum samples) with ⟨habs, hsign⟩ | ⟨habs, hsign⟩
  · omega
  · omega

theorem averageChecked_ok_iff {metric metric' : RuntimeRxSignalMetric} {samples : List Int8} (hfew : Few samples)
    (hsampled : Sampled metric samples) (hne : samples ≠ []) :
    metric.averageChecked = .ok metric' ↔ AverageFits samples ∧ metric' = metric := by
  have haverage := hsampled.average
  rw [if_neg hne] at haverage
  have hsame : ({ metric with average := some (roundedAverageI64 metric.sum metric.sampleCount) } :
      RuntimeRxSignalMetric) = metric := by rw [← haverage]
  rw [← hfew.average_iff, ← hsampled.sum, ← hsampled.count, RuntimeRxSignalMetric.averageChecked]
  by_cases hrange : AverageInRange metric.sum metric.sampleCount.toNat
  · rw [roundedAverageChecked_of_range hrange, Core.checked_bind_ok, hsame]
    exact ⟨fun h => ⟨hrange, (Except.ok.inj h).symm⟩, fun h => congrArg Except.ok h.2.symm⟩
  · rw [roundedAverageChecked_of_not hrange]
    exact ⟨nofun, fun h => absurd h.1 hrange⟩

theorem Few.of_prefix {samples seen : List Int8} (h : Few samples) (hseen : seen <+: samples) : Few seen :=
  Nat.lt_of_le_of_lt hseen.length_le h

theorem Few.sampled {samples : List Int8} (h : Few samples) : Sampled (readMetric samples) samples := by
  have hcount : samples.length ≤ u64Max := by
    unfold Few at h
    unfold u64Max
    omega
  exact sampled_read hcount fun seen hseen => (h.of_prefix hseen).inI64

/-- **A list is recorded** iff the averages of its prefixes are within range -/
theorem recordSignal_ok_iff {samples : List Int8} (hfew : Few samples) {metric : RuntimeRxSignalMetric} :
    recordSignal samples = .ok metric ↔
      (∀ seen, seen <+: samples → AverageFits seen) ∧ metric = readMetric samples := by
  induction samples using List.reverseRecOn generalizing metric with
  | nil =>
    have hnil : ∀ seen : List Int8, seen <+: [] → AverageFits seen := by
      intro seen hseen
      rw [List.prefix_nil.mp hseen]
      exact (by decide : (0 : ℤ) < 2 ^ 63)
    exact ⟨fun h => ⟨hnil, (Except.ok.inj h).symm⟩, fun h => congrArg Except.ok h.2.symm⟩
  | append_singleton samples value ih =>
    have hstep : recordSignal (samples ++ [value]) =
        recordSignal samples >>= fun metric => metric.observeChecked value := by
      rw [recordSignal, List.foldlM_append]
      congr 1
      funext metric
      exact bind_pure (metric.observeChecked value)
    have hseen : readMetric (samples ++ [value]) = (readMetric samples).observe value := by
      rw [readMetric, List.foldl_append]
      rfl
    have hwhole : ∀ metric', (readMetric samples).observeChecked value = .ok metric' ↔
        AverageFits (samples ++ [value]) ∧ metric' = readMetric (samples ++ [value]) := by
      intro metric'
      have hsampled := hfew.sampled
      rw [hseen] at hsampled ⊢
      exact averageChecked_ok_iff hfew hsampled (List.append_ne_nil_of_right_ne_nil samples (List.cons_ne_nil _ _))
    have hih := @ih (hfew.of_prefix (List.prefix_append _ _)) (readMetric samples)
    rw [hstep]
    constructor
    · intro hrun
      cases hrecorded : recordSignal samples with
      | error panic =>
        rw [hrecorded] at hrun
        cases hrun
      | ok recorded =>
        obtain ⟨hprefixes, rfl⟩ := (ih (hfew.of_prefix (List.prefix_append _ _))).mp hrecorded
        rw [hrecorded] at hrun
        obtain ⟨hfits, hmetric⟩ := (hwhole metric).mp hrun
        refine ⟨fun seen hseen => ?_, hmetric⟩
        rcases List.prefix_concat_iff.mp hseen with rfl | hearlier
        · exact hfits
        · exact hprefixes seen hearlier
    · rintro ⟨hprefixes, hmetric⟩
      rw [hih.mpr ⟨fun seen hseen => hprefixes seen (hseen.trans (List.prefix_append _ _)), rfl⟩]
      exact (hwhole metric).mpr ⟨hprefixes _ (List.prefix_refl _), hmetric⟩

/-! ## Merging -/

theorem extreme_unique {r : ℤ → ℤ → Prop} (hanti : ∀ a b, r a b → r b a → a = b) {samples : List Int8}
    {left right : Option Int8} (hleft : Extreme r samples left) (hright : Extreme r samples right) : left = right := by
  cases left with
  | none =>
    cases right with
    | none => rfl
    | some y =>
      rw [show samples = [] from hleft] at hright
      exact absurd hright.1 List.not_mem_nil
  | some x =>
    cases right with
    | none =>
      rw [show samples = [] from hright] at hleft
      exact absurd hleft.1 List.not_mem_nil
    | some y =>
      have hxy := hanti _ _ (hleft.2 y hright.1) (hright.2 x hleft.1)
      rw [Int8.toInt_inj.mp hxy]

/-- a list has one metric -/
theorem Sampled.unique {metric metric' : RuntimeRxSignalMetric} {samples : List Int8} (h : Sampled metric samples)
    (h' : Sampled metric' samples) : metric = metric' := by
  have hcount : metric.sampleCount = metric'.sampleCount := UInt64.toNat_inj.mp (h.count.trans h'.count.symm)
  have hsum := h.sum.trans h'.sum.symm
  have hmin := extreme_unique (fun _ _ => le_antisymm) h.min h'.min
  have hmax := extreme_unique (fun _ _ hge hle => le_antisymm hle hge) h.max h'.max
  have haverage := h.average.trans (hcount ▸ hsum ▸ h'.average.symm)
  cases metric
  cases metric'
  dsimp only at hcount hsum hmin hmax haverage
  rw [hcount, hsum, hmin, hmax, haverage]

/-- the average of samples, if there are any -/
def ExactAverage (samples : List Int8) : Option ℤ → Prop
  | none => samples = []
  | some average => samples ≠ [] ∧ RoundsAway (sampleSum samples) samples.length average

/-- the count, the extremes and the average of samples -/
structure ExactMetric (metric : RuntimeRxSignalMetric) (samples : List Int8) : Prop where
  count : metric.sampleCount.toNat = samples.length
  min : Extreme (· ≤ ·) samples metric.min
  max : Extreme (· ≥ ·) samples metric.max
  average : ExactAverage samples metric.average

theorem Sampled.exact {metric : RuntimeRxSignalMetric} {samples : List Int8} (h : Sampled metric samples)
    (hfew : Few samples) (hfits : AverageFits samples) : ExactMetric metric samples := by
  refine ⟨h.count, h.min, h.max, ?_⟩
  rw [h.average]
  split_ifs with hempty
  · exact hempty
  · have hpos := List.length_pos_iff.mpr hempty
    have hrange := hfew.average_iff.mpr hfits
    rw [← h.sum, ← h.count] at hrange
    have hrounds : RoundsAway metric.sum metric.sampleCount.toNat (roundedAverageI64 metric.sum metric.sampleCount) :=
      roundedAverage_rounds (h.count.symm ▸ hpos) (h.count.symm ▸ hfew) hrange
    rw [h.count, h.sum] at hrounds
    rw [h.sum]
    exact ⟨hempty, hrounds⟩

/-- recording two lists and merging is recording both, and nothing is lost -/
def MergesExactly (a b : List Int8) : Prop :=
  ∃ metric, (do
    let first ← recordSignal a
    let second ← recordSignal b
    first.mergeChecked second) = .ok metric ∧ recordSignal (a ++ b) = .ok metric ∧ ExactMetric metric (a ++ b)

theorem mergeChecked_ok {a b : List Int8} (hfew : Few (a ++ b)) (hfits : AverageFits (a ++ b)) :
    (readMetric a).mergeChecked (readMetric b) = .ok (readMetric (a ++ b)) := by
  have hb : Few b := Nat.lt_of_le_of_lt (List.sublist_append_right a b).length_le hfew
  have hsampledB := hb.sampled
  unfold RuntimeRxSignalMetric.mergeChecked
  split_ifs with hzero
  · have hempty : b = [] := by
      rw [← List.length_eq_zero_iff, ← hsampledB.count, hzero]
      rfl
    rw [hempty, List.append_nil]
  · have hne : a ++ b ≠ [] := by
      intro hnil
      apply hzero
      rw [(List.append_eq_nil_iff.mp hnil).2]
      rfl
    have hlength : a.length + b.length ≤ u64Max := by
      unfold Few at hfew
      rw [List.length_append] at hfew
      unfold u64Max
      omega
    have hmerged := (hfew.of_prefix (List.prefix_append a b)).sampled.merge hsampledB hlength hfew.inI64
    rw [(averageChecked_ok_iff hfew hmerged hne).mpr ⟨hfits, rfl⟩, hmerged.unique hfew.sampled]

/-- **Merging is concatenation**, exactly if no average overflows on the way -/
theorem metric_homomorphism {a b : List Int8} (hfew : Few (a ++ b)) :
    MergesExactly a b ↔
      (∀ seen, seen <+: a ++ b → AverageFits seen) ∧ ∀ seen, seen <+: b → AverageFits seen := by
  have hb : Few b := Nat.lt_of_le_of_lt (List.sublist_append_right a b).length_le hfew
  have ha : Few a := hfew.of_prefix (List.prefix_append a b)
  constructor
  · rintro ⟨metric, hrun, hwhole, -⟩
    refine ⟨((recordSignal_ok_iff hfew).mp hwhole).1, ?_⟩
    cases hfirst : recordSignal a with
    | error panic =>
      rw [hfirst] at hrun
      exact nomatch hrun
    | ok first =>
      cases hsecond : recordSignal b with
      | error panic =>
        rw [hfirst, hsecond] at hrun
        exact nomatch hrun
      | ok second => exact ((recordSignal_ok_iff hb).mp hsecond).1
  · rintro ⟨hwhole, hsecond⟩
    have hprefixes := fun seen (hseen : seen <+: a) => hwhole seen (hseen.trans (List.prefix_append a b))
    refine ⟨readMetric (a ++ b), ?_, (recordSignal_ok_iff hfew).mpr ⟨hwhole, rfl⟩,
      hfew.sampled.exact hfew (hwhole _ (List.prefix_refl _))⟩
    rw [(recordSignal_ok_iff ha).mpr ⟨hprefixes, rfl⟩, (recordSignal_ok_iff hb).mpr ⟨hsecond, rfl⟩]
    exact mergeChecked_ok hfew (hwhole _ (List.prefix_refl _))

theorem metric_homomorphism_few : MergesExactly [-50, -49] [-52] := by
  have hfits : ∀ samples : List Int8, samples.length ≤ 3 → AverageFits samples := by
    intro samples hshort
    have hlo := (sampleSum_bounds samples).1
    unfold AverageFits
    omega
  refine (metric_homomorphism (by unfold Few; decide)).mpr ⟨fun seen hseen => ?_, fun seen hseen => ?_⟩
  · exact hfits seen hseen.length_le
  · exact hfits seen (hseen.length_le.trans (by decide))

/-- the strongest list of samples overflows -/
theorem metric_overflows :
    Few (List.replicate (2 ^ 56 - 1) (-128 : Int8) ++ []) ∧
      ¬MergesExactly (List.replicate (2 ^ 56 - 1) (-128 : Int8)) [] := by
  have hfew : Few (List.replicate (2 ^ 56 - 1) (-128 : Int8) ++ []) := by
    unfold Few
    rw [List.append_nil, List.length_replicate]
    norm_num
  refine ⟨hfew, ?_⟩
  rintro ⟨metric, -, hwhole, -⟩
  have hfits := ((recordSignal_ok_iff hfew).mp hwhole).1 _ (List.prefix_refl _)
  unfold AverageFits at hfits
  rw [List.append_nil, sampleSum_replicate, List.length_replicate] at hfits
  have hvalue : (-128 : Int8).toInt = -128 := rfl
  rw [hvalue] at hfits
  norm_num at hfits

end WfbLink.Runtime
