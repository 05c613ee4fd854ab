/-
The signal telemetry of many reads.

A metric counts samples, adds them up in an `i64`, and keeps the smallest, the largest and the rounded average. `Sampled`
says that a metric is that of a list of samples; it is kept by merging, and so by everything the telemetry does, as
long as nothing saturates.

- `roundedAverageI64_bounds`: within range, the rounded average of samples lies between the smallest and the largest.
- `BulkRead.evidence_of_mem`: what the frames of any bulk buffer say about their signal.
- `Accumulates.counted`, `Accumulates.sampled`: the telemetry of many reads agrees with their frames.
-/
import WfbLink.RadioCore.RxSignal
import WfbLink.Runtime.RxReads

namespace WfbLink.Runtime

open WfbLink.Core WfbLink.RadioCore WfbLink.Bridge

/-! ## Rounding -/

def InI64 (n : ℤ) : Prop := -2 ^ 63 ≤ n ∧ n ≤ 2 ^ 63 - 1

theorem satAddI64_eq {a b : ℤ} (h : InI64 (a + b)) : satAddI64 a b = a + b := by
  obtain ⟨hlo, hhi⟩ := h
  rw [satAddI64, min_eq_left hhi, max_eq_right hlo]

theorem roundHalf_le {s c q : ℤ} (hc : 0 < c) (h : s ≤ q * c) : (s + c / 2) / c ≤ q := by
  refine Int.lt_add_one_iff.1 (Int.ediv_lt_of_lt_mul hc ?_)
  have hhalf : c / 2 < c := by omega
  calc s + c / 2 < q * c + c := by omega
    _ = (q + 1) * c := by ring

theorem le_roundHalf {s c q : ℤ} (hc : 0 < c) (h : q * c ≤ s) : q ≤ (s + c / 2) / c := by
  refine (Int.le_ediv_iff_mul_le hc).2 ?_
  have hhalf : 0 ≤ c / 2 := by omega
  omega

/-- half away from zero, so bounds on the exact average are bounds on the rounded one -/
theorem roundAway_bounds {sum c lo hi : ℤ} (hc : 0 < c) (hlo : lo * c ≤ sum) (hhi : sum ≤ hi * c) :
    lo ≤ (if sum ≥ 0 then (sum + c / 2) / c else -((-sum + c / 2) / c)) ∧
      (if sum ≥ 0 then (sum + c / 2) / c else -((-sum + c / 2) / c)) ≤ hi := by
  split_ifs
  · exact ⟨le_roundHalf hc hlo, roundHalf_le hc hhi⟩
  · have hup : (-sum + c / 2) / c ≤ -lo := roundHalf_le hc (by linarith)
    have hdown : -hi ≤ (-sum + c / 2) / c := le_roundHalf hc (by linarith)
    omega

/-- this sum and half this count are together within an `i64` -/
def AverageInRange (sum : ℤ) (count : ℕ) : Prop := |sum| + (min count (2 ^ 63 - 1) / 2 : ℕ) < 2 ^ 63

theorem wrapI64_eq {n : ℤ} (h : InI64 n) : wrapI64 n = n := by
  obtain ⟨hlo, hhi⟩ := h
  unfold wrapI64
  rw [Int.bmod_eq_of_le_mul_two]
  · norm_num
    omega
  · norm_num
    omega

/-- in range, nothing wraps -/
theorem roundedAverageI64_eq {sum : ℤ} {count : UInt64} {c : ℤ}
    (hc : max ((min count.toNat (2 ^ 63 - 1) : ℕ) : ℤ) 1 = c) (h : AverageInRange sum count.toNat) :
    roundedAverageI64 sum count = if sum ≥ 0 then (sum + c / 2) / c else -((-sum + c / 2) / c) := by
  have hhalf : c / 2 = (min count.toNat (2 ^ 63 - 1) / 2 : ℕ) := by omega
  have hbounds := abs_le.1 (show |sum| ≤ 2 ^ 63 - 1 - c / 2 by unfold AverageInRange at h; omega)
  unfold roundedAverageI64
  dsimp only
  rw [hc]
  split_ifs with hsign
  · have hrounded : InI64 (sum + c / 2) := ⟨by omega, by omega⟩
    rw [wrapI64_eq hrounded, Int.tdiv_eq_ediv_of_nonneg (by omega)]
  · have hopposite : InI64 (-sum) := ⟨by omega, by omega⟩
    have hrounded : InI64 (-sum + c / 2) := ⟨by omega, by omega⟩
    have hquotient : 0 ≤ (-sum + c / 2) / c ∧ (-sum + c / 2) / c ≤ -sum + c / 2 :=
      ⟨Int.ediv_nonneg (by omega) (by omega), Int.ediv_le_self _ (by omega)⟩
    have hresult : InI64 (-((-sum + c / 2) / c)) := ⟨by omega, by omega⟩
    rw [wrapI64_eq hopposite, wrapI64_eq hrounded, Int.tdiv_eq_ediv_of_nonneg (by omega), wrapI64_eq hresult]

/-- the bounds survive a count beyond `i64`, which is divided by as `i64::MAX` -/
theorem roundedAverageI64_bounds {sum lo hi : ℤ} {count : UInt64} (hcount : 0 < count.toNat)
    (hrange : AverageInRange sum count.toNat) (hlo : lo * count.toNat ≤ sum) (hhi : sum ≤ hi * count.toNat) :
    lo ≤ roundedAverageI64 sum count ∧ roundedAverageI64 sum count ≤ hi := by
  by_cases hfits : count.toNat ≤ 2 ^ 63 - 1
  · have hdivisor : max ((min count.toNat (2 ^ 63 - 1) : ℕ) : ℤ) 1 = count.toNat := by omega
    rw [roundedAverageI64_eq hdivisor hrange]
    exact roundAway_bounds (by omega) hlo hhi
  · have hdivisor : max ((min count.toNat (2 ^ 63 - 1) : ℕ) : ℤ) 1 = 2 ^ 63 - 1 := by omega
    have hbig : (2 ^ 63 : ℤ) ≤ count.toNat := by omega
    have hsum := abs_lt.1 (show |sum| < 2 ^ 63 by unfold AverageInRange at hrange; omega)
    have hhi' : sum ≤ hi * (2 ^ 63 - 1) := by
      rcases lt_or_ge 0 hi with hpos | hneg
      · linarith
      · exact hhi.trans (Int.mul_le_mul_of_nonpos_left hneg (by omega))
    have hlo' : lo * (2 ^ 63 - 1) ≤ sum := by
      rcases lt_or_ge lo 0 with hneg | hpos
      · have hprod : lo * (2 ^ 63 - 1) ≤ -1 * (2 ^ 63 - 1) := mul_le_mul_of_nonneg_right (by omega) (by norm_num)
        omega
      · have hprod : lo * (2 ^ 63 - 1) ≤ lo * count.toNat := mul_le_mul_of_nonneg_left (by omega) hpos
        exact hprod.trans hlo
    rw [roundedAverageI64_eq hdivisor hrange]
    exact roundAway_bounds (by norm_num) hlo' hhi'

/-! ## Metrics -/

def sampleSum (samples : List Int8) : ℤ := (samples.map Int8.toInt).sum

theorem sampleSum_append (a b : List Int8) : sampleSum (a ++ b) = sampleSum a + sampleSum b := by
  rw [sampleSum, List.map_append, List.sum_append]
  rfl

theorem sampleSum_replicate (n : ℕ) (value : Int8) : sampleSum (List.replicate n value) = n * value.toInt := by
  rw [sampleSum, List.map_replicate, List.sum_replicate, nsmul_eq_mul]

theorem le_sampleSum {samples : List Int8} {lo : ℤ} (h : ∀ v ∈ samples, lo ≤ v.toInt) :
    lo * samples.length ≤ sampleSum samples := by
  induction samples with
  | nil => simp [sampleSum]
  | cons v samples ih =>
    obtain ⟨hv, hrest⟩ := List.forall_mem_cons.1 h
    have hsum : sampleSum (v :: samples) = v.toInt + sampleSum samples := rfl
    have hlen : ((v :: samples).length : ℤ) = samples.length + 1 := by simp
    rw [hsum, hlen]
    linarith [ih hrest]

theorem sampleSum_le {samples : List Int8} {hi : ℤ} (h : ∀ v ∈ samples, v.toInt ≤ hi) :
    sampleSum samples ≤ hi * samples.length := by
  induction samples with
  | nil => simp [sampleSum]
  | cons v samples ih =>
    obtain ⟨hv, hrest⟩ := List.forall_mem_cons.1 h
    have hsum : sampleSum (v :: samples) = v.toInt + sampleSum samples := rfl
    have hlen : ((v :: samples).length : ℤ) = samples.length + 1 := by simp
    rw [hsum, hlen]
    linarith [ih hrest]

/-- one of the samples, in this relation to all of them; absent if there are none -/
def Extreme (r : ℤ → ℤ → Prop) (samples : List Int8) : Option Int8 → Prop
  | none => samples = []
  | some x => x ∈ samples ∧ ∀ v ∈ samples, r x.toInt v.toInt

def pickOption (pick : Int8 → Int8 → Int8) : Option Int8 → Option Int8 → Option Int8
  | some x, some y => some (pick x y)
  | none, some y => some y
  | left, none => left

/-- the better of two extremes is that of all samples -/
theorem Extreme.pick {r : ℤ → ℤ → Prop} (htrans : ∀ a b c, r a b → r b c → r a c) {pick : Int8 → Int8 → Int8}
    (hpick : ∀ x y, pick x y = x ∧ r x.toInt y.toInt ∨ pick x y = y ∧ r y.toInt x.toInt) {a b : List Int8}
    {left right : Option Int8} (hleft : Extreme r a left) (hright : Extreme r b right) :
    Extreme r (a ++ b) (pickOption pick left right) := by
  cases left with
  | none =>
    rw [show a = [] from hleft, List.nil_append]
    cases right <;> exact hright
  | some x =>
    cases right with
    | none =>
      rw [show b = [] from hright, List.append_nil]
      exact hleft
    | some y =>
      rcases hpick x y with ⟨heq, hxy⟩ | ⟨heq, hyx⟩
      · rw [pickOption, heq]
        refine ⟨List.mem_append_left _ hleft.1, fun v hv => ?_⟩
        exact (List.mem_append.1 hv).elim (hleft.2 v) fun hv => htrans _ _ _ hxy (hright.2 v hv)
      · rw [pickOption, heq]
        refine ⟨List.mem_append_right _ hright.1, fun v hv => ?_⟩
        exact (List.mem_append.1 hv).elim (fun hv => htrans _ _ _ hyx (hleft.2 v hv)) (hright.2 v)

theorem pickMin (x y : Int8) :
    (if y < x then y else x) = x ∧ x.toInt ≤ y.toInt ∨ (if y < x then y else x) = y ∧ y.toInt ≤ x.toInt := by
  split_ifs with hlt
  · exact .inr ⟨rfl, (Int8.lt_iff_toInt_lt.1 hlt).le⟩
  · exact .inl ⟨rfl, Int8.le_iff_toInt_le.1 (Int8.not_lt.1 hlt)⟩

theorem pickMax (x y : Int8) :
    (if x < y then y else x) = x ∧ x.toInt ≥ y.toInt ∨ (if x < y then y else x) = y ∧ y.toInt ≥ x.toInt := by
  split_ifs with hlt
  · exact .inr ⟨rfl, (Int8.lt_iff_toInt_lt.1 hlt).le⟩
  · exact .inl ⟨rfl, Int8.le_iff_toInt_le.1 (Int8.not_lt.1 hlt)⟩

/-- the metric of these samples, with nothing lost to a saturating counter -/
structure Sampled (metric : RuntimeRxSignalMetric) (samples : List Int8) : Prop where
  count : metric.sampleCount.toNat = samples.length
  sum : metric.sum = sampleSum samples
  min : Extreme (· ≤ ·) samples metric.min
  max : Extreme (· ≥ ·) samples metric.max
  average : metric.average =
    if samples = [] then none else some (roundedAverageI64 metric.sum metric.sampleCount)

theorem sampled_nil : Sampled {} [] := ⟨rfl, rfl, rfl, rfl, rfl⟩

/-- **Merging joins the samples.** -/
theorem Sampled.merge {metric other : RuntimeRxSignalMetric} {a b : List Int8} (ha : Sampled metric a)
    (hb : Sampled other b) (hcount : a.length + b.length ≤ u64Max) (hsum : InI64 (sampleSum (a ++ b))) :
    Sampled (metric.merge other) (a ++ b) := by
  by_cases hzero : other.sampleCount = 0
  · have hempty : b = [] := by
      rw [← List.length_eq_zero_iff, ← hb.count, hzero]
      rfl
    rw [RuntimeRxSignalMetric.merge, if_pos hzero, hempty, List.append_nil]
    exact ha
  have hnonempty : b ≠ [] := by
    rintro rfl
    exact hzero (UInt64.toNat_inj.1 hb.count)
  rw [sampleSum_append, ← ha.sum, ← hb.sum] at hsum
  rw [RuntimeRxSignalMetric.merge, if_neg hzero]
  have hmin : Extreme (· ≤ ·) (a ++ b) (pickOption _ metric.min other.min) :=
    Extreme.pick (r := (· ≤ ·)) (fun _ _ _ => le_trans) pickMin ha.min hb.min
  have hmax : Extreme (· ≥ ·) (a ++ b) (pickOption _ metric.max other.max) :=
    Extreme.pick (r := (· ≥ ·)) (fun _ _ _ => ge_trans) pickMax ha.max hb.max
  refine ⟨?_, ?_, hmin, hmax, ?_⟩
  · dsimp only
    rw [satAdd_toNat, ha.count, hb.count, List.length_append, Nat.min_eq_left hcount]
  · dsimp only
    rw [satAddI64_eq hsum, sampleSum_append, ha.sum, hb.sum]
  · rw [if_neg fun h => hnonempty (List.append_eq_nil_iff.1 h).2]

theorem inI64_int8 (value : Int8) : InI64 value.toInt := by
  have hlo := value.le_toInt
  have hhi := value.toInt_lt
  constructor <;> omega

/-- the metric of one sample -/
theorem sampled_one (value : Int8) : Sampled (RuntimeRxSignalMetric.observe {} value) [value] := by
  have hsum : satAddI64 0 value.toInt = value.toInt := by
    rw [satAddI64_eq (by rw [Int.zero_add]; exact inI64_int8 value), Int.zero_add]
  refine ⟨rfl, ?_, ⟨List.mem_singleton_self _, ?_⟩, ⟨List.mem_singleton_self _, ?_⟩, rfl⟩
  · change satAddI64 0 value.toInt = _
    rw [hsum, sampleSum, List.map_singleton, List.sum_singleton]
  · intro v hv
    rw [List.mem_singleton.1 hv]
    exact le_rfl
  · intro v hv
    rw [List.mem_singleton.1 hv]
    exact le_rfl

/-- observing a sample is merging the metric of this sample -/
theorem observe_eq_merge (metric : RuntimeRxSignalMetric) (value : Int8) :
    metric.observe value = metric.merge (RuntimeRxSignalMetric.observe {} value) := by
  have hsum : satAddI64 0 value.toInt = value.toInt := by
    rw [satAddI64_eq (by rw [Int.zero_add]; exact inI64_int8 value), Int.zero_add]
  have hone : (RuntimeRxSignalMetric.observe {} value).sampleCount ≠ 0 := show (1 : UInt64) ≠ 0 by decide
  rw [RuntimeRxSignalMetric.merge, if_neg hone]
  unfold RuntimeRxSignalMetric.observe
  dsimp only
  rw [hsum]
  cases metric.min <;> cases metric.max <;> rfl

/-- the smallest sample, the average and the largest one are in order, and there only if there are samples -/
def RuntimeRxSignalMetric.Ordered (metric : RuntimeRxSignalMetric) : Prop :=
  match metric.min, metric.average, metric.max with
  | none, none, none => metric.sampleCount = 0
  | some lo, some average, some hi => lo.toInt ≤ average ∧ average ≤ hi.toInt
  | _, _, _ => False

/-- **Averages are bounded.** -/
theorem Sampled.ordered {metric : RuntimeRxSignalMetric} {samples : List Int8} (h : Sampled metric samples)
    (hrange : AverageInRange (sampleSum samples) samples.length) : metric.Ordered := by
  have hmin := h.min
  have hmax := h.max
  have haverage := h.average
  unfold RuntimeRxSignalMetric.Ordered
  by_cases hempty : samples = []
  · rw [if_pos hempty] at haverage
    have hcount : metric.sampleCount = 0 := by
      apply UInt64.toNat_inj.1
      rw [h.count, hempty]
      rfl
    subst hempty
    cases hlo : metric.min with
    | some lo =>
      rw [hlo] at hmin
      exact absurd hmin.1 List.not_mem_nil
    | none =>
      cases hhi : metric.max with
      | some hi =>
        rw [hhi] at hmax
        exact absurd hmax.1 List.not_mem_nil
      | none =>
        rw [haverage]
        exact hcount
  · rw [if_neg hempty] at haverage
    cases hlo : metric.min with
    | none =>
      rw [hlo] at hmin
      exact absurd hmin hempty
    | some lo =>
      cases hhi : metric.max with
      | none =>
        rw [hhi] at hmax
        exact absurd hmax hempty
      | some hi =>
        rw [hlo] at hmin
        rw [hhi] at hmax
        rw [haverage]
        have hpos : 0 < metric.sampleCount.toNat := h.count ▸ List.length_pos_iff.2 hempty
        rw [← h.sum, ← h.count] at hrange
        refine roundedAverageI64_bounds hpos hrange ?_ ?_
        · rw [h.sum, h.count]
          exact le_sampleSum hmin.2
        · rw [h.sum, h.count]
          exact sampleSum_le hmax.2

/-! ## Reads of samples -/

/-- no counter of a metric saturates: not the number of samples, and neither the sum of a read nor that of the run -/
structure Unsaturated (reads : List (List Int8)) : Prop where
  count : reads.flatten.length ≤ u64Max
  read : ∀ samples ∈ reads, ∀ seen, seen <+: samples → InI64 (sampleSum seen)
  run : ∀ seen, seen <+: reads → InI64 (sampleSum seen.flatten)

/-- the metric of one read -/
def readMetric (samples : List Int8) : RuntimeRxSignalMetric := samples.foldl RuntimeRxSignalMetric.observe {}

theorem sampled_read {samples : List Int8} (hcount : samples.length ≤ u64Max)
    (hfits : ∀ seen, seen <+: samples → InI64 (sampleSum seen)) : Sampled (readMetric samples) samples := by
  induction samples using List.reverseRecOn with
  | nil => exact sampled_nil
  | append_singleton samples value ih =>
    rw [List.length_append] at hcount
    have hseen : Sampled (readMetric samples) samples :=
      ih (by omega) fun seen hseen => hfits seen (hseen.trans (List.prefix_append _ _))
    have hsnoc : readMetric (samples ++ [value]) = (readMetric samples).observe value := by
      rw [readMetric, List.foldl_append]
      rfl
    rw [hsnoc, observe_eq_merge]
    exact hseen.merge (sampled_one value) hcount (hfits _ (List.prefix_refl _))

/-- **The metric of a run** is that of all samples of its reads. -/
theorem sampled_run {reads : List (List Int8)} (h : Unsaturated reads) :
    Sampled (reads.foldl (fun metric samples => metric.merge (readMetric samples)) {}) reads.flatten := by
  induction reads using List.reverseRecOn with
  | nil => exact sampled_nil
  | append_singleton reads samples ih =>
    have hflatten : (reads ++ [samples]).flatten = reads.flatten ++ samples := by simp
    have hcount := h.count
    rw [hflatten, List.length_append] at hcount
    have hseen : Unsaturated reads :=
      ⟨by omega, fun s hs => h.read s (List.mem_append_left _ hs),
        fun seen hseen => h.run seen (hseen.trans (List.prefix_append _ _))⟩
    have hread := sampled_read (by omega) (h.read samples (by simp))
    have hsum := h.run _ (List.prefix_refl _)
    rw [hflatten] at hsum
    rw [List.foldl_append, List.foldl_cons, List.foldl_nil, hflatten]
    exact (ih hseen).merge hread hcount hsum

/-- few samples saturate nothing -/
theorem unsaturated_of_few {reads : List (List Int8)} (h : reads.flatten.length ≤ 2 ^ 56 - 1) : Unsaturated reads := by
  have hfits : ∀ samples : List Int8, samples.length ≤ 2 ^ 56 - 1 → InI64 (sampleSum samples) := by
    intro samples hlen
    have hlo : -128 * samples.length ≤ sampleSum samples := le_sampleSum fun v _ => v.le_toInt
    have hhi : sampleSum samples ≤ 127 * samples.length := by
      refine sampleSum_le fun v _ => ?_
      have hv := v.toInt_lt
      omega
    constructor <;> omega
  refine ⟨h.trans (by decide), fun samples hmem seen hseen => hfits seen ?_, fun seen hseen => hfits _ ?_⟩
  · exact hseen.length_le.trans ((List.sublist_flatten_of_mem hmem).length_le.trans h)
  · exact (List.IsPrefix.flatten hseen).length_le.trans h

/-! ## The metrics of a summary -/

/-- a metric of the summary, and the sample of a frame for it -/
structure SignalMetric where
  metric : RuntimeRxSignalSummary → RuntimeRxSignalMetric
  sample : RxFrame → Option Int8
  metric_empty : metric {} = {}
  metric_observe : ∀ summary frame, metric (summary.observeFrame frame) =
    (sample frame).toList.foldl RuntimeRxSignalMetric.observe (metric summary)
  metric_merge : ∀ summary other, metric (summary.merge other) = (metric summary).merge (metric other)

def rssiMetric : SignalMetric where
  metric := (·.rssiDbm)
  sample frame := if frame.rssiDbmValid then some frame.rssiDbm else none
  metric_empty := rfl
  metric_observe summary frame := by
    unfold RuntimeRxSignalSummary.observeFrame
    cases frame.rssiDbmValid <;> rfl
  metric_merge _ _ := rfl

def snrMetric : SignalMetric where
  metric := (·.snrDb)
  sample := (·.snrDb)
  metric_empty := rfl
  metric_observe summary frame := by
    unfold RuntimeRxSignalSummary.observeFrame
    cases frame.snrDb <;> rfl
  metric_merge _ _ := rfl

def noiseMetric : SignalMetric where
  metric := (·.noiseDbm)
  sample := (·.noiseDbm)
  metric_empty := rfl
  metric_observe summary frame := by
    unfold RuntimeRxSignalSummary.observeFrame
    cases frame.noiseDbm <;> rfl
  metric_merge _ _ := rfl

namespace SignalMetric

variable (m : SignalMetric)

/-- the samples of a read -/
def samples (packets : List ParsedRxPacket) : List Int8 := (receivedFrames packets).filterMap m.sample

end SignalMetric

theorem Sees.signal {t t' : ProductionRuntimeRxPacketTelemetry} {parsed : ParsedRxPacket} (h : Sees t parsed t') :
    t'.signal = (receivedFrames [parsed]).foldl RuntimeRxSignalSummary.observeFrame t.signal := by
  cases h with
  | frame hframe htype _ =>
    obtain ⟨_, _, _, _, _, rfl⟩ := countProductionRxFrameType_spec htype
    simp only [receivedFrames, List.filterMap_cons, List.filterMap_nil, hframe]
    rfl
  | drop h => simp [receivedFrames, receivedFrame, h]
  | needMoreData h => simp [receivedFrames, receivedFrame, h]

theorem SeesAll.signal {t t' : ProductionRuntimeRxPacketTelemetry} {packets : List ParsedRxPacket}
    (h : SeesAll t packets t') :
    t'.signal = (receivedFrames packets).foldl RuntimeRxSignalSummary.observeFrame t.signal := by
  induction h with
  | nil => rfl
  | @cons t t₁ t₂ parsed packets hone _ ih => rw [ih, hone.signal, receivedFrames_cons parsed packets, List.foldl_append]

theorem SignalMetric.metric_frames (m : SignalMetric) (frames : List RxFrame) (summary : RuntimeRxSignalSummary) :
    m.metric (frames.foldl RuntimeRxSignalSummary.observeFrame summary) =
      (frames.filterMap m.sample).foldl RuntimeRxSignalMetric.observe (m.metric summary) := by
  induction frames generalizing summary with
  | nil => rfl
  | cons frame frames ih =>
    rw [List.foldl_cons, ih, m.metric_observe, List.filterMap_cons]
    cases m.sample frame <;> rfl

theorem Accumulates.metric (m : SignalMetric) {rx rx' : RuntimeFlowRxTelemetry} {reads : List (List ParsedRxPacket)}
    (h : Accumulates rx reads rx') :
    m.metric rx'.signal = (reads.map m.samples).foldl (fun metric samples => metric.merge (readMetric samples))
      (m.metric rx.signal) := by
  induction h with
  | nil => rfl
  | cons hread _ ih =>
    rw [ih, applyProductionRuntimeRxPacketTelemetry, m.metric_merge, hread.signal, m.metric_frames]
    have hempty : m.metric ({} : ProductionRuntimeRxPacketTelemetry).signal = {} := m.metric_empty
    rw [hempty]
    rfl

/-- **Each metric is that of all samples.** -/
theorem Accumulates.sampled (m : SignalMetric) {rx : RuntimeFlowRxTelemetry} {reads : List (List ParsedRxPacket)}
    (h : Accumulates {} reads rx) (hfits : Unsaturated (reads.map m.samples)) :
    Sampled (m.metric rx.signal) (reads.map m.samples).flatten := by
  have hempty : m.metric ({} : RuntimeFlowRxTelemetry).signal = {} := m.metric_empty
  rw [h.metric m, hempty]
  exact sampled_run hfits

/-! ## Counted evidence -/

/-- the counters of a telemetry agree with its metrics, and with each other -/
structure EvidenceCounted (parsedFrames phyStatusFrames rssiValidFrames snrFrames noiseFrames : UInt64)
    (signal : RuntimeRxSignalSummary) : Prop where
  snrNoise : snrFrames = noiseFrames
  snrSamples : snrFrames = signal.snrDb.sampleCount
  noiseSamples : noiseFrames = signal.noiseDbm.sampleCount
  rssiSamples : rssiValidFrames = signal.rssiDbm.sampleCount
  snrLeRssi : snrFrames ≤ rssiValidFrames
  rssiLePhy : rssiValidFrames ≤ phyStatusFrames
  phyLeParsed : phyStatusFrames ≤ parsedFrames

def ProductionRuntimeRxPacketTelemetry.Counted (t : ProductionRuntimeRxPacketTelemetry) : Prop :=
  EvidenceCounted t.parsedFrames t.phyStatusFrames t.rssiValidFrames t.snrFrames t.noiseFrames t.signal

def RuntimeFlowRxTelemetry.Counted (rx : RuntimeFlowRxTelemetry) : Prop :=
  EvidenceCounted rx.parsedFrames rx.phyStatusFrames rx.rssiValidFrames rx.snrFrames rx.noiseFrames rx.signal

/-- what the counters need to know of a frame -/
structure Ranked (frame : RxFrame) : Prop where
  bothOrNone : frame.snrDb.isSome = frame.noiseDbm.isSome
  snrNeedsRssi : frame.snrDb.isSome = true → frame.rssiDbmValid = true
  rssiNeedsPhy : frame.rssiDbmValid = true → frame.phyStatus = true

theorem ranked_of_evidence {w : RxDescWords} {bytes : List UInt8} {frame : RxFrame} (h : SignalEvidence w bytes frame) :
    Ranked frame where
  bothOrNone := h.bothOrNone
  snrNeedsRssi hsome := (h.needs hsome).1
  rssiNeedsPhy hvalid := h.phyStatus.trans (h.rssiValid.1 hvalid).1

theorem count_snrDb (summary : RuntimeRxSignalSummary) (frame : RxFrame) :
    (summary.observeFrame frame).snrDb.sampleCount =
      if frame.snrDb.isSome then satAdd summary.snrDb.sampleCount 1 else summary.snrDb.sampleCount := by
  unfold RuntimeRxSignalSummary.observeFrame
  cases frame.snrDb <;> rfl

theorem count_noiseDbm (summary : RuntimeRxSignalSummary) (frame : RxFrame) :
    (summary.observeFrame frame).noiseDbm.sampleCount =
      if frame.noiseDbm.isSome then satAdd summary.noiseDbm.sampleCount 1 else summary.noiseDbm.sampleCount := by
  unfold RuntimeRxSignalSummary.observeFrame
  cases frame.noiseDbm <;> rfl

theorem count_rssiDbm (summary : RuntimeRxSignalSummary) (frame : RxFrame) :
    (summary.observeFrame frame).rssiDbm.sampleCount =
      if frame.rssiDbmValid then satAdd summary.rssiDbm.sampleCount 1 else summary.rssiDbm.sampleCount := by
  unfold RuntimeRxSignalSummary.observeFrame
  cases frame.rssiDbmValid <;> rfl

/-- counting under one condition keeps an order that the conditions respect -/
theorem countIf_mono {a b : UInt64} {p q : Bool} (hab : a ≤ b) (hpq : p = true → q = true) :
    (if p then satAdd a 1 else a) ≤ if q then satAdd b 1 else b := by
  cases p with
  | true =>
    rw [if_pos rfl, if_pos (hpq rfl)]
    exact satAdd_mono hab (UInt64.le_refl 1)
  | false =>
    cases q with
    | true => exact UInt64.le_trans hab (le_satAdd b 1)
    | false => exact hab

theorem countProductionRxMetadata_counted {t : ProductionRuntimeRxPacketTelemetry} (h : t.Counted) {frame : RxFrame}
    (hframe : Ranked frame) :
    (countProductionRxMetadata { t with parsedFrames := satAdd t.parsedFrames 1 } frame).Counted where
  snrNoise := by
    change (if frame.snrDb.isSome then _ else _) = if frame.noiseDbm.isSome then _ else _
    rw [hframe.bothOrNone, h.snrNoise]
  snrSamples := (congrArg (fun n => if frame.snrDb.isSome then satAdd n 1 else n) h.snrSamples).trans
    (count_snrDb t.signal frame).symm
  noiseSamples := (congrArg (fun n => if frame.noiseDbm.isSome then satAdd n 1 else n) h.noiseSamples).trans
    (count_noiseDbm t.signal frame).symm
  rssiSamples := (congrArg (fun n => if frame.rssiDbmValid then satAdd n 1 else n) h.rssiSamples).trans
    (count_rssiDbm t.signal frame).symm
  snrLeRssi := countIf_mono h.snrLeRssi hframe.snrNeedsRssi
  rssiLePhy := countIf_mono h.rssiLePhy hframe.rssiNeedsPhy
  phyLeParsed := countIf_mono (q := true) h.phyLeParsed fun _ => rfl

theorem Sees.counted {t t' : ProductionRuntimeRxPacketTelemetry} {parsed : ParsedRxPacket} (h : Sees t parsed t')
    (hcounted : t.Counted) (hranked : ∀ frame ∈ receivedFrames [parsed], Ranked frame) : t'.Counted := by
  cases h with
  | @frame typed frame _ _ hframe htype _ =>
    obtain ⟨_, _, _, _, _, rfl⟩ := countProductionRxFrameType_spec htype
    have hmem : frame ∈ receivedFrames [parsed] := List.mem_filterMap.2 ⟨parsed, List.mem_singleton_self _, hframe⟩
    exact countProductionRxMetadata_counted hcounted (hranked frame hmem)
  | drop _ => exact hcounted
  | needMoreData _ => exact hcounted

theorem SeesAll.counted {t t' : ProductionRuntimeRxPacketTelemetry} {packets : List ParsedRxPacket}
    (h : SeesAll t packets t') (hcounted : t.Counted) (hranked : ∀ frame ∈ receivedFrames packets, Ranked frame) :
    t'.Counted := by
  induction h with
  | nil => exact hcounted
  | @cons t t₁ t₂ parsed packets hone _ ih =>
    rw [receivedFrames_cons parsed packets] at hranked
    have hfirst := hone.counted hcounted fun frame hmem => hranked frame (List.mem_append_left _ hmem)
    exact ih hfirst fun frame hmem => hranked frame (List.mem_append_right _ hmem)

theorem counted_empty : (ProductionRuntimeRxPacketTelemetry.mk 0 0 0 0 0 {} 0 0 0 0 0 0 []).Counted :=
  ⟨rfl, rfl, rfl, rfl, UInt64.le_refl 0, UInt64.le_refl 0, UInt64.le_refl 0⟩

theorem merge_sampleCount (metric other : RuntimeRxSignalMetric) :
    (metric.merge other).sampleCount = satAdd metric.sampleCount other.sampleCount := by
  unfold RuntimeRxSignalMetric.merge
  split_ifs with hzero
  · rw [hzero, satAdd_zero]
  · rfl

theorem apply_counted {rx : RuntimeFlowRxTelemetry} {t : ProductionRuntimeRxPacketTelemetry} (hrx : rx.Counted)
    (ht : t.Counted) : (applyProductionRuntimeRxPacketTelemetry rx t).Counted where
  snrNoise := congrArg₂ satAdd hrx.snrNoise ht.snrNoise
  snrSamples := (congrArg₂ satAdd hrx.snrSamples ht.snrSamples).trans (merge_sampleCount _ _).symm
  noiseSamples := (congrArg₂ satAdd hrx.noiseSamples ht.noiseSamples).trans (merge_sampleCount _ _).symm
  rssiSamples := (congrArg₂ satAdd hrx.rssiSamples ht.rssiSamples).trans (merge_sampleCount _ _).symm
  snrLeRssi := satAdd_mono hrx.snrLeRssi ht.snrLeRssi
  rssiLePhy := satAdd_mono hrx.rssiLePhy ht.rssiLePhy
  phyLeParsed := satAdd_mono hrx.phyLeParsed ht.phyLeParsed

theorem Accumulates.counted {rx rx' : RuntimeFlowRxTelemetry} {reads : List (List ParsedRxPacket)}
    (h : Accumulates rx reads rx') (hcounted : rx.Counted)
    (hranked : ∀ packets ∈ reads, ∀ frame ∈ receivedFrames packets, Ranked frame) : rx'.Counted := by
  induction h with
  | nil => exact hcounted
  | cons hread _ ih =>
    have hone := hread.counted counted_empty (hranked _ List.mem_cons_self)
    exact ih (apply_counted hcounted hone) fun packets hmem => hranked packets (List.mem_cons_of_mem _ hmem)

/-! ## Bulk buffers -/

/-- a read that `readRxPackets` has returned, whatever the device, the session and the received bytes were -/
structure BulkRead where
  channel : Channel
  received : List UInt8
  read : RuntimeRxRead
  returned : ∃ (τ : Type) (_ : UsbBulkTransfer τ) (n : ℕ) (session session' : RuntimeRadioSession τ)
    (buffer buffer' : ByteBuf n) (timeout : ℕ),
      readRxPackets session channel buffer timeout = .ok (.ok read, buffer', session') ∧
        received = buffer'.bytes.take read.bytesRead

theorem slice_eq_drop_take {xs rest : List UInt8} {a b : ℕ} (h : slice xs a b = .ok rest) :
    rest = (xs.take b).drop a := by
  unfold slice at h
  split_ifs at h
  rw [← Except.ok.inj h, List.drop_take]

/-- the loop appends parse results of the bytes it reads, and nothing else -/
theorem rxLoop_parsed {channel : Channel} {buffer : List UInt8} {bytesRead offset : ℕ}
    {counters counters' : RuntimeRadioCounters} {packets packets' : List ParsedRxPacket}
    (h : rxLoop channel buffer bytesRead offset counters packets = .ok (counters', packets')) :
    ∀ parsed ∈ packets', parsed ∈ packets ∨
      ∃ offset, parseRxPacket ((buffer.take bytesRead).drop offset) channel = .ok parsed := by
  induction hm : bytesRead - offset using Nat.strong_induction_on generalizing offset counters packets with
  | _ m ih =>
    rw [rxLoop] at h
    split at h
    · obtain ⟨rest, hslice, h⟩ := except_bind_ok h
      obtain ⟨parsed, hparsed, h⟩ := except_bind_ok h
      -- the result is the last one appended so far
      have hlast : ∀ other ∈ packets ++ [parsed], other ∈ packets ∨
          ∃ offset, parseRxPacket ((buffer.take bytesRead).drop offset) channel = .ok other := by
        intro other hother
        rcases List.mem_append.1 hother with hother | hother
        · exact .inl hother
        · rw [List.mem_singleton.1 hother]
          exact .inr ⟨offset, slice_eq_drop_take hslice ▸ hparsed⟩
      split at h
      · cases h
        exact hlast
      · split at h
        · cases h
          exact hlast
        · intro other hother
          exact (ih _ (by omega) h rfl other hother).elim (hlast other) .inr
    · cases h
      exact fun other hother => .inl hother

theorem readRxPackets_parsed {τ : Type} [UsbBulkTransfer τ] {n : ℕ} {session session' : RuntimeRadioSession τ}
    {channel : Channel} {buffer buffer' : ByteBuf n} {timeout : ℕ} {read : RuntimeRxRead}
    (h : readRxPackets session channel buffer timeout = .ok (.ok read, buffer', session')) :
    ∀ parsed ∈ read.packets,
      ∃ offset, parseRxPacket ((buffer'.bytes.take read.bytesRead).drop offset) channel = .ok parsed := by
  unfold readRxPackets at h
  split at h
  · cases h
  split at h
  · cases h
  · obtain ⟨⟨counters, packets⟩, hloop, h⟩ := except_bind_ok h
    cases h
    exact fun parsed hparsed => (rxLoop_parsed hloop parsed hparsed).resolve_left List.not_mem_nil

namespace BulkRead

variable (read : BulkRead) {parsed : ParsedRxPacket}

/-- **The packets of a bulk read** are parse results of suffixes of its bytes. -/
theorem parsed_of_mem (hparsed : parsed ∈ read.read.packets) :
    ∃ offset, parseRxPacket (read.received.drop offset) read.channel = .ok parsed := by
  obtain ⟨τ, _, n, session, session', buffer, buffer', timeout, hread, hreceived⟩ := read.returned
  rw [hreceived]
  exact readRxPackets_parsed hread parsed hparsed

theorem evidence_of_mem (hparsed : parsed ∈ read.read.packets) (hout : parsed.outcome = .frame) :
    ∃ offset w frame, parseRxPacket (read.received.drop offset) read.channel = .ok parsed ∧
      readRxDescWords (read.received.drop offset) = .ok w ∧ parsed.frame = some frame ∧
      SignalEvidence w (read.received.drop offset) frame := by
  obtain ⟨offset, hparse⟩ := read.parsed_of_mem hparsed
  obtain ⟨w, frame, hw, hframe, hevidence⟩ := parseRxPacket_signal hparse hout
  exact ⟨offset, w, frame, hparse, hw, hframe, hevidence⟩

theorem framed_of_mem (hparsed : parsed ∈ read.read.packets) : Framed parsed := by
  intro hout
  obtain ⟨_, _, frame, -, -, hframe, -⟩ := read.evidence_of_mem hparsed hout
  rw [hframe]
  rfl

theorem ranked_of_mem {frame : RxFrame} (hframe : frame ∈ receivedFrames read.read.packets) : Ranked frame := by
  obtain ⟨parsed, hparsed, hreceived⟩ := List.mem_filterMap.1 hframe
  cases hout : parsed.outcome with
  | frame =>
    obtain ⟨_, _, frame', -, -, hframe', hevidence⟩ := read.evidence_of_mem hparsed hout
    simp only [receivedFrame, hout, hframe', Option.some.injEq] at hreceived
    exact hreceived ▸ ranked_of_evidence hevidence
  | drop => simp [receivedFrame, hout] at hreceived
  | needMoreData => simp [receivedFrame, hout] at hreceived

end BulkRead

end WfbLink.Runtime
