/-
The signal evidence of many reads, with overflow checks.

The processing of reads is total but for the averages of the signal metrics, which can overflow. `Passes` says of a
checked step that it is the step without checks, or stopped by one; the steps that average pass iff their averages are
in range, and so does the processing of any number of reads.

- `processReadsChecked_passes`: the processing is stopped iff one of the averages on the way is out of range.
- `rxSignal_sound_iff`: so the evidence of any bulk buffers is sound exactly if none is.
-/
import WfbLink.Runtime.SignalMetric

namespace WfbLink.Runtime

open WfbLink.Core WfbLink.RadioCore WfbLink.Bridge

/-! ## The processing -/

/-- `observe_frame` with overflow checks -/
def RuntimeRxSignalSummary.observeFrameChecked (summary : RuntimeRxSignalSummary) (frame : RxFrame) :
    Checked RuntimeRxSignalSummary := do
  let rssiDbm ← (if frame.rssiDbmValid then summary.rssiDbm.observeChecked frame.rssiDbm else pure summary.rssiDbm)
  let snrDb ← frame.snrDb.elim (pure summary.snrDb) summary.snrDb.observeChecked
  let noiseDbm ← frame.noiseDbm.elim (pure summary.noiseDbm) summary.noiseDbm.observeChecked
  return { rssiDbm, snrDb, noiseDbm }

/-- `merge` with overflow checks -/
def RuntimeRxSignalSummary.mergeChecked (summary other : RuntimeRxSignalSummary) :
    Checked RuntimeRxSignalSummary := do
  let rssiDbm ← summary.rssiDbm.mergeChecked other.rssiDbm
  let snrDb ← summary.snrDb.mergeChecked other.snrDb
  let noiseDbm ← summary.noiseDbm.mergeChecked other.noiseDbm
  return { rssiDbm, snrDb, noiseDbm }

def countProductionRxMetadataChecked (telemetry : ProductionRuntimeRxPacketTelemetry) (frame : RxFrame) :
    Checked ProductionRuntimeRxPacketTelemetry := do
  let signal ← telemetry.signal.observeFrameChecked frame
  return { countProductionRxMetadata telemetry frame with signal }

def applyProductionRuntimeRxPacketTelemetryChecked (rx : RuntimeFlowRxTelemetry)
    (telemetry : ProductionRuntimeRxPacketTelemetry) : Checked RuntimeFlowRxTelemetry := do
  let signal ← rx.signal.mergeChecked telemetry.signal
  return { applyProductionRuntimeRxPacketTelemetry rx telemetry with signal }

section Process

variable {ω : Type} [DatagramHost ω]

def processPacketChecked (s : RxProcessing ω) (parsed : ParsedRxPacket) :
    Checked (Except RuntimeRadioError Unit × RxProcessing ω) :=
  match parsed.outcome with
  | .frame => do
    let frame ← expect "frame outcome includes frame" parsed.frame
    let telemetry := { s.telemetry with parsedFrames := satAdd s.telemetry.parsedFrames 1 }
    let telemetry ← countProductionRxMetadataChecked telemetry frame
    let telemetry ← countProductionRxFrameType telemetry frame.data
    let observations ← observeRuntimeWfbChannelId telemetry.wfbChannelObservations frame.data
    let telemetry := { telemetry with wfbChannelObservations := observations }
    let (result, rxForwards, host) ← processProductionWfbRxForwards s.rxForwards frame s.host
    return (result, { telemetry, rxForwards, host })
  | .drop | .needMoreData => processPacket s parsed

def processPacketsChecked (s : RxProcessing ω) :
    List ParsedRxPacket → Checked (Except RuntimeRadioError Unit × RxProcessing ω)
  | [] => return (.ok (), s)
  | parsed :: packets => do
    match ← processPacketChecked s parsed with
    | (.error error, s) => return (.error error, s)
    | (.ok (), s) => processPacketsChecked s packets

def processProductionRxPacketOutcomesChecked (packets : List ParsedRxPacket)
    (rxForwards : List ProductionRuntimeRxForwardRuntime) (host : ω) :
    Checked (Except RuntimeRadioError ProductionRuntimeRxPacketOutcome ×
      List ProductionRuntimeRxForwardRuntime × ω) := do
  match ← processPacketsChecked { telemetry := {}, rxForwards, host } packets with
  | (.error error, s) => return (.error error, s.rxForwards, s.host)
  | (.ok (), s) =>
    return (.ok { telemetry := s.telemetry, rxForwards := productionRxForwardSnapshots s.rxForwards },
      s.rxForwards, s.host)

def processReadsChecked (rx : RuntimeFlowRxTelemetry) (rxForwards : List ProductionRuntimeRxForwardRuntime)
    (host : ω) : List (List ParsedRxPacket) →
      Checked (Except RuntimeRadioError Unit × RuntimeFlowRxTelemetry × List ProductionRuntimeRxForwardRuntime × ω)
  | [] => return (.ok (), rx, rxForwards, host)
  | packets :: reads => do
    match ← processProductionRxPacketOutcomesChecked packets rxForwards host with
    | (.error error, rxForwards, host) => return (.error error, rx, rxForwards, host)
    | (.ok outcome, rxForwards, host) =>
      let rx ← applyProductionRuntimeRxPacketTelemetryChecked rx outcome.telemetry
      processReadsChecked rx rxForwards host reads

end Process

/-! ## Checked steps -/

section Passes

variable {α β : Type}

/-- the checked step is the step itself if this holds, and stopped by a check if not -/
structure Passes (fits : Prop) (checked base : Checked α) : Prop where
  same : fits → checked = base
  stopped : ¬fits → ∃ panic, checked = .error panic

namespace Passes

variable {fits fits' : Prop} {checked base : Checked α}

theorem refl (base : Checked α) : Passes True base base := ⟨fun _ => rfl, fun h => absurd trivial h⟩

theorem congr (h : Passes fits checked base) (hiff : fits' ↔ fits) : Passes fits' checked base :=
  ⟨fun hfits => h.same (hiff.1 hfits), fun hfits => h.stopped fun hfits' => hfits (hiff.2 hfits')⟩

/-- a step that returns a value without checks, and what follows it -/
theorem bind {a : α} {f : α → Checked β} {base : Checked β} (h : Passes fits checked (.ok a))
    (hf : Passes fits' (f a) base) : Passes (fits ∧ fits') (checked >>= f) base := by
  constructor
  · rintro ⟨hfits, hfits'⟩
    rw [h.same hfits]
    exact hf.same hfits'
  · intro hnot
    by_cases hfits : fits
    · rw [h.same hfits]
      exact hf.stopped fun hfits' => hnot ⟨hfits, hfits'⟩
    · obtain ⟨panic, hpanic⟩ := h.stopped hfits
      rw [hpanic]
      exact ⟨panic, rfl⟩

/-- what follows has no checks of its own -/
theorem andThen {a : α} {f : α → Checked β} {base : Checked β} (h : Passes fits checked (.ok a))
    (hf : f a = base) : Passes fits (checked >>= f) base := by
  have hlast : Passes True (f a) base := hf ▸ refl (f a)
  exact (h.bind hlast).congr (and_true fits).symm.to_iff

/-- a value is returned iff the checks pass, and then it is that without checks -/
theorem ok_iff (h : Passes fits checked base) {a : α} : checked = .ok a ↔ fits ∧ base = .ok a := by
  by_cases hfits : fits
  · rw [h.same hfits]
    exact (and_iff_right hfits).symm
  · obtain ⟨panic, hpanic⟩ := h.stopped hfits
    rw [hpanic]
    exact iff_of_false nofun fun hboth => hfits hboth.1

end Passes

end Passes

/-! ## Averages in range -/

def signalMetrics : List SignalMetric := [rssiMetric, snrMetric, noiseMetric]

theorem forall_signalMetrics {P : SignalMetric → Prop} :
    (∀ m ∈ signalMetrics, P m) ↔ P rssiMetric ∧ P snrMetric ∧ P noiseMetric := by
  simp [signalMetrics]

def RuntimeRxSignalMetric.AverageInRange (metric : RuntimeRxSignalMetric) : Prop :=
  Runtime.AverageInRange metric.sum metric.sampleCount.toNat

/-- the averages while these samples are observed -/
def ObservesInRange : RuntimeRxSignalMetric → List Int8 → Prop
  | _, [] => True
  | metric, value :: samples => (metric.observe value).AverageInRange ∧ ObservesInRange (metric.observe value) samples

def MergesInRange (metric other : RuntimeRxSignalMetric) : Prop :=
  other.sampleCount ≠ 0 → (metric.merge other).AverageInRange

/-- the averages while the metrics of these reads are recorded and merged -/
def ReadsInRange : RuntimeRxSignalMetric → List (List Int8) → Prop
  | _, [] => True
  | metric, samples :: reads =>
    ObservesInRange {} samples ∧ MergesInRange metric (readMetric samples) ∧
      ReadsInRange (metric.merge (readMetric samples)) reads

theorem observesInRange_append {metric : RuntimeRxSignalMetric} {a b : List Int8} :
    ObservesInRange metric (a ++ b) ↔
      ObservesInRange metric a ∧ ObservesInRange (a.foldl RuntimeRxSignalMetric.observe metric) b := by
  induction a generalizing metric with
  | nil => exact (true_and _).symm.to_iff
  | cons value a ih =>
    rw [List.cons_append, ObservesInRange, ObservesInRange, ih, List.foldl_cons, and_assoc]

/-- an average that is already in place -/
theorem averageChecked_passes {metric : RuntimeRxSignalMetric}
    (h : metric.average = some (roundedAverageI64 metric.sum metric.sampleCount)) :
    Passes metric.AverageInRange metric.averageChecked (.ok metric) where
  same hrange := by
    rw [RuntimeRxSignalMetric.averageChecked, roundedAverageChecked_of_range hrange, checked_bind_ok, ← h]
    rfl
  stopped hrange := by
    rw [RuntimeRxSignalMetric.averageChecked, roundedAverageChecked_of_not hrange]
    exact ⟨_, rfl⟩

theorem observeChecked_passes (metric : RuntimeRxSignalMetric) (value : Int8) :
    Passes (ObservesInRange metric [value]) (metric.observeChecked value) (.ok (metric.observe value)) :=
  (averageChecked_passes rfl).congr (and_true _).to_iff

theorem mergeChecked_passes (metric other : RuntimeRxSignalMetric) :
    Passes (MergesInRange metric other) (metric.mergeChecked other) (.ok (metric.merge other)) := by
  unfold RuntimeRxSignalMetric.mergeChecked MergesInRange
  by_cases hzero : other.sampleCount = 0
  · rw [if_pos hzero, RuntimeRxSignalMetric.merge, if_pos hzero]
    exact (Passes.refl _).congr (iff_true_intro fun h => absurd hzero h)
  · have haverage : (metric.merge other).average =
        some (roundedAverageI64 (metric.merge other).sum (metric.merge other).sampleCount) := by
      rw [RuntimeRxSignalMetric.merge, if_neg hzero]
    rw [if_neg hzero]
    exact (averageChecked_passes haverage).congr ⟨fun h => h hzero, fun h _ => h⟩

/-- an optional sample -/
theorem elimChecked_passes (metric : RuntimeRxSignalMetric) (value : Option Int8) :
    Passes (ObservesInRange metric value.toList) (value.elim (pure metric) metric.observeChecked)
      (.ok (value.elim metric metric.observe)) := by
  cases value with
  | none => exact Passes.refl _
  | some value => exact observeChecked_passes metric value

theorem observeFrameChecked_passes (summary : RuntimeRxSignalSummary) (frame : RxFrame) :
    Passes (∀ m ∈ signalMetrics, ObservesInRange (m.metric summary) (m.sample frame).toList)
      (summary.observeFrameChecked frame) (.ok (summary.observeFrame frame)) := by
  have hrssi : Passes (ObservesInRange summary.rssiDbm (rssiMetric.sample frame).toList)
      (if frame.rssiDbmValid then summary.rssiDbm.observeChecked frame.rssiDbm else pure summary.rssiDbm)
      (.ok (if frame.rssiDbmValid then summary.rssiDbm.observe frame.rssiDbm else summary.rssiDbm)) := by
    cases hvalid : frame.rssiDbmValid with
    | false =>
      rw [show rssiMetric.sample frame = none by simp [rssiMetric, hvalid]]
      exact Passes.refl _
    | true =>
      rw [show rssiMetric.sample frame = some frame.rssiDbm by simp [rssiMetric, hvalid]]
      exact observeChecked_passes _ _
  refine Passes.congr ?_ forall_signalMetrics
  exact hrssi.bind ((elimChecked_passes summary.snrDb frame.snrDb).bind
    ((elimChecked_passes summary.noiseDbm frame.noiseDbm).andThen rfl))

theorem summaryMergeChecked_passes (summary other : RuntimeRxSignalSummary) :
    Passes (∀ m ∈ signalMetrics, MergesInRange (m.metric summary) (m.metric other)) (summary.mergeChecked other)
      (.ok (summary.merge other)) := by
  refine Passes.congr ?_ forall_signalMetrics
  exact (mergeChecked_passes _ _).bind ((mergeChecked_passes _ _).bind ((mergeChecked_passes _ _).andThen rfl))

theorem countMetadataChecked_passes (telemetry : ProductionRuntimeRxPacketTelemetry) (frame : RxFrame) :
    Passes (∀ m ∈ signalMetrics, ObservesInRange (m.metric telemetry.signal) (m.sample frame).toList)
      (countProductionRxMetadataChecked telemetry frame) (.ok (countProductionRxMetadata telemetry frame)) :=
  (observeFrameChecked_passes telemetry.signal frame).andThen rfl

theorem applyChecked_passes (rx : RuntimeFlowRxTelemetry) (telemetry : ProductionRuntimeRxPacketTelemetry) :
    Passes (∀ m ∈ signalMetrics, MergesInRange (m.metric rx.signal) (m.metric telemetry.signal))
      (applyProductionRuntimeRxPacketTelemetryChecked rx telemetry)
      (.ok (applyProductionRuntimeRxPacketTelemetry rx telemetry)) :=
  (summaryMergeChecked_passes rx.signal telemetry.signal).andThen rfl

/-! ## Reads in range -/

section Process

variable {ω : Type} [DatagramHost ω]

theorem samples_one {m : SignalMetric} {parsed : ParsedRxPacket} {frame : RxFrame}
    (hframe : receivedFrame parsed = some frame) : m.samples [parsed] = (m.sample frame).toList := by
  simp only [SignalMetric.samples, receivedFrames, List.filterMap_cons, List.filterMap_nil, hframe]
  cases m.sample frame <;> rfl

theorem samples_none {m : SignalMetric} {parsed : ParsedRxPacket} (h : receivedFrame parsed = none) :
    m.samples [parsed] = [] := by
  simp only [SignalMetric.samples, receivedFrames, List.filterMap_cons, List.filterMap_nil, h]

theorem samples_cons (m : SignalMetric) (parsed : ParsedRxPacket) (packets : List ParsedRxPacket) :
    m.samples (parsed :: packets) = m.samples [parsed] ++ m.samples packets := by
  rw [SignalMetric.samples, receivedFrames_cons, List.filterMap_append]
  rfl

theorem processPacketChecked_passes (s : RxProcessing ω) {parsed : ParsedRxPacket} (hframed : Framed parsed) :
    Passes (∀ m ∈ signalMetrics, ObservesInRange (m.metric s.telemetry.signal) (m.samples [parsed]))
      (processPacketChecked s parsed) (processPacket s parsed) := by
  cases hout : parsed.outcome with
  | frame =>
    obtain ⟨frame, hframe⟩ := Option.isSome_iff_exists.1 (hframed hout)
    have hreceived : receivedFrame parsed = some frame := by simp only [receivedFrame, hout, hframe]
    have hexpect : expect "frame outcome includes frame" (some frame) = .ok frame := rfl
    simp only [samples_one hreceived, processPacketChecked, processPacket, hout, hframe, hexpect, checked_bind_ok]
    exact (countMetadataChecked_passes { s.telemetry with
      parsedFrames := satAdd s.telemetry.parsedFrames 1 } frame).andThen rfl
  | drop =>
    have hnone : receivedFrame parsed = none := by simp only [receivedFrame, hout]
    simp only [samples_none hnone, processPacketChecked, hout]
    exact (Passes.refl _).congr (iff_true_intro fun _ _ => trivial)
  | needMoreData =>
    have hnone : receivedFrame parsed = none := by simp only [receivedFrame, hout]
    simp only [samples_none hnone, processPacketChecked, hout]
    exact (Passes.refl _).congr (iff_true_intro fun _ _ => trivial)

/-- the packets of a read; induction on the packets -/
theorem processPacketsChecked_passes (s : RxProcessing ω) {packets : List ParsedRxPacket}
    (hframed : ∀ parsed ∈ packets, Framed parsed) :
    Passes (∀ m ∈ signalMetrics, ObservesInRange (m.metric s.telemetry.signal) (m.samples packets))
      (processPacketsChecked s packets) (processPackets s packets) := by
  induction packets generalizing s with
  | nil => exact (Passes.refl _).congr (iff_true_intro fun _ _ => trivial)
  | cons parsed packets ih =>
    obtain ⟨s₁, hone, hsees⟩ := processPacket_sees s (hframed parsed List.mem_cons_self)
    have hfirst := processPacketChecked_passes s (hframed parsed List.mem_cons_self)
    have hrest := ih s₁ fun r hr => hframed r (List.mem_cons_of_mem _ hr)
    have hsignal (m : SignalMetric) : m.metric s₁.telemetry.signal =
        (m.samples [parsed]).foldl RuntimeRxSignalMetric.observe (m.metric s.telemetry.signal) := by
      rw [hsees.signal, m.metric_frames]
      rfl
    rw [hone] at hfirst
    have hbase : processPackets s (parsed :: packets) = processPackets s₁ packets := by
      rw [processPackets, hone]
      rfl
    rw [hbase, processPacketsChecked]
    refine (hfirst.bind hrest).congr ?_
    simp only [samples_cons _ parsed packets, observesInRange_append, hsignal]
    exact forall₂_and

theorem processOutcomesChecked_passes {packets : List ParsedRxPacket} (hframed : ∀ parsed ∈ packets, Framed parsed)
    (rxForwards : List ProductionRuntimeRxForwardRuntime) (host : ω) :
    Passes (∀ m ∈ signalMetrics, ObservesInRange {} (m.samples packets))
      (processProductionRxPacketOutcomesChecked packets rxForwards host)
      (processProductionRxPacketOutcomes packets rxForwards host) := by
  obtain ⟨s', hrun, -⟩ := processPackets_sees { telemetry := {}, rxForwards, host } hframed
  have hpackets := processPacketsChecked_passes { telemetry := {}, rxForwards, host } hframed
  rw [hrun] at hpackets
  have hempty (m : SignalMetric) : m.metric ({} : ProductionRuntimeRxPacketTelemetry).signal = {} := m.metric_empty
  rw [processProductionRxPacketOutcomes, hrun]
  refine (hpackets.andThen rfl).congr ?_
  simp only [hempty]

/-- **Reads are processed** unless an average is out of range; induction on the reads. -/
theorem processReadsChecked_passes (rx : RuntimeFlowRxTelemetry)
    (rxForwards : List ProductionRuntimeRxForwardRuntime) (host : ω) {reads : List (List ParsedRxPacket)}
    (hframed : ∀ packets ∈ reads, ∀ parsed ∈ packets, Framed parsed) :
    Passes (∀ m ∈ signalMetrics, ReadsInRange (m.metric rx.signal) (reads.map m.samples))
      (processReadsChecked rx rxForwards host reads) (processReads rx rxForwards host reads) := by
  induction reads generalizing rx rxForwards host with
  | nil => exact (Passes.refl _).congr (iff_true_intro fun _ _ => trivial)
  | cons packets reads ih =>
    have hpackets := hframed packets List.mem_cons_self
    obtain ⟨outcome, rxForwards₁, host₁, hone, hsees⟩ := processOutcomes_sees hpackets rxForwards host
    have hfirst := processOutcomesChecked_passes hpackets rxForwards host
    have hrest := ih (applyProductionRuntimeRxPacketTelemetry rx outcome.telemetry) rxForwards₁ host₁
      fun r hr => hframed r (List.mem_cons_of_mem _ hr)
    have hread (m : SignalMetric) : m.metric outcome.telemetry.signal = readMetric (m.samples packets) := by
      have hempty : m.metric ({} : ProductionRuntimeRxPacketTelemetry).signal = {} := m.metric_empty
      rw [hsees.signal, m.metric_frames, hempty]
      rfl
    have hmerged (m : SignalMetric) : m.metric (applyProductionRuntimeRxPacketTelemetry rx outcome.telemetry).signal =
        (m.metric rx.signal).merge (readMetric (m.samples packets)) := by
      rw [applyProductionRuntimeRxPacketTelemetry, m.metric_merge, hread]
    rw [hone] at hfirst
    have hbase : processReads rx rxForwards host (packets :: reads) =
        processReads (applyProductionRuntimeRxPacketTelemetry rx outcome.telemetry) rxForwards₁ host₁ reads := by
      rw [processReads, hone]
      rfl
    rw [hbase, processReadsChecked]
    refine (hfirst.bind ((applyChecked_passes rx outcome.telemetry).bind hrest)).congr ?_
    simp only [List.map_cons, ReadsInRange, hmerged, hread, forall₂_and]

end Process

/-- the average of these samples is within an `i64` all the way -/
def InRange (samples : List Int8) : Prop := AverageInRange (sampleSum samples) samples.length

theorem inRange_nil : InRange [] := by
  change |(0 : ℤ)| + _ < _
  norm_num

/-- every average on the way is in range: of what a read has seen, and of the reads that were merged -/
structure AveragesFit (reads : List (List Int8)) : Prop where
  read : ∀ samples ∈ reads, ∀ seen, seen <+: samples → InRange seen
  run : ∀ seen, seen <+: reads → InRange seen.flatten

theorem Sampled.inRange_iff {metric : RuntimeRxSignalMetric} {samples : List Int8} (h : Sampled metric samples) :
    metric.AverageInRange ↔ InRange samples := by
  rw [RuntimeRxSignalMetric.AverageInRange, h.sum, h.count]
  rfl

/-- what is observed behind earlier samples; induction on the samples -/
theorem observesInRange_iff {metric : RuntimeRxSignalMetric} {earlier samples : List Int8}
    (hsampled : Sampled metric earlier) (hcount : (earlier ++ samples).length ≤ u64Max)
    (hsum : ∀ seen, seen <+: samples → InI64 (sampleSum (earlier ++ seen))) :
    ObservesInRange metric samples ↔ ∀ seen, seen <+: samples → seen ≠ [] → InRange (earlier ++ seen) := by
  induction samples generalizing metric earlier with
  | nil => exact iff_of_true trivial fun seen hseen hne => absurd (List.prefix_nil.1 hseen) hne
  | cons value samples ih =>
    have hone : [value] <+: value :: samples := ⟨samples, rfl⟩
    have hlength : (earlier ++ value :: samples).length = earlier.length + samples.length + 1 := by
      rw [List.length_append, List.length_cons]
      omega
    have hobserved : Sampled (metric.observe value) (earlier ++ [value]) := by
      rw [observe_eq_merge]
      exact hsampled.merge (sampled_one value) (by rw [List.length_singleton]; omega) (hsum _ hone)
    have hsplit (seen : List Int8) : earlier ++ [value] ++ seen = earlier ++ value :: seen := by simp
    have hrest := ih hobserved (by rwa [hsplit]) fun seen hseen => by
      rw [hsplit]
      exact hsum _ (List.cons_prefix_cons.2 ⟨rfl, hseen⟩)
    rw [ObservesInRange, hobserved.inRange_iff, hrest]
    constructor
    · rintro ⟨hfirst, hlater⟩ seen hseen hne
      obtain rfl | ⟨others, rfl, hothers⟩ := List.prefix_cons_iff.1 hseen
      · exact absurd rfl hne
      · by_cases hempty : others = []
        · rw [hempty]
          exact hfirst
        · rw [← hsplit]
          exact hlater others hothers hempty
    · intro h
      refine ⟨h _ hone (List.cons_ne_nil _ _), fun seen hseen _ => ?_⟩
      rw [hsplit]
      exact h _ (List.cons_prefix_cons.2 ⟨rfl, hseen⟩) (List.cons_ne_nil _ _)

/-- a read by itself -/
theorem readInRange_iff {samples : List Int8} (hcount : samples.length ≤ u64Max)
    (hsum : ∀ seen, seen <+: samples → InI64 (sampleSum seen)) :
    ObservesInRange {} samples ↔ ∀ seen, seen <+: samples → InRange seen := by
  rw [observesInRange_iff sampled_nil hcount hsum]
  constructor
  · intro h seen hseen
    by_cases hempty : seen = []
    · rw [hempty]
      exact inRange_nil
    · exact h seen hseen hempty
  · exact fun h seen hseen _ => h seen hseen

/-- the reads behind earlier ones; induction on the reads -/
theorem readsInRange_iff {metric : RuntimeRxSignalMetric} {earlier reads : List (List Int8)}
    (hsampled : Sampled metric earlier.flatten) (hfits : Unsaturated (earlier ++ reads))
    (hrange : InRange earlier.flatten) :
    ReadsInRange metric reads ↔ (∀ samples ∈ reads, ∀ seen, seen <+: samples → InRange seen) ∧
      ∀ seen, seen <+: reads → InRange (earlier ++ seen).flatten := by
  induction reads generalizing metric earlier with
  | nil =>
    refine iff_of_true trivial ⟨nofun, fun seen hseen => ?_⟩
    rwa [List.prefix_nil.1 hseen, List.append_nil]
  | cons samples reads ih =>
    have hone : [samples] <+: samples :: reads := ⟨reads, rfl⟩
    have hsplit (seen : List (List Int8)) : earlier ++ [samples] ++ seen = earlier ++ samples :: seen := by simp
    have hflatten : (earlier ++ [samples]).flatten = earlier.flatten ++ samples := by simp
    have hcount := hfits.count
    simp only [List.flatten_append, List.flatten_cons, List.length_append] at hcount
    have hreadSum := hfits.read samples (by simp)
    have hread := sampled_read (by omega) hreadSum
    have hsum := hfits.run (earlier ++ [samples]) ⟨reads, hsplit reads⟩
    have hmerged : Sampled (metric.merge (readMetric samples)) (earlier ++ [samples]).flatten := by
      rw [hflatten] at hsum ⊢
      exact hsampled.merge hread (by omega) hsum
    have hmerge : MergesInRange metric (readMetric samples) ↔ InRange (earlier ++ [samples]).flatten := by
      unfold MergesInRange
      rw [hmerged.inRange_iff]
      refine ⟨fun h => ?_, fun h _ => h⟩
      by_cases hempty : samples = []
      · rwa [hflatten, hempty, List.append_nil]
      · refine h fun hzero => hempty ?_
        rw [← List.length_eq_zero_iff, ← hread.count, hzero]
        rfl
    rw [ReadsInRange, readInRange_iff (by omega) hreadSum, hmerge, List.forall_mem_cons]
    constructor
    · rintro ⟨hfirst, hnow, hlater⟩
      rw [ih hmerged (by rwa [hsplit]) hnow] at hlater
      refine ⟨⟨hfirst, hlater.1⟩, fun seen hseen => ?_⟩
      obtain rfl | ⟨others, rfl, hothers⟩ := List.prefix_cons_iff.1 hseen
      · rwa [List.append_nil]
      · rw [← hsplit]
        exact hlater.2 others hothers
    · rintro ⟨⟨hfirst, hothers⟩, hrun⟩
      have hnow := hrun _ hone
      refine ⟨hfirst, hnow, (ih hmerged (by rwa [hsplit]) hnow).2 ⟨hothers, fun seen hseen => ?_⟩⟩
      rw [hsplit]
      exact hrun _ (List.cons_prefix_cons.2 ⟨rfl, hseen⟩)

theorem averagesFit_iff {reads : List (List Int8)} (hfits : Unsaturated reads) :
    ReadsInRange {} reads ↔ AveragesFit reads := by
  rw [readsInRange_iff (show Sampled {} ([] : List (List Int8)).flatten from sampled_nil) hfits inRange_nil]
  exact ⟨fun h => ⟨h.1, h.2⟩, fun h => ⟨h.read, h.run⟩⟩

/-- so many samples leave room for their sum and for half of their number -/
theorem averagesFit_of_few {reads : List (List Int8)}
    (h : 128 * reads.flatten.length + reads.flatten.length / 2 < 2 ^ 63) : AveragesFit reads := by
  have hfits (samples : List Int8) (hlen : samples.length ≤ reads.flatten.length) : InRange samples := by
    obtain ⟨hlo, hhi⟩ := sampleSum_bounds samples
    have habs : |sampleSum samples| ≤ 128 * samples.length := abs_le.2 ⟨by omega, by omega⟩
    unfold InRange AverageInRange
    omega
  constructor
  · intro samples hmem seen hseen
    exact hfits seen (hseen.length_le.trans (List.sublist_flatten_of_mem hmem).length_le)
  · intro seen hseen
    exact hfits _ (List.IsPrefix.flatten hseen).length_le

/-! ## Bulk buffers -/

/-- Bulk reads of any bytes are processed without a panic or an error, every frame says about its signal what its
descriptor and the PHY status behind it show, the counters of the telemetry agree with each other and with its metrics,
and each average lies between the smallest and the largest sample. -/
def SignalSound {ω : Type} [DatagramHost ω] (reads : List BulkRead)
    (rxForwards : List ProductionRuntimeRxForwardRuntime) (host : ω) : Prop :=
  ∃ rx rxForwards' host',
    processReadsChecked {} rxForwards host (reads.map (·.read.packets)) = .ok (.ok (), rx, rxForwards', host') ∧
    (∀ read ∈ reads, ∀ parsed ∈ read.read.packets, parsed.outcome = .frame →
      ∃ offset w frame, parseRxPacket (read.received.drop offset) read.channel = .ok parsed ∧
        readRxDescWords (read.received.drop offset) = .ok w ∧ parsed.frame = some frame ∧
        SignalEvidence w (read.received.drop offset) frame) ∧
    rx.Counted ∧ rx.signal.rssiDbm.Ordered ∧ rx.signal.snrDb.Ordered ∧ rx.signal.noiseDbm.Ordered

section Sound

variable {ω : Type} [DatagramHost ω] {reads : List BulkRead}

theorem framed_reads (reads : List BulkRead) :
    ∀ packets ∈ reads.map (·.read.packets), ∀ parsed ∈ packets, Framed parsed :=
  List.forall_mem_map.2 fun read _ _ hparsed => read.framed_of_mem hparsed

/-- the processing returns iff the averages fit -/
theorem processed_iff (rxForwards : List ProductionRuntimeRxForwardRuntime) (host : ω)
    (hfits : ∀ m ∈ signalMetrics, Unsaturated (reads.map fun read => m.samples read.read.packets)) :
    Passes (∀ m ∈ signalMetrics, AveragesFit (reads.map fun read => m.samples read.read.packets))
      (processReadsChecked {} rxForwards host (reads.map (·.read.packets)))
      (processReads {} rxForwards host (reads.map (·.read.packets))) := by
  refine (processReadsChecked_passes {} rxForwards host (framed_reads reads)).congr (forall₂_congr fun m hm => ?_)
  have hempty : m.metric ({} : RuntimeFlowRxTelemetry).signal = {} := m.metric_empty
  have hsamples : (reads.map (·.read.packets)).map m.samples = reads.map fun read => m.samples read.read.packets := by
    rw [List.map_map]
    rfl
  rw [hempty, hsamples, averagesFit_iff (hfits m hm)]

theorem SignalSound.averagesFit {rxForwards : List ProductionRuntimeRxForwardRuntime} {host : ω}
    (h : SignalSound reads rxForwards host)
    (hfits : ∀ m ∈ signalMetrics, Unsaturated (reads.map fun read => m.samples read.read.packets)) :
    ∀ m ∈ signalMetrics, AveragesFit (reads.map fun read => m.samples read.read.packets) := by
  obtain ⟨rx, rxForwards', host', hprocess, -⟩ := h
  exact ((processed_iff rxForwards host hfits).ok_iff.1 hprocess).1

/-- **Signal evidence is sound**, unless a counter saturates, exactly if no average overflows on the way. -/
theorem rxSignal_sound_iff (rxForwards : List ProductionRuntimeRxForwardRuntime) (host : ω)
    (hfits : ∀ m ∈ signalMetrics, Unsaturated (reads.map fun read => m.samples read.read.packets)) :
    SignalSound reads rxForwards host ↔
      ∀ m ∈ signalMetrics, AveragesFit (reads.map fun read => m.samples read.read.packets) := by
  refine ⟨fun h => h.averagesFit hfits, fun havg => ?_⟩
  obtain ⟨rx, rxForwards', host', hprocess, haccumulates⟩ :=
    processReads_accumulates {} rxForwards host (framed_reads reads)
  have hranked : ∀ packets ∈ reads.map (·.read.packets), ∀ frame ∈ receivedFrames packets, Ranked frame :=
    List.forall_mem_map.2 fun read _ _ hframe => read.ranked_of_mem hframe
  have hordered (m : SignalMetric) (hm : m ∈ signalMetrics) : (m.metric rx.signal).Ordered := by
    have hsamples : (reads.map fun read => m.samples read.read.packets) = (reads.map (·.read.packets)).map m.samples := by
      rw [List.map_map]
      rfl
    have hunsaturated := hfits m hm
    have hrun := (havg m hm).run _ (List.prefix_refl _)
    rw [hsamples] at hunsaturated hrun
    exact (haccumulates.sampled m hunsaturated).ordered hrun
  obtain ⟨hrssi, hsnr, hnoise⟩ := forall_signalMetrics.1 hordered
  refine ⟨rx, rxForwards', host', (processed_iff rxForwards host hfits).ok_iff.2 ⟨havg, hprocess⟩,
    fun read _ parsed hparsed hout => read.evidence_of_mem hparsed hout, ?_, hrssi, hsnr, hnoise⟩
  exact haccumulates.counted counted_empty hranked

end Sound

/-- a frame of 10 bytes behind 32 bytes of PHY status, which begins with the gains of both paths -/
def signalBytes (gainA gainB snrA snrB : UInt8) : List UInt8 :=
  [14, 0, 4, 4] ++ List.replicate 8 0 ++ [4] ++ List.replicate 11 0 ++ [gainA, gainB] ++ List.replicate 13 0 ++
    [snrA, snrB] ++ List.replicate 15 0 ++ List.replicate 14 0

/-- the better path is B -/
def sampleBulkRead : BulkRead where
  channel := ⟨36, 5180, .ghz5⟩
  received := signalBytes 60 70 40 50
  read := _
  returned := by
    refine ⟨LoopbackUsb, inferInstance, 128, loopbackSession (signalBytes 60 70 40 50) {}, _,
      ByteBuf.zeroed 128 (by decide), _, 0,
      readRxPackets_ok (loopbackSession_receives (by decide) _ (ByteBuf.zeroed 128 (by decide)) 0) _, ?_⟩
    decide +kernel

theorem rxSignal_sound_sample : SignalSound [sampleBulkRead] [] (QuietHost.mk 0) := by
  have hfew : ∀ m ∈ signalMetrics,
      ([sampleBulkRead].map fun read => m.samples read.read.packets).flatten.length ≤ 1 := by
    rw [forall_signalMetrics]
    refine ⟨?_, ?_, ?_⟩ <;> decide +kernel
  refine (rxSignal_sound_iff [] (QuietHost.mk 0) fun m hm => ?_).2 fun m hm => ?_
  · exact unsaturated_of_few ((hfew m hm).trans (by norm_num))
  · have hone := hfew m hm
    exact averagesFit_of_few (by omega)

/-- the weakest signal, far above the noise -/
def weakBulkRead : BulkRead where
  channel := ⟨36, 5180, .ghz5⟩
  received := signalBytes 0 0 34 34
  read := _
  returned := by
    refine ⟨LoopbackUsb, inferInstance, 128, loopbackSession (signalBytes 0 0 34 34) {}, _,
      ByteBuf.zeroed 128 (by decide), _, 0,
      readRxPackets_ok (loopbackSession_receives (by decide) _ (ByteBuf.zeroed 128 (by decide)) 0) _, ?_⟩
    decide +kernel

theorem weakBulkRead_samples : rssiMetric.samples weakBulkRead.read.packets = [-110] ∧
    snrMetric.samples weakBulkRead.read.packets = [17] ∧ noiseMetric.samples weakBulkRead.read.packets = [-127] := by
  refine ⟨?_, ?_, ?_⟩ <;> decide +kernel

/-- many reads of one sample -/
theorem unsaturated_replicate {n : ℕ} {value : Int8} (hvalue : |value.toInt| ≤ 127) (hn : 127 * n < 2 ^ 63) :
    Unsaturated (List.replicate n [value]) := by
  have hfits (k : ℕ) (hk : k ≤ n) : InI64 (sampleSum (List.replicate k value)) := by
    rw [sampleSum_replicate]
    have hbound : |(k : ℤ) * value.toInt| ≤ 127 * n := by
      rw [abs_mul, Nat.abs_cast, mul_comm 127]
      exact mul_le_mul (by exact_mod_cast hk) hvalue (abs_nonneg _) (by positivity)
    obtain ⟨hlo, hhi⟩ := abs_le.1 hbound
    exact ⟨by omega, by omega⟩
  have hflatten (k : ℕ) : (List.replicate k [value]).flatten = List.replicate k value := by simp
  refine ⟨?_, fun samples hmem seen hseen => ?_, fun seen hseen => ?_⟩
  · rw [hflatten, List.length_replicate]
    unfold u64Max
    omega
  · obtain ⟨hpos, rfl⟩ := List.mem_replicate.1 hmem
    have hone := List.prefix_replicate_iff.1 (show seen <+: List.replicate 1 value from hseen)
    rw [hone.2]
    exact hfits _ (by omega)
  · have hmany := List.prefix_replicate_iff.1 hseen
    rw [hmany.2, hflatten]
    exact hfits _ hmany.1

/-- the weak signal, received that many times -/
def weakReads : List BulkRead := List.replicate 72500000000000000 weakBulkRead

/-- no counter saturates, and the average of the noise overflows -/
theorem rxSignal_overflows :
    (∀ m ∈ signalMetrics, Unsaturated (weakReads.map fun read => m.samples read.read.packets)) ∧
      ¬SignalSound weakReads [] (QuietHost.mk 0) := by
  obtain ⟨hrssi, hsnr, hnoise⟩ := weakBulkRead_samples
  have hsamples (m : SignalMetric) : (weakReads.map fun read => m.samples read.read.packets) =
      List.replicate 72500000000000000 (m.samples weakBulkRead.read.packets) := List.map_replicate
  have hfits : ∀ m ∈ signalMetrics, Unsaturated (weakReads.map fun read => m.samples read.read.packets) := by
    rw [forall_signalMetrics, hsamples, hsamples, hsamples, hrssi, hsnr, hnoise]
    exact ⟨unsaturated_replicate (by decide) (by norm_num), unsaturated_replicate (by decide) (by norm_num),
      unsaturated_replicate (by decide) (by norm_num)⟩
  refine ⟨hfits, fun hsound => ?_⟩
  have hrange := ((forall_signalMetrics.1 (hsound.averagesFit hfits)).2.2).run _ (List.prefix_refl _)
  rw [hsamples, hnoise] at hrange
  have hflatten (k : ℕ) : (List.replicate k [(-127 : Int8)]).flatten = List.replicate k (-127) := by simp
  rw [hflatten, InRange, sampleSum_replicate, List.length_replicate, AverageInRange] at hrange
  have hvalue : (-127 : Int8).toInt = -127 := rfl
  rw [hvalue] at hrange
  norm_num at hrange

end WfbLink.Runtime
