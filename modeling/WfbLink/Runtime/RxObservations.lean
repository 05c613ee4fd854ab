/-
The WFB channels seen, over many reads.

Every read lists the channel pairs of its own frames, at most 32 of them, and the list is merged into that of the run.
The tallies of `Core/Tally` say what this comes to: merging lists the same pairs in the same order as one pass over all
frames would, but a read that shows more than 32 pairs may have dropped a pair that the run has an entry for.

- `mergedObservations_batched`: the merged list beside the list of one pass.
- `crowded_read_loses_count`: a read of 33 pairs loses a frame.
-/
import WfbLink.Core.Tally
import WfbLink.Runtime.RxReads

namespace WfbLink.Runtime

open WfbLink.Core WfbLink.RadioCore WfbLink.Bridge

/-! ## Observations as tally entries -/

def RuntimeWfbChannelObservation.channels (observation : RuntimeWfbChannelObservation) : ℕ × ℕ :=
  (observation.sourceChannelId, observation.destinationChannelId)

/-- the observation of a pair of channels -/
def wfbObservation (channels : ℕ × ℕ) (count : UInt64) : RuntimeWfbChannelObservation where
  sourceChannelId := channels.1
  sourceChannelIdHex := formatWfbObservedChannelId channels.1
  sourceLinkId := (splitWfbObservedChannelId channels.1).1
  sourceRadioPort := (splitWfbObservedChannelId channels.1).2
  destinationChannelId := channels.2
  destinationChannelIdHex := formatWfbObservedChannelId channels.2
  destinationLinkId := (splitWfbObservedChannelId channels.2).1
  destinationRadioPort := (splitWfbObservedChannelId channels.2).2
  count

theorem zero_satAdd (n : UInt64) : satAdd 0 n = n := by
  apply UInt64.toNat_inj.1
  have h0 : (0 : UInt64).toNat = 0 := rfl
  have hn := n.toNat_lt
  rw [satAdd_toNat, h0, u64Max]
  omega

def observationEntry : TallyEntry (ℕ × ℕ) UInt64 RuntimeWfbChannelObservation where
  key := RuntimeWfbChannelObservation.channels
  entry := wfbObservation
  bump existing count := { existing with count := satAdd existing.count count }
  zero := 0
  add := satAdd
  key_entry _ _ := rfl
  bump_entry _ _ _ := rfl
  zero_add := zero_satAdd

theorem addWfbChannelObservation_eq (observations : List RuntimeWfbChannelObservation)
    (observation : RuntimeWfbChannelObservation) (count : UInt64) :
    addWfbChannelObservation observations observation count =
      tallyAdd wfbMaxChannelObservations observationEntry observations observation count := by
  have hkey : (fun existing : RuntimeWfbChannelObservation =>
      existing.sourceChannelId == observation.sourceChannelId &&
        existing.destinationChannelId == observation.destinationChannelId) =
      fun existing => decide (observationEntry.key existing = observationEntry.key observation) := by
    funext existing
    rw [Bool.eq_iff_iff]
    simp [observationEntry, RuntimeWfbChannelObservation.channels]
  rw [addWfbChannelObservation, tallyAdd, hkey]
  rfl

/-- merging a list of pairs with their counts -/
theorem mergeObservations_entries (target : List RuntimeWfbChannelObservation) (keys : List (ℕ × ℕ))
    (counts : ℕ × ℕ → UInt64) :
    mergeRuntimeWfbChannelObservations target (entries observationEntry keys counts) =
      tallyAll wfbMaxChannelObservations observationEntry target (keys.map fun channels => (channels, counts channels)) := by
  rw [mergeRuntimeWfbChannelObservations, entries, List.foldl_map, tallyAll, List.foldl_map]
  congr 1
  funext tally channels
  exact addWfbChannelObservation_eq _ _ _

/-! ## The pairs of a frame -/

/-- the channels in the addresses of a frame, if both addresses are those of WFB -/
def wfbChannelPair (frame : List UInt8) : Option (ℕ × ℕ) :=
  match runtimeWfbChannelObservation frame with
  | .ok (some observation) => some observation.channels
  | .ok none | .error _ => none

theorem runtimeWfbChannelObservation_eq (frame : List UInt8) :
    runtimeWfbChannelObservation frame = .ok ((wfbChannelPair frame).map fun channels => wfbObservation channels 1) := by
  obtain ⟨observation, hobs⟩ := runtimeWfbChannelObservation_total frame
  rw [wfbChannelPair, hobs]
  cases observation with
  | none => rfl
  | some observation =>
    -- the other fields are computed from the channels
    unfold runtimeWfbChannelObservation at hobs
    split at hobs
    · cases hobs
    · obtain ⟨src, -, hobs⟩ := except_bind_ok hobs
      obtain ⟨dst, -, hobs⟩ := except_bind_ok hobs
      split at hobs
      · cases hobs
      · obtain ⟨source, -, hobs⟩ := except_bind_ok hobs
        obtain ⟨destination, -, hobs⟩ := except_bind_ok hobs
        cases hobs
        rfl

def wfbChannelPairs (frames : List RxFrame) : List (ℕ × ℕ) := frames.filterMap fun frame => wfbChannelPair frame.data

theorem observe_eq (observations : List RuntimeWfbChannelObservation) (frame : List UInt8) :
    observeRuntimeWfbChannelId observations frame =
      .ok (tallyAll wfbMaxChannelObservations observationEntry observations
        ((wfbChannelPair frame).toList.map fun channels => (channels, 1))) := by
  rw [observeRuntimeWfbChannelId, runtimeWfbChannelObservation_eq, checked_bind_ok]
  cases wfbChannelPair frame with
  | none => rfl
  | some channels => exact congrArg Except.ok (addWfbChannelObservation_eq _ _ _)

/-! ## One read -/

theorem Sees.observations {t t' : ProductionRuntimeRxPacketTelemetry} {parsed : ParsedRxPacket} (h : Sees t parsed t') :
    t'.wfbChannelObservations = tallyAll wfbMaxChannelObservations observationEntry t.wfbChannelObservations
      ((wfbChannelPairs (receivedFrames [parsed])).map fun channels => (channels, 1)) := by
  cases h with
  | frame hframe htype hobserve =>
    obtain ⟨_, _, _, _, _, rfl⟩ := countProductionRxFrameType_spec htype
    rw [observe_eq] at hobserve
    rw [← Except.ok.inj hobserve]
    simp only [receivedFrames, wfbChannelPairs, List.filterMap_cons, List.filterMap_nil, hframe]
    cases wfbChannelPair _ <;> rfl
  | drop h => simp [receivedFrames, receivedFrame, h, wfbChannelPairs, tallyAll]
  | needMoreData h => simp [receivedFrames, receivedFrame, h, wfbChannelPairs, tallyAll]

theorem SeesAll.observations {t t' : ProductionRuntimeRxPacketTelemetry} {packets : List ParsedRxPacket}
    (h : SeesAll t packets t') :
    t'.wfbChannelObservations = tallyAll wfbMaxChannelObservations observationEntry t.wfbChannelObservations
      ((wfbChannelPairs (receivedFrames packets)).map fun channels => (channels, 1)) := by
  induction h with
  | nil => rfl
  | @cons t t₁ t₂ parsed packets hone _ ih =>
    have hsplit : wfbChannelPairs (receivedFrames (parsed :: packets)) =
        wfbChannelPairs (receivedFrames [parsed]) ++ wfbChannelPairs (receivedFrames packets) := by
      rw [receivedFrames_cons parsed packets, wfbChannelPairs, List.filterMap_append]
      rfl
    rw [ih, hone.observations, hsplit, List.map_append, tallyAll, tallyAll, tallyAll, List.foldl_append]

/-- **The list of one read**: its first 32 pairs, each with its number of frames. -/
theorem SeesAll.observations_read {t : ProductionRuntimeRxPacketTelemetry} {packets : List ParsedRxPacket}
    (h : SeesAll {} packets t) :
    t.wfbChannelObservations = entries observationEntry
      (tracked wfbMaxChannelObservations (wfbChannelPairs (receivedFrames packets)))
      fun channels => satCount 0 ((wfbChannelPairs (receivedFrames packets)).countP (· = channels)) :=
  h.observations.trans (tallyAll_batch (T := observationEntry) 1 _)

/-! ## Many reads -/

theorem Accumulates.observations {rx rx' : RuntimeFlowRxTelemetry} {reads : List (List ParsedRxPacket)}
    (h : Accumulates rx reads rx') :
    rx'.wfbChannelObservations =
      (reads.map fun packets => wfbChannelPairs (receivedFrames packets)).foldl
        (fun tally pairs => tallyAll wfbMaxChannelObservations observationEntry tally
          (batchTally wfbMaxChannelObservations observationEntry 1 pairs)) rx.wfbChannelObservations := by
  induction h with
  | nil => rfl
  | cons hread _ ih =>
    rw [ih, applyProductionRuntimeRxPacketTelemetry, hread.observations_read, mergeObservations_entries]
    rfl

/-- the frames of a pair that the reads have counted for it -/
def keptCount (reads : List (List (ℕ × ℕ))) (channels : ℕ × ℕ) : ℕ :=
  (reads.map fun pairs =>
    if channels ∈ tracked wfbMaxChannelObservations pairs then pairs.countP (· = channels) else 0).sum

theorem batchedCount_toNat (reads : List (List (ℕ × ℕ))) (channels : ℕ × ℕ) (start : UInt64) :
    (batchedCount wfbMaxChannelObservations observationEntry 1 reads channels start).toNat =
      min (start.toNat + keptCount reads channels) u64Max := by
  have h0 : (0 : UInt64).toNat = 0 := rfl
  induction reads generalizing start with
  | nil =>
    have hstart := start.toNat_lt
    rw [batchedCount, List.foldl_nil, keptCount, List.map_nil, List.sum_nil, u64Max]
    omega
  | cons pairs reads ih =>
    rw [batchedCount, List.foldl_cons]
    refine (ih _).trans ?_
    have hcount : ((fun c => observationEntry.add c 1)^[pairs.countP (· = channels)] observationEntry.zero).toNat =
        min (pairs.countP (· = channels)) u64Max := by
      refine (satCount_toNat 0 _).trans ?_
      rw [h0, Nat.zero_add]
    rw [keptCount, keptCount, List.map_cons, List.sum_cons]
    split_ifs
    · rw [show observationEntry.add = satAdd from rfl] at hcount ⊢
      rw [satAdd_toNat, hcount]
      omega
    · rw [Nat.zero_add]

theorem keptCount_le (reads : List (List (ℕ × ℕ))) (channels : ℕ × ℕ) :
    keptCount reads channels ≤ reads.flatten.countP (· = channels) := by
  induction reads with
  | nil => exact le_rfl
  | cons pairs reads ih =>
    rw [keptCount, List.map_cons, List.sum_cons, List.flatten_cons, List.countP_append]
    refine Nat.add_le_add ?_ ih
    split_ifs
    · exact le_rfl
    · exact Nat.zero_le _

/-- all frames of a pair are counted where every read that shows it has an entry for it -/
theorem keptCount_eq_iff (reads : List (List (ℕ × ℕ))) (channels : ℕ × ℕ) :
    keptCount reads channels = reads.flatten.countP (· = channels) ↔
      ∀ pairs ∈ reads, channels ∈ pairs → channels ∈ tracked wfbMaxChannelObservations pairs := by
  induction reads with
  | nil => exact iff_of_true rfl nofun
  | cons pairs reads ih =>
    have hle := keptCount_le reads channels
    rw [List.forall_mem_cons, ← ih, keptCount, List.map_cons, List.sum_cons, List.flatten_cons, List.countP_append]
    change _ + keptCount reads channels = _ ↔ _
    by_cases hmem : channels ∈ tracked wfbMaxChannelObservations pairs
    · rw [if_pos hmem, Nat.add_left_cancel_iff]
      exact ⟨fun h => ⟨fun _ => hmem, h⟩, And.right⟩
    · rw [if_neg hmem, Nat.zero_add]
      by_cases hseen : channels ∈ pairs
      · have hpos : 0 < pairs.countP (· = channels) := List.countP_pos_iff.2 ⟨channels, hseen, by simp⟩
        constructor
        · intro h
          omega
        · exact fun h => absurd (h.1 hseen) hmem
      · have hzero : pairs.countP (· = channels) = 0 := by
          refine List.countP_eq_zero.2 fun x hx => ?_
          have hne : x ≠ channels := fun h => hseen (h ▸ hx)
          simpa using hne
        rw [hzero, Nat.zero_add]
        exact ⟨fun h => ⟨fun h' => absurd h' hseen, h⟩, And.right⟩

/-! ## Merged lists and one pass -/

/-- the pairs of the frames of a read -/
def readPairs (packets : List ParsedRxPacket) : List (ℕ × ℕ) := wfbChannelPairs (receivedFrames packets)

theorem readPairs_flatten (reads : List (List ParsedRxPacket)) :
    readPairs reads.flatten = (reads.map readPairs).flatten := by
  rw [readPairs, receivedFrames, wfbChannelPairs, List.filterMap_flatten, List.filterMap_flatten, List.map_map]
  rfl

theorem framed_flatten {reads : List (List ParsedRxPacket)}
    (hframed : ∀ packets ∈ reads, ∀ parsed ∈ packets, Framed parsed) : ∀ parsed ∈ reads.flatten, Framed parsed := by
  intro parsed hparsed
  obtain ⟨packets, hpackets, hmem⟩ := List.mem_flatten.1 hparsed
  exact hframed packets hpackets parsed hmem

/-- every read that shows one of these pairs has an entry for it -/
def RoomFor (reads : List (List ParsedRxPacket)) (listed : List (ℕ × ℕ)) : Prop :=
  ∀ channels ∈ listed, ∀ packets ∈ reads, channels ∈ readPairs packets →
    channels ∈ tracked wfbMaxChannelObservations (readPairs packets)

/-- an observation without its count -/
def RuntimeWfbChannelObservation.uncounted (observation : RuntimeWfbChannelObservation) :
    RuntimeWfbChannelObservation := { observation with count := 0 }

section Batching

variable {reads : List (List ParsedRxPacket)} {rx : RuntimeFlowRxTelemetry} {t : ProductionRuntimeRxPacketTelemetry}

/-- the pairs that end up with an entry -/
abbrev listedPairs (reads : List (List ParsedRxPacket)) : List (ℕ × ℕ) :=
  tracked wfbMaxChannelObservations (reads.map readPairs).flatten

theorem Accumulates.observations_merged (h : Accumulates {} reads rx) :
    rx.wfbChannelObservations = entries observationEntry (listedPairs reads)
      fun channels => batchedCount wfbMaxChannelObservations observationEntry 1 (reads.map readPairs) channels 0 := by
  have hsettled : Settled wfbMaxChannelObservations observationEntry [] fun _ => 0 := .inr fun _ _ => rfl
  exact h.observations.trans (tallyAll_batches 1 List.nodup_nil hsettled _)

theorem SeesAll.observations_onePass (h : SeesAll {} reads.flatten t) :
    t.wfbChannelObservations = entries observationEntry (listedPairs reads)
      fun channels => satCount 0 ((reads.map readPairs).flatten.countP (· = channels)) := by
  have hpairs : wfbChannelPairs (receivedFrames reads.flatten) = (reads.map readPairs).flatten := readPairs_flatten reads
  rw [h.observations_read, hpairs]

theorem onePass_toNat (reads : List (List (ℕ × ℕ))) (channels : ℕ × ℕ) :
    (satCount 0 (reads.flatten.countP (· = channels))).toNat = min (reads.flatten.countP (· = channels)) u64Max := by
  have h0 : (0 : UInt64).toNat = 0 := rfl
  rw [satCount_toNat, h0, Nat.zero_add]

theorem merged_toNat (reads : List (List (ℕ × ℕ))) (channels : ℕ × ℕ) :
    (batchedCount wfbMaxChannelObservations observationEntry 1 reads channels 0).toNat =
      min (keptCount reads channels) u64Max := by
  have h0 : (0 : UInt64).toNat = 0 := rfl
  rw [batchedCount_toNat, h0, Nat.zero_add]

theorem mem_readPairs_map {reads : List (List ParsedRxPacket)} {channels : ℕ × ℕ} :
    (∀ pairs ∈ reads.map readPairs, channels ∈ pairs → channels ∈ tracked wfbMaxChannelObservations pairs) ↔
      ∀ packets ∈ reads, channels ∈ readPairs packets →
        channels ∈ tracked wfbMaxChannelObservations (readPairs packets) :=
  List.forall_mem_map

/-- where there is room, every frame is counted -/
theorem merged_eq_of_room (hmerged : Accumulates {} reads rx) (honePass : SeesAll {} reads.flatten t)
    (hroom : RoomFor reads (listedPairs reads)) : rx.wfbChannelObservations = t.wfbChannelObservations := by
  rw [hmerged.observations_merged, honePass.observations_onePass]
  refine List.map_congr_left fun channels hlisted => congrArg _ (UInt64.toNat_inj.1 ?_)
  rw [merged_toNat, onePass_toNat, (keptCount_eq_iff _ channels).2 (mem_readPairs_map.2 (hroom channels hlisted))]

/-- where all frames are counted there was room, unless a count has saturated -/
theorem room_of_merged_eq (hmerged : Accumulates {} reads rx) (honePass : SeesAll {} reads.flatten t)
    (hlen : reads.flatten.length ≤ u64Max) (heq : rx.wfbChannelObservations = t.wfbChannelObservations) :
    RoomFor reads (listedPairs reads) := by
  rw [hmerged.observations_merged, honePass.observations_onePass] at heq
  intro channels hlisted
  have hobs := List.map_inj_left.1 heq channels hlisted
  have hcount : (batchedCount wfbMaxChannelObservations observationEntry 1 (reads.map readPairs) channels 0).toNat =
      (satCount 0 ((reads.map readPairs).flatten.countP (· = channels))).toNat :=
    congrArg (fun observation => observation.count.toNat) hobs
  have hle := keptCount_le (reads.map readPairs) channels
  have hfew : (reads.map readPairs).flatten.countP (· = channels) ≤ u64Max := by
    calc (reads.map readPairs).flatten.countP (· = channels)
        ≤ (reads.map readPairs).flatten.length := List.countP_le_length
      _ = (wfbChannelPairs (receivedFrames reads.flatten)).length := congrArg _ (readPairs_flatten reads).symm
      _ ≤ (receivedFrames reads.flatten).length := List.length_filterMap_le _ _
      _ ≤ reads.flatten.length := List.length_filterMap_le _ _
      _ ≤ u64Max := hlen
  rw [merged_toNat, onePass_toNat, Nat.min_eq_left (hle.trans hfew), Nat.min_eq_left hfew] at hcount
  exact mem_readPairs_map.1 ((keptCount_eq_iff _ channels).1 hcount)

theorem channels_entries (keys : List (ℕ × ℕ)) (counts : ℕ × ℕ → UInt64) :
    (entries observationEntry keys counts).map (·.channels) = keys := by
  rw [entries, List.map_map]
  exact List.map_id keys

theorem uncounted_entries (keys : List (ℕ × ℕ)) (counts : ℕ × ℕ → UInt64) :
    (entries observationEntry keys counts).map (·.uncounted) = keys.map fun channels => wfbObservation channels 0 := by
  rw [entries, List.map_map]
  rfl

theorem counts_le (hmerged : Accumulates {} reads rx) (honePass : SeesAll {} reads.flatten t) :
    List.Forall₂ (fun merged onePass => merged.count ≤ onePass.count) rx.wfbChannelObservations
      t.wfbChannelObservations := by
  rw [hmerged.observations_merged, honePass.observations_onePass, entries, entries, List.forall₂_map_left_iff,
    List.forall₂_map_right_iff]
  refine List.forall₂_same.2 fun channels _ => UInt64.le_iff_toNat_le.2 ?_
  change (batchedCount wfbMaxChannelObservations observationEntry 1 (reads.map readPairs) channels 0).toNat ≤
    (satCount 0 ((reads.map readPairs).flatten.countP (· = channels))).toNat
  have hle := keptCount_le (reads.map readPairs) channels
  rw [merged_toNat, onePass_toNat]
  omega

/-- **Splitting into reads.** However a sequence of received packets is split, merging the lists of the reads gives the
observations of one pass in the same order, with counts that are no larger. The lists are the same where every read
that shows a listed pair has an entry for it, so certainly where no read shows more than 32 pairs, and only there as
long as no counter saturates. -/
theorem mergedObservations_batched {ω : Type} [DatagramHost ω] {reads : List (List ParsedRxPacket)}
    (hframed : ∀ packets ∈ reads, ∀ parsed ∈ packets, Framed parsed)
    (rxForwards : List ProductionRuntimeRxForwardRuntime) (host : ω) :
    ∃ rx rxForwards₁ host₁ outcome rxForwards₂ host₂,
      processReads {} rxForwards host reads = .ok (.ok (), rx, rxForwards₁, host₁) ∧
      processProductionRxPacketOutcomes reads.flatten rxForwards host = .ok (.ok outcome, rxForwards₂, host₂) ∧
      (let merged := rx.wfbChannelObservations
       let onePass := outcome.telemetry.wfbChannelObservations
       merged.map (·.uncounted) = onePass.map (·.uncounted) ∧
        List.Forall₂ (fun merged onePass => merged.count ≤ onePass.count) merged onePass ∧
        (RoomFor reads (onePass.map (·.channels)) → merged = onePass) ∧
        ((∀ packets ∈ reads, (readPairs packets).toFinset.card ≤ wfbMaxChannelObservations) → merged = onePass) ∧
        (reads.flatten.length ≤ u64Max → merged = onePass → RoomFor reads (onePass.map (·.channels)))) := by
  obtain ⟨rx, rxForwards₁, host₁, hreads, hmerged⟩ := processReads_accumulates {} rxForwards host hframed
  obtain ⟨outcome, rxForwards₂, host₂, hprocess, honePass⟩ := processOutcomes_sees (framed_flatten hframed) rxForwards host
  have hlisted : outcome.telemetry.wfbChannelObservations.map (·.channels) = listedPairs reads := by
    rw [honePass.observations_onePass, channels_entries]
  refine ⟨rx, rxForwards₁, host₁, outcome, rxForwards₂, host₂, hreads, hprocess, ?_⟩
  dsimp only
  rw [hlisted]
  refine ⟨?_, counts_le hmerged honePass, merged_eq_of_room hmerged honePass, ?_,
    room_of_merged_eq hmerged honePass⟩
  · rw [hmerged.observations_merged, honePass.observations_onePass, uncounted_entries, uncounted_entries]
  · intro hcard
    refine merged_eq_of_room hmerged honePass fun channels _ packets hpackets hshown => ?_
    exact mem_tracked_of_card (hcard packets hpackets) hshown

end Batching

/-! ## A crowded read -/

/-- a frame from a channel with this number to channel 0 -/
def channelFrame (source : UInt8) : RxFrame where
  data := [0x08, 0x01, 0x00, 0x00, 0xff, 0xff, 0xff, 0xff, 0xff, 0xff, 0x57, 0x42, 0, 0, 0, source, 0x57, 0x42, 0, 0, 0, 0,
    0, 0]
  rssiDbm := -80
  rssiDbmValid := false
  rssiDbmSource := .fallbackNoPhyStatus
  noiseDbm := none
  snrDb := none
  snrDbSource := none
  channel := ⟨36, 5180, .ghz5⟩
  phyStatus := false
  driverInfoSize := 0
  rxShift := 0
  rawPhyStatus := []
  rxRateRaw := 0
  rxRate := none
  rxBandwidthRaw := 0
  rxBandwidth := none
  shortGi := false
  ldpc := false
  stbc := false
  crcError := false

def channelPacket (source : UInt8) : ParsedRxPacket := ⟨128, .frame, some (channelFrame source)⟩

theorem framed_channelPacket (source : UInt8) : Framed (channelPacket source) := fun _ => rfl

/-- channel 0 once, then 32 other channels and channel 0 again -/
def crowdedReads : List (List ParsedRxPacket) :=
  [[channelPacket 0], ((List.range 32).map fun i => channelPacket (UInt8.ofNat (i + 1))) ++ [channelPacket 0]]

theorem framed_crowdedReads : ∀ packets ∈ crowdedReads, ∀ parsed ∈ packets, Framed parsed := by
  intro packets hpackets parsed hparsed
  rcases List.mem_cons.1 hpackets with rfl | hpackets
  · rw [List.mem_singleton.1 hparsed]
    exact framed_channelPacket 0
  · rw [List.mem_singleton.1 hpackets] at hparsed
    rcases List.mem_append.1 hparsed with hparsed | hparsed
    · obtain ⟨i, -, rfl⟩ := List.mem_map.1 hparsed
      exact framed_channelPacket _
    · rw [List.mem_singleton.1 hparsed]
      exact framed_channelPacket 0

/-- two reads of one frame each -/
theorem mergedObservations_batched_sample :
    ∃ rx rxForwards₁ host₁ outcome rxForwards₂ host₂,
      processReads {} [] (QuietHost.mk 0) [[channelPacket 1], [channelPacket 1]] =
        .ok (.ok (), rx, rxForwards₁, host₁) ∧
      processProductionRxPacketOutcomes [channelPacket 1, channelPacket 1] [] (QuietHost.mk 0) =
        .ok (.ok outcome, rxForwards₂, host₂) ∧
      rx.wfbChannelObservations = outcome.telemetry.wfbChannelObservations := by
  have hframed : ∀ packets ∈ [[channelPacket 1], [channelPacket 1]], ∀ parsed ∈ packets, Framed parsed := by
    intro packets hpackets parsed hparsed
    simp only [List.mem_cons, List.not_mem_nil, or_false, or_self] at hpackets
    rw [hpackets] at hparsed
    rw [List.mem_singleton.1 hparsed]
    exact framed_channelPacket 1
  obtain ⟨rx, rxForwards₁, host₁, outcome, rxForwards₂, host₂, hreads, hprocess, -, -, -, hcard, -⟩ :=
    mergedObservations_batched hframed [] (QuietHost.mk 0)
  exact ⟨rx, rxForwards₁, host₁, outcome, rxForwards₂, host₂, hreads, hprocess, hcard (by decide +kernel)⟩

/-- the second read has no entry for channel 0, so its frame of this channel is not counted -/
theorem crowded_read_loses_count :
    (∀ packets ∈ crowdedReads, ∀ parsed ∈ packets, Framed parsed) ∧
      ∃ rx rxForwards₁ host₁ outcome rxForwards₂ host₂,
        processReads {} [] (QuietHost.mk 0) crowdedReads = .ok (.ok (), rx, rxForwards₁, host₁) ∧
        processProductionRxPacketOutcomes crowdedReads.flatten [] (QuietHost.mk 0) =
          .ok (.ok outcome, rxForwards₂, host₂) ∧
        rx.wfbChannelObservations ≠ outcome.telemetry.wfbChannelObservations := by
  obtain ⟨rx, rxForwards₁, host₁, hreads, hmerged⟩ := processReads_accumulates {} [] (QuietHost.mk 0) framed_crowdedReads
  obtain ⟨outcome, rxForwards₂, host₂, hprocess, honePass⟩ :=
    processOutcomes_sees (framed_flatten framed_crowdedReads) [] (QuietHost.mk 0)
  refine ⟨framed_crowdedReads, rx, rxForwards₁, host₁, outcome, rxForwards₂, host₂, hreads, hprocess, fun heq => ?_⟩
  have hroom := room_of_merged_eq hmerged honePass (by decide +kernel) heq
  have hlost : (0, 0) ∉ tracked wfbMaxChannelObservations (readPairs crowdedReads[1]) := by decide +kernel
  exact hlost (hroom (0, 0) (by decide +kernel) crowdedReads[1] (by decide +kernel) (by decide +kernel))

end WfbLink.Runtime
