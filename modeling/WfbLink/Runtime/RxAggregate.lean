/-
Decoding an aggregate of received packets: what `read_rx_packets` makes of a bulk transfer the chip filled.

- `readRxPackets_aggregate`: for packets whose length field is in range, there is one parse result per packet, in order;
  good packets become frames with exactly their payload less the frame check sequence, all others are dropped, and the
  session counters count them (they saturate, `saturated_counter_does_not_grow`).
- `readRxPackets_resync_iff`: for packets with any length field the results stay in step with the packets exactly when
  no length field is out of range. The drop branch for a bad length steps over the descriptor only, so the bytes behind
  it are parsed as a descriptor (`zero_length_packet_loses_the_next`).
-/
import WfbLink.RadioCore.RxChipPacket
import WfbLink.Runtime.RxRead

namespace WfbLink.Runtime

open WfbLink.Core WfbLink.RadioCore

/-- what a parse result says about a packet of the chip -/
inductive Decodes (p : RxChipPacket) : ParsedRxPacket → Prop where
  | frame {consumed : ℕ} {frame : RxFrame} (hgood : p.good) (hdata : frame.data = p.frameData)
      (hstart : rxDescSize + frame.driverInfoSize + frame.rxShift = p.payloadStart) :
      Decodes p ⟨consumed, .frame, some frame⟩
  | drop {consumed : ℕ} (hbad : ¬ p.good) : Decodes p ⟨consumed, .drop, none⟩

/-- one step in front of a packet with a length in range decodes it and moves to the next boundary -/
theorem rxStep_chipPacket (channel : Channel) {p : RxChipPacket} (hlen : p.lenOk) (tail : List UInt8) :
    ∃ r, rxStep channel (p.encode ++ tail) = .record r p.encodePadded.length ∧
      Decodes p r ∧ r.consumed = p.encodePadded.length := by
  by_cases hgood : p.good
  · obtain ⟨frame, hparse, hdata, hstart⟩ := parse_chipPacket_frame channel hgood tail
    exact ⟨_, rxStep_record hparse nofun, .frame hgood hdata hstart, rfl⟩
  · exact ⟨_, rxStep_record (parse_chipPacket_dropped channel hlen hgood tail) nofun, .drop hgood, rfl⟩

/-! ## Aggregates with lengths in range -/

/-- the padded packets at the front of a buffer are decoded one by one, whatever follows them -/
theorem rxPackets_padded (channel : Channel) (packets : List RxChipPacket) (rest : List UInt8)
    (hlen : ∀ p ∈ packets, p.lenOk) :
    ∃ records, List.Forall₂ (fun p r => Decodes p r ∧ r.consumed = p.encodePadded.length) packets records ∧
      rxPackets channel (packets.flatMap RxChipPacket.encodePadded ++ rest) = records ++ rxPackets channel rest := by
  have hstep : ∀ p ∈ packets, ∀ tail, ∃ r, rxStep channel (p.encodePadded ++ tail) =
      .record r p.encodePadded.length ∧ Decodes p r ∧ r.consumed = p.encodePadded.length := by
    intro p hp tail
    rw [RxChipPacket.encodePadded, List.append_assoc]
    exact rxStep_chipPacket channel (hlen p hp) _
  obtain ⟨records, hall, hscan⟩ :=
    scan_frames RxChipPacket.encodePadded packets rest (fun p _ => p.encodePadded_ne_nil) hstep
  exact ⟨records, hall, by rw [rxPackets, hscan, List.append_assoc]; rfl⟩

/-- the last packet of an aggregate is not padded: the step over it leaves the buffer -/
theorem rxPackets_last (channel : Channel) {p : RxChipPacket} (hlen : p.lenOk) :
    ∃ r, rxPackets channel p.encode = [r] ∧ Decodes p r := by
  obtain ⟨r, hstep, hdec, -⟩ := rxStep_chipPacket channel hlen []
  rw [List.append_nil] at hstep
  have hpos : 0 < p.encodePadded.length := List.length_pos_iff.2 p.encodePadded_ne_nil
  refine ⟨r, ?_, hdec⟩
  rw [rxPackets_record p.encode_ne_nil hstep hpos, List.drop_eq_nil_iff.2 p.encode_length_le, rxPackets_nil]

theorem rxPackets_aggregate (channel : Channel) {packets : List RxChipPacket} (hne : packets ≠ [])
    (hlen : ∀ p ∈ packets, p.lenOk) :
    List.Forall₂ Decodes packets (rxPackets channel (RxChipPacket.aggregate packets)) := by
  obtain ⟨init, last, rfl⟩ : ∃ init last, packets = init ++ [last] :=
    ⟨_, _, (List.dropLast_append_getLast hne).symm⟩
  obtain ⟨records, hall, hinit⟩ := rxPackets_padded channel init last.encode
    (fun p hp => hlen p (List.mem_append_left _ hp))
  obtain ⟨r, hlast, hdec⟩ := rxPackets_last channel (hlen last (by simp))
  rw [RxChipPacket.aggregate_concat, hinit, hlast]
  exact List.rel_append (hall.imp fun _ _ h => h.1) (.cons hdec .nil)

/-- decoded results count frames and drops as the packets do, and never ask for more data -/
theorem decodes_counts {packets : List RxChipPacket} {results : List ParsedRxPacket}
    (h : List.Forall₂ Decodes packets results) :
    countOutcome .frame results = packets.countP (·.good) ∧ countOutcome .drop results = packets.countP (¬ ·.good) ∧
      ∀ r ∈ results, r.outcome ≠ .needMoreData := by
  induction h with
  | nil => simp
  | cons hdec _ ih =>
    obtain ⟨hframes, hdrops, hmore⟩ := ih
    cases hdec with
    | frame hgood _ _ =>
      refine ⟨?_, ?_, ?_⟩
      · rw [countOutcome_cons, hframes, List.countP_cons_of_pos (by simpa using hgood)]; rfl
      · rw [countOutcome_cons, hdrops, List.countP_cons_of_neg (by simpa using hgood)]; rfl
      · intro r hr
        rcases List.mem_cons.1 hr with rfl | hr
        · exact nofun
        · exact hmore r hr
    | drop hbad =>
      refine ⟨?_, ?_, ?_⟩
      · rw [countOutcome_cons, hframes, List.countP_cons_of_neg (by simpa using hbad)]; rfl
      · rw [countOutcome_cons, hdrops, List.countP_cons_of_pos (by simpa using hbad)]; rfl
      · intro r hr
        rcases List.mem_cons.1 hr with rfl | hr
        · exact nofun
        · exact hmore r hr

variable {τ : Type} [UsbBulkTransfer τ] {n : ℕ} {session : RuntimeRadioSession τ} {buffer buffer' : ByteBuf n}
  {timeout : ℕ} {bulkIn : UInt8} {transport : τ}

/-- **Decoding inverts the chip's framing.** One result per packet in order, frames with exactly the payload of the
good packets, no request for more data, and saturating counts in the session. -/
theorem readRxPackets_aggregate {packets : List RxChipPacket} (hne : packets ≠ []) (hlen : ∀ p ∈ packets, p.lenOk)
    (h : session.Receives buffer timeout bulkIn (RxChipPacket.aggregate packets) buffer' transport)
    (channel : Channel) :
    ∃ read session', readRxPackets session channel buffer timeout = .ok (.ok read, buffer', session') ∧
      List.Forall₂ Decodes packets read.packets ∧ (∀ r ∈ read.packets, r.outcome ≠ .needMoreData) ∧
      session'.counters.rxFrames.toNat =
        min (session.counters.rxFrames.toNat + countOutcome .frame read.packets) u64Max ∧
      session'.counters.droppedFrames.toNat =
        min (session.counters.droppedFrames.toNat + countOutcome .drop read.packets) u64Max := by
  have hdec := rxPackets_aggregate channel hne hlen
  refine ⟨_, _, readRxPackets_ok h channel, hdec, (decodes_counts hdec).2.2, ?_, ?_⟩
  · rw [observeAll_rxFrames, satCount_toNat]; rfl
  · rw [observeAll_droppedFrames, satCount_toNat]; rfl

def sampleChannel : Channel := ⟨36, 5180, .ghz5⟩

def sampleBuffer : ByteBuf 1024 := .zeroed 1024 (by decide)

/-- two packets: one of 10 bytes of data, and one too short for a frame -/
def samplePackets : List RxChipPacket := [.plain 14 (by decide), .plain 5 (by decide)]

theorem readRxPackets_aggregate_sample :
    ∃ read session', readRxPackets (loopbackSession (RxChipPacket.aggregate samplePackets) {}) sampleChannel
        sampleBuffer 0 = .ok (.ok read, sampleBuffer.fill (RxChipPacket.aggregate samplePackets), session') ∧
      List.Forall₂ Decodes samplePackets read.packets ∧ (∀ r ∈ read.packets, r.outcome ≠ .needMoreData) ∧
      session'.counters.rxFrames.toNat = min (0 + countOutcome .frame read.packets) u64Max ∧
      session'.counters.droppedFrames.toNat = min (0 + countOutcome .drop read.packets) u64Max :=
  readRxPackets_aggregate (by decide) (by decide) (loopbackSession_receives (by decide +kernel) {} sampleBuffer 0)
    sampleChannel

/-- the counter of a session that has seen `u64::MAX` frames does not grow with the next frame -/
theorem saturated_counter_does_not_grow :
    ∃ read session', readRxPackets (loopbackSession (RxChipPacket.aggregate samplePackets)
        { rxFrames := 0xffffffffffffffff }) sampleChannel sampleBuffer 0 =
          .ok (.ok read, sampleBuffer.fill (RxChipPacket.aggregate samplePackets), session') ∧
      countOutcome .frame read.packets = 1 ∧
      session'.counters.rxFrames.toNat ≠ 0xffffffffffffffff + countOutcome .frame read.packets := by
  refine ⟨_, _, readRxPackets_ok (loopbackSession_receives (by decide +kernel) _ sampleBuffer 0) sampleChannel, ?_, ?_⟩
  · decide +kernel
  · decide +kernel

/-! ## Where results and packets lie -/

/-- the results with the offsets they were parsed at -/
def placed (offset : ℕ) : List ParsedRxPacket → List (ℕ × ParsedRxPacket)
  | [] => []
  | parsed :: results => (offset, parsed) :: placed (offset + parsed.consumed) results

/-- the padded packets with the offsets they start at -/
def starts (offset : ℕ) : List RxChipPacket → List (ℕ × RxChipPacket)
  | [] => []
  | p :: packets => (offset, p) :: starts (offset + p.encodePadded.length) packets

theorem starts_ge {offset : ℕ} {packets : List RxChipPacket} : ∀ s ∈ starts offset packets, offset ≤ s.1 := by
  induction packets generalizing offset with
  | nil => exact nofun
  | cons p packets ih =>
    intro s hs
    rcases List.mem_cons.1 hs with rfl | hs
    · exact le_rfl
    · exact le_trans (Nat.le_add_right _ _) (ih s hs)

/-- two packets of a buffer are the same, or one lies behind the other -/
theorem starts_apart {offset : ℕ} {packets : List RxChipPacket} :
    ∀ s ∈ starts offset packets, ∀ t ∈ starts offset packets,
      s = t ∨ s.1 + s.2.encodePadded.length ≤ t.1 ∨ t.1 + t.2.encodePadded.length ≤ s.1 := by
  induction packets generalizing offset with
  | nil => exact nofun
  | cons p packets ih =>
    intro s hs t ht
    rcases List.mem_cons.1 hs with rfl | hs
    · rcases List.mem_cons.1 ht with rfl | ht
      · exact Or.inl rfl
      · exact Or.inr (Or.inl (starts_ge t ht))
    · rcases List.mem_cons.1 ht with rfl | ht
      · exact Or.inr (Or.inr (starts_ge s hs))
      · exact ih s hs t ht

/-- results that consume what the packets take are parsed at the packets' starts -/
theorem placed_starts {packets : List RxChipPacket} {results : List ParsedRxPacket}
    (h : List.Forall₂ (fun p r => Decodes p r ∧ r.consumed = p.encodePadded.length) packets results) (offset : ℕ) :
    List.Forall₂ (fun s r => s.1 = r.1 ∧ Decodes s.2 r.2) (starts offset packets) (placed offset results) := by
  induction h generalizing offset with
  | nil => exact .nil
  | cons hpr _ ih =>
    refine .cons ⟨rfl, hpr.1⟩ ?_
    rw [← hpr.2]
    exact ih _

/-- where the data of a frame starts, in a buffer in which it was parsed at `offset` -/
def frameStart (offset : ℕ) (frame : RxFrame) : ℕ := offset + (rxDescSize + frame.driverInfoSize + frame.rxShift)

/-- the results of a buffer of padded packets are in step with the packets -/
structure Resync (packets : List RxChipPacket) (results : List ParsedRxPacket) : Prop where
  /-- every frame lies inside the payload of a packet -/
  framesInside : ∀ r ∈ placed 0 results, ∀ frame ∈ r.2.frame, ∃ s ∈ starts 0 packets,
    s.1 + s.2.payloadStart ≤ frameStart r.1 frame ∧
      frameStart r.1 frame + frame.data.length ≤ s.1 + s.2.payloadStart + s.2.packetLen
  /-- every good packet is returned, also behind packets that are dropped -/
  goodReturned : ∀ s ∈ starts 0 packets, s.2.good →
    ∃ r ∈ placed 0 results, r.1 = s.1 ∧ ∃ frame ∈ r.2.frame, frame.data = s.2.frameData
  /-- no descriptor is read from the bytes of a dropped packet behind its own descriptor -/
  bodyNotParsed : ∀ r ∈ placed 0 results, ∀ s ∈ starts 0 packets, ¬ s.2.good →
    r.1 + rxDescSize ≤ s.1 + rxDescSize ∨ s.1 + s.2.encodePadded.length ≤ r.1

theorem resync_of_lenOk {packets : List RxChipPacket} (channel : Channel) (hlen : ∀ p ∈ packets, p.lenOk) :
    Resync packets (rxPackets channel (packets.flatMap RxChipPacket.encodePadded)) := by
  obtain ⟨records, hall, hrec⟩ := rxPackets_padded channel packets [] hlen
  rw [List.append_nil, rxPackets_nil, List.append_nil] at hrec
  have hplaced := placed_starts hall 0
  rw [hrec]
  refine ⟨?_, ?_, ?_⟩
  · rintro ⟨offset, r⟩ hr frame hframe
    obtain ⟨s, hs, hoff, hdec⟩ := forall₂_exists_left hplaced _ hr
    refine ⟨s, hs, ?_⟩
    cases hdec with
    | drop _ => exact nomatch hframe
    | frame _ hdata hstart =>
      obtain rfl : _ = frame := Option.some.inj hframe
      have hlen : s.2.frameData.length ≤ s.2.packetLen := by
        rw [RxChipPacket.frameData, List.length_take]
        exact min_le_right _ _
      rw [frameStart, hstart, hdata]
      omega
  · intro s hs hgood
    obtain ⟨r, hr, hoff, hdec⟩ := forall₂_exists_right hplaced s hs
    obtain ⟨offset, parsed⟩ := r
    refine ⟨_, hr, hoff.symm, ?_⟩
    cases hdec with
    | frame _ hdata _ => exact ⟨_, rfl, hdata⟩
    | drop hbad => exact absurd hgood hbad
  · intro r hr t ht _
    obtain ⟨s, hs, hoff, _⟩ := forall₂_exists_left hplaced r hr
    have hsize := s.2.encodePadded_length_ge
    rcases starts_apart s hs t ht with rfl | hbefore | hafter
    · exact Or.inl (by omega)
    · exact Or.inl (by omega)
    · exact Or.inr (by omega)

theorem rxPackets_ne_nil (channel : Channel) {bytes : List UInt8} (hne : bytes ≠ []) :
    rxPackets channel bytes ≠ [] := by
  cases hstep : rxStep channel bytes with
  | halt parsed =>
    rw [rxPackets_halt hne hstep]
    exact List.cons_ne_nil _ _
  | record parsed used =>
    have hpos : 0 < used := lt_of_lt_of_le (by decide) (rxStep_progress hstep)
    rw [rxPackets_record hne hstep hpos]
    exact List.cons_ne_nil _ _

/-- the first length out of range puts the next parse 24 bytes behind the start of its packet -/
theorem desync_of_badLength {packets : List RxChipPacket} (channel : Channel) (hbad : ¬ ∀ p ∈ packets, p.lenOk)
    (offset : ℕ) :
    ∃ r ∈ placed offset (rxPackets channel (packets.flatMap RxChipPacket.encodePadded)),
      ∃ s ∈ starts offset packets, ¬ s.2.lenOk ∧ r.1 = s.1 + rxDescSize := by
  induction packets generalizing offset with
  | nil => exact absurd (fun p hp => absurd hp List.not_mem_nil) hbad
  | cons p packets ih =>
    have hbytes : (p :: packets).flatMap RxChipPacket.encodePadded =
        p.encode ++ (p.padding ++ packets.flatMap RxChipPacket.encodePadded) := by
      rw [List.flatMap_cons, RxChipPacket.encodePadded, List.append_assoc]
    have hne : p.encode ++ (p.padding ++ packets.flatMap RxChipPacket.encodePadded) ≠ [] := by
      simp [p.encode_ne_nil]
    by_cases hp : p.lenOk
    · obtain ⟨r, hstep, _, hconsumed⟩ := rxStep_chipPacket channel hp (p.padding ++ packets.flatMap _)
      have hpos : 0 < p.encodePadded.length := List.length_pos_iff.2 p.encodePadded_ne_nil
      have hdrop : (p.encode ++ (p.padding ++ packets.flatMap RxChipPacket.encodePadded)).drop
          p.encodePadded.length = packets.flatMap RxChipPacket.encodePadded := by
        rw [← List.append_assoc, ← RxChipPacket.encodePadded, List.drop_left]
      obtain ⟨q, hq, s, hs, hqs⟩ := ih (fun h => hbad (List.forall_mem_cons.2 ⟨hp, h⟩))
        (offset + p.encodePadded.length)
      rw [hbytes, rxPackets_record hne hstep hpos, hdrop]
      refine ⟨q, ?_, s, List.mem_cons_of_mem _ hs, hqs⟩
      rw [placed, hconsumed]
      exact List.mem_cons_of_mem _ hq
    · -- the descriptor of `p` is dropped alone, and at least 104 bytes of its packet are left to parse
      have hstep := rxStep_record (parse_chipPacket_bad channel hp
        (p.padding ++ packets.flatMap RxChipPacket.encodePadded)) (by rintro ⟨⟩)
      have hrest : (p.encode ++ (p.padding ++ packets.flatMap RxChipPacket.encodePadded)).drop rxDescSize ≠ [] := by
        have hsize := p.encodePadded_length_ge
        rw [RxChipPacket.encodePadded, List.length_append] at hsize
        refine List.length_pos_iff.1 ?_
        rw [List.length_drop, List.length_append, List.length_append, rxDescSize]
        omega
      rw [hbytes, rxPackets_record hne hstep (by decide)]
      obtain ⟨q, qs, hqs⟩ := List.exists_cons_of_ne_nil (rxPackets_ne_nil channel hrest)
      refine ⟨(offset + rxDescSize, q), ?_, (offset, p), List.mem_cons_self, hp, rfl⟩
      rw [hqs]
      exact List.mem_cons_of_mem _ List.mem_cons_self

/-- **The results stay in step exactly when every length field is in range.** -/
theorem resync_iff (packets : List RxChipPacket) (channel : Channel) :
    Resync packets (rxPackets channel (packets.flatMap RxChipPacket.encodePadded)) ↔ ∀ p ∈ packets, p.lenOk := by
  refine ⟨fun hsync => ?_, resync_of_lenOk channel⟩
  by_contra hbad
  obtain ⟨r, hr, s, hs, hlen, hoff⟩ := desync_of_badLength channel hbad 0
  have hgood : ¬ s.2.good := fun hgood => hlen ⟨le_trans (by norm_num) hgood.2.1, hgood.2.2⟩
  have hsize := s.2.encodePadded_length_ge
  have hdesc : rxDescSize = 24 := rfl
  rcases hsync.bodyNotParsed r hr s hs hgood with h | h
  · omega
  · omega

/-- **Resynchronisation.** Over a transfer of padded packets with any length field, the call returns, and its results
stay in step with the packets exactly when no length field is zero or above 4096. -/
theorem readRxPackets_resync_iff {packets : List RxChipPacket}
    (h : session.Receives buffer timeout bulkIn (packets.flatMap RxChipPacket.encodePadded) buffer' transport)
    (channel : Channel) :
    ∃ read session', readRxPackets session channel buffer timeout = .ok (.ok read, buffer', session') ∧
      (Resync packets read.packets ↔ ∀ p ∈ packets, p.lenOk) :=
  ⟨_, _, readRxPackets_ok h channel, resync_iff packets channel⟩

theorem readRxPackets_resync_iff_sample :
    ∃ read session', readRxPackets (loopbackSession (samplePackets.flatMap RxChipPacket.encodePadded) {})
        sampleChannel sampleBuffer 0 =
          .ok (.ok read, sampleBuffer.fill (samplePackets.flatMap RxChipPacket.encodePadded), session') ∧
      (Resync samplePackets read.packets ↔ ∀ p ∈ samplePackets, p.lenOk) :=
  readRxPackets_resync_iff (loopbackSession_receives (by decide +kernel) {} sampleBuffer 0) sampleChannel

/-- a packet of length zero in front of a good one -/
def zeroLengthFirst : List RxChipPacket := [.plain 0 (by decide), .plain 14 (by decide)]

/-- **A zero-length packet loses the next one.** The second packet is good, but no frame is returned at all: after the
drop the parser walks the padding in steps of 24 bytes and misses the boundary. -/
theorem zero_length_packet_loses_the_next :
    (RxChipPacket.plain 14 (by decide)).good ∧
      ∃ read session', readRxPackets (loopbackSession (zeroLengthFirst.flatMap RxChipPacket.encodePadded) {})
          sampleChannel sampleBuffer 0 =
            .ok (.ok read, sampleBuffer.fill (zeroLengthFirst.flatMap RxChipPacket.encodePadded), session') ∧
        (∀ r ∈ read.packets, r.frame = none) ∧ ¬ Resync zeroLengthFirst read.packets := by
  refine ⟨by decide, _, _, readRxPackets_ok (loopbackSession_receives (by decide +kernel) {} sampleBuffer 0) sampleChannel,
    ?_, ?_⟩
  · decide +kernel
  · intro hsync
    have hlen := (resync_iff zeroLengthFirst sampleChannel).1 hsync
    exact absurd hlen (by decide)

end WfbLink.Runtime
