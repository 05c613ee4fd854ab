/-
Reading a bulk buffer of received packets (`RuntimeRadioSession::read_rx_packets`).

The loop walks the buffer by the `consumed` of each parse result. `rxLoop_eq` identifies it with a `scan` of the bytes
that were read, so the facts about scans (what one step yields, every step yields) become facts about the loop:

- `readRxPackets_ok`: with a working bulk IN endpoint the call returns, and its results are `rxPackets` of the bytes.
- `rxPackets_frames`, `rxPackets_length_le`, `rxPackets_needMoreData`: what holds of the results on any bytes.
- `observeAll_rxFrames`, `observeAll_droppedFrames`: the session counters after the loop.
-/
import WfbLink.Core.Scan
import WfbLink.RadioCore.RxDescriptor
import WfbLink.RadioCore.Usb
import WfbLink.Runtime.Counters

namespace WfbLink.Runtime

open WfbLink.Core WfbLink.RadioCore

structure RuntimeRadioSession (τ : Type) where
  transport : τ
  endpoints : UsbEndpoints
  counters : RuntimeRadioCounters := {}

structure RuntimeRxRead where
  endpoint : UInt8
  bytesRead : ℕ
  packets : List ParsedRxPacket
  counters : RuntimeRadioCounters
deriving DecidableEq

def runtimeBulkInError (endpoint : UInt8) (error : UsbError) : RuntimeRadioError :=
  let message := s!"bulk IN read from endpoint 0x{hexText 2 endpoint.toNat} failed: {error.message}"
  if error.isTimeout then .newTimeout "bulk_in_read_timeout" message else .new "bulk_in_read_failed" message

/-- the session counter a parse outcome adds to -/
def RuntimeRadioCounters.observe (counters : RuntimeRadioCounters) : RxParseOutcome → RuntimeRadioCounters
  | .frame => { counters with rxFrames := satAdd counters.rxFrames 1 }
  | .drop => { counters with droppedFrames := satAdd counters.droppedFrames 1 }
  | .needMoreData => counters

/-- `while offset < bytes_read`; the offset cannot leave the range of `usize`, so its saturating addition is plain -/
def rxLoop (channel : Channel) (buffer : List UInt8) (bytesRead offset : ℕ) (counters : RuntimeRadioCounters)
    (packets : List ParsedRxPacket) : Checked (RuntimeRadioCounters × List ParsedRxPacket) :=
  if offset < bytesRead then do
    let rest ← slice buffer offset bytesRead
    let parsed ← parseRxPacket rest channel
    if parsed.outcome = .needMoreData then return (counters, packets ++ [parsed])
    else if parsed.consumed = 0 then return (counters.observe parsed.outcome, packets ++ [parsed])
    else
      let counters := counters.observe parsed.outcome
      rxLoop channel buffer bytesRead (offset + parsed.consumed) counters (packets ++ [parsed])
  else return (counters, packets)
termination_by bytesRead - offset

def readRxPackets {τ : Type} [UsbBulkTransfer τ] {n : ℕ} (session : RuntimeRadioSession τ) (channel : Channel)
    (buffer : ByteBuf n) (timeout : ℕ) :
    Checked (Except RuntimeRadioError RuntimeRxRead × ByteBuf n × RuntimeRadioSession τ) :=
  match session.endpoints.bulkIn with
  | none =>
    let error := .new "missing_bulk_in_endpoint" "runtime radio session has no selected bulk IN endpoint"
    return (.error error, buffer, session)
  | some bulkIn =>
    let before := session.counters
    match readBulkTransfer session.transport bulkIn buffer timeout with
    | (.error error, buffer, transport) =>
      return (.error (runtimeBulkInError bulkIn error), buffer, { session with transport })
    | (.ok bytesRead, buffer, transport) => do
      let counters := { session.counters with usbBulkInReads := satAdd session.counters.usbBulkInReads 1 }
      let (counters, packets) ← rxLoop channel buffer.bytes bytesRead 0 counters []
      return (.ok { endpoint := bulkIn, bytesRead, packets, counters := counters.saturatingSub before }, buffer,
        { session with transport, counters })

/-! ## The loop is a scan -/

/-- the loop body, as a record parser -/
def rxStep (channel : Channel) (rest : List UInt8) : ScanStep ParsedRxPacket ParsedRxPacket :=
  match parseRxPacket rest channel with
  | .ok parsed => if parsed.outcome = .needMoreData then .halt parsed else .record parsed parsed.consumed
  | .error _ => .halt ⟨0, .needMoreData, none⟩

/-- the parse results of a string of received bytes -/
def rxPackets (channel : Channel) (bytes : List UInt8) : List ParsedRxPacket :=
  (scan (rxStep channel) bytes).1 ++ (scan (rxStep channel) bytes).2.toList

/-- the counters after the loop has seen these results -/
def RuntimeRadioCounters.observeAll (counters : RuntimeRadioCounters) (packets : List ParsedRxPacket) :
    RuntimeRadioCounters :=
  packets.foldl (fun counters parsed => counters.observe parsed.outcome) counters

variable {channel : Channel} {rest : List UInt8} {parsed : ParsedRxPacket}

theorem rxStep_record (h : parseRxPacket rest channel = .ok parsed) (hout : parsed.outcome ≠ .needMoreData) :
    rxStep channel rest = .record parsed parsed.consumed := by
  rw [rxStep, h]; exact if_neg hout

theorem rxStep_halt (h : parseRxPacket rest channel = .ok parsed) (hout : parsed.outcome = .needMoreData) :
    rxStep channel rest = .halt parsed := by
  rw [rxStep, h]; exact if_pos hout

theorem rxPackets_record {consumed : ℕ} (hne : rest ≠ []) (h : rxStep channel rest = .record parsed consumed)
    (hpos : 0 < consumed) : rxPackets channel rest = parsed :: rxPackets channel (rest.drop consumed) := by
  rw [rxPackets, scan_record hne h hpos]; rfl

theorem rxPackets_halt (hne : rest ≠ []) (h : rxStep channel rest = .halt parsed) :
    rxPackets channel rest = [parsed] := by
  rw [rxPackets, scan_halt hne h]; rfl

theorem rxPackets_record_zero (hne : rest ≠ []) (h : rxStep channel rest = .record parsed 0) :
    rxPackets channel rest = [parsed] := by
  rw [rxPackets, scan_record_zero hne h]; rfl

@[simp] theorem rxPackets_nil (channel : Channel) : rxPackets channel [] = [] := by
  rw [rxPackets, scan_nil]; rfl

/-- **The loop is a scan.** Over a buffer that holds the bytes read, the loop panics nowhere and appends the parse
results of the bytes from its offset on. -/
theorem rxLoop_eq (channel : Channel) {buffer : List UInt8} {bytesRead : ℕ} (hb : bytesRead ≤ buffer.length)
    (offset : ℕ) (counters : RuntimeRadioCounters) (packets : List ParsedRxPacket) :
    rxLoop channel buffer bytesRead offset counters packets =
      .ok (counters.observeAll (rxPackets channel ((buffer.take bytesRead).drop offset)),
        packets ++ rxPackets channel ((buffer.take bytesRead).drop offset)) := by
  induction hm : bytesRead - offset using Nat.strong_induction_on generalizing offset counters packets with
  | _ m ih =>
    rw [rxLoop]
    by_cases hoff : offset < bytesRead
    · have hlen : ((buffer.take bytesRead).drop offset).length = bytesRead - offset := by
        rw [List.length_drop, List.length_take, Nat.min_eq_left hb]
      have hne : (buffer.take bytesRead).drop offset ≠ [] := List.length_pos_iff.1 (by omega)
      obtain ⟨parsed, hparsed, -⟩ := parseRxPacket_total ((buffer.take bytesRead).drop offset) channel
      have hslice : slice buffer offset bytesRead = .ok ((buffer.take bytesRead).drop offset) := by
        rw [slice_ok hoff.le hb, List.drop_take]
      rw [if_pos hoff, hslice, checked_bind_ok, hparsed, checked_bind_ok]
      by_cases hmore : parsed.outcome = .needMoreData
      · rw [if_pos hmore, rxPackets_halt hne (rxStep_halt hparsed hmore)]
        simp [RuntimeRadioCounters.observeAll, RuntimeRadioCounters.observe, hmore]
      · rw [if_neg hmore]
        have hstep := rxStep_record hparsed hmore
        by_cases hzero : parsed.consumed = 0
        · rw [if_pos hzero, rxPackets_record_zero hne (hzero ▸ hstep)]
          rfl
        · rw [if_neg hzero, ih (bytesRead - (offset + parsed.consumed)) (by omega) _ _ _ rfl,
            rxPackets_record hne hstep (Nat.pos_of_ne_zero hzero), List.drop_drop]
          simp [RuntimeRadioCounters.observeAll]
    · have hnil : (buffer.take bytesRead).drop offset = [] := by
        rw [List.drop_eq_nil_iff, List.length_take]; omega
      rw [if_neg hoff, hnil, rxPackets_nil]
      simp [RuntimeRadioCounters.observeAll]

/-! ## One read -/

/-- the counters of a session once a bulk IN read has returned -/
def RuntimeRadioCounters.countBulkIn (counters : RuntimeRadioCounters) : RuntimeRadioCounters :=
  { counters with usbBulkInReads := satAdd counters.usbBulkInReads 1 }

/-- the transport of the session answers a bulk IN read of the buffer with these bytes -/
structure RuntimeRadioSession.Receives {τ : Type} [UsbBulkTransfer τ] {n : ℕ} (session : RuntimeRadioSession τ)
    (buffer : ByteBuf n) (timeout : ℕ) (bulkIn : UInt8) (bytes : List UInt8) (buffer' : ByteBuf n)
    (transport : τ) : Prop where
  endpoint : session.endpoints.bulkIn = some bulkIn
  answer : readBulkTransfer session.transport bulkIn buffer timeout = (.ok bytes.length, buffer', transport)
  filled : bytes <+: buffer'.bytes

/-- a session on a transport that delivers the same bytes on every read -/
def loopbackSession (bytes : List UInt8) (counters : RuntimeRadioCounters) : RuntimeRadioSession LoopbackUsb where
  transport := ⟨bytes⟩
  endpoints := ⟨some 0x81, some 0x02⟩
  counters

theorem loopbackSession_receives {n : ℕ} {bytes : List UInt8} (h : bytes.length ≤ n) (counters : RuntimeRadioCounters)
    (buffer : ByteBuf n) (timeout : ℕ) :
    (loopbackSession bytes counters).Receives buffer timeout 0x81 bytes (buffer.fill bytes) ⟨bytes⟩ := by
  refine ⟨rfl, ?_, buffer.prefix_fill h⟩
  have hanswer : (loopbackSession bytes counters).transport = ⟨bytes⟩ := rfl
  rw [hanswer]
  simp only [readBulkTransfer, Nat.min_eq_right h]

variable {τ : Type} [UsbBulkTransfer τ] {n : ℕ} {session : RuntimeRadioSession τ} {buffer buffer' : ByteBuf n}
  {timeout : ℕ} {bulkIn : UInt8} {bytes : List UInt8} {transport : τ}

theorem readRxPackets_ok (h : session.Receives buffer timeout bulkIn bytes buffer' transport) (channel : Channel) :
    readRxPackets session channel buffer timeout =
      .ok (.ok { endpoint := bulkIn, bytesRead := bytes.length, packets := rxPackets channel bytes,
                 counters := (session.counters.countBulkIn.observeAll (rxPackets channel bytes)).saturatingSub
                   session.counters },
        buffer', { session with
          transport, counters := session.counters.countBulkIn.observeAll (rxPackets channel bytes) }) := by
  have htake : buffer'.bytes.take bytes.length = bytes := (List.prefix_iff_eq_take.1 h.filled).symm
  have hloop := rxLoop_eq channel h.filled.length_le 0 session.counters.countBulkIn []
  rw [htake, List.drop_zero, List.nil_append] at hloop
  rw [readRxPackets, h.endpoint]
  simp only [h.answer]
  rw [show ({ session.counters with usbBulkInReads := satAdd session.counters.usbBulkInReads 1 } :
    RuntimeRadioCounters) = session.counters.countBulkIn from rfl, hloop]
  rfl

/-! ## What holds of the results on any bytes -/

theorem rxStep_shape {r : ParsedRxPacket} {used : ℕ} (h : rxStep channel rest = .record r used) :
    ParsedShape r ∧ r.outcome ≠ .needMoreData ∧ used = r.consumed := by
  obtain ⟨parsed, hparsed, hshape⟩ := parseRxPacket_total rest channel
  by_cases hmore : parsed.outcome = .needMoreData
  · rw [rxStep_halt hparsed hmore] at h; cases h
  · rw [rxStep_record hparsed hmore] at h
    cases h
    exact ⟨hshape, hmore, rfl⟩

theorem rxStep_halt_shape {r : ParsedRxPacket} (h : rxStep channel rest = .halt r) :
    ParsedShape r ∧ r.outcome = .needMoreData := by
  obtain ⟨parsed, hparsed, hshape⟩ := parseRxPacket_total rest channel
  by_cases hmore : parsed.outcome = .needMoreData
  · rw [rxStep_halt hparsed hmore] at h
    cases h
    exact ⟨hshape, hmore⟩
  · rw [rxStep_record hparsed hmore] at h; cases h

/-- every frame or drop moves the offset by at least a descriptor -/
theorem rxStep_progress {r : ParsedRxPacket} {used : ℕ} (h : rxStep channel rest = .record r used) :
    rxDescSize ≤ used := by
  obtain ⟨hshape, hout, rfl⟩ := rxStep_shape h
  cases hshape with
  | needMoreData => exact absurd rfl hout
  | drop hc => exact hc
  | frame hc _ => exact hc

theorem rxPackets_shape (channel : Channel) (bytes : List UInt8) : ∀ r ∈ rxPackets channel bytes, ParsedShape r := by
  intro r hr
  rcases List.mem_append.1 hr with hr | hr
  · exact scan_forall (fun _ _ _ _ h => (rxStep_shape h).1) bytes r hr
  · exact scan_forall_halt (fun _ _ _ h => (rxStep_halt_shape h).1) bytes r (by simpa using hr)

theorem rxPackets_length_le (channel : Channel) (bytes : List UInt8) :
    (rxPackets channel bytes).length ≤ bytes.length / 24 + 1 := by
  have hstep : ∀ xs r used, xs ≠ [] → rxStep channel xs = .record r used → 24 ≤ used :=
    fun _ _ _ _ h => rxStep_progress h
  rw [rxPackets, List.length_append]
  exact scan_count_div (by norm_num) hstep bytes

/-- a request for more data ends the results -/
theorem rxPackets_needMoreData (channel : Channel) (bytes : List UInt8) :
    ∃ parsed last, rxPackets channel bytes = parsed ++ last ∧ last.length ≤ 1 ∧
      (∀ r ∈ parsed, r.outcome ≠ .needMoreData) ∧ ∀ r ∈ last, r.outcome = .needMoreData := by
  refine ⟨_, _, rfl, ?_, ?_, ?_⟩
  · cases (scan (rxStep channel) bytes).2 <;> simp
  · exact scan_forall (fun _ _ _ _ h => (rxStep_shape h).2.1) bytes
  · intro r hr
    exact scan_forall_halt (fun _ _ _ h => (rxStep_halt_shape h).2) bytes r (by simpa using hr)

/-! ## Counters -/

/-- how many results have this outcome -/
def countOutcome (outcome : RxParseOutcome) (packets : List ParsedRxPacket) : ℕ :=
  packets.countP (·.outcome = outcome)

@[simp] theorem countOutcome_nil (outcome : RxParseOutcome) : countOutcome outcome [] = 0 := rfl

theorem countOutcome_cons (outcome : RxParseOutcome) (parsed : ParsedRxPacket) (packets : List ParsedRxPacket) :
    countOutcome outcome (parsed :: packets) =
      countOutcome outcome packets + (if parsed.outcome = outcome then 1 else 0) := by
  simp [countOutcome, List.countP_cons]

theorem observeAll_rxFrames (counters : RuntimeRadioCounters) (packets : List ParsedRxPacket) :
    (counters.observeAll packets).rxFrames = satCount counters.rxFrames (countOutcome .frame packets) := by
  induction packets generalizing counters with
  | nil => rfl
  | cons parsed packets ih =>
    rw [RuntimeRadioCounters.observeAll, List.foldl_cons, ← RuntimeRadioCounters.observeAll, ih, countOutcome_cons]
    cases hout : parsed.outcome <;> simp [RuntimeRadioCounters.observe, satCount_succ]

theorem observeAll_droppedFrames (counters : RuntimeRadioCounters) (packets : List ParsedRxPacket) :
    (counters.observeAll packets).droppedFrames = satCount counters.droppedFrames (countOutcome .drop packets) := by
  induction packets generalizing counters with
  | nil => rfl
  | cons parsed packets ih =>
    rw [RuntimeRadioCounters.observeAll, List.foldl_cons, ← RuntimeRadioCounters.observeAll, ih, countOutcome_cons]
    cases hout : parsed.outcome <;> simp [RuntimeRadioCounters.observe, satCount_succ]

end WfbLink.Runtime
