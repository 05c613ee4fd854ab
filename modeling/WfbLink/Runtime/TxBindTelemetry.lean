/-
The telemetry of the TX binds.

A datagram is counted twice: under the bind it came in on, by what its handler returned, and in the totals, from the
counters of the bridge and of the submissions. The two agree as long as every frame that is submitted reaches the counters
of the submissions; without a bulk OUT endpoint it does not.

- `handleProductionBridgeTxDatagram_counts`: what a datagram adds to the counters.
- `runFlowLoop_addsUp`: over any run, when the binds and the totals agree.
- `missing_endpoint_failures_uncounted`: one datagram, and no bulk OUT endpoint.
-/
import WfbLink.Core.Tally
import WfbLink.Runtime.Flow
import WfbLink.Runtime.LoopProof

namespace WfbLink.Runtime

open WfbLink.Core WfbLink.RadioCore WfbLink.Bridge

/-! ## What becomes of a datagram -/

/-- what the telemetry of a bind makes of a result -/
inductive BindVerdict where
  | submitted
  | failed
  | dropped
deriving DecidableEq, Repr

section Datagram

variable {τ : Type}

def HandledDatagram.verdict (handled : HandledDatagram τ) : BindVerdict :=
  match handled.result with
  | .ok outcome => if outcome.metadata.isSome then .submitted else .dropped
  | .error _ => .failed

/-- the counters in the result, which the caller adopts -/
def HandledDatagram.reported (handled : HandledDatagram τ) : TxCounters × TxSubmitCounters :=
  match handled.result with
  | .ok outcome => (outcome.bridgeCounters, outcome.submitCounters)
  | .error error => (error.bridgeCounters, error.submitCounters)

/-- a datagram that parses, and of whose frame a packet can be built -/
def submittable (config : ProductionRuntimeBridgeTxConfig) (queued : ProductionRuntimeQueuedDatagram) : Bool :=
  match parseTxDatagram queued.data with
  | .ok (.ok parsed) =>
    match buildTxPacket parsed.ieee80211Frame config.channel
        (applyProductionBridgeTxOverrides config.overrides config.channelBandwidth parsed.txOptions) with
    | .ok (.ok _) => true
    | _ => false
  | _ => false

/-- what a datagram adds to the counters that the totals are read from -/
structure DatagramCounts (hasBulkOut canSubmit : Bool) (bridgeCounters : TxCounters) (submitCounters : TxSubmitCounters)
    (handled : HandledDatagram τ) : Prop where
  verdict : handled.verdict = .dropped ↔ canSubmit = false
  bulkOut : handled.verdict = .submitted → hasBulkOut = true
  dropped : handled.reported.1.dropped =
    if handled.verdict = .submitted then bridgeCounters.dropped else satAdd bridgeCounters.dropped 1
  submitted : handled.reported.2.submitted =
    if handled.verdict = .submitted then submitCounters.submitted + 1 else submitCounters.submitted
  failed : handled.reported.2.failed =
    if handled.verdict = .failed ∧ hasBulkOut = true then submitCounters.failed + 1
    else submitCounters.failed

/-- the failures that the totals miss: those of frames that found no endpoint -/
theorem DatagramCounts.missed {hasBulkOut canSubmit : Bool} {bridgeCounters : TxCounters}
    {submitCounters : TxSubmitCounters} {handled : HandledDatagram τ}
    (h : DatagramCounts hasBulkOut canSubmit bridgeCounters submitCounters handled) :
    (if handled.verdict = .failed then 1 else 0) = (if handled.verdict = .failed ∧ hasBulkOut = true then 1 else 0) +
      if hasBulkOut then 0 else if canSubmit = true then 1 else 0 := by
  cases hasBulkOut with
  | true => simp
  | false =>
    cases hverdict : handled.verdict with
    | submitted => cases h.bulkOut hverdict
    | failed =>
      have hcan : canSubmit = true := by
        rw [← Bool.not_eq_false, ← h.verdict, hverdict]
        exact nofun
      rw [hcan]
      rfl
    | dropped =>
      rw [h.verdict.1 hverdict]
      rfl

variable [UsbBulkTransfer τ]

/-- a frame that can be built is counted as submitted or failed, where there is an endpoint to write it to -/
theorem submit80211Frame_counts (session : RuntimeRadioSession τ) {frame packet : List UInt8} {channel : Channel}
    {options : TxOptions} (hbuild : buildTxPacket frame channel options = .ok (.ok packet))
    (txCounters : TxSubmitCounters) :
    ∃ result session' txCounters', submit80211Frame session frame channel options txCounters =
        .ok (result, session', txCounters') ∧ session'.endpoints = session.endpoints ∧
      (result.isOk = true → session.endpoints.bulkOut.isSome = true) ∧
      txCounters'.submitted = (if result.isOk = true then txCounters.submitted + 1 else txCounters.submitted) ∧
      txCounters'.failed = if result.isOk = false ∧ session.endpoints.bulkOut.isSome = true then txCounters.failed + 1
        else txCounters.failed := by
  rw [submit80211Frame]
  cases hout : session.endpoints.bulkOut with
  | none => exact ⟨_, _, _, rfl, rfl, by rintro ⟨⟩, rfl, rfl⟩
  | some bulkOut =>
    dsimp only
    rw [submitTxFrame, hbuild, checked_bind_ok]
    rcases hanswer : writeBulkTransfer session.transport bulkOut packet defaultTimeout with ⟨error | written, transport⟩
    · simp only [hanswer]
      exact ⟨_, _, _, rfl, rfl, fun _ => rfl, rfl, rfl⟩
    · by_cases hfull : written = packet.length
      · simp only [hanswer, if_pos hfull]
        exact ⟨_, _, _, rfl, rfl, fun _ => rfl, rfl, rfl⟩
      · simp only [hanswer, if_neg hfull]
        exact ⟨_, _, _, rfl, rfl, fun _ => rfl, rfl, rfl⟩

/-- **One datagram.** -/
theorem handleProductionBridgeTxDatagram_counts (session : RuntimeRadioSession τ)
    (queued : ProductionRuntimeQueuedDatagram) (config : ProductionRuntimeBridgeTxConfig) (bridgeCounters : TxCounters)
    (submitCounters : TxSubmitCounters) :
    ∃ handled, handleProductionBridgeTxDatagram session queued config bridgeCounters submitCounters = .ok handled ∧
      handled.session.endpoints = session.endpoints ∧
      DatagramCounts session.endpoints.bulkOut.isSome (submittable config queued) bridgeCounters submitCounters
        handled := by
  obtain ⟨parsed, hparse, -⟩ := parseTxDatagram_total queued.data
  rw [handleProductionBridgeTxDatagram, submittable, hparse, checked_bind_ok]
  cases parsed with
  | error error => exact ⟨_, rfl, rfl, iff_of_true rfl rfl, by rintro ⟨⟩, rfl, rfl, rfl⟩
  | ok parsed =>
    dsimp only
    obtain ⟨built, hbuild⟩ := buildTxPacket_total parsed.ieee80211Frame config.channel
      (applyProductionBridgeTxOverrides config.overrides config.channelBandwidth parsed.txOptions)
    rw [hbuild, checked_bind_ok]
    cases built with
    | error error => exact ⟨_, rfl, rfl, iff_of_true rfl rfl, by rintro ⟨⟩, rfl, rfl, rfl⟩
    | ok packet =>
      obtain ⟨observation, hobs⟩ := runtimeWfbChannelObservation_total parsed.ieee80211Frame
      obtain ⟨result, session', submitCounters', hsubmit, hendpoints, hbulkOut, hsubmitted, hfailed⟩ :=
        submit80211Frame_counts session hbuild submitCounters
      dsimp only
      rw [slice_ok (Nat.zero_le _) (min_le_right _ _), checked_bind_ok, hobs, checked_bind_ok, hsubmit,
        checked_bind_ok]
      cases result with
      | error error =>
        refine ⟨_, rfl, hendpoints, iff_of_false ?_ ?_, ?_, rfl, hsubmitted,
          hfailed.trans (if_congr (and_congr_left' (iff_of_true rfl rfl)) rfl rfl)⟩ <;> rintro ⟨⟩
      | ok written =>
        refine ⟨_, rfl, hendpoints, iff_of_false ?_ ?_, fun _ => hbulkOut rfl, rfl, hsubmitted, hfailed⟩ <;> rintro ⟨⟩

end Datagram

/-! ## The binds -/

/-- the binds stand in the order of their indices -/
def Indexed (txBinds : List RuntimeTxBindTelemetry) : Prop :=
  ∀ (i : ℕ) (bind : RuntimeTxBindTelemetry), txBinds[i]? = some bind → bind.reportIndex = i

theorem indexed_productionRuntimeTxBindTelemetry (bindAddrs : List SocketAddr) :
    Indexed (productionRuntimeTxBindTelemetry bindAddrs) := by
  intro i bind hbind
  rw [productionRuntimeTxBindTelemetry, List.getElem?_mapIdx] at hbind
  obtain ⟨addr, -, rfl⟩ := Option.map_eq_some_iff.1 hbind
  rfl

theorem Indexed.modify {txBinds : List RuntimeTxBindTelemetry} (h : Indexed txBinds) (i : ℕ)
    {f : RuntimeTxBindTelemetry → RuntimeTxBindTelemetry} (hf : ∀ bind, (f bind).reportIndex = bind.reportIndex) :
    Indexed (txBinds.modify i f) := by
  intro j bind hbind
  rw [List.getElem?_modify] at hbind
  obtain ⟨before, hbefore, rfl⟩ := Option.map_eq_some_iff.1 hbind
  rw [← h j before hbefore]
  split_ifs
  · exact hf before
  · rfl

/-- the first bind of an index is the one in its place -/
theorem Indexed.modifyBind {tx : RuntimeFlowTxTelemetry} (h : Indexed tx.txBinds) {i : ℕ} (hi : i < tx.txBinds.length)
    (f : RuntimeTxBindTelemetry → RuntimeTxBindTelemetry) :
    tx.modifyBind i f = { tx with txBinds := tx.txBinds.modify i f } := by
  have hfind : tx.txBinds.findIdx? (fun bind => bind.reportIndex == i) = some i := by
    refine List.findIdx?_eq_some_iff_getElem.2 ⟨hi, ?_, fun j hj => ?_⟩
    · rw [h i _ (List.getElem?_eq_getElem hi)]
      exact beq_self_eq_true i
    · rw [h j _ (List.getElem?_eq_getElem (hj.trans hi))]
      simpa using Nat.ne_of_lt hj
  rw [RuntimeFlowTxTelemetry.modifyBind, hfind]

/-- what a datagram leaves in the telemetry of its bind -/
def countVerdict (verdict : BindVerdict) (now : Option UInt64) (bind : RuntimeTxBindTelemetry) :
    RuntimeTxBindTelemetry :=
  { bind with
    datagramsReceived := satAdd bind.datagramsReceived 1
    submittedFrames := if verdict = .submitted then satAdd bind.submittedFrames 1 else bind.submittedFrames
    failedSubmissions := if verdict = .failed then satAdd bind.failedSubmissions 1 else bind.failedSubmissions
    droppedDatagrams := if verdict = .submitted then bind.droppedDatagrams else satAdd bind.droppedDatagrams 1
    lastSubmitUnixMs := if verdict = .submitted then now else bind.lastSubmitUnixMs }

theorem observeProductionRuntimeTxMetadata_binds (tx : RuntimeFlowTxTelemetry)
    (metadata : Option ProductionRuntimeBridgeTxDatagramMetadata) :
    (observeProductionRuntimeTxMetadata tx metadata).txBinds = tx.txBinds ∧
      (observeProductionRuntimeTxMetadata tx metadata).datagramsReceived = tx.datagramsReceived := by
  rw [observeProductionRuntimeTxMetadata]
  cases metadata.bind (·.wfbChannelObservation) with
  | none => exact ⟨rfl, rfl⟩
  | some observation => exact ⟨rfl, rfl⟩

/-- the totals are those of the counters -/
structure TotalsReported {ω : Type} (s : FlowLoopState ω) : Prop where
  submittedFrames : s.tx.submittedFrames = s.submitCounters.submitted
  failedSubmissions : s.tx.failedSubmissions = s.submitCounters.failed
  droppedDatagrams : s.tx.droppedDatagrams = s.bridgeCounters.dropped

section RecordTx

variable {ω : Type} [RuntimeHost ω]

/-- the outcome of a datagram, in the row of its bind -/
theorem applyProductionRuntimeTxBindOutcome_binds {tx : RuntimeFlowTxTelemetry} (h : Indexed tx.txBinds) {i : ℕ}
    (hi : i < tx.txBinds.length) (submitted failed dropped : Bool) (host : ω) :
    ∃ now, (applyProductionRuntimeTxBindOutcome tx i submitted failed dropped host).1.txBinds =
        tx.txBinds.modify i (fun bind =>
          { bind with
            submittedFrames := if submitted then satAdd bind.submittedFrames 1 else bind.submittedFrames
            lastSubmitUnixMs := if submitted then now else bind.lastSubmitUnixMs
            failedSubmissions := if failed then satAdd bind.failedSubmissions 1 else bind.failedSubmissions
            droppedDatagrams := if dropped then satAdd bind.droppedDatagrams 1 else bind.droppedDatagrams }) ∧
      (applyProductionRuntimeTxBindOutcome tx i submitted failed dropped host).1.datagramsReceived =
        tx.datagramsReceived := by
  unfold applyProductionRuntimeTxBindOutcome
  cases submitted with
  | true =>
    dsimp only
    rw [h.modifyBind hi]
    exact ⟨_, rfl, rfl⟩
  | false =>
    dsimp only
    rw [h.modifyBind hi]
    exact ⟨none, rfl, rfl⟩

/-- **What a handled datagram leaves.** -/
theorem recordTx_binds (s : FlowLoopState ω) {tx : RuntimeFlowTxTelemetry} (h : Indexed tx.txBinds) {i : ℕ}
    (hi : i < tx.txBinds.length) (handled : HandledDatagram ω) :
    ∃ now, (recordTx s (applyProductionRuntimeTxBindDatagram tx i) i handled).tx.txBinds =
        tx.txBinds.modify i (countVerdict handled.verdict now) ∧
      (recordTx s (applyProductionRuntimeTxBindDatagram tx i) i handled).tx.datagramsReceived = tx.datagramsReceived := by
  have hreceived : applyProductionRuntimeTxBindDatagram tx i =
      { tx with txBinds := tx.txBinds.modify i fun bind =>
          { bind with datagramsReceived := satAdd bind.datagramsReceived 1 } } := h.modifyBind hi _
  have hindexed : Indexed (applyProductionRuntimeTxBindDatagram tx i).txBinds := by
    rw [hreceived]
    exact h.modify i fun _ => rfl
  have hlength : i < (applyProductionRuntimeTxBindDatagram tx i).txBinds.length := by
    rw [hreceived, List.length_modify]
    exact hi
  rw [recordTx, HandledDatagram.verdict]
  rcases handled.result with error | outcome
  · obtain ⟨now, hbinds, hsame⟩ :=
      applyProductionRuntimeTxBindOutcome_binds hindexed hlength false true true handled.session.transport
    refine ⟨now, ?_, ?_⟩
    · refine (observeProductionRuntimeTxMetadata_binds _ _).1.trans (hbinds.trans ?_)
      rw [hreceived, List.modify_modify_eq]
      rfl
    · refine (observeProductionRuntimeTxMetadata_binds _ _).2.trans (hsame.trans ?_)
      rw [hreceived]
  · obtain ⟨now, hbinds, hsame⟩ := applyProductionRuntimeTxBindOutcome_binds hindexed hlength outcome.metadata.isSome
      false outcome.metadata.isNone handled.session.transport
    refine ⟨now, ?_, ?_⟩
    · refine (observeProductionRuntimeTxMetadata_binds _ _).1.trans (hbinds.trans ?_)
      rw [hreceived, List.modify_modify_eq]
      dsimp only
      cases outcome.metadata with
      | none => rfl
      | some metadata => rfl
    · refine (observeProductionRuntimeTxMetadata_binds _ _).2.trans (hsame.trans ?_)
      rw [hreceived]

theorem recordTx_counters (s : FlowLoopState ω) (tx : RuntimeFlowTxTelemetry) (i : ℕ) (handled : HandledDatagram ω) :
    (recordTx s tx i handled).session.endpoints = handled.session.endpoints ∧
      (recordTx s tx i handled).bridgeCounters = handled.reported.1 ∧
      (recordTx s tx i handled).submitCounters = handled.reported.2 ∧ TotalsReported (recordTx s tx i handled) := by
  rw [recordTx, HandledDatagram.reported]
  rcases handled.result with error | outcome
  · exact ⟨rfl, rfl, rfl, rfl, rfl, rfl⟩
  · exact ⟨rfl, rfl, rfl, rfl, rfl, rfl⟩

end RecordTx

/-! ## Rows and totals -/

/-- the sum of a counter over the binds -/
def bindSum (txBinds : List RuntimeTxBindTelemetry) (counter : RuntimeTxBindTelemetry → UInt64) : ℕ :=
  (txBinds.map fun bind => (counter bind).toNat).sum

/-- every datagram of a bind was submitted or dropped, and the binds sum up to the totals -/
structure TxAddsUp (tx : RuntimeFlowTxTelemetry) : Prop where
  bind : ∀ bind ∈ tx.txBinds,
    bind.datagramsReceived.toNat = bind.submittedFrames.toNat + bind.droppedDatagrams.toNat
  datagramsReceived : bindSum tx.txBinds (·.datagramsReceived) = tx.datagramsReceived.toNat
  submittedFrames : bindSum tx.txBinds (·.submittedFrames) = tx.submittedFrames.toNat
  failedSubmissions : bindSum tx.txBinds (·.failedSubmissions) = tx.failedSubmissions.toNat
  droppedDatagrams : bindSum tx.txBinds (·.droppedDatagrams) = tx.droppedDatagrams.toNat

/-- the row of a bind is consistent -/
structure RowAddsUp (bind : RuntimeTxBindTelemetry) : Prop where
  received : bind.datagramsReceived.toNat = bind.submittedFrames.toNat + bind.droppedDatagrams.toNat
  failed : bind.failedSubmissions.toNat ≤ bind.droppedDatagrams.toNat

/-- what a verdict adds to a row that is not full -/
theorem countVerdict_toNat {bind : RuntimeTxBindTelemetry} (hrow : RowAddsUp bind)
    (hfew : bind.datagramsReceived.toNat < u64Max) (verdict : BindVerdict) (now : Option UInt64) :
    (countVerdict verdict now bind).datagramsReceived.toNat = bind.datagramsReceived.toNat + 1 ∧
      (countVerdict verdict now bind).submittedFrames.toNat =
        bind.submittedFrames.toNat + (if verdict = .submitted then 1 else 0) ∧
      (countVerdict verdict now bind).failedSubmissions.toNat =
        bind.failedSubmissions.toNat + (if verdict = .failed then 1 else 0) ∧
      (countVerdict verdict now bind).droppedDatagrams.toNat =
        bind.droppedDatagrams.toNat + (if verdict = .submitted then 0 else 1) := by
  obtain ⟨hreceived, hfailed⟩ := hrow
  have h1 := satAdd_one hfew
  have h2 : (satAdd bind.submittedFrames 1).toNat = bind.submittedFrames.toNat + 1 := satAdd_one (by omega)
  have h3 : (satAdd bind.failedSubmissions 1).toNat = bind.failedSubmissions.toNat + 1 := satAdd_one (by omega)
  have h4 : (satAdd bind.droppedDatagrams 1).toNat = bind.droppedDatagrams.toNat + 1 := satAdd_one (by omega)
  cases verdict with
  | submitted => exact ⟨h1, h2, rfl, rfl⟩
  | failed => exact ⟨h1, rfl, h3, h4⟩
  | dropped => exact ⟨h1, rfl, rfl, h4⟩

theorem countVerdict_row {bind : RuntimeTxBindTelemetry} (hrow : RowAddsUp bind)
    (hfew : bind.datagramsReceived.toNat < u64Max) (verdict : BindVerdict) (now : Option UInt64) :
    RowAddsUp (countVerdict verdict now bind) := by
  obtain ⟨h1, h2, h3, h4⟩ := countVerdict_toNat hrow hfew verdict now
  obtain ⟨hreceived, hfailed⟩ := hrow
  constructor
  · rw [h1, h2, h4]
    cases verdict with
    | submitted => simp only [if_true]; omega
    | failed => simp only [reduceCtorEq, if_false]; omega
    | dropped => simp only [reduceCtorEq, if_false]; omega
  · rw [h3, h4]
    cases verdict with
    | submitted => simpa using hfailed
    | failed => simpa using hfailed
    | dropped => simp only [reduceCtorEq, if_false]; omega

/-! ## A run -/

/-- the variables of the loop, and the datagrams that the queue has delivered -/
structure Delivering (ω : Type) where
  host : FlowLoopState ω
  delivered : List ProductionRuntimeQueuedDatagram

/-- what the binds and the totals have to do with the datagrams so far -/
structure Accounted {ω : Type} (count : ℕ) (hasBulkOut : Bool) (config : ProductionRuntimeFlowConfig)
    (delivered : List ProductionRuntimeQueuedDatagram) (s : FlowLoopState ω) : Prop where
  endpoints : s.session.endpoints.bulkOut.isSome = hasBulkOut
  indexed : Indexed s.tx.txBinds
  length : s.tx.txBinds.length = count
  rows : ∀ bind ∈ s.tx.txBinds, RowAddsUp bind
  total : s.tx.datagramsReceived.toNat = delivered.length
  totals : TotalsReported s
  received : bindSum s.tx.txBinds (·.datagramsReceived) = delivered.length
  submitted : bindSum s.tx.txBinds (·.submittedFrames) = s.tx.submittedFrames.toNat
  /-- without an endpoint the totals miss the failures -/
  failed : bindSum s.tx.txBinds (·.failedSubmissions) = s.tx.failedSubmissions.toNat +
    if hasBulkOut then 0 else delivered.countP (submittable ⟨config.channel, config.bandwidth, {}⟩)
  dropped : bindSum s.tx.txBinds (·.droppedDatagrams) = s.tx.droppedDatagrams.toNat

theorem forall_modify {α : Type} {rows : List α} {i : ℕ} {f : α → α} {P : α → Prop} (hrows : ∀ row ∈ rows, P row)
    (hf : ∀ row, rows[i]? = some row → P (f row)) : ∀ row ∈ rows.modify i f, P row := by
  intro row hmem
  obtain ⟨j, hj⟩ := List.mem_iff_getElem?.1 hmem
  rw [List.getElem?_modify] at hj
  obtain ⟨before, hbefore, rfl⟩ := Option.map_eq_some_iff.1 hj
  split_ifs with hij
  · exact hf before (hij ▸ hbefore)
  · exact hrows before (List.mem_iff_getElem?.2 ⟨j, hbefore⟩)

theorem bindSum_modify {txBinds : List RuntimeTxBindTelemetry} {i n : ℕ} {bind : RuntimeTxBindTelemetry}
    (hbind : txBinds[i]? = some bind) {f : RuntimeTxBindTelemetry → RuntimeTxBindTelemetry}
    {counter : RuntimeTxBindTelemetry → UInt64} (hf : (counter (f bind)).toNat = (counter bind).toNat + n) :
    bindSum (txBinds.modify i f) counter = bindSum txBinds counter + n := sum_map_modify hbind hf

/-- no counter of a bind is larger than the sum over the binds -/
theorem le_bindSum {txBinds : List RuntimeTxBindTelemetry} {bind : RuntimeTxBindTelemetry} (hmem : bind ∈ txBinds)
    (counter : RuntimeTxBindTelemetry → UInt64) : (counter bind).toNat ≤ bindSum txBinds counter :=
  List.le_sum_of_mem (List.mem_map.2 ⟨bind, hmem, rfl⟩)

theorem bindSum_add {txBinds : List RuntimeTxBindTelemetry} {a b c : RuntimeTxBindTelemetry → UInt64}
    (h : ∀ bind ∈ txBinds, (a bind).toNat = (b bind).toNat + (c bind).toNat) :
    bindSum txBinds a = bindSum txBinds b + bindSum txBinds c := by
  unfold bindSum
  rw [← List.sum_map_add]
  exact congrArg List.sum (List.map_congr_left h)

theorem bindSum_le {txBinds : List RuntimeTxBindTelemetry} {a b : RuntimeTxBindTelemetry → UInt64}
    (h : ∀ bind ∈ txBinds, (a bind).toNat ≤ (b bind).toNat) : bindSum txBinds a ≤ bindSum txBinds b :=
  List.sum_le_sum h

section Run

variable {ω : Type} {count : ℕ} {hasBulkOut : Bool} {config : ProductionRuntimeFlowConfig}
  {delivered : List ProductionRuntimeQueuedDatagram} {s : FlowLoopState ω}

/-- no total is larger than the number of datagrams -/
theorem Accounted.totals_le (h : Accounted count hasBulkOut config delivered s) :
    s.submitCounters.submitted.toNat + s.bridgeCounters.dropped.toNat = delivered.length ∧
      s.submitCounters.failed.toNat ≤ s.bridgeCounters.dropped.toNat := by
  have hreceived : bindSum s.tx.txBinds (·.datagramsReceived) =
      bindSum s.tx.txBinds (·.submittedFrames) + bindSum s.tx.txBinds (·.droppedDatagrams) :=
    bindSum_add fun bind hbind => (h.rows bind hbind).received
  have hfailed : bindSum s.tx.txBinds (·.failedSubmissions) ≤ bindSum s.tx.txBinds (·.droppedDatagrams) :=
    bindSum_le fun bind hbind => (h.rows bind hbind).failed
  have h1 := h.received
  have h2 := h.submitted
  have h3 := h.failed
  have h4 := h.dropped
  rw [h.totals.submittedFrames] at h2
  rw [h.totals.failedSubmissions] at h3
  rw [h.totals.droppedDatagrams] at h4
  omega

/-- two states that count the same -/
structure SameCounts (s s' : FlowLoopState ω) : Prop where
  endpoints : s'.session.endpoints = s.session.endpoints
  tx : s'.tx = s.tx
  bridgeCounters : s'.bridgeCounters = s.bridgeCounters
  submitCounters : s'.submitCounters = s.submitCounters

theorem Accounted.same {s' : FlowLoopState ω} (h : Accounted count hasBulkOut config delivered s)
    (hsame : SameCounts s s') : Accounted count hasBulkOut config delivered s' := by
  obtain ⟨hendpoints, htx, hbridge, hsubmit⟩ := hsame
  obtain ⟨h1, h2, h3, h4, h5, ⟨h6, h7, h8⟩, h9, h10, h11, h12⟩ := h
  constructor
  · rw [hendpoints, h1]
  · rwa [htx]
  · rwa [htx]
  · rwa [htx]
  · rwa [htx]
  · exact ⟨by rw [htx, hsubmit, h6], by rw [htx, hsubmit, h7], by rw [htx, hbridge, h8]⟩
  · rwa [htx]
  · rwa [htx]
  · rwa [htx]
  · rwa [htx]

variable [RuntimeHost ω]

/-- **One datagram.** -/
theorem Accounted.record (h : Accounted count hasBulkOut config delivered s) {queued : ProductionRuntimeQueuedDatagram}
    (hindex : queued.reportIndex < count) (hfew : delivered.length < u64Max) {handled : HandledDatagram ω}
    (hendpoints : handled.session.endpoints.bulkOut.isSome = hasBulkOut)
    (hcounts : DatagramCounts hasBulkOut (submittable ⟨config.channel, config.bandwidth, {}⟩ queued) s.bridgeCounters
      s.submitCounters handled) (s₁ : FlowLoopState ω) :
    Accounted count hasBulkOut config (delivered ++ [queued])
      (recordTx s₁ (applyProductionRuntimeTxBindDatagram
        { s.tx with datagramsReceived := satAdd s.tx.datagramsReceived 1 } queued.reportIndex) queued.reportIndex
        handled) := by
  have hi : queued.reportIndex < s.tx.txBinds.length := h.length ▸ hindex
  obtain ⟨bind, hbind⟩ : ∃ bind, s.tx.txBinds[queued.reportIndex]? = some bind := ⟨_, List.getElem?_eq_getElem hi⟩
  have hmem : bind ∈ s.tx.txBinds := List.mem_iff_getElem?.2 ⟨_, hbind⟩
  have hroom : bind.datagramsReceived.toNat < u64Max := by
    have hle := le_bindSum hmem (·.datagramsReceived)
    rw [h.received] at hle
    exact hle.trans_lt hfew
  have hindexed : Indexed { s.tx with datagramsReceived := satAdd s.tx.datagramsReceived 1 }.txBinds := h.indexed
  obtain ⟨now, hbinds, hreceived⟩ := recordTx_binds s₁ hindexed hi handled
  obtain ⟨hendpoints', hbridge, hsubmit, htotals⟩ := recordTx_counters s₁ (applyProductionRuntimeTxBindDatagram
    { s.tx with datagramsReceived := satAdd s.tx.datagramsReceived 1 } queued.reportIndex) queued.reportIndex handled
  obtain ⟨h1, h2, h3, h4⟩ := countVerdict_toNat (h.rows bind hmem) hroom handled.verdict now
  obtain ⟨hsum, hle⟩ := h.totals_le
  have hlength : (delivered ++ [queued]).length = delivered.length + 1 := List.length_append
  -- no counter that the totals are read from is full
  have hsubmitted : handled.reported.2.submitted.toNat =
      s.submitCounters.submitted.toNat + if handled.verdict = .submitted then 1 else 0 := by
    rw [hcounts.submitted]
    split_ifs
    · rw [UInt64.toNat_add, UInt64.toNat_one]
      unfold u64Max at hfew
      omega
    · rfl
  have hdropped : handled.reported.1.dropped.toNat =
      s.bridgeCounters.dropped.toNat + if handled.verdict = .submitted then 0 else 1 := by
    rw [hcounts.dropped]
    split_ifs
    · rfl
    · exact satAdd_one (by omega)
  have hfailed : handled.reported.2.failed.toNat =
      s.submitCounters.failed.toNat + if handled.verdict = .failed ∧ hasBulkOut = true then 1 else 0 := by
    rw [hcounts.failed]
    split_ifs
    · rw [UInt64.toNat_add, UInt64.toNat_one]
      unfold u64Max at hfew
      omega
    · rfl
  constructor
  · rw [hendpoints', hendpoints]
  · rw [hbinds]
    exact h.indexed.modify _ fun _ => rfl
  · rw [hbinds, List.length_modify]
    exact h.length
  · rw [hbinds]
    refine forall_modify h.rows fun row hrow => ?_
    rw [Option.some.inj (hrow.symm.trans hbind)]
    exact countVerdict_row (h.rows bind hmem) hroom _ _
  · rw [hreceived, hlength, ← h.total]
    exact satAdd_one (h.total ▸ hfew)
  · exact htotals
  · rw [hbinds, bindSum_modify hbind h1, hlength, ← h.received]
  · rw [hbinds, bindSum_modify hbind h2, h.submitted, htotals.submittedFrames, hsubmit, hsubmitted,
      h.totals.submittedFrames]
  · rw [hbinds, bindSum_modify hbind h3, h.failed, htotals.failedSubmissions, hsubmit, hfailed,
      h.totals.failedSubmissions, List.countP_append, List.countP_singleton]
    have hmissed := hcounts.missed
    cases hasBulkOut with
    | true => simp
    | false =>
      simp only [Bool.false_eq_true, and_false, if_false] at hmissed ⊢
      omega
  · rw [hbinds, bindSum_modify hbind h4, h.dropped, htotals.droppedDatagrams, hbridge, hdropped,
      h.totals.droppedDatagrams]

/-! ## The hooks -/

/-- the closures of the loop, with the datagrams that they take from the queue -/
def delivering (config : ProductionRuntimeFlowConfig) (inputs : ProductionRuntimeFlowExecutionInputs) :
    BridgeLoopHooks (Delivering ω) FlowFault where
  instantNow w := (((flowHooks config inputs).instantNow w.host).1,
    { w with host := ((flowHooks config inputs).instantNow w.host).2 })
  onIterationStart now w := { w with host := (flowHooks config inputs).onIterationStart now w.host }
  stopRequested w := (((flowHooks config inputs).stopRequested w.host).1,
    { w with host := ((flowHooks config inputs).stopRequested w.host).2 })
  handleStep step w :=
    let queued := match step with
      | .tryTx => (tryRecv w.host.session.transport).1.toOption.toList
      | .readRx _ => []
    (((flowHooks config inputs).handleStep step w.host).1,
      { host := ((flowHooks config inputs).handleStep step w.host).2, delivered := w.delivered ++ queued })

theorem readRxPackets_endpoints {τ : Type} [UsbBulkTransfer τ] {n : ℕ} {session session' : RuntimeRadioSession τ}
    {channel : Channel} {buffer buffer' : ByteBuf n} {timeout : ℕ} {result : Except RuntimeRadioError RuntimeRxRead}
    (h : readRxPackets session channel buffer timeout = .ok (result, buffer', session')) :
    session'.endpoints = session.endpoints := by
  rw [readRxPackets] at h
  cases hbulkIn : session.endpoints.bulkIn with
  | none =>
    rw [hbulkIn] at h
    cases h
    rfl
  | some bulkIn =>
    rw [hbulkIn] at h
    dsimp only at h
    split at h
    · cases h
      rfl
    · obtain ⟨⟨counters, packets⟩, -, h⟩ := except_bind_ok h
      cases h
      rfl

/-- packets are counted on the RX side -/
theorem sameCounts_handleRxPackets (s : FlowLoopState ω) (packets : List ParsedRxPacket) :
    SameCounts s (handleRxPackets s packets).2 := by
  rw [handleRxPackets]
  split
  · exact ⟨rfl, rfl, rfl, rfl⟩
  · exact ⟨rfl, rfl, rfl, rfl⟩
  · exact ⟨rfl, rfl, rfl, rfl⟩

/-- a read leaves the TX side alone -/
theorem sameCounts_handleReadRx (inputs : ProductionRuntimeFlowExecutionInputs) (timeout : ℕ) (s : FlowLoopState ω) :
    SameCounts s (handleReadRx config inputs timeout s).2 := by
  rw [handleReadRx]
  rcases hread : readRxPackets s.session config.channel s.rxBuf timeout with panic | ⟨error | read, rxBuf, session⟩
  · exact ⟨rfl, rfl, rfl, rfl⟩
  · have hendpoints := readRxPackets_endpoints hread
    dsimp only
    split_ifs
    · exact ⟨hendpoints, rfl, rfl, rfl⟩
    · rcases hstop : onTransport (flowStopRequested inputs) { s with session, rxBuf } with ⟨_ | _, s'⟩
      · rw [← show _ = s' from congrArg Prod.snd hstop]
        exact ⟨hendpoints, rfl, rfl, rfl⟩
      · rw [← show _ = s' from congrArg Prod.snd hstop]
        exact ⟨hendpoints, rfl, rfl, rfl⟩
  · have hendpoints := readRxPackets_endpoints hread
    dsimp only
    split_ifs
    · exact ⟨hendpoints, rfl, rfl, rfl⟩
    · obtain ⟨h1, h2, h3, h4⟩ := sameCounts_handleRxPackets
        { s with session, rxBuf, rx := { s.rx with buffersRead := satAdd s.rx.buffersRead 1 } } read.packets
      exact ⟨h1.trans hendpoints, h2, h3, h4⟩

/-- the datagrams so far are accounted for, if they have a bind each and the counters can hold their number -/
def DeliveriesAccounted (count : ℕ) (hasBulkOut : Bool) (config : ProductionRuntimeFlowConfig) (w : Delivering ω) : Prop :=
  (∀ queued ∈ w.delivered, queued.reportIndex < count) → w.delivered.length ≤ u64Max →
    Accounted count hasBulkOut config w.delivered w.host

/-- **One TX step.** -/
theorem deliveriesAccounted_tryTx (inputs : ProductionRuntimeFlowExecutionInputs) (w : Delivering ω)
    (hw : DeliveriesAccounted count hasBulkOut config w) :
    DeliveriesAccounted count hasBulkOut config ((delivering config inputs).handleStep .tryTx w).2 := by
  obtain ⟨s, delivered⟩ := w
  intro hindices hfew
  rcases hrecv : tryRecv s.session.transport with ⟨error | queued, transport⟩
  · have hnone : ((delivering config inputs).handleStep .tryTx ⟨s, delivered⟩).2 =
        ⟨s.withTransport transport, delivered⟩ := by
      cases error with
      | empty => simp [delivering, flowHooks, handleTryTx, onTransport, hrecv, Except.toOption]
      | disconnected => simp [delivering, flowHooks, handleTryTx, onTransport, hrecv, Except.toOption]
    rw [hnone] at hindices hfew ⊢
    exact (hw hindices hfew).same ⟨rfl, rfl, rfl, rfl⟩
  · obtain ⟨handled, hhandled, hendpoints, hcounts⟩ := handleProductionBridgeTxDatagram_counts
      (s.withTransport transport).session queued ⟨config.channel, config.bandwidth, {}⟩ s.bridgeCounters
      s.submitCounters
    have hone : ((delivering config inputs).handleStep .tryTx ⟨s, delivered⟩).2 =
        ⟨recordTx (s.withTransport transport) (applyProductionRuntimeTxBindDatagram
          { s.tx with datagramsReceived := satAdd s.tx.datagramsReceived 1 } queued.reportIndex) queued.reportIndex
          handled, delivered ++ [queued]⟩ := by
      have hstep : handleTryTx config s = (.ok .txProcessed, recordTx (s.withTransport transport)
          (applyProductionRuntimeTxBindDatagram
            { s.tx with datagramsReceived := satAdd s.tx.datagramsReceived 1 } queued.reportIndex) queued.reportIndex
          handled) := by
        rw [handleTryTx, onTransport, hrecv]
        dsimp only
        rw [show handleProductionBridgeTxDatagram (s.withTransport transport).session queued
          ⟨config.channel, config.bandwidth, {}⟩ (s.withTransport transport).bridgeCounters
          (s.withTransport transport).submitCounters = .ok handled from hhandled]
        rfl
      dsimp only [delivering, flowHooks]
      rw [hstep, hrecv]
      rfl
    rw [hone] at hindices hfew ⊢
    dsimp only at hindices hfew ⊢
    rw [List.length_append, List.length_singleton] at hfew
    have hbefore := hw (fun queued hmem => hindices queued (List.mem_append_left _ hmem)) (Nat.le_of_succ_le hfew)
    have hhere : s.session.endpoints.bulkOut.isSome = hasBulkOut := hbefore.endpoints
    rw [show (s.withTransport transport).session.endpoints.bulkOut.isSome = hasBulkOut from hhere] at hcounts
    exact hbefore.record (hindices queued (List.mem_append_right _ (List.mem_singleton_self _))) hfew
      (by rw [hendpoints]; exact hhere) hcounts _

/-- every closure of the loop keeps the accounts -/
theorem hookInvariant_deliveriesAccounted (inputs : ProductionRuntimeFlowExecutionInputs) :
    HookInvariant (delivering (ω := ω) config inputs) (DeliveriesAccounted count hasBulkOut config) where
  instantNow w hw hindices hfew := (hw hindices hfew).same ⟨rfl, rfl, rfl, rfl⟩
  onIterationStart now w hw hindices hfew := (hw hindices hfew).same ⟨rfl, rfl, rfl, rfl⟩
  stopRequested w hw hindices hfew := (hw hindices hfew).same ⟨rfl, rfl, rfl, rfl⟩
  handleStep step w hw := by
    cases step with
    | tryTx => exact deliveriesAccounted_tryTx inputs w hw
    | readRx timeout =>
      intro hindices hfew
      have hnone : ((delivering config inputs).handleStep (.readRx timeout) w).2.delivered = w.delivered :=
        List.append_nil _
      rw [hnone] at hindices hfew ⊢
      exact (hw hindices hfew).same (sameCounts_handleReadRx inputs timeout w.host)

/-! ## Runs of the loop -/

/-- the TX telemetry that the report of a run takes from the variables of the loop -/
def FlowLoopState.reportedTx (s : FlowLoopState ω) (ingress : ProductionRuntimeTxIngressTelemetry) :
    RuntimeFlowTxTelemetry :=
  applyProductionRuntimeTxIngressTelemetry (applyProductionRuntimeTxTelemetry s.tx s.bridgeCounters s.submitCounters)
    ingress

/-- nothing has been counted for these addresses -/
structure FreshTx (bindAddrs : List SocketAddr) (s : FlowLoopState ω) : Prop where
  tx : s.tx = { txBinds := productionRuntimeTxBindTelemetry bindAddrs }
  bridgeCounters : s.bridgeCounters = {}
  submitCounters : s.submitCounters = {}

/-- the binds and the totals agree exactly if every frame that could be built had an endpoint to go to -/
def AddsUpWithEndpoint (count : ℕ) (hasBulkOut : Bool) (config : ProductionRuntimeFlowConfig) (w : Delivering ω) : Prop :=
  (∀ queued ∈ w.delivered, queued.reportIndex < count) → w.delivered.length ≤ u64Max →
    ∀ ingress, (TxAddsUp (w.host.reportedTx ingress) ↔
      (hasBulkOut = true ∨ ∀ queued ∈ w.delivered, submittable ⟨config.channel, config.bandwidth, {}⟩ queued = false))

omit [RuntimeHost ω]

theorem bindSum_fresh (bindAddrs : List SocketAddr) {counter : RuntimeTxBindTelemetry → UInt64}
    (hzero : ∀ reportIndex bindAddr, counter { reportIndex, bindAddr } = 0) :
    bindSum (productionRuntimeTxBindTelemetry bindAddrs) counter = 0 := by
  refine List.sum_eq_zero fun n hn => ?_
  obtain ⟨bind, hbind, rfl⟩ := List.mem_map.1 hn
  obtain ⟨i, hi, rfl⟩ := List.mem_mapIdx.1 hbind
  rw [hzero]
  rfl

theorem FreshTx.accounted {bindAddrs : List SocketAddr} (h : FreshTx bindAddrs s) (config : ProductionRuntimeFlowConfig) :
    Accounted bindAddrs.length s.session.endpoints.bulkOut.isSome config [] s := by
  obtain ⟨htx, hbridge, hsubmit⟩ := h
  constructor
  · rfl
  · rw [htx]
    exact indexed_productionRuntimeTxBindTelemetry bindAddrs
  · rw [htx]
    exact List.length_mapIdx
  · rw [htx]
    intro bind hbind
    obtain ⟨i, hi, rfl⟩ := List.mem_mapIdx.1 hbind
    exact ⟨rfl, le_rfl⟩
  · rw [htx]
    rfl
  · exact ⟨by rw [htx, hsubmit], by rw [htx, hsubmit], by rw [htx, hbridge]⟩
  · rw [htx]
    exact bindSum_fresh bindAddrs fun _ _ => rfl
  · rw [htx]
    exact bindSum_fresh bindAddrs fun _ _ => rfl
  · rw [htx, List.countP_nil, ite_self]
    exact bindSum_fresh bindAddrs fun _ _ => rfl
  · rw [htx]
    exact bindSum_fresh bindAddrs fun _ _ => rfl

/-- accounts without missed failures add up -/
theorem Accounted.addsUp_iff (h : Accounted count hasBulkOut config delivered s)
    (ingress : ProductionRuntimeTxIngressTelemetry) :
    TxAddsUp (s.reportedTx ingress) ↔
      (hasBulkOut = true ∨ ∀ queued ∈ delivered, submittable ⟨config.channel, config.bandwidth, {}⟩ queued = false) := by
  have hfailed : bindSum s.tx.txBinds (·.failedSubmissions) = s.submitCounters.failed.toNat +
      if hasBulkOut then 0 else delivered.countP (submittable ⟨config.channel, config.bandwidth, {}⟩) := by
    rw [← h.totals.failedSubmissions]
    exact h.failed
  constructor
  · intro hadds
    cases hasBulkOut with
    | true => exact Or.inl rfl
    | false =>
      have hsame : bindSum s.tx.txBinds (·.failedSubmissions) = s.submitCounters.failed.toNat := hadds.failedSubmissions
      rw [hsame, if_neg Bool.false_ne_true, Nat.left_eq_add, List.countP_eq_zero] at hfailed
      exact Or.inr fun queued hmem => Bool.eq_false_iff.2 (hfailed queued hmem)
  · intro hcondition
    have hnone : (if hasBulkOut then 0 else
        delivered.countP (submittable ⟨config.channel, config.bandwidth, {}⟩)) = 0 := by
      rcases hcondition with hout | hnone
      · rw [if_pos hout]
      · rw [List.countP_eq_zero.2 fun queued hmem => Bool.eq_false_iff.1 (hnone queued hmem), ite_self]
    rw [hnone, Nat.add_zero] at hfailed
    constructor
    · exact fun bind hbind => (h.rows bind hbind).received
    · exact h.received.trans h.total.symm
    · exact h.submitted.trans (congrArg UInt64.toNat h.totals.submittedFrames)
    · exact hfailed
    · exact h.dropped.trans (congrArg UInt64.toNat h.totals.droppedDatagrams)

variable [RuntimeHost ω]

/-- **Per-bind telemetry.** In every run of the loop whose datagrams have a bind each, and are no more than the counters
hold, every state it reaches reports binds that add up exactly if the session has a bulk OUT endpoint, or if no datagram
so far was one that a packet can be built of. -/
theorem runFlowLoop_addsUp (config : ProductionRuntimeFlowConfig) (inputs : ProductionRuntimeFlowExecutionInputs)
    {bindAddrs : List SocketAddr} {s : FlowLoopState ω} (hfresh : FreshTx bindAddrs s) (fuel : ℕ) :
    (runProductionBridgeLoop (delivering config inputs) (flowLoopConfig config) ⟨s, []⟩ fuel).Sat
      (fun looped => AddsUpWithEndpoint bindAddrs.length s.session.endpoints.bulkOut.isSome config looped.host)
      (fun result => AddsUpWithEndpoint bindAddrs.length s.session.endpoints.bulkOut.isSome config result.2) := by
  have hstart : DeliveriesAccounted bindAddrs.length s.session.endpoints.bulkOut.isSome config ⟨s, []⟩ :=
    fun _ _ => hfresh.accounted config
  refine Looped.Sat.weaken ((hookInvariant_deliveriesAccounted inputs).run (flowLoopConfig config) hstart fuel) ?_ ?_
  · exact fun looped h hindices hfew => (h hindices hfew).addsUp_iff
  · exact fun result h hindices hfew => (h hindices hfew).addsUp_iff

end Run

/-! ## One datagram -/

/-- a world whose queue holds these datagrams; the rest is as in a world where everything works -/
structure QueueHost where
  queue : List ProductionRuntimeQueuedDatagram
  rest : WorkingHost := {}

instance : UsbBulkTransfer QueueHost where
  readBulkTransfer host _ data _ := (.error (.rusb .timeout), data, host)
  writeBulkTransfer host _ data _ := (.ok data.length, host)

instance : Rtl8812auUsbTransport QueueHost where
  readVendor {n} host _ _ data _ := (.ok n, data, host)
  writeVendor host _ _ data _ := (.ok data.length, host)

instance : DatagramHost QueueHost where
  sendTo host _ packet _ := (.ok packet.length, host)
  runtimeUnixMs host := (0, host)

instance : RuntimeHost QueueHost where
  instantNow host := ((instantNow host.rest).1, { host with rest := (instantNow host.rest).2 })
  processStopRequested host := (false, host)
  externalStopRequested host := (false, host)
  writeFile host _ _ := (.ok (), host)
  udpBind host addr := ((udpBind host.rest addr).1, host)
  setUdpReceiveBuffer host _ _ := (.ok (), host)
  setReadTimeout host _ _ := (.ok (), host)
  spawnReceiver host _ := (.ok (), host)
  tryRecv host := match host.queue with
    | [] => (.error .empty, host)
    | queued :: queue => (.ok queued, { host with queue })
  ingressTelemetry host := ({}, host)

/-- a loop with one bind and one datagram for it -/
def queueState (bulkOut : Option UInt8) : FlowLoopState QueueHost where
  session := { transport := { queue := [sampleDatagram] }, endpoints := ⟨some 0x84, bulkOut⟩ }
  heartbeat := .new {} 0
  tx := { txBinds := productionRuntimeTxBindTelemetry [⟨"127.0.0.1", 5600⟩] }
  rxForwards := []

def queueRun (bulkOut : Option UInt8) :
    Looped (BridgeLoopState (Delivering QueueHost)) (BridgeLoopResult (Delivering QueueHost) FlowFault) :=
  runProductionBridgeLoop (delivering (sampleFlowConfig ⟨36, 5180, .ghz5⟩ .mhz20) {})
    (flowLoopConfig (sampleFlowConfig ⟨36, 5180, .ghz5⟩ .mhz20)) ⟨queueState bulkOut, []⟩ 1

def runningTx : Looped (BridgeLoopState (Delivering QueueHost)) (BridgeLoopResult (Delivering QueueHost) FlowFault) →
    List ProductionRuntimeQueuedDatagram × RuntimeFlowTxTelemetry
  | .running looped => (looped.host.delivered, looped.host.host.reportedTx {})
  | .stopped result => (result.2.delivered, result.2.host.reportedTx {})

theorem queueState_fresh (bulkOut : Option UInt8) : FreshTx [⟨"127.0.0.1", 5600⟩] (queueState bulkOut) :=
  ⟨rfl, rfl, rfl⟩

/-- with an endpoint, the binds add up -/
theorem runFlowLoop_addsUp_sample :
    (runningTx (queueRun (some 0x05))).2.submittedFrames = 1 ∧
      (queueRun (some 0x05)).Sat
        (fun looped => AddsUpWithEndpoint 1 true (sampleFlowConfig ⟨36, 5180, .ghz5⟩ .mhz20) looped.host)
        (fun result => AddsUpWithEndpoint 1 true (sampleFlowConfig ⟨36, 5180, .ghz5⟩ .mhz20) result.2) :=
  ⟨by decide +kernel, runFlowLoop_addsUp (sampleFlowConfig ⟨36, 5180, .ghz5⟩ .mhz20) {} (queueState_fresh (some 0x05)) 1⟩

/-- without one, the bind has a failed submission that the total has not -/
theorem missing_endpoint_failures_uncounted :
    (runningTx (queueRun none)).1 = [sampleDatagram] ∧ sampleDatagram.reportIndex < 1 ∧
      (runningTx (queueRun none)).2.txBinds.map (·.failedSubmissions) = [1] ∧
      (runningTx (queueRun none)).2.failedSubmissions = 0 ∧ ¬ TxAddsUp (runningTx (queueRun none)).2 := by
  have hdelivered : (runningTx (queueRun none)).1 = [sampleDatagram] := by decide +kernel
  have hbinds : (runningTx (queueRun none)).2.txBinds.map (·.failedSubmissions) = [1] := by decide +kernel
  have htotal : (runningTx (queueRun none)).2.failedSubmissions = 0 := by decide +kernel
  refine ⟨hdelivered, by decide, hbinds, htotal, fun hadds => ?_⟩
  have hsum := hadds.failedSubmissions
  have hmap : (runningTx (queueRun none)).2.txBinds.map (fun bind => bind.failedSubmissions.toNat) =
      ((runningTx (queueRun none)).2.txBinds.map (·.failedSubmissions)).map UInt64.toNat := (List.map_map ..).symm
  rw [bindSum, hmap, hbinds, htotal] at hsum
  exact absurd hsum (by decide)

end WfbLink.Runtime
