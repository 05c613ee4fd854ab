/-
Conservation of the TX counters.

Three layers count what becomes of a frame: the submission counters, the counters of the session, and the counters of
the bridge. A call has one of a few outcomes, and each outcome adds the same to all three layers whatever the entry
point was; what a run of calls adds is the sum over its calls.

- `TxCall.run_totals`: one call adds what its outcome adds.
- `runTxCalls_conserves`: over a run in which no counter saturates, the counters balance.
-/
import WfbLink.Runtime.TxDatagram

namespace WfbLink.Runtime

open WfbLink.Core WfbLink.RadioCore WfbLink.Bridge

/-! ## Calls -/

structure TxState (τ : Type) where
  session : RuntimeRadioSession τ
  bridgeCounters : TxCounters := {}
  submitCounters : TxSubmitCounters := {}

/-- the entry points that submit frames -/
inductive TxCall where
  | submit80211Frame (frame : List UInt8) (channel : Channel) (options : TxOptions)
  | submitRawTxPacket (packet : List UInt8) (timeout : ℕ)
  | handleDatagram (queued : ProductionRuntimeQueuedDatagram) (config : ProductionRuntimeBridgeTxConfig)

section Calls

variable {τ : Type} [UsbBulkTransfer τ]

def TxCall.run (s : TxState τ) : TxCall → Checked (TxState τ)
  | .submit80211Frame frame channel options => do
    let (_, session, submitCounters) ← Runtime.submit80211Frame s.session frame channel options s.submitCounters
    return { s with session, submitCounters }
  | .submitRawTxPacket packet timeout =>
    let (_, session, submitCounters) := Runtime.submitRawTxPacket s.session packet s.submitCounters timeout
    return { s with session, submitCounters }
  | .handleDatagram queued config => do
    let handled ← handleProductionBridgeTxDatagram s.session queued config s.bridgeCounters s.submitCounters
    return { session := handled.session, bridgeCounters := handled.bridgeCounters, submitCounters := handled.submitCounters }

def runTxCalls (s : TxState τ) : List TxCall → Checked (TxState τ)
  | [] => return s
  | call :: calls => do
    let s ← call.run s
    runTxCalls s calls

/-! ## Outcomes -/

/-- what becomes of a frame that is submitted -/
inductive Submission where
  | submitted
  | rejected
  | shortWrite
  | usbFailed
deriving DecidableEq, Repr

inductive TxOutcome where
  | submission (sent : Submission)
  /-- a datagram that was submitted -/
  | datagram (sent : Submission)
  /-- a datagram that was dropped before -/
  | malformed (unsupportedRadiotap : Bool)
deriving DecidableEq, Repr

/-- what the transport made of a packet -/
def Submission.ofAnswer (packet : List UInt8) : Except UsbError ℕ → Submission
  | .ok written => if written = packet.length then .submitted else .shortWrite
  | .error _ => .usbFailed

def packetSubmission (session : RuntimeRadioSession τ) (packet : List UInt8) (timeout : ℕ) : Submission :=
  match session.endpoints.bulkOut with
  | none => .rejected
  | some bulkOut => .ofAnswer packet (writeBulkTransfer session.transport bulkOut packet timeout).1

def frameSubmission (session : RuntimeRadioSession τ) (frame : List UInt8) (channel : Channel) (options : TxOptions) :
    Submission :=
  match buildTxPacket frame channel options with
  | .ok (.ok packet) => packetSubmission session packet defaultTimeout
  | _ => .rejected

def TxCall.outcome (s : TxState τ) : TxCall → TxOutcome
  | .submit80211Frame frame channel options => .submission (frameSubmission s.session frame channel options)
  | .submitRawTxPacket packet timeout => .submission (packetSubmission s.session packet timeout)
  | .handleDatagram queued config =>
    match parseTxDatagram queued.data with
    | .ok (.ok parsed) =>
      let txOptions := applyProductionBridgeTxOverrides config.overrides config.channelBandwidth parsed.txOptions
      match buildTxPacket parsed.ieee80211Frame config.channel txOptions with
      | .ok (.ok _) => .datagram (frameSubmission s.session parsed.ieee80211Frame config.channel txOptions)
      | _ => .malformed false
    | .ok (.error error) => .malformed (isUnsupportedRuntimeRadiotap error)
    | .error _ => .malformed false

end Calls

/-! ## Totals -/

/-- the counters of all three layers -/
inductive TxCounter where
  | attempted
  | submitted
  | rejected
  | failed
  | shortWrites
  | usbBulkOutWrites
  | txFrames
  | droppedFrames
  | incoming
  | injected
  | dropped
  | malformed
  | unsupportedRadiotap
deriving DecidableEq, Repr

/-- a number for each counter; totals add up counter by counter -/
abbrev TxTotals : Type := TxCounter → ℕ

def TxState.totals {τ : Type} (s : TxState τ) : TxTotals
  | .attempted => s.submitCounters.attempted.toNat
  | .submitted => s.submitCounters.submitted.toNat
  | .rejected => s.submitCounters.rejected.toNat
  | .failed => s.submitCounters.failed.toNat
  | .shortWrites => s.submitCounters.shortWrites.toNat
  | .usbBulkOutWrites => s.session.counters.usbBulkOutWrites.toNat
  | .txFrames => s.session.counters.txFrames.toNat
  | .droppedFrames => s.session.counters.droppedFrames.toNat
  | .incoming => s.bridgeCounters.incoming.toNat
  | .injected => s.bridgeCounters.injected.toNat
  | .dropped => s.bridgeCounters.dropped.toNat
  | .malformed => s.bridgeCounters.malformed.toNat
  | .unsupportedRadiotap => s.bridgeCounters.unsupportedRadiotap.toNat

namespace TxTotals

/-- no counter is too large for a `u64` -/
def Fits (t : TxTotals) : Prop := ∀ counter, t counter < 2 ^ 64

/-- every frame is accounted for -/
structure Balanced (t : TxTotals) : Prop where
  attempted : t .attempted = t .submitted + t .rejected + t .failed
  shortWrites : t .shortWrites ≤ t .failed
  incoming : t .incoming = t .injected + t .dropped
  malformed : t .malformed ≤ t .dropped
  unsupportedRadiotap : t .unsupportedRadiotap ≤ t .malformed

/-- the session counts what the submission counters count -/
structure Agrees (t : TxTotals) : Prop where
  usbBulkOutWrites : t .usbBulkOutWrites = t .submitted + t .failed
  txFrames : t .txFrames = t .submitted
  droppedFrames : t .droppedFrames = t .rejected + t .failed

variable {a b : TxTotals}

theorem Fits.of_add (h : (a + b).Fits) : a.Fits := by
  intro counter
  have hsum := h counter
  rw [Pi.add_apply] at hsum
  omega

theorem Balanced.add (ha : a.Balanced) (hb : b.Balanced) : (a + b).Balanced := by
  obtain ⟨ha1, ha2, ha3, ha4, ha5⟩ := ha
  obtain ⟨hb1, hb2, hb3, hb4, hb5⟩ := hb
  constructor
  all_goals
    simp only [Pi.add_apply]
    omega

theorem Agrees.add (ha : a.Agrees) (hb : b.Agrees) : (a + b).Agrees := by
  obtain ⟨ha1, ha2, ha3⟩ := ha
  obtain ⟨hb1, hb2, hb3⟩ := hb
  constructor
  all_goals
    simp only [Pi.add_apply]
    omega

theorem zero_balanced : (0 : TxTotals).Balanced := ⟨rfl, le_rfl, rfl, le_rfl, le_rfl⟩

theorem zero_agrees : (0 : TxTotals).Agrees := ⟨rfl, rfl, rfl⟩

end TxTotals

/-- what a submission adds -/
def Submission.delta : Submission → TxTotals
  | _, .attempted => 1
  | .submitted, .submitted | .submitted, .usbBulkOutWrites | .submitted, .txFrames => 1
  | .rejected, .rejected | .rejected, .droppedFrames => 1
  | .shortWrite, .failed | .shortWrite, .shortWrites | .shortWrite, .usbBulkOutWrites | .shortWrite, .droppedFrames => 1
  | .usbFailed, .failed | .usbFailed, .usbBulkOutWrites | .usbFailed, .droppedFrames => 1
  | _, _ => 0

/-- what the bridge adds for a datagram that it submits -/
def Submission.bridgeDelta : Submission → TxTotals
  | _, .incoming => 1
  | .submitted, .injected => 1
  | .submitted, .dropped => 0
  | _, .dropped => 1
  | _, _ => 0

def TxOutcome.delta : TxOutcome → TxTotals
  | .submission sent => sent.delta
  | .datagram sent => sent.delta + sent.bridgeDelta
  | .malformed unsupportedRadiotap => fun
    | .incoming | .dropped | .malformed => 1
    | .unsupportedRadiotap => unsupportedRadiotap.toNat
    | _ => 0

theorem TxOutcome.delta_balanced (outcome : TxOutcome) : outcome.delta.Balanced := by
  cases outcome with
  | submission sent => cases sent <;> constructor <;> decide
  | datagram sent => cases sent <;> constructor <;> decide
  | malformed unsupportedRadiotap => cases unsupportedRadiotap <;> constructor <;> decide

theorem TxOutcome.delta_agrees (outcome : TxOutcome) : outcome.delta.Agrees := by
  cases outcome with
  | submission sent => cases sent <;> constructor <;> decide
  | datagram sent => cases sent <;> constructor <;> decide
  | malformed unsupportedRadiotap => cases unsupportedRadiotap <;> constructor <;> decide

section Steps

variable {τ : Type} [UsbBulkTransfer τ]

/-- what a run of calls counts, call by call -/
def txTally (s : TxState τ) : List TxCall → TxTotals
  | [] => 0
  | call :: calls =>
    (call.outcome s).delta +
      match call.run s with
      | .ok s => txTally s calls
      | .error _ => 0

/-! ## One call -/

/-- the counters of a submission and of the session -/
def submitTotals (session : RuntimeRadioSession τ) (txCounters : TxSubmitCounters) : TxTotals :=
  TxState.totals { session, submitCounters := txCounters }

omit [UsbBulkTransfer τ] in
/-- the differences to the counters before a submission are what the session adds -/
theorem applyTxSubmit_totals (session session' : RuntimeRadioSession τ) (before after : TxSubmitCounters)
    (sent : Submission) (hcounters : session'.counters = session.counters.applyTxSubmit before after)
    (hattempted : after.attempted = before.attempted + UInt64.ofNat (sent.delta .attempted))
    (hsubmitted : after.submitted = before.submitted + UInt64.ofNat (sent.delta .submitted))
    (hrejected : after.rejected = before.rejected + UInt64.ofNat (sent.delta .rejected))
    (hfailed : after.failed = before.failed + UInt64.ofNat (sent.delta .failed))
    (hshort : after.shortWrites = before.shortWrites + UInt64.ofNat (sent.delta .shortWrites))
    (hfits : (submitTotals session before + sent.delta).Fits) :
    submitTotals session' after = submitTotals session before + sent.delta := by
  have hone : ∀ counter, sent.delta counter ≤ 1 := by
    intro counter
    cases sent <;> cases counter <;> decide
  have hagrees := (TxOutcome.submission sent).delta_agrees
  have hadd : ∀ {a b : UInt64} {n : ℕ}, a = b + UInt64.ofNat n → n ≤ 1 → b.toNat + n < 2 ^ 64 → a.toNat = b.toNat + n := by
    intro a b n ha hn hb
    have hcast : (UInt64.ofNat n).toNat = n := by
      rw [UInt64.toNat_ofNat']
      omega
    rw [ha, UInt64.toNat_add, hcast]
    omega
  have h1 := hadd hattempted (hone _) (hfits .attempted)
  have h2 := hadd hsubmitted (hone _) (hfits .submitted)
  have h3 := hadd hrejected (hone _) (hfits .rejected)
  have h4 := hadd hfailed (hone _) (hfits .failed)
  have h5 := hadd hshort (hone _) (hfits .shortWrites)
  obtain ⟨hwrites, hframes, hdropped⟩ := hagrees
  have hone4 := hone .failed
  have hone2 := hone .submitted
  have hone3 := hone .rejected
  have hfits6 := hfits .usbBulkOutWrites
  have hfits7 := hfits .txFrames
  have hfits8 := hfits .droppedFrames
  simp only [TxOutcome.delta] at hwrites hframes hdropped
  simp only [submitTotals, TxState.totals, Pi.add_apply] at hfits6 hfits7 hfits8
  funext counter
  cases counter
  case usbBulkOutWrites | txFrames | droppedFrames =>
    simp only [submitTotals, TxState.totals, Pi.add_apply, hcounters, RuntimeRadioCounters.applyTxSubmit, satAdd_toNat,
      satSub_toNat, u64Max]
    omega
  case attempted => exact h1
  case submitted => exact h2
  case rejected => exact h3
  case failed => exact h4
  case shortWrites => exact h5
  all_goals
    cases sent <;> rfl

/-- writing a frame adds what became of it -/
theorem submit80211Frame_totals (session : RuntimeRadioSession τ) {bulkOut : UInt8} (frame : List UInt8)
    (channel : Channel) (options : TxOptions) (txCounters : TxSubmitCounters)
    (hout : session.endpoints.bulkOut = some bulkOut)
    (hfits : (submitTotals session txCounters + (frameSubmission session frame channel options).delta).Fits) :
    ∃ result session' txCounters', submit80211Frame session frame channel options txCounters =
        .ok (result, session', txCounters') ∧ session'.endpoints = session.endpoints ∧
      submitTotals session' txCounters' =
        submitTotals session txCounters + (frameSubmission session frame channel options).delta ∧
      (result.isOk = true ↔ frameSubmission session frame channel options = .submitted) := by
  obtain ⟨built, hbuild⟩ := buildTxPacket_total frame channel options
  rw [submit80211Frame, hout]
  dsimp only
  rw [submitTxFrame, hbuild, checked_bind_ok]
  rw [frameSubmission, hbuild] at hfits ⊢
  rcases built with error | packet
  · refine ⟨_, _, _, rfl, rfl, ?_, iff_of_false (by rintro ⟨⟩) (by rintro ⟨⟩)⟩
    exact applyTxSubmit_totals _ _ _ _ .rejected rfl rfl (by simp [Submission.delta]) rfl (by simp [Submission.delta])
      (by simp [Submission.delta]) hfits
  · dsimp only at hfits ⊢
    rw [packetSubmission, hout] at hfits ⊢
    dsimp only at hfits ⊢
    rcases hanswer : writeBulkTransfer session.transport bulkOut packet defaultTimeout with ⟨error | written, transport⟩
    · rw [hanswer] at hfits
      refine ⟨_, _, _, rfl, rfl, ?_, iff_of_false (by rintro ⟨⟩) (by rintro ⟨⟩)⟩
      exact applyTxSubmit_totals _ _ _ _ .usbFailed rfl rfl (by simp [Submission.delta]) (by simp [Submission.delta]) rfl
        (by simp [Submission.delta]) hfits
    · rw [hanswer] at hfits
      by_cases hfull : written = packet.length
      · simp only [Submission.ofAnswer, if_pos hfull] at hfits ⊢
        refine ⟨_, _, _, rfl, rfl, ?_, iff_of_true rfl trivial⟩
        exact applyTxSubmit_totals _ _ _ _ .submitted rfl rfl rfl (by simp [Submission.delta]) (by simp [Submission.delta])
          (by simp [Submission.delta]) hfits
      · simp only [Submission.ofAnswer, if_neg hfull] at hfits ⊢
        refine ⟨_, _, _, rfl, rfl, ?_, iff_of_false (by rintro ⟨⟩) (by rintro ⟨⟩)⟩
        exact applyTxSubmit_totals _ _ _ _ .shortWrite rfl rfl (by simp [Submission.delta]) (by simp [Submission.delta]) rfl
          rfl hfits

/-- writing a packet as it is adds what became of it, by saturating additions -/
theorem submitRawTxPacket_totals (session : RuntimeRadioSession τ) {bulkOut : UInt8} (packet : List UInt8)
    (txCounters : TxSubmitCounters) (timeout : ℕ) (hout : session.endpoints.bulkOut = some bulkOut)
    (hfits : (submitTotals session txCounters + (packetSubmission session packet timeout).delta).Fits) :
    ∃ result session' txCounters', submitRawTxPacket session packet txCounters timeout =
        (result, session', txCounters') ∧ session'.endpoints = session.endpoints ∧
      submitTotals session' txCounters' =
        submitTotals session txCounters + (packetSubmission session packet timeout).delta := by
  have hone : (1 : UInt64).toNat = 1 := rfl
  rw [packetSubmission, hout] at hfits ⊢
  rw [submitRawTxPacket, hout]
  dsimp only at hfits ⊢
  rcases hanswer : writeBulkTransfer session.transport bulkOut packet timeout with ⟨error | written, transport⟩
  · rw [hanswer] at hfits
    refine ⟨_, _, _, rfl, rfl, ?_⟩
    funext counter
    have hcounter := hfits counter
    cases counter
    all_goals
      simp only [submitTotals, TxState.totals, Pi.add_apply, Submission.ofAnswer, Submission.delta, satAdd_toNat, hone,
        u64Max] at hcounter ⊢
      try omega
  · rw [hanswer] at hfits
    dsimp only
    split_ifs with hfull
    · refine ⟨_, _, _, rfl, rfl, ?_⟩
      funext counter
      have hcounter := hfits counter
      cases counter
      all_goals
        simp only [submitTotals, TxState.totals, Pi.add_apply, Submission.ofAnswer, if_pos hfull, Submission.delta,
          satAdd_toNat, hone, u64Max] at hcounter ⊢
        try omega
    · refine ⟨_, _, _, rfl, rfl, ?_⟩
      funext counter
      have hcounter := hfits counter
      cases counter
      all_goals
        simp only [submitTotals, TxState.totals, Pi.add_apply, Submission.ofAnswer, if_neg hfull, Submission.delta,
          satAdd_toNat, hone, u64Max] at hcounter ⊢
        try omega

/-- the counters of the bridge -/
def bridgeTotals (bridgeCounters : TxCounters) : TxTotals
  | .incoming => bridgeCounters.incoming.toNat
  | .injected => bridgeCounters.injected.toNat
  | .dropped => bridgeCounters.dropped.toNat
  | .malformed => bridgeCounters.malformed.toNat
  | .unsupportedRadiotap => bridgeCounters.unsupportedRadiotap.toNat
  | _ => 0

omit [UsbBulkTransfer τ] in
theorem totals_eq (s : TxState τ) : s.totals = submitTotals s.session s.submitCounters + bridgeTotals s.bridgeCounters := by
  funext counter
  cases counter <;> simp [TxState.totals, submitTotals, bridgeTotals]

/-- a datagram that is dropped before it is submitted -/
theorem dropMalformed_totals (bridgeCounters : TxCounters) (unsupportedRadiotap : Bool)
    (hfits : (bridgeTotals bridgeCounters + (TxOutcome.malformed unsupportedRadiotap).delta).Fits) :
    bridgeTotals (dropMalformed bridgeCounters unsupportedRadiotap) =
      bridgeTotals bridgeCounters + (TxOutcome.malformed unsupportedRadiotap).delta := by
  funext counter
  have hcounter := hfits counter
  cases counter
  all_goals
    cases unsupportedRadiotap
    all_goals
      simp [bridgeTotals, TxOutcome.delta, dropMalformed, satAdd_toNat, u64Max] at hcounter ⊢
      try omega

theorem TxTotals.Fits.right {a b : TxTotals} (h : (a + b).Fits) : b.Fits := by
  rw [add_comm] at h
  exact h.of_add

/-- a datagram that is submitted -/
theorem datagram_totals (bridgeCounters : TxCounters) (sent : Submission) (isOk : Bool)
    (hok : isOk = true ↔ sent = .submitted) (hfits : (bridgeTotals bridgeCounters + sent.bridgeDelta).Fits) :
    bridgeTotals { bridgeCounters with
        incoming := satAdd bridgeCounters.incoming 1
        injected := if isOk then satAdd bridgeCounters.injected 1 else bridgeCounters.injected
        dropped := if isOk then bridgeCounters.dropped else satAdd bridgeCounters.dropped 1 } =
      bridgeTotals bridgeCounters + sent.bridgeDelta := by
  funext counter
  have hcounter := hfits counter
  cases counter
  all_goals
    cases sent
    all_goals
      simp [bridgeTotals, Submission.bridgeDelta, satAdd_toNat, u64Max, hok] at hcounter ⊢
      try omega

/-- **One call.** It adds what its outcome adds, to all three layers, and keeps the endpoints. -/
theorem TxCall.run_totals (s : TxState τ) (call : TxCall) {bulkOut : UInt8}
    (hout : s.session.endpoints.bulkOut = some bulkOut) (hfits : (s.totals + (call.outcome s).delta).Fits) :
    ∃ s', call.run s = .ok s' ∧ s'.session.endpoints = s.session.endpoints ∧
      s'.totals = s.totals + (call.outcome s).delta := by
  rw [totals_eq] at hfits ⊢
  cases call with
  | submit80211Frame frame channel options =>
    have hsubmitFits : (submitTotals s.session s.submitCounters +
        (frameSubmission s.session frame channel options).delta).Fits := by
      rw [add_right_comm] at hfits
      exact hfits.of_add
    obtain ⟨result, session, submitCounters, hrun, hendpoints, htotals, -⟩ :=
      submit80211Frame_totals s.session frame channel options s.submitCounters hout hsubmitFits
    refine ⟨{ s with session, submitCounters }, ?_, hendpoints, ?_⟩
    · rw [TxCall.run, hrun]
      rfl
    · rw [totals_eq, htotals, TxCall.outcome, TxOutcome.delta, add_right_comm]
  | submitRawTxPacket packet timeout =>
    have hsubmitFits : (submitTotals s.session s.submitCounters +
        (packetSubmission s.session packet timeout).delta).Fits := by
      rw [add_right_comm] at hfits
      exact hfits.of_add
    obtain ⟨result, session, submitCounters, hrun, hendpoints, htotals⟩ :=
      submitRawTxPacket_totals s.session packet s.submitCounters timeout hout hsubmitFits
    refine ⟨{ s with session, submitCounters }, ?_, hendpoints, ?_⟩
    · rw [TxCall.run, hrun]
      rfl
    · rw [totals_eq, htotals, TxCall.outcome, TxOutcome.delta, add_right_comm]
  | handleDatagram queued config =>
    rw [TxCall.outcome] at hfits ⊢
    rw [TxCall.run, handleProductionBridgeTxDatagram]
    obtain ⟨parsed, hparse, -⟩ := parseTxDatagram_total queued.data
    rw [hparse] at hfits ⊢
    rw [checked_bind_ok]
    have hmalformed : ∀ unsupportedRadiotap : Bool,
        (submitTotals s.session s.submitCounters + bridgeTotals s.bridgeCounters +
          (TxOutcome.malformed unsupportedRadiotap).delta).Fits →
        TxState.totals { s with bridgeCounters := dropMalformed s.bridgeCounters unsupportedRadiotap } =
          submitTotals s.session s.submitCounters + bridgeTotals s.bridgeCounters +
            (TxOutcome.malformed unsupportedRadiotap).delta := by
      intro unsupportedRadiotap hfits
      rw [add_assoc] at hfits
      rw [totals_eq, dropMalformed_totals _ _ hfits.right, add_assoc]
    rcases parsed with error | parsed
    · exact ⟨_, rfl, rfl, hmalformed _ hfits⟩
    dsimp only at hfits ⊢
    set options := applyProductionBridgeTxOverrides config.overrides config.channelBandwidth parsed.txOptions
    obtain ⟨built, hbuild⟩ := buildTxPacket_total parsed.ieee80211Frame config.channel options
    rw [hbuild] at hfits ⊢
    rw [checked_bind_ok]
    rcases built with error | packet
    · exact ⟨_, rfl, rfl, hmalformed false hfits⟩
    obtain ⟨observation, hobs⟩ := runtimeWfbChannelObservation_total parsed.ieee80211Frame
    dsimp only at hfits ⊢
    rw [TxOutcome.delta, add_add_add_comm] at hfits ⊢
    obtain ⟨result, session, submitCounters, hrun, hendpoints, htotals, hok⟩ :=
      submit80211Frame_totals s.session parsed.ieee80211Frame config.channel options s.submitCounters hout hfits.of_add
    have hbridge := datagram_totals s.bridgeCounters _ result.isOk hok hfits.right
    rw [slice_ok (Nat.zero_le _) (min_le_right _ _), checked_bind_ok, hobs, checked_bind_ok, hrun, checked_bind_ok,
      ← htotals, ← hbridge]
    rcases result with error | written
    · exact ⟨_, rfl, hendpoints, totals_eq _⟩
    · exact ⟨_, rfl, hendpoints, totals_eq _⟩

end Steps

/-! ## Writes of the transport -/

section Writes

variable {τ : Type} [UsbBulkTransfer τ]

def UsbEvent.isBulkOut : UsbEvent → Bool
  | .bulkOut _ _ => true
  | _ => false

/-- the bulk writes in a record -/
def bulkWrites (events : List UsbEvent) : ℕ := events.countP UsbEvent.isBulkOut

theorem bulkWrites_append (events events' : List UsbEvent) :
    bulkWrites (events ++ events') = bulkWrites events + bulkWrites events' := List.countP_append

theorem ofAnswer_writes (packet : List UInt8) (answer : Except UsbError ℕ) :
    (Submission.ofAnswer packet answer).delta .usbBulkOutWrites = 1 := by
  rcases answer with error | written
  · rfl
  · rw [Submission.ofAnswer]
    split_ifs
    · rfl
    · rfl

theorem submit80211Frame_writes {session session' : RuntimeRadioSession (Recorded UsbEvent τ)} {bulkOut : UInt8}
    {frame : List UInt8} {channel : Channel} {options : TxOptions} {txCounters txCounters' : TxSubmitCounters}
    {result : Except RuntimeRadioError ℕ} (hout : session.endpoints.bulkOut = some bulkOut)
    (h : submit80211Frame session frame channel options txCounters = .ok (result, session', txCounters')) :
    bulkWrites session'.transport.events =
      bulkWrites session.transport.events + (frameSubmission session frame channel options).delta .usbBulkOutWrites := by
  obtain ⟨built, hbuild⟩ := buildTxPacket_total frame channel options
  obtain ⟨submitted, transport, after, hsubmit, hevents⟩ :=
    submitTxFrame_recorded session.transport bulkOut frame channel options txCounters hbuild
  rw [submit80211Frame, hout] at h
  dsimp only at h
  rw [hsubmit, checked_bind_ok] at h
  cases h
  rw [hevents, bulkWrites_append, frameSubmission, hbuild]
  rcases built with error | packet
  · rfl
  · dsimp only
    rw [packetSubmission, hout, ofAnswer_writes]
    rfl

theorem submitRawTxPacket_writes (session : RuntimeRadioSession (Recorded UsbEvent τ)) {bulkOut : UInt8}
    (packet : List UInt8) (txCounters : TxSubmitCounters) (timeout : ℕ) (hout : session.endpoints.bulkOut = some bulkOut) :
    bulkWrites (submitRawTxPacket session packet txCounters timeout).2.1.transport.events =
      bulkWrites session.transport.events + (packetSubmission session packet timeout).delta .usbBulkOutWrites := by
  have hrecord : (writeBulkTransfer session.transport bulkOut packet timeout).2.events =
      session.transport.events ++ [.bulkOut bulkOut packet] := rfl
  rw [submitRawTxPacket, packetSubmission, hout]
  dsimp only
  rw [ofAnswer_writes]
  rcases hanswer : writeBulkTransfer session.transport bulkOut packet timeout with ⟨error | written, transport⟩
  · rw [hanswer] at hrecord
    exact (congrArg bulkWrites hrecord).trans (bulkWrites_append _ _)
  · rw [hanswer] at hrecord
    dsimp only
    split_ifs
    · exact (congrArg bulkWrites hrecord).trans (bulkWrites_append _ _)
    · exact (congrArg bulkWrites hrecord).trans (bulkWrites_append _ _)

/-- one call writes what its outcome says -/
theorem TxCall.run_writes {s s' : TxState (Recorded UsbEvent τ)} {call : TxCall} {bulkOut : UInt8}
    (hout : s.session.endpoints.bulkOut = some bulkOut) (h : call.run s = .ok s') :
    bulkWrites s'.session.transport.events =
      bulkWrites s.session.transport.events + (call.outcome s).delta .usbBulkOutWrites := by
  cases call with
  | submit80211Frame frame channel options =>
    obtain ⟨⟨result, session, submitCounters⟩, hrun, h⟩ := except_bind_ok h
    cases h
    exact submit80211Frame_writes hout hrun
  | submitRawTxPacket packet timeout =>
    cases h
    exact submitRawTxPacket_writes s.session packet s.submitCounters timeout hout
  | handleDatagram queued config =>
    obtain ⟨handled, hhandled, h⟩ := except_bind_ok h
    cases h
    rw [handleProductionBridgeTxDatagram] at hhandled
    rw [TxCall.outcome]
    obtain ⟨parsed, hparse, -⟩ := parseTxDatagram_total queued.data
    rw [hparse] at hhandled ⊢
    rw [checked_bind_ok] at hhandled
    rcases parsed with error | parsed
    · cases hhandled
      rfl
    dsimp only at hhandled ⊢
    set options := applyProductionBridgeTxOverrides config.overrides config.channelBandwidth parsed.txOptions
    obtain ⟨built, hbuild⟩ := buildTxPacket_total parsed.ieee80211Frame config.channel options
    rw [hbuild] at hhandled ⊢
    rw [checked_bind_ok] at hhandled
    rcases built with error | packet
    · cases hhandled
      rfl
    dsimp only at hhandled ⊢
    obtain ⟨preview, _, hhandled⟩ := except_bind_ok hhandled
    obtain ⟨observation, _, hhandled⟩ := except_bind_ok hhandled
    obtain ⟨⟨result, session, submitCounters⟩, hsubmit, hhandled⟩ := except_bind_ok hhandled
    have hwrites := submit80211Frame_writes hout hsubmit
    have hbridge : ∀ sent : Submission, (TxOutcome.datagram sent).delta .usbBulkOutWrites = sent.delta .usbBulkOutWrites := by
      intro sent
      cases sent <;> rfl
    rw [hbridge]
    rcases result with error | written
    · cases hhandled
      exact hwrites
    · cases hhandled
      exact hwrites

/-! ## Runs -/

/-- a run of calls adds its tally; the induction is on the calls -/
theorem runTxCalls_totals (s : TxState (Recorded UsbEvent τ)) (calls : List TxCall) {bulkOut : UInt8}
    (hout : s.session.endpoints.bulkOut = some bulkOut) (hfits : (s.totals + txTally s calls).Fits) :
    ∃ s', runTxCalls s calls = .ok s' ∧ s'.totals = s.totals + txTally s calls ∧
      (txTally s calls).Balanced ∧ (txTally s calls).Agrees ∧
      bulkWrites s'.session.transport.events =
        bulkWrites s.session.transport.events + txTally s calls .usbBulkOutWrites := by
  induction calls generalizing s with
  | nil => exact ⟨s, rfl, rfl, TxTotals.zero_balanced, TxTotals.zero_agrees, rfl⟩
  | cons call calls ih =>
    rw [txTally, ← add_assoc] at hfits
    obtain ⟨s₁, hrun, hendpoints, htotals⟩ := call.run_totals s hout hfits.of_add
    rw [hrun] at hfits
    rw [← htotals] at hfits
    obtain ⟨s', hrest, htotals', hbalanced, hagrees, hwrites⟩ := ih s₁ (hendpoints ▸ hout) hfits
    have htally : txTally s (call :: calls) = (call.outcome s).delta + txTally s₁ calls := by rw [txTally, hrun]
    rw [htally]
    refine ⟨s', ?_, ?_, ?_, ?_, ?_⟩
    · rw [runTxCalls, hrun, checked_bind_ok]
      exact hrest
    · rw [htotals', htotals, add_assoc]
    · exact (TxOutcome.delta_balanced _).add hbalanced
    · exact (TxOutcome.delta_agrees _).add hagrees
    · rw [hwrites, TxCall.run_writes hout hrun, Pi.add_apply, add_assoc]

/-- **Conservation.** A run of calls in which no counter saturates: what the counters have grown by balances, agrees
between the layers, and is what the transport has seen; counters that balanced before balance after. -/
theorem runTxCalls_conserves (start : TxState (Recorded UsbEvent τ)) (calls : List TxCall) (bulkOut : UInt8)
    (hout : start.session.endpoints.bulkOut = some bulkOut) (hfits : (start.totals + txTally start calls).Fits) :
    ∃ stop grown, runTxCalls start calls = .ok stop ∧ stop.totals = start.totals + grown ∧ grown.Balanced ∧
      grown.Agrees ∧ bulkWrites stop.session.transport.events =
        bulkWrites start.session.transport.events + (grown .submitted + grown .failed) ∧
      (start.totals.Balanced → stop.totals.Balanced) := by
  obtain ⟨stop, hrun, htotals, hbalanced, hagrees, hwrites⟩ := runTxCalls_totals start calls hout hfits
  refine ⟨stop, txTally start calls, hrun, htotals, hbalanced, hagrees, ?_, ?_⟩
  · rw [hwrites, hagrees.usbBulkOutWrites]
  · intro hstart
    rw [htotals]
    exact hstart.add hbalanced

/-- a datagram, a raw packet, and a frame that is too short -/
theorem runTxCalls_conserves_sample :
    ∃ (stop : TxState (Recorded UsbEvent LoopbackUsb)) (grown : TxTotals),
      runTxCalls { session := sampleTxSession } [.handleDatagram sampleDatagram ⟨⟨36, 5180, .ghz5⟩, .mhz20, {}⟩,
        .submitRawTxPacket [1, 2, 3] 0, .submit80211Frame [] ⟨36, 5180, .ghz5⟩ {}] = .ok stop ∧
      stop.totals = TxState.totals { session := sampleTxSession } + grown ∧ grown.Balanced ∧ grown.Agrees ∧
      bulkWrites stop.session.transport.events =
        bulkWrites sampleTxSession.transport.events + (grown .submitted + grown .failed) ∧
      ((TxState.totals { session := sampleTxSession }).Balanced → stop.totals.Balanced) := by
  refine runTxCalls_conserves { session := sampleTxSession } _ 0x02 rfl ?_
  intro counter
  cases counter <;> decide +kernel

end Writes

end WfbLink.Runtime
