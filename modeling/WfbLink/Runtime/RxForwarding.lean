/-
Forwarding to many targets.

Every received frame is offered to every target in turn. `LoggedHost` is a host that remembers what it was asked to
send and what it answered, so that the datagrams of a target, and the answers to them, can be told apart from those of
the others. What a target sends depends on the frames alone, and its counters on the frames and the answers to its own
datagrams.

- `forwards_targets`: what a sequence of frames does to each target.
- `wfbTransport`: from the header of a frame to the counters of all targets.
-/
import WfbLink.Bridge.WfbTransport
import WfbLink.Runtime.RxReads

namespace WfbLink.Runtime

open WfbLink.Core WfbLink.RadioCore WfbLink.Bridge

/-! ## A host with a memory -/

structure DatagramSend where
  socket : UdpSocket
  packet : List UInt8
  addr : SocketAddr
  result : Except String ℕ

/-- the results of a host, and the datagrams it was given -/
structure LoggedHost (ω : Type) where
  host : ω
  sends : List DatagramSend

instance {ω : Type} [DatagramHost ω] : DatagramHost (LoggedHost ω) where
  sendTo logged socket packet addr :=
    let (result, host) := sendTo logged.host socket packet addr
    (result, { host, sends := logged.sends ++ [{ socket, packet, addr, result }] })
  runtimeUnixMs logged :=
    let (now, host) := runtimeUnixMs logged.host
    (now, { logged with host })

def DatagramSend.failed (send : DatagramSend) : Bool := !send.result.isOk

/-- the sends on the socket of a target -/
def ownSends (target : ProductionRuntimeRxForwardRuntime) (sends : List DatagramSend) : List DatagramSend :=
  sends.filter fun send => target.socket = some send.socket

/-! ## One target -/

/-- the datagrams of a frame for a target: one, if the target is connected and the frame is for it -/
def targetDatagrams (target : ProductionRuntimeRxForwardRuntime) (frame : RxFrame) : List (List UInt8) :=
  match target.socket, target.aggregator with
  | some _, some _ => (rxForwardDatagram target.config frame).toList
  | _, _ => []

/-- counts the answers to datagrams -/
def countSends (counters : RxCounters) (own : List DatagramSend) : RxCounters :=
  { counters with
    forwarded := satCount counters.forwarded (own.countP fun send => !send.failed)
    sendFailed := satCount counters.sendFailed (own.countP DatagramSend.failed) }

/-- what frames do to a target whose own sends they have caused -/
structure TargetRun (frames : List RxFrame) (target target' : ProductionRuntimeRxForwardRuntime)
    (own : List DatagramSend) : Prop where
  config : target'.config = target.config
  socket : target'.socket = target.socket
  aggregator : target'.aggregator = target.aggregator
  datagrams : own.map (·.packet) = frames.flatMap (targetDatagrams target)
  counters : target'.counters =
    countSends (frames.foldl (fun counters frame => counters.observe (rxVerdict target.config frame)) target.counters) own

theorem targetRun_nil (target : ProductionRuntimeRxForwardRuntime) : TargetRun [] target target [] :=
  ⟨rfl, rfl, rfl, rfl, rfl⟩

theorem satCount_add (a : UInt64) (m n : ℕ) : satCount (satCount a m) n = satCount a (m + n) := by
  rw [satCount, satCount, satCount, ← Function.iterate_add_apply, Nat.add_comm]

theorem countSends_append (counters : RxCounters) (a b : List DatagramSend) :
    countSends (countSends counters a) b = countSends counters (a ++ b) := by
  unfold countSends
  dsimp only
  rw [satCount_add, satCount_add, List.countP_append, List.countP_append]

/-- verdicts and answers are counted apart -/
theorem foldl_observe_countSends (config : RxForwardConfig) (frames : List RxFrame) (counters : RxCounters)
    (own : List DatagramSend) :
    frames.foldl (fun counters frame => counters.observe (rxVerdict config frame)) (countSends counters own) =
      countSends (frames.foldl (fun counters frame => counters.observe (rxVerdict config frame)) counters) own := by
  induction frames generalizing counters with
  | nil => rfl
  | cons frame frames ih => exact ih (counters.observe (rxVerdict config frame))

theorem TargetRun.trans {frames frames' : List RxFrame} {target target₁ target₂ : ProductionRuntimeRxForwardRuntime}
    {own own' : List DatagramSend} (h : TargetRun frames target target₁ own) (h' : TargetRun frames' target₁ target₂ own') :
    TargetRun (frames ++ frames') target target₂ (own ++ own') where
  config := h'.config.trans h.config
  socket := h'.socket.trans h.socket
  aggregator := h'.aggregator.trans h.aggregator
  datagrams := by
    have hsame : targetDatagrams target₁ = targetDatagrams target := by
      funext frame
      rw [targetDatagrams, targetDatagrams, h.socket, h.aggregator, h.config]
    rw [List.map_append, h.datagrams, h'.datagrams, hsame, List.flatMap_append]
  counters := by
    rw [h'.counters, h.counters, h.config, foldl_observe_countSends, countSends_append, List.foldl_append]

section Targets

variable {ω : Type} [DatagramHost ω]

/-- the target after a frame, before any answer -/
def observed (target : ProductionRuntimeRxForwardRuntime) (frame : RxFrame) : ProductionRuntimeRxForwardRuntime :=
  { target with counters := target.counters.observe (rxVerdict target.config frame) }

/-- without a datagram nothing is sent -/
theorem processProductionWfbRxForward_quiet {target : ProductionRuntimeRxForwardRuntime} {frame : RxFrame}
    (h : targetDatagrams target frame = []) (host : ω) :
    processProductionWfbRxForward target frame host = .ok (.ok (), observed target frame, host) := by
  rw [processProductionWfbRxForward, buildRxForwardDatagram_spec, checked_bind_ok]
  dsimp only
  split
  · rename_i packet socket aggregator hpacket hsocket haggregator
    rw [targetDatagrams, hsocket, haggregator, hpacket] at h
    cases h
  · rfl

/-- a datagram is one send, whatever the answer -/
theorem processProductionWfbRxForward_send {target : ProductionRuntimeRxForwardRuntime} {frame : RxFrame}
    {packet : List UInt8} {socket : UdpSocket} {aggregator : SocketAddr}
    (hpacket : rxForwardDatagram target.config frame = some packet) (hsocket : target.socket = some socket)
    (haggregator : target.aggregator = some aggregator) (logged : LoggedHost ω) :
    ∃ target' host result, processProductionWfbRxForward target frame logged =
        .ok (.ok (), target', { host, sends := logged.sends ++ [⟨socket, packet, aggregator, result⟩] }) ∧
      target'.config = target.config ∧ target'.socket = target.socket ∧ target'.aggregator = target.aggregator ∧
      target'.counters = countSends (observed target frame).counters [⟨socket, packet, aggregator, result⟩] := by
  rw [processProductionWfbRxForward, buildRxForwardDatagram_spec, checked_bind_ok]
  dsimp only
  rw [hpacket, hsocket, haggregator]
  have hsend : sendTo logged socket packet aggregator =
      ((sendTo logged.host socket packet aggregator).1,
        { host := (sendTo logged.host socket packet aggregator).2
          sends := logged.sends ++
            [⟨socket, packet, aggregator, (sendTo logged.host socket packet aggregator).1⟩] }) := rfl
  dsimp only
  rw [hsend]
  cases (sendTo logged.host socket packet aggregator).1 with
  | error error => exact ⟨_, _, .error error, rfl, rfl, rfl, rfl, rfl⟩
  | ok bytes => exact ⟨_, _, .ok bytes, rfl, rfl, rfl, rfl, rfl⟩

/-- **One frame, one target.** -/
theorem processProductionWfbRxForward_run (target : ProductionRuntimeRxForwardRuntime) (frame : RxFrame)
    (logged : LoggedHost ω) :
    ∃ target' host own, processProductionWfbRxForward target frame logged =
        .ok (.ok (), target', { host, sends := logged.sends ++ own }) ∧
      (∀ send ∈ own, target.socket = some send.socket) ∧ TargetRun [frame] target target' own := by
  by_cases hquiet : targetDatagrams target frame = []
  · refine ⟨observed target frame, logged.host, [], ?_, nofun, rfl, rfl, rfl, ?_, rfl⟩
    · rw [List.append_nil]
      exact processProductionWfbRxForward_quiet hquiet logged
    · rw [List.flatMap_singleton, hquiet]
      rfl
  · unfold targetDatagrams at hquiet
    split at hquiet
    · rename_i socket aggregator hsocket haggregator
      obtain ⟨packet, hpacket⟩ : ∃ packet, rxForwardDatagram target.config frame = some packet :=
        Option.ne_none_iff_exists'.1 fun h => hquiet (by rw [h]; rfl)
      obtain ⟨target', host, result, hrun, hconfig, hsocket', haggregator', hcounters⟩ :=
        processProductionWfbRxForward_send hpacket hsocket haggregator logged
      refine ⟨target', host, _, hrun, ?_, hconfig, hsocket', haggregator', ?_, hcounters⟩
      · intro send hmem
        rw [List.mem_singleton.1 hmem, hsocket]
      · rw [List.flatMap_singleton, targetDatagrams, hsocket, haggregator, hpacket]
        rfl
    · exact absurd rfl hquiet

/-! ## Many targets -/

/-- no two targets share a socket -/
def OwnSockets (targets : List ProductionRuntimeRxForwardRuntime) : Prop := (targets.filterMap (·.socket)).Nodup

theorem ownSends_append (target : ProductionRuntimeRxForwardRuntime) (a b : List DatagramSend) :
    ownSends target (a ++ b) = ownSends target a ++ ownSends target b := List.filter_append ..

theorem ownSends_all {target : ProductionRuntimeRxForwardRuntime} {sends : List DatagramSend}
    (h : ∀ send ∈ sends, target.socket = some send.socket) : ownSends target sends = sends :=
  List.filter_eq_self.2 fun send hmem => decide_eq_true (h send hmem)

theorem ownSends_none {target : ProductionRuntimeRxForwardRuntime} {sends : List DatagramSend}
    (h : ∀ send ∈ sends, target.socket ≠ some send.socket) : ownSends target sends = [] :=
  List.filter_eq_nil_iff.2 fun send hmem heq => h send hmem (of_decide_eq_true heq)

/-- **One frame, many targets.** -/
theorem processProductionWfbRxForwards_run {targets : List ProductionRuntimeRxForwardRuntime}
    (hsockets : OwnSockets targets) (frame : RxFrame) (logged : LoggedHost ω) :
    ∃ targets' host sends, processProductionWfbRxForwards targets frame logged =
        .ok (.ok (), targets', { host, sends := logged.sends ++ sends }) ∧
      (∀ send ∈ sends, send.socket ∈ targets.filterMap (·.socket)) ∧
      List.Forall₂ (fun target target' => TargetRun [frame] target target' (ownSends target sends)) targets targets' := by
  induction targets generalizing logged with
  | nil => exact ⟨[], logged.host, [], by rw [List.append_nil]; rfl, nofun, .nil⟩
  | cons target targets ih =>
    have hrest : OwnSockets targets := hsockets.sublist ((List.sublist_cons_self _ _).filterMap _)
    obtain ⟨target', host, own, hone, hown, hrun⟩ := processProductionWfbRxForward_run target frame logged
    obtain ⟨targets', host', sends, hall, hmem, hruns⟩ := ih hrest { host, sends := logged.sends ++ own }
    -- the socket of the first target is none of the others'
    have hapart : ∀ socket ∈ targets.filterMap (·.socket), target.socket ≠ some socket := by
      intro socket hsocket heq
      unfold OwnSockets at hsockets
      rw [List.filterMap_cons_some heq] at hsockets
      exact (List.nodup_cons.1 hsockets).1 hsocket
    refine ⟨target' :: targets', host', own ++ sends, ?_, ?_, .cons ?_ ?_⟩
    · rw [processProductionWfbRxForwards, hone, checked_bind_ok]
      dsimp only
      rw [hall, checked_bind_ok, List.append_assoc]
      rfl
    · intro send hsend
      rcases List.mem_append.1 hsend with hsend | hsend
      · exact List.mem_filterMap.2 ⟨target, List.mem_cons_self, hown send hsend⟩
      · obtain ⟨other, hother, hsocket⟩ := List.mem_filterMap.1 (hmem send hsend)
        exact List.mem_filterMap.2 ⟨other, List.mem_cons_of_mem _ hother, hsocket⟩
    · rw [ownSends_append, ownSends_all hown, ownSends_none fun send hsend => hapart _ (hmem send hsend),
        List.append_nil]
      exact hrun
    · refine (List.forall₂_iff_zip.2 ⟨hruns.length_eq, fun {other other'} hzip => ?_⟩)
      have hother : other ∈ targets := (List.of_mem_zip hzip).1
      rw [ownSends_append, ownSends_none, List.nil_append]
      · exact (List.forall₂_iff_zip.1 hruns).2 hzip
      · intro send hsend heq
        exact hapart send.socket (List.mem_filterMap.2 ⟨other, hother, heq⟩) (hown send hsend)

/-! ## Many frames -/

/-- the targets and the host before a sequence of frames, and after it -/
inductive Forwards : List ProductionRuntimeRxForwardRuntime → ω → List RxFrame → List ProductionRuntimeRxForwardRuntime →
    ω → Prop where
  | nil {targets : List ProductionRuntimeRxForwardRuntime} {host : ω} : Forwards targets host [] targets host
  | cons {targets targets₁ targets' : List ProductionRuntimeRxForwardRuntime} {host host₁ host' : ω} {frame : RxFrame}
      {frames : List RxFrame} (hone : processProductionWfbRxForwards targets frame host = .ok (.ok (), targets₁, host₁))
      (hrest : Forwards targets₁ host₁ frames targets' host') : Forwards targets host (frame :: frames) targets' host'

theorem Forwards.append {targets targets₁ targets' : List ProductionRuntimeRxForwardRuntime} {host host₁ host' : ω}
    {frames frames' : List RxFrame} (h : Forwards targets host frames targets₁ host₁)
    (h' : Forwards targets₁ host₁ frames' targets' host') : Forwards targets host (frames ++ frames') targets' host' := by
  induction h with
  | nil => exact h'
  | cons hone _ ih => exact .cons hone (ih h')

theorem ownSockets_of_runs {frames : List RxFrame} {sends : List DatagramSend}
    {targets targets' : List ProductionRuntimeRxForwardRuntime}
    (h : List.Forall₂ (fun target target' => TargetRun frames target target' (ownSends target sends)) targets targets') :
    targets'.filterMap (·.socket) = targets.filterMap (·.socket) := by
  induction h with
  | nil => rfl
  | cons hrun _ ih => rw [List.filterMap_cons, List.filterMap_cons, ih, hrun.socket]

/-- **Every target runs on its own.** -/
theorem forwards_targets {targets targets' : List ProductionRuntimeRxForwardRuntime} {logged logged' : LoggedHost ω}
    {frames : List RxFrame} (h : Forwards targets logged frames targets' logged') (hsockets : OwnSockets targets) :
    ∃ sends, logged'.sends = logged.sends ++ sends ∧
      List.Forall₂ (fun target target' => TargetRun frames target target' (ownSends target sends)) targets targets' := by
  induction h with
  | @nil targets _ =>
    refine ⟨[], (List.append_nil _).symm, List.forall₂_same.2 fun target _ => ?_⟩
    exact targetRun_nil target
  | @cons targets targets₁ targets' logged logged₁ logged' frame frames hone _ ih =>
    obtain ⟨targets₂, host, sends, hrun, -, hfirst⟩ := processProductionWfbRxForwards_run hsockets frame logged
    rw [hrun] at hone
    cases hone
    obtain ⟨sends', hsends', hrest⟩ := ih (by unfold OwnSockets; rw [ownSockets_of_runs hfirst]; exact hsockets)
    refine ⟨sends ++ sends', by rw [hsends', List.append_assoc], ?_⟩
    refine (List.forall₂_iff_get.2 ⟨hfirst.length_eq.trans hrest.length_eq, fun i hi hi' => ?_⟩)
    have hmid : i < targets₁.length := hfirst.length_eq ▸ hi
    have hone := hfirst.get hi hmid
    have htail := hrest.get hmid hi'
    have hown : ownSends (targets₁.get ⟨i, hmid⟩) sends' = ownSends (targets.get ⟨i, hi⟩) sends' := by
      rw [ownSends, ownSends, hone.socket]
    rw [hown] at htail
    rw [ownSends_append]
    exact hone.trans htail

/-! ## Frames of reads -/

theorem processPacket_forwards {s s' : RxProcessing ω} {parsed : ParsedRxPacket}
    (h : processPacket s parsed = .ok (.ok (), s')) :
    Forwards s.rxForwards s.host (receivedFrames [parsed]) s'.rxForwards s'.host := by
  cases hout : parsed.outcome with
  | frame =>
    cases hframe : parsed.frame with
    | none =>
      simp only [processPacket, hout, hframe] at h
      cases h
    | some frame =>
      have hexpect : expect "frame outcome includes frame" (some frame) = .ok frame := rfl
      simp only [processPacket, hout, hframe, hexpect, checked_bind_ok] at h
      obtain ⟨typed, -, h⟩ := except_bind_ok h
      obtain ⟨observations, -, h⟩ := except_bind_ok h
      obtain ⟨⟨result, targets, host⟩, hforward, h⟩ := except_bind_ok h
      cases h
      have hframes : receivedFrames [parsed] = [frame] := by simp [receivedFrames, receivedFrame, hout, hframe]
      rw [hframes]
      exact .cons hforward .nil
  | drop =>
    simp only [processPacket, hout] at h
    cases h
    simp only [receivedFrames, receivedFrame, hout, List.filterMap_cons, List.filterMap_nil]
    exact .nil
  | needMoreData =>
    simp only [processPacket, hout] at h
    cases h
    simp only [receivedFrames, receivedFrame, hout, List.filterMap_cons, List.filterMap_nil]
    exact .nil

theorem processPackets_forwards {s s' : RxProcessing ω} {packets : List ParsedRxPacket}
    (h : processPackets s packets = .ok (.ok (), s')) :
    Forwards s.rxForwards s.host (receivedFrames packets) s'.rxForwards s'.host := by
  induction packets generalizing s with
  | nil =>
    cases h
    exact .nil
  | cons parsed packets ih =>
    rw [processPackets] at h
    obtain ⟨⟨result, s₁⟩, hone, h⟩ := except_bind_ok h
    cases result with
    | error error => cases h
    | ok value =>
      rw [receivedFrames_cons]
      exact (processPacket_forwards hone).append (ih h)

/-- **Reads forward their frames.** -/
theorem processReads_forwards {rx rx' : RuntimeFlowRxTelemetry} {targets targets' : List ProductionRuntimeRxForwardRuntime}
    {host host' : ω} {reads : List (List ParsedRxPacket)}
    (h : processReads rx targets host reads = .ok (.ok (), rx', targets', host')) :
    Forwards targets host (receivedFrames reads.flatten) targets' host' := by
  induction reads generalizing rx targets host with
  | nil =>
    cases h
    exact .nil
  | cons packets reads ih =>
    rw [processReads] at h
    obtain ⟨⟨result, targets₁, host₁⟩, hone, h⟩ := except_bind_ok h
    cases result with
    | error error => cases h
    | ok outcome =>
      rw [processProductionRxPacketOutcomes] at hone
      obtain ⟨⟨result, s₁⟩, hpackets, hone⟩ := except_bind_ok hone
      cases result with
      | error error => cases hone
      | ok value =>
        cases hone
        have hflatten : receivedFrames (packets :: reads).flatten = receivedFrames packets ++ receivedFrames reads.flatten := by
          rw [List.flatten_cons, receivedFrames, List.filterMap_append]
          rfl
        rw [hflatten]
        exact (processPackets_forwards hpackets).append (ih h)

end Targets

/-! ## The counters of a target -/

/-- how many frames a target gives this verdict -/
def verdictCount (config : RxForwardConfig) (verdict : RxVerdict) (frames : List RxFrame) : ℕ :=
  frames.countP fun frame => rxVerdict config frame = verdict

theorem foldl_observe_matched (config : RxForwardConfig) (frames : List RxFrame) (counters : RxCounters) :
    (frames.foldl (fun counters frame => counters.observe (rxVerdict config frame)) counters).matched =
      counters.matched + UInt64.ofNat (verdictCount config .matched frames) := by
  induction frames generalizing counters with
  | nil => exact (UInt64.add_zero _).symm
  | cons frame frames ih =>
    rw [List.foldl_cons, ih, verdictCount, verdictCount, List.countP_cons]
    unfold RxCounters.observe
    dsimp only
    by_cases hmatched : rxVerdict config frame = .matched
    · rw [if_pos hmatched, if_pos (decide_eq_true hmatched), Nat.add_comm, UInt64.ofNat_add, UInt64.add_assoc]
      rfl
    · rw [if_neg hmatched, if_neg (by simpa using hmatched), Nat.add_zero]

theorem foldl_observe_sum (config : RxForwardConfig) (frames : List RxFrame) {counters : RxCounters}
    (h : counters.received = counters.matched + counters.filtered + counters.malformed) :
    let after := frames.foldl (fun counters frame => counters.observe (rxVerdict config frame)) counters
    after.received = after.matched + after.filtered + after.malformed := by
  induction frames generalizing counters with
  | nil => exact h
  | cons frame frames ih =>
    refine ih ?_
    unfold RxCounters.observe
    dsimp only
    rw [h]
    cases rxVerdict config frame
    · simp only [if_true, reduceCtorEq, if_false]
      ac_rfl
    · simp only [if_true, reduceCtorEq, if_false]
      ac_rfl
    · simp only [if_true, reduceCtorEq, if_false]
      ac_rfl

theorem foldl_observe_sends (config : RxForwardConfig) (frames : List RxFrame) (counters : RxCounters) :
    (frames.foldl (fun counters frame => counters.observe (rxVerdict config frame)) counters).forwarded =
        counters.forwarded ∧
      (frames.foldl (fun counters frame => counters.observe (rxVerdict config frame)) counters).sendFailed =
        counters.sendFailed := by
  induction frames generalizing counters with
  | nil => exact ⟨rfl, rfl⟩
  | cons frame frames ih => exact ih (counters.observe (rxVerdict config frame))

/-- a target sends at most one datagram for each frame it has matched -/
theorem targetDatagrams_length (target : ProductionRuntimeRxForwardRuntime) (frames : List RxFrame) :
    (frames.flatMap (targetDatagrams target)).length ≤ verdictCount target.config .matched frames := by
  induction frames with
  | nil => exact le_rfl
  | cons frame frames ih =>
    have hone : (targetDatagrams target frame).length ≤ if rxVerdict target.config frame = .matched then 1 else 0 := by
      unfold targetDatagrams
      split
      · cases hpacket : rxForwardDatagram target.config frame with
        | none => exact Nat.zero_le _
        | some packet =>
          rw [if_pos ((rxForwardDatagram_isSome _ _).1 (by rw [hpacket]; rfl))]
          exact le_rfl
      · exact Nat.zero_le _
    rw [List.flatMap_cons, List.length_append, verdictCount, List.countP_cons]
    simp only [decide_eq_true_eq]
    exact (Nat.add_le_add hone ih).trans_eq (Nat.add_comm _ _)

theorem TargetRun.sum {frames : List RxFrame} {target target' : ProductionRuntimeRxForwardRuntime}
    {own : List DatagramSend} (h : TargetRun frames target target' own) (hfresh : target.counters = {}) :
    target'.counters.received =
      target'.counters.matched + target'.counters.filtered + target'.counters.malformed := by
  rw [h.counters, hfresh]
  exact foldl_observe_sum target.config frames rfl

/-- the answers to its own datagrams, as a target has counted them -/
theorem TargetRun.answers {frames : List RxFrame} {target target' : ProductionRuntimeRxForwardRuntime}
    {own : List DatagramSend} (h : TargetRun frames target target' own) (hfresh : target.counters = {}) :
    target'.counters.forwarded.toNat = min (own.length - own.countP DatagramSend.failed) u64Max ∧
      target'.counters.sendFailed.toNat = min (own.countP DatagramSend.failed) u64Max := by
  have h0 : (0 : UInt64).toNat = 0 := rfl
  have hforwarded : target'.counters.forwarded = satCount 0 (own.countP fun send => !send.failed) := by
    rw [h.counters, hfresh]
    exact congrArg (satCount · _) (foldl_observe_sends target.config frames {}).1
  have hfailed : target'.counters.sendFailed = satCount 0 (own.countP DatagramSend.failed) := by
    rw [h.counters, hfresh]
    exact congrArg (satCount · _) (foldl_observe_sends target.config frames {}).2
  have hsplit : own.length = own.countP DatagramSend.failed + own.countP fun send => !send.failed := by
    rw [List.length_eq_countP_add_countP DatagramSend.failed]
    congr 2
    funext send
    cases send.failed <;> rfl
  rw [hforwarded, hfailed, satCount_toNat, satCount_toNat, h0]
  omega

/-- a target has counted an answer only for frames it has matched; 2^64 of them wrap the counter of the matched ones -/
theorem TargetRun.answers_le {frames : List RxFrame} {target target' : ProductionRuntimeRxForwardRuntime}
    {own : List DatagramSend} (h : TargetRun frames target target' own) (hfresh : target.counters = {})
    (hfew : frames.length ≤ u64Max) :
    target'.counters.forwarded.toNat + target'.counters.sendFailed.toNat ≤ target'.counters.matched.toNat := by
  obtain ⟨hforwarded, hfailed⟩ := h.answers hfresh
  have hmatched : target'.counters.matched = UInt64.ofNat (verdictCount target.config .matched frames) := by
    rw [h.counters, hfresh]
    exact (foldl_observe_matched target.config frames {}).trans (UInt64.zero_add _)
  have hcount : verdictCount target.config .matched frames ≤ frames.length := List.countP_le_length
  have hsome : own.countP DatagramSend.failed ≤ own.length := List.countP_le_length
  have hown : own.length ≤ verdictCount target.config .matched frames := by
    calc own.length = (own.map (·.packet)).length := (List.length_map _).symm
      _ = (frames.flatMap (targetDatagrams target)).length := by rw [h.datagrams]
      _ ≤ verdictCount target.config .matched frames := targetDatagrams_length target frames
  rw [hforwarded, hfailed, hmatched, UInt64.toNat_ofNat']
  unfold u64Max at hfew ⊢
  rw [Nat.mod_eq_of_lt (by omega)]
  omega

/-- what a target sends is a matter of the frames, and its counters one of the frames and its own answers -/
theorem TargetRun.independent {frames : List RxFrame} {target target₁ target₂ : ProductionRuntimeRxForwardRuntime}
    {own₁ own₂ : List DatagramSend} (h₁ : TargetRun frames target target₁ own₁) (h₂ : TargetRun frames target target₂ own₂) :
    own₁.map (·.packet) = own₂.map (·.packet) ∧
      (own₁.map (·.failed) = own₂.map (·.failed) → target₁.counters = target₂.counters) := by
  refine ⟨h₁.datagrams.trans h₂.datagrams.symm, fun hanswers => ?_⟩
  have hfailed : own₁.countP DatagramSend.failed = own₂.countP DatagramSend.failed := by
    have hcount := congrArg (List.countP id) hanswers
    rwa [List.countP_map, List.countP_map] at hcount
  have hforwarded : own₁.countP (fun send => !send.failed) = own₂.countP fun send => !send.failed := by
    have hcount := congrArg (List.countP fun failed => !failed) hanswers
    rwa [List.countP_map, List.countP_map] at hcount
  rw [h₁.counters, h₂.counters, countSends, countSends, hfailed, hforwarded]

/-! ## From frames to counters -/

/-- **WFB payload transport.** A frame built for a channel becomes the payload behind a header of 17 bytes for every target
of this channel, and nothing, counted as filtered, for every other target; a frame shorter than the header is counted as
malformed. Over any reads a target counts every frame once, and up to the range of the counters no more answers than
matched frames. On any other host a target sends the same datagrams, and if the same of them fail, its counters are the
same, whatever happens to the datagrams of other targets. -/
theorem wfbTransport {ω : Type} [DatagramHost ω] {targets : List ProductionRuntimeRxForwardRuntime}
    (hvalid : ∀ target ∈ targets, target.config.channelId.Valid) (hsockets : OwnSockets targets)
    (hfresh : ∀ target ∈ targets, target.counters = {}) {reads : List (List ParsedRxPacket)}
    (hframed : ∀ packets ∈ reads, ∀ parsed ∈ packets, Framed parsed) (rx : RuntimeFlowRxTelemetry) (host : ω) :
    (∀ target ∈ targets, ∀ (channelId : WfbChannelId) (sequence : UInt16) (payload : List UInt8) (frame : RxFrame)
        (counters : RxCounters), channelId.Valid → frame.data = buildWfbDataHeader channelId sequence ++ payload →
        (target.config.channelId = channelId → ∃ header : List UInt8, header.length = 17 ∧
          buildRxForwardDatagram frame target.config counters =
            .ok (some (header ++ payload), counters.observe .matched)) ∧
        (target.config.channelId ≠ channelId →
          buildRxForwardDatagram frame target.config counters = .ok (none, counters.observe .filtered))) ∧
    (∀ target ∈ targets, ∀ (frame : RxFrame) (counters : RxCounters), frame.data.length < wfbIeee80211HeaderLen →
        buildRxForwardDatagram frame target.config counters = .ok (none, counters.observe .malformed)) ∧
    ∃ rx' targets' host' sends,
      processReads rx targets (LoggedHost.mk host []) reads = .ok (.ok (), rx', targets', { host := host', sends }) ∧
      List.Forall₂ (fun _ target' =>
        target'.counters.received =
          target'.counters.matched + target'.counters.filtered + target'.counters.malformed ∧
        ((receivedFrames reads.flatten).length ≤ u64Max →
          target'.counters.forwarded.toNat + target'.counters.sendFailed.toNat ≤ target'.counters.matched.toNat))
        targets targets' ∧
      ∀ (υ : Type) [DatagramHost υ] (other other' : υ) rx₂ targets₂ sends₂,
        processReads rx targets (LoggedHost.mk other []) reads =
          .ok (.ok (), rx₂, targets₂, { host := other', sends := sends₂ }) →
        ∀ target target' target₂, (target, target', target₂) ∈ targets.zip (targets'.zip targets₂) →
          (ownSends target sends).map (·.packet) = (ownSends target sends₂).map (·.packet) ∧
          ((ownSends target sends).map (·.failed) = (ownSends target sends₂).map (·.failed) →
            target'.counters = target₂.counters) := by
  refine ⟨?_, ?_, ?_⟩
  · intro target htarget channelId sequence payload frame counters hchannel hdata
    rw [buildRxForwardDatagram_spec]
    refine ⟨fun hconfig => ?_, fun hconfig => ?_⟩
    · obtain ⟨hdatagram, hverdict⟩ := rxForward_matching hchannel hdata hconfig
      exact ⟨_, rxForwardHeader_length target.config frame, by rw [hdatagram, hverdict]⟩
    · obtain ⟨hdatagram, hverdict⟩ := rxForward_other hchannel (hvalid target htarget) hdata hconfig
      rw [hdatagram, hverdict]
  · intro target _ frame counters hshort
    have hnothing : rxForwardDatagram target.config frame = none ∧ rxVerdict target.config frame = .malformed :=
      rxForward_short hshort
    rw [buildRxForwardDatagram_spec, hnothing.1, hnothing.2]
  · obtain ⟨rx', targets', logged, hprocess, -⟩ := processReads_accumulates rx targets (LoggedHost.mk host []) hframed
    obtain ⟨sends, hsends, hruns⟩ := forwards_targets (processReads_forwards hprocess) hsockets
    refine ⟨rx', targets', logged.host, sends, ?_, ?_, ?_⟩
    · rw [hprocess, show sends = logged.sends from hsends.symm]
    · refine List.forall₂_iff_zip.2 ⟨hruns.length_eq, fun {target target'} hzip => ?_⟩
      have hrun := (List.forall₂_iff_zip.1 hruns).2 hzip
      have hcounters := hfresh target (List.of_mem_zip hzip).1
      exact ⟨hrun.sum hcounters, hrun.answers_le hcounters⟩
    · intro υ _ other other' rx₂ targets₂ sends₂ hprocess₂ target target' target₂ hzip
      obtain ⟨_, hsends₂, hruns₂⟩ := forwards_targets (processReads_forwards hprocess₂) hsockets
      rw [List.nil_append] at hsends₂
      subst hsends₂
      obtain ⟨i, hi, heq⟩ := List.getElem_of_mem hzip
      rw [List.getElem_zip, List.getElem_zip, Prod.mk.injEq, Prod.mk.injEq] at heq
      obtain ⟨rfl, rfl, rfl⟩ := heq
      rw [List.length_zip, List.length_zip] at hi
      exact (hruns.get (by omega) (by omega)).independent (hruns₂.get (by omega) (by omega))

def sampleTarget : ProductionRuntimeRxForwardRuntime where
  config := { channelId := ⟨0x000102, 3⟩, wlanIdx := 0, mcsIndex := 1, bandwidthMhz := 20 }
  aggregator := some ⟨"127.0.0.1", 5600⟩
  socket := some ⟨1⟩

def sampleRxFrame : RxFrame where
  data := buildWfbDataHeader ⟨0x000102, 3⟩ 16
  rssiDbm := -42
  rssiDbmValid := false
  rssiDbmSource := .fallbackNoPhyStatus
  noiseDbm := none
  snrDb := none
  snrDbSource := none
  channel := ⟨36, 5180, .ghz5⟩
  phyStatus := false
  driverInfoSize := 0
  rxShift := 0
  rawPhyStatus := []
  rxRateRaw := 4
  rxRate := none
  rxBandwidthRaw := 0
  rxBandwidth := none
  shortGi := false
  ldpc := false
  stbc := false
  crcError := false

def sampleRxPacket : ParsedRxPacket := ⟨128, .frame, some sampleRxFrame⟩

theorem framed_replicate (n : ℕ) :
    ∀ packets ∈ [List.replicate n sampleRxPacket], ∀ parsed ∈ packets, Framed parsed := by
  intro packets hpackets parsed hparsed
  rw [List.mem_singleton.1 hpackets] at hparsed
  rw [(List.mem_replicate.1 hparsed).2]
  exact fun _ => rfl

theorem ownSockets_sampleTarget : OwnSockets [sampleTarget] := List.nodup_singleton _

/-- one frame for one target -/
theorem wfbTransport_sample :
    ∃ rx' targets' host' sends,
      processReads {} [sampleTarget] (LoggedHost.mk (QuietHost.mk 0) []) [List.replicate 1 sampleRxPacket] =
        .ok (.ok (), rx', targets', { host := host', sends }) ∧
      List.Forall₂ (fun _ target' =>
        target'.counters.received =
          target'.counters.matched + target'.counters.filtered + target'.counters.malformed ∧
        ((receivedFrames [List.replicate 1 sampleRxPacket].flatten).length ≤ u64Max →
          target'.counters.forwarded.toNat + target'.counters.sendFailed.toNat ≤ target'.counters.matched.toNat))
        [sampleTarget] targets' := by
  obtain ⟨-, -, rx', targets', host', sends, hprocess, hcounters, -⟩ :=
    wfbTransport (List.forall_mem_singleton.2 (by decide)) ownSockets_sampleTarget (List.forall_mem_singleton.2 rfl)
      (framed_replicate 1) {} (QuietHost.mk 0)
  exact ⟨rx', targets', host', sends, hprocess, hcounters⟩

/-- what `n` frames for the sample target come to -/
theorem replicate_run (n : ℕ) {target' : ProductionRuntimeRxForwardRuntime} {own : List DatagramSend}
    (h : TargetRun (List.replicate n sampleRxFrame) sampleTarget target' own) :
    own.length = n ∧ target'.counters.matched = UInt64.ofNat n := by
  have hdatagram : (targetDatagrams sampleTarget sampleRxFrame).length = 1 := by decide
  have hverdict : rxVerdict sampleTarget.config sampleRxFrame = .matched := by decide
  constructor
  · have hmap : (own.map (·.packet)).length = own.length := List.length_map _
    rw [← hmap, h.datagrams]
    have hlen : ∀ m, ((List.replicate m sampleRxFrame).flatMap (targetDatagrams sampleTarget)).length = m := by
      intro m
      induction m with
      | zero => rfl
      | succ m ih => rw [List.replicate_succ, List.flatMap_cons, List.length_append, hdatagram, ih, Nat.add_comm]
    exact hlen n
  · rw [h.counters]
    refine (foldl_observe_matched sampleTarget.config _ sampleTarget.counters).trans ?_
    rw [verdictCount, List.countP_replicate, if_pos (decide_eq_true hverdict)]
    exact UInt64.zero_add _

/-- after 2^64 frames the counter of the matched ones is back at zero, and the saturating ones are not -/
theorem wrapped_matched_counter :
    ∃ rx' targets' logged',
      processReads {} [sampleTarget] (LoggedHost.mk (QuietHost.mk 0) []) [List.replicate (2 ^ 64) sampleRxPacket] =
        .ok (.ok (), rx', targets', logged') ∧
      ∃ target' ∈ targets',
        ¬ target'.counters.forwarded.toNat + target'.counters.sendFailed.toNat ≤ target'.counters.matched.toNat := by
  generalize hn : 2 ^ 64 = n
  obtain ⟨rx', targets', logged', hprocess, -⟩ :=
    processReads_accumulates {} [sampleTarget] (LoggedHost.mk (QuietHost.mk 0) []) (framed_replicate n)
  obtain ⟨sends, -, hruns⟩ := forwards_targets (processReads_forwards hprocess) ownSockets_sampleTarget
  obtain ⟨target', hrun, htargets⟩ : ∃ target', TargetRun (receivedFrames [List.replicate n sampleRxPacket].flatten)
      sampleTarget target' (ownSends sampleTarget sends) ∧ targets' = [target'] := by
    cases hruns with
    | cons hrun hrest =>
      cases hrest
      exact ⟨_, hrun, rfl⟩
  have hframes : receivedFrames [List.replicate n sampleRxPacket].flatten = List.replicate n sampleRxFrame := by
    have hreceived : receivedFrame sampleRxPacket = some sampleRxFrame := rfl
    rw [List.flatten_singleton, receivedFrames, List.filterMap_replicate_of_some hreceived]
  rw [hframes] at hrun
  obtain ⟨hown, hmatched⟩ := replicate_run n hrun
  refine ⟨rx', targets', logged', hprocess, target', by rw [htargets]; exact List.mem_singleton_self _, ?_⟩
  obtain ⟨hforwarded, hfailed⟩ := hrun.answers rfl
  have hzero : (UInt64.ofNat n).toNat = 0 := by rw [UInt64.toNat_ofNat', ← hn, Nat.mod_self]
  have hsome : (ownSends sampleTarget sends).countP DatagramSend.failed ≤ (ownSends sampleTarget sends).length :=
    List.countP_le_length
  rw [hmatched, hzero, hforwarded, hfailed, u64Max]
  omega

end WfbLink.Runtime
