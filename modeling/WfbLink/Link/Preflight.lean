/-
The preflight of the best-effort transmit sockets (`apply_best_effort_tx_bind_preflight`).

A best-effort transmit stream whose socket cannot be bound must not keep the radio from starting, so its socket is taken
out of the configuration. The first socket has a field of its own, which is filled from the list behind it, and at last
with a wildcard.

- `preflight_binds`: what is left is the list without the unavailable sockets, or the wildcard if that is empty.
- `preflight_degraded`: every socket that was taken out is reported once.
- `preflight_exact`: both, and no required stream loses its socket.
-/
import WfbLink.Link.Endpoints
import WfbLink.Runtime.FlowConfig

namespace WfbLink.Link

open WfbLink.Runtime

/-! ## The preflight -/

def runtimeTxBindAddrs (config : ProductionRuntimeFlowConfig) : List SocketAddr :=
  config.bindAddr :: config.txBinds

/-- "127.0.0.1:0" -/
def fallbackBind : SocketAddr := ⟨"127.0.0.1", 0⟩

def removeRuntimeTxBind (config : ProductionRuntimeFlowConfig) (localUdp : SocketAddr) : ProductionRuntimeFlowConfig :=
  if config.bindAddr = localUdp then
    match config.txBinds with
    | promoted :: txBinds => { config with bindAddr := promoted, txBinds }
    | [] => { config with bindAddr := fallbackBind }
  else { config with txBinds := config.txBinds.filter fun bind => bind ≠ localUdp }

def LinkStreamEndpoint.bestEffortTx (stream : LinkStreamEndpoint) : Bool :=
  stream.direction = .tx && stream.criticality = .bestEffort

def unavailableTxBind (stream : LinkStreamEndpoint) (error : String) : LinkStreamDegradation where
  name := stream.name
  reason := s!"best-effort TX bind {stream.localUdp.text} unavailable: {error}"

/-- the loop over the best-effort transmit streams; `bindError` says why a socket cannot be bound, if it cannot -/
def preflightStreams (bindError : SocketAddr → Option String) (config : ProductionRuntimeFlowConfig) :
    List LinkStreamEndpoint → ProductionRuntimeFlowConfig × List LinkStreamDegradation
  | [] => (config, [])
  | stream :: streams =>
    if stream.localUdp ∉ runtimeTxBindAddrs config then preflightStreams bindError config streams
    else
      match bindError stream.localUdp with
      | none => preflightStreams bindError config streams
      | some error =>
        let (config, degraded) := preflightStreams bindError (removeRuntimeTxBind config stream.localUdp) streams
        (config, unavailableTxBind stream error :: degraded)

def applyBestEffortTxBindPreflight (bindError : SocketAddr → Option String) (config : ProductionRuntimeFlowConfig)
    (endpoints : LinkEndpoints) : ProductionRuntimeFlowConfig × List LinkStreamDegradation :=
  preflightStreams bindError config (endpoints.streams.filter (·.bestEffortTx))

/-! ## The sockets that are left -/

/-- a list of sockets, or the wildcard instead of none -/
def orFallback (binds : List SocketAddr) : List SocketAddr :=
  if binds = [] then [fallbackBind] else binds

/-- the socket of one of the streams, and it cannot be bound -/
def Unavailable (bindError : SocketAddr → Option String) (streams : List LinkStreamEndpoint) (bind : SocketAddr) :
    Prop :=
  (bindError bind).isSome ∧ bind ∈ streams.map (·.localUdp)

instance (bindError : SocketAddr → Option String) (streams : List LinkStreamEndpoint) (bind : SocketAddr) :
    Decidable (Unavailable bindError streams bind) := inferInstanceAs (Decidable (_ ∧ _))

variable {bindError : SocketAddr → Option String} {config : ProductionRuntimeFlowConfig}
  {streams : List LinkStreamEndpoint} {stream : LinkStreamEndpoint} {binds : List SocketAddr} {bind : SocketAddr}

/-- taking a socket out, wherever it is -/
theorem removeRuntimeTxBind_binds (hnodup : (runtimeTxBindAddrs config).Nodup) (localUdp : SocketAddr) :
    runtimeTxBindAddrs (removeRuntimeTxBind config localUdp) =
      orFallback ((runtimeTxBindAddrs config).filter fun bind => bind ≠ localUdp) := by
  obtain ⟨hfirst, -⟩ := List.nodup_cons.1 hnodup
  unfold removeRuntimeTxBind
  split_ifs with h
  · have hothers : config.txBinds.filter (fun bind => bind ≠ localUdp) = config.txBinds := by
      rw [List.filter_eq_self]
      intro bind hbind
      rw [decide_eq_true_iff]
      rintro rfl
      exact hfirst (h ▸ hbind)
    have hkept : (runtimeTxBindAddrs config).filter (fun bind => bind ≠ localUdp) = config.txBinds := by
      rw [runtimeTxBindAddrs, List.filter_cons_of_neg (by simp [h]), hothers]
    rw [hkept]
    cases hbinds : config.txBinds with
    | nil => simp [runtimeTxBindAddrs, orFallback]
    | cons promoted txBinds => simp [runtimeTxBindAddrs, orFallback]
  · rw [runtimeTxBindAddrs, runtimeTxBindAddrs, List.filter_cons_of_pos (by simp [h]), orFallback,
      if_neg (List.cons_ne_nil _ _)]

theorem orFallback_nodup (hnodup : binds.Nodup) : (orFallback binds).Nodup := by
  unfold orFallback
  split_ifs
  · exact List.nodup_singleton _
  · exact hnodup

/-- the unavailable sockets of one more stream -/
theorem filter_unavailable_cons (binds : List SocketAddr) :
    binds.filter (fun bind => ¬ Unavailable bindError (stream :: streams) bind) =
      (binds.filter fun bind => ¬ Unavailable bindError [stream] bind).filter
        fun bind => ¬ Unavailable bindError streams bind := by
  rw [List.filter_filter]
  refine List.filter_congr fun bind _ => ?_
  rw [← Bool.decide_and, decide_eq_decide]
  unfold Unavailable
  simp only [List.map_cons, List.map_nil, List.mem_cons, List.not_mem_nil, or_false]
  tauto

/-- a stream whose socket is not there, or can be bound, takes nothing out -/
theorem filter_unavailable_one (h : stream.localUdp ∉ binds ∨ bindError stream.localUdp = none) :
    binds.filter (fun bind => ¬ Unavailable bindError [stream] bind) = binds := by
  rw [List.filter_eq_self]
  intro bind hbind
  rw [decide_eq_true_iff]
  rintro ⟨herror, hmem⟩
  obtain rfl := List.mem_singleton.1 hmem
  rcases h with habsent | hnone
  · exact habsent hbind
  · rw [hnone] at herror
    cases herror

theorem filter_unavailable_removed (hsome : (bindError stream.localUdp).isSome) :
    binds.filter (fun bind => ¬ Unavailable bindError [stream] bind) =
      binds.filter fun bind => bind ≠ stream.localUdp := by
  refine List.filter_congr fun bind _ => ?_
  rw [decide_eq_decide]
  unfold Unavailable
  simp only [List.map_cons, List.map_nil, List.mem_singleton]
  constructor
  · rintro h rfl
    exact h ⟨hsome, rfl⟩
  · exact fun h h' => h h'.2

theorem mem_orFallback (h : bind ∈ binds) : bind ∈ orFallback binds := by
  rwa [orFallback, if_neg (List.ne_nil_of_mem h)]

/-- taking a socket out of a list, or out of the wildcard that stands for it -/
theorem removeRuntimeTxBind_orFallback (hnodup : binds.Nodup) (hbinds : runtimeTxBindAddrs config = orFallback binds)
    {localUdp : SocketAddr} (hmem : localUdp ∈ runtimeTxBindAddrs config) :
    runtimeTxBindAddrs (removeRuntimeTxBind config localUdp) =
      orFallback (binds.filter fun bind => bind ≠ localUdp) := by
  rw [removeRuntimeTxBind_binds (hbinds ▸ orFallback_nodup hnodup), hbinds]
  rw [hbinds] at hmem
  unfold orFallback at hmem ⊢
  by_cases hnil : binds = []
  · rw [if_pos hnil, List.mem_singleton] at hmem
    simp [hnil, hmem]
  · rw [if_neg hnil]

/-- the loop, from a configuration that may already have come down to the wildcard -/
theorem preflight_binds (hnodup : binds.Nodup) (hbinds : runtimeTxBindAddrs config = orFallback binds) :
    runtimeTxBindAddrs (preflightStreams bindError config streams).1 =
      orFallback (binds.filter fun bind => ¬ Unavailable bindError streams bind) := by
  induction streams generalizing config binds with
  | nil =>
    have hnone : binds.filter (fun bind => ¬ Unavailable bindError [] bind) = binds := by
      rw [List.filter_eq_self]
      exact fun bind _ => decide_eq_true fun h => List.not_mem_nil h.2
    rw [hnone, preflightStreams, hbinds]
  | cons stream streams ih =>
    rw [filter_unavailable_cons, preflightStreams]
    by_cases habsent : stream.localUdp ∉ runtimeTxBindAddrs config
    · rw [if_pos habsent, filter_unavailable_one (Or.inl fun hmem => habsent (hbinds ▸ mem_orFallback hmem))]
      exact ih hnodup hbinds
    · rw [if_neg habsent]
      cases herror : bindError stream.localUdp with
      | none =>
        rw [filter_unavailable_one (Or.inr herror)]
        exact ih hnodup hbinds
      | some error =>
        rw [filter_unavailable_removed (by rw [herror]; rfl)]
        exact ih (hnodup.filter _) (removeRuntimeTxBind_orFallback hnodup hbinds (not_not.1 habsent))

/-! ## What is reported -/

/-- the degradations report one stream for each of the sockets, and no other -/
def ReportsEach (bindError : SocketAddr → Option String) (streams : List LinkStreamEndpoint)
    (sockets : SocketAddr → Prop) (degraded : List LinkStreamDegradation) : Prop :=
  ∃ removed : List LinkStreamEndpoint, removed.Sublist streams ∧ (removed.map (·.localUdp)).Nodup ∧
    (∀ bind, bind ∈ removed.map (·.localUdp) ↔ sockets bind) ∧
    degraded = removed.map fun stream => unavailableTxBind stream ((bindError stream.localUdp).getD "")

/-- where the wildcard is not one of them, every socket that is taken out is reported once -/
theorem preflight_degraded (hfallback : ¬ Unavailable bindError streams fallbackBind) (hnodup : binds.Nodup)
    (hbinds : runtimeTxBindAddrs config = orFallback binds) :
    ReportsEach bindError streams (fun bind => bind ∈ binds ∧ Unavailable bindError streams bind)
      (preflightStreams bindError config streams).2 := by
  induction streams generalizing config binds with
  | nil =>
    exact ⟨[], List.Sublist.refl [], List.nodup_nil,
      fun bind => iff_of_false List.not_mem_nil fun h => List.not_mem_nil h.2.2, rfl⟩
  | cons stream streams ih =>
    have hlater : ¬ Unavailable bindError streams fallbackBind :=
      fun h => hfallback ⟨h.1, List.mem_cons_of_mem _ h.2⟩
    rw [preflightStreams]
    -- the streams behind this one report as before
    have hskip (hkept : stream.localUdp ∉ binds ∨ bindError stream.localUdp = none) :
        ReportsEach bindError (stream :: streams)
          (fun bind => bind ∈ binds ∧ Unavailable bindError (stream :: streams) bind)
          (preflightStreams bindError config streams).2 := by
      obtain ⟨removed, hsub, hremoved, hmem, hdegraded⟩ := ih hlater hnodup hbinds
      refine ⟨removed, hsub.cons stream, hremoved, fun bind => (hmem bind).trans ?_, hdegraded⟩
      refine and_congr_right fun hbind => and_congr_right fun herror => ?_
      rw [List.map_cons, List.mem_cons, or_iff_right]
      rintro rfl
      rcases hkept with habsent | hnone
      · exact habsent hbind
      · rw [hnone] at herror
        cases herror
    by_cases habsent : stream.localUdp ∉ runtimeTxBindAddrs config
    · rw [if_pos habsent]
      exact hskip (Or.inl fun hmem => habsent (hbinds ▸ mem_orFallback hmem))
    · rw [if_neg habsent]
      have hpresent := not_not.1 habsent
      cases herror : bindError stream.localUdp with
      | none => exact hskip (Or.inr herror)
      | some error =>
        have hmem : stream.localUdp ∈ binds := by
          rw [hbinds, orFallback] at hpresent
          split_ifs at hpresent
          · refine absurd ⟨?_, ?_⟩ hfallback
            · rw [← List.mem_singleton.1 hpresent, herror]; rfl
            · rw [← List.mem_singleton.1 hpresent]; exact List.mem_cons_self
          · exact hpresent
        obtain ⟨removed, hsub, hremoved, hothers, hdegraded⟩ :=
          ih hlater (hnodup.filter fun bind => bind ≠ stream.localUdp)
            (removeRuntimeTxBind_orFallback hnodup hbinds hpresent)
        refine ⟨stream :: removed, hsub.cons_cons stream, ?_, fun bind => ?_, ?_⟩
        · refine List.nodup_cons.2 ⟨fun h => ?_, hremoved⟩
          have hkept := ((hothers _).1 h).1
          simp at hkept
        · rw [List.map_cons, List.mem_cons, hothers]
          unfold Unavailable
          simp only [List.mem_filter, List.map_cons, List.mem_cons, decide_eq_true_iff]
          constructor
          · rintro (rfl | ⟨⟨hbind, -⟩, hsome, hlater⟩)
            · exact ⟨hmem, by rw [herror]; rfl, Or.inl rfl⟩
            · exact ⟨hbind, hsome, Or.inr hlater⟩
          · rintro ⟨hbind, hsome, hwhere⟩
            by_cases hthis : bind = stream.localUdp
            · exact Or.inl hthis
            · exact Or.inr ⟨⟨hbind, hthis⟩, hsome, hwhere.resolve_left hthis⟩
        · simp only [List.map_cons, herror, Option.getD_some, hdegraded]

/-! ## The preflight is exact -/

/-- **The preflight is exact.** It leaves the sockets in order, without those of the unavailable best-effort transmit
streams; it reports each socket it takes out once, unless the wildcard is one of them; and no required stream with a
socket of its own loses it. -/
theorem preflight_exact (bindError : SocketAddr → Option String) (config : ProductionRuntimeFlowConfig)
    (endpoints : LinkEndpoints) (hnodup : (runtimeTxBindAddrs config).Nodup) :
    let (config', degraded) := applyBestEffortTxBindPreflight bindError config endpoints
    let gone := Unavailable bindError (endpoints.streams.filter (·.bestEffortTx))
    runtimeTxBindAddrs config' = orFallback ((runtimeTxBindAddrs config).filter fun bind => ¬ gone bind) ∧
      (¬ gone fallbackBind →
        ReportsEach bindError (endpoints.streams.filter (·.bestEffortTx))
          (fun bind => bind ∈ runtimeTxBindAddrs config ∧ gone bind) degraded) ∧
      (∀ stream ∈ endpoints.streams, stream.criticality = .required →
        (∀ other ∈ endpoints.streams, other.bestEffortTx = true → other.localUdp ≠ stream.localUdp) →
        stream.localUdp ∈ runtimeTxBindAddrs config → stream.localUdp ∈ runtimeTxBindAddrs config') := by
  have hbinds : runtimeTxBindAddrs config = orFallback (runtimeTxBindAddrs config) :=
    (if_neg (List.cons_ne_nil _ _)).symm
  have hleft := @preflight_binds bindError config (endpoints.streams.filter (·.bestEffortTx)) _ hnodup hbinds
  refine ⟨hleft, fun hfallback => preflight_degraded hfallback hnodup hbinds, fun stream _ _ hown hmem => ?_⟩
  refine hleft ▸ mem_orFallback (List.mem_filter.2 ⟨hmem, decide_eq_true fun hgone => ?_⟩)
  obtain ⟨other, hother, hsocket⟩ := List.mem_map.1 hgone.2
  obtain ⟨hother, heffort⟩ := List.mem_filter.1 hother
  exact hown other hother heffort hsocket

/-- in endpoints that are accepted every required stream has a socket of its own -/
theorem required_socket_own {endpoints : LinkEndpoints} (h : validateLinkEndpoints endpoints = .ok ())
    {stream : LinkStreamEndpoint} (hstream : stream ∈ endpoints.streams) (hrequired : stream.criticality = .required)
    {other : LinkStreamEndpoint} (hother : other ∈ endpoints.streams) (heffort : other.bestEffortTx = true) :
    other.localUdp ≠ stream.localUdp := by
  intro hsocket
  obtain rfl := List.inj_on_of_nodup_map (validateLinkEndpoints_ok h).sockets hother hstream hsocket
  rw [LinkStreamEndpoint.bestEffortTx, hrequired] at heffort
  simp at heffort

def loopbackAt (port : UInt16) : SocketAddr := ⟨"127.0.0.1", port⟩

def sampleTxEndpoint (name : String) (port : UInt16) (criticality : StreamCriticality) : LinkStreamEndpoint where
  name
  direction := .tx
  localUdp := loopbackAt port
  payloadKind := .wfbDistributorDatagram
  criticality
  stream := none

/-- a port is in use -/
def portInUse (port : UInt16) (bind : SocketAddr) : Option String :=
  if bind.port = port then some "address in use" else none

def preflightConfig (binds : List SocketAddr) : ProductionRuntimeFlowConfig :=
  { sampleFlowConfig ⟨36, 5180, .ghz5⟩ .mhz20 with bindAddr := loopbackAt 39001, txBinds := binds }

theorem preflight_exact_sample :
    let (config', degraded) := applyBestEffortTxBindPreflight (portInUse 39001) (preflightConfig [loopbackAt 39002])
      ⟨[sampleTxEndpoint "video" 39001 .bestEffort, sampleTxEndpoint "control" 39002 .required], none⟩
    let gone := Unavailable (portInUse 39001) ([sampleTxEndpoint "video" 39001 .bestEffort,
      sampleTxEndpoint "control" 39002 .required].filter (·.bestEffortTx))
    runtimeTxBindAddrs config' = orFallback ([loopbackAt 39001, loopbackAt 39002].filter fun bind => ¬ gone bind) ∧
      (¬ gone fallbackBind →
        ReportsEach (portInUse 39001) ([sampleTxEndpoint "video" 39001 .bestEffort,
          sampleTxEndpoint "control" 39002 .required].filter (·.bestEffortTx))
          (fun bind => bind ∈ [loopbackAt 39001, loopbackAt 39002] ∧ gone bind) degraded) ∧
      (∀ stream ∈ [sampleTxEndpoint "video" 39001 .bestEffort, sampleTxEndpoint "control" 39002 .required],
        stream.criticality = .required →
        (∀ other ∈ [sampleTxEndpoint "video" 39001 .bestEffort, sampleTxEndpoint "control" 39002 .required],
          other.bestEffortTx = true → other.localUdp ≠ stream.localUdp) →
        stream.localUdp ∈ [loopbackAt 39001, loopbackAt 39002] → stream.localUdp ∈ runtimeTxBindAddrs config') :=
  preflight_exact (portInUse 39001) (preflightConfig [loopbackAt 39002])
    ⟨[sampleTxEndpoint "video" 39001 .bestEffort, sampleTxEndpoint "control" 39002 .required], none⟩ (by decide)

/-- a required stream on the socket of an unavailable best-effort stream loses it; and where no port at all can be bound
the wildcard is reported in its turn, so that two degradations stand for one socket -/
theorem shared_sockets_and_wildcard :
    (∃ config' degraded, applyBestEffortTxBindPreflight (portInUse 39001) (preflightConfig [loopbackAt 39002])
        ⟨[sampleTxEndpoint "control" 39001 .required, sampleTxEndpoint "video" 39001 .bestEffort], none⟩ =
          (config', degraded) ∧
        loopbackAt 39001 ∉ runtimeTxBindAddrs config') ∧
      ∃ config' degraded, applyBestEffortTxBindPreflight (fun _ => some "no sockets left") (preflightConfig [])
        ⟨[sampleTxEndpoint "video" 39001 .bestEffort, sampleTxEndpoint "any" 0 .bestEffort], none⟩ =
          (config', degraded) ∧
        runtimeTxBindAddrs (preflightConfig []) = [loopbackAt 39001] ∧ degraded.length = 2 :=
  ⟨⟨_, _, rfl, by decide⟩, _, _, rfl, rfl, rfl⟩

end WfbLink.Link
