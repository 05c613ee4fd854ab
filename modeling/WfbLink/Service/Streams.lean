/-
The streams of a service config file and the plan of the runtime.

A file's streams are split into the sockets to transmit from, a primary forward and further forwards. The further ones
are printed to text and read back, and take the link id of the primary one where they have none.

- `resolve_streams`, `runtimeConfig_streams`: what the resolved run and the runtime's configuration have of a file's
  streams.
- `planned_forwards`: the forwards of a plan, one by one.
- `streams_faithful_iff`: the plan forwards exactly the file's streams, unless one of them takes the link id of the first.
- `stream_takes_link_id`: a file with a stream that does so.
-/
import WfbLink.Service.Resolve

namespace WfbLink.Service

open WfbLink.Core WfbLink.RadioCore WfbLink.Bridge WfbLink.Runtime

/-! ## Streams and forwards -/

namespace ServiceConfigFile

variable (file : ServiceConfigFile)

def defaultLinkId : Option UInt32 := file.wfb.bind (·.linkId)

def streamsOf (direction : ServiceStreamDirection) : List ServiceStreamConfig :=
  (file.streams.getD []).filter fun stream => stream.direction = direction

def rxTimeoutMs : UInt64 := (file.radio.bind (·.rxTimeoutMs)).getD 20

def txBurstLimit : UInt32 := (file.radio.bind (·.txBurstLimit)).getD 8

end ServiceConfigFile

/-- the forward of a stream: its own radio port, its own socket, and its own link id or else the default one -/
def ForwardOf (defaultLinkId : Option UInt32) (stream : ServiceStreamConfig) (forward : ProductionRuntimeRxForwardPlan) :
    Prop :=
  ∃ linkId, stream.linkId.or defaultLinkId = some linkId ∧
    forward.config.channelId = ⟨linkId, stream.radioPort⟩ ∧
    forward.aggregator = some (runtimeSocket stream.localUdp)

/-- the configuration binds the file's TX streams, and every plan of it forwards exactly the RX streams -/
structure Faithful (file : ServiceConfigFile) (config : ServiceRuntimeConfig) : Prop where
  binds : config.bindAddr :: config.txBinds = (file.streamsOf .tx).map fun stream => runtimeSocket stream.localUdp
  planned : ∀ plan, planProductionWfbLoop config.wfbLoopConfig = .ok plan →
    plan.txBindAddrs = ((file.streamsOf .tx).map fun stream => runtimeSocket stream.localUdp) ∧
      List.Forall₂ (ForwardOf file.defaultLinkId) (file.streamsOf .rx) plan.rxForwards

/-- a later RX stream without a link id takes the first one's, and nothing else has the plan rejected -/
structure Inherits (file : ServiceConfigFile) : Prop where
  noDefault : file.defaultLinkId = none
  first : ∃ first rest, file.streamsOf .rx = first :: rest ∧ first.linkId ≠ none ∧ ∃ stream ∈ rest, stream.linkId = none
  fits : ∀ stream ∈ file.streamsOf .rx, ∀ linkId, stream.linkId = some linkId → linkId ≤ 0x00ffffff
  timeout : file.rxTimeoutMs ≠ 0
  burst : file.txBurstLimit ≠ 0

/-! ## Resolution -/

def resolvedStream (defaultLinkId : Option UInt32) (stream : ServiceStreamConfig) : ResolvedServiceStream where
  name := stream.name
  direction := stream.direction
  radioPort := stream.radioPort
  localUdp := stream.localUdp
  linkId := stream.linkId.or defaultLinkId
  payloadKind := stream.payloadKind.getD .wfbDistributorDatagram
  criticality := stream.criticality.getD .required

theorem serviceResolvedStreams_ok {file : ServiceConfigFile} {streams : List ResolvedServiceStream}
    (h : serviceResolvedStreams file.streams file.wfb = .ok streams) :
    streams = (file.streams.getD []).map (resolvedStream file.defaultLinkId) := by
  refine mapM_eq_map (fun stream _ resolved hstep => ?_) h
  rw [serviceResolvedStream] at hstep
  split_ifs at hstep
  cases hstep
  rfl

theorem filter_resolvedStream (file : ServiceConfigFile) (direction : ServiceStreamDirection) :
    (((file.streams.getD []).map (resolvedStream file.defaultLinkId)).filter fun stream => stream.direction = direction) =
      (file.streamsOf direction).map (resolvedStream file.defaultLinkId) := by
  rw [List.filter_map]
  rfl

/-- what a resolved run has of the streams of a file -/
structure ResolvesStreams (file : ServiceConfigFile) (resolved : ResolvedServiceRun) : Prop where
  binds : resolved.bind :: resolved.txBinds = (file.streamsOf .tx).map (·.localUdp)
  forwards : ∃ first rest, file.streamsOf .rx = first :: rest ∧
    resolved.wfbLinkId = first.linkId.or file.defaultLinkId ∧
    resolved.wfbRadioPort = some first.radioPort ∧
    resolved.rxAggregator = some first.localUdp ∧
    resolved.rxForwards = rest.map fun stream =>
      serviceStreamRxForwardArg (resolvedStream file.defaultLinkId stream) file.defaultLinkId
  timeout : resolved.rxTimeoutMs = file.rxTimeoutMs
  burst : resolved.txBurstLimit = file.txBurstLimit
  schedule : resolved.airtimeSchedule.validate = .ok ()

theorem resolve_streams {load : String → Except RuntimeRadioError ServiceConfigFile} {path : String}
    {file : ServiceConfigFile} {resolved : ResolvedServiceRun} (hfile : load path = .ok file)
    (htx : file.streamsOf .tx ≠ []) (hrx : file.streamsOf .rx ≠ [])
    (h : resolveServiceRun load (.configOnly path) = .ok resolved) : ResolvesStreams file resolved := by
  obtain ⟨txFirst, txRest, htx⟩ := List.exists_cons_of_ne_nil htx
  obtain ⟨first, rest, hrx⟩ := List.exists_cons_of_ne_nil hrx
  rw [resolveServiceRun] at h
  obtain ⟨loaded, hloaded, h⟩ := except_bind_ok h
  cases hfile.symm.trans hloaded
  obtain ⟨streams, hstreams, h⟩ := except_bind_ok h
  have hstreams := serviceResolvedStreams_ok hstreams
  have hbinds : serviceStreamTxBindAddrs streams = (txFirst :: txRest).map (·.localUdp) := by
    rw [serviceStreamTxBindAddrs, hstreams, filter_resolvedStream, htx, List.map_map]
    rfl
  have hinputs : serviceStreamRxInputs streams file.defaultLinkId = some {
      linkId := (first.linkId.or file.defaultLinkId).or file.defaultLinkId
      radioPort := first.radioPort
      aggregator := first.localUdp
      rxForwards := rest.map fun stream =>
        serviceStreamRxForwardArg (resolvedStream file.defaultLinkId stream) file.defaultLinkId } := by
    rw [serviceStreamRxInputs, hstreams, filter_resolvedStream, hrx]
    simp [resolvedStream, Function.comp_def]
  dsimp only at h
  split at h
  case h_2 => cases h
  obtain ⟨_, _, h⟩ := except_bind_ok h
  split at h
  case h_2 => cases h
  obtain ⟨schedule, hschedule, h⟩ := except_bind_ok h
  rw [serviceAirtimeScheduleFromInputs] at hschedule
  obtain ⟨_, hvalid, hschedule⟩ := except_bind_ok hschedule
  cases hschedule
  cases h
  have hor : (first.linkId.or file.defaultLinkId).or file.defaultLinkId = first.linkId.or file.defaultLinkId := by
    cases first.linkId <;> simp
  have hnone : (ServiceCli.configOnly path).rxOverrides = false := rfl
  rw [hor] at hinputs
  rw [ServiceConfigFile.defaultLinkId] at hinputs
  refine {
    binds := ?_
    forwards := ⟨first, rest, hrx, ?_, ?_, ?_, ?_⟩
    timeout := rfl
    burst := rfl
    schedule := hvalid }
  · rw [hbinds, htx]
    rfl
  all_goals
    dsimp only
    rw [hnone, hinputs]
    rfl

/-! ## The configuration of the runtime -/

/-- the forward of a stream that may take a link id -/
def takingForward (taken : Option UInt32) (stream : ServiceStreamConfig) : ProductionRuntimeRxForwardConfig where
  linkId := stream.linkId.or taken
  radioPort := stream.radioPort
  aggregator := some (runtimeSocket stream.localUdp)

/-- what the runtime's configuration has of the streams of a file, whose first RX stream's link id is taken -/
structure ConfiguresStreams (file : ServiceConfigFile) (config : ServiceRuntimeConfig)
    (first : ServiceStreamConfig) (rest : List ServiceStreamConfig) : Prop where
  rx : file.streamsOf .rx = first :: rest
  binds : config.bindAddr :: config.txBinds = (file.streamsOf .tx).map fun stream => runtimeSocket stream.localUdp
  primary : config.primaryRxForward = {
    linkId := first.linkId.or (file.defaultLinkId.or first.linkId)
    radioPort := some first.radioPort
    aggregator := some (runtimeSocket first.localUdp) }
  forwards : config.rxForwards = rest.map (takingForward (file.defaultLinkId.or first.linkId))
  timeout : config.rxTimeoutMs = file.rxTimeoutMs
  burst : config.txBurstLimit = file.txBurstLimit
  schedule : config.airtimeSchedule.validate = .ok ()

/-- a printed forward is read back, and takes what it does not have -/
theorem serviceRuntimeRxForward_stream (defaultLinkId firstLinkId : Option UInt32) (stream : ServiceStreamConfig) :
    serviceRuntimeRxForward (firstLinkId.or defaultLinkId)
        (serviceStreamRxForwardArg (resolvedStream defaultLinkId stream) defaultLinkId) =
      .ok (takingForward (defaultLinkId.or firstLinkId) stream) := by
  have hlink : ((stream.linkId.or defaultLinkId).or defaultLinkId).or (firstLinkId.or defaultLinkId) =
      stream.linkId.or (defaultLinkId.or firstLinkId) := by
    cases stream.linkId <;> cases defaultLinkId <;> cases firstLinkId <;> rfl
  rw [serviceRuntimeRxForward, parseServiceRxForwardArg_text]
  have hforward : ∀ linkId : Option UInt32, linkId = stream.linkId.or (defaultLinkId.or firstLinkId) →
      (⟨linkId, stream.radioPort, some (runtimeSocket stream.localUdp)⟩ : ProductionRuntimeRxForwardConfig) =
        takingForward (defaultLinkId.or firstLinkId) stream := by
    rintro _ rfl
    rfl
  exact congrArg Except.ok (hforward _ hlink)

theorem runtimeConfig_streams {file : ServiceConfigFile} {resolved : ResolvedServiceRun} {config : ServiceRuntimeConfig}
    (hresolves : ResolvesStreams file resolved) (h : serviceRuntimeConfigFromResolved resolved = .ok config) :
    ∃ first rest, ConfiguresStreams file config first rest := by
  obtain ⟨hbinds, ⟨first, rest, hrx, hlink, hport, haggregator, hforwards⟩, htimeout, hburst, hschedule⟩ := hresolves
  rw [serviceRuntimeConfigFromResolved] at h
  obtain ⟨channel, _, h⟩ := except_bind_ok h
  obtain ⟨usb, _, h⟩ := except_bind_ok h
  obtain ⟨rxForwards, hrxForwards, h⟩ := except_bind_ok h
  cases h
  have hread : rxForwards = rest.map (takingForward (file.defaultLinkId.or first.linkId)) := by
    rw [serviceRuntimeRxForwards, hforwards, hlink, List.mapM_map] at hrxForwards
    refine mapM_eq_map (fun stream _ forward hstep => ?_) hrxForwards
    exact Except.ok.inj ((serviceRuntimeRxForward_stream _ _ stream).symm.trans hstep)
  refine ⟨first, rest, {
    rx := hrx
    binds := ?_
    primary := ?_
    forwards := hread
    timeout := htimeout
    burst := hburst
    schedule := hschedule }⟩
  · have hsockets := congrArg (List.map runtimeSocket) hbinds
    rw [List.map_cons, List.map_map] at hsockets
    exact hsockets
  · have hown : first.linkId.or file.defaultLinkId = first.linkId.or (file.defaultLinkId.or first.linkId) := by
      cases first.linkId <;> cases file.defaultLinkId <;> rfl
    dsimp only
    rw [hlink, hport, haggregator, hown]
    rfl

/-! ## The plan -/

section Planned

variable {file : ServiceConfigFile} {config : ServiceRuntimeConfig} {first : ServiceStreamConfig}
  {rest : List ServiceStreamConfig} {plan : ProductionRuntimeWfbLoopPlan}

/-- the forward of a stream, whose link id fits -/
def PlannedForward (taken : Option UInt32) (stream : ServiceStreamConfig) (forward : ProductionRuntimeRxForwardPlan) :
    Prop :=
  ForwardOf taken stream forward ∧ forward.config.channelId.linkId ≤ 0x00ffffff

/-- the targets of the runtime's configuration -/
theorem ConfiguresStreams.targets (hconfig : ConfiguresStreams file config first rest) :
    ForwardsTo config.wfbLoopConfig
      ((first :: rest).map (takingForward (file.defaultLinkId.or first.linkId))) where
  primary := hconfig.primary
  others := hconfig.forwards

/-- **The forwards of a plan** are those of the file's RX streams, with the link id that they take. -/
theorem planned_forwards (hconfig : ConfiguresStreams file config first rest)
    (h : planProductionWfbLoop config.wfbLoopConfig = .ok plan) :
    List.Forall₂ (PlannedForward (file.defaultLinkId.or first.linkId)) (first :: rest) plan.rxForwards := by
  have hplanned := List.forall₂_map_left_iff.1 (planned_targets hconfig.targets h)
  refine hplanned.imp fun stream forward htarget => ?_
  obtain ⟨linkId, hlink, hfits, hchannel, haggregator⟩ := htarget
  refine ⟨⟨linkId, hlink, hchannel, haggregator⟩, ?_⟩
  rw [hchannel]
  exact hfits

/-- a file whose streams inherit is planned -/
theorem plan_of_inherits (hconfig : ConfiguresStreams file config first rest) (h : Inherits file) :
    ∃ plan, planProductionWfbLoop config.wfbLoopConfig = .ok plan := by
  obtain ⟨_, _, hfirst, hown, _⟩ := h.first
  obtain ⟨rfl, rfl⟩ := List.cons.inj (hconfig.rx.symm.trans hfirst)
  obtain ⟨firstLinkId, hown⟩ := Option.ne_none_iff_exists'.1 hown
  refine plan_of_targets hconfig.targets (List.forall_mem_map.2 fun stream hstream => ?_) ?_ ?_ hconfig.schedule
  · have htaken : (takingForward (file.defaultLinkId.or first.linkId) stream).linkId =
        stream.linkId.or (some firstLinkId) := by
      rw [h.noDefault, hown]
      rfl
    rw [htaken]
    cases hlink : stream.linkId with
    | some linkId => exact ⟨linkId, rfl, h.fits stream (hconfig.rx ▸ hstream) linkId hlink⟩
    | none => exact ⟨firstLinkId, rfl, h.fits first (hconfig.rx ▸ List.mem_cons_self) firstLinkId hown⟩
  · exact fun hzero => h.timeout (hconfig.timeout.symm.trans hzero)
  · exact fun hzero => h.burst (hconfig.burst.symm.trans hzero)

/-- the link ids of a planned file are taken from nowhere, unless its streams inherit -/
theorem own_link_ids (hconfig : ConfiguresStreams file config first rest) (hown : ¬ Inherits file)
    (h : planProductionWfbLoop config.wfbLoopConfig = .ok plan) :
    ∀ stream ∈ first :: rest,
      stream.linkId.or (file.defaultLinkId.or first.linkId) = stream.linkId.or file.defaultLinkId := by
  intro stream hstream
  cases hdefault : file.defaultLinkId with
  | some linkId => rfl
  | none =>
    by_cases hfirst : first.linkId = none
    · rw [hfirst]
      rfl
    cases hlink : stream.linkId with
    | some linkId => rfl
    | none =>
      obtain ⟨htimeout, hburst, _⟩ := plan_ok h
      have hplanned := planned_forwards hconfig h
      refine absurd { noDefault := hdefault, first := ?_, fits := ?_, timeout := ?_, burst := ?_ } hown
      · rcases List.mem_cons.1 hstream with rfl | hstream
        · exact absurd hlink hfirst
        · exact ⟨first, rest, hconfig.rx, hfirst, stream, hstream, hlink⟩
      · intro other hother linkId hlinkId
        rw [hconfig.rx] at hother
        obtain ⟨forward, _, ⟨ownLinkId, hownLinkId, hchannel, _⟩, hfits⟩ := forall₂_exists_right hplanned other hother
        rw [hlinkId] at hownLinkId
        cases hownLinkId
        rw [hchannel] at hfits
        exact hfits
      · rw [← hconfig.timeout]
        exact htimeout
      · rw [← hconfig.burst]
        exact hburst

end Planned

/-! ## The verdict -/

/-- **Streams are planned faithfully**, unless one of them takes the link id of the first. -/
theorem streams_faithful_iff (load : String → Except RuntimeRadioError ServiceConfigFile) (path : String)
    (file : ServiceConfigFile) (hfile : load path = .ok file) (htx : file.streamsOf .tx ≠ [])
    (hrx : file.streamsOf .rx ≠ []) (resolved : ResolvedServiceRun)
    (hresolved : resolveServiceRun load (.configOnly path) = .ok resolved) (config : ServiceRuntimeConfig)
    (hconfig : serviceRuntimeConfigFromResolved resolved = .ok config) :
    Faithful file config ↔ ¬ Inherits file := by
  obtain ⟨first, rest, hstreams⟩ := runtimeConfig_streams (resolve_streams hfile htx hrx hresolved) hconfig
  constructor
  · intro hfaithful hinherits
    obtain ⟨plan, hplan⟩ := plan_of_inherits hstreams hinherits
    obtain ⟨_, hforwards⟩ := hfaithful.planned plan hplan
    obtain ⟨_, _, hfirst, _, stream, hstream, hlink⟩ := hinherits.first
    rw [hfirst, hinherits.noDefault] at hforwards
    obtain ⟨forward, _, linkId, hnone, _⟩ := forall₂_exists_right hforwards stream (List.mem_cons_of_mem _ hstream)
    rw [hlink] at hnone
    cases hnone
  · intro hown
    refine { binds := hstreams.binds, planned := fun plan hplan => ⟨?_, ?_⟩ }
    · rw [plan_txBindAddrs hplan]
      exact hstreams.binds
    · rw [hstreams.rx]
      refine forall₂_imp_left (fun stream hstream forward hforward => ?_) (planned_forwards hstreams hplan)
      obtain ⟨⟨linkId, hlink, hforwards⟩, _⟩ := hforward
      exact ⟨linkId, (own_link_ids hstreams hown hplan stream hstream).symm.trans hlink, hforwards⟩

def loopback : Net.Ipv4Addr := ⟨127, 0, 0, 1⟩

/-- no `[wfb]` link id, and an RX stream without one behind an RX stream with one -/
def sampleFile : ServiceConfigFile where
  radio := some { channel := some 36, firmware := some "rtl8812aefw.bin" }
  streams := some [
    { name := "uplink", direction := .tx, radioPort := 1, localUdp := .v4 ⟨loopback, 5600⟩, linkId := some 7 },
    { name := "video", direction := .rx, radioPort := 1, localUdp := .v4 ⟨loopback, 5801⟩, linkId := some 7 },
    { name := "telemetry", direction := .rx, radioPort := 2,
      localUdp := .v6 ⟨⟨[0xfe80, 0, 0, 0, 0, 0, 0, 1], rfl⟩, 5802, 2⟩ }]

def sampleLoad (_path : String) : Except RuntimeRadioError ServiceConfigFile := .ok sampleFile

/-- the service up to the plan, and the channels and targets that it forwards -/
def sampleForwards : Except RuntimeRadioError (List (WfbChannelId × Option SocketAddr)) := do
  let resolved ← resolveServiceRun sampleLoad (.configOnly "service.toml")
  let config ← serviceRuntimeConfigFromResolved resolved
  let plan ← planProductionWfbLoop config.wfbLoopConfig
  return plan.rxForwards.map fun forward => (forward.config.channelId, forward.aggregator)

theorem sampleForwards_eq : sampleForwards =
    .ok [(⟨7, 1⟩, some ⟨"127.0.0.1", 5801⟩), (⟨7, 2⟩, some ⟨"[fe80::1%2]", 5802⟩)] := by
  decide +kernel

/-- the verdict on the sample file -/
theorem streams_faithful_iff_sample :
    ∃ resolved config, resolveServiceRun sampleLoad (.configOnly "service.toml") = .ok resolved ∧
      serviceRuntimeConfigFromResolved resolved = .ok config ∧ (Faithful sampleFile config ↔ ¬ Inherits sampleFile) := by
  obtain ⟨resolved, hresolved, h⟩ := except_bind_ok sampleForwards_eq
  obtain ⟨config, hconfig, _⟩ := except_bind_ok h
  exact ⟨resolved, config, hresolved, hconfig, streams_faithful_iff sampleLoad "service.toml" sampleFile rfl (by decide)
    (by decide) resolved hresolved config hconfig⟩

/-- the telemetry stream has no link id, and is forwarded with the one of the video stream -/
theorem stream_takes_link_id :
    ∃ resolved config plan, resolveServiceRun sampleLoad (.configOnly "service.toml") = .ok resolved ∧
      serviceRuntimeConfigFromResolved resolved = .ok config ∧
      planProductionWfbLoop config.wfbLoopConfig = .ok plan ∧ sampleFile.defaultLinkId = none ∧
      (sampleFile.streamsOf .rx).map (·.linkId) = [some 7, none] ∧
      plan.rxForwards.map (·.config.channelId) = [⟨7, 1⟩, ⟨7, 2⟩] ∧ ¬ Faithful sampleFile config := by
  obtain ⟨resolved, hresolved, h⟩ := except_bind_ok sampleForwards_eq
  obtain ⟨config, hconfig, h⟩ := except_bind_ok h
  obtain ⟨plan, hplan, h⟩ := except_bind_ok h
  have hchannels := congrArg (List.map Prod.fst) (Except.ok.inj h)
  rw [List.map_map] at hchannels
  refine ⟨resolved, config, plan, hresolved, hconfig, hplan, rfl, rfl, hchannels, fun hfaithful => ?_⟩
  have hforwards := (hfaithful.planned plan hplan).2
  obtain ⟨stream, hstream, hlink⟩ : ∃ stream ∈ sampleFile.streamsOf .rx, stream.linkId = none :=
    ⟨_, List.mem_cons_of_mem _ List.mem_cons_self, rfl⟩
  obtain ⟨_, _, linkId, hnone, _⟩ := forall₂_exists_right hforwards stream hstream
  rw [hlink] at hnone
  cases hnone

end WfbLink.Service
