/-
The endpoints of a link and the health of its streams (`wfb-link/src/lib.rs`).

- `validateLinkEndpoints_ok`: accepted endpoints have distinct names, sockets and radio ports.
- `listed_degraded`: every degradation ends up in the names of the degraded streams.
-/
import WfbLink.Runtime.Host
import WfbLink.Runtime.Counters

namespace WfbLink.Link

open WfbLink.Runtime

/-! ## Endpoints -/

inductive LinkDirection where
  | tx
  | rx
deriving DecidableEq, Repr

inductive PayloadKind where
  | rawApplicationDatagram
  | wfbDistributorDatagram
deriving DecidableEq, Repr

inductive StreamCriticality where
  | required
  | bestEffort
deriving DecidableEq, Repr

structure WfbStreamId where
  linkId : Option UInt32
  radioPort : UInt8
deriving DecidableEq, Repr

structure LinkStreamEndpoint where
  name : String
  direction : LinkDirection
  localUdp : SocketAddr
  payloadKind : PayloadKind
  criticality : StreamCriticality
  stream : Option WfbStreamId
deriving DecidableEq

structure LinkTunnelEndpoint where
  localIp : String
  peerIp : String
  interfaceName : Option String
deriving DecidableEq, Repr

structure LinkEndpoints where
  streams : List LinkStreamEndpoint
  tunnel : Option LinkTunnelEndpoint
deriving DecidableEq

/-! ## Errors -/

inductive LinkBuilderError where
  | duplicateStreamName (name : String)
  | duplicateLocalUdp (localUdp : SocketAddr)
  | duplicateDirectionRadioPort (direction : LinkDirection) (radioPort : UInt8)
deriving DecidableEq, Repr

/-- durations are nanoseconds; errors of the system are texts -/
inductive LinkError where
  | invalidEndpoints (error : LinkBuilderError)
  | invalidBackendConfig (code message : String)
  | backendExitedBeforeReady
  | readyTimeout (timeout : ℕ)
  | joinFailed
  | missingPath (label path : String)
  | spawn (label source : String)
  | processExitedBeforeReady (label status : String)
  | io (path source : String)
  | json (path source : String)
deriving DecidableEq, Repr

/-! ## Validation -/

/-- the checks of one stream against the names, sockets and radio ports of those before it -/
def validateLinkStreams (names : List String) (sockets : List SocketAddr) (streamPorts : List (LinkDirection × UInt8)) :
    List LinkStreamEndpoint → Except LinkBuilderError Unit
  | [] => .ok ()
  | stream :: streams =>
    if stream.name ∈ names then .error (.duplicateStreamName stream.name)
    else if stream.localUdp ∈ sockets then .error (.duplicateLocalUdp stream.localUdp)
    else match stream.stream with
      | none => validateLinkStreams (stream.name :: names) (stream.localUdp :: sockets) streamPorts streams
      | some wfbStream =>
        if (stream.direction, wfbStream.radioPort) ∈ streamPorts then
          .error (.duplicateDirectionRadioPort stream.direction wfbStream.radioPort)
        else
          validateLinkStreams (stream.name :: names) (stream.localUdp :: sockets)
            ((stream.direction, wfbStream.radioPort) :: streamPorts) streams

def validateLinkEndpoints (endpoints : LinkEndpoints) : Except LinkBuilderError Unit :=
  validateLinkStreams [] [] [] endpoints.streams

/-- the direction and the radio port of a stream that has one -/
def LinkStreamEndpoint.port (stream : LinkStreamEndpoint) : Option (LinkDirection × UInt8) :=
  stream.stream.map fun wfbStream => (stream.direction, wfbStream.radioPort)

/-- no two streams share a name, a socket, or a direction and radio port -/
structure DistinctStreams (streams : List LinkStreamEndpoint) : Prop where
  names : (streams.map (·.name)).Nodup
  sockets : (streams.map (·.localUdp)).Nodup
  ports : (streams.filterMap (·.port)).Nodup

/-- nothing of a stream has been used before -/
def LinkStreamEndpoint.Fresh (names : List String) (sockets : List SocketAddr)
    (streamPorts : List (LinkDirection × UInt8)) (stream : LinkStreamEndpoint) : Prop :=
  stream.name ∉ names ∧ stream.localUdp ∉ sockets ∧ ∀ port ∈ stream.port, port ∉ streamPorts

/-- one stream, then the others -/
theorem validateLinkStreams_cons {names : List String} {sockets : List SocketAddr}
    {streamPorts : List (LinkDirection × UInt8)} {stream : LinkStreamEndpoint} {streams : List LinkStreamEndpoint}
    (h : validateLinkStreams names sockets streamPorts (stream :: streams) = .ok ()) :
    stream.Fresh names sockets streamPorts ∧
      validateLinkStreams (stream.name :: names) (stream.localUdp :: sockets) (stream.port.toList ++ streamPorts)
        streams = .ok () := by
  rw [validateLinkStreams] at h
  split_ifs at h with hname hsocket
  cases hstream : stream.stream with
  | none =>
    have hport : stream.port = none := by rw [LinkStreamEndpoint.port, hstream]; rfl
    rw [hstream] at h
    rw [LinkStreamEndpoint.Fresh, hport]
    exact ⟨⟨hname, hsocket, nofun⟩, h⟩
  | some wfbStream =>
    have hport : stream.port = some (stream.direction, wfbStream.radioPort) := by
      rw [LinkStreamEndpoint.port, hstream]
      rfl
    rw [hstream] at h
    dsimp only at h
    split_ifs at h with hused
    rw [LinkStreamEndpoint.Fresh, hport]
    exact ⟨⟨hname, hsocket, fun port hmem => Option.mem_some.1 hmem ▸ hused⟩, h⟩

/-- the streams are fresh, and distinct among each other -/
theorem validateLinkStreams_ok {names : List String} {sockets : List SocketAddr}
    {streamPorts : List (LinkDirection × UInt8)} {streams : List LinkStreamEndpoint}
    (h : validateLinkStreams names sockets streamPorts streams = .ok ()) :
    DistinctStreams streams ∧ ∀ stream ∈ streams, stream.Fresh names sockets streamPorts := by
  induction streams generalizing names sockets streamPorts with
  | nil => exact ⟨⟨.nil, .nil, .nil⟩, nofun⟩
  | cons stream streams ih =>
    obtain ⟨hfresh, hrest⟩ := validateLinkStreams_cons h
    obtain ⟨⟨hnames, hsockets, hports⟩, hothers⟩ := ih hrest
    refine ⟨⟨?_, ?_, ?_⟩, ?_⟩
    · refine List.nodup_cons.2 ⟨fun hmem => ?_, hnames⟩
      obtain ⟨other, hother, hsame⟩ := List.mem_map.1 hmem
      exact (hothers other hother).1 (hsame ▸ List.mem_cons_self)
    · refine List.nodup_cons.2 ⟨fun hmem => ?_, hsockets⟩
      obtain ⟨other, hother, hsame⟩ := List.mem_map.1 hmem
      exact (hothers other hother).2.1 (hsame ▸ List.mem_cons_self)
    · cases hport : stream.port with
      | none => rwa [List.filterMap_cons_none hport]
      | some port =>
        rw [List.filterMap_cons_some hport]
        refine List.nodup_cons.2 ⟨fun hmem => ?_, hports⟩
        obtain ⟨other, hother, hsame⟩ := List.mem_filterMap.1 hmem
        refine (hothers other hother).2.2 port hsame ?_
        rw [hport]
        exact List.mem_cons_self
    · intro other hmem
      rcases List.mem_cons.1 hmem with rfl | hmem
      · exact hfresh
      · obtain ⟨hname, hsocket, hport⟩ := hothers other hmem
        exact ⟨fun h => hname (List.mem_cons_of_mem _ h), fun h => hsocket (List.mem_cons_of_mem _ h),
          fun port hp h => hport port hp (List.mem_append_right _ h)⟩

theorem validateLinkEndpoints_ok {endpoints : LinkEndpoints} (h : validateLinkEndpoints endpoints = .ok ()) :
    DistinctStreams endpoints.streams := (validateLinkStreams_ok h).1

/-! ## Lifecycle and degradation -/

inductive LinkLifecycle where
  | starting
  | ready
  | degraded
  | stopping
  | stopped
  | failed
deriving DecidableEq, Repr

structure LinkStreamDegradation where
  name : String
  reason : String
deriving DecidableEq, Repr

/-- without the counters of the stream -/
structure LinkStreamHealth where
  name : String
  direction : LinkDirection
  localUdp : SocketAddr
  payloadKind : PayloadKind
  criticality : StreamCriticality
  stream : Option WfbStreamId
  degraded : Bool
  degradationReason : Option String

/-- `link_stream_health_from_backend_json`, but for the counters -/
def linkStreamHealth (endpoints : LinkEndpoints) (startupDegradedStreams : List LinkStreamDegradation) :
    List LinkStreamHealth :=
  endpoints.streams.map fun stream =>
    let startupDegradation := startupDegradedStreams.find? fun degradation => degradation.name == stream.name
    { name := stream.name
      direction := stream.direction
      localUdp := stream.localUdp
      payloadKind := stream.payloadKind
      criticality := stream.criticality
      stream := stream.stream
      degraded := startupDegradation.isSome
      degradationReason := startupDegradation.map (·.reason) }

/-- `managed_stream_health_from_backend_json`: the health of the radio's streams, under the names of the product's -/
def managedStreamHealth (productEndpoints radioEndpoints : LinkEndpoints)
    (childDegradations : List LinkStreamDegradation) : List LinkStreamHealth :=
  ((linkStreamHealth radioEndpoints []).zip productEndpoints.streams).map fun (health, product) =>
    let health := { health with
      name := product.name
      direction := product.direction
      localUdp := product.localUdp
      payloadKind := product.payloadKind
      criticality := product.criticality
      stream := product.stream }
    match childDegradations.find? fun degradation => degradation.name == product.name with
    | some degradation => { health with degraded := true, degradationReason := some degradation.reason }
    | none => health

def degradedStreamNames (streams : List LinkStreamHealth) : List String :=
  (streams.filter (·.degraded)).map (·.name)

def degradedStreamNamesWithExtra (streams : List LinkStreamHealth) (extra : List LinkStreamDegradation) :
    List String :=
  extra.foldl (fun names degradation =>
    if degradation.name ∉ streams.map (·.name) ∧ degradation.name ∉ names then names ++ [degradation.name]
    else names) (degradedStreamNames streams)

/-- names are added, never taken away -/
theorem mem_foldl_names {known : List String} {extra : List LinkStreamDegradation} {names : List String} {name : String} :
    (name ∈ names ∨ ∃ degradation ∈ extra, degradation.name = name ∧ name ∉ known) →
    name ∈ extra.foldl (fun names degradation =>
      if degradation.name ∉ known ∧ degradation.name ∉ names then names ++ [degradation.name] else names) names := by
  induction extra generalizing names with
  | nil => exact fun h => h.elim id fun ⟨_, hmem, _⟩ => nomatch hmem
  | cons first extra ih =>
    intro h
    refine ih ?_
    dsimp only
    by_cases hadd : first.name ∉ known ∧ first.name ∉ names
    · rw [if_pos hadd]
      rcases h with hold | ⟨degradation, hmem, rfl, hknown⟩
      · exact Or.inl (List.mem_append_left _ hold)
      · rcases List.mem_cons.1 hmem with rfl | hmem
        · exact Or.inl (List.mem_append_right _ (List.mem_singleton_self _))
        · exact Or.inr ⟨degradation, hmem, rfl, hknown⟩
    · rw [if_neg hadd]
      rcases h with hold | ⟨degradation, hmem, rfl, hknown⟩
      · exact Or.inl hold
      · rcases List.mem_cons.1 hmem with rfl | hmem
        · exact Or.inl (by_contra fun hnames => hadd ⟨hknown, hnames⟩)
        · exact Or.inr ⟨degradation, hmem, rfl, hknown⟩

/-- **Every degradation is listed**, whether it names a stream of the product or not. -/
theorem listed_degraded (productEndpoints radioEndpoints : LinkEndpoints)
    {childDegradations : List LinkStreamDegradation} {degradation : LinkStreamDegradation}
    (hmem : degradation ∈ childDegradations) :
    degradation.name ∈ degradedStreamNamesWithExtra
      (managedStreamHealth productEndpoints radioEndpoints childDegradations) childDegradations := by
  by_cases hknown : degradation.name ∈
      (managedStreamHealth productEndpoints radioEndpoints childDegradations).map (·.name)
  · refine mem_foldl_names (Or.inl ?_)
    obtain ⟨health, hhealth, hname⟩ := List.mem_map.1 hknown
    refine List.mem_map.2 ⟨health, List.mem_filter.2 ⟨hhealth, ?_⟩, hname⟩
    -- a stream of this name is degraded by the first degradation of this name
    obtain ⟨⟨radio, product⟩, -, rfl⟩ := List.mem_map.1 hhealth
    have hfind : (childDegradations.find? fun degradation => degradation.name == product.name).isSome = true := by
      refine List.find?_isSome.2 ⟨degradation, hmem, ?_⟩
      dsimp only at hname
      split at hname
      · exact beq_iff_eq.2 hname.symm
      · exact beq_iff_eq.2 hname.symm
    obtain ⟨found, hfound⟩ := Option.isSome_iff_exists.1 hfind
    dsimp only
    rw [hfound]
  · exact mem_foldl_names (Or.inr ⟨degradation, hmem, rfl, hknown⟩)

/-- nothing is listed where nothing is degraded -/
theorem degradedStreamNames_none (productEndpoints radioEndpoints : LinkEndpoints) :
    degradedStreamNamesWithExtra (managedStreamHealth productEndpoints radioEndpoints []) [] = [] := by
  change degradedStreamNames (managedStreamHealth productEndpoints radioEndpoints []) = []
  rw [degradedStreamNames, List.map_eq_nil_iff, List.filter_eq_nil_iff]
  intro health hhealth
  obtain ⟨⟨radio, product⟩, hmem, rfl⟩ := List.mem_map.1 hhealth
  obtain ⟨stream, -, rfl⟩ := List.mem_map.1 (List.of_mem_zip hmem).1
  exact Bool.false_ne_true

end WfbLink.Link
