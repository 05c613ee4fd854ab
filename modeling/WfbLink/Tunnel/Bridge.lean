/-
The tunnel bridge loop (`run_tun_bridge_macos` in `wfb-tun/src/lib.rs`), from its first poll to the final flush.

Frames read from the tunnel interface are aggregated into datagrams for the peer; the records of a datagram from the
peer are written to the interface. Every error of a handler ends the session.

- `runTunBridge_dropped`: whatever the host does, no packet is ever counted as dropped.
-/
import WfbLink.Core.Action
import WfbLink.Tunnel.Aggregator

namespace WfbLink.Tunnel

open WfbLink.Core

/-! ## utun frames -/

def afInet : ℕ := 2

/-- the value on macOS -/
def afInet6 : ℕ := 30

def utunAfHeader (packet : List UInt8) : Except TunError (List UInt8) :=
  match packet with
  | [] => .error .emptyIpPacket
  | first :: _ =>
    if first >>> 4 = 4 then .ok (toBeU32 afInet)
    else if first >>> 4 = 6 then .ok (toBeU32 afInet6)
    else .error (.unsupportedIpVersion (first >>> 4).toNat)

def stripUtunHeader (frame : List UInt8) : Except TunError (List UInt8) :=
  match frame with
  | b0 :: b1 :: b2 :: b3 :: first :: rest =>
    let family := beU32 b0 b1 b2 b3
    if family ≠ afInet ∧ family ≠ afInet6 then .error (.unsupportedAddressFamily family) else .ok (first :: rest)
  | _ => .error .utunFrameTooShort

/-! ## The host -/

inductive IoErrorKind where
  | wouldBlock
  | interrupted
  | other
deriving DecidableEq, Repr

structure IoError where
  kind : IoErrorKind
  text : String
deriving DecidableEq, Repr

structure Ready where
  tun : Bool
  udp : Bool
deriving DecidableEq, Repr

/-- the interface, the two sockets, the clock and the stop flags of a session -/
class TunHost (ω : Type) where
  stopRequested (host : ω) : Bool × ω
  instantNow (host : ω) : ℕ × ω
  /-- `none`: nothing was ready in time -/
  poll (host : ω) (timeoutMs : ℕ) : Except IoError (Option Ready) × ω
  tunRead (host : ω) (len : ℕ) : Except IoError (List UInt8) × ω
  /-- the number of bytes written -/
  tunWrite (host : ω) (frame : List UInt8) : Except IoError ℕ × ω
  recvFrom (host : ω) (len : ℕ) : Except IoError (List UInt8) × ω
  sendTo (host : ω) (message : List UInt8) : Except IoError Unit × ω

/-! ## The loop -/

/-- times are nanoseconds -/
structure TunBridgeConfig where
  tunMtu : ℕ
  radioMtu : ℕ
  aggTimeout : ℕ
  keepaliveInterval : ℕ
  statsInterval : Option ℕ

structure TunBridge (ω : Type) where
  host : ω
  aggregator : Aggregator
  counters : Counters
  nextKeepalive : ℕ
  nextStats : Option ℕ

/-- why a session ended: an error, or a panic -/
inductive TunFailure where
  | error (e : TunError)
  | panicked (p : Panic)
deriving DecidableEq, Repr

abbrev TunAction (ω α : Type) := Action (TunBridge ω) TunFailure α

variable {ω : Type}

def onHost {α : Type} (f : ω → α × ω) : TunAction ω α :=
  Action.ofState fun s => ((f s.host).1, { s with host := (f s.host).2 })

def count (f : Counters → Counters) : TunAction ω Unit := Action.modify fun s => { s with counters := f s.counters }

def failIo {α : Type} (context : String) (source : IoError) : TunAction ω α :=
  Action.fail (.error (.io context source.text))

def liftTun {α : Type} : Except TunError α → TunAction ω α
  | .ok a => pure a
  | .error e => Action.fail (.error e)

@[simp] theorem liftTun_ok_bind {α β : Type} (a : α) (f : α → TunAction ω β) : (liftTun (.ok a) >>= f) = f a := rfl

@[simp] theorem liftTun_error_bind {α β : Type} (e : TunError) (f : α → TunAction ω β) :
    (liftTun (.error e) >>= f) = Action.fail (.error e) := rfl

def addPacket (packet : List UInt8) (now : ℕ) : TunAction ω (List (List UInt8)) := do
  let out ← Action.ofState fun s =>
    ((s.aggregator.add packet now).1, { s with aggregator := (s.aggregator.add packet now).2 })
  liftTun out

def parseMessage (message : List UInt8) : TunAction ω (List (List UInt8)) := do
  let counters ← Action.read TunBridge.counters
  match parseTunnelMessage message counters with
  | .error p => Action.fail (.panicked p)
  | .ok (packets, counters) => do
    count fun _ => counters
    return packets

def Counters.countDatagramOut (counters : Counters) (message : List UInt8) : Counters :=
  { counters with
    tunnelDatagramsOut := satAdd counters.tunnelDatagramsOut 1
    tunnelBytesOut := satAdd counters.tunnelBytesOut (u64Sat message.length) }

def Counters.countDatagramIn (counters : Counters) (message : List UInt8) : Counters :=
  { counters with
    tunnelDatagramsIn := satAdd counters.tunnelDatagramsIn 1
    tunnelBytesIn := satAdd counters.tunnelBytesIn (u64Sat message.length) }

def Counters.countPacketIn (counters : Counters) (packet : List UInt8) : Counters :=
  { counters with
    tunPacketsIn := satAdd counters.tunPacketsIn 1
    tunBytesIn := satAdd counters.tunBytesIn (u64Sat packet.length) }

def Counters.countPacketOut (counters : Counters) (packet : List UInt8) : Counters :=
  { counters with
    tunPacketsOut := satAdd counters.tunPacketsOut 1
    tunBytesOut := satAdd counters.tunBytesOut (u64Sat packet.length) }

def Counters.countKeepalive (counters : Counters) : Counters :=
  { counters with keepalivesOut := satAdd counters.keepalivesOut 1 }

def logStats (config : TunBridgeConfig) (now : ℕ) : TunAction ω Unit :=
  Action.modify fun s =>
    match config.statsInterval, s.nextStats with
    | some interval, some deadline => if now ≥ deadline then { s with nextStats := some (now + interval) } else s
    | _, _ => s

section Loop

variable [TunHost ω]

def sendMessage (context : String) (message : List UInt8) : TunAction ω Unit := do
  match ← onHost fun host => TunHost.sendTo host message with
  | .error source => failIo context source
  | .ok () => count (·.countDatagramOut message)

def sendMessages (context : String) : List (List UInt8) → TunAction ω Unit
  | [] => return ()
  | message :: messages => do
    sendMessage context message
    sendMessages context messages

/-- `Utun::write_all` -/
def writeAll (header packet : List UInt8) : TunAction ω Unit := do
  match ← onHost fun host => TunHost.tunWrite host (header ++ packet) with
  | .error source => failIo "write utun" source
  | .ok wrote =>
    if wrote ≠ (header ++ packet).length then
      Action.fail (.error (.partialUtunWrite wrote (header ++ packet).length))
    else return ()

def writePackets : List (List UInt8) → TunAction ω Unit
  | [] => return ()
  | packet :: packets => do
    let header ← liftTun (utunAfHeader packet)
    writeAll header packet
    count (·.countPacketOut packet)
    writePackets packets

/-- `if ready.tun` -/
def handleTun (config : TunBridgeConfig) : TunAction ω Unit := do
  match ← onHost fun host => TunHost.tunRead host (min (config.tunMtu + 4) usizeMax) with
  | .error source => if source.kind = .wouldBlock then return () else failIo "read utun" source
  | .ok frame => do
    let packet ← liftTun (stripUtunHeader frame)
    count (·.countPacketIn packet)
    let now ← onHost TunHost.instantNow
    let messages ← addPacket packet now
    sendMessages "send tunnel UDP" messages

/-- `if ready.udp` -/
def handleUdp (config : TunBridgeConfig) : TunAction ω Unit := do
  match ← onHost fun host => TunHost.recvFrom host (min (config.radioMtu + 256) usizeMax) with
  | .error source => if source.kind = .wouldBlock then return () else failIo "receive tunnel UDP" source
  | .ok message => do
    count (·.countDatagramIn message)
    let packets ← parseMessage message
    writePackets packets

def handle (config : TunBridgeConfig) (ready : Ready) : TunAction ω Unit := do
  if ready.tun then handleTun config
  if ready.udp then handleUdp config

theorem handle_eq (config : TunBridgeConfig) (ready : Ready) :
    (handle config ready : TunAction ω Unit) =
      ((if ready.tun then handleTun config else pure ()) >>= fun _ =>
        if ready.udp then handleUdp config else pure ()) := by
  obtain ⟨tun, udp⟩ := ready
  cases tun <;> cases udp <;> rfl

def pollTwo (config : TunBridgeConfig) (timeout : ℕ) : TunAction ω Unit := do
  match ← onHost fun host => TunHost.poll host (min (timeout / 10 ^ 6) (2 ^ 31 - 1)) with
  | .error source => if source.kind = .interrupted then return () else failIo "poll tunnel sockets" source
  | .ok none => return ()
  | .ok (some ready) => handle config ready

def TunBridge.timeoutAt (s : TunBridge ω) : ℕ :=
  let timeoutAt := match s.aggregator.deadline with
    | some deadline => min s.nextKeepalive deadline
    | none => s.nextKeepalive
  match s.nextStats with
  | some deadline => min timeoutAt deadline
  | none => timeoutAt

def sendDue (now : ℕ) : TunAction ω Unit := do
  let due ← Action.ofState fun s =>
    ((s.aggregator.flushDue now).1, { s with aggregator := (s.aggregator.flushDue now).2 })
  match due with
  | none => return ()
  | some message => sendMessage "send due aggregate" message

def sendKeepalive (config : TunBridgeConfig) (now : ℕ) : TunAction ω Unit := do
  let nextKeepalive ← Action.read TunBridge.nextKeepalive
  if now ≥ nextKeepalive then
    match ← onHost fun host => TunHost.sendTo host [] with
    | .error source => failIo "send keepalive" source
    | .ok () => do
      count Counters.countKeepalive
      Action.modify fun s => { s with nextKeepalive := now + config.keepaliveInterval }
  else return ()

/-- the body of the `while` -/
def round (config : TunBridgeConfig) : TunAction ω Unit := do
  let now ← onHost TunHost.instantNow
  let timeoutAt ← Action.read TunBridge.timeoutAt
  pollTwo config (timeoutAt - now)
  let now ← onHost TunHost.instantNow
  sendDue now
  sendKeepalive config now
  logStats config now

/-- `if let Some(message) = nonempty(aggregator.flush())` -/
def sendFinal : TunAction ω Unit := do
  let message ← Action.ofState fun s => (s.aggregator.flush.1, { s with aggregator := s.aggregator.flush.2 })
  match nonempty message with
  | none => return ()
  | some message => sendMessage "send final aggregate" message

abbrev TunOutcome (ω : Type) := Except TunFailure Unit × TunBridge ω

/-- one turn of the `while`: the stop flag, then a round -/
def tunTurn (config : TunBridgeConfig) (s : TunBridge ω) : Looped (TunBridge ω) (TunOutcome ω) :=
  let (stop, host) := TunHost.stopRequested s.host
  if stop then .stopped (sendFinal { s with host })
  else
    match round config { s with host } with
    | (.ok (), s) => .running s
    | (.error e, s) => .stopped (.error e, s)

def TunBridge.start (config : TunBridgeConfig) (host : ω) : TunBridge ω :=
  let (now, host) := TunHost.instantNow host
  let (nextStats, host) := match config.statsInterval with
    | some interval => let (now, host) := TunHost.instantNow host; (some (now + interval), host)
    | none => (none, host)
  { host, aggregator := Aggregator.new config.radioMtu config.aggTimeout, counters := {}
    nextKeepalive := now + config.keepaliveInterval, nextStats }

def runTunBridge (config : TunBridgeConfig) (host : ω) (fuel : ℕ) : Looped (TunBridge ω) (TunOutcome ω) :=
  loopFor (tunTurn config) fuel (TunBridge.start config host)

end Loop

/-! ## Dropped packets -/

/-- the action leaves the count of dropped packets as it is, also where it fails -/
def KeepsDropped {α : Type} (act : TunAction ω α) : Prop :=
  ∀ n, Triple (fun s => s.counters.droppedPackets = n) act (fun _ s => s.counters.droppedPackets = n)
    fun _ s => s.counters.droppedPackets = n

namespace KeepsDropped

variable {α β : Type}

theorem ofPure (a : α) : KeepsDropped (pure a : TunAction ω α) := fun _ => Triple.pure fun _ h => h

theorem ofFail (e : TunFailure) : KeepsDropped (Action.fail e : TunAction ω α) := fun _ => Triple.fail fun _ h => h

theorem ofState {f : TunBridge ω → α × TunBridge ω}
    (h : ∀ s, (f s).2.counters.droppedPackets = s.counters.droppedPackets) :
    KeepsDropped (Action.ofState f : TunAction ω α) :=
  fun _ => Triple.ofState fun s hs => (h s).trans hs

theorem ofHost (f : ω → α × ω) : KeepsDropped (onHost f : TunAction ω α) := ofState fun _ => rfl

theorem andThen {act : TunAction ω α} {f : α → TunAction ω β} (h : KeepsDropped act)
    (hf : ∀ a, KeepsDropped (f a)) : KeepsDropped (act >>= f) :=
  fun n => Triple.bind (h n) fun a => hf a n

theorem liftTun (r : Except TunError α) : KeepsDropped (liftTun r : TunAction ω α) := by
  cases r with
  | ok a => exact ofPure a
  | error e => exact ofFail _

theorem count {f : Counters → Counters} (h : ∀ c : Counters, (f c).droppedPackets = c.droppedPackets) :
    KeepsDropped (count f : TunAction ω Unit) :=
  ofState fun s => h s.counters

theorem addPacket (packet : List UInt8) (now : ℕ) : KeepsDropped (addPacket packet now : TunAction ω _) :=
  andThen (ofState fun _ => rfl) liftTun

theorem parseMessage (message : List UInt8) : KeepsDropped (parseMessage message : TunAction ω _) := by
  intro n
  refine Triple.bind (Q := fun counters s => counters.droppedPackets = n ∧ s.counters.droppedPackets = n)
    (Triple.read fun s hs => ⟨hs, hs⟩) fun counters => Triple.assume fun hcounters => ?_
  rw [parseTunnelMessage_eq]
  refine Triple.bind (Triple.ofState fun s _ => ?_) fun _ => ofPure _ n
  refine Eq.trans ?_ hcounters
  rcases (tunnelScan message).2 with _ | _ | _ <;> rfl

theorem logStats (config : TunBridgeConfig) (now : ℕ) : KeepsDropped (logStats config now : TunAction ω Unit) := by
  refine ofState fun s => ?_
  dsimp only
  split
  · split_ifs <;> rfl
  · rfl

variable [TunHost ω]

theorem sendMessage (context : String) (message : List UInt8) :
    KeepsDropped (sendMessage context message : TunAction ω Unit) := by
  refine andThen (ofHost _) fun sent => ?_
  cases sent with
  | error source => exact ofFail _
  | ok _ => exact count fun _ => rfl

theorem sendMessages (context : String) (messages : List (List UInt8)) :
    KeepsDropped (sendMessages context messages : TunAction ω Unit) := by
  induction messages with
  | nil => exact ofPure ()
  | cons message messages ih => exact andThen (sendMessage context message) fun _ => ih

theorem writeAll (header packet : List UInt8) : KeepsDropped (writeAll header packet : TunAction ω Unit) := by
  refine andThen (ofHost _) fun wrote => ?_
  cases wrote with
  | error source => exact ofFail _
  | ok wrote =>
    dsimp only
    split_ifs
    · exact ofFail _
    · exact ofPure ()

theorem writePackets (packets : List (List UInt8)) : KeepsDropped (writePackets packets : TunAction ω Unit) := by
  induction packets with
  | nil => exact ofPure ()
  | cons packet packets ih =>
    exact andThen (liftTun _) fun header => andThen (writeAll header packet) fun _ =>
      andThen (count fun _ => rfl) fun _ => ih

theorem handleTun (config : TunBridgeConfig) : KeepsDropped (handleTun config : TunAction ω Unit) := by
  refine andThen (ofHost _) fun frame => ?_
  cases frame with
  | error source =>
    dsimp only
    split_ifs
    · exact ofPure ()
    · exact ofFail _
  | ok frame =>
    exact andThen (liftTun _) fun packet => andThen (count fun _ => rfl) fun _ => andThen (ofHost _) fun now =>
      andThen (addPacket packet now) fun messages => sendMessages _ messages

theorem handleUdp (config : TunBridgeConfig) : KeepsDropped (handleUdp config : TunAction ω Unit) := by
  refine andThen (ofHost _) fun message => ?_
  cases message with
  | error source =>
    dsimp only
    split_ifs
    · exact ofPure ()
    · exact ofFail _
  | ok message =>
    exact andThen (count fun _ => rfl) fun _ => andThen (parseMessage message) fun packets => writePackets packets

theorem handle (config : TunBridgeConfig) (ready : Ready) : KeepsDropped (handle config ready : TunAction ω Unit) := by
  match ready with
  | ⟨false, false⟩ => exact ofPure ()
  | ⟨false, true⟩ => exact handleUdp config
  | ⟨true, false⟩ => exact andThen (handleTun config) fun _ => ofPure ()
  | ⟨true, true⟩ => exact andThen (handleTun config) fun _ => handleUdp config

theorem pollTwo (config : TunBridgeConfig) (timeout : ℕ) :
    KeepsDropped (pollTwo config timeout : TunAction ω Unit) := by
  refine andThen (ofHost _) fun ready => ?_
  match ready with
  | .error source =>
    dsimp only
    split_ifs
    · exact ofPure ()
    · exact ofFail _
  | .ok none => exact ofPure ()
  | .ok (some ready) => exact handle config ready

theorem sendDue (now : ℕ) : KeepsDropped (sendDue now : TunAction ω Unit) := by
  refine andThen (ofState fun _ => rfl) fun due => ?_
  cases due with
  | none => exact ofPure ()
  | some message => exact sendMessage _ message

theorem sendKeepalive (config : TunBridgeConfig) (now : ℕ) :
    KeepsDropped (sendKeepalive config now : TunAction ω Unit) := by
  refine andThen (ofState fun _ => rfl) fun nextKeepalive => ?_
  split_ifs
  · refine andThen (ofHost _) fun sent => ?_
    cases sent with
    | error source => exact ofFail _
    | ok _ => exact andThen (count fun _ => rfl) fun _ => ofState fun _ => rfl
  · exact ofPure ()

theorem round (config : TunBridgeConfig) : KeepsDropped (round config : TunAction ω Unit) :=
  andThen (ofHost _) fun _ => andThen (ofState fun _ => rfl) fun _ => andThen (pollTwo config _) fun _ =>
    andThen (ofHost _) fun now => andThen (sendDue now) fun _ => andThen (sendKeepalive config now) fun _ =>
      logStats config now

theorem sendFinal : KeepsDropped (sendFinal : TunAction ω Unit) := by
  refine andThen (ofState fun _ => rfl) fun message => ?_
  cases nonempty message with
  | none => exact ofPure ()
  | some message => exact sendMessage _ message

end KeepsDropped

variable [TunHost ω]

/-- **No packet is ever counted as dropped**, in any state of any session on any host. -/
theorem runTunBridge_dropped (config : TunBridgeConfig) (host : ω) (fuel : ℕ) :
    (runTunBridge config host fuel).Sat (fun s => s.counters.droppedPackets = 0)
      fun outcome => outcome.2.counters.droppedPackets = 0 := by
  refine loopFor_invariant (fun s hs => ?_) fuel ?_
  · rw [tunTurn]
    dsimp only
    split_ifs
    · have h := KeepsDropped.sendFinal 0 { s with host := (TunHost.stopRequested s.host).2 } hs
      rcases hrun : sendFinal { s with host := (TunHost.stopRequested s.host).2 } with ⟨e | a, s'⟩
      · rw [hrun] at h
        exact h
      · rw [hrun] at h
        exact h
    · have h := KeepsDropped.round config 0 { s with host := (TunHost.stopRequested s.host).2 } hs
      rcases hrun : round config { s with host := (TunHost.stopRequested s.host).2 } with ⟨e | a, s'⟩
      · rw [hrun] at h
        exact h
      · rw [hrun] at h
        exact h
  · rfl

end WfbLink.Tunnel
