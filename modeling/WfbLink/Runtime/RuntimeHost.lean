/-
The world of a run of the production runtime: the USB device, clocks, stop flags, files, sockets and the threads that
receive from them, as one state. Nothing is assumed about what it answers.

A recorded world keeps a trace of what the runtime did to it.
-/
import WfbLink.Core.Trace
import WfbLink.Runtime.FlowReport

namespace WfbLink.Runtime

open WfbLink.Core WfbLink.RadioCore

/-- what the runtime writes to files, before it is turned into text -/
inductive FileContent where
  | readyMarker (marker : ProductionRuntimeReadyMarker)
  | health (record : ProductionRuntimeServiceHealth)
deriving DecidableEq

/-- a file is written in two steps, which fail with different codes -/
inductive WriteFileError where
  | serialize (text : String)
  | write (text : String)
deriving DecidableEq, Repr

structure ProductionRuntimeTxIngressSocket where
  bindAddr : SocketAddr
  socket : UdpSocket
  reportIndex : ℕ
deriving DecidableEq, Repr

inductive TryRecvError where
  | empty
  | disconnected
deriving DecidableEq, Repr

/-- the operations of the world; a thread that cannot be spawned is a panic -/
class RuntimeHost (ω : Type) extends UsbBulkTransfer ω, Rtl8812auUsbTransport ω, DatagramHost ω where
  instantNow (host : ω) : ℕ × ω
  processStopRequested (host : ω) : Bool × ω
  externalStopRequested (host : ω) : Bool × ω
  writeFile (host : ω) (path : String) (content : FileContent) : Except WriteFileError Unit × ω
  udpBind (host : ω) (addr : SocketAddr) : Except String UdpSocket × ω
  setUdpReceiveBuffer (host : ω) (socket : UdpSocket) (bytes : ℕ) : Except String Unit × ω
  setReadTimeout (host : ω) (socket : UdpSocket) (timeout : ℕ) : Except String Unit × ω
  spawnReceiver (host : ω) (socket : ProductionRuntimeTxIngressSocket) : Except String Unit × ω
  tryRecv (host : ω) : Except TryRecvError ProductionRuntimeQueuedDatagram × ω
  ingressTelemetry (host : ω) : ProductionRuntimeTxIngressTelemetry × ω

export RuntimeHost (instantNow processStopRequested externalStopRequested writeFile udpBind setUdpReceiveBuffer
  setReadTimeout spawnReceiver tryRecv ingressTelemetry)

/-! ## The trace of a run -/

inductive RuntimeEvent where
  | usb (event : UsbEvent)
  /-- an init phase ran -/
  | phase (phase : Rtl8812auInitPhase) (succeeded : Bool)
  | writeFile (path : String) (content : FileContent) (succeeded : Bool)
  | udpBind (addr : SocketAddr) (succeeded : Bool)
  | spawnReceiver (addr : SocketAddr) (succeeded : Bool)
deriving DecidableEq

instance : UsbLog RuntimeEvent := ⟨.usb⟩

abbrev RecordedHost (ω : Type) : Type := Recorded RuntimeEvent ω

section Recorded

variable {ω : Type} [RuntimeHost ω]

instance : DatagramHost (RecordedHost ω) where
  sendTo host socket packet addr :=
    let (result, inner) := sendTo host.inner socket packet addr
    (result, { host with inner })
  runtimeUnixMs host :=
    let (now, inner) := runtimeUnixMs host.inner
    (now, { host with inner })

instance : RuntimeHost (RecordedHost ω) where
  instantNow host := ((instantNow host.inner).1, { host with inner := (instantNow host.inner).2 })
  processStopRequested host :=
    ((processStopRequested host.inner).1, { host with inner := (processStopRequested host.inner).2 })
  externalStopRequested host :=
    ((externalStopRequested host.inner).1, { host with inner := (externalStopRequested host.inner).2 })
  writeFile host path content :=
    let (result, inner) := writeFile host.inner path content
    (result, host.record (.writeFile path content result.isOk) inner)
  udpBind host addr :=
    let (result, inner) := udpBind host.inner addr
    (result, host.record (.udpBind addr result.isOk) inner)
  setUdpReceiveBuffer host socket bytes :=
    let (result, inner) := setUdpReceiveBuffer host.inner socket bytes
    (result, { host with inner })
  setReadTimeout host socket timeout :=
    let (result, inner) := setReadTimeout host.inner socket timeout
    (result, { host with inner })
  spawnReceiver host socket :=
    let (result, inner) := spawnReceiver host.inner socket
    (result, host.record (.spawnReceiver socket.bindAddr result.isOk) inner)
  tryRecv host := ((tryRecv host.inner).1, { host with inner := (tryRecv host.inner).2 })
  ingressTelemetry host := ((ingressTelemetry host.inner).1, { host with inner := (ingressTelemetry host.inner).2 })

end Recorded

/-! ## A world in which everything works -/

/-- everything works, but for addresses that are in use; registers read as zero, nothing is received, and each look at
the clock takes a millisecond -/
structure WorkingHost where
  busy : List SocketAddr := []
  now : ℕ := 0
deriving DecidableEq, Repr

instance : UsbBulkTransfer WorkingHost where
  readBulkTransfer host _ data _ := (.error (.rusb .timeout), data, host)
  writeBulkTransfer host _ data _ := (.ok data.length, host)

instance : Rtl8812auUsbTransport WorkingHost where
  readVendor {n} host _ _ data _ := (.ok n, data, host)
  writeVendor host _ _ data _ := (.ok data.length, host)

instance : DatagramHost WorkingHost where
  sendTo host _ packet _ := (.ok packet.length, host)
  runtimeUnixMs host := (0, host)

instance : RuntimeHost WorkingHost where
  instantNow host := (host.now, { host with now := host.now + 10 ^ 6 })
  processStopRequested host := (false, host)
  externalStopRequested host := (false, host)
  writeFile host _ _ := (.ok (), host)
  udpBind host addr := (if addr ∈ host.busy then .error "Address already in use" else .ok ⟨addr.port.toNat⟩, host)
  setUdpReceiveBuffer host _ _ := (.ok (), host)
  setReadTimeout host _ _ := (.ok (), host)
  spawnReceiver host _ := (.ok (), host)
  tryRecv host := (.error .empty, host)
  ingressTelemetry host := ({}, host)

end WfbLink.Runtime
