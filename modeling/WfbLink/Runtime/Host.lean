/-
The operating system as the runtime sees it: clocks and datagram sockets.

The host is a state, like the transport; nothing is assumed about what it answers.
-/
import Mathlib.Tactic

namespace WfbLink.Runtime

structure SocketAddr where
  ip : String
  port : UInt16
deriving DecidableEq, Repr

def SocketAddr.text (addr : SocketAddr) : String := s!"{addr.ip}:{addr.port}"

/-- a handle of an open socket -/
structure UdpSocket where
  handle : ℕ
deriving DecidableEq, Repr

class DatagramHost (ω : Type) where
  sendTo (host : ω) (socket : UdpSocket) (packet : List UInt8) (addr : SocketAddr) : Except String ℕ × ω
  /-- milliseconds since the epoch -/
  runtimeUnixMs (host : ω) : UInt64 × ω

export DatagramHost (sendTo runtimeUnixMs)

/-- a host on which every datagram is sent whole -/
structure QuietHost where
  unixMs : UInt64
deriving DecidableEq, Repr

instance : DatagramHost QuietHost where
  sendTo host _ packet _ := (.ok packet.length, host)
  runtimeUnixMs host := (host.unixMs, host)

end WfbLink.Runtime
