/-
The LED heartbeat (`led_heartbeat.rs`): a register write each half period, polled once per loop iteration. Failed writes
are counted and go no further.
-/
import WfbLink.RadioCore.Register
import WfbLink.Runtime.Counters

namespace WfbLink.Runtime

open WfbLink.Core WfbLink.RadioCore

def regLedcfg0 : UInt16 := 0x004c
def ledOnValue : UInt8 := 0x28
def ledOffValue : UInt8 := 0x20
def defaultHeartbeatHalfPeriodMs : UInt64 := 500
def minHeartbeatHalfPeriodMs : UInt64 := 50
def maxHeartbeatHalfPeriodMs : UInt64 := 5000
/-- 100 ms, in nanoseconds -/
def ledWriteTimeout : ℕ := 100000000

structure LedHeartbeatConfig where
  enabled : Bool := true
  halfPeriodMs : UInt64 := defaultHeartbeatHalfPeriodMs
deriving DecidableEq, Repr

namespace LedHeartbeatConfig

/-- a disabled heartbeat is valid whatever its half period -/
def validate (config : LedHeartbeatConfig) : Except String Unit :=
  if !config.enabled then .ok ()
  else if config.halfPeriodMs < minHeartbeatHalfPeriodMs then
    .error s!"heartbeat half-period {config.halfPeriodMs} ms is below minimum {minHeartbeatHalfPeriodMs} ms"
  else if config.halfPeriodMs > maxHeartbeatHalfPeriodMs then
    .error s!"heartbeat half-period {config.halfPeriodMs} ms is above maximum {maxHeartbeatHalfPeriodMs} ms"
  else .ok ()

/-- in nanoseconds -/
def halfPeriod (config : LedHeartbeatConfig) : ℕ := config.halfPeriodMs.toNat * 10 ^ 6

theorem default_valid : validate {} = .ok () := by decide

end LedHeartbeatConfig

structure LedHeartbeatCounters where
  togglesAttempted : UInt64 := 0
  togglesSucceeded : UInt64 := 0
  togglesFailed : UInt64 := 0
deriving DecidableEq, Repr

structure LedHeartbeat where
  config : LedHeartbeatConfig
  counters : LedHeartbeatCounters := {}
  stateOn : Bool := false
  nextToggleAt : ℕ

namespace LedHeartbeat

def new (config : LedHeartbeatConfig) (started : ℕ) : LedHeartbeat where
  config
  nextToggleAt := started + config.halfPeriod

def writeRegister (heartbeat : LedHeartbeat) (value : UInt8) : RegisterProgram LedHeartbeat :=
  .writeVendor regLedcfg0 0 [value] ledWriteTimeout fun result =>
    let counters := { heartbeat.counters with togglesAttempted := satAdd heartbeat.counters.togglesAttempted 1 }
    match result with
    | .ok _ =>
      return { heartbeat with counters := { counters with togglesSucceeded := satAdd counters.togglesSucceeded 1 } }
    | .error _ =>
      return { heartbeat with counters := { counters with togglesFailed := satAdd counters.togglesFailed 1 } }

/-- the next toggle is a half period after this one, however late this one is -/
def maybeToggle (heartbeat : LedHeartbeat) (now : ℕ) : RegisterProgram LedHeartbeat :=
  if !heartbeat.config.enabled then return heartbeat
  else if now < heartbeat.nextToggleAt then return heartbeat
  else
    let heartbeat :=
      { heartbeat with stateOn := !heartbeat.stateOn, nextToggleAt := now + heartbeat.config.halfPeriod }
    heartbeat.writeRegister (if heartbeat.stateOn then ledOnValue else ledOffValue)

def turnOff (heartbeat : LedHeartbeat) : RegisterProgram LedHeartbeat :=
  if !heartbeat.config.enabled then return heartbeat
  else { heartbeat with stateOn := false }.writeRegister ledOffValue

end LedHeartbeat

end WfbLink.Runtime
