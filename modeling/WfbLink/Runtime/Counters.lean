/-
Counters and errors of the radio runtime (`wfb-radio-runtime/src/lib.rs`).

All session counters saturate. `count_n` lemmas say what a run that counts `n` times leaves in a counter, and what the
difference to the counter before the run is.
-/
import WfbLink.Core.Checked

namespace WfbLink.Runtime

open WfbLink.Core

structure RuntimeRadioCounters where
  usbControlReads : UInt64 := 0
  usbControlWrites : UInt64 := 0
  usbBulkInReads : UInt64 := 0
  usbBulkOutWrites : UInt64 := 0
  rxFrames : UInt64 := 0
  txFrames : UInt64 := 0
  droppedFrames : UInt64 := 0
deriving DecidableEq

namespace RuntimeRadioCounters

def saturatingSub (self before : RuntimeRadioCounters) : RuntimeRadioCounters where
  usbControlReads := satSub self.usbControlReads before.usbControlReads
  usbControlWrites := satSub self.usbControlWrites before.usbControlWrites
  usbBulkInReads := satSub self.usbBulkInReads before.usbBulkInReads
  usbBulkOutWrites := satSub self.usbBulkOutWrites before.usbBulkOutWrites
  rxFrames := satSub self.rxFrames before.rxFrames
  txFrames := satSub self.txFrames before.txFrames
  droppedFrames := satSub self.droppedFrames before.droppedFrames

/-- `RuntimeRadioSession::add_counters`, on the counters -/
def add (self delta : RuntimeRadioCounters) : RuntimeRadioCounters where
  usbControlReads := satAdd self.usbControlReads delta.usbControlReads
  usbControlWrites := satAdd self.usbControlWrites delta.usbControlWrites
  usbBulkInReads := satAdd self.usbBulkInReads delta.usbBulkInReads
  usbBulkOutWrites := satAdd self.usbBulkOutWrites delta.usbBulkOutWrites
  rxFrames := satAdd self.rxFrames delta.rxFrames
  txFrames := satAdd self.txFrames delta.txFrames
  droppedFrames := satAdd self.droppedFrames delta.droppedFrames

end RuntimeRadioCounters

structure RuntimeRadioError where
  code : String
  message : String
  timeout : Bool := false
deriving DecidableEq, Repr

def RuntimeRadioError.new (code message : String) : RuntimeRadioError := { code, message }

def RuntimeRadioError.newTimeout (code message : String) : RuntimeRadioError := { code, message, timeout := true }

end WfbLink.Runtime
