import WfbLink.Core.Checked
import WfbLink.Core.Text
import WfbLink.Core.Numeral
import WfbLink.Core.Lines
import WfbLink.Core.SocketText
import WfbLink.Core.Scan
import WfbLink.Core.Checksum
import WfbLink.Core.Batch
import WfbLink.Core.Action
import WfbLink.Core.Members
import WfbLink.Core.Trace
import WfbLink.Core.Chunks
import WfbLink.Core.Bits
import WfbLink.Core.Tally
import WfbLink.Core.Recurring
import WfbLink.RadioCore.Channel
import WfbLink.RadioCore.Frame
import WfbLink.RadioCore.Rate
import WfbLink.RadioCore.Usb
import WfbLink.RadioCore.RxDescriptor
import WfbLink.RadioCore.RxSignal
import WfbLink.RadioCore.RxChipPacket
import WfbLink.RadioCore.TxDescriptor
import WfbLink.RadioCore.Register
import WfbLink.RadioCore.RegisterLog
import WfbLink.RadioCore.RegisterDevice
import WfbLink.RadioCore.RadioDevice
import WfbLink.RadioCore.Firmware
import WfbLink.RadioCore.RealtekTable
import WfbLink.RadioCore.RealtekArray
import WfbLink.RadioCore.UsbTrace
import WfbLink.RadioCore.InitPlan
import WfbLink.Bridge.Frame
import WfbLink.Bridge.Radiotap
import WfbLink.Bridge.RxForward
import WfbLink.Bridge.WfbTransport
import WfbLink.Bridge.Tx
import WfbLink.Bridge.TxGrammar
import WfbLink.Runtime.Counters
import WfbLink.Runtime.Host
import WfbLink.Runtime.RxRead
import WfbLink.Runtime.RxAggregate
import WfbLink.Runtime.RxTelemetry
import WfbLink.Runtime.TxDatagram
import WfbLink.Runtime.TxBridges
import WfbLink.Runtime.TxConservation
import WfbLink.Runtime.EfuseMap
import WfbLink.Runtime.Airtime
import WfbLink.Runtime.BridgeLoop
import WfbLink.Runtime.LoopProof
import WfbLink.Runtime.LoopBounds
import WfbLink.Runtime.ChannelPlan
import WfbLink.Runtime.FlowConfig
import WfbLink.Runtime.RadioSetup
import WfbLink.Runtime.TxPowerPlan
import WfbLink.Runtime.RegisterRun
import WfbLink.Runtime.DeviceRun
import WfbLink.Runtime.DeviceFaults
import WfbLink.Runtime.RfSerial
import WfbLink.Runtime.RadioFrame
import WfbLink.Runtime.IqkRounds
import WfbLink.Runtime.LckCalibration
import WfbLink.Runtime.IqkStage
import WfbLink.Runtime.IqkPlan
import WfbLink.Runtime.IqkOneShot
import WfbLink.Runtime.IqkSelection
import WfbLink.Runtime.IqkBackup
import WfbLink.Runtime.IqkFrame
import WfbLink.Runtime.MaskedWrite
import WfbLink.Runtime.IqkRestore
import WfbLink.Runtime.IqkRestoreLog
import WfbLink.Runtime.EfuseRead
import WfbLink.Runtime.ProductionRegister
import WfbLink.Runtime.FirmwareDownload
import WfbLink.Runtime.FirmwareSequence
import WfbLink.Runtime.FirmwareCleanup
import WfbLink.Runtime.FirmwarePlan
import WfbLink.Runtime.LedHeartbeat
import WfbLink.Runtime.SameSessionInit
import WfbLink.Runtime.FlowReport
import WfbLink.Runtime.RxReads
import WfbLink.Runtime.RxObservations
import WfbLink.Runtime.RxSignal
import WfbLink.Runtime.SignalMetric
import WfbLink.Runtime.RxEvidence
import WfbLink.Runtime.RxForwarding
import WfbLink.Runtime.RuntimeHost
import WfbLink.Runtime.FlowSteps
import WfbLink.Runtime.Flow
import WfbLink.Runtime.FlowTrace
import WfbLink.Runtime.FlowSafety
import WfbLink.Runtime.FlowReady
import WfbLink.Runtime.FlowRecords
import WfbLink.Runtime.TxBindTelemetry
import WfbLink.Link.Endpoints
import WfbLink.Link.Preflight
import WfbLink.Link.Streams
import WfbLink.Link.World
import WfbLink.Link.Radio
import WfbLink.Link.Children
import WfbLink.Link.Termination
import WfbLink.Link.Managed
import WfbLink.Link.Start
import WfbLink.Link.Verdict
import WfbLink.Tunnel.Message
import WfbLink.Tunnel.Aggregator
import WfbLink.Tunnel.Bridge
import WfbLink.Tunnel.Resilience
import WfbLink.Service.Hex
import WfbLink.Service.Config
import WfbLink.Service.Resolve
import WfbLink.Service.Streams
import WfbLink.Diag.RadioRun
import WfbLink.Diag.Settings
import WfbLink.Core.Overwrite
import WfbLink.RadioCore.StuckRegisters
import WfbLink.Runtime.RegisterEffects
import WfbLink.Runtime.PowerOn
import WfbLink.Runtime.QueueDma
import WfbLink.Runtime.MacSetup
import WfbLink.Runtime.ChannelSetup
import WfbLink.Runtime.LltTable
import WfbLink.Runtime.MacAddress
import WfbLink.Runtime.Confined
import WfbLink.Runtime.RfTable
import WfbLink.Runtime.MonitorMode
import WfbLink.Runtime.ProductionInit
