import Tecs.Library.Interleaving
import Tecs.Library.Precedence
import Tecs.Workflow.ValidateSequence
import Tecs.Dbs.TransactionScopes
import Tecs.Workflow.EngineRuns
import Tecs.Workflow.EngineAgreement
import Tecs.Workflow.EngineRollback
import Tecs.Workflow.FinishPassed
import Tecs.Workflow.LockRuns
import Tecs.Timer.TimerMessages
import Tecs.Sky.MultiRelations
import Tecs.Sky.Base64
import Tecs.Vnm.VlanPoolKept
import Tecs.Vnm.VlanRangeRuns
import Tecs.Vnm.MacAlloc
import Tecs.Vnm.Ipv4Alloc
import Tecs.Vnm.Ipv4RangeRuns
import Tecs.Evb.EcpOrder
import Tecs.Evb.EcpPeers
import Tecs.Evb.VdpRoundTrip
import Tecs.Evb.VdpFilters
import Tecs.Evb.VdpProgress
import Tecs.Evb.CdcpRoundTrip
import Tecs.Evb.CdcpBridge
import Tecs.Evb.CdcpAgreement
import Tecs.Evb.EvbTlvRelay
import Tecs.Evb.EvbTlvAgreement
import Tecs.Evb.EvbTlvNegotiation
import Tecs.Vm.ModifyVmMutex
import Tecs.Vnm.NetResource
import Tecs.Vm.CancelVm
import Tecs.Vm.DeployRollback
import Tecs.Vm.DeployMessages
import Tecs.Vm.VmOperations
import Tecs.Sky.MessageAgent
import Tecs.Timer.Deadlines
import Tecs.Sky.MessageQueue
import Tecs.Workflow.ActionAcks
import Tecs.Workflow.HistoryMade
import Tecs.Workflow.WorkflowProgress
import Tecs.Workflow.HistoryAgreement
import Tecs.Workflow.RollbackRefusal
import Tecs.Vm.UsbDevices
import Tecs.Vm.ImageBackupRuns
import Tecs.Vm.UnfreezeVm
import Tecs.Sky.ChannelSenders
import Tecs.Vnm.StatusPool
import Tecs.Vnm.AddrText
import Tecs.Evb.CdcpRequests
import Tecs.Evb.CdcpAssignments
import Tecs.Evb.VdpFilterUpdate
import Tecs.Evb.EvbTimer
import Tecs.Evb.EvbTimerRuns
import Tecs.Evb.VdpCmdPool
import Tecs.Evb.EcpSequence
import Tecs.Evb.EcpRemoval
import Tecs.Library.Records
import Tecs.Evb.VdpRxReads
import Tecs.Evb.VdpRxAgreement
import Tecs.Vnm.RangeOrder
import Tecs.Vm.PortNumbers
import Tecs.Vm.CreateReq
import Tecs.Vm.ModifyVmCpu
import Tecs.Sky.RuntimeInfo
import Tecs.Vm.ExpectedState
import Tecs.Vm.Reschedule
import Tecs.Evb.TlvReads
import Tecs.Vm.Redelivery
import Tecs.Vnm.ScheduleInfo
import Tecs.Vnm.ScheduleCount
import Tecs.Vnm.ScheduleSort
import Tecs.Vnm.ScheduleAlloc
import Tecs.Vnm.ScheduleLedger
import Tecs.Vnm.ScheduleServe
import Tecs.Vnm.ScheduleKinds
import Tecs.Vnm.ScheduleBonds
import Tecs.Vnm.ScheduleEdvs
import Tecs.Vnm.ScheduleBondGroups
import Tecs.Vnm.ScheduleCalls
import Tecs.Vnm.ScheduleSound
import Tecs.Vnm.ScheduleProper
import Tecs.Library.Loop
import Tecs.Lldp.LldpAgeing
import Tecs.Lldp.LldpFormat
import Tecs.Lldp.LldpInterval
import Tecs.Lldp.LldpWithdraw
