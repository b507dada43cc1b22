import AstraFsw.Core.Machine
import AstraFsw.Core.SerialNumber
import AstraFsw.Core.Periodic
import AstraFsw.Core.Polling
import AstraFsw.Core.Binary32
import AstraFsw.Core.Rounding
import AstraFsw.Core.VersionedRegister
import AstraFsw.Core.FixedCodec
import AstraFsw.Core.PackedStruct
import AstraFsw.Core.Escaping
import AstraFsw.Core.Lfsr
import AstraFsw.Core.RingBuffer
import AstraFsw.Core.Selection
import AstraFsw.Core.PurePath
import AstraFsw.Core.FileTree
import AstraFsw.Core.DelimitedRow
import AstraFsw.Core.JsonString
import AstraFsw.ModeManager
import AstraFsw.FdirManager
import AstraFsw.CommandPacket
import AstraFsw.CommandProcessor
import AstraFsw.CommandAuthorizer
import AstraFsw.GroundCommandGuard
import AstraFsw.HealthMonitor
import AstraFsw.Watchdog
import AstraFsw.EventLogger
import AstraFsw.TelemetryPacket
import AstraFsw.App.Model
import AstraFsw.App.Step
import AstraFsw.App.Cadence
import AstraFsw.App.Safety
import AstraFsw.App.Recovery
import AstraFsw.App.Rejection
import AstraFsw.App.Latch
import AstraFsw.App.OperatorRecovery
import AstraFsw.App.Policy
import AstraFsw.App.Evidence
import AstraFsw.App.Noninterference
import AstraFsw.App.Acknowledgement
import AstraFsw.App.EventReplay
import AstraFsw.Scheduler.Model
import AstraFsw.Scheduler.Run
import AstraFsw.Scheduler.Accounting
import AstraFsw.Scheduler.Releases
import AstraFsw.Scheduler.Independence
import AstraFsw.Scheduler.Deadlines
import AstraFsw.Executive.Model
import AstraFsw.Executive.Schedule
import AstraFsw.Executive.Timing
import AstraFsw.Executive.Response
import AstraFsw.Executive.TimingCampaign
import AstraFsw.Executive.TimingEvidence
import AstraFsw.Configuration.Service
import AstraFsw.Configuration.Runnable
import AstraFsw.Wire.Fields
import AstraFsw.Wire.Crc16
import AstraFsw.Wire.CommandCodec
import AstraFsw.Wire.CommandArguments
import AstraFsw.Wire.TelemetryCodec
import AstraFsw.Wire.TelemetryFields
import AstraFsw.Wire.ErrorDetection
import AstraFsw.Wire.Burst
import AstraFsw.Ground.Protocol
import AstraFsw.Ground.FuzzCorpus
import AstraFsw.Ground.ScenarioRunner
import AstraFsw.Ground.StepLoop
import AstraFsw.Ground.Porcelain
import AstraFsw.Ground.RepositoryState
import AstraFsw.Ground.SourceCleanliness
import AstraFsw.Demo.FlightLoop
import AstraFsw.Demo.Downlink
import AstraFsw.Demo.Faults
import AstraFsw.Demo.Campaign
import AstraFsw.Demo.Delivery
import AstraFsw.Demo.ClosedLoop
import AstraFsw.Demo.MonteCarlo
import AstraFsw.Assurance.Requirements
import AstraFsw.Assurance.Traceability
import AstraFsw.Assurance.ReviewBaseline
import AstraFsw.Assurance.Assistant
import AstraFsw.Assurance.Session
import AstraFsw.Site.Model
import AstraFsw.Site.Simulation
import AstraFsw.Site.Ticks
