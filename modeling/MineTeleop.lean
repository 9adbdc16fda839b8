import MineTeleop.Bridge.BenchFeedback
import MineTeleop.Bridge.Configuration
import MineTeleop.Bridge.GearRejection
import MineTeleop.Bridge.HardLatches
import MineTeleop.Bridge.Provenance
import MineTeleop.Bridge.RiseLimit
import MineTeleop.Bridge.SpeedPid
import MineTeleop.Bridge.StopReport
import MineTeleop.Driver.EstopLatch
import MineTeleop.Driver.Messages
import MineTeleop.Driver.SenderStops
import MineTeleop.Media.Freshness
import MineTeleop.Media.LoopRefinement
import MineTeleop.Library.Appends
import MineTeleop.Library.Runs
import MineTeleop.Library.Utf8
import MineTeleop.Media.Envelope
import MineTeleop.Media.EstopGear
import MineTeleop.Service.Latch
import MineTeleop.Service.ProfileRequests
import MineTeleop.Service.Receiver
import MineTeleop.Service.Revocation
import MineTeleop.Service.TelemetryHistory
import MineTeleop.Service.TimeSync
import MineTeleop.Service.WireRoundTrip
import MineTeleop.SessionLogs.BrokerRuns
import MineTeleop.Signaling.ApprovalRuns
import MineTeleop.Signaling.Independence
import MineTeleop.Signaling.LoginLockout
import MineTeleop.Signaling.MailboxRuns
import MineTeleop.Signaling.Paths
import MineTeleop.Signaling.RateLimit
import MineTeleop.Signaling.TurnUsage
import MineTeleop.Stack.Admission
import MineTeleop.Stack.Commands
import MineTeleop.Stack.DriverBrake
import MineTeleop.Uploader.Records
import MineTeleop.Vcu.Authority
import MineTeleop.Vcu.Codec
import MineTeleop.Vcu.Disarm
import MineTeleop.Vcu.FeedbackFrames
import MineTeleop.Vcu.GearAgreement
import MineTeleop.Vcu.Latches
import MineTeleop.Vcu.Parking
import MineTeleop.Web.GearEvidence
import MineTeleop.Web.ProfileMerge
import MineTeleop.Web.ProfileStatus
import MineTeleop.Web.WriteQueue
import MineTeleop.WebSocket.Base64
import MineTeleop.WebSocket.CloseReasons
import MineTeleop.WebSocket.RoundTrip
import MineTeleop.WebSocket.Streams
import MineTeleop.SessionLogs.RedactionPasses
import MineTeleop.SessionLogs.CollectionLaw
