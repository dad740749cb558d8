import FrankaDeploy.ClosedLoop.LockstepContract
import FrankaDeploy.ClosedLoop.AuthorizationContract
import FrankaDeploy.Runtime.OrchestratorContract
import FrankaDeploy.Servo.TargetAck
import FrankaDeploy.Servo.HistoryChain
import FrankaDeploy.NativeSession.StopProofAgreement
import FrankaDeploy.NativeSession.CleanStop
import FrankaDeploy.NativeSession.InFlight
import FrankaDeploy.NativeSession.WireAgreement
import FrankaDeploy.Telemetry.StreamContract
import FrankaDeploy.Rh56.StopContract
import FrankaDeploy.Rh56.SampleHold
import FrankaDeploy.Rh56.TargetTransaction
import FrankaDeploy.Rh56.WireAttribution
import FrankaDeploy.Deployment.LeaseContract
import FrankaDeploy.Replay.Waypoints
import FrankaDeploy.PersistentSession.Envelope
import FrankaDeploy.PersistentSession.WriteBoundary
import FrankaDeploy.TickSource.HistoryLaw
import FrankaDeploy.TickSource.Provenance
import FrankaDeploy.GraspSequence.LoadCleanupContract
import FrankaDeploy.CartesianSegment.SegmentContract
import FrankaDeploy.ViewerTelemetry.TelemetryContract
import FrankaDeploy.Contracts.ShaperContract
import FrankaDeploy.Contracts.MappedLimits
import FrankaDeploy.Servo.InterpolatorEnvelope
import FrankaDeploy.Servo.ArmLaw
import FrankaDeploy.Rh56.StopTail
import FrankaDeploy.Deployment.TaskOwnership
import FrankaDeploy.LiveObservation.TriggerAdmission
import FrankaDeploy.RealSense.AcceptanceLaw
import FrankaDeploy.PointCloud.FallbackLaw
import FrankaDeploy.LiveSnapshot.CoherenceLaw
import FrankaDeploy.Rh56Owner.SettleDeadline
import FrankaDeploy.Rh56.ResponseFormat
import FrankaDeploy.Rh56.ReceiveFraming
import FrankaDeploy.Servo.BitErrors
import FrankaDeploy.Rh56.StopBudget
import FrankaDeploy.Runtime.HoldMargin
import FrankaDeploy.TickSource.ArrivalGate
import FrankaDeploy.Telemetry.StageNameLaw
import FrankaDeploy.HandPath.PathLaw
import FrankaDeploy.Rh56Stream.FreshTargets
import FrankaDeploy.Rh56Stream.MotionGate
import FrankaDeploy.FrankaDriver.WindowContract
import FrankaDeploy.OnlineTabletop.InterceptLaw
import FrankaDeploy.Deployment.ClaimLifecycle
import FrankaDeploy.Runtime.DeadlineGrid
