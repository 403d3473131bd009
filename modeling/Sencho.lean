import Sencho.Recovery.SwapCleanup
import Sencho.Recovery.SwapNames
import Sencho.Cache.Freshness
import Sencho.GitOps.HistoryPages
import Sencho.GitOps.OutboxDelivery
import Sencho.Recovery.OperationOutcomes
import Sencho.Recovery.FenceSafety
import Sencho.Recovery.OverwriteSettling
import Sencho.GitOps.RecoveryHold
import Sencho.GitOps.RolloutChain
import Sencho.GitOps.SourceCandidates
import Sencho.GitOps.EvaluationSlots
import Sencho.HealthGate.Suppression
import Sencho.HealthGate.Deliveries
import Sencho.HealthGate.SiblingVerdicts
import Sencho.PilotTunnel.Redials
import Sencho.PilotTunnel.Registry
import Sencho.EnvFiles.SecretPush
import Sencho.FleetSync.Losses
import Sencho.Creates.InterruptedRuns
import Sencho.Archive.ReadBack
import Sencho.Blueprints.PinnedRepairs
import Sencho.Blueprints.SafePlans
import Sencho.ChangePlan.Sparing
import Sencho.Mesh.RelayOrder
import Sencho.Mesh.Releases
import Sencho.Recovery.AdmissionRuns
import Sencho.Recovery.Generations
import Sencho.EnvFiles.EnvInverse
import Sencho.EnvFiles.QuotedSpelling
import Sencho.Security.OutboundTargets
import Sencho.Security.Suppressions
import Sencho.Files.BulkPaths
import Sencho.GitOps.BoundedPlacement
import Sencho.Recovery.ServiceRecoveries
import Sencho.Streams.BinaryFrames
import Sencho.GitOps.Evaluations
import Sencho.Cache.Cap
import Sencho.HealthGate.RevisionState
