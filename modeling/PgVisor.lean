import PgVisor.SessionReplay
import PgVisor.PoolTransactions
import PgVisor.WalRetention
import PgVisor.LogReopening
import PgVisor.LogCrashes
import PgVisor.Snapshots
import PgVisor.TlsUpgrade
import PgVisor.StatusTracking
import PgVisor.ReplyAlignment
import PgVisor.PoolQueues
import PgVisor.SidecarInvariants
import PgVisor.ElectionSafety
import PgVisor.ServerProcesses
import PgVisor.BackupOperations
import PgVisor.LeaderRouting
import PgVisor.ReadOnlyDashboard
import PgVisor.AuditRestarts
import PgVisor.AuditListings
import PgVisor.WalAcknowledged
import PgVisor.LogStoreFaults
import PgVisor.StoreOpening
import PgVisor.EventPolling
import PgVisor.Orchestrator
import PgVisor.MessageDecoding
import PgVisor.ElectionStatus
import PgVisor.FutureTargets
import PgVisor.PruneOutcomes
import PgVisor.AuditFormatting
import PgVisor.BackupCreation
import PgVisor.SelfDetection
