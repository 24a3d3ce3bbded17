import AgentFabric.Proof.Audit.AuditLogs
import AgentFabric.Proof.AuditBundle.Noninterference
import AgentFabric.Proof.Billing.Settlement
import AgentFabric.Proof.Billing.Webhooks
import AgentFabric.Proof.Cloud.CronEarliest
import AgentFabric.Proof.Cloud.JobOrigin
import AgentFabric.Proof.Cloud.QuotaAccounting
import AgentFabric.Proof.Cloud.RedisRefinement
import AgentFabric.Proof.Cloud.RetryBound
import AgentFabric.Proof.Cloud.SchedulerSteps
import AgentFabric.Proof.Cloud.SqliteRestart
import AgentFabric.Proof.Cloud.TenantOrder
import AgentFabric.Proof.Collaboration.CheckpointRestore
import AgentFabric.Proof.Collaboration.RawKeys
import AgentFabric.Proof.Connectors.ConnectorAccounts
import AgentFabric.Proof.Connectors.ConnectorRateLimit
import AgentFabric.Proof.Connectors.CredentialLifeCycle
import AgentFabric.Proof.Connectors.ManifestVersions
import AgentFabric.Proof.Events.AppendAtomicity
import AgentFabric.Proof.Events.SharedWriters
import AgentFabric.Proof.Federation.DelegatedCapabilities
import AgentFabric.Proof.Foundry.ReleaseHistory
import AgentFabric.Proof.Foundry.RepositoryGraphs
import AgentFabric.Proof.Governance.CachedConsensus
import AgentFabric.Proof.Governance.ConsensusLaws
import AgentFabric.Proof.Marketplace.InstallGate
import AgentFabric.Proof.Mesh.CapabilityIndex
import AgentFabric.Proof.Migrations.MigrationResume
import AgentFabric.Proof.Observability.ComparisonSymmetry
import AgentFabric.Proof.Observability.MarketplaceGate
import AgentFabric.Proof.Packages.PackageDigests
import AgentFabric.Proof.Phase1.MemoryIsolation
import AgentFabric.Proof.Phase1.SandboxPaths
import AgentFabric.Proof.Production.RestartEquivalence
import AgentFabric.Proof.Recovery.LatestCheckpoint
import AgentFabric.Proof.Recovery.ReplayAgreement
import AgentFabric.Proof.Renovation.ChangeOrderPrices
import AgentFabric.Proof.Renovation.DeliveryMonotonicity
import AgentFabric.Proof.Renovation.Instalments
import AgentFabric.Proof.Renovation.MvpRuns
import AgentFabric.Proof.Renovation.OperatorIsolation
import AgentFabric.Proof.Renovation.PageWalks
import AgentFabric.Proof.Renovation.PayloadMerge
import AgentFabric.Proof.Renovation.PaymentRecords
import AgentFabric.Proof.Renovation.PdfLayout
import AgentFabric.Proof.Renovation.PortalViews
import AgentFabric.Proof.Renovation.Profitability
import AgentFabric.Proof.Renovation.RecalculationHistory
import AgentFabric.Proof.Renovation.Resubmission
import AgentFabric.Proof.RepositoryExecution.FilesRestored
import AgentFabric.Proof.Reputation.Reopening
import AgentFabric.Proof.RuntimeMemory.NamespaceIsolation
import AgentFabric.Proof.Server.Delivery
import AgentFabric.Proof.Server.TokenCoherence
import AgentFabric.Proof.Tools.RegistrationOwners
