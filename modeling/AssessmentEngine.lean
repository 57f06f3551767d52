import AssessmentEngine.Library.FixedPoint
import AssessmentEngine.Library.Nullable
import AssessmentEngine.Recommendation.Prescription
import AssessmentEngine.Mappers.RightSizing
import AssessmentEngine.Mappers.Overview
import AssessmentEngine.Queries.MountFold
import AssessmentEngine.Library.Runs
import AssessmentEngine.Jobs.EnqueueReport
import AssessmentEngine.Jobs.Finality
import AssessmentEngine.Tasks.Lifecycle
import AssessmentEngine.Tasks.PackageCache
import AssessmentEngine.Tasks.AllOrNothing
import AssessmentEngine.Jobs.ChildReports
import AssessmentEngine.Tasks.Emission
import AssessmentEngine.Ingest.History
import AssessmentEngine.Ingest.Registration
import AssessmentEngine.Ingest.Series
import AssessmentEngine.Ingest.Metrics
import AssessmentEngine.Attention.Signals
import AssessmentEngine.Attention.Hosts
import AssessmentEngine.Attention.Attribution
import AssessmentEngine.Library.IsoFormat
import AssessmentEngine.Library.Dataclass
import AssessmentEngine.ViewModels.Classes
import AssessmentEngine.Reports.ReportSerializer
import AssessmentEngine.Reports.Snapshots
import AssessmentEngine.Services.ServiceClassifier
import AssessmentEngine.Library.Codec
import AssessmentEngine.Mappers.Devices
import AssessmentEngine.Mappers.ServerDetail
import AssessmentEngine.Services.CacheSerializer
import AssessmentEngine.Library.Returns
import AssessmentEngine.Library.SqlColumn
import AssessmentEngine.Consumer.MetricMapper
import AssessmentEngine.Consumer.InventoryMapper
import AssessmentEngine.Consumer.Rows
import AssessmentEngine.Consumer.MetricStorage
import AssessmentEngine.Consumer.InventoryStorage
import AssessmentEngine.Consumer.Storage
import AssessmentEngine.Library.Landing
import AssessmentEngine.Sizing.Recommended
import AssessmentEngine.Sizing.CpuLanding
import AssessmentEngine.Sizing.MemoryLanding
import AssessmentEngine.Sizing.MoreLoad
import AssessmentEngine.Sizing.Irrelevance
import AssessmentEngine.Mappers.CauseSummary
import AssessmentEngine.Queries.MountCapacity
import AssessmentEngine.Queries.MountRunway
import AssessmentEngine.Library.Counter
import AssessmentEngine.Queries.MemoryFlags
import AssessmentEngine.Library.Tokens
import AssessmentEngine.Library.Selection
import AssessmentEngine.Services.ServerFilters
import AssessmentEngine.Mappers.Saturation
import AssessmentEngine.Mappers.NetworkSignals
import AssessmentEngine.Mappers.Diagnosis
import AssessmentEngine.Reports.CapacityImminent
import AssessmentEngine.Mappers.DeviceRepeats
import AssessmentEngine.Services.Groups
import AssessmentEngine.Mappers.Badges
import AssessmentEngine.Services.Workloads
import AssessmentEngine.Library.SetDefault
import AssessmentEngine.Library.GuardedWalk
import AssessmentEngine.Mappers.StorageTree
import AssessmentEngine.Mappers.StorageOnce
import AssessmentEngine.Reports.ServiceCatalog
import AssessmentEngine.Mappers.MetricsCalculator
import AssessmentEngine.Queries.CpuTrend
import AssessmentEngine.Consumer.NaturalKeys
import AssessmentEngine.Consumer.CoreSums
import AssessmentEngine.Queries.RebootEvents
import AssessmentEngine.Queries.RestartCounts
import AssessmentEngine.Library.Newest
import AssessmentEngine.Reports.ReportHistory
import AssessmentEngine.Library.IpAddress
import AssessmentEngine.Tasks.InstallRequest
import AssessmentEngine.Mappers.Topology
import AssessmentEngine.Mappers.TopologyGraph
import AssessmentEngine.Library.Calendar
import AssessmentEngine.Library.JsonText
import AssessmentEngine.Jobs.HashKey
import AssessmentEngine.Library.NetworkText
import AssessmentEngine.Library.StableSort
import AssessmentEngine.Mappers.TopologySegments
import AssessmentEngine.Library.CountedOnce
import AssessmentEngine.Mappers.TopologyOrder
import AssessmentEngine.Mappers.OsEolCatalog
import AssessmentEngine.Mappers.TopologyMembers
import AssessmentEngine.Library.KeyedTable
import AssessmentEngine.Library.CounterSpread
import AssessmentEngine.Library.RowGroups
import AssessmentEngine.Queries.MetricTables
import AssessmentEngine.Queries.ErrorCounts
import AssessmentEngine.Queries.ErrorHosts
import AssessmentEngine.Library.TimeSeries
import AssessmentEngine.Queries.TrendWindow
import AssessmentEngine.Queries.HostTrends
import AssessmentEngine.Queries.ValueTrends
import AssessmentEngine.Queries.MetricTrend
import AssessmentEngine.Queries.TrendHorizon
import AssessmentEngine.Queries.HostCounts
import AssessmentEngine.Library.RowRanks
import AssessmentEngine.Queries.LatestSaturation
import AssessmentEngine.Queries.NetworkQuality
import AssessmentEngine.Mappers.Dashboard
import AssessmentEngine.Queries.LiveDevices
import AssessmentEngine.Library.CursorPages
import AssessmentEngine.Queries.RecentTasks
import AssessmentEngine.Queries.MetricSnapshots
import AssessmentEngine.Queries.LatestDashboard
import AssessmentEngine.Mappers.EnvironmentRealtime
import AssessmentEngine.Queries.EnvironmentSelection
import AssessmentEngine.Library.ExpiringStore
import AssessmentEngine.Cache.Redis
import AssessmentEngine.Consumer.Delivery
import AssessmentEngine.Consumer.NoSilentLoss
import AssessmentEngine.Consumer.OncePerMark
import AssessmentEngine.Consumer.Handlers
import AssessmentEngine.Consumer.AgentClocks
import AssessmentEngine.Cache.CacheAside
import AssessmentEngine.Services.DetailCache
import AssessmentEngine.Library.PercentEncoding
import AssessmentEngine.Routers.Back
import AssessmentEngine.Library.Percentile
import AssessmentEngine.Queries.FiveMinuteBuckets
import AssessmentEngine.Queries.ReportAggregate
import AssessmentEngine.Queries.ReportBaselines
import AssessmentEngine.Queries.ReportFigures
import AssessmentEngine.Queries.ReportLocality
import AssessmentEngine.Jobs.Progress
import AssessmentEngine.Mappers.PeriodAssessment
import AssessmentEngine.Mappers.PeriodVerdicts
import AssessmentEngine.Services.PeriodCard
import AssessmentEngine.Services.ChildPrefetch
