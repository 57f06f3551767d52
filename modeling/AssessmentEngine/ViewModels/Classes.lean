import AssessmentEngine.Library.Dataclass

/-!
# View models

The dataclasses of the pages and reports as tables of their fields: name, type, whether the field
may be `None`, and its default.  The module of each class is named above it.
-/

namespace AssessmentEngine

open Dataclass

/-- The classes. -/
inductive ViewModel
  | attentionRow
  | capacityWarningItem
  | attentionSignals
  | utilizationBar
  | riskDonutSegment
  | saturationDonut
  | fleetErrorItem
  | environmentOverview
  | actionTargets
  | reportWorkloadGroup
  | reportListenItem
  | reportRowItem
  | reportTotals
  | reportSummary
  | periodSignalRow
  | periodErrorRow
  | periodExtraGroup
  | periodResource
  | periodAssessment
  | saturationSignal
  | errorSignal
  | cpuSnapshot
  | cpuCoreSnapshot
  | memSnapshot
  | diskIoSnapshot
  | netIoSnapshot
  | mountDashSnapshot
  | metricDashboard
  | ipAddr
  | storageNode
  | netIfaceAddress
  | networkInterfaceInfo
  | subnetHost
  | subnetGroup
  | networkTopology
  | classificationCount
  | osCount
  | distributionBar
  | serverInventorySnapshot
  | memoryBreakdown
  | cpuBreakdown
  | serviceHost
  | serviceNameCount
  | serviceCatalogGroup
  | attentionHostItem
  | capacityImminentItem
  | environmentReportSummary
  deriving DecidableEq, Repr

abbrev Vm := Value ViewModel

abbrev VmField := FieldSpec ViewModel

/-! ## Signals and the overview of the environment -/

/-- `attention.AttentionRow`. -/
def attentionRowFields : List VmField :=
  [requiredField "badge_class" .str,
    requiredField "badge_text" .str,
    requiredField "link_href" .str,
    requiredField "link_text" .str,
    optionalField "mount_path" .str,
    defaultField "meta_text" .str (.str ""),
    optionalField "meta_at" .datetime,
    optionalField "eol_days_over" .int]

/-- `attention.CapacityWarningItem`. -/
def capacityWarningItemFields : List VmField :=
  [requiredField "public_id" .str,
    requiredField "hostname" .str,
    defaultField "classification" .str (.str "under_provisioned"),
    defaultField "classification_label" .str (.str "자원 부족"),
    defaultField "badge_class" .str (.str "rec-under_provisioned"),
    defaultField "classification_rank" .int (.int 0),
    defaultField "active_causes" (.list .str) (.list []),
    defaultField "services" (.dict .int) (.dict []),
    defaultField "confidence_notes" (.list .str) (.list []),
    defaultField "recommendation_action" .str (.str ""),
    defaultField "root_cause_label" .str (.str ""),
    defaultField "severity_score" .float (.float (.finite 0)),
    defaultField "net_status_label" .str (.str ""),
    defaultField "net_status_color" .str (.str ""),
    defaultField "disk_io_status_label" .str (.str ""),
    defaultField "disk_io_status_color" .str (.str ""),
    defaultField "spec_display" .str (.str "")]

/-- `attention.AttentionSignals`. -/
def attentionSignalsFields : List VmField :=
  [requiredField "gap_warnings" (.list (.cls .attentionRow)),
    defaultField "os_eol_warnings" (.list (.cls .attentionRow)) (.list []),
    defaultField "agent_unstable" (.list (.cls .attentionRow)) (.list [])]

/-- `attention.UtilizationBar`. -/
def utilizationBarFields : List VmField :=
  [requiredField "label" .str,
    nullableField "pct" .float,
    requiredField "bar_color" .str,
    requiredField "dash_length" .float]

/-- `attention.RiskDonutSegment`. -/
def riskDonutSegmentFields : List VmField :=
  [requiredField "key" .str,
    requiredField "label" .str,
    requiredField "color" .str,
    requiredField "count" .int,
    requiredField "dash_length" .float,
    requiredField "dash_offset" .float,
    defaultField "description" .str (.str ""),
    defaultField "pct" .float (.float (.finite 0))]

/-- `attention.SaturationDonut`. -/
def saturationDonutFields : List VmField :=
  [requiredField "label" .str,
    requiredField "count" .int,
    requiredField "total" .int,
    requiredField "dash_length" .float,
    requiredField "color" .str]

/-- `attention.FleetErrorItem`. -/
def fleetErrorItemFields : List VmField :=
  [requiredField "key" .str,
    requiredField "label" .str,
    requiredField "affected" .int,
    requiredField "total" .int,
    optionalField "detail" .str,
    defaultField "tone" .str (.str "danger")]

/-- `attention.EnvironmentOverview`. -/
def environmentOverviewFields : List VmField :=
  [requiredField "total" .int,
    requiredField "online" .int,
    requiredField "offline" .int,
    requiredField "total_vcpus" .int,
    requiredField "total_memory_gb" .float,
    requiredField "total_disk_gb" .int,
    defaultField "os_distribution" (.dict .int) (.dict []),
    defaultField "role_distribution" (.dict .int) (.dict []),
    defaultField "workload_donut" (.list (.cls .riskDonutSegment)) (.list []),
    defaultField "workload_total" .int (.int 0),
    defaultField "role_unknown_count" .int (.int 0),
    defaultField "utilization" (.list (.cls .utilizationBar)) (.list []),
    defaultField "utilization_p95" (.list (.cls .utilizationBar)) (.list []),
    defaultField "util_sample_size" .int (.int 0),
    defaultField "saturation_donuts" (.list (.cls .saturationDonut)) (.list []),
    defaultField "error_fleet" (.list (.cls .fleetErrorItem)) (.list []),
    defaultField "os_eol_passed" .int (.int 0),
    defaultField "os_eol_security_only" .int (.int 0),
    defaultField "os_eol_unknown" .int (.int 0),
    defaultField "os_eol_supported" .int (.int 0),
    defaultField "risk_donut" (.list (.cls .riskDonutSegment)) (.list []),
    defaultField "risk_donut_total" .int (.int 0),
    defaultField "risk_high_count" .int (.int 0),
    defaultField "under_provisioned_hosts" (.list (.cls .capacityWarningItem)) (.list []),
    defaultField "under_provisioned_hosts_count" .int (.int 0),
    defaultField "under_provisioned_hosts_shown" .int (.int 0)]

/-- `attention.ActionTargets`. -/
def actionTargetsFields : List VmField :=
  [defaultField "hosts" (.list (.cls .capacityWarningItem)) (.list []),
    defaultField "total" .int (.int 0),
    defaultField "under_count" .int (.int 0),
    defaultField "efficiency_count" .int (.int 0),
    defaultField "efficiency_vcpus" .int (.int 0),
    defaultField "efficiency_memory_gb" .float (.float (.finite 0)),
    defaultField "efficiency_disk_gb" .int (.int 0)]

/-! ## Report rows -/

/-- `report.ReportWorkloadGroup`. -/
def reportWorkloadGroupFields : List VmField :=
  [requiredField "category" .str,
    defaultField "names_label" .str (.str ""),
    defaultField "ports" (.list .str) (.list [])]

/-- `report.ReportListenItem`. -/
def reportListenItemFields : List VmField :=
  [requiredField "port" .int,
    requiredField "proto" .str,
    defaultField "comm" .str (.str ""),
    defaultField "addr" .str (.str ""),
    optionalField "uid" .int,
    optionalField "pid" .int]

/-- `report.ReportRowItem`. -/
def reportRowItemFields : List VmField :=
  [requiredField "server_id" .int,
    requiredField "public_id" .str,
    requiredField "hostname" .str,
    requiredField "role" .str,
    requiredField "is_online" .bool,
    nullableField "os_family" .str,
    requiredField "os_display" .str,
    nullableField "kernel_version" .str,
    nullableField "internal_ip" .str,
    nullableField "cpu_p95_pct" .float,
    nullableField "cpu_avg_pct" .float,
    nullableField "cpu_peak_pct" .float,
    nullableField "mem_p95_pct" .float,
    nullableField "mem_avg_pct" .float,
    nullableField "mem_peak_pct" .float,
    requiredField "recommendation" .str,
    requiredField "recommendation_label" .str,
    requiredField "badge_class" .str,
    requiredField "risk_level" .str,
    requiredField "risk_label" .str,
    requiredField "risk_badge_class" .str,
    optionalField "cpu_cores" .int,
    optionalField "mem_total_gb" .float,
    optionalField "disk_total_gb" .float,
    optionalField "cpu_run_queue_p95" .float,
    optionalField "iowait_p95_pct" .float,
    optionalField "iowait_peak_pct" .float,
    optionalField "worst_mount_used_pct" .float,
    optionalField "disk_capacity_driving_mount" .str,
    optionalField "disk_capacity_runway_days" .int,
    optionalField "uptime_days" .int,
    defaultField "reboot_count" .int (.int 0),
    defaultField "agent_restart_count" .int (.int 0),
    optionalField "cpu_variance_ratio" .float,
    optionalField "mem_variance_ratio" .float,
    optionalField "disk_iops_baseline" .int,
    optionalField "disk_iops_p95" .float,
    optionalField "disk_iops_peak" .float,
    optionalField "disk_throughput_kbps" .float,
    optionalField "disk_throughput_kbps_p95" .float,
    optionalField "disk_throughput_kbps_peak" .float,
    optionalField "net_rx_kbps" .float,
    optionalField "net_rx_kbps_p95" .float,
    optionalField "net_rx_kbps_peak" .float,
    optionalField "net_tx_kbps" .float,
    optionalField "net_tx_kbps_p95" .float,
    optionalField "net_tx_kbps_peak" .float,
    defaultField "diagnosis" .str (.str ""),
    defaultField "recommendation_action" .str (.str ""),
    defaultField "root_cause_label" .str (.str ""),
    defaultField "net_status_label" .str (.str ""),
    defaultField "net_congested" .bool (.bool false),
    defaultField "mem_swap_paging" .bool (.bool false),
    defaultField "is_partial" .bool (.bool false),
    defaultField "confidence_notes" (.list .str) (.list []),
    defaultField "workload_groups" (.list (.cls .reportWorkloadGroup)) (.list []),
    defaultField "listen_ports_detail" (.list (.cls .reportListenItem)) (.list []),
    defaultField "workload_categories" (.list .str) (.list []),
    defaultField "signature_workload_categories" (.list .str) (.list []),
    defaultField "workload_services" (.dict (.list .str)) (.dict []),
    defaultField "os_eol" .str (.str ""),
    defaultField "os_eol_status" .str (.str ""),
    defaultField "os_eol_label" .str (.str ""),
    defaultField "os_eol_css" .str (.str ""),
    defaultField "os_eol_title" .str (.str ""),
    defaultField "os_eol_sort" .int (.int 0),
    defaultField "has_operational_event" .bool (.bool false)]

/-- `report.ReportTotals`. -/
def reportTotalsFields : List VmField :=
  [requiredField "total_vcpus" .int,
    requiredField "total_memory_gb" .float,
    requiredField "total_disk_gb" .int]

/-- `ReportTotals(0, 0, 0)`. -/
def defaultReportTotals : Vm :=
  .obj .reportTotals
    [("total_vcpus", .int 0), ("total_memory_gb", .int 0), ("total_disk_gb", .int 0)]

/-- `report.ReportSummary`. -/
def reportSummaryFields : List VmField :=
  [requiredField "rows" (.list (.cls .reportRowItem)),
    requiredField "period_days" .float,
    requiredField "total" .int,
    requiredField "online" .int,
    requiredField "risk_attention" .int,
    requiredField "risk_high" .int,
    optionalField "avg_cpu_p95_pct" .float,
    optionalField "avg_mem_p95_pct" .float,
    defaultField "totals" (.cls .reportTotals) defaultReportTotals,
    defaultField "summary_bullets" (.list .str) (.list []),
    defaultField "role_distribution" (.dict .int) (.dict []),
    defaultField "os_family_summary" .str (.str ""),
    defaultField "workload_summary" .str (.str ""),
    optionalField "generated_at" .datetime,
    optionalField "anchor_at" .datetime]

/-! ## Periods and the dashboard -/

/-- `metric.PeriodSignalRow`. -/
def periodSignalRowFields : List VmField :=
  [requiredField "label" .str,
    requiredField "value" .str,
    requiredField "threshold" .str,
    requiredField "over" .bool,
    requiredField "measured" .bool]

/-- `metric.PeriodErrorRow`. -/
def periodErrorRowFields : List VmField :=
  [requiredField "key" .str,
    requiredField "label" .str,
    requiredField "badge_text" .str,
    requiredField "badge_class" .str,
    requiredField "note" .str,
    requiredField "sizing_signal" .str]

/-- `metric.PeriodExtraGroup`. -/
def periodExtraGroupFields : List VmField :=
  [requiredField "label" .str,
    requiredField "rows" (.list (.cls .periodSignalRow))]

/-- `metric.PeriodResource`. -/
def periodResourceFields : List VmField :=
  [requiredField "name" .str,
    requiredField "util_rows" (.list (.cls .periodSignalRow)),
    requiredField "util_over" .int,
    requiredField "sat_rows" (.list (.cls .periodSignalRow)),
    requiredField "sat_over" .int,
    requiredField "has_util" .bool,
    requiredField "detail_slug" .str,
    requiredField "verdict_label" .str,
    requiredField "verdict_color" .str,
    defaultField "extra_groups" (.list (.cls .periodExtraGroup)) (.list []),
    defaultField "error_rows" (.list (.cls .periodErrorRow)) (.list []),
    defaultField "verdict_label2" .str (.str ""),
    defaultField "verdict_color2" .str (.str "")]

/-- `metric.PeriodAssessment`. -/
def periodAssessmentFields : List VmField :=
  [requiredField "resources" (.list (.cls .periodResource)),
    requiredField "error_rows" (.list (.cls .periodErrorRow)),
    requiredField "window_days" .int,
    requiredField "classification_label" .str,
    requiredField "classification_color" .str]

/-- `metric.SaturationSignal`. -/
def saturationSignalFields : List VmField :=
  [requiredField "key" .str,
    requiredField "label" .str,
    requiredField "state" .str,
    optionalField "value" .float,
    optionalField "threshold" .float,
    optionalField "unit" .str,
    optionalField "saturated" .bool,
    optionalField "detail" .str,
    optionalField "na_reason" .str]

/-- `metric.ErrorSignal`. -/
def errorSignalFields : List VmField :=
  [requiredField "key" .str,
    requiredField "label" .str,
    requiredField "state" .str,
    optionalField "count" .int,
    optionalField "context" .str,
    optionalField "last_at" .datetime,
    optionalField "window_label" .str,
    optionalField "detail" .str]

/-- `metric.CpuSnapshot`. -/
def cpuSnapshotFields : List VmField :=
  [nullableField "usage_pct" .float,
    nullableField "user_pct" .float,
    nullableField "system_pct" .float,
    nullableField "iowait_pct" .float,
    optionalField "steal_pct" .float,
    optionalField "nice_pct" .float]

/-- `metric.CpuCoreSnapshot`. -/
def cpuCoreSnapshotFields : List VmField :=
  [requiredField "core_id" .int,
    nullableField "usage_pct" .float,
    defaultField "hot" .bool (.bool false)]

/-- `metric.MemSnapshot`. -/
def memSnapshotFields : List VmField :=
  [nullableField "total_bytes" .int,
    nullableField "used_bytes" .int,
    nullableField "available_bytes" .int,
    nullableField "cached_bytes" .int,
    nullableField "buffered_bytes" .int,
    nullableField "usage_pct" .float,
    optionalField "cached_pct" .float,
    optionalField "buffers_pct" .float,
    optionalField "free_pct" .float]

/-- `metric.DiskIoSnapshot`. -/
def diskIoSnapshotFields : List VmField :=
  [requiredField "device" .str,
    nullableField "read_iops" .float,
    nullableField "write_iops" .float,
    nullableField "read_kbps" .float,
    nullableField "write_kbps" .float]

/-- `metric.NetIoSnapshot`. -/
def netIoSnapshotFields : List VmField :=
  [requiredField "interface" .str,
    nullableField "rx_kbps" .float,
    nullableField "tx_kbps" .float,
    nullableField "rx_pps" .float,
    nullableField "tx_pps" .float]

/-- `metric.MountDashSnapshot`. -/
def mountDashSnapshotFields : List VmField :=
  [requiredField "mount" .str,
    nullableField "total_gb" .float,
    nullableField "used_gb" .float,
    nullableField "avail_gb" .float,
    nullableField "usage_pct" .float]

/-- `metric.MetricDashboard`. -/
def metricDashboardFields : List VmField :=
  [nullableField "collected_at" .datetime,
    nullableField "cpu" (.cls .cpuSnapshot),
    nullableField "memory" (.cls .memSnapshot),
    requiredField "disk_io" (.list (.cls .diskIoSnapshot)),
    requiredField "net_io" (.list (.cls .netIoSnapshot)),
    requiredField "mounts" (.list (.cls .mountDashSnapshot)),
    optionalField "disk_usage_pct" .float,
    defaultField "cpu_saturation" (.list (.cls .saturationSignal)) (.list []),
    defaultField "mem_saturation" (.list (.cls .saturationSignal)) (.list []),
    defaultField "disk_saturation" (.list (.cls .saturationSignal)) (.list []),
    defaultField "net_saturation" (.list (.cls .saturationSignal)) (.list []),
    defaultField "errors" (.list (.cls .errorSignal)) (.list []),
    defaultField "cpu_cores" (.list (.cls .cpuCoreSnapshot)) (.list [])]

/-! ## Servers -/

/-- `server.IpAddr`. -/
def ipAddrFields : List VmField :=
  [requiredField "value" .str,
    requiredField "is_ipv4" .bool]

/-- `server.StorageNode`. -/
def storageNodeFields : List VmField :=
  [requiredField "name" .str,
    requiredField "kind" .str,
    requiredField "kind_label" .str,
    nullableField "size_gb" .float,
    defaultField "meta" .str (.str ""),
    defaultField "badges" (.list .str) (.list []),
    defaultField "mount" .str (.str ""),
    optionalField "usage_pct" .float,
    defaultField "usage_label" .str (.str ""),
    defaultField "usage_class" .str (.str ""),
    optionalField "inode_pct" .float,
    defaultField "inode_label" .str (.str ""),
    defaultField "inode_class" .str (.str ""),
    defaultField "children" (.list (.cls .storageNode)) (.list []),
    optionalField "gauge_info_width_px" .int]

/-- `server.NetIfaceAddress`. -/
def netIfaceAddressFields : List VmField :=
  [requiredField "value" .str,
    requiredField "is_ipv4" .bool,
    defaultField "origin" .str (.str "")]

/-- `server.NetworkInterfaceInfo`. -/
def networkInterfaceInfoFields : List VmField :=
  [requiredField "name" .str,
    defaultField "mac" .str (.str ""),
    optionalField "mtu" .int,
    optionalField "speed_mbps" .int,
    defaultField "gateway" .str (.str ""),
    defaultField "dns" (.list .str) (.list []),
    defaultField "addresses" (.list (.cls .netIfaceAddress)) (.list [])]

/-! ## Topology -/

/-- `topology.SubnetHost`. -/
def subnetHostFields : List VmField :=
  [requiredField "hostname" .str,
    requiredField "ip" .str,
    requiredField "os_family" .str,
    requiredField "public_id" .str,
    defaultField "roles" (.list .str) (.list []),
    optionalField "origin" .str,
    optionalField "mtu" .int,
    optionalField "speed_mbps" .int,
    defaultField "is_online" .bool (.bool false),
    defaultField "multi_homed" .bool (.bool false)]

/-- `topology.SubnetGroup`. -/
def subnetGroupFields : List VmField :=
  [requiredField "net_key" .str,
    defaultField "host_count" .int (.int 0),
    optionalField "gateway" .str,
    defaultField "hosts" (.list (.cls .subnetHost)) (.list [])]

/-- `topology.NetworkTopology`. -/
def networkTopologyFields : List VmField :=
  [requiredField "elements" (.list .json),
    requiredField "subnet_count" .int,
    requiredField "host_count" .int,
    requiredField "multi_homed_count" .int,
    requiredField "isolated_count" .int,
    defaultField "router_count" .int (.int 0),
    defaultField "subnets" (.list (.cls .subnetGroup)) (.list []),
    defaultField "caveats" (.list .str) (.list []),
    defaultField "has_data" .bool (.bool false)]

/-! ## Environment reports -/

/-- `environment_report.ClassificationCount`. -/
def classificationCountFields : List VmField :=
  [requiredField "key" .str,
    requiredField "label" .str,
    requiredField "count" .int,
    requiredField "color" .str,
    defaultField "description" .str (.str ""),
    defaultField "pct" .float (.float (.finite 0))]

/-- `environment_report.OsCount`. -/
def osCountFields : List VmField :=
  [requiredField "family" .str,
    requiredField "distro" .str,
    requiredField "version" .str,
    requiredField "count" .int,
    defaultField "kernel_versions" .str (.str "—")]

/-- `environment_report.DistributionBar`. -/
def distributionBarFields : List VmField :=
  [requiredField "label" .str,
    requiredField "count" .int,
    defaultField "pct" .float (.float (.finite 0))]

/-- `environment_report.ServerInventorySnapshot`. -/
def serverInventorySnapshotFields : List VmField :=
  [requiredField "hostname" .str,
    requiredField "os_display" .str,
    nullableField "os_codename" .str,
    nullableField "kernel_version" .str,
    nullableField "cpu_model" .str,
    nullableField "cpu_cores" .int,
    nullableField "mem_total_gb" .float,
    nullableField "swap_total_gb" .float,
    nullableField "disk_total_gb" .int,
    requiredField "ip_internal" (.list (.cls .ipAddr)),
    requiredField "ip_external" (.list (.cls .ipAddr)),
    nullableField "boot_time" .datetime,
    nullableField "agent_started_at" .datetime,
    nullableField "last_seen_at" .datetime,
    nullableField "agent_version" .str,
    nullableField "composite_id" .str,
    nullableField "machine_id" .str,
    requiredField "is_online" .bool,
    optionalField "public_id" .str,
    optionalField "agent_id" .str,
    optionalField "cpu_arch" .str,
    optionalField "cpu_bits" .int,
    optionalField "boot_firmware" .str,
    optionalField "secure_boot" .bool,
    optionalField "os_edition" .str,
    optionalField "timezone" .str]

/-- `environment_report.MemoryBreakdown`. -/
def memoryBreakdownFields : List VmField :=
  [nullableField "used_pct" .float,
    nullableField "available_pct" .float,
    nullableField "cached_pct" .float,
    nullableField "buffers_pct" .float]

/-- `environment_report.CpuBreakdown`. -/
def cpuBreakdownFields : List VmField :=
  [nullableField "user_pct" .float,
    nullableField "system_pct" .float,
    nullableField "iowait_pct" .float]

/-- `environment_report.ServiceHost`. -/
def serviceHostFields : List VmField :=
  [requiredField "hostname" .str,
    requiredField "public_id" .str]

/-- `environment_report.ServiceNameCount`. -/
def serviceNameCountFields : List VmField :=
  [requiredField "name" .str,
    requiredField "count" .int,
    defaultField "hosts" (.list (.cls .serviceHost)) (.list [])]

/-- `environment_report.ServiceCatalogGroup`. -/
def serviceCatalogGroupFields : List VmField :=
  [requiredField "category" .str,
    defaultField "total_count" .int (.int 0),
    defaultField "services" (.list (.cls .serviceNameCount)) (.list [])]

/-- `environment_report.AttentionHostItem`. -/
def attentionHostItemFields : List VmField :=
  [requiredField "public_id" .str,
    requiredField "hostname" .str,
    requiredField "os_display" .str,
    nullableField "gap_label" .str,
    nullableField "os_eol_label" .str,
    nullableField "restart_label" .str,
    requiredField "active_count" .int]

/-- `environment_report.CapacityImminentItem`. -/
def capacityImminentItemFields : List VmField :=
  [requiredField "public_id" .str,
    requiredField "hostname" .str,
    requiredField "worst_mount" .str,
    requiredField "days_until_full" .int,
    nullableField "used_pct" .float]

/-- `ActionTargets()`. -/
def defaultActionTargets : Vm :=
  .obj .actionTargets
    [("hosts", .list []), ("total", .int 0), ("under_count", .int 0), ("efficiency_count", .int 0),
      ("efficiency_vcpus", .int 0), ("efficiency_memory_gb", .float (.finite 0)),
      ("efficiency_disk_gb", .int 0)]

/-- `environment_report.EnvironmentReportSummary`. -/
def environmentReportSummaryFields : List VmField :=
  [requiredField "view" .str,
    requiredField "time_range" .str,
    requiredField "time_range_label" .str,
    requiredField "anchor_at" .datetime,
    requiredField "generated_at" .datetime,
    requiredField "overview" (.cls .environmentOverview),
    requiredField "attention" (.cls .attentionSignals),
    requiredField "base" (.cls .reportSummary),
    requiredField "classification_dist" (.list (.cls .classificationCount)),
    requiredField "os_distribution" (.list (.cls .osCount)),
    requiredField "top_risks" (.list (.cls .reportRowItem)),
    requiredField "summary_bullets_env" (.list .str),
    defaultField "os_family_dist" (.list (.cls .distributionBar)) (.list []),
    defaultField "env_metrics" (.list .json) (.list []),
    defaultField "os_eol_count" .int (.int 0),
    defaultField "os_eol_breakdown_label" .str (.str ""),
    defaultField "agent_versions_label" .str (.str ""),
    optionalField "topology" (.cls .networkTopology),
    defaultField "trend" (.list .json) (.list []),
    defaultField "sat_trend" (.list .json) (.list []),
    defaultField "action" (.cls .actionTargets) defaultActionTargets,
    defaultField "service_catalog" (.list (.cls .serviceCatalogGroup)) (.list []),
    optionalField "server_inventory" (.cls .serverInventorySnapshot),
    optionalField "memory_breakdown" (.cls .memoryBreakdown),
    optionalField "cpu_breakdown" (.cls .cpuBreakdown),
    optionalField "period_assessment" (.cls .periodAssessment),
    defaultField "storage_tree" (.list (.cls .storageNode)) (.list []),
    defaultField "network_interfaces" (.list (.cls .networkInterfaceInfo)) (.list []),
    defaultField "attention_hosts" (.list (.cls .attentionHostItem)) (.list []),
    defaultField "capacity_imminent" (.list (.cls .capacityImminentItem)) (.list []),
    defaultField "top_risks_count" .int (.int 0),
    defaultField "attention_hosts_count" .int (.int 0),
    defaultField "capacity_imminent_count" .int (.int 0)]

/-! ## The table -/

/-- The fields of a class. -/
def viewModelFields : ViewModel → List VmField
  | .attentionRow => attentionRowFields
  | .capacityWarningItem => capacityWarningItemFields
  | .attentionSignals => attentionSignalsFields
  | .utilizationBar => utilizationBarFields
  | .riskDonutSegment => riskDonutSegmentFields
  | .saturationDonut => saturationDonutFields
  | .fleetErrorItem => fleetErrorItemFields
  | .environmentOverview => environmentOverviewFields
  | .actionTargets => actionTargetsFields
  | .reportWorkloadGroup => reportWorkloadGroupFields
  | .reportListenItem => reportListenItemFields
  | .reportRowItem => reportRowItemFields
  | .reportTotals => reportTotalsFields
  | .reportSummary => reportSummaryFields
  | .periodSignalRow => periodSignalRowFields
  | .periodErrorRow => periodErrorRowFields
  | .periodExtraGroup => periodExtraGroupFields
  | .periodResource => periodResourceFields
  | .periodAssessment => periodAssessmentFields
  | .saturationSignal => saturationSignalFields
  | .errorSignal => errorSignalFields
  | .cpuSnapshot => cpuSnapshotFields
  | .cpuCoreSnapshot => cpuCoreSnapshotFields
  | .memSnapshot => memSnapshotFields
  | .diskIoSnapshot => diskIoSnapshotFields
  | .netIoSnapshot => netIoSnapshotFields
  | .mountDashSnapshot => mountDashSnapshotFields
  | .metricDashboard => metricDashboardFields
  | .ipAddr => ipAddrFields
  | .storageNode => storageNodeFields
  | .netIfaceAddress => netIfaceAddressFields
  | .networkInterfaceInfo => networkInterfaceInfoFields
  | .subnetHost => subnetHostFields
  | .subnetGroup => subnetGroupFields
  | .networkTopology => networkTopologyFields
  | .classificationCount => classificationCountFields
  | .osCount => osCountFields
  | .distributionBar => distributionBarFields
  | .serverInventorySnapshot => serverInventorySnapshotFields
  | .memoryBreakdown => memoryBreakdownFields
  | .cpuBreakdown => cpuBreakdownFields
  | .serviceHost => serviceHostFields
  | .serviceNameCount => serviceNameCountFields
  | .serviceCatalogGroup => serviceCatalogGroupFields
  | .attentionHostItem => attentionHostItemFields
  | .capacityImminentItem => capacityImminentItemFields
  | .environmentReportSummary => environmentReportSummaryFields

/-- A record of the class, of the types that its fields declare. -/
structure Instance (c : ViewModel) where
  value : Vm
  fits : fits viewModelFields value (.cls c) = true

end AssessmentEngine
