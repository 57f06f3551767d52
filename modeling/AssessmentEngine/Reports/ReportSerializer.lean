import AssessmentEngine.ViewModels.Classes

/-!
# Report snapshots

`report_serializer`: a report is lowered to JSON when it is published, and built from it again when
it is shown.  The way down is generic, the way back rebuilds each class by hand.
-/

namespace AssessmentEngine

open Dataclass

/-- `_build(cls, data)`. -/
def buildVm (c : ViewModel) : Vm → Option Vm :=
  rebuild viewModelFields c []

/-- `f(data[k])`. -/
def member (f : Vm → Option Vm) : Reader ViewModel := fun v => v.bind f

/-- `f(json_obj(data, k))`. -/
def objectMember (f : Vm → Option Vm) : Reader ViewModel
  | some (.dict entries) => f (.dict entries)
  | _ => f (.dict [])

/-! ## Report rows -/

/-- `_LEGACY_OS_EOL_STATUS`. -/
def legacyOsEolStatus : String → Option String
  | "eol" => some "ended"
  | "extended" => some "security_only"
  | "supported" => some "full"
  | _ => none

/-- Older words for the stages of support are replaced. -/
def currentOsEolStatus : Reader ViewModel
  | some (.str s) => some (.str ((legacyOsEolStatus s).getD s))
  | v => some (v.getD (.str ""))

/-- `_report_row_from_dict`. -/
def reportRowFromDict : Vm → Option Vm :=
  rebuild viewModelFields .reportRowItem
    [("workload_groups", each (buildVm .reportWorkloadGroup)),
      ("listen_ports_detail", each (buildVm .reportListenItem)),
      ("os_eol_status", currentOsEolStatus)]

/-- `report_summary_from_dict`. -/
def reportSummaryFromDict : Vm → Option Vm :=
  rebuild viewModelFields .reportSummary
    [("rows", each reportRowFromDict),
      ("totals", whenTruthy (buildVm .reportTotals) fun _ =>
        .obj .reportTotals
          [("total_vcpus", .int 0), ("total_memory_gb", .float (.finite 0)),
            ("total_disk_gb", .int 0)]),
      ("generated_at", time),
      ("anchor_at", time)]

/-! ## Periods -/

/-- `_period_signal_rows`. -/
def periodSignalRows : Reader ViewModel := each (buildVm .periodSignalRow)

def periodExtraGroupFromDict : Vm → Option Vm :=
  construct viewModelFields .periodExtraGroup [("label", item), ("rows", periodSignalRows)]

def periodResourceFromDict : Vm → Option Vm :=
  construct viewModelFields .periodResource
    [("name", item),
      ("util_rows", periodSignalRows),
      ("util_over", getOr (.int 0)),
      ("sat_rows", periodSignalRows),
      ("sat_over", getOr (.int 0)),
      ("has_util", getOr (.bool true)),
      ("detail_slug", getOr (.str "")),
      ("verdict_label", getOr (.str "")),
      ("verdict_color", getOr (.str "")),
      ("extra_groups", each periodExtraGroupFromDict),
      ("error_rows", each (buildVm .periodErrorRow)),
      ("verdict_label2", getOr (.str "")),
      ("verdict_color2", getOr (.str ""))]

/-- `_period_assessment_from_dict`. -/
def periodAssessmentFromDict : Vm → Option Vm :=
  construct viewModelFields .periodAssessment
    [("resources", each periodResourceFromDict),
      ("error_rows", each (buildVm .periodErrorRow)),
      ("window_days", getOr (.int 0)),
      ("classification_label", getOr (.str "")),
      ("classification_color", getOr (.str ""))]

/-! ## Storage and network -/

/-- `_storage_node_from_dict`, for nodes nested less than `n` deep. -/
def storageNodeAt : ℕ → Vm → Option Vm
  | 0, _ => none
  | n + 1, v => rebuild viewModelFields .storageNode [("children", each (storageNodeAt n))] v

/-- `_storage_node_from_dict`. -/
def storageNodeFromDict (v : Vm) : Option Vm := storageNodeAt (v.depth + 1) v

/-- `_network_interface_from_dict`. -/
def networkInterfaceFromDict : Vm → Option Vm :=
  rebuild viewModelFields .networkInterfaceInfo [("addresses", each (buildVm .netIfaceAddress))]

def subnetGroupFromDict : Vm → Option Vm :=
  construct viewModelFields .subnetGroup
    [("net_key", item), ("host_count", getOr (.int 0)), ("hosts", each (buildVm .subnetHost))]

def topologyFromDict : Vm → Option Vm :=
  rebuild viewModelFields .networkTopology [("subnets", each subnetGroupFromDict)]

/-! ## Overview and signals -/

/-- `_capacity_warning_from_dict`. -/
def capacityWarningFromDict : Vm → Option Vm := buildVm .capacityWarningItem

/-- `_overview_from_dict`. -/
def overviewFromDict : Vm → Option Vm :=
  rebuild viewModelFields .environmentOverview
    [("utilization", each (buildVm .utilizationBar)),
      ("utilization_p95", each (buildVm .utilizationBar)),
      ("risk_donut", each (buildVm .riskDonutSegment)),
      ("saturation_donuts", each (buildVm .saturationDonut)),
      ("error_fleet", each (buildVm .fleetErrorItem)),
      ("under_provisioned_hosts", each capacityWarningFromDict)]

/-- `_attention_row_from_dict`. -/
def attentionRowFromDict : Vm → Option Vm :=
  rebuild viewModelFields .attentionRow [("meta_at", time)]

/-- `_attention_from_dict`. -/
def attentionFromDict : Vm → Option Vm :=
  construct viewModelFields .attentionSignals
    [("gap_warnings", each attentionRowFromDict),
      ("os_eol_warnings", each attentionRowFromDict),
      ("agent_unstable", each attentionRowFromDict)]

/-- `_action_targets_from_dict`. -/
def actionTargetsFromDict : Vm → Option Vm :=
  rebuild viewModelFields .actionTargets [("hosts", each capacityWarningFromDict)]

/-! ## Environment reports -/

def serviceNameCountFromDict : Vm → Option Vm :=
  construct viewModelFields .serviceNameCount
    [("name", item), ("count", item), ("hosts", each (buildVm .serviceHost))]

def serviceCatalogGroupFromDict : Vm → Option Vm :=
  construct viewModelFields .serviceCatalogGroup
    [("category", item),
      ("total_count", getOr (.int 0)),
      ("services", each serviceNameCountFromDict)]

def serverInventoryFromDict : Vm → Option Vm :=
  rebuild viewModelFields .serverInventorySnapshot
    [("ip_internal", each (buildVm .ipAddr)),
      ("ip_external", each (buildVm .ipAddr)),
      ("boot_time", time),
      ("agent_started_at", time),
      ("last_seen_at", time)]

/-- `env_report_to_dict`. -/
def envReportToDict (vm : Vm) : Vm := vm.jsonable

/-- What `data.get(k)` leaves where nothing is assigned: the entry itself. -/
def kept (v : Option Vm) : Vm := v.getD .null

/-- `env_report_from_dict`. -/
def envReportFromDict : Vm → Option Vm :=
  rebuild viewModelFields .environmentReportSummary
    [("overview", member overviewFromDict),
      ("attention", member attentionFromDict),
      ("base", member reportSummaryFromDict),
      ("classification_dist", each (buildVm .classificationCount)),
      ("os_distribution", each (buildVm .osCount)),
      ("os_family_dist", each (buildVm .distributionBar)),
      ("topology", whenTruthy topologyFromDict fun _ => .null),
      ("top_risks", each reportRowFromDict),
      ("action", objectMember actionTargetsFromDict),
      ("service_catalog", each serviceCatalogGroupFromDict),
      ("attention_hosts", each (buildVm .attentionHostItem)),
      ("capacity_imminent", each (buildVm .capacityImminentItem)),
      ("anchor_at", time),
      ("generated_at", time),
      ("server_inventory", whenTruthy serverInventoryFromDict kept),
      ("memory_breakdown", whenTruthy (buildVm .memoryBreakdown) kept),
      ("cpu_breakdown", whenTruthy (buildVm .cpuBreakdown) kept),
      ("period_assessment", whenTruthy periodAssessmentFromDict fun _ => .null),
      ("storage_tree", each storageNodeFromDict),
      ("network_interfaces", each networkInterfaceFromDict)]

end AssessmentEngine
