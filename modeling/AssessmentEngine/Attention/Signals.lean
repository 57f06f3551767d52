import Mathlib.Data.List.MinMax
import Mathlib.Data.List.Sort
import AssessmentEngine.Library.Table
import AssessmentEngine.Mappers.OsEol

/-!
# Operational signals

The three catalogues of operational signals (metrics that have stopped, an operating system without
support, an agent that restarts often) as `attention_signals` collects them from the fleet, and
their restriction to a selection of servers.  A signal is displayed under the host name of its
server, which several servers may share, and links to its public id, which is unique.
-/

namespace AssessmentEngine

/-! ## The fleet -/

/-- A server with what the signals are computed from: the times of its samples and, for each row of
its inventory history, when it was collected and when its agent had started. -/
structure FleetServer where
  id : ℕ
  publicId : String
  hostname : String
  osId : Option String
  osVersion : Option String
  kernelVersion : Option String
  samples : List ℤ
  agentStarts : List (ℤ × Option ℤ)
  /-- A public id is a UUID. -/
  publicId_slashless : '/' ∉ publicId.toList

/-- The registered servers. -/
structure Fleet where
  servers : List FleetServer
  ids : (servers.map FleetServer.id).Nodup
  publicIds : (servers.map FleetServer.publicId).Nodup

/-- Times and settings of a report. -/
structure AttentionContext where
  /-- `now()` in the database. -/
  dbNow : ℤ
  /-- The reference time of the report, and its day. -/
  ref : ℤ
  today : ℤ
  agentRestartAlertThreshold : ℕ
  catalog : EolCatalog

def microsPerMinute : ℤ := 60000000
def microsPerHour : ℤ := 3600000000

/-- `_GAP_MINUTES`. -/
def gapMinutes : ℤ := 5

/-- `_GAP_RECENT_HOURS`. -/
def gapRecentHours : ℤ := 24

/-- `MAX(collected_at)` over the samples of the pruned window. -/
def FleetServer.lastMetricAt (ctx : AttentionContext) (s : FleetServer) : Option ℤ :=
  (s.samples.filter fun t =>
    decide (ctx.dbNow - min gapRecentHours 168 * microsPerHour ≤ t)).max?

/-- The condition of `metric_gap_warnings`: silent now, alive within the last hours. -/
def FleetServer.gap (ctx : AttentionContext) (s : FleetServer) : Option ℤ :=
  (s.lastMetricAt ctx).filter fun last =>
    decide (last < ctx.dbNow - gapMinutes * microsPerMinute) &&
      decide (ctx.dbNow - gapRecentHours * microsPerHour < last)

/-- `agent_restart_counts_recent`, of one server; without a row, no count. -/
def FleetServer.restartCount (ctx : AttentionContext) (s : FleetServer) : Option ℕ :=
  let starts := (s.agentStarts.filter fun row => decide (ctx.ref - microsPerHour ≤ row.1)).filterMap
    Prod.snd
  if starts.isEmpty then none else some (starts.dedup.length - 1)

/-! ## Rows -/

/-- The fields of `AttentionRow` that the signals fill. -/
structure AttentionRow where
  badgeText : String
  linkHref : String
  linkText : String
  metaText : String
  metaAt : Option ℤ
  eolDaysOver : Option ℤ
  deriving DecidableEq, Repr

/-- `to_gap_warning_item`. -/
def toGapWarningItem (publicId hostname : String) (lastMetricAt now : ℤ) : AttentionRow where
  badgeText := toString ((now - lastMetricAt) / microsPerMinute) ++ "분"
  linkHref := "/servers/" ++ publicId
  linkText := hostname
  metaText := "마지막 수집 "
  metaAt := some lastMetricAt
  eolDaysOver := none

/-- `to_os_eol_warning_item`. -/
def toOsEolWarningItem (ctx : AttentionContext) (s : FleetServer) : Option AttentionRow :=
  (resolveOsEol ctx.catalog s.osId s.osVersion s.kernelVersion ctx.today).map fun (eol, label) =>
    { badgeText := label
      linkHref := "/servers/" ++ s.publicId
      linkText := s.hostname
      metaText := label ++ " · EOL " ++ eol.iso
      metaAt := none
      eolDaysOver := some (ctx.today - eol.day) }

/-- `to_agent_unstable_item`. -/
def toAgentUnstableItem (publicId hostname : String) (restartCount : ℕ) : AttentionRow where
  badgeText := toString restartCount ++ "회"
  linkHref := "/servers/" ++ publicId
  linkText := hostname
  metaText := "신뢰도 낮음"
  metaAt := none
  eolDaysOver := none

structure AttentionSignals where
  gapWarnings : List AttentionRow
  osEolWarnings : List AttentionRow
  agentUnstable : List AttentionRow
  deriving DecidableEq, Repr

/-! ## Collecting -/

/-- The gap signal of a server. -/
def FleetServer.gapRow (ctx : AttentionContext) (s : FleetServer) : Option AttentionRow :=
  (s.gap ctx).map fun last => toGapWarningItem s.publicId s.hostname last ctx.ref

/-- The restart signal of a server: at least the threshold. -/
def FleetServer.restartRow (ctx : AttentionContext) (s : FleetServer) : Option AttentionRow :=
  (s.restartCount ctx).bind fun count =>
    if ctx.agentRestartAlertThreshold ≤ count then
      some (toAgentUnstableItem s.publicId s.hostname count)
    else none

/-- The servers in the order of `metric_gap_warnings`: the longest silent first. -/
def gapOrder (ctx : AttentionContext) (servers : List FleetServer) : List FleetServer :=
  servers.mergeSort fun a b => decide ((a.gap ctx).getD 0 ≤ (b.gap ctx).getD 0)

/-- `attention_signals` with no limit: gaps over the whole fleet, the other two over the servers
whose report rows are passed in. -/
def attentionSignals (ctx : AttentionContext) (fleet : Fleet) (rows : List FleetServer) :
    AttentionSignals where
  gapWarnings := (gapOrder ctx fleet.servers).filterMap (FleetServer.gapRow ctx)
  osEolWarnings := rows.filterMap (toOsEolWarningItem ctx)
  agentUnstable := rows.filterMap (FleetServer.restartRow ctx)

/-- `_filter_attention`. -/
def filterAttention (attention : AttentionSignals) (hostnames : List String) :
    AttentionSignals where
  gapWarnings := attention.gapWarnings.filter fun w => decide (w.linkText ∈ hostnames)
  osEolWarnings := attention.osEolWarnings.filter fun w => decide (w.linkText ∈ hostnames)
  agentUnstable := attention.agentUnstable.filter fun w => decide (w.linkText ∈ hostnames)

/-- The servers that `get_selection_report` resolves the given public ids to. -/
def Fleet.selected (fleet : Fleet) (serverPublicIds : List String) : List FleetServer :=
  fleet.servers.filter fun s => decide (s.publicId ∈ serverPublicIds)

/-- The attention of `get_selection_report`. -/
def selectionAttention (ctx : AttentionContext) (fleet : Fleet) (serverPublicIds : List String) :
    AttentionSignals :=
  let selected := fleet.selected serverPublicIds
  filterAttention (attentionSignals ctx fleet selected) (selected.map FleetServer.hostname)

/-! ## What the rows name -/

/-- A row that links to the server and is displayed under its name. -/
def AttentionRow.Of (r : AttentionRow) (s : FleetServer) : Prop :=
  r.linkHref = "/servers/" ++ s.publicId ∧ r.linkText = s.hostname

lemma FleetServer.gapRow_of {ctx : AttentionContext} {s : FleetServer} {r : AttentionRow}
    (hr : s.gapRow ctx = some r) : r.Of s := by
  obtain ⟨last, _, rfl⟩ := Option.map_eq_some_iff.mp hr
  exact ⟨rfl, rfl⟩

lemma toOsEolWarningItem_of {ctx : AttentionContext} {s : FleetServer} {r : AttentionRow}
    (hr : toOsEolWarningItem ctx s = some r) : r.Of s := by
  obtain ⟨_, _, rfl⟩ := Option.map_eq_some_iff.mp hr
  exact ⟨rfl, rfl⟩

lemma FleetServer.restartRow_of {ctx : AttentionContext} {s : FleetServer} {r : AttentionRow}
    (hr : s.restartRow ctx = some r) : r.Of s := by
  obtain ⟨count, _, hcount⟩ := Option.bind_eq_some_iff.mp hr
  split_ifs at hcount
  cases hcount
  exact ⟨rfl, rfl⟩

/-- A row links to one server. -/
lemma AttentionRow.Of.publicId_eq {r : AttentionRow} {s s' : FleetServer} (h : r.Of s)
    (h' : r.Of s') : s.publicId = s'.publicId :=
  String.append_right_inj "/servers/" |>.mp (h.1.symm.trans h'.1)

/-- Servers are known by their public ids. -/
lemma Fleet.eq_of_publicId {fleet : Fleet} {s s' : FleetServer} (hs : s ∈ fleet.servers)
    (hs' : s' ∈ fleet.servers) (h : s.publicId = s'.publicId) : s = s' :=
  List.inj_on_of_nodup_map fleet.publicIds hs hs' h

lemma Fleet.servers_nodup (fleet : Fleet) : fleet.servers.Nodup :=
  List.Nodup.of_map FleetServer.publicId fleet.publicIds

end AssessmentEngine
