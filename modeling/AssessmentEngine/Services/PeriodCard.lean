import AssessmentEngine.Mappers.PeriodVerdicts
import AssessmentEngine.Queries.ReportBaselines
import AssessmentEngine.Queries.ReportFigures

/-!
# The card of a server

`get_period_assessment` makes the card of two weeks from two readings of the samples: the verdicts
from the buckets of five minutes, and the errors from the samples themselves.  An OOM kill that
makes a memory short is an error on the card as well (`oomCount_pos`), so that a card that calls a
server short always shows why (`shortage_shown`).
-/

namespace AssessmentEngine

open CounterSpread Nullable RowGroups TimeSeries

/-! ## The card -/

/-- `_with_net_baseline`, of one row: a server without traffic keeps what it has. -/
def withNetBaseline (raw : ReportAggregateRow) (netIo : List NetIoBaselineRaw) :
    ReportAggregateRow :=
  match netIo.find? fun net => net.serverId = raw.serverId with
  | none => raw
  | some net =>
    { raw with
      netRxKbps := net.rxKbpsBaseline
      netTxKbps := net.txKbpsBaseline }

/-- The tables of a database, as the report query and as the metric queries read them. -/
structure CardTables where
  report : ReportTables
  metrics : MetricTables
  sameMetrics : metrics.serverMetrics = report.serverMetrics

/-- The two weeks before `stop`. -/
def cardWindow (serverId : ℕ) (stop : ℤ) : ReportWindow where
  serverIds := [serverId]
  periodDays := cardWindowDays
  start := stop - cardWindowDays * 86400000000
  stop := stop
  length := by push_cast; ring

/-- `get_period_assessment` at `stop`, when the clock of the database shows `now`. -/
def CardTables.getPeriodAssessment (db : CardTables) (serverId : ℕ) (stop now : ℤ) :
    Option PeriodAssessment :=
  let w := cardWindow serverId stop
  match db.report.reportAggregate w with
  | [] => none
  | row :: _ =>
    let raw := withNetBaseline row (db.report.reportNetIoBaseline w)
    let err := db.metrics.latestErrors serverId w.start now
    let errors := buildErrorSignals err s!"최근 {cardWindowDays}일" raw.osFamily
    some (buildPeriodAssessment (buildResourceStats raw.toReportRowRaw none) errors
      raw.diskCapacityWorstMount (some cardWindowDays))

/-! ## OOM kills -/

section Oom

variable {db : CardTables} {serverId : ℕ} {stop now : ℤ}

@[simp]
lemma withNetBaseline_oomOccurred (raw : ReportAggregateRow) (netIo : List NetIoBaselineRaw) :
    (withNetBaseline raw netIo).oomOccurred = raw.oomOccurred := by
  unfold withNetBaseline
  split <;> rfl

/-- A flag comes of two samples of the server, in the window, that show different counts. -/
lemma exists_counts_of_oom {w : ReportWindow} {s : ReportServer}
    (hoom : (db.report.reportRow w s).oomOccurred = true) :
    ∃ a ∈ db.report.serverMetrics.rows, ∃ b ∈ db.report.serverMetrics.rows,
      (a.serverId = s.id ∧ w.start ≤ a.collectedAt) ∧
        (b.serverId = s.id ∧ w.start ≤ b.collectedAt) ∧
          ∃ n m, a.memOomKill = some n ∧ b.memOomKill = some m ∧ n ≠ m := by
  have hflag : ((db.report.rsStats w).find? fun r => r.serverId = s.id).any
      RsStats.oomOccurred = true := by
    have h : (((db.report.rsStats w).find? fun r => r.serverId = s.id).map
        RsStats.oomOccurred).getD false = true := hoom
    cases hfound : (db.report.rsStats w).find? fun r => r.serverId = s.id with
    | none => simp [hfound] at h
    | some rs => simpa [hfound] using h
  rw [ReportTables.rsStats, find?_groupBy (fun _ _ => rfl)] at hflag
  split_ifs at hflag with hmem
  swap
  · simp at hflag
  obtain ⟨r, hr, hpos⟩ := List.any_eq_true.mp hflag
  obtain ⟨hr, hsid⟩ := mem_rowsWith.mp hr
  obtain ⟨k, rfl, ⟨-, hstart, -⟩, -⟩ := mem_bkt hr
  set group := rowsWith (fun a : MetricsRow => (a.serverId, timeBucket5m a.collectedAt)) k
    db.report.serverMetrics.rows
  set ca := CounterAgg.read (fun r : MetricsRow => r.collectedAt) (fun r => column r.memOomKill)
    group with hca
  have hdelta : 0 < (ca.delta).getD 0 := of_decide_eq_true hpos
  have hrises : 0 < (rises (ca.map Prod.snd)).sum := by
    unfold CounterAgg.delta at hdelta
    split_ifs at hdelta
    · simp at hdelta
    · exact hdelta
  -- a bucket begins within the window, and so its samples lie there
  have hsample : ∀ v ∈ ca.map Prod.snd, ∃ a ∈ db.report.serverMetrics.rows,
      (a.serverId = s.id ∧ w.start ≤ a.collectedAt) ∧ column a.memOomKill = some v := by
    intro v hv
    obtain ⟨p, hp, rfl⟩ := List.mem_map.mp hv
    obtain ⟨a, ha, hread⟩ := mem_read hp
    obtain ⟨ha, hkey⟩ := mem_rowsWith.mp ha
    refine ⟨a, ha, ⟨?_, ?_⟩, hread⟩
    · rw [← hsid, ← hkey]
      rfl
    · refine hstart.trans ?_
      rw [← hkey]
      exact Int.ediv_mul_le _ (by decide)
  obtain ⟨x, hx, y, hy, hne⟩ := exists_ne_of_sum_rises_pos hrises
  obtain ⟨a, ha, hwa, hreada⟩ := hsample x hx
  obtain ⟨b, hb, hwb, hreadb⟩ := hsample y hy
  obtain ⟨n, hn, rfl⟩ := Option.map_eq_some_iff.mp hreada
  obtain ⟨m, hm, rfl⟩ := Option.map_eq_some_iff.mp hreadb
  exact ⟨a, ha, b, hb, hwa, hwb, n, m, hn, hm, fun h => hne (by rw [h])⟩

/-- An OOM kill that the buckets know of is counted among the errors, unless a sample is dated later
than the count goes. -/
lemma oomCount_pos {w : ReportWindow} {s : ReportServer}
    (hoom : (db.report.reportRow w s).oomOccurred = true)
    (hpast : ∀ a ∈ db.report.serverMetrics.rows, a.serverId = s.id → a.collectedAt ≤ skewEnd now) :
    (db.metrics.latestErrors s.id w.start now).measured = true ∧
      0 < (db.metrics.latestErrors s.id w.start now).oomCount := by
  obtain ⟨a, ha, b, hb, ⟨hsida, hwa⟩, ⟨hsidb, hwb⟩, n, m, hn, hm, hne⟩ := exists_counts_of_oom hoom
  have hmem : ∀ c ∈ db.report.serverMetrics.rows, c.serverId = s.id → w.start ≤ c.collectedAt →
      c ∈ db.metrics.metricsIn [s.id] w.start now := by
    intro c hc hsid hstart
    rw [mem_metricsIn, db.sameMetrics, List.mem_singleton]
    exact ⟨hc, hsid, hstart, hpast c hc hsid⟩
  have hread : ∀ c ∈ db.report.serverMetrics.rows, c.serverId = s.id → w.start ≤ c.collectedAt →
      c.memOomKill ∈ (db.metrics.metricsIn [s.id] w.start now).map fun r => r.memOomKill :=
    fun c hc hsid hstart => List.mem_map.mpr ⟨c, hmem c hc hsid hstart, rfl⟩
  refine ⟨decide_eq_true (List.length_pos_of_mem (hmem a ha hsida hwa)), ?_⟩
  exact spread_pos_of_ne (hn ▸ hread a ha hsida hwa) (hm ▸ hread b hb hsidb hwb) hne

/-- What the card shows of a positive count. -/
lemma oom_row_of_count {err : ErrorFleetRaw} {windowLabel : String} {osFamily : Option String}
    (hmeasured : err.measured = true) (hcount : 0 < err.oomCount) :
    ∃ row ∈ (buildErrorSignals err windowLabel osFamily).map periodErrorRow,
      row.key = "mem_oom" ∧ row.badgeClass = "badge-danger" ∧
        row.sizingSignal = "메모리 자원 부족" := by
  refine ⟨_, List.mem_map_of_mem (List.mem_cons_of_mem _ List.mem_cons_self), ?_⟩
  simp [errorCounter, hmeasured, hcount, periodErrorRow]

end Oom

/-! ## Why a server is short -/

section Shown

variable {stats : ResourceStats} {errors : List ErrorSignal} {worst : Option String}
  {windowDays : Option ℤ}

/-- A resource in red with a row that is over its line. -/
def PeriodAssessment.ShowsRow (card : PeriodAssessment) : Prop :=
  ∃ r ∈ card.resources, r.verdictColor = "#dc2626" ∧
    ∃ row ∈ r.rows, row.isOver = true ∧ row.measured = true

/-- An OOM kill that is named as a shortage of memory. -/
def PeriodAssessment.ShowsOom (card : PeriodAssessment) : Prop :=
  ∃ row ∈ card.errorRows, row.key = "mem_oom" ∧ row.badgeClass = "badge-danger" ∧
    row.sizingSignal = "메모리 자원 부족"

lemma showsRow_of_flags {r : PeriodResource} {label : String}
    (hr : r ∈ [cpuResource stats, memoryResource stats errors, storageResource stats worst,
      networkResource stats]) (hcolor : r.verdictColor = "#dc2626") (hflags : r.Flags label) :
    (buildPeriodAssessment stats errors worst windowDays).ShowsRow := by
  obtain ⟨row, hrow, -, hover⟩ := hflags
  exact ⟨r, hr, hcolor, row, hrow, hover,
    (honest_resources errors worst r hr row hrow).measured hover⟩

/-- A card with the badge of a shortage shows a row that is over, or comes of an OOM kill. -/
lemma showsRow_or_oom
    (hbadge : (buildPeriodAssessment stats errors worst windowDays).classificationLabel = "자원 부족") :
    (buildPeriodAssessment stats errors worst windowDays).ShowsRow ∨ stats.oomOccurred = true := by
  rcases badge_iff.mp hbadge with hcpu | hmemory | hstorage
  · have hcolor : (cpuResource stats).verdictColor = "#dc2626" := by
      change verdictColor (assessCpu stats).status = _
      rw [verdictLabel_under_iff.mp hcpu]
      rfl
    obtain ⟨-, hflags | ⟨-, hflags⟩⟩ := cpu_short_iff.mp hcpu
    · exact Or.inl (showsRow_of_flags (by simp) hcolor hflags)
    · exact Or.inl (showsRow_of_flags (by simp) hcolor hflags)
  · have hcolor : (memoryResource stats errors).verdictColor = "#dc2626" := by
      change verdictColor (assessMemory stats).status = _
      rw [verdictLabel_under_iff.mp hmemory]
      rfl
    exact ((memory_short_iff errors).mp hmemory).imp_left
      fun hflags => showsRow_of_flags (by simp) hcolor hflags
  · have hcolor : (storageResource stats worst).verdictColor = "#dc2626" := by
      change verdictColor (assessDiskCapacity stats).status = _
      rw [verdictLabel_filling_iff.mp hstorage]
      rfl
    rcases (storage_filling_iff worst).mp hstorage with
      (hflags | ⟨-, hflags⟩) | hflags | ⟨-, hflags⟩
    all_goals exact Or.inl (showsRow_of_flags (by simp) hcolor hflags)

end Shown

/-- Why the card of a server calls it short can be seen on the card, whatever the two readings of
the samples miss of each other; but for a server whose samples are dated later than the clock of the
database. -/
theorem shortage_shown (db : CardTables) {serverId : ℕ} {stop now : ℤ} {card : PeriodAssessment}
    (hcard : db.getPeriodAssessment serverId stop now = some card)
    (hbadge : card.classificationLabel = "자원 부족") :
    card.ShowsRow ∨ card.ShowsOom ∨
      ∃ a ∈ db.report.serverMetrics.rows, a.serverId = serverId ∧ skewEnd now < a.collectedAt := by
  unfold CardTables.getPeriodAssessment at hcard
  cases hrows : db.report.reportAggregate (cardWindow serverId stop) with
  | nil => simp [hrows] at hcard
  | cons row rows =>
    simp only [hrows, Option.some_inj] at hcard
    have hrow : row ∈ db.report.reportAggregate (cardWindow serverId stop) :=
      hrows ▸ List.mem_cons_self
    obtain ⟨s, hs, rfl⟩ := List.mem_map.mp hrow
    have hsid : s.id = serverId := by
      have hs := (List.perm_insertionSort _ _).mem_iff.mp hs
      simpa [cardWindow] using (List.mem_filter.mp hs).2
    subst hcard
    rcases showsRow_or_oom hbadge with hrow | hoom
    · exact Or.inl hrow
    · refine Or.inr ?_
      by_cases hpast : ∀ a ∈ db.report.serverMetrics.rows, a.serverId = s.id →
          a.collectedAt ≤ skewEnd now
      · have hflag : (db.report.reportRow (cardWindow serverId stop) s).oomOccurred = true := by
          rw [← withNetBaseline_oomOccurred]
          exact hoom
        obtain ⟨hmeasured, hcount⟩ := oomCount_pos hflag hpast
        rw [hsid] at hmeasured hcount
        exact Or.inl (oom_row_of_count hmeasured hcount)
      · push Not at hpast
        obtain ⟨a, ha, hid, hlate⟩ := hpast
        exact Or.inr ⟨a, ha, hid.trans hsid, hlate⟩

/-- A server of which nothing is known but that its kernel has killed a process. -/
def killedServer : CardTables where
  report :=
    { observedServer with
      serverMetrics :=
        { rows := [{ MetricsRow.blank 1 0 with memOomKill := some 4 },
            { MetricsRow.blank 1 60000000 with memOomKill := some 5 }]
          sorted := by decide } }
  metrics :=
    { MetricTables.empty with
      serverMetrics :=
        { rows := [{ MetricsRow.blank 1 0 with memOomKill := some 4 },
            { MetricsRow.blank 1 60000000 with memOomKill := some 5 }]
          sorted := by decide } }
  sameMetrics := rfl

theorem shortage_shown_killedServer :
    ∃ card, killedServer.getPeriodAssessment 1 86400000000 86400000000 = some card ∧
      (card.ShowsRow ∨ card.ShowsOom ∨
        ∃ a ∈ killedServer.report.serverMetrics.rows, a.serverId = 1 ∧
          skewEnd 86400000000 < a.collectedAt) := by
  have hshort : (killedServer.getPeriodAssessment 1 86400000000 86400000000).any
      (fun card => card.classificationLabel = "자원 부족") = true := by
    decide +kernel
  obtain ⟨card, hcard, hbadge⟩ := (Option.any_eq_true _ _).mp hshort
  exact ⟨card, hcard, shortage_shown killedServer hcard (of_decide_eq_true hbadge)⟩

end AssessmentEngine
