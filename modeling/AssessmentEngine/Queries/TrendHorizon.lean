import AssessmentEngine.Queries.MetricTrend

/-!
# The end of a chart

Whether a chart depends on samples after the end of its window.  The use of file systems over
several servers is carried forward to the end of each bucket, and the last bucket may end after the
window; no other chart looks past its end (`neverLooksPast_iff`).
-/

namespace AssessmentEngine

open RowGroups TimeSeries

/-- The databases have the same inventory and the same samples from one bucket before the window of
a chart to its end. -/
def MetricTrendCtx.SameSamples (ctx : MetricTrendCtx) (db db' : MetricTables) : Prop :=
  MetricTables.AgreeOn (fun _ => true)
    (fun _ t => decide (ctx.windowStart ≤ t ∧ t ≤ ctx.stop)) db db'

/-- The chart is the same for all databases with the same samples. -/
def NeverLooksPast (metric : TrendMetric) (ctx : MetricTrendCtx) : Prop :=
  ∀ db db', ctx.SameSamples db db' → metricTrend metric db ctx = metricTrend metric db' ctx

/-- The chart carries samples forward to the end of its last bucket, which lies past the end of the
window by more than the next microsecond. -/
def Peeks (metric : TrendMetric) (ctx : MetricTrendCtx) : Prop :=
  metric = .fsUsagePercent ∧ ctx.collapse = true ∧ ctx.windowStart ≤ ctx.stop ∧
    ctx.bucket.of ctx.start ≤ ctx.bucket.of ctx.stop ∧
      ctx.stop + 1 < ctx.bucket.of ctx.stop + ctx.bucket.width

section Horizon

variable {metric : TrendMetric} {ctx : MetricTrendCtx}

lemma covered_window (ctx : MetricTrendCtx) : ctx.Covered (fun _ => true)
    (fun _ t => decide (ctx.windowStart ≤ t ∧ t ≤ ctx.stop)) :=
  ⟨fun _ _ => rfl, fun _ _ _ hfirst hlast => decide_eq_true ⟨hfirst, hlast⟩⟩

lemma mem_orderByTs {series : List TrendPoint} {p : TrendPoint} :
    p ∈ orderByTs series ↔ p ∈ series :=
  List.mem_insertionSort _

/-- A chart that does not peek is that of the samples of its window. -/
lemma metricTrend_window (hpeeks : ¬Peeks metric ctx) (db : MetricTables) :
    metricTrend metric (db.restrict (fun _ => true)
      fun _ t => decide (ctx.windowStart ≤ t ∧ t ≤ ctx.stop)) ctx = metricTrend metric db ctx := by
  by_cases hfs : metric = .fsUsagePercent ∧ ctx.collapse = true
  · obtain ⟨rfl, hcollapse⟩ := hfs
    simp only [metricTrend, trendFsUsagePercent, if_pos hcollapse]
    by_cases hwindow : ctx.windowStart ≤ ctx.stop
    · refine trendFsUsageCollapsed_restrict db (covered_window ctx) ?_
      intro ts hts sid t _ hfirst hbefore
      have hlast : ts ≤ ctx.bucket.of ctx.stop :=
        le_of_mem_generateSeries ctx.bucket.width_pos hts
      have hseries : ctx.bucket.of ctx.start ≤ ctx.bucket.of ctx.stop := by
        by_contra hgt
        have hempty := hts
        unfold fsBuckets at hempty
        have hne : ctx.bucket.of ctx.start ≤ ts := first_le_of_mem_generateSeries hempty
        omega
      have hend : ctx.bucket.of ctx.stop + ctx.bucket.width ≤ ctx.stop + 1 := by
        by_contra hlt
        exact hpeeks ⟨rfl, hcollapse, hwindow, hseries, by omega⟩
      exact decide_eq_true ⟨hfirst, by omega⟩
    · -- without samples in the window there is nothing to carry forward
      have hnone : ∀ db : MetricTables, trendFsUsageCollapsed db ctx = [] := by
        intro db
        have htargets : fsTargets db ctx = [] := by
          have hrows : db.filesystemOf ctx ctx.windowStart = [] := by
            refine List.filter_eq_nil_iff.mpr fun r _ hr => hwindow ?_
            obtain ⟨hfirst, hlast, _⟩ := of_decide_eq_true hr
            exact hfirst.trans hlast
          rw [fsTargets, hrows]
          rfl
        have hvalues : (fsBuckets ctx).filterMap (fsBucketValue db ctx) = [] := by
          apply List.filterMap_eq_nil_iff.mpr
          intro ts _
          simp [fsBucketValue, htargets]
        rw [trendFsUsageCollapsed, hvalues]
        rfl
      rw [hnone, hnone]
  · exact metricTrend_restrict db (covered_window ctx) hfs

/-! ## A chart that peeks -/

/-- A server of which nothing is known but the use of file systems. -/
def fsTables (sid : ℕ) (rows : KeyedTable FilesystemRow.key) : MetricTables :=
  { MetricTables.empty with
    serverInventory :=
      { rows := [⟨sid, "0b5e4a5e-7c5e-4d5c-9d0a-1f0e6a3f7b11", some "linux", some 4, none, none⟩]
        sorted := List.pairwise_singleton _ _ }
    publicIds_nodup := List.nodup_singleton _
    serverFilesystem := rows }

/-- A sample of a file system with a byte free. -/
def fsSample (sid : ℕ) (t used : ℤ) : FilesystemRow :=
  ⟨sid, "/", t, some "ext4", some used, some 1⟩

/-- One sample. -/
def fsOnce (sid : ℕ) (t : ℤ) : MetricTables :=
  fsTables sid ⟨[fsSample sid t 1], List.pairwise_singleton _ _⟩

/-- The same sample, and another a microsecond later. -/
def fsTwice (sid : ℕ) (t : ℤ) : MetricTables :=
  fsTables sid
    { rows := [fsSample sid t 1, fsSample sid (t + 1) 3]
      sorted := by simp [FilesystemRow.key, fsSample, Prod.Lex.toLex_lt_toLex] }

/-- At the end of the window they hold the same samples. -/
lemma sameSamples_fs (ctx : MetricTrendCtx) (sid : ℕ) :
    ctx.SameSamples (fsOnce sid ctx.stop) (fsTwice sid ctx.stop) := by
  refine ⟨fun _ _ => Iff.rfl, fun _ _ => Iff.rfl, fun _ _ => Iff.rfl, fun _ _ => Iff.rfl, ?_,
    fun _ _ => Iff.rfl, fun _ _ => Iff.rfl⟩
  intro r hr
  have hle : r.collectedAt ≤ ctx.stop := (of_decide_eq_true hr).2
  constructor
  · intro hmem
    rw [fsOnce, fsTables, List.mem_singleton] at hmem
    exact hmem ▸ List.mem_cons_self
  · intro hmem
    rcases List.mem_cons.mp hmem with rfl | hmem
    · exact List.mem_singleton_self _
    · have hlater : ctx.stop + 1 ≤ ctx.stop := by rwa [List.mem_singleton.mp hmem] at hle
      omega

lemma isDataVolume_fsSample (sid : ℕ) (t used : ℤ) : (fsSample sid t used).isDataVolume = true := by
  have hvolume : isDataVolume (some "ext4") (some "/") = true := by decide
  exact hvolume

variable {sid : ℕ}

/-- The sample at the end of the window is what both charts are about. -/
lemma fsTargets_once (hselects : ctx.Selects sid) (hwindow : ctx.windowStart ≤ ctx.stop) :
    fsTargets (fsOnce sid ctx.stop) ctx = [(sid, "/")] := by
  have hreads : ctx.Reads ctx.windowStart sid ctx.stop := ⟨hwindow, le_rfl, hselects⟩
  have hrows : (fsOnce sid ctx.stop).filesystemOf ctx ctx.windowStart =
      [fsSample sid ctx.stop 1] := by
    unfold MetricTables.filesystemOf fsOnce fsTables
    exact List.filter_cons_of_pos (decide_eq_true hreads)
  rw [fsTargets, hrows, List.filter_cons_of_pos (isDataVolume_fsSample sid ctx.stop 1)]
  rfl

lemma fsTargets_twice (hselects : ctx.Selects sid) (hwindow : ctx.windowStart ≤ ctx.stop) :
    fsTargets (fsTwice sid ctx.stop) ctx = [(sid, "/")] := by
  rw [← fsTargets_once hselects hwindow]
  unfold fsTargets MetricTables.filesystemOf
  have hsame := (sameSamples_fs ctx sid).serverFilesystem
  rw [KeyedTable.filter_congr fun r hr => ?_]
  have hreads : ctx.Reads ctx.windowStart r.serverId r.collectedAt := of_decide_eq_true hr
  exact (hsame r (decide_eq_true ⟨hreads.1, hreads.2.1⟩)).symm

/-- Where the bucket of the end goes on, the later sample is the last before its end. -/
lemma fsBucketValue_once (hselects : ctx.Selects sid) (hwindow : ctx.windowStart ≤ ctx.stop) :
    fsBucketValue (fsOnce sid ctx.stop) ctx (ctx.bucket.of ctx.stop) =
      some ⟨ctx.bucket.of ctx.stop, some 50, none, none⟩ := by
  have hbefore : ctx.stop < ctx.bucket.of ctx.stop + ctx.bucket.width :=
    lt_timeBucket_add ctx.bucket.width_pos ctx.stop
  have hlast : fsLastBefore (fsOnce sid ctx.stop) ctx (ctx.bucket.of ctx.stop) (sid, "/") =
      some (1, 1) := by
    simp [fsLastBefore, fsOnce, fsTables, fsSample, hwindow, hbefore, hselects, Table.latest]
  have hvalue : percent (column (some 1)) (column (some 2)) = some 50 := by decide +kernel
  simpa [fsBucketValue, fsTargets_once hselects hwindow, hlast] using hvalue

lemma fsBucketValue_twice (hselects : ctx.Selects sid) (hwindow : ctx.windowStart ≤ ctx.stop)
    (hend : ctx.stop + 1 < ctx.bucket.of ctx.stop + ctx.bucket.width) :
    fsBucketValue (fsTwice sid ctx.stop) ctx (ctx.bucket.of ctx.stop) =
      some ⟨ctx.bucket.of ctx.stop, some 75, none, none⟩ := by
  have hbefore : ctx.stop < ctx.bucket.of ctx.stop + ctx.bucket.width :=
    lt_timeBucket_add ctx.bucket.width_pos ctx.stop
  have hwindow' : ctx.windowStart ≤ ctx.stop + 1 := by omega
  have hlatest : Table.latest (fun sf : FilesystemRow => sf.collectedAt)
      ([fsSample sid ctx.stop 1] ++ [fsSample sid (ctx.stop + 1) 3]) =
        some (fsSample sid (ctx.stop + 1) 3) :=
    Table.latest_append fun a ha => by
      rw [List.mem_singleton.mp ha]
      exact lt_add_one ctx.stop
  have hlast : fsLastBefore (fsTwice sid ctx.stop) ctx (ctx.bucket.of ctx.stop) (sid, "/") =
      some (3, 1) := by
    simp only [fsLastBefore, fsTwice, fsTables]
    rw [List.filter_cons_of_pos (by simp [fsSample, hwindow, hbefore, hselects]),
      List.filter_cons_of_pos (by simp [fsSample, hwindow', hend, hselects]), List.filter_nil]
    exact congrArg (Option.bind · _) hlatest
  have hvalue : percent (column (some 3)) (column (some 4)) = some 75 := by decide +kernel
  simpa [fsBucketValue, fsTargets_twice hselects hwindow, hlast] using hvalue

/-- A point of the collapsed chart is the value of its bucket. -/
lemma mem_trendFsUsageCollapsed {db : MetricTables} {p : TrendPoint} :
    p ∈ trendFsUsageCollapsed db ctx ↔
      p.collectedAt ∈ fsBuckets ctx ∧ fsBucketValue db ctx p.collectedAt = some p := by
  have htime : ∀ ts, fsBucketValue db ctx ts = some p → p.collectedAt = ts := by
    intro ts hvalue
    unfold fsBucketValue at hvalue
    simp only at hvalue
    split_ifs at hvalue
    cases hvalue
    rfl
  rw [trendFsUsageCollapsed, mem_orderByTs, List.mem_filterMap]
  constructor
  · rintro ⟨ts, hts, hvalue⟩
    obtain rfl := htime ts hvalue
    exact ⟨hts, hvalue⟩
  · exact fun h => ⟨_, h⟩

lemma exists_selects (ctx : MetricTrendCtx) : ∃ sid, ctx.Selects sid := by
  unfold MetricTrendCtx.Selects
  cases ctx.serverIds.getD [] with
  | nil => exact ⟨1, Or.inl rfl⟩
  | cons sid sids => exact ⟨sid, Or.inr List.mem_cons_self⟩

lemma not_neverLooksPast (hpeeks : Peeks metric ctx) : ¬NeverLooksPast metric ctx := by
  obtain ⟨rfl, hcollapse, hwindow, hseries, hend⟩ := hpeeks
  obtain ⟨sid, hselects⟩ := exists_selects ctx
  intro hnever
  have hsame := hnever _ _ (sameSamples_fs ctx sid)
  simp only [metricTrend, trendFsUsagePercent, if_pos hcollapse] at hsame
  have hbucket : ctx.bucket.of ctx.stop ∈ fsBuckets ctx :=
    mem_generateSeries_timeBucket ctx.bucket.width_pos hseries
  have honce : (⟨ctx.bucket.of ctx.stop, some 50, none, none⟩ : TrendPoint) ∈
      trendFsUsageCollapsed (fsOnce sid ctx.stop) ctx :=
    mem_trendFsUsageCollapsed.mpr ⟨hbucket, fsBucketValue_once hselects hwindow⟩
  rw [hsame] at honce
  have htwice := (mem_trendFsUsageCollapsed.mp honce).2
  rw [fsBucketValue_twice hselects hwindow hend] at htwice
  exact absurd htwice (by simp)

end Horizon

/-- A chart never looks past its end unless it carries the use of file systems forward to the end
of a bucket that goes on. -/
theorem neverLooksPast_iff (metric : TrendMetric) (ctx : MetricTrendCtx) :
    NeverLooksPast metric ctx ↔ ¬Peeks metric ctx := by
  constructor
  · exact fun hnever hpeeks => not_neverLooksPast hpeeks hnever
  · intro hpeeks db db' hsame
    rw [← metricTrend_window hpeeks db, ← metricTrend_window hpeeks db', hsame.restrict_eq]

/-- The hour up to 22:13:20 in buckets of an hour. -/
def anchoredHour : MetricTrendCtx where
  bucket := .h1
  agg := .avg
  start := 1699996400000000
  stop := 1700000000000000
  serverIds := none
  dimension := none
  collapse := true

/-- What arrives after 22:13:20 changes the chart that was published for that time. -/
theorem anchoredHour_looksPast :
    ¬NeverLooksPast .fsUsagePercent anchoredHour ∧
      metricTrend .fsUsagePercent (fsOnce 1 1700000000000000) anchoredHour =
        [⟨1699999200000000, some 50, none, none⟩] ∧
      metricTrend .fsUsagePercent (fsTwice 1 1700000000000000) anchoredHour =
        [⟨1699999200000000, some 75, none, none⟩] := by
  have honce : metricTrend .fsUsagePercent (fsOnce 1 1700000000000000) anchoredHour =
      [⟨1699999200000000, some 50, none, none⟩] := by decide +kernel
  have htwice : metricTrend .fsUsagePercent (fsTwice 1 1700000000000000) anchoredHour =
      [⟨1699999200000000, some 75, none, none⟩] := by decide +kernel
  refine ⟨fun hnever => ?_, honce, htwice⟩
  have hsame := hnever _ _ (sameSamples_fs anchoredHour 1)
  rw [show anchoredHour.stop = 1700000000000000 from rfl, honce, htwice] at hsame
  exact absurd hsame (by decide)

end AssessmentEngine
