import AssessmentEngine.Consumer.NaturalKeys

/-!
# CPU time of the host and of its cores

`to_metric_create` reads the points of `cpu.time` twice: for the host it adds up the points of a
state, for a core it looks for the first point with the core's label and a state.  Where each point
carries the label of its core and none is given twice, the numbers that are added up are those in
the rows of the cores (`hostSeconds_eq_sum_cores`).
-/

namespace AssessmentEngine

open Table Dataclass

/-! ## States -/

/-- The states of CPU time that are stored. -/
inductive CpuState
  | user
  | nice
  | system
  | idle
  | iowait
  | irq
  | softirq
  | steal
  deriving DecidableEq, Repr

def CpuState.text : CpuState → String
  | user => "user"
  | nice => "nice"
  | system => "system"
  | idle => "idle"
  | iowait => "iowait"
  | irq => "irq"
  | softirq => "softirq"
  | steal => "steal"

/-- The column of a state in the row of the host. -/
def ScalarMetrics.seconds (s : ScalarMetrics) : CpuState → Option Double
  | .user => s.cpuUserS
  | .nice => s.cpuNiceS
  | .system => s.cpuSystemS
  | .idle => s.cpuIdleS
  | .iowait => s.cpuIowaitS
  | .irq => s.cpuIrqS
  | .softirq => s.cpuSoftirqS
  | .steal => s.cpuStealS

/-- The column of a state in the row of a core. -/
def CpuCoreEntry.seconds (e : CpuCoreEntry) : CpuState → Option Double
  | .user => e.cpuUserS
  | .nice => e.cpuNiceS
  | .system => e.cpuSystemS
  | .idle => e.cpuIdleS
  | .iowait => e.cpuIowaitS
  | .irq => e.cpuIrqS
  | .softirq => e.cpuSoftirqS
  | .steal => e.cpuStealS

lemma scalars_seconds {data : MetricsInput} {scalars : ScalarMetrics}
    (h : toScalarMetrics data = some scalars) (state : CpuState) :
    scalars.seconds state = stateSum (pointsOf data.systemCpu "cpu.time") state.text := by
  unfold toScalarMetrics at h
  -- the integer columns are read first
  iterate 18 obtain ⟨_, -, h⟩ := Option.bind_eq_some_iff.mp h
  rw [Option.pure_def, Option.some_inj] at h
  subst h
  cases state <;> rfl

lemma cpuCoreEntry_seconds {u : Unicode} {cpuTime : List Datapoint} {c : String} {e : CpuCoreEntry}
    (h : cpuCoreEntry u cpuTime c = some e) (state : CpuState) :
    e.seconds state = matchValue cpuTime [("cpu", some c), ("state", some state.text)] := by
  simp only [cpuCoreEntry, Option.bind_eq_bind, Option.bind_eq_some_iff, Option.pure_def,
    Option.some_inj] at h
  obtain ⟨_, _, rfl⟩ := h
  cases state <;> rfl

/-! ## Points of cores -/

/-- Each point carries the label of a core, labels stand for different numbers, and a core has at
most one point for a state. -/
structure OnePointPerCore (u : Unicode) (cpuTime : List Datapoint) : Prop where
  labelled : ∀ p ∈ cpuTime, ∃ c, p.attrKey "cpu" = some c ∧ isDigits u c = true
  apart : CoresApart u cpuTime
  once : cpuTime.Pairwise fun p q =>
    ¬(p.attrKey "cpu" = q.attrKey "cpu" ∧ p.attrKey "state" = q.attrKey "state")

/-- The points of a state. -/
def statePoints (cpuTime : List Datapoint) (state : String) : List Datapoint :=
  cpuTime.filter fun p => p.matches [("state", some state)]

lemma mem_statePoints {cpuTime : List Datapoint} {state : String} {p : Datapoint} :
    p ∈ statePoints cpuTime state ↔ p ∈ cpuTime ∧ p.attrKey "state" = some state := by
  simp [statePoints, Datapoint.matches]

/-- What is read for a core is the value of its point among those of the state. -/
lemma matchValue_core (cpuTime : List Datapoint) (c state : String) :
    matchValue cpuTime [("cpu", some c), ("state", some state)] =
      (findId (fun p => p.attrKey "cpu") (some c) (statePoints cpuTime state)).bind
        Datapoint.value := by
  have hfind : (cpuTime.find? fun p => p.matches [("cpu", some c), ("state", some state)]) =
      findId (fun p => p.attrKey "cpu") (some c) (statePoints cpuTime state) := by
    rw [findId, statePoints, List.find?_filter]
    refine congrArg (fun q => cpuTime.find? q) (funext fun p => ?_)
    simp [Datapoint.matches, Bool.and_comm]
  rw [matchValue, hfind]

/-- Within a state the points have different labels. -/
lemma OnePointPerCore.nodup_labels {u : Unicode} {cpuTime : List Datapoint}
    (h : OnePointPerCore u cpuTime) (state : String) :
    ((statePoints cpuTime state).map fun p => p.attrKey "cpu").Nodup := by
  rw [List.Nodup, List.pairwise_map]
  refine (h.once.filter _).imp_of_mem fun {p q} hp hq hne hlabel => hne ⟨hlabel, ?_⟩
  rw [(mem_statePoints.mp hp).2, (mem_statePoints.mp hq).2]

/-- The rows of the cores hold the numbers that are added up for the host. -/
lemma OnePointPerCore.seconds_perm {u : Unicode} {cpuTime : List Datapoint}
    (h : OnePointPerCore u cpuTime) {es : List CpuCoreEntry}
    (hes : buildCpuCores u cpuTime = some es) (state : CpuState) :
    (es.filterMap fun e => e.seconds state).Perm (stateValues cpuTime state.text) := by
  set points := statePoints cpuTime state.text with hpoints
  set labels := (coreLabels u cpuTime).map some with hlabels
  have hnodup : labels.Nodup :=
    ((nodup_distinctKeys _ _).filter _).map (Option.some_injective String)
  have hall : ∀ p ∈ points, p.attrKey "cpu" ∈ labels := by
    intro p hp
    have hmem := (mem_statePoints.mp hp).1
    obtain ⟨c, hc, hdigits⟩ := h.labelled p hmem
    exact List.mem_map.mpr ⟨c, mem_coreLabels.mpr ⟨⟨p, hmem, hc⟩, hdigits⟩, hc.symm⟩
  have hfound :
      (labels.filterMap fun i => findId (fun p => p.attrKey "cpu") i points).Perm points :=
    filterMap_findId_perm (h.nodup_labels state.text) hnodup hall
  have hread : es.map (fun e => e.seconds state) = (coreLabels u cpuTime).map fun c =>
      (findId (fun p => p.attrKey "cpu") (some c) points).bind Datapoint.value :=
    map_eq_of_mapM (fun c e he => (cpuCoreEntry_seconds he state).trans
      (matchValue_core cpuTime c state.text)) hes
  have hvalues : (es.filterMap fun e => e.seconds state) =
      (labels.filterMap fun i => findId (fun p => p.attrKey "cpu") i points).filterMap
        Datapoint.value := by
    calc (es.filterMap fun e => e.seconds state)
        = (es.map fun e => e.seconds state).filterMap id := by rw [List.filterMap_map]; rfl
      _ = ((coreLabels u cpuTime).map fun c =>
            (findId (fun p => p.attrKey "cpu") (some c) points).bind Datapoint.value).filterMap
              id := by rw [hread]
      _ = _ := by
          rw [hlabels, List.filterMap_map, List.filterMap_map, List.filterMap_filterMap]
          rfl
  rw [hvalues]
  exact hfound.filterMap Datapoint.value

/-! ## What is stored -/

/-- What the table has of the server at the time of the message, once its rows are written. -/
def storedEntries (serverId : ℕ) (create : ServerMetricCreate) (db : SeriesTables) (k : Series) :
    List k.Entry :=
  ((written serverId create db k).filter fun r =>
    r.serverId = serverId ∧ r.collectedAt = create.collectedAt).map Stamped.entry

/-- `sum` of what was measured, if anything was. -/
def sumMeasured (values : List Double) : Option Double :=
  if values = [] then none else some (Double.sum values)

lemma sumMeasured_eq_none_iff {values : List Double} : sumMeasured values = none ↔ values = [] := by
  unfold sumMeasured
  split_ifs with hnil
  · exact iff_of_true rfl hnil
  · exact iff_of_false nofun hnil

lemma storedEntries_eq {serverId : ℕ} {create : ServerMetricCreate} {db : SeriesTables} {k : Series}
    (hfresh : ∀ r ∈ db k, ¬(r.serverId = serverId ∧ r.collectedAt = create.collectedAt))
    (hkeys : ((create.entries k).map k.entryKey).Nodup) :
    storedEntries serverId create db k = create.entries k := by
  have hrows := written_eq_append hfresh ((nodup_key_seriesRows_iff serverId create k).mpr hkeys)
  have hold : (db k).filter (fun r => decide (r.serverId = serverId ∧
      r.collectedAt = create.collectedAt)) = [] :=
    List.filter_eq_nil_iff.mpr fun r hr hmatch => hfresh r hr (of_decide_eq_true hmatch)
  have hnew : (seriesRows serverId create k).filter (fun r => decide (r.serverId = serverId ∧
      r.collectedAt = create.collectedAt)) = seriesRows serverId create k :=
    List.filter_eq_self.mpr fun r hr => decide_eq_true (mem_seriesRows hr)
  rw [storedEntries, hrows, List.filter_append, hold, hnew, List.nil_append, seriesRows,
    List.map_map]
  exact List.map_id _

/-- In tables that have nothing yet of the server at the time of the message, the seconds of the
host are for each state the sum of the seconds of its cores, and there are none exactly if no core
has any.  Sums of doubles depend on the order of the numbers, which here is that of the message. -/
theorem hostSeconds_eq_sum_cores {u : Unicode} {data : MetricsInput} {create : ServerMetricCreate}
    (h : toMetricCreate u data = some create)
    (hpoints : OnePointPerCore u (pointsOf data.systemCpu "cpu.time")) (serverId : ℕ)
    (db : SeriesTables)
    (hfresh : ∀ k, ∀ r ∈ db k, ¬(r.serverId = serverId ∧ r.collectedAt = create.collectedAt)) :
    ∃ host : ScalarMetrics, storedEntries serverId create db .serverMetrics = [host] ∧
      ∃ cores : List CpuCoreEntry, storedEntries serverId create db .serverCpuCore = cores ∧
        ∀ state,
          (host.seconds state = none ↔ ∀ e ∈ cores, e.seconds state = none) ∧
          ∃ values, values.Perm (cores.filterMap fun e => e.seconds state) ∧
            host.seconds state = sumMeasured values := by
  have hbuilt := builtFrom_of_toMetricCreate h
  have hhost : storedEntries serverId create db .serverMetrics = [create.scalars] :=
    storedEntries_eq (hfresh .serverMetrics) (List.nodup_singleton _)
  have hcores : storedEntries serverId create db .serverCpuCore = create.cpuPerCore :=
    storedEntries_eq (hfresh .serverCpuCore) (hbuilt.nodup_coreKey_iff.mpr hpoints.apart)
  refine ⟨create.scalars, hhost, create.cpuPerCore, hcores, fun state => ?_⟩
  have hperm := hpoints.seconds_perm hbuilt.cpuPerCore state
  have hsum : create.scalars.seconds state =
      sumMeasured (stateValues (pointsOf data.systemCpu "cpu.time") state.text) :=
    scalars_seconds hbuilt.scalars state
  refine ⟨?_, _, hperm.symm, hsum⟩
  rw [hsum, sumMeasured_eq_none_iff, ← List.filterMap_eq_nil_iff, ← List.length_eq_zero_iff,
    ← hperm.length_eq, List.length_eq_zero_iff]

theorem hostSeconds_eq_sum_cores_twoCores :
    ∃ create, toMetricCreate asciiText
        (hostMetrics [userPoint "0" 5, userPoint "1" 7] [kernelErrors 3]) = some create ∧
      ∃ host : ScalarMetrics, storedEntries 1 create SeriesTables.empty .serverMetrics = [host] ∧
        ∃ cores : List CpuCoreEntry,
          storedEntries 1 create SeriesTables.empty .serverCpuCore = cores ∧
          ∀ state,
            (host.seconds state = none ↔ ∀ e ∈ cores, e.seconds state = none) ∧
            ∃ values, values.Perm (cores.filterMap fun e => e.seconds state) ∧
              host.seconds state = sumMeasured values := by
  obtain ⟨create, h⟩ : ∃ create, toMetricCreate asciiText
      (hostMetrics [userPoint "0" 5, userPoint "1" 7] [kernelErrors 3]) = some create :=
    Option.isSome_iff_exists.mp (by decide +kernel)
  have hpoints : OnePointPerCore asciiText [userPoint "0" 5, userPoint "1" 7] := by
    refine ⟨fun p hp => ?_, by decide +kernel, by decide +kernel⟩
    rcases List.mem_pair.mp hp with rfl | rfl
    · exact ⟨"0", by decide +kernel, by decide +kernel⟩
    · exact ⟨"1", by decide +kernel, by decide +kernel⟩
  exact ⟨create, h, hostSeconds_eq_sum_cores h hpoints 1 SeriesTables.empty
    fun _ _ hr => absurd hr List.not_mem_nil⟩

end AssessmentEngine
