import AssessmentEngine.Queries.RebootEvents

/-!
# Restart counters

`report_uptime_stats`, `report_agent_restart_stats` and `agent_restart_counts_recent` count the
distinct times of a window and take one off.  A restart is not counted where its row is the first
of the window, or where an earlier row of the window has its time; and a boot time that has drifted
within its boot is counted.  So a counter is right exactly when as many rows are counted without a
restart as restarts are missed (`restartCounters_iff`), and times that are compared exactly must
not hide any.
-/

namespace AssessmentEngine

open Table

/-! ## The queries -/

/-- The rows of a server in a window that have a value in the column. -/
def InventoryLog.recorded (log : InventoryLog) (column : InventoryColumns → Option ℤ)
    (inWindow : ℤ → Bool) (serverId : ℕ) : List InventoryHistoryRow :=
  log.rows.filter fun r =>
    r.serverId = serverId ∧ inWindow r.collectedAt ∧ (column r.columns).isSome

/-- `SELECT server_id, GREATEST(0, COUNT(DISTINCT …) - 1) … GROUP BY server_id`. -/
def restartStats (column : InventoryColumns → Option ℤ) (inWindow : ℤ → Bool) (log : InventoryLog)
    (serverIds : List ℕ) : List (ℕ × ℕ) :=
  let rows := log.rows.filter fun r =>
    r.serverId ∈ serverIds ∧ inWindow r.collectedAt ∧ (column r.columns).isSome
  (rows.map InventoryHistoryRow.serverId).dedup.map fun serverId =>
    (serverId,
      ((rows.filter fun r => r.serverId = serverId).map fun r => column r.columns).dedup.length - 1)

/-- `collected_at >= :start AND collected_at <= :end`, where `start` lies `period_days` before
`end`. -/
def inPeriod (period stop : ℤ) (t : ℤ) : Bool :=
  stop - period ≤ t ∧ t ≤ stop

/-- `collected_at >= :since`. -/
def inRecent (since : ℤ) (t : ℤ) : Bool :=
  since ≤ t

/-- `report_uptime_stats`. -/
def reportUptimeStats (log : InventoryLog) (serverIds : List ℕ) (period stop : ℤ) :
    List (ℕ × ℕ) :=
  restartStats InventoryColumns.bootTime (inPeriod period stop) log serverIds

/-- `report_agent_restart_stats`. -/
def reportAgentRestartStats (log : InventoryLog) (serverIds : List ℕ) (period stop : ℤ) :
    List (ℕ × ℕ) :=
  restartStats InventoryColumns.agentStartedAt (inPeriod period stop) log serverIds

/-- `agent_restart_counts_recent`. -/
def agentRestartCountsRecent (log : InventoryLog) (serverIds : List ℕ) (since : ℤ) :
    List (ℕ × ℕ) :=
  if serverIds = [] then []
  else restartStats InventoryColumns.agentStartedAt (inRecent since) log serverIds

/-- `.get(server_id, 0)`, the way all three results are read. -/
def countOf (stats : List (ℕ × ℕ)) (serverId : ℕ) : ℕ :=
  (stats.lookup serverId).getD 0

/-! ## Restarts -/

/-- A history with the boot that each row was taken in; boot times of one boot differ by no more
than the jitter, those of different boots by more. -/
structure BootedLog extends InventoryLog where
  boot : InventoryHistoryRow → ℕ
  boot_eq_iff : ∀ a ∈ rows, ∀ b ∈ rows, a.serverId = b.serverId →
    ∀ x ∈ a.columns.bootTime, ∀ y ∈ b.columns.bootTime,
      (boot a = boot b ↔ (x - y).natAbs ≤ bootTimeJitterTolerance)

/-- The latest row before that has a value in the column. -/
def InventoryLog.lastRecorded (log : InventoryLog) (column : InventoryColumns → Option ℤ)
    (r : InventoryHistoryRow) : Option InventoryHistoryRow :=
  latest InventoryHistoryRow.collectedAt
    ((log.before r).filter fun a => (column a.columns).isSome)

/-- The row differs from the latest row before with a value. -/
def InventoryLog.Restarted (log : InventoryLog) (column : InventoryColumns → Option ℤ)
    (differs : InventoryHistoryRow → InventoryHistoryRow → Bool) (r : InventoryHistoryRow) : Prop :=
  ∃ p ∈ log.lastRecorded column r, differs p r = true

instance (log : InventoryLog) (column : InventoryColumns → Option ℤ)
    (differs : InventoryHistoryRow → InventoryHistoryRow → Bool) (r : InventoryHistoryRow) :
    Decidable (log.Restarted column differs r) :=
  inferInstanceAs (Decidable (∃ p ∈ log.lastRecorded column r, differs p r = true))

def BootedLog.otherBoot (log : BootedLog) (p r : InventoryHistoryRow) : Bool :=
  decide (log.boot p ≠ log.boot r)

def otherAgentStart (p r : InventoryHistoryRow) : Bool :=
  decide (p.columns.agentStartedAt ≠ r.columns.agentStartedAt)

/-- The number of restarts in a window. -/
def InventoryLog.restarts (log : InventoryLog) (column : InventoryColumns → Option ℤ)
    (differs : InventoryHistoryRow → InventoryHistoryRow → Bool) (inWindow : ℤ → Bool)
    (serverId : ℕ) : ℕ :=
  (log.recorded column inWindow serverId).countP fun r => log.Restarted column differs r

/-- The reboots among the rows with a boot time are those that the markers are to say. -/
lemma restarted_iff_bootsDiffer (log : BootedLog) {r : InventoryHistoryRow} (hr : r ∈ log.rows)
    {boot : ℤ} (hboot : r.columns.bootTime = some boot) :
    log.Restarted InventoryColumns.bootTime log.otherBoot r ↔
      ∃ p ∈ log.lastBooted r, bootsDiffer r.columns.bootTime p.columns.bootTime = true := by
  refine exists_congr fun p => and_congr_right fun hp => ?_
  obtain ⟨hpbefore, hpboot⟩ := List.mem_filter.mp (latest_mem hp)
  obtain ⟨hprow, hpserver, _⟩ := InventoryLog.mem_before.mp hpbefore
  obtain ⟨prev, hprev⟩ := Option.isSome_iff_exists.mp hpboot
  have hsame := log.boot_eq_iff r hr p hprow hpserver.symm boot hboot prev hprev
  simp only [BootedLog.otherBoot, bootsDiffer, hboot, hprev, decide_eq_true_eq]
  rw [ne_comm, Ne, hsame, not_le]

/-- The counters of a server are its restarts. -/
def RestartCountersHold (log : BootedLog) (serverIds : List ℕ) (serverId : ℕ)
    (period stop since : ℤ) : Prop :=
  countOf (reportUptimeStats log.toInventoryLog serverIds period stop) serverId =
      log.restarts InventoryColumns.bootTime log.otherBoot (inPeriod period stop) serverId ∧
    countOf (reportAgentRestartStats log.toInventoryLog serverIds period stop) serverId =
      log.restarts InventoryColumns.agentStartedAt otherAgentStart (inPeriod period stop)
        serverId ∧
    countOf (agentRestartCountsRecent log.toInventoryLog serverIds since) serverId =
      log.restarts InventoryColumns.agentStartedAt otherAgentStart (inRecent since) serverId

/-! ## What the queries miss -/

section Window

variable (log : InventoryLog) (column : InventoryColumns → Option ℤ)
  (differs : InventoryHistoryRow → InventoryHistoryRow → Bool) (inWindow : ℤ → Bool) (serverId : ℕ)

/-- No earlier row of the window has the time of the row. -/
def InventoryLog.NewTime (r : InventoryHistoryRow) : Prop :=
  Fresh InventoryHistoryRow.collectedAt (fun a => column a.columns)
    (log.recorded column inWindow serverId) r

/-- The row is the first of the window. -/
def InventoryLog.Opens (r : InventoryHistoryRow) : Prop :=
  Earliest InventoryHistoryRow.collectedAt (log.recorded column inWindow serverId) r

instance (r : InventoryHistoryRow) : Decidable (log.NewTime column inWindow serverId r) :=
  inferInstanceAs (Decidable (Fresh _ _ _ _))

instance (r : InventoryHistoryRow) : Decidable (log.Opens column inWindow serverId r) :=
  inferInstanceAs (Decidable (Earliest _ _ _))

/-- A new time within the window that is of no restart. -/
def InventoryLog.Drifted (r : InventoryHistoryRow) : Prop :=
  (log.NewTime column inWindow serverId r ∧ ¬log.Opens column inWindow serverId r) ∧
    ¬log.Restarted column differs r

/-- A restart on the first row of the window, or with a time that the window has seen. -/
def InventoryLog.Hidden (r : InventoryHistoryRow) : Prop :=
  log.Restarted column differs r ∧
    ¬(log.NewTime column inWindow serverId r ∧ ¬log.Opens column inWindow serverId r)

instance (r : InventoryHistoryRow) : Decidable (log.Drifted column differs inWindow serverId r) :=
  inferInstanceAs (Decidable (_ ∧ _))

instance (r : InventoryHistoryRow) : Decidable (log.Hidden column differs inWindow serverId r) :=
  inferInstanceAs (Decidable (_ ∧ _))

variable {log column differs inWindow serverId}

lemma mem_recorded {r : InventoryHistoryRow} :
    r ∈ log.recorded column inWindow serverId ↔ r ∈ log.rows ∧ r.serverId = serverId ∧
      inWindow r.collectedAt = true ∧ (column r.columns).isSome = true := by
  simp [InventoryLog.recorded]

lemma recorded_ordered (log : InventoryLog) (column : InventoryColumns → Option ℤ)
    (inWindow : ℤ → Bool) (serverId : ℕ) :
    (log.recorded column inWindow serverId).Pairwise fun a b => a.collectedAt < b.collectedAt := by
  refine List.Pairwise.imp_of_mem (fun ha hb hlt => ?_) (log.ordered.filter _)
  exact hlt ((mem_recorded.mp ha).2.1.trans (mem_recorded.mp hb).2.1.symm)

/-- A query counts the distinct times of the window of a server, less one. -/
lemma countOf_restartStats {serverIds : List ℕ} (hserver : serverId ∈ serverIds) :
    countOf (restartStats column inWindow log serverIds) serverId =
      ((log.recorded column inWindow serverId).map fun r => column r.columns).dedup.length - 1 := by
  have hgroup : ((log.rows.filter fun r => decide (r.serverId ∈ serverIds ∧
      inWindow r.collectedAt ∧ (column r.columns).isSome)).filter fun r =>
        decide (r.serverId = serverId)) = log.recorded column inWindow serverId := by
    rw [List.filter_filter, InventoryLog.recorded]
    apply List.filter_congr
    intro r _
    rw [← Bool.decide_and, decide_eq_decide]
    constructor
    · rintro ⟨hsame, _, hrest⟩
      exact ⟨hsame, hrest⟩
    · rintro ⟨hsame, hrest⟩
      exact ⟨hsame, hsame ▸ hserver, hrest⟩
  rw [countOf, restartStats, ← hgroup]
  by_cases hmem : serverId ∈ ((log.rows.filter fun r => decide (r.serverId ∈ serverIds ∧
      inWindow r.collectedAt ∧ (column r.columns).isSome)).map
        InventoryHistoryRow.serverId).dedup
  · rw [List.lookup_graph _ hmem]
    rfl
  · -- no row of the server, and no entry
    have hempty : ((log.rows.filter fun r => decide (r.serverId ∈ serverIds ∧
        inWindow r.collectedAt ∧ (column r.columns).isSome)).filter fun r =>
          decide (r.serverId = serverId)) = [] := by
      refine List.filter_eq_nil_iff.mpr fun r hr hsame => hmem ?_
      rw [← of_decide_eq_true hsame]
      exact List.mem_dedup.mpr (List.mem_map_of_mem hr)
    rw [hempty, List.lookup_eq_none_iff.mpr fun entry hentry => ?_]
    · rfl
    · obtain ⟨k, hk, rfl⟩ := List.mem_map.mp hentry
      exact bne_iff_ne.mpr fun heq => hmem (heq ▸ hk)

/-- So it counts the rows with a new time after the first. -/
lemma countOf_restartStats_eq_countP {serverIds : List ℕ} (hserver : serverId ∈ serverIds) :
    countOf (restartStats column inWindow log serverIds) serverId =
      (log.recorded column inWindow serverId).countP fun r =>
        log.NewTime column inWindow serverId r ∧ ¬log.Opens column inWindow serverId r := by
  rw [countOf_restartStats hserver,
    length_dedup_map_sub_one (recorded_ordered log column inWindow serverId)]
  rfl

/-- It is right when as many rows are counted without a restart as restarts are missed. -/
lemma countOf_restartStats_eq_iff {serverIds : List ℕ} (hserver : serverId ∈ serverIds) :
    countOf (restartStats column inWindow log serverIds) serverId =
        log.restarts column differs inWindow serverId ↔
      ((log.recorded column inWindow serverId).countP fun r =>
          log.Drifted column differs inWindow serverId r) =
        (log.recorded column inWindow serverId).countP fun r =>
          log.Hidden column differs inWindow serverId r := by
  rw [countOf_restartStats_eq_countP hserver, InventoryLog.restarts]
  exact countP_eq_iff _ _ _

/-- Times that are compared exactly do not drift: a new time after the first row of the window
differs from the last recorded, which lies in the window too. -/
lemma not_drifted_of_exact
    (hexact : ∀ p r, column p.columns ≠ column r.columns → differs p r = true)
    (hconvex : ∀ t t' t'', inWindow t = true → inWindow t'' = true → t ≤ t' → t' ≤ t'' →
      inWindow t' = true) {r : InventoryHistoryRow}
    (hr : r ∈ log.recorded column inWindow serverId) :
    ¬log.Drifted column differs inWindow serverId r := by
  rintro ⟨⟨hnew, hopens⟩, hrestarted⟩
  obtain ⟨_, hserver, hin, _⟩ := mem_recorded.mp hr
  have hearlier : ∃ a ∈ log.recorded column inWindow serverId, a.collectedAt < r.collectedAt := by
    simpa [InventoryLog.Opens, Earliest] using hopens
  obtain ⟨a, ha, hlt⟩ := hearlier
  obtain ⟨harow, haserver, hain, hacolumn⟩ := mem_recorded.mp ha
  have habefore : a ∈ (log.before r).filter fun a => (column a.columns).isSome :=
    List.mem_filter.mpr
      ⟨InventoryLog.mem_before.mpr ⟨harow, haserver.trans hserver.symm, hlt⟩, hacolumn⟩
  cases hlast : log.lastRecorded column r with
  | none => rw [latest_eq_none_iff.mp hlast] at habefore; simp at habefore
  | some p =>
    obtain ⟨hpbefore, hpcolumn⟩ := List.mem_filter.mp (latest_mem hlast)
    obtain ⟨hprow, hpserver, hplt⟩ := InventoryLog.mem_before.mp hpbefore
    have hap : a.collectedAt ≤ p.collectedAt := List.le_of_mem_argmax habefore hlast
    have hpin : inWindow p.collectedAt = true := hconvex _ _ _ hain hin hap hplt.le
    have hp : p ∈ log.recorded column inWindow serverId :=
      mem_recorded.mpr ⟨hprow, hpserver.trans hserver, hpin, hpcolumn⟩
    exact hrestarted ⟨p, hlast, hexact p r (hnew p hp hplt)⟩

/-- As many rows are counted without a restart as restarts are missed. -/
def InventoryLog.Balanced (log : InventoryLog) (column : InventoryColumns → Option ℤ)
    (differs : InventoryHistoryRow → InventoryHistoryRow → Bool) (inWindow : ℤ → Bool)
    (serverId : ℕ) : Prop :=
  ((log.recorded column inWindow serverId).countP fun r =>
      log.Drifted column differs inWindow serverId r) =
    (log.recorded column inWindow serverId).countP fun r =>
      log.Hidden column differs inWindow serverId r

/-- No restart is missed. -/
def InventoryLog.NoneHidden (log : InventoryLog) (column : InventoryColumns → Option ℤ)
    (differs : InventoryHistoryRow → InventoryHistoryRow → Bool) (inWindow : ℤ → Bool)
    (serverId : ℕ) : Prop :=
  ∀ r ∈ log.recorded column inWindow serverId, ¬log.Hidden column differs inWindow serverId r

instance : Decidable (log.Balanced column differs inWindow serverId) :=
  inferInstanceAs (Decidable (_ = _))

instance : Decidable (log.NoneHidden column differs inWindow serverId) :=
  inferInstanceAs (Decidable (∀ r ∈ _, _))

/-- Without drift the two are the same. -/
lemma balanced_iff_noneHidden
    (hdrift : ∀ r ∈ log.recorded column inWindow serverId,
      ¬log.Drifted column differs inWindow serverId r) :
    log.Balanced column differs inWindow serverId ↔
      log.NoneHidden column differs inWindow serverId := by
  have hnone : ((log.recorded column inWindow serverId).countP fun r =>
      log.Drifted column differs inWindow serverId r) = 0 :=
    List.countP_eq_zero.mpr fun r hr => by simpa using hdrift r hr
  rw [InventoryLog.Balanced, hnone, eq_comm, List.countP_eq_zero]
  simp [InventoryLog.NoneHidden]

end Window

/-! ## When the counters hold -/

lemma inPeriod_convex (period stop : ℤ) (t t' t'' : ℤ) (ht : inPeriod period stop t = true)
    (ht'' : inPeriod period stop t'' = true) (hle : t ≤ t') (hle' : t' ≤ t'') :
    inPeriod period stop t' = true := by
  simp only [inPeriod, decide_eq_true_eq] at *
  omega

lemma inRecent_convex (since : ℤ) (t t' t'' : ℤ) (ht : inRecent since t = true)
    (_ : inRecent since t'' = true) (hle : t ≤ t') (_ : t' ≤ t'') : inRecent since t' = true := by
  simp only [inRecent, decide_eq_true_eq] at *
  omega

/-- The starts of the agent are compared exactly. -/
lemma agentStarts_balanced_iff {log : InventoryLog} {inWindow : ℤ → Bool} {serverId : ℕ}
    (hconvex : ∀ t t' t'', inWindow t = true → inWindow t'' = true → t ≤ t' → t' ≤ t'' →
      inWindow t' = true) :
    log.Balanced InventoryColumns.agentStartedAt otherAgentStart inWindow serverId ↔
      log.NoneHidden InventoryColumns.agentStartedAt otherAgentStart inWindow serverId :=
  balanced_iff_noneHidden fun _ hr =>
    not_drifted_of_exact (fun _ _ hne => decide_eq_true hne) hconvex hr

/-- The counters of a server are its restarts exactly when in the window as many drifted boot times
are counted as reboots are missed, and in both windows no restart of the agent is missed. -/
theorem restartCounters_iff (log : BootedLog) {serverIds : List ℕ} {serverId : ℕ}
    (hserver : serverId ∈ serverIds) (period stop since : ℤ) :
    RestartCountersHold log serverIds serverId period stop since ↔
      log.Balanced InventoryColumns.bootTime log.otherBoot (inPeriod period stop) serverId ∧
        log.NoneHidden InventoryColumns.agentStartedAt otherAgentStart (inPeriod period stop)
          serverId ∧
        log.NoneHidden InventoryColumns.agentStartedAt otherAgentStart (inRecent since)
          serverId := by
  have hasked : serverIds ≠ [] := List.ne_nil_of_mem hserver
  rw [RestartCountersHold, reportUptimeStats, reportAgentRestartStats, agentRestartCountsRecent,
    if_neg hasked, countOf_restartStats_eq_iff hserver, countOf_restartStats_eq_iff hserver,
    countOf_restartStats_eq_iff hserver]
  exact and_congr Iff.rfl (and_congr (agentStarts_balanced_iff (inPeriod_convex period stop))
    (agentStarts_balanced_iff (inRecent_convex since)))

/-- A server in its first boot, then rebooted within the window. -/
def rebootedServer : BootedLog where
  rows := [bootSnapshot 1700000000000000 (some 1690000000000000) (some 1690000060000000),
    bootSnapshot 1700003600000000 (some 1700003500000000) (some 1700003560000000)]
  ordered := by decide
  boot := fun r => if r.columns.bootTime = some 1690000000000000 then 0 else 1
  boot_eq_iff := by decide

theorem restartCounters_rebootedServer :
    RestartCountersHold rebootedServer [1] 1 86400000000 1700003600000000 1700000000000000 :=
  (restartCounters_iff rebootedServer (by decide) _ _ _).mpr (by decide +kernel)

/-- A server that is rebooted, and whose boot time drifts by a second after that. -/
def driftingServer : BootedLog where
  rows := [bootSnapshot 1700000000000000 (some 1690000000000000) (some 1690000060000000),
    bootSnapshot 1700003600000000 (some 1700003500000000) (some 1700003560000000),
    bootSnapshot 1700007200000000 (some 1700003501000000) (some 1700007100000000)]
  ordered := by decide
  boot := fun r => if r.columns.bootTime = some 1690000000000000 then 0 else 1
  boot_eq_iff := by decide

/-- The reboot on the first row of a window of a minute is not counted, and in a window of a day the
drifted boot time is counted as a second one. -/
theorem driftingServer_not_restartCountersHold :
    (¬RestartCountersHold driftingServer [1] 1 60000000 1700003600000000 1700003600000000 ∧
      countOf (reportUptimeStats driftingServer.toInventoryLog [1] 60000000 1700003600000000) 1 =
        0 ∧
      driftingServer.restarts InventoryColumns.bootTime driftingServer.otherBoot
        (inPeriod 60000000 1700003600000000) 1 = 1) ∧
    ¬RestartCountersHold driftingServer [1] 1 86400000000 1700007200000000 1700003600000000 ∧
      countOf (reportUptimeStats driftingServer.toInventoryLog [1] 86400000000 1700007200000000) 1 =
        2 ∧
      driftingServer.restarts InventoryColumns.bootTime driftingServer.otherBoot
        (inPeriod 86400000000 1700007200000000) 1 = 1 := by
  have hminute : countOf (reportUptimeStats driftingServer.toInventoryLog [1] 60000000
      1700003600000000) 1 = 0 := by decide +kernel
  have hmissed : driftingServer.restarts InventoryColumns.bootTime driftingServer.otherBoot
      (inPeriod 60000000 1700003600000000) 1 = 1 := by decide +kernel
  have hday : countOf (reportUptimeStats driftingServer.toInventoryLog [1] 86400000000
      1700007200000000) 1 = 2 := by decide +kernel
  have honce : driftingServer.restarts InventoryColumns.bootTime driftingServer.otherBoot
      (inPeriod 86400000000 1700007200000000) 1 = 1 := by decide +kernel
  refine ⟨⟨fun hhold => ?_, hminute, hmissed⟩, fun hhold => ?_, hday, honce⟩
  · have heq := hhold.1
    rw [hminute, hmissed] at heq
    exact absurd heq (by decide)
  · have heq := hhold.1
    rw [hday, honce] at heq
    exact absurd heq (by decide)

end AssessmentEngine
