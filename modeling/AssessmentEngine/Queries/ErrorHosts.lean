import AssessmentEngine.Queries.ErrorCounts

/-!
# Error flags

What the counts of `latest_errors` and the lists of `fleet_error_hosts` say.  The spread of a
counter is what it counted as long as it does not fall, as it does when the server is restarted
(`errorCountsRight_of_neverFalls`).  After a fall the two agree only where the peaks happen to make
up for the first and the lowest value (`errorCountsRight_iff_balanced`).  The fleet's queries and
those of one server share the counters, but not the gauge of corrupted memory
(`errorFlagsAgree_iff`).
-/

namespace AssessmentEngine

open CounterSpread Nullable RowGroups

/-! ## The servers of a fleet -/

section Fleet

variable {db : MetricTables} {serverIds : List ℕ} {sid : ℕ} {since now : ℤ}

lemma positive_iff (d : Option ℤ) : positive d = true ↔ 0 < d.getD 0 := by
  cases d <;> simp [positive]

/-- A sample of the window shows corrupted memory. -/
def MetricTables.EverCorrupted (db : MetricTables) (sid : ℕ) (since now : ℤ) : Prop :=
  ∃ r ∈ db.metricsIn [sid] since now, positive r.memHardwareCorruptedBytes = true

instance (db : MetricTables) (sid : ℕ) (since now : ℤ) :
    Decidable (db.EverCorrupted sid since now) :=
  inferInstanceAs (Decidable (∃ r ∈ _, _))

/-- What the fleet's samples say of a server is what its own do. -/
lemma rowsWith_metricsIn : rowsWith (fun r : MetricsRow => r.serverId) sid
    (db.metricsIn serverIds since now) =
      if sid ∈ serverIds then db.metricsIn [sid] since now else [] := by
  unfold rowsWith MetricTables.metricsIn
  rw [List.filter_filter]
  split_ifs with hsid
  · apply List.filter_congr
    intro r _
    by_cases hr : r.serverId = sid <;> simp [hr, hsid]
  · apply List.filter_eq_nil_iff.mpr
    intro r _ hr
    simp only [Bool.and_eq_true, decide_eq_true_eq] at hr
    exact hsid (hr.1 ▸ hr.2.1)

lemma rowsWith_netIoIn (iface : String) :
    rowsWith (fun r : NetIoRow => (r.serverId, r.ifaceId)) (sid, iface)
      (db.netIoIn serverIds since now) =
        if sid ∈ serverIds then rowsWith NetIoRow.ifaceId iface (db.netIoIn [sid] since now)
        else [] :=
  rowsWith_part db.serverNetIo.rows sid iface

lemma rowsWith_diskErrorsIn (counter : String × String × String × String) :
    rowsWith (fun r : DiskErrorRow => (r.serverId, r.counter)) (sid, counter)
      (db.diskErrorsIn serverIds since now) =
        if sid ∈ serverIds then
          rowsWith DiskErrorRow.counter counter (db.diskErrorsIn [sid] since now)
        else [] :=
  rowsWith_part db.serverDiskError.rows sid counter

/-- What the subquery over `server_metrics` has for a server. -/
def hostErrorsOf (sid : ℕ) (group : List MetricsRow) : HostErrors :=
  ⟨sid, (spread (group.map fun r => r.cpuMce)).getD 0,
    (spread (group.map fun r => r.memOomKill)).getD 0,
    (maxSome (group.map fun r => r.memHardwareCorruptedBytes)).getD 0⟩

/-- A test that nothing fails is met by the entry of a server when its samples meet it. -/
lemma exists_mem_hostErrors {p : HostErrors → Prop} (hempty : ∀ k, ¬p (hostErrorsOf k [])) :
    (∃ x ∈ hostErrors (db.metricsIn serverIds since now), p x ∧ x.serverId = sid) ↔
      sid ∈ serverIds ∧ p (hostErrorsOf sid (db.metricsIn [sid] since now)) := by
  have hgroups : (∃ x ∈ hostErrors (db.metricsIn serverIds since now), p x ∧ x.serverId = sid) ↔
      ∃ k, p (hostErrorsOf k (rowsWith (fun r : MetricsRow => r.serverId) k
        (db.metricsIn serverIds since now))) ∧ k = sid :=
    exists_mem_groupBy (f := hostErrorsOf) fun k h => hempty k h.1
  rw [hgroups]
  constructor
  · rintro ⟨k, hp, rfl⟩
    rw [rowsWith_metricsIn] at hp
    split_ifs at hp with hk
    · exact ⟨hk, hp⟩
    · exact absurd hp (hempty k)
  · rintro ⟨hsid, hp⟩
    exact ⟨sid, by rwa [rowsWith_metricsIn, if_pos hsid], rfl⟩

lemma hostErrorsOf_mceD : (hostErrorsOf sid (db.metricsIn [sid] since now)).mceD =
    (db.latestErrors sid since now).count .mce := rfl

lemma hostErrorsOf_oomD : (hostErrorsOf sid (db.metricsIn [sid] since now)).oomD =
    (db.latestErrors sid since now).count .oom := rfl

lemma hostErrorsOf_corrupted :
    0 < (hostErrorsOf sid (db.metricsIn [sid] since now)).corrupted ↔
      db.EverCorrupted sid since now := by
  have hup : ∀ x y : ℤ, x ≤ y → decide (0 < x) = true → decide (0 < y) = true :=
    fun x y hle hx => decide_eq_true ((of_decide_eq_true hx).trans_le hle)
  rw [hostErrorsOf, ← positive_iff, positive, maxSome_any_iff hup]
  simp only [List.mem_map]
  constructor
  · rintro ⟨_, ⟨r, hr, rfl⟩, hpos⟩
    exact ⟨r, hr, hpos⟩
  · rintro ⟨r, hr, hpos⟩
    exact ⟨_, ⟨r, hr, rfl⟩, hpos⟩

/-- An interface has errors when it has some among the samples of its server. -/
lemma exists_iface_pos_iff :
    (∃ k : ℕ × String, positive (spread ((rowsWith (fun r : NetIoRow => (r.serverId, r.ifaceId)) k
      (db.netIoIn serverIds since now)).map fun r => some r.errors)) = true ∧ k.1 = sid) ↔
      sid ∈ serverIds ∧ 0 < (db.latestErrors sid since now).count .net := by
  have hcounters : 0 < (db.latestErrors sid since now).count .net ↔ ∃ iface, 0 <
      (ifaceReadings (rowsWith NetIoRow.ifaceId iface (db.netIoIn [sid] since now))).spread := by
    rw [count_pos_iff]
    exact exists_mem_groupBy fun _ h => absurd h (by decide)
  rw [hcounters]
  constructor
  · rintro ⟨⟨k, iface⟩, hpos, rfl⟩
    rw [rowsWith_netIoIn] at hpos
    split_ifs at hpos with hk
    · exact ⟨hk, iface, (positive_iff _).mp hpos⟩
    · exact absurd hpos (by decide)
  · rintro ⟨hsid, iface, hpos⟩
    refine ⟨(sid, iface), ?_, rfl⟩
    rw [rowsWith_netIoIn, if_pos hsid]
    exact (positive_iff _).mpr hpos

/-- A server has network errors in the fleet's queries when it has some of its own. -/
lemma exists_mem_hostNetErrors :
    (∃ x ∈ hostNetErrors (db.netIoIn serverIds since now), positive x.2 = true ∧ x.1 = sid) ↔
      sid ∈ serverIds ∧ 0 < (db.latestErrors sid since now).count .net := by
  rw [← exists_iface_pos_iff]
  let ifaces := groupBy (fun r : NetIoRow => (r.serverId, r.ifaceId))
    (fun k group => (k.1, spread (group.map fun r => some r.errors)))
    (db.netIoIn serverIds since now)
  have houter : (∃ x ∈ hostNetErrors (db.netIoIn serverIds since now),
      positive x.2 = true ∧ x.1 = sid) ↔
        ∃ k, positive (sumSome ((rowsWith Prod.fst k ifaces).map Prod.snd)) = true ∧ k = sid :=
    exists_mem_groupBy fun _ h => Bool.false_ne_true h.1
  have hinner : (∃ x ∈ ifaces, positive x.2 = true ∧ x.1 = sid) ↔
      ∃ k : ℕ × String, positive (spread ((rowsWith (fun r : NetIoRow => (r.serverId, r.ifaceId)) k
        (db.netIoIn serverIds since now)).map fun r => some r.errors)) = true ∧ k.1 = sid :=
    exists_mem_groupBy fun _ h => Bool.false_ne_true h.1
  have hnonneg : ∀ v ∈ ((rowsWith Prod.fst sid ifaces).map Prod.snd).map (fun v => v.getD 0),
      0 ≤ v := by
    intro v hv
    simp only [List.mem_map] at hv
    obtain ⟨_, ⟨x, hx, rfl⟩, rfl⟩ := hv
    obtain ⟨k, -, rfl⟩ := mem_groupBy.mp (mem_rowsWith.mp hx).1
    exact spread_getD_nonneg _
  rw [houter, ← hinner]
  simp only [exists_eq_right]
  rw [positive_iff, sumSome_getD, sum_pos_iff_of_nonneg hnonneg]
  simp only [List.mem_map, mem_rowsWith, positive_iff]
  constructor
  · rintro ⟨_, ⟨_, ⟨x, ⟨hx, hsid⟩, rfl⟩, rfl⟩, hpos⟩
    exact ⟨x, hx, hpos, hsid⟩
  · rintro ⟨x, hx, hpos, hsid⟩
    exact ⟨_, ⟨_, ⟨x, ⟨hx, hsid⟩, rfl⟩, rfl⟩, hpos⟩

/-- The same of disk errors. -/
lemma exists_mem_hostDiskErrors :
    (∃ x ∈ hostDiskErrors (db.diskErrorsIn serverIds since now),
      positive x.2 = true ∧ x.1 = sid) ↔
      sid ∈ serverIds ∧ 0 < (db.latestErrors sid since now).count .disk := by
  have hgroups : (∃ x ∈ hostDiskErrors (db.diskErrorsIn serverIds since now),
      positive x.2 = true ∧ x.1 = sid) ↔ ∃ k : ℕ × String × String × String × String,
        positive (spread ((rowsWith (fun r : DiskErrorRow => (r.serverId, r.counter)) k
          (db.diskErrorsIn serverIds since now)).map fun r => r.count)) = true ∧ k.1 = sid :=
    exists_mem_groupBy fun _ h => Bool.false_ne_true h.1
  have hcounters : 0 < (db.latestErrors sid since now).count .disk ↔ ∃ counter, 0 <
      (diskErrorReadings (rowsWith DiskErrorRow.counter counter
        (db.diskErrorsIn [sid] since now))).spread := by
    rw [count_pos_iff]
    exact exists_mem_groupBy fun _ h => absurd h (by decide)
  rw [hgroups, hcounters]
  constructor
  · rintro ⟨⟨k, counter⟩, hpos, rfl⟩
    rw [rowsWith_diskErrorsIn] at hpos
    split_ifs at hpos with hk
    · exact ⟨hk, counter, (positive_iff _).mp hpos⟩
    · exact absurd hpos (by decide)
  · rintro ⟨hsid, counter, hpos⟩
    refine ⟨(sid, counter), ?_, rfl⟩
    rw [rowsWith_diskErrorsIn, if_pos hsid]
    exact (positive_iff _).mpr hpos

/-- A server is listed when one of its counters has a spread or a sample shows corrupted memory. -/
lemma mem_fleetErrorHosts_iff : sid ∈ db.fleetErrorHosts serverIds since now ↔
    sid ∈ serverIds ∧ ((∃ axis, 0 < (db.latestErrors sid since now).count axis) ∨
      db.EverCorrupted sid since now) := by
  by_cases hids : serverIds = []
  · simp [MetricTables.fleetErrorHosts, hids]
  have hmetrics : (∃ x ∈ hostErrors (db.metricsIn serverIds since now),
      (0 < x.mceD ∨ 0 < x.oomD ∨ 0 < x.corrupted) ∧ x.serverId = sid) ↔
        sid ∈ serverIds ∧ (0 < (db.latestErrors sid since now).count .mce ∨
          0 < (db.latestErrors sid since now).count .oom ∨ db.EverCorrupted sid since now) := by
    rw [exists_mem_hostErrors fun _ => by simp [hostErrorsOf, spread, maxSome], hostErrorsOf_mceD,
      hostErrorsOf_oomD, hostErrorsOf_corrupted]
  rw [MetricTables.fleetErrorHosts, if_neg hids]
  simp only [Finset.mem_union, List.mem_toFinset, List.mem_map, List.mem_filter,
    decide_eq_true_eq, and_assoc]
  rw [hmetrics, exists_mem_hostNetErrors, exists_mem_hostDiskErrors, ← and_or_left, ← and_or_left]
  apply and_congr_right
  intro _
  constructor
  · rintro ((hpos | hpos | hcorrupted) | hpos | hpos)
    · exact Or.inl ⟨.mce, hpos⟩
    · exact Or.inl ⟨.oom, hpos⟩
    · exact Or.inr hcorrupted
    · exact Or.inl ⟨.net, hpos⟩
    · exact Or.inl ⟨.disk, hpos⟩
  · rintro (⟨axis, hpos⟩ | hcorrupted)
    · cases axis with
      | mce => exact Or.inl (Or.inl hpos)
      | oom => exact Or.inl (Or.inr (Or.inl hpos))
      | net => exact Or.inr (Or.inl hpos)
      | disk => exact Or.inr (Or.inr hpos)
    · exact Or.inl (Or.inr (Or.inr hcorrupted))

end Fleet

/-! ## Counts of increments -/

/-- No counter of the server rose, nor counted after a restart. -/
def MetricTables.NothingRose (db : MetricTables) (sid : ℕ) (since now : ℤ) : Prop :=
  ∀ axis, ∀ c ∈ db.counters sid since now axis, c.NeverRose

/-- The count on each axis is what its counters counted; a server on which nothing rose shows no
signal and is not listed because of its counters. -/
structure ErrorCountsRight (db : MetricTables) (sid : ℕ) (since now : ℤ) : Prop where
  counts : ∀ axis, (db.latestErrors sid since now).count axis =
    ((db.counters sid since now axis).map Readings.counted).sum
  signals : db.NothingRose sid since now → ∀ windowLabel osFamily,
    ∀ s ∈ buildErrorSignals (db.latestErrors sid since now) windowLabel osFamily,
      s.key ≠ "mem_corrupted" → s.state ≠ .occurred
  hosts : db.NothingRose sid since now → ∀ serverIds,
    sid ∈ db.fleetErrorHosts serverIds since now → db.EverCorrupted sid since now

section Increments

variable {db : MetricTables} {sid : ℕ} {since now : ℤ}

/-- The counts are right when the counters are balanced. -/
lemma counts_eq_iff : (∀ axis, (db.latestErrors sid since now).count axis =
    ((db.counters sid since now axis).map Readings.counted).sum) ↔
      ∀ axis, Balanced (db.counters sid since now axis) :=
  forall_congr' fun axis => by rw [count_latestErrors, sum_spread_eq_iff]

/-- Counters that are balanced and never rose count nothing. -/
lemma not_count_pos (hbalanced : ∀ axis, Balanced (db.counters sid since now axis))
    (hnever : db.NothingRose sid since now) (axis : ErrorAxis) :
    ¬0 < (db.latestErrors sid since now).count axis := by
  rw [count_pos_iff]
  rintro ⟨c, hc, hpos⟩
  exact spread_nonpos_of_neverRose (hbalanced axis) (hnever axis) c hc hpos

/-- A counting signal tells of errors when its count is positive. -/
lemma errorCounter_occurred {key label : String} {count : ℤ} {measured : Bool} {detail : String}
    {lastAt : Option ℤ} {context : Option String} {windowLabel : String}
    (h : (errorCounter key label count measured detail lastAt context windowLabel).state =
      .occurred) : 0 < count := by
  unfold errorCounter at h
  split_ifs at h with _ hpos
  exact hpos

/-- Every signal but the gauge's tells of errors only where an axis counts some. -/
lemma exists_count_pos_of_occurred {err : ErrorFleetRaw} {windowLabel : String}
    {osFamily : Option String} {s : ErrorSignal}
    (hs : s ∈ buildErrorSignals err windowLabel osFamily) (hkey : s.key ≠ "mem_corrupted")
    (hstate : s.state = .occurred) : ∃ axis, 0 < err.count axis := by
  simp only [buildErrorSignals, List.mem_cons, List.not_mem_nil, or_false] at hs
  rcases hs with rfl | rfl | rfl | rfl | rfl
  · exact ⟨.mce, errorCounter_occurred hstate⟩
  · exact ⟨.oom, errorCounter_occurred hstate⟩
  · exact ⟨.net, errorCounter_occurred hstate⟩
  · exact ⟨.disk, errorCounter_occurred hstate⟩
  · refine absurd ?_ hkey
    unfold corruptedSignal
    split_ifs
    · rfl
    · cases err.corruptedBytes with
      | none => rfl
      | some bytes =>
        simp only
        split_ifs <;> rfl

/-- The counts are increments exactly when the counters of each axis are balanced. -/
lemma errorCountsRight_iff_balanced : ErrorCountsRight db sid since now ↔
    ∀ axis, Balanced (db.counters sid since now axis) := by
  constructor
  · exact fun h => counts_eq_iff.mp h.counts
  · intro hbalanced
    refine ⟨counts_eq_iff.mpr hbalanced, ?_, ?_⟩
    · intro hnever windowLabel osFamily s hs hkey hstate
      obtain ⟨axis, hpos⟩ := exists_count_pos_of_occurred hs hkey hstate
      exact not_count_pos hbalanced hnever axis hpos
    · intro hnever serverIds hlisted
      rcases (mem_fleetErrorHosts_iff.mp hlisted).2 with ⟨axis, hpos⟩ | hcorrupted
      · exact absurd hpos (not_count_pos hbalanced hnever axis)
      · exact hcorrupted

end Increments

/-! ## Windows without a restart -/

/-- In the window no counter of the server shows less than it showed before, and no interface was
sampled without its errors. -/
structure MetricTables.NeverFalls (db : MetricTables) (sid : ℕ) (since now : ℤ) : Prop where
  mce : ∀ a ∈ db.metricsIn [sid] since now, ∀ b ∈ db.metricsIn [sid] since now,
    a.collectedAt < b.collectedAt → ∀ x ∈ a.cpuMce, ∀ y ∈ b.cpuMce, x ≤ y
  oom : ∀ a ∈ db.metricsIn [sid] since now, ∀ b ∈ db.metricsIn [sid] since now,
    a.collectedAt < b.collectedAt → ∀ x ∈ a.memOomKill, ∀ y ∈ b.memOomKill, x ≤ y
  net : ∀ a ∈ db.netIoIn [sid] since now, ∀ b ∈ db.netIoIn [sid] since now,
    a.ifaceId = b.ifaceId → a.collectedAt < b.collectedAt → a.errors ≤ b.errors
  netMeasured : ∀ a ∈ db.netIoIn [sid] since now, a.rxErrors.isSome ∧ a.txErrors.isSome
  disk : ∀ a ∈ db.diskErrorsIn [sid] since now, ∀ b ∈ db.diskErrorsIn [sid] since now,
    a.counter = b.counter → a.collectedAt < b.collectedAt →
      ∀ x ∈ a.count, ∀ y ∈ b.count, x ≤ y

/-- A column of samples in the order of their times, which never falls. -/
lemma columnReadings_neverFalls {ρ : Type} {time : ρ → ℤ} {column : ρ → Option ℤ} {rows : List ρ}
    (hsorted : rows.Pairwise fun a b => time a < time b)
    (h : ∀ a ∈ rows, ∀ b ∈ rows, time a < time b → ∀ x ∈ column a, ∀ y ∈ column b, x ≤ y) :
    (columnReadings (rows.map column)).NeverFalls := by
  refine ⟨rfl, ?_⟩
  rw [columnReadings, List.reduceOption, List.filterMap_map, List.pairwise_filterMap]
  refine hsorted.imp_of_mem fun {a b} ha hb hlt => ?_
  exact fun x hx y hy => h a ha b hb hlt x hx y hy

/-- What is read of an interface whose errors are all measured. -/
lemma ifaceReadings_of_measured {rows : List NetIoRow}
    (h : ∀ r ∈ rows, r.rxErrors.isSome ∧ r.txErrors.isSome) :
    ifaceReadings rows = columnReadings (rows.map fun r => some r.errors) := by
  have hmeasured : rows.map NetIoRow.errorsMeasured = rows.map fun r => some r.errors := by
    refine List.map_congr_left fun r hr => ?_
    obtain ⟨hrx, htx⟩ := h r hr
    obtain ⟨rx, hrx⟩ := Option.isSome_iff_exists.mp hrx
    obtain ⟨tx, htx⟩ := Option.isSome_iff_exists.mp htx
    simp [NetIoRow.errorsMeasured, NetIoRow.errors, hrx, htx]
  rw [ifaceReadings, columnReadings, hmeasured]

lemma MetricTables.NeverFalls.counters {db : MetricTables} {sid : ℕ} {since now : ℤ}
    (h : db.NeverFalls sid since now) (axis : ErrorAxis) :
    ∀ c ∈ db.counters sid since now axis, c.NeverFalls := by
  intro c hc
  cases axis with
  | mce =>
    obtain rfl := List.mem_singleton.mp hc
    exact columnReadings_neverFalls metricsIn_pairwise h.mce
  | oom =>
    obtain rfl := List.mem_singleton.mp hc
    exact columnReadings_neverFalls metricsIn_pairwise h.oom
  | net =>
    obtain ⟨iface, -, rfl⟩ := mem_groupBy.mp hc
    rw [ifaceReadings_of_measured fun r hr => h.netMeasured r (mem_rowsWith.mp hr).1]
    refine columnReadings_neverFalls (netIoIn_pairwise iface) fun a ha b hb hlt => ?_
    obtain ⟨ha, hai⟩ := mem_rowsWith.mp ha
    obtain ⟨hb, hbi⟩ := mem_rowsWith.mp hb
    rintro x ⟨⟩ y ⟨⟩
    exact h.net a ha b hb (hai.trans hbi.symm) hlt
  | disk =>
    obtain ⟨counter, -, rfl⟩ := mem_groupBy.mp hc
    refine columnReadings_neverFalls (diskErrorsIn_pairwise counter) fun a ha b hb hlt => ?_
    obtain ⟨ha, hac⟩ := mem_rowsWith.mp ha
    obtain ⟨hb, hbc⟩ := mem_rowsWith.mp hb
    exact h.disk a ha b hb (hac.trans hbc.symm) hlt

/-- In a window in which no counter falls and no errors of an interface are missing, the counts are
the increments, and nothing is signalled or listed for a counter that did not rise. -/
theorem errorCountsRight_of_neverFalls {db : MetricTables} {sid : ℕ} {since now : ℤ}
    (h : db.NeverFalls sid since now) : ErrorCountsRight db sid since now :=
  errorCountsRight_iff_balanced.mpr fun axis => balanced_of_neverFalls (h.counters axis)

/-- A sample of the errors of an interface. -/
def frameErrors (t rx tx : ℤ) : NetIoRow where
  serverId := 1
  ifaceId := "mac:02"
  collectedAt := t
  rxBytes := none
  txBytes := none
  rxPackets := none
  txPackets := none
  rxErrors := some rx
  txErrors := some tx
  rxDropped := none
  txDropped := none

/-- A server with a machine check in a minute, whose interface lost frames before and since. -/
def checkedOnce : MetricTables :=
  { MetricTables.empty with
    serverInventory :=
      { rows := [⟨1, "0b5e4a5e-7c5e-4d5c-9d0a-1f0e6a3f7b11", some "linux", some 4, none, none⟩]
        sorted := by decide }
    publicIds_nodup := by decide
    serverMetrics :=
      { rows := [{ MetricsRow.blank 1 1700000000000000 with cpuMce := some 5 },
          { MetricsRow.blank 1 1700000060000000 with cpuMce := some 6 }]
        sorted := by decide }
    serverNetIo :=
      { rows := [frameErrors 1700000000000000 3 0, frameErrors 1700000060000000 4 2]
        sorted := by decide } }

theorem errorCountsRight_checkedOnce :
    ErrorCountsRight checkedOnce 1 1700000000000000 1700000120000000 ∧
      (checkedOnce.latestErrors 1 1700000000000000 1700000120000000).mceCount = 1 ∧
      (checkedOnce.latestErrors 1 1700000000000000 1700000120000000).netErrorCount = 3 := by
  refine ⟨errorCountsRight_of_neverFalls ⟨?_, ?_, ?_, ?_, ?_⟩, by decide +kernel, by decide +kernel⟩
  · decide +kernel
  · decide +kernel
  · decide +kernel
  · decide +kernel
  · decide +kernel

/-- A server that was restarted after five machine checks. -/
def restarted : MetricTables :=
  { MetricTables.empty with
    serverInventory :=
      { rows := [⟨1, "0b5e4a5e-7c5e-4d5c-9d0a-1f0e6a3f7b11", some "linux", some 4, none, none⟩]
        sorted := by decide }
    publicIds_nodup := by decide
    serverMetrics :=
      { rows := [{ MetricsRow.blank 1 1700000000000000 with cpuMce := some 5 },
          { MetricsRow.blank 1 1700000060000000 with cpuMce := some 0 }]
        sorted := by decide } }

/-- The five machine checks from before the window are counted, though none came since: they are
signalled, and the server is listed for them. -/
theorem restarted_not_right :
    ¬ErrorCountsRight restarted 1 1700000000000000 1700000120000000 ∧
      ((restarted.counters 1 1700000000000000 1700000120000000 .mce).map Readings.counted).sum = 0 ∧
      (restarted.latestErrors 1 1700000000000000 1700000120000000).mceCount = 5 ∧
      1 ∈ restarted.fleetErrorHosts [1] 1700000000000000 1700000120000000 := by
  refine ⟨fun h => ?_, by decide +kernel, by decide +kernel, by decide +kernel⟩
  exact absurd (h.counts .mce) (by decide +kernel)

/-! ## Flags of events -/

/-- `has_event` of `get_report`. -/
def hasEvent (err : ErrorFleetRaw) : Bool :=
  err.mceCount ≠ 0 || err.oomCount ≠ 0 || 0 < err.corruptedBytes.getD 0 ||
    err.netErrorCount ≠ 0 || err.diskErrorCount ≠ 0

/-- The servers of a fleet with a property of their errors. -/
def MetricTables.hostsWith (db : MetricTables) (serverIds : List ℕ) (since now : ℤ)
    (p : ErrorFleetRaw → Prop) [DecidablePred p] : Finset ℕ :=
  serverIds.toFinset.filter fun sid => p (db.latestErrors sid since now)

/-- The screens agree: the servers listed are those with an event, and each host counter is the
number of servers with a positive value on its axis. -/
structure ErrorFlagsAgree (db : MetricTables) (serverIds : List ℕ) (since now : ℤ) : Prop where
  listed : ∀ sid ∈ serverIds, (sid ∈ db.fleetErrorHosts serverIds since now ↔
    hasEvent (db.latestErrors sid since now) = true)
  mce : (db.fleetErrorSummary serverIds since now).mceHosts =
    (db.hostsWith serverIds since now fun err => 0 < err.mceCount).card
  oom : (db.fleetErrorSummary serverIds since now).oomHosts =
    (db.hostsWith serverIds since now fun err => 0 < err.oomCount).card
  corrupted : (db.fleetErrorSummary serverIds since now).corruptedHosts =
    (db.hostsWith serverIds since now fun err => 0 < err.corruptedBytes.getD 0).card
  net : (db.fleetErrorSummary serverIds since now).netErrorHosts =
    (db.hostsWith serverIds since now fun err => 0 < err.netErrorCount).card
  disk : (db.fleetErrorSummary serverIds since now).diskErrorHosts =
    (db.hostsWith serverIds since now fun err => 0 < err.diskErrorCount).card

/-- No sample of `server_metrics` is more than two minutes ahead. -/
def MetricTables.NoneLater (db : MetricTables) (now : ℤ) : Prop :=
  ∀ r ∈ db.serverMetrics.rows, r.collectedAt ≤ skewEnd now

/-- The newest sample of the window shows corrupted memory. -/
def MetricTables.StillCorrupted (db : MetricTables) (sid : ℕ) (since now : ℤ) : Prop :=
  ∃ r ∈ db.metricsIn [sid] since now, positive r.memHardwareCorruptedBytes = true ∧
    ∀ a ∈ db.metricsIn [sid] since now, a.collectedAt ≤ r.collectedAt

section Agree

variable {db : MetricTables} {serverIds : List ℕ} {sid : ℕ} {since now : ℤ}

lemma count_nonneg (axis : ErrorAxis) : 0 ≤ (db.latestErrors sid since now).count axis := by
  rw [count_latestErrors]
  apply List.sum_nonneg
  intro v hv
  obtain ⟨c, _, rfl⟩ := List.mem_map.mp hv
  exact c.spread_nonneg

/-- Without samples from the future the gauge is that of the newest sample of the window. -/
lemma corruptedBytes_pos_iff (hlater : db.NoneLater now) :
    0 < (db.latestErrors sid since now).corruptedBytes.getD 0 ↔
      db.StillCorrupted sid since now := by
  have hrows : (db.serverMetrics.rows.filter fun r => r.serverId = sid ∧ since ≤ r.collectedAt) =
      db.metricsIn [sid] since now := by
    apply List.filter_congr
    intro r hr
    simp [hlater r hr]
  have hinj : ∀ a ∈ db.metricsIn [sid] since now, ∀ b ∈ db.metricsIn [sid] since now,
      a.collectedAt = b.collectedAt → a = b := by
    intro a ha b hb htime
    obtain ⟨ha, hsa, -⟩ := mem_metricsIn.mp ha
    obtain ⟨hb, hsb, -⟩ := mem_metricsIn.mp hb
    refine db.serverMetrics.eq_of_key_eq ha hb ?_
    rw [MetricsRow.key, MetricsRow.key, List.mem_singleton.mp hsa, List.mem_singleton.mp hsb, htime]
  show 0 < (db.corrupted sid since).getD 0 ↔ _
  rw [← positive_iff, MetricTables.corrupted, hrows]
  cases hlatest : Table.latest (fun r : MetricsRow => r.collectedAt)
      (db.metricsIn [sid] since now) with
  | none =>
    have hnil := Table.latest_eq_none_iff.mp hlatest
    simp [MetricTables.StillCorrupted, hnil, positive]
  | some r =>
    obtain ⟨hr, hle⟩ := (Table.latest_eq_some_iff hinj).mp hlatest
    constructor
    · exact fun hpos => ⟨r, hr, hpos, hle⟩
    · rintro ⟨a, ha, hpos, hlast⟩
      have heq : a = r := hinj a ha r hr (le_antisymm (hle a ha) (hlast r hr))
      exact heq ▸ hpos

lemma everCorrupted_of_still (h : db.StillCorrupted sid since now) :
    db.EverCorrupted sid since now := by
  obtain ⟨r, hr, hpos, -⟩ := h
  exact ⟨r, hr, hpos⟩

/-- A server has an event when a counter counts some or its memory is still corrupted. -/
lemma hasEvent_iff (hlater : db.NoneLater now) :
    hasEvent (db.latestErrors sid since now) = true ↔
      (∃ axis, 0 < (db.latestErrors sid since now).count axis) ∨
        db.StillCorrupted sid since now := by
  have hne : ∀ axis, (db.latestErrors sid since now).count axis ≠ 0 ↔
      0 < (db.latestErrors sid since now).count axis :=
    fun axis => ⟨fun h => lt_of_le_of_ne (count_nonneg axis) h.symm, fun h => h.ne'⟩
  rw [← corruptedBytes_pos_iff hlater]
  unfold hasEvent
  simp only [Bool.or_eq_true, decide_eq_true_eq]
  constructor
  · rintro ((((h | h) | h) | h) | h)
    · exact Or.inl ⟨.mce, (hne .mce).mp h⟩
    · exact Or.inl ⟨.oom, (hne .oom).mp h⟩
    · exact Or.inr h
    · exact Or.inl ⟨.net, (hne .net).mp h⟩
    · exact Or.inl ⟨.disk, (hne .disk).mp h⟩
  · rintro (⟨axis, hpos⟩ | h)
    · cases axis with
      | mce => exact Or.inl (Or.inl (Or.inl (Or.inl ((hne .mce).mpr hpos))))
      | oom => exact Or.inl (Or.inl (Or.inl (Or.inr ((hne .oom).mpr hpos))))
      | net => exact Or.inl (Or.inr ((hne .net).mpr hpos))
      | disk => exact Or.inr ((hne .disk).mpr hpos)
    · exact Or.inl (Or.inl (Or.inr h))

/-- Entries that tell different servers are as many as the servers that they tell. -/
lemma countP_eq_card {β : Type} {xs : List β} {server : β → ℕ} {p : β → Bool} {q : ℕ → Prop}
    [DecidablePred q] (hnodup : (xs.map server).Nodup)
    (h : ∀ k, (∃ x ∈ xs, p x = true ∧ server x = k) ↔ k ∈ serverIds ∧ q k) :
    xs.countP p = (serverIds.toFinset.filter q).card := by
  have hnodup' : ((xs.filter p).map server).Nodup :=
    hnodup.sublist (List.filter_sublist.map server)
  rw [List.countP_eq_length_filter, ← List.length_map, ← List.toFinset_card_of_nodup hnodup']
  refine congrArg Finset.card (Finset.ext fun k => ?_)
  rw [List.mem_toFinset, Finset.mem_filter, List.mem_toFinset, ← h k]
  simp [and_assoc]

lemma nodup_hostErrors (rows : List MetricsRow) :
    ((hostErrors rows).map fun x => x.serverId).Nodup :=
  nodup_groupBy_map fun _ _ => rfl

lemma nodup_hostNetErrors (rows : List NetIoRow) : ((hostNetErrors rows).map Prod.fst).Nodup :=
  nodup_groupBy_map fun _ _ => rfl

/-- The host counters count the servers whose counters have a spread, and those whose memory was
ever corrupted. -/
lemma fleetErrorSummary_eq (db : MetricTables) (serverIds : List ℕ) (since now : ℤ) :
    db.fleetErrorSummary serverIds since now =
      { total := (db.fleetErrorSummary serverIds since now).total
        mceHosts := (db.hostsWith serverIds since now fun err => 0 < err.mceCount).card
        oomHosts := (db.hostsWith serverIds since now fun err => 0 < err.oomCount).card
        corruptedHosts :=
          (serverIds.toFinset.filter fun sid => db.EverCorrupted sid since now).card
        netErrorHosts := (db.hostsWith serverIds since now fun err => 0 < err.netErrorCount).card
        diskErrorHosts :=
          (db.hostsWith serverIds since now fun err => 0 < err.diskErrorCount).card } := by
  by_cases hids : serverIds = []
  · simp [MetricTables.fleetErrorSummary, MetricTables.hostsWith, hids]
  have hmce : (hostErrors (db.metricsIn serverIds since now)).countP (fun x => 0 < x.mceD) =
      (db.hostsWith serverIds since now fun err => 0 < err.mceCount).card := by
    refine countP_eq_card (nodup_hostErrors _) fun sid => ?_
    simp only [decide_eq_true_eq]
    rw [exists_mem_hostErrors fun _ => by simp [hostErrorsOf, spread, maxSome], hostErrorsOf_mceD]
    rfl
  have hoom : (hostErrors (db.metricsIn serverIds since now)).countP (fun x => 0 < x.oomD) =
      (db.hostsWith serverIds since now fun err => 0 < err.oomCount).card := by
    refine countP_eq_card (nodup_hostErrors _) fun sid => ?_
    simp only [decide_eq_true_eq]
    rw [exists_mem_hostErrors fun _ => by simp [hostErrorsOf, spread, maxSome], hostErrorsOf_oomD]
    rfl
  have hcorrupted :
      (hostErrors (db.metricsIn serverIds since now)).countP (fun x => 0 < x.corrupted) =
        (serverIds.toFinset.filter fun sid => db.EverCorrupted sid since now).card := by
    refine countP_eq_card (nodup_hostErrors _) fun sid => ?_
    simp only [decide_eq_true_eq]
    rw [exists_mem_hostErrors fun _ => by simp [hostErrorsOf, maxSome], hostErrorsOf_corrupted]
  have hnet : (hostNetErrors (db.netIoIn serverIds since now)).countP (fun x => positive x.2) =
      (db.hostsWith serverIds since now fun err => 0 < err.netErrorCount).card :=
    countP_eq_card (nodup_hostNetErrors _) fun sid => exists_mem_hostNetErrors
  have hdisk : (((hostDiskErrors (db.diskErrorsIn serverIds since now)).filter fun x =>
      positive x.2).map Prod.fst).dedup.length =
        (db.hostsWith serverIds since now fun err => 0 < err.diskErrorCount).card := by
    rw [← List.card_toFinset]
    refine congrArg Finset.card (Finset.ext fun sid => ?_)
    have hsid : (∃ x ∈ hostDiskErrors (db.diskErrorsIn serverIds since now),
        positive x.2 = true ∧ x.1 = sid) ↔
          sid ∈ serverIds ∧ 0 < (db.latestErrors sid since now).count .disk :=
      exists_mem_hostDiskErrors
    rw [List.mem_toFinset, MetricTables.hostsWith, Finset.mem_filter, List.mem_toFinset]
    refine Iff.trans ?_ hsid
    simp [and_assoc]
  simp only [MetricTables.fleetErrorSummary, if_neg hids, hmce, hoom, hcorrupted, hnet, hdisk]

end Agree

/-- The screens agree exactly when no server of the fleet had corrupted memory in the window that
its newest sample does not show. -/
theorem errorFlagsAgree_iff (db : MetricTables) (serverIds : List ℕ) (since now : ℤ)
    (hlater : db.NoneLater now) :
    ErrorFlagsAgree db serverIds since now ↔
      ∀ sid ∈ serverIds, db.EverCorrupted sid since now → db.StillCorrupted sid since now := by
  have hsummary := fleetErrorSummary_eq db serverIds since now
  have hcorrupted : (db.fleetErrorSummary serverIds since now).corruptedHosts =
      (serverIds.toFinset.filter fun sid => db.EverCorrupted sid since now).card := by
    rw [hsummary]
  have hstill : ∀ sid, sid ∈ db.hostsWith serverIds since now
      (fun err => 0 < err.corruptedBytes.getD 0) ↔
        sid ∈ serverIds ∧ db.StillCorrupted sid since now := by
    intro sid
    rw [MetricTables.hostsWith, Finset.mem_filter, List.mem_toFinset, corruptedBytes_pos_iff hlater]
  constructor
  · intro hagree sid hsid hever
    have hcard := hagree.corrupted
    rw [hcorrupted] at hcard
    have hsub : (db.hostsWith serverIds since now fun err => 0 < err.corruptedBytes.getD 0) ⊆
        serverIds.toFinset.filter fun sid => db.EverCorrupted sid since now := by
      intro k hk
      obtain ⟨hk, hkstill⟩ := (hstill k).mp hk
      exact Finset.mem_filter.mpr ⟨List.mem_toFinset.mpr hk, everCorrupted_of_still hkstill⟩
    have heq := Finset.eq_of_subset_of_card_le hsub hcard.le
    have hmem : sid ∈ serverIds.toFinset.filter fun sid => db.EverCorrupted sid since now :=
      Finset.mem_filter.mpr ⟨List.mem_toFinset.mpr hsid, hever⟩
    exact ((hstill sid).mp (heq ▸ hmem)).2
  · intro hcond
    refine ⟨fun sid hsid => ?_, ?_, ?_, ?_, ?_, ?_⟩
    · rw [mem_fleetErrorHosts_iff, and_iff_right hsid, hasEvent_iff hlater]
      exact or_congr Iff.rfl ⟨hcond sid hsid, everCorrupted_of_still⟩
    · rw [hsummary]
    · rw [hsummary]
    · rw [hcorrupted]
      refine congrArg Finset.card (Finset.ext fun sid => ?_)
      rw [hstill, Finset.mem_filter, List.mem_toFinset]
      exact and_congr_right fun hsid => ⟨hcond sid hsid, everCorrupted_of_still⟩
    · rw [hsummary]
    · rw [hsummary]

/-- On a server whose memory was never corrupted the screens agree, be the counts right or not. -/
theorem restarted_agree : ErrorFlagsAgree restarted [1] 1700000000000000 1700000120000000 := by
  have hlater : restarted.NoneLater 1700000120000000 := by
    unfold MetricTables.NoneLater
    decide
  refine (errorFlagsAgree_iff restarted [1] 1700000000000000 1700000120000000 hlater).mpr ?_
  intro sid hsid hever
  rw [List.mem_singleton.mp hsid] at hever
  exact absurd hever (by decide +kernel)

/-- A server on which the corrupted memory of one sample is gone in the next. -/
def repaired : MetricTables :=
  { restarted with
    serverMetrics :=
      { rows := [{ MetricsRow.blank 1 1700000000000000 with
            memHardwareCorruptedBytes := some 4096 },
          { MetricsRow.blank 1 1700000060000000 with memHardwareCorruptedBytes := some 0 }]
        sorted := by decide } }

/-- The list and the summary count the server, its report shows no event. -/
theorem repaired_not_agree :
    repaired.NoneLater 1700000120000000 ∧
      ¬ErrorFlagsAgree repaired [1] 1700000000000000 1700000120000000 ∧
      1 ∈ repaired.fleetErrorHosts [1] 1700000000000000 1700000120000000 ∧
      (repaired.fleetErrorSummary [1] 1700000000000000 1700000120000000).corruptedHosts = 1 ∧
      hasEvent (repaired.latestErrors 1 1700000000000000 1700000120000000) = false := by
  refine ⟨?_, fun h => ?_, by decide +kernel, by decide +kernel, by decide +kernel⟩
  · unfold MetricTables.NoneLater
    decide
  · exact absurd h.corrupted (by decide +kernel)

end AssessmentEngine
