import Mathlib.Data.List.Pairwise
import AssessmentEngine.Ingest.Inventory

/-!
# Reboot markers

`reboot_events` on the history of a server.  The query compares each row with the row before it,
among the rows of the window and of thirty days before its start.  So a row after a longer silence
has no row before it, a row after one without a boot time has nothing to be compared with, and both
are marked as reboots; the markers are right, and the same for every window, exactly where no row
is of that kind (`markersHold_iff`).
-/

namespace AssessmentEngine

open Table

/-- `server_inventory_history` with its natural key, listed in the order of `collected_at`. -/
structure InventoryLog where
  rows : List InventoryHistoryRow
  ordered : rows.Pairwise fun a b => a.serverId = b.serverId → a.collectedAt < b.collectedAt

/-! ## The query -/

/-- The values of `kind`. -/
inductive RebootKind
  | reboot
  | restart
  deriving DecidableEq, Repr

structure RebootEvent where
  collectedAt : ℤ
  bootTime : Option ℤ
  agentStartedAt : Option ℤ
  kind : RebootKind
  deriving DecidableEq, Repr

/-- The thirty days between `buffer_start` and the start of the window. -/
def rebootBuffer : ℤ := 30 * 86400000000

/-- The rows of `base`. -/
def InventoryLog.base (log : InventoryLog) (serverId : ℕ) (start stop : ℤ) :
    List InventoryHistoryRow :=
  log.rows.filter fun r =>
    r.serverId = serverId ∧ r.collectedAt ≤ stop ∧ start - rebootBuffer ≤ r.collectedAt

/-- The row that `LAG(…) OVER (ORDER BY collected_at)` reads. -/
def lagSnapshot (base : List InventoryHistoryRow) (r : InventoryHistoryRow) :
    Option InventoryHistoryRow :=
  latest InventoryHistoryRow.collectedAt (base.filter fun a => a.collectedAt < r.collectedAt)

/-- `ABS(EXTRACT(EPOCH FROM (boot_time - prev_boot))) > :jitter_sec`; null is not true. -/
def bootsDiffer (boot prevBoot : Option ℤ) : Bool :=
  match boot, prevBoot with
  | some boot, some prev => decide (bootTimeJitterTolerance < (boot - prev).natAbs)
  | _, _ => false

/-- The `CASE` of the query. -/
def rebootKind (prev : Option InventoryHistoryRow) (r : InventoryHistoryRow) : Option RebootKind :=
  let prevBoot := prev.bind fun p => p.columns.bootTime
  let prevAgent := prev.bind fun p => p.columns.agentStartedAt
  if prevBoot.isNone then some .reboot
  else if bootsDiffer r.columns.bootTime prevBoot then some .reboot
  else if r.columns.agentStartedAt ≠ prevAgent then some .restart
  else none

/-- The event of a row. -/
def InventoryHistoryRow.event (r : InventoryHistoryRow) (kind : RebootKind) : RebootEvent where
  collectedAt := r.collectedAt
  bootTime := r.columns.bootTime
  agentStartedAt := r.columns.agentStartedAt
  kind := kind

/-- `reboot_events`; its `WHERE` repeats the conditions of the `CASE`, and so keeps the rows that
have a kind. -/
def rebootEvents (log : InventoryLog) (serverId : ℕ) (start stop : ℤ) : List RebootEvent :=
  let base := log.base serverId start stop
  (base.filter fun r => start ≤ r.collectedAt).filterMap fun r =>
    (rebootKind (lagSnapshot base r) r).map r.event

/-! ## What the markers are to say -/

/-- The rows of the same server before a row. -/
def InventoryLog.before (log : InventoryLog) (r : InventoryHistoryRow) : List InventoryHistoryRow :=
  log.rows.filter fun a => a.serverId = r.serverId ∧ a.collectedAt < r.collectedAt

/-- The row before a row of the history. -/
def InventoryLog.preceding (log : InventoryLog) (r : InventoryHistoryRow) :
    Option InventoryHistoryRow :=
  latest InventoryHistoryRow.collectedAt (log.before r)

/-- The latest row before that has a boot time. -/
def InventoryLog.lastBooted (log : InventoryLog) (r : InventoryHistoryRow) :
    Option InventoryHistoryRow :=
  latest InventoryHistoryRow.collectedAt
    ((log.before r).filter fun a => a.columns.bootTime.isSome)

/-- The first row of the server, or one that was taken in another boot than the last. -/
def InventoryLog.IsReboot (log : InventoryLog) (r : InventoryHistoryRow) : Prop :=
  log.preceding r = none ∨
    ∃ p ∈ log.lastBooted r, bootsDiffer r.columns.bootTime p.columns.bootTime = true

instance (log : InventoryLog) (r : InventoryHistoryRow) : Decidable (log.IsReboot r) :=
  inferInstanceAs (Decidable (_ ∨ _))

/-- A row of the same boot and of another start of the agent. -/
def InventoryLog.IsRestart (log : InventoryLog) (r : InventoryHistoryRow) : Prop :=
  ¬log.IsReboot r ∧ ∃ p ∈ log.preceding r, r.columns.agentStartedAt ≠ p.columns.agentStartedAt

instance (log : InventoryLog) (r : InventoryHistoryRow) : Decidable (log.IsRestart r) :=
  inferInstanceAs (Decidable (_ ∧ _))

/-- The rows of a server in a window. -/
def InventoryLog.window (log : InventoryLog) (serverId : ℕ) (start stop : ℤ) :
    List InventoryHistoryRow :=
  log.rows.filter fun r => r.serverId = serverId ∧ start ≤ r.collectedAt ∧ r.collectedAt ≤ stop

/-- The markers of a window are those of the history, and a window inside it has its share of
them. -/
def MarkersHold (log : InventoryLog) (serverId : ℕ) (start stop : ℤ) : Prop :=
  (∀ r ∈ log.window serverId start stop,
    (r.event .reboot ∈ rebootEvents log serverId start stop ↔ log.IsReboot r) ∧
      (r.event .restart ∈ rebootEvents log serverId start stop ↔ log.IsRestart r)) ∧
    ∀ start' stop', start ≤ start' → start' ≤ stop' → stop' ≤ stop →
      rebootEvents log serverId start' stop' =
        (rebootEvents log serverId start stop).filter fun e =>
          start' ≤ e.collectedAt ∧ e.collectedAt ≤ stop'

/-- The row is a reboot, or the row before it has a boot time and is no more than thirty days
older. -/
def InventoryLog.Comparable (log : InventoryLog) (r : InventoryHistoryRow) : Prop :=
  log.IsReboot r ∨ ∃ p ∈ log.preceding r, p.columns.bootTime.isSome = true ∧
    r.collectedAt - rebootBuffer ≤ p.collectedAt

/-! ## The row before -/

section Rows

variable {log : InventoryLog} {serverId : ℕ} {start stop : ℤ} {r : InventoryHistoryRow}

lemma InventoryLog.mem_before {a : InventoryHistoryRow} :
    a ∈ log.before r ↔ a ∈ log.rows ∧ a.serverId = r.serverId ∧ a.collectedAt < r.collectedAt := by
  simp [InventoryLog.before]

lemma InventoryLog.mem_window :
    r ∈ log.window serverId start stop ↔
      r ∈ log.rows ∧ r.serverId = serverId ∧ start ≤ r.collectedAt ∧ r.collectedAt ≤ stop := by
  simp [InventoryLog.window]

/-- A server has one row for an instant. -/
lemma InventoryLog.row_eq {a b : InventoryHistoryRow} (ha : a ∈ log.rows) (hb : b ∈ log.rows)
    (hserver : a.serverId = b.serverId) (htime : a.collectedAt = b.collectedAt) : a = b := by
  have hsymm : Std.Symm fun a b : InventoryHistoryRow =>
      a.serverId = b.serverId → a.collectedAt = b.collectedAt → a = b :=
    ⟨fun a b h hs ht => (h hs.symm ht.symm).symm⟩
  have heq : log.rows.Pairwise fun a b : InventoryHistoryRow =>
      a.serverId = b.serverId → a.collectedAt = b.collectedAt → a = b :=
    log.ordered.imp fun hlt hs ht => absurd ht (hlt hs).ne
  exact heq.forall_of_forall (fun _ _ _ _ => rfl) ha hb hserver htime

lemma InventoryLog.before_inj (log : InventoryLog) (r : InventoryHistoryRow) :
    ∀ a ∈ log.before r, ∀ b ∈ log.before r, a.collectedAt = b.collectedAt → a = b := by
  intro a ha b hb htime
  obtain ⟨ha, haserver, _⟩ := InventoryLog.mem_before.mp ha
  obtain ⟨hb, hbserver, _⟩ := InventoryLog.mem_before.mp hb
  exact log.row_eq ha hb (haserver.trans hbserver.symm) htime

/-- The rows of a window inside another. -/
lemma window_window {start' stop' : ℤ} (hstart : start ≤ start') (hstop : stop' ≤ stop) :
    ((log.window serverId start stop).filter fun r =>
      decide (start' ≤ r.collectedAt ∧ r.collectedAt ≤ stop')) =
        log.window serverId start' stop' := by
  rw [InventoryLog.window, InventoryLog.window, List.filter_filter]
  apply List.filter_congr
  intro a _
  rw [← Bool.decide_and, decide_eq_decide]
  constructor
  · rintro ⟨hin, hsame, _⟩
    exact ⟨hsame, hin⟩
  · rintro ⟨hsame, hin⟩
    exact ⟨hin, hsame, hstart.trans hin.1, hin.2.trans hstop⟩

/-- The kind of a row, by the rows from `buffer_start` on. -/
def InventoryLog.kindFrom (log : InventoryLog) (start : ℤ) (r : InventoryHistoryRow) :
    Option RebootKind :=
  rebootKind ((log.preceding r).filter fun p => decide (start - rebootBuffer ≤ p.collectedAt)) r

/-- Within a window `LAG` reads the preceding row, unless it lies before the buffer. -/
lemma lagSnapshot_base (hr : r ∈ log.window serverId start stop) :
    lagSnapshot (log.base serverId start stop) r =
      (log.preceding r).filter fun p => decide (start - rebootBuffer ≤ p.collectedAt) := by
  obtain ⟨_, hserver, _, hstop⟩ := InventoryLog.mem_window.mp hr
  rw [InventoryLog.preceding, ← latest_filter_le (log.before_inj r), lagSnapshot,
    InventoryLog.base, InventoryLog.before, List.filter_filter, List.filter_filter]
  congr 1
  apply List.filter_congr
  intro a _
  rw [← Bool.decide_and, ← Bool.decide_and, decide_eq_decide, hserver]
  constructor
  · rintro ⟨hlt, hsame, _, hbuffer⟩
    exact ⟨hbuffer, hsame, hlt⟩
  · rintro ⟨hbuffer, hsame, hlt⟩
    exact ⟨hlt, hsame, by omega, hbuffer⟩

/-- The rows of a window, each with its kind. -/
lemma rebootEvents_eq (log : InventoryLog) (serverId : ℕ) (start stop : ℤ) :
    rebootEvents log serverId start stop =
      (log.window serverId start stop).filterMap fun r => (log.kindFrom start r).map r.event := by
  have hrows : (log.base serverId start stop).filter (fun r => start ≤ r.collectedAt) =
      log.window serverId start stop := by
    rw [InventoryLog.base, InventoryLog.window, List.filter_filter]
    apply List.filter_congr
    intro a _
    rw [← Bool.decide_and, decide_eq_decide]
    have hbuffer : (0 : ℤ) ≤ rebootBuffer := by decide
    constructor
    · rintro ⟨hstart, hsame, hstop, _⟩
      exact ⟨hsame, hstart, hstop⟩
    · rintro ⟨hsame, hstart, hstop⟩
      exact ⟨hstart, hsame, hstop, by omega⟩
  rw [rebootEvents, hrows]
  apply List.filterMap_congr
  intro r hr
  rw [lagSnapshot_base hr, InventoryLog.kindFrom]

/-- A row of the window is marked with its kind. -/
lemma event_mem_rebootEvents (hr : r ∈ log.window serverId start stop) (kind : RebootKind) :
    r.event kind ∈ rebootEvents log serverId start stop ↔ log.kindFrom start r = some kind := by
  rw [rebootEvents_eq, List.mem_filterMap]
  constructor
  · rintro ⟨a, ha, hevent⟩
    obtain ⟨k, hk, hevent⟩ := Option.map_eq_some_iff.mp hevent
    obtain ⟨harow, haserver, _⟩ := InventoryLog.mem_window.mp ha
    obtain ⟨hrrow, hrserver, _⟩ := InventoryLog.mem_window.mp hr
    have htime : a.collectedAt = r.collectedAt := congrArg RebootEvent.collectedAt hevent
    have hkind : k = kind := congrArg RebootEvent.kind hevent
    rw [← log.row_eq harow hrrow (haserver.trans hrserver.symm) htime, hk, hkind]
  · intro hkind
    exact ⟨r, hr, by rw [hkind]; rfl⟩

/-! ## The kinds -/

/-- A row without a row before it that the query can see is a reboot to it. -/
lemma kindFrom_of_preceding_none (hp : log.preceding r = none) :
    log.kindFrom start r = some .reboot := by
  rw [InventoryLog.kindFrom, hp]
  rfl

/-- So is one after a row without a boot time or from before the buffer. -/
lemma kindFrom_of_unseen {p : InventoryHistoryRow} (hp : log.preceding r = some p)
    (hunseen : p.columns.bootTime.isSome = true → p.collectedAt < start - rebootBuffer) :
    log.kindFrom start r = some .reboot := by
  rw [InventoryLog.kindFrom, hp]
  by_cases hbuffer : start - rebootBuffer ≤ p.collectedAt
  · have hboot : p.columns.bootTime = none := by
      by_contra hne
      exact absurd (hunseen (Option.isSome_iff_ne_none.mpr hne)) hbuffer.not_gt
    rw [Option.filter_some, if_pos (decide_eq_true hbuffer)]
    simp [rebootKind, hboot]
  · rw [Option.filter_some, if_neg (mt of_decide_eq_true hbuffer)]
    rfl

/-- Where the query sees a boot time, it compares with that row. -/
lemma kindFrom_of_seen {p : InventoryHistoryRow} (hp : log.preceding r = some p)
    (hboot : p.columns.bootTime.isSome = true) (hbuffer : start - rebootBuffer ≤ p.collectedAt) :
    log.kindFrom start r =
      if bootsDiffer r.columns.bootTime p.columns.bootTime then some .reboot
      else if r.columns.agentStartedAt ≠ p.columns.agentStartedAt then some .restart
      else none := by
  obtain ⟨boot, hboot⟩ := Option.isSome_iff_exists.mp hboot
  rw [InventoryLog.kindFrom, hp, Option.filter_some, if_pos (decide_eq_true hbuffer)]
  simp [rebootKind, hboot]

/-- The row before it is then the last with a boot time. -/
lemma isReboot_iff_of_booted {p : InventoryHistoryRow} (hp : log.preceding r = some p)
    (hboot : p.columns.bootTime.isSome = true) :
    log.IsReboot r ↔ bootsDiffer r.columns.bootTime p.columns.bootTime = true := by
  have hlast : log.lastBooted r = some p := latest_filter (log.before_inj r) hp hboot
  simp [InventoryLog.IsReboot, hp, hlast]

/-- The row before lies in the buffer and has a boot time. -/
def InventoryLog.SeesBoot (log : InventoryLog) (start : ℤ) (r : InventoryHistoryRow) : Prop :=
  ∃ p ∈ log.preceding r, p.columns.bootTime.isSome = true ∧ start - rebootBuffer ≤ p.collectedAt

lemma seesBoot_iff {p : InventoryHistoryRow} (hp : log.preceding r = some p) :
    log.SeesBoot start r ↔
      p.columns.bootTime.isSome = true ∧ start - rebootBuffer ≤ p.collectedAt := by
  simp [InventoryLog.SeesBoot, hp]

/-- A row is marked as a reboot when it is one, and when no boot time is seen. -/
lemma kindFrom_reboot_iff :
    log.kindFrom start r = some .reboot ↔ log.IsReboot r ∨ ¬log.SeesBoot start r := by
  cases hp : log.preceding r with
  | none =>
    have hreboot : log.IsReboot r := Or.inl hp
    simp [kindFrom_of_preceding_none hp, hreboot]
  | some p =>
    by_cases hseen : p.columns.bootTime.isSome = true ∧ start - rebootBuffer ≤ p.collectedAt
    · rw [kindFrom_of_seen hp hseen.1 hseen.2, isReboot_iff_of_booted hp hseen.1, seesBoot_iff hp]
      split_ifs with hdiffer <;> simp [hdiffer, hseen]
    · have hunseen : p.columns.bootTime.isSome = true → p.collectedAt < start - rebootBuffer :=
        fun hboot => lt_of_not_ge fun hbuffer => hseen ⟨hboot, hbuffer⟩
      rw [kindFrom_of_unseen hp hunseen, seesBoot_iff hp]
      exact iff_of_true rfl (.inr hseen)

/-- It is marked as a restart when it is one and a boot time is seen. -/
lemma kindFrom_restart_iff :
    log.kindFrom start r = some .restart ↔ log.IsRestart r ∧ log.SeesBoot start r := by
  cases hp : log.preceding r with
  | none => simp [kindFrom_of_preceding_none hp, InventoryLog.SeesBoot, hp]
  | some p =>
    by_cases hseen : p.columns.bootTime.isSome = true ∧ start - rebootBuffer ≤ p.collectedAt
    · have hreboot := isReboot_iff_of_booted hp hseen.1
      rw [kindFrom_of_seen hp hseen.1 hseen.2, InventoryLog.IsRestart, hreboot, seesBoot_iff hp]
      by_cases hdiffer : bootsDiffer r.columns.bootTime p.columns.bootTime = true
      · simp [hdiffer]
      · by_cases hagent : r.columns.agentStartedAt = p.columns.agentStartedAt <;>
          simp [hdiffer, hagent, hseen, hp]
    · have hunseen : p.columns.bootTime.isSome = true → p.collectedAt < start - rebootBuffer :=
        fun hboot => lt_of_not_ge fun hbuffer => hseen ⟨hboot, hbuffer⟩
      rw [kindFrom_of_unseen hp hunseen, seesBoot_iff hp]
      exact iff_of_false (by decide) fun h => hseen h.2

/-- Events of a later start, as far as the rows can be compared. -/
lemma kindFrom_eq_of_comparable {start' : ℤ} (hcomparable : log.Comparable r)
    (hstart : start ≤ r.collectedAt) (hstart' : start' ≤ r.collectedAt) :
    log.kindFrom start' r = log.kindFrom start r := by
  by_cases hreboot : log.IsReboot r
  · rw [kindFrom_reboot_iff.mpr (.inl hreboot), kindFrom_reboot_iff.mpr (.inl hreboot)]
  · obtain ⟨p, hp, hboot, hrecent⟩ := hcomparable.resolve_left hreboot
    rw [kindFrom_of_seen hp hboot (by omega), kindFrom_of_seen hp hboot (by omega)]

lemma InventoryLog.Comparable.seesBoot (hcomparable : log.Comparable r)
    (hstart : start ≤ r.collectedAt) : log.IsReboot r ∨ log.SeesBoot start r := by
  refine hcomparable.imp_right ?_
  rintro ⟨p, hp, hboot, hrecent⟩
  exact ⟨p, hp, hboot, by omega⟩

end Rows

/-! ## When the markers hold -/

/-- The markers of a window hold, and agree with those of all windows inside it, exactly when each
row that is no reboot follows a row with a boot time within thirty days. -/
theorem markersHold_iff (log : InventoryLog) (serverId : ℕ) (start stop : ℤ) :
    MarkersHold log serverId start stop ↔
      ∀ r ∈ log.window serverId start stop, log.Comparable r := by
  constructor
  · rintro ⟨hmarkers, hinside⟩ r hr
    by_contra hcomparable
    obtain ⟨hreboot, hsees⟩ := not_or.mp hcomparable
    obtain ⟨hrow, hserver, hstart, hstop⟩ := InventoryLog.mem_window.mp hr
    have hr' : r ∈ log.window serverId r.collectedAt stop :=
      InventoryLog.mem_window.mpr ⟨hrow, hserver, le_rfl, hstop⟩
    -- in the window that starts with the row it is marked, as the query sees no boot time
    have hmarked : r.event .reboot ∈ rebootEvents log serverId r.collectedAt stop :=
      (event_mem_rebootEvents hr' _).mpr (kindFrom_reboot_iff.mpr (.inr hsees))
    rw [hinside r.collectedAt stop hstart hstop le_rfl] at hmarked
    exact hreboot ((hmarkers r hr).1.mp (List.mem_of_mem_filter hmarked))
  · intro hcomparable
    refine ⟨fun r hr => ?_, fun start' stop' hstart' _ hstop' => ?_⟩
    · obtain ⟨_, _, hstart, _⟩ := InventoryLog.mem_window.mp hr
      have hsees := (hcomparable r hr).seesBoot hstart
      rw [event_mem_rebootEvents hr, event_mem_rebootEvents hr, kindFrom_reboot_iff,
        kindFrom_restart_iff]
      refine ⟨⟨fun hmarked => ?_, Or.inl⟩, ⟨And.left, fun hrestart => ?_⟩⟩
      · exact hmarked.elim id fun hunseen => hsees.resolve_right hunseen
      · exact ⟨hrestart, hsees.resolve_left hrestart.1⟩
    · rw [rebootEvents_eq, rebootEvents_eq, List.filter_filterMap,
        ← window_window hstart' hstop', List.filterMap_filter]
      apply List.filterMap_congr
      intro r hr
      obtain ⟨_, _, hstart, _⟩ := InventoryLog.mem_window.mp hr
      by_cases hin : start' ≤ r.collectedAt ∧ r.collectedAt ≤ stop'
      · rw [if_pos (decide_eq_true hin), kindFrom_eq_of_comparable (hcomparable r hr) hstart hin.1]
        cases log.kindFrom start r with
        | none => rfl
        | some kind => exact (if_pos (decide_eq_true hin)).symm
      · rw [if_neg (by simpa using hin)]
        cases log.kindFrom start r with
        | none => rfl
        | some kind => exact (if_neg fun h => hin (of_decide_eq_true h)).symm

/-- A snapshot of a server, with its times. -/
def bootSnapshot (collectedAt : ℤ) (bootTime agentStartedAt : Option ℤ) : InventoryHistoryRow where
  serverId := 1
  collectedAt := collectedAt
  hostname := "web-1"
  columns := (buildPlaceholderInventory
    ⟨"agent-1", none, none, none, collectedAt, bootTime, agentStartedAt, "linux"⟩).columns

/-- A server that has run for forty days when its agent is restarted. -/
def quietServer : InventoryLog where
  rows := [bootSnapshot 1700000000000000 (some 1690000000000000) (some 1690000060000000),
    bootSnapshot 1703456000000000 (some 1690000000000000) (some 1703455990000000)]
  ordered := by decide

/-- The restart is marked as a reboot in a window of a day, and as a restart in one of a week that
starts twenty days before. -/
theorem quietServer_not_markersHold :
    ¬MarkersHold quietServer 1 1703456000000000 1703542400000000 ∧
    (rebootEvents quietServer 1 1703456000000000 1703542400000000).map RebootEvent.kind =
      [RebootKind.reboot] ∧
    (rebootEvents quietServer 1 1701728000000000 1703542400000000).map RebootEvent.kind =
      [RebootKind.restart] := by
  refine ⟨fun hmarkers => ?_, by decide +kernel, by decide +kernel⟩
  have hmarked := (hmarkers.1 _ (List.mem_of_getLast? (l := quietServer.window _ _ _) rfl)).1
  exact absurd (hmarked.mp (by decide +kernel)) (by decide +kernel)

end AssessmentEngine
