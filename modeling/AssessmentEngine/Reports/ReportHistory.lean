import AssessmentEngine.Jobs.Job
import AssessmentEngine.Library.Newest

/-!
# The history of reports

`list_reports` for `/reports/history`.  The repository cuts off each type of report at its newest
two hundred rows; the service then merges two types, drops by the number of servers, sorts and
counts.  So the list and its total are those of all matching records exactly when the cap reaches
none of them (`historyHolds_iff`).
-/

namespace AssessmentEngine

open Newest

/-- The stored jobs with their primary key. -/
structure StoredJobs where
  rows : List JobRow
  unique : (rows.map JobRow.id).Nodup

/-! ## The query -/

inductive HistoryView
  | all
  | customer
  | engineer
  deriving DecidableEq, Repr

/-- The `scope` of the query, where it is not `None`. -/
inductive HistoryScope
  | environment
  | selection
  | single
  deriving DecidableEq, Repr

/-- The arguments of `list_reports`. -/
structure HistoryQuery where
  days : ℕ
  view : HistoryView
  serverPublicIds : Option (List String)
  limit : ℕ
  scope : Option HistoryScope
  deriving DecidableEq, Repr

/-- `timedelta(days=days)`. -/
def daysSpan (days : ℕ) : ℕ := seconds (days * 86400)

/-- The `limit` of `list_recent`. -/
def listRecentLimit : ℕ := 200

/-- The condition on `server_public_ids`: the singular key or one of the plural key; an empty list
is no condition. -/
def JobRow.concerns (serverPublicIds : Option (List String)) (r : JobRow) : Bool :=
  match serverPublicIds with
  | none | some [] => true
  | some ids =>
    r.inputParams.serverPublicId.any (fun pid => decide (pid ∈ ids)) ||
      r.inputParams.serverPublicIds.any fun pid => decide (pid ∈ ids)

/-- The conditions of `list_recent`. -/
def listRecentWhere (now days : ℕ) (scope : Option String) (serverPublicIds : Option (List String))
    (jobType : String) (r : JobRow) : Bool :=
  (decide (days = 0) || decide (now < r.createdAt + daysSpan days)) &&
    scope.all (fun s => decide (r.key.scope = s)) && decide (r.key.jobType = jobType) &&
      r.concerns serverPublicIds

/-- `list_recent`. -/
def listRecent (now days : ℕ) (scope : Option String) (serverPublicIds : Option (List String))
    (jobType : String) (rows : List JobRow) : List JobRow :=
  newest JobRow.createdAt listRecentLimit
    (rows.filter (listRecentWhere now days scope serverPublicIds jobType))

/-- `repo_scope`. -/
def repoScope : Option HistoryScope → Option String
  | none => none
  | some .environment => some "environment"
  | some .selection | some .single => some "server"

/-- The filter on the number of servers. -/
def keptByScope (scope : Option HistoryScope) (r : JobRow) : Bool :=
  match scope with
  | some .selection => decide (2 ≤ r.inputParams.serverPublicIds.length)
  | some .single => decide (r.inputParams.serverPublicIds.length = 1)
  | _ => true

/-- The records that `list_reports` sorts. -/
def mergedReports (now : ℕ) (q : HistoryQuery) (rows : List JobRow) : List JobRow :=
  let recent jobType := listRecent now q.days (repoScope q.scope) q.serverPublicIds jobType rows
  let merged := match q.view with
    | .all => recent "customer_report" ++ recent "engineer_report"
    | .customer => recent "customer_report"
    | .engineer => recent "engineer_report"
  merged.filter (keptByScope q.scope)

/-- `list_reports`. -/
def listReports (now : ℕ) (q : HistoryQuery) (rows : List JobRow) : List JobRow × ℕ :=
  let merged := newestFirst JobRow.createdAt (mergedReports now q rows)
  (merged.take q.limit, merged.length)

/-! ## What it is to return -/

/-- The types of report of a view. -/
def HistoryView.jobTypes : HistoryView → List String
  | .all => ["customer_report", "engineer_report"]
  | .customer => ["customer_report"]
  | .engineer => ["engineer_report"]

/-- A report of the environment, of several servers, or of one. -/
def HistoryScope.Holds (r : JobRow) : HistoryScope → Prop
  | .environment => r.key.scope = "environment"
  | .selection => r.key.scope = "server" ∧ 2 ≤ r.inputParams.serverPublicIds.length
  | .single => r.key.scope = "server" ∧ r.inputParams.serverPublicIds.length = 1

/-- The record matches all filters. -/
def HistoryQuery.Matches (q : HistoryQuery) (now : ℕ) (r : JobRow) : Prop :=
  r.key.jobType ∈ q.view.jobTypes ∧ (q.days = 0 ∨ now < r.createdAt + daysSpan q.days) ∧
    (∀ scope ∈ q.scope, scope.Holds r) ∧ r.concerns q.serverPublicIds = true

instance (r : JobRow) : DecidablePred (HistoryScope.Holds r)
  | .environment => inferInstanceAs (Decidable (_ = _))
  | .selection => inferInstanceAs (Decidable (_ ∧ _))
  | .single => inferInstanceAs (Decidable (_ ∧ _))

instance (q : HistoryQuery) (now : ℕ) : DecidablePred (q.Matches now) :=
  fun _ => inferInstanceAs (Decidable (_ ∧ _))

/-- All records that match. -/
def StoredJobs.matching (jobs : StoredJobs) (q : HistoryQuery) (now : ℕ) : List JobRow :=
  jobs.rows.filter fun r => q.Matches now r

/-- Whatever the order in which the database reads its rows, the newest matching records are
returned, newest first, and all of them are counted. -/
def HistoryHolds (jobs : StoredJobs) (q : HistoryQuery) (now : ℕ) : Prop :=
  ∀ rows : List JobRow, rows.Perm jobs.rows →
    IsNewest JobRow.createdAt q.limit (jobs.matching q now) (listReports now q rows).1 ∧
      (listReports now q rows).2 = (jobs.matching q now).length

/-! ## The cap -/

/-- The rows among which `list_recent` takes the newest for a type of report. -/
def HistoryQuery.read (q : HistoryQuery) (now : ℕ) (jobType : String) (rows : List JobRow) :
    List JobRow :=
  rows.filter (listRecentWhere now q.days (repoScope q.scope) q.serverPublicIds jobType)

/-- Fewer than two hundred other rows of its type that the repository reads are as new as the
record. -/
def StoredJobs.WithinCap (jobs : StoredJobs) (q : HistoryQuery) (now : ℕ) (r : JobRow) : Prop :=
  (asNew JobRow.createdAt (q.read now r.key.jobType jobs.rows) r).length < listRecentLimit

section Query

variable {jobs : StoredJobs} {q : HistoryQuery} {now : ℕ} {rows : List JobRow} {r : JobRow}

lemma StoredJobs.nodup (jobs : StoredJobs) : jobs.rows.Nodup := jobs.unique.of_map

/-- A record matches when the repository reads it for its type and the service keeps it. -/
lemma matches_iff :
    q.Matches now r ↔ r.key.jobType ∈ q.view.jobTypes ∧ keptByScope q.scope r = true ∧
      listRecentWhere now q.days (repoScope q.scope) q.serverPublicIds r.key.jobType r = true := by
  obtain ⟨days, view, ids, limit, scope⟩ := q
  simp only [HistoryQuery.Matches, listRecentWhere, Bool.and_eq_true, Bool.or_eq_true,
    decide_eq_true_eq, and_true]
  cases scope with
  | none => simp [keptByScope, repoScope]
  | some scope => cases scope <;> simp [keptByScope, repoScope, HistoryScope.Holds] <;> tauto

/-- The newest rows of a type are of that type. -/
lemma mem_listRecent {jobType : String} :
    r ∈ listRecent now q.days (repoScope q.scope) q.serverPublicIds jobType rows ↔
      r.key.jobType = jobType ∧
        r ∈ newest JobRow.createdAt listRecentLimit (q.read now r.key.jobType rows) := by
  constructor
  · intro h
    have hread := (List.mem_filter.mp (mem_of_mem_newest h)).2
    simp only [listRecentWhere, Bool.and_eq_true, decide_eq_true_eq] at hread
    have htype : r.key.jobType = jobType := hread.1.2
    refine ⟨htype, ?_⟩
    rw [htype]
    exact h
  · rintro ⟨rfl, h⟩
    exact h

lemma mem_mergedReports :
    r ∈ mergedReports now q rows ↔
      r.key.jobType ∈ q.view.jobTypes ∧ keptByScope q.scope r = true ∧
        r ∈ newest JobRow.createdAt listRecentLimit (q.read now r.key.jobType rows) := by
  rw [mergedReports, List.mem_filter]
  cases q.view <;>
    simp only [List.mem_append, mem_listRecent, HistoryView.jobTypes, List.mem_cons,
      List.not_mem_nil, or_false] <;> tauto

lemma mergedReports_nodup (hrows : rows.Nodup) : (mergedReports now q rows).Nodup := by
  have hrecent : ∀ jobType,
      (listRecent now q.days (repoScope q.scope) q.serverPublicIds jobType rows).Nodup :=
    fun jobType => newest_nodup (hrows.filter _)
  refine List.Nodup.filter _ ?_
  cases q.view with
  | all =>
    refine List.Nodup.append (hrecent _) (hrecent _) fun r hcustomer hengineer => ?_
    have htypes := (mem_listRecent.mp hcustomer).1.symm.trans (mem_listRecent.mp hengineer).1
    exact absurd htypes (by decide)
  | customer => exact hrecent _
  | engineer => exact hrecent _

/-- What is merged matches, and a matching record is merged when it is among the newest of its
type. -/
lemma mem_mergedReports_iff_matches :
    r ∈ mergedReports now q rows ↔ r ∈ rows ∧ q.Matches now r ∧
      r ∈ newest JobRow.createdAt listRecentLimit (q.read now r.key.jobType rows) := by
  rw [mem_mergedReports, matches_iff]
  constructor
  · rintro ⟨htype, hkept, hnewest⟩
    obtain ⟨hrow, hread⟩ := List.mem_filter.mp (mem_of_mem_newest hnewest)
    exact ⟨hrow, ⟨htype, hkept, hread⟩, hnewest⟩
  · rintro ⟨_, ⟨htype, hkept, _⟩, hnewest⟩
    exact ⟨htype, hkept, hnewest⟩

lemma mem_matching : r ∈ jobs.matching q now ↔ r ∈ jobs.rows ∧ q.Matches now r := by
  simp [StoredJobs.matching]

lemma mem_read_of_matches (hr : r ∈ rows) (hmatches : q.Matches now r) :
    r ∈ q.read now r.key.jobType rows :=
  List.mem_filter.mpr ⟨hr, (matches_iff.mp hmatches).2.2⟩

lemma asNew_perm {rows' : List JobRow} (hperm : rows.Perm rows') :
    (asNew JobRow.createdAt (q.read now r.key.jobType rows) r).Perm
      (asNew JobRow.createdAt (q.read now r.key.jobType rows') r) :=
  (hperm.filter _).filter _

/-- Where the cap reaches no matching record, all of them are merged. -/
lemma mergedReports_perm (hperm : rows.Perm jobs.rows)
    (hcap : ∀ r ∈ jobs.rows, q.Matches now r → jobs.WithinCap q now r) :
    (mergedReports now q rows).Perm (jobs.matching q now) := by
  have hnodup : rows.Nodup := hperm.nodup_iff.mpr jobs.nodup
  refine (List.perm_ext_iff_of_nodup (mergedReports_nodup hnodup) (jobs.nodup.filter _)).mpr ?_
  intro r
  rw [mem_mergedReports_iff_matches, ← StoredJobs.matching, mem_matching, hperm.mem_iff]
  refine ⟨fun h => ⟨h.1, h.2.1⟩, fun h => ⟨h.1, h.2, ?_⟩⟩
  refine mem_newest (hnodup.filter _) (mem_read_of_matches (hperm.mem_iff.mpr h.1) h.2) ?_
  rw [(asNew_perm hperm).length_eq]
  exact hcap r h.1 h.2

/-- A record beyond the cap is not counted when the database reads it last. -/
lemma length_mergedReports_lt (hr : r ∈ jobs.rows) (hmatches : q.Matches now r)
    (hcap : ¬jobs.WithinCap q now r) :
    (mergedReports now q (moveLast jobs.rows r)).length < (jobs.matching q now).length := by
  have hperm := moveLast_perm hr
  have hnodup : (moveLast jobs.rows r).Nodup := hperm.nodup_iff.mpr jobs.nodup
  have hmany := not_lt.mp hcap
  have hread : r ∈ q.read now r.key.jobType (moveLast jobs.rows r) :=
    mem_read_of_matches (hperm.mem_iff.mpr hr) hmatches
  have hout : r ∉ mergedReports now q (moveLast jobs.rows r) := by
    intro hmem
    refine notMem_newest (hnodup.filter _) hread (fun b hb hne => ?_) ?_
      (mem_mergedReports_iff_matches.mp hmem).2.2
    · obtain ⟨hbrow, hbread⟩ := List.mem_filter.mp hb
      have hpair := (pair_sublist_moveLast (hperm.mem_iff.mp hbrow) hne).filter
        (listRecentWhere now q.days (repoScope q.scope) q.serverPublicIds r.key.jobType)
      rwa [List.filter_cons_of_pos hbread,
        List.filter_cons_of_pos (List.mem_filter.mp hread).2] at hpair
    · exact hmany.trans (asNew_perm hperm).symm.length_eq.le
  have hsub : r :: mergedReports now q (moveLast jobs.rows r) ⊆ jobs.matching q now := by
    intro a ha
    rcases List.mem_cons.mp ha with rfl | ha
    · exact mem_matching.mpr ⟨hr, hmatches⟩
    · obtain ⟨harow, hamatches, _⟩ := mem_mergedReports_iff_matches.mp ha
      exact mem_matching.mpr ⟨hperm.mem_iff.mp harow, hamatches⟩
  exact (List.subperm_of_subset (List.nodup_cons.mpr ⟨hout, mergedReports_nodup hnodup⟩)
    hsub).length_le

end Query

/-! ## When the history is complete -/

/-- The history is that of all matching records exactly when none of them lies behind two hundred
rows of its type that the repository reads for the same filters. -/
theorem historyHolds_iff (jobs : StoredJobs) (q : HistoryQuery) (now : ℕ) :
    HistoryHolds jobs q now ↔
      ∀ r ∈ jobs.rows, q.Matches now r → jobs.WithinCap q now r := by
  constructor
  · intro hholds r hr hmatches
    by_contra hcap
    have htotal := (hholds (moveLast jobs.rows r) (moveLast_perm hr)).2
    have hlength : (listReports now q (moveLast jobs.rows r)).2 =
        (mergedReports now q (moveLast jobs.rows r)).length := (newestFirst_perm _ _).length_eq
    exact (length_mergedReports_lt hr hmatches hcap).ne (hlength.symm.trans htotal)
  · intro hcap rows hperm
    have hmerged := mergedReports_perm hperm hcap
    refine ⟨(isNewest_newest q.limit _).perm hmerged, ?_⟩
    exact (newestFirst_perm _ _).length_eq.trans hmerged.length_eq

/-- A customer report of the environment. -/
def customerReport (id : ℕ) : JobRow where
  id := id
  key := ⟨"environment", "e7129db5", "customer_report"⟩
  inputParams :=
    { view := "customer"
      serverPublicIds := []
      timeRange := "7d"
      anchorAt := "2026-01-01T00:00:00+00:00"
      serverPublicId := none }
  status := .succeeded
  progressStage := none
  result := none
  errorMessage := none
  createdAt := 1767225600000000 + id
  startedAt := none
  finishedAt := none
  requestedBy := none

/-- Two hundred and one of them. -/
def manyReports : StoredJobs where
  rows := (List.range 201).map customerReport
  unique := by
    rw [List.map_map]
    exact List.nodup_range.map Function.injective_id

/-- The history counts two hundred. -/
theorem manyReports_not_historyHolds :
    ¬HistoryHolds manyReports ⟨0, .customer, none, 10000, none⟩ 1767225700000000 := by
  intro hholds
  have htotal := (hholds manyReports.rows (List.Perm.refl _)).2
  have hmatching : (manyReports.matching ⟨0, .customer, none, 10000, none⟩
      1767225700000000).length = 201 := by decide +kernel
  have hlength : (listReports 1767225700000000 ⟨0, .customer, none, 10000, none⟩
      manyReports.rows).2 ≤ listRecentLimit := by
    refine (newestFirst_perm _ _).length_eq.le.trans ?_
    exact (List.length_filter_le _ _).trans (length_newest_le _ _)
  rw [htotal, hmatching] at hlength
  exact absurd hlength (by decide)

end AssessmentEngine
