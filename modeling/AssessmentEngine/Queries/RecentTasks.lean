import AssessmentEngine.Library.CursorPages
import AssessmentEngine.Library.Newest
import AssessmentEngine.Queries.MetricTables
import AssessmentEngine.Tasks.Task

/-!
# The tasks of a server, page by page

`list_recent_tasks` from the endpoint to the query.  The rows are ordered by `created_at` and `id`,
but the cursor is the `created_at` of the last row alone: the next page begins behind all tasks of
that time, also those that were not shown yet.  So all tasks are shown exactly when no page ends
between tasks of one time (`taskPages_showAll_iff`).
-/

namespace AssessmentEngine

open CursorPages Newest

/-! ## Tables -/

/-- A row of `tasks` with its serial id. -/
structure TaskRecord extends Task where
  id : ℕ
  deriving DecidableEq, Repr

/-- The tables that the task queries read, beside those of the metric queries. -/
structure TaskTables extends MetricTables where
  tasks : KeyedTable TaskRecord.id
  taskIds_nodup : (tasks.rows.map fun r => r.publicId).Nodup

/-- `resolve_server_id`. -/
def MetricTables.resolveServerId (db : MetricTables) (publicId : String) : Option ℕ :=
  (db.serverInventory.rows.find? fun si => si.publicId = publicId).map InventoryRow.id

/-- `ORDER BY created_at DESC, id DESC`, as a key. -/
def TaskRecord.recency (r : TaskRecord) : ℤ ×ₗ ℕ := toLex (r.createdAt, r.id)

/-- `SqlTaskQueryRepository.list_recent_tasks`; the join on the id of the server neither adds nor
drops a task. -/
def TaskTables.listRecentTasks (db : TaskTables) (targetServerId limit : ℕ) (cursor : Option ℤ) :
    List TaskRecord :=
  newest TaskRecord.recency limit (db.tasks.rows.filter fun r =>
    r.targetServerId = targetServerId ∧ ∀ c ∈ cursor, r.createdAt < c)

/-! ## Summaries -/

/-- `_TASK_STATUS_DISPLAY`, with `_TASK_STATUS_UNKNOWN`. -/
def taskStatusDisplay (status : String) : String × String :=
  if status = "pending" ∨ status = "in_progress" then ("rec-pending", "진행 중")
  else if status = "success" then ("rec-success", "성공")
  else if status = "failure" ∨ status = "failed" then ("rec-failure", "실패")
  else ("rec-unknown", "—")

/-- `_task_type_label`. -/
def taskTypeLabel (taskType : String) : String :=
  if taskType = "zconverter_install" then "ZConverter Install" else taskType

/-- `_FAILURE_REASON_LABEL`. -/
def failureReasonLabel : List (String × String) :=
  [("url_not_allowed", "URL 화이트리스트 위반"),
    ("download_failed", "다운로드 실패"),
    ("sha256_mismatch", "체크섬 불일치"),
    ("extract_failed", "압축 해제 실패"),
    ("script_not_found", "스크립트 없음"),
    ("script_failed", "스크립트 비정상 종료"),
    ("script_timeout", "스크립트 timeout"),
    ("insufficient_disk", "디스크 공간 부족"),
    ("internal_error", "내부 오류"),
    ("already_done", "중복 배달"),
    ("unsupported_install_type", "agent 가 처리 못 하는 install type"),
    ("timeout", "응답 시간 초과(미수신)"),
    ("install_unverified", "설치 미확인 (데몬 미기동/미등록)")]

/-- `_failure_label`. -/
def failureLabel (reason : Option String) : Option String :=
  reason.map fun reason => (failureReasonLabel.lookup reason).getD reason

/-- The `is_timeout` of `_effective_display`. -/
def Task.timedOut (r : Task) (now : ℤ) : Bool :=
  decide (r.failureReason = some "timeout") ||
    (r.pending && r.deadlineAt.any fun deadline => decide (deadline < now))

/-- `TaskSummaryItem`. -/
structure TaskSummaryItem where
  taskId : String
  taskType : String
  status : String
  badgeClass : String
  badgeLabel : String
  failureLabel : Option String
  createdAt : ℤ
  completedAt : Option ℤ
  durationMs : Option ℕ
  deriving DecidableEq, Repr

/-- `to_task_summary`, with `_effective_display`. -/
def toTaskSummary (now : ℤ) (r : TaskRecord) : TaskSummaryItem :=
  let (status, reason) :=
    if r.timedOut now then ("failure", some "timeout") else (r.status, r.failureReason)
  let (badgeClass, badgeLabel) := taskStatusDisplay status
  { taskId := r.publicId
    taskType := taskTypeLabel r.taskType
    status, badgeClass, badgeLabel
    failureLabel := AssessmentEngine.failureLabel reason
    createdAt := r.createdAt
    completedAt := r.completedAt
    durationMs := r.durationMs }

/-- The endpoint `list_recent_tasks`. -/
def TaskTables.recentTasks (db : TaskTables) (now : ℤ) (serverPublicId : String) (limit : ℕ)
    (cursor : Option ℤ) : List TaskSummaryItem :=
  match db.resolveServerId serverPublicId with
  | none => []
  | some sid => (db.listRecentTasks sid limit cursor).map (toTaskSummary now)

/-- The pages of the endpoint, called at the times of a clock with the `created_at` of the last
item, until one is empty; no more calls are made than there are tasks, and one. -/
def TaskTables.taskPages (db : TaskTables) (clock : ℕ → ℤ) (serverPublicId : String) (limit : ℕ) :
    Option (List (List TaskSummaryItem)) :=
  walk TaskSummaryItem.createdAt
    (fun k cursor => db.recentTasks (clock k) serverPublicId limit cursor)
    (db.tasks.rows.length + 1) 0 none

/-! ## What the pages show -/

/-- The time of the cursor. -/
def TaskRecord.time (r : TaskRecord) : ℤ := r.createdAt

/-- The tasks of a server. -/
def TaskTables.tasksOf (db : TaskTables) (sid : ℕ) : List TaskRecord :=
  db.tasks.rows.filter fun r => r.targetServerId = sid

/-- The tasks of a server in the order of the query. -/
def TaskTables.timeline (db : TaskTables) (sid : ℕ) : List TaskRecord :=
  newestFirst TaskRecord.recency (db.tasksOf sid)

lemma resolveServerId_eq {db : MetricTables} {si : InventoryRow}
    (hsi : si ∈ db.serverInventory.rows) : db.resolveServerId si.publicId = some si.id := by
  have hfind : (db.serverInventory.rows.find? fun row => row.publicId = si.publicId) = some si := by
    cases hrow : db.serverInventory.rows.find? fun row => row.publicId = si.publicId with
    | none => exact absurd (decide_eq_true rfl) (List.find?_eq_none.mp hrow si hsi)
    | some row =>
      have hpublicId : row.publicId = si.publicId := by simpa using List.find?_some hrow
      rw [List.inj_on_of_nodup_map db.publicIds_nodup (List.mem_of_find?_eq_some hrow) hsi
        hpublicId]
  rw [MetricTables.resolveServerId, hfind, Option.map_some]

section Timeline

variable (db : TaskTables) (sid : ℕ)

/-- Different tasks differ in the key of the order, by their ids. -/
lemma nodup_recency : ((db.tasksOf sid).map TaskRecord.recency).Nodup := by
  refine List.Nodup.of_map (fun key => (ofLex key).2) ?_
  rw [List.map_map]
  exact (db.tasks.nodup_keys).sublist (List.filter_sublist.map _)

lemma timeline_sorted : (db.timeline sid).Pairwise fun a b => b.createdAt ≤ a.createdAt :=
  (newestFirst_sorted TaskRecord.recency _).imp fun h => Prod.Lex.monotone_fst_ofLex h

lemma timeline_perm : (db.timeline sid).Perm (db.tasksOf sid) :=
  newestFirst_perm TaskRecord.recency _

/-- An answer of the query is a page of the timeline. -/
lemma listRecentTasks_eq_page (limit : ℕ) (cursor : Option ℤ) :
    db.listRecentTasks sid limit cursor =
      page older TaskRecord.time limit (db.timeline sid) cursor := by
  have hfilter : (db.tasks.rows.filter fun r =>
      r.targetServerId = sid ∧ ∀ c ∈ cursor, r.createdAt < c) =
        (db.tasksOf sid).filter fun r => older cursor r.createdAt := by
    rw [TaskTables.tasksOf, List.filter_filter]
    apply List.filter_congr
    intro r _
    rw [Bool.decide_and, Bool.and_comm]
    cases cursor with
    | none => simp [older]
    | some c => simp [older]
  rw [TaskTables.listRecentTasks, newest, hfilter, newestFirst_filter (nodup_recency db sid)]
  rfl

end Timeline

variable {db : TaskTables} {si : InventoryRow} {limit : ℕ}

/-- The pages of the endpoint are those of a walk over the timeline. -/
lemma exists_taskPages (hsi : si ∈ db.serverInventory.rows) (limit : ℕ) (clock : ℕ → ℤ) :
    ∃ pages rowPages, db.taskPages clock si.publicId limit = some pages ∧
      walk TaskRecord.time
        (fun _ => page older TaskRecord.time limit (db.timeline si.id))
        (db.tasks.rows.length + 1) 0 none = some rowPages ∧
      (pages.flatten.map fun item => (item.taskId, item.createdAt)) =
        rowPages.flatten.map fun r => (r.publicId, r.createdAt) := by
  have hanswer : ∀ k cursor, ((db.recentTasks (clock k) si.publicId limit cursor).map
      fun item => (item.taskId, item.createdAt)) =
        (page older TaskRecord.time limit (db.timeline si.id) cursor).map
          fun r => (r.publicId, r.createdAt) := by
    intro k cursor
    rw [TaskTables.recentTasks, resolveServerId_eq hsi, ← listRecentTasks_eq_page]
    simp only [List.map_map]
    rfl
  have hcalls : (db.timeline si.id).length < db.tasks.rows.length + 1 := by
    have hle := List.length_filter_le (fun r => decide (r.targetServerId = si.id)) db.tasks.rows
    rw [(timeline_perm db si.id).length_eq]
    exact Nat.lt_succ_of_le hle
  have henough : (walk TaskRecord.time
      (fun _ => page older TaskRecord.time limit (db.timeline si.id))
      (db.tasks.rows.length + 1) 0 none).isSome = true :=
    walk_page_isSome (fun _ _ => lt_of_older) hcalls none
  obtain ⟨rowPages, hwalk⟩ := Option.isSome_iff_exists.mp henough
  obtain ⟨pages, hpages, hmap⟩ := exists_pages_of_walk
    (fun item : TaskSummaryItem => (item.taskId, item.createdAt))
    (fun r : TaskRecord => (r.publicId, r.time)) Prod.snd
    (fun k cursor => db.recentTasks (clock k) si.publicId limit cursor)
    (fun k c => hanswer k (some c)) (hanswer 0 none) hwalk
  exact ⟨pages, rowPages, hpages, hwalk, hmap⟩

/-- The calls never run out; the pages show tasks of the server in the order of the query and none
twice, and they show all of them exactly when no page ends between tasks of one time. -/
theorem taskPages_showAll_iff (hsi : si ∈ db.serverInventory.rows) (hlimit : 0 < limit)
    (clock : ℕ → ℤ) :
    ∃ pages, db.taskPages clock si.publicId limit = some pages ∧
      (pages.flatten.map TaskSummaryItem.taskId).Sublist
        ((db.timeline si.id).map fun r => r.publicId) ∧
      (ShowAll TaskSummaryItem.createdAt TaskSummaryItem.taskId
        ((db.tasksOf si.id).map fun r => r.publicId) pages ↔
          BordersApart TaskRecord.time limit (db.timeline si.id)) := by
  obtain ⟨pages, rowPages, hpages, hwalk, hmap⟩ := exists_taskPages hsi limit clock
  have hsorted := timeline_sorted db si.id
  have hsub : rowPages.flatten.Sublist (db.timeline si.id) :=
    sublist_of_walk (fun _ _ => lt_of_older) hsorted hwalk
  refine ⟨pages, hpages, ?_, ?_⟩
  · have hids := congrArg (List.map Prod.fst) hmap
    rw [List.map_map, List.map_map] at hids
    exact hids ▸ hsub.map _
  · rw [showAll_iff ((timeline_perm db si.id).symm.map _) hsorted hsub hmap,
      flatten_olderPages_iff hlimit hsorted hwalk]
    exact and_iff_right fun _ _ => rfl

end AssessmentEngine
