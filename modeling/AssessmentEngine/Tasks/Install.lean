import Mathlib.Data.List.Sort
import AssessmentEngine.Tasks.PackageMeta

/-!
# Emitting install tasks

`TaskService.create_install_tasks`: the targets are looked up, overdue tasks are expired, servers
with a task in progress are refused, packages are resolved for each operating system, and then the
loop inserts, publishes and commits one server after the other.  The first three passes raise
before anything is emitted; the loop can raise after some of its servers have been committed.
-/

namespace AssessmentEngine

open Table

/-! ## Settings and messages -/

/-- The settings of the web process that the service reads. -/
structure WebSettings where
  zdmPackagePath : String := "/download/ZConverter_CloudSource_Setup_Linux.tar.gz"
  zdmPackageScript : String := "zconverter_install_source/install.sh"
  zdmPackagePathWindows : String := "/download/ZConverter_CloudSource_Setup_Windows.exe"
  installTaskDeadlineSec : ℕ := 3600
  installTimeoutSec : ℕ := 600
  rabbitmqTaskInstallKeyPrefix : String := "task.install"

/-- The columns of `server_inventory` that the service reads. -/
structure ServerDetail where
  id : ℕ
  publicId : String
  agentId : String
  hostname : String
  osFamily : Option String
  deriving DecidableEq, Repr

/-- `server_inventory`, with its primary key and the unique public id. -/
structure ServerTable where
  rows : List ServerDetail
  ids : (rows.map ServerDetail.id).Nodup
  publicIds : (rows.map ServerDetail.publicId).Nodup

/-- The payload of `task.install` and its routing key. -/
structure InstallMessage where
  messageType : String
  schemaVersion : String
  taskId : String
  agentId : String
  issuedAt : ℤ
  url : String
  sha256 : String
  sizeBytes : ℤ
  installType : String
  script : Option String
  args : List String
  timeoutSec : ℕ
  routingKey : String
  deriving DecidableEq, Repr

structure TaskCreated where
  targetPublicId : String
  taskId : String
  targetOnline : Bool
  deriving DecidableEq, Repr

/-- The exceptions that the router turns into a response. -/
inductive InstallErrorKind
  | taskNotFoundError
  | taskDuplicatePendingError
  | taskNotConfiguredError
  | taskPublishFailedError
  deriving DecidableEq, Repr

/-- The places at which the service raises. -/
inductive InstallError
  | targetNotFound
  | busy (hostnames : List String)
  | unsupportedOsFamily (osFamily : String)
  | packageMeta (error : ZdmPackageMetaError)
  | detailMissing
  | conflict (hostname : String)
  | publishFailed (hostname : String)
  deriving DecidableEq, Repr

def InstallError.kind : InstallError → InstallErrorKind
  | .targetNotFound | .detailMissing => .taskNotFoundError
  | .busy _ | .conflict _ => .taskDuplicatePendingError
  | .unsupportedOsFamily _ | .packageMeta _ => .taskNotConfiguredError
  | .publishFailed _ => .taskPublishFailedError

/-- The text of the exception; the operating system stands in it as `repr` writes a plain word. -/
def InstallError.message : InstallError → String
  | .targetNotFound =>
    "선택한 서버 중 일부를 찾을 수 없어 전체 발행을 취소했습니다 (이미 삭제됐을 수 있음)."
  | .busy hostnames =>
    "이미 설치 작업이 진행 중인 서버가 있어 전체 발행을 취소했습니다: " ++ ", ".intercalate hostnames
  | .unsupportedOsFamily osFamily => "unsupported os_family='" ++ osFamily ++ "'"
  | .packageMeta _ =>
    "ZDM 패키지 정보를 가져오지 못해 발행을 취소했습니다. ZDM 서버 연결을 확인하세요."
  | .detailMissing => "서버 정보를 불러오지 못해 발행을 취소했습니다."
  | .conflict hostname =>
    "발행 도중 다른 작업과 충돌했습니다: " ++ hostname ++ ". 잠시 후 다시 시도하세요."
  | .publishFailed hostname =>
    "작업 발행 중 broker 오류로 취소했습니다: " ++ hostname ++ ". 잠시 후 다시 시도하세요."

/-- What the service depends on: the resolver of package digests, the broker at each turn of the
loop, the ids that the database draws, and the online flags (`none` without Redis). -/
structure InstallEnv where
  settings : WebSettings
  resolver : String → String → Except ZdmPackageMetaError (String × ℤ)
  broker : ℕ → Bool
  taskId : ℕ → String
  online : Option (ℕ → Bool)

/-- The database and the messages published so far. -/
structure InstallWorld where
  now : ℤ
  servers : ServerTable
  tasks : List Task
  published : List InstallMessage

/-! ## The passes before the loop -/

/-- `_TASK_TYPE_INSTALL`. -/
def taskTypeInstall : String := "zconverter_install"

/-- `_extract_zdm_host`. -/
def extractZdmHost (zdmIp : String) : String :=
  let lower := zdmIp.toList.map Char.toLower
  let rest :=
    if "https://".toList.isPrefixOf lower then zdmIp.toList.drop 8
    else if "http://".toList.isPrefixOf lower then zdmIp.toList.drop 7
    else zdmIp.toList
  let stripped := ((rest.dropWhile (· = '/')).reverse.dropWhile (· = '/')).reverse
  String.ofList (stripped.takeWhile (· ≠ '/'))

/-- Path, type and script of the package for an operating system. -/
structure InstallDispatch where
  packagePath : String
  installType : String
  installScript : Option String
  deriving DecidableEq, Repr

/-- `_resolve_install_dispatch`. -/
def resolveInstallDispatch (settings : WebSettings) (osFamily : String) :
    Except InstallError InstallDispatch :=
  if osFamily = "linux" then .ok ⟨settings.zdmPackagePath, "shell", some settings.zdmPackageScript⟩
  else if osFamily = "windows" then .ok ⟨settings.zdmPackagePathWindows, "direct_exec", none⟩
  else .error (.unsupportedOsFamily osFamily)

/-- `detail.os_family or "linux"`. -/
def ServerDetail.family (d : ServerDetail) : String :=
  (nonempty d.osFamily).getD "linux"

/-- A server with its dispatch and the digest and size of its package: what the service keeps in
`detail_by_id`, `dispatch_by_host` and `meta_by_path`. -/
structure PlannedInstall where
  detail : ServerDetail
  dispatch : InstallDispatch
  sha256 : String
  sizeBytes : ℤ

/-- The pass over the servers; each path is resolved once. -/
def planServers (env : InstallEnv) (zdmHost : String) :
    List ServerDetail → List (String × (String × ℤ)) → Except InstallError (List PlannedInstall)
  | [], _ => .ok []
  | d :: rest, metaByPath =>
    match resolveInstallDispatch env.settings d.family with
    | .error e => .error e
    | .ok dispatch =>
      match metaByPath.lookup dispatch.packagePath with
      | some found =>
        (planServers env zdmHost rest metaByPath).map
          (⟨d, dispatch, found.1, found.2⟩ :: ·)
      | none =>
        match env.resolver zdmHost dispatch.packagePath with
        | .error e => .error (.packageMeta e)
        | .ok found =>
          (planServers env zdmHost rest ((dispatch.packagePath, found) :: metaByPath)).map
            (⟨d, dispatch, found.1, found.2⟩ :: ·)

/-- `resolve_server_ids`, for one id. -/
def ServerTable.lookup (servers : ServerTable) (publicId : String) : Option ℕ :=
  (servers.rows.find? fun d => decide (d.publicId = publicId)).map ServerDetail.id

/-! ## The loop -/

/-- The arguments of the call that the loop uses. -/
structure InstallJob where
  zdmIp : String
  zdmUser : String
  plan : List PlannedInstall

def InstallJob.find (job : InstallJob) (serverId : ℕ) : Option PlannedInstall :=
  job.plan.find? fun p => decide (p.detail.id = serverId)

/-- The row that the loop inserts for a server. -/
def InstallJob.create (job : InstallJob) (env : InstallEnv) (now : ℤ) (p : PlannedInstall) :
    TaskCreate where
  targetServerId := p.detail.id
  targetAgentId := p.detail.agentId
  taskType := taskTypeInstall
  params := some [("zdm_ip", job.zdmIp), ("zdm_user", job.zdmUser)]
  deadlineAt := some (now + env.settings.installTaskDeadlineSec * 1000000)

/-- `_publish_install`. -/
def InstallJob.message (job : InstallJob) (env : InstallEnv) (now : ℤ) (taskId : String)
    (p : PlannedInstall) : InstallMessage where
  messageType := "task.install"
  schemaVersion := "1.0"
  taskId := taskId
  agentId := p.detail.agentId
  issuedAt := now
  url := "http://" ++ extractZdmHost job.zdmIp ++ p.dispatch.packagePath
  sha256 := p.sha256
  sizeBytes := p.sizeBytes
  installType := p.dispatch.installType
  script := p.dispatch.installScript
  args := ["-s", extractZdmHost job.zdmIp, "-u", job.zdmUser]
  timeoutSec := env.settings.installTimeoutSec
  routingKey := env.settings.rabbitmqTaskInstallKeyPrefix ++ "." ++ p.detail.agentId

/-- The loop over the targets, from its `i`-th turn: insert, publish, commit.  An insertion whose
message is not published is rolled back. -/
def emitLoop (env : InstallEnv) (job : InstallJob) :
    ℕ → List String → List TaskCreated → InstallWorld →
      Except InstallError (List TaskCreated) × InstallWorld
  | _, [], created, s => (.ok created, s)
  | i, publicId :: rest, created, s =>
    match (s.servers.lookup publicId).bind job.find with
    | none => (.error .detailMissing, s)
    | some p =>
      match createTask s.now (env.taskId i) (job.create env s.now p) s.tasks with
      | none => (.error (.conflict p.detail.hostname), s)
      | some tasks =>
        if env.broker i then
          emitLoop env job (i + 1) rest
            (created ++ [⟨publicId, env.taskId i, env.online.all (· p.detail.id)⟩])
            { s with
              tasks := tasks
              published := s.published ++ [job.message env s.now (env.taskId i) p] }
        else (.error (.publishFailed p.detail.hostname), s)

/-- `create_install_tasks`. -/
def createInstallTasks (env : InstallEnv) (targetPublicIds : List String)
    (zdmIp zdmUser : String) (s : InstallWorld) :
    Except InstallError (List TaskCreated) × InstallWorld :=
  if targetPublicIds.any fun publicId => (s.servers.lookup publicId).isNone then
    (.error .targetNotFound, s)
  else
    let serverIds := targetPublicIds.filterMap s.servers.lookup
    let details := s.servers.rows.filter fun d => decide (d.id ∈ serverIds)
    let s := { s with tasks := expireOverdueTasks s.now serverIds s.tasks }
    let busyIds := findPendingDeadlineServers serverIds s.tasks
    if busyIds ≠ [] then
      (.error (.busy (((details.filter fun d => decide (d.id ∈ busyIds)).map
        ServerDetail.hostname).insertionSort (· ≤ ·))), s)
    else
      match planServers env (extractZdmHost zdmIp) details [] with
      | .error e => (.error e, s)
      | .ok plan => emitLoop env ⟨zdmIp, zdmUser, plan⟩ 0 targetPublicIds [] s

end AssessmentEngine
