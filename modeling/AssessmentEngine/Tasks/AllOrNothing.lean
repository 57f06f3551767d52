import Mathlib.Data.List.Dedup
import AssessmentEngine.Tasks.Install

/-!
# When a failed emission has emitted nothing

The passes before the loop raise without having emitted anything.  In the loop only a conflict can
raise one of the announced exceptions, and it meets nothing emitted exactly when it is the first
target's.  Conflicts are not all ruled out before: a public id may be listed twice, and a pending
task without a deadline is neither expired nor reported as in progress.
-/

namespace AssessmentEngine

open Table

/-! ## The condition on the input -/

/-- The exceptions announced as all-or-nothing. -/
def InstallErrorKind.announced : InstallErrorKind → Bool
  | .taskPublishFailedError => false
  | _ => true

/-- No task of the call is committed and no message of the call is published. -/
def NothingEmitted (s t : InstallWorld) : Prop :=
  t.tasks.map Task.publicId = s.tasks.map Task.publicId ∧ t.published = s.published

/-- If the call raises one of the announced exceptions, nothing is emitted. -/
def AllOrNothing (s : InstallWorld)
    (out : Except InstallError (List TaskCreated) × InstallWorld) : Prop :=
  ∀ e, out.1 = .error e → e.kind.announced = true → NothingEmitted s out.2

/-- The operating system of the server has a package, and its digest can be had. -/
def Supported (env : InstallEnv) (zdmHost : String) (d : ServerDetail) : Prop :=
  ∃ dispatch found, resolveInstallDispatch env.settings d.family = .ok dispatch ∧
    env.resolver zdmHost dispatch.packagePath = .ok found

/-- The server has a pending install task without a deadline. -/
def StuckPending (s : InstallWorld) (serverId : ℕ) : Prop :=
  ∃ r ∈ s.tasks, r.pending = true ∧ r.slot = (serverId, taskTypeInstall) ∧ r.deadlineAt = none

/-- The `k`-th target is listed before, or its server has a pending install task without a
deadline. -/
def Clash (s : InstallWorld) (targetPublicIds : List String) (k : ℕ) : Prop :=
  ∃ publicId, targetPublicIds[k]? = some publicId ∧
    (publicId ∈ targetPublicIds.take k ∨
      ∃ serverId, s.servers.lookup publicId = some serverId ∧ StuckPending s serverId)

/-- All passes before the loop go well, and the first target in the loop that fails is not the first
of all and fails by a clash. -/
structure LateClash (env : InstallEnv) (targetPublicIds : List String) (zdmIp : String)
    (s : InstallWorld) : Prop where
  known : ∀ publicId ∈ targetPublicIds, ∃ d ∈ s.servers.rows, d.publicId = publicId
  notBusy : ∀ publicId ∈ targetPublicIds, ∀ serverId, s.servers.lookup publicId = some serverId →
    ∀ r ∈ s.tasks, r.targetServerId = serverId → r.pending = true →
      ∀ deadline, r.deadlineAt = some deadline → deadline < s.now
  supported : ∀ d ∈ s.servers.rows, d.publicId ∈ targetPublicIds →
    Supported env (extractZdmHost zdmIp) d
  late : ∃ k, 0 < k ∧ Clash s targetPublicIds k ∧
    ∀ j < k, ¬ Clash s targetPublicIds j ∧ env.broker j = true

/-! ## Servers -/

lemma ServerTable.lookup_eq_some {servers : ServerTable} {publicId : String} {serverId : ℕ} :
    servers.lookup publicId = some serverId ↔
      ∃ d ∈ servers.rows, d.publicId = publicId ∧ d.id = serverId := by
  constructor
  · intro h
    obtain ⟨d, hd, hid⟩ := Option.map_eq_some_iff.mp h
    exact ⟨d, List.mem_of_find?_eq_some hd, by simpa using List.find?_some hd, hid⟩
  · rintro ⟨d, hd, rfl, rfl⟩
    have hfound : findId ServerDetail.publicId d.publicId servers.rows = some d :=
      findId_of_mem servers.publicIds hd
    rw [ServerTable.lookup]
    exact congrArg (Option.map ServerDetail.id) hfound

/-- Different public ids are different servers. -/
lemma ServerTable.lookup_inj {servers : ServerTable} {publicId publicId' : String} {serverId : ℕ}
    (h : servers.lookup publicId = some serverId) (h' : servers.lookup publicId' = some serverId) :
    publicId = publicId' := by
  obtain ⟨d, hd, rfl, hid⟩ := ServerTable.lookup_eq_some.mp h
  obtain ⟨d', hd', rfl, hid'⟩ := ServerTable.lookup_eq_some.mp h'
  rw [List.inj_on_of_nodup_map servers.ids hd hd' (hid.trans hid'.symm)]

/-! ## The pass over the servers -/

/-- What is known about packages is what the resolver says. -/
def MetaSound (env : InstallEnv) (zdmHost : String) (metaByPath : List (String × (String × ℤ))) :
    Prop :=
  ∀ path found, metaByPath.lookup path = some found → env.resolver zdmHost path = .ok found

lemma MetaSound.cons {env : InstallEnv} {zdmHost path : String} {found : String × ℤ}
    {metaByPath : List (String × (String × ℤ))} (hmeta : MetaSound env zdmHost metaByPath)
    (hfound : env.resolver zdmHost path = .ok found) :
    MetaSound env zdmHost ((path, found) :: metaByPath) := by
  intro path' found' hlookup
  rw [List.lookup_cons] at hlookup
  by_cases hsame : path' = path
  · simp only [hsame, beq_self_eq_true, Option.some_inj] at hlookup
    rw [hsame, hfound, hlookup]
  · simp only [beq_eq_false_iff_ne.mpr hsame] at hlookup
    exact hmeta path' found' hlookup

/-- With a dispatch for the first server, the pass goes on with what the resolver says about its
package, whether that is asked now or was before; or the resolver fails. -/
lemma planServers_cons {env : InstallEnv} {zdmHost : String} {d : ServerDetail}
    {dispatch : InstallDispatch} {metaByPath : List (String × (String × ℤ))}
    (hdispatch : resolveInstallDispatch env.settings d.family = .ok dispatch)
    (hmeta : MetaSound env zdmHost metaByPath) (rest : List ServerDetail) :
    (∃ found metaByPath', env.resolver zdmHost dispatch.packagePath = .ok found ∧
        MetaSound env zdmHost metaByPath' ∧
        planServers env zdmHost (d :: rest) metaByPath =
          (planServers env zdmHost rest metaByPath').map (⟨d, dispatch, found.1, found.2⟩ :: ·)) ∨
      ∃ e, env.resolver zdmHost dispatch.packagePath = .error e ∧
        planServers env zdmHost (d :: rest) metaByPath = .error (.packageMeta e) := by
  cases hlookup : metaByPath.lookup dispatch.packagePath with
  | some found =>
    have hfound : env.resolver zdmHost dispatch.packagePath = .ok found := hmeta _ _ hlookup
    exact Or.inl ⟨found, metaByPath, hfound, hmeta, by simp [planServers, hdispatch, hlookup]⟩
  | none =>
    cases hresolver : env.resolver zdmHost dispatch.packagePath with
    | error e => exact Or.inr ⟨e, rfl, by simp [planServers, hdispatch, hlookup, hresolver]⟩
    | ok found =>
      have hmeta' : MetaSound env zdmHost ((dispatch.packagePath, found) :: metaByPath) :=
        hmeta.cons hresolver
      exact Or.inl ⟨found, _, rfl, hmeta', by simp [planServers, hdispatch, hlookup, hresolver]⟩

/-- A plan covers the servers, and exists exactly if all of them are supported. -/
lemma planServers_spec {env : InstallEnv} {zdmHost : String} (details : List ServerDetail)
    {metaByPath : List (String × (String × ℤ))} (hmeta : MetaSound env zdmHost metaByPath) :
    (∃ plan, planServers env zdmHost details metaByPath = .ok plan ∧
        plan.map PlannedInstall.detail = details ∧ ∀ d ∈ details, Supported env zdmHost d) ∨
      (∃ e, planServers env zdmHost details metaByPath = .error e ∧
        ∃ d ∈ details, ¬ Supported env zdmHost d) := by
  induction details generalizing metaByPath with
  | nil => exact Or.inl ⟨[], rfl, rfl, by simp⟩
  | cons d rest ih =>
    cases hdispatch : resolveInstallDispatch env.settings d.family with
    | error e =>
      have hnot : ¬ Supported env zdmHost d := by
        rintro ⟨dispatch, _, hok, _⟩
        rw [hdispatch] at hok
        cases hok
      exact Or.inr ⟨e, by simp [planServers, hdispatch], d, by simp, hnot⟩
    | ok dispatch =>
      rcases planServers_cons hdispatch hmeta rest with
        ⟨found, metaByPath', hresolver, hmeta', hplan⟩ | ⟨e, hresolver, hplan⟩
      · have hd : Supported env zdmHost d := ⟨dispatch, found, hdispatch, hresolver⟩
        rcases ih hmeta' with ⟨plan, hrest, hmap, hall⟩ | ⟨e, hrest, d', hd', hnot⟩
        · refine Or.inl ⟨⟨d, dispatch, found.1, found.2⟩ :: plan, by rw [hplan, hrest]; rfl,
            by rw [List.map_cons, hmap], ?_⟩
          rintro d' (_ | ⟨_, hd'⟩)
          · exact hd
          · exact hall d' hd'
        · exact Or.inr ⟨e, by rw [hplan, hrest]; rfl, d', List.mem_cons_of_mem _ hd', hnot⟩
      · have hnot : ¬ Supported env zdmHost d := by
          rintro ⟨dispatch', found, hdispatch', hok⟩
          have hsame : dispatch = dispatch' := Except.ok.inj (hdispatch.symm.trans hdispatch')
          rw [← hsame, hresolver] at hok
          cases hok
        exact Or.inr ⟨.packageMeta e, hplan, d, by simp, hnot⟩

/-! ## The loop -/

/-- A pending install task holds the slot of the target. -/
def SlotTaken (s : InstallWorld) (publicId : String) : Prop :=
  ∃ serverId, s.servers.lookup publicId = some serverId ∧
    ∃ r ∈ s.tasks, r.pending = true ∧ r.slot = (serverId, taskTypeInstall)

/-- The `k`-th target of the loop is listed before in it, or its slot is taken when it starts. -/
def LoopClash (s : InstallWorld) (targets : List String) (k : ℕ) : Prop :=
  ∃ publicId, targets[k]? = some publicId ∧
    (publicId ∈ targets.take k ∨ SlotTaken s publicId)

lemma loopClash_zero {s : InstallWorld} {publicId : String} {rest : List String} :
    LoopClash s (publicId :: rest) 0 ↔ SlotTaken s publicId := by
  constructor
  · rintro ⟨_, hget, hmem | htaken⟩
    · simp at hmem
    · rw [List.getElem?_cons_zero, Option.some_inj] at hget
      rwa [hget]
  · exact fun htaken => ⟨publicId, rfl, Or.inr htaken⟩

/-- What the first turn commits is, for the others, a target listed before them. -/
lemma loopClash_succ {s t : InstallWorld} {publicId : String} {rest : List String}
    (htaken : ∀ other, SlotTaken t other ↔ SlotTaken s other ∨ other = publicId) (k : ℕ) :
    LoopClash s (publicId :: rest) (k + 1) ↔ LoopClash t rest k := by
  refine exists_congr fun other => and_congr (by rw [List.getElem?_cons_succ]) ?_
  rw [List.take_succ_cons, List.mem_cons, htaken other]
  tauto

/-- How the loop ends: with all targets emitted, at a clash, or at a failing broker; the targets
before that turn have been committed and published. -/
inductive EmitVerdict (env : InstallEnv) (i : ℕ) (targets : List String) (s : InstallWorld) :
    Except InstallError (List TaskCreated) × InstallWorld → Prop
  | done (created : List TaskCreated) (t : InstallWorld)
      (hall : ∀ k < targets.length, ¬ LoopClash s targets k ∧ env.broker (i + k) = true) :
    EmitVerdict env i targets s (.ok created, t)
  | conflict (k : ℕ) (hostname : String) (t : InstallWorld) (hclash : LoopClash s targets k)
      (hbefore : ∀ j < k, ¬ LoopClash s targets j ∧ env.broker (i + j) = true)
      (hpublished : t.published.length = s.published.length + k) (hfirst : k = 0 → t = s) :
    EmitVerdict env i targets s (.error (.conflict hostname), t)
  | publishFailed (k : ℕ) (hostname : String) (t : InstallWorld) (hclash : ¬ LoopClash s targets k)
      (hbroker : env.broker (i + k) = false)
      (hbefore : ∀ j < k, ¬ LoopClash s targets j ∧ env.broker (i + j) = true) :
    EmitVerdict env i targets s (.error (.publishFailed hostname), t)

/-- A committed task takes the slot of its target and of no other. -/
lemma slotTaken_append {s : InstallWorld} {publicId other : String} {serverId : ℕ} {new : Task}
    {published : List InstallMessage} (hlookup : s.servers.lookup publicId = some serverId)
    (hpending : new.pending = true) (hslot : new.slot = (serverId, taskTypeInstall)) :
    SlotTaken { s with tasks := s.tasks ++ [new], published := published } other ↔
      SlotTaken s other ∨ other = publicId := by
  constructor
  · rintro ⟨otherId, hother, r, hr, hrpending, hrslot⟩
    rcases List.mem_append.mp hr with hold | hnew
    · exact Or.inl ⟨otherId, hother, r, hold, hrpending, hrslot⟩
    · rw [List.mem_singleton.mp hnew, hslot, Prod.mk.injEq] at hrslot
      exact Or.inr (ServerTable.lookup_inj hother (hrslot.1 ▸ hlookup))
  · rintro (⟨otherId, hother, r, hr, hrow⟩ | rfl)
    · exact ⟨otherId, hother, r, List.mem_append_left _ hr, hrow⟩
    · exact ⟨serverId, hlookup, new, by simp, hpending, hslot⟩

/-- What one turn does: it fails at a taken slot or at the broker, and leaves everything as it was,
or it commits and publishes for its target. -/
lemma emitLoop_turn (env : InstallEnv) (job : InstallJob) (i : ℕ) (publicId : String)
    (rest : List String) (created : List TaskCreated) {s : InstallWorld} {p : PlannedInstall}
    (hlookup : s.servers.lookup publicId = some p.detail.id)
    (hfind : job.find p.detail.id = some p) :
    (SlotTaken s publicId ∧ emitLoop env job i (publicId :: rest) created s =
        (.error (.conflict p.detail.hostname), s)) ∨
      (¬ SlotTaken s publicId ∧ env.broker i = false ∧
        emitLoop env job i (publicId :: rest) created s =
          (.error (.publishFailed p.detail.hostname), s)) ∨
      (¬ SlotTaken s publicId ∧ env.broker i = true ∧ ∃ created' t,
        emitLoop env job i (publicId :: rest) created s = emitLoop env job (i + 1) rest created' t ∧
        t.servers = s.servers ∧ t.published.length = s.published.length + 1 ∧
        ∀ other, SlotTaken t other ↔ SlotTaken s other ∨ other = publicId) := by
  have hp : (s.servers.lookup publicId).bind job.find = some p := by
    rw [hlookup, Option.bind_some, hfind]
  have htaken : SlotTaken s publicId ↔
      ∃ r ∈ s.tasks, r.pending = true ∧ r.slot = (p.detail.id, taskTypeInstall) := by
    constructor
    · rintro ⟨serverId, hid, hr⟩
      rw [hlookup, Option.some_inj] at hid
      rwa [hid]
    · exact fun hr => ⟨p.detail.id, hlookup, hr⟩
  cases hcreate : createTask s.now (env.taskId i) (job.create env s.now p) s.tasks with
  | none =>
    have hloop : emitLoop env job i (publicId :: rest) created s =
        (.error (.conflict p.detail.hostname), s) := by
      rw [emitLoop, hp]
      simp only [hcreate]
    exact Or.inl ⟨htaken.mpr (createTask_eq_none_iff.mp hcreate), hloop⟩
  | some tasks =>
    obtain ⟨rfl, hfree⟩ := createTask_eq_some hcreate
    have hnot : ¬ SlotTaken s publicId := by
      rw [htaken]
      rintro ⟨r, hr, hpending, hslot⟩
      exact hfree r hr hpending hslot
    rw [emitLoop, hp]
    simp only [hcreate]
    by_cases hbroker : env.broker i = true
    · rw [if_pos hbroker]
      refine Or.inr (Or.inr ⟨hnot, hbroker, _, _, rfl, rfl, ?_, fun other => ?_⟩)
      · rw [List.length_append, List.length_singleton]
      · exact slotTaken_append hlookup rfl rfl
    · rw [if_neg hbroker]
      exact Or.inr (Or.inl ⟨hnot, Bool.eq_false_iff.mpr hbroker, rfl⟩)

theorem emitLoop_verdict (env : InstallEnv) (job : InstallJob) (i : ℕ) (targets : List String)
    (created : List TaskCreated) (s : InstallWorld)
    (hplan : ∀ publicId ∈ targets, ∃ p, s.servers.lookup publicId = some p.detail.id ∧
      job.find p.detail.id = some p) :
    EmitVerdict env i targets s (emitLoop env job i targets created s) := by
  induction targets generalizing i created s with
  | nil => exact .done created s (by simp)
  | cons publicId rest ih =>
    obtain ⟨p, hlookup, hfind⟩ := hplan publicId (by simp)
    rcases emitLoop_turn env job i publicId rest created hlookup hfind with
      ⟨htaken, hloop⟩ | ⟨hfree, hbroker, hloop⟩ |
        ⟨hfree, hbroker, created', t, hloop, hservers, hlength, hslots⟩
    · rw [hloop]
      exact .conflict 0 _ s (loopClash_zero.mpr htaken) (by simp) rfl fun _ => rfl
    · rw [hloop]
      exact .publishFailed 0 _ s (fun h => hfree (loopClash_zero.mp h)) hbroker (by simp)
    · have hshift : ∀ k, LoopClash s (publicId :: rest) (k + 1) ↔ LoopClash t rest k :=
        loopClash_succ hslots
      have hindex : ∀ k, i + 1 + k = i + (k + 1) := by
        intro k
        omega
      have hbefore : ∀ k, (∀ j < k, ¬ LoopClash t rest j ∧ env.broker (i + 1 + j) = true) →
          ∀ j < k + 1, ¬ LoopClash s (publicId :: rest) j ∧ env.broker (i + j) = true := by
        intro k hk j hj
        rcases Nat.eq_zero_or_eq_succ_pred j with rfl | hj'
        · exact ⟨fun h => hfree (loopClash_zero.mp h), hbroker⟩
        · rw [hj', hshift, ← hindex]
          exact hk j.pred (by omega)
      have hverdict : EmitVerdict env (i + 1) rest t
          (emitLoop env job (i + 1) rest created' t) := by
        refine ih (i + 1) created' t fun other hother => ?_
        rw [hservers]
        exact hplan other (List.mem_cons_of_mem _ hother)
      rw [hloop]
      generalize emitLoop env job (i + 1) rest created' t = out at hverdict ⊢
      cases hverdict with
      | done created u hall => exact .done created u (hbefore rest.length hall)
      | conflict k hostname u hclash hbefore' hpublished _ =>
        refine .conflict (k + 1) hostname u ((hshift k).mpr hclash) (hbefore k hbefore') ?_
          (fun hk => absurd hk (Nat.succ_ne_zero k))
        rw [hpublished, hlength]
        omega
      | publishFailed k hostname u hclash hbroker' hbefore' =>
        refine .publishFailed (k + 1) hostname u (fun h => hclash ((hshift k).mp h)) ?_
          (hbefore k hbefore')
        rwa [hindex] at hbroker'

/-! ## The passes before the loop -/

section passes

variable {s : InstallWorld} {targets : List String}

lemma known_iff :
    (targets.any fun publicId => (s.servers.lookup publicId).isNone) = false ↔
      ∀ publicId ∈ targets, ∃ d ∈ s.servers.rows, d.publicId = publicId := by
  rw [List.any_eq_false]
  refine forall₂_congr fun publicId _ => ?_
  rw [Bool.not_eq_true, Option.isNone_eq_false_iff, Option.isSome_iff_exists]
  constructor
  · rintro ⟨serverId, h⟩
    obtain ⟨d, hd, hpublic, _⟩ := ServerTable.lookup_eq_some.mp h
    exact ⟨d, hd, hpublic⟩
  · rintro ⟨d, hd, hpublic⟩
    exact ⟨d.id, ServerTable.lookup_eq_some.mpr ⟨d, hd, hpublic, rfl⟩⟩

lemma mem_serverIds {serverId : ℕ} :
    serverId ∈ targets.filterMap s.servers.lookup ↔
      ∃ publicId ∈ targets, s.servers.lookup publicId = some serverId :=
  List.mem_filterMap

/-- The servers of the targets are those whose ids are in the list. -/
lemma mem_targets_of_id {d : ServerDetail} (hd : d ∈ s.servers.rows) :
    d.id ∈ targets.filterMap s.servers.lookup ↔ d.publicId ∈ targets := by
  have hlookup : s.servers.lookup d.publicId = some d.id :=
    ServerTable.lookup_eq_some.mpr ⟨d, hd, rfl, rfl⟩
  rw [mem_serverIds]
  constructor
  · rintro ⟨publicId, hmem, h⟩
    exact ServerTable.lookup_inj h hlookup ▸ hmem
  · exact fun hmem => ⟨d.publicId, hmem, hlookup⟩

/-- Expiry keeps the tasks as such. -/
lemma expireOverdueTasks_publicIds (now : ℤ) (serverIds : List ℕ) (tasks : List Task) :
    (expireOverdueTasks now serverIds tasks).map Task.publicId = tasks.map Task.publicId := by
  unfold expireOverdueTasks
  split_ifs
  · rfl
  · exact map_updateWhere (Task.expire_publicId now) tasks

/-- What is pending after expiry was pending before and is not overdue. -/
lemma mem_expireOverdueTasks {now : ℤ} {serverIds : List ℕ} {tasks : List Task} {r : Task}
    (hserver : r.targetServerId ∈ serverIds) (hpending : r.pending = true) :
    r ∈ expireOverdueTasks now serverIds tasks ↔ r ∈ tasks ∧ r.overdue now = false := by
  have hne : serverIds ≠ [] := List.ne_nil_of_mem hserver
  rw [expireOverdueTasks, if_neg hne, updateWhere, List.mem_map]
  constructor
  · rintro ⟨a, ha, heq⟩
    by_cases hp : (decide (a.targetServerId ∈ serverIds) && a.overdue now) = true
    · rw [if_pos hp] at heq
      rw [← heq, Task.expire_pending] at hpending
      cases hpending
    · rw [if_neg hp] at heq
      subst heq
      refine ⟨ha, Bool.eq_false_iff.mpr fun hover => hp ?_⟩
      rw [hover, Bool.and_true]
      exact decide_eq_true hserver
  · rintro ⟨hr, hover⟩
    exact ⟨r, hr, by simp [hover]⟩

/-- A pending task that is not overdue has no deadline, or one to come. -/
lemma overdue_eq_false {now : ℤ} {r : Task} (hpending : r.pending = true) :
    r.overdue now = false ↔ ∀ deadline, r.deadlineAt = some deadline → now ≤ deadline := by
  rw [Task.overdue, hpending, Bool.true_and]
  cases r.deadlineAt with
  | none => simp
  | some deadline => simp

/-- After expiry, no server is busy exactly if every pending task of a target has no deadline or
is past it. -/
lemma busy_eq_nil_iff :
    findPendingDeadlineServers (targets.filterMap s.servers.lookup)
        (expireOverdueTasks s.now (targets.filterMap s.servers.lookup) s.tasks) = [] ↔
      ∀ publicId ∈ targets, ∀ serverId, s.servers.lookup publicId = some serverId →
        ∀ r ∈ s.tasks, r.targetServerId = serverId → r.pending = true →
          ∀ deadline, r.deadlineAt = some deadline → deadline < s.now := by
  rw [findPendingDeadlineServers, List.dedup_eq_nil, List.map_eq_nil_iff, List.filter_eq_nil_iff]
  constructor
  · rintro h publicId hmem serverId hlookup r hr rfl hpending deadline hdeadline
    by_contra hle
    have hserver : r.targetServerId ∈ targets.filterMap s.servers.lookup :=
      mem_serverIds.mpr ⟨publicId, hmem, hlookup⟩
    have hover : r.overdue s.now = false := by
      refine (overdue_eq_false hpending).mpr fun deadline' hdeadline' => ?_
      rw [hdeadline, Option.some_inj] at hdeadline'
      omega
    refine h r ((mem_expireOverdueTasks hserver hpending).mpr ⟨hr, hover⟩) ?_
    simp [hserver, hpending, hdeadline]
  · intro h r hr hbusy
    rw [Bool.and_eq_true, Bool.and_eq_true, decide_eq_true_eq] at hbusy
    obtain ⟨⟨hserver, hpending⟩, hsome⟩ := hbusy
    obtain ⟨deadline, hdeadline⟩ := Option.isSome_iff_exists.mp hsome
    obtain ⟨publicId, hmem, hlookup⟩ := mem_serverIds.mp hserver
    obtain ⟨hold, hover⟩ := (mem_expireOverdueTasks hserver hpending).mp hr
    have hlt := h publicId hmem _ hlookup r hold rfl hpending deadline hdeadline
    have hle := (overdue_eq_false hpending).mp hover deadline hdeadline
    omega

/-- The slots still taken after expiry are those of pending tasks without a deadline. -/
lemma loopClash_expired_iff {t : InstallWorld} (hservers : t.servers = s.servers)
    (htasks : t.tasks = expireOverdueTasks s.now (targets.filterMap s.servers.lookup) s.tasks)
    (hbusy : findPendingDeadlineServers (targets.filterMap s.servers.lookup) t.tasks = []) (k : ℕ) :
    LoopClash t targets k ↔ Clash s targets k := by
  rw [htasks] at hbusy
  refine exists_congr fun publicId => and_congr_right fun hget => or_congr_right ?_
  have hmem : publicId ∈ targets := List.mem_of_getElem? hget
  rw [SlotTaken, hservers]
  refine exists_congr fun serverId => and_congr_right fun hlookup => ?_
  have hserver : serverId ∈ targets.filterMap s.servers.lookup :=
    mem_serverIds.mpr ⟨publicId, hmem, hlookup⟩
  constructor
  · rintro ⟨r, hr, hpending, hslot⟩
    have hid : r.targetServerId = serverId := congrArg Prod.fst hslot
    rw [htasks] at hr
    obtain ⟨hold, hover⟩ := (mem_expireOverdueTasks (hid ▸ hserver) hpending).mp hr
    refine ⟨r, hold, hpending, hslot, ?_⟩
    cases hdeadline : r.deadlineAt with
    | none => rfl
    | some deadline =>
      have hlt := busy_eq_nil_iff.mp hbusy publicId hmem serverId hlookup r hold hid hpending
        deadline hdeadline
      have hle := (overdue_eq_false hpending).mp hover deadline hdeadline
      omega
  · rintro ⟨r, hr, hpending, hslot, hnone⟩
    have hid : r.targetServerId = serverId := congrArg Prod.fst hslot
    refine ⟨r, ?_, hpending, hslot⟩
    rw [htasks]
    refine (mem_expireOverdueTasks (hid ▸ hserver) hpending).mpr ⟨hr, ?_⟩
    simp [Task.overdue, hnone]

/-- Every target has its server in the plan. -/
lemma plan_find {job : InstallJob}
    (hplan : job.plan.map PlannedInstall.detail =
      s.servers.rows.filter fun d => decide (d.id ∈ targets.filterMap s.servers.lookup))
    {d : ServerDetail} (hd : d ∈ s.servers.rows) (hmem : d.publicId ∈ targets) :
    ∃ p, s.servers.lookup d.publicId = some p.detail.id ∧ job.find p.detail.id = some p := by
  have hdetail : d ∈ job.plan.map PlannedInstall.detail := by
    rw [hplan, List.mem_filter]
    exact ⟨hd, decide_eq_true ((mem_targets_of_id hd).mpr hmem)⟩
  obtain ⟨p, hp, rfl⟩ := List.mem_map.mp hdetail
  have hids : (job.plan.map fun p => p.detail.id).Nodup := by
    have hsub : ((job.plan.map PlannedInstall.detail).map ServerDetail.id).Nodup := by
      rw [hplan]
      exact s.servers.ids.sublist (List.filter_sublist.map _)
    rwa [List.map_map] at hsub
  refine ⟨p, ServerTable.lookup_eq_some.mpr ⟨p.detail, hd, rfl, rfl⟩, ?_⟩
  exact findId_of_mem hids hp

end passes

/-! ## The equivalence -/

lemma allOrNothing_ok {s t : InstallWorld} (created : List TaskCreated) :
    AllOrNothing s (.ok created, t) :=
  fun _ he => nomatch he

lemma allOrNothing_error {s t : InstallWorld} {e : InstallError}
    (h : e.kind.announced = true → NothingEmitted s t) : AllOrNothing s (.error e, t) := by
  rintro _ ⟨⟩ hannounced
  exact h hannounced

/-- The loop from its first turn, after passes that went well. -/
lemma allOrNothing_loop {env : InstallEnv} {targets : List String} {s t : InstallWorld}
    {out : Except InstallError (List TaskCreated) × InstallWorld}
    (hverdict : EmitVerdict env 0 targets t out) (hnothing : NothingEmitted s t)
    (hclash : ∀ k, LoopClash t targets k ↔ Clash s targets k) :
    AllOrNothing s out ↔ ¬ ∃ k, 0 < k ∧ Clash s targets k ∧
      ∀ j < k, ¬ Clash s targets j ∧ env.broker j = true := by
  have hiff : ∀ j, (¬ LoopClash t targets j ∧ env.broker (0 + j) = true) ↔
      (¬ Clash s targets j ∧ env.broker j = true) := by
    intro j
    rw [hclash, Nat.zero_add]
  cases hverdict with
  | done created u hall =>
    refine iff_of_true (allOrNothing_ok created) ?_
    rintro ⟨k, _, ⟨publicId, hget, hwhy⟩, _⟩
    have hlt : k < targets.length := (List.getElem?_eq_some_iff.mp hget).1
    exact ((hiff k).mp (hall k hlt)).1 ⟨publicId, hget, hwhy⟩
  | conflict k hostname u hconflict hbefore hpublished hfirst =>
    rcases Nat.eq_zero_or_pos k with rfl | hpos
    · refine iff_of_true (allOrNothing_error fun _ => hfirst rfl ▸ hnothing) ?_
      rintro ⟨k, hk, _, hfree⟩
      exact (hfree 0 hk).1 ((hclash 0).mp hconflict)
    · refine iff_of_false ?_ (not_not_intro
        ⟨k, hpos, (hclash k).mp hconflict, fun j hj => (hiff j).mp (hbefore j hj)⟩)
      intro h
      have hsame : u.published = s.published := (h _ rfl rfl).2
      rw [hsame, ← hnothing.2] at hpublished
      omega
  | publishFailed k hostname u hfree hbroker hbefore =>
    refine iff_of_true (allOrNothing_error fun h => nomatch h) ?_
    rintro ⟨l, _, hl, hbefore'⟩
    rcases Nat.lt_trichotomy l k with hlt | rfl | hgt
    · exact ((hiff l).mp (hbefore l hlt)).1 hl
    · exact hfree ((hclash l).mpr hl)
    · have hok : env.broker k = true := (hbefore' k hgt).2
      rw [Nat.zero_add, hok] at hbroker
      cases hbroker

/-- The call that raises one of the announced exceptions has emitted nothing, unless it gets to a
clash in the loop at a target that is not the first. -/
theorem all_or_nothing_iff (env : InstallEnv) (targetPublicIds : List String)
    (zdmIp zdmUser : String) (s : InstallWorld) :
    AllOrNothing s (createInstallTasks env targetPublicIds zdmIp zdmUser s) ↔
      ¬ LateClash env targetPublicIds zdmIp s := by
  unfold createInstallTasks
  by_cases hmissing :
      (targetPublicIds.any fun publicId => (s.servers.lookup publicId).isNone) = true
  · rw [if_pos hmissing]
    refine iff_of_true (allOrNothing_error fun _ => ⟨rfl, rfl⟩) fun hlate => ?_
    rw [known_iff.mpr hlate.known] at hmissing
    cases hmissing
  rw [if_neg hmissing]
  have hknown := known_iff.mp (Bool.eq_false_iff.mpr hmissing)
  set serverIds := targetPublicIds.filterMap s.servers.lookup with hserverIds
  set t : InstallWorld := { s with tasks := expireOverdueTasks s.now serverIds s.tasks } with ht
  have hnothing : NothingEmitted s t := ⟨expireOverdueTasks_publicIds _ _ _, rfl⟩
  by_cases hbusy : findPendingDeadlineServers serverIds t.tasks = []
  swap
  · rw [if_pos hbusy]
    refine iff_of_true (allOrNothing_error fun _ => hnothing) fun hlate => hbusy ?_
    exact busy_eq_nil_iff.mpr hlate.notBusy
  rw [if_neg (not_not_intro hbusy)]
  have hmeta : MetaSound env (extractZdmHost zdmIp) [] := fun _ _ h => nomatch h
  rcases planServers_spec (s.servers.rows.filter fun d => decide (d.id ∈ serverIds)) hmeta with
    ⟨plan, hplan, hdetails, hsupported⟩ | ⟨e, hplan, d, hd, hnot⟩
  · rw [hplan]
    have hverdict := emitLoop_verdict env ⟨zdmIp, zdmUser, plan⟩ 0 targetPublicIds [] t
      fun publicId hmem => by
        obtain ⟨d, hd, rfl⟩ := hknown publicId hmem
        exact plan_find hdetails hd hmem
    rw [allOrNothing_loop hverdict hnothing (loopClash_expired_iff rfl rfl hbusy), not_iff_not]
    refine ⟨fun hlate => ⟨hknown, busy_eq_nil_iff.mp hbusy, fun d hd hmem => ?_, hlate⟩,
      LateClash.late⟩
    exact hsupported d (List.mem_filter.mpr ⟨hd, decide_eq_true ((mem_targets_of_id hd).mpr hmem)⟩)
  · rw [hplan]
    refine iff_of_true (allOrNothing_error fun _ => hnothing) fun hlate => hnot ?_
    obtain ⟨hrow, hid⟩ := List.mem_filter.mp hd
    exact hlate.supported d hrow ((mem_targets_of_id hrow).mp (of_decide_eq_true hid))

/-! ## A target listed twice -/

/-- One Linux host, with no task. -/
def singleHost : InstallWorld where
  now := 1700000000000000
  servers :=
    { rows := [⟨1, "5f0c2a34-0000-4000-8000-000000000001",
        "5f0c2a34-0000-4000-8000-0000000000a1", "db-01", some "linux"⟩]
      ids := by decide
      publicIds := by decide }
  tasks := []
  published := []

/-- A package that resolves and a broker that accepts every message. -/
def calmEnv : InstallEnv where
  settings := {}
  resolver := fun _ _ => .ok ("9f86d081884c7d65", 104857600)
  broker := fun _ => true
  taskId := fun i => if i = 0 then "task-0" else "task-1"
  online := none

/-- The same host twice in one request: the second turn raises `TaskDuplicatePendingError`, and the
task of the first is committed and its message published. -/
theorem repeated_target_half_emitted :
    ¬ AllOrNothing singleHost
      (createInstallTasks calmEnv
        ["5f0c2a34-0000-4000-8000-000000000001", "5f0c2a34-0000-4000-8000-000000000001"]
        "10.0.0.5" "admin" singleHost) := by
  intro h
  have hconflict : (createInstallTasks calmEnv
      ["5f0c2a34-0000-4000-8000-000000000001", "5f0c2a34-0000-4000-8000-000000000001"]
      "10.0.0.5" "admin" singleHost).1 = .error (.conflict "db-01") := by
    decide +kernel
  have hnothing := h (.conflict "db-01") hconflict rfl
  exact absurd hnothing.1 (by decide +kernel)

end AssessmentEngine
