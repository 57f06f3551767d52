import AssessmentEngine.Ingest.Series
import AssessmentEngine.Jobs.World

/-!
# Recording metrics messages

`record_metrics` makes one insertion into each of the seven tables, in one transaction, which
`_db_retry` attempts up to three times.  Each insertion gives way to rows that are there, so a
message adds the rows whose natural key is new (`ingest_first_writer`), whatever has become of its
earlier attempts; and an attempt that fails before its commit adds none.

`server_id` is the one that `ensure_server_id` has resolved.  A statement may raise for reasons of
its own; which one does, if any, is a parameter of the attempt.
-/

namespace AssessmentEngine

open Table

/-! ## Statements -/

/-- Row counts of the seven insertions. -/
structure MetricInsertResult where
  metrics : ℕ
  diskIo : ℕ
  netIo : ℕ
  filesystem : ℕ
  cpuCore : ℕ
  pressure : ℕ
  diskError : ℕ
  deriving DecidableEq, Repr

/-- No row was inserted. -/
def MetricInsertResult.noRows : MetricInsertResult := ⟨0, 0, 0, 0, 0, 0, 0⟩

/-- The statements that raise. -/
abbrev Faults : Type := Series → Bool

/-- A statement: what it returns and the tables after it, or an exception. -/
abbrev Statement (α : Type) : Type := SeriesTables → Option (α × SeriesTables)

/-- The insertion into one table. -/
def insertSeries (faults : Faults) (k : Series) (rows : List k.Row) : Statement ℕ := fun db =>
  if faults k then none
  else some (insertedCount k.key (db k) rows,
    Function.update db k (insertAll k.key (db k) rows))

/-- `_insert_child`: no entries, no statement. -/
def insertChild (faults : Faults) (k : Series) (serverId : ℕ) (collectedAt : ℤ)
    (entries : List k.Entry) : Statement ℕ := fun db =>
  if entries.isEmpty then some (0, db)
  else insertSeries faults k (entries.map fun e => ⟨serverId, collectedAt, e⟩) db

/-- `_insert_scalar_metrics`. -/
def insertScalarMetrics (faults : Faults) (serverId : ℕ) (data : ServerMetricCreate) :
    Statement ℕ :=
  insertSeries faults .serverMetrics [⟨serverId, data.collectedAt, data.scalars⟩]

/-- The `row_hook` of disk errors: `row["member"] or ""`. -/
def DiskErrorEntry.normalizeMember (e : DiskErrorEntry) : DiskErrorEntry :=
  { e with member := some (e.member.getD "") }

/-- `record_metrics`. -/
def recordMetrics (faults : Faults) (serverId : ℕ) (data : ServerMetricCreate) :
    Statement MetricInsertResult := fun db => do
  let (metrics, db) ← insertScalarMetrics faults serverId data db
  let (diskIo, db) ← insertChild faults .serverDiskIo serverId data.collectedAt data.diskIo db
  let (netIo, db) ← insertChild faults .serverNetIo serverId data.collectedAt data.netIo db
  let (filesystem, db) ←
    insertChild faults .serverFilesystem serverId data.collectedAt data.filesystems db
  let (cpuCore, db) ←
    insertChild faults .serverCpuCore serverId data.collectedAt data.cpuPerCore db
  let (pressure, db) ←
    insertChild faults .serverPressure serverId data.collectedAt data.pressure db
  let (diskError, db) ←
    insertChild faults .serverDiskError serverId data.collectedAt
      (data.diskErrors.map DiskErrorEntry.normalizeMember) db
  return (⟨metrics, diskIo, netIo, filesystem, cpuCore, pressure, diskError⟩, db)

/-! ## Transactions -/

/-- How an attempt goes: the statements that raise, how its commit ends, and whether an exception
of it is of a kind that no further attempt is made for. -/
structure Attempt where
  faults : Faults
  outcome : Outcome
  permanent : Bool

/-- `_db_attempt`: what the caller gets, if no exception, and the tables after it. -/
def dbAttempt {α : Type} (fn : Faults → Statement α) (a : Attempt) (db : SeriesTables) :
    Option α × SeriesTables :=
  match fn a.faults db with
  | none => (none, db)
  | some (result, db') =>
    (if a.outcome.raises then none else some result, if a.outcome.persists then db' else db)

/-- `_RETRY_MAX_ATTEMPTS`. -/
def retryMaxAttempts : ℕ := 3

/-- The loop of `_db_retry` from attempt `n` on, with `left` attempts before the last. -/
def dbRetryFrom {α : Type} (fn : Faults → Statement α) (attempts : ℕ → Attempt) :
    (left n : ℕ) → SeriesTables → Option α × SeriesTables
  | 0, n, db => dbAttempt fn (attempts n) db
  | left + 1, n, db =>
    match dbAttempt fn (attempts n) db with
    | (some result, db) => (some result, db)
    | (none, db) =>
      if (attempts n).permanent then (none, db) else dbRetryFrom fn attempts left (n + 1) db

/-- `_db_retry`. -/
def dbRetry {α : Type} (fn : Faults → Statement α) (attempts : ℕ → Attempt) (db : SeriesTables) :
    Option α × SeriesTables :=
  dbRetryFrom fn attempts (retryMaxAttempts - 1) 1 db

/-- A message as it is handled. -/
structure MetricDelivery where
  serverId : ℕ
  data : ServerMetricCreate
  attempts : ℕ → Attempt

/-- The handler's `save`. -/
def MetricDelivery.save (m : MetricDelivery) (faults : Faults) : Statement MetricInsertResult :=
  recordMetrics faults m.serverId m.data

def MetricDelivery.store (m : MetricDelivery) (db : SeriesTables) :
    Option MetricInsertResult × SeriesTables :=
  dbRetry m.save m.attempts db

/-- The tables after the messages have been handled in order. -/
def ingestMetrics (ms : List MetricDelivery) (db : SeriesTables) : SeriesTables :=
  ms.foldl (fun db m => (m.store db).2) db

/-! ## What a message writes -/

/-- What the message says for each table. -/
def ServerMetricCreate.entries (data : ServerMetricCreate) : ∀ k : Series, List k.Entry
  | .serverMetrics => [data.scalars]
  | .serverDiskIo => data.diskIo
  | .serverNetIo => data.netIo
  | .serverFilesystem => data.filesystems
  | .serverCpuCore => data.cpuPerCore
  | .serverPressure => data.pressure
  | .serverDiskError => data.diskErrors.map DiskErrorEntry.normalizeMember

/-- The rows that the message brings to a table. -/
def seriesRows (serverId : ℕ) (data : ServerMetricCreate) (k : Series) : List k.Row :=
  (data.entries k).map fun e => ⟨serverId, data.collectedAt, e⟩

/-- The tables with the rows of the message. -/
def written (serverId : ℕ) (data : ServerMetricCreate) (db : SeriesTables) : SeriesTables :=
  fun k => insertAll k.key (db k) (seriesRows serverId data k)

/-- The row counts of the message. -/
def writtenCounts (serverId : ℕ) (data : ServerMetricCreate) (db : SeriesTables) :
    MetricInsertResult :=
  let count := fun k : Series => insertedCount k.key (db k) (seriesRows serverId data k)
  ⟨count .serverMetrics, count .serverDiskIo, count .serverNetIo, count .serverFilesystem,
    count .serverCpuCore, count .serverPressure, count .serverDiskError⟩

/-- The tables in the order of `record_metrics`. -/
def Series.all : List Series :=
  [.serverMetrics, .serverDiskIo, .serverNetIo, .serverFilesystem, .serverCpuCore, .serverPressure,
    .serverDiskError]

/-- A statement that is made raises. -/
def statementRaises (faults : Faults) (data : ServerMetricCreate) : Bool :=
  Series.all.any fun k => !(data.entries k).isEmpty && faults k

/-- What one statement does. -/
lemma insertChild_eq (faults : Faults) (k : Series) (serverId : ℕ) (collectedAt : ℤ)
    (entries : List k.Entry) (db : SeriesTables) :
    insertChild faults k serverId collectedAt entries db =
      if !entries.isEmpty && faults k then none
      else
        let rows := entries.map fun e => (⟨serverId, collectedAt, e⟩ : k.Row)
        some (insertedCount k.key (db k) rows,
          Function.update db k (insertAll k.key (db k) rows)) := by
  unfold insertChild insertSeries
  cases entries with
  | nil =>
    have hupdate : Function.update db k (insertAll k.key (db k) []) = db :=
      Function.update_eq_self k db
    simp [insertedCount, insertAll_nil]
  | cons e entries => rfl

/-- The tables when the statements on `ks` are done. -/
def writtenTo (ks : List Series) (serverId : ℕ) (data : ServerMetricCreate) (db : SeriesTables) :
    SeriesTables :=
  fun k => if k ∈ ks then written serverId data db k else db k

/-- The statement on `k`, after those on other tables. -/
lemma insertChild_writtenTo {ks : List Series} {k : Series} (hk : k ∉ ks) (faults : Faults)
    (serverId : ℕ) (data : ServerMetricCreate) (db : SeriesTables) :
    insertChild faults k serverId data.collectedAt (data.entries k)
        (writtenTo ks serverId data db) =
      if !(data.entries k).isEmpty && faults k then none
      else some (insertedCount k.key (db k) (seriesRows serverId data k),
        writtenTo (k :: ks) serverId data db) := by
  have hbefore : writtenTo ks serverId data db k = db k := if_neg hk
  have hafter : Function.update (writtenTo ks serverId data db) k
      (insertAll k.key (db k) (seriesRows serverId data k)) =
        writtenTo (k :: ks) serverId data db := by
    funext j
    by_cases hj : j = k
    · subst hj
      simp [writtenTo, written]
    · simp [writtenTo, hj]
  rw [insertChild_eq, hbefore]
  simp only [← hafter, seriesRows]

/-- `record_metrics` raises where one of its statements does, and otherwise writes the rows of the
message. -/
lemma recordMetrics_eq (faults : Faults) (serverId : ℕ) (data : ServerMetricCreate)
    (db : SeriesTables) :
    recordMetrics faults serverId data db =
      if statementRaises faults data then none
      else some (writtenCounts serverId data db, written serverId data db) := by
  have hchain : recordMetrics faults serverId data db = do
      let start := writtenTo [] serverId data db
      let child := fun k => insertChild faults k serverId data.collectedAt (data.entries k)
      let (metrics, db) ← child .serverMetrics start
      let (diskIo, db) ← child .serverDiskIo db
      let (netIo, db) ← child .serverNetIo db
      let (filesystem, db) ← child .serverFilesystem db
      let (cpuCore, db) ← child .serverCpuCore db
      let (pressure, db) ← child .serverPressure db
      let (diskError, db) ← child .serverDiskError db
      return (⟨metrics, diskIo, netIo, filesystem, cpuCore, pressure, diskError⟩, db) := rfl
  have hall : writtenTo [.serverDiskError, .serverPressure, .serverCpuCore, .serverFilesystem,
      .serverNetIo, .serverDiskIo, .serverMetrics] serverId data db = written serverId data db := by
    funext k
    cases k <;> rfl
  have hbind : ∀ {α β : Type} (c : Bool) (x : α) (f : α → Option β),
      ((if c then none else some x).bind f) = if c then none else f x := by
    intro α β c x f
    cases c <;> rfl
  have helse : ∀ {β : Type} (a b : Bool) (x y : β),
      (if a then x else if b then x else y) = if a || b then x else y := by
    intro β a b x y
    cases a <;> rfl
  rw [hchain]
  simp (disch := decide) only [insertChild_writtenTo, Option.bind_eq_bind, hbind, hall]
  simp only [statementRaises, Series.all, List.any_cons, List.any_nil, Bool.or_false, helse]
  rfl

/-! ## What is left of an attempt -/

namespace MetricDelivery

variable (m : MetricDelivery)

/-- The rows that the message brings. -/
def rows (k : Series) : List k.Row := seriesRows m.serverId m.data k

/-- Attempt `n` leaves the rows in the tables. -/
def attemptStores (n : ℕ) : Bool :=
  !statementRaises (m.attempts n).faults m.data && (m.attempts n).outcome.persists

/-- Attempt `n` raises. -/
def attemptRaises (n : ℕ) : Bool :=
  statementRaises (m.attempts n).faults m.data || (m.attempts n).outcome.raises

/-- One of the attempts that are made from the `n`-th on leaves the rows. -/
def storedFrom : (left n : ℕ) → Bool
  | 0, n => m.attemptStores n
  | left + 1, n =>
    m.attemptStores n ||
      (m.attemptRaises n && !(m.attempts n).permanent && storedFrom left (n + 1))

/-- One of the attempts leaves the rows. -/
def stored : Bool := m.storedFrom (retryMaxAttempts - 1) 1

/-- One attempt. -/
lemma dbAttempt_eq (n : ℕ) (db : SeriesTables) :
    dbAttempt m.save (m.attempts n) db =
      (if m.attemptRaises n then none else some (writtenCounts m.serverId m.data db),
        if m.attemptStores n then written m.serverId m.data db else db) := by
  unfold dbAttempt attemptRaises attemptStores save
  rw [recordMetrics_eq]
  cases statementRaises (m.attempts n).faults m.data <;> rfl

end MetricDelivery

/-- Rows that are there are not written again. -/
lemma written_of_covers {serverId : ℕ} {data : ServerMetricCreate} {db : SeriesTables}
    (h : ∀ k : Series, Covers k.key (db k) (seriesRows serverId data k)) :
    written serverId data db = db :=
  funext fun k => (h k).insertAll_eq

lemma writtenCounts_of_covers {serverId : ℕ} {data : ServerMetricCreate} {db : SeriesTables}
    (h : ∀ k : Series, Covers k.key (db k) (seriesRows serverId data k)) :
    writtenCounts serverId data db = .noRows := by
  simp only [writtenCounts, (h _).insertedCount_eq, MetricInsertResult.noRows]

lemma covers_written (serverId : ℕ) (data : ServerMetricCreate) (db : SeriesTables) (k : Series) :
    Covers k.key (written serverId data db k) (seriesRows serverId data k) :=
  covers_insertAll _ _

namespace MetricDelivery

variable (m : MetricDelivery)

/-- Whatever the attempts before, the tables hold the rows of the message once or not at all. -/
lemma dbRetryFrom_snd (left n : ℕ) (db : SeriesTables) :
    (dbRetryFrom m.save m.attempts left n db).2 =
      if m.storedFrom left n then written m.serverId m.data db else db := by
  induction left generalizing n db with
  | zero => rw [dbRetryFrom, m.dbAttempt_eq, storedFrom]
  | succ left ih =>
    have htwice : written m.serverId m.data (written m.serverId m.data db) =
        written m.serverId m.data db :=
      written_of_covers (covers_written m.serverId m.data db)
    rw [dbRetryFrom, m.dbAttempt_eq, storedFrom]
    cases hraises : m.attemptRaises n with
    | false => simp
    | true =>
      cases hpermanent : (m.attempts n).permanent with
      | true => simp
      | false =>
        cases hstores : m.attemptStores n with
        | false => simp [ih]
        | true => simp [ih, htwice]

lemma store_snd (db : SeriesTables) :
    (m.store db).2 = if m.stored then written m.serverId m.data db else db :=
  m.dbRetryFrom_snd _ _ db

/-- A message that is not stored returns nothing. -/
lemma dbRetryFrom_of_not_stored {left n : ℕ} (h : m.storedFrom left n = false)
    (db : SeriesTables) :
    dbRetryFrom m.save m.attempts left n db = (none, db) := by
  have hraises : ∀ {n : ℕ}, m.attemptStores n = false → m.attemptRaises n = true := by
    intro n hstores
    unfold attemptStores at hstores
    unfold attemptRaises
    cases hstatement : statementRaises (m.attempts n).faults m.data with
    | true => rfl
    | false =>
      rw [hstatement] at hstores
      revert hstores
      cases (m.attempts n).outcome <;> decide
  induction left generalizing n with
  | zero =>
    have hstores : m.attemptStores n = false := h
    rw [dbRetryFrom, m.dbAttempt_eq, hraises hstores, hstores]
    rfl
  | succ left ih =>
    rw [storedFrom, Bool.or_eq_false_iff] at h
    obtain ⟨hstores, hlater⟩ := h
    rw [dbRetryFrom, m.dbAttempt_eq, hraises hstores, hstores]
    rw [hraises hstores, Bool.true_and] at hlater
    cases hpermanent : (m.attempts n).permanent with
    | true => simp
    | false =>
      rw [hpermanent] at hlater
      simpa using ih hlater

/-- A message whose rows are there changes nothing and adds no row. -/
lemma store_of_covers {db : SeriesTables} (h : ∀ k : Series, Covers k.key (db k) (m.rows k)) :
    (m.store db).2 = db ∧
      ∀ result, (m.store db).1 = some result → result = .noRows := by
  have hsnd : (m.store db).2 = db := by
    rw [store_snd, written_of_covers h]
    exact ite_self db
  refine ⟨hsnd, ?_⟩
  suffices hfrom : ∀ left n result, (dbRetryFrom m.save m.attempts left n db).1 = some result →
      result = .noRows from hfrom _ _
  intro left
  induction left with
  | zero =>
    intro n result hresult
    rw [dbRetryFrom, m.dbAttempt_eq, writtenCounts_of_covers h] at hresult
    cases hraises : m.attemptRaises n <;> simp_all
  | succ left ih =>
    intro n result hresult
    rw [dbRetryFrom, m.dbAttempt_eq, writtenCounts_of_covers h, written_of_covers h, ite_self]
      at hresult
    cases hraises : m.attemptRaises n with
    | false =>
      simp only [hraises] at hresult
      simpa using hresult.symm
    | true =>
      cases hpermanent : (m.attempts n).permanent with
      | true => simp [hraises, hpermanent] at hresult
      | false =>
        simp only [hraises, hpermanent] at hresult
        exact ih (n + 1) result (by simpa using hresult)

/-- The row of a key that the message brings, if it is stored. -/
def offers (k : Series) (i : List (Option KeyCell)) : Option k.Row :=
  if m.stored then findId k.key i (m.rows k) else none

lemma findId_store (db : SeriesTables) (k : Series) (i : List (Option KeyCell)) :
    findId k.key i ((m.store db).2 k) = (findId k.key i (db k)).or (m.offers k i) := by
  rw [store_snd, offers]
  cases m.stored with
  | false => simp
  | true => exact findId_insertAll _ _ i

lemma nodup_store {db : SeriesTables} {k : Series} (hkeys : ((db k).map k.key).Nodup) :
    (((m.store db).2 k).map k.key).Nodup := by
  rw [store_snd]
  cases m.stored with
  | false => exact hkeys
  | true => exact nodup_insertAll hkeys _

/-- Two messages that both bring a key are of one server and one time. -/
lemma stamp_eq_of_offers {m m' : MetricDelivery} {k : Series} {i : List (Option KeyCell)}
    {r r' : k.Row} (hr : m.offers k i = some r) (hr' : m'.offers k i = some r') :
    m.serverId = m'.serverId ∧ m.data.collectedAt = m'.data.collectedAt := by
  have hrow : ∀ {m : MetricDelivery} {r : k.Row}, m.offers k i = some r →
      k.key r = i ∧ r.serverId = m.serverId ∧ r.collectedAt = m.data.collectedAt := by
    intro m r hr
    unfold offers at hr
    split_ifs at hr
    obtain ⟨e, _, rfl⟩ := List.mem_map.mp (findId_mem hr)
    exact ⟨findId_key hr, rfl, rfl⟩
  obtain ⟨hkey, hserver, htime⟩ := hrow hr
  obtain ⟨hkey', hserver', htime'⟩ := hrow hr'
  obtain ⟨hsame, hsame'⟩ := Series.key_stamp (hkey.trans hkey'.symm)
  exact ⟨hserver.symm.trans (hsame.trans hserver'), htime.symm.trans (hsame'.trans htime')⟩

end MetricDelivery

/-! ## Sequences of messages -/

lemma ingestMetrics_cons (m : MetricDelivery) (ms : List MetricDelivery) (db : SeriesTables) :
    ingestMetrics (m :: ms) db = ingestMetrics ms (m.store db).2 := rfl

lemma nodup_ingestMetrics {k : Series} (ms : List MetricDelivery) {db : SeriesTables}
    (hkeys : ((db k).map k.key).Nodup) : ((ingestMetrics ms db k).map k.key).Nodup := by
  induction ms generalizing db with
  | nil => exact hkeys
  | cons m ms ih => exact ih (m.nodup_store hkeys)

/-- A key has the row it had, or else that of the first stored message which brings it. -/
lemma findId_ingestMetrics (ms : List MetricDelivery) (db : SeriesTables) (k : Series)
    (i : List (Option KeyCell)) :
    findId k.key i (ingestMetrics ms db k) =
      (findId k.key i (db k)).or (ms.findSome? fun m => m.offers k i) := by
  induction ms generalizing db with
  | nil => rw [List.findSome?_nil, Option.or_none]; rfl
  | cons m ms ih =>
    rw [ingestMetrics_cons, ih, m.findId_store, Option.or_assoc, List.findSome?_cons]
    cases m.offers k i <;> rfl

/-- The rows of a stored message stay. -/
lemma covers_ingestMetrics {m : MetricDelivery} {ms : List MetricDelivery} (hm : m ∈ ms)
    (hstored : m.stored = true) (db : SeriesTables) (k : Series) :
    Covers k.key (ingestMetrics ms db k) (m.rows k) := by
  intro r hr
  rw [findId_ingestMetrics]
  have hoffers : (m.offers k (k.key r)).isSome := by
    rw [MetricDelivery.offers, if_pos hstored, findId, List.find?_isSome]
    exact ⟨r, hr, by simp⟩
  have hfirst : (ms.findSome? fun m => m.offers k (k.key r)).isSome :=
    List.findSome?_isSome_iff.mpr ⟨m, hm, hoffers⟩
  cases findId k.key (k.key r) (db k) with
  | none => exact hfirst
  | some a => rfl

/-- Two messages of different servers or times change places. -/
lemma findSome?_swap {m m' : MetricDelivery}
    (hstamp : (m.serverId, m.data.collectedAt) ≠ (m'.serverId, m'.data.collectedAt))
    (pre post : List MetricDelivery) (k : Series) (i : List (Option KeyCell)) :
    (pre ++ m :: m' :: post).findSome? (fun m => m.offers k i) =
      (pre ++ m' :: m :: post).findSome? (fun m => m.offers k i) := by
  rw [List.findSome?_append, List.findSome?_append]
  congr 1
  cases hm : m.offers k i with
  | none =>
    cases hm' : m'.offers k i <;> simp [hm, hm']
  | some r =>
    cases hm' : m'.offers k i with
    | none => simp [hm, hm']
    | some r' =>
      obtain ⟨hserver, htime⟩ := MetricDelivery.stamp_eq_of_offers hm hm'
      exact absurd (Prod.ext hserver htime) hstamp

/-- After any sequence of messages, in each of the seven tables: a natural key has one row at most,
that of the first stored message which brings the key, and within it the first; a stored message
that comes again, however its attempts go, changes no table and adds no row; messages of different
servers or times can change places in the sequence; an attempt with a statement that raises leaves
all tables as they are, and so does a message none of whose attempts is kept. -/
theorem ingest_first_writer (ms : List MetricDelivery) (k : Series) :
    ((ingestMetrics ms SeriesTables.empty k).map k.key).Nodup ∧
      (∀ i, findId k.key i (ingestMetrics ms SeriesTables.empty k) =
        (ms.filter MetricDelivery.stored).findSome? fun m => findId k.key i (m.rows k)) ∧
      (∀ m ∈ ms, m.stored = true →
        recordMetrics (fun _ => false) m.serverId m.data (ingestMetrics ms SeriesTables.empty) =
          some (.noRows, ingestMetrics ms SeriesTables.empty)) ∧
      (∀ m ∈ ms, m.stored = true → ∀ again : MetricDelivery,
        again.serverId = m.serverId → again.data = m.data →
          (again.store (ingestMetrics ms SeriesTables.empty)).2 =
              ingestMetrics ms SeriesTables.empty ∧
            ∀ result, (again.store (ingestMetrics ms SeriesTables.empty)).1 = some result →
              result = .noRows) ∧
      (∀ pre m m' post, ms = pre ++ m :: m' :: post →
        (m.serverId, m.data.collectedAt) ≠ (m'.serverId, m'.data.collectedAt) →
          (ingestMetrics ms SeriesTables.empty k).Perm
            (ingestMetrics (pre ++ m' :: m :: post) SeriesTables.empty k)) ∧
      (∀ (m : MetricDelivery) (a : Attempt), statementRaises a.faults m.data = true →
        dbAttempt m.save a (ingestMetrics ms SeriesTables.empty) =
          (none, ingestMetrics ms SeriesTables.empty)) ∧
      ∀ m : MetricDelivery, m.stored = false →
        m.store (ingestMetrics ms SeriesTables.empty) =
          (none, ingestMetrics ms SeriesTables.empty) := by
  have hempty : ((SeriesTables.empty k).map k.key).Nodup := List.nodup_nil
  have hlookup : ∀ (ms : List MetricDelivery) (i : List (Option KeyCell)),
      findId k.key i (ingestMetrics ms SeriesTables.empty k) =
        ms.findSome? fun m => m.offers k i := by
    intro ms i
    have hnone : findId k.key i (SeriesTables.empty k) = none := rfl
    rw [findId_ingestMetrics, hnone, Option.none_or]
  refine ⟨nodup_ingestMetrics ms hempty, fun i => ?_, fun m hm hstored => ?_,
    fun m hm hstored again hserver hdata => ?_,
    fun pre m m' post hms hstamp => ?_, fun m a hraises => ?_,
    fun m hstored => m.dbRetryFrom_of_not_stored hstored _⟩
  · rw [hlookup]
    induction ms with
    | nil => rfl
    | cons m ms ih =>
      rw [List.findSome?_cons, MetricDelivery.offers]
      cases hstored : m.stored with
      | false => simpa [hstored] using ih
      | true => simp [hstored, ih, List.findSome?_cons]
  · have hcovers : ∀ j : Series, Covers j.key (ingestMetrics ms SeriesTables.empty j) (m.rows j) :=
      covers_ingestMetrics hm hstored SeriesTables.empty
    have hfaults : statementRaises (fun _ => false) m.data = false := by
      simp [statementRaises]
    rw [recordMetrics_eq, hfaults, written_of_covers hcovers, writtenCounts_of_covers hcovers]
    rfl
  · refine again.store_of_covers fun j => ?_
    have hrows : again.rows j = m.rows j := by
      rw [MetricDelivery.rows, MetricDelivery.rows, hserver, hdata]
    rw [hrows]
    exact covers_ingestMetrics hm hstored _ j
  · refine perm_of_findId (nodup_ingestMetrics ms hempty) (nodup_ingestMetrics _ hempty) ?_
    intro i
    rw [hlookup, hlookup, hms]
    exact findSome?_swap hstamp pre post k i
  · have hnone : m.save a.faults (ingestMetrics ms SeriesTables.empty) = none := by
      rw [MetricDelivery.save, recordMetrics_eq, if_pos hraises]
    rw [dbAttempt, hnone]

end AssessmentEngine
