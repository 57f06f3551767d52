import AssessmentEngine.Library.RowGroups
import AssessmentEngine.Library.TimeSeries
import AssessmentEngine.Queries.MetricTables

/-!
# Windows and series of charts

What the builders of `metric_trend` share: the samples of a window, the physical devices, the ratio
of two sums, and the three ways in which a series is made of values or flags.
-/

namespace AssessmentEngine

open RowGroups TimeSeries

/-! ## A call -/

inductive BucketSize
  | m1
  | m5
  | m15
  | m30
  | h1
  | h3
  | h6
  | h12
  | d1
  deriving DecidableEq, Repr

/-- `_BUCKET_INFO`, in microseconds. -/
def BucketSize.width (bucket : BucketSize) : ℕ :=
  60 * 1000000 *
    match bucket with
    | .m1 => 1
    | .m5 => 5
    | .m15 => 15
    | .m30 => 30
    | .h1 => 60
    | .h3 => 180
    | .h6 => 360
    | .h12 => 720
    | .d1 => 1440

lemma BucketSize.width_pos (bucket : BucketSize) : 0 < bucket.width := by
  cases bucket <;> decide

/-- `time_bucket`; buckets are aligned to Monday, 3 January 2000. -/
def BucketSize.of (bucket : BucketSize) (t : ℤ) : ℤ :=
  timeBucket 946857600000000 bucket.width t

inductive AggFunc
  | avg
  | max
  | p95
  deriving DecidableEq, Repr

/-- `_AGG`. -/
def AggFunc.aggregate (agg : AggFunc) (vs : List ℚ) : Option ℚ :=
  match agg with
  | .avg => average vs
  | .max => vs.max?
  | .p95 => percentileCont (95 / 100) vs

/-- The fields of `_TrendCtx` but the metric type; `serverIds` is absent for the whole
environment. -/
structure MetricTrendCtx where
  bucket : BucketSize
  agg : AggFunc
  start : ℤ
  stop : ℤ
  serverIds : Option (List ℕ)
  dimension : Option String
  collapse : Bool
  deriving DecidableEq, Repr

namespace MetricTrendCtx

/-- `start - bucket_td`. -/
def windowStart (ctx : MetricTrendCtx) : ℤ := ctx.start - ctx.bucket.width

/-- `AND server_id = ANY(:server_ids)`, which is left out when there are no ids. -/
def Selects (ctx : MetricTrendCtx) (sid : ℕ) : Prop :=
  ctx.serverIds.getD [] = [] ∨ sid ∈ ctx.serverIds.getD []

instance (ctx : MetricTrendCtx) (sid : ℕ) : Decidable (ctx.Selects sid) :=
  inferInstanceAs (Decidable (_ ∨ _))

/-- The samples from an instant to the end of the window. -/
def Reads (ctx : MetricTrendCtx) (first : ℤ) (sid : ℕ) (t : ℤ) : Prop :=
  first ≤ t ∧ t ≤ ctx.stop ∧ ctx.Selects sid

instance (ctx : MetricTrendCtx) (first : ℤ) (sid : ℕ) (t : ℤ) : Decidable (ctx.Reads first sid t) :=
  inferInstanceAs (Decidable (_ ∧ _ ∧ _))

end MetricTrendCtx

/-! ## Samples of a window -/

namespace MetricTables

def metricsOf (db : MetricTables) (ctx : MetricTrendCtx) (first : ℤ) : List MetricsRow :=
  db.serverMetrics.rows.filter fun r => ctx.Reads first r.serverId r.collectedAt

def diskIoOf (db : MetricTables) (ctx : MetricTrendCtx) (first : ℤ) : List DiskIoRow :=
  db.serverDiskIo.rows.filter fun r => ctx.Reads first r.serverId r.collectedAt

def netIoOf (db : MetricTables) (ctx : MetricTrendCtx) (first : ℤ) : List NetIoRow :=
  db.serverNetIo.rows.filter fun r => ctx.Reads first r.serverId r.collectedAt

def filesystemOf (db : MetricTables) (ctx : MetricTrendCtx) (first : ℤ) : List FilesystemRow :=
  db.serverFilesystem.rows.filter fun r => ctx.Reads first r.serverId r.collectedAt

def pressureOf (db : MetricTables) (ctx : MetricTrendCtx) (first : ℤ) : List PressureRow :=
  db.serverPressure.rows.filter fun r => ctx.Reads first r.serverId r.collectedAt

/-- `JOIN server_inventory si ON si.id = sm.server_id`. -/
def server (db : MetricTables) (sid : ℕ) : Option InventoryRow :=
  Table.findId InventoryRow.id sid db.serverInventory.rows

/-- The samples of `server_metrics` with their servers. -/
def joinedOf (db : MetricTables) (ctx : MetricTrendCtx) (first : ℤ) :
    List (MetricsRow × InventoryRow) :=
  (db.metricsOf ctx first).filterMap fun r => (db.server r.serverId).map fun si => (r, si)

end MetricTables

/-! ## Physical devices -/

/-- `id_type || ':' || id`, null when one of them is. -/
def stableKey (idType id : Option String) : Option String := do
  let idType ← idType
  let id ← id
  return idType ++ ":" ++ id

def InventoryDevice.IsDisk (bd : InventoryDevice) (deviceId : String) : Prop :=
  (stableKey bd.idType bd.id = some deviceId ∨
    bd.name.map (fun name => "name:" ++ name) = some deviceId) ∧ bd.type = some "disk"

instance (bd : InventoryDevice) (deviceId : String) : Decidable (bd.IsDisk deviceId) :=
  inferInstanceAs (Decidable (_ ∧ _))

def InventoryIface.IsPhysical (ni : InventoryIface) (ifaceId : String) : Prop :=
  stableKey ni.idType ni.id = some ifaceId ∧
    (ni.kind = some "physical" ∨ ni.kind = some "bond_master")

instance (ni : InventoryIface) (ifaceId : String) : Decidable (ni.IsPhysical ifaceId) :=
  inferInstanceAs (Decidable (_ ∧ _))

/-- The inventory of a server lists a device of a kind. -/
def listsDevice {ρ δ : Type} (id : ρ → ℕ) (devices : ρ → Option (List δ)) (keep : δ → Prop)
    [DecidablePred keep] (rows : List ρ) (sid : ℕ) : Bool :=
  rows.any fun si => id si = sid ∧ ∃ d ∈ (devices si).getD [], keep d

/-- The rows of other servers do not matter. -/
lemma listsDevice_filter {ρ δ : Type} {id : ρ → ℕ} {devices : ρ → Option (List δ)}
    {keep : δ → Prop} [DecidablePred keep] {rows : List ρ} {sid : ℕ} {p : ρ → Bool}
    (hp : ∀ si, id si = sid → p si = true) :
    listsDevice id devices keep (rows.filter p) sid = listsDevice id devices keep rows sid := by
  unfold listsDevice
  rw [List.any_filter]
  refine List.any_congr rfl fun si => ?_
  by_cases hsi : id si = sid
  · simp [hsi, hp si hsi]
  · simp [hsi]

namespace MetricTables

/-- `_PHYS_DISK_SQL_FILTER`. -/
def physDisk (db : MetricTables) (sid : ℕ) (deviceId : String) : Bool :=
  listsDevice InventoryRow.id InventoryRow.blockDevices (·.IsDisk deviceId)
    db.serverInventory.rows sid

/-- `_PHYS_IFACE_SQL_FILTER`. -/
def physIface (db : MetricTables) (sid : ℕ) (ifaceId : String) : Bool :=
  listsDevice InventoryRow.id InventoryRow.netInterfaces (·.IsPhysical ifaceId)
    db.serverInventory.rows sid

end MetricTables

/-! ## Numbers -/

/-- `EXTRACT(EPOCH FROM (s - t))`. -/
def epochSeconds (s t : ℤ) : ℚ := (s - t : ℤ) / 1000000

/-- `num::float / NULLIF(den, 0)`. -/
def ratio (num den : Option ℚ) : Option ℚ := do
  let num ← num
  let den ← den
  if den = 0 then none else some (num / den)

/-- The same in percent. -/
def percent (num den : Option ℚ) : Option ℚ := (ratio num den).map (· * 100)

/-- An integer column as a number. -/
def column (v : Option ℤ) : Option ℚ := v.map fun n : ℤ => (n : ℚ)

/-! ## Series -/

/-- A `MetricSeries` of a chart. -/
structure TrendPoint where
  collectedAt : ℤ
  value : Option ℚ
  dimension : Option String
  kind : Option String := none
  deriving DecidableEq, Repr

/-- `ORDER BY ts`. -/
def orderByTs (series : List TrendPoint) : List TrendPoint :=
  series.insertionSort fun a b => a.collectedAt ≤ b.collectedAt

/-- The value of a dimension at an instant. -/
structure TrendValue where
  collectedAt : ℤ
  dim : Option String := none
  v : Option ℚ
  deriving DecidableEq, Repr

/-- The values that are there, aggregated over the buckets. -/
def bucketSeries (ctx : MetricTrendCtx) (values : List TrendValue) : List TrendPoint :=
  orderByTs (groupBy (fun p : TrendValue => (ctx.bucket.of p.collectedAt, p.dim))
    (fun k group => ⟨k.1, ctx.agg.aggregate (group.filterMap fun p => p.v), k.2, none⟩)
    (values.filter fun p => p.v.isSome))

/-- The value of a device at an instant, with the name of the device where one is known. -/
structure DimValue where
  collectedAt : ℤ
  dim : String
  name : Option String := none
  v : Option ℚ
  deriving DecidableEq, Repr

/-- The values that are there, aggregated over the buckets of each device; `ORDER BY ts, dim`. -/
def dimSeries (ctx : MetricTrendCtx) (values : List DimValue) : List TrendPoint :=
  let points := groupBy (fun p : DimValue => (ctx.bucket.of p.collectedAt, p.dim, p.name))
    (fun k group => (toLex (k.1, k.2.1),
      (⟨k.1, ctx.agg.aggregate (group.filterMap fun p => p.v), some (k.2.2.getD k.2.1), none⟩ :
        TrendPoint)))
    (values.filter fun p => p.v.isSome)
  (points.insertionSort fun a b => a.1 ≤ b.1).map Prod.snd

/-- Whether a server crossed a threshold at an instant. -/
structure HostFlag where
  collectedAt : ℤ
  serverId : ℕ
  crossed : Option Bool
  deriving DecidableEq, Repr

/-- One where a flag of the bucket is set, else zero. -/
def everSeries (ctx : MetricTrendCtx) (flags : List (ℤ × Option Bool)) : List TrendPoint :=
  orderByTs (groupBy (fun x : ℤ × Option Bool => ctx.bucket.of x.1)
    (fun ts group => ⟨ts, some (if boolOr (group.map Prod.snd) = some true then 1 else 0), none,
      none⟩) flags)

/-- The number of servers with a flag of the bucket that is set. -/
def hostsSeries (ctx : MetricTrendCtx) (flags : List HostFlag) : List TrendPoint :=
  let perBucket := groupBy (fun x : HostFlag => (ctx.bucket.of x.collectedAt, x.serverId))
    (fun k group => (k.1, boolOr (group.map fun x => x.crossed))) flags
  orderByTs (groupBy Prod.fst
    (fun ts group => ⟨ts, some (group.countP fun x => x.2 = some true), none, none⟩) perBucket)

end AssessmentEngine
