import AssessmentEngine.Library.Calendar
import AssessmentEngine.Library.JsonText
import AssessmentEngine.Jobs.ChildReports

/-!
# The double-click key

`compute_hash` of a report that a client publishes, or that a worker emits as the child of a stored
job.  The client's anchor is cut to its UTC minute before it is written; the worker reads the text
back and writes it again.  With an injective digest two requests have one key exactly when they ask
for the same report in the same minute, in whatever order they name the servers.
-/

namespace AssessmentEngine

open IsoFormat JsonText

/-! ## The digested text -/

/-- The items of `input_params` in the order `_build_input_params` sets them. -/
def InputParams.members (p : InputParams) : List (String × Value) :=
  [("view", .string p.view), ("server_public_ids", .strings p.serverPublicIds),
    ("time_range", .string p.timeRange), ("anchor_at", .string p.anchorAt)] ++
    (p.serverPublicId.map fun pid => ("server_public_id", Value.string pid)).toList

/-- `json.dumps` with sorted keys, and the digest of the encoded text. -/
def reportHashing (sha256 : ByteArray → String) : Hashing where
  dumps p := String.ofList (dumps p.members)
  sha256Hex text := sha256 text.toByteArray

/-- The items under sorted keys, after the anchor. -/
def InputParams.sortedTail (p : InputParams) : List (String × Value) :=
  (p.serverPublicId.map fun pid => ("server_public_id", Value.string pid)).toList ++
    [("server_public_ids", .strings p.serverPublicIds), ("time_range", .string p.timeRange),
      ("view", .string p.view)]

/-- The anchor comes first, and the singular key before the plural one. -/
lemma insertionSort_members (p : InputParams) :
    (p.members.insertionSort fun a b => a.1 ≤ b.1) =
      ("anchor_at", .string p.anchorAt) :: p.sortedTail := by
  unfold InputParams.members InputParams.sortedTail
  cases p.serverPublicId with
  | none => simp [List.insertionSort, List.orderedInsert]
  | some pid => simp [List.insertionSort, List.orderedInsert]

lemma sortedTail_inj {p q : InputParams} (h : p.sortedTail = q.sortedTail) :
    p.view = q.view ∧ p.serverPublicIds = q.serverPublicIds ∧ p.timeRange = q.timeRange ∧
      p.serverPublicId = q.serverPublicId := by
  unfold InputParams.sortedTail at h
  cases hp : p.serverPublicId <;> cases hq : q.serverPublicId <;> rw [hp, hq] at h <;>
    simp_all

/-- The text behind the first brace. -/
def InputParams.tailChars (p : InputParams) : List Char :=
  objectTail (("anchor_at", .string p.anchorAt) :: p.sortedTail)

lemma dumps_members (p : InputParams) : dumps p.members = brace :: p.tailChars := by
  rw [dumps, insertionSort_members, InputParams.tailChars]

lemma tailChars_inj {p q : InputParams} (h : p.tailChars = q.tailChars) : p = q := by
  have happend : p.tailChars ++ [] = q.tailChars ++ [] := by rw [h]
  obtain ⟨hmembers, -⟩ := prefixCode_objectTail _ _ _ _ happend
  rw [List.cons.injEq, Prod.mk.injEq, Value.string.injEq] at hmembers
  obtain ⟨⟨-, hanchor⟩, htail⟩ := hmembers
  obtain ⟨hview, hids, htime, hid⟩ := sortedTail_inj htail
  cases p
  cases q
  simp_all

/-- Every such text begins with the key of the anchor. -/
lemma tailChars_head (p : InputParams) : ∃ rest, p.tailChars = '"' :: 'a' :: rest := by
  have hkey : escape "anchor_at".toList = 'a' :: escape "nchor_at".toList := by decide
  refine ⟨escape "nchor_at".toList ++ '"' :: ':' :: ((Value.string p.anchorAt).chars ++
    commaTail '\x7d' memberChars p.sortedTail), ?_⟩
  rw [InputParams.tailChars, objectTail, commaList, memberChars_append, quote_append, hkey,
    List.cons_append]

lemma noStart_tailChars (p : InputParams) : NoStart 'a' p.tailChars :=
  noStart_objectTail (by decide) _

/-- The digested text tells the scope from the parameters, whatever the scope. -/
lemma hashText_inj {sha256 : ByteArray → String} {scope scope' : String} {p q : InputParams}
    (h : scope ++ "|" ++ (reportHashing sha256).dumps p =
      scope' ++ "|" ++ (reportHashing sha256).dumps q) : scope = scope' ∧ p = q := by
  have hchars := congrArg String.toList h
  simp only [reportHashing, String.toList_append, String.toList_ofList, dumps_members,
    List.append_assoc] at hchars
  obtain ⟨rest, hp⟩ := tailChars_head p
  obtain ⟨rest', hq⟩ := tailChars_head q
  obtain ⟨hscope, htail⟩ := append_object_inj (by decide) (noStart_tailChars p)
    (noStart_tailChars q) hp hq hchars
  exact ⟨String.toList_injective hscope, tailChars_inj htail⟩

/-- With an injective digest the hash tells the scope and the parameters. -/
lemma computeHash_inj {sha256 : ByteArray → String} (hsha : Function.Injective sha256)
    {scope scope' : String} {p q : InputParams} :
    computeHash (reportHashing sha256) scope p = computeHash (reportHashing sha256) scope' q ↔
      scope = scope' ∧ p = q := by
  constructor
  · intro h
    exact hashText_inj (String.toByteArray_inj.mp (hsha h))
  · rintro ⟨rfl, rfl⟩
    rfl

/-- The parameters of two requests of one scope agree up to the order of the servers. -/
lemma buildInputParams_eq_iff {req req' : ReportRequest} (hscope : req.scope = req'.scope) :
    buildInputParams req = buildInputParams req' ↔
      req.view = req'.view ∧ req.timeRange = req'.timeRange ∧
        req.serverPublicIds.Perm req'.serverPublicIds ∧ req.anchorAt = req'.anchorAt := by
  constructor
  · intro h
    injection h with hview hids htime hanchor
    have hperm := List.perm_insertionSort (· ≤ ·) req.serverPublicIds
    rw [hids] at hperm
    exact ⟨hview, htime, hperm.symm.trans (List.perm_insertionSort _ _), hanchor⟩
  · rintro ⟨hview, htime, hperm, hanchor⟩
    have hids : req.serverPublicIds.insertionSort (· ≤ ·) =
        req'.serverPublicIds.insertionSort (· ≤ ·) := by
      refine List.Perm.eq_of_pairwise' (List.pairwise_insertionSort _ _)
        (List.pairwise_insertionSort _ _) ?_
      exact (List.perm_insertionSort _ _).trans
        (hperm.trans (List.perm_insertionSort _ _).symm)
    have hid : (if req.scope = "server" ∧ req.serverPublicIds.length = 1 then
          req.serverPublicIds.head? else none) =
        if req'.scope = "server" ∧ req'.serverPublicIds.length = 1 then
          req'.serverPublicIds.head? else none := by
      rw [hscope, hperm.length_eq]
      split_ifs with hone
      · obtain ⟨pid, hpid⟩ := List.length_eq_one_iff.mp hone.2
        rw [hpid] at hperm ⊢
        rw [List.perm_singleton.mp hperm]
      · rfl
    simp only [buildInputParams, hview, htime, hanchor, hids, hid]

/-! ## Requests -/

/-- `normalize_anchor`, where `now` is the time in UTC that the clock shows; `none` is the overflow
error of a time that has no year in UTC. -/
def normalizeAnchor (now : DateTime) (anchorAt : Option DateTime) : Option DateTime :=
  let t := match anchorAt with
    | none => now
    | some t => if t.civil.utcoffset = none then t.replaceTzinfoUtc else t
  t.astimezoneUtc.map DateTime.truncateMinute

/-- What the routers of the two publish forms are asked for. -/
structure PublishForm where
  view : String
  scope : String
  serverPublicIds : List String
  timeRange : String
  anchorAt : Option DateTime
  now : DateTime

/-- The call of `enqueue_report`. -/
def PublishForm.enqueueReport (form : PublishForm) : Option ReportRequest :=
  (normalizeAnchor form.now form.anchorAt).map fun anchor =>
    { view := form.view
      scope := form.scope
      serverPublicIds := form.serverPublicIds
      timeRange := form.timeRange
      anchorAt := anchor.isoformat
      requestedBy := none }

/-- The anchor that `build_report_result_for_job` reads back from a job. -/
def InputParams.anchor (p : InputParams) : Option DateTime :=
  DateTime.fromisoformat p.anchorAt

/-- The call of `emit_report` for a child of the job with these `input_params`. -/
def emitReport (p : InputParams) (pid : String) : Option ReportRequest :=
  p.anchor.map fun anchor =>
    { view := p.view
      scope := "server"
      serverPublicIds := [pid]
      timeRange := p.timeRange
      anchorAt := anchor.isoformat
      requestedBy := none }

/-- Where the stored anchor was written by `isoformat`, the child is given the same text. -/
lemma emitReport_eq {p : InputParams} {t : DateTime} (h : p.anchorAt = t.isoformat)
    (pid : String) : emitReport p pid = some (childRequest p pid) := by
  rw [emitReport, InputParams.anchor, h, DateTime.fromisoformat_isoformat, Option.map_some,
    childRequest, h]

/-- A publication: of a form, or of a child that the worker emits for the stored job of a form. -/
inductive PublishRequest
  | form (form : PublishForm)
  | child (parent : PublishForm) (pid : String)

namespace PublishRequest

/-- The call of `enqueue_report` or `emit_report`; `none` where it is not reached. -/
def report : PublishRequest → Option ReportRequest
  | form f => f.enqueueReport
  | child parent pid => parent.enqueueReport.bind fun job => emitReport (buildInputParams job) pid

/-- The value of `compute_hash`. -/
def inputHash (sha256 : ByteArray → String) (r : PublishRequest) : Option String :=
  r.report.map fun req =>
    computeHash (reportHashing sha256) req.scope (buildInputParams req)

def scope : PublishRequest → String
  | form f => f.scope
  | child _ _ => "server"

def view : PublishRequest → String
  | form f => f.view
  | child parent _ => parent.view

def timeRange : PublishRequest → String
  | form f => f.timeRange
  | child parent _ => parent.timeRange

def serverPublicIds : PublishRequest → List String
  | form f => f.serverPublicIds
  | child _ pid => [pid]

/-- The anchor that is asked for, or read back from the job. -/
def anchor : PublishRequest → Option DateTime
  | form f => some (f.anchorAt.getD f.now)
  | child parent _ => parent.enqueueReport.bind fun job => (buildInputParams job).anchor

/-- The anchor cut to its UTC minute. -/
def utcMinute (r : PublishRequest) : Option ℤ :=
  r.anchor.map DateTime.utcMinute

end PublishRequest

/-! ## One key for one minute -/

/-- The normalised anchor is a whole minute, that of the anchor asked for. -/
lemma normalizeAnchor_spec {now t : DateTime} {anchorAt : Option DateTime}
    (h : normalizeAnchor now anchorAt = some t) :
    t.WholeMinute ∧ t.utcMinute = (anchorAt.getD now).utcMinute := by
  cases anchorAt with
  | none => exact DateTime.truncateMinute_astimezoneUtc h
  | some u =>
    obtain ⟨hwhole, hminute⟩ := DateTime.truncateMinute_astimezoneUtc h
    refine ⟨hwhole, hminute.trans ?_⟩
    unfold DateTime.utcMinute
    dsimp only [Option.getD_some]
    split_ifs with hnaive
    · rw [DateTime.instant_replaceTzinfoUtc hnaive]
    · rfl

/-- What the services are called with, told from the request. -/
structure PublishRequest.Calls (r : PublishRequest) (req : ReportRequest) (t : DateTime) :
    Prop where
  scope : req.scope = r.scope
  view : req.view = r.view
  timeRange : req.timeRange = r.timeRange
  serverPublicIds : req.serverPublicIds = r.serverPublicIds
  anchorAt : req.anchorAt = t.isoformat
  wholeMinute : t.WholeMinute
  utcMinute : r.utcMinute = some t.utcMinute

lemma calls_form {f : PublishForm} {req : ReportRequest} (h : f.enqueueReport = some req) :
    ∃ t, (PublishRequest.form f).Calls req t := by
  obtain ⟨t, ht, rfl⟩ := Option.map_eq_some_iff.mp h
  obtain ⟨hwhole, hminute⟩ := normalizeAnchor_spec ht
  exact ⟨t, rfl, rfl, rfl, rfl, rfl, hwhole, congrArg some hminute.symm⟩

/-- A child keeps the anchor of its parent, which needs no second normalisation. -/
lemma calls_child {parent : PublishForm} {pid : String} {job req : ReportRequest}
    (hjob : parent.enqueueReport = some job)
    (h : emitReport (buildInputParams job) pid = some req) :
    ∃ t, (PublishRequest.child parent pid).Calls req t := by
  obtain ⟨t, hparent⟩ := calls_form hjob
  have hanchor : (buildInputParams job).anchorAt = t.isoformat := hparent.anchorAt
  rw [emitReport_eq hanchor] at h
  obtain rfl := Option.some.inj h
  have hread : (PublishRequest.child parent pid).anchor = some t := by
    rw [PublishRequest.anchor, hjob, Option.bind_some, InputParams.anchor, hanchor,
      DateTime.fromisoformat_isoformat]
  refine ⟨t, rfl, hparent.view, hparent.timeRange, rfl, hanchor, hparent.wholeMinute, ?_⟩
  rw [PublishRequest.utcMinute, hread, Option.map_some]

lemma exists_calls {r : PublishRequest} {req : ReportRequest} (h : r.report = some req) :
    ∃ t, r.Calls req t := by
  cases r with
  | form f => exact calls_form h
  | child parent pid =>
    obtain ⟨job, hjob, hemit⟩ := Option.bind_eq_some_iff.mp h
    exact calls_child hjob hemit

/-- Two calls are given the same anchor when the requests lie in one minute. -/
lemma anchorAt_eq_iff {r r' : PublishRequest} {req req' : ReportRequest} {t t' : DateTime}
    (h : r.Calls req t) (h' : r'.Calls req' t') :
    req.anchorAt = req'.anchorAt ↔ r.utcMinute = r'.utcMinute := by
  rw [h.anchorAt, h'.anchorAt, h.utcMinute, h'.utcMinute, Option.some_inj,
    DateTime.isoformat_injective.eq_iff]
  constructor
  · rintro rfl
    rfl
  · exact h.wholeMinute.eq_of_utcMinute_eq h'.wholeMinute

/-- Two publications have one key exactly when they ask for the same report in the same minute. -/
theorem inputHash_eq_iff {sha256 : ByteArray → String} (hsha : Function.Injective sha256)
    {r r' : PublishRequest} {k k' : String} (hk : r.inputHash sha256 = some k)
    (hk' : r'.inputHash sha256 = some k') :
    k = k' ↔ r.scope = r'.scope ∧ r.view = r'.view ∧ r.timeRange = r'.timeRange ∧
      r.serverPublicIds.Perm r'.serverPublicIds ∧ r.utcMinute = r'.utcMinute := by
  obtain ⟨req, hreq, rfl⟩ := Option.map_eq_some_iff.mp hk
  obtain ⟨req', hreq', rfl⟩ := Option.map_eq_some_iff.mp hk'
  obtain ⟨t, h⟩ := exists_calls hreq
  obtain ⟨t', h'⟩ := exists_calls hreq'
  rw [computeHash_inj hsha, ← anchorAt_eq_iff h h', ← h.scope, ← h'.scope, ← h.view, ← h'.view,
    ← h.timeRange, ← h'.timeRange, ← h.serverPublicIds, ← h'.serverPublicIds]
  exact and_congr_right buildInputParams_eq_iff

/-! ### A child and the server's own report -/

/-- A digest that is the bytes themselves, each as a character. -/
def sampleDigest (bytes : ByteArray) : String :=
  String.ofList (bytes.data.toList.map fun b =>
    Char.ofOrdinal ⟨b.toNat, b.toNat_lt.trans (by decide)⟩)

lemma sampleDigest_injective : Function.Injective sampleDigest := by
  intro a b h
  have hchar : Function.Injective fun b : UInt8 =>
      Char.ofOrdinal ⟨b.toNat, b.toNat_lt.trans (by decide)⟩ := by
    intro x y hxy
    exact UInt8.toNat_inj.mp (Fin.mk.inj (Char.ofOrdinal_injective hxy))
  have hlist := List.map_injective_iff.mpr hchar (String.ofList_injective h)
  exact ByteArray.ext (Array.toList_inj.mp hlist)

/-- Two servers, with an anchor in Seoul. -/
def selectionForm : PublishForm where
  view := "customer"
  scope := "server"
  serverPublicIds := ["srv-2", "srv-1"]
  timeRange := "7d"
  anchorAt := some ⟨⟨2026, 1, 1, 9, 0, 30, 0, some 32400000000⟩, by decide⟩
  now := ⟨⟨2026, 1, 1, 0, 5, 0, 0, some 0⟩, by decide⟩

/-- One of them, published without an anchor within the same minute in UTC. -/
def singleForm : PublishForm where
  view := "customer"
  scope := "server"
  serverPublicIds := ["srv-1"]
  timeRange := "7d"
  anchorAt := none
  now := ⟨⟨2026, 1, 1, 0, 0, 59, 7, some 0⟩, by decide⟩

theorem inputHash_childOfSelection :
    (PublishRequest.child selectionForm "srv-1").inputHash sampleDigest =
      (PublishRequest.form singleForm).inputHash sampleDigest := by
  have hsome : (PublishRequest.child selectionForm "srv-1").report.isSome := by decide +kernel
  have hsome' : (PublishRequest.form singleForm).report.isSome := by decide +kernel
  obtain ⟨req, hreq⟩ := Option.isSome_iff_exists.mp hsome
  obtain ⟨req', hreq'⟩ := Option.isSome_iff_exists.mp hsome'
  have hk := congrArg (Option.map fun req =>
    computeHash (reportHashing sampleDigest) req.scope (buildInputParams req)) hreq
  have hk' := congrArg (Option.map fun req =>
    computeHash (reportHashing sampleDigest) req.scope (buildInputParams req)) hreq'
  have hminute : (PublishRequest.child selectionForm "srv-1").utcMinute =
      (PublishRequest.form singleForm).utcMinute := by decide +kernel
  rw [PublishRequest.inputHash, PublishRequest.inputHash, hk, hk']
  exact congrArg some
    ((inputHash_eq_iff sampleDigest_injective hk hk').mpr ⟨rfl, rfl, rfl, .refl _, hminute⟩)

end AssessmentEngine
