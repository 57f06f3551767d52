import AssessmentEngine.Library.SetDefault
import AssessmentEngine.Services.Workloads
import Mathlib.Data.Finset.Card

/-!
# The service catalogue

`_aggregate_service_catalog` counts, for each category that marks a server, the hosts that have
it and the hosts of each of its services.  The collections are kept by category, so that a run
over the rows is, category by category, a run that sees nothing else (`foldl_addRow_view`).

The hosts of a category are a set, but those of a service are a list with one entry for each
occurrence of its name.  The catalogue therefore adds up, and its counts are numbers of hosts, just
when no host lists a name twice (`aggregateServiceCatalog_counts_iff`).
-/

namespace AssessmentEngine

open SetDefault

/-! ## The model -/

/-- `SIGNATURE_CATEGORIES`. -/
def signatureCategories : List String := ["web", "db", "cache", "mq", "container", "monitor"]

/-- What the catalogue reads of a row of the report.  The services are listed by category, and
their categories are among those of the row. -/
structure CatalogRow where
  hostname : String
  publicId : String
  workloadCategories : List String
  workloadServices : List (String × List String)
  keys_nodup : (workloadServices.map Prod.fst).Nodup
  mem_categories : ∀ entry ∈ workloadServices, entry.1 ∈ workloadCategories

/-- The row of a host with these services and sockets. -/
def toCatalogRow (u : Unicode) (hostname publicId : String)
    (services : Option (List NamedService)) (listenPorts : List ListenPort) : CatalogRow where
  hostname := hostname
  publicId := publicId
  workloadCategories := (workloadCategoryCounter u services listenPorts).map Prod.fst
  workloadServices := workloadServicesByCategory u services listenPorts
  keys_nodup := by
    rw [workloadServicesByCategory_eq]
    apply nodup_keys_groupUnder
    exact List.nodup_nil
  mem_categories := by
    intro entry hentry
    have hkey := List.mem_map_of_mem (f := Prod.fst) hentry
    rw [workloadServicesByCategory_eq, mem_keys_groupUnder] at hkey
    obtain ⟨s, hs, hcat⟩ := hkey.resolve_left List.not_mem_nil
    obtain ⟨hservice, hsome⟩ := List.mem_filter.mp hs
    obtain ⟨cat, hworkload⟩ := Option.isSome_iff_exists.mp hsome
    rw [mem_keys_workloadCategoryCounter]
    refine Or.inl (List.mem_filterMap.mpr ⟨s, hservice, ?_⟩)
    rw [← hcat, hworkload, Option.getD_some]

structure ServiceHost where
  hostname : String
  publicId : String
  deriving DecidableEq, Repr

structure ServiceNameCount where
  name : String
  count : ℕ
  hosts : List ServiceHost
  deriving DecidableEq, Repr

structure ServiceCatalogGroup where
  category : String
  totalCount : ℕ
  services : List ServiceNameCount
  deriving DecidableEq, Repr

def CatalogRow.host (r : CatalogRow) : ServiceHost where
  hostname := r.hostname
  publicId := r.publicId

/-- The collections of the aggregation; a set is the list of its members. -/
structure Catalog where
  multi : List (String × List (String × List ServiceHost)) := []
  singleNames : List (String × List String) := []
  singleHosts : List (String × List ServiceHost) := []
  catHosts : List (String × List String) := []
  namedHosts : List (String × List String) := []

/-- The host has a category. -/
def Catalog.addCategory (publicId : String) (c : Catalog) (cat : String) : Catalog :=
  if cat ∉ signatureCategories then c
  else { c with catHosts := setDefault cat [] (List.insert publicId) c.catHosts }

/-- The host has services of a category. -/
def Catalog.addNames (host : ServiceHost) (c : Catalog) (entry : String × List String) : Catalog :=
  if entry.1 ∉ signatureCategories ∨ entry.2 = [] then c
  else
    let c := { c with
      namedHosts := setDefault entry.1 [] (List.insert host.publicId) c.namedHosts }
    if entry.1 ∈ singleInstanceCategories then
      { c with
        singleNames := setDefault entry.1 []
          (fun names => entry.2.foldl (fun names n => names.insert n) names) c.singleNames
        singleHosts := setDefault entry.1 [] (fun hosts => hosts ++ [host]) c.singleHosts }
    else
      { c with
        multi := setDefault entry.1 []
          (fun catMap => entry.2.foldl (fun catMap n => appendUnder n host catMap) catMap) c.multi }

/-- A row of the report. -/
def Catalog.addRow (c : Catalog) (r : CatalogRow) : Catalog :=
  r.workloadServices.foldl (Catalog.addNames r.host)
    (r.workloadCategories.foldl (Catalog.addCategory r.publicId) c)

/-- The names of a runtime stack as one name. -/
def stackLabel (cat : String) (names : List String) : String :=
  let label := ", ".intercalate (names.mergeSort fun a b => decide (a ≤ b))
  if label = "" then cat else label

/-- The counts of the names of a category, by name. -/
def countNames (catMap : List (String × List ServiceHost)) : List ServiceNameCount :=
  (catMap.mergeSort fun a b => decide (a.1 ≤ b.1)).map fun entry =>
    { name := entry.1, count := entry.2.length, hosts := entry.2 }

/-- `groups[cat]` before hosts without a name are added: a runtime stack is one entry. -/
def Catalog.namedServices (c : Catalog) (cat : String) : List ServiceNameCount :=
  match c.singleHosts.lookup cat with
  | some hosts =>
    [{ name := stackLabel cat ((c.singleNames.lookup cat).getD [])
       count := hosts.length
       hosts := hosts }]
  | none => countNames ((c.multi.lookup cat).getD [])

/-- The hosts that have a category of which they list no service. -/
def Catalog.listenOnly (c : Catalog) (cat : String) : ℕ :=
  (((c.catHosts.lookup cat).getD []).filter fun publicId =>
    decide (publicId ∉ (c.namedHosts.lookup cat).getD [])).length

/-- The entry for hosts that only a socket is evidence of. -/
def portDetected (count : ℕ) : ServiceNameCount where
  name := "(포트 탐지)"
  count := count
  hosts := []

def Catalog.group (c : Catalog) (cat : String) : ServiceCatalogGroup where
  category := cat
  totalCount := ((c.catHosts.lookup cat).getD []).length
  services := c.namedServices cat ++
    if c.listenOnly cat = 0 then [] else [portDetected (c.listenOnly cat)]

/-- `_aggregate_service_catalog`. -/
def aggregateServiceCatalog (rows : List CatalogRow) : List ServiceCatalogGroup :=
  signatureCategories.map (rows.foldl Catalog.addRow {}).group

/-! ## One category -/

/-- The services that a host lists in a category. -/
def CatalogRow.names (r : CatalogRow) (cat : String) : List String :=
  (r.workloadServices.lookup cat).getD []

/-- The entries of a category in the collections. -/
structure CategoryView where
  multi : Option (List (String × List ServiceHost)) := none
  singleNames : Option (List String) := none
  singleHosts : Option (List ServiceHost) := none
  catHosts : Option (List String) := none
  namedHosts : Option (List String) := none

def Catalog.view (c : Catalog) (cat : String) : CategoryView where
  multi := c.multi.lookup cat
  singleNames := c.singleNames.lookup cat
  singleHosts := c.singleHosts.lookup cat
  catHosts := c.catHosts.lookup cat
  namedHosts := c.namedHosts.lookup cat

def CategoryView.addHost (publicId : String) (v : CategoryView) : CategoryView :=
  { v with catHosts := some ((v.catHosts.getD []).insert publicId) }

def CategoryView.addNames (cat : String) (host : ServiceHost) (names : List String)
    (v : CategoryView) : CategoryView :=
  if names = [] then v
  else
    let v := { v with namedHosts := some ((v.namedHosts.getD []).insert host.publicId) }
    if cat ∈ singleInstanceCategories then
      { v with
        singleNames := some (names.foldl (fun ns n => ns.insert n) (v.singleNames.getD []))
        singleHosts := some (v.singleHosts.getD [] ++ [host]) }
    else
      { v with
        multi := some (names.foldl (fun catMap n => appendUnder n host catMap)
          (v.multi.getD [])) }

/-- A row, as far as the category sees it. -/
def CategoryView.addRow (cat : String) (v : CategoryView) (r : CatalogRow) : CategoryView :=
  (if cat ∈ r.workloadCategories then v.addHost r.publicId else v).addNames cat r.host
    (r.names cat)

section Fields

variable (cat : String) (v : CategoryView) (r : CatalogRow)

lemma addRow_catHosts :
    (v.addRow cat r).catHosts =
      if cat ∈ r.workloadCategories then some ((v.catHosts.getD []).insert r.publicId)
      else v.catHosts := by
  unfold CategoryView.addRow CategoryView.addNames CategoryView.addHost
  split_ifs <;> rfl

lemma addRow_namedHosts :
    (v.addRow cat r).namedHosts =
      if r.names cat ≠ [] then some ((v.namedHosts.getD []).insert r.publicId)
      else v.namedHosts := by
  unfold CategoryView.addRow CategoryView.addNames CategoryView.addHost
  by_cases hnil : r.names cat = []
  · rw [if_pos hnil, if_neg (not_not.mpr hnil)]
    split_ifs <;> rfl
  · rw [if_neg hnil, if_pos hnil]
    split_ifs <;> rfl

lemma addRow_singleHosts :
    (v.addRow cat r).singleHosts =
      if r.names cat ≠ [] ∧ cat ∈ singleInstanceCategories then
        some (v.singleHosts.getD [] ++ [r.host])
      else v.singleHosts := by
  unfold CategoryView.addRow CategoryView.addNames CategoryView.addHost
  by_cases hnil : r.names cat = []
  · have hnot : ¬ (r.names cat ≠ [] ∧ cat ∈ singleInstanceCategories) := fun h => h.1 hnil
    rw [if_pos hnil, if_neg hnot]
    split_ifs <;> rfl
  · by_cases hsingle : cat ∈ singleInstanceCategories
    · rw [if_neg hnil, if_pos hsingle, if_pos (And.intro hnil hsingle)]
      split_ifs <;> rfl
    · have hnot : ¬ (r.names cat ≠ [] ∧ cat ∈ singleInstanceCategories) := fun h => hsingle h.2
      rw [if_neg hnil, if_neg hsingle, if_neg hnot]
      split_ifs <;> rfl

lemma addRow_singleNames (hsingle : cat ∈ singleInstanceCategories) :
    (v.addRow cat r).singleNames.getD [] =
      (r.names cat).foldl (fun names n => names.insert n) (v.singleNames.getD []) := by
  unfold CategoryView.addRow CategoryView.addNames CategoryView.addHost
  by_cases hnil : r.names cat = []
  · rw [if_pos hnil, hnil]
    split_ifs <;> rfl
  · rw [if_neg hnil, if_pos hsingle]
    split_ifs <;> rfl

lemma addRow_multi :
    (v.addRow cat r).multi.getD [] =
      if cat ∈ singleInstanceCategories then v.multi.getD []
      else (r.names cat).foldl (fun catMap n => appendUnder n r.host catMap) (v.multi.getD []) := by
  unfold CategoryView.addRow CategoryView.addNames CategoryView.addHost
  by_cases hnil : r.names cat = []
  · rw [if_pos hnil, hnil]
    split_ifs <;> rfl
  · by_cases hsingle : cat ∈ singleInstanceCategories
    · rw [if_neg hnil, if_pos hsingle, if_pos hsingle]
      split_ifs <;> rfl
    · rw [if_neg hnil, if_neg hsingle, if_neg hsingle]
      split_ifs <;> rfl

end Fields

section View

variable {cat : String} (hcat : cat ∈ signatureCategories)

include hcat

lemma view_addCategory (publicId : String) (c : Catalog) (cat' : String) :
    (c.addCategory publicId cat').view cat =
      if cat' = cat then (c.view cat).addHost publicId else c.view cat := by
  unfold Catalog.addCategory
  by_cases hsame : cat' = cat
  · subst hsame
    rw [if_neg (not_not.mpr hcat), if_pos rfl]
    unfold Catalog.view CategoryView.addHost
    rw [lookup_setDefault_self]
  · rw [if_neg hsame]
    by_cases hsig : cat' ∈ signatureCategories
    · rw [if_neg (not_not.mpr hsig)]
      unfold Catalog.view
      rw [lookup_setDefault_of_ne hsame]
    · rw [if_pos hsig]

lemma view_addNames (host : ServiceHost) (c : Catalog) (entry : String × List String) :
    (c.addNames host entry).view cat =
      if entry.1 = cat then (c.view cat).addNames cat host entry.2 else c.view cat := by
  obtain ⟨cat', names⟩ := entry
  unfold Catalog.addNames
  by_cases hsame : cat' = cat
  · subst hsame
    unfold CategoryView.addNames
    by_cases hnil : names = []
    · simp [hnil]
    · by_cases hsingle : cat' ∈ singleInstanceCategories
      · simp [hnil, hsingle, hcat, Catalog.view, lookup_setDefault_self]
      · simp [hnil, hsingle, hcat, Catalog.view, lookup_setDefault_self]
  · rw [if_neg hsame]
    by_cases hskip : cat' ∉ signatureCategories ∨ names = []
    · rw [if_pos hskip]
    · rw [if_neg hskip]
      by_cases hsingle : cat' ∈ singleInstanceCategories
      · simp [hsingle, Catalog.view, lookup_setDefault_of_ne hsame]
      · simp [hsingle, Catalog.view, lookup_setDefault_of_ne hsame]

lemma foldl_addCategory_view (publicId : String) (cats : List String) (c : Catalog) :
    (cats.foldl (Catalog.addCategory publicId) c).view cat =
      if cat ∈ cats then (c.view cat).addHost publicId else c.view cat := by
  induction cats generalizing c with
  | nil => rfl
  | cons cat' cats ih =>
    rw [List.foldl_cons, ih, view_addCategory hcat]
    by_cases hsame : cat' = cat
    · subst hsame
      rw [if_pos rfl, if_pos List.mem_cons_self]
      split_ifs
      · unfold CategoryView.addHost
        simp
      · rfl
    · rw [if_neg hsame]
      have hmem : cat ∈ cat' :: cats ↔ cat ∈ cats := by
        rw [List.mem_cons]
        exact or_iff_right (Ne.symm hsame)
      simp only [hmem]

lemma foldl_addNames_view (host : ServiceHost) {entries : List (String × List String)}
    (hnodup : (entries.map Prod.fst).Nodup) (c : Catalog) :
    (entries.foldl (Catalog.addNames host) c).view cat =
      (c.view cat).addNames cat host ((entries.lookup cat).getD []) := by
  induction entries generalizing c with
  | nil => rfl
  | cons entry entries ih =>
    rw [List.map_cons, List.nodup_cons] at hnodup
    rw [List.foldl_cons, ih hnodup.2, view_addNames hcat]
    by_cases hsame : entry.1 = cat
    · have hnone : entries.lookup cat = none := by
        rw [List.lookup_eq_none_iff]
        intro e he
        have hne : cat ≠ e.1 := by
          rintro rfl
          exact hnodup.1 (hsame ▸ List.mem_map_of_mem he)
        simpa using hne
      have hfound : (entry :: entries).lookup cat = some entry.2 := by
        rw [← hsame]
        exact List.lookup_cons_self
      rw [if_pos hsame, hnone, hfound]
      rfl
    · have hfound : (entry :: entries).lookup cat = entries.lookup cat := by
        rw [List.lookup_cons, beq_eq_false_iff_ne.mpr (Ne.symm hsame)]
      rw [if_neg hsame, hfound]

/-- The collections of a category depend on what the rows say of that category. -/
lemma foldl_addRow_view (rows : List CatalogRow) (c : Catalog) :
    (rows.foldl Catalog.addRow c).view cat =
      rows.foldl (CategoryView.addRow cat) (c.view cat) := by
  induction rows generalizing c with
  | nil => rfl
  | cons r rows ih =>
    have hrow : (c.addRow r).view cat = (c.view cat).addRow cat r := by
      unfold Catalog.addRow CategoryView.addRow CatalogRow.names
      rw [foldl_addNames_view hcat r.host r.keys_nodup, foldl_addCategory_view hcat]
    rw [List.foldl_cons, List.foldl_cons, ih, hrow]

end View

/-! ## What the collections hold -/

section Collections

variable (cat : String)

/-- The collections of a category after the rows. -/
def catalogView (rows : List CatalogRow) : CategoryView :=
  rows.foldl (CategoryView.addRow cat) {}

/-- The names of a category that occur, each once. -/
def stackNames (rows : List CatalogRow) : List String :=
  (rows.flatMap fun r => r.names cat).foldl (fun names n => names.insert n) []

/-- The services of a category with their hosts, one for each occurrence. -/
def occurrences (rows : List CatalogRow) : List (String × ServiceHost) :=
  rows.flatMap fun r => (r.names cat).map fun n => (n, r.host)

lemma catalogView_append (rows : List CatalogRow) (r : CatalogRow) :
    catalogView cat (rows ++ [r]) = (catalogView cat rows).addRow cat r := by
  unfold catalogView
  rw [List.foldl_append, List.foldl_cons, List.foldl_nil]

/-- A collection of the public ids of the rows that meet a condition. -/
lemma idSet_spec (collected : List CatalogRow → Option (List String)) {p : CatalogRow → Prop}
    [DecidablePred p] (hnil : collected [] = none)
    (hstep : ∀ rows r, collected (rows ++ [r]) =
      if p r then some (((collected rows).getD []).insert r.publicId) else collected rows)
    (rows : List CatalogRow) :
    ((collected rows).getD []).Nodup ∧
      ∀ id, id ∈ (collected rows).getD [] ↔ ∃ r ∈ rows, p r ∧ r.publicId = id := by
  induction rows using List.reverseRecOn with
  | nil => simp [hnil]
  | append_singleton rows r ih =>
    obtain ⟨hnodup, hmem⟩ := ih
    rw [hstep]
    by_cases hr : p r
    · rw [if_pos hr, Option.getD_some]
      refine ⟨hnodup.insert, fun id => ?_⟩
      rw [List.mem_insert_iff, hmem]
      constructor
      · rintro (rfl | ⟨q, hq, hp, hid⟩)
        · exact ⟨r, by simp, hr, rfl⟩
        · exact ⟨q, List.mem_append_left _ hq, hp, hid⟩
      · rintro ⟨q, hq, hp, rfl⟩
        rcases List.mem_append.mp hq with hq | hq
        · exact Or.inr ⟨q, hq, hp, rfl⟩
        · obtain rfl := List.mem_singleton.mp hq
          exact Or.inl rfl
    · rw [if_neg hr]
      refine ⟨hnodup, fun id => ?_⟩
      rw [hmem]
      constructor
      · rintro ⟨q, hq, hp, hid⟩
        exact ⟨q, List.mem_append_left _ hq, hp, hid⟩
      · rintro ⟨q, hq, hp, hid⟩
        rcases List.mem_append.mp hq with hq | hq
        · exact ⟨q, hq, hp, hid⟩
        · obtain rfl := List.mem_singleton.mp hq
          exact absurd hp hr

lemma catHosts_spec (rows : List CatalogRow) :
    ((catalogView cat rows).catHosts.getD []).Nodup ∧
      ∀ id, id ∈ (catalogView cat rows).catHosts.getD [] ↔
        ∃ r ∈ rows, cat ∈ r.workloadCategories ∧ r.publicId = id := by
  apply idSet_spec (fun rows => (catalogView cat rows).catHosts) rfl
  intro rows r
  rw [catalogView_append, addRow_catHosts]

lemma namedHosts_spec (rows : List CatalogRow) :
    ((catalogView cat rows).namedHosts.getD []).Nodup ∧
      ∀ id, id ∈ (catalogView cat rows).namedHosts.getD [] ↔
        ∃ r ∈ rows, r.names cat ≠ [] ∧ r.publicId = id := by
  apply idSet_spec (fun rows => (catalogView cat rows).namedHosts) rfl
  intro rows r
  rw [catalogView_append, addRow_namedHosts]

lemma singleHosts_eq_none (hmany : cat ∉ singleInstanceCategories) (rows : List CatalogRow) :
    (catalogView cat rows).singleHosts = none := by
  induction rows using List.reverseRecOn with
  | nil => rfl
  | append_singleton rows r ih =>
    rw [catalogView_append, addRow_singleHosts, if_neg fun h => hmany h.2, ih]

/-- A runtime stack has an entry only when it has a host. -/
lemma singleHosts_ne_some_nil (rows : List CatalogRow) :
    (catalogView cat rows).singleHosts ≠ some [] := by
  induction rows using List.reverseRecOn with
  | nil =>
    have hnone : (catalogView cat []).singleHosts = none := rfl
    rw [hnone]
    exact Option.some_ne_none [] ∘ Eq.symm
  | append_singleton rows r ih =>
    rw [catalogView_append, addRow_singleHosts]
    split_ifs
    · simp
    · exact ih

lemma getD_singleHosts (hsingle : cat ∈ singleInstanceCategories) (rows : List CatalogRow) :
    (catalogView cat rows).singleHosts.getD [] =
      (rows.filter fun r => decide (r.names cat ≠ [])).map CatalogRow.host := by
  induction rows using List.reverseRecOn with
  | nil => rfl
  | append_singleton rows r ih =>
    rw [catalogView_append, addRow_singleHosts, List.filter_append, List.map_append, ← ih]
    by_cases hnil : r.names cat = []
    · rw [if_neg fun h => h.1 hnil, List.filter_cons_of_neg (by simp [hnil])]
      simp
    · rw [if_pos (And.intro hnil hsingle), List.filter_cons_of_pos (by simp [hnil])]
      rfl

lemma getD_singleNames (hsingle : cat ∈ singleInstanceCategories) (rows : List CatalogRow) :
    (catalogView cat rows).singleNames.getD [] = stackNames cat rows := by
  induction rows using List.reverseRecOn with
  | nil => rfl
  | append_singleton rows r ih =>
    rw [catalogView_append, addRow_singleNames cat _ r hsingle, ih]
    unfold stackNames
    rw [List.flatMap_append, List.foldl_append, List.flatMap_singleton]

/-- The services of a category are grouped by name. -/
lemma getD_multi (rows : List CatalogRow) :
    (catalogView cat rows).multi.getD [] =
      if cat ∈ singleInstanceCategories then []
      else groupUnder Prod.fst Prod.snd [] (occurrences cat rows) := by
  induction rows using List.reverseRecOn with
  | nil =>
    split_ifs <;> rfl
  | append_singleton rows r ih =>
    rw [catalogView_append, addRow_multi, ih]
    split_ifs
    · rfl
    · unfold groupUnder occurrences
      rw [List.flatMap_append, List.foldl_append, List.flatMap_singleton, List.foldl_map]

end Collections

/-! ## Counts -/

section Counts

variable {rows : List CatalogRow} {cat n : String}

/-- The number of distinct hosts among the rows that meet a condition. -/
def hostCount (rows : List CatalogRow) (p : CatalogRow → Prop) [DecidablePred p] : ℕ :=
  ((rows.filter fun r => decide (p r)).map CatalogRow.publicId).toFinset.card

/-- The services that an entry of a category stands for: the entry of a runtime stack stands for all
the services whose names it joins. -/
def standsFor (rows : List CatalogRow) (cat name : String) : List String :=
  if cat ∈ singleInstanceCategories ∧ name = stackLabel cat (stackNames cat rows) then
    stackNames cat rows
  else [name]

/-- The count of each named service is the number of hosts that list the service. -/
def CountsHosts (rows : List CatalogRow) (group : ServiceCatalogGroup) : Prop :=
  ∀ s ∈ group.services, s ≠ portDetected s.count →
    s.count = hostCount rows fun r =>
      ∃ name ∈ standsFor rows group.category s.name, name ∈ r.names group.category

/-- The hosts with a named service and those that were only detected make the total. -/
def AddsUp (rows : List CatalogRow) (group : ServiceCatalogGroup) : Prop :=
  (hostCount rows fun r => r.names group.category ≠ []) +
      ((group.services.filter fun s => decide (s = portDetected s.count)).map
        ServiceNameCount.count).sum =
    group.totalCount

lemma hostCount_eq_countP (hids : (rows.map CatalogRow.publicId).Nodup) (p : CatalogRow → Prop)
    [DecidablePred p] : hostCount rows p = rows.countP fun r => decide (p r) := by
  have hnodup : ((rows.filter fun r => decide (p r)).map CatalogRow.publicId).Nodup :=
    hids.sublist ((List.filter_sublist).map _)
  unfold hostCount
  rw [List.toFinset_card_of_nodup hnodup, List.length_map, ← List.countP_eq_length_filter]

/-- The members of a set of public ids are as many as the hosts they are of. -/
lemma length_eq_hostCount {ids : List String} (hnodup : ids.Nodup) {p : CatalogRow → Prop}
    [DecidablePred p] (hmem : ∀ id, id ∈ ids ↔ ∃ r ∈ rows, p r ∧ r.publicId = id) :
    ids.length = hostCount rows p := by
  have hsame : ids.toFinset = ((rows.filter fun r => decide (p r)).map
      CatalogRow.publicId).toFinset := by
    ext id
    rw [List.mem_toFinset, List.mem_toFinset, hmem, List.mem_map]
    constructor
    · rintro ⟨r, hr, hp, hid⟩
      exact ⟨r, List.mem_filter.mpr ⟨hr, decide_eq_true hp⟩, hid⟩
    · rintro ⟨r, hr, hid⟩
      obtain ⟨hrows, hp⟩ := List.mem_filter.mp hr
      exact ⟨r, hrows, of_decide_eq_true hp, hid⟩
  unfold hostCount
  rw [← hsame, List.toFinset_card_of_nodup hnodup]

/-- A name occurs as often as there are hosts that list it just when none lists it twice. -/
lemma count_flatMap_names (rows : List CatalogRow) (cat n : String) :
    (rows.countP fun r => decide (n ∈ r.names cat)) ≤
        (rows.flatMap fun r => r.names cat).count n ∧
      ((rows.flatMap fun r => r.names cat).count n =
          (rows.countP fun r => decide (n ∈ r.names cat)) ↔
        ∀ r ∈ rows, (r.names cat).count n ≤ 1) := by
  induction rows with
  | nil => simp
  | cons r rows ih =>
    obtain ⟨hle, hiff⟩ := ih
    rw [List.flatMap_cons, List.count_append, List.countP_cons, List.forall_mem_cons, ← hiff]
    by_cases hmem : n ∈ r.names cat
    · have hpos : 0 < (r.names cat).count n := List.count_pos_iff.mpr hmem
      simp only [hmem, decide_true, if_true]
      omega
    · have hzero : (r.names cat).count n = 0 := List.count_eq_zero_of_not_mem hmem
      simp only [hmem, hzero, decide_false]
      simp only [Bool.false_eq_true, if_false]
      omega

lemma mem_categories_of_names {r : CatalogRow} (hnames : r.names cat ≠ []) :
    cat ∈ r.workloadCategories := by
  unfold CatalogRow.names at hnames
  cases hfound : r.workloadServices.lookup cat with
  | none =>
    rw [hfound] at hnames
    exact absurd rfl hnames
  | some names =>
    obtain ⟨before, after, hservices, -⟩ := List.lookup_eq_some_iff.mp hfound
    have hmem : (cat, names) ∈ r.workloadServices := by
      rw [hservices]
      simp
    exact r.mem_categories _ hmem

lemma view_foldl_addRow (hcat : cat ∈ signatureCategories) (rows : List CatalogRow) :
    (rows.foldl Catalog.addRow {}).view cat = catalogView cat rows :=
  foldl_addRow_view hcat rows {}

/-- The hosts that have the category. -/
lemma totalCount_eq (hcat : cat ∈ signatureCategories) (rows : List CatalogRow) :
    ((rows.foldl Catalog.addRow {}).group cat).totalCount =
      hostCount rows fun r => cat ∈ r.workloadCategories := by
  have hhosts : (rows.foldl Catalog.addRow {}).catHosts.lookup cat =
      (catalogView cat rows).catHosts :=
    congrArg CategoryView.catHosts (view_foldl_addRow hcat rows)
  obtain ⟨hnodup, hmem⟩ := catHosts_spec cat rows
  unfold Catalog.group
  rw [hhosts]
  exact length_eq_hostCount hnodup hmem

/-- The hosts that list a service and those that list none make the hosts of the category. -/
lemma hostCount_add_listenOnly (hcat : cat ∈ signatureCategories) (rows : List CatalogRow) :
    (hostCount rows fun r => r.names cat ≠ []) + (rows.foldl Catalog.addRow {}).listenOnly cat =
      hostCount rows fun r => cat ∈ r.workloadCategories := by
  have hhosts : (rows.foldl Catalog.addRow {}).catHosts.lookup cat =
      (catalogView cat rows).catHosts :=
    congrArg CategoryView.catHosts (view_foldl_addRow hcat rows)
  have hnamed : (rows.foldl Catalog.addRow {}).namedHosts.lookup cat =
      (catalogView cat rows).namedHosts :=
    congrArg CategoryView.namedHosts (view_foldl_addRow hcat rows)
  obtain ⟨hnodup, hmem⟩ := catHosts_spec cat rows
  obtain ⟨hnodup', hmem'⟩ := namedHosts_spec cat rows
  have hsub : ∀ id ∈ (catalogView cat rows).namedHosts.getD [],
      id ∈ (catalogView cat rows).catHosts.getD [] := by
    intro id hid
    obtain ⟨r, hr, hnames, hpublic⟩ := (hmem' id).mp hid
    exact (hmem id).mpr ⟨r, hr, mem_categories_of_names hnames, hpublic⟩
  have hperm : (((catalogView cat rows).catHosts.getD []).filter fun id =>
      decide (id ∈ (catalogView cat rows).namedHosts.getD [])).Perm
        ((catalogView cat rows).namedHosts.getD []) := by
    rw [List.perm_ext_iff_of_nodup (hnodup.filter _) hnodup']
    intro id
    rw [List.mem_filter, decide_eq_true_iff]
    exact and_iff_right_of_imp (hsub id)
  have hsplit := List.length_eq_length_filter_add
    (l := (catalogView cat rows).catHosts.getD [])
    fun id => decide (id ∈ (catalogView cat rows).namedHosts.getD [])
  rw [hperm.length_eq] at hsplit
  unfold Catalog.listenOnly
  rw [hhosts, hnamed, ← length_eq_hostCount hnodup hmem, ← length_eq_hostCount hnodup' hmem',
    hsplit]
  simp only [decide_not]

/-- A runtime stack is one entry, with the hosts that list a service of it. -/
lemma namedServices_single (hcat : cat ∈ signatureCategories)
    (hsingle : cat ∈ singleInstanceCategories) {s : ServiceNameCount}
    (hs : s ∈ (rows.foldl Catalog.addRow {}).namedServices cat) :
    s.name = stackLabel cat (stackNames cat rows) ∧
      s.count = (rows.countP fun r => decide (r.names cat ≠ [])) ∧ s.hosts ≠ [] := by
  have hview := view_foldl_addRow hcat rows
  have hhosts : (rows.foldl Catalog.addRow {}).singleHosts.lookup cat =
      (catalogView cat rows).singleHosts := congrArg CategoryView.singleHosts hview
  have hnames : (rows.foldl Catalog.addRow {}).singleNames.lookup cat =
      (catalogView cat rows).singleNames := congrArg CategoryView.singleNames hview
  have hmulti : (rows.foldl Catalog.addRow {}).multi.lookup cat =
      (catalogView cat rows).multi := congrArg CategoryView.multi hview
  have hgetD := getD_singleHosts cat hsingle rows
  have hne := singleHosts_ne_some_nil cat rows
  unfold Catalog.namedServices at hs
  rw [hhosts, hnames, hmulti, getD_singleNames cat hsingle, getD_multi, if_pos hsingle] at hs
  cases hfound : (catalogView cat rows).singleHosts with
  | none =>
    rw [hfound] at hs
    simp [countNames] at hs
  | some hosts =>
    rw [hfound] at hs hgetD hne
    rw [Option.getD_some] at hgetD
    have hnil : hosts ≠ [] := fun h => hne (congrArg some h)
    obtain rfl := List.mem_singleton.mp hs
    refine ⟨rfl, ?_, hnil⟩
    rw [hgetD, List.length_map, ← List.countP_eq_length_filter]

/-- In the other categories each name is an entry, with a host for each occurrence. -/
lemma mem_namedServices_multi (hcat : cat ∈ signatureCategories)
    (hmany : cat ∉ singleInstanceCategories) {s : ServiceNameCount} :
    s ∈ (rows.foldl Catalog.addRow {}).namedServices cat ↔
      s.name ∈ (rows.flatMap fun r => r.names cat) ∧ s.count = s.hosts.length ∧
        s.hosts = ((occurrences cat rows).filter fun x => decide (x.1 = s.name)).map Prod.snd := by
  have hview := view_foldl_addRow hcat rows
  have hhosts : (rows.foldl Catalog.addRow {}).singleHosts.lookup cat = none :=
    (congrArg CategoryView.singleHosts hview).trans (singleHosts_eq_none cat hmany rows)
  have hmulti : (rows.foldl Catalog.addRow {}).multi.lookup cat =
      (catalogView cat rows).multi := congrArg CategoryView.multi hview
  have hkey : ∀ name, (∃ x ∈ occurrences cat rows, x.1 = name) ↔
      name ∈ rows.flatMap fun r => r.names cat := by
    intro name
    unfold occurrences
    simp only [List.mem_flatMap, List.mem_map]
    constructor
    · rintro ⟨x, ⟨r, hr, m, hm, rfl⟩, rfl⟩
      exact ⟨r, hr, hm⟩
    · rintro ⟨r, hr, hm⟩
      exact ⟨(name, r.host), ⟨r, hr, name, hm, rfl⟩, rfl⟩
  unfold Catalog.namedServices
  rw [hhosts, hmulti, getD_multi, if_neg hmany]
  simp only [countNames]
  rw [List.mem_map]
  constructor
  · rintro ⟨entry, hentry, rfl⟩
    obtain ⟨hname, hitems⟩ := mem_groupUnder.mp (List.mem_mergeSort.mp hentry)
    exact ⟨(hkey _).mp hname, rfl, hitems⟩
  · rintro ⟨hname, hcount, hitems⟩
    refine ⟨(s.name, s.hosts), ?_, ?_⟩
    · rw [List.mem_mergeSort, mem_groupUnder]
      exact ⟨(hkey _).mpr hname, hitems⟩
    · rw [← hcount]

lemma exists_mem_namedServices (hcat : cat ∈ signatureCategories)
    (hmany : cat ∉ singleInstanceCategories) (hn : n ∈ rows.flatMap fun r => r.names cat) :
    ∃ s ∈ (rows.foldl Catalog.addRow {}).namedServices cat, s.name = n := by
  have hmem : ∀ hosts,
      hosts = ((occurrences cat rows).filter fun x => decide (x.1 = n)).map Prod.snd →
        (⟨n, hosts.length, hosts⟩ : ServiceNameCount) ∈
          (rows.foldl Catalog.addRow {}).namedServices cat := by
    intro hosts hhosts
    exact (mem_namedServices_multi hcat hmany).mpr ⟨hn, rfl, hhosts⟩
  exact ⟨_, hmem _ rfl, rfl⟩

/-- A name has a host for each occurrence. -/
lemma length_filter_occurrences (rows : List CatalogRow) (cat name : String) :
    ((occurrences cat rows).filter fun x => decide (x.1 = name)).length =
      (rows.flatMap fun r => r.names cat).count name := by
  have hnames : (rows.flatMap fun r => r.names cat) = (occurrences cat rows).map Prod.fst := by
    unfold occurrences
    rw [List.map_flatMap]
    simp [Function.comp_def]
  rw [hnames, List.count_eq_countP, List.countP_map, ← List.countP_eq_length_filter]
  refine List.countP_congr fun x _ => ?_
  simp

/-- A named service has hosts, so it is not taken for the entry of sockets. -/
lemma ne_portDetected_of_mem_namedServices (hcat : cat ∈ signatureCategories)
    {s : ServiceNameCount} (hs : s ∈ (rows.foldl Catalog.addRow {}).namedServices cat) :
    s ≠ portDetected s.count := by
  have hhosts : s.hosts ≠ [] := by
    by_cases hsingle : cat ∈ singleInstanceCategories
    · exact (namedServices_single hcat hsingle hs).2.2
    · obtain ⟨hname, -, hitems⟩ := (mem_namedServices_multi hcat hsingle).mp hs
      intro hnil
      have hlength := length_filter_occurrences rows cat s.name
      have hpos : 0 < (rows.flatMap fun r => r.names cat).count s.name :=
        List.count_pos_iff.mpr hname
      rw [hnil, eq_comm, List.map_eq_nil_iff] at hitems
      rw [hitems, List.length_nil] at hlength
      omega
  intro hport
  exact hhosts (congrArg ServiceNameCount.hosts hport)

/-- The other entries of a group are named services. -/
lemma mem_namedServices_of_ne {c : Catalog} {s : ServiceNameCount}
    (hs : s ∈ (c.group cat).services) (hport : s ≠ portDetected s.count) :
    s ∈ c.namedServices cat := by
  unfold Catalog.group at hs
  rcases List.mem_append.mp hs with hs | hs
  · exact hs
  · split_ifs at hs
    · exact absurd hs List.not_mem_nil
    · rw [List.mem_singleton.mp hs] at hport
      exact absurd rfl hport

/-- The catalogue adds up. -/
lemma group_addsUp (hcat : cat ∈ signatureCategories) (rows : List CatalogRow) :
    AddsUp rows ((rows.foldl Catalog.addRow {}).group cat) := by
  have hnamed : ((rows.foldl Catalog.addRow {}).namedServices cat).filter
      (fun s => decide (s = portDetected s.count)) = [] := by
    rw [List.filter_eq_nil_iff]
    intro s hs
    rw [decide_eq_true_iff]
    exact ne_portDetected_of_mem_namedServices hcat hs
  have hsum : ((((rows.foldl Catalog.addRow {}).group cat).services.filter fun s =>
      decide (s = portDetected s.count)).map ServiceNameCount.count).sum =
        (rows.foldl Catalog.addRow {}).listenOnly cat := by
    unfold Catalog.group
    rw [List.filter_append, hnamed, List.nil_append]
    split_ifs with hzero
    · rw [hzero]
      rfl
    · simp [portDetected]
  unfold AddsUp
  rw [hsum, totalCount_eq hcat]
  exact hostCount_add_listenOnly hcat rows

lemma mem_stackNames (rows : List CatalogRow) (cat n : String) :
    n ∈ stackNames cat rows ↔ ∃ r ∈ rows, n ∈ r.names cat := by
  have hfold : ∀ (ns set : List String),
      n ∈ ns.foldl (fun names n => names.insert n) set ↔ n ∈ set ∨ n ∈ ns := by
    intro ns
    induction ns with
    | nil => simp
    | cons m ns ih =>
      intro set
      rw [List.foldl_cons, ih, List.mem_insert_iff, List.mem_cons]
      tauto
  unfold stackNames
  rw [hfold, List.mem_flatMap]
  simp

/-- The entry of a runtime stack counts the hosts that list a service of it. -/
lemma group_counts_single (hids : (rows.map CatalogRow.publicId).Nodup)
    (hcat : cat ∈ signatureCategories) (hsingle : cat ∈ singleInstanceCategories) :
    CountsHosts rows ((rows.foldl Catalog.addRow {}).group cat) := by
  intro s hs hport
  have hnamed := mem_namedServices_of_ne hs hport
  obtain ⟨hname, hcount, -⟩ := namedServices_single hcat hsingle hnamed
  have hstands : standsFor rows cat s.name = stackNames cat rows := if_pos ⟨hsingle, hname⟩
  have hgroup : ((rows.foldl Catalog.addRow {}).group cat).category = cat := rfl
  rw [hcount, hgroup, hstands, hostCount_eq_countP hids]
  refine List.countP_congr fun r hr => ?_
  rw [decide_eq_true_iff, decide_eq_true_iff]
  constructor
  · intro hne
    obtain ⟨n, hn⟩ := List.exists_mem_of_ne_nil _ hne
    exact ⟨n, (mem_stackNames rows cat n).mpr ⟨r, hr, hn⟩, hn⟩
  · rintro ⟨n, -, hn⟩
    exact List.ne_nil_of_mem hn

/-- The counts of the other categories are numbers of hosts just when no host lists a name
twice. -/
lemma group_counts_iff (hids : (rows.map CatalogRow.publicId).Nodup)
    (hcat : cat ∈ signatureCategories) (hmany : cat ∉ singleInstanceCategories) :
    CountsHosts rows ((rows.foldl Catalog.addRow {}).group cat) ↔
      ∀ r ∈ rows, (r.names cat).Nodup := by
  have hstands : ∀ name, standsFor rows cat name = [name] := fun name =>
    if_neg fun h => hmany h.1
  have hcountP : ∀ name, (hostCount rows fun r =>
      ∃ n ∈ standsFor rows cat name, n ∈ r.names cat) =
        rows.countP fun r => decide (name ∈ r.names cat) := by
    intro name
    rw [hostCount_eq_countP hids, hstands]
    simp
  have hcount : ∀ s ∈ (rows.foldl Catalog.addRow {}).namedServices cat,
      s.count = (rows.flatMap fun r => r.names cat).count s.name := by
    intro s hs
    obtain ⟨-, hlength, hitems⟩ := (mem_namedServices_multi hcat hmany).mp hs
    rw [hlength, hitems, List.length_map, length_filter_occurrences]
  constructor
  · intro hcounts r hr
    rw [List.nodup_iff_count_le_one]
    intro n
    by_cases hn : n ∈ r.names cat
    · have hname : n ∈ rows.flatMap fun r => r.names cat := List.mem_flatMap.mpr ⟨r, hr, hn⟩
      obtain ⟨s, hs, rfl⟩ := exists_mem_namedServices hcat hmany hname
      have hsame := hcounts _ (List.mem_append_left _ hs)
        (ne_portDetected_of_mem_namedServices hcat hs)
      have hgroup : ((rows.foldl Catalog.addRow {}).group cat).category = cat := rfl
      rw [hcount _ hs, hgroup, hcountP] at hsame
      exact (count_flatMap_names rows cat s.name).2.mp hsame r hr
    · rw [List.count_eq_zero_of_not_mem hn]
      exact Nat.zero_le 1
  · intro hnodup s hs hport
    have hnamed := mem_namedServices_of_ne hs hport
    have hgroup : ((rows.foldl Catalog.addRow {}).group cat).category = cat := rfl
    rw [hcount s hnamed, hgroup, hcountP]
    exact (count_flatMap_names rows cat s.name).2.mpr fun r hr =>
      List.nodup_iff_count_le_one.mp (hnodup r hr) s.name

/-- The hosts of each group make its total, and the count of each of its services is a number of
hosts, just when no host lists a service twice in a category that is not a runtime stack. -/
theorem aggregateServiceCatalog_counts_iff (rows : List CatalogRow)
    (hids : (rows.map CatalogRow.publicId).Nodup) :
    (∀ group ∈ aggregateServiceCatalog rows, CountsHosts rows group ∧ AddsUp rows group) ↔
      ∀ r ∈ rows, ∀ cat ∈ signatureCategories, cat ∉ singleInstanceCategories →
        (r.names cat).Nodup := by
  unfold aggregateServiceCatalog
  constructor
  · intro hgroups r hr cat hcat hmany
    have hgroup := hgroups _ (List.mem_map_of_mem hcat)
    exact (group_counts_iff hids hcat hmany).mp hgroup.1 r hr
  · intro hnodup group hgroup
    obtain ⟨cat, hcat, rfl⟩ := List.mem_map.mp hgroup
    refine ⟨?_, group_addsUp hcat rows⟩
    by_cases hsingle : cat ∈ singleInstanceCategories
    · exact group_counts_single hids hcat hsingle
    · exact (group_counts_iff hids hcat hsingle).mpr fun r hr => hnodup r hr cat hcat hsingle

end Counts

/-! ## A service that is reported twice -/

/-- A host that reports services by their units. -/
def unitsRow (publicId : String) (units : List String) : CatalogRow :=
  toCatalogRow asciiText publicId publicId (some (units.map unitService)) []

lemma names_unitsRow (publicId : String) (units : List String) (cat : String) :
    (unitsRow publicId units).names cat =
      ((units.map unitService).filter fun s =>
        decide (workloadCategory asciiText [] s.toInventoryService = some cat)).map
          NamedService.shownName :=
  lookup_workloadServicesByCategory asciiText (some (units.map unitService)) [] cat

/-- The six groups of two hosts that report a unit each. -/
theorem counts_of_one_unit_each :
    (aggregateServiceCatalog
      [unitsRow "web-1" ["nginx.service"], unitsRow "web-2" ["nginx.service"]]).length = 6 ∧
    ∀ group ∈ aggregateServiceCatalog
        [unitsRow "web-1" ["nginx.service"], unitsRow "web-2" ["nginx.service"]],
      CountsHosts [unitsRow "web-1" ["nginx.service"], unitsRow "web-2" ["nginx.service"]] group ∧
        AddsUp [unitsRow "web-1" ["nginx.service"], unitsRow "web-2" ["nginx.service"]] group := by
  refine ⟨rfl, ?_⟩
  have hids : ([unitsRow "web-1" ["nginx.service"], unitsRow "web-2" ["nginx.service"]].map
      CatalogRow.publicId).Nodup := by
    simp [unitsRow, toCatalogRow]
  apply (aggregateServiceCatalog_counts_iff _ hids).mpr
  have hone : ∀ publicId cat, ((unitsRow publicId ["nginx.service"]).names cat).Nodup := by
    intro publicId cat
    rw [names_unitsRow]
    exact (List.nodup_singleton _).sublist (List.filter_sublist.map _)
  intro r hr cat _ _
  rcases List.mem_cons.mp hr with rfl | hr
  · exact hone "web-1" cat
  · obtain rfl := List.mem_singleton.mp hr
    exact hone "web-2" cat

/-- A host that reports one unit twice is counted as two hosts of it. -/
theorem repeatedUnit_counted_twice :
    ¬ ∀ group ∈ aggregateServiceCatalog [unitsRow "web-1" ["nginx.service", "nginx.service"]],
      CountsHosts [unitsRow "web-1" ["nginx.service", "nginx.service"]] group ∧
        AddsUp [unitsRow "web-1" ["nginx.service", "nginx.service"]] group := by
  intro hgroups
  have hweb : "web" ∈ signatureCategories := by decide
  have hgroup := hgroups _ (List.mem_map_of_mem hweb)
  have hids : ([unitsRow "web-1" ["nginx.service", "nginx.service"]].map
      CatalogRow.publicId).Nodup := List.nodup_singleton _
  have hnodup := (group_counts_iff hids hweb (by decide)).mp hgroup.1 _ List.mem_cons_self
  have hnames : (unitsRow "web-1" ["nginx.service", "nginx.service"]).names "web" =
      ["nginx.service", "nginx.service"] := by
    have hshown : (unitService "nginx.service").shownName = "nginx.service" := rfl
    rw [names_unitsRow]
    simp [workloadCategory_nginx, hshown]
  rw [hnames] at hnodup
  simp at hnodup

end AssessmentEngine
