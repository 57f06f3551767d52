import AssessmentEngine.Library.FirstWriter
import AssessmentEngine.Services.Groups
import Mathlib.Data.List.MinMax
import Mathlib.Data.List.Perm.Basic
import Mathlib.Data.List.Nodup

/-!
# Workloads of a host

The categories of a host are computed three times: when the inventory is stored
(`computeServiceCategories`), when they are counted for the charts (`workloadCategoryCounter`)
and when their services are listed (`workloadServicesByCategory`).  The three walk the services
in the same way and agree (`workloads_agree`).

The first of several sockets with one protocol and port speaks for all of them, and the first of
several categories with the greatest count is the role.  Where the processes of the sockets that
share protocol and port are of one category, the categories do not depend on the order of services
and sockets, and where one category has the greatest count, neither does the role
(`workloads_perm`).
-/

namespace AssessmentEngine

/-- A service of the inventory with the name under which it is shown. -/
structure NamedService extends InventoryService where
  displayName : Option String := none
  deriving DecidableEq

/-- `s.get("display_name") or unit`. -/
def NamedService.shownName (s : NamedService) : String :=
  match s.displayName with
  | some name => if name = "" then s.unit.getD "" else name
  | none => s.unit.getD ""

/-- `SINGLE_INSTANCE_CATEGORIES`. -/
def singleInstanceCategories : List String :=
  (serviceCatalog.filter CategoryDef.singleInstance).map CategoryDef.key

/-- One more service of a category; a runtime stack counts once. -/
def countWorkload : List (String × ℕ) → String → List (String × ℕ)
  | [], cat => [(cat, 1)]
  | (c, n) :: rest, cat =>
    if c = cat then (c, if cat ∈ singleInstanceCategories then 1 else n + 1) :: rest
    else (c, n) :: countWorkload rest cat

/-- The categories of the services, one for each service that counts. -/
def namedWorkloads (u : Unicode) (services : List NamedService) (listenPorts : List ListenPort) :
    List String :=
  services.filterMap fun s => workloadCategory u listenPorts s.toInventoryService

/-- The categories of the sockets that are not of the base system. -/
def socketWorkloads (u : Unicode) (listenPorts : List ListenPort) : List String :=
  (detectListenCategories u (listenPorts.filter fun p => !isBaselineSocket u p)).map Prod.fst

/-- `workload_category_counter`: the entries in the order in which they are made. -/
def workloadCategoryCounter (u : Unicode) (services : Option (List NamedService))
    (listenPorts : List ListenPort) : List (String × ℕ) :=
  let counter := (namedWorkloads u (services.getD []) listenPorts).foldl countWorkload []
  counter ++ ((socketWorkloads u listenPorts).filter fun cat =>
    decide (cat ∉ counter.map Prod.fst)).map fun cat => (cat, 1)

/-- The service is listed under its category, if it counts. -/
def listWorkload (u : Unicode) (listenPorts : List ListenPort)
    (byCat : List (String × List String)) (s : NamedService) : List (String × List String) :=
  match workloadCategory u listenPorts s.toInventoryService with
  | some cat => appendUnder cat s.shownName byCat
  | none => byCat

/-- `workload_services_by_category`. -/
def workloadServicesByCategory (u : Unicode) (services : Option (List NamedService))
    (listenPorts : List ListenPort) : List (String × List String) :=
  (services.getD []).foldl (listWorkload u listenPorts) []

/-- `infer_role`: the first category with the greatest count. -/
def inferRole (u : Unicode) (services : Option (List NamedService))
    (listenPorts : List ListenPort) : String :=
  match (workloadCategoryCounter u services listenPorts).argmax Prod.snd with
  | some entry => entry.1
  | none => "unknown"

/-! ### Counting -/

section Count

variable {counter : List (String × ℕ)} {cat c : String} {n : ℕ}

lemma map_fst_countWorkload (counter : List (String × ℕ)) (cat : String) :
    (countWorkload counter cat).map Prod.fst =
      if cat ∈ counter.map Prod.fst then counter.map Prod.fst
      else counter.map Prod.fst ++ [cat] := by
  induction counter with
  | nil => rfl
  | cons entry counter ih =>
    obtain ⟨c, n⟩ := entry
    unfold countWorkload
    by_cases hc : c = cat
    · have hmem : cat ∈ (c, n).1 :: counter.map Prod.fst := hc ▸ List.mem_cons_self
      rw [if_pos hc, List.map_cons, List.map_cons, if_pos hmem]
    · have hmem : cat ∈ (c, n).1 :: counter.map Prod.fst ↔ cat ∈ counter.map Prod.fst := by
        rw [List.mem_cons]
        exact or_iff_right (Ne.symm hc)
      rw [if_neg hc, List.map_cons, ih, List.map_cons]
      simp only [hmem]
      split_ifs <;> rfl

/-- Counting changes the entry of the category only. -/
lemma mem_countWorkload_of_ne (hne : c ≠ cat) :
    (c, n) ∈ countWorkload counter cat ↔ (c, n) ∈ counter := by
  induction counter with
  | nil => simp [countWorkload, hne]
  | cons entry counter ih =>
    obtain ⟨c', n'⟩ := entry
    unfold countWorkload
    by_cases hc : c' = cat
    · have hfirst : c ≠ c' := fun h => hne (h.trans hc)
      rw [if_pos hc]
      simp [hfirst]
    · rw [if_neg hc, List.mem_cons, List.mem_cons, ih]

/-- The new entry of the category. -/
lemma mem_countWorkload_self (hnodup : (counter.map Prod.fst).Nodup) :
    (cat, n) ∈ countWorkload counter cat ↔
      (∃ m, (cat, m) ∈ counter ∧ n = if cat ∈ singleInstanceCategories then 1 else m + 1) ∨
        cat ∉ counter.map Prod.fst ∧ n = 1 := by
  induction counter with
  | nil => simp [countWorkload]
  | cons entry counter ih =>
    obtain ⟨c, k⟩ := entry
    rw [List.map_cons, List.nodup_cons] at hnodup
    unfold countWorkload
    by_cases hc : c = cat
    · subst hc
      have hrest : ∀ m, (c, m) ∉ counter := fun m hm =>
        hnodup.1 (List.mem_map.mpr ⟨(c, m), hm, rfl⟩)
      simp [hrest]
    · rw [if_neg hc, List.mem_cons, ih hnodup.2]
      simp [Ne.symm hc]

/-- The counter of a list of categories: each of them once, with its number of occurrences, and
those of runtime stacks with 1. -/
lemma foldl_countWorkload (cats : List String) :
    ((cats.foldl countWorkload []).map Prod.fst).Nodup ∧
      ∀ c n, (c, n) ∈ cats.foldl countWorkload [] ↔
        c ∈ cats ∧ n = if c ∈ singleInstanceCategories then 1 else cats.count c := by
  induction cats using List.reverseRecOn with
  | nil => simp
  | append_singleton cats cat ih =>
    obtain ⟨hnodup, hmem⟩ := ih
    rw [List.foldl_append, List.foldl_cons, List.foldl_nil]
    have hkeys : cat ∈ (cats.foldl countWorkload []).map Prod.fst ↔ cat ∈ cats := by
      rw [List.mem_map]
      constructor
      · rintro ⟨⟨c, n⟩, hentry, rfl⟩
        exact ((hmem c n).mp hentry).1
      · intro hcat
        exact ⟨(cat, _), (hmem cat _).mpr ⟨hcat, rfl⟩, rfl⟩
    refine ⟨?_, fun c n => ?_⟩
    · rw [map_fst_countWorkload]
      split_ifs with hcat
      · exact hnodup
      · rw [List.nodup_append]
        refine ⟨hnodup, List.nodup_singleton _, ?_⟩
        rintro c hc c' hc' rfl
        exact hcat (List.mem_singleton.mp hc' ▸ hc)
    · by_cases hc : c = cat
      · subst hc
        rw [mem_countWorkload_self hnodup, hkeys, List.count_append, List.count_singleton_self]
        constructor
        · rintro (⟨m, hm, rfl⟩ | ⟨hnew, rfl⟩)
          · obtain ⟨-, rfl⟩ := (hmem c m).mp hm
            refine ⟨by simp, ?_⟩
            split_ifs <;> rfl
          · rw [List.count_eq_zero_of_not_mem hnew]
            exact ⟨by simp, by split_ifs <;> rfl⟩
        · rintro ⟨-, rfl⟩
          by_cases hold : c ∈ cats
          · refine Or.inl ⟨_, (hmem c _).mpr ⟨hold, rfl⟩, ?_⟩
            split_ifs <;> rfl
          · rw [List.count_eq_zero_of_not_mem hold]
            exact Or.inr ⟨hold, by split_ifs <;> rfl⟩
      · rw [mem_countWorkload_of_ne hc, hmem, List.count_append]
        simp [hc, Ne.symm hc]

end Count

/-! ### The three walks -/

section Walks

variable (u : Unicode) (services : Option (List NamedService)) (listenPorts : List ListenPort)

/-- The counter has an entry for each category, once: with the number of its services, or with 1
for a runtime stack and for a category that only sockets are evidence of. -/
lemma workloadCategoryCounter_spec :
    ((workloadCategoryCounter u services listenPorts).map Prod.fst).Nodup ∧
      ∀ c n, (c, n) ∈ workloadCategoryCounter u services listenPorts ↔
        (c ∈ namedWorkloads u (services.getD []) listenPorts ∧
            n = if c ∈ singleInstanceCategories then 1
              else (namedWorkloads u (services.getD []) listenPorts).count c) ∨
          c ∉ namedWorkloads u (services.getD []) listenPorts ∧
            c ∈ socketWorkloads u listenPorts ∧ n = 1 := by
  obtain ⟨hnodup, hmem⟩ := foldl_countWorkload (namedWorkloads u (services.getD []) listenPorts)
  have hkeys : ∀ c, c ∈ ((namedWorkloads u (services.getD []) listenPorts).foldl
      countWorkload []).map Prod.fst ↔ c ∈ namedWorkloads u (services.getD []) listenPorts := by
    intro c
    rw [List.mem_map]
    constructor
    · rintro ⟨⟨c', n⟩, hentry, rfl⟩
      exact ((hmem c' n).mp hentry).1
    · intro hc
      exact ⟨(c, _), (hmem c _).mpr ⟨hc, rfl⟩, rfl⟩
  unfold workloadCategoryCounter
  refine ⟨?_, fun c n => ?_⟩
  · rw [List.map_append, List.map_map, List.nodup_append]
    refine ⟨hnodup, ?_, ?_⟩
    · have hid : (Prod.fst ∘ fun cat : String => (cat, 1)) = id := rfl
      rw [hid, List.map_id]
      exact (nodup_keys_detectListenCategories _ _).filter _
    · rintro c hnamed c' hsocket rfl
      obtain ⟨cat, hcat, rfl⟩ := List.mem_map.mp hsocket
      exact absurd hnamed (of_decide_eq_true (List.mem_filter.mp hcat).2)
  · rw [List.mem_append, hmem, List.mem_map]
    refine or_congr Iff.rfl ?_
    constructor
    · rintro ⟨cat, hcat, heq⟩
      obtain ⟨hsocket, hnew⟩ := List.mem_filter.mp hcat
      obtain ⟨rfl, rfl⟩ := Prod.mk.inj heq
      exact ⟨fun hnamed => of_decide_eq_true hnew ((hkeys cat).mpr hnamed), hsocket, rfl⟩
    · rintro ⟨hnew, hsocket, rfl⟩
      refine ⟨c, List.mem_filter.mpr ⟨hsocket, decide_eq_true fun hnamed => ?_⟩, rfl⟩
      exact hnew ((hkeys c).mp hnamed)

lemma mem_keys_workloadCategoryCounter {c : String} :
    c ∈ (workloadCategoryCounter u services listenPorts).map Prod.fst ↔
      c ∈ namedWorkloads u (services.getD []) listenPorts ∨ c ∈ socketWorkloads u listenPorts := by
  obtain ⟨-, hmem⟩ := workloadCategoryCounter_spec u services listenPorts
  rw [List.mem_map]
  constructor
  · rintro ⟨⟨c', n⟩, hentry, rfl⟩
    rcases (hmem c' n).mp hentry with ⟨hnamed, -⟩ | ⟨-, hsocket, -⟩
    · exact Or.inl hnamed
    · exact Or.inr hsocket
  · intro hc
    by_cases hnamed : c ∈ namedWorkloads u (services.getD []) listenPorts
    · exact ⟨(c, _), (hmem c _).mpr (Or.inl ⟨hnamed, rfl⟩), rfl⟩
    · exact ⟨(c, 1), (hmem c 1).mpr (Or.inr ⟨hnamed, hc.resolve_left hnamed, rfl⟩), rfl⟩

lemma mem_computeServiceCategories_iff {c : String} :
    c ∈ computeServiceCategories u (services.map fun l => l.map (·.toInventoryService))
        listenPorts ↔
      c ∈ namedWorkloads u (services.getD []) listenPorts ∨ c ∈ socketWorkloads u listenPorts := by
  have hnamed : ((services.map fun l => l.map (·.toInventoryService)).getD []).filterMap
      (workloadCategory u listenPorts) = namedWorkloads u (services.getD []) listenPorts := by
    cases services with
    | none => rfl
    | some l =>
      rw [Option.map_some, Option.getD_some, List.filterMap_map]
      rfl
  rw [computeServiceCategories, List.mem_mergeSort, List.mem_eraseDups, hnamed, List.mem_append]
  rfl

/-- Services that count go under their category. -/
lemma workloadServicesByCategory_eq :
    workloadServicesByCategory u services listenPorts =
      groupUnder (fun s => (workloadCategory u listenPorts s.toInventoryService).getD "")
        NamedService.shownName []
        ((services.getD []).filter fun s =>
          (workloadCategory u listenPorts s.toInventoryService).isSome) := by
  have hsome : ∀ groups s cat, workloadCategory u listenPorts s.toInventoryService = some cat →
      listWorkload u listenPorts groups s = appendUnder cat s.shownName groups := by
    intro groups s cat hcat
    unfold listWorkload
    rw [hcat]
  have hnone : ∀ groups s, workloadCategory u listenPorts s.toInventoryService = none →
      listWorkload u listenPorts groups s = groups := by
    intro groups s hcat
    unfold listWorkload
    rw [hcat]
  exact foldl_eq_groupUnder hsome hnone (services.getD []) []

/-- Under a category are the shown names of its services. -/
lemma lookup_workloadServicesByCategory (c : String) :
    ((workloadServicesByCategory u services listenPorts).lookup c).getD [] =
      ((services.getD []).filter fun s =>
        decide (workloadCategory u listenPorts s.toInventoryService = some c)).map
          NamedService.shownName := by
  rw [workloadServicesByCategory_eq, lookup_groupUnder, List.filter_filter]
  have hfilter : ∀ s : NamedService,
      (decide ((workloadCategory u listenPorts s.toInventoryService).getD "" = c) &&
        (workloadCategory u listenPorts s.toInventoryService).isSome) =
          decide (workloadCategory u listenPorts s.toInventoryService = some c) := by
    intro s
    cases workloadCategory u listenPorts s.toInventoryService with
    | none => simp
    | some cat => simp
  simp only [hfilter]
  rfl

/-- A category has as many services as it is counted. -/
lemma length_lookup_workloadServicesByCategory (c : String) :
    (((workloadServicesByCategory u services listenPorts).lookup c).getD []).length =
      (namedWorkloads u (services.getD []) listenPorts).count c := by
  rw [lookup_workloadServicesByCategory, List.length_map, namedWorkloads, List.count_filterMap]
  rw [← List.countP_eq_length_filter]
  refine List.countP_congr fun s _ => ?_
  simp

/-- The three walks agree: the counter has the categories that are stored, each once; a category
of services is counted as often as it has services; and a runtime stack, or a category that
only sockets are evidence of, counts once. -/
theorem workloads_agree :
    ((workloadCategoryCounter u services listenPorts).map Prod.fst).Nodup ∧
      (∀ c, c ∈ (workloadCategoryCounter u services listenPorts).map Prod.fst ↔
        c ∈ computeServiceCategories u (services.map fun l => l.map (·.toInventoryService))
          listenPorts) ∧
      (∀ c ∈ namedWorkloads u (services.getD []) listenPorts, c ∉ singleInstanceCategories →
        (c, (((workloadServicesByCategory u services listenPorts).lookup c).getD []).length) ∈
          workloadCategoryCounter u services listenPorts) ∧
      ∀ c n, (c, n) ∈ workloadCategoryCounter u services listenPorts →
        c ∈ singleInstanceCategories ∨ c ∉ namedWorkloads u (services.getD []) listenPorts →
          n = 1 := by
  obtain ⟨hnodup, hmem⟩ := workloadCategoryCounter_spec u services listenPorts
  refine ⟨hnodup, fun c => ?_, fun c hnamed hmany => ?_, fun c n hentry hone => ?_⟩
  · rw [mem_keys_workloadCategoryCounter, mem_computeServiceCategories_iff]
  · rw [length_lookup_workloadServicesByCategory, hmem]
    exact Or.inl ⟨hnamed, (if_neg hmany).symm⟩
  · rcases (hmem c n).mp hentry with ⟨hnamed, rfl⟩ | ⟨-, -, rfl⟩
    · exact if_pos (hone.resolve_right (not_not.mpr hnamed))
    · rfl

end Walks

/-! ### The order of services and sockets -/

section Order

variable (u : Unicode)

/-- The processes of sockets that share protocol and port are of one category, or all of none. -/
def SocketsAgree (ports : List ListenPort) : Prop :=
  ∀ p ∈ ports, ∀ q ∈ ports, p.matched = q.matched →
    matchKeyword (p.lowerComm u) = matchKeyword (q.lowerComm u)

/-- No two categories share the greatest count. -/
def OneTop (counter : List (String × ℕ)) : Prop :=
  ∀ a ∈ counter, ∀ b ∈ counter, (∀ e ∈ counter, e.2 ≤ a.2) → (∀ e ∈ counter, e.2 ≤ b.2) → a = b

variable {u} {ports ports' : List ListenPort} {select : ListenPort → Bool}

lemma portLe_trans (a b c : MatchedPort) (hab : portLe a b = true) (hbc : portLe b c = true) :
    portLe a c = true := by
  unfold portLe at *
  simp only [Bool.or_eq_true, Bool.and_eq_true, decide_eq_true_iff] at *
  rcases hab with hab | ⟨hab, hproto⟩
  · rcases hbc with hbc | ⟨hbc, -⟩
    · exact Or.inl (hab.trans hbc)
    · exact Or.inl (hbc ▸ hab)
  · rcases hbc with hbc | ⟨hbc, hproto'⟩
    · exact Or.inl (hab ▸ hbc)
    · exact Or.inr ⟨hab.trans hbc, String.le_trans hproto hproto'⟩

lemma portLe_total (a b : MatchedPort) : (portLe a b || portLe b a) = true := by
  unfold portLe
  simp only [Bool.or_eq_true, Bool.and_eq_true, decide_eq_true_iff]
  rcases lt_trichotomy a.port b.port with hlt | heq | hgt
  · exact Or.inl (Or.inl hlt)
  · rcases String.le_total a.proto b.proto with hle | hle
    · exact Or.inl (Or.inr ⟨heq, hle⟩)
    · exact Or.inr (Or.inr ⟨heq.symm, hle⟩)
  · exact Or.inr (Or.inl hgt)

lemma portLe_antisymm {a b : MatchedPort} (hab : portLe a b = true) (hba : portLe b a = true) :
    a = b := by
  unfold portLe at *
  simp only [Bool.or_eq_true, Bool.and_eq_true, decide_eq_true_iff] at *
  obtain ⟨aproto, aport⟩ := a
  obtain ⟨bproto, bport⟩ := b
  rcases hab with hab | ⟨hab, hproto⟩
  · rcases hba with hba | ⟨hba, -⟩
    · exact absurd hab (lt_asymm hba)
    · exact absurd hab (hba ▸ lt_irrefl _)
  · rcases hba with hba | ⟨-, hproto'⟩
    · exact absurd hba (hab ▸ lt_irrefl _)
    · have hsame : aproto = bproto := String.le_antisymm hproto hproto'
      rw [MatchedPort.mk.injEq]
      exact ⟨hsame, hab⟩

/-- What `firstOfEach` takes: of every selected protocol and port one socket, in their order. -/
lemma firstOfEach_spec (select : ListenPort → Bool) (ports : List ListenPort) :
    (firstOfEach select ports).Sublist ports ∧
      ((firstOfEach select ports).map ListenPort.matched).Nodup ∧
      ∀ m, m ∈ (firstOfEach select ports).map ListenPort.matched ↔
        ∃ p ∈ ports, p.matched = m ∧ select p = true := by
  induction ports using List.reverseRecOn with
  | nil => simp [firstOfEach]
  | append_singleton ports p ih =>
    obtain ⟨hsub, hnodup, hmem⟩ := ih
    have hstep : firstOfEach select (ports ++ [p]) =
        if p.matched ∈ (firstOfEach select ports).map ListenPort.matched ∨ select p = false then
          firstOfEach select ports
        else firstOfEach select ports ++ [p] := by
      unfold firstOfEach
      rw [List.foldl_append, List.foldl_cons, List.foldl_nil]
    rw [hstep]
    split_ifs with hskip
    · refine ⟨hsub.trans (List.sublist_append_left _ _), hnodup, fun m => ?_⟩
      rw [hmem]
      constructor
      · rintro ⟨q, hq, hm, hselect⟩
        exact ⟨q, List.mem_append_left _ hq, hm, hselect⟩
      · rintro ⟨q, hq, hm, hselect⟩
        rcases List.mem_append.mp hq with hq | hq
        · exact ⟨q, hq, hm, hselect⟩
        · obtain rfl := List.mem_singleton.mp hq
          have htaken := hskip.resolve_right (by simp [hselect])
          rw [← hm]
          exact (hmem q.matched).mp htaken
    · rw [not_or, Bool.not_eq_false] at hskip
      refine ⟨hsub.append (List.Sublist.refl [p]), ?_, fun m => ?_⟩
      · rw [List.map_append, List.nodup_append]
        refine ⟨hnodup, List.nodup_singleton _, ?_⟩
        rintro m hold m' hnew rfl
        exact hskip.1 (List.mem_singleton.mp hnew ▸ hold)
      · rw [List.map_append, List.mem_append, hmem, List.map_singleton, List.mem_singleton]
        constructor
        · rintro (⟨q, hq, hm, hselect⟩ | rfl)
          · exact ⟨q, List.mem_append_left _ hq, hm, hselect⟩
          · exact ⟨p, by simp, rfl, hskip.2⟩
        · rintro ⟨q, hq, hm, hselect⟩
          rcases List.mem_append.mp hq with hq | hq
          · exact Or.inl ⟨q, hq, hm, hselect⟩
          · obtain rfl := List.mem_singleton.mp hq
            exact Or.inr hm.symm

/-- The protocols and ports that are taken from the sorted sockets do not depend on their order. -/
lemma map_matched_firstOfEach_perm (hperm : ports.Perm ports') (select : ListenPort → Bool) :
    (firstOfEach select (sortedPorts ports)).map ListenPort.matched =
      (firstOfEach select (sortedPorts ports')).map ListenPort.matched := by
  have hsorted : ∀ l : List ListenPort,
      ((firstOfEach select (sortedPorts l)).map ListenPort.matched).Pairwise
        fun a b => portLe a b = true := by
    intro l
    have hsort : (sortedPorts l).Pairwise fun a b => portLe a.matched b.matched = true :=
      List.pairwise_mergeSort (fun a b c => portLe_trans a.matched b.matched c.matched)
        (fun a b => portLe_total a.matched b.matched) l
    rw [List.pairwise_map]
    exact hsort.sublist (firstOfEach_spec select (sortedPorts l)).1
  have hmem : ∀ l : List ListenPort, ∀ m,
      m ∈ (firstOfEach select (sortedPorts l)).map ListenPort.matched ↔
        ∃ p ∈ l, p.matched = m ∧ select p = true := by
    intro l m
    rw [(firstOfEach_spec select (sortedPorts l)).2.2]
    simp only [sortedPorts, List.mem_mergeSort]
  have hsame : ((firstOfEach select (sortedPorts ports)).map ListenPort.matched).Perm
      ((firstOfEach select (sortedPorts ports')).map ListenPort.matched) := by
    rw [List.perm_ext_iff_of_nodup (firstOfEach_spec select _).2.1 (firstOfEach_spec select _).2.1]
    intro m
    rw [hmem, hmem]
    simp only [hperm.mem_iff]
  exact hsame.eq_of_pairwise (fun a b _ _ hab hba => portLe_antisymm hab hba)
    (hsorted ports) (hsorted ports')

/-- The category of the processes of the sockets with a protocol and port. -/
def commCategoryAt (u : Unicode) (ports : List ListenPort) (m : MatchedPort) : Option String :=
  (ports.find? fun p => decide (p.matched = m)).bind fun p => matchKeyword (p.lowerComm u)

lemma matchKeyword_lowerComm_eq (hagree : SocketsAgree u ports) {p : ListenPort} (hp : p ∈ ports) :
    matchKeyword (p.lowerComm u) = commCategoryAt u ports p.matched := by
  unfold commCategoryAt
  cases hfind : ports.find? fun q => decide (q.matched = p.matched) with
  | none =>
    have hnot := List.find?_eq_none.mp hfind p hp
    simp at hnot
  | some q =>
    have hmatched : q.matched = p.matched := by simpa using List.find?_some hfind
    exact (hagree q (List.mem_of_find?_eq_some hfind) p hp hmatched).symm

/-- The category of sockets that agree rests on their protocols and ports. -/
lemma categoryOfPorts_eq (hagree : SocketsAgree u ports) {l : List ListenPort}
    (hl : ∀ p ∈ l, p ∈ ports) :
    categoryOfPorts u l =
      ((l.map ListenPort.matched).findSome? (commCategoryAt u ports)).or
        ((l.map ListenPort.matched).findSome? fun m => portIndex m.port) := by
  have hcomm : (l.findSome? fun p => matchKeyword (p.lowerComm u)) =
      (l.map ListenPort.matched).findSome? (commCategoryAt u ports) := by
    induction l with
    | nil => rfl
    | cons p l ih =>
      rw [List.findSome?_cons, List.map_cons, List.findSome?_cons,
        matchKeyword_lowerComm_eq hagree (hl p List.mem_cons_self),
        ih fun q hq => hl q (List.mem_cons_of_mem p hq)]
  have hport : (l.findSome? fun p => portIndex p.matched.port) =
      (l.map ListenPort.matched).findSome? fun m => portIndex m.port := by
    rw [List.findSome?_map]
    rfl
  rw [categoryOfPorts, hcomm, hport]

lemma categoryOfPorts_perm (hagree : SocketsAgree u ports) (hperm : ports.Perm ports')
    (select : ListenPort → Bool) :
    categoryOfPorts u (firstOfEach select (sortedPorts ports)) =
      categoryOfPorts u (firstOfEach select (sortedPorts ports')) := by
  have hmem : ∀ l : List ListenPort, ∀ p ∈ firstOfEach select (sortedPorts l), p ∈ l := by
    intro l p hp
    exact List.mem_mergeSort.mp (mem_of_mem_firstOfEach hp).1
  rw [categoryOfPorts_eq hagree (hmem ports),
    categoryOfPorts_eq hagree fun p hp => hperm.mem_iff.mpr (hmem ports' p hp),
    map_matched_firstOfEach_perm hperm]

/-- The category of a service does not depend on the order of sockets that agree. -/
lemma classify_perm (hagree : SocketsAgree u ports) (hperm : ports.Perm ports') (unit : String)
    (pid : Option ℤ) : classify u unit ports pid = classify u unit ports' pid := by
  unfold classify attributedPorts
  cases pid with
  | none =>
    simp only
    rw [categoryOfPorts_perm hagree hperm]
  | some own =>
    simp only
    rw [categoryOfPorts_perm hagree hperm]

lemma namedWorkloads_perm {services services' : List NamedService}
    (hagree : SocketsAgree u ports) (hports : ports.Perm ports')
    (hservices : services.Perm services') :
    (namedWorkloads u services ports).Perm (namedWorkloads u services' ports') := by
  have hcategory : ∀ s : InventoryService,
      workloadCategory u ports s = workloadCategory u ports' s := by
    intro s
    unfold workloadCategory
    cases s.unit with
    | none => rfl
    | some unit =>
      simp only
      rw [classify_perm hagree hports]
  unfold namedWorkloads
  simp only [hcategory]
  exact hservices.filterMap _

/-- A category of sockets that agree is that of a socket outside the base system. -/
lemma mem_socketWorkloads_iff (hagree : SocketsAgree u ports) {c : String} :
    c ∈ socketWorkloads u ports ↔
      ∃ p ∈ ports, isBaselineSocket u p = false ∧ listenCategory u p = some c := by
  have hlisten : ∀ p ∈ ports, ∀ q ∈ ports, p.matched = q.matched →
      listenCategory u p = listenCategory u q := by
    intro p hp q hq hmatched
    unfold listenCategory
    rw [hagree p hp q hq hmatched, hmatched]
  unfold socketWorkloads
  rw [mem_keys_detectListenCategories]
  unfold classifiedSockets
  constructor
  · rintro ⟨p, hp, hc⟩
    have hmem := List.mem_mergeSort.mp (mem_of_mem_firstOfEach hp).1
    obtain ⟨hports, hbase⟩ := List.mem_filter.mp hmem
    exact ⟨p, hports, by simpa using hbase, hc⟩
  · rintro ⟨p, hp, hbase, hc⟩
    have hfilter : p ∈ ports.filter fun p => !isBaselineSocket u p :=
      List.mem_filter.mpr ⟨hp, by simp [hbase]⟩
    have htaken := (firstOfEach_spec (fun p => (listenCategory u p).isSome)
      (sortedPorts (ports.filter fun p => !isBaselineSocket u p))).2.2 p.matched
    obtain ⟨q, hq, hmatched⟩ := List.mem_map.mp
      (htaken.mpr ⟨p, List.mem_mergeSort.mpr hfilter, rfl, by simp [hc]⟩)
    have hqports : q ∈ ports :=
      (List.mem_filter.mp (List.mem_mergeSort.mp (mem_of_mem_firstOfEach hq).1)).1
    exact ⟨q, hq, (hlisten q hqports p hp hmatched).trans hc⟩

lemma mem_socketWorkloads_perm (hagree : SocketsAgree u ports) (hperm : ports.Perm ports')
    {c : String} : c ∈ socketWorkloads u ports ↔ c ∈ socketWorkloads u ports' := by
  have hagree' : SocketsAgree u ports' := fun p hp q hq =>
    hagree p (hperm.mem_iff.mpr hp) q (hperm.mem_iff.mpr hq)
  rw [mem_socketWorkloads_iff hagree, mem_socketWorkloads_iff hagree']
  simp only [hperm.mem_iff]

/-- The categories are stored once each. -/
lemma nodup_computeServiceCategories (u : Unicode) (services : Option (List InventoryService))
    (ports : List ListenPort) : (computeServiceCategories u services ports).Nodup :=
  (List.mergeSort_perm _ _).nodup_iff.mpr (Table.nodup_eraseDups _)

/-- The categories are stored in order. -/
lemma pairwise_computeServiceCategories (u : Unicode) (services : Option (List InventoryService))
    (ports : List ListenPort) :
    (computeServiceCategories u services ports).Pairwise fun a b => a ≤ b := by
  have htrans : ∀ a b c : String, decide (a ≤ b) = true → decide (b ≤ c) = true →
      decide (a ≤ c) = true := by
    intro a b c hab hbc
    exact decide_eq_true (String.le_trans (of_decide_eq_true hab) (of_decide_eq_true hbc))
  have htotal : ∀ a b : String, (decide (a ≤ b) || decide (b ≤ a)) = true := by
    intro a b
    rw [Bool.or_eq_true, decide_eq_true_iff, decide_eq_true_iff]
    exact String.le_total a b
  exact (List.pairwise_mergeSort htrans htotal _).imp fun h => of_decide_eq_true h

/-- A role that is the only top of a counter is the same in every order of its entries. -/
lemma argmax_eq_of_oneTop {counter counter' : List (String × ℕ)}
    (hmem : ∀ e, e ∈ counter ↔ e ∈ counter') (hone : OneTop counter) :
    counter.argmax Prod.snd = counter'.argmax Prod.snd := by
  cases htop : counter.argmax Prod.snd with
  | none =>
    rw [List.argmax_eq_none] at htop
    subst htop
    have hnil : counter' = [] := List.eq_nil_iff_forall_not_mem.mpr fun e he =>
      absurd ((hmem e).mpr he) List.not_mem_nil
    rw [hnil]
    rfl
  | some a =>
    cases htop' : counter'.argmax Prod.snd with
    | none =>
      rw [List.argmax_eq_none] at htop'
      have ha := (hmem a).mp (List.argmax_mem htop)
      rw [htop'] at ha
      exact absurd ha List.not_mem_nil
    | some b =>
      have hb := (hmem b).mpr (List.argmax_mem htop')
      have hab : a = b := by
        refine hone a (List.argmax_mem htop) b hb ?_ ?_
        · exact fun e he => List.le_of_mem_argmax he htop
        · exact fun e he => List.le_of_mem_argmax ((hmem e).mp he) htop'
      rw [hab]

/-- The categories of a host do not depend on the order of its services and sockets when the
processes of sockets that share protocol and port are of one category; and neither does its role
when in addition no two categories share the greatest count. -/
theorem workloads_perm {services services' : List NamedService}
    (hservices : services.Perm services') (hports : ports.Perm ports')
    (hagree : SocketsAgree u ports) :
    computeServiceCategories u (some (services.map (·.toInventoryService))) ports =
        computeServiceCategories u (some (services'.map (·.toInventoryService))) ports' ∧
      (OneTop (workloadCategoryCounter u (some services) ports) →
        inferRole u (some services) ports = inferRole u (some services') ports') := by
  have hnamed := namedWorkloads_perm hagree hports hservices
  have hsocket : ∀ c, c ∈ socketWorkloads u ports ↔ c ∈ socketWorkloads u ports' := fun c =>
    mem_socketWorkloads_perm hagree hports
  refine ⟨?_, fun hone => ?_⟩
  · have hmem : ∀ c,
        c ∈ computeServiceCategories u (some (services.map (·.toInventoryService))) ports ↔
          c ∈ computeServiceCategories u (some (services'.map (·.toInventoryService))) ports' := by
      intro c
      have hleft := mem_computeServiceCategories_iff u (some services) ports (c := c)
      have hright := mem_computeServiceCategories_iff u (some services') ports' (c := c)
      rw [Option.map_some] at hleft hright
      rw [hleft, hright, Option.getD_some, Option.getD_some, hnamed.mem_iff, hsocket]
    have hperm := (List.perm_ext_iff_of_nodup (nodup_computeServiceCategories u _ ports)
      (nodup_computeServiceCategories u _ ports')).mpr hmem
    exact hperm.eq_of_pairwise (fun a b _ _ hab hba => String.le_antisymm hab hba)
      (pairwise_computeServiceCategories u _ ports) (pairwise_computeServiceCategories u _ ports')
  · have hcounter : ∀ e, e ∈ workloadCategoryCounter u (some services) ports ↔
        e ∈ workloadCategoryCounter u (some services') ports' := by
      rintro ⟨c, n⟩
      rw [(workloadCategoryCounter_spec u (some services) ports).2,
        (workloadCategoryCounter_spec u (some services') ports').2, Option.getD_some,
        Option.getD_some, hnamed.mem_iff, hnamed.count_eq, hsocket]
    unfold inferRole
    rw [argmax_eq_of_oneTop hcounter hone]

/-- A running service with a unit name. -/
def unitService (unit : String) : NamedService where
  unit := some unit
  sub := some "running"
  pid := none
  exe := none

/-- A socket of a process. -/
def processSocket (comm : String) (port pid : ℤ) : ListenPort where
  proto := some "tcp"
  addr := some "0.0.0.0"
  port := some port
  uid := some 0
  pid := some pid
  comm := some comm

/-- A unit whose name has a keyword counts for that category, whatever listens. -/
lemma workloadCategory_unitService {unit cat : String} (ports : List ListenPort)
    (hunit : unit ≠ "") (hbase : isBaselineService asciiText (some unit) = false)
    (hmatch : matchKeyword (removeSuffix ".service" (asciiText.lower unit)) = some cat)
    (hcat : cat ≠ "unknown") :
    workloadCategory asciiText ports (unitService unit).toInventoryService = some cat := by
  have hclassify : classify asciiText unit ports none = cat := by
    unfold classify
    rw [hmatch]
    rfl
  unfold workloadCategory unitService
  simp [hunit, hbase, hclassify, hcat]

lemma workloadCategory_nginx (ports : List ListenPort) :
    workloadCategory asciiText ports (unitService "nginx.service").toInventoryService =
      some "web" :=
  workloadCategory_unitService ports (by decide) (by decide +kernel) (by decide +kernel) (by decide)

lemma workloadCategory_redis (ports : List ListenPort) :
    workloadCategory asciiText ports (unitService "redis.service").toInventoryService =
      some "cache" :=
  workloadCategory_unitService ports (by decide) (by decide +kernel) (by decide +kernel) (by decide)

/-- Two services of a category and one of another, in two orders, with two processes behind one
socket. -/
theorem workloads_perm_of_web_cache :
    computeServiceCategories asciiText
        (some (([unitService "nginx.service", unitService "nginx.service",
          unitService "redis.service"]).map (·.toInventoryService)))
        [processSocket "nginx" 80 1, processSocket "nginx" 80 2] =
      computeServiceCategories asciiText
        (some (([unitService "redis.service", unitService "nginx.service",
          unitService "nginx.service"]).map (·.toInventoryService)))
        [processSocket "nginx" 80 2, processSocket "nginx" 80 1] ∧
      inferRole asciiText
          (some [unitService "nginx.service", unitService "nginx.service",
            unitService "redis.service"])
          [processSocket "nginx" 80 1, processSocket "nginx" 80 2] =
        inferRole asciiText
          (some [unitService "redis.service", unitService "nginx.service",
            unitService "nginx.service"])
          [processSocket "nginx" 80 2, processSocket "nginx" 80 1] := by
  have hagree : SocketsAgree asciiText
      [processSocket "nginx" 80 1, processSocket "nginx" 80 2] := by
    intro p hp q hq _
    simp only [List.mem_cons, List.not_mem_nil, or_false] at hp hq
    rcases hp with rfl | rfl <;> rcases hq with rfl | rfl <;> rfl
  have hservices : ([unitService "nginx.service", unitService "nginx.service",
      unitService "redis.service"]).Perm [unitService "redis.service",
        unitService "nginx.service", unitService "nginx.service"] :=
    (List.reverse_perm _).symm
  obtain ⟨hcategories, hrole⟩ :=
    workloads_perm hservices (List.Perm.swap (processSocket "nginx" 80 2) _ []) hagree
  refine ⟨hcategories, hrole ?_⟩
  have hsocket : ∀ c ∈ socketWorkloads asciiText
      [processSocket "nginx" 80 1, processSocket "nginx" 80 2], c = "web" := by
    intro c hc
    obtain ⟨p, hp, -, hcat⟩ := (mem_socketWorkloads_iff hagree).mp hc
    have hweb : listenCategory asciiText p = some "web" := by
      simp only [List.mem_cons, List.not_mem_nil, or_false] at hp
      rcases hp with rfl | rfl
      · decide +kernel
      · decide +kernel
    exact Option.some.inj (hcat.symm.trans hweb)
  have hnamed : namedWorkloads asciiText ((some [unitService "nginx.service",
      unitService "nginx.service", unitService "redis.service"]).getD [])
        [processSocket "nginx" 80 1, processSocket "nginx" 80 2] = ["web", "web", "cache"] := by
    simp [namedWorkloads, workloadCategory_nginx, workloadCategory_redis]
  have hmem : ∀ c n, (c, n) ∈ workloadCategoryCounter asciiText
      (some [unitService "nginx.service", unitService "nginx.service", unitService "redis.service"])
      [processSocket "nginx" 80 1, processSocket "nginx" 80 2] ↔
        c = "web" ∧ n = 2 ∨ c = "cache" ∧ n = 1 := by
    intro c n
    rw [(workloadCategoryCounter_spec _ _ _).2, hnamed]
    constructor
    · rintro (⟨hc, rfl⟩ | ⟨hc, hsock, -⟩)
      · simp only [List.mem_cons, List.not_mem_nil, or_false] at hc
        rcases hc with rfl | rfl | rfl
        · decide
        · decide
        · decide
      · rw [hsocket c hsock] at hc
        simp at hc
    · rintro (⟨rfl, rfl⟩ | ⟨rfl, rfl⟩)
      · decide
      · decide
  rintro ⟨a, n⟩ ha ⟨b, m⟩ hb hatop hbtop
  have htwo := (hmem "web" 2).mpr (Or.inl ⟨rfl, rfl⟩)
  have hn : 2 ≤ n := hatop _ htwo
  have hm : 2 ≤ m := hbtop _ htwo
  have hleft : a = "web" ∧ n = 2 := ((hmem a n).mp ha).resolve_right fun h => by omega
  have hright : b = "web" ∧ m = 2 := ((hmem b m).mp hb).resolve_right fun h => by omega
  rw [hleft.1, hleft.2, hright.1, hright.2]

/-- Of two sockets with one protocol and port the first one's category is taken. -/
lemma socketWorkloads_pair {p q : ListenPort} {c : String}
    (hbasep : isBaselineSocket asciiText p = false)
    (hbaseq : isBaselineSocket asciiText q = false) (hmatched : p.matched = q.matched)
    (hcategory : listenCategory asciiText p = some c) :
    socketWorkloads asciiText [p, q] = [c] := by
  have hsorted : sortedPorts [p, q] = [p, q] := by
    apply List.mergeSort_of_pairwise
    simp [hmatched, portLe]
  have hfilter : ([p, q].filter fun s => !isBaselineSocket asciiText s) = [p, q] := by
    simp [hbasep, hbaseq]
  have hfirst : firstOfEach (fun s => (listenCategory asciiText s).isSome) [p, q] = [p] := by
    simp [firstOfEach, hcategory, hmatched]
  unfold socketWorkloads detectListenCategories
  rw [hfilter, hsorted, hfirst]
  simp [addSocket, hcategory, appendUnder]

lemma socketWorkloads_postgres_nginx :
    socketWorkloads asciiText [processSocket "postgres" 8081 2, processSocket "nginx" 8081 1] =
      ["db"] :=
  socketWorkloads_pair (by decide +kernel) (by decide +kernel) rfl (by decide +kernel)

lemma socketWorkloads_nginx_postgres :
    socketWorkloads asciiText [processSocket "nginx" 8081 1, processSocket "postgres" 8081 2] =
      ["web"] :=
  socketWorkloads_pair (by decide +kernel) (by decide +kernel) rfl (by decide +kernel)

/-- Of two processes behind one socket the first one reported decides, and of two categories with
one count the first one counted. -/
theorem not_workloads_perm :
    ¬ (∀ services services' : List NamedService, ∀ ports ports' : List ListenPort,
      services.Perm services' → ports.Perm ports' →
        computeServiceCategories asciiText (some (services.map (·.toInventoryService))) ports =
          computeServiceCategories asciiText (some (services'.map (·.toInventoryService)))
            ports') ∧
      ¬ ∀ services services' : List NamedService, ∀ ports ports' : List ListenPort,
        services.Perm services' → ports.Perm ports' →
          inferRole asciiText (some services) ports =
            inferRole asciiText (some services') ports' := by
  constructor
  · intro hsame
    have heq := hsame [] [] _ _ (List.Perm.refl [])
      (List.Perm.swap (processSocket "nginx" 8081 1) (processSocket "postgres" 8081 2) [])
    have hdb : "db" ∈ computeServiceCategories asciiText
        ((some ([] : List NamedService)).map fun l => l.map (·.toInventoryService))
        [processSocket "postgres" 8081 2, processSocket "nginx" 8081 1] := by
      rw [mem_computeServiceCategories_iff, socketWorkloads_postgres_nginx]
      exact Or.inr List.mem_cons_self
    rw [Option.map_some, heq] at hdb
    have hweb := (mem_computeServiceCategories_iff asciiText (some []) _).mp hdb
    rw [socketWorkloads_nginx_postgres] at hweb
    simp [namedWorkloads] at hweb
  · intro hsame
    have heq := hsame _ _ [] [] (List.Perm.swap (unitService "nginx.service")
      (unitService "redis.service") []) (List.Perm.refl [])
    have hsocket : socketWorkloads asciiText [] = [] := by
      simp [socketWorkloads, detectListenCategories, sortedPorts, firstOfEach]
    simp [inferRole, workloadCategoryCounter, namedWorkloads, hsocket, workloadCategory_nginx,
      workloadCategory_redis, countWorkload, List.argmax, List.argAux] at heq

end Order

end AssessmentEngine
