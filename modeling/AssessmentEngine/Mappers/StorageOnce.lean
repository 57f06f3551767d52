import AssessmentEngine.Mappers.StorageTree
import Mathlib.Data.List.Count
import Mathlib.Data.List.Perm.Basic

/-!
# Each device once

Where the parents of devices have no cycle, every device is in the storage tree.  It is there once,
except that the guard of the tree does not hold for the disks, which are all roots, and holds for
devices without an id as if they were one.  `storageTree_once_iff` says for which lists this does no
harm: no disk with an id is reached from an earlier one, and the devices without an id that are no
disks are at most one, which is placed before the first disk without an id.
-/

namespace AssessmentEngine

open GuardedWalk

/-! ## The statement -/

/-- A device with this id has a device with that id as parent. -/
def ParentOf (devs : List StorageDevice) (p c : String) : Prop :=
  ∃ d ∈ devs, d.parent = some p ∧ d.id = some c

def Acyclic (devs : List StorageDevice) : Prop :=
  ∀ id, ¬ Relation.TransGen (ParentOf devs) id id

/-- Every id is in the tree once, every device without an id as often as it is in the list, and a
disk without a parent is a root only. -/
structure PlacedOnce (devs : List StorageDevice) (nodes : List StorageNode) : Prop where
  ids : ∀ d ∈ devs, d.id ≠ none → ((detailsOf nodes).map StorageDevice.id).count d.id = 1
  withoutId : ∀ d ∈ devs, d.id = none → (detailsOf nodes).count d = devs.count d
  rootsOnly : ∀ d ∈ devs, isPhysicalDisk d.type = true → d.parent = none →
    ∀ node ∈ nodes, d ∉ node.nested

/-- No disk with an id is reached from an earlier disk, where a device without an id leads to all
devices without a parent. -/
def DisksApart (devs : List StorageDevice) : Prop :=
  (physicalDisks devs).Pairwise fun a b =>
    b.id ≠ none → ¬ (deviceGraph devs).Reach a.id b.id

/-- The devices without an id that are no disks. -/
def othersWithoutId (devs : List StorageDevice) : List StorageDevice :=
  devs.filter fun d => decide (d.id = none) && !isPhysicalDisk d.type

/-- At most one device without an id is no disk.  When disks are without an id as well, it is the
first device without an id on the way from the disks before the first of these, or there is no
such device at all. -/
def WithoutIdApart (devs : List StorageDevice) : Prop :=
  if ∃ d ∈ physicalDisks devs, d.id = none then
    ∃ r, Meets (deviceGraph devs) none
        ((physicalDisks devs).takeWhile fun d => decide (d.id ≠ none)) r ∧
      othersWithoutId devs = r.toList
  else (othersWithoutId devs).length ≤ 1

/-! ## Every device is placed -/

section Placed

variable {devs : List StorageDevice}

lemma wellFounded_parentOf (hacyclic : Acyclic devs) : WellFounded (ParentOf devs) := by
  apply wellFounded_of_acyclic (devs.filterMap StorageDevice.parent) _ hacyclic
  rintro p c ⟨d, hd, hparent, -⟩
  exact List.mem_filterMap.mpr ⟨d, hd, hparent⟩

/-- Away from the devices without an id the graph has no cycle. -/
lemma wellFounded_edgeBefore (hacyclic : Acyclic devs) :
    WellFounded (Function.swap ((deviceGraph devs).EdgeBefore none)) := by
  have hswap : WellFounded (Function.swap (ParentOf devs)) := by
    apply wellFounded_of_acyclic (devs.filterMap StorageDevice.id)
    · rintro c p ⟨d, hd, -, hid⟩
      exact List.mem_filterMap.mpr ⟨d, hd, hid⟩
    · intro id hcycle
      rw [Relation.transGen_swap] at hcycle
      exact hacyclic id hcycle
  refine Subrelation.wf ?_ (InvImage.wf (fun key : Option String => key.getD "") hswap)
  rintro b a ⟨ha, hb, d, hd, hid⟩
  obtain ⟨hmem, hparent⟩ := List.mem_filter.mp hd
  obtain ⟨p, rfl⟩ := Option.ne_none_iff_exists'.mp ha
  obtain ⟨c, rfl⟩ := Option.ne_none_iff_exists'.mp hb
  exact ⟨d, hmem, of_decide_eq_true hparent, hid⟩

lemma exists_of_hasParent {d : StorageDevice} (h : hasParent devs d = true) :
    ∃ p, d.parent = some p ∧ some p ∈ devs.map StorageDevice.id := by
  unfold hasParent at h
  cases hparent : d.parent with
  | none =>
    rw [hparent] at h
    exact absurd h Bool.false_ne_true
  | some p =>
    rw [hparent, Option.any_some, Bool.and_eq_true] at h
    exact ⟨p, rfl, List.contains_iff_mem.mp h.2⟩

/-- Where disks and orphans have been met, and what they lead to, every device has been met. -/
lemma mem_of_closed (hacyclic : Acyclic devs) {visited : List (Option String)}
    (hclosed : (deviceGraph devs).Closed visited)
    (hdisks : ∀ d ∈ physicalDisks devs, d.id ∈ visited)
    (horphans : ∀ d ∈ orphanDevices devs, d.id ∈ visited) : ∀ d ∈ devs, d.id ∈ visited := by
  have hstep : ∀ d ∈ devs, (∀ p, d.parent = some p → some p ∈ devs.map StorageDevice.id →
      some p ∈ visited) → d.id ∈ visited := by
    intro d hd hparents
    by_cases hdisk : isPhysicalDisk d.type = true
    · exact hdisks d (List.mem_filter.mpr ⟨hd, hdisk⟩)
    · by_cases hparent : hasParent devs d = true
      · obtain ⟨p, hp, hknown⟩ := exists_of_hasParent hparent
        exact hclosed _ (hparents p hp hknown) d (List.mem_filter.mpr ⟨hd, decide_eq_true hp⟩)
      · refine horphans d (List.mem_filter.mpr ⟨hd, ?_⟩)
        simp [hdisk, hparent]
  have hids : ∀ id, ∀ d ∈ devs, d.id = some id → some id ∈ visited := by
    intro id
    induction id using (wellFounded_parentOf hacyclic).induction with
    | _ id ih =>
      intro d hd hid
      rw [← hid]
      refine hstep d hd fun p hp hknown => ?_
      obtain ⟨d', hd', hid'⟩ := List.mem_map.mp hknown
      exact ih p ⟨d, hd, hp, hid⟩ d' hd' hid'
  intro d hd
  refine hstep d hd fun p hp hknown => ?_
  obtain ⟨d', hd', hid'⟩ := List.mem_map.mp hknown
  exact hids p d' hd' hid'

end Placed

/-! ## Ids -/

section Ids

variable {devs : List StorageDevice} {disks : List StorageDevice} {rootsDetails orphansDetails :
  List StorageDevice} {visited visited' : List (Option String)}

lemma closed_nil (g : KeyGraph StorageDevice (Option String)) : g.Closed [] := by
  intro k hk
  exact absurd hk List.not_mem_nil

/-- An id is in the tree once just when no disk with it is reached from an earlier one. -/
lemma count_eq_one_iff
    (hroots : Forced (deviceGraph devs) (physicalDisks devs) [] rootsDetails visited)
    (horphans : Walk (deviceGraph devs) (orphanDevices devs) visited orphansDetails visited')
    {key : Option String} (hkey : key ∈ visited') :
    ((rootsDetails ++ orphansDetails).map StorageDevice.id).count key = 1 ↔
      (physicalDisks devs).Pairwise fun a b =>
        b.id = key → ¬ (deviceGraph devs).Reach a.id key := by
  have hmem := hroots.mem_iff (closed_nil _) key
  have hcount : (orphansDetails.map StorageDevice.id).count key =
      if key ∈ visited' ∧ key ∉ visited then 1 else 0 := horphans.count_eq key
  rw [List.map_append, List.count_append, hcount]
  by_cases hdisk : key ∈ (physicalDisks devs).map StorageDevice.id
  · obtain ⟨d, hd, hid⟩ := List.mem_map.mp hdisk
    have hin : key ∈ visited := hmem.mpr (Or.inr ⟨d, hd, hid ▸ Relation.ReflTransGen.refl⟩)
    rw [if_neg fun hboth => hboth.2 hin, Nat.add_zero]
    exact hroots.count_eq_one_iff (closed_nil _) List.not_mem_nil hdisk
  · have hroot : (rootsDetails.map StorageDevice.id).count key =
        if key ∈ visited then 1 else 0 :=
      hroots.count_of_not_mem (closed_nil _) List.not_mem_nil hdisk
    rw [hroot]
    constructor
    · intro _
      apply List.pairwise_of_forall_mem_list
      intro a _ b hb hbk
      exact absurd (List.mem_map.mpr ⟨b, hb, hbk⟩) hdisk
    · intro _
      by_cases hin : key ∈ visited
      · rw [if_pos hin, if_neg fun hboth => hboth.2 hin]
      · rw [if_neg hin, if_pos ⟨hkey, hin⟩]

lemma ids_iff_disksApart
    (hroots : Forced (deviceGraph devs) (physicalDisks devs) [] rootsDetails visited)
    (horphans : Walk (deviceGraph devs) (orphanDevices devs) visited orphansDetails visited')
    (hall : ∀ d ∈ devs, d.id ∈ visited') :
    (∀ d ∈ devs, d.id ≠ none →
      ((rootsDetails ++ orphansDetails).map StorageDevice.id).count d.id = 1) ↔
      DisksApart devs := by
  unfold DisksApart
  constructor
  · intro hids
    rw [List.pairwise_iff_forall_sublist]
    intro a b hsub hid
    have hb : b ∈ physicalDisks devs := hsub.subset (by simp)
    have hbdevs := (List.mem_filter.mp hb).1
    have hpair := (count_eq_one_iff hroots horphans (hall b hbdevs)).mp (hids b hbdevs hid)
    exact (List.pairwise_iff_forall_sublist.mp hpair) hsub rfl
  · intro hapart d hd hid
    rw [count_eq_one_iff hroots horphans (hall d hd)]
    refine hapart.imp fun {a b} hab hbd => ?_
    rw [← hbd]
    exact hab (hbd ▸ hid)

/-- Only devices of the list are in the tree. -/
lemma mem_devs_of_mem_details
    (hroots : Forced (deviceGraph devs) (physicalDisks devs) [] rootsDetails visited)
    (horphans : Walk (deviceGraph devs) (orphanDevices devs) visited orphansDetails visited') :
    ∀ d ∈ rootsDetails ++ orphansDetails, d ∈ devs := by
  have hunder : ∀ d, (∃ k, d ∈ (deviceGraph devs).under k) → d ∈ devs := by
    rintro d ⟨k, hk⟩
    exact (List.mem_filter.mp hk).1
  intro d hd
  rcases List.mem_append.mp hd with hd | hd
  · rcases hroots.mem_taken d hd with hdisk | hchild
    · exact (List.mem_filter.mp hdisk).1
    · exact hunder d hchild
  · rcases horphans.mem_taken d hd with horphan | hchild
    · exact (List.mem_filter.mp horphan).1
    · exact hunder d hchild

end Ids

/-! ## Devices without an id -/

section WithoutId

variable {devs : List StorageDevice} {rootsDetails orphansDetails : List StorageDevice}
  {visited visited' : List (Option String)}

/-- The devices without an id. -/
def withoutId (devs : List StorageDevice) : List StorageDevice :=
  devs.filter fun d => decide (d.id = none)

lemma withoutId_perm (devs : List StorageDevice) :
    (withoutId devs).Perm (withoutId (physicalDisks devs) ++ othersWithoutId devs) := by
  unfold withoutId othersWithoutId physicalDisks
  rw [List.filter_filter]
  induction devs with
  | nil => exact List.Perm.refl _
  | cons d devs ih =>
    by_cases hid : d.id = none
    · by_cases hdisk : isPhysicalDisk d.type = true
      · simp only [List.filter_cons, hid, hdisk, decide_true, Bool.and_true, Bool.not_true,
          Bool.and_false, if_true, List.cons_append, Bool.false_eq_true, if_false]
        exact ih.cons d
      · rw [Bool.not_eq_true] at hdisk
        simp only [List.filter_cons, hid, hdisk, decide_true, Bool.and_true, Bool.not_false,
          Bool.and_false, if_true, Bool.false_eq_true, if_false]
        exact (ih.cons d).trans List.perm_middle.symm
    · simp only [List.filter_cons, hid, decide_false, Bool.false_and, Bool.false_eq_true, if_false]
      exact ih

/-- The counts of devices without an id, as one list. -/
lemma counts_iff_perm {details : List StorageDevice} (hsub : ∀ d ∈ details, d ∈ devs) :
    (∀ d ∈ devs, d.id = none → details.count d = devs.count d) ↔
      (withoutId details).Perm (withoutId devs) := by
  have hcount : ∀ (l : List StorageDevice) (d : StorageDevice), d.id = none →
      (withoutId l).count d = l.count d := by
    intro l d hid
    exact List.count_filter (by simpa using hid)
  have hzero : ∀ (l : List StorageDevice) (d : StorageDevice), d.id ≠ none →
      (withoutId l).count d = 0 := by
    intro l d hid
    rw [List.count_eq_zero]
    intro hmem
    exact hid (of_decide_eq_true (List.mem_filter.mp hmem).2)
  rw [List.perm_iff_count]
  constructor
  · intro hcounts d
    by_cases hid : d.id = none
    · rw [hcount details d hid, hcount devs d hid]
      by_cases hd : d ∈ devs
      · exact hcounts d hd hid
      · rw [List.count_eq_zero_of_not_mem hd,
          List.count_eq_zero_of_not_mem fun hmem => hd (hsub d hmem)]
    · rw [hzero details d hid, hzero devs d hid]
  · intro hperm d _ hid
    have hsame := hperm d
    rw [hcount details d hid, hcount devs d hid] at hsame
    exact hsame

lemma perm_toList_iff {r : Option StorageDevice} {l : List StorageDevice} :
    r.toList.Perm l ↔ l = r.toList := by
  cases r with
  | none => exact List.nil_perm
  | some x => exact List.singleton_perm.trans eq_comm

/-- With a disk without an id, the other devices without an id must be just the one that is met
before it. -/
lemma withoutId_perm_iff_of_disk (hacyclic : Acyclic devs)
    (hroots : Forced (deviceGraph devs) (physicalDisks devs) [] rootsDetails visited)
    (horphans : Walk (deviceGraph devs) (orphanDevices devs) visited orphansDetails visited')
    (hdisk : ∃ d ∈ physicalDisks devs, d.id = none) :
    (withoutId (rootsDetails ++ orphansDetails)).Perm (withoutId devs) ↔
      ∃ r, Meets (deviceGraph devs) none
          ((physicalDisks devs).takeWhile fun d => decide (d.id ≠ none)) r ∧
        othersWithoutId devs = r.toList := by
  obtain ⟨d, hd, hid⟩ := hdisk
  have hin : none ∈ visited := (hroots.mem_iff (closed_nil _) none).mpr
    (Or.inr ⟨d, hd, hid ▸ Relation.ReflTransGen.refl⟩)
  obtain ⟨r, hmeets, hfilter⟩ := hroots.meets (k := none) (wellFounded_edgeBefore hacyclic)
    (closed_nil _) List.not_mem_nil
  have hnil : withoutId orphansDetails = [] := horphans.filter_eq_nil hin
  have hroot : withoutId rootsDetails = r.toList ++ withoutId (physicalDisks devs) := hfilter
  have hsplit : (withoutId (rootsDetails ++ orphansDetails)).Perm (withoutId devs) ↔
      othersWithoutId devs = r.toList := by
    have happend : withoutId (rootsDetails ++ orphansDetails) =
        r.toList ++ withoutId (physicalDisks devs) := by
      rw [withoutId, List.filter_append]
      exact (congrArg₂ (· ++ ·) hroot hnil).trans (List.append_nil _)
    rw [happend, ← perm_toList_iff]
    constructor
    · intro hperm
      have hboth := (hperm.trans (withoutId_perm devs)).trans List.perm_append_comm
      exact (List.perm_append_right_iff _).mp hboth
    · intro hperm
      exact ((hperm.append_right _).trans List.perm_append_comm).trans (withoutId_perm devs).symm
  rw [hsplit]
  constructor
  · exact fun hothers => ⟨r, hmeets, hothers⟩
  · rintro ⟨r', hmeets', hothers⟩
    rw [hothers, hmeets'.unique hmeets]

lemma length_withoutId (l : List StorageDevice) :
    (withoutId l).length = (l.map StorageDevice.id).count none := by
  unfold withoutId
  rw [List.count_eq_countP, List.countP_map, ← List.countP_eq_length_filter]
  refine List.countP_congr fun d _ => ?_
  simp

/-- Without such a disk there may be one device without an id. -/
lemma withoutId_perm_iff_of_no_disk
    (hroots : Forced (deviceGraph devs) (physicalDisks devs) [] rootsDetails visited)
    (horphans : Walk (deviceGraph devs) (orphanDevices devs) visited orphansDetails visited')
    (hall : ∀ d ∈ devs, d.id ∈ visited') (hdisk : ¬ ∃ d ∈ physicalDisks devs, d.id = none) :
    (withoutId (rootsDetails ++ orphansDetails)).Perm (withoutId devs) ↔
      (othersWithoutId devs).length ≤ 1 := by
  have hnone : none ∉ (physicalDisks devs).map StorageDevice.id := by
    intro hmem
    obtain ⟨d, hd, hid⟩ := List.mem_map.mp hmem
    exact hdisk ⟨d, hd, hid⟩
  have hlength : (withoutId (rootsDetails ++ orphansDetails)).length =
      if none ∈ visited' then 1 else 0 := by
    have hroot : (rootsDetails.map StorageDevice.id).count none =
        if none ∈ visited then 1 else 0 :=
      hroots.count_of_not_mem (closed_nil _) List.not_mem_nil hnone
    have horphan : (orphansDetails.map StorageDevice.id).count none =
        if none ∈ visited' ∧ none ∉ visited then 1 else 0 := horphans.count_eq none
    rw [length_withoutId, List.map_append, List.count_append, hroot, horphan]
    by_cases hin : none ∈ visited
    · rw [if_pos hin, if_neg fun hboth => hboth.2 hin, if_pos (horphans.subset hin)]
    · rw [if_neg hin, Nat.zero_add]
      simp only [hin, not_false_iff, and_true]
  have hothers : (withoutId devs).Perm (othersWithoutId devs) := by
    have hnil : withoutId (physicalDisks devs) = [] := by
      rw [withoutId, List.filter_eq_nil_iff]
      intro d hd hid
      exact hdisk ⟨d, hd, of_decide_eq_true hid⟩
    have hperm := withoutId_perm devs
    rw [hnil, List.nil_append] at hperm
    exact hperm
  have hsub : ∀ d ∈ withoutId (rootsDetails ++ orphansDetails), d ∈ othersWithoutId devs := by
    intro d hd
    obtain ⟨hmem, hid⟩ := List.mem_filter.mp hd
    exact hothers.mem_iff.mp
      (List.mem_filter.mpr ⟨mem_devs_of_mem_details hroots horphans d hmem, hid⟩)
  constructor
  · intro hperm
    rw [← hothers.length_eq, ← hperm.length_eq, hlength]
    split_ifs <;> omega
  · intro hle
    refine List.Perm.trans ?_ hothers.symm
    cases hcase : othersWithoutId devs with
    | nil =>
      rw [hcase] at hsub
      rw [List.eq_nil_iff_forall_not_mem.mpr fun d hd => List.not_mem_nil (hsub d hd)]
    | cons e rest =>
      rw [hcase, List.length_cons] at hle
      obtain rfl : rest = [] := List.eq_nil_of_length_eq_zero (by omega)
      have he : e ∈ othersWithoutId devs := hcase ▸ List.mem_singleton_self e
      obtain ⟨hdevs, hid⟩ := List.mem_filter.mp he
      rw [Bool.and_eq_true, decide_eq_true_iff] at hid
      have hin : none ∈ visited' := hid.1 ▸ hall e hdevs
      rw [if_pos hin] at hlength
      obtain ⟨x, hx⟩ := List.length_eq_one_iff.mp hlength
      have hxe := hsub x (hx ▸ List.mem_singleton_self x)
      rw [hcase, List.mem_singleton] at hxe
      rw [hx, hxe]

end WithoutId

/-! ## Disks as roots -/

/-- What is counted once for a disk is its root. -/
lemma not_mem_nested {roots orphans : List StorageNode} {disks : List StorageDevice}
    (hroots : roots.filterMap StorageNode.detail = disks) {d : StorageDevice}
    (hcount : (detailsOf (roots ++ orphans)).count d ≤ disks.count d) :
    ∀ node ∈ roots ++ orphans, d ∉ node.nested := by
  have hperm := detailsOf_perm (roots ++ orphans)
  rw [hperm.count_eq, List.count_append, List.filterMap_append, List.count_append, hroots] at hcount
  have hzero : ((roots ++ orphans).flatMap StorageNode.nested).count d = 0 := by omega
  intro node hnode hd
  exact List.count_eq_zero.mp hzero (List.mem_flatMap.mpr ⟨node, hnode, hd⟩)

/-- Where the parents have no cycle, the guard does no harm just when disks and devices without an
id are apart. -/
lemma placedOnce_iff {u : CasedUnicode} {devs : List StorageDevice} {lvmVgs : List LvmVg}
    {fuel : ℕ} {nodes : List StorageNode} (hacyclic : Acyclic devs)
    (htree : buildStorageTree u fuel devs lvmVgs = some nodes) :
    PlacedOnce devs nodes ↔ DisksApart devs ∧ WithoutIdApart devs := by
  obtain ⟨roots, orphans, visited, visited', rfl, hdisks, hroots, horphans⟩ :=
    buildStorageTree_walk htree
  have hmem := hroots.mem_iff (closed_nil _)
  have hall : ∀ d ∈ devs, d.id ∈ visited' := by
    apply mem_of_closed hacyclic (horphans.closed (hroots.closed (closed_nil _)))
    · intro d hd
      exact horphans.subset ((hmem d.id).mpr (Or.inr ⟨d, hd, Relation.ReflTransGen.refl⟩))
    · exact horphans.starts
  have hids := ids_iff_disksApart hroots horphans hall
  have hwithout : (∀ d ∈ devs, d.id = none →
      (detailsOf roots ++ detailsOf orphans).count d = devs.count d) ↔ WithoutIdApart devs := by
    rw [counts_iff_perm (mem_devs_of_mem_details hroots horphans)]
    unfold WithoutIdApart
    split_ifs with hdisk
    · exact withoutId_perm_iff_of_disk hacyclic hroots horphans hdisk
    · exact withoutId_perm_iff_of_no_disk hroots horphans hall hdisk
  rw [← detailsOf_append] at hids hwithout
  rw [← hids, ← hwithout]
  constructor
  · exact fun hplaced => ⟨hplaced.ids, hplaced.withoutId⟩
  · rintro ⟨hone, hcounts⟩
    refine ⟨hone, hcounts, fun d hd hdisk _ => not_mem_nested hdisks ?_⟩
    have hdisksCount : (physicalDisks devs).count d = devs.count d := List.count_filter hdisk
    by_cases hid : d.id = none
    · rw [hcounts d hd hid, hdisksCount]
    · have hle : (detailsOf (roots ++ orphans)).count d ≤
          ((detailsOf (roots ++ orphans)).map StorageDevice.id).count d.id :=
        List.count_le_count_map
      have hpos : 0 < devs.count d := List.count_pos_iff.mpr hd
      rw [hone d hd hid] at hle
      omega

/-- The storage tree is built for every list of devices.  Where the parents have no cycle, each
device is placed once just when no disk with an id is reached from an earlier one and the devices
without an id are apart. -/
theorem storageTree_once_iff (u : CasedUnicode) :
    (∀ devs lvmVgs, ∃ nodes, ∀ fuel, devs.length < fuel →
      buildStorageTree u fuel devs lvmVgs = some nodes) ∧
    ∀ devs lvmVgs fuel nodes, Acyclic devs → buildStorageTree u fuel devs lvmVgs = some nodes →
      (PlacedOnce devs nodes ↔ DisksApart devs ∧ WithoutIdApart devs) :=
  ⟨exists_buildStorageTree u, fun _ _ _ _ hacyclic htree => placedOnce_iff hacyclic htree⟩

/-! ## A disk with partitions -/

/-- Upper and lower case of ASCII. -/
def asciiCased : CasedUnicode where
  toUnicode := asciiText
  upper text := String.ofList (text.toList.map Char.toUpper)

def bareDisk : StorageDevice where
  name := some "sda"
  type := some "disk"
  sizeBytes := some 1000204886016
  fstype := none
  mountpoint := none
  id := some "wwn-1"
  parent := none

/-- A partition of the disk. -/
def barePartition (name : String) (id : Option String) : StorageDevice where
  name := some name
  type := some "part"
  sizeBytes := some 536870912
  fstype := some "ext4"
  mountpoint := none
  id := id
  parent := some "wwn-1"

lemma acyclic_partitions {id id' : Option String} (hid : id ≠ some "wwn-1")
    (hid' : id' ≠ some "wwn-1") :
    Acyclic [bareDisk, barePartition "sda1" id, barePartition "sda2" id'] := by
  have hparent : ∀ p c, ParentOf [bareDisk, barePartition "sda1" id, barePartition "sda2" id'] p c →
      p = "wwn-1" ∧ c ≠ "wwn-1" := by
    rintro p c ⟨d, hd, hp, hc⟩
    simp only [List.mem_cons, List.not_mem_nil, or_false] at hd
    rcases hd with rfl | rfl | rfl
    · exact absurd hp (Option.some_ne_none p).symm
    · exact ⟨(Option.some.inj hp).symm, fun h => hid (h ▸ hc)⟩
    · exact ⟨(Option.some.inj hp).symm, fun h => hid' (h ▸ hc)⟩
  have hpath : ∀ p c, Relation.TransGen
      (ParentOf [bareDisk, barePartition "sda1" id, barePartition "sda2" id']) p c →
        p = "wwn-1" ∧ c ≠ "wwn-1" := by
    intro p c h
    induction h with
    | single hedge => exact hparent _ _ hedge
    | tail _ hedge ih => exact absurd (hparent _ _ hedge).1 ih.2
  intro x hcycle
  obtain ⟨hfirst, hlast⟩ := hpath x x hcycle
  exact hlast hfirst

/-- One partition without an id is placed. -/
theorem storageTree_once_of_partitions :
    ∃ nodes,
      buildStorageTree asciiCased 4 [bareDisk, barePartition "sda1" (some "part-1"),
        barePartition "sda2" none] [] = some nodes ∧
      PlacedOnce [bareDisk, barePartition "sda1" (some "part-1"), barePartition "sda2" none]
        nodes := by
  obtain ⟨hends, honce⟩ := storageTree_once_iff asciiCased
  obtain ⟨nodes, hnodes⟩ := hends
    [bareDisk, barePartition "sda1" (some "part-1"), barePartition "sda2" none] []
  have htree := hnodes 4 (by decide)
  refine ⟨nodes, htree, (honce _ _ _ _ (acyclic_partitions (by decide) (by decide)) htree).mpr ?_⟩
  constructor
  · exact List.pairwise_singleton _ _
  · unfold WithoutIdApart
    rw [if_neg (by decide)]
    decide

/-- Of two partitions without an id one is lost. -/
theorem bareDisk_loses_partition :
    Acyclic [bareDisk, barePartition "sda1" none, barePartition "sda2" none] ∧
      ∃ nodes,
        buildStorageTree asciiCased 4 [bareDisk, barePartition "sda1" none,
          barePartition "sda2" none] [] = some nodes ∧
        ¬ PlacedOnce [bareDisk, barePartition "sda1" none, barePartition "sda2" none] nodes := by
  have hacyclic : Acyclic [bareDisk, barePartition "sda1" none, barePartition "sda2" none] :=
    acyclic_partitions (by decide) (by decide)
  obtain ⟨nodes, hnodes⟩ := exists_buildStorageTree asciiCased
    [bareDisk, barePartition "sda1" none, barePartition "sda2" none] []
  have htree := hnodes 4 (by decide)
  refine ⟨hacyclic, nodes, htree, fun hplaced => ?_⟩
  obtain ⟨-, hapart⟩ := (placedOnce_iff hacyclic htree).mp hplaced
  unfold WithoutIdApart at hapart
  rw [if_neg (by decide)] at hapart
  exact absurd hapart (by decide)

end AssessmentEngine
