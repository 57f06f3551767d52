import AssessmentEngine.Mappers.ServerDetail

/-!
# Devices with several parents

The inventory is a graph of devices written as a list: a device with several parents, an array
or a striped volume, is in it once for each of them, with the same id.  The totals and the
list of volumes walk the list and count every entry.  They do not depend on how often such
devices are repeated exactly when none of them is mounted as a data volume, or is a disk or
swap of some size.
-/

namespace AssessmentEngine

/-- A node of the inventory as it is sent. -/
structure WireDevice extends DeviceNode where
  parent : Option String
  id : Option String
  deriving DecidableEq, Repr

/-- The nodes of an inventory. -/
structure WireDevices where
  nodes : List WireDevice
  /-- Nodes with the same id are the same device. -/
  sameDevice : ∀ a ∈ nodes, ∀ b ∈ nodes, a.id ≠ none → a.id = b.id → a.toDeviceNode = b.toDeviceNode
  /-- A device is there once for each of its parents. -/
  otherParent : ((nodes.filter (·.id.isSome)).map fun d => (d.id, d.parent)).Nodup

namespace WireDevices

/-- The devices as the mappers read them. -/
def devices (wire : WireDevices) : List DeviceNode := wire.nodes.map (·.toDeviceNode)

/-- The device of a node has several nodes. -/
def repeated (wire : WireDevices) (d : WireDevice) : Bool :=
  d.id.isSome && decide (2 ≤ (wire.nodes.filter fun e => e.id = d.id).length)

/-- The nodes of the devices with one node, in their order. -/
def singles (wire : WireDevices) : List WireDevice :=
  wire.nodes.filter fun d => !wire.repeated d

/-- `other` has the same devices; only those that are repeated in `wire` may be there more or
less often, but at least once. -/
structure Rerepeats (wire other : WireDevices) : Prop where
  singles : (other.nodes.filter fun d => !wire.repeated d) = wire.singles
  kept : ∀ d ∈ wire.nodes, wire.repeated d = true →
    ∃ e ∈ other.nodes, e.id = d.id ∧ e.toDeviceNode = d.toDeviceNode
  known : ∀ e ∈ other.nodes, wire.repeated e = true →
    ∃ d ∈ wire.nodes, d.id = e.id ∧ d.toDeviceNode = e.toDeviceNode

end WireDevices

/-- What is computed from the devices of a server. -/
structure DeviceSummary where
  layers : Option ℚ × Option ℚ × Option ℚ
  swapTotalBytes : ℤ
  diskTotalBytes : ℤ
  volumes : List VolumeItem
  deriving DecidableEq

def deviceSummary (devices : List DeviceNode) : DeviceSummary where
  layers := storageLayersGb devices
  swapTotalBytes := swapTotalBytes devices
  diskTotalBytes := diskTotalBytes devices
  volumes := toVolumes devices

/-- The device adds to a total or to the list of volumes. -/
def DeviceNode.counts (d : DeviceNode) : Bool :=
  d.dataPath.isSome || ((isPhysicalDisk d.type || isSwap d.type) && decide (d.sizeBytes.getD 0 ≠ 0))

/-! ### What a device adds -/

/-- What the device adds to the total of the devices with `p`. -/
def DeviceNode.share (p : DeviceNode → Bool) (d : DeviceNode) : ℤ :=
  if p d then d.sizeBytes.getD 0 else 0

lemma sum_filter_eq_sum_share (p : DeviceNode → Bool) (devices : List DeviceNode) :
    ((devices.filter p).map fun d => d.sizeBytes.getD 0).sum = (devices.map (·.share p)).sum := by
  induction devices with
  | nil => rfl
  | cons d devices ih =>
    by_cases hp : p d = true
    · rw [List.filter_cons_of_pos hp, List.map_cons, List.sum_cons, List.map_cons, List.sum_cons,
        DeviceNode.share, if_pos hp, ih]
    · rw [List.filter_cons_of_neg hp, List.map_cons, List.sum_cons, DeviceNode.share, if_neg hp, ih,
        zero_add]

lemma diskTotalBytes_eq (devices : List DeviceNode) :
    diskTotalBytes devices = (devices.map (·.share fun d => isPhysicalDisk d.type)).sum :=
  sum_filter_eq_sum_share _ devices

lemma swapTotalBytes_eq (devices : List DeviceNode) :
    swapTotalBytes devices = (devices.map (·.share fun d => isSwap d.type)).sum :=
  sum_filter_eq_sum_share _ devices

/-- The line of a device in the list of volumes. -/
def volumeItem (d : DeviceNode) : Option VolumeItem :=
  d.dataPath.map fun path : String =>
    { mount := path, fstype := d.fstype, totalGb := bytesToGb d.sizeBytes }

/-- A device that does not count adds nothing. -/
lemma share_eq_zero {d : DeviceNode} (hcounts : d.counts = false) :
    d.share (fun d => isPhysicalDisk d.type) = 0 ∧ d.share (fun d => isSwap d.type) = 0 := by
  unfold DeviceNode.counts at hcounts
  rw [Bool.or_eq_false_iff, Bool.and_eq_false_iff, Bool.or_eq_false_iff] at hcounts
  unfold DeviceNode.share
  rcases hcounts.2 with ⟨hdisk, hswap⟩ | hsize
  · simp [hdisk, hswap]
  · have hzero : d.sizeBytes.getD 0 = 0 := by simpa using hsize
    simp [hzero]

lemma dataPath_eq_none {d : DeviceNode} (hcounts : d.counts = false) : d.dataPath = none := by
  unfold DeviceNode.counts at hcounts
  rw [Bool.or_eq_false_iff] at hcounts
  simpa using hcounts.1

/-- The summary depends on the devices that count only. -/
lemma deviceSummary_counts (devices : List DeviceNode) :
    deviceSummary (devices.filter (·.counts)) = deviceSummary devices := by
  have hsum : ∀ f : DeviceNode → ℤ, (∀ d, d.counts = false → f d = 0) →
      ((devices.filter (·.counts)).map f).sum = (devices.map f).sum := by
    intro f hf
    induction devices with
    | nil => rfl
    | cons d devices ih =>
      by_cases hd : d.counts = true
      · rw [List.filter_cons_of_pos hd, List.map_cons, List.sum_cons, ih, List.map_cons,
          List.sum_cons]
      · have hzero : f d = 0 := hf d (Bool.not_eq_true _ ▸ hd)
        rw [List.filter_cons_of_neg hd, ih, List.map_cons, List.sum_cons, hzero, zero_add]
  have hmounted : (devices.filter (·.counts)).filter (fun d => d.dataPath.isSome) =
      devices.filter fun d => d.dataPath.isSome := by
    rw [List.filter_filter]
    apply List.filter_congr
    intro d hd
    cases hcounts : d.counts with
    | true => rw [Bool.and_true]
    | false =>
      rw [dataPath_eq_none hcounts]
      rfl
  have hvolumes : (devices.filter (·.counts)).filterMap volumeItem =
      devices.filterMap volumeItem := by
    have hsplit : ∀ l : List DeviceNode,
        l.filterMap volumeItem = (l.filter fun d => d.dataPath.isSome).filterMap volumeItem := by
      intro l
      rw [List.filterMap_filter]
      apply List.filterMap_congr
      intro d _
      unfold volumeItem
      cases d.dataPath <;> rfl
    rw [hsplit, hmounted, ← hsplit]
  have hdisk : diskTotalBytes (devices.filter (·.counts)) = diskTotalBytes devices := by
    rw [diskTotalBytes_eq, diskTotalBytes_eq]
    exact hsum _ fun d hd => (share_eq_zero hd).1
  have hswap : swapTotalBytes (devices.filter (·.counts)) = swapTotalBytes devices := by
    rw [swapTotalBytes_eq, swapTotalBytes_eq]
    exact hsum _ fun d hd => (share_eq_zero hd).2
  have hlayers : storageLayersGb (devices.filter (·.counts)) = storageLayersGb devices := by
    unfold storageLayersGb
    rw [hdisk, hmounted]
  have hlist : toVolumes (devices.filter (·.counts)) = toVolumes devices := by
    unfold toVolumes
    exact congrArg (fun l => List.mergeSort l fun a b => decide (a.mount ≤ b.mount)) hvolumes
  rw [deviceSummary, deviceSummary, hlayers, hswap, hdisk, hlist]

/-- A device that can be left out without changing the summary does not count. -/
lemma counts_eq_false_of_summary {before after : List DeviceNode} {d : DeviceNode}
    (hsame : deviceSummary (before ++ d :: after) = deviceSummary (before ++ after)) :
    d.counts = false := by
  have hshare : ∀ p : DeviceNode → Bool,
      ((before ++ d :: after).map (·.share p)).sum = ((before ++ after).map (·.share p)).sum →
        d.share p = 0 := by
    intro p hsum
    rw [List.map_append, List.sum_append, List.map_cons, List.sum_cons, List.map_append,
      List.sum_append] at hsum
    omega
  have hdisk : d.share (fun d => isPhysicalDisk d.type) = 0 := by
    refine hshare _ ?_
    rw [← diskTotalBytes_eq, ← diskTotalBytes_eq]
    exact congrArg DeviceSummary.diskTotalBytes hsame
  have hswap : d.share (fun d => isSwap d.type) = 0 := by
    refine hshare _ ?_
    rw [← swapTotalBytes_eq, ← swapTotalBytes_eq]
    exact congrArg DeviceSummary.swapTotalBytes hsame
  have hpath : d.dataPath = none := by
    have hlength : (toVolumes (before ++ d :: after)).length =
        (toVolumes (before ++ after)).length :=
      congrArg (fun summary => summary.volumes.length) hsame
    unfold toVolumes at hlength
    rw [List.length_mergeSort, List.length_mergeSort, List.filterMap_append,
      List.filterMap_append, List.length_append, List.length_append, List.filterMap_cons]
      at hlength
    cases hd : d.dataPath with
    | none => rfl
    | some path =>
      rw [hd, Option.map_some, List.length_cons] at hlength
      omega
  unfold DeviceNode.share at hdisk hswap
  unfold DeviceNode.counts
  rw [hpath]
  by_cases hsize : d.sizeBytes.getD 0 = 0
  · simp [hsize]
  · have hnotDisk : isPhysicalDisk d.type = false := by
      by_contra htype
      rw [if_pos (Bool.not_eq_false _ ▸ htype)] at hdisk
      exact hsize hdisk
    have hnotSwap : isSwap d.type = false := by
      by_contra htype
      rw [if_pos (Bool.not_eq_false _ ▸ htype)] at hswap
      exact hsize hswap
    simp [hnotDisk, hnotSwap]

/-! ### Repetitions -/

namespace WireDevices

variable {wire : WireDevices}

/-- The list without one node of a repeated device. -/
def dropNode (wire : WireDevices) (before after : List WireDevice) (d : WireDevice)
    (hnodes : wire.nodes = before ++ d :: after) : WireDevices where
  nodes := before ++ after
  sameDevice := by
    intro a ha b hb
    have hsub : (before ++ after).Sublist wire.nodes := by
      rw [hnodes]
      exact List.Sublist.append (List.Sublist.refl before) (List.sublist_cons_self d after)
    exact wire.sameDevice a (hsub.subset ha) b (hsub.subset hb)
  otherParent := by
    have hsub : (before ++ after).Sublist wire.nodes := by
      rw [hnodes]
      exact List.Sublist.append (List.Sublist.refl before) (List.sublist_cons_self d after)
    exact wire.otherParent.sublist ((hsub.filter _).map _)

/-- Leaving out one node of a repeated device keeps the devices. -/
lemma rerepeats_dropNode {before after : List WireDevice} {d : WireDevice}
    (hnodes : wire.nodes = before ++ d :: after) (hrepeated : wire.repeated d = true) :
    wire.Rerepeats (wire.dropNode before after d hnodes) := by
  have hother : ∃ e ∈ before ++ after, e.id = d.id := by
    have htwo : 2 ≤ (wire.nodes.filter fun e => e.id = d.id).length :=
      of_decide_eq_true (Bool.and_eq_true _ _ ▸ hrepeated).2
    rw [hnodes, List.filter_append, List.filter_cons_of_pos (by simp), List.length_append,
      List.length_cons] at htwo
    have hpos : 0 < ((before ++ after).filter fun e => e.id = d.id).length := by
      rw [List.filter_append, List.length_append]
      omega
    obtain ⟨e, he⟩ := List.exists_mem_of_length_pos hpos
    obtain ⟨hmem, hid⟩ := List.mem_filter.mp he
    exact ⟨e, hmem, of_decide_eq_true hid⟩
  have hsome : d.id ≠ none := by
    have hid : d.id.isSome = true := (Bool.and_eq_true _ _ ▸ hrepeated).1
    exact Option.isSome_iff_ne_none.mp hid
  have hmem : ∀ e, e ∈ before ++ after → e ∈ wire.nodes := by
    intro e he
    rw [hnodes]
    rcases List.mem_append.mp he with he | he
    · exact List.mem_append_left _ he
    · exact List.mem_append_right _ (List.mem_cons_of_mem d he)
  have hd : d ∈ wire.nodes := by
    rw [hnodes]
    simp
  constructor
  · change (before ++ after).filter (fun e => !wire.repeated e) = wire.singles
    rw [singles, hnodes, List.filter_append, List.filter_append,
      List.filter_cons_of_neg (by simp [hrepeated])]
  · intro e he _
    rw [hnodes] at he
    rcases List.mem_append.mp he with hbefore | hafter
    · exact ⟨e, List.mem_append_left _ hbefore, rfl, rfl⟩
    · rcases List.mem_cons.mp hafter with rfl | hafter
      · obtain ⟨e', he', hid⟩ := hother
        refine ⟨e', he', hid, ?_⟩
        exact (wire.sameDevice e hd e' (hmem e' he') hsome hid.symm).symm
      · exact ⟨e, List.mem_append_right _ hafter, rfl, rfl⟩
  · intro e he _
    exact ⟨e, hmem e he, rfl, rfl⟩

/-- The nodes that count are single when no repeated device counts. -/
lemma filter_counts_eq {nodes : List WireDevice}
    (hrepeated : ∀ d ∈ nodes, wire.repeated d = true → d.toDeviceNode.counts = false) :
    (nodes.map (·.toDeviceNode)).filter (·.counts) =
      (((nodes.filter fun d => !wire.repeated d).map (·.toDeviceNode)).filter (·.counts)) := by
  rw [List.filter_map, List.filter_map, List.filter_filter]
  refine congrArg _ (List.filter_congr fun d hd => ?_)
  cases h : wire.repeated d with
  | false => simp
  | true => simp [hrepeated d hd h]

/-- The summary does not depend on how often the devices with several parents are repeated
exactly when none of them counts. -/
theorem deviceSummary_rerepeats_iff (wire : WireDevices) :
    (∀ other, wire.Rerepeats other →
        deviceSummary other.devices = deviceSummary wire.devices) ↔
      ∀ d ∈ wire.nodes, wire.repeated d = true → d.toDeviceNode.counts = false := by
  constructor
  · intro hsame d hd hrepeated
    obtain ⟨before, after, hnodes⟩ := List.append_of_mem hd
    have hdrop := hsame _ (rerepeats_dropNode hnodes hrepeated)
    have hwire : wire.devices = before.map (·.toDeviceNode) ++
        d.toDeviceNode :: after.map (·.toDeviceNode) := by
      rw [devices, hnodes, List.map_append, List.map_cons]
    have hother : (wire.dropNode before after d hnodes).devices =
        before.map (·.toDeviceNode) ++ after.map (·.toDeviceNode) := by
      rw [devices, dropNode, List.map_append]
    rw [hwire, hother] at hdrop
    exact counts_eq_false_of_summary hdrop.symm
  · intro hcounts other hother
    have hknown : ∀ e ∈ other.nodes, wire.repeated e = true → e.toDeviceNode.counts = false := by
      intro e he hrepeated
      obtain ⟨d, hd, hid, hdevice⟩ := hother.known e he hrepeated
      rw [← hdevice]
      refine hcounts d hd ?_
      unfold repeated at hrepeated ⊢
      rwa [hid]
    rw [← deviceSummary_counts other.devices, ← deviceSummary_counts wire.devices, devices, devices,
      filter_counts_eq hknown, filter_counts_eq hcounts, hother.singles, singles]

end WireDevices

/-- A disk of 100 GiB. -/
def mirrorDisk (name : String) : WireDevice where
  name := some name
  type := some "disk"
  sizeBytes := some (100 * 1024 ^ 3)
  fstype := none
  mountpoint := none
  parent := none
  id := some name

/-- A mirrored root file system, under one of its disks. -/
def mirrorNode (disk : String) : WireDevice where
  name := some "md0"
  type := some "raid"
  sizeBytes := some (100 * 1024 ^ 3)
  fstype := some "ext4"
  mountpoint := some "/"
  parent := some disk
  id := some "md0"

/-- A server whose root file system is mirrored on two disks. -/
def mirroredRoot : WireDevices where
  nodes := [mirrorDisk "sda", mirrorNode "sda", mirrorDisk "sdb", mirrorNode "sdb"]
  sameDevice := by decide
  otherParent := by decide

/-- The same server with the mirror under one disk only. -/
def mirroredRootOnce : WireDevices where
  nodes := [mirrorDisk "sda", mirrorNode "sda", mirrorDisk "sdb"]
  sameDevice := by decide
  otherParent := by decide

/-- The file system on the mirror is counted and listed twice. -/
theorem mirroredRoot_counted_twice :
    mirroredRoot.Rerepeats mirroredRootOnce ∧
      storageLayersGb mirroredRoot.devices = (some 200, some 200, some 0) ∧
      storageLayersGb mirroredRootOnce.devices = (some 200, some 100, some 100) ∧
      deviceSummary mirroredRootOnce.devices ≠ deviceSummary mirroredRoot.devices := by
  have htwice : storageLayersGb mirroredRoot.devices = (some 200, some 200, some 0) := by
    decide +kernel
  have honce : storageLayersGb mirroredRootOnce.devices = (some 200, some 100, some 100) := by
    decide +kernel
  refine ⟨⟨by decide, by decide, by decide⟩, htwice, honce, ?_⟩
  intro hsame
  have hlayers : storageLayersGb mirroredRootOnce.devices = storageLayersGb mirroredRoot.devices :=
    congrArg DeviceSummary.layers hsame
  rw [honce, htwice] at hlayers
  exact absurd hlayers (by decide +kernel)

end AssessmentEngine
