import Mathlib.Algebra.Ring.Nat
import AssessmentEngine.Library.FixedPoint

/-!
# Block devices

`device_filters` with the units of `unit_converter`: which block devices are disks, which are swap
and which file systems hold data, and what they add up to.
-/

namespace AssessmentEngine

/-- A block device as the inventory has it; `none` is a key that is not there, or null. -/
structure DeviceNode where
  name : Option String
  type : Option String
  sizeBytes : Option ℤ
  fstype : Option String
  mountpoint : Option String
  deriving DecidableEq, Repr

/-- `VIRTUAL_FSTYPES`. -/
def virtualFstypes : List String :=
  ["tmpfs", "devtmpfs", "overlay", "squashfs", "proc", "sysfs", "cgroup", "cgroup2", "mqueue",
    "debugfs", "tracefs", "securityfs", "pstore", "bpf", "configfs", "ramfs", "autofs", "hugetlbfs",
    "fusectl", "nsfs", "efivarfs", "binfmt_misc"]

/-- `is_physical_disk`. -/
def isPhysicalDisk (dtype : Option String) : Bool := decide (dtype = some "disk")

/-- `is_swap`. -/
def isSwap (dtype : Option String) : Bool := decide (dtype = some "swap")

/-- `is_data_volume`: file systems of the kernel and those to boot from hold no data. -/
def isDataVolume (fstype mountpoint : Option String) : Bool :=
  !(fstype.any fun name => decide (name ∈ virtualFstypes)) &&
    !(mountpoint.any fun path => "/boot".toList.isPrefixOf path.toList)

/-- `disk_total_bytes`. -/
def diskTotalBytes (blockDevices : List DeviceNode) : ℤ :=
  ((blockDevices.filter fun d => isPhysicalDisk d.type).map fun d => d.sizeBytes.getD 0).sum

/-- `swap_total_bytes`. -/
def swapTotalBytes (blockDevices : List DeviceNode) : ℤ :=
  ((blockDevices.filter fun d => isSwap d.type).map fun d => d.sizeBytes.getD 0).sum

/-- `bytes_to_gb`. -/
def bytesToGb (bytes : Option ℤ) : Option ℚ :=
  bytes.map fun b : ℤ => FixedPoint.roundTo 2 ((b : ℚ) / 1024 ^ 3)

/-- `bytes_to_gib`: nothing is also none. -/
def bytesToGib : Option ℤ → Option ℚ
  | none => none
  | some b => if b = 0 then none else some (FixedPoint.roundTo 1 ((b : ℚ) / 1024 ^ 3))

/-- The path under which the device is mounted as a data volume. -/
def DeviceNode.dataPath (d : DeviceNode) : Option String :=
  match d.mountpoint with
  | none => none
  | some path =>
    if path = "" ∨ isSwap d.type = true ∨ isDataVolume d.fstype d.mountpoint = false then none
    else some path

/-- `storage_layers_gb`: what the disks have, what the volumes have, and the rest. -/
def storageLayersGb (blockDevices : List DeviceNode) : Option ℚ × Option ℚ × Option ℚ :=
  let allocated := bytesToGb (some (diskTotalBytes blockDevices))
  let fsBytes := ((blockDevices.filter fun d => d.dataPath.isSome).map fun d =>
    d.sizeBytes.getD 0).sum
  let filesystem := if fsBytes = 0 then none else bytesToGb (some fsBytes)
  let unallocated :=
    match allocated, filesystem with
    | some a, some f => some (FixedPoint.roundTo 2 (max 0 (a - f)))
    | _, _ => none
  (allocated.map (FixedPoint.roundTo 2), filesystem.map (FixedPoint.roundTo 2), unallocated)

end AssessmentEngine
