import AssessmentEngine.Consumer.Rows

/-!
# Which inventory messages can be stored

The mapper always returns.  Its rows fit when the texts of the message are clean, its numbers are
not too large and the fill of no volume group is infinite; the lengths of texts are those of the
columns.
-/

namespace AssessmentEngine

open Sql

/-! ## Texts -/

section Texts

variable {minLength maxLength : ℕ}

/-- The text if there is one. -/
def textOf (s : Option (WireText minLength maxLength)) : List String := (plainText s).toList

def textsOf (ss : Option (List String)) : List String := ss.getD []

def AttrValue.texts : AttrValue → List String
  | str s => [s]
  | int _ => []

def BlockDeviceInfo.texts (b : BlockDeviceInfo) : List String :=
  [b.name.1, b.type.1] ++ textOf b.fstype ++ textOf b.mountpoint ++ textOf b.parent ++
    textOf b.id ++ textOf b.idType ++ textOf b.partitionTable ++ textOf b.serial ++ textOf b.wwn ++
    textOf b.partType ++ textOf b.partName ++ textsOf b.partFlags ++ textOf b.fsUuid ++
    textOf b.fsLabel ++ textsOf b.mountOptions ++ textOf b.lvmVg ++ textOf b.lvmLv ++
    textOf b.lvmSegtype ++ b.raidLevel.toList.flatMap AttrValue.texts ++ textOf b.raidMetadata ++
    textOf b.raidUuid ++ textOf b.cryptType

def NetAddressInfo.texts (a : NetAddressInfo) : List String := a.address.1 :: textOf a.origin

def RouteInfo.texts (r : RouteInfo) : List String := r.dest.1 :: textOf r.via

def NetInterfaceInfo.texts (n : NetInterfaceInfo) : List String :=
  [n.name.1] ++ textOf n.id ++ textOf n.idType ++ textOf n.kind ++
    n.addresses.flatMap NetAddressInfo.texts ++ textOf n.gateway ++ textsOf n.dns ++
    (n.routes.getD []).flatMap RouteInfo.texts ++ textOf n.bondMode

def LvmVgInfo.texts (v : LvmVgInfo) : List String :=
  [v.name.1] ++ textOf v.vgUuid ++ textsOf v.pvIds

def InventoryServiceInfo.texts (s : InventoryServiceInfo) : List String :=
  [s.unit.1, s.sub.1] ++ textOf s.exe

def InventoryListenPortInfo.texts (p : InventoryListenPortInfo) : List String :=
  p.addr.1 :: textOf p.comm

def BootInfo.texts (b : BootInfo) : List String :=
  textOf b.kernelCmdline ++ textOf b.rootRefType ++ textOf b.grubInstallTarget

def NonblockMountInfo.texts (m : NonblockMountInfo) : List String :=
  [m.source.1, m.target.1] ++ textOf m.fstype ++ textsOf m.options

end Texts

/-! ## Documents -/

section Documents

variable {minLength maxLength : ℕ}

@[simp] lemma storable_textJson {s : WireText minLength maxLength} :
    (textJson s).Storable ↔ CleanText s.1 := Iff.rfl

@[simp] lemma storable_optionalTextJson {s : Option (WireText minLength maxLength)} :
    (optionalTextJson s).Storable ↔ ∀ a ∈ textOf s, CleanText a := by
  cases s with
  | none => exact iff_of_true trivial (fun _ h => absurd h List.not_mem_nil)
  | some a =>
    have htext : textOf (some a) = [a.1] := rfl
    rw [htext, List.forall_mem_singleton]
    exact Iff.rfl

@[simp] lemma storable_sizeJson (n : Option ℕ) : (sizeJson n).Storable := by
  simp [sizeJson]

@[simp] lemma storable_integerJson (n : Option ℤ) : (integerJson n).Storable := by
  simp [integerJson]

@[simp] lemma storable_flagJson (b : Option Bool) : (flagJson b).Storable := by
  simp [flagJson]

@[simp] lemma storable_textsJson {ss : List String} :
    (textsJson ss).Storable ↔ ∀ s ∈ ss, CleanText s := by
  simp [textsJson]

@[simp] lemma storable_optionalTextsJson {ss : Option (List String)} :
    (optionalTextsJson ss).Storable ↔ ∀ s ∈ textsOf ss, CleanText s := by
  cases ss <;> simp [optionalTextsJson, textsOf, Json.ofOption]

@[simp] lemma storable_attrJson {v : AttrValue} :
    v.json.Storable ↔ ∀ s ∈ v.texts, CleanText s := by
  cases v <;> simp [AttrValue.json, AttrValue.texts]

@[simp] lemma storable_percentJson {x : Option Double} :
    (percentJson x).Storable ↔ ∀ p ∈ x, p.isFinite = true := by
  simp [percentJson]

/-- The keys of the members are clean. -/
def CleanKeys (d : JsonMembers) : Prop := ∀ k ∈ d.map Prod.fst, CleanText k

lemma cleanKeys_nil : CleanKeys [] := fun _ h => absurd h List.not_mem_nil

lemma cleanKeys_cons {k : String} {v : Json} {d : JsonMembers} :
    CleanKeys ((k, v) :: d) ↔ CleanText k ∧ CleanKeys d := List.forall_mem_cons

lemma storable_members {d : JsonMembers} (hclean : CleanKeys d) :
    (∀ m ∈ d, CleanText m.1 ∧ m.2.Storable) ↔ ∀ m ∈ d, m.2.Storable :=
  forall₂_congr fun _ hm => and_iff_right (hclean _ (List.mem_map_of_mem hm))

/-- Members that are left out are null. -/
lemma storable_sparse {d : JsonMembers} (hclean : CleanKeys d) :
    (∀ m ∈ sparse d, CleanText m.1 ∧ m.2.Storable) ↔ ∀ m ∈ d, m.2.Storable := by
  constructor
  · intro h m hm
    by_cases hnull : m.2.isNull = true
    · cases hvalue : m.2 with
      | null => trivial
      | _ => rw [hvalue] at hnull; exact absurd hnull Bool.false_ne_true
    · exact (h m (List.mem_filter.mpr ⟨hm, by simpa using hnull⟩)).2
  · intro h m hm
    have hmem : m ∈ d := (List.mem_filter.mp hm).1
    exact ⟨hclean _ (List.mem_map_of_mem hmem), h m hmem⟩

lemma storable_obj_append_sparse {d layout : JsonMembers} (hd : CleanKeys d)
    (hlayout : CleanKeys layout) :
    (Json.obj (d ++ sparse layout)).Storable ↔
      (∀ m ∈ d, m.2.Storable) ∧ ∀ m ∈ layout, m.2.Storable := by
  rw [Json.storable_obj, List.forall_mem_append, storable_members hd, storable_sparse hlayout]

@[simp] lemma storable_objectsJson {α : Type} {members : α → JsonMembers} {as : List α} :
    (objectsJson members as).Storable ↔ ∀ a ∈ as, (Json.obj (members a)).Storable := by
  simp only [objectsJson, Json.storable_arr, List.forall_mem_map]

lemma storable_optionalObjectsJson {α : Type} {members : α → JsonMembers} {as : Option (List α)} :
    (Json.ofOption (objectsJson members) as).Storable ↔
      ∀ a ∈ as.getD [], (Json.obj (members a)).Storable := by
  rw [Json.storable_ofOption]
  cases as with
  | none => exact iff_of_true nofun nofun
  | some a =>
    simp only [Option.mem_def, Option.some.injEq, forall_eq', Option.getD_some,
      storable_objectsJson]

lemma storable_blockDevice (b : BlockDeviceInfo) :
    (Json.obj b.members).Storable ↔ ∀ s ∈ b.texts, CleanText s := by
  have hlayout : CleanKeys b.layout := by
    simp only [BlockDeviceInfo.layout, cleanKeys_cons, cleanKeys_nil]
    decide
  rw [BlockDeviceInfo.members, storable_obj_append_sparse ?_ hlayout]
  · unfold BlockDeviceInfo.texts BlockDeviceInfo.layout
    simp only [List.forall_mem_append, List.forall_mem_cons, List.forall_mem_flatMap]
    simp [and_assoc]
  · simp only [cleanKeys_cons, cleanKeys_nil]
    decide

lemma storable_address (a : NetAddressInfo) :
    (Json.obj a.members).Storable ↔ ∀ s ∈ a.texts, CleanText s := by
  have hfamily : CleanText a.family.text := by
    cases a.family <;> decide
  rw [NetAddressInfo.members, storable_obj_append_sparse]
  · unfold NetAddressInfo.texts
    simp only [List.forall_mem_cons]
    simp [hfamily]
  all_goals
    simp only [cleanKeys_cons, cleanKeys_nil]
    decide

lemma storable_route (r : RouteInfo) :
    (Json.obj r.members).Storable ↔ ∀ s ∈ r.texts, CleanText s := by
  rw [Json.storable_obj, RouteInfo.members, storable_members]
  · unfold RouteInfo.texts
    simp only [List.forall_mem_cons]
    simp
  · simp only [cleanKeys_cons, cleanKeys_nil]
    decide

lemma storable_routesJson (routes : Option (List RouteInfo)) :
    (routesJson routes).Storable ↔ ∀ s ∈ (routes.getD []).flatMap RouteInfo.texts, CleanText s := by
  rw [List.forall_mem_flatMap]
  match routes with
  | none => exact iff_of_true trivial nofun
  | some [] => exact iff_of_true trivial nofun
  | some (r :: rs) =>
    rw [routesJson, storable_objectsJson]
    exact forall₂_congr fun a _ => storable_route a

lemma storable_interface (n : NetInterfaceInfo) :
    (Json.obj n.members).Storable ↔ ∀ s ∈ n.texts, CleanText s := by
  rw [NetInterfaceInfo.members, storable_obj_append_sparse]
  · unfold NetInterfaceInfo.texts NetInterfaceInfo.layout
    simp only [List.forall_mem_append, List.forall_mem_cons, List.forall_mem_flatMap,
      storable_routesJson, storable_objectsJson, storable_address]
    simp [and_assoc]
  · simp only [cleanKeys_cons, cleanKeys_nil]
    decide
  · simp only [NetInterfaceInfo.layout, cleanKeys_cons, cleanKeys_nil]
    decide

/-- How full the volumes of the group are. -/
def LvmVgInfo.percents (v : LvmVgInfo) : List Double :=
  v.dataPercent.toList ++ v.metadataPercent.toList

lemma storable_volumeGroup (v : LvmVgInfo) :
    (Json.obj v.members).Storable ↔
      (∀ s ∈ v.texts, CleanText s) ∧ ∀ p ∈ v.percents, p.isFinite = true := by
  rw [LvmVgInfo.members, storable_obj_append_sparse]
  · unfold LvmVgInfo.texts LvmVgInfo.layout LvmVgInfo.percents
    simp only [List.forall_mem_append, List.forall_mem_cons]
    simp
    tauto
  · simp only [cleanKeys_cons, cleanKeys_nil]
    decide
  · simp only [LvmVgInfo.layout, cleanKeys_cons, cleanKeys_nil]
    decide

lemma storable_service (s : InventoryServiceInfo) :
    (Json.obj s.members).Storable ↔ ∀ t ∈ s.texts, CleanText t := by
  rw [Json.storable_obj, InventoryServiceInfo.members, storable_members]
  · unfold InventoryServiceInfo.texts
    simp only [List.forall_mem_append, List.forall_mem_cons]
    simp [and_assoc]
  · simp only [cleanKeys_cons, cleanKeys_nil]
    decide

lemma storable_listenPort (p : InventoryListenPortInfo) :
    (Json.obj p.members).Storable ↔ ∀ s ∈ p.texts, CleanText s := by
  have hproto : CleanText p.proto.text := by
    cases p.proto <;> decide
  rw [Json.storable_obj, InventoryListenPortInfo.members, storable_members]
  · unfold InventoryListenPortInfo.texts
    simp only [List.forall_mem_cons]
    simp [hproto]
  · simp only [cleanKeys_cons, cleanKeys_nil]
    decide

lemma storable_boot (b : BootInfo) :
    (Json.obj b.members).Storable ↔ ∀ s ∈ b.texts, CleanText s := by
  rw [Json.storable_obj, BootInfo.members, storable_members]
  · unfold BootInfo.texts
    simp only [List.forall_mem_append, List.forall_mem_cons]
    simp [and_assoc]
  · simp only [cleanKeys_cons, cleanKeys_nil]
    decide

lemma storable_optionalBoot (b : Option BootInfo) :
    (Json.ofOption (fun b : BootInfo => .obj b.members) b).Storable ↔
      ∀ a ∈ b, ∀ s ∈ a.texts, CleanText s := by
  simp only [Json.storable_ofOption, storable_boot]

lemma storable_nonblockMount (m : NonblockMountInfo) :
    (Json.obj m.members).Storable ↔ ∀ s ∈ m.texts, CleanText s := by
  rw [Json.storable_obj, NonblockMountInfo.members, storable_members]
  · unfold NonblockMountInfo.texts
    simp only [List.forall_mem_append, List.forall_mem_cons]
    simp [and_assoc]
  · simp only [cleanKeys_cons, cleanKeys_nil]
    decide

end Documents

/-! ## The message -/

/-- The texts of what agents send with every message. -/
def AgentMessageBase.texts (data : AgentMessageBase) : List String :=
  textOf data.compositeId ++ textOf data.machineId ++ textOf data.agentVersion

def AgentMessageBase.times (data : AgentMessageBase) : List ℤ :=
  data.collectedAt :: (data.bootTime.toList ++ data.agentStartedAt.toList)

def InventoryInput.texts (data : InventoryInput) : List String :=
  data.toAgentMessageBase.texts ++ [data.hostname.1] ++ textOf data.osId ++ textOf data.osVersion ++
    textOf data.osCodename ++ textOf data.kernelVersion ++ textOf data.cpuModel ++
    textsOf data.ipExternal ++ textOf data.arch ++ textOf data.bootFirmware ++
    textOf data.edition ++ textOf data.productName ++ textOf data.timezone ++
    data.boot.toList.flatMap BootInfo.texts ++
    (data.nonblockMounts.getD []).flatMap NonblockMountInfo.texts ++
    data.blockDevices.flatMap BlockDeviceInfo.texts ++
    data.netInterfaces.flatMap NetInterfaceInfo.texts ++ data.lvmVgs.flatMap LvmVgInfo.texts ++
    (data.services.getD []).flatMap InventoryServiceInfo.texts ++
    data.listenPorts.flatMap InventoryListenPortInfo.texts

/-- Texts are clean, times have a date, and numbers are finite and in range. -/
@[mk_iff]
structure InventoryInput.Storable (data : InventoryInput) : Prop where
  texts : ∀ s ∈ data.texts, CleanText s
  times : ∀ t ∈ data.times, HasDate t
  bits : ∀ n ∈ data.bits, n < 2 ^ 31
  cpuCores : ∀ n ∈ data.cpuCores, n < 2 ^ 31
  memTotalBytes : ∀ n ∈ data.memTotalBytes, n < 2 ^ 63
  percents : ∀ v ∈ data.lvmVgs, ∀ p ∈ v.percents, p.isFinite = true

/-- What agents send with every message can be stored. -/
@[mk_iff]
structure AgentMessageBase.Storable (data : AgentMessageBase) : Prop where
  texts : ∀ s ∈ data.texts, CleanText s
  times : ∀ t ∈ data.times, HasDate t

section Rows

variable {minLength maxLength : ℕ} {name : String}

/-- The lengths of the wire are those of the columns. -/
lemma fits_wireText {s : Option (WireText minLength maxLength)} :
    (stringCell name maxLength (plainText s)).Fits ↔ ∀ a ∈ textOf s, CleanText a := by
  rw [fits_stringCell]
  cases s with
  | none => exact iff_of_true nofun (fun _ h => absurd h List.not_mem_nil)
  | some a =>
    have htext : textOf (some a) = [a.1] := rfl
    rw [htext, List.forall_mem_singleton]
    simp only [plainText, Option.map_some, Option.mem_def, Option.some.injEq, forall_eq']
    exact and_iff_right a.2.2

lemma fits_wireTexts {ss : Option (List String)} :
    (textsCell name ss).Fits ↔ ∀ s ∈ textsOf ss, CleanText s := by
  rw [fits_textsCell]
  cases ss with
  | none => exact iff_of_true nofun nofun
  | some a => simp only [Option.mem_def, Option.some.injEq, forall_eq', textsOf, Option.getD_some]

lemma fitsText_wireText {s : WireText minLength maxLength} :
    FitsText maxLength s.1 ↔ CleanText s.1 := and_iff_right s.2.2

lemma cleanText_uuid (s : UuidText) : CleanText s.1 := by
  have hchars : Char.ofNat 0 ∉ uuidChars := by decide
  exact fun hmem => hchars (s.2.2 _ hmem)

lemma fitsText_osFamily (f : OsFamily) : FitsText 16 f.text := by
  cases f
  · exact ⟨by decide, by decide⟩
  · exact ⟨by decide, by decide⟩

lemma cleanText_categories (u : Unicode) (services : Option (List InventoryService))
    (listenPorts : List ListenPort) :
    ∀ s ∈ computeServiceCategories u services listenPorts, CleanText s := by
  have hkeys : ∀ s ∈ categoryKeys, CleanText s := by decide
  exact fun s hs => hkeys s (computeServiceCategories_mem hs)

/-- The history has no column that the inventory does not have. -/
lemma fits_iff_inventory (data : Inbound.ServerInventoryCreate) :
    data.Fits ↔ (serverInventoryRow data).Fits := by
  constructor
  · exact fun h => h.inventory
  · intro h
    have hcells := h
    unfold serverInventoryRow at hcells
    rw [Row.fits_append] at hcells
    have hseen : (timeCell "last_seen_at" (some data.collectedAt)).Fits :=
      hcells.1 _ (by simp)
    refine ⟨h, ?_⟩
    unfold serverInventoryHistoryRow
    rw [Row.fits_cons]
    exact ⟨fits_collectedAtCell.mpr (fits_timeCell.mp hseen _ rfl), hcells.2⟩

/-- The rows of a host fit exactly when the message can be stored. -/
theorem fits_toInventoryCreate_iff (u : Unicode) (data : InventoryInput) :
    (toInventoryCreate u data).Fits ↔ data.Storable := by
  rw [fits_iff_inventory, InventoryInput.storable_iff]
  have hfamily : (stringCell "os_family" 16 (some data.osFamily.text)).Fits :=
    fitsText_osFamily data.osFamily
  have hcategories : ∀ s ∈ textsOf (some (toInventoryCreate u data).serviceCategories),
      CleanText s := cleanText_categories u _ _
  unfold toInventoryCreate at hcategories
  unfold serverInventoryRow hostColumns toInventoryCreate InventoryInput.texts
    AgentMessageBase.texts AgentMessageBase.times
  simp only [Row.fits_append, Row.fits_cons, Row.fits_nil, fits_requiredCell_uuid, fits_wireText,
    fits_wireTexts, fits_nameCell, fitsText_wireText, fits_timeCell,
    fits_flagCell, fits_intCell_integer, fits_intCell_bigInteger, fits_jsonCell,
    iff_true_intro hfamily, iff_true_intro hcategories]
  simp only [storable_objectsJson, storable_optionalObjectsJson, storable_blockDevice,
    storable_interface, storable_volumeGroup, storable_service, storable_listenPort,
    storable_optionalBoot, storable_nonblockMount, List.forall_mem_append, List.forall_mem_cons,
    List.forall_mem_flatMap, List.not_mem_nil, false_imp_iff, Option.mem_toList, Option.mem_def,
    Option.some.injEq, forall_eq', forall_and, implies_true, true_and, and_true]
  -- Both sides say the same of the same parts, in another order.
  tauto

/-- A host that is not known yet is entered with what its message says of it. -/
theorem fits_placeholderInventory_iff (data : AgentMessageBase) :
    (placeholderInventory data).Fits ↔ data.Storable := by
  rw [fits_iff_inventory, AgentMessageBase.storable_iff]
  have hfamily : (stringCell "os_family" 16 (some data.osFamily.text)).Fits :=
    fitsText_osFamily data.osFamily
  have hhostname : FitsText 255 data.agentId.1 :=
    ⟨by rw [data.agentId.2.1]; decide, cleanText_uuid data.agentId⟩
  have hno : ∀ {length : ℕ} {name : String}, (stringCell name length none).Fits := rfl
  unfold serverInventoryRow hostColumns placeholderInventory AgentMessageBase.texts
    AgentMessageBase.times
  simp only [Row.fits_append, Row.fits_cons, Row.fits_nil, fits_requiredCell_uuid, fits_wireText,
    fits_wireTexts, fits_nameCell, fits_timeCell, fits_flagCell, fits_intCell, fits_jsonCell,
    iff_true_intro hfamily, iff_true_intro hhostname, hno, textsOf, Option.getD_none,
    Option.getD_some, Json.storable_arr, Json.storable_null, List.forall_mem_append,
    List.forall_mem_cons, List.not_mem_nil, false_imp_iff, Option.mem_toList, Option.mem_def,
    Option.some.injEq, forall_eq', Option.map_none, reduceCtorEq, implies_true, true_and,
    and_true]
  tauto

end Rows

end AssessmentEngine
