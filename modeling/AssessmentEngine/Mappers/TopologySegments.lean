import AssessmentEngine.Library.NetworkText
import AssessmentEngine.Mappers.TopologyGraph

/-!
# The segments of a subnet

A host is counted in a subnet by the first of its eligible addresses there (`firstIn`).  The
segments of the topology are those that the counted memberships of each subnet are split into
(`survivingSegments_eq`); their keys differ, so that none takes the place of another.
-/

namespace AssessmentEngine

open IpAddress SetDefault

/-- What the addresses of a host give, in the order of its interfaces and their addresses. -/
def TopologyHost.eligible (h : TopologyHost) : List (Network × Member) :=
  h.interfaces.flatMap fun iface => iface.addresses.filterMap (membership h.publicId iface)

/-- The membership by which a host is counted in a subnet. -/
def TopologyHost.firstIn (h : TopologyHost) (subnet : String) : Option (Network × Member) :=
  h.eligible.find? fun m => m.1.text == subnet

/-- The memberships that are counted in a subnet. -/
def countedIn (hosts : List TopologyHost) (subnet : String) : List (Network × Member) :=
  hosts.filterMap fun h => h.firstIn subnet

/-- The segments that a subnet is split into. -/
def segmentsIn (hosts : List TopologyHost) (subnet : String) : List Segment :=
  match countedIn hosts subnet with
  | [] => []
  | first :: rest => splitByGateway subnet first.1 ((first :: rest).map Prod.snd)

/-- The subnets, in the order in which they are met. -/
def subnetsOf (hosts : List TopologyHost) : List String := (subnetMembers hosts).map Prod.fst

/-! ## Counting -/

lemma firstIn_eq_some {h : TopologyHost} {subnet : String} {m : Network × Member}
    (hfirst : h.firstIn subnet = some m) : m ∈ h.eligible ∧ m.1.text = subnet :=
  ⟨List.mem_of_find?_eq_some hfirst, by simpa using List.find?_some hfirst⟩

lemma eligible_spec {h : TopologyHost} {m : Network × Member} (hm : m ∈ h.eligible) :
    ∃ iface ∈ h.interfaces, ∃ a ∈ iface.addresses, membership h.publicId iface a = some m := by
  obtain ⟨iface, hiface, hm⟩ := List.mem_flatMap.mp hm
  obtain ⟨a, ha, hmembership⟩ := List.mem_filterMap.mp hm
  exact ⟨iface, hiface, a, ha, hmembership⟩

lemma eligible_pid {h : TopologyHost} {m : Network × Member} (hm : m ∈ h.eligible) :
    m.2.pid = h.publicId := by
  obtain ⟨iface, -, a, -, hmembership⟩ := eligible_spec hm
  exact membership_pid hmembership

/-- A membership comes from an interface of an address in its network, with the gateway of the
interface. -/
lemma membership_eq_some {pid : String} {iface : TopologyInterface} {a : TopologyAddress}
    {m : Network × Member} (h : membership pid iface a = some m) :
    m.1.address.ScopeOk ∧ m.2.gateway = iface.gateway := by
  unfold membership at h
  split_ifs at h
  obtain ⟨addr, -, h⟩ := Option.bind_eq_some_iff.mp h
  obtain ⟨prefixLength, -, h⟩ := Option.bind_eq_some_iff.mp h
  obtain ⟨⟨ip, network⟩, hparse, h⟩ := Option.bind_eq_some_iff.mp h
  simp only at h
  split_ifs at h
  rw [← Option.some_inj.mp h]
  exact ⟨parseInterface_scopeOk hparse, rfl⟩

lemma eligible_scopeOk {h : TopologyHost} {m : Network × Member} (hm : m ∈ h.eligible) :
    m.1.address.ScopeOk := by
  obtain ⟨iface, -, a, -, hmembership⟩ := eligible_spec hm
  exact (membership_eq_some hmembership).1

/-- Of the memberships of a host, the one in a subnet is that by which it is counted. -/
lemma filter_memberships (h : TopologyHost) (subnet : String) :
    (h.memberships.filter fun m => m.1.text == subnet) = (h.firstIn subnet).toList := by
  have hkeys : ∀ e ∈ fill (fun m : Network × Member => m.1.text) (fun m => m)
      (fun _ first => first) h.eligible [], e.2.1.text = e.1 :=
    forall_fill (by simp) (fun _ _ => rfl) (fun _ _ _ h => h)
  calc
    (h.memberships.filter fun m => m.1.text == subnet) =
        ((fill (fun m : Network × Member => m.1.text) (fun m => m) (fun _ first => first)
          h.eligible []).lookup subnet).toList :=
      filter_values (nodup_fill h.eligible (by simp)) hkeys subnet
    _ = (h.firstIn subnet).toList := by
      rw [lookup_fill_first]
      rfl

lemma filter_flatMap_memberships (hosts : List TopologyHost) (subnet : String) :
    ((hosts.flatMap TopologyHost.memberships).filter fun m => m.1.text == subnet) =
      countedIn hosts subnet := by
  rw [List.filter_flatMap, countedIn, List.filterMap_eq_flatMap_toList]
  exact List.flatMap_congr fun h _ => filter_memberships h subnet

/-- A subnet has the memberships that are counted in it, under the network of the first. -/
lemma lookup_subnetMembers (hosts : List TopologyHost) (subnet : String) :
    (subnetMembers hosts).lookup subnet = (countedIn hosts subnet).head?.map fun first =>
      (first.1, (countedIn hosts subnet).map Prod.snd) := by
  rw [← filter_flatMap_memberships]
  exact lookup_fill_gather (hosts.flatMap TopologyHost.memberships) subnet

lemma mem_countedIn {hosts : List TopologyHost} {subnet : String} {m : Network × Member}
    (hm : m ∈ countedIn hosts subnet) : m.1.text = subnet ∧ m.1.address.ScopeOk := by
  obtain ⟨h, -, hfirst⟩ := List.mem_filterMap.mp hm
  obtain ⟨helig, htext⟩ := firstIn_eq_some hfirst
  exact ⟨htext, eligible_scopeOk helig⟩

lemma nodup_subnetsOf (hosts : List TopologyHost) : (subnetsOf hosts).Nodup :=
  nodup_fill _ List.nodup_nil

lemma mem_subnetsOf {hosts : List TopologyHost} {subnet : String} :
    subnet ∈ subnetsOf hosts ↔ countedIn hosts subnet ≠ [] := by
  have hlookup : subnet ∈ subnetsOf hosts ↔
      ((subnetMembers hosts).lookup subnet).isSome = true := by
    rw [List.lookup_isSome_iff, subnetsOf, List.mem_map]
    exact exists_congr fun e => and_congr_right fun _ => by rw [beq_iff_eq, eq_comm]
  rw [hlookup, lookup_subnetMembers, Option.isSome_map, List.isSome_head?]

/-! ## Splitting -/

lemma mem_segmentsIn {hosts : List TopologyHost} {subnet : String} {s : Segment}
    (hs : s ∈ segmentsIn hosts subnet) :
    subnet ∈ subnetsOf hosts ∧ ∃ first ∈ countedIn hosts subnet,
      s ∈ splitByGateway subnet first.1 ((countedIn hosts subnet).map Prod.snd) := by
  unfold segmentsIn at hs
  rw [mem_subnetsOf]
  split at hs
  · exact absurd hs List.not_mem_nil
  · rename_i first rest hcounted
    rw [hcounted]
    exact ⟨by simp, first, List.mem_cons_self, hs⟩

/-- The entries of the subnets are split into their segments. -/
lemma flatMap_splitByGateway (hosts : List TopologyHost) :
    ((subnetMembers hosts).flatMap fun s => splitByGateway s.1 s.2.1 s.2.2) =
      (subnetsOf hosts).flatMap (segmentsIn hosts) := by
  rw [subnetsOf, List.flatMap_map]
  refine List.flatMap_congr fun e he => ?_
  have hlookup := (lookup_eq_some_iff_mem (nodup_subnetsOf hosts)).mpr he
  rw [lookup_subnetMembers] at hlookup
  unfold segmentsIn
  cases hcounted : countedIn hosts e.1 with
  | nil => simp [hcounted] at hlookup
  | cons first rest =>
    rw [hcounted, List.head?_cons, Option.map_some, Option.some_inj] at hlookup
    rw [← hlookup]

/-- The key of a part of a subnet. -/
def partKey (subnet gw : String) : String := subnet ++ "#" ++ gw

lemma toList_partKey (subnet gw : String) :
    (partKey subnet gw).toList = subnet.toList ++ '#' :: gw.toList := by
  rw [partKey, String.toList_append, String.toList_append, List.append_assoc]
  rfl

/-- A segment is the whole of a subnet or one of its parts. -/
lemma splitByGateway_netKey {subnet : String} {network : Network} {members : List Member}
    {s : Segment} (hs : s ∈ splitByGateway subnet network members) :
    s.netKey = subnet ∨ ∃ gw, s.netKey = partKey subnet gw := by
  unfold splitByGateway at hs
  simp only at hs
  split_ifs at hs
  · obtain ⟨gw, -, rfl⟩ := List.mem_map.mp hs
    exact .inr ⟨gw, rfl⟩
  · rw [List.mem_singleton.mp hs]
    exact .inl rfl

lemma splitByGateway_nodup (subnet : String) (network : Network) (members : List Member) :
    ((splitByGateway subnet network members).map Segment.netKey).Nodup := by
  unfold splitByGateway
  simp only
  split_ifs
  · rw [List.map_map]
    refine List.Nodup.map ?_ ?_
    · intro gw gw' h
      exact (String.append_right_inj _).mp h
    · exact (List.perm_insertionSort _ _).nodup_iff.mpr (List.nodup_dedup _)
  · exact List.nodup_singleton _

/-- The subnet of a segment can be read from its key. -/
lemma segmentsIn_netKey_inj {hosts hosts' : List TopologyHost} {subnet subnet' : String}
    {s s' : Segment} (hs : s ∈ segmentsIn hosts subnet) (hs' : s' ∈ segmentsIn hosts' subnet')
    (hkey : s.netKey = s'.netKey) : subnet = subnet' := by
  obtain ⟨-, first, hfirst, hs⟩ := mem_segmentsIn hs
  obtain ⟨-, first', hfirst', hs'⟩ := mem_segmentsIn hs'
  obtain ⟨rfl, hscope⟩ := mem_countedIn hfirst
  obtain ⟨rfl, hscope'⟩ := mem_countedIn hfirst'
  have hlists := congrArg String.toList hkey
  rcases splitByGateway_netKey hs with hs | ⟨gw, hs⟩ <;>
    rcases splitByGateway_netKey hs' with hs' | ⟨gw', hs'⟩ <;> rw [hs, hs'] at hlists
  · exact String.toList_inj.mp hlists
  · rw [toList_partKey] at hlists
    exact absurd hlists (text_ne_mark hscope hscope' rfl _)
  · rw [toList_partKey] at hlists
    exact absurd hlists.symm (text_ne_mark hscope' hscope rfl _)
  · rw [toList_partKey, toList_partKey] at hlists
    exact (text_mark_inj hscope hscope' rfl hlists).1

lemma nodup_netKeys (hosts : List TopologyHost) :
    (((subnetsOf hosts).flatMap (segmentsIn hosts)).map Segment.netKey).Nodup := by
  rw [List.map_flatMap, List.nodup_flatMap]
  constructor
  · intro subnet _
    unfold segmentsIn
    split
    · exact List.nodup_nil
    · exact splitByGateway_nodup _ _ _
  · refine (nodup_subnetsOf hosts).imp fun {subnet subnet'} hne => ?_
    intro key hkey hkey'
    obtain ⟨s, hs, rfl⟩ := List.mem_map.mp hkey
    obtain ⟨s', hs', heq⟩ := List.mem_map.mp hkey'
    exact hne (segmentsIn_netKey_inj hs hs' heq.symm)

/-- The surviving segments are those of two or more hosts that the subnets are split into. -/
lemma survivingSegments_eq (hosts : List TopologyHost) :
    (survivingSegments hosts).map Prod.snd =
      ((subnetsOf hosts).flatMap (segmentsIn hosts)).filter fun s => 2 ≤ s.members.length := by
  have hnodup : ((((subnetsOf hosts).flatMap (segmentsIn hosts)).filter
      fun s => 2 ≤ s.members.length).map Segment.netKey).Nodup :=
    (nodup_netKeys hosts).sublist (List.filter_sublist.map _)
  rw [survivingSegments, flatMap_splitByGateway, fill_eq_map hnodup, List.map_map]
  exact List.map_id _

end AssessmentEngine
