import Mathlib.Data.List.Sort
import Mathlib.Data.Prod.Lex
import AssessmentEngine.Library.IpAddress
import AssessmentEngine.Library.SetDefault
import AssessmentEngine.Reports.ServiceCatalog

/-!
# The network topology

`build_network_topology` groups the addresses of all hosts by subnet, splits a subnet that names
several gateways, drops what is left with a single host, and makes nodes, edges, counts and tables
of the rest.  All of these are made of one list of segments.
-/

namespace AssessmentEngine

open IpAddress SetDefault

/-! ## Hosts -/

structure TopologyAddress where
  family : Option String
  address : Option String
  prefixLength : Option ℤ
  origin : Option String
  deriving DecidableEq, Repr

structure TopologyInterface where
  name : Option String
  id : Option String
  idType : Option String
  kind : Option String
  mtu : Option ℤ
  speedMbps : Option ℤ
  gateway : Option String
  addresses : List TopologyAddress
  deriving DecidableEq, Repr

/-- `outbound.ServerDetail`, as far as the topology reads it. -/
structure TopologyHost where
  id : ℤ
  publicId : String
  hostname : String
  osFamily : Option String
  serviceCategories : Option (List String)
  netInterfaces : List TopologyInterface
  deriving DecidableEq, Repr

/-! ## Subnets -/

/-- `_Member`. -/
structure Member where
  pid : String
  ip : String
  gateway : Option String
  origin : Option String
  mtu : Option ℤ
  speedMbps : Option ℤ
  deriving DecidableEq, Repr

/-- `is_virtual_interface`. -/
def isVirtualInterface (kind : Option String) : Bool :=
  decide (kind ≠ some "physical" ∧ kind ≠ some "bond_master")

/-- The network and the membership that an address gives. -/
def membership (pid : String) (iface : TopologyInterface) (a : TopologyAddress) :
    Option (Network × Member) :=
  if a.family ≠ some "ipv4" then none
  else do
    let addr ← a.address
    let prefixLength ← a.prefixLength
    let (ip, network) ← parseInterface addr prefixLength
    if ip.isLoopback || ip.isLinkLocal then none
    else if prefixLength = 0 ∨ 32 ≤ prefixLength then none
    else some (network, ⟨pid, ip.text, iface.gateway, a.origin, iface.mtu, iface.speedMbps⟩)

/-- The interfaces that are not virtual. -/
def TopologyHost.interfaces (h : TopologyHost) : List TopologyInterface :=
  h.netInterfaces.filter fun iface => !isVirtualInterface iface.kind

/-- The memberships of a host, the first in each subnet (`seen_nets`). -/
def TopologyHost.memberships (h : TopologyHost) : List (Network × Member) :=
  let found := h.interfaces.flatMap fun iface =>
    iface.addresses.filterMap (membership h.publicId iface)
  (fill (fun m => m.1.text) (fun m => m) (fun _ first => first) found []).map Prod.snd

/-- `subnet_members`, with the network that each key is the text of. -/
def subnetMembers (hosts : List TopologyHost) : List (String × (Network × List Member)) :=
  fill (fun m => m.1.text) (fun m => (m.1, [])) (fun m subnet => (subnet.1, subnet.2 ++ [m.2]))
    (hosts.flatMap TopologyHost.memberships) []

/-- What `surviving`, `seg_member`, `net_cidr`, `net_label` and `net_gateway` hold for a key. -/
structure Segment where
  netKey : String
  label : String
  network : Network
  gateway : Option String
  members : List (String × Member)
  deriving DecidableEq, Repr

/-- `by_pid`: the first member of each host. -/
def byPid (members : List Member) : List (String × Member) :=
  fill Member.pid (fun m => m) (fun _ first => first) members []

/-- `gws`. -/
def gatewaysOf (members : List Member) : List String :=
  (members.filterMap fun m => m.gateway.filter (· ≠ "")).dedup

/-- A subnet, or its parts by gateway when it names several. -/
def splitByGateway (subnet : String) (network : Network) (members : List Member) : List Segment :=
  let gws := gatewaysOf members
  if 2 ≤ gws.length then
    (gws.insertionSort (· ≤ ·)).map fun gw =>
      { netKey := subnet ++ "#" ++ gw
        label := subnet ++ " (via " ++ gw ++ ")"
        network
        gateway := some gw
        members := byPid (members.filter fun m => m.gateway = some gw) }
  else
    [{ netKey := subnet, label := subnet, network, gateway := gws.head?, members := byPid members }]

/-- The segments of two or more hosts, under their keys. -/
def survivingSegments (hosts : List TopologyHost) : List (String × Segment) :=
  let parts := (subnetMembers hosts).flatMap fun s => splitByGateway s.1 s.2.1 s.2.2
  fill Segment.netKey (fun s => s) (fun s _ => s) (parts.filter fun s => 2 ≤ s.members.length) []

/-- `ordered_nets`; networks of different versions cannot be compared, and `sorted` raises. -/
def orderedNets (segments : List Segment) : Option (List Segment) :=
  if segments.Pairwise fun a b => a.network.address.version = b.network.address.version then
    some (segments.insertionSort fun a b => b.network.lt a.network = false)
  else none

/-- `surviving[net_key]`. -/
def Segment.pids (s : Segment) : List String :=
  (s.members.map Prod.fst).insertionSort (· ≤ ·)

/-! ## The graph -/

/-- A physical interface as it is shown at a node. -/
structure IfaceSummary where
  name : Option String
  mac : Option String
  mtu : Option ℤ
  gateway : Option String
  deriving DecidableEq, Repr

/-- `elements`: three kinds of nodes and two kinds of edges. -/
inductive Element
  | subnet (id label : String) (hostCount : ℕ) (gateway : Option String)
  | route (source target : String)
  | gateway (id label : String) (subnetCount : ℕ)
  | host (id label publicId osFamily : String) (roles : List String) (multiHomed : Bool)
      (ifaces : List IfaceSummary)
  | member (source target : String)
  deriving DecidableEq, Repr

structure SubnetHost where
  hostname : String
  ip : String
  osFamily : String
  publicId : String
  roles : List String
  origin : Option String
  mtu : Option ℤ
  speedMbps : Option ℤ
  isOnline : Bool
  multiHomed : Bool
  deriving DecidableEq, Repr

structure SubnetGroup where
  netKey : String
  hostCount : ℕ
  gateway : Option String
  hosts : List SubnetHost
  deriving DecidableEq, Repr

structure NetworkTopology where
  elements : List Element
  subnetCount : ℕ
  hostCount : ℕ
  multiHomedCount : ℕ
  isolatedCount : ℤ
  routerCount : ℕ
  subnets : List SubnetGroup
  hasData : Bool
  deriving DecidableEq, Repr

def subnetId (netKey : String) : String := "subnet:" ++ netKey
def gatewayId (gw : String) : String := "gw:" ++ gw
def hostId (pid : String) : String := "host:" ++ pid

/-- What the dictionaries `host_id`, `host_meta`, `host_roles` and `host_ifaces` hold for a host;
a later host with the same id takes its place. -/
def hostOf (hosts : List TopologyHost) (pid : String) : Option TopologyHost :=
  hosts.reverse.find? fun h => decide (h.publicId = pid)

def TopologyHost.family (h : TopologyHost) : String :=
  (h.osFamily.filter (· ≠ "")).getD "unknown"

/-- The roles that the graph shows. -/
def TopologyHost.roles (h : TopologyHost) : List String :=
  ((h.serviceCategories.getD []).filter fun c => decide (c ∈ signatureCategories)).insertionSort
    (· ≤ ·)

def TopologyHost.ifaceSummaries (h : TopologyHost) : List IfaceSummary :=
  h.interfaces.map fun iface =>
    { name := iface.name
      mac := if iface.idType = some "mac" then iface.id else none
      mtu := iface.mtu
      gateway := iface.gateway }

section Graph

variable (hosts : List TopologyHost) (onlineById : Option (List (ℤ × Bool)))
  (ordered : List Segment)

/-- `host_subnet_count`. -/
def hostSubnetCount (pid : String) : ℕ :=
  ordered.countP fun s => decide (pid ∈ s.pids)

/-- `graph_hosts`. -/
def graphHosts : List String := (ordered.flatMap Segment.pids).dedup

/-- `gw_subnet_count`. -/
def gwSubnetCount (gw : String) : ℕ :=
  ordered.countP fun s => decide (s.gateway = some gw)

/-- `shared_gws`, sorted. -/
def sharedGws : List String :=
  (((ordered.filterMap fun s => s.gateway.filter (· ≠ "")).dedup).filter fun gw =>
    decide (2 ≤ gwSubnetCount ordered gw)).insertionSort (· ≤ ·)

/-- The node of a subnet, and the route to its gateway when that is shared. -/
def subnetElements (s : Segment) : List Element :=
  .subnet (subnetId s.netKey) s.label s.pids.length s.gateway ::
    (s.gateway.toList.filter fun gw => decide (gw ∈ sharedGws ordered)).map fun gw =>
      .route (gatewayId gw) (subnetId s.netKey)

def gatewayElement (gw : String) : Element :=
  .gateway (gatewayId gw) gw (gwSubnetCount ordered gw)

def hostElement (pid : String) : Element :=
  let h := hostOf hosts pid
  .host (hostId pid) ((h.map TopologyHost.hostname).getD "") pid
    ((h.map TopologyHost.family).getD "unknown") ((h.map TopologyHost.roles).getD [])
    (decide (2 ≤ hostSubnetCount ordered pid)) ((h.map TopologyHost.ifaceSummaries).getD [])

def memberElements (s : Segment) : List Element :=
  s.pids.map fun pid => .member (hostId pid) (subnetId s.netKey)

/-- `_subnet_host_sort_key`. -/
def subnetHostSortKey (host : SubnetHost) : ℕ × ℕ :=
  match parseAddress host.ip with
  | some a => (0, a.number)
  | none => (1, 0)

def subnetHost (s : Segment) (pid : String) : SubnetHost :=
  let h := hostOf hosts pid
  let m := s.members.lookup pid
  { hostname := (h.map TopologyHost.hostname).getD ""
    ip := (m.map Member.ip).getD ""
    osFamily := (h.map TopologyHost.family).getD "unknown"
    publicId := pid
    roles := (h.map TopologyHost.roles).getD []
    origin := m.bind Member.origin
    mtu := m.bind Member.mtu
    speedMbps := m.bind Member.speedMbps
    isOnline := ((h.bind fun h => (onlineById.getD []).lookup h.id)).getD false
    multiHomed := decide (2 ≤ hostSubnetCount ordered pid) }

def subnetGroup (s : Segment) : SubnetGroup :=
  let hostsList := (s.pids.map (subnetHost hosts onlineById ordered s)).insertionSort fun a b =>
    toLex (subnetHostSortKey a) ≤ toLex (subnetHostSortKey b)
  { netKey := s.label, hostCount := hostsList.length, gateway := s.gateway, hosts := hostsList }

/-- The graph of the segments. -/
def topologyOf : NetworkTopology where
  elements :=
    ordered.flatMap (subnetElements ordered) ++ (sharedGws ordered).map (gatewayElement ordered) ++
      ((graphHosts ordered).insertionSort (· ≤ ·)).map (hostElement hosts ordered) ++
        ordered.flatMap memberElements
  subnetCount := ordered.length
  hostCount := (graphHosts ordered).length
  multiHomedCount := (graphHosts ordered).countP fun pid => 2 ≤ hostSubnetCount ordered pid
  isolatedCount :=
    ((hosts.map TopologyHost.publicId).dedup.length : ℤ) - (graphHosts ordered).length
  routerCount := (sharedGws ordered).length
  subnets := ordered.map (subnetGroup hosts onlineById ordered)
  hasData := !ordered.isEmpty

end Graph

/-- `build_network_topology`. -/
def buildNetworkTopology (hosts : List TopologyHost) (onlineById : Option (List (ℤ × Bool))) :
    Option NetworkTopology :=
  (orderedNets ((survivingSegments hosts).map Prod.snd)).map (topologyOf hosts onlineById)

end AssessmentEngine
