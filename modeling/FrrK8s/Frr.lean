import FrrK8s.Community
/-!
# Frr — the configuration handed to FRR (`internal/frr/config.go`)

`Config` and its parts, the identifier of a neighbor and the names of its prefix lists.  A `sets.Set[string]` is a
`SortedSet`, whose list is what `sets.List` returns.
-/
namespace FrrK8s

structure IncomingFilter where
  ipFamily : Family := .unknown
  pfx : String := ""
  le : Nat := 0
  ge : Nat := 0
deriving DecidableEq, Repr

namespace IncomingFilter

def lessThan (i i1 : IncomingFilter) : Bool :=
  if i.ipFamily ≠ i1.ipFamily then i.ipFamily.string < i1.ipFamily.string
  else if i.pfx ≠ i1.pfx then i.pfx < i1.pfx
  else if i.le ≠ i1.le then i.le < i1.le
  else i.ge < i1.ge

def matcher (i : IncomingFilter) : String :=
  (if i.le ≠ 0 then s!" le {i.le}" else "") ++ (if i.ge ≠ 0 then s!" ge {i.ge}" else "")

end IncomingFilter

structure AllowedIn where
  all : Bool := false
  prefixesV4 : List IncomingFilter := []
  prefixesV6 : List IncomingFilter := []
deriving DecidableEq, Repr

def AllowedIn.allPrefixes (a : AllowedIn) : List IncomingFilter := a.prefixesV4 ++ a.prefixesV6

/-- `PrefixList`; `ipFamily` is FRR's keyword, `ip` or `ipv6`. -/
structure PrefixList where
  name : String
  ipFamily : String
  prefixes : SortedSet String
deriving DecidableEq

structure LocalPrefPrefixList extends PrefixList where
  localPref : Nat
deriving DecidableEq

structure CommunityPrefixList extends PrefixList where
  community : BGPCommunity
deriving DecidableEq

structure AllowedOut where
  prefixesV4 : List String := []
  prefixesV6 : List String := []
  nextHopV4 : String := ""
  nextHopV6 : String := ""
  localPrefPrefixesModifiers : List LocalPrefPrefixList := []
  communityPrefixesModifiers : List CommunityPrefixList := []
deriving DecidableEq

structure NeighborConfig where
  ipFamily : Family := .unknown
  name : String := ""
  asn : String := ""
  srcAddr : String := ""
  addr : String := ""
  iface : String := ""
  port : Option Nat := none
  holdTime : Option Int := none
  keepaliveTime : Option Int := none
  connectTime : Option Int := none
  password : String := ""
  bfdProfile : String := ""
  gracefulRestart : Bool := false
  ebgpMultiHop : Bool := false
  localASN : Nat := 0
  vrfName : String := ""
  incoming : AllowedIn := {}
  outgoing : AllowedOut := {}
  alwaysBlock : List IncomingFilter := []
  addressFamilies : Slice String := none
deriving DecidableEq

namespace NeighborConfig

def id (n : NeighborConfig) : String :=
  (if n.iface ≠ "" then n.iface else n.addr) ++ (if n.vrfName ≠ "" then "-" ++ n.vrfName else "")

def toAdvertisePrefixListV4 (n : NeighborConfig) : String := s!"{n.id}-allowed-ipv4"

def toAdvertisePrefixListV6 (n : NeighborConfig) : String := s!"{n.id}-allowed-ipv6"

end NeighborConfig

structure VNIProperties where
  rd : String := ""
  importRTs : Slice String := none
  exportRTs : Slice String := none
deriving DecidableEq, Repr

structure L2VNI where
  vni : Nat := 0
  properties : VNIProperties := {}
deriving DecidableEq, Repr

structure L3VNI where
  vni : Nat := 0
  properties : VNIProperties := {}
  advertisePrefixes : Slice String := none
deriving DecidableEq, Repr

structure EVPNConfig where
  advertiseVNIs : Option String := none
  advertiseSVI : Bool := false
  l2vnis : Slice L2VNI := none
  l3vni : Option L3VNI := none
deriving DecidableEq, Repr

/-- The neighbors behind the slice's pointers; `Merge` says where two slices share them. -/
structure RouterConfig where
  myASN : Nat := 0
  routerID : String := ""
  neighbors : List NeighborConfig := []
  vrf : String := ""
  ipv4Prefixes : List String := []
  ipv6Prefixes : List String := []
  importVRFs : List String := []
  evpn : Option EVPNConfig := none
deriving DecidableEq

structure BFDProfile where
  name : String := ""
  receiveInterval : Option Nat := none
  transmitInterval : Option Nat := none
  detectMultiplier : Option Nat := none
  echoInterval : Option Nat := none
  echoMode : Bool := false
  passiveMode : Bool := false
  minimumTTL : Option Nat := none
deriving DecidableEq, Repr

structure Config where
  loglevel : String := ""
  hostname : String := ""
  routers : List RouterConfig := []
  bfdProfiles : List BFDProfile := []
  extraConfig : String := ""
deriving DecidableEq

end FrrK8s
