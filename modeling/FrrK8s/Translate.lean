import FrrK8s.Merge
import Mathlib.Data.List.Sort
/-!
# Translate — from the resources to FRR's configuration (`internal/controller/api_to_config.go`)

`apiToFRR` with every check on the way and the texts of their errors.  A loop that may fail is a `foldlM` or a `forM`.
Go walks a map in no fixed order: the functions that do take it as a `RangeOrder`.  One order for a whole run is enough,
as the first range in which a check fails is the last one.
-/
namespace FrrK8s

/-! ## Neighbors: identity, family, password, timers -/

def asnFor (n : Neighbor) : String := if n.dynamicASN ≠ "" then n.dynamicASN else toString n.asn

def neighborName (n : Neighbor) : String :=
  if n.address = "" then s!"{asnFor n}@{n.interface}" else s!"{asnFor n}@{n.address}"

def internalASNMode : String := "internal"
def externalASNMode : String := "external"

def addressFamilyForNeighbor (n : Neighbor) : Result Family := do
  let neighborFamily ← (if n.address ≠ "" then
      match forAddresses n.address with
      | .ok f => .ok f
      | .error e => fail s!"failed to find ipfamily for {n.address}, {e}"
    else .ok Family.unknown : Result Family)
  return if n.interface ≠ "" ∨ n.dualStackAddressFamily then .dual else neighborFamily

def secretTypeBasicAuth : String := "kubernetes.io/basic-auth"

def passwordForNeighbor (n : Neighbor) (passwordSecrets : SortedMap String Secret) : Result String :=
  if n.password ≠ "" ∧ n.passwordSecret ≠ "" then
    fail s!"neighbor {neighborName n} specifies both cleartext password and secret ref"
  else if n.password ≠ "" then .ok n.password
  else if n.passwordSecret = "" then .ok ""
  else
    match passwordSecrets.find? n.passwordSecret with
    | none => .error ⟨s!"secret {n.passwordSecret} not found for neighbor {neighborName n}", true⟩
    | some secret =>
      if secret.type ≠ secretTypeBasicAuth then
        fail (s!"secret type mismatch on {quote secret.ns}/{quote secret.name}, " ++
          s!"type {quote secretTypeBasicAuth} is expected ")
      else
        match secret.data.find? "password" with
        | none => fail s!"password field not specified in the secret {quote secret.ns}/{quote secret.name}"
        | some srcPass => .ok srcPass

/-- A second in nanoseconds. -/
def second : Int := 1000000000

/-- `int64(d / time.Second)`: division truncates toward zero. -/
def seconds (d : Int) : Int := d.tdiv second

def parseTimers (ht ka : Option Int) : Result (Option Int × Option Int) :=
  match ht, ka with
  | none, none => .ok (none, none)
  | some ht, some ka => do
    reject (seconds ht * second ≠ 0 ∧ seconds ht * second < 3 * second)
      s!"invalid hold time {quote (durationPtrText ht)}: must be 0 or >=3s"
    reject (ht < ka)
      s!"invalid keepaliveTime {quote (durationPtrText ka)}, must be lower than holdTime {quote (durationPtrText ht)}"
    return (some (seconds ht), some (seconds ka))
  | _, _ => fail "one of KeepaliveTime/HoldTime specified, both must be set or none"

/-! ## What a neighbor advertises -/

def neighborHasIPFamily (neighbor : NeighborConfig) (ipFamily : Family) : Bool :=
  neighbor.ipFamily = .dual || neighbor.ipFamily = ipFamily

def frrIPFamily (ipFamily : Family) : String := if ipFamily = .ipv6 then "ipv6" else "ip"

def localPrefPrefixListName (neighborID : String) (localPreference : Nat) (ipFamily : String) : String :=
  s!"{neighborID}-{localPreference}-{ipFamily}-localpref-prefixes"

def communityPrefixListName (neighborID : String) (comm : BGPCommunity) (ipFamily : String) : String :=
  if Community.isLarge comm then s!"{neighborID}-large:{Community.string comm}-{ipFamily}-community-prefixes"
  else s!"{neighborID}-{Community.string comm}-{ipFamily}-community-prefixes"

def prefixesToAdvertiseForFamily (toAdvertise : Advertise) (prefixesInRouter : List String) (ipFamily : Family) :
    SortedSet String :=
  if toAdvertise.allowed.mode = .all then SortedSet.ofList (filterPrefixes prefixesInRouter ipFamily)
  else SortedSet.ofList (toAdvertise.allowed.prefixes.filter (fun p => forCIDRString p = ipFamily))

def nextHopToFRR (neighbor : NeighborConfig) (nextHop : NextHop) : Result (String × String) := do
  if nextHop.ipv4 ≠ "" then do
    reject ((Net.parseIP nextHop.ipv4).bind Net.to4 = none)
      s!"invalid ipv4 next hop {quote nextHop.ipv4} for neighbor {neighbor.name}"
    reject (¬ neighborHasIPFamily neighbor .ipv4)
      s!"ipv4 next hop {quote nextHop.ipv4} set for neighbor {neighbor.name} without an ipv4 address family"
  if nextHop.ipv6 ≠ "" then do
    reject (Net.parseIP nextHop.ipv6 = none ∨ (Net.parseIP nextHop.ipv6).bind Net.to4 ≠ none)
      s!"invalid ipv6 next hop {quote nextHop.ipv6} for neighbor {neighbor.name}"
    reject (¬ neighborHasIPFamily neighbor .ipv6)
      s!"ipv6 next hop {quote nextHop.ipv6} set for neighbor {neighbor.name} without an ipv6 address family"
  return (nextHop.ipv4, nextHop.ipv6)

/-- One prefix of a property's list: it must be advertised, and once. -/
def addPrefix (routerPrefixes : SortedSet String) (missing repeated : String → String) (s : SortedSet String)
    (p : String) : Result (SortedSet String) := do
  reject (p ∉ routerPrefixes) (missing p)
  reject (p ∈ s) (repeated p)
  return s.insert p

/-- The body of the loops of `prefixesWithLocalPrefToFRR` and `prefixesWithCommunityToFRR`: the prefixes of one
property and one family become a list under `key`, unless there are none. -/
def addPrefixList {α : Type} (key : String) (mk : SortedSet String → α) (ipfamilyPrefixes : List String)
    (routerPrefixes : SortedSet String) (defined : String) (missing repeated : String → String)
    (toAdd : SortedMap String α) : Result (SortedMap String α) := do
  reject (toAdd.find? key ≠ none) defined
  if ipfamilyPrefixes = [] then return toAdd
  let s ← ipfamilyPrefixes.foldlM (addPrefix routerPrefixes missing repeated) .empty
  return toAdd.insert key (mk s)

def prefixesWithLocalPrefToFRR (toAdd : SortedMap String LocalPrefPrefixList) (neighbor : NeighborConfig)
    (toAdvertise : Advertise) (ipFamily : Family) (routerPrefixes : SortedSet String) :
    Result (SortedMap String LocalPrefPrefixList) :=
  toAdvertise.prefixesWithLocalPref.foldlM (fun toAdd x =>
    addPrefixList (localPrefPrefixListKey x.localPref (frrIPFamily ipFamily))
      (fun s => {
        name := localPrefPrefixListName neighbor.id x.localPref (frrIPFamily ipFamily)
        ipFamily := frrIPFamily ipFamily
        prefixes := s
        localPref := x.localPref })
      (filterPrefixes x.prefixes ipFamily) routerPrefixes
      s!"local preference {x.localPref} is already defined"
      (fun p => s!"localPref {x.localPref} associated to non existing prefix {p}")
      (fun p => s!"prefix {p} is already defined for local preference {x.localPref}")
      toAdd) toAdd

def prefixesWithCommunityToFRR (toAdd : SortedMap String CommunityPrefixList) (neighbor : NeighborConfig)
    (toAdvertise : Advertise) (ipFamily : Family) (routerPrefixes : SortedSet String) :
    Result (SortedMap String CommunityPrefixList) :=
  toAdvertise.prefixesWithCommunity.foldlM (fun toAdd x => do
    let c ← (Community.new x.community).wrap (fun e => s!"invalid community {x.community}, err: {e}")
    addPrefixList (communityPrefixListKey c (frrIPFamily ipFamily))
      (fun s => {
        name := communityPrefixListName neighbor.id c (frrIPFamily ipFamily)
        ipFamily := frrIPFamily ipFamily
        prefixes := s
        community := c })
      (filterPrefixes x.prefixes ipFamily) routerPrefixes
      s!"community {x.community} is already defined"
      (fun p => s!"prefix {p} is advertised for community {Community.string c} " ++
        "but it's not in the advertisement list of the neighbor")
      (fun p => s!"prefix {p} is already defined for community {Community.string c}")
      toAdd) toAdd

/-- The families of a neighbor, a dual-stack one having both. -/
def neighborIPFamilies (neighbor : NeighborConfig) : List Family :=
  if neighbor.ipFamily = .dual then [.ipv4, .ipv6] else [neighbor.ipFamily]

/-- The map `prefixesForFamily` of `toAdvertiseToFRR`, empty at the families it has no key for. -/
def prefixesForFamily (toAdvertise : Advertise) (prefixesInRouter : List String) (ipFamily : Family) :
    SortedSet String :=
  if ipFamily = .ipv4 ∨ ipFamily = .ipv6 then prefixesToAdvertiseForFamily toAdvertise prefixesInRouter ipFamily
  else .empty

/-- The body of `toAdvertiseToFRR`'s loop over the neighbor's families. -/
def addFamily (neighbor : NeighborConfig) (toAdvertise : Advertise) (prefixesInRouter : List String)
    (acc : SortedMap String LocalPrefPrefixList × SortedMap String CommunityPrefixList) (ipFamily : Family) :
    Result (SortedMap String LocalPrefPrefixList × SortedMap String CommunityPrefixList) := do
  let localPrefs ← (prefixesWithLocalPrefToFRR acc.1 neighbor toAdvertise ipFamily
    (prefixesForFamily toAdvertise prefixesInRouter ipFamily)).wrap
      (fun e => s!"failed to process local pref for neighbor {neighbor.name}, err: {e}")
  let communities ← (prefixesWithCommunityToFRR acc.2 neighbor toAdvertise ipFamily
    (prefixesForFamily toAdvertise prefixesInRouter ipFamily)).wrap
      (fun e => s!"failed to process local pref for neighbor {neighbor.name}, err: {e}")
  return (localPrefs, communities)

def toAdvertiseToFRR (neighbor : NeighborConfig) (toAdvertise : Advertise) (prefixesInRouter : List String) :
    Result AllowedOut := do
  let (nextHopV4, nextHopV6) ← nextHopToFRR neighbor toAdvertise.nextHop
  let (localPrefs, communities) ← (neighborIPFamilies neighbor).foldlM
    (addFamily neighbor toAdvertise prefixesInRouter) (.empty, .empty)
  return {
    prefixesV4 := if neighborHasIPFamily neighbor .ipv4 then
      (prefixesForFamily toAdvertise prefixesInRouter .ipv4).toList else []
    prefixesV6 := if neighborHasIPFamily neighbor .ipv6 then
      (prefixesForFamily toAdvertise prefixesInRouter .ipv6).toList else []
    nextHopV4 := nextHopV4
    nextHopV6 := nextHopV6
    localPrefPrefixesModifiers := localPrefs.values
    communityPrefixesModifiers := communities.values }

/-! ## What a neighbor receives -/

/-- `mask length <= ge <= le`, for the bounds that are set. -/
def validateSelectorLengths (mask le ge : Nat) : Result Unit :=
  if ge = 0 ∧ le = 0 then .ok ()
  else do
    reject (0 < le ∧ le < ge) s!"invalid selector lengths: ge {ge} is bigger than le {le}"
    reject (0 < le ∧ le < mask) s!"invalid selector lengths: cidr mask {mask} is bigger than le {le}"
    reject (0 < ge ∧ ge < mask) s!"invalid selector lengths: cidr mask {mask} is bigger than ge {ge}"

def filterForSelector (selector : PrefixSelector) : Result IncomingFilter :=
  match Net.parseCIDR selector.pfx with
  | none => fail s!"failed to parse prefix {selector.pfx}: invalid CIDR address: {selector.pfx}"
  | some cidr => do
    validateSelectorLengths cidr.ones selector.le selector.ge
    return { pfx := selector.pfx, ipFamily := forCIDRString selector.pfx, ge := selector.ge, le := selector.le }

/-- `sort.Slice` by `LessThan`; equal filters cannot be told apart. -/
def sortFilters (l : List IncomingFilter) : List IncomingFilter := l.insertionSort (fun a b => ¬ b.lessThan a)

def toReceiveToFRR (toReceive : Receive) : Result AllowedIn :=
  if toReceive.allowed.mode = .all then .ok { all := true }
  else do
    let filters ← toReceive.allowed.prefixes.mapM filterForSelector
    return {
      prefixesV4 := sortFilters (filters.filter (fun f => f.ipFamily = .ipv4))
      prefixesV6 := sortFilters (filters.filter (fun f => f.ipFamily ≠ .ipv4)) }

/-! ## A neighbor -/

def neighborToFRR (n : Neighbor) (prefixesInRouter : List String) (alwaysBlock : List IncomingFilter)
    (routerVRF : String) (passwordSecrets : SortedMap String Secret) (bfdProfiles : SortedMap String BFDProfile) :
    Result NeighborConfig := do
  reject (n.address = "" ∧ n.interface = "") s!"neighbor with ASN {asnFor n} has no address and no interface"
  reject (n.address ≠ "" ∧ n.interface ≠ "") s!"neighbor {neighborName n} has both Address and Interface specified"
  reject (n.bfdProfile ≠ "" ∧ bfdProfiles.find? n.bfdProfile = none)
    s!"neighbor {neighborName n} referencing non existing BFDProfile {n.bfdProfile}"
  reject (n.asn = 0 ∧ n.dynamicASN = "") s!"neighbor {neighborName n} has no ASN or DynamicASN specified"
  reject (n.asn ≠ 0 ∧ n.dynamicASN ≠ "") s!"neighbor {neighborName n} has both ASN and DynamicASN specified"
  reject (n.dynamicASN ≠ "" ∧ n.dynamicASN ≠ internalASNMode ∧ n.dynamicASN ≠ externalASNMode)
    (s!"neighbor {neighborName n} has invalid DynamicASN {n.dynamicASN} specified, " ++
      s!"must be one of {internalASNMode},{externalASNMode}")
  let neighborFamily ← (addressFamilyForNeighbor n).wrap
    (fun e => s!"failed to find ipfamily for neighbor {neighborName n}, err: {e}")
  let (holdTime, keepaliveTime) ← (parseTimers n.holdTime n.keepaliveTime).wrap
    (fun e => s!"invalid timers for neighbor {neighborName n}, err: {e}")
  let password ← passwordForNeighbor n passwordSecrets
  let res : NeighborConfig := {
    name := neighborName n
    asn := asnFor n
    localASN := n.localASN
    srcAddr := n.sourceAddress
    addr := n.address
    iface := n.interface
    port := n.port
    ipFamily := neighborFamily
    ebgpMultiHop := n.ebgpMultiHop
    bfdProfile := n.bfdProfile
    gracefulRestart := n.enableGracefulRestart
    vrfName := routerVRF
    alwaysBlock := alwaysBlock
    addressFamilies := n.addressFamilies
    holdTime := holdTime
    keepaliveTime := keepaliveTime
    connectTime := n.connectTime.map seconds
    password := password }
  let outgoing ← toAdvertiseToFRR res n.toAdvertise prefixesInRouter
  let incoming ← toReceiveToFRR n.toReceive
  return { res with outgoing := outgoing, incoming := incoming }

/-! ## A router -/

def vniPropertiesToFRR (v : VNIPropertiesSpec) : VNIProperties :=
  { rd := v.rd, importRTs := v.importRTs, exportRTs := v.exportRTs }

/-- `L2VNIs` is filled by `append`, so it is `nil` when there are none. -/
def evpnToFRR (e : EVPNSpec) : EVPNConfig :=
  { advertiseVNIs := e.advertiseVNIs
    advertiseSVI := e.advertiseSVI
    l2vnis := if e.l2vnis = [] then none
      else some (e.l2vnis.map (fun l2 => { vni := l2.vni, properties := vniPropertiesToFRR l2.properties }))
    l3vni := e.l3vni.map (fun l3 => {
      vni := l3.vni
      properties := vniPropertiesToFRR l3.properties
      advertisePrefixes := l3.advertisePrefixes }) }

/-- The body of `routerToFRRConfig`'s loop over the neighbors. -/
def routerNeighborToFRR (r : Router) (alwaysBlock : List IncomingFilter) (secrets : SortedMap String Secret)
    (bfdProfiles : SortedMap String BFDProfile) (routerPrefixes : List String) (n : Neighbor) :
    Result NeighborConfig := do
  reject (n.localASN ≠ 0 ∧ n.asn ≠ 0 ∧ n.asn = r.asn)
    s!"neighbor {neighborName n}: localASN is not supported for iBGP sessions (neighbor ASN {n.asn} equals router ASN)"
  (neighborToFRR n routerPrefixes alwaysBlock r.vrf secrets bfdProfiles).wrap
    (fun e => s!"failed to process neighbor {neighborName n} for router {r.asn}-{r.vrf}: {e}")

def routerToFRRConfig (r : Router) (alwaysBlock : List IncomingFilter) (secrets : SortedMap String Secret)
    (bfdProfiles : SortedMap String BFDProfile) (routerPrefixes : List String) : Result RouterConfig := do
  let neighbors ← r.neighbors.mapM (routerNeighborToFRR r alwaysBlock secrets bfdProfiles routerPrefixes)
  return {
    myASN := r.asn
    routerID := r.id
    vrf := r.vrf
    neighbors := neighbors
    ipv4Prefixes := filterPrefixes r.prefixes .ipv4
    ipv6Prefixes := filterPrefixes r.prefixes .ipv6
    importVRFs := r.imports
    evpn := r.evpn.map evpnToFRR }

def validatePrefixes (prefixes : List String) : Result Unit :=
  prefixes.forM (fun p => reject (forCIDRString p = .unknown) s!"unknown ipfamily for {p}")

def validatePrefixesForNeighborFamily (prefixes : List String) (family : Family) : Result Unit :=
  prefixes.forM (fun p => do
    reject (forCIDRString p = .unknown) s!"unknown ipfamily for {p}"
    reject (¬ matchesPrefix family p) s!"prefix {p} is not compatible with the ipfamily {family.string}")

/-- The last entry of a VRF wins. -/
def prefixesForVRFs (routers : List Router) : SortedMap String (List String) :=
  routers.foldl (fun res r => res.insert r.vrf r.prefixes) .empty

/-- The name of an imported VRF as routers declare it. -/
def importedVRF (vrf : String) : String := if vrf = "default" then "" else vrf

def importedPrefixes (r : Router) (prefixesInRouter : SortedMap String (List String)) : Result (List String) := do
  let imported ← r.imports.mapM (fun i =>
    match prefixesInRouter.find? (importedVRF i) with
    | none => fail s!"vrf {importedVRF i} not found in prefixes in router"
    | some prefixes => .ok prefixes)
  return imported.flatten

def validateImportVRFs (r : Router) (allVRFs : SortedMap String (List String)) : Result Unit :=
  r.imports.forM (fun i => reject (i ≠ "default" ∧ allVRFs.find? i = none)
    s!"router {r.asn}-{r.vrf} imports vrf {i} which is not defined")

/-- One local preference of a neighbor: its prefixes must not carry another one. -/
def checkLocalPref (n : Neighbor) (neighborFamily : Family) (localPrefs : SortedMap String Nat)
    (x : LocalPrefPrefixes) : Result (SortedMap String Nat) := do
  (validatePrefixesForNeighborFamily x.prefixes neighborFamily).wrap
    (fun e =>
    s!"invalid prefixes {sliceText x.prefixes} for localpref {x.localPref} for neighbor {neighborName n}, err: {e}")
  x.prefixes.foldlM (fun localPrefs p => do
    reject (((localPrefs.find? p).getD x.localPref) ≠ x.localPref)
      (s!"prefix {sliceText x.prefixes} is configured with both local preference " ++
        s!"{(localPrefs.find? p).getD 0} and {x.localPref}")
    return localPrefs.insert p x.localPref) localPrefs

/-- The checks `validateOutgoingPrefixes` makes on one neighbor. -/
def validateOutgoingPrefixesFor (prefixesSet : SortedSet String) (vrf : String) (n : Neighbor) : Result Unit := do
  let neighborFamily ← (addressFamilyForNeighbor n).wrap
    (fun e => s!"failed to find ipfamily for neighbor {neighborName n}, err: {e}")
  let _ ← n.toAdvertise.prefixesWithLocalPref.foldlM (checkLocalPref n neighborFamily) .empty
  n.toAdvertise.prefixesWithCommunity.forM (fun x =>
    (validatePrefixesForNeighborFamily x.prefixes neighborFamily).wrap
      (fun e =>
      s!"invalid prefixes {sliceText x.prefixes} for community {x.community} for neighbor {neighborName n}, err: {e}"))
  if n.toAdvertise.allowed.mode = .all then return ()
  (validatePrefixesForNeighborFamily n.toAdvertise.allowed.prefixes neighborFamily).wrap
    (fun e =>
    s!"invalid allowed prefixes {sliceText n.toAdvertise.allowed.prefixes} for neighbor {neighborName n}, err: {e}")
  n.toAdvertise.allowed.prefixes.forM (fun p => reject (p ∉ prefixesSet)
    s!"trying to advertise non configured prefix {p} to neighbor {neighborName n}, vrf {vrf}")

def validateOutgoingPrefixes (prefixesInRouter : List String) (routerConfig : Router) : Result Unit :=
  routerConfig.neighbors.forM
    (validateOutgoingPrefixesFor (SortedSet.ofList prefixesInRouter) routerConfig.vrf)

/-- `validateRouterConfig`: the merge with itself that validates the neighbors also updates the router. -/
def validateRouterConfig [RangeOrder] (r : RouterConfig) : Result RouterConfig := mergeRouterConfigWithItself r

/-! ## EVPN checks on the merged routers -/

def addressFamilyEVPN : String := "evpn"
def vniAdvertisementAll : String := "All"

def evpnNeedsNeighbor (evpn : EVPNConfig) : Bool :=
  evpn.advertiseVNIs = some vniAdvertisementAll || evpn.advertiseSVI || evpn.l2vnis.elems ≠ []

def hasEVPNNeighbor (r : RouterConfig) : Bool :=
  r.neighbors.any (fun n => n.addressFamilies.elems.contains addressFamilyEVPN)

def validateEVPNConfig (r : RouterConfig) : Result Unit :=
  match r.evpn with
  | none => .ok ()
  | some evpn => do
    reject (evpnNeedsNeighbor evpn ∧ ¬ hasEVPNNeighbor r)
      "advertiseVNIs=All, advertiseSVI and l2vnis require at least one neighbor with evpn address family"
    reject (evpn.l3vni ≠ none ∧ r.neighbors ≠ []) "l3vni can only be configured on routers with no neighbors"

/-- The VNIs of a router with the word `validateUniqueVNIs` uses for their type. -/
def vnisOf (r : RouterConfig) : List (Nat × String) :=
  match r.evpn with
  | none => []
  | some evpn => evpn.l2vnis.elems.map (fun l2 => (l2.vni, "l2vni")) ++
      evpn.l3vni.toList.map (fun l3 => (l3.vni, "l3vni"))

/-- The VNIs of all routers, each with its VRF. -/
def vnisOfVRFs [RangeOrder] (routersForVRF : SortedMap String RouterConfig) : List (String × (Nat × String)) :=
  routersForVRF.ranged.flatMap (fun e => (vnisOf e.2).map (fun v => (e.1, v)))

/-- One VNI of a VRF in `validateUniqueVNIs`; `seen` has the VRF and type of those before. -/
def addVNI (seen : SortedMap Nat (String × String)) (x : String × (Nat × String)) :
    Result (SortedMap Nat (String × String)) :=
  match seen.find? x.2.1 with
  | some existing =>
    fail (s!"duplicate VNI {x.2.1}: configured as {existing.2} in vrf {quote existing.1} " ++
      s!"and as {x.2.2} in vrf {quote x.1}")
  | none => .ok (seen.insert x.2.1 (x.1, x.2.2))

def validateUniqueVNIs [RangeOrder] (routersForVRF : SortedMap String RouterConfig) : Result Unit := do
  let _ ← (vnisOfVRFs routersForVRF).foldlM addVNI .empty
  return ()

def validateEVPN [RangeOrder] (routersForVRF : SortedMap String RouterConfig) : Result Unit := do
  routersForVRF.ranged.forM (fun e =>
    (validateEVPNConfig e.2).wrap (fun err => s!"invalid EVPN configuration for vrf {quote e.1}: {err}"))
  validateUniqueVNIs routersForVRF

/-! ## All configurations -/

def bfdProfileToFRR (b : BFDProfileSpec) : BFDProfile :=
  { name := b.name
    receiveInterval := b.receiveInterval
    transmitInterval := b.transmitInterval
    detectMultiplier := b.detectMultiplier
    echoInterval := b.echoInterval
    minimumTTL := b.minimumTTL
    echoMode := b.echoMode.getD false
    passiveMode := b.passiveMode.getD false }

def alwaysBlockToFRR (cidrs : List Net.IPNet) : List IncomingFilter :=
  cidrs.map (fun c => { ipFamily := forCIDR c, pfx := c.string, le := if forCIDR c = .ipv6 then 128 else 32 })

structure NamedRawConfig where
  raw : RawConfig
  configName : String
deriving DecidableEq, Repr

def NamedRawConfig.lessThan (a b : NamedRawConfig) : Bool :=
  if a.raw.priority = b.raw.priority then a.configName < b.configName else a.raw.priority < b.raw.priority

/-- `sort.Slice` is not stable, so this is its result only where no two entries have the same priority and name. -/
def joinRawConfigs (raw : List NamedRawConfig) : String :=
  String.join ((raw.insertionSort (fun a b => ¬ b.lessThan a)).map (fun r => r.raw.config ++ "\n"))

/-- The variables of `apiToFRR`'s loop over the configurations. -/
structure ApiState where
  rawConfigs : List NamedRawConfig := []
  routersForVRF : SortedMap String RouterConfig := .empty
  bfdProfilesAllConfigs : SortedMap String BFDProfile := .empty

/-- Profiles of one name in different configurations carry the same values. -/
def sameBFDProfile (cfgName : String) (old new : BFDProfile) : Result BFDProfile :=
  if old = new then .ok old
  else fail s!"duplicate bfd profile name {new.name} with different values for config {cfgName}"

/-- One profile of a configuration: the profiles of this configuration and those of all of them, by name. -/
def addBFDProfile (cfgName : String) (st : SortedMap String BFDProfile × SortedMap String BFDProfile)
    (b : BFDProfileSpec) : Result (SortedMap String BFDProfile × SortedMap String BFDProfile) := do
  reject (st.1.find? b.name ≠ none) s!"duplicate bfd profile name {b.name} in config {cfgName}"
  let allConfigs ← upsert BFDProfile.name (sameBFDProfile cfgName) st.2 (bfdProfileToFRR b)
  return (st.1.insert b.name (bfdProfileToFRR b), allConfigs)

/-- One router entry of a configuration, translated and validated. -/
def routerFor (alwaysBlock : List IncomingFilter) (secrets : SortedMap String Secret)
    (bfdProfiles : SortedMap String BFDProfile) (routersPrefixes : SortedMap String (List String)) (r : Router) :
    Result RouterConfig := do
  validatePrefixes r.prefixes
  validateImportVRFs r routersPrefixes
  let importedPrefixes ← importedPrefixes r routersPrefixes
  validateOutgoingPrefixes (r.prefixes ++ importedPrefixes) r
  routerToFRRConfig r alwaysBlock secrets bfdProfiles (r.prefixes ++ importedPrefixes)

/-- The body of `apiToFRR`'s loop over the configurations. -/
def addConfig [RangeOrder] (secrets : SortedMap String Secret) (alwaysBlock : List Net.IPNet) (st : ApiState)
    (cfg : FRRConfiguration) : Result ApiState := do
  let (bfdProfiles, bfdProfilesAllConfigs) ← cfg.bfdProfiles.foldlM (addBFDProfile cfg.name)
    (.empty, st.bfdProfilesAllConfigs)
  let routersForVRF ← cfg.routers.foldlM (fun routersForVRF r => do
    let routerCfg ← routerFor (alwaysBlockToFRR alwaysBlock) secrets bfdProfiles (prefixesForVRFs cfg.routers) r
    let routerCfg ← validateRouterConfig routerCfg
    upsert RouterConfig.vrf mergeRouterConfigs routersForVRF routerCfg) st.routersForVRF
  return {
    rawConfigs := if cfg.raw.config ≠ "" then st.rawConfigs ++ [⟨cfg.raw, cfg.name⟩] else st.rawConfigs
    routersForVRF := routersForVRF
    bfdProfilesAllConfigs := bfdProfilesAllConfigs }

def apiToFRR [RangeOrder] (resources : ClusterResources) (alwaysBlock : List Net.IPNet) : Result Config := do
  let st ← resources.frrConfigs.foldlM (addConfig resources.passwordSecrets alwaysBlock) {}
  validateEVPN st.routersForVRF
  return {
    routers := st.routersForVRF.values
    extraConfig := joinRawConfigs st.rawConfigs
    bfdProfiles := st.bfdProfilesAllConfigs.values }

end FrrK8s
