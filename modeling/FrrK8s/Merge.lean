import FrrK8s.Frr
/-!
# Merge — merging router configurations (`internal/controller/merge.go`)

The functions of `merge.go`, one by one.  They update their first argument in place; here each returns the updated
value.  A slice of neighbors holds pointers: when a router is merged with itself both slices hold the same pointers,
and the loop of `mergeNeighborsLists` reads through them neighbors it has already changed.  So that loop runs on a
store of neighbors, with pointers for positions (`mergeRouterConfigs` and `mergeRouterConfigWithItself`).

`UnsortedList` gives the elements of a set in any order (`RangeOrder`).
-/
namespace FrrK8s

def defaultBGPPort : Nat := 179
def defaultHoldTime : Int := 180
def defaultKeepaliveTime : Int := 60
def defaultConnectTime : Int := 60

/-- `sets.List(sets.New(l...))`. -/
def setList (l : List String) : List String := (SortedSet.ofList l).toList

/-- `string(v1beta1.VNIAdvertisementDisabled)`. -/
def vniAdvertisementDisabled : String := "Disabled"

def localPrefPrefixListKey (localPref : Nat) (frrAddressFamily : String) : String := s!"{localPref}-{frrAddressFamily}"

def communityPrefixListKey (comm : BGPCommunity) (frrAddressFamily : String) : String :=
  s!"{Community.string comm}-{frrAddressFamily}"

/-! ## Outgoing -/

def mergeNextHop (curr toMerge : String) : Result String :=
  if curr = "" then .ok toMerge
  else if toMerge = "" ∨ curr = toMerge then .ok curr
  else fail s!"multiple next hops ({curr} != {toMerge}) specified"

/-- The lists of `curr` by key, those of `toMerge` added to them; `addTo` unites the prefixes of two of one key. -/
def mergePrefixLists {α : Type} (key : α → String) (addTo : α → α → α) (curr toMerge : List α) : List α :=
  (toMerge.foldl (upsertWith key addTo) (SortedMap.insertAll key .empty curr)).values

def LocalPrefPrefixList.key (l : LocalPrefPrefixList) : String := localPrefPrefixListKey l.localPref l.ipFamily

def CommunityPrefixList.key (l : CommunityPrefixList) : String := communityPrefixListKey l.community l.ipFamily

def mergeLocalPrefPrefixLists (curr toMerge : List LocalPrefPrefixList) : List LocalPrefPrefixList :=
  mergePrefixLists LocalPrefPrefixList.key (fun l l' => { l with prefixes := l.prefixes.union l'.prefixes })
  curr toMerge

def mergeCommunityPrefixLists (curr toMerge : List CommunityPrefixList) : List CommunityPrefixList :=
  mergePrefixLists CommunityPrefixList.key (fun l l' => { l with prefixes := l.prefixes.union l'.prefixes })
  curr toMerge

/-- The map `mergeAllowedOut` fills from the modifiers of its first argument. -/
def localPrefForPrefix (l : List LocalPrefPrefixList) : SortedMap String Nat :=
  l.foldl (fun m p => p.prefixes.toList.foldl (fun m x => m.insert x p.localPref) m) .empty

/-- One modifier of the second argument checked against that map. -/
def checkLocalPrefs [RangeOrder] (existing : SortedMap String Nat) (p : LocalPrefPrefixList) : Result Unit :=
  (RangeOrder.range p.prefixes.toList).forM (fun x =>
    match existing.find? x with
    | none => .ok ()
    | some e => reject (e ≠ p.localPref) s!"multiple local prefs ({e} != {p.localPref}) specified for prefix {x}")

def mergeAllowedOut [RangeOrder] (r toMerge : AllowedOut) : Result AllowedOut := do
  let nextHopV4 ← (mergeNextHop r.nextHopV4 toMerge.nextHopV4).wrap (fun e => s!"ipv4 next hop: {e}")
  let nextHopV6 ← (mergeNextHop r.nextHopV6 toMerge.nextHopV6).wrap (fun e => s!"ipv6 next hop: {e}")
  toMerge.localPrefPrefixesModifiers.forM (checkLocalPrefs (localPrefForPrefix r.localPrefPrefixesModifiers))
  return {
    prefixesV4 := setList (r.prefixesV4 ++ toMerge.prefixesV4)
    prefixesV6 := setList (r.prefixesV6 ++ toMerge.prefixesV6)
    nextHopV4 := nextHopV4
    nextHopV6 := nextHopV6
    localPrefPrefixesModifiers :=
      mergeLocalPrefPrefixLists r.localPrefPrefixesModifiers toMerge.localPrefPrefixesModifiers
    communityPrefixesModifiers :=
      mergeCommunityPrefixLists r.communityPrefixesModifiers toMerge.communityPrefixesModifiers }

/-! ## Incoming -/

/-- The key under which `mergeIncomingFilters` keeps a filter: `fmt.Sprintf("%s%d%d", f.Prefix, f.LE, f.GE)`. -/
def IncomingFilter.key (f : IncomingFilter) : String := s!"{f.pfx}{f.le}{f.ge}"

def mergeIncomingFilters (curr toMerge : List IncomingFilter) : List IncomingFilter :=
  (SortedMap.insertAll IncomingFilter.key .empty (curr ++ toMerge)).values

def mergeAllowedIn (r toMerge : AllowedIn) : AllowedIn :=
  if r.all || toMerge.all then { all := true }
  else {
    prefixesV4 := mergeIncomingFilters r.prefixesV4 toMerge.prefixesV4
    prefixesV6 := mergeIncomingFilters r.prefixesV6 toMerge.prefixesV6 }

/-! ## Neighbors -/

def ptrsEqual {α : Type} [DecidableEq α] (p1 p2 : Option α) (dflt : α) : Bool :=
  match p1, p2 with
  | none, none => true
  | none, some b => b = dflt
  | some a, none => a = dflt
  | some a, some b => a = b

/-- A pointer to the default value becomes `nil`. -/
def cleanDefault {α : Type} [DecidableEq α] (p : Option α) (dflt : α) : Option α := if p = some dflt then none else p

def cleanNeighborDefaults (n : NeighborConfig) : NeighborConfig :=
  { n with
    port := cleanDefault n.port defaultBGPPort
    holdTime := cleanDefault n.holdTime defaultHoldTime
    keepaliveTime := cleanDefault n.keepaliveTime defaultKeepaliveTime
    connectTime := cleanDefault n.connectTime defaultConnectTime }

def neighborsAreCompatible (n1 n2 : NeighborConfig) : Result Unit := do
  reject (n1.id ≠ n2.id) s!"only neighbors with same ID ({n1.id}, {n2.id}) are compatible for merging"
  reject (n1.asn ≠ n2.asn) s!"multiple asns specified for {n1.id}"
  reject (¬ ptrsEqual n1.port n2.port defaultBGPPort) s!"multiple ports specified for {n1.id}"
  reject (n1.srcAddr ≠ n2.srcAddr) s!"multiple source addresses specified for {n1.id}"
  reject (n1.password ≠ n2.password) s!"multiple passwords specified for {n1.id}"
  reject (n1.bfdProfile ≠ "" ∧ n2.bfdProfile ≠ "" ∧ n1.bfdProfile ≠ n2.bfdProfile)
    s!"multiple bfd profiles specified for {n1.id}"
  reject (n1.ebgpMultiHop ≠ n2.ebgpMultiHop) s!"conflicting ebgp-multihop specified for {n1.id}"
  reject (n1.ipFamily ≠ n2.ipFamily) s!"conflicting advertiseDualStack specified for {n1.id}"
  reject (¬ ptrsEqual n1.holdTime n2.holdTime defaultHoldTime) s!"multiple hold times specified for {n1.id}"
  reject (¬ ptrsEqual n1.keepaliveTime n2.keepaliveTime defaultKeepaliveTime)
    s!"multiple keepalive times specified for {n1.id}"
  reject (¬ ptrsEqual n1.connectTime n2.connectTime defaultConnectTime) s!"multiple connect times specified for {n1.id}"
  reject (n1.localASN ≠ n2.localASN) s!"multiple localASNs specified for {n1.id}"

/-- The value `mergeIntoNeighbor` leaves behind the pointer `dest`. -/
def mergeIntoNeighbor [RangeOrder] (dest src : NeighborConfig) : Result NeighborConfig := do
  neighborsAreCompatible dest src
  let outgoing ← (mergeAllowedOut dest.outgoing src.outgoing).wrap
    (fun e => s!"could not merge outgoing for neighbor {src.addr} vrf {src.vrfName}, err: {e}")
  return cleanNeighborDefaults { dest with
    bfdProfile := if dest.bfdProfile = "" then src.bfdProfile else dest.bfdProfile
    outgoing := outgoing
    incoming := mergeAllowedIn dest.incoming src.incoming
    addressFamilies := some (setList (dest.addressFamilies.elems ++ src.addressFamilies.elems)) }

/-- What the pointers to neighbors point to. -/
abbrev Store := Nat → NeighborConfig

def storeOf (ns : List NeighborConfig) : Store := fun p => ns.getD p {}

/-- The loop of `mergeNeighborsLists`: the pointers left, what they point to and the pointer kept for each ID. -/
def mergeNeighborsLoop [RangeOrder] : List Nat → Store → SortedMap String Nat → Result (Store × SortedMap String Nat)
  | [], store, merged => .ok (store, merged)
  | p :: ps, store, merged =>
    match merged.find? (store p).id with
    | none => mergeNeighborsLoop ps store (merged.insert (store p).id p)
    | some d => do
      let n ← mergeIntoNeighbor (store d) (store p)
      mergeNeighborsLoop ps (fun q => if q = d then n else store q) merged

def mergeNeighborsLists [RangeOrder] (store : Store) (first toMerge : List Nat) : Result (List NeighborConfig) := do
  let all := first ++ toMerge
  if all.length = 0 then return []
  let (store, merged) ← mergeNeighborsLoop all store .empty
  return merged.values.map store

/-! ## EVPN -/

def mergeRTs (a b : Slice String) : Slice String :=
  if a.elems = [] ∧ b.elems = [] then none
  else if a.elems = [] then b
  else if b.elems = [] then a
  else some (setList (a.elems ++ b.elems))

def mergeVNIProperties (a b : VNIProperties) : Result VNIProperties := do
  reject (a.rd ≠ "" ∧ b.rd ≠ "" ∧ a.rd ≠ b.rd) s!"different RD values ({a.rd} != {b.rd})"
  reject ((a.importRTs.elems = []) ≠ (b.importRTs.elems = []))
    "conflicting import route targets: mixing implicit and explicit route targets"
  reject ((a.exportRTs.elems = []) ≠ (b.exportRTs.elems = []))
    "conflicting export route targets: mixing implicit and explicit route targets"
  return {
    rd := if a.rd = "" then b.rd else a.rd
    importRTs := mergeRTs a.importRTs b.importRTs
    exportRTs := mergeRTs a.exportRTs b.exportRTs }

/-- Two L2VNIs of one number. -/
def mergeL2VNI (existing v : L2VNI) : Result L2VNI := do
  let merged ← (mergeVNIProperties existing.properties v.properties).wrap
    (fun e => s!"could not merge l2vni {existing.vni}, err: {e}")
  return { vni := existing.vni, properties := merged }

def mergeL2VNIs (a b : Slice L2VNI) : Result (Slice L2VNI) :=
  if a.elems = [] ∧ b.elems = [] then .ok none
  else if a.elems = [] then .ok b
  else if b.elems = [] then .ok a
  else do
    let byVNI ← b.elems.foldlM (upsert L2VNI.vni mergeL2VNI) (SortedMap.insertAll L2VNI.vni .empty a.elems)
    return some byVNI.values

def mergeL3VNIs (a b : Option L3VNI) : Result (Option L3VNI) :=
  match a, b with
  | none, b => .ok b
  | some a, none => .ok (some a)
  | some a, some b => do
    reject (a.vni ≠ b.vni) s!"different l3vni numbers ({a.vni} != {b.vni})"
    let merged ← mergeVNIProperties a.properties b.properties
    return some {
      vni := a.vni
      properties := merged
      advertisePrefixes := some (setList (a.advertisePrefixes.elems ++ b.advertisePrefixes.elems)) }

def mergeEVPNConfigs (a b : Option EVPNConfig) : Result (Option EVPNConfig) :=
  match a, b with
  | none, b => .ok b
  | some a, none => .ok (some a)
  | some a, some b => do
    reject (¬ ptrsEqual a.advertiseVNIs b.advertiseVNIs vniAdvertisementDisabled)
      (s!"different advertiseVNIs ({quote (a.advertiseVNIs.getD vniAdvertisementDisabled)} != " ++
        s!"{quote (b.advertiseVNIs.getD vniAdvertisementDisabled)})")
    reject (a.advertiseSVI ≠ b.advertiseSVI) s!"different advertiseSVI ({a.advertiseSVI} != {b.advertiseSVI})"
    let l2vnis ← mergeL2VNIs a.l2vnis b.l2vnis
    let l3vni ← mergeL3VNIs a.l3vni b.l3vni
    return some {
      advertiseVNIs := a.advertiseVNIs.or b.advertiseVNIs
      advertiseSVI := a.advertiseSVI
      l2vnis := l2vnis
      l3vni := l3vni }

/-! ## Routers -/

def routersAreCompatible (r toMerge : RouterConfig) : Result Unit := do
  reject (r.vrf ≠ toMerge.vrf) s!"different VRFs specified ({r.vrf} != {toMerge.vrf})"
  reject (r.myASN ≠ toMerge.myASN) s!"different asns ({r.myASN} != {toMerge.myASN}) specified for same vrf: {r.vrf}"
  reject (r.routerID ≠ "" ∧ toMerge.routerID ≠ "" ∧ r.routerID ≠ toMerge.routerID)
    s!"different router ids ({r.routerID} != {toMerge.routerID}) specified for same vrf: {r.vrf}"

/-- `mergeRouterConfigs` with the outcome of its call of `mergeNeighborsLists`. -/
def mergeRouterConfigsWith (r toMerge : RouterConfig) (mergedNeighbors : Result (List NeighborConfig)) :
    Result RouterConfig := do
  routersAreCompatible r toMerge
  let neighbors ← mergedNeighbors
  let evpn ← (mergeEVPNConfigs r.evpn toMerge.evpn).wrap
    (fun e => s!"could not merge EVPN configuration for vrf {quote r.vrf}, err: {e}")
  return { r with
    routerID := if r.routerID = "" then toMerge.routerID else r.routerID
    ipv4Prefixes := setList (r.ipv4Prefixes ++ toMerge.ipv4Prefixes)
    ipv6Prefixes := setList (r.ipv6Prefixes ++ toMerge.ipv6Prefixes)
    importVRFs := setList (r.importVRFs ++ toMerge.importVRFs)
    neighbors := neighbors
    evpn := evpn }

/-- `mergeRouterConfigs(r, toMerge)` of two routers, whose neighbors are behind different pointers. -/
def mergeRouterConfigs [RangeOrder] (r toMerge : RouterConfig) : Result RouterConfig :=
  mergeRouterConfigsWith r toMerge (mergeNeighborsLists (storeOf (r.neighbors ++ toMerge.neighbors))
    (List.range r.neighbors.length) (List.range' r.neighbors.length toMerge.neighbors.length))

/-- `mergeRouterConfigs(r, r)`: both slices hold the same pointers. -/
def mergeRouterConfigWithItself [RangeOrder] (r : RouterConfig) : Result RouterConfig :=
  mergeRouterConfigsWith r r (mergeNeighborsLists (storeOf r.neighbors)
    (List.range r.neighbors.length) (List.range r.neighbors.length))

end FrrK8s
