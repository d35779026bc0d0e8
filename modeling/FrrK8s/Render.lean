import FrrK8s.Policy
import FrrK8s.Contributors
/-!
# Render — the prefix lists and route maps of a configuration (`templates/prefixlists.tmpl`)

The template writes, neighbor by neighbor, prefix lists and the route maps `<ID>-out` and `<ID>-in`, and numbers the
lines with `counter`.  A line is kept as what it tells FRR, `Line.text` is how the template writes it; blank lines are
left out.  `evalRouteMap` is what FRR does with the numbered lines for a route.
-/
namespace FrrK8s

/-! ## Lines -/

inductive Direction
  | inward
  | outward
deriving DecidableEq, Repr

def Direction.word : Direction → String
  | .inward => "in"
  | .outward => "out"

inductive SetClause
  | localPreference (value : Nat)
  | community (c : BGPCommunity)
  | largeCommunity (c : BGPCommunity)
  | ipNextHop (addr : String)
  | ipv6NextHopGlobal (addr : String)
deriving DecidableEq, Repr

def SetClause.text : SetClause → String
  | .localPreference value => s!"set local-preference {value}"
  | .community c => s!"set community {Community.string c} additive"
  | .largeCommunity c => s!"set large-community {Community.string c} additive"
  | .ipNextHop addr => s!"set ip next-hop {addr}"
  | .ipv6NextHopGlobal addr => s!"set ipv6 next-hop global {addr}"

/-- What a line of a prefix list is about: everything, one prefix, or the prefixes of a filter. -/
inductive Matcher
  | any
  | exactly (p : String)
  | within (f : IncomingFilter)
deriving DecidableEq, Repr

def Matcher.text : Matcher → String
  | .any => "any"
  | .exactly p => p
  | .within f => f.pfx ++ f.matcher

/-- A line of a prefix list, or an entry of a route map with its clauses. -/
inductive Line
  | prefixList (family name : String) (permit : Bool) (m : Matcher)
  | routeMap (id : String) (dir : Direction) (permit : Bool) (family list : String) (sets : List SetClause)
      (onMatchNext : Bool)
deriving DecidableEq, Repr

/-- The argument of `counter` in a line. -/
def Line.counter : Line → String
  | .prefixList _ name _ _ => name
  | .routeMap id _ _ _ _ _ _ => id

def routeMapName (id : String) (dir : Direction) : String := s!"{id}-{dir.word}"

def actionText (permit : Bool) : String := if permit then "permit" else "deny"

def Line.text (seq : Nat) : Line → String
  | .prefixList family name permit m => s!"{family} prefix-list {name} seq {seq} {actionText permit} {m.text}"
  | .routeMap id dir permit family list sets onMatchNext =>
    s!"route-map {routeMapName id dir} {actionText permit} {seq}\n  match {family} address prefix-list {list}" ++
      String.join (sets.map (fun s => s!"\n  {s.text}")) ++ (if onMatchNext then "\n  on-match next" else "")

/-! ## The template -/

/-- A `PropertyPrefixList`: a list of prefixes with the clause to execute for them. -/
structure PropertyPrefixList extends PrefixList where
  setStatement : SetClause
deriving DecidableEq

def LocalPrefPrefixList.setStatement (l : LocalPrefPrefixList) : SetClause := .localPreference l.localPref

def CommunityPrefixList.setStatement (l : CommunityPrefixList) : SetClause :=
  if Community.isLarge l.community then .largeCommunity l.community else .community l.community

/-- `PrefixLists`, sorted by name. -/
def AllowedOut.prefixLists (a : AllowedOut) : List PropertyPrefixList :=
  let res : List PropertyPrefixList := a.localPrefPrefixesModifiers.map (fun l => ⟨l.toPrefixList, l.setStatement⟩) ++
    a.communityPrefixesModifiers.map (fun l => ⟨l.toPrefixList, l.setStatement⟩)
  res.insertionSort (fun x y => ¬ y.name < x.name)

def propertyLines (id : String) (pl : PropertyPrefixList) : List Line :=
  pl.prefixes.toList.map (fun p => .prefixList pl.ipFamily pl.name true (.exactly p)) ++
    [.routeMap id .outward true pl.ipFamily pl.name [pl.setStatement] true]

/-- The list of the prefixes a neighbor may advertise in one family, or a line that denies all. -/
def toAdvertiseLines (family name : String) (prefixes : List String) : List Line :=
  (if prefixes = [] then [.prefixList family name false .any] else []) ++
    prefixes.map (fun p => .prefixList family name true (.exactly p))

def outgoingLines (n : NeighborConfig) : List Line :=
  n.outgoing.prefixLists.flatMap (propertyLines n.id) ++
    toAdvertiseLines "ip" n.toAdvertisePrefixListV4 n.outgoing.prefixesV4 ++
    toAdvertiseLines "ipv6" n.toAdvertisePrefixListV6 n.outgoing.prefixesV6 ++
    [.routeMap n.id .outward true "ip" n.toAdvertisePrefixListV4
        (if n.outgoing.nextHopV4 ≠ "" then [.ipNextHop n.outgoing.nextHopV4] else []) false,
      .routeMap n.id .outward true "ipv6" n.toAdvertisePrefixListV6
        (if n.outgoing.nextHopV6 ≠ "" then [.ipv6NextHopGlobal n.outgoing.nextHopV6] else []) false]

def allowedIncomingList (n : NeighborConfig) : String := s!"{n.id}-inpl-{n.ipFamily.string}"

def deniedIncomingList (n : NeighborConfig) : String := s!"{n.id}-denied-inpl-{n.ipFamily.string}"

/-- The list of what a neighbor accepts. -/
def allowedIncomingLines (n : NeighborConfig) : List Line :=
  n.incoming.allPrefixes.map (fun i => .prefixList (frrIPFamily i.ipFamily) (allowedIncomingList n) true (.within i)) ++
    if n.incoming.all then
      [.prefixList "ip" (allowedIncomingList n) true .any, .prefixList "ipv6" (allowedIncomingList n) true .any]
    else
      (if n.incoming.prefixesV4 = [] then [.prefixList "ip" (allowedIncomingList n) false .any] else []) ++
        (if n.incoming.prefixesV6 = [] then [.prefixList "ipv6" (allowedIncomingList n) false .any] else [])

/-- The list of what a neighbor never accepts and the entries that refuse it, if there is anything to block. -/
def deniedIncomingLines (n : NeighborConfig) : List Line :=
  if n.alwaysBlock = [] then []
  else
    n.alwaysBlock.map (fun a => .prefixList (frrIPFamily a.ipFamily) (deniedIncomingList n) true (.within a)) ++
      [.routeMap n.id .inward false "ip" (deniedIncomingList n) [] false,
        .routeMap n.id .inward false "ipv6" (deniedIncomingList n) [] false]

def incomingLines (n : NeighborConfig) : List Line :=
  allowedIncomingLines n ++ deniedIncomingLines n ++
    [.routeMap n.id .inward true "ip" (allowedIncomingList n) [] false,
      .routeMap n.id .inward true "ipv6" (allowedIncomingList n) [] false]

/-- The template `neighborfilters`. -/
def neighborFilters (n : NeighborConfig) : List Line := outgoingLines n ++ incomingLines n

def Config.neighbors (c : Config) : List NeighborConfig := c.routers.flatMap RouterConfig.neighbors

/-- The lines of all neighbors, numbered by `counter`. -/
def renderedFilters (c : Config) : List (Nat × Line) :=
  Policy.number Line.counter (fun _ => 0) (c.neighbors.flatMap neighborFilters)

/-! ## What FRR does with the lines -/

/-- A filter matches a route within its prefix, of a length within its bounds; without bounds, of the prefix's
length. -/
def IncomingFilter.matchesRoute (f : IncomingFilter) (route : Net.IPNet) : Bool :=
  match Net.parseNet f.pfx with
  | none => false
  | some net => net.contains route &&
    (if f.le = 0 ∧ f.ge = 0 then route.ones = net.ones
      else (f.ge = 0 ∨ f.ge ≤ route.ones) ∧ (f.le = 0 ∨ route.ones ≤ f.le))

def Matcher.matchesRoute (route : Net.IPNet) : Matcher → Bool
  | .any => true
  | .exactly p => Net.parseNet p = some route
  | .within f => f.matchesRoute route

/-- FRR's word for the family of a route. -/
def routeFamily (route : Net.IPNet) : String := if route.bits = 32 then "ip" else "ipv6"

/-- The rule a line adds to a prefix list; each family has its own lists. -/
def ruleOf (family name : String) : Line → Option (Policy.Rule Matcher)
  | .prefixList f x permit m => if f = family ∧ x = name then some ⟨permit, m⟩ else none
  | .routeMap .. => none

/-- The entry a line adds to a route map, which tests a list of a family. -/
def entryOf (name : String) : Line → Option (Policy.Entry (String × String) SetClause)
  | .prefixList .. => none
  | .routeMap id dir permit family list sets onMatchNext =>
    if routeMapName id dir = name then some ⟨permit, (family, list), sets, onMatchNext⟩ else none

/-- Does the list of the route's family permit the route?  A list with no line permits nothing. -/
def matchHolds (lines : List (Nat × Line)) (route : Net.IPNet) (test : String × String) : Bool :=
  test.1 = routeFamily route &&
    Policy.permits (fun m => m.matchesRoute route) (Policy.inOrder (ruleOf test.1 test.2) lines)

/-- The clauses the route map executes for a route it permits, or `none`. -/
def evalRouteMap (lines : List (Nat × Line)) (name : String) (route : Net.IPNet) : Option (List SetClause) :=
  Policy.run (matchHolds lines route) (Policy.inOrder (entryOf name) lines)

/-- What executed clauses set on a route. -/
structure Applied where
  communities : List BGPCommunity := []
  localPref : Option Nat := none
  nextHop : Option String := none
  nextHopGlobal : Option String := none
deriving DecidableEq, Repr

/-- `additive` adds a community to those before; the other clauses replace what was set. -/
def SetClause.apply (a : Applied) : SetClause → Applied
  | .localPreference value => { a with localPref := some value }
  | .community c => { a with communities := a.communities ++ [c] }
  | .largeCommunity c => { a with communities := a.communities ++ [c] }
  | .ipNextHop addr => { a with nextHop := some addr }
  | .ipv6NextHopGlobal addr => { a with nextHopGlobal := some addr }

def applied (sets : List SetClause) : Applied := sets.foldl SetClause.apply {}

end FrrK8s
