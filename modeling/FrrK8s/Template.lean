import FrrK8s.Render
/-!
# Template — the text of a configuration (`templates/*.tmpl`, `templateConfig`)

`templateConfig` is the text the templates write, blank lines included.  The lines that later results read are kept as
what they tell FRR among the text around them: the lines of the filters, as `renderedFilters` numbers them
(`filtersText_eq`), and those of the sessions (`sessionLines`).
-/
namespace FrrK8s

/-- What a template writes: text, and lines that are kept as what they tell. -/
inductive Token (α : Type)
  | text (s : String)
  | line (l : α)

def Token.line? {α : Type} : Token α → Option α
  | .text _ => none
  | .line l => some l

/-- The lines among what a template writes. -/
def linesOf {α : Type} (tokens : List (Token α)) : List α := tokens.filterMap Token.line?

section

variable {α : Type}

@[simp] theorem linesOf_nil : linesOf ([] : List (Token α)) = [] := rfl

@[simp] theorem linesOf_text (s : String) (tokens : List (Token α)) :
    linesOf (.text s :: tokens) = linesOf tokens := rfl

@[simp] theorem linesOf_line (l : α) (tokens : List (Token α)) :
    linesOf (.line l :: tokens) = l :: linesOf tokens := rfl

@[simp] theorem linesOf_append (x y : List (Token α)) :
    linesOf (x ++ y) = linesOf x ++ linesOf y := List.filterMap_append

theorem linesOf_flatMap {β : Type} (l : List β) (f : β → List (Token α)) :
    linesOf (l.flatMap f) = l.flatMap (fun x => linesOf (f x)) := by
  induction l with
  | nil => rfl
  | cons x l ih => rw [List.flatMap_cons, List.flatMap_cons, linesOf_append, ih]

end

/-! ## Filters (`neighborfilters`) -/

/-- The lines after the first, each on a line of its own. -/
def onLines {α : Type} (l : List α) : List (Token α) := l.flatMap (fun x => [.text "\n", .line x])

def propertyTokens (id : String) (pl : PropertyPrefixList) : List (Token Line) :=
  onLines (pl.prefixes.toList.map (fun p => .prefixList pl.ipFamily pl.name true (.exactly p))) ++
    [.text "\n\n", .line (.routeMap id .outward true pl.ipFamily pl.name [pl.setStatement] true), .text "\n"]

def outgoingTokens (n : NeighborConfig) : List (Token Line) :=
  n.outgoing.prefixLists.flatMap (propertyTokens n.id) ++ [.text "\n\n"] ++
    onLines (toAdvertiseLines "ip" n.toAdvertisePrefixListV4 n.outgoing.prefixesV4) ++ [.text "\n\n"] ++
    onLines (toAdvertiseLines "ipv6" n.toAdvertisePrefixListV6 n.outgoing.prefixesV6) ++
    [.text "\n\n", .line (.routeMap n.id .outward true "ip" n.toAdvertisePrefixListV4
        (if n.outgoing.nextHopV4 ≠ "" then [.ipNextHop n.outgoing.nextHopV4] else []) false),
      .text "\n\n", .line (.routeMap n.id .outward true "ipv6" n.toAdvertisePrefixListV6
        (if n.outgoing.nextHopV6 ≠ "" then [.ipv6NextHopGlobal n.outgoing.nextHopV6] else []) false)]

def allowedIncomingTokens (n : NeighborConfig) : List (Token Line) :=
  [.text "\n\n\n\n"] ++ onLines (n.incoming.allPrefixes.map (fun i =>
    .prefixList (frrIPFamily i.ipFamily) (allowedIncomingList n) true (.within i))) ++
    if n.incoming.all then
      onLines [.prefixList "ip" (allowedIncomingList n) true .any,
      .prefixList "ipv6" (allowedIncomingList n) true .any] ++
        [.text "\n"]
    else
      [.text "\n"] ++
        onLines (if n.incoming.prefixesV4 = [] then [.prefixList "ip" (allowedIncomingList n) false .any] else []) ++
        [.text "\n"] ++
        onLines (if n.incoming.prefixesV6 = [] then [.prefixList "ipv6" (allowedIncomingList n) false .any] else [])

def deniedIncomingTokens (n : NeighborConfig) : List (Token Line) :=
  if n.alwaysBlock = [] then []
  else
    [.text "\n\n"] ++ onLines (n.alwaysBlock.map (fun a =>
      .prefixList (frrIPFamily a.ipFamily) (deniedIncomingList n) true (.within a))) ++ [.text "\n"] ++
      onLines [.routeMap n.id .inward false "ip" (deniedIncomingList n) [] false,
        .routeMap n.id .inward false "ipv6" (deniedIncomingList n) [] false]

def incomingTokens (n : NeighborConfig) : List (Token Line) :=
  allowedIncomingTokens n ++ deniedIncomingTokens n ++
    onLines [.routeMap n.id .inward true "ip" (allowedIncomingList n) [] false,
      .routeMap n.id .inward true "ipv6" (allowedIncomingList n) [] false]

def filterTokens (n : NeighborConfig) : List (Token Line) := outgoingTokens n ++ incomingTokens n

/-- The text of tokens, the lines numbered by `counter`. -/
def numberedText : (String → Nat) → List (Token Line) → String
  | _, [] => ""
  | counts, .text s :: tokens => s ++ numberedText counts tokens
  | counts, .line l :: tokens =>
    l.text (counts l.counter + 1) ++
      numberedText (fun k => if k = l.counter then counts k + 1 else counts k) tokens

def filtersText (c : Config) : String :=
  numberedText (fun _ => 0) (c.neighbors.flatMap (fun n => .text "\n" :: filterTokens n))

/-- The tokens with the numbered lines for their own. -/
def withNumbered : List (Token Line) → List (Nat × Line) → String
  | [], _ => ""
  | .text s :: tokens, lines => s ++ withNumbered tokens lines
  | .line _ :: tokens, (seq, l) :: lines => l.text seq ++ withNumbered tokens lines
  | .line _ :: _, [] => ""

theorem numberedText_eq : ∀ (tokens : List (Token Line)) (counts : String → Nat), numberedText counts tokens =
    withNumbered tokens (Policy.number Line.counter counts (linesOf tokens))
  | [], _ => rfl
  | .text s :: tokens, counts => by rw [numberedText, linesOf_text, withNumbered, numberedText_eq tokens]
  | .line l :: tokens, counts => by rw [numberedText, linesOf_line, Policy.number, withNumbered, numberedText_eq tokens]

@[simp] theorem linesOf_onLines {α : Type} (l : List α) : linesOf (onLines l) = l := by
  induction l with
  | nil => rfl
  | cons x l ih => exact congrArg (x :: ·) ih

/-- **The lines of the text are those of `neighborFilters`.** -/
theorem linesOf_filterTokens (n : NeighborConfig) : linesOf (filterTokens n) = neighborFilters n := by
  have hproperty : ∀ pl, linesOf (propertyTokens n.id pl) = propertyLines n.id pl := by
    intro pl
    simp [propertyTokens, propertyLines]
  have hout : linesOf (outgoingTokens n) = outgoingLines n := by
    simp [outgoingTokens, outgoingLines, linesOf_flatMap, hproperty]
  have hallowed : linesOf (allowedIncomingTokens n) = allowedIncomingLines n := by
    unfold allowedIncomingTokens allowedIncomingLines
    split <;> simp
  have hdenied : linesOf (deniedIncomingTokens n) = deniedIncomingLines n := by
    unfold deniedIncomingTokens deniedIncomingLines
    split <;> simp
  simp [filterTokens, incomingTokens, neighborFilters, incomingLines, hout, hallowed, hdenied]

/-- **The text has the numbered lines of `renderedFilters`.** -/
theorem filtersText_eq (c : Config) : filtersText c =
    withNumbered (c.neighbors.flatMap (fun n => .text "\n" :: filterTokens n)) (renderedFilters c) := by
  have hlines : linesOf (c.neighbors.flatMap (fun n => .text "\n" :: filterTokens n)) =
      c.neighbors.flatMap neighborFilters := by
    simp only [linesOf_flatMap, linesOf_text, linesOf_filterTokens]
  rw [filtersText, numberedText_eq, hlines]
  rfl

/-! ## Sessions (`neighborsession`) -/

inductive SessionLine
  | interfaceRemoteAs (asn : String)
  | remoteAs (asn : String)
  | ebgpMultihop
  | localAs (asn : Nat)
  | port (number : Nat)
  | timers (keepalive hold : Int)
  | timersConnect (seconds : Int)
  | password (word : String)
  | updateSource (addr : String)
  | gracefulRestart
  | bfd
  | bfdProfile (name : String)
  | disableConnectedCheck
deriving DecidableEq, Repr

def SessionLine.text : SessionLine → String
  | .interfaceRemoteAs asn => s!"interface remote-as {asn}"
  | .remoteAs asn => s!"remote-as {asn}"
  | .ebgpMultihop => "ebgp-multihop"
  | .localAs asn => s!"local-as {asn} no-prepend replace-as"
  | .port number => s!"port {number}"
  | .timers keepalive hold => s!"timers {keepalive} {hold}"
  | .timersConnect seconds => s!"timers connect {seconds}"
  | .password word => "password " ++ word
  | .updateSource addr => s!"update-source {addr}"
  | .gracefulRestart => "graceful-restart"
  | .bfd => "bfd"
  | .bfdProfile name => s!"bfd profile {name}"
  | .disableConnectedCheck => "disable-connected-check"

/-- How the templates name the neighbor to FRR. -/
def NeighborConfig.peer (n : NeighborConfig) : String := if n.iface ≠ "" then n.iface else n.addr

/-- Only for IPv6 eBGP sessions that are not multihop. -/
def mustDisableConnectedCheck (ipFamily : Family) (myASN : Nat) (asn iface : String) (eBGPMultiHop : Bool) : Bool :=
  if ipFamily ≠ .ipv6 then false
  else if eBGPMultiHop then false
  else if iface ≠ "" then true
  else if asn = "internal" then false
  else if asn = "external" then true
  else toString myASN ≠ asn

/-- A line where the template writes one, on a line of its own. -/
def lineIf (p : Prop) [Decidable p] (l : SessionLine) : List (Token SessionLine) :=
  if p then [.text "\n  ", .line l] else []

/-- A line where the template writes one, else what is left of it. -/
def lineOrBlank (p : Prop) [Decidable p] (l : SessionLine) : List (Token SessionLine) :=
  .text "\n  " :: if p then [.line l] else []

def timersTokens (n : NeighborConfig) : List (Token SessionLine) :=
  .text "\n  " :: match n.keepaliveTime, n.holdTime with
    | some keepalive, some hold => [.text "\n  ", .line (.timers keepalive hold)]
    | _, _ => []

def sessionTokens (routerASN : Nat) (n : NeighborConfig) : List (Token SessionLine) :=
  [.text "\n  ", .line (if n.iface ≠ "" then .interfaceRemoteAs n.asn else .remoteAs n.asn)] ++
    lineIf (n.ebgpMultiHop = true) .ebgpMultihop ++
    lineIf (n.localASN ≠ 0) (.localAs n.localASN) ++
    (.text "\n  " :: n.port.elim [] (fun port => [.line (.port port)])) ++
    timersTokens n ++
    n.connectTime.elim [] (fun seconds => [.text "\n  ", .line (.timersConnect seconds)]) ++
    lineOrBlank (n.password ≠ "") (.password n.password) ++
    lineOrBlank (n.srcAddr ≠ "") (.updateSource n.srcAddr) ++
    lineIf (n.gracefulRestart = true) .gracefulRestart ++
    lineIf (n.bfdProfile ≠ "") .bfd ++
    lineIf (n.bfdProfile ≠ "") (.bfdProfile n.bfdProfile) ++
    lineIf (mustDisableConnectedCheck n.ipFamily routerASN n.asn n.iface n.ebgpMultiHop = true) .disableConnectedCheck

def sessionLines (routerASN : Nat) (n : NeighborConfig) : List SessionLine :=
  linesOf (sessionTokens routerASN n)

/-- The command of a line, which names the neighbor; the connected check names its address. -/
def sessionCommand (n : NeighborConfig) (l : SessionLine) : String :=
  s!"neighbor {if l = .disableConnectedCheck then n.addr else n.peer} {l.text}"

def sessionText (routerASN : Nat) (n : NeighborConfig) : String :=
  String.join ((sessionTokens routerASN n).map (fun
    | .text s => s
    | .line l => sessionCommand n l))

/-! ## Address families (`neighborenableipfamily`, `evpn`) -/

def addressFamilyUnicast : String := "unicast"

def activateNeighborFor (family : String) (neighbourFamily : Family) (addressFamilies : Slice String) : Bool :=
  (addressFamilies.elems = [] || addressFamilies.elems.contains addressFamilyUnicast) &&
    (neighbourFamily.string = family || neighbourFamily = .dual)

/-- A block that the template writes under a condition. -/
def textIf (p : Prop) [Decidable p] (s : String) : String := if p then s else ""

def activateText (family : String) (n : NeighborConfig) : String :=
  textIf (activateNeighborFor family n.ipFamily n.addressFamilies = true)
    (s!"\n  address-family {family} unicast\n    neighbor {n.peer} activate" ++
      s!"\n    neighbor {n.peer} route-map {n.id}-in in\n    neighbor {n.peer} route-map {n.id}-out out" ++
      "\n  exit-address-family")

def neighborEnableIPFamily (n : NeighborConfig) : String := "\n" ++ activateText "ipv4" n ++ activateText "ipv6" n

def hasAddressFamilyEVPN (addressFamilies : Slice String) : Bool := addressFamilies.elems.contains addressFamilyEVPN

def hasAdvertiseVNIsAll (advertiseVNIs : Option String) : Bool := advertiseVNIs = some vniAdvertisementAll

def advertisePrefixUnicast : String := "unicast"

def hasAdvertisesEVPNPrefixUnicast (prefixType : String) : Bool := prefixType = advertisePrefixUnicast

/-- The route distinguisher and the route targets of a VNI, each after `lead`. -/
def vniText (lead : String) (p : VNIProperties) : String :=
  textIf (p.rd ≠ "") (lead ++ "rd " ++ p.rd) ++
    String.join (p.importRTs.elems.map (fun rt => lead ++ "route-target import " ++ rt)) ++
    String.join (p.exportRTs.elems.map (fun rt => lead ++ "route-target export " ++ rt))

def l2vniText (v : L2VNI) : String :=
  textIf (v.properties.rd ≠ "" ∨ v.properties.importRTs.elems ≠ [] ∨ v.properties.exportRTs.elems ≠ [])
    (s!"\n    vni {v.vni}" ++ vniText "\n      " v.properties ++ "\n    exit-vni")

def l3vniText (v : L3VNI) : String :=
  String.join (v.advertisePrefixes.elems.map (fun p => textIf (hasAdvertisesEVPNPrefixUnicast p = true)
    "\n    advertise ipv4 unicast\n    advertise ipv6 unicast")) ++ vniText "\n    " v.properties

def evpnText (r : RouterConfig) : String :=
  match r.evpn with
  | none => ""
  | some e =>
    "\n  address-family l2vpn evpn" ++
      String.join (r.neighbors.map (fun n =>
        textIf (hasAddressFamilyEVPN n.addressFamilies = true) s!"\n    neighbor {n.peer} activate")) ++
      textIf (hasAdvertiseVNIsAll e.advertiseVNIs = true) "\n    advertise-all-vni" ++
      textIf (e.advertiseSVI = true) "\n    advertise-svi-ip" ++
      String.join (e.l2vnis.elems.map l2vniText) ++ e.l3vni.elim "" l3vniText ++ "\n  exit-address-family\n"

/-! ## The configuration (`frr.tmpl`) -/

def debugText : String :=
  "\ndebug zebra events\ndebug zebra nht\ndebug zebra kernel\ndebug zebra rib\ndebug zebra nexthop" ++
    "\ndebug bgp neighbor-events\ndebug bgp updates\ndebug bgp keepalives\ndebug bgp nht\ndebug bgp zebra" ++
    "\ndebug bfd network\ndebug bfd peer\ndebug bfd zebra"

def headerText (c : Config) : String :=
  s!"log stdout {c.loglevel}\nlog timestamp precision 3" ++ textIf (c.loglevel = "debugging") debugText ++
    s!"\nhostname {c.hostname}\nip nht resolve-via-default\nipv6 nht resolve-via-default"

def vrfText (r : RouterConfig) : String :=
  match r.evpn.bind EVPNConfig.l3vni with
  | none => ""
  | some v => textIf (r.vrf ≠ "") s!"\n\nvrf {r.vrf}\n  vni {v.vni}\nexit-vrf"

/-- A unicast family with a line for each item. -/
def familyText (family command : String) (items : List String) : String :=
  s!"\n  address-family {family} unicast" ++ String.join (items.map (fun x => s!"\n    {command} {x}")) ++
    "\n  exit-address-family"

def routerText (r : RouterConfig) : String :=
  s!"router bgp {r.myASN}" ++ textIf (r.vrf ≠ "") s!" vrf {r.vrf}" ++
    "\n  no bgp ebgp-requires-policy\n  no bgp network import-check" ++
    "\n  no bgp default ipv4-unicast\n  bgp graceful-restart preserve-fw-state\n" ++
    textIf (r.routerID ≠ "") s!"\n  bgp router-id {r.routerID}" ++
    textIf (r.importVRFs ≠ [])
      (familyText "ipv4" "import vrf" r.importVRFs ++ familyText "ipv6" "import vrf" r.importVRFs) ++
    String.join (r.neighbors.map (sessionText r.myASN)) ++ String.join (r.neighbors.map neighborEnableIPFamily) ++
    textIf (r.ipv4Prefixes ≠ []) (familyText "ipv4" "network" r.ipv4Prefixes ++ "\n") ++
    textIf (r.ipv6Prefixes ≠ []) (familyText "ipv6" "network" r.ipv6Prefixes ++ "\n") ++ evpnText r ++ "\n"

/-- A setting of a profile, where it is given. -/
def settingText (command : String) (value : Option Nat) : String := value.elim "" (fun v => s!"{command} {v}\n    ")

def bfdProfileText (p : BFDProfile) : String :=
  s!"\n  profile {p.name}\n    " ++ settingText "receive-interval" p.receiveInterval ++
    settingText "transmit-interval" p.transmitInterval ++ settingText "detect-multiplier" p.detectMultiplier ++
    textIf (p.echoMode = true) "echo-mode\n    " ++ settingText "echo transmit-interval" p.echoInterval ++
    settingText "echo receive-interval" p.echoInterval ++ textIf (p.passiveMode = true) "passive-mode\n    " ++
    settingText "minimum-ttl" p.minimumTTL

def templateConfig (c : Config) : String :=
  headerText c ++ filtersText c ++ String.join (c.routers.map vrfText) ++ "\n\n" ++
  String.join (c.routers.map routerText) ++
    textIf (c.bfdProfiles ≠ []) ("\nbfd" ++ String.join (c.bfdProfiles.map bfdProfileText)) ++
    textIf (c.extraConfig ≠ "") ("\n" ++ c.extraConfig) ++ "\n"

end FrrK8s
