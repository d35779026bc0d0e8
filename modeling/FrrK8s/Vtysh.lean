import FrrK8s.Converge
/-!
# Vtysh — what FRR reports, and the metrics made of it (`parse.go`, `vtysh`, `collector`)

FRR answers commands in JSON: the VRFs, and for each of them the neighbors, the BFD peers and their counters.  A scrape
asks for all of it and sends one metric for each number; the registry drops a metric with the name and the labels of one
it already has, and the handler serves the others (`ContinueOnError`).  Neighbors are the keys of an object, so none of
theirs is dropped.  BFD peers are a list, which may have two sessions with one address, and then the second one's are
(`scrape_whole_iff`).  `json.Unmarshal` and the Prometheus library are parameters, and maps are gone through in any
order.
-/
namespace FrrK8s
namespace Vtysh

/-! ## Answers -/

/-- What a command prints, or the error of `vtysh`. -/
abbrev Cli := String → Except String String

structure MessageStats where
  opensSent : Int := 0
  opensReceived : Int := 0
  notificationsSent : Int := 0
  updatesSent : Int := 0
  updatesReceived : Int := 0
  keepalivesSent : Int := 0
  keepalivesReceived : Int := 0
  routeRefreshSent : Int := 0
  totalSent : Int := 0
  totalReceived : Int := 0
deriving DecidableEq, Repr

structure PrefixCounters where
  sentPrefixCounter : Int := 0
  acceptedPrefixCounter : Int := 0
deriving DecidableEq, Repr

/-- The fields of `FRRNeighbor` that are read. -/
structure FRRNeighbor where
  remoteAs : Int := 0
  localAs : Int := 0
  remoteRouterID : String := ""
  bgpState : String := ""
  portForeign : Int := 0
  msgStats : MessageStats := {}
  addressFamilyInfo : SortedMap String PrefixCounters := .empty
  bfdStatus : String := ""

structure Neighbor where
  id : String
  bgpState : String := ""
  connected : Bool := false
  localAS : String := ""
  remoteAS : String := ""
  prefixSent : Int := 0
  prefixReceived : Int := 0
  port : Int := 0
  remoteRouterID : String := ""
  msgStats : MessageStats := {}
  bfdStatus : String := ""
deriving DecidableEq, Repr

def Neighbor.metricName (n : Neighbor) : String := n.id

structure BFDPeer where
  peer : String
  interface : String := ""
  status : String := ""
deriving DecidableEq, Repr

structure BFDPeerCounters where
  peer : String
  controlPacketInput : Int := 0
  controlPacketOutput : Int := 0
  echoPacketInput : Int := 0
  echoPacketOutput : Int := 0
  sessionUpEvents : Int := 0
  sessionDownEvents : Int := 0
  zebraNotifications : Int := 0
deriving DecidableEq, Repr

/-- `json.Unmarshal` into each of the types that are read; of the object of the VRFs only the keys are. -/
structure Json where
  neighbors : String → Except String (SortedMap String FRRNeighbor)
  bfdPeers : String → Except String (List BFDPeer)
  bfdPeersCounters : String → Except String (List BFDPeerCounters)
  vrfs : String → Except String (SortedSet String)

/-! ## Parsing -/

def bgpConnected : String := "Established"

/-- The text of `errors.Join` of the error and a new one. -/
def joined {α : Type} (text : String) : Except String α → Except String α
  | .error err => .error (err ++ "\n" ++ text)
  | .ok a => .ok a

section

variable (json : Json) (order : RangeOrder)

/-- The body of the loop of `ParseNeighbours`. -/
def neighborFor (id : String) (n : FRRNeighbor) : Neighbor :=
  let counters := (order.range n.addressFamilyInfo.entries).map Prod.snd
  { id := id
    bgpState := n.bgpState
    connected := n.bgpState = bgpConnected
    localAS := toString n.localAs
    remoteAS := toString n.remoteAs
    prefixSent := counters.foldl (fun sent s => sent + s.sentPrefixCounter) 0
    prefixReceived := counters.foldl (fun received s => received + s.acceptedPrefixCounter) 0
    port := n.portForeign
    remoteRouterID := n.remoteRouterID
    msgStats := n.msgStats
    bfdStatus := n.bfdStatus }

def parseNeighbours (vtyshRes : String) : Except String (List Neighbor) := do
  let toParse ← joined "failed to parse vtysh response" (json.neighbors vtyshRes)
  return (order.range toParse.entries).map (fun e => neighborFor order e.1 e.2)

def parseBFDPeers (vtyshRes : String) : Except String (List BFDPeer) :=
  joined "failed to parse vtysh response" (json.bfdPeers vtyshRes)

/-- The VRFs, sorted. -/
def parseVRFs (vtyshRes : String) : Except String (List String) := do
  let vrfs ← joined "parseVRFs: failed to parse vtysh response" (json.vrfs vtyshRes)
  return vrfs.toList

/-! ## Commands -/

def vrfs (frrCli : Cli) : Except String (List String) := do
  parseVRFs json (← frrCli "show bgp vrf all json")

/-- The VRFs are asked for, and then something of each. -/
def perVRF {α : Type} (command : String → String) (parse : String → Except String (List α)) (frrCli : Cli) :
    Except String (SortedMap String (List α)) := do
  SortedMap.collect (fun vrf => do parse (← frrCli (command vrf))) (← vrfs json frrCli)

def getBGPNeighbors : Cli → Except String (SortedMap String (List Neighbor)) :=
  perVRF json (fun vrf => s!"show bgp vrf {vrf} neighbors json") (parseNeighbours json order)

def getBFDPeers : Cli → Except String (SortedMap String (List BFDPeer)) :=
  perVRF json (fun vrf => s!"show bfd vrf {vrf} peers json") (parseBFDPeers json)

def getBFDPeersCounters : Cli → Except String (SortedMap String (List BFDPeerCounters)) :=
  perVRF json (fun vrf => s!"show bfd vrf {vrf} peers counters json") json.bfdPeersCounters

end

/-! ## Metrics -/

inductive ValueType
  | gauge
  | counter
deriving DecidableEq, Repr

structure Metric where
  fqName : String
  valueType : ValueType
  value : Int
  peer : String
  vrf : String
deriving DecidableEq, Repr

/-- `BuildFQName` of the namespace, for a name that is not empty. -/
def buildFQName (subsystem name : String) : String := "frrk8s_" ++ subsystem ++ "_" ++ name

/-- The metrics of a neighbor, in the order they are sent in. -/
def neighborMetrics (vrf : String) (n : Neighbor) : List Metric :=
  let send (name : String) (valueType : ValueType) (value : Int) : Metric :=
    ⟨buildFQName "bgp" name, valueType, value, n.metricName, vrf⟩
  [send "session_up" .gauge (if n.connected then 1 else 0),
    send "announced_prefixes_total" .gauge n.prefixSent,
    send "received_prefixes_total" .gauge n.prefixReceived,
    send "opens_sent" .counter n.msgStats.opensSent,
    send "opens_received" .counter n.msgStats.opensReceived,
    send "notifications_sent" .counter n.msgStats.notificationsSent,
    send "updates_total" .counter n.msgStats.updatesSent,
    send "updates_total_received" .counter n.msgStats.updatesReceived,
    send "keepalives_sent" .counter n.msgStats.keepalivesSent,
    send "keepalives_received" .counter n.msgStats.keepalivesReceived,
    send "route_refresh_sent" .counter n.msgStats.routeRefreshSent,
    send "total_sent" .counter n.msgStats.totalSent,
    send "total_received" .counter n.msgStats.totalReceived]

def peerMetrics (vrf : String) (p : BFDPeer) : List Metric :=
  [⟨buildFQName "bfd" "session_up", .gauge, if p.status = "up" then 1 else 0, p.peer, vrf⟩]

def counterMetrics (vrf : String) (p : BFDPeerCounters) : List Metric :=
  let send (name : String) (value : Int) : Metric := ⟨buildFQName "bfd" name, .counter, value, p.peer, vrf⟩
  [send "control_packet_input" p.controlPacketInput,
    send "control_packet_output" p.controlPacketOutput,
    send "echo_packet_input" p.echoPacketInput,
    send "echo_packet_output" p.echoPacketOutput,
    send "session_up_events" p.sessionUpEvents,
    send "session_down_events" p.sessionDownEvents,
    send "zebra_notifications" p.zebraNotifications]

section

variable (order : RangeOrder)

/-- The loops of the functions that send metrics. -/
def update {α : Type} (metrics : String → α → List Metric) (perVRF : SortedMap String (List α)) : List Metric :=
  (order.range perVRF.entries).flatMap (fun e => e.2.flatMap (metrics e.1))

def updateNeighborsMetrics : SortedMap String (List Neighbor) → List Metric := update order neighborMetrics

def updatePeersMetrics : SortedMap String (List BFDPeer) → List Metric := update order peerMetrics

def updatePeersCountersMetrics : SortedMap String (List BFDPeerCounters) → List Metric := update order counterMetrics

variable (json : Json)

/-- `Collect` of the BGP collector; an error is logged and nothing is sent. -/
def collectBGP (frrCli : Cli) : List Metric :=
  match getBGPNeighbors json order frrCli with
  | .error _ => []
  | .ok neighbors => updateNeighborsMetrics order neighbors

/-- `Collect` of the BFD collector, which asks twice; FRR may answer the second time as it did not the first. -/
def collectBFD (frrCli frrCli' : Cli) : List Metric :=
  match getBFDPeers json frrCli with
  | .error _ => []
  | .ok peers =>
    updatePeersMetrics order peers ++
      match getBFDPeersCounters json frrCli' with
      | .error _ => []
      | .ok peersCounters => updatePeersCountersMetrics order peersCounters

end

/-- What the registry tells metrics apart by. -/
def Metric.id (m : Metric) : String × String × String := (m.fqName, m.peer, m.vrf)

/-! ## The handler (`exporter.go`) -/

/-- `promhttp.HandlerErrorHandling`. -/
inductive ErrorHandling
  | httpErrorOnError
  | continueOnError
  | panicOnError
deriving DecidableEq, Repr

/-- What a scrape is answered. -/
inductive Response
  | metrics (served : List Metric)
  | error (text : String)
  | panics
deriving DecidableEq, Repr

/-- **The Prometheus library**, as far as it is assumed here. -/
structure Prometheus where
  /-- `Gather` of a registry whose collectors send these metrics: the metrics it keeps, and its error. -/
  gather : List Metric → List Metric × Option String
  nodup : ∀ collected, (gather collected).1.Nodup
  /-- Of the metrics with one name and the same labels the first is kept. -/
  keeps_iff : ∀ collected m, m ∈ (gather collected).1 ↔ collected.find? (fun x => x.id = m.id) = some m
  /-- A metric that is not kept is an error. -/
  error_iff : ∀ collected, (gather collected).2 ≠ none ↔ ¬ (collected.map Metric.id).Nodup
  /-- `promhttp.HandlerFor`, of what was gathered. -/
  handlerFor : ErrorHandling → List Metric × Option String → Response
  serves : ∀ handling metrics, handlerFor handling (metrics, none) = .metrics metrics
  /-- With `ContinueOnError` an error is answered only if there are no metrics. -/
  continues : ∀ metrics err, metrics ≠ [] → handlerFor .continueOnError (metrics, some err) = .metrics metrics

/-- `promHandler`, of what the two collectors send.  The metrics of the Go runtime have other names and are left out. -/
def promHandler (lib : Prometheus) (collected : List Metric) : Response :=
  lib.handlerFor .continueOnError (lib.gather collected)

section

variable (lib : Prometheus) {collected : List Metric}

theorem mem_of_mem_gather {m : Metric} (h : m ∈ (lib.gather collected).1) : m ∈ collected :=
  List.mem_of_find?_eq_some ((lib.keeps_iff collected m).1 h)

/-- For each metric one of its name and labels is kept. -/
theorem exists_mem_gather {m : Metric} (hm : m ∈ collected) : ∃ x ∈ (lib.gather collected).1, x.id = m.id := by
  have hsome : (collected.find? (fun x => x.id = m.id)).isSome = true :=
    List.find?_isSome.2 ⟨m, hm, decide_eq_true rfl⟩
  obtain ⟨x, hx⟩ := Option.isSome_iff_exists.1 hsome
  have hid : x.id = m.id := by simpa using List.find?_some hx
  rw [← hid] at hx
  exact ⟨x, (lib.keeps_iff collected x).2 hx, hid⟩

/-- A metric that no other is taken for is kept. -/
theorem mem_gather_of_unique {m : Metric} (hm : m ∈ collected) (hone : ∀ x ∈ collected, x.id = m.id → x = m) :
    m ∈ (lib.gather collected).1 := by
  obtain ⟨x, hx, hid⟩ := exists_mem_gather lib hm
  rw [← hone x (mem_of_mem_gather lib hx) hid]
  exact hx

/-- The metrics that are kept are told apart. -/
theorem gather_ids_nodup : ((lib.gather collected).1.map Metric.id).Nodup := by
  refine (List.nodup_map_iff_inj_on (lib.nodup collected)).2 (fun m hm m' hm' hid => ?_)
  rw [lib.keeps_iff] at hm hm'
  rw [hid] at hm
  exact Option.some.inj (hm.symm.trans hm')

/-- **Nothing is dropped if no two metrics have one name and the same labels.** -/
theorem gather_perm_iff : (lib.gather collected).1.Perm collected ↔ (collected.map Metric.id).Nodup := by
  constructor
  · intro hperm
    exact (hperm.map Metric.id).nodup_iff.1 (gather_ids_nodup lib)
  · intro hids
    refine (List.perm_ext_iff_of_nodup (lib.nodup collected) hids.of_map).2 (fun m => ?_)
    refine ⟨mem_of_mem_gather lib, fun hm => mem_gather_of_unique lib hm (fun x hx hid => ?_)⟩
    exact List.inj_on_of_nodup_map hids hx hm hid

/-- **A scrape is served what the registry keeps**, whether it had an error or not. -/
theorem promHandler_serves : promHandler lib collected = .metrics (lib.gather collected).1 := by
  unfold promHandler
  have herror := lib.error_iff collected
  have hnil : (lib.gather collected).1 = [] → collected = [] := by
    intro hnil
    by_contra hne
    obtain ⟨m, hm⟩ := List.exists_mem_of_ne_nil collected hne
    obtain ⟨x, hx, -⟩ := exists_mem_gather lib hm
    rw [hnil] at hx
    exact List.not_mem_nil hx
  rcases hgather : lib.gather collected with ⟨metrics, _ | err⟩
  · exact lib.serves _ metrics
  · rw [hgather] at hnil herror
    refine lib.continues metrics err (fun hmetrics => ?_)
    rw [hnil hmetrics] at herror
    exact herror.1 (by simp) List.nodup_nil

end

/-! ## Names and labels -/

section

variable {names : List String}

/-- The metrics of one VRF have different labels if its peers are different. -/
theorem nodup_series (hnames : names.Nodup) (hne : names ≠ []) (vrf : String) (peers : List String) :
    (peers.flatMap (fun p => names.map (fun n => (n, p, vrf)))).Nodup ↔ peers.Nodup := by
  rw [List.nodup_flatMap]
  constructor
  · rintro ⟨-, hapart⟩
    refine hapart.imp (fun {p q} hdisjoint heq => ?_)
    obtain ⟨n, hn⟩ := List.exists_mem_of_ne_nil names hne
    exact hdisjoint (List.mem_map_of_mem hn) (heq ▸ List.mem_map_of_mem hn)
  · intro hpeers
    refine ⟨fun p _ => hnames.map (fun a b h => congrArg Prod.fst h), hpeers.imp (fun {p q} hpq x hx hx' => ?_)⟩
    obtain ⟨n, -, rfl⟩ := List.mem_map.1 hx
    obtain ⟨n', -, heq⟩ := List.mem_map.1 hx'
    exact hpq (congrArg (fun y => y.2.1) heq).symm

/-- **The metrics of a map have different labels if no VRF of it has a peer twice.** -/
theorem nodup_update {α : Type} {metrics : String → α → List Metric} {peer : α → String} (order : RangeOrder)
    (hnames : names.Nodup) (hne : names ≠ [])
    (hids : ∀ vrf a, (metrics vrf a).map Metric.id = names.map (fun n => (n, peer a, vrf)))
    (m : SortedMap String (List α)) :
    ((update order metrics m).map Metric.id).Nodup ↔ ∀ vrf xs, m.find? vrf = some xs → (xs.map peer).Nodup := by
  have hentry : ∀ e : String × List α, (e.2.flatMap (metrics e.1)).map Metric.id =
      (e.2.map peer).flatMap (fun p => names.map (fun n => (n, p, e.1))) := by
    intro e
    rw [List.map_flatMap, List.flatMap_map]
    exact List.flatMap_congr (fun a _ => hids e.1 a)
  have hkeys : (order.range m.entries).Pairwise (fun e e' => e.1 ≠ e'.1) :=
    ((order.perm m.entries).pairwise_iff (fun h => h.symm)).2 (m.sorted.imp (fun h => h.ne))
  rw [update, List.map_flatMap, List.flatMap_congr (fun e _ => hentry e), List.nodup_flatMap]
  constructor
  · rintro ⟨hall, -⟩ vrf xs hxs
    have hmem := (order.perm m.entries).mem_iff.2 ((SortedMap.find?_eq_some ..).1 hxs)
    exact (nodup_series hnames hne vrf _).1 (hall _ hmem)
  · intro hall
    refine ⟨fun e he => ?_, hkeys.imp (fun {e e'} hvrf x hx hx' => ?_)⟩
    · have hfind := (SortedMap.find?_eq_some m e.1 e.2).2 ((order.perm m.entries).mem_iff.1 he)
      exact (nodup_series hnames hne e.1 _).2 (hall e.1 e.2 hfind)
    · obtain ⟨p, -, hx⟩ := List.mem_flatMap.1 hx
      obtain ⟨p', -, hx'⟩ := List.mem_flatMap.1 hx'
      obtain ⟨n, -, rfl⟩ := List.mem_map.1 hx
      obtain ⟨n', -, heq⟩ := List.mem_map.1 hx'
      exact hvrf (congrArg (fun y => y.2.2) heq).symm

end

def neighborNames : List String :=
  ["session_up", "announced_prefixes_total", "received_prefixes_total", "opens_sent", "opens_received",
  "notifications_sent",
    "updates_total", "updates_total_received", "keepalives_sent", "keepalives_received",
    "route_refresh_sent", "total_sent", "total_received"].map (buildFQName "bgp")

def peerNames : List String := [buildFQName "bfd" "session_up"]

def counterNames : List String :=
  ["control_packet_input", "control_packet_output", "echo_packet_input", "echo_packet_output", "session_up_events",
    "session_down_events", "zebra_notifications"].map (buildFQName "bfd")

theorem neighborMetrics_ids (vrf : String) (n : Neighbor) :
    (neighborMetrics vrf n).map Metric.id = neighborNames.map (fun name => (name, n.id, vrf)) := rfl

theorem peerMetrics_ids (vrf : String) (p : BFDPeer) :
    (peerMetrics vrf p).map Metric.id = peerNames.map (fun name => (name, p.peer, vrf)) := rfl

theorem counterMetrics_ids (vrf : String) (p : BFDPeerCounters) :
    (counterMetrics vrf p).map Metric.id = counterNames.map (fun name => (name, p.peer, vrf)) := rfl

/-- The name of a metric of a map is one of the names. -/
theorem fqName_of_update {α : Type} {metrics : String → α → List Metric} {peer : α → String} {names : List String}
    {order : RangeOrder} (hids : ∀ vrf a, (metrics vrf a).map Metric.id = names.map (fun n => (n, peer a, vrf)))
    {m : SortedMap String (List α)} {x : Metric} (hx : x ∈ update order metrics m) : x.fqName ∈ names := by
  obtain ⟨e, -, hx⟩ := List.mem_flatMap.1 hx
  obtain ⟨a, -, hx⟩ := List.mem_flatMap.1 hx
  have hid := List.mem_map_of_mem (f := Metric.id) hx
  rw [hids] at hid
  obtain ⟨n, hn, heq⟩ := List.mem_map.1 hid
  have hname : n = x.fqName := congrArg Prod.fst heq
  exact hname ▸ hn

/-- Metrics of different names have different labels. -/
theorem nodup_append_names {l l' : List Metric} {names names' : List String} (hl : ∀ x ∈ l, x.fqName ∈ names)
    (hl' : ∀ x ∈ l', x.fqName ∈ names') (hnames : ∀ n ∈ names, n ∉ names') :
    ((l ++ l').map Metric.id).Nodup ↔ (l.map Metric.id).Nodup ∧ (l'.map Metric.id).Nodup := by
  rw [List.map_append, List.nodup_append', and_congr_right_iff]
  refine fun _ => and_iff_left (fun i hi hi' => ?_)
  obtain ⟨x, hx, rfl⟩ := List.mem_map.1 hi
  obtain ⟨y, hy, heq⟩ := List.mem_map.1 hi'
  have hname : y.fqName = x.fqName := congrArg Prod.fst heq
  exact hnames _ (hl x hx) (hname ▸ hl' y hy)

section

variable {json : Json} {order : RangeOrder} {frrCli frrCli' : Cli}

/-- **What is found for a VRF is what FRR answered for it.** -/
theorem find?_perVRF {α : Type} {command : String → String} {parse : String → Except String (List α)}
    {m : SortedMap String (List α)} (h : perVRF json command parse frrCli = .ok m) {vrf : String} {xs : List α}
    (hxs : m.find? vrf = some xs) : ∃ res, frrCli (command vrf) = .ok res ∧ parse res = .ok xs := by
  obtain ⟨ks, -, hcollect⟩ := (bind_eq_ok _ _ _).1 h
  exact (bind_eq_ok _ _ _).1 ((find?_collect hcollect vrf xs).1 hxs).2

/-- Neighbors are the keys of an object. -/
theorem parseNeighbours_ids {vtyshRes : String} {ns : List Neighbor}
    (h : parseNeighbours json order vtyshRes = .ok ns) : (ns.map Neighbor.id).Nodup := by
  obtain ⟨toParse, -, hns⟩ := (bind_eq_ok _ _ _).1 h
  obtain rfl := Except.ok.inj hns
  rw [List.map_map]
  exact (((order.perm toParse.entries).map Prod.fst).nodup_iff).2 (nodup_map_of_pairwise_lt toParse.sorted)

/-- The metrics of the neighbors have different labels. -/
theorem collectBGP_nodup : ((collectBGP order json frrCli).map Metric.id).Nodup := by
  unfold collectBGP
  split
  · exact List.nodup_nil
  · rename_i neighbors hget
    refine (nodup_update order (by decide +kernel) (by decide) neighborMetrics_ids neighbors).2 (fun vrf ns hns => ?_)
    obtain ⟨res, -, hparse⟩ := find?_perVRF hget hns
    exact parseNeighbours_ids hparse

/-- No VRF lists a BFD peer twice, in either answer. -/
def BFDPeersApart (json : Json) (frrCli frrCli' : Cli) : Prop :=
  ∀ peers, getBFDPeers json frrCli = .ok peers →
    (∀ vrf ps, peers.find? vrf = some ps → (ps.map BFDPeer.peer).Nodup) ∧
    ∀ counters, getBFDPeersCounters json frrCli' = .ok counters →
      ∀ vrf ps, counters.find? vrf = some ps → (ps.map BFDPeerCounters.peer).Nodup

theorem collectBFD_nodup :
    ((collectBFD order json frrCli frrCli').map Metric.id).Nodup ↔ BFDPeersApart json frrCli frrCli' := by
  unfold collectBFD BFDPeersApart
  cases hpeers : getBFDPeers json frrCli with
  | error err => exact iff_of_true List.nodup_nil (fun _ h => by cases h)
  | ok peers =>
    have hfirst := nodup_update order (by decide +kernel) (by decide) peerMetrics_ids peers
    cases hcounters : getBFDPeersCounters json frrCli' with
    | error err =>
      simp only [List.append_nil, Except.ok.injEq, forall_eq', reduceCtorEq, false_implies, implies_true, and_true]
      exact hfirst
    | ok counters =>
      have hsecond := nodup_update order (by decide +kernel) (by decide) counterMetrics_ids counters
      simp only [Except.ok.injEq, forall_eq']
      rw [← hfirst, ← hsecond]
      exact nodup_append_names (fun x hx => fqName_of_update peerMetrics_ids hx)
        (fun x hx => fqName_of_update counterMetrics_ids hx) (by decide +kernel)

theorem fqName_of_collectBGP {x : Metric} (hx : x ∈ collectBGP order json frrCli) : x.fqName ∈ neighborNames := by
  unfold collectBGP at hx
  split at hx
  · exact absurd hx List.not_mem_nil
  · exact fqName_of_update neighborMetrics_ids hx

theorem fqName_of_collectBFD {x : Metric} (hx : x ∈ collectBFD order json frrCli frrCli') :
    x.fqName ∈ peerNames ++ counterNames := by
  unfold collectBFD at hx
  split at hx
  · exact absurd hx List.not_mem_nil
  rw [List.mem_append]
  refine (List.mem_append.1 hx).imp (fqName_of_update peerMetrics_ids) (fun hx => ?_)
  split at hx
  · exact absurd hx List.not_mem_nil
  · exact fqName_of_update counterMetrics_ids hx

end

/-- **A scrape serves every metric of a neighbor, and all there is exactly if no VRF lists a BFD peer twice**, in
whichever order the two collectors send what they collect. -/
theorem scrape_whole_iff (lib : Prometheus) (json : Json) (order : RangeOrder) (bgpCli bfdCli bfdCli' : Cli)
    (collected : List Metric)
    (hcollected : collected.Perm (collectBGP order json bgpCli ++ collectBFD order json bfdCli bfdCli')) :
    ∃ served, promHandler lib collected = .metrics served ∧
      (∀ neighbors, getBGPNeighbors json order bgpCli = .ok neighbors → ∀ vrf ns, neighbors.find? vrf = some ns →
        ∀ n ∈ ns, ∀ m ∈ neighborMetrics vrf n, m ∈ served) ∧
      (served.Perm collected ↔ BFDPeersApart json bfdCli bfdCli') := by
  have hnames : ∀ n ∈ neighborNames, n ∉ peerNames ++ counterNames := by decide +kernel
  refine ⟨_, promHandler_serves lib, ?_, ?_⟩
  · intro neighbors hget vrf ns hns n hn m hm
    have hmem : m ∈ collectBGP order json bgpCli := by
      rw [collectBGP, hget]
      have hentry := (order.perm neighbors.entries).mem_iff.2 ((SortedMap.find?_eq_some ..).1 hns)
      exact List.mem_flatMap.2 ⟨(vrf, ns), hentry, List.mem_flatMap.2 ⟨n, hn, hm⟩⟩
    refine mem_gather_of_unique lib (hcollected.mem_iff.2 (List.mem_append_left _ hmem)) (fun x hx hid => ?_)
    obtain hx | hx := List.mem_append.1 (hcollected.mem_iff.1 hx)
    · exact List.inj_on_of_nodup_map collectBGP_nodup hx hmem hid
    · have hname : x.fqName = m.fqName := congrArg Prod.fst hid
      exact (hnames _ (fqName_of_collectBGP hmem) (hname ▸ fqName_of_collectBFD hx)).elim
  · rw [gather_perm_iff, (hcollected.map Metric.id).nodup_iff,
      nodup_append_names (fun x hx => fqName_of_collectBGP hx) (fun x hx => fqName_of_collectBFD hx) hnames,
      collectBFD_nodup]
    exact and_iff_right collectBGP_nodup

/-- The first metric of each name and labels. -/
def firsts : List Metric → List Metric
  | [] => []
  | m :: l => m :: (firsts l).filter (fun x => x.id ≠ m.id)

theorem nodup_firsts : ∀ l : List Metric, (firsts l).Nodup
  | [] => List.nodup_nil
  | _ :: l => List.nodup_cons.2 ⟨fun h => of_decide_eq_true (List.mem_filter.1 h).2 rfl, (nodup_firsts l).filter _⟩

theorem mem_firsts (m : Metric) : ∀ l : List Metric, m ∈ firsts l ↔ l.find? (fun x => x.id = m.id) = some m
  | [] => by simp [firsts]
  | x :: l => by
    rw [firsts, List.mem_cons, List.mem_filter, mem_firsts m l, List.find?_cons]
    by_cases hid : x.id = m.id
    · simp [hid, eq_comm]
    · have hne : m ≠ x := fun h => hid (h ▸ rfl)
      simp [hid, Ne.symm hid, hne]

/-- A library that keeps the metrics in the order in which they were sent. -/
def plainPrometheus : Prometheus where
  gather collected := (firsts collected, if (collected.map Metric.id).Nodup then none else some "collected before")
  nodup := nodup_firsts
  keeps_iff collected m := mem_firsts m collected
  error_iff collected := by
    dsimp only
    split <;> simp_all
  handlerFor handling gathered :=
    match gathered.2, handling with
    | none, _ => .metrics gathered.1
    | some err, .continueOnError => if gathered.1 = [] then .error err else .metrics gathered.1
    | some err, .httpErrorOnError => .error err
    | some _, .panicOnError => .panics
  serves _ _ := rfl
  continues _ _ h := if_neg h

/-- One neighbor, and two links with a BFD session to the same link-local address. -/
def twoLinks : Json where
  vrfs _ := .ok (SortedSet.ofList ["default"])
  neighbors _ := .ok (SortedMap.empty.insert "192.0.2.1" { bgpState := "Established" })
  bfdPeers _ := .ok [⟨"fe80::1", "eth0", "up"⟩, ⟨"fe80::1", "eth1", "down"⟩]
  bfdPeersCounters _ := .ok [{ peer := "fe80::1" }, { peer := "fe80::1" }]

def twoLinksScrape : List Metric :=
  collectBGP inOrder twoLinks (fun _ => .ok "") ++ collectBFD inOrder twoLinks (fun _ => .ok "") (fun _ => .ok "")

/-- The second of the two sessions is down, which is not told. -/
theorem scrape_whole_iff_twoLinks : ∃ served, promHandler plainPrometheus twoLinksScrape = .metrics served ∧
    ¬ served.Perm twoLinksScrape ∧ ⟨"frrk8s_bgp_session_up", .gauge, 1, "192.0.2.1", "default"⟩ ∈ served ∧
      served.filter (fun m => m.fqName = "frrk8s_bfd_session_up") =
        [⟨"frrk8s_bfd_session_up", .gauge, 1, "fe80::1", "default"⟩] := by
  obtain ⟨served, hresponse, hserved, hiff⟩ := scrape_whole_iff plainPrometheus twoLinks inOrder (fun _ => .ok "")
    (fun _ => .ok "") (fun _ => .ok "") twoLinksScrape (List.Perm.refl _)
  refine ⟨served, hresponse, fun hwhole => ?_, ?_, ?_⟩
  · have hapart := (hiff.1 hwhole _ rfl).1 "default" [⟨"fe80::1", "eth0", "up"⟩, ⟨"fe80::1", "eth1", "down"⟩]
      (by decide +kernel)
    exact absurd hapart (by decide)
  · refine hserved _ rfl "default" [neighborFor inOrder "192.0.2.1" { bgpState := "Established" }] ?_ _
      (List.mem_singleton_self _) _
      (List.mem_cons_self ..)
    decide +kernel
  · have hfirsts : served = firsts twoLinksScrape := by
      rw [promHandler_serves] at hresponse
      exact (Response.metrics.inj hresponse).symm
    rw [hfirsts]
    decide +kernel

end Vtysh
end FrrK8s
