import FrrK8s.NetExpanded
import FrrK8s.Runs
import FrrK8s.Vtysh
/-!
# Published — the sessions of FRR in the `BGPSessionState` objects, run after run

The status exporter of each node asks its FRR for the sessions and brings the objects in line with them; all exporters
work on the objects of one API server, and anyone else may change these.  FRR prints an address in one way and names no
interface with more than 15 characters, so the labels tell the peers of a VRF apart (`labelFormatForNeighbor_inj`).  The
objects of a node are then those of the sessions its FRR reported last, whatever the other nodes do
(`sessions_published`).  A reconcile is one step, as in `reconcileSessions`; one that listed objects from a cache that
lags, or of which a call failed, is a change by someone else.
-/
namespace FrrK8s

/-! ## Labels -/

/-- A peer as FRR prints it: an address without a zone, of which there is one text, or the name of an interface. -/
def printed (text : Net.Addr → String) (id : String) : Bool :=
  match Net.parseAddrZone id.toList with
  | none => id.length ≤ 15
  | some (addr, zone) => zone = [] && id = text addr

/-- The label of an IPv6 address. -/
def expandedLabel (ip : Nat) : List Char := (Net.stringExpanded ip []).toList.map (fun c => if c = ':' then '-' else c)

theorem length_expandedLabel (ip : Nat) : (expandedLabel ip).length = 39 := by
  rw [expandedLabel, List.length_map, Net.length_stringExpanded]

theorem dot_not_mem_expandedLabel (ip : Nat) : '.' ∉ expandedLabel ip := by
  intro hdot
  obtain ⟨c, hc, heq⟩ := List.mem_map.1 hdot
  split at heq
  · exact absurd heq (by decide)
  · exact (Net.stringExpanded_char hc).1 heq

theorem expandedLabel_inj {ip ip' : Nat} (hip : ip < 2 ^ 128) (hip' : ip' < 2 ^ 128)
    (h : expandedLabel ip = expandedLabel ip') : ip = ip' := by
  unfold expandedLabel at h
  refine Net.stringExpanded_inj hip hip' (map_inj_of_mem ?_ h)
  intro a ha b hb heq
  have hdash := (Net.stringExpanded_char ha).2
  have hdash' := (Net.stringExpanded_char hb).2
  split at heq <;> split at heq
  · simp_all
  · exact (hdash' heq.symm).elim
  · exact (hdash heq).elim
  · exact heq

theorem labelFormatForNeighbor_cases {text : Net.Addr → String} {id : String} (h : printed text id = true) :
    (labelFormatForNeighbor id = id ∧ ('.' ∈ id.toList ∨ id.length ≤ 15)) ∨
      ∃ ip < 2 ^ 128, id = text ⟨128, ip⟩ ∧ (labelFormatForNeighbor id).toList = expandedLabel ip := by
  unfold printed at h
  unfold labelFormatForNeighbor
  cases hparse : Net.parseAddrZone id.toList with
  | none =>
    rw [hparse] at h
    exact .inl ⟨rfl, .inr (by simpa using h)⟩
  | some parsed =>
    obtain ⟨⟨bitLen, ip⟩, zone⟩ := parsed
    rw [hparse] at h
    obtain ⟨rfl, htext⟩ : zone = [] ∧ id = text ⟨bitLen, ip⟩ := by simpa using h
    obtain ⟨hlen, hdot⟩ | ⟨hlen, hip⟩ := Net.parseAddrZone_cases hparse
    · exact .inl ⟨if_pos hlen, .inl hdot⟩
    · simp only at hlen hip
      subst hlen
      exact .inr ⟨ip, hip, htext, by simp [expandedLabel]⟩

/-- **The labels tell the peers apart that FRR prints.** -/
theorem labelFormatForNeighbor_inj {text : Net.Addr → String} {id id' : String} (h : printed text id = true)
    (h' : printed text id' = true) (heq : labelFormatForNeighbor id = labelFormatForNeighbor id') : id = id' := by
  -- the label of an IPv6 address is longer than the name of an interface, and has no dot
  have hapart : ∀ {id : String} {ip : Nat}, id.toList = expandedLabel ip → '.' ∈ id.toList ∨
      id.length ≤ 15 → False := by
    intro id ip hlabel hother
    obtain hdot | hlength := hother
    · exact dot_not_mem_expandedLabel ip (hlabel ▸ hdot)
    · rw [← String.length_toList, hlabel, length_expandedLabel] at hlength
      omega
  obtain ⟨hid, hother⟩ | ⟨ip, hip, htext, hlabel⟩ := labelFormatForNeighbor_cases h
  · obtain ⟨hid', -⟩ | ⟨ip', -, -, hlabel'⟩ := labelFormatForNeighbor_cases h'
    · rw [← hid, heq, hid']
    · rw [← heq, hid] at hlabel'
      exact (hapart hlabel' hother).elim
  · obtain ⟨hid', hother'⟩ | ⟨ip', hip', htext', hlabel'⟩ := labelFormatForNeighbor_cases h'
    · rw [heq, hid'] at hlabel
      exact (hapart hlabel hother').elim
    · rw [heq, hlabel'] at hlabel
      rw [htext, htext', expandedLabel_inj hip hip' hlabel.symm]

/-! ## What is reported -/

/-- What of a neighbor is published. -/
def stateOf (n : Vtysh.Neighbor) : NeighborState := ⟨n.id, n.bgpState, n.bfdStatus⟩

/-- `BGPPeersFetcher` of the status exporter. -/
def bgpPeersFetcher (json : Vtysh.Json) (order : RangeOrder) (frrCli : Vtysh.Cli) :
    Except String (SortedMap String (List NeighborState)) := do
  return (← Vtysh.getBGPNeighbors json order frrCli).mapVal (·.map stateOf)

/-- A report of FRR: its VRFs have names, and its peers are printed. -/
def Printed (text : Net.Addr → String) (neighbors : SortedMap String (List NeighborState)) : Prop :=
  ∀ vrf ns, neighbors.find? vrf = some ns → vrf ≠ "" ∧ ∀ n ∈ ns, printed text n.id = true

section

variable {json : Vtysh.Json} {order : RangeOrder} {frrCli : Vtysh.Cli} {text : Net.Addr → String}
  {neighbors : SortedMap String (List NeighborState)}

/-- A VRF has no two peers with one label. -/
theorem labels_nodup (h : bgpPeersFetcher json order frrCli = .ok neighbors) (hprinted : Printed text neighbors)
    (vrf : String) (ns : List NeighborState) (hns : neighbors.find? vrf = some ns) :
    (ns.map (fun n => labelFormatForNeighbor n.id)).Nodup := by
  have hlabels := (hprinted vrf ns hns).2
  obtain ⟨answer, hanswer, heq⟩ := (bind_eq_ok _ _ _).1 h
  obtain rfl := Except.ok.inj heq
  rw [SortedMap.find?_mapVal] at hns
  obtain ⟨answered, hanswered, rfl⟩ := Option.map_eq_some_iff.1 hns
  obtain ⟨res, -, hparse⟩ := Vtysh.find?_perVRF hanswer hanswered
  have hids : ((answered.map stateOf).map NeighborState.id).Nodup := by
    rw [List.map_map]
    exact Vtysh.parseNeighbours_ids hparse
  have hmapped : ((((answered.map stateOf).map NeighborState.id)).map labelFormatForNeighbor).Nodup := by
    refine List.Nodup.map_on (fun id hid id' hid' heq => ?_) hids
    obtain ⟨n, hn, rfl⟩ := List.mem_map.1 hid
    obtain ⟨n', hn', rfl⟩ := List.mem_map.1 hid'
    exact labelFormatForNeighbor_inj (hlabels n hn) (hlabels n' hn') heq
  rwa [List.map_map] at hmapped

end

/-! ## The exporters -/

inductive ExporterStep
  /-- The exporter of a node reconciles; its FRR answers as `frrCli`, and maps are gone through in the two orders. -/
  | reconcile (nodeName : String) (fetchOrder order : Nat) (frrCli : Vtysh.Cli)
  /-- Someone else changes the objects. -/
  | change (store : SessionStore)

section

variable (json : Vtysh.Json) (orders : Nat → RangeOrder)

def exporters (api : ApiServer) (ns : String) (init : SessionStore) : System SessionStore ExporterStep where
  init := init
  step store
    | .reconcile nodeName fetchOrder order frrCli =>
      let r : SessionReconciler := ⟨nodeName, ns⟩
      some (r.reconcileSessions api (orders order) store (bgpPeersFetcher json (orders fetchOrder) frrCli)).1
    | .change store => some store

/-- An event after which the objects of the node are still to be those of its last report: a reconcile that got no
answer, or one of another node. -/
def ExporterStep.KeepsReport (text : Net.Addr → String) (nodeName : String) : ExporterStep → Prop
  | .reconcile other fetchOrder _ frrCli =>
    ∀ neighbors, bgpPeersFetcher json (orders fetchOrder) frrCli = .ok neighbors → other ≠ nodeName ∧
    Printed text neighbors
  | .change _ => False

end

namespace SessionReconciler

section

variable {r : SessionReconciler} {api : ApiServer} {order : RangeOrder} {store store' : SessionStore}
  {xs : List (String × NeighborState)} {o : BGPSessionState}

/-- Only the objects of the node matter. -/
theorem Settled.of_owned (h : r.Settled api xs store)
    (hobjects : ∀ o, r.owns o = true → (o ∈ store'.objects ↔ o ∈ store.objects)) : r.Settled api xs store' where
  reported o ho howns := h.reported o ((hobjects o howns).1 ho) howns
  all x hx := by
    obtain ⟨o, ho, hreports⟩ := h.all x hx
    exact ⟨o, (hobjects o (owns_iff.2 hreports.node)).2 ho, hreports⟩
  once o ho o' ho' howns howns' := h.once o ((hobjects o howns).1 ho) o' ((hobjects o' howns').1 ho') howns howns'

/-- Without an answer only duplicates are deleted. -/
theorem mem_run_error {err : String} : o ∈ (r.reconcileSessions api order store (.error err)).1.objects ↔
    o ∈ store.objects ∧ o ∉ (peersStatusPerVRF (order.range (store.objects.filter r.owns))).2 := by
  have hrun : (r.reconcileSessions api order store (.error err)).1 =
      (peersStatusPerVRF (order.range (store.objects.filter r.owns))).2.foldl SessionStore.delete store := rfl
  rw [hrun, SessionStore.foldl_delete_objects, List.mem_filter, decide_eq_true_eq]
  refine and_congr_right (fun ho => not_congr ⟨fun hkey => ?_, fun hdup => List.mem_map_of_mem hdup⟩)
  obtain ⟨d, hd, hkey⟩ := List.mem_map.1 hkey
  rwa [← SessionStore.eq_of_key (mem_duplicates_iff.1 hd).1.1 ho hkey]

/-- There are none if the objects are the sessions. -/
theorem Settled.run_error (h : r.Settled api xs store) {err : String} (howns : r.owns o = true) :
    o ∈ (r.reconcileSessions api order store (.error err)).1.objects ↔ o ∈ store.objects := by
  rw [mem_run_error, and_iff_left_iff_imp]
  exact fun ho hdup => (mem_duplicates_iff.1 hdup).2 (lookup_settled h ho howns)

end

section

variable {r : SessionReconciler} {api : ApiServer} {fetchOrder order : RangeOrder} {store : SessionStore}
  {json : Vtysh.Json}
  {text : Net.Addr → String} {frrCli : Vtysh.Cli} {neighbors : SortedMap String (List NeighborState)}
  {o : BGPSessionState}

theorem sessions_apart (h : bgpPeersFetcher json fetchOrder frrCli = .ok neighbors) (hprinted : Printed text neighbors)
    (order : RangeOrder) : ((sessionsOf order neighbors).map sessionKey).Nodup :=
  sessionsOf_nodup order (labels_nodup h hprinted)

/-- **A reconcile leaves the objects of other nodes alone.** -/
theorem reconcile_others
    (hprinted : ∀ neighbors, bgpPeersFetcher json fetchOrder frrCli = .ok neighbors → Printed text neighbors)
    (howns : r.owns o = false) :
    o ∈ (r.reconcileSessions api order store (bgpPeersFetcher json fetchOrder frrCli)).1.objects ↔
    o ∈ store.objects := by
  cases hfetch : bgpPeersFetcher json fetchOrder frrCli with
  | ok neighbors => exact run_others api (sessions_apart hfetch (hprinted neighbors hfetch) order) howns
  | error err =>
    rw [mem_run_error, and_iff_left_iff_imp]
    exact fun _ hdup => absurd (howns.symm.trans (mem_duplicates_iff.1 hdup).1.2) (by decide)

end

end SessionReconciler

/-- An object of one node is none of another. -/
theorem owns_other {nodeName other ns : String} (h : other ≠ nodeName) {o : BGPSessionState}
    (howns : SessionReconciler.owns ⟨nodeName, ns⟩ o = true) : SessionReconciler.owns ⟨other, ns⟩ o = false := by
  rw [Bool.eq_false_iff]
  intro hother
  have hsame := (SessionReconciler.owns_iff.1 hother).symm.trans (SessionReconciler.owns_iff.1 howns)
  exact h (Option.some.inj hsame)

section

variable {json : Vtysh.Json} {orders : Nat → RangeOrder} {api : ApiServer} {ns : String} {init : SessionStore}
  {text : Net.Addr → String} {nodeName : String}

/-- **An event that keeps the report keeps the objects.** -/
theorem settled_step {store store' : SessionStore} {e : ExporterStep} {xs : List (String × NeighborState)}
    (he : e.KeepsReport json orders text nodeName) (h : SessionReconciler.Settled ⟨nodeName, ns⟩ api xs store)
    (hstep : (exporters json orders api ns init).step store e = some store') :
    SessionReconciler.Settled ⟨nodeName, ns⟩ api xs store' := by
  cases e with
  | change store => exact he.elim
  | reconcile other fetchOrder order frrCli =>
    obtain rfl := Option.some.inj hstep
    refine h.of_owned (fun o howns => ?_)
    by_cases hother : other = nodeName
    · subst hother
      cases hfetch : bgpPeersFetcher json (orders fetchOrder) frrCli with
      | ok neighbors => exact ((he neighbors hfetch).1 rfl).elim
      | error err => exact h.run_error howns
    · exact SessionReconciler.reconcile_others (fun neighbors hfetch => (he neighbors hfetch).2)
        (owns_other hother howns)

/-- **The objects of a node are the sessions its FRR reported last**, one for each, whatever the objects were before; a
reconcile that gets no answer from FRR and those of other nodes, in any order, leave them so. -/
theorem sessions_published {late early : List (SessionStore × ExporterStep)} {before store : SessionStore}
    {fetchOrder order : Nat} {frrCli : Vtysh.Cli} {neighbors : SortedMap String (List NeighborState)}
    (hrun : Run (exporters json orders api ns init)
    (late ++ (before, .reconcile nodeName fetchOrder order frrCli) :: early) store)
    (hreport : bgpPeersFetcher json (orders fetchOrder) frrCli = .ok neighbors) (hprinted : Printed text neighbors)
    (hlate : ∀ x ∈ late, x.2.KeepsReport json orders text nodeName) :
    SessionReconciler.Converged ⟨nodeName, ns⟩ neighbors store := by
  have hapart := SessionReconciler.sessions_apart hreport hprinted (orders order)
  have hsettled :
      SessionReconciler.Settled ⟨nodeName, ns⟩ api (SessionReconciler.sessionsOf (orders order) neighbors) store := by
    refine hrun.since (fun t ht => ?_) (fun x hx t ht hstep => settled_step (hlate x hx) ht hstep)
    obtain rfl := Option.some.inj ht
    rw [hreport]
    exact SessionReconciler.settled_run api hapart
  refine hsettled.converged hapart (SessionReconciler.mem_sessionsOf_iff (orders order) (.of_none (fun ns hns => ?_)))
  exact ((hprinted "" ns hns).1 rfl).elim

end

def addrText (a : Net.Addr) : String :=
  if a.bitLen = 32 then Net.ipv4String (a.as16 % 2 ^ 32) else Net.ipv6String a.as16

/-- The FRR of `node-1` has three sessions, that of `node-2` one. -/
def nodeSessions : Vtysh.Json where
  vrfs _ := .ok (SortedSet.ofList ["default"])
  neighbors res := .ok (if res = "node-1"
    then ((SortedMap.empty.insert "192.0.2.1" { bgpState := "Established" }).insert "fc00::1"
      { bgpState := "Active" }).insert
      "eth0" { bgpState := "Established", bfdStatus := "up" }
    else SortedMap.empty.insert "192.0.2.1" { bgpState := "Idle" })
  bfdPeers _ := .ok []
  bfdPeersCounters _ := .ok []

/-- Both nodes report, and then `vtysh` fails on the first. -/
def publishedEvents : List ExporterStep :=
  [.reconcile "node-1" 0 0 (fun _ => .ok "node-1"), .reconcile "node-2" 0 0 (fun _ => .ok "node-2"),
    .reconcile "node-1" 0 0 (fun _ => .error "vtysh")]

def published : SessionStore :=
  (((exporters nodeSessions (fun _ => inOrder) plainApi "frr-k8s" storedSessions).exec publishedEvents []
  storedSessions).map
    Prod.snd).getD storedSessions

/-- The sessions of `node-1`. -/
def node1Sessions : SortedMap String (List NeighborState) :=
  SortedMap.empty.insert "default" [⟨"192.0.2.1", "Established", ""⟩, ⟨"eth0", "Established", "up"⟩,
  ⟨"fc00::1", "Active", ""⟩]

theorem printed_of_entries (text : Net.Addr → String) {neighbors : SortedMap String (List NeighborState)}
    (h : ∀ e ∈ neighbors.entries, e.1 ≠ "" ∧ ∀ n ∈ e.2, printed text n.id = true) : Printed text neighbors :=
  fun vrf ns hns => h (vrf, ns) ((SortedMap.find?_eq_some ..).1 hns)

theorem sessions_published_twoNodes :
    published.objects.map (fun o => (o.status.node, o.status.peer, o.status.bgpStatus)) =
      [("node-1", "192.0.2.1", "Established"), ("node-1", "eth0", "Established"),
        ("node-1", "fc00-0000-0000-0000-0000-0000-0000-0001", "Active"), ("node-2", "192.0.2.1", "Idle")] ∧
    SessionReconciler.Converged ⟨"node-1", "frr-k8s"⟩ node1Sessions published := by
  refine ⟨by decide +kernel, ?_⟩
  obtain ⟨s, s', hrun⟩ : ∃ s s', Run (exporters nodeSessions (fun _ => inOrder) plainApi "frr-k8s" storedSessions)
      ([(s', .reconcile "node-1" 0 0 (fun _ => .error "vtysh")),
      (s, .reconcile "node-2" 0 0 (fun _ => .ok "node-2"))] ++
        (storedSessions, .reconcile "node-1" 0 0 (fun _ => .ok "node-1")) :: []) published :=
    ⟨_, _, .next (.next (.next .start rfl) rfl) rfl⟩
  refine sessions_published hrun rfl (printed_of_entries addrText (by decide +kernel)) ?_
  intro x hx
  simp only [List.mem_cons, List.not_mem_nil, or_false] at hx
  obtain rfl | rfl := hx
  · intro neighbors hfetch
    cases hfetch
  · intro neighbors hfetch
    obtain rfl := Except.ok.inj hfetch
    exact ⟨by decide, printed_of_entries _ (by decide +kernel)⟩

end FrrK8s
