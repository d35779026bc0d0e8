import FrrK8s.Accumulate
import FrrK8s.Net
import FrrK8s.Selector
/-!
# Sessions — the `BGPSessionState` objects of a node (`BGPSessionStateReconciler`)

A run lists the objects of the node, sorts them by the VRF and the peer in their labels, deletes the second ones of a
pair and those of sessions that FRR does not report, and applies the state of every session whose object is not there or
not up to date.  Maps are gone through in any order.  Where the labels tell the sessions apart, each session finds the
first object that was listed for it, whatever was planned before (`plan_sessions`).
-/
namespace FrrK8s

/-! ## Objects -/

/-- The fields of `frr.Neighbor` that are reported. -/
structure NeighborState where
  id : String
  bgpState : String := ""
  bfdStatus : String := ""
deriving DecidableEq, Repr

/-- `BGPSessionStateStatus`. -/
structure SessionStatus where
  bgpStatus : String := ""
  bfdStatus : String := ""
  node : String := ""
  peer : String := ""
  vrf : String := ""
deriving DecidableEq, Repr

structure OwnerReference where
  kind : String
  name : String
  uid : String
deriving DecidableEq, Repr

structure BGPSessionState where
  ns : String := ""
  name : String := ""
  generateName : String := ""
  labels : Labels := .empty
  owners : List OwnerReference := []
  status : SessionStatus := {}
deriving DecidableEq

/-- What an object is stored under. -/
def BGPSessionState.key (s : BGPSessionState) : String × String := (s.ns, s.name)

def nodeLabel : String := "frrk8s.metallb.io/node"
def peerLabel : String := "frrk8s.metallb.io/peer"
def vrfLabel : String := "frrk8s.metallb.io/vrf"
def noBFDConfigured : String := "N/A"

/-- A label that is missing is read as an empty one. -/
def peerFor (s : BGPSessionState) : String := (s.labels.find? peerLabel).getD ""

def vrfFor (s : BGPSessionState) : String := (s.labels.find? vrfLabel).getD ""

/-- The name of an interface and an IPv4 address stay as they are. -/
def labelFormatForNeighbor (id : String) : String :=
  match Net.parseAddrZone id.toList with
  | none => id
  | some (addr, zone) =>
    if addr.bitLen = 32 then id
    else String.ofList ((Net.stringExpanded addr.as16 zone).toList.map (fun c => if c = ':' then '-' else c))

/-! ## The API server -/

/-- The stored objects: each has a name, and no two of a namespace have the same. -/
structure SessionStore where
  objects : List BGPSessionState
  keys : (objects.map BGPSessionState.key).Nodup
  named : ∀ s ∈ objects, s.name ≠ ""

/-- What the API server and the client library decide: the name of a new object, and what `SetOwnerReference` of the
daemon's pod does to the owners. -/
structure ApiServer where
  generate : List BGPSessionState → String → String → String
  generate_ne : ∀ objects ns generateName, generate objects ns generateName ≠ ""
  /-- The name is not taken. -/
  generate_new : ∀ objects ns generateName, ∀ s ∈ objects, s.ns = ns → s.name ≠ generate objects ns generateName
  setOwnerReference : List OwnerReference → List OwnerReference
  /-- The reference is there after it was set. -/
  setOwnerReference_again : ∀ owners, setOwnerReference (setOwnerReference owners) = setOwnerReference owners

/-- What the mutating function of `CreateOrPatch` makes of the stored object `s`, for the status of `desired`. -/
def ApiServer.patch (api : ApiServer) (desired s : BGPSessionState) : BGPSessionState :=
  if s.key = desired.key then { s with status := desired.status, owners := api.setOwnerReference s.owners } else s

/-- The new object for `desired`, which has a name or is given one. -/
def ApiServer.create (api : ApiServer) (objects : List BGPSessionState) (desired : BGPSessionState) : BGPSessionState :=
  { desired with
    name := if desired.name = "" then api.generate objects desired.ns desired.generateName else desired.name
    owners := api.setOwnerReference desired.owners }

@[simp] theorem patch_key (api : ApiServer) (desired s : BGPSessionState) : (api.patch desired s).key = s.key := by
  unfold ApiServer.patch
  split <;> rfl

theorem patch_named (api : ApiServer) (desired : BGPSessionState) {objects : List BGPSessionState}
    (h : ∀ s ∈ objects, s.name ≠ "") : ∀ s ∈ objects.map (api.patch desired), s.name ≠ "" := by
  intro s hs
  obtain ⟨t, ht, rfl⟩ := List.mem_map.1 hs
  have hkey : (api.patch desired t).name = t.name := congrArg Prod.snd (patch_key api desired t)
  rw [hkey]
  exact h t ht

theorem patch_keys (api : ApiServer) (desired : BGPSessionState) (objects : List BGPSessionState) :
    (objects.map (api.patch desired)).map BGPSessionState.key = objects.map BGPSessionState.key := by
  rw [List.map_map]
  exact List.map_congr_left (fun s _ => patch_key api desired s)

theorem create_new (api : ApiServer) {desired : BGPSessionState} {objects : List BGPSessionState}
    (hnew : desired.key ∉ objects.map BGPSessionState.key) :
    (api.create objects desired).key ∉ objects.map BGPSessionState.key := by
  intro hmem
  obtain ⟨s, hs, hkey⟩ := List.mem_map.1 hmem
  by_cases hname : desired.name = ""
  · refine api.generate_new objects desired.ns desired.generateName s hs (congrArg Prod.fst hkey) ?_
    exact (congrArg Prod.snd hkey).trans (if_pos hname)
  · exact hnew (List.mem_map.2 ⟨s, hs, hkey.trans (Prod.ext rfl (if_neg hname))⟩)

theorem create_keys (api : ApiServer) {desired : BGPSessionState} {objects : List BGPSessionState}
    (h : (objects.map BGPSessionState.key).Nodup) (hnew : desired.key ∉ objects.map BGPSessionState.key) :
    ((objects ++ [api.create objects desired]).map BGPSessionState.key).Nodup := by
  rw [List.map_append, List.nodup_append]
  refine ⟨h, List.nodup_singleton _, fun k hk k' hk' heq => ?_⟩
  rw [heq, List.mem_singleton.1 hk'] at hk
  exact create_new api hnew hk

theorem create_named (api : ApiServer) (desired : BGPSessionState) {objects : List BGPSessionState}
    (h : ∀ s ∈ objects, s.name ≠ "") : ∀ s ∈ objects ++ [api.create objects desired], s.name ≠ "" := by
  intro s hs
  obtain hs | hs := List.mem_append.1 hs
  · exact h s hs
  · obtain rfl := List.mem_singleton.1 hs
    unfold ApiServer.create
    split
    · exact api.generate_ne _ _ _
    · assumption

namespace SessionStore

def delete (store : SessionStore) (s : BGPSessionState) : SessionStore where
  objects := store.objects.filter (fun o => o.key ≠ s.key)
  keys := store.keys.sublist (List.filter_sublist.map _)
  named o ho := store.named o (List.mem_of_mem_filter ho)

/-- `CreateOrPatch`: the object that is stored gets the status, and keeps its labels; an object that is not is
created. -/
def createOrPatch (api : ApiServer) (store : SessionStore) (desired : BGPSessionState) : SessionStore :=
  if hnew : desired.key ∈ store.objects.map BGPSessionState.key then
    { objects := store.objects.map (api.patch desired)
      keys := patch_keys api desired store.objects ▸ store.keys
      named := patch_named api desired store.named }
  else
    { objects := store.objects ++ [api.create store.objects desired]
      keys := create_keys api store.keys hnew
      named := create_named api desired store.named }

end SessionStore

/-! ## The reconciler -/

abbrev PeersStatus := SortedMap String BGPSessionState

structure SessionReconciler where
  nodeName : String
  ns : String

/-- The object has the label of the node. -/
def SessionReconciler.owns (r : SessionReconciler) (s : BGPSessionState) : Bool :=
  s.labels.find? nodeLabel = some r.nodeName

/-- The body of `peersStatusPerVRF`'s loop. -/
def addStatus (acc : SortedMap String PeersStatus × List BGPSessionState) (s : BGPSessionState) :
    SortedMap String PeersStatus × List BGPSessionState :=
  let ps := (acc.1.find? (vrfFor s)).getD .empty
  match ps.find? (peerFor s) with
  | none => (acc.1.insert (vrfFor s) (ps.insert (peerFor s) s), acc.2)
  | some _ => (acc.1, acc.2 ++ [s])

def peersStatusPerVRF (statuses : List BGPSessionState) : SortedMap String PeersStatus × List BGPSessionState :=
  statuses.foldl addStatus (.empty, [])

/-- What no `"default"` is found under is empty. -/
def renameDefaultVRF {α : Type} (m : SortedMap String (List α)) : SortedMap String (List α) :=
  (m.insert "" ((m.find? "default").getD [])).erase "default"

namespace SessionReconciler

def labelsFor (r : SessionReconciler) (neigh : NeighborState) (vrf : String) : Labels :=
  ((SortedMap.empty.insert nodeLabel r.nodeName).insert peerLabel (labelFormatForNeighbor neigh.id)).insert vrfLabel vrf

def statusFor (r : SessionReconciler) (neigh : NeighborState) (vrf : String) : SessionStatus :=
  { node := r.nodeName
    peer := labelFormatForNeighbor neigh.id
    vrf := vrf
    bgpStatus := neigh.bgpState
    bfdStatus := if neigh.bfdStatus = "" then noBFDConfigured else neigh.bfdStatus }

def desiredStateFor (r : SessionReconciler) (neigh : NeighborState) (vrf : String) (existing : Option BGPSessionState) :
    BGPSessionState :=
  { existing.getD { generateName := r.nodeName ++ "-", ns := r.ns } with
    labels := r.labelsFor neigh vrf
    status := r.statusFor neigh vrf }

/-- The object of a session is as it is desired. -/
def upToDate (r : SessionReconciler) (neigh : NeighborState) (vrf : String) : Option BGPSessionState → Bool
  | none => false
  | some existing => r.labelsFor neigh vrf = existing.labels && r.statusFor neigh vrf = existing.status

/-- `remove` of a peer, if there are states for its VRF. -/
def removeState (states : SortedMap String PeersStatus) (vrf peer : String) : SortedMap String PeersStatus :=
  match states.find? vrf with
  | none => states
  | some existingForVRF => states.insert vrf (existingForVRF.erase peer)

/-- The body of `desiredStatesForExisting`'s loops, with the states that were not asked for yet and those to apply. -/
def planNeighbor (r : SessionReconciler) (acc : SortedMap String PeersStatus × List BGPSessionState)
    (session : String × NeighborState) : SortedMap String PeersStatus × List BGPSessionState :=
  let (vrf, neigh) := session
  let peer := labelFormatForNeighbor neigh.id
  let existing := (acc.1.find? vrf).bind (fun existingForVRF => existingForVRF.find? peer)
  let existingStates := removeState acc.1 vrf peer
  if r.upToDate neigh vrf existing then (existingStates, acc.2)
  else (existingStates, acc.2 ++ [r.desiredStateFor neigh vrf existing])

/-- What to apply and what to remove. -/
def desiredStatesForExisting (r : SessionReconciler) (order : RangeOrder)
    (vrfNeighbors : SortedMap String (List NeighborState)) (states : SortedMap String PeersStatus) :
    List BGPSessionState × List BGPSessionState :=
  let plan := (order.range vrfNeighbors.entries).foldl (fun acc e =>
    e.2.foldl (fun acc neigh => r.planNeighbor acc (e.1, neigh)) acc) (states, [])
  (plan.2, (order.range plan.1.entries).flatMap (fun e => order.range e.2.values))

/-- `Reconcile`, which is taken as one step: it lists the objects as they are stored, in some order, no call of the API
server fails, and a new object keeps the status it is created with.  `neighbors` is what the `BGPPeersFetcher`
returns. -/
def reconcileSessions (r : SessionReconciler) (api : ApiServer) (order : RangeOrder) (store : SessionStore)
    (neighbors : Except String (SortedMap String (List NeighborState))) : SessionStore × Option String :=
  let (states, duplicates) := peersStatusPerVRF (order.range (store.objects.filter r.owns))
  let store := duplicates.foldl SessionStore.delete store
  match neighbors with
  | .error err => (store, some err)
  | .ok neighbors =>
    let (toApply, toRemove) := r.desiredStatesForExisting order (renameDefaultVRF neighbors) states
    let store := toRemove.foldl SessionStore.delete store
    (toApply.foldl (SessionStore.createOrPatch api) store, none)

end SessionReconciler

/-! ## Sessions -/

/-- The session an object is of. -/
def BGPSessionState.session (s : BGPSessionState) : String × String := (vrfFor s, peerFor s)

/-- The state found for a VRF and a peer. -/
def lookup (states : SortedMap String PeersStatus) (k : String × String) : Option BGPSessionState :=
  ((states.find? k.1).getD .empty).find? k.2

theorem lookup_eq_bind (states : SortedMap String PeersStatus) (k : String × String) :
    lookup states k = (states.find? k.1).bind (fun ps => ps.find? k.2) := by
  unfold lookup
  cases states.find? k.1 <;> rfl

theorem lookup_insert (states : SortedMap String PeersStatus) (vrf : String) (ps : PeersStatus) (k : String × String) :
    lookup (states.insert vrf ps) k = if k.1 = vrf then ps.find? k.2 else lookup states k := by
  unfold lookup
  rw [SortedMap.find?_insert]
  split <;> rfl

theorem addStatus_states (acc : SortedMap String PeersStatus × List BGPSessionState) (s : BGPSessionState)
    (k : String × String) :
    lookup (addStatus acc s).1 k = (lookup acc.1 k).or (if s.session = k then some s else none) := by
  obtain ⟨v, p⟩ := k
  have hps : lookup acc.1 s.session = ((acc.1.find? (vrfFor s)).getD .empty).find? (peerFor s) := rfl
  unfold addStatus
  simp only
  rw [← hps]
  cases hfound : lookup acc.1 s.session with
  | none =>
    rw [lookup_insert]
    by_cases hk : s.session = (v, p)
    · rw [← hk, hfound, if_pos rfl, Option.none_or]
      exact (if_pos rfl).trans ((SortedMap.find?_insert ..).trans (if_pos rfl))
    · rw [if_neg hk, Option.or_none]
      by_cases hv : v = vrfFor s
      · subst hv
        rw [if_pos rfl, SortedMap.find?_insert, if_neg (fun hp => hk (by rw [BGPSessionState.session, ← hp]))]
        rfl
      · rw [if_neg hv]
  | some t =>
    by_cases hk : s.session = (v, p)
    · rw [← hk, hfound]
      rfl
    · rw [if_neg hk, Option.or_none]

theorem addStatus_duplicates (acc : SortedMap String PeersStatus × List BGPSessionState) (s : BGPSessionState) :
    (addStatus acc s).2 = if (lookup acc.1 s.session).isSome then acc.2 ++ [s] else acc.2 := by
  have hps : lookup acc.1 s.session = ((acc.1.find? (vrfFor s)).getD .empty).find? (peerFor s) := rfl
  unfold addStatus
  simp only
  rw [← hps]
  cases lookup acc.1 s.session <;> rfl

/-- The state of a session is the first one listed. -/
theorem lookup_peersStatusPerVRF (k : String × String) (l : List BGPSessionState) :
    lookup (peersStatusPerVRF l).1 k = l.find? (fun s => s.session = k) := by
  induction l using List.reverseRecOn with
  | nil => rfl
  | append_singleton l s ih =>
    rw [peersStatusPerVRF, List.foldl_append, List.foldl_cons, List.foldl_nil, ← peersStatusPerVRF,
      addStatus_states, ih, List.find?_append, List.find?_singleton]
    simp only [decide_eq_true_eq]

/-- The duplicates are those listed after the state of their session. -/
theorem mem_duplicates {s : BGPSessionState} {l : List BGPSessionState} (hl : l.Nodup) :
    s ∈ (peersStatusPerVRF l).2 ↔ s ∈ l ∧ l.find? (fun t => t.session = s.session) ≠ some s := by
  induction l using List.reverseRecOn with
  | nil => exact ⟨fun h => absurd h List.not_mem_nil, fun h => absurd h.1 List.not_mem_nil⟩
  | append_singleton l t ih =>
    obtain ⟨hnodup, -, hne⟩ := List.nodup_append.1 hl
    have ht : t ∉ l := fun hmem => hne t hmem t (List.mem_singleton_self t) rfl
    rw [peersStatusPerVRF, List.foldl_append, List.foldl_cons, List.foldl_nil, ← peersStatusPerVRF,
      addStatus_duplicates, lookup_peersStatusPerVRF, List.find?_append, List.mem_append, List.mem_singleton]
    by_cases hst : s = t
    · subst hst
      cases hfirst : l.find? (fun t => t.session = s.session) with
      | none =>
        rw [if_neg (by simp), Option.none_or, List.find?_singleton, if_pos (by simp)]
        exact iff_of_false (fun hmem => ht ((ih hnodup).1 hmem).1) (fun h => h.2 rfl)
      | some e =>
        have he : e ≠ s := fun heq => ht (heq ▸ List.mem_of_find?_eq_some hfirst)
        rw [if_pos (by simp), Option.some_or]
        exact iff_of_true (by simp) ⟨Or.inr rfl, fun h => he (Option.some.inj h)⟩
    · have hmem : (s ∈ if (l.find? (fun x => x.session = t.session)).isSome then (peersStatusPerVRF l).2 ++ [t]
          else (peersStatusPerVRF l).2) ↔ s ∈ (peersStatusPerVRF l).2 := by
        split <;> simp [hst]
      rw [hmem, ih hnodup, or_iff_left hst]
      refine and_congr_right fun hs => ?_
      have hsome : (l.find? (fun x => x.session = s.session)).isSome := by
        rw [List.find?_isSome]
        exact ⟨s, hs, by simp⟩
      rw [Option.or_of_isSome hsome]

/-! ## The plan -/

/-- The VRF and the peer of the labels of a session. -/
def sessionKey (x : String × NeighborState) : String × String := (x.1, labelFormatForNeighbor x.2.id)

/-- The sessions of a map, in the order of its entries. -/
def sessionsIn (entries : List (String × List NeighborState)) : List (String × NeighborState) :=
  entries.flatMap (fun e => e.2.map (fun neigh => (e.1, neigh)))

namespace SessionReconciler

variable {r : SessionReconciler}

/-- The state to apply for a session, if its object is not up to date. -/
def toApply? (r : SessionReconciler) (states : SortedMap String PeersStatus) (x : String × NeighborState) :
    Option BGPSessionState :=
  if r.upToDate x.2 x.1 (lookup states (sessionKey x)) then none
  else some (r.desiredStateFor x.2 x.1 (lookup states (sessionKey x)))

theorem lookup_removeState (states : SortedMap String PeersStatus) (j k : String × String) :
    lookup (removeState states j.1 j.2) k = if k = j then none else lookup states k := by
  unfold removeState
  cases hvrf : states.find? j.1 with
  | none =>
    by_cases hk : k = j
    · rw [if_pos hk, hk, lookup, hvrf]
      rfl
    · rw [if_neg hk]
  | some ps =>
    have hj : ∀ p, lookup states (j.1, p) = ps.find? p := fun p => by rw [lookup, hvrf]; rfl
    obtain ⟨v, p⟩ := k
    rw [lookup_insert, SortedMap.find?_erase]
    by_cases hv : v = j.1
    · subst hv
      rw [if_pos rfl, hj]
      exact if_congr (by rw [Prod.ext_iff, and_iff_right rfl]) rfl rfl
    · rw [if_neg hv, if_neg (fun hk => hv (congrArg Prod.fst hk))]

theorem planNeighbor_states (acc : SortedMap String PeersStatus × List BGPSessionState) (x : String × NeighborState)
    (k : String × String) :
    lookup (r.planNeighbor acc x).1 k = if k = sessionKey x then none else lookup acc.1 k := by
  rw [← lookup_removeState]
  unfold planNeighbor
  simp only
  split <;> rfl

theorem planNeighbor_toApply (acc : SortedMap String PeersStatus × List BGPSessionState) (x : String × NeighborState) :
    (r.planNeighbor acc x).2 = acc.2 ++ (r.toApply? acc.1 x).toList := by
  unfold planNeighbor toApply?
  simp only [lookup_eq_bind, sessionKey]
  split <;> simp

/-- **The plan for sessions that the labels tell apart**: each finds the state that was listed for it. -/
theorem plan_sessions :
    ∀ (xs : List (String × NeighborState)) (acc : SortedMap String PeersStatus × List BGPSessionState),
    (xs.map sessionKey).Nodup →
    (∀ k, lookup (xs.foldl r.planNeighbor acc).1 k = if k ∈ xs.map sessionKey then none else lookup acc.1 k) ∧
      (xs.foldl r.planNeighbor acc).2 = acc.2 ++ xs.filterMap (r.toApply? acc.1)
  | [], acc, _ => by simp
  | x :: xs, acc, hnodup => by
    rw [List.map_cons, List.nodup_cons] at hnodup
    obtain ⟨hlookup, happly⟩ := plan_sessions xs (r.planNeighbor acc x) hnodup.2
    -- a session that is planned later finds what it would have found before
    have hlater : ∀ y ∈ xs, r.toApply? (r.planNeighbor acc x).1 y = r.toApply? acc.1 y := by
      intro y hy
      have hne : sessionKey y ≠ sessionKey x := fun heq => hnodup.1 (heq ▸ List.mem_map_of_mem hy)
      unfold toApply?
      rw [planNeighbor_states, if_neg hne]
    constructor
    · intro k
      rw [List.foldl_cons, hlookup, planNeighbor_states]
      by_cases hk : k = sessionKey x
      · have hmem : k ∈ (x :: xs).map sessionKey := hk ▸ List.mem_cons_self ..
        rw [if_pos hk, ite_self, if_pos hmem]
      · rw [if_neg hk]
        exact if_congr (by rw [List.map_cons, List.mem_cons, or_iff_right hk]) rfl rfl
    · rw [List.foldl_cons, happly, planNeighbor_toApply, List.append_assoc, List.filterMap_congr hlater,
        List.filterMap_cons]
      cases r.toApply? acc.1 x <;> rfl

theorem desiredStatesForExisting_eq (order : RangeOrder) (vrfNeighbors : SortedMap String (List NeighborState))
    (states : SortedMap String PeersStatus) :
    (sessionsIn (order.range vrfNeighbors.entries)).foldl r.planNeighbor (states, []) =
      (order.range vrfNeighbors.entries).foldl (fun acc e =>
        e.2.foldl (fun acc neigh => r.planNeighbor acc (e.1, neigh)) acc) (states, []) := by
  rw [sessionsIn, List.foldl_flatMap]
  simp only [List.foldl_map]

end SessionReconciler

end FrrK8s
