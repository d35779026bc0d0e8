import FrrK8s.Sessions
/-!
# Converge — the objects of a node after a run (`BGPSessionStateReconciler.Reconcile`)

A run keeps the objects of other nodes and, for each session that FRR reports, the first object that was listed for it;
it patches those that are not up to date and creates the missing ones (`run_objects`).  So after a run the objects of
the node are the sessions, one for each, and a second run changes nothing (`reconcileSessions_converges`).  A run means
to set the labels of every object, but an object that exists is patched from what the API server has of it, so a label
that is missing stays missing (`reconcileSessions_labelled_iff`).  FRR's default VRF is called `default`; sessions of a
VRF without any name are lost.
-/
namespace FrrK8s

/-! ## The store after a run -/

namespace SessionStore

theorem foldl_delete_objects : ∀ (l : List BGPSessionState) (store : SessionStore),
    (l.foldl delete store).objects = store.objects.filter (fun o => o.key ∉ l.map BGPSessionState.key)
  | [], store => by simp
  | s :: l, store => by
    rw [List.foldl_cons, foldl_delete_objects l, delete, List.filter_filter]
    refine List.filter_congr (fun o _ => ?_)
    rw [List.map_cons]
    simp only [List.mem_cons, not_or, ne_eq, Bool.decide_and, Bool.and_comm]

/-- All patches of a list, one after the other. -/
def patchAll (api : ApiServer) (l : List BGPSessionState) (o : BGPSessionState) : BGPSessionState :=
  l.foldl (fun o desired => api.patch desired o) o

theorem patchAll_cons (api : ApiServer) (d : BGPSessionState) (l : List BGPSessionState) (o : BGPSessionState) :
    patchAll api (d :: l) o = patchAll api l (api.patch d o) := rfl

theorem patch_of_ne {api : ApiServer} {d o : BGPSessionState} (h : d.key ≠ o.key) : api.patch d o = o := by
  unfold ApiServer.patch
  rw [if_neg (Ne.symm h)]

theorem patchAll_of_ne {api : ApiServer} {o : BGPSessionState} :
    ∀ {l : List BGPSessionState}, (∀ d ∈ l, d.key ≠ o.key) →
    patchAll api l o = o
  | [], _ => rfl
  | d :: l, h => by
    rw [patchAll_cons, patch_of_ne (h d (List.mem_cons_self ..)),
      patchAll_of_ne (fun d' hd' => h d' (List.mem_cons_of_mem _ hd'))]

/-- Patches with one status for an object give it that status and its owner. -/
theorem patchAll_of_mem (api : ApiServer) {status : SessionStatus} : ∀ {l : List BGPSessionState} {o : BGPSessionState},
    (∀ d ∈ l, d.key = o.key → d.status = status) → (∃ d ∈ l, d.key = o.key) →
    patchAll api l o = { o with status := status, owners := api.setOwnerReference o.owners }
  | [], o, _, h => by
    obtain ⟨d, hd, -⟩ := h
    cases hd
  | d :: l, o, hstatus, h => by
    rw [patchAll_cons]
    by_cases hd : d.key = o.key
    · have hpatch : api.patch d o = { o with status := status, owners := api.setOwnerReference o.owners } := by
        rw [ApiServer.patch, if_pos hd.symm, hstatus d (List.mem_cons_self ..) hd]
      rw [hpatch]
      by_cases hmore : ∃ d' ∈ l, d'.key = o.key
      · have hagain := patchAll_of_mem api (o := { o with status := status, owners := api.setOwnerReference o.owners })
          (fun d' hd' hk => hstatus d' (List.mem_cons_of_mem _ hd') hk) hmore
        simpa only [api.setOwnerReference_again] using hagain
      · exact patchAll_of_ne (fun d' hd' hk => hmore ⟨d', hd', hk⟩)
    · rw [patch_of_ne hd]
      obtain ⟨d', hd', hk⟩ := h
      obtain rfl | hd' := List.mem_cons.1 hd'
      · exact (hd hk).elim
      · exact patchAll_of_mem api (fun d'' hd'' hk => hstatus d'' (List.mem_cons_of_mem _ hd'') hk) ⟨d', hd', hk⟩

/-- `c` is the new object for `desired`. -/
def IsCreated (desired c : BGPSessionState) : Prop := c.labels = desired.labels ∧ c.status = desired.status

section

variable (api : ApiServer) {store : SessionStore} {d : BGPSessionState}

theorem createOrPatch_stored (h : d.key ∈ store.objects.map BGPSessionState.key) :
    d.name ≠ "" ∧ (createOrPatch api store d).objects = store.objects.map (api.patch d) := by
  constructor
  · obtain ⟨o, ho, hk⟩ := List.mem_map.1 h
    have hsame : o.name = d.name := congrArg Prod.snd hk
    exact hsame ▸ store.named o ho
  · rw [createOrPatch, dif_pos h]

theorem createOrPatch_new (h : d.key ∉ store.objects.map BGPSessionState.key) :
    (createOrPatch api store d).objects = store.objects ++ [api.create store.objects d] := by
  rw [createOrPatch, dif_neg h]

/-- What is new is patched by none of the states that are stored or have no name yet. -/
theorem patchAll_created (h : d.key ∉ store.objects.map BGPSessionState.key) (hname : d.name = "")
    {l : List BGPSessionState} (hl : ∀ d' ∈ l, d'.key ∈ store.objects.map BGPSessionState.key ∨ d'.name = "") :
    patchAll api l (api.create store.objects d) = api.create store.objects d := by
  refine patchAll_of_ne (fun d' hd' hk => ?_)
  obtain hmem | hempty := hl d' hd'
  · exact create_new api h (hk ▸ hmem)
  · have hne : (api.create store.objects d).name ≠ "" := by
      rw [ApiServer.create, if_pos hname]
      exact api.generate_ne _ _ _
    exact hne ((congrArg Prod.snd hk).symm.trans hempty)

end

/-- **Applying states patches those that are stored and creates the others**, each once. -/
theorem foldl_createOrPatch_objects (api : ApiServer) : ∀ (l : List BGPSessionState) (store : SessionStore),
    (∀ d ∈ l, d.key ∈ store.objects.map BGPSessionState.key ∨ d.name = "") →
    ∃ created, (l.foldl (createOrPatch api) store).objects = store.objects.map (patchAll api l) ++ created ∧
      List.Forall₂ IsCreated (l.filter (fun d => d.name = "")) created
  | [], store, _ => ⟨[], by rw [List.append_nil]; exact (List.map_id _).symm, .nil⟩
  | d :: l, store, h => by
    have hlater : ∀ d' ∈ l, d'.key ∈ store.objects.map BGPSessionState.key ∨ d'.name = "" :=
      fun d' hd' => h d' (List.mem_cons_of_mem _ hd')
    rw [List.foldl_cons]
    by_cases hd : d.key ∈ store.objects.map BGPSessionState.key
    · obtain ⟨hname, hobjects⟩ := createOrPatch_stored api hd
      obtain ⟨created, hfold, hcreated⟩ := foldl_createOrPatch_objects api l (createOrPatch api store d)
          (fun d' hd' => by
        rw [hobjects, patch_keys]
        exact hlater d' hd')
      refine ⟨created, ?_, by rwa [List.filter_cons_of_neg (by simpa using hname)]⟩
      rw [hfold, hobjects, List.map_map]
      rfl
    · have hname : d.name = "" := (h d (List.mem_cons_self ..)).resolve_left hd
      have hobjects := createOrPatch_new api hd
      obtain ⟨created, hfold, hcreated⟩ := foldl_createOrPatch_objects api l (createOrPatch api store d)
          (fun d' hd' => by
        rw [hobjects, List.map_append, List.mem_append]
        exact (hlater d' hd').imp_left Or.inl)
      have hold : store.objects.map (patchAll api l) = store.objects.map (patchAll api (d :: l)) := by
        refine List.map_congr_left (fun o ho => ?_)
        have hne : d.key ≠ o.key := fun hk => hd (List.mem_map.2 ⟨o, ho, hk.symm⟩)
        rw [patchAll_cons, patch_of_ne hne]
      refine ⟨api.create store.objects d :: created, ?_, ?_⟩
      · rw [hfold, hobjects, List.map_append, List.map_cons, List.map_nil, patchAll_created api hd hname hlater, hold,
          List.append_assoc]
        rfl
      · rw [List.filter_cons_of_pos (by simpa using hname)]
        exact .cons ⟨rfl, rfl⟩ hcreated

theorem eq_of_key {store : SessionStore} {o o' : BGPSessionState} (ho : o ∈ store.objects) (ho' : o' ∈ store.objects)
    (h : o.key = o'.key) : o = o' := List.inj_on_of_nodup_map store.keys ho ho' h

end SessionStore

namespace SessionReconciler

section

variable (r : SessionReconciler) (order : RangeOrder) (store : SessionStore)

/-- The states a run finds, by VRF and peer. -/
def statesOf : SortedMap String PeersStatus := (peersStatusPerVRF (order.range (store.objects.filter r.owns))).1

/-- The sessions a run goes through. -/
def sessionsOf (order : RangeOrder) (neighbors : SortedMap String (List NeighborState)) :
    List (String × NeighborState) :=
  sessionsIn (order.range (renameDefaultVRF neighbors).entries)

end

variable {r : SessionReconciler} {order : RangeOrder} {store : SessionStore} {o e : BGPSessionState}

theorem mem_listed : o ∈ order.range (store.objects.filter r.owns) ↔ o ∈ store.objects ∧ r.owns o = true := by
  rw [(order.perm _).mem_iff, List.mem_filter]

theorem listed_nodup : (order.range (store.objects.filter r.owns)).Nodup :=
  (order.perm _).nodup_iff.2 (store.keys.of_map.filter _)

theorem mem_of_lookup {k : String × String} (h : lookup (r.statesOf order store) k = some e) :
    (e ∈ store.objects ∧ r.owns e = true) ∧ e.session = k := by
  rw [statesOf, lookup_peersStatusPerVRF] at h
  exact ⟨mem_listed.1 (List.mem_of_find?_eq_some h), by simpa using List.find?_some h⟩

/-- A session of an object of the node has a state. -/
theorem exists_lookup (order : RangeOrder) (ho : o ∈ store.objects) (howns : r.owns o = true) :
    ∃ e, lookup (r.statesOf order store) o.session = some e := by
  rw [statesOf, lookup_peersStatusPerVRF, ← Option.isSome_iff_exists, List.find?_isSome]
  exact ⟨o, mem_listed.2 ⟨ho, howns⟩, by simp⟩

theorem mem_duplicates_iff : o ∈ (peersStatusPerVRF (order.range (store.objects.filter r.owns))).2 ↔
    (o ∈ store.objects ∧ r.owns o = true) ∧ lookup (r.statesOf order store) o.session ≠ some o := by
  rw [mem_duplicates listed_nodup, mem_listed, statesOf, lookup_peersStatusPerVRF]

theorem mem_toRemove (states : SortedMap String PeersStatus) (s : BGPSessionState) :
    s ∈ (order.range states.entries).flatMap (fun e => order.range e.2.values) ↔ ∃ k, lookup states k = some s := by
  rw [List.mem_flatMap]
  constructor
  · rintro ⟨⟨vrf, ps⟩, he, hs⟩
    obtain ⟨peer, hpeer⟩ := (ps.mem_values s).1 ((order.perm _).mem_iff.1 hs)
    have hvrf := (states.find?_eq_some vrf ps).2 ((order.perm _).mem_iff.1 he)
    exact ⟨(vrf, peer), by rw [lookup, hvrf]; exact hpeer⟩
  · rintro ⟨⟨vrf, peer⟩, hk⟩
    rw [lookup_eq_bind] at hk
    obtain ⟨ps, hvrf, hpeer⟩ := Option.bind_eq_some_iff.1 hk
    exact ⟨(vrf, ps), (order.perm _).mem_iff.2 ((states.find?_eq_some vrf ps).1 hvrf),
      (order.perm _).mem_iff.2 ((ps.mem_values s).2 ⟨peer, hpeer⟩)⟩

section

variable (r : SessionReconciler) (order : RangeOrder) (store : SessionStore)
  (neighbors : SortedMap String (List NeighborState))

/-- The states that a run applies. -/
def applied : List BGPSessionState := (sessionsOf order neighbors).filterMap (r.toApply? (r.statesOf order store))

/-- The store of a run after its deletions. -/
def survivors : SessionStore :=
  ((order.range ((sessionsOf order neighbors).foldl r.planNeighbor (r.statesOf order store, [])).1.entries).flatMap
    (fun e => order.range e.2.values)).foldl SessionStore.delete
      ((peersStatusPerVRF (order.range (store.objects.filter r.owns))).2.foldl SessionStore.delete store)

end

variable {neighbors : SortedMap String (List NeighborState)}

theorem reconcileSessions_eq (api : ApiServer) (hkeys : ((sessionsOf order neighbors).map sessionKey).Nodup) :
    r.reconcileSessions api order store (.ok neighbors) =
      ((r.applied order store neighbors).foldl (SessionStore.createOrPatch api)
        (r.survivors order store neighbors), none) := by
  have happlied := (plan_sessions (r := r) (sessionsOf order neighbors) (r.statesOf order store, []) hkeys).2
  rw [List.nil_append] at happlied
  unfold reconcileSessions desiredStatesForExisting
  simp only
  rw [← desiredStatesForExisting_eq, applied, survivors, ← happlied]
  rfl

/-- **What a run does not delete**: the objects of other nodes, and for each session of its own the first object
listed. -/
theorem mem_survivors (hkeys : ((sessionsOf order neighbors).map sessionKey).Nodup) :
    o ∈ (r.survivors order store neighbors).objects ↔ o ∈ store.objects ∧ (r.owns o = true →
      lookup (r.statesOf order store) o.session = some o ∧
      o.session ∈ (sessionsOf order neighbors).map sessionKey) := by
  have hplan := (plan_sessions (r := r) (sessionsOf order neighbors) (r.statesOf order store, []) hkeys).1
  -- an object and another one that is deleted with the same key are the same
  have hdeleted : ∀ l : List BGPSessionState, (∀ d ∈ l, d ∈ store.objects) → o ∈ store.objects →
      (o.key ∉ l.map BGPSessionState.key ↔ o ∉ l) := by
    intro l hl ho
    refine not_congr ⟨fun hmem => ?_, fun hmem => List.mem_map_of_mem hmem⟩
    obtain ⟨d, hd, hk⟩ := List.mem_map.1 hmem
    exact SessionStore.eq_of_key (hl d hd) ho hk ▸ hd
  have hmem :
    ∀ d, (∃ k, lookup ((sessionsOf order neighbors).foldl r.planNeighbor (r.statesOf order store, [])).1 k = some d) ↔
      d.session ∉ (sessionsOf order neighbors).map sessionKey ∧ lookup (r.statesOf order store) d.session = some d := by
    intro d
    constructor
    · rintro ⟨k, hk⟩
      rw [hplan] at hk
      split at hk
      · cases hk
      · rename_i hnot
        obtain rfl := (mem_of_lookup hk).2
        exact ⟨hnot, hk⟩
    · rintro ⟨hnot, hk⟩
      exact ⟨d.session, by rw [hplan, if_neg hnot]; exact hk⟩
  rw [survivors, SessionStore.foldl_delete_objects, SessionStore.foldl_delete_objects, List.filter_filter,
    List.mem_filter]
  refine and_congr_right fun ho => ?_
  rw [Bool.and_eq_true, decide_eq_true_eq, decide_eq_true_eq,
    hdeleted _ (fun d hd => (mem_of_lookup (((mem_toRemove _ d).1 hd).elim fun k hk => ((hmem d).1 ⟨k, hk⟩).2)).1.1) ho,
    hdeleted _ (fun d hd => (mem_duplicates_iff.1 hd).1.1) ho, mem_toRemove, hmem, mem_duplicates_iff]
  by_cases howns : r.owns o = true
  · simp only [ho, howns, true_and, true_implies, not_and, not_not, ne_eq]
    constructor
    · rintro ⟨hwanted, hfirst⟩
      exact ⟨hfirst, by_contra fun hnot => hwanted hnot hfirst⟩
    · rintro ⟨hfirst, hwanted⟩
      exact ⟨fun hnot => absurd hwanted hnot, hfirst⟩
  · have hnone : lookup (r.statesOf order store) o.session ≠ some o := fun hk => howns (mem_of_lookup hk).1.2
    simp [ho, howns, hnone]

theorem mem_applied {d : BGPSessionState} : d ∈ r.applied order store neighbors ↔ ∃ x ∈ sessionsOf order neighbors,
    r.upToDate x.2 x.1 (lookup (r.statesOf order store) (sessionKey x)) = false ∧
      d = r.desiredStateFor x.2 x.1 (lookup (r.statesOf order store) (sessionKey x)) := by
  rw [applied, List.mem_filterMap]
  refine exists_congr fun x => and_congr_right fun _ => ?_
  unfold toApply?
  cases r.upToDate x.2 x.1 (lookup (r.statesOf order store) (sessionKey x)) <;> simp [eq_comm]

/-- The state found for a session survives. -/
theorem survives_of_lookup (hkeys : ((sessionsOf order neighbors).map sessionKey).Nodup) {x : String × NeighborState}
    (hx : x ∈ sessionsOf order neighbors) (he : lookup (r.statesOf order store) (sessionKey x) = some e) :
    e ∈ (r.survivors order store neighbors).objects := by
  obtain ⟨⟨hmem, -⟩, hsession⟩ := mem_of_lookup he
  rw [mem_survivors hkeys, hsession]
  exact ⟨hmem, fun _ => ⟨he, List.mem_map_of_mem hx⟩⟩

/-- The states that are applied are those of surviving objects, or new. -/
theorem applied_key (hkeys : ((sessionsOf order neighbors).map sessionKey).Nodup) {d : BGPSessionState}
    (hd : d ∈ r.applied order store neighbors) :
    d.key ∈ (r.survivors order store neighbors).objects.map BGPSessionState.key ∨ d.name = "" := by
  obtain ⟨x, hx, -, rfl⟩ := mem_applied.1 hd
  cases he : lookup (r.statesOf order store) (sessionKey x) with
  | none => exact Or.inr rfl
  | some e => exact Or.inl (List.mem_map.2 ⟨e, survives_of_lookup hkeys hx he, rfl⟩)

/-- A state that is applied to an object is that of the object's session. -/
theorem applied_of_key {d : BGPSessionState} (hd : d ∈ r.applied order store neighbors) (ho : o ∈ store.objects)
    (hk : d.key = o.key) : ∃ x ∈ sessionsOf order neighbors, lookup (r.statesOf order store) (sessionKey x) = some o ∧
      r.upToDate x.2 x.1 (some o) = false ∧ d = r.desiredStateFor x.2 x.1 (some o) := by
  obtain ⟨x, hx, hold, rfl⟩ := mem_applied.1 hd
  cases he : lookup (r.statesOf order store) (sessionKey x) with
  | none =>
    rw [he] at hk
    exact (store.named o ho (congrArg Prod.snd hk).symm).elim
  | some e =>
    rw [he] at hk hold
    obtain rfl := SessionStore.eq_of_key (mem_of_lookup he).1.1 ho hk
    exact ⟨x, hx, he, hold, rfl⟩

theorem patchAll_other (api : ApiServer) (ho : o ∈ store.objects) (howns : r.owns o = false) :
    SessionStore.patchAll api (r.applied order store neighbors) o = o := by
  refine SessionStore.patchAll_of_ne (fun d hd hk => ?_)
  obtain ⟨x, -, he, -⟩ := applied_of_key hd ho hk
  exact absurd (howns.symm.trans (mem_of_lookup he).1.2) (by decide)

/-- What a run makes of the object of a session. -/
theorem patchAll_session (api : ApiServer) (hkeys : ((sessionsOf order neighbors).map sessionKey).Nodup)
    {x : String × NeighborState} (hx : x ∈ sessionsOf order neighbors)
    (he : lookup (r.statesOf order store) (sessionKey x) = some o) :
    SessionStore.patchAll api (r.applied order store neighbors) o = if r.upToDate x.2 x.1 (some o) then o
      else { o with status := r.statusFor x.2 x.1, owners := api.setOwnerReference o.owners } := by
  have ho := (mem_of_lookup he).1.1
  have hsame : ∀ y ∈ sessionsOf order neighbors, lookup (r.statesOf order store) (sessionKey y) = some o → y = x :=
    fun y hy hey => List.inj_on_of_nodup_map hkeys hy hx ((mem_of_lookup hey).2.symm.trans (mem_of_lookup he).2)
  split
  · rename_i hcurrent
    refine SessionStore.patchAll_of_ne (fun d hd hk => ?_)
    obtain ⟨y, hy, hey, hold, -⟩ := applied_of_key hd ho hk
    rw [hsame y hy hey, hcurrent] at hold
    cases hold
  · rename_i hold
    refine SessionStore.patchAll_of_mem api (fun d hd hk => ?_)
      ⟨r.desiredStateFor x.2 x.1 (some o), mem_applied.2 ⟨x, hx, ?_⟩, rfl⟩
    · obtain ⟨y, hy, hey, -, rfl⟩ := applied_of_key hd ho hk
      rw [hsame y hy hey]
      rfl
    · rw [he]
      exact ⟨Bool.eq_false_iff.2 hold, rfl⟩

/-! ## The objects of the sessions -/

/-- The object reports the session: it has the labels, of which a missing one counts as an empty one, and the status. -/
structure Reports (r : SessionReconciler) (o : BGPSessionState) (x : String × NeighborState) : Prop where
  node : o.labels.find? nodeLabel = some r.nodeName
  vrf : vrfFor o = x.1
  peer : peerFor o = labelFormatForNeighbor x.2.id
  status : o.status =
    { bgpStatus := x.2.bgpState
      bfdStatus := if x.2.bfdStatus = "" then noBFDConfigured else x.2.bfdStatus
      node := r.nodeName
      peer := labelFormatForNeighbor x.2.id
      vrf := x.1 }

theorem owns_iff : r.owns o = true ↔ o.labels.find? nodeLabel = some r.nodeName := by
  unfold owns
  exact decide_eq_true_iff

theorem reports_of_session (howns : r.owns o = true) {x : String × NeighborState} (hsession : o.session = sessionKey x)
    (hstatus : o.status = r.statusFor x.2 x.1) : r.Reports o x :=
  ⟨owns_iff.1 howns, congrArg Prod.fst hsession, congrArg Prod.snd hsession, hstatus⟩

theorem Reports.session {x : String × NeighborState} (h : r.Reports o x) :
    o.session = sessionKey x := Prod.ext h.vrf h.peer

/-- The labels of a session are those of an object of the node. -/
theorem of_labelsFor {x : String × NeighborState} (h : o.labels = r.labelsFor x.2 x.1) :
    r.owns o = true ∧ o.session = sessionKey x := by
  have hnode : nodeLabel ≠ vrfLabel ∧ nodeLabel ≠ peerLabel ∧ peerLabel ≠ vrfLabel := by decide
  refine ⟨owns_iff.2 ?_, Prod.ext ?_ ?_⟩
  · simp [h, labelsFor, hnode]
  · simp [BGPSessionState.session, vrfFor, sessionKey, h, labelsFor]
  · simp [BGPSessionState.session, peerFor, sessionKey, h, labelsFor, hnode]

/-- **A store in which the objects of the node are the sessions**, one for each.  An object whose labels are not just
those of its session has its owner. -/
structure Settled (r : SessionReconciler) (api : ApiServer) (xs : List (String × NeighborState))
    (store : SessionStore) : Prop where
  reported : ∀ o ∈ store.objects, r.owns o = true → ∃ x ∈ xs, r.Reports o x ∧
    (o.labels = r.labelsFor x.2 x.1 ∨ api.setOwnerReference o.owners = o.owners)
  all : ∀ x ∈ xs, ∃ o ∈ store.objects, r.Reports o x
  once : ∀ o ∈ store.objects, ∀ o' ∈ store.objects, r.owns o = true → r.owns o' = true → o.session = o'.session → o = o'

/-- What a run creates is for the sessions without an object. -/
theorem new_iff {d : BGPSessionState} : d ∈ (r.applied order store neighbors).filter (fun d => d.name = "") ↔
    ∃ x ∈ sessionsOf order neighbors, lookup (r.statesOf order store) (sessionKey x) = none ∧
      d = r.desiredStateFor x.2 x.1 none := by
  rw [List.mem_filter, mem_applied, decide_eq_true_eq]
  constructor
  · rintro ⟨⟨x, hx, -, rfl⟩, hname⟩
    cases he : lookup (r.statesOf order store) (sessionKey x) with
    | none => exact ⟨x, hx, he, rfl⟩
    | some e =>
      rw [he] at hname
      exact (store.named e (mem_of_lookup he).1.1 hname).elim
  · rintro ⟨x, hx, he, rfl⟩
    exact ⟨⟨x, hx, by rw [he]; exact ⟨rfl, rfl⟩⟩, rfl⟩

theorem new_sessions_nodup (hkeys : ((sessionsOf order neighbors).map sessionKey).Nodup) :
    (((r.applied order store neighbors).filter (fun d => d.name = "")).map BGPSessionState.session).Nodup := by
  have hsublist : ∀ xs : List (String × NeighborState),
      ((xs.filterMap (r.toApply? (r.statesOf order store))).map BGPSessionState.session).Sublist
      (xs.map sessionKey) := by
    intro xs
    induction xs with
    | nil => exact List.Sublist.refl _
    | cons x xs ih =>
      cases hx : r.toApply? (r.statesOf order store) x with
      | none =>
        rw [List.filterMap_cons_none hx, List.map_cons]
        exact ih.cons _
      | some d =>
        have hd : d.session = sessionKey x := by
          unfold toApply? at hx
          split at hx
          · cases hx
          · obtain rfl := Option.some.inj hx
            exact (of_labelsFor rfl).2
        rw [List.filterMap_cons_some hx, List.map_cons, List.map_cons, hd]
        exact ih.cons_cons _
  exact (hkeys.sublist (hsublist _)).sublist (List.filter_sublist.map _)

/-- What a run makes of the object `e` of the session `x`. -/
def settle (r : SessionReconciler) (api : ApiServer) (x : String × NeighborState) (e : BGPSessionState) :
    BGPSessionState :=
  if r.upToDate x.2 x.1 (some e) then e
  else { e with status := r.statusFor x.2 x.1, owners := api.setOwnerReference e.owners }

theorem settle_labels (api : ApiServer) (x : String × NeighborState) (e : BGPSessionState) :
    (r.settle api x e).labels = e.labels := by
  unfold settle
  split <;> rfl

theorem settle_status (api : ApiServer) (x : String × NeighborState) (e : BGPSessionState) :
    (r.settle api x e).status = r.statusFor x.2 x.1 := by
  unfold settle
  split
  · rename_i hcurrent
    simp only [upToDate, Bool.and_eq_true, decide_eq_true_eq] at hcurrent
    exact hcurrent.2.symm
  · rfl

theorem settle_owners (api : ApiServer) (x : String × NeighborState) (e : BGPSessionState) :
    e.labels = r.labelsFor x.2 x.1 ∨ api.setOwnerReference (r.settle api x e).owners = (r.settle api x e).owners := by
  unfold settle
  split
  · rename_i hcurrent
    simp only [upToDate, Bool.and_eq_true, decide_eq_true_eq] at hcurrent
    exact Or.inl hcurrent.1.symm
  · exact Or.inr (api.setOwnerReference_again _)

theorem owns_congr {o o' : BGPSessionState} (h : o.labels = o'.labels) : r.owns o = r.owns o' := by
  unfold owns
  rw [h]

theorem session_congr {o o' : BGPSessionState} (h : o.labels = o'.labels) : o.session = o'.session := by
  unfold BGPSessionState.session vrfFor peerFor
  rw [h]

theorem created_sessions {l created : List BGPSessionState} (h : List.Forall₂ SessionStore.IsCreated l created) :
    l.map BGPSessionState.session = created.map BGPSessionState.session := by
  induction h with
  | nil => rfl
  | cons hc _ ih => rw [List.map_cons, List.map_cons, ih, session_congr hc.1]

/-- **The objects after a run**: those of other nodes as they were, for each session its object, and new ones for the
sessions that had none. -/
theorem run_objects (api : ApiServer) (store : SessionStore)
    (hkeys : ((sessionsOf order neighbors).map sessionKey).Nodup) :
    ∃ created, (∀ o, o ∈ (r.reconcileSessions api order store (.ok neighbors)).1.objects ↔
      (o ∈ store.objects ∧ r.owns o = false) ∨
      (∃ x ∈ sessionsOf order neighbors, ∃ e, lookup (r.statesOf order store) (sessionKey x) = some e ∧
      o = r.settle api x e) ∨
      o ∈ created) ∧
      List.Forall₂ SessionStore.IsCreated
        ((r.applied order store neighbors).filter (fun d => d.name = "")) created := by
  obtain ⟨created, hobjects, hcreated⟩ := SessionStore.foldl_createOrPatch_objects api (r.applied order store neighbors)
    (r.survivors order store neighbors) (fun d hd => applied_key hkeys hd)
  refine ⟨created, fun o => ?_, hcreated⟩
  rw [reconcileSessions_eq api hkeys]
  simp only [hobjects, List.mem_append, List.mem_map]
  rw [← or_assoc]
  refine or_congr ?_ Iff.rfl
  constructor
  · rintro ⟨e, he, rfl⟩
    obtain ⟨hmem, howned⟩ := (mem_survivors hkeys).1 he
    by_cases howns : r.owns e = true
    · obtain ⟨hlookup, hx⟩ := howned howns
      obtain ⟨x, hx, hsession⟩ := List.mem_map.1 hx
      rw [← hsession] at hlookup
      exact Or.inr ⟨x, hx, e, hlookup, patchAll_session api hkeys hx hlookup⟩
    · rw [patchAll_other api hmem (Bool.eq_false_iff.2 howns)]
      exact Or.inl ⟨hmem, Bool.eq_false_iff.2 howns⟩
  · rintro (⟨hmem, howns⟩ | ⟨x, hx, e, hlookup, rfl⟩)
    · refine ⟨o, (mem_survivors hkeys).2 ⟨hmem, fun h => absurd (howns.symm.trans h) (by decide)⟩, ?_⟩
      exact patchAll_other api hmem howns
    · exact ⟨e, survives_of_lookup hkeys hx hlookup, patchAll_session api hkeys hx hlookup⟩

/-- The object of a session stays the object of this session. -/
theorem settle_session (api : ApiServer) {x : String × NeighborState}
    (he : lookup (r.statesOf order store) (sessionKey x) = some e) :
    r.owns (r.settle api x e) = true ∧ (r.settle api x e).session = sessionKey x := by
  obtain ⟨⟨-, howns⟩, hsession⟩ := mem_of_lookup he
  exact ⟨(owns_congr (settle_labels api x e)).trans howns, (session_congr (settle_labels api x e)).trans hsession⟩

/-- A new object is that of a session that had none. -/
theorem of_created {created : List BGPSessionState}
    (hcreated : List.Forall₂ SessionStore.IsCreated
      ((r.applied order store neighbors).filter (fun d => d.name = "")) created)
    {c : BGPSessionState} (hc : c ∈ created) :
    ∃ x ∈ sessionsOf order neighbors, lookup (r.statesOf order store) (sessionKey x) = none ∧
      c.labels = r.labelsFor x.2 x.1 ∧ c.status = r.statusFor x.2 x.1 := by
  obtain ⟨d, hd, hlabels, hstatus⟩ := (exists_of_forall₂ hcreated).2 c hc
  obtain ⟨x, hx, hnone, rfl⟩ := new_iff.1 hd
  exact ⟨x, hx, hnone, hlabels, hstatus⟩

/-- **A run settles the store.** -/
theorem settled_run (api : ApiServer) (hkeys : ((sessionsOf order neighbors).map sessionKey).Nodup) :
    r.Settled api (sessionsOf order neighbors) (r.reconcileSessions api order store (.ok neighbors)).1 := by
  obtain ⟨created, hobjects, hcreated⟩ := run_objects (r := r) api store hkeys
  have howned : ∀ {o}, o ∈ (r.reconcileSessions api order store (.ok neighbors)).1.objects → r.owns o = true →
      (∃ x ∈ sessionsOf order neighbors, ∃ e, lookup (r.statesOf order store) (sessionKey x) = some e ∧
        o = r.settle api x e) ∨ o ∈ created := by
    intro o ho howns
    refine ((hobjects o).1 ho).resolve_left (fun hother => ?_)
    exact absurd (hother.2.symm.trans howns) (by decide)
  constructor
  case reported =>
    intro o ho howns
    obtain ⟨x, hx, e, he, rfl⟩ | hc := howned ho howns
    · refine ⟨x, hx, reports_of_session howns (settle_session api he).2 (settle_status api x e), ?_⟩
      rw [settle_labels]
      exact settle_owners api x e
    · obtain ⟨x, hx, -, hlabels, hstatus⟩ := of_created hcreated hc
      exact ⟨x, hx, reports_of_session howns (of_labelsFor hlabels).2 hstatus, Or.inl hlabels⟩
  case all =>
    intro x hx
    cases he : lookup (r.statesOf order store) (sessionKey x) with
    | some e =>
      obtain ⟨howns, hsession⟩ := settle_session api he
      exact ⟨r.settle api x e, (hobjects _).2 (Or.inr (Or.inl ⟨x, hx, e, he, rfl⟩)),
        reports_of_session howns hsession (settle_status api x e)⟩
    | none =>
      obtain ⟨c, hc, hlabels, hstatus⟩ := (exists_of_forall₂ hcreated).1 _ (new_iff.2 ⟨x, hx, he, rfl⟩)
      obtain ⟨howns, hsession⟩ := of_labelsFor (o := c) (x := x) hlabels
      exact ⟨c, (hobjects _).2 (Or.inr (Or.inr hc)), reports_of_session howns hsession hstatus⟩
  case once =>
    -- a session has an object or a new one, and not both
    have hapart : ∀ {x e c}, lookup (r.statesOf order store) (sessionKey x) = some e → c ∈ created →
        (r.settle api x e).session ≠ c.session := by
      intro x e c he hc heq
      obtain ⟨y, -, hnone, hlabels, -⟩ := of_created hcreated hc
      rw [(settle_session api he).2, (of_labelsFor hlabels).2] at heq
      rw [heq, hnone] at he
      cases he
    intro o ho o' ho' howns howns' hsession
    obtain ⟨x, hx, e, he, rfl⟩ | hc := howned ho howns
    · obtain ⟨y, hy, e', he', rfl⟩ | hc' := howned ho' howns'
      · rw [(settle_session api he).2, (settle_session api he').2] at hsession
        obtain rfl := List.inj_on_of_nodup_map hkeys hx hy hsession
        rw [Option.some.inj (he.symm.trans he')]
      · exact (hapart he hc' hsession).elim
    · obtain ⟨y, hy, e', he', rfl⟩ | hc' := howned ho' howns'
      · exact (hapart he' hc hsession.symm).elim
      · exact List.inj_on_of_nodup_map (created_sessions hcreated ▸ new_sessions_nodup hkeys) hc hc' hsession

/-- A run leaves the objects of other nodes alone. -/
theorem run_others (api : ApiServer) (hkeys : ((sessionsOf order neighbors).map sessionKey).Nodup)
    (howns : r.owns o = false) :
    o ∈ (r.reconcileSessions api order store (.ok neighbors)).1.objects ↔ o ∈ store.objects := by
  obtain ⟨created, hobjects, hcreated⟩ := run_objects (r := r) api store hkeys
  rw [hobjects]
  refine ⟨?_, fun ho => Or.inl ⟨ho, howns⟩⟩
  rintro (⟨ho, -⟩ | ⟨x, -, e, he, rfl⟩ | hc)
  · exact ho
  · exact absurd (howns.symm.trans (settle_session api he).1) (by decide)
  · obtain ⟨x, -, -, hlabels, -⟩ := of_created hcreated hc
    exact absurd (howns.symm.trans (of_labelsFor hlabels).1) (by decide)

/-! ## A second run -/

theorem lookup_settled {api : ApiServer} {xs : List (String × NeighborState)} (h : r.Settled api xs store)
    (ho : o ∈ store.objects) (howns : r.owns o = true) : lookup (r.statesOf order store) o.session = some o := by
  obtain ⟨e, he⟩ := exists_lookup order ho howns
  obtain ⟨⟨hmem, howns'⟩, hsession⟩ := mem_of_lookup he
  rw [he, h.once e hmem o ho howns' howns hsession]

theorem survivors_filter (r : SessionReconciler) (order : RangeOrder) (store : SessionStore)
    (neighbors : SortedMap String (List NeighborState)) :
    ∃ p, (r.survivors order store neighbors).objects = store.objects.filter p := by
  rw [survivors, SessionStore.foldl_delete_objects, SessionStore.foldl_delete_objects, List.filter_filter]
  exact ⟨_, rfl⟩

theorem eq_of_objects {s s' : SessionStore} (h : s.objects = s'.objects) : s = s' := by
  cases s
  cases s'
  cases h
  rfl

theorem createOrPatch_self {api : ApiServer} {d : BGPSessionState}
    (hd : d.key ∈ store.objects.map BGPSessionState.key ∧ ∀ o ∈ store.objects, api.patch d o = o) :
    store.createOrPatch api d = store := by
  refine eq_of_objects ?_
  rw [SessionStore.createOrPatch, dif_pos hd.1]
  exact (List.map_congr_left hd.2).trans (List.map_id _)

section

variable {api : ApiServer} {xs : List (String × NeighborState)}

theorem survivors_settled (h : r.Settled api xs store) (hkeys : ((sessionsOf order neighbors).map sessionKey).Nodup)
    (hxs : ∀ x, x ∈ xs ↔ x ∈ sessionsOf order neighbors) : r.survivors order store neighbors = store := by
  obtain ⟨p, hp⟩ := survivors_filter r order store neighbors
  refine eq_of_objects (hp.trans (List.filter_eq_self.2 fun o ho => ?_))
  refine (List.mem_filter.1 (hp ▸ (mem_survivors hkeys).2 ⟨ho, fun howns => ⟨lookup_settled h ho howns, ?_⟩⟩)).2
  obtain ⟨x, hx, hreports, -⟩ := h.reported o ho howns
  exact List.mem_map.2 ⟨x, (hxs x).1 hx, hreports.session.symm⟩

/-- A state that is still applied has other labels than its object, whose status and owners are as they should be. -/
theorem patch_settled (h : r.Settled api xs store) (hkeys : ((sessionsOf order neighbors).map sessionKey).Nodup)
    (hxs : ∀ x, x ∈ xs ↔ x ∈ sessionsOf order neighbors) {d : BGPSessionState}
    (hd : d ∈ r.applied order store neighbors) :
    d.key ∈ store.objects.map BGPSessionState.key ∧ ∀ o ∈ store.objects, api.patch d o = o := by
  obtain ⟨x, hx, hold, rfl⟩ := mem_applied.1 hd
  obtain ⟨o, ho, hreports⟩ := h.all x ((hxs x).2 hx)
  have howns : r.owns o = true := owns_iff.2 hreports.node
  rw [← hreports.session, lookup_settled h ho howns] at hold ⊢
  refine ⟨List.mem_map.2 ⟨o, ho, rfl⟩, fun o' ho' => ?_⟩
  unfold ApiServer.patch
  split
  · rename_i hk
    obtain rfl := SessionStore.eq_of_key ho' ho hk
    obtain ⟨y, hy, hreports', howner⟩ := h.reported o' ho' howns
    obtain rfl := List.inj_on_of_nodup_map hkeys ((hxs y).1 hy) hx (hreports'.session.symm.trans hreports.session)
    have hlabels : o'.labels ≠ r.labelsFor y.2 y.1 := by
      intro hlabels
      have hstatus : o'.status = r.statusFor y.2 y.1 := hreports.status
      simp [upToDate, hlabels, hstatus] at hold
    have hstatus : (r.desiredStateFor y.2 y.1 (some o')).status = o'.status := hreports.status.symm
    rw [hstatus, howner.resolve_left hlabels]
  · rfl

theorem foldl_createOrPatch_self : ∀ {l : List BGPSessionState},
    (∀ d ∈ l, d.key ∈ store.objects.map BGPSessionState.key ∧ ∀ o ∈ store.objects, api.patch d o = o) →
    l.foldl (SessionStore.createOrPatch api) store = store
  | [], _ => rfl
  | d :: l, h => by
    rw [List.foldl_cons, createOrPatch_self (h d (List.mem_cons_self ..))]
    exact foldl_createOrPatch_self (fun d' hd' => h d' (List.mem_cons_of_mem _ hd'))

/-- **A run on a settled store changes nothing.** -/
theorem run_settled (h : r.Settled api xs store) (hkeys : ((sessionsOf order neighbors).map sessionKey).Nodup)
    (hxs : ∀ x, x ∈ xs ↔ x ∈ sessionsOf order neighbors) :
    r.reconcileSessions api order store (.ok neighbors) = (store, none) := by
  rw [reconcileSessions_eq api hkeys, survivors_settled h hkeys hxs,
    foldl_createOrPatch_self (fun _ hd => patch_settled h hkeys hxs hd)]

end

/-! ## The sessions of FRR -/

/-- The sessions that FRR reports, with the VRF that they are reported for. -/
def reportedSessions (neighbors : SortedMap String (List NeighborState)) : List (String × NeighborState) :=
  neighbors.entries.flatMap (fun e => e.2.map (fun neigh => (if e.1 = "default" then "" else e.1, neigh)))

theorem find?_renameDefaultVRF (neighbors : SortedMap String (List NeighborState)) (vrf : String) :
    (renameDefaultVRF neighbors).find? vrf = if vrf = "default" then none
      else if vrf = "" then some ((neighbors.find? "default").getD []) else neighbors.find? vrf := by
  rw [renameDefaultVRF, SortedMap.find?_erase, SortedMap.find?_insert]

theorem mem_sessionsOf (order : RangeOrder) (neighbors : SortedMap String (List NeighborState))
    (x : String × NeighborState) :
    x ∈ sessionsOf order neighbors ↔ ∃ ns, (renameDefaultVRF neighbors).find? x.1 = some ns ∧ x.2 ∈ ns := by
  rw [sessionsOf, sessionsIn, List.mem_flatMap]
  constructor
  · rintro ⟨⟨vrf, ns⟩, he, hx⟩
    obtain ⟨n, hn, rfl⟩ := List.mem_map.1 hx
    exact ⟨ns, (SortedMap.find?_eq_some ..).2 ((order.perm _).mem_iff.1 he), hn⟩
  · rintro ⟨ns, hns, hx⟩
    exact ⟨(x.1, ns), (order.perm _).mem_iff.2 ((SortedMap.find?_eq_some ..).1 hns), List.mem_map.2 ⟨x.2, hx, rfl⟩⟩

theorem mem_reportedSessions (x : String × NeighborState) : x ∈ reportedSessions neighbors ↔
    ∃ vrf ns, neighbors.find? vrf = some ns ∧ x.2 ∈ ns ∧ x.1 = if vrf = "default" then "" else vrf := by
  rw [reportedSessions, List.mem_flatMap]
  constructor
  · rintro ⟨⟨vrf, ns⟩, he, hx⟩
    obtain ⟨n, hn, rfl⟩ := List.mem_map.1 hx
    exact ⟨vrf, ns, (SortedMap.find?_eq_some ..).2 he, hn, rfl⟩
  · rintro ⟨vrf, ns, hns, hx, hvrf⟩
    exact ⟨(vrf, ns), (SortedMap.find?_eq_some ..).1 hns, List.mem_map.2 ⟨x.2, hx, Prod.ext hvrf.symm rfl⟩⟩

/-- No session of a VRF without a name is lost: the default VRF, which takes its place, has it as well. -/
def NamelessKept (neighbors : SortedMap String (List NeighborState)) : Prop :=
  ∀ ns, neighbors.find? "" = some ns → ∀ n ∈ ns, n ∈ (neighbors.find? "default").getD []

theorem NamelessKept.of_none (h : ∀ ns, neighbors.find? "" = some ns → ns = []) : NamelessKept neighbors := by
  intro ns hns n hn
  rw [h ns hns] at hn
  cases hn

theorem mem_reportedSessions_of_default {x : String × NeighborState} (hvrf : x.1 = "")
    (h : x.2 ∈ (neighbors.find? "default").getD []) : x ∈ reportedSessions neighbors := by
  cases hfound : neighbors.find? "default" with
  | none =>
    rw [hfound] at h
    cases h
  | some ns =>
    rw [hfound] at h
    exact (mem_reportedSessions _).2 ⟨"default", ns, hfound, h, hvrf⟩

/-- A run goes through the sessions FRR reports, if none is lost. -/
theorem mem_sessionsOf_iff (order : RangeOrder) (hkept : NamelessKept neighbors)
    (x : String × NeighborState) : x ∈ sessionsOf order neighbors ↔ x ∈ reportedSessions neighbors := by
  rw [mem_sessionsOf, find?_renameDefaultVRF]
  constructor
  · rintro ⟨ns, hns, hx⟩
    by_cases hdefault : x.1 = "default"
    · rw [if_pos hdefault] at hns
      cases hns
    · rw [if_neg hdefault] at hns
      by_cases hvrf : x.1 = ""
      · rw [if_pos hvrf] at hns
        obtain rfl := Option.some.inj hns
        exact mem_reportedSessions_of_default hvrf hx
      · rw [if_neg hvrf] at hns
        exact (mem_reportedSessions x).2 ⟨x.1, ns, hns, hx, (if_neg hdefault).symm⟩
  · intro hx
    obtain ⟨vrf, ns, hns, hx, hvrf⟩ := (mem_reportedSessions x).1 hx
    by_cases hdefault : vrf = "default"
    · subst hdefault
      rw [hvrf]
      exact ⟨ns, by simp [hns], hx⟩
    · rw [if_neg hdefault] at hvrf
      by_cases hname : vrf = ""
      · subst hname
        exact ⟨_, by rw [hvrf, if_neg hdefault, if_pos rfl], hkept ns hns x.2 hx⟩
      · exact ⟨ns, by rw [hvrf, if_neg hdefault, if_neg hname, hns], hx⟩

theorem sessionsIn_nodup {l : List (String × List NeighborState)} (hl : (l.map Prod.fst).Nodup)
    (hlabels : ∀ e ∈ l, (e.2.map (fun n => labelFormatForNeighbor n.id)).Nodup) :
    ((sessionsIn l).map sessionKey).Nodup := by
  induction l with
  | nil => exact List.nodup_nil
  | cons e l ih =>
    rw [List.map_cons, List.nodup_cons] at hl
    rw [sessionsIn, List.flatMap_cons, List.map_append, List.map_map, List.nodup_append]
    refine ⟨?_, ih hl.2 (fun e' he' => hlabels e' (List.mem_cons_of_mem _ he')), ?_⟩
    · refine List.Nodup.of_map Prod.snd ?_
      rw [List.map_map]
      exact hlabels e (List.mem_cons_self ..)
    · intro k hk k' hk' heq
      obtain ⟨n, -, rfl⟩ := List.mem_map.1 hk
      obtain ⟨y, hy, rfl⟩ := List.mem_map.1 hk'
      obtain ⟨e', he', hy⟩ := List.mem_flatMap.1 hy
      obtain ⟨n', -, rfl⟩ := List.mem_map.1 hy
      exact hl.1 (List.mem_map.2 ⟨e', he', (congrArg Prod.fst heq).symm⟩)

/-- The labels tell the sessions apart. -/
theorem sessionsOf_nodup (order : RangeOrder) (hdistinct : ∀ vrf ns, neighbors.find? vrf = some ns →
    (ns.map (fun n => labelFormatForNeighbor n.id)).Nodup) : ((sessionsOf order neighbors).map sessionKey).Nodup := by
  have hperm := order.perm (renameDefaultVRF neighbors).entries
  refine sessionsIn_nodup
    ((hperm.map Prod.fst).nodup_iff.2 (nodup_map_of_pairwise_lt (renameDefaultVRF neighbors).sorted)) ?_
  intro e he
  have hfind := (SortedMap.find?_eq_some (renameDefaultVRF neighbors) e.1 e.2).2 (hperm.mem_iff.1 he)
  rw [find?_renameDefaultVRF] at hfind
  split at hfind
  · cases hfind
  split at hfind
  · rw [← Option.some.inj hfind]
    cases hfound : neighbors.find? "default" with
    | none => exact List.nodup_nil
    | some ns => exact hdistinct _ ns hfound
  · exact hdistinct _ _ hfind

/-- **The objects of the node are in bijection with the sessions that FRR reports.** -/
structure Converged (r : SessionReconciler) (neighbors : SortedMap String (List NeighborState)) (store : SessionStore) :
    Prop where
  reported : ∀ x ∈ reportedSessions neighbors, ∃! o, o ∈ store.objects ∧ r.Reports o x
  reports : ∀ o ∈ store.objects, r.owns o = true → ∃! x, x ∈ reportedSessions neighbors ∧ r.Reports o x

theorem Settled.converged {api : ApiServer} (h : r.Settled api (sessionsOf order neighbors) store)
    (hkeys : ((sessionsOf order neighbors).map sessionKey).Nodup)
    (hsessions : ∀ x, x ∈ sessionsOf order neighbors ↔ x ∈ reportedSessions neighbors) :
    r.Converged neighbors store := by
  constructor
  · intro x hx
    obtain ⟨o, ho, hreports⟩ := h.all x ((hsessions x).2 hx)
    refine ⟨o, ⟨ho, hreports⟩, ?_⟩
    rintro o' ⟨ho', hreports'⟩
    exact h.once o' ho' o ho (owns_iff.2 hreports'.node) (owns_iff.2 hreports.node)
      (hreports'.session.trans hreports.session.symm)
  · intro o ho howns
    obtain ⟨x, hx, hreports, -⟩ := h.reported o ho howns
    refine ⟨x, ⟨(hsessions x).1 hx, hreports⟩, ?_⟩
    rintro y ⟨hy, hreports'⟩
    exact List.inj_on_of_nodup_map hkeys ((hsessions y).2 hy) hx (hreports'.session.symm.trans hreports.session)

/-! ## The labels -/

/-- The object has a label for the VRF and one for the peer. -/
structure HasLabels (o : BGPSessionState) : Prop where
  vrf : o.labels.find? vrfLabel ≠ none
  peer : o.labels.find? peerLabel ≠ none

/-- The object reports the session, and every label of the session is on it. -/
structure Carries (r : SessionReconciler) (o : BGPSessionState) (x : String × NeighborState) :
    Prop extends r.Reports o x where
  vrfSet : o.labels.find? vrfLabel = some x.1
  peerSet : o.labels.find? peerLabel = some (labelFormatForNeighbor x.2.id)

theorem carries_iff {x : String × NeighborState} : r.Carries o x ↔ r.Reports o x ∧ HasLabels o := by
  constructor
  · intro h
    exact ⟨h.toReports, by simp [h.vrfSet], by simp [h.peerSet]⟩
  · rintro ⟨hreports, hlabels⟩
    obtain ⟨vrf, hvrf⟩ := Option.ne_none_iff_exists'.1 hlabels.vrf
    obtain ⟨peer, hpeer⟩ := Option.ne_none_iff_exists'.1 hlabels.peer
    have hx := hreports.vrf
    have hid := hreports.peer
    unfold vrfFor at hx
    unfold peerFor at hid
    rw [hvrf, Option.getD_some] at hx
    rw [hpeer, Option.getD_some] at hid
    exact ⟨hreports, hx ▸ hvrf, hid ▸ hpeer⟩

/-- **The objects of the node, with all their labels, are in bijection with the sessions that FRR reports.** -/
structure Labelled (r : SessionReconciler) (neighbors : SortedMap String (List NeighborState)) (store : SessionStore) :
    Prop where
  reported : ∀ x ∈ reportedSessions neighbors, ∃! o, o ∈ store.objects ∧ r.Carries o x
  reports : ∀ o ∈ store.objects, r.owns o = true → ∃! x, x ∈ reportedSessions neighbors ∧ r.Carries o x

theorem Converged.labelled (h : r.Converged neighbors store)
    (hlabels : ∀ o ∈ store.objects, r.owns o = true → HasLabels o) : r.Labelled neighbors store := by
  constructor
  · intro x hx
    obtain ⟨o, ⟨ho, hreports⟩, honly⟩ := h.reported x hx
    refine ⟨o, ⟨ho, carries_iff.2 ⟨hreports, hlabels o ho (owns_iff.2 hreports.node)⟩⟩, ?_⟩
    rintro o' ⟨ho', hcarries⟩
    exact honly o' ⟨ho', hcarries.toReports⟩
  · intro o ho howns
    obtain ⟨x, ⟨hx, hreports⟩, honly⟩ := h.reports o ho howns
    refine ⟨x, ⟨hx, carries_iff.2 ⟨hreports, hlabels o ho howns⟩⟩, ?_⟩
    rintro y ⟨hy, hcarries⟩
    exact honly y ⟨hy, hcarries.toReports⟩

theorem Labelled.hasLabels (h : r.Labelled neighbors store) (ho : o ∈ store.objects) (howns : r.owns o = true) :
    HasLabels o := by
  obtain ⟨x, ⟨-, hcarries⟩, -⟩ := h.reports o ho howns
  exact (carries_iff.1 hcarries).2

/-- The object of a session without a VRF name is that of a session of the default VRF, which is then the same. -/
theorem Labelled.namelessKept (h : r.Labelled neighbors store) {api : ApiServer}
    (hsettled : r.Settled api (sessionsOf order neighbors) store) : NamelessKept neighbors := by
  intro ns hns n hn
  have hx : ("", n) ∈ reportedSessions neighbors := (mem_reportedSessions _).2 ⟨"", ns, hns, hn, rfl⟩
  obtain ⟨o, ⟨ho, hcarries⟩, -⟩ := h.reported _ hx
  have howns : r.owns o = true := owns_iff.2 hcarries.node
  obtain ⟨y, hy, hreports, -⟩ := hsettled.reported o ho howns
  have hname : y.1 = "" := hreports.vrf.symm.trans hcarries.vrf
  obtain ⟨ns', hns', hy⟩ := (mem_sessionsOf order neighbors y).1 hy
  rw [hname, find?_renameDefaultVRF, if_neg (by decide), if_pos rfl] at hns'
  obtain rfl := Option.some.inj hns'
  have hsame := (h.reports o ho howns).unique ⟨hx, hcarries⟩
    ⟨mem_reportedSessions_of_default hname hy, carries_iff.2 ⟨hreports, (carries_iff.1 hcarries).2⟩⟩
  rw [← hsame] at hy
  exact hy

theorem hasLabels_congr {o o' : BGPSessionState} (h : o.labels = o'.labels) : HasLabels o ↔ HasLabels o' := by
  constructor <;> rintro ⟨hvrf, hpeer⟩
  · exact ⟨h ▸ hvrf, h ▸ hpeer⟩
  · exact ⟨h ▸ hvrf, h ▸ hpeer⟩

/-- A run gives labels to the objects it creates, and to no other. -/
theorem run_hasLabels_iff (api : ApiServer) (hkeys : ((sessionsOf order neighbors).map sessionKey).Nodup) :
    (∀ o ∈ (r.reconcileSessions api order store (.ok neighbors)).1.objects, r.owns o = true → HasLabels o) ↔
      ∀ o ∈ (r.survivors order store neighbors).objects, r.owns o = true → HasLabels o := by
  obtain ⟨created, hobjects, hcreated⟩ := run_objects (r := r) api store hkeys
  constructor
  · intro h e he howns
    obtain ⟨hlookup, hx⟩ := ((mem_survivors hkeys).1 he).2 howns
    obtain ⟨x, hx, hsession⟩ := List.mem_map.1 hx
    rw [← hsession] at hlookup
    have hmem := (hobjects (r.settle api x e)).2 (Or.inr (Or.inl ⟨x, hx, e, hlookup, rfl⟩))
    exact (hasLabels_congr (settle_labels api x e)).1 (h _ hmem (settle_session api hlookup).1)
  · intro h o ho howns
    obtain ⟨-, hother⟩ | ⟨x, hx, e, hlookup, rfl⟩ | hc := (hobjects o).1 ho
    · exact absurd (hother.symm.trans howns) (by decide)
    · refine (hasLabels_congr (settle_labels api x e)).2 (h e (survives_of_lookup hkeys hx hlookup) ?_)
      exact (mem_of_lookup hlookup).1.2
    · obtain ⟨x, -, -, hlabels, -⟩ := of_created hcreated hc
      have hne : peerLabel ≠ vrfLabel := by decide
      exact ⟨by simp [hlabels, labelsFor], by simp [hlabels, labelsFor, hne]⟩

end SessionReconciler

section

variable (r : SessionReconciler) (api : ApiServer) (order order' : RangeOrder) (store : SessionStore)
  (neighbors : SortedMap String (List NeighborState))

/-- Whatever the labels, a run reports no error, leaves the objects of other nodes alone and is followed by runs that
change nothing. -/
theorem reconcileSessions_steady
    (hdistinct : ∀ vrf ns, neighbors.find? vrf = some ns → (ns.map (fun n => labelFormatForNeighbor n.id)).Nodup) :
    let run := r.reconcileSessions api order store (.ok neighbors)
    run.2 = none ∧ (∀ o, r.owns o = false → (o ∈ run.1.objects ↔ o ∈ store.objects)) ∧
      r.reconcileSessions api order' run.1 (.ok neighbors) = (run.1, none) := by
  intro run
  have hkeys := SessionReconciler.sessionsOf_nodup order hdistinct
  refine ⟨?_, fun o howns => SessionReconciler.run_others api hkeys howns, ?_⟩
  · rw [show run = _ from SessionReconciler.reconcileSessions_eq api hkeys]
  · refine SessionReconciler.run_settled (SessionReconciler.settled_run api hkeys)
      (SessionReconciler.sessionsOf_nodup order' hdistinct) (fun x => ?_)
    rw [SessionReconciler.mem_sessionsOf, SessionReconciler.mem_sessionsOf]

/-- **After a run the objects of the node are the sessions FRR reports**, one for each; those of other nodes are as
they were, and a second run changes nothing. -/
theorem reconcileSessions_converges (hkept : SessionReconciler.NamelessKept neighbors)
    (hdistinct : ∀ vrf ns, neighbors.find? vrf = some ns → (ns.map (fun n => labelFormatForNeighbor n.id)).Nodup) :
    let run := r.reconcileSessions api order store (.ok neighbors)
    run.2 = none ∧ r.Converged neighbors run.1 ∧ (∀ o, r.owns o = false → (o ∈ run.1.objects ↔ o ∈ store.objects)) ∧
      r.reconcileSessions api order' run.1 (.ok neighbors) = (run.1, none) := by
  obtain ⟨hnone, hrest⟩ := reconcileSessions_steady r api order order' store neighbors hdistinct
  have hkeys := SessionReconciler.sessionsOf_nodup order hdistinct
  refine ⟨hnone, (SessionReconciler.settled_run api hkeys).converged hkeys ?_, hrest⟩
  exact SessionReconciler.mem_sessionsOf_iff order hkept

/-- **After a run each object of the node carries all labels of its session exactly when those that the run keeps had
them**, and FRR reports no session that is lost. -/
theorem reconcileSessions_labelled_iff
    (hdistinct : ∀ vrf ns, neighbors.find? vrf = some ns → (ns.map (fun n => labelFormatForNeighbor n.id)).Nodup) :
    let run := r.reconcileSessions api order store (.ok neighbors)
    (r.Labelled neighbors run.1 ↔ SessionReconciler.NamelessKept neighbors ∧
      ∀ o ∈ (r.survivors order store neighbors).objects, r.owns o = true → SessionReconciler.HasLabels o) ∧
    run.2 = none ∧ (∀ o, r.owns o = false → (o ∈ run.1.objects ↔ o ∈ store.objects)) ∧
    r.reconcileSessions api order' run.1 (.ok neighbors) = (run.1, none) := by
  refine ⟨?_, reconcileSessions_steady r api order order' store neighbors hdistinct⟩
  have hkeys := SessionReconciler.sessionsOf_nodup order hdistinct
  rw [← SessionReconciler.run_hasLabels_iff api hkeys]
  constructor
  · intro h
    exact ⟨h.namelessKept (SessionReconciler.settled_run api hkeys), fun o ho howns => h.hasLabels ho howns⟩
  · rintro ⟨hkept, hlabels⟩
    exact (reconcileSessions_converges r api order order' store neighbors hkept hdistinct).2.1.labelled hlabels

end

/-! ## An API server -/

/-- The name is longer than all others. -/
def longerName (objects : List BGPSessionState) (generateName : String) : String :=
  String.ofList (generateName.toList ++ '0' :: objects.flatMap (fun s => s.name.toList))

theorem longerName_nonempty (objects : List BGPSessionState) (generateName : String) :
    longerName objects generateName ≠ "" := by
  intro h
  have hlist := congrArg String.toList h
  simp [longerName] at hlist

theorem longerName_new {objects : List BGPSessionState} {generateName : String} {s : BGPSessionState}
    (hs : s ∈ objects) : s.name ≠ longerName objects generateName := by
  intro heq
  have hle : s.name.toList.length ≤ (objects.flatMap (fun s => s.name.toList)).length := by
    have hmem : s.name.toList ∈ objects.map (fun s => s.name.toList) := List.mem_map.2 ⟨s, hs, rfl⟩
    rw [List.flatMap_def]
    exact (List.sublist_flatten_of_mem hmem).length_le
  have hlen := congrArg (fun t => t.toList.length) heq
  simp only [longerName, String.toList_ofList, List.length_append, List.length_cons] at hlen
  omega

/-- The pod is appended once. -/
def setPodReference (owners : List OwnerReference) : List OwnerReference :=
  if ⟨"Pod", "frr-k8s", "1"⟩ ∈ owners then owners else owners ++ [⟨"Pod", "frr-k8s", "1"⟩]

theorem setPodReference_again (owners : List OwnerReference) :
    setPodReference (setPodReference owners) = setPodReference owners := by
  by_cases h : ⟨"Pod", "frr-k8s", "1"⟩ ∈ owners
  · simp [setPodReference, h]
  · simp [setPodReference, h]

def plainApi : ApiServer where
  generate objects _ generateName := longerName objects generateName
  generate_ne objects _ generateName := longerName_nonempty objects generateName
  generate_new _ _ _ _ hs _ := longerName_new hs
  setOwnerReference := setPodReference
  setOwnerReference_again := setPodReference_again

/-- The labels of a session of `node-1`, without one for the VRF. -/
def peerLabels (peer : String) : Labels := (SortedMap.empty.insert nodeLabel "node-1").insert peerLabel peer

/-- Two objects of one session, and one of another node. -/
def storedSessions : SessionStore where
  objects := [
    { name := "a", labels := (peerLabels "10.0.0.1").insert vrfLabel "" },
    { name := "b", labels := (peerLabels "10.0.0.1").insert vrfLabel "" },
    { name := "c", labels := SortedMap.empty.insert nodeLabel "node-2" }]
  keys := by decide
  named := by decide

/-- What FRR reports for the default VRF and for `red`. -/
def twoVRFs : SortedMap String (List NeighborState) :=
  (SortedMap.empty.insert "default" [⟨"10.0.0.1", "Established", ""⟩, ⟨"fc00::1", "Active", "down"⟩]).insert "red"
    [⟨"10.0.0.1", "Active", "up"⟩]

theorem twoVRFs_distinct (vrf : String) (ns : List NeighborState) (h : twoVRFs.find? vrf = some ns) :
    (ns.map (fun n => labelFormatForNeighbor n.id)).Nodup := by
  have hall : ∀ e ∈ twoVRFs.entries, (e.2.map (fun n => labelFormatForNeighbor n.id)).Nodup := by decide +kernel
  exact hall (vrf, ns) ((SortedMap.find?_eq_some ..).1 h)

theorem reconcileSessions_labelled_twoVRFs :
    let r : SessionReconciler := ⟨"node-1", "frr-k8s"⟩
    let run := r.reconcileSessions plainApi inOrder storedSessions (.ok twoVRFs)
    run.1.objects.map (fun o => (vrfFor o, peerFor o, o.status.bgpStatus, o.status.bfdStatus)) =
      [("", "10.0.0.1", "Established", "N/A"), ("", "", "", ""),
        ("", "fc00-0000-0000-0000-0000-0000-0000-0001", "Active", "down"), ("red", "10.0.0.1", "Active", "up")] ∧
    r.Labelled twoVRFs run.1 ∧ r.reconcileSessions plainApi reversed run.1 (.ok twoVRFs) = (run.1, none) := by
  have hkept : SessionReconciler.NamelessKept twoVRFs := by
    refine .of_none (fun ns h => ?_)
    rw [show twoVRFs.find? "" = none by decide +kernel] at h
    cases h
  have hlabels : ∀ o ∈ (SessionReconciler.survivors ⟨"node-1", "frr-k8s"⟩ inOrder storedSessions twoVRFs).objects,
      SessionReconciler.owns ⟨"node-1", "frr-k8s"⟩ o = true →
        o.labels.find? vrfLabel ≠ none ∧ o.labels.find? peerLabel ≠ none := by
    decide +kernel
  have hrun := reconcileSessions_labelled_iff ⟨"node-1", "frr-k8s"⟩ plainApi inOrder reversed storedSessions twoVRFs
    twoVRFs_distinct
  refine ⟨by decide +kernel, hrun.1.2 ⟨hkept, fun o ho howns => ?_⟩, hrun.2.2.2⟩
  exact ⟨(hlabels o ho howns).1, (hlabels o ho howns).2⟩

/-- Sessions of a VRF without a name are lost, and an object without a label for the VRF stays without one. -/
theorem reconcileSessions_differs :
    let r : SessionReconciler := ⟨"node-1", "frr-k8s"⟩
    let store : SessionStore := ⟨[{ name := "a", labels := peerLabels "10.0.0.1" }], by decide, by decide⟩
    (r.reconcileSessions plainApi inOrder ⟨[], by decide, by decide⟩
      (.ok (SortedMap.empty.insert "" [⟨"10.0.0.1", "Active", ""⟩]))).1.objects = [] ∧
    ((r.reconcileSessions plainApi inOrder store (.ok (SortedMap.empty.insert "default"
    [⟨"10.0.0.1", "Active", ""⟩]))).1.objects.map
      (fun o => (o.name, o.labels.find? vrfLabel, o.status.peer))) = [("a", none, "10.0.0.1")] := by
  decide +kernel

end FrrK8s
