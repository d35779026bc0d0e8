import FrrK8s.Reconcile
/-!
# Watch — when the configuration controller runs (`SetupWithManager`, `filterNodeEvent`)

The controller runs after an object it watches has changed, unless the change is one of a node that the filter leaves
out, and again after a run that returned an error.  A run lists the configurations, looks up the log level and the node,
and lists the secrets, each at its own time; objects may change between these calls, and an event is handled some time
after the change.  So a run may see parts of the cluster from different times.  Where no request is left, however, the
last run has seen the cluster as it is (`watch_quiescent`).
-/
namespace FrrK8s

/-! ## Objects and events -/

/-- What the cache of the daemon has; of a node the name and the labels. -/
inductive Object
  | config (cfg : FRRConfiguration)
  | node (name : String) (labels : Labels)
  | secret (s : Secret)
  | k8sConfig (ns name logLevel : String)
deriving DecidableEq

inductive Kind
  | config
  | node
  | secret
  | k8sConfig
deriving DecidableEq, Repr

/-- The kind, the namespace and the name of an object. -/
def Object.key : Object → Kind × String × String
  | .config cfg => (.config, cfg.ns, cfg.name)
  | .node name _ => (.node, "", name)
  | .secret s => (.secret, s.ns, s.name)
  | .k8sConfig ns name _ => (.k8sConfig, ns, name)

inductive Event
  | create (o : Object)
  | update (objectOld objectNew : Object)
  | delete (o : Object)
deriving DecidableEq

def filterNodeEvent (objectOld objectNew : Object) (thisNode : String) : Bool :=
  match objectNew, objectOld with
  | .node newName newLabels, .node oldName oldLabels =>
    if oldName ≠ newName then true
    else if newName ≠ thisNode then false
    else if oldLabels = newLabels then false
    else true
  | _, _ => true

/-- The predicate of `WithEventFilter`, which has an `UpdateFunc` only. -/
def Event.passes (thisNode : String) : Event → Bool
  | .update objectOld objectNew => filterNodeEvent objectOld objectNew thisNode
  | .create _ | .delete _ => true

structure Request where
  ns : String := ""
  name : String
deriving DecidableEq, Repr

/-- The request for an object: there is one for all configurations. -/
def Object.request : Object → Request
  | .config cfg => { ns := cfg.ns, name := "frrconfig" }
  | .node name _ => { name := name }
  | .secret s => { ns := s.ns, name := s.name }
  | .k8sConfig ns name _ => { ns := ns, name := name }

def Event.request : Event → Request
  | .create o | .update _ o | .delete o => o.request

/-- The objects after an event, where it can happen. -/
def Event.apply (objects : List Object) : Event → Option (List Object)
  | .create o => if o.key ∈ objects.map Object.key then none else some (o :: objects)
  | .update objectOld objectNew =>
    if objectOld ∈ objects ∧ objectNew.key = objectOld.key then
      some (objects.map (fun o => if o = objectOld then objectNew else o))
    else none
  | .delete o => if o ∈ objects then some (objects.filter (fun x => decide (x ≠ o))) else none

def Object.config? : Object → Option FRRConfiguration
  | .config cfg => some cfg
  | _ => none

def listConfigs (objects : List Object) : List FRRConfiguration := objects.filterMap Object.config?

def Object.secret? (ns : String) : Object → Option Secret
  | .secret s => if s.ns = ns then some s else none
  | _ => none

def listSecrets (ns : String) (objects : List Object) : List Secret := objects.filterMap (Object.secret? ns)

def Object.labelsOf? (name : String) : Object → Option Labels
  | .node n labels => if n = name then some labels else none
  | _ => none

def getNode (name : String) (objects : List Object) : Option Labels := objects.findSome? (Object.labelsOf? name)

def frrK8sConfigurationName : String := "config"

def Object.logLevel? (ns : String) : Object → Option String
  | .k8sConfig n name logLevel => if n = ns ∧ name = frrK8sConfigurationName then some logLevel else none
  | _ => none

def getK8sConfig (ns : String) (objects : List Object) : Option String := objects.findSome? (Object.logLevel? ns)

/-! ## A run, call by call -/

structure WatchSettings where
  env : ReconcilerSettings
  nodeName : String
  ns : String
  hostname : String

/-- What the calls of a run have returned so far. -/
structure Attempt where
  configs : Option (Except ApiError (List FRRConfiguration)) := none
  logLevel : Option (Except ApiError String) := none
  nodeLabels : Option (Except ApiError Labels) := none
  secrets : Option (Except ApiError (List Secret)) := none

/-- The next call of `Reconcile`; after the last one it translates and hands over. -/
inductive Call
  | list
  | getLogLevel
  | getNode
  | getSecrets
  | finish
deriving DecidableEq, Repr

/-- The next call of a run, which ends early where one has failed or where nothing is listed. -/
def Attempt.next (env : ReconcilerSettings) (a : Attempt) : Call :=
  match a.configs with
  | none => .list
  | some (.error _) => .finish
  | some (.ok configs) =>
    match a.logLevel with
    | none => .getLogLevel
    | some logLevel =>
      if (getLogLevel logLevel env.defaultLogLevel).isOk = false ∨ configs = [] then .finish
      else
        match a.nodeLabels with
        | none => .getNode
        | some (.error _) => .finish
        | some (.ok labels) =>
          if (configsForNode env.lib configs labels).isOk = false ∨ a.secrets.isSome = true then .finish
            else .getSecrets

/-- The calls of a run that has made those it makes. -/
def Attempt.calls (a : Attempt) (osHostname : Except String String) : Calls :=
  { configs := a.configs.getD (.ok [])
    logLevel := a.logLevel.getD (.ok "")
    nodeLabels := a.nodeLabels.getD (.ok .empty)
    secrets := a.secrets.getD (.ok [])
    osHostname := osHostname }

/-- The cache answers with what it has, in any order, or with an error.  That nothing was found it says where that is
so. -/
def answersList (objects : List Object) : Except ApiError (List FRRConfiguration) → Bool
  | .error _ => true
  | .ok configs => decide (configs.Perm (listConfigs objects))

def answersLogLevel (ns : String) (objects : List Object) : Except ApiError String → Bool
  | .error err => !err.notFound || (getK8sConfig ns objects).isNone
  | .ok logLevel => decide (getK8sConfig ns objects = some logLevel)

def answersNode (name : String) (objects : List Object) : Except ApiError Labels → Bool
  | .error _ => true
  | .ok labels => decide (getNode name objects = some labels)

def answersSecrets (ns : String) (objects : List Object) : Except ApiError (List Secret) → Bool
  | .error err => !err.notFound || (listSecrets ns objects).isEmpty
  | .ok secrets => decide (secrets.Perm (listSecrets ns objects))

/-! ## The system -/

/-- The objects, the events that are not handled yet, the queue without doubles, the run in progress and the
reconciler. -/
structure Watch where
  objects : List Object := []
  pending : List Event := []
  queue : List Request := []
  running : Option (Request × Attempt) := none
  reconciler : Reconciler := {}

inductive WatchStep
  | change (e : Event)
  | notify (e : Event)
  | begin (r : Request)
  | list (answer : Except ApiError (List FRRConfiguration))
  | getLogLevel (answer : Except ApiError String)
  | getNode (answer : Except ApiError Labels)
  | getSecrets (answer : Except ApiError (List Secret))
  | finish (osHostname : Except String String)

def enqueue (r : Request) (queue : List Request) : List Request := if r ∈ queue then queue else queue ++ [r]

namespace Watch

variable (env : WatchSettings)

/-- A call of the run in progress, if it is the next one and the answer may be given. -/
def call (s : Watch) (c : Call) (answers : Bool) (f : Attempt → Attempt) : Option Watch :=
  s.running.bind (fun run =>
    if run.2.next env.env = c ∧ answers = true then some { s with running := some (run.1, f run.2) } else none)

def finished (s : Watch) (r : Request) (calls : Calls) : Watch :=
  { s with
    running := none
    queue := if (reconcileOutcome env.env s.reconciler.metrics calls).err.isSome then enqueue r s.queue else s.queue
    reconciler := reconcile env.env s.reconciler calls }

def step (s : Watch) : WatchStep → Option Watch
  | .change e => (e.apply s.objects).map (fun objects => { s with objects := objects, pending := e :: s.pending })
  | .notify e =>
    if e ∈ s.pending then
      some { s with
        pending := s.pending.erase e
        queue := if e.passes env.nodeName then enqueue e.request s.queue else s.queue }
    else none
  -- one run at a time; a request that comes meanwhile stays in the queue
  | .begin r =>
    if r ∈ s.queue ∧ s.running.isNone = true then some { s with queue := s.queue.erase r, running := some (r, {}) }
      else none
  | .list answer => s.call env .list (answersList s.objects answer) (fun a => { a with configs := some answer })
  | .getLogLevel answer =>
    s.call env .getLogLevel (answersLogLevel env.ns s.objects answer) (fun a => { a with logLevel := some answer })
  | .getNode answer =>
    s.call env .getNode (answersNode env.nodeName s.objects answer) (fun a => { a with nodeLabels := some answer })
  | .getSecrets answer =>
    s.call env .getSecrets (answersSecrets env.ns s.objects answer) (fun a => { a with secrets := some answer })
  | .finish osHostname =>
    s.running.bind (fun run =>
      if run.2.next env.env = .finish ∧ ∀ h ∈ osHostname.toOption, h = env.hostname then
        some (s.finished env run.1 (run.2.calls osHostname))
      else none)

end Watch

/-- From the start of the daemon; the objects there are come with the first events. -/
def watch (env : WatchSettings) : System Watch WatchStep where
  init := {}
  step := Watch.step env

/-! ## What the filter leaves out -/

/-- An update that is filtered out is one of another node, or leaves the labels as they are. -/
theorem filterNodeEvent_eq_false {objectOld objectNew : Object} {thisNode : String}
    (h : filterNodeEvent objectOld objectNew thisNode = false) :
    ∃ name old new, objectOld = .node name old ∧ objectNew = .node name new ∧ (name ≠ thisNode ∨ old = new) := by
  unfold filterNodeEvent at h
  split at h
  · rename_i newName newLabels oldName oldLabels
    split at h
    · cases h
    rename_i hname
    obtain rfl := not_ne_iff.1 hname
    split at h
    · rename_i hother
      exact ⟨oldName, oldLabels, newLabels, rfl, rfl, Or.inl hother⟩
    split at h
    · rename_i hlabels
      exact ⟨oldName, oldLabels, newLabels, rfl, rfl, Or.inr hlabels⟩
    · cases h
  · cases h

/-- The objects that a run reads are the same. -/
structure SameReads (env : WatchSettings) (objects objects' : List Object) : Prop where
  configs : listConfigs objects' = listConfigs objects
  logLevel : getK8sConfig env.ns objects' = getK8sConfig env.ns objects
  node : getNode env.nodeName objects' = getNode env.nodeName objects
  secrets : listSecrets env.ns objects' = listSecrets env.ns objects

theorem filterMap_replaced {α : Type} {f : Object → Option α} {a b : Object} (h : f b = f a) (objects : List Object) :
    (objects.map (fun o => if o = a then b else o)).filterMap f = objects.filterMap f := by
  rw [List.filterMap_map]
  congr 1
  funext o
  rw [Function.comp_apply]
  split
  · rename_i ho
    rw [ho, h]
  · rfl

theorem findSome?_replaced {α : Type} {f : Object → Option α} {a b : Object} (h : f b = f a) (objects : List Object) :
    (objects.map (fun o => if o = a then b else o)).findSome? f = objects.findSome? f := by
  rw [List.findSome?_map]
  congr 1
  funext o
  rw [Function.comp_apply]
  split
  · rename_i ho
    rw [ho, h]
  · rfl

/-- **A run does not read what the filter leaves out.** -/
theorem sameReads_of_filtered {env : WatchSettings} {objects objects' : List Object} {e : Event}
    (hpasses : e.passes env.nodeName = false) (h : e.apply objects = some objects') :
    SameReads env objects objects' := by
  cases e with
  | create o => cases hpasses
  | delete o => cases hpasses
  | update a b =>
    obtain ⟨name, old, new, rfl, rfl, hwhy⟩ := filterNodeEvent_eq_false hpasses
    simp only [Event.apply] at h
    split at h
    · obtain rfl := Option.some.inj h
      have hlabels : Object.labelsOf? env.nodeName (.node name new) = Object.labelsOf? env.nodeName
          (.node name old) := by
        obtain hother | rfl := hwhy
        · simp only [Object.labelsOf?, if_neg hother]
        · rfl
      exact ⟨filterMap_replaced (by rfl) objects, findSome?_replaced (by rfl) objects,
        findSome?_replaced hlabels objects, filterMap_replaced (by rfl) objects⟩
    · cases h

/-! ## What a run has seen -/

/-- The answers a run has got so far are those of these objects. -/
structure Attempt.Sees (env : WatchSettings) (objects : List Object) (a : Attempt) : Prop where
  list : ∀ r, a.configs = some r → answersList objects r = true
  logLevel : ∀ r, a.logLevel = some r → answersLogLevel env.ns objects r = true
  node : ∀ r, a.nodeLabels = some r → answersNode env.nodeName objects r = true
  secrets : ∀ r, a.secrets = some r → answersSecrets env.ns objects r = true

theorem Attempt.Sees.congr {env : WatchSettings} {objects objects' : List Object} {a : Attempt} (h : a.Sees env objects)
    (hsame : SameReads env objects objects') : a.Sees env objects' := by
  refine ⟨fun r hr => ?_, fun r hr => ?_, fun r hr => ?_, fun r hr => ?_⟩
  · have := h.list r hr
    unfold answersList at this ⊢
    rwa [hsame.configs]
  · have := h.logLevel r hr
    unfold answersLogLevel at this ⊢
    rwa [hsame.logLevel]
  · have := h.node r hr
    unfold answersNode at this ⊢
    rwa [hsame.node]
  · have := h.secrets r hr
    unfold answersSecrets at this ⊢
    rwa [hsame.secrets]

/-- What the calls of a run return that finds the objects as they are, and the lists in these orders. -/
def clusterCalls (env : WatchSettings) (objects : List Object) (configs : List FRRConfiguration)
    (secrets : List Secret) : Calls :=
  { configs := .ok configs
    logLevel := (getK8sConfig env.ns objects).elim (.error { text := "not found", notFound := true }) .ok
    nodeLabels := (getNode env.nodeName objects).elim (.error { text := "not found", notFound := true }) .ok
    secrets := .ok secrets
    osHostname := .ok env.hostname }

section

variable {env : ReconcilerSettings} {m : Metrics} {calls calls' : Calls}

/-- A run without an error has listed the configurations, knows the log level, and where something is listed it knows
which are for the node, and the secrets. -/
theorem reconcileOutcome_err_none (h : (reconcileOutcome env m calls).err = none) :
    ∃ configs logLevel, calls.configs = .ok configs ∧ getLogLevel calls.logLevel env.defaultLogLevel = .ok logLevel ∧
      (configs ≠ [] → ∃ labels secrets, calls.nodeLabels = .ok labels ∧
      (configsForNode env.lib configs labels).isOk = true ∧
        getSecrets calls.secrets = .ok secrets) := by
  unfold reconcileOutcome at h
  simp only at h
  split at h
  · cases h
  rename_i configs hconfigs
  split at h
  · cases h
  rename_i logLevel hlevel
  refine ⟨configs, logLevel, hconfigs, hlevel, fun hne => ?_⟩
  split at h
  · rename_i hempty
    exact (hne (List.isEmpty_iff.1 hempty)).elim
  unfold reconcileListed at h
  split at h
  · cases h
  rename_i labels hlabels
  split at h
  · cases h
  rename_i cfgs hcfgs
  split at h
  · cases h
  rename_i secrets hsecrets
  exact ⟨labels, secrets, hlabels, by rw [hcfgs]; rfl, hsecrets⟩

/-- The outcome depends on what a run reads, and where nothing is listed it reads neither the node nor the secrets. -/
theorem reconcileOutcome_congr {configs : List FRRConfiguration} (hconfigs : calls.configs = .ok configs)
    (hconfigs' : calls'.configs = .ok configs)
    (hlevel : getLogLevel calls.logLevel env.defaultLogLevel = getLogLevel calls'.logLevel env.defaultLogLevel)
    (hhost : calls.osHostname = calls'.osHostname)
    (hrest : configs ≠ [] → calls.nodeLabels = calls'.nodeLabels ∧
    getSecrets calls.secrets = getSecrets calls'.secrets) :
    reconcileOutcome env m calls = reconcileOutcome env m calls' := by
  unfold reconcileOutcome
  simp only [hconfigs, hconfigs', hlevel]
  split
  · rfl
  · split
    · unfold reconcileEmpty handOver
      rw [hhost]
    · rename_i hne
      obtain ⟨hlabels, hsecrets⟩ := hrest (fun h => hne (List.isEmpty_iff.2 h))
      unfold reconcileListed handOver
      rw [hlabels, hsecrets, hhost]

/-- A run without an error has got the name of the host, or does not need it. -/
theorem reconcileOutcome_host {host : String} (h : (reconcileOutcome env m calls).err = none)
    (hhost : ∀ x ∈ calls.osHostname.toOption, x = host) :
    reconcileOutcome env m calls = reconcileOutcome env m { calls with osHostname := .ok host } := by
  cases hcall : calls.osHostname with
  | ok x =>
    rw [hcall] at hhost
    obtain rfl := hhost x rfl
    rw [← hcall]
  | error err =>
    have hfails : ∀ done logLevel config, (applyOutcome { m with updates := m.updates + 1 } done
        (handOver env calls logLevel config)).err = some err := by
      intro done logLevel config
      rw [handOver, hcall]
      rfl
    unfold reconcileOutcome at h ⊢
    simp only at h ⊢
    cases hconfigs : calls.configs with
    | error err => rfl
    | ok configs =>
      simp only [hconfigs] at h ⊢
      cases hlevel : getLogLevel calls.logLevel env.defaultLogLevel with
      | error err => rfl
      | ok logLevel =>
        simp only [hlevel] at h ⊢
        by_cases hempty : configs.isEmpty = true
        · rw [if_pos hempty, reconcileEmpty, apiToFRR_empty] at h
          exact absurd ((hfails _ logLevel {}).symm.trans h) (by simp)
        · rw [if_neg hempty] at h ⊢
          rw [if_neg hempty]
          unfold reconcileListed at h ⊢
          simp only at h ⊢
          cases hlabels : calls.nodeLabels with
          | error err => rfl
          | ok labels =>
            simp only [hlabels] at h ⊢
            cases hcfgs : configsForNode env.lib configs labels with
            | error err => rfl
            | ok cfgs =>
              simp only [hcfgs] at h ⊢
              cases hsecrets : getSecrets calls.secrets with
              | error err => rfl
              | ok secrets =>
                simp only [hsecrets] at h ⊢
                cases hconfig : apiToFRR ⟨cfgs, secrets⟩ env.alwaysBlockCIDRs with
                | error err => rfl
                | ok config =>
                  simp only [hconfig] at h
                  exact absurd ((hfails _ logLevel config).symm.trans h) (by simp)

end

namespace Attempt

variable {env : WatchSettings} {objects : List Object} {a : Attempt} {m : Metrics}

/-- A log level that was found is the one of the objects. -/
theorem getLogLevel_answered {answer : Except ApiError String} (h : answersLogLevel env.ns objects answer = true)
    {configs : List FRRConfiguration} {secrets : List Secret} {d logLevel : LogLevel}
    (hok : getLogLevel answer d = .ok logLevel) :
    getLogLevel (clusterCalls env objects configs secrets).logLevel d = .ok logLevel := by
  cases answer with
  | error err =>
    by_cases hfound : err.notFound = true
    · have hnone : getK8sConfig env.ns objects = none := by simpa [answersLogLevel, hfound] using h
      simpa [clusterCalls, hnone, getLogLevel, hfound] using hok
    · simp [getLogLevel, hfound] at hok
  | ok text =>
    have hsome : getK8sConfig env.ns objects = some text := by simpa [answersLogLevel] using h
    simpa [clusterCalls, hsome] using hok

theorem getSecrets_answered {answer : Except ApiError (List Secret)} (h : answersSecrets env.ns objects answer = true)
    {found : SortedMap String Secret} (hok : getSecrets answer = .ok found) :
    ∃ secrets : List Secret, secrets.Perm (listSecrets env.ns objects) ∧ getSecrets (.ok secrets) = .ok found := by
  cases answer with
  | error err =>
    by_cases hfound : err.notFound = true
    · have hnone : listSecrets env.ns objects = [] := by simpa [answersSecrets, hfound] using h
      refine ⟨[], by rw [hnone], ?_⟩
      rw [getSecrets, if_pos hfound] at hok
      exact hok
    · simp [getSecrets, hfound] at hok
  | ok secrets => exact ⟨secrets, of_decide_eq_true h, hok⟩

/-- A run has listed something and goes on, so it has asked for the node and then for the secrets. -/
theorem secrets_of_finish {configs : List FRRConfiguration} {level : Except ApiError String} {labels : Labels}
    (hconfigs : a.configs = some (.ok configs)) (hlevel : a.logLevel = some level)
    (hlabels : a.nodeLabels = some (.ok labels)) (hknown : (getLogLevel level env.env.defaultLogLevel).isOk = true)
    (hne : configs ≠ []) (hvalid : (configsForNode env.env.lib configs labels).isOk = true)
    (hnext : a.next env.env = .finish) : a.secrets.isSome = true := by
  by_contra hnone
  rw [next, hconfigs, hlevel, hlabels] at hnext
  simp [hknown, hne, hvalid, hnone] at hnext

/-- **A run without an error that has seen the objects as they are ends as a run over them.** -/
theorem Sees.outcome (h : a.Sees env objects) (hnext : a.next env.env = .finish) {osHostname : Except String String}
    (hhost : ∀ x ∈ osHostname.toOption, x = env.hostname)
    (herr : (reconcileOutcome env.env m (a.calls osHostname)).err = none) :
    ∃ configs secrets, configs.Perm (listConfigs objects) ∧ secrets.Perm (listSecrets env.ns objects) ∧
      reconcileOutcome env.env m (a.calls osHostname) =
        reconcileOutcome env.env m (clusterCalls env objects configs secrets) := by
  obtain ⟨configs, logLevel, hconfigs, hlevel, hlisted⟩ := reconcileOutcome_err_none herr
  have hlist : a.configs = some (.ok configs) := by
    cases hc : a.configs with
    | none =>
      rw [next, hc] at hnext
      cases hnext
    | some r =>
      rw [calls, hc] at hconfigs
      exact congrArg some hconfigs
  obtain ⟨answer, hanswer⟩ : ∃ answer, a.logLevel = some answer := by
    cases hc : a.logLevel with
    | none =>
      rw [next, hlist, hc] at hnext
      cases hnext
    | some answer => exact ⟨answer, rfl⟩
  have hlevel' : getLogLevel answer env.env.defaultLogLevel = .ok logLevel := by
    rw [calls, hanswer] at hlevel
    exact hlevel
  have hperm : configs.Perm (listConfigs objects) := of_decide_eq_true (h.list _ hlist)
  have hsame : ∀ secrets, getLogLevel (clusterCalls env objects configs secrets).logLevel env.env.defaultLogLevel =
      .ok logLevel := fun _ => getLogLevel_answered (h.logLevel _ hanswer) hlevel'
  rw [reconcileOutcome_host herr hhost]
  by_cases hne : configs = []
  · refine ⟨configs, listSecrets env.ns objects, hperm, List.Perm.refl _, ?_⟩
    exact reconcileOutcome_congr hconfigs rfl (hlevel.trans (hsame _).symm) rfl (fun hne' => (hne' hne).elim)
  · obtain ⟨labels, found, hlabels, hvalid, hsecrets⟩ := hlisted hne
    have hnode : a.nodeLabels = some (.ok labels) := by
      cases hc : a.nodeLabels with
      | none =>
        rw [next, hlist, hanswer, hc] at hnext
        simp [hlevel', hne, Except.isOk, Except.toBool] at hnext
      | some r =>
        rw [calls, hc] at hlabels
        exact congrArg some hlabels
    have hsome := secrets_of_finish hlist hanswer hnode (by rw [hlevel']; rfl) hne hvalid hnext
    obtain ⟨answer', hanswer'⟩ := Option.isSome_iff_exists.1 hsome
    have hfound : getSecrets answer' = .ok found := by
      rw [calls, hanswer'] at hsecrets
      exact hsecrets
    obtain ⟨secrets, hsperm, hsecrets'⟩ := getSecrets_answered (h.secrets _ hanswer') hfound
    refine ⟨configs, secrets, hperm, hsperm, ?_⟩
    refine reconcileOutcome_congr hconfigs rfl (hlevel.trans (hsame _).symm) rfl (fun _ => ⟨?_, ?_⟩)
    · have hget : getNode env.nodeName objects = some labels := of_decide_eq_true (h.node _ hnode)
      rw [clusterCalls, hget]
      exact hlabels
    · exact hsecrets.trans hsecrets'.symm

end Attempt

/-! ## Where no request is left -/

/-- Every event that is not handled yet is one that is filtered out, and no request is in the queue. -/
def Watch.Clean (env : WatchSettings) (s : Watch) : Prop :=
  s.queue = [] ∧ ∀ e ∈ s.pending, e.passes env.nodeName = false

/-- The reconciler is left by a run over these objects that has seen them as they are. -/
def Reflects (env : WatchSettings) (objects : List Object) (r : Reconciler) : Prop :=
  ∃ before configs secrets, configs.Perm (listConfigs objects) ∧ secrets.Perm (listSecrets env.ns objects) ∧
    r = reconcile env.env before (clusterCalls env objects configs secrets) ∧
    (reconcileOutcome env.env before.metrics (clusterCalls env objects configs secrets)).err = none

theorem Reflects.congr {env : WatchSettings} {objects objects' : List Object} {r : Reconciler}
    (h : Reflects env objects r) (hsame : SameReads env objects objects') : Reflects env objects' r := by
  obtain ⟨before, configs, secrets, hconfigs, hsecrets, hr, herr⟩ := h
  have hcalls : clusterCalls env objects' configs secrets = clusterCalls env objects configs secrets := by
    rw [clusterCalls, clusterCalls, hsame.logLevel, hsame.node]
  exact ⟨before, configs, secrets, hsame.configs ▸ hconfigs, hsame.secrets ▸ hsecrets, hcalls ▸ hr, hcalls ▸ herr⟩

namespace Watch

variable {env : WatchSettings} {s s' : Watch}

/-- A call of the run in progress, and what it leaves. -/
theorem call_eq_some {c : Call} {answers : Bool} {f : Attempt → Attempt} (h : s.call env c answers f = some s') :
    ∃ r a, s.running = some (r, a) ∧ answers = true ∧ s' = { s with running := some (r, f a) } := by
  unfold Watch.call at h
  obtain ⟨⟨r, a⟩, hrunning, h⟩ := Option.bind_eq_some_iff.1 h
  simp only at h
  split at h
  · rename_i hwhen
    exact ⟨r, a, hrunning, hwhen.2, (Option.some.inj h).symm⟩
  · cases h

/-- The end of the run in progress. -/
theorem finish_eq_some {osHostname : Except String String} (h : s.step env (.finish osHostname) = some s') :
    ∃ r a, s.running = some (r, a) ∧ a.next env.env = .finish ∧ (∀ x ∈ osHostname.toOption, x = env.hostname) ∧
      s' = s.finished env r (a.calls osHostname) := by
  simp only [Watch.step] at h
  obtain ⟨⟨r, a⟩, hrunning, h⟩ := Option.bind_eq_some_iff.1 h
  simp only at h
  split at h
  · rename_i hwhen
    exact ⟨r, a, hrunning, hwhen.1, hwhen.2, (Option.some.inj h).symm⟩
  · cases h

/-- Only a change changes the objects. -/
theorem objects_of_step {e : WatchStep} (h : s.step env e = some s') :
    s'.objects = s.objects ∨ ∃ x, e = .change x ∧ x.apply s.objects = some s'.objects := by
  cases e with
  | change e =>
    obtain ⟨objects, happly, rfl⟩ := Option.map_eq_some_iff.1 h
    exact .inr ⟨e, rfl, happly⟩
  | notify | begin =>
    simp only [Watch.step] at h
    split at h
    · obtain rfl := Option.some.inj h
      exact .inl rfl
    · cases h
  | list | getLogLevel | getNode | getSecrets =>
    rw [Watch.step] at h
    obtain ⟨_, _, _, _, rfl⟩ := call_eq_some h
    exact .inl rfl
  | finish osHostname =>
    obtain ⟨_, _, _, _, _, rfl⟩ := finish_eq_some h
    exact .inl rfl

/-- Where no request is left, the run in progress has seen the objects as they are, and so has the last one. -/
structure Inv (env : WatchSettings) (s : Watch) : Prop where
  running : s.Clean env → ∀ r a, s.running = some (r, a) → a.Sees env s.objects
  settled : s.Clean env → s.running = none → s.objects = [] ∨ Reflects env s.objects s.reconciler

theorem enqueue_ne_nil (r : Request) (queue : List Request) : enqueue r queue ≠ [] := by
  unfold enqueue
  split
  · rename_i hmem
    exact List.ne_nil_of_mem hmem
  · simp

theorem Inv.change (h : s.Inv env) {e : Event} {objects : List Object} (happly : e.apply s.objects = some objects) :
    { s with objects := objects, pending := e :: s.pending : Watch }.Inv env := by
  by_cases hpasses : e.passes env.nodeName = true
  · have hnot : ¬ ({ s with objects := objects, pending := e :: s.pending : Watch }.Clean env) :=
      fun hclean => absurd (hpasses.symm.trans (hclean.2 e (List.mem_cons_self ..))) (by decide)
    exact ⟨fun hclean => (hnot hclean).elim, fun hclean => (hnot hclean).elim⟩
  · rw [Bool.not_eq_true] at hpasses
    have hsame := sameReads_of_filtered hpasses happly
    have hbefore : { s with objects := objects, pending := e :: s.pending : Watch }.Clean env → s.Clean env :=
      fun hclean => ⟨hclean.1, fun x hx => hclean.2 x (List.mem_cons_of_mem _ hx)⟩
    refine ⟨fun hclean r a ha => (h.running (hbefore hclean) r a ha).congr hsame, fun hclean hnone => ?_⟩
    refine (h.settled (hbefore hclean) hnone).imp (fun hnil => ?_) (fun hreflects => hreflects.congr hsame)
    -- an update of an object there is none of
    cases e with
    | create o => cases hpasses
    | delete o => cases hpasses
    | update a b =>
      rw [hnil] at happly
      simp [Event.apply] at happly

theorem Inv.notify (h : s.Inv env) (e : Event) :
    { s with
      pending := s.pending.erase e
      queue := if e.passes env.nodeName then enqueue e.request s.queue else s.queue : Watch }.Inv env := by
  have hbefore : { s with
      pending := s.pending.erase e
      queue := if e.passes env.nodeName then enqueue e.request s.queue else s.queue : Watch }.Clean env →
        s.Clean env := by
    rintro ⟨hqueue, hpending⟩
    simp only at hqueue hpending
    split at hqueue
    · exact (enqueue_ne_nil _ _ hqueue).elim
    · rename_i hnot
      refine ⟨hqueue, fun x hx => ?_⟩
      by_cases hxe : x = e
      · rw [hxe]
        simpa using hnot
      · exact hpending x ((List.mem_erase_of_ne hxe).2 hx)
  exact ⟨fun hclean => h.running (hbefore hclean), fun hclean => h.settled (hbefore hclean)⟩

/-- A call of the run in progress that is answered with what the objects are. -/
theorem Inv.call (h : s.Inv env) {c : Call} {answers : Bool} {f : Attempt → Attempt}
    (hstep : s.call env c answers f = some s')
    (hsees : ∀ a : Attempt, answers = true → a.Sees env s.objects → (f a).Sees env s.objects) : s'.Inv env := by
  obtain ⟨r, a, hrunning, hanswers, rfl⟩ := call_eq_some hstep
  refine ⟨fun hclean r' a' ha' => ?_, fun _ hnone => by cases hnone⟩
  cases ha'
  exact hsees a hanswers (h.running hclean r a hrunning)

theorem Inv.finish (h : s.Inv env) {r : Request} {a : Attempt} {osHostname : Except String String}
    (hrunning : s.running = some (r, a)) (hnext : a.next env.env = .finish)
    (hhost : ∀ x ∈ osHostname.toOption, x = env.hostname) : (s.finished env r (a.calls osHostname)).Inv env := by
  refine ⟨fun _ _ _ ha => (by cases ha), fun hclean _ => Or.inr ?_⟩
  obtain ⟨hqueue, hpending⟩ := hclean
  simp only [finished] at hqueue
  split at hqueue
  · exact (enqueue_ne_nil _ _ hqueue).elim
  · rename_i herr
    rw [Bool.not_eq_true, Option.isSome_eq_false_iff, Option.isNone_iff_eq_none] at herr
    obtain ⟨configs, secrets, hconfigs, hsecrets, hsame⟩ :=
      (h.running ⟨hqueue, hpending⟩ r a hrunning).outcome hnext hhost herr
    refine ⟨s.reconciler, configs, secrets, hconfigs, hsecrets, ?_, hsame ▸ herr⟩
    simp only [finished, reconcile, hsame]

theorem Inv.step (h : s.Inv env) {e : WatchStep} (hstep : s.step env e = some s') : s'.Inv env := by
  cases e with
  | change e =>
    obtain ⟨objects, happly, rfl⟩ := Option.map_eq_some_iff.1 hstep
    exact h.change happly
  | notify e =>
    simp only [Watch.step] at hstep
    split at hstep
    · obtain rfl := Option.some.inj hstep
      exact h.notify e
    · cases hstep
  | begin r =>
    simp only [Watch.step] at hstep
    split at hstep
    · obtain rfl := Option.some.inj hstep
      refine ⟨fun _ r' a' ha' => ?_, fun _ hnone => (by cases hnone)⟩
      cases ha'
      exact ⟨fun _ hr => (by cases hr), fun _ hr => (by cases hr), fun _ hr => (by cases hr), fun _ hr => (by cases hr)⟩
    · cases hstep
  | list answer =>
    rw [Watch.step] at hstep
    refine h.call hstep (fun a hanswers hsees => ⟨fun r hr => ?_, hsees.logLevel, hsees.node, hsees.secrets⟩)
    rwa [← Option.some.inj hr]
  | getLogLevel answer =>
    rw [Watch.step] at hstep
    refine h.call hstep (fun a hanswers hsees => ⟨hsees.list, fun r hr => ?_, hsees.node, hsees.secrets⟩)
    rwa [← Option.some.inj hr]
  | getNode answer =>
    rw [Watch.step] at hstep
    refine h.call hstep (fun a hanswers hsees => ⟨hsees.list, hsees.logLevel, fun r hr => ?_, hsees.secrets⟩)
    rwa [← Option.some.inj hr]
  | getSecrets answer =>
    rw [Watch.step] at hstep
    refine h.call hstep (fun a hanswers hsees => ⟨hsees.list, hsees.logLevel, hsees.node, fun r hr => ?_⟩)
    rwa [← Option.some.inj hr]
  | finish osHostname =>
    obtain ⟨r, a, hrunning, hnext, hhost, rfl⟩ := finish_eq_some hstep
    exact h.finish hrunning hnext hhost

/-- A run changes the reconciler at its end only. -/
theorem step_reconciler {e : WatchStep} (hstep : s.step env e = some s')
    (hother : ∀ osHostname, e ≠ .finish osHostname) : s'.reconciler = s.reconciler := by
  cases e with
  | finish osHostname => exact (hother osHostname rfl).elim
  | change e =>
    obtain ⟨_, _, rfl⟩ := Option.map_eq_some_iff.1 hstep
    rfl
  | notify | begin =>
    simp only [Watch.step] at hstep
    split at hstep
    · obtain rfl := Option.some.inj hstep
      rfl
    · cases hstep
  | list | getLogLevel | getNode | getSecrets =>
    rw [Watch.step] at hstep
    obtain ⟨_, _, _, _, rfl⟩ := call_eq_some hstep
    rfl

theorem inv_run {past : List (Watch × WatchStep)} (h : Run (watch env) past s) : s.Inv env :=
  h.invariant (G := fun _ _ => True) (P := fun _ s => s.Inv env)
    ⟨fun _ _ _ ha => (by cases ha), fun _ _ => Or.inl rfl⟩ (fun _ _ _ _ _ hinv _ hstep => hinv.step hstep)
    (fun _ _ => trivial)

end Watch

/-- **Where no request is left, the reconciler is as a run over the cluster leaves it.**  Whatever changes between the
calls of a run, however late an event is handled and whichever calls fail: once the queue is empty, no run is in
progress and no event is to come but such as are filtered out, the last run has seen the configurations, the log level,
the node and the secrets as they are now. -/
theorem watch_quiescent (env : WatchSettings) (past : List (Watch × WatchStep)) (s : Watch) (h : Run (watch env) past s)
    (hclean : s.Clean env) (hidle : s.running = none) (hobjects : s.objects ≠ []) :
    Reflects env s.objects s.reconciler :=
  ((Watch.inv_run h).settled hclean hidle).resolve_left hobjects

def watchSettings : WatchSettings := { env := plainSettings, nodeName := "node", ns := "frr-k8s", hostname := "node" }

/-- A configuration is created after the run for the node has listed none; the run for it follows, and a heartbeat of
the node that is never handled. -/
def listedTooEarly : List WatchStep :=
  let node := Object.node "node" .empty
  let config := Object.config firstPart
  [.change (.create node), .notify (.create node), .begin node.request, .list (.ok []), .change (.create config),
    .getLogLevel (.error { text := "not found", notFound := true }), .finish (.ok "node"), .notify (.create config),
    .begin config.request, .list (.ok [firstPart]), .getLogLevel (.error { text := "not found", notFound := true }),
    .getNode (.ok .empty), .getSecrets (.ok []), .finish (.ok "node"), .change (.update node node)]

theorem watch_quiescent_listedTooEarly : ∃ past s, (watch watchSettings).exec listedTooEarly [] {} = some (past, s) ∧
    s.pending.length = 1 ∧ listConfigs s.objects = [firstPart] ∧ Reflects watchSettings s.objects s.reconciler := by
  obtain ⟨⟨past, s⟩, hexec⟩ := Option.isSome_iff_exists.1
    (by decide +kernel : ((watch watchSettings).exec listedTooEarly [] {}).isSome = true)
  have hend : ((watch watchSettings).exec listedTooEarly [] {}).map (fun r =>
      (r.2.queue, r.2.pending, r.2.running.isNone, r.2.objects)) =
      some ([], [.update (.node "node" .empty) (.node "node" .empty)], true,
        [.config firstPart, .node "node" .empty]) := by decide +kernel
  rw [hexec, Option.map_some, Option.some.injEq, Prod.mk.injEq, Prod.mk.injEq, Prod.mk.injEq] at hend
  obtain ⟨hqueue, hpending, hidle, hobjects⟩ := hend
  refine ⟨past, s, hexec, congrArg List.length hpending, by rw [hobjects]; decide +kernel, ?_⟩
  refine watch_quiescent watchSettings past s (Run.of_exec listedTooEarly .start hexec) ⟨hqueue, fun e he => ?_⟩
    (Option.isNone_iff_eq_none.1 hidle) (hobjects ▸ List.cons_ne_nil _ _)
  rw [hpending, List.mem_singleton] at he
  rw [he]
  decide +kernel

end FrrK8s
