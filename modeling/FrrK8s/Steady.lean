import FrrK8s.Daemon
import FrrK8s.Reordered
/-!
# Steady — FRR is left alone while the cluster stays as it is

The controller runs again and again over a cluster in which nothing has changed: caches are listed anew from time to
time, calls fail and are repeated, and objects are updated in ways no run reads.  Each run lists the configurations and
the secrets in an order of its own and hands its translation over, and the loop compares it with the one it has.  Where
the order does not matter (`Reordered`), all these translations are equal, so nothing is written and FRR is not reloaded
(`daemon_steady`).
-/
namespace FrrK8s

/-! ## Runs over the same objects -/

/-- No two configurations and no two secrets have the same name, and merging compares whatever the configurations
say. -/
structure OrderFree (env : WatchSettings) (objects : List Object) : Prop where
  names : ((listConfigs objects).map FRRConfiguration.name).Nodup
  secretNames : ((listSecrets env.ns objects).map Secret.name).Nodup
  apart : InterfacesApart (listConfigs objects)
  determinate : Determinate (listConfigs objects)

section

variable {env : WatchSettings} {objects : List Object} {configs configs' : List FRRConfiguration}
  {secrets secrets' : List Secret}

/-- The configurations for the node, in the order of the list. -/
theorem InputOf.listed {cfgs : List FRRConfiguration} {found : SortedMap String Secret}
    (h : InputOf env.env (clusterCalls env objects configs secrets) configs cfgs found) :
    (configs = [] ∧ cfgs = []) ∨ ∃ labels, (∀ cfg ∈ configs, cfg.ValidSelector env.env.lib) ∧
      (clusterCalls env objects configs secrets).nodeLabels = .ok labels ∧
      cfgs = configs.filter (fun cfg => cfg.selects env.env.lib labels) ∧
      found = SortedMap.insertAll Secret.name .empty secrets := by
  obtain ⟨hnil, hcfgs, -⟩ | ⟨labels, hlabels, hcfgs, hfound⟩ := h
  · exact Or.inl ⟨hnil, hcfgs⟩
  · have hvalid := validSelector_of_configsForNode hcfgs
    rw [configsForNode_eq hvalid] at hcfgs
    exact Or.inr ⟨labels, hvalid, hlabels, (Except.ok.inj hcfgs).symm, (Except.ok.inj hfound).symm⟩

/-- **Two runs over the same objects translate them to the same**, in whichever order each of them lists them. -/
theorem OrderFree.translation_eq (h : OrderFree env objects) (hconfigs : configs.Perm (listConfigs objects))
    (hconfigs' : configs'.Perm (listConfigs objects)) (hsecrets : secrets.Perm (listSecrets env.ns objects))
    (hsecrets' : secrets'.Perm (listSecrets env.ns objects)) {c c' : Config}
    (hc : TranslationOf env.env (clusterCalls env objects configs secrets) c)
    (hc' : TranslationOf env.env (clusterCalls env objects configs' secrets') c') : c = c' := by
  obtain ⟨_, logLevel, cfgs, found, config, hlist, hlevel, hinput, hok, rfl⟩ := hc
  obtain ⟨_, logLevel', cfgs', found', config', hlist', hlevel', hinput', hok', rfl⟩ := hc'
  cases hlist
  cases hlist'
  have hlevels : logLevel = logLevel' := Except.ok.inj (hlevel.symm.trans hlevel')
  have hperm : configs.Perm configs' := hconfigs.trans hconfigs'.symm
  rw [hlevels]
  suffices hsame : config = config' by rw [hsame]
  have hempty : ∀ found₁ found₂, apiToFRR ⟨[], found₁⟩ env.env.alwaysBlockCIDRs = .ok config →
      apiToFRR ⟨[], found₂⟩ env.env.alwaysBlockCIDRs = .ok config' → config = config' := fun found₁ found₂ h₁ h₂ => by
    rw [apiToFRR_empty] at h₁ h₂
    exact Except.ok.inj (h₁.symm.trans h₂)
  obtain ⟨hnil, rfl⟩ | ⟨labels, hvalid, hlabels, rfl, rfl⟩ := hinput.listed
  · have hnil' : configs' = [] := List.nil_perm.1 (hnil ▸ hperm)
    obtain ⟨-, rfl⟩ | ⟨labels', -, -, rfl, rfl⟩ := hinput'.listed
    · exact hempty _ _ hok hok'
    · rw [hnil', List.filter_nil] at hok'
      exact hempty _ _ hok hok'
  · obtain ⟨hnil', rfl⟩ | ⟨labels', -, hlabels', rfl, rfl⟩ := hinput'.listed
    · have hnil : configs = [] := List.perm_nil.1 (hnil' ▸ hperm)
      rw [hnil, List.filter_nil] at hok
      exact hempty _ _ hok hok'
    · cases Except.ok.inj (hlabels.symm.trans hlabels')
      have hsub : ∀ cfg ∈ configs.filter (fun cfg => cfg.selects env.env.lib labels), cfg ∈ listConfigs objects :=
        fun cfg hcfg => hconfigs.mem_iff.1 (List.mem_of_mem_filter hcfg)
      have hnames : ((configs.filter (fun cfg => cfg.selects env.env.lib labels)).map FRRConfiguration.name).Nodup :=
        ((hconfigs.map FRRConfiguration.name).nodup_iff.2 h.names).sublist (List.filter_sublist.map _)
      rw [SortedMap.insertAll_perm Secret.name .empty (hsecrets.trans hsecrets'.symm)
        ((hsecrets.map Secret.name).nodup_iff.2 h.secretNames)] at hok
      have hok'' := (h.determinate.of_subset hsub).ok_of_perm (h.apart.of_subset hsub) (hperm.filter _) hnames hok
      exact Except.ok.inj (hok''.symm.trans hok')

end

/-- What a run over the objects sends to the loop, where it lists them in some order. -/
def Translates (env : WatchSettings) (objects : List Object) (sent : Config) : Prop :=
  ∃ configs secrets c, configs.Perm (listConfigs objects) ∧ secrets.Perm (listSecrets env.ns objects) ∧
    TranslationOf env.env (clusterCalls env objects configs secrets) c ∧
    applyConfig (.ok env.hostname) env.env.fallbackRouterID c = .ok { config := some sent }

theorem OrderFree.unique {env : WatchSettings} {objects : List Object} (h : OrderFree env objects) {sent sent' : Config}
    (hsent : Translates env objects sent) (hsent' : Translates env objects sent') : sent = sent' := by
  obtain ⟨configs, secrets, c, hconfigs, hsecrets, hc, happly⟩ := hsent
  obtain ⟨configs', secrets', c', hconfigs', hsecrets', hc', happly'⟩ := hsent'
  obtain rfl := h.translation_eq hconfigs hconfigs' hsecrets hsecrets' hc hc'
  have hevent := Except.ok.inj (happly.symm.trans happly')
  exact Option.some.inj (congrArg ReloadEvent.config hevent)

namespace Watch

variable {env : WatchSettings} {s s' : Watch}

/-- Each answer of a run in progress is one of the objects there are when it is given. -/
theorem sees_of_step {e : WatchStep} (h : ∀ r a, s.running = some (r, a) → a.Sees env s.objects)
    (hstep : s.step env e = some s') : ∀ r a, s'.running = some (r, a) → a.Sees env s.objects := by
  cases e with
  | change e =>
    obtain ⟨objects, _, rfl⟩ := Option.map_eq_some_iff.1 hstep
    exact h
  | notify e =>
    simp only [Watch.step] at hstep
    split at hstep
    · obtain rfl := Option.some.inj hstep
      exact h
    · cases hstep
  | begin r =>
    simp only [Watch.step] at hstep
    split at hstep
    · obtain rfl := Option.some.inj hstep
      rintro _ _ ⟨⟩
      exact ⟨fun _ hr => (by cases hr), fun _ hr => (by cases hr), fun _ hr => (by cases hr), fun _ hr => (by cases hr)⟩
    · cases hstep
  | list answer =>
    rw [Watch.step] at hstep
    obtain ⟨r, a, hrunning, hanswers, rfl⟩ := call_eq_some hstep
    rintro _ _ ⟨⟩
    have hsees := h r a hrunning
    exact ⟨fun _ hx => Option.some.inj hx ▸ hanswers, hsees.logLevel, hsees.node, hsees.secrets⟩
  | getLogLevel answer =>
    rw [Watch.step] at hstep
    obtain ⟨r, a, hrunning, hanswers, rfl⟩ := call_eq_some hstep
    rintro _ _ ⟨⟩
    have hsees := h r a hrunning
    exact ⟨hsees.list, fun _ hx => Option.some.inj hx ▸ hanswers, hsees.node, hsees.secrets⟩
  | getNode answer =>
    rw [Watch.step] at hstep
    obtain ⟨r, a, hrunning, hanswers, rfl⟩ := call_eq_some hstep
    rintro _ _ ⟨⟩
    have hsees := h r a hrunning
    exact ⟨hsees.list, hsees.logLevel, fun _ hx => Option.some.inj hx ▸ hanswers, hsees.secrets⟩
  | getSecrets answer =>
    rw [Watch.step] at hstep
    obtain ⟨r, a, hrunning, hanswers, rfl⟩ := call_eq_some hstep
    rintro _ _ ⟨⟩
    have hsees := h r a hrunning
    exact ⟨hsees.list, hsees.logLevel, hsees.node, fun _ hx => Option.some.inj hx ▸ hanswers⟩
  | finish osHostname =>
    obtain ⟨_, _, _, _, _, rfl⟩ := finish_eq_some hstep
    exact fun _ _ hrunning => by cases hrunning

end Watch

/-! ## The loop and the reloader at rest -/

/-- The time stamp that a tick has read. -/
def Poll.stamp? : Poll → Option String
  | .idle => none
  | .readStatus timeStamp _ | .readLastError timeStamp _ => some timeStamp
  | .fetched status => some status.updateTime

namespace Delivery

variable {eq : Config → Config → Bool} {s s' : Delivery} {sent : Config}

/-- Nothing is left to do for the configuration that was sent, and the daemon has seen how the last reload ended. -/
structure Rests (sent : Config) (s : Delivery) : Prop where
  quiescent : s.Quiescent
  config : s.loop.config = some sent
  seen : ∃ status, readLastReloadResult s.reload.files = .ok (s.reload.status.updateTime, status)
  tick : ∀ t ∈ s.reload.poll.stamp?, t = s.reload.status.updateTime

theorem reloadFrr_length (r : ReloadRun) : 2 < (reloadFrr r).length := by
  unfold reloadFrr
  cases r.result <;> simp [redirect]

/-- Without a timer nothing expires. -/
theorem Quiescent.no_timer (h : s.Quiescent) (err : Option String) : s.loop.step eq (.timeOut err) = none := by
  cases hstep : s.loop.step eq (.timeOut err) with
  | none => rfl
  | some loop =>
    obtain ⟨_, he, _⟩ | ⟨_, he, _⟩ | ⟨he | he, _⟩ | ⟨_, t, _, _, ht, _⟩ := Debouncer.step_cases hstep
    · cases he
    · cases he
    · cases he
    · cases he
    · rw [h.1] at ht
      cases ht

/-- A tick that goes on reads the stamp that the daemon has seen. -/
theorem Rests.stamp_of_read (h : s.Rests sent) {e : ReloadStep} {reload : ReloadState}
    (hreload : s.reload.step e = some reload) (hevent : e ≠ .update) :
    ∀ t ∈ reload.poll.stamp?, t = s.reload.status.updateTime := by
  cases ReloadState.does_of_step hreload with
  | start | write | unreadable => exact h.tick
  | readStatus timeStamp status hread =>
    obtain ⟨status', hseen⟩ := h.seen
    rintro _ ⟨⟩
    exact congrArg Prod.fst (Except.ok.inj (hread.symm.trans hseen))
  | readLastError timeStamp status hpoll => exact fun t ht => h.tick t (by rw [hpoll]; exact ht)
  | readRunningConfig timeStamp result hpoll => exact fun t ht => h.tick t (by rw [hpoll]; exact ht)
  | readError => exact fun t ht => (by cases ht)
  | update => exact (hevent rfl).elim

/-- **A loop at rest that is sent what it has stays at rest**, and so does everything behind it. -/
theorem Rests.step (h : s.Rests sent) (heq : eq sent sent = true) {e : DeliveryStep} (hstep : s.step eq e = some s')
    (hsent : ∀ newCfg, e = .loop (.reload newCfg) → newCfg = { config := some sent }) :
    s'.Rests sent ∧ s'.frr = s.frr ∧ s'.conf = s.conf := by
  have hq := h.quiescent
  cases does_of_step hstep with
  | loop e loop hidle hext hloop =>
    obtain ⟨_, rfl, _, rfl⟩ | ⟨newCfg, rfl, htaken, _⟩ | ⟨_, rfl⟩ | ⟨_, _, rfl, _⟩ := Debouncer.step_cases hloop
    · exact ⟨h, rfl, rfl⟩
    · refine (htaken (Or.inr ?_)).elim
      rw [hsent newCfg rfl, h.config]
      exact ⟨rfl, heq⟩
    · exact ⟨⟨hq, h.config, h.seen, h.tick⟩, rfl, rfl⟩
    · cases hext
  | fire c hcan =>
    rw [hq.no_timer] at hcan
    cases hcan
  | empty _ hbody | write _ _ hbody | written _ hbody | signal _ hbody => cases hq.2.1.symm.trans hbody
  | fail err loop hloop =>
    rw [hq.no_timer] at hloop
    cases hloop
  | trap hhup => cases hq.2.2.1.symm.trans hhup
  | start r reload hwaiting =>
    rw [hq.2.2.2.1] at hwaiting
    cases hwaiting
  | writeFile reload _ hreload =>
    cases ReloadState.does_of_step hreload with
    | write w ws hremaining => cases hq.2.2.2.2.symm.trans hremaining
  | read e reload hfiles hremaining _ hstatus hreload hevent =>
    refine ⟨⟨⟨hq.1, hq.2.1, hq.2.2.1, hq.2.2.2.1, hremaining.trans hq.2.2.2.2⟩, h.config, ?_, ?_⟩, rfl, rfl⟩
    · simp only [hfiles, hstatus]
      exact h.seen
    · simp only [hstatus]
      exact h.stamp_of_read hreload hevent
  | take status hpoll =>
    have hsame : status.updateTime = s.reload.status.updateTime := h.tick _ (by rw [hpoll]; rfl)
    rw [ReloadState.take, if_pos hsame]
    exact ⟨⟨hq, h.config, h.seen, fun t ht => (by cases ht)⟩, rfl, rfl⟩
  | retry status loop hpoll hnew =>
    exact (hnew (Or.inl (h.tick _ (by rw [hpoll]; rfl)))).elim
  | test l _ hprogress | apply l _ hprogress =>
    have hlength := reloadFrr_length l.run
    rw [Loading.progress, hq.2.2.2.2, List.length_nil] at hprogress
    omega

end Delivery

/-! ## The daemon at rest -/

theorem SameReads.trans {env : WatchSettings} {x y z : List Object} (h : SameReads env x y) (h' : SameReads env y z) :
    SameReads env x z :=
  ⟨h'.configs.trans h.configs, h'.logLevel.trans h.logLevel, h'.node.trans h.node, h'.secrets.trans h.secrets⟩

theorem SameReads.symm {env : WatchSettings} {x y : List Object} (h : SameReads env x y) : SameReads env y x :=
  ⟨h.configs.symm, h.logLevel.symm, h.node.symm, h.secrets.symm⟩

/-- Only a change changes the objects. -/
theorem Watch.sameReads_of_step {env : WatchSettings} {s s' : Watch} {e : WatchStep} (hstep : s.step env e = some s')
    (hchange : ∀ x, e = .change x → ∀ objects ∈ x.apply s.objects, SameReads env s.objects objects) :
    SameReads env s.objects s'.objects := by
  obtain hobjects | ⟨x, hx, happly⟩ := objects_of_step hstep
  · rw [hobjects]
    exact ⟨rfl, rfl, rfl, rfl⟩
  · exact hchange x hx _ happly

/-- What a step changes in the cluster is not read by any run. -/
def DaemonStep.Rereads (env : WatchSettings) (s : Daemon) : DaemonStep → Prop
  | .watch (.change e) => ∀ objects ∈ e.apply s.watch.objects, SameReads env s.watch.objects objects
  | _ => True

/-- An object that is delivered again as it is, or an update that the filter leaves out. -/
def Event.unread (thisNode : String) : Event → Bool
  | .update objectOld objectNew => decide (objectOld = objectNew) || !filterNodeEvent objectOld objectNew thisNode
  | .create _ | .delete _ => false

theorem sameReads_of_unread {env : WatchSettings} {objects objects' : List Object} {e : Event}
    (hunread : e.unread env.nodeName = true) (h : e.apply objects = some objects') :
    SameReads env objects objects' := by
  cases e with
  | create o => cases hunread
  | delete o => cases hunread
  | update a b =>
    simp only [Event.unread, Bool.or_eq_true, decide_eq_true_eq, Bool.not_eq_true'] at hunread
    obtain rfl | hfiltered := hunread
    · simp only [Event.apply] at h
      split at h
      · have hid : objects.map (fun o => if o = a then a else o) = objects := by
          refine (List.map_congr_left (fun o _ => ?_)).trans (List.map_id objects)
          split
          · rename_i ho
            exact ho.symm
          · rfl
        rw [← Option.some.inj h, hid]
        exact ⟨rfl, rfl, rfl, rfl⟩
      · cases h
    · exact sameReads_of_filtered (e := .update a b) hfiltered h

def DaemonStep.unread (thisNode : String) : DaemonStep → Bool
  | .watch (.change e) => e.unread thisNode
  | _ => true

theorem DaemonStep.rereads_of_unread {env : WatchSettings} {s : Daemon} {e : DaemonStep}
    (h : e.unread env.nodeName = true) : e.Rereads env s := by
  cases e with
  | delivery e => trivial
  | watch e =>
    cases e with
    | change e => exact fun objects happly => sameReads_of_unread h happly
    | notify | begin | list | getLogLevel | getNode | getSecrets | finish => trivial

namespace Daemon

variable {env : WatchSettings} {eq : Config → Config → Bool} {conf : String} {s s' : Daemon} {objects : List Object}
  {sent : Config}

/-- The daemon has nothing to do but to find out, again and again, that nothing has changed. -/
structure Rests (env : WatchSettings) (objects : List Object) (sent : Config) (s : Daemon) : Prop where
  reads : SameReads env objects s.watch.objects
  sees : ∀ r a, s.watch.running = some (r, a) → a.Sees env s.watch.objects
  delivery : s.delivery.Rests sent

theorem Rests.watch (h : s.Rests env objects sent) {e : WatchStep} {w : Watch} (hwatch : s.watch.step env e = some w)
    (hG : DaemonStep.Rereads env s (.watch e)) {d : Delivery} (hd : d.Rests sent) :
    Rests env objects sent { watch := w, delivery := d } := by
  have hsame : SameReads env s.watch.objects w.objects := Watch.sameReads_of_step hwatch (fun x hx => by
    subst hx
    exact hG)
  exact ⟨h.reads.trans hsame, fun r a hrunning => (Watch.sees_of_step h.sees hwatch r a hrunning).congr hsame, hd⟩

/-- A run of a daemon at rest hands over what the loop has. -/
theorem Rests.sends (h : s.Rests env objects sent) (hfree : OrderFree env objects) (hsent : Translates env objects sent)
    {r : Request} {a : Attempt} (hrunning : s.watch.running = some (r, a)) (hnext : a.next env.env = .finish)
    {osHostname : Except String String} (hhost : ∀ x ∈ osHostname.toOption, x = env.hostname) {sent' : Config}
    {m : Metrics} (hhanded : (reconcileOutcome env.env m (a.calls osHostname)).handed = some sent') : sent' = sent := by
  have hsees := (h.sees r a hrunning).congr h.reads.symm
  obtain ⟨configs, secrets, hconfigs, hsecrets, houtcome⟩ :=
    hsees.outcome hnext hhost (reconcileOutcome_handed hhanded).1
  rw [houtcome] at hhanded
  obtain ⟨-, c, hc, happly⟩ := reconcileOutcome_handed hhanded
  exact hfree.unique ⟨configs, secrets, c, hconfigs, hsecrets, hc, happly⟩ hsent

theorem Rests.step (h : s.Rests env objects sent) (hfree : OrderFree env objects) (hsent : Translates env objects sent)
    (heq : eq sent sent = true) {e : DaemonStep} (hG : e.Rereads env s) (hstep : s.step env eq e = some s') :
    s'.Rests env objects sent ∧ s'.delivery.frr = s.delivery.frr ∧ s'.delivery.conf = s.delivery.conf := by
  cases does_of_step hstep with
  | watch e w hwatch => exact ⟨h.watch hwatch hG h.delivery, rfl, rfl⟩
  | handOver osHostname r a sent' d hrunning hwatch hhanded _ hdelivery =>
    obtain ⟨r', a', hrunning', hnext, hhost, -⟩ := Watch.finish_eq_some hwatch
    cases hrunning.symm.trans hrunning'
    obtain rfl := h.sends hfree hsent hrunning hnext hhost hhanded
    obtain ⟨hd, hfrr, hconf⟩ := h.delivery.step heq hdelivery (fun newCfg he => by cases he; rfl)
    exact ⟨h.watch hwatch hG hd, hfrr, hconf⟩
  | delivery e d hother hdelivery =>
    obtain ⟨hd, hfrr, hconf⟩ := h.delivery.step heq hdelivery (fun newCfg he => (hother newCfg he).elim)
    exact ⟨⟨h.reads, h.sees, hd⟩, hfrr, hconf⟩

theorem seen_of_fetchStatus {files : Files} {now : Status} (h : fetchStatus files = .ok now) :
    ∃ status, readLastReloadResult files = .ok (now.updateTime, status) := by
  unfold fetchStatus at h
  split at h
  · cases h
  · rename_i timeStamp status hread
    cases h
    exact ⟨status, hread⟩

/-- A daemon that has nothing left to do and reports success is at rest with the translation of the objects. -/
theorem rests_of_quiescent {past : List (Daemon × DaemonStep)} (h : Run (daemon env eq conf) past s)
    (heq : ∀ a b, eq a b = true → a = b) (hclean : s.watch.Clean env) (hidle : s.watch.running = none)
    (hobjects : s.watch.objects ≠ []) (hq : s.delivery.Quiescent)
    (hseen : ∃ now, fetchStatus s.delivery.reload.files = .ok now ∧
    now.updateTime = s.delivery.reload.status.updateTime)
    (hpoll : s.delivery.reload.poll = .idle) (hok : s.watch.reconciler.conversionResult = conversionSuccess) :
    ∃ sent, Translates env s.watch.objects sent ∧ s.Rests env s.watch.objects sent := by
  have hreflects : Reflects env s.watch.objects s.watch.reconciler :=
    ((Watch.inv_run (Daemon.watch_run h)).settled hclean hidle).resolve_left hobjects
  obtain ⟨configs, secrets, c, sent, hconfigs, hsecrets, hc, hsent, hhanded⟩ := Daemon.reflects_success hreflects hok
  refine ⟨sent, ⟨configs, secrets, c, hconfigs, hsecrets, hc, hsent⟩, ⟨rfl, rfl, rfl, rfl⟩, ?_, hq, ?_, ?_, ?_⟩
  · intro r a hrunning
    rw [hidle] at hrunning
    cases hrunning
  · have hreceived := (handedOver_eq h).trans hhanded
    obtain ⟨d, hd, hsame⟩ := (Delivery.tracked (delivery_run h) (delivery_sent h)).current sent hreceived
    exact hd.trans (congrArg some (hsame.elim id (fun h => (heq sent d h).symm)))
  · obtain ⟨now, hnow, htime⟩ := hseen
    exact htime ▸ seen_of_fetchStatus hnow
  · intro t ht
    rw [hpoll] at ht
    cases ht

end Daemon

/-- **While the cluster stays as it is, FRR is left alone.**  From where nothing is left to do, and as long as no
change is read by a run: however often the controller runs, in whichever order it lists the objects and whichever calls
fail, and whatever the ticks read, the file is not written and FRR not reloaded. -/
theorem daemon_steady (env : WatchSettings) (eq : Config → Config → Bool) (conf : String)
    (past : List (Daemon × DaemonStep)) (s : Daemon) (h : Run (daemon env eq conf) past s)
    (heq : ∀ a b, eq a b = true ↔ a = b) (hclean : s.watch.Clean env) (hidle : s.watch.running = none)
    (hobjects : s.watch.objects ≠ []) (hq : s.delivery.Quiescent)
    (hseen : ∃ now, fetchStatus s.delivery.reload.files = .ok now ∧
    now.updateTime = s.delivery.reload.status.updateTime)
    (hpoll : s.delivery.reload.poll = .idle) (hok : s.watch.reconciler.conversionResult = conversionSuccess)
    (hfree : OrderFree env s.watch.objects) (more : List (Daemon × DaemonStep)) (s' : Daemon)
    (hmore : Run { init := s, step := (daemon env eq conf).step } more s') (hsame : ∀ x ∈ more, x.2.Rereads env x.1) :
    s'.delivery.Quiescent ∧ s'.delivery.frr = s.delivery.frr ∧ s'.delivery.conf = s.delivery.conf := by
  obtain ⟨sent, hsent, hrests⟩ := Daemon.rests_of_quiescent h (fun a b => (heq a b).1)
    hclean hidle hobjects hq hseen hpoll hok
  have hkept : s'.Rests env s.watch.objects sent ∧ s'.delivery.frr = s.delivery.frr ∧
      s'.delivery.conf = s.delivery.conf := by
    refine hmore.invariant (G := fun s e => e.Rereads env s)
      (P := fun _ t => t.Rests env s.watch.objects sent ∧ t.delivery.frr = s.delivery.frr ∧
      t.delivery.conf = s.delivery.conf) ⟨hrests, rfl, rfl⟩ (fun _ t e t' _ hprev hG hstep => ?_) hsame
    obtain ⟨ht, hfrr, hconf⟩ := hprev.1.step hfree hsent ((heq sent sent).2 rfl) hG hstep
    exact ⟨ht, hfrr.trans hprev.2.1, hconf.trans hprev.2.2⟩
  exact ⟨hkept.1.delivery.quiescent, hkept.2⟩

/-- The configuration is delivered again as it is; a run for it fails on its way and is repeated, and a tick reads the
status. -/
def deliveredAgain : List DaemonStep :=
  let config := Object.config firstPart
  let notFound : ApiError := { text := "not found", notFound := true }
  [.watch (.change (.update config config)), .watch (.notify (.update config config)), .watch (.begin config.request),
    .watch (.list (.ok [firstPart])), .watch (.getLogLevel (.error notFound)),
    .watch (.getNode (.error { text := "timeout" })),
    .watch (.finish (.ok "node")), .delivery (.reload .readStatus), .watch (.begin config.request),
    .watch (.list (.ok [firstPart])), .delivery (.reload .readLastError), .watch (.getLogLevel (.error notFound)),
    .watch (.getNode (.ok .empty)), .watch (.getSecrets (.ok [])), .watch (.finish (.ok "node")),
    .delivery (.reload .readRunningConfig), .delivery (.reload .update)]

def steadyFrom : System Daemon DaemonStep :=
  { init := converged.2, step := (daemon watchSettings (fun a b => decide (a = b)) "").step }

def steady : List (Daemon × DaemonStep) × Daemon :=
  (steadyFrom.exec deliveredAgain [] converged.2).getD ([], converged.2)

theorem daemon_steady_deliveredAgain : steady.1.length = 17 ∧ steady.2.delivery.Quiescent ∧
    steady.2.delivery.frr = converged.2.delivery.frr ∧ steady.2.delivery.conf = converged.2.delivery.conf := by
  have hrun : Run steadyFrom steady.1 steady.2 := Run.of_exec_getD _ .start (by decide +kernel)
  have hunread : ∀ x ∈ steady.1, x.2.unread "node" = true := by decide +kernel
  obtain ⟨hclean, hidle, hobjects, hconfigs, hsecrets, hok⟩ := converged_watch
  have hfree : OrderFree watchSettings converged.2.watch.objects := by
    refine ⟨?_, ?_, ?_, ?_⟩
    · rw [hconfigs]
      decide
    · exact (congrArg (fun l => (l.map Secret.name).Nodup) hsecrets).mpr List.nodup_nil
    · rw [hconfigs]
      unfold InterfacesApart
      decide +kernel
    · rw [hconfigs]
      exact .of_all false [] (by decide) (by decide)
  refine ⟨by decide +kernel, daemon_steady watchSettings _ "" _ _ converged_run
    (fun a b => decide_eq_true_iff) hclean hidle
    hobjects (by decide +kernel) converged_seen (by decide +kernel) hok hfree steady.1 steady.2 hrun
    (fun x hx => DaemonStep.rereads_of_unread (hunread x hx))⟩

end FrrK8s
