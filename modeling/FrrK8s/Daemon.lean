import FrrK8s.Delivery
import FrrK8s.Watch
/-!
# Daemon — from the cluster to FRR

The configuration controller and the loop, with everything they start: a run of the controller that hands a
configuration over waits until the loop receives it.  The two halves are `Watch` and `Delivery`; a run of the whole is a
run of each (`Daemon.watch_run`, `Daemon.delivery_run`), and what the loop received last is what the controller handed
over last (`Daemon.handedOver_eq`).  So where neither half has anything left to do, FRR runs the translation of the
cluster as it is (`daemon_converges`).
-/
namespace FrrK8s

structure Daemon where
  watch : Watch := {}
  delivery : Delivery

inductive DaemonStep
  | watch (e : WatchStep)
  | delivery (e : DeliveryStep)

namespace Daemon

variable (env : WatchSettings) (eq : Config → Config → Bool)

/-- What a step of the controller sends to the loop: `ApplyConfig` does so at the end of a run. -/
def sends (s : Daemon) : WatchStep → Option (ReloadEvent Config)
  | .finish osHostname =>
    s.watch.running.bind (fun run =>
      (reconcileOutcome env.env s.watch.reconciler.metrics (run.2.calls osHostname)).applied.bind
        (fun call => call.2.toOption))
  | _ => none

/-- The loop receives configurations from the controller only. -/
def step (s : Daemon) : DaemonStep → Option Daemon
  | .watch e =>
    (s.watch.step env e).bind (fun watch =>
      match s.sends env e with
      | none => some { s with watch := watch }
      | some event =>
        (s.delivery.step eq (.loop (.reload event))).map (fun delivery => { watch := watch, delivery := delivery }))
  | .delivery (.loop (.reload _)) => none
  | .delivery e => (s.delivery.step eq e).map (fun delivery => { s with delivery := delivery })

end Daemon

def daemon (env : WatchSettings) (eq : Config → Config → Bool) (conf : String) : System Daemon DaemonStep where
  init := { delivery := { conf := conf } }
  step := Daemon.step env eq

/-! ## What the controller hands over -/

section

variable {env : ReconcilerSettings} {m : Metrics} {calls : Calls}

/-- A run that calls `ApplyConfig` does so at its end. -/
theorem reconcileOutcome_ended {o : Outcome} (ho : reconcileOutcome env m calls = o) (happlied : o.applied ≠ none) :
    ∃ m' done logLevel config, o = applyOutcome m' done (handOver env calls logLevel config) := by
  unfold reconcileOutcome at ho
  simp only at ho
  split at ho
  · exact (happlied (ho ▸ rfl)).elim
  split at ho
  · exact (happlied (ho ▸ rfl)).elim
  rename_i logLevel _
  split at ho
  · rw [reconcileEmpty, apiToFRR_empty] at ho
    exact ⟨_, _, logLevel, {}, ho.symm⟩
  · unfold reconcileListed at ho
    split at ho
    · exact (happlied (ho ▸ rfl)).elim
    split at ho
    · exact (happlied (ho ▸ rfl)).elim
    split at ho
    · exact (happlied (ho ▸ rfl)).elim
    split at ho
    · exact (happlied (ho ▸ rfl)).elim
    · exact ⟨_, _, logLevel, _, ho.symm⟩

/-- It is called with the configuration of the run, and what it returns is what the run returns. -/
theorem reconcileOutcome_applyConfig {c : Config} {r : Except String (ReloadEvent Config)}
    (h : (reconcileOutcome env m calls).applied = some (c, r)) :
    r = applyConfig calls.osHostname env.fallbackRouterID c ∧
      ((∃ event, r = .ok event) → (reconcileOutcome env m calls).err = none) := by
  obtain ⟨m', done, logLevel, config, ho⟩ := reconcileOutcome_ended rfl (h ▸ Option.some_ne_none (c, r))
  rw [ho, applyOutcome_applied, Option.some.injEq] at h
  refine ⟨?_, fun ⟨event, hevent⟩ => ?_⟩
  · obtain ⟨rfl, rfl⟩ := Prod.mk.inj h
    rfl
  · rw [ho, h, hevent]
    rfl

theorem applyConfig_event {osHostname : Except String String} {fallbackRouterID : String} {c : Config}
    {event : ReloadEvent Config} (h : applyConfig osHostname fallbackRouterID c = .ok event) :
    ∃ sent, event = { config := some sent } := by
  cases osHostname with
  | error err => cases h
  | ok hostname => exact ⟨_, (Except.ok.inj h).symm⟩

/-- A run that hands a configuration over ends without an error. -/
theorem reconcileOutcome_handed {sent : Config} (h : (reconcileOutcome env m calls).handed = some sent) :
    (reconcileOutcome env m calls).err = none ∧
      ∃ c, TranslationOf env calls c ∧ applyConfig calls.osHostname env.fallbackRouterID c =
      .ok { config := some sent } := by
  obtain ⟨⟨c, r⟩, happlied, hr⟩ := Option.bind_eq_some_iff.1 h
  obtain ⟨event, hevent, hsent⟩ := Option.bind_eq_some_iff.1 hr
  have hok := (toOption_eq_some r event).1 hevent
  obtain ⟨hcall, herr⟩ := reconcileOutcome_applyConfig happlied
  obtain ⟨sent', rfl⟩ := applyConfig_event (hcall.symm.trans hok)
  refine ⟨herr ⟨_, hok⟩, c, reconcileOutcome_applied happlied, ?_⟩
  rw [← hcall, hok, ← Option.some.inj hsent]

/-- A run without an error hands its translation over, if there is one. -/
theorem reconcileOutcome_applies {hostname : String} (herr : (reconcileOutcome env m calls).err = none)
    (hhost : calls.osHostname = .ok hostname)
    (hok : ∀ configs cfgs secrets, calls.configs = .ok configs → InputOf env calls configs cfgs secrets →
      (apiToFRR ⟨cfgs, secrets⟩ env.alwaysBlockCIDRs).isOk = true) : (reconcileOutcome env m calls).Applied := by
  have happlied : ∀ m' done logLevel config, (applyOutcome m' done (handOver env calls logLevel config)).Applied := by
    intro m' done logLevel config
    have hcall : ∃ event, (handOver env calls logLevel config).2 = .ok event := by
      rw [handOver, hhost]
      exact ⟨_, rfl⟩
    obtain ⟨event, hevent⟩ := hcall
    exact ⟨_, event, (applyOutcome_applied _ _ _).trans (congrArg some (Prod.ext rfl hevent))⟩
  obtain ⟨configs, logLevel, hconfigs, hlevel, hrest⟩ := reconcileOutcome_err_none herr
  unfold reconcileOutcome
  simp only [hconfigs, hlevel]
  split
  · rw [reconcileEmpty, apiToFRR_empty]
    exact happlied _ _ _ _
  · rename_i hlisted
    obtain ⟨labels, secrets, hlabels, hvalid, hsecrets⟩ := hrest (fun hnil => hlisted (List.isEmpty_iff.2 hnil))
    obtain ⟨cfgs, hcfgs⟩ := (isOk_iff _).1 hvalid
    obtain ⟨config, hconfig⟩ :=
      (isOk_iff _).1 (hok configs cfgs secrets hconfigs (.inr ⟨labels, hlabels, hcfgs, hsecrets⟩))
    simp only [reconcileListed, hlabels, hcfgs, hsecrets, hconfig]
    exact happlied _ _ _ _

/-- A run without an error has known the log level, so its text is true. -/
theorem honest_of_err_none (herr : (reconcileOutcome env m calls).err = none) :
    (reconcileOutcome env m calls).Honest := by
  obtain ⟨_, logLevel, _, hlevel, _⟩ := reconcileOutcome_err_none herr
  exact reconcileOutcome_honest (fun _ => (getLogLevel_isOk _ env.defaultLogLevel).1 (by rw [hlevel]; rfl))

/-- The input of a run is determined, but for secrets that are not read. -/
theorem InputOf.isOk {configs cfgs cfgs' : List FRRConfiguration} {secrets secrets' : SortedMap String Secret}
    (h : InputOf env calls configs cfgs secrets) (h' : InputOf env calls configs cfgs' secrets')
    {alwaysBlock : List Net.IPNet} (hok : (apiToFRR ⟨cfgs, secrets⟩ alwaysBlock).isOk = true) :
    (apiToFRR ⟨cfgs', secrets'⟩ alwaysBlock).isOk = true := by
  have hempty : ∀ found, (apiToFRR ⟨[], found⟩ alwaysBlock).isOk = true := fun found => by rw [apiToFRR_empty]; rfl
  obtain ⟨-, rfl, -⟩ | ⟨labels', hlabels', hcfgs', hsecrets'⟩ := h'
  · exact hempty _
  obtain ⟨rfl, -, -⟩ | ⟨labels, hlabels, hcfgs, hsecrets⟩ := h
  · obtain rfl := Except.ok.inj hcfgs'
    exact hempty _
  · obtain rfl := Except.ok.inj (hlabels.symm.trans hlabels')
    obtain rfl := Except.ok.inj (hcfgs.symm.trans hcfgs')
    obtain rfl := Except.ok.inj (hsecrets.symm.trans hsecrets')
    exact hok

/-- A run without an error reports success if there is a translation. -/
theorem conversionResult_iff {hostname : String} (herr : (reconcileOutcome env m calls).err = none)
    (hhost : calls.osHostname = .ok hostname) :
    (reconcileOutcome env m calls).conversionResult = conversionSuccess ↔ ∃ c, TranslationOf env calls c := by
  refine (honest_of_err_none herr).trans ⟨?_, ?_⟩
  · rintro ⟨c, event, happlied⟩
    exact ⟨c, reconcileOutcome_applied happlied⟩
  · rintro ⟨c, configs, _, cfgs, found, config, hconfigs, _, hinput, hconfig, _⟩
    refine reconcileOutcome_applies herr hhost (fun configs' cfgs' found' hconfigs' hinput' => ?_)
    obtain rfl := Except.ok.inj (hconfigs.symm.trans hconfigs')
    exact hinput.isOk hinput' (by rw [hconfig]; rfl)

/-- It then hands the translation over. -/
theorem handed_of_success {hostname : String} (herr : (reconcileOutcome env m calls).err = none)
    (hhost : calls.osHostname = .ok hostname)
    (hok : (reconcileOutcome env m calls).conversionResult = conversionSuccess) :
    ∃ c sent, TranslationOf env calls c ∧
      applyConfig (.ok hostname) env.fallbackRouterID c = .ok { config := some sent } ∧
      (reconcileOutcome env m calls).handed = some sent := by
  obtain ⟨c, event, happlied⟩ := (honest_of_err_none herr).1 hok
  have hevent := (reconcileOutcome_applyConfig happlied).1.symm
  obtain ⟨sent, rfl⟩ := applyConfig_event hevent
  refine ⟨c, sent, reconcileOutcome_applied happlied, hhost ▸ hevent, ?_⟩
  rw [Outcome.handed, happlied]
  rfl

end

namespace Daemon

variable {env : WatchSettings} {eq : Config → Config → Bool} {conf : String} {s s' : Daemon}
  {past : List (Daemon × DaemonStep)}

/-- What a step does: one of the controller that sends nothing, one that hands over, or one of the loop and what
follows it. -/
inductive Does (env : WatchSettings) (eq : Config → Config → Bool) (s : Daemon) : DaemonStep → Daemon → Prop
  | watch (e : WatchStep) (w : Watch) (hwatch : s.watch.step env e = some w) (hnone : s.sends env e = none) :
      Does env eq s (.watch e) { s with watch := w }
  | handOver (osHostname : Except String String) (r : Request) (a : Attempt) (sent : Config) (d : Delivery)
      (hrunning : s.watch.running = some (r, a))
      (hwatch : s.watch.step env (.finish osHostname) = some (s.watch.finished env r (a.calls osHostname)))
      (happlied : (reconcileOutcome env.env s.watch.reconciler.metrics (a.calls osHostname)).handed = some sent)
      (hsends : s.sends env (.finish osHostname) = some { config := some sent })
      (hdelivery : s.delivery.step eq (.loop (.reload { config := some sent })) = some d) :
      Does env eq s (.watch (.finish osHostname)) { watch := s.watch.finished env r (a.calls osHostname),
                                                    delivery := d }
  | delivery (e : DeliveryStep) (d : Delivery) (hother : ∀ event, e ≠ .loop (.reload event))
      (hdelivery : s.delivery.step eq e = some d) : Does env eq s (.delivery e) { s with delivery := d }

theorem does_of_step {e : DaemonStep} (hstep : s.step env eq e = some s') : s.Does env eq e s' := by
  cases e with
  | watch e =>
    simp only [step] at hstep
    obtain ⟨w, hwatch, hstep⟩ := Option.bind_eq_some_iff.1 hstep
    cases hsends : s.sends env e with
    | none =>
      rw [hsends] at hstep
      obtain rfl := Option.some.inj hstep
      exact .watch e w hwatch hsends
    | some event =>
      simp only [hsends] at hstep
      obtain ⟨d, hdelivery, rfl⟩ := Option.map_eq_some_iff.1 hstep
      cases e with
      | finish osHostname =>
        obtain ⟨r, a, hrunning, _, _, rfl⟩ := Watch.finish_eq_some hwatch
        have hcall := hsends
        rw [sends, hrunning, Option.bind_some] at hcall
        obtain ⟨⟨c, result⟩, happlied, hresult⟩ := Option.bind_eq_some_iff.1 hcall
        have hok := (toOption_eq_some result event).1 hresult
        obtain ⟨sent, rfl⟩ := applyConfig_event ((reconcileOutcome_applyConfig happlied).1.symm.trans hok)
        refine .handOver osHostname r a sent d hrunning hwatch ?_ hsends hdelivery
        rw [Outcome.handed, happlied, hok]
        rfl
      | change | notify | begin | list | getLogLevel | getNode | getSecrets => cases hsends
  | delivery e =>
    cases e with
    | loop e =>
      cases e with
      | reload event => cases hstep
      | closed | timeOut | done =>
        obtain ⟨d, hdelivery, rfl⟩ := Option.map_eq_some_iff.1 hstep
        exact .delivery _ d (fun event h => by cases h) hdelivery
    | fire | empty | write | written | signal | fail | trap | reload | test | apply =>
      obtain ⟨d, hdelivery, rfl⟩ := Option.map_eq_some_iff.1 hstep
      exact .delivery _ d (fun event h => by cases h) hdelivery

/-! ## The two halves -/

def watchEvent (_ : Daemon) : DaemonStep → Option WatchStep
  | .watch e => some e
  | .delivery _ => none

def deliveryEvent (env : WatchSettings) (s : Daemon) : DaemonStep → Option DeliveryStep
  | .watch e => (s.sends env e).map (fun event => .loop (.reload event))
  | .delivery e => some e

theorem watch_run (h : Run (daemon env eq conf) past s) :
    Run (FrrK8s.watch env) (partOf Daemon.watch watchEvent past) s.watch := by
  refine h.project rfl (fun s e s' hstep hnone => ?_) (fun s e s' d hstep hsome => ?_)
  · cases does_of_step hstep with
    | watch | handOver => cases hnone
    | delivery => rfl
  · cases does_of_step hstep with
    | watch e w hwatch =>
      cases hsome
      exact hwatch
    | handOver _ _ _ _ _ _ hwatch =>
      cases hsome
      exact hwatch
    | delivery => cases hsome

theorem delivery_run (h : Run (daemon env eq conf) past s) :
    Run (FrrK8s.delivery eq conf) (partOf Daemon.delivery (deliveryEvent env) past) s.delivery := by
  refine h.project rfl (fun s e s' hstep hnone => ?_) (fun s e s' d hstep hsome => ?_)
  · cases does_of_step hstep with
    | watch => rfl
    | handOver _ _ _ _ _ _ _ _ hsends =>
      rw [deliveryEvent, hsends] at hnone
      cases hnone
    | delivery => cases hnone
  · cases does_of_step hstep with
    | watch _ _ _ hnone =>
      rw [deliveryEvent, hnone] at hsome
      cases hsome
    | handOver _ _ _ _ _ _ _ _ hsends hdelivery =>
      rw [deliveryEvent, hsends] at hsome
      cases hsome
      exact hdelivery
    | delivery _ _ _ hdelivery =>
      cases hsome
      exact hdelivery

/-! ## Between them -/

/-- A step that is none of the controller's hands nothing over. -/
theorem handedOver_other {d : Delivery} {e : DeliveryStep} (hother : ∀ event, e ≠ .loop (.reload event))
    (p : List (Delivery × DeliveryStep)) : handedOver ((d, e) :: p) = handedOver p := by
  unfold handedOver partOf
  cases he : d.loopEvent e with
  | none => rw [List.filterMap_cons_none (by rw [he]; rfl)]
  | some l =>
    rw [List.filterMap_cons_some (by rw [he]; rfl)]
    cases l with
    | closed | timeOut | done => rfl
    | reload newCfg =>
      refine lastReceived_useOld ?_
      cases e with
      | loop e =>
        cases he
        exact (hother newCfg rfl).elim
      | reload e =>
        cases e with
        | update =>
          rw [Delivery.loopEvent] at he
          split at he
          · cases he
            rfl
          · cases he
        | start | write | readStatus | readLastError | readRunningConfig | readError => cases he
      | fire | empty | write | written | signal | fail | trap | test | apply => cases he

/-- **What the loop received last is what the controller handed over last.** -/
theorem handedOver_eq (h : Run (daemon env eq conf) past s) :
    handedOver (partOf Daemon.delivery (deliveryEvent env) past) = s.watch.reconciler.handed := by
  induction h with
  | start => rfl
  | @next past s s' e hrun hstep ih =>
    unfold partOf at ih ⊢
    cases does_of_step hstep with
    | watch e w hwatch hnone =>
      rw [List.filterMap_cons_none (by rw [deliveryEvent, hnone]; rfl), ih]
      cases e with
      | finish osHostname =>
        obtain ⟨r, a, hrunning, _, _, rfl⟩ := Watch.finish_eq_some hwatch
        have hhanded : (reconcileOutcome env.env s.watch.reconciler.metrics (a.calls osHostname)).handed = none := by
          rw [sends, hrunning, Option.bind_some] at hnone
          rw [Outcome.handed, ← Option.bind_assoc, hnone]
          rfl
        rw [Watch.finished, reconcile, hhanded, Option.none_or]
      | change | notify | begin | list | getLogLevel | getNode | getSecrets =>
        exact (Watch.step_reconciler hwatch (fun _ h => by cases h)).symm ▸ rfl
    | handOver osHostname r a sent d hrunning hwatch happlied hsends hdelivery =>
      rw [List.filterMap_cons_some (by rw [deliveryEvent, hsends]; rfl)]
      rw [Watch.finished, reconcile, happlied]
      rfl
    | delivery e d hother =>
      rw [List.filterMap_cons_some (by rfl), handedOver_other hother, ih]

/-- Every configuration that is sent is one of `ApplyConfig`. -/
theorem delivery_sent (h : Run (daemon env eq conf) past s) :
    ∀ x ∈ partOf Daemon.delivery (deliveryEvent env) past, x.2.Sent := by
  induction h with
  | start => exact fun x hx => absurd hx List.not_mem_nil
  | @next past s s' e hrun hstep ih =>
    unfold partOf at ih ⊢
    cases does_of_step hstep with
    | watch e w hwatch hnone =>
      rw [List.filterMap_cons_none (by rw [deliveryEvent, hnone]; rfl)]
      exact ih
    | handOver osHostname r a sent d hrunning hwatch happlied hsends hdelivery =>
      rw [List.filterMap_cons_some (by rw [deliveryEvent, hsends]; rfl)]
      exact List.forall_mem_cons.2 ⟨Or.inr rfl, ih⟩
    | delivery e d hother =>
      rw [List.filterMap_cons_some (by rfl)]
      refine List.forall_mem_cons.2 ⟨?_, ih⟩
      cases e with
      | loop e =>
        cases e with
        | reload event => exact (hother event rfl).elim
        | closed | timeOut | done => trivial
      | fire | empty | write | written | signal | fail | trap | reload | test | apply => trivial

end Daemon

/-- Ticks and runs of the reloader do not disturb one another. -/
def DaemonStep.Undisturbed (s : Daemon) : DaemonStep → Prop
  | .delivery e => e.Undisturbed s.delivery
  | .watch _ => True

namespace Daemon

variable {env : WatchSettings} {eq : Config → Config → Bool} {conf : String} {s : Daemon}
  {past : List (Daemon × DaemonStep)}

theorem delivery_undisturbed (hwhen : ∀ x ∈ past, x.2.Undisturbed x.1) :
    ∀ x ∈ partOf Daemon.delivery (deliveryEvent env) past, x.2.Undisturbed x.1 := by
  intro x hx
  obtain ⟨⟨s, e⟩, hy, hmap⟩ := List.mem_filterMap.1 hx
  obtain ⟨d, hd, rfl⟩ := Option.map_eq_some_iff.1 hmap
  cases e with
  | delivery e =>
    cases hd
    exact hwhen _ hy
  | watch e =>
    obtain ⟨event, _, rfl⟩ := Option.map_eq_some_iff.1 hd
    trivial

/-- A run over the cluster that reports success has handed over the translation. -/
theorem reflects_success {objects : List Object} {r : Reconciler} (h : Reflects env objects r)
    (hok : r.conversionResult = conversionSuccess) :
    ∃ configs secrets c sent, configs.Perm (listConfigs objects) ∧ secrets.Perm (listSecrets env.ns objects) ∧
      TranslationOf env.env (clusterCalls env objects configs secrets) c ∧
      applyConfig (.ok env.hostname) env.env.fallbackRouterID c = .ok { config := some sent } ∧
      r.handed = some sent := by
  obtain ⟨before, configs, secrets, hconfigs, hsecrets, rfl, herr⟩ := h
  obtain ⟨c, sent, hc, hsent, hhanded⟩ := handed_of_success herr rfl hok
  refine ⟨configs, secrets, c, sent, hconfigs, hsecrets, hc, hsent, ?_⟩
  rw [reconcile, hhanded]
  rfl

theorem reflects_of_clean (h : Run (daemon env eq conf) past s) (hclean : s.watch.Clean env)
    (hidle : s.watch.running = none) (hobjects : s.watch.objects ≠ []) :
    Reflects env s.watch.objects s.watch.reconciler :=
  ((Watch.inv_run (watch_run h)).settled hclean hidle).resolve_left hobjects

theorem runs_of_success (h : Run (daemon env eq conf) past s) (hwhen : ∀ x ∈ past, x.2.Undisturbed x.1)
    (heq : ∀ a b, eq a b = true → a = b) (hclean : s.watch.Clean env) (hidle : s.watch.running = none)
    (hobjects : s.watch.objects ≠ []) (hq : s.delivery.Quiescent)
    (hseen : ∃ now, fetchStatus s.delivery.reload.files = .ok now ∧
    now.updateTime = s.delivery.reload.status.updateTime)
    (hok : s.watch.reconciler.conversionResult = conversionSuccess) :
    ∃ configs secrets c sent, configs.Perm (listConfigs s.watch.objects) ∧
      secrets.Perm (listSecrets env.ns s.watch.objects) ∧
      TranslationOf env.env (clusterCalls env s.watch.objects configs secrets) c ∧
      applyConfig (.ok env.hostname) env.env.fallbackRouterID c = .ok { config := some sent } ∧
      s.delivery.frr = .runs (templateConfig sent) := by
  obtain ⟨configs, secrets, c, sent, hconfigs, hsecrets, hc, hsent, hhanded⟩ :=
    reflects_success (reflects_of_clean h hclean hidle hobjects) hok
  obtain ⟨now, hnow, htime⟩ := hseen
  obtain ⟨_, _, _, hfrr, _⟩ := Delivery.applied_of_quiescent (delivery_run h) (delivery_sent h)
    (delivery_undisturbed hwhen) heq hq
    hnow htime ((handedOver_eq h).trans hhanded)
  exact ⟨configs, secrets, c, sent, hconfigs, hsecrets, hc, hsent, hfrr⟩

end Daemon

/-- **Where nothing is left to do, FRR runs the translation of the cluster as it is.**  Through every interleaving of
changes, events, runs of the controller with calls that fail, writes, signals, reloads that fail and ticks: once the
queue is empty, no run is in progress, the loop and the reloader are idle and the daemon has seen how the last reload
ended, and if the controller reports success, FRR runs the rendering of the translation of the configurations, the log
level, the labels of the node and the secrets there are now. -/
theorem daemon_converges (env : WatchSettings) (eq : Config → Config → Bool) (conf : String)
    (past : List (Daemon × DaemonStep)) (s : Daemon) (h : Run (daemon env eq conf) past s)
    (hwhen : ∀ x ∈ past, x.2.Undisturbed x.1) (heq : ∀ a b, eq a b = true → a = b) (hclean : s.watch.Clean env)
    (hidle : s.watch.running = none) (hobjects : s.watch.objects ≠ []) (hq : s.delivery.Quiescent)
    (hseen : ∃ now, fetchStatus s.delivery.reload.files = .ok now ∧
    now.updateTime = s.delivery.reload.status.updateTime)
    (hok : s.watch.reconciler.conversionResult = conversionSuccess) :
    ∃ configs secrets c sent, configs.Perm (listConfigs s.watch.objects) ∧
      secrets.Perm (listSecrets env.ns s.watch.objects) ∧
      TranslationOf env.env (clusterCalls env s.watch.objects configs secrets) c ∧
      applyConfig (.ok env.hostname) env.env.fallbackRouterID c = .ok { config := some sent } ∧
      s.delivery.frr = .runs (templateConfig sent) :=
  Daemon.runs_of_success h hwhen heq hclean hidle hobjects hq hseen hok

instance (s : Daemon) (e : DaemonStep) : Decidable (e.Undisturbed s) :=
  match e with
  | .delivery e => inferInstanceAs (Decidable (e.Undisturbed s.delivery))
  | .watch _ => inferInstanceAs (Decidable True)

/-- A node and a configuration, the runs of the controller for them, and a reload that fails before one that
succeeds. -/
def configured : List DaemonStep := listedTooEarly.map .watch ++ reloadedTwice.map .delivery

/-- The run of these steps, from an empty file. -/
def converged : List (Daemon × DaemonStep) × Daemon :=
  ((daemon watchSettings (fun a b => decide (a = b)) "").exec configured [] { delivery := { conf := "" } }).getD
    ([], { delivery := { conf := "" } })

theorem converged_run : Run (daemon watchSettings (fun a b => decide (a = b)) "") converged.1 converged.2 :=
  Run.of_exec_getD _ .start (by decide +kernel)

/-- Nothing is left to do for the controller, which reports success. -/
theorem converged_watch : converged.2.watch.Clean watchSettings ∧ converged.2.watch.running = none ∧
    converged.2.watch.objects ≠ [] ∧ listConfigs converged.2.watch.objects = [firstPart] ∧
    listSecrets "frr-k8s" converged.2.watch.objects = [] ∧
    converged.2.watch.reconciler.conversionResult = conversionSuccess := by
  have hwatch : converged.2.watch.queue = [] ∧ (∀ e ∈ converged.2.watch.pending, e.passes "node" = false) ∧
      converged.2.watch.running.isNone = true ∧ converged.2.watch.objects ≠ [] ∧
      listConfigs converged.2.watch.objects = [firstPart] ∧ listSecrets "frr-k8s" converged.2.watch.objects = [] ∧
      converged.2.watch.reconciler.conversionResult = conversionSuccess := by decide +kernel
  obtain ⟨hqueue, hpending, hidle, hrest⟩ := hwatch
  exact ⟨⟨hqueue, hpending⟩, Option.isNone_iff_eq_none.1 hidle, hrest⟩

theorem converged_seen : ∃ now, fetchStatus converged.2.delivery.reload.files = .ok now ∧
    now.updateTime = converged.2.delivery.reload.status.updateTime :=
  ⟨_, (toOption_eq_some _ converged.2.delivery.reload.status).1 (by decide +kernel), rfl⟩

theorem daemon_converges_configured :
    ∃ configs secrets c sent, configs.Perm [firstPart] ∧ secrets.Perm [] ∧
      TranslationOf plainSettings (clusterCalls watchSettings converged.2.watch.objects configs secrets) c ∧
      applyConfig (.ok "node") "" c = .ok { config := some sent } ∧
      converged.2.delivery.frr = .runs (templateConfig sent) := by
  obtain ⟨hclean, hidle, hobjects, hconfigs, hsecrets, hok⟩ := converged_watch
  rw [← hconfigs, ← hsecrets]
  exact daemon_converges watchSettings _ "" _ _ converged_run (by decide +kernel)
    (fun a b h => of_decide_eq_true h) hclean
    hidle hobjects (by decide +kernel) converged_seen hok

end FrrK8s
