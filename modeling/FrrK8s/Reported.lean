import FrrK8s.Daemon
import FrrK8s.NodeState
/-!
# Reported — what the `FRRNodeState` of a node tells

The daemon with the controller that publishes its state: the runs of the configuration controller and the ticks of the
daemon are what this controller is told about, and it reads what they left.  `Daemon` and `NodeState` are joined at
these events (`nodeDaemon`), and both have the same reconciler and the same status at any time (`agrees_run`).  So where
nothing is left to do, what the object tells is so: success exactly if the configurations can be translated, and then
FRR runs the translation and the object has its running configuration (`nodeState_reports`).
-/
namespace FrrK8s

/-! ## The system -/

/-- The events of the state controller, and of its notifications. -/
def NodeStep.own : NodeStep → Bool
  | .convert | .publish _ | .poll _ => false
  | .notifyConverted | .notifyPolled | .deliver | .reconcile | .wake | .get | .getStatus | .conversionResult
      | .update => true

/-- What the state controller is told about: the start and the end of a run of the configuration controller, and the
end of a tick. -/
def Daemon.tells (s : Daemon) : DaemonStep → Option NodeStep
  | .watch (.begin _) => some .convert
  | .watch (.finish osHostname) => s.watch.running.map (fun run => .publish (run.2.calls osHostname))
  | .delivery (.reload .update) =>
    match s.delivery.reload.poll with
    | .fetched status => some (.poll status)
    | _ => none
  | _ => none

/-- The daemon of a node, whose object is stored as it was left. -/
def nodeDaemon (env : WatchSettings) (eq : Config → Config → Bool) (conf : String) (stored : Option NodeStatus) :
    System (Daemon × NodeState) (DaemonStep ⊕ NodeStep) :=
  (daemon env eq conf).joint (nodeStates env.env stored) Daemon.tells NodeStep.own

/-! ## One reconciler and one status -/

structure Daemon.Agrees (s : Daemon) (t : NodeState) : Prop where
  reconciler : t.reconciler = s.watch.reconciler
  frr : t.frr = s.delivery.reload.status

theorem NodeState.kept_of_own {env : ReconcilerSettings} {t t' : NodeState} {e : NodeStep} (hown : e.own = true)
    (h : t.step env e = some t') : t'.reconciler = t.reconciler ∧ t'.frr = t.frr := by
  cases does_of_step h with
  | convert | publish | sameStatus | newStatus => cases hown
  | notifyConverted | notifyPolled | deliver | reconcile | wake | get | create | getStatus
      | conversionResult | update =>
    exact ⟨rfl, rfl⟩

theorem Delivery.status_of_step {eq : Config → Config → Bool} {s s' : Delivery} {e : DeliveryStep}
    (hother : e ≠ .reload .update) (h : s.step eq e = some s') : s'.reload.status = s.reload.status := by
  cases does_of_step h with
  | start r reload _ hreload =>
    cases ReloadState.does_of_step hreload
    rfl
  | writeFile reload _ hreload =>
    cases ReloadState.does_of_step hreload
    rfl
  | read e reload _ _ _ hstatus => exact hstatus
  | take | retry => exact (hother rfl).elim
  | loop | fire | empty | write | written | signal | fail | trap | test | apply => rfl

namespace Daemon

variable {env : WatchSettings} {eq : Config → Config → Bool} {conf : String} {stored : Option NodeStatus}
  {s s' : Daemon}
  {t t' : NodeState}

/-- The end of a run is published. -/
theorem Agrees.finish (h : s.Agrees t) {r : Request} {calls : Calls} {d : Delivery}
    (hstatus : d.reload.status = s.delivery.reload.status) (hpart : t.step env.env (.publish calls) = some t') :
    Agrees { watch := s.watch.finished env r calls, delivery := d } t' := by
  cases NodeState.does_of_step hpart with
  | publish _ last =>
    constructor
    · exact congrArg (fun r => FrrK8s.reconcile env.env r calls) h.reconciler
    · exact h.frr.trans hstatus.symm

/-- The status that a tick takes is the one that is polled. -/
theorem Agrees.take (h : s.Agrees t) {status : Status} {d : Delivery}
    (hreload : d.reload = s.delivery.reload.take status) (hpart : t.step env.env (.poll status) = some t') :
    Agrees { s with delivery := d } t' := by
  simp only [NodeState.step] at hpart
  split at hpart
  · cases hpart
  constructor
  · split at hpart <;> cases hpart <;> exact h.reconciler
  · show t'.frr = d.reload.status
    rw [hreload, ReloadState.take]
    rw [h.frr] at hpart
    split at hpart
    · rename_i hsame
      cases hpart
      rw [if_pos hsame]
      exact h.frr
    · rename_i hnew
      cases hpart
      rw [if_neg hnew]

theorem Agrees.silent (h : s.Agrees t) {e : DaemonStep} (hstep : s.step env eq e = some s') (hnone : s.tells e = none) :
    s'.Agrees t := by
  cases does_of_step hstep with
  | watch e w hwatch =>
    refine ⟨h.reconciler.trans (Watch.step_reconciler hwatch (fun osHostname he => ?_)).symm, h.frr⟩
    subst he
    obtain ⟨r, a, hrunning, -⟩ := Watch.finish_eq_some hwatch
    rw [tells, hrunning] at hnone
    cases hnone
  | handOver osHostname r a sent d hrunning =>
    rw [tells, hrunning] at hnone
    cases hnone
  | delivery e d hother hdelivery =>
    refine ⟨h.reconciler, h.frr.trans (Delivery.status_of_step (fun he => ?_) hdelivery).symm⟩
    subst he
    cases Delivery.does_of_step hdelivery with
    | take status hpoll | retry status _ hpoll =>
      simp only [tells, hpoll] at hnone
      cases hnone
    | read _ _ _ _ _ _ _ hevent => exact hevent rfl

theorem Agrees.told (h : s.Agrees t) {e : DaemonStep} {d : NodeStep} (hstep : s.step env eq e = some s')
    (hsome : s.tells e = some d) (hpart : t.step env.env d = some t') : s'.Agrees t' := by
  cases does_of_step hstep with
  | watch e w hwatch =>
    cases e with
    | finish osHostname =>
      obtain ⟨r, a, hrunning, -, -, rfl⟩ := Watch.finish_eq_some hwatch
      rw [tells, hrunning] at hsome
      cases hsome
      exact h.finish rfl hpart
    | begin r =>
      cases hsome
      have hkept := Watch.step_reconciler hwatch (fun _ he => by cases he)
      cases NodeState.does_of_step hpart with
      | convert => exact ⟨h.reconciler.trans hkept.symm, h.frr⟩
    | change | notify | list | getLogLevel | getNode | getSecrets => cases hsome
  | handOver osHostname r a sent d hrunning _ _ _ hdelivery =>
    rw [tells, hrunning] at hsome
    cases hsome
    exact h.finish (Delivery.status_of_step (fun he => by cases he) hdelivery) hpart
  | delivery e d hother hdelivery =>
    cases Delivery.does_of_step hdelivery with
    | take status hpoll =>
      simp only [tells, hpoll] at hsome
      cases hsome
      exact h.take rfl hpart
    | retry status loop hpoll =>
      simp only [tells, hpoll] at hsome
      cases hsome
      exact h.take rfl hpart
    | read e _ _ _ _ _ _ hevent =>
      cases e with
      | update => exact (hevent rfl).elim
      | start | write | readStatus | readLastError | readRunningConfig | readError => cases hsome
    | loop | fire | empty | write | written | signal | fail | trap | start | writeFile | test | apply => cases hsome

/-- **The state controller reads what the daemon has**, at any time. -/
theorem agrees_run {past : List ((Daemon × NodeState) × (DaemonStep ⊕ NodeStep))} {x : Daemon × NodeState}
    (h : Run (nodeDaemon env eq conf stored) past x) : x.1.Agrees x.2 := by
  refine h.invariant (G := fun _ _ => True) (P := fun _ x => x.1.Agrees x.2) ⟨rfl, rfl⟩ ?_ (fun _ _ => trivial)
  rintro past ⟨s, t⟩ e ⟨s', t'⟩ hrun hagrees - hstep
  cases System.joins_of_step hstep with
  | silent hdaemon hnone => exact hagrees.silent hdaemon hnone
  | told hdaemon hsome hpart => exact hagrees.told hdaemon hsome hpart
  | own hown hpart =>
    obtain ⟨hreconciler, hfrr⟩ := NodeState.kept_of_own hown hpart
    exact ⟨hreconciler.trans hagrees.reconciler, hfrr.trans hagrees.frr⟩

end Daemon

/-! ## What is reported -/

/-- **What the object of a node tells is so.**  Through every interleaving of changes, runs of the controllers with
calls that fail, writes, signals, reloads that fail and ticks: where nothing is left to do and the daemon has seen how
the last reload ended, the `FRRNodeState` tells of a success exactly if the configurations there are can be
translated.  FRR then runs the translation, and the object tells that the reload succeeded and has the running
configuration that was saved after it, without passwords. -/
theorem nodeState_reports (env : WatchSettings) (eq : Config → Config → Bool) (conf : String)
    (stored : Option NodeStatus) (past : List ((Daemon × NodeState) × (DaemonStep ⊕ NodeStep))) (s : Daemon)
    (t : NodeState) (h : Run (nodeDaemon env eq conf stored) past (s, t))
    (hwhen : ∀ x ∈ past, ∀ e ∈ x.2.getLeft?, e.Undisturbed x.1.1) (heq : ∀ a b, eq a b = true → a = b)
    (hclean : s.watch.Clean env) (hidle : s.watch.running = none) (hobjects : s.watch.objects ≠ [])
    (hq : s.delivery.Quiescent) (hquiet : t.Quiescent)
    (hseen : ∃ now, fetchStatus s.delivery.reload.files = .ok now ∧
    now.updateTime = s.delivery.reload.status.updateTime) :
    ∃ configs secrets status, configs.Perm (listConfigs s.watch.objects) ∧
    secrets.Perm (listSecrets env.ns s.watch.objects) ∧
      t.stored = some status ∧
      (status.lastConversionResult = conversionSuccess ↔
        ∃ c, TranslationOf env.env (clusterCalls env s.watch.objects configs secrets) c) ∧
      (status.lastConversionResult = conversionSuccess → ∃ c sent l,
        TranslationOf env.env (clusterCalls env s.watch.objects configs secrets) c ∧
        applyConfig (.ok env.hostname) env.env.fallbackRouterID c = .ok { config := some sent } ∧
        s.delivery.frr = .runs (templateConfig sent) ∧ s.delivery.loading = some l ∧
        l.applied = some (templateConfig sent) ∧
        status.lastReloadResult = reloadSuccess ∧ status.runningConfig = cleanPasswords l.run.runningConf) := by
  have hrun : Run (daemon env eq conf) _ s := h.joint_fst
  have hundisturbed : ∀ x ∈ partOf Prod.fst (fun _ => Sum.getLeft?) past, x.2.Undisturbed x.1 := by
    intro x hx
    obtain ⟨y, hy, hmap⟩ := List.mem_filterMap.1 hx
    obtain ⟨e, he, rfl⟩ := Option.map_eq_some_iff.1 hmap
    exact hwhen y hy e he
  have hagrees := Daemon.agrees_run h
  have hstored : t.stored = some t.target := by
    obtain hdue | hup := (NodeState.current_run h.joint_snd).upToDate
    · exact (hquiet.1 hdue).elim
    · rwa [NodeState.UpToDate, hquiet.2] at hup
  obtain ⟨before, configs, secrets, hconfigs, hsecrets, hreconciler, herr⟩ :=
    Daemon.reflects_of_clean hrun hclean hidle hobjects
  refine ⟨configs, secrets, t.target, hconfigs, hsecrets, hstored, ?_, ?_⟩
  · show t.reconciler.conversionResult = _ ↔ _
    rw [hagrees.reconciler, hreconciler]
    exact conversionResult_iff herr rfl
  · intro hok
    have hsuccess : s.watch.reconciler.conversionResult = conversionSuccess := hagrees.reconciler ▸ hok
    rw [hreconciler] at hsuccess
    obtain ⟨c, sent, hc, hsent, hhanded⟩ := handed_of_success herr rfl hsuccess
    have hlast : s.watch.reconciler.handed = some sent := by
      rw [hreconciler, reconcile, hhanded]
      rfl
    obtain ⟨now, hnow, htime⟩ := hseen
    obtain ⟨l, hl, happlied, hfrr, hresult, hcurrent⟩ := Delivery.applied_of_quiescent (Daemon.delivery_run hrun)
      (Daemon.delivery_sent hrun) (Daemon.delivery_undisturbed hundisturbed) heq hq hnow htime
      ((Daemon.handedOver_eq hrun).trans hlast)
    refine ⟨c, sent, l, hc, hsent, hfrr, hl, happlied, ?_, ?_⟩
    · show cleanPasswords t.frr.lastReloadResult = _
      rw [hagrees.frr, hresult]
      decide +kernel
    · show cleanPasswords t.frr.current = _
      rw [hagrees.frr, hcurrent]

/-- The end of a tick. -/
def DaemonStep.endsTick : DaemonStep → Bool
  | .delivery (.reload .update) => true
  | _ => false

/-- The steps of the daemon's run with a notification after the first run of the controller and after each tick, and
one run of the state controller for all of them. -/
def notified : List (DaemonStep ⊕ NodeStep) :=
  (configured.take 7).map .inl ++ [.inr .notifyConverted] ++
    (configured.drop 7).flatMap (fun e => if e.endsTick then [.inl e, .inr .notifyPolled] else [.inl e]) ++
    [.deliver, .deliver, .deliver, .deliver, .reconcile, .get, .getStatus, .conversionResult, .update].map .inr

def reported : List ((Daemon × NodeState) × (DaemonStep ⊕ NodeStep)) × (Daemon × NodeState) :=
  let sys := nodeDaemon watchSettings (fun a b => decide (a = b)) "" none
  (sys.exec notified [] sys.init).getD ([], sys.init)

theorem reported_run : Run (nodeDaemon watchSettings (fun a b => decide (a = b)) "" none) reported.1 reported.2 :=
  Run.of_exec_getD _ .start (by decide +kernel)

theorem nodeState_reports_notified :
    reported.2.2.stored = some ⟨"hostname node", "success", "success"⟩ ∧
    ∃ configs secrets c sent, configs.Perm [firstPart] ∧ secrets.Perm [] ∧
      TranslationOf plainSettings (clusterCalls watchSettings reported.2.1.watch.objects configs secrets) c ∧
      applyConfig (.ok "node") "" c = .ok { config := some sent } ∧
      reported.2.1.delivery.frr = .runs (templateConfig sent) := by
  have hwatch : reported.2.1.watch.queue = [] ∧ (∀ e ∈ reported.2.1.watch.pending, e.passes "node" = false) ∧
      reported.2.1.watch.running.isNone = true ∧ reported.2.1.watch.objects ≠ [] ∧
      listConfigs reported.2.1.watch.objects = [firstPart] ∧ listSecrets "frr-k8s" reported.2.1.watch.objects = [] := by
    decide +kernel
  obtain ⟨hqueue, hpending, hidle, hobjects, hconfigs, hsecrets⟩ := hwatch
  have hstored : reported.2.2.stored = some ⟨"hostname node", "success", "success"⟩ := by decide +kernel
  obtain ⟨configs, secrets, status, hlisted, hfound, hstatus, -, hsuccess⟩ := nodeState_reports watchSettings _ "" none
    reported.1 reported.2.1 reported.2.2 reported_run (by decide +kernel) (fun a b h => of_decide_eq_true h)
    ⟨hqueue, hpending⟩ (Option.isNone_iff_eq_none.1 hidle) hobjects (by decide +kernel) (by decide +kernel)
    ⟨_, (toOption_eq_some _ reported.2.1.delivery.reload.status).1 (by decide +kernel), rfl⟩
  rw [hstored] at hstatus
  obtain ⟨c, sent, l, hc, hsent, hfrr, -⟩ := hsuccess (by rw [← Option.some.inj hstatus]; rfl)
  exact ⟨hstored, configs, secrets, c, sent, hconfigs ▸ hlisted, hsecrets ▸ hfound, hc, hsent, hfrr⟩

end FrrK8s
