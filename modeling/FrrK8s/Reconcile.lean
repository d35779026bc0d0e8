import FrrK8s.Debounce
import FrrK8s.Order
import FrrK8s.Selector
/-!
# Reconcile — what a run of the configuration controller publishes (`FRRConfigurationReconciler.Reconcile`)

A run lists the resources, looks up the log level, the node and the secrets, translates, and hands the translation to
the FRR handler.  Each call returns what it likes.  A deferred function publishes a text that starts as `success` and
that the early returns overwrite.  All do but one: where the log level is not known the run returns with the text it
started with, and there alone what is published is not what happened (`reconcile_truthful_iff`).
-/
namespace FrrK8s

/-! ## Log levels -/

inductive LogLevel
  | all
  | debug
  | info
  | warn
  | error
  | none
deriving DecidableEq, Repr

/-- `logging.ParseLevel`. -/
def parseLevel (l : String) : Except String LogLevel :=
  match l with
  | "all" | "debug" => .ok .debug
  | "info" => .ok .info
  | "warn" => .ok .warn
  | "error" => .ok .error
  | "none" => .ok .none
  | _ => .error s!"invalid log level {quote l}"

/-- `frr.LevelFrom`. -/
def levelFrom : LogLevel → String
  | .all | .debug => "debugging"
  | .info => "informational"
  | .warn => "warnings"
  | .error => "errors"
  | .none => "emergencies"

/-- An error of the API server. -/
structure ApiError where
  text : String
  notFound : Bool := false
deriving DecidableEq, Repr

/-- `getLogLevel`, of what `Get` returns for the `FRRK8sConfiguration`: its `LogLevel` or an error. -/
def getLogLevel (config : Except ApiError String) (defaultLogLevel : LogLevel) : Except String LogLevel :=
  match config with
  | .error err => if err.notFound then .ok defaultLogLevel else .error err.text
  | .ok logLevel => if logLevel = "" then .ok defaultLogLevel else parseLevel logLevel

/-- The levels `ParseLevel` knows. -/
def levels : List String := ["all", "debug", "info", "warn", "error", "none"]

/-- There is no `FRRK8sConfiguration`, or one without a level, or with one that is known. -/
def LogLevelKnown : Except ApiError String → Prop
  | .error err => err.notFound = true
  | .ok logLevel => logLevel = "" ∨ logLevel ∈ levels

theorem parseLevel_isOk (l : String) : (parseLevel l).isOk = true ↔ l ∈ levels := by
  unfold parseLevel levels
  split
  all_goals first
    | exact iff_of_true rfl (by decide)
    | skip
  simp_all [Except.isOk, Except.toBool]

theorem getLogLevel_isOk (config : Except ApiError String) (defaultLogLevel : LogLevel) :
    (getLogLevel config defaultLogLevel).isOk = true ↔ LogLevelKnown config := by
  cases config with
  | error err =>
    simp only [getLogLevel, LogLevelKnown]
    by_cases hnf : err.notFound = true
    · rw [if_pos hnf]
      exact iff_of_true rfl hnf
    · rw [if_neg hnf]
      exact iff_of_false (by rintro ⟨⟩) hnf
  | ok logLevel =>
    simp only [getLogLevel, LogLevelKnown]
    by_cases hempty : logLevel = ""
    · rw [if_pos hempty]
      exact iff_of_true rfl (Or.inl hempty)
    · rw [if_neg hempty, parseLevel_isOk]
      exact ⟨Or.inr, fun h => h.resolve_left hempty⟩

/-! ## A run -/

/-- The settings of the reconciler and of the FRR handler. -/
structure ReconcilerSettings where
  lib : SelectorLib
  alwaysBlockCIDRs : List Net.IPNet := []
  defaultLogLevel : LogLevel := .info
  fallbackRouterID : String := ""

/-- What the calls of a run return, in their order: the listed configurations, the log level of the
`FRRK8sConfiguration`, the labels of the node, the listed secrets and, in `ApplyConfig`, the name of the host. -/
structure Calls where
  configs : Except ApiError (List FRRConfiguration) := .ok []
  logLevel : Except ApiError String := .ok ""
  nodeLabels : Except ApiError Labels := .ok .empty
  secrets : Except ApiError (List Secret) := .ok []
  osHostname : Except String String := .ok ""

/-- The metrics of `stats.go`. -/
structure Metrics where
  updates : Nat := 0
  updateErrors : Nat := 0
  configLoaded : Bool := false
  configStale : Bool := false
deriving DecidableEq, Repr

/-- `updateErrors.Inc()`, `configStale.Set(1)`. -/
def Metrics.stale (m : Metrics) : Metrics := { m with updateErrors := m.updateErrors + 1, configStale := true }

def conversionSuccess : String := "success"

def failed (text : String) : String := "failed: " ++ text

/-- A run when its deferred function starts: the text to publish, the error it returns, the call of `ApplyConfig` it
made and what that returned. -/
structure Outcome where
  conversionResult : String := conversionSuccess
  err : Option String := none
  applied : Option (Config × Except String (ReloadEvent Config)) := none
  metrics : Metrics

def getSecrets (secrets : Except ApiError (List Secret)) : Except String (SortedMap String Secret) :=
  match secrets with
  | .error err => if err.notFound then .ok .empty else .error err.text
  | .ok items => .ok (SortedMap.insertAll Secret.name .empty items)

section

variable (env : ReconcilerSettings)

/-- The configuration with its log level, and `ApplyConfig` of it. -/
def handOver (calls : Calls) (logLevel : LogLevel) (config : Config) : Config × Except String (ReloadEvent Config) :=
  let config := { config with loglevel := levelFrom logLevel }
  (config, applyConfig calls.osHostname env.fallbackRouterID config)

/-- The end of a run that calls `ApplyConfig`; `done` are the metrics where it succeeds. -/
def applyOutcome (m done : Metrics) (call : Config × Except String (ReloadEvent Config)) : Outcome :=
  match call.2 with
  | .error err => { conversionResult := failed err, err := some err, applied := some call, metrics := m.stale }
  | .ok _ => { applied := some call, metrics := done }

/-- The run where nothing is listed, with `applyEmptyConfig`. -/
def reconcileEmpty (m : Metrics) (calls : Calls) (logLevel : LogLevel) : Outcome :=
  match apiToFRR ⟨[], .empty⟩ [] with
  -- the code panics here; no run does (`apiToFRR_empty`)
  | .error _ => { err := some "failed to translate empty config", metrics := m }
  | .ok config => applyOutcome m m (handOver env calls logLevel config)

/-- The run where something is listed. -/
def reconcileListed (m : Metrics) (calls : Calls) (configs : List FRRConfiguration) (logLevel : LogLevel) : Outcome :=
  match calls.nodeLabels with
  | .error err => { conversionResult := failed err.text, err := some err.text, metrics := m }
  | .ok labels =>
    match configsForNode env.lib configs labels with
    | .error err => { conversionResult := failed err, err := some err, metrics := m.stale }
    | .ok cfgs =>
      match getSecrets calls.secrets with
      | .error err => { conversionResult := failed err, err := some err, metrics := m }
      | .ok secrets =>
        match apiToFRR ⟨cfgs, secrets⟩ env.alwaysBlockCIDRs with
        | .error err => { conversionResult := failed err.text, metrics := m.stale }
        | .ok config =>
          applyOutcome m { m with configLoaded := true, configStale := false } (handOver env calls logLevel config)

/-- A run up to its deferred function. -/
def reconcileOutcome (m : Metrics) (calls : Calls) : Outcome :=
  let m := { m with updates := m.updates + 1 }
  match calls.configs with
  | .error err => { conversionResult := failed err.text, err := some err.text, metrics := m }
  | .ok configs =>
    match getLogLevel calls.logLevel env.defaultLogLevel with
    -- the one return that leaves the text as it is
    | .error err => { err := some err, metrics := m }
    | .ok logLevel =>
      if configs.isEmpty then reconcileEmpty env m calls logLevel else reconcileListed env m calls configs logLevel

end

/-- The reconciler between its runs: what it published, how often it called `ReloadStatus`, and the configuration the
handler was handed last. -/
structure Reconciler where
  conversionResult : String := ""
  reloadStatus : Nat := 0
  handed : Option Config := none
  metrics : Metrics := {}

/-- The configuration that the handler took in a run. -/
def Outcome.handed (o : Outcome) : Option Config := o.applied.bind (fun call => call.2.toOption.bind ReloadEvent.config)

/-- `Reconcile`, with its deferred function. -/
def reconcile (env : ReconcilerSettings) (s : Reconciler) (calls : Calls) : Reconciler :=
  let o := reconcileOutcome env s.metrics calls
  { conversionResult := o.conversionResult
    reloadStatus := if o.conversionResult ≠ s.conversionResult then s.reloadStatus + 1 else s.reloadStatus
    handed := o.handed.or s.handed
    metrics := o.metrics }

/-- One run after the other, each with its own outcome of its calls. -/
def reconciles (env : ReconcilerSettings) : System Reconciler Calls where
  init := {}
  step s calls := some (reconcile env s calls)

/-! ## What a run hands over -/

section

variable {env : ReconcilerSettings} {m : Metrics} {calls : Calls}

/-- The configurations for the node among those a run listed, and the secrets it found.  Where nothing is listed it
looks neither for the node nor for secrets. -/
def InputOf (env : ReconcilerSettings) (calls : Calls) (configs cfgs : List FRRConfiguration)
    (secrets : SortedMap String Secret) : Prop :=
  (configs = [] ∧ cfgs = [] ∧ secrets = .empty) ∨ (∃ labels, calls.nodeLabels = .ok labels ∧
    configsForNode env.lib configs labels = .ok cfgs ∧ getSecrets calls.secrets = .ok secrets)

/-- `c` is the translation of the configurations listed in the run, with the log level found in it. -/
def TranslationOf (env : ReconcilerSettings) (calls : Calls) (c : Config) : Prop :=
  ∃ configs logLevel cfgs secrets config, calls.configs = .ok configs ∧
    getLogLevel calls.logLevel env.defaultLogLevel = .ok logLevel ∧ InputOf env calls configs cfgs secrets ∧
    apiToFRR ⟨cfgs, secrets⟩ env.alwaysBlockCIDRs = .ok config ∧ c = { config with loglevel := levelFrom logLevel }

/-- `ApplyConfig` was called and returned no error. -/
def Outcome.Applied (o : Outcome) : Prop := ∃ c event, o.applied = some (c, .ok event)

/-- The text to publish says whether `ApplyConfig` was called and succeeded. -/
def Outcome.Honest (o : Outcome) : Prop := o.conversionResult = conversionSuccess ↔ o.Applied

theorem failed_ne_success (text : String) : failed text ≠ conversionSuccess := by
  intro h
  have hlist := congrArg String.toList h
  rw [failed, String.toList_append] at hlist
  exact absurd (congrArg List.head? hlist) (by simp [conversionSuccess])

theorem Outcome.not_applied {o : Outcome} (h : o.applied = none) : ¬ o.Applied := by
  rintro ⟨c, event, hc⟩
  rw [h] at hc
  cases hc

/-- A run that fails before `ApplyConfig` and reports it. -/
theorem Outcome.honest_of_failed {o : Outcome} {text : String} (htext : o.conversionResult = failed text)
    (hnone : o.applied = none) : o.Honest :=
  iff_of_false (htext ▸ failed_ne_success text) (Outcome.not_applied hnone)

/-- Nothing listed is translated to nothing. -/
theorem apiToFRR_empty (secrets : SortedMap String Secret) (alwaysBlock : List Net.IPNet) :
    apiToFRR ⟨[], secrets⟩ alwaysBlock = .ok {} := rfl

theorem applyOutcome_applied (m done : Metrics) (call : Config × Except String (ReloadEvent Config)) :
    (applyOutcome m done call).applied = some call := by
  unfold applyOutcome
  split <;> rfl

theorem applyOutcome_honest (m done : Metrics) (call : Config × Except String (ReloadEvent Config)) :
    (applyOutcome m done call).Honest := by
  obtain ⟨c, r⟩ := call
  cases r with
  | error err =>
    refine iff_of_false (failed_ne_success err) ?_
    rintro ⟨c', event, hc⟩
    cases Option.some.inj hc
  | ok event => exact iff_of_true rfl ⟨c, event, rfl⟩

theorem reconcileListed_honest (configs : List FRRConfiguration) (logLevel : LogLevel) :
    (reconcileListed env m calls configs logLevel).Honest := by
  unfold reconcileListed
  split
  · exact Outcome.honest_of_failed rfl rfl
  split
  · exact Outcome.honest_of_failed rfl rfl
  split
  · exact Outcome.honest_of_failed rfl rfl
  split
  · exact Outcome.honest_of_failed rfl rfl
  · exact applyOutcome_honest _ _ _

theorem reconcileListed_applied {configs : List FRRConfiguration} {logLevel : LogLevel} {c : Config}
    {r : Except String (ReloadEvent Config)}
    (h : (reconcileListed env m calls configs logLevel).applied = some (c, r)) :
    ∃ cfgs secrets config, InputOf env calls configs cfgs secrets ∧
      apiToFRR ⟨cfgs, secrets⟩ env.alwaysBlockCIDRs = .ok config ∧
      c = { config with loglevel := levelFrom logLevel } := by
  unfold reconcileListed at h
  split at h
  · cases h
  rename_i labels hlabels
  split at h
  · cases h
  rename_i cfgs hcfgs
  split at h
  · cases h
  rename_i secrets hsecrets
  split at h
  · cases h
  rename_i config hconfig
  rw [applyOutcome_applied] at h
  exact ⟨cfgs, secrets, config, Or.inr ⟨labels, hlabels, hcfgs, hsecrets⟩, hconfig,
    (congrArg Prod.fst (Option.some.inj h)).symm⟩

/-- Past the log level a run publishes what happened. -/
theorem reconcileOutcome_honest (hknown : calls.configs.isOk = true → LogLevelKnown calls.logLevel) :
    (reconcileOutcome env m calls).Honest := by
  unfold reconcileOutcome
  simp only
  split
  · exact Outcome.honest_of_failed rfl rfl
  rename_i configs hconfigs
  split
  · rename_i err herr
    have hok := (getLogLevel_isOk _ env.defaultLogLevel).2 (hknown (by rw [hconfigs]; rfl))
    rw [herr] at hok
    cases hok
  split
  · exact applyOutcome_honest _ _ _
  · exact reconcileListed_honest _ _

/-- `ApplyConfig` is called with nothing but the translation. -/
theorem reconcileOutcome_applied {c : Config} {r : Except String (ReloadEvent Config)}
    (h : (reconcileOutcome env m calls).applied = some (c, r)) : TranslationOf env calls c := by
  unfold reconcileOutcome at h
  simp only at h
  split at h
  · cases h
  rename_i configs hconfigs
  split at h
  · cases h
  rename_i logLevel hlevel
  split at h
  · rename_i hempty
    rw [reconcileEmpty, apiToFRR_empty] at h
    simp only [applyOutcome_applied] at h
    exact ⟨configs, logLevel, [], .empty, {}, hconfigs, hlevel, Or.inl ⟨List.isEmpty_iff.1 hempty, rfl, rfl⟩,
      apiToFRR_empty _ _, (congrArg Prod.fst (Option.some.inj h)).symm⟩
  · obtain ⟨cfgs, secrets, config, hin, hconfig, hc⟩ := reconcileListed_applied h
    exact ⟨configs, logLevel, cfgs, secrets, config, hconfigs, hlevel, hin, hconfig, hc⟩

/-- Without a log level a run reports success and does nothing. -/
theorem reconcileOutcome_unknown (hok : calls.configs.isOk = true) (hunknown : ¬ LogLevelKnown calls.logLevel) :
    (reconcileOutcome env m calls).conversionResult = conversionSuccess ∧
    (reconcileOutcome env m calls).applied = none := by
  obtain ⟨configs, hconfigs⟩ := (isOk_iff _).1 hok
  unfold reconcileOutcome
  rw [hconfigs]
  simp only
  split
  · exact ⟨rfl, rfl⟩
  · rename_i logLevel hlevel
    exact (hunknown ((getLogLevel_isOk _ env.defaultLogLevel).1 (by rw [hlevel]; rfl))).elim

/-! ## What is published -/

/-- The run called `ApplyConfig` with the translation of what it listed, and that returned no error. -/
def HandedOver (env : ReconcilerSettings) (s : Reconciler) (calls : Calls) : Prop :=
  ∃ c event, (reconcileOutcome env s.metrics calls).applied = some (c, .ok event) ∧ TranslationOf env calls c

/-- **What a run publishes is what it did**, and a run that hands nothing over leaves the handler alone. -/
structure Truthful (env : ReconcilerSettings) (s : Reconciler) (calls : Calls) (s' : Reconciler) : Prop where
  result : s'.conversionResult = conversionSuccess ↔ HandedOver env s calls
  handed : ¬ HandedOver env s calls → s'.handed = s.handed

theorem handedOver_iff (env : ReconcilerSettings) (s : Reconciler) (calls : Calls) :
    HandedOver env s calls ↔ (reconcileOutcome env s.metrics calls).Applied := by
  constructor
  · rintro ⟨c, event, happlied, -⟩
    exact ⟨c, event, happlied⟩
  · rintro ⟨c, event, happlied⟩
    exact ⟨c, event, happlied, reconcileOutcome_applied happlied⟩

theorem Outcome.handed_eq_none {o : Outcome} (h : ¬ o.Applied) : o.handed = none := by
  unfold Outcome.handed
  cases happlied : o.applied with
  | none => rfl
  | some call =>
    obtain ⟨c, r⟩ := call
    cases r with
    | error err => rfl
    | ok event => exact (h ⟨c, event, happlied⟩).elim

theorem reconcile_handed {s : Reconciler} (h : ¬ HandedOver env s calls) :
    (reconcile env s calls).handed = s.handed := by
  have hnone := Outcome.handed_eq_none (fun happlied => h ((handedOver_iff env s calls).2 happlied))
  simp only [reconcile, hnone, Option.none_or]

end

/-- **After every run what is published is true exactly when the list failed or the log level was known.** -/
theorem reconcile_truthful_iff (env : ReconcilerSettings) (past : List (Reconciler × Calls)) (s : Reconciler)
    (calls : Calls) (s' : Reconciler) (h : Run (reconciles env) ((s, calls) :: past) s') :
    Truthful env s calls s' ↔ (calls.configs.isOk = true → LogLevelKnown calls.logLevel) := by
  cases h with
  | next hrun hstep =>
    obtain rfl := Option.some.inj hstep
    constructor
    · intro htrue hok
      by_contra hunknown
      obtain ⟨hresult, hnone⟩ := reconcileOutcome_unknown (m := s.metrics) hok hunknown
      exact Outcome.not_applied hnone ((handedOver_iff env s calls).1 (htrue.result.1 hresult))
    · intro hknown
      exact ⟨(reconcileOutcome_honest hknown).trans (handedOver_iff env s calls).symm, reconcile_handed⟩

/-- The reconciler of a node whose handler has no fallback router ID. -/
def plainSettings : ReconcilerSettings := { lib := labelSelectors 300 }

/-- A run that lists the configurations, on a node without labels, with this log level. -/
def listedCalls (configs : List FRRConfiguration) (logLevel : Except ApiError String) : Calls :=
  { configs := .ok configs, logLevel := logLevel, osHostname := .ok "node" }

theorem reconcile_truthful_iff_listed :
    let s := reconcile plainSettings {} (listedCalls [firstPart] (.ok "debug"))
    let calls : Calls := { configs := .error ⟨"timeout", false⟩ }
    s.conversionResult = "success" ∧ (reconcile plainSettings s calls).conversionResult = "failed: timeout" ∧
      Truthful plainSettings s calls (reconcile plainSettings s calls) :=
  ⟨by decide +kernel, by decide +kernel,
    (reconcile_truthful_iff plainSettings _ _ _ _ (.next (.next .start rfl) rfl)).2 (fun h => absurd h (by decide))⟩

/-- A configuration that is not translated, and then a run whose lookup of the log level times out: it publishes
success. -/
theorem reconcile_reports_success :
    let invalid : FRRConfiguration := { routers := [{ asn := 64512, prefixes := ["192.0.2.0"] }] }
    let first := listedCalls [invalid] (.ok "")
    let calls := listedCalls [invalid] (.error ⟨"timeout", false⟩)
    let s := reconcile plainSettings {} first
    Run (reconciles plainSettings) [(s, calls), ({}, first)] (reconcile plainSettings s calls) ∧
      s.conversionResult ≠ "success" ∧ (reconcile plainSettings s calls).conversionResult = "success" ∧
      (reconcileOutcome plainSettings s.metrics calls).applied.isNone = true ∧
      (reconcile plainSettings s calls).handed.isNone = true :=
  ⟨.next (.next .start rfl) rfl, by decide +kernel⟩

end FrrK8s
