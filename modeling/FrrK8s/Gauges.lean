import FrrK8s.Reconcile
/-!
# Gauges — what the metrics say of the runs so far (`config_loaded`, `config_stale`)

A run that fails to read the selectors, to convert or to apply sets the stale gauge; one that applies what it lists
clears it and sets the loaded gauge.  A run that lists nothing applies the empty configuration and leaves both gauges as
they are: after it they are right exactly where the runs before loaded something and none has failed since
(`reconcile_gauged_iff`).
-/
namespace FrrK8s

/-! ## What a run does -/

section

variable (env : ReconcilerSettings) (calls : Calls)

/-- The run reads the selectors of what it lists, and one is not valid. -/
def ParsingFails : Prop :=
  ∃ configs logLevel labels err, calls.configs = .ok configs ∧
    getLogLevel calls.logLevel env.defaultLogLevel = .ok logLevel ∧ calls.nodeLabels = .ok labels ∧
    configsForNode env.lib configs labels = .error err

/-- The run gets to convert these configurations, with these secrets. -/
def Converts (cfgs : List FRRConfiguration) (secrets : SortedMap String Secret) : Prop :=
  ∃ configs logLevel, calls.configs = .ok configs ∧
    getLogLevel calls.logLevel env.defaultLogLevel = .ok logLevel ∧ InputOf env calls configs cfgs secrets

/-- The run converts what is listed for the node, and that fails. -/
def ConversionFails : Prop :=
  ∃ configs logLevel cfgs secrets err, calls.configs = .ok configs ∧
    getLogLevel calls.logLevel env.defaultLogLevel = .ok logLevel ∧ InputOf env calls configs cfgs secrets ∧
    apiToFRR ⟨cfgs, secrets⟩ env.alwaysBlockCIDRs = .error err

/-- The run calls `ApplyConfig` with the translation of what it lists, and that returns `r`. -/
def Applies (r : Except String (ReloadEvent Config)) : Prop :=
  ∃ c, TranslationOf env calls c ∧ applyConfig calls.osHostname env.fallbackRouterID c = r

/-- One of the three fails. -/
def Fails : Prop := ParsingFails env calls ∨ ConversionFails env calls ∨ ∃ err, Applies env calls (.error err)

/-- The run lists something and applies it. -/
def Loads : Prop := calls.configs ≠ .ok [] ∧ ∃ event, Applies env calls (.ok event)

/-- The run lists nothing and applies the empty configuration. -/
def Empties : Prop :=
  calls.configs = .ok [] ∧ LogLevelKnown calls.logLevel ∧ calls.osHostname.isOk = true

end

/-- What a run did, from what its calls returned, and the gauges it leaves. -/
structure Gauging (env : ReconcilerSettings) (m : Metrics) (calls : Calls) (o : Outcome) : Prop where
  applied : ∀ r, (∃ c, o.applied = some (c, r)) ↔ Applies env calls r
  fresh : o.Applied → ¬ Fails env calls
  loaded : o.metrics.configLoaded = true ↔ Loads env calls ∨ m.configLoaded = true
  stale : o.metrics.configStale = true ↔ Fails env calls ∨ (¬ Loads env calls ∧ m.configStale = true)

section

variable {env : ReconcilerSettings} {m : Metrics} {calls : Calls} {configs : List FRRConfiguration}
  {logLevel : LogLevel}

theorem conversionFails_iff : ConversionFails env calls ↔
    ∃ cfgs secrets err, Converts env calls cfgs secrets ∧
    apiToFRR ⟨cfgs, secrets⟩ env.alwaysBlockCIDRs = .error err := by
  constructor
  · rintro ⟨configs, logLevel, cfgs, secrets, err, hconfigs, hlevel, hin, herr⟩
    exact ⟨cfgs, secrets, err, ⟨configs, logLevel, hconfigs, hlevel, hin⟩, herr⟩
  · rintro ⟨cfgs, secrets, err, ⟨configs, logLevel, hconfigs, hlevel, hin⟩, herr⟩
    exact ⟨configs, logLevel, cfgs, secrets, err, hconfigs, hlevel, hin, herr⟩

/-- What is applied was converted. -/
theorem not_applies (h : ∀ cfgs secrets config, Converts env calls cfgs secrets →
    apiToFRR ⟨cfgs, secrets⟩ env.alwaysBlockCIDRs ≠ .ok config) (r : Except String (ReloadEvent Config)) :
    ¬ Applies env calls r := by
  rintro ⟨c, ⟨configs, logLevel, cfgs, secrets, config, hconfigs, hlevel, hin, hconfig, -⟩, -⟩
  exact h cfgs secrets config ⟨configs, logLevel, hconfigs, hlevel, hin⟩ hconfig

section

variable {config : Config} (honly : ∀ cfgs secrets, Converts env calls cfgs secrets →
  apiToFRR ⟨cfgs, secrets⟩ env.alwaysBlockCIDRs = .ok config)
include honly

theorem not_conversionFails : ¬ ConversionFails env calls := by
  intro h
  obtain ⟨cfgs, secrets, err, hconverts, herr⟩ := conversionFails_iff.1 h
  cases (honly cfgs secrets hconverts).symm.trans herr

/-- What a conversion gives is applied, with the log level found. -/
theorem applies_iff {cfgs : List FRRConfiguration} {secrets : SortedMap String Secret}
    (hlevel : getLogLevel calls.logLevel env.defaultLogLevel = .ok logLevel)
    (hconverts : Converts env calls cfgs secrets) (r : Except String (ReloadEvent Config)) : Applies env calls r ↔
      applyConfig calls.osHostname env.fallbackRouterID { config with loglevel := levelFrom logLevel } = r := by
  constructor
  · rintro ⟨c, ⟨configs, level, cfgs', secrets', config', hconfigs, hlevel', hin, hconfig, rfl⟩, happly⟩
    cases (honly cfgs' secrets' ⟨configs, level, hconfigs, hlevel', hin⟩).symm.trans hconfig
    cases hlevel.symm.trans hlevel'
    exact happly
  · intro happly
    obtain ⟨configs, level, hconfigs, -, hin⟩ := hconverts
    have hconfig := honly cfgs secrets ⟨configs, logLevel, hconfigs, hlevel, hin⟩
    exact ⟨_, ⟨configs, logLevel, cfgs, secrets, config, hconfigs, hlevel, hin, hconfig, rfl⟩, happly⟩

end

theorem converts_empty (hconfigs : calls.configs = .ok []) {cfgs : List FRRConfiguration}
    {secrets : SortedMap String Secret} (h : Converts env calls cfgs secrets) : cfgs = [] := by
  obtain ⟨configs, -, hlist, -, hin⟩ := h
  cases hconfigs.symm.trans hlist
  rcases hin with ⟨-, hnil, -⟩ | ⟨labels, -, hnode, -⟩
  · exact hnil
  · exact (Except.ok.inj hnode).symm

theorem converts_listed (hconfigs : calls.configs = .ok configs) (hne : configs ≠ [])
    (hlevel : getLogLevel calls.logLevel env.defaultLogLevel = .ok logLevel) (cfgs : List FRRConfiguration)
    (secrets : SortedMap String Secret) : Converts env calls cfgs secrets ↔ ∃ labels, calls.nodeLabels = .ok labels ∧
      configsForNode env.lib configs labels = .ok cfgs ∧ getSecrets calls.secrets = .ok secrets := by
  simp [Converts, InputOf, hconfigs, hlevel, hne]

/-- A run that ends before the conversion for another reason than a selector leaves the gauges alone. -/
theorem Gauging.early {o : Outcome} (hnone : o.applied = none) (hparsing : ¬ ParsingFails env calls)
    (hconverts : ∀ cfgs secrets, ¬ Converts env calls cfgs secrets) (hloaded : o.metrics.configLoaded = m.configLoaded)
    (hstale : o.metrics.configStale = m.configStale) : Gauging env m calls o := by
  have happlies := not_applies (fun cfgs secrets config hc => (hconverts cfgs secrets hc).elim)
  have hloads : ¬ Loads env calls := fun ⟨_, event, h⟩ => happlies _ h
  have hfails : ¬ Fails env calls := by
    rintro (h | h | ⟨err, h⟩)
    · exact hparsing h
    · obtain ⟨cfgs, secrets, -, hc, -⟩ := conversionFails_iff.1 h
      exact hconverts cfgs secrets hc
    · exact happlies _ h
  refine ⟨fun r => ?_, fun h => (Outcome.not_applied hnone h).elim, ?_, ?_⟩
  · rw [hnone]
    exact iff_of_false (by rintro ⟨c, ⟨⟩⟩) (happlies r)
  · rw [hloaded, or_iff_right hloads]
  · rw [hstale, or_iff_right hfails, and_iff_right hloads]

/-- The count of runs is no gauge. -/
theorem Gauging.of_updates {o : Outcome} {updates : Nat} (h : Gauging env { m with updates := updates } calls o) :
    Gauging env m calls o :=
  ⟨h.applied, h.fresh, h.loaded, h.stale⟩

/-- A run that fails before it applies anything sets the stale gauge. -/
theorem Gauging.failed {o : Outcome} (hnone : o.applied = none) (hfails : Fails env calls)
    (hconverts : ∀ cfgs secrets config, Converts env calls cfgs secrets →
      apiToFRR ⟨cfgs, secrets⟩ env.alwaysBlockCIDRs ≠ .ok config) (hmetrics : o.metrics = m.stale) :
    Gauging env m calls o := by
  have happlies := not_applies hconverts
  have hloads : ¬ Loads env calls := fun ⟨_, event, h⟩ => happlies _ h
  refine ⟨fun r => ?_, fun h => (Outcome.not_applied hnone h).elim, ?_, ?_⟩
  · rw [hnone]
    exact iff_of_false (by rintro ⟨c, ⟨⟩⟩) (happlies r)
  · rw [hmetrics, or_iff_right hloads]
    rfl
  · rw [hmetrics]
    exact iff_of_true rfl (Or.inl hfails)

/-- A run that calls `ApplyConfig` sets the gauges by what it returns, where the run lists something. -/
theorem applyOutcome_gauging {done : Metrics} {call : Config × Except String (ReloadEvent Config)}
    (hparsing : ¬ ParsingFails env calls) (hconversion : ¬ ConversionFails env calls)
    (happlies : ∀ r, Applies env calls r ↔ call.2 = r) (hempty : calls.configs = .ok [] → done = m)
    (hlisted : calls.configs ≠ .ok [] → done = { m with configLoaded := true, configStale := false }) :
    Gauging env m calls (applyOutcome m done call) := by
  have happlied : ∀ r, (∃ c, (applyOutcome m done call).applied = some (c, r)) ↔ Applies env calls r := by
    intro r
    rw [happlies, applyOutcome_applied]
    constructor
    · rintro ⟨c, hc⟩
      rw [Option.some.inj hc]
    · rintro rfl
      exact ⟨call.1, rfl⟩
  obtain ⟨c, r⟩ := call
  cases r with
  | error err =>
    have hfails : Fails env calls := Or.inr (Or.inr ⟨err, (happlies _).2 rfl⟩)
    have hloads : ¬ Loads env calls := by
      rintro ⟨-, event, h⟩
      cases (happlies _).1 h
    refine ⟨happlied, ?_, ?_, iff_of_true rfl (Or.inl hfails)⟩
    · rintro ⟨c', event, h⟩
      cases h
    · rw [or_iff_right hloads]
      rfl
  | ok event =>
    have hfails : ¬ Fails env calls := by
      rintro (h | h | ⟨err, h⟩)
      · exact hparsing h
      · exact hconversion h
      · cases (happlies _).1 h
    refine ⟨happlied, fun _ => hfails, ?_, ?_⟩
    all_goals
      rw [show (applyOutcome m done (c, .ok event)).metrics = done from rfl]
      by_cases hnil : calls.configs = .ok []
      · have hloads : ¬ Loads env calls := fun h => h.1 hnil
        simp only [hempty hnil, hloads, hfails, false_or, not_false_eq_true, true_and]
      · have hloads : Loads env calls := ⟨hnil, event, (happlies _).2 rfl⟩
        simp [hlisted hnil, hloads, hfails]

/-- The run where nothing is listed. -/
theorem reconcileEmpty_gauging (hconfigs : calls.configs = .ok [])
    (hlevel : getLogLevel calls.logLevel env.defaultLogLevel = .ok logLevel) :
    Gauging env m calls (reconcileEmpty env m calls logLevel) := by
  rw [reconcileEmpty, apiToFRR_empty]
  have honly : ∀ cfgs secrets, Converts env calls cfgs secrets →
      apiToFRR ⟨cfgs, secrets⟩ env.alwaysBlockCIDRs = .ok {} := by
    intro cfgs secrets hconverts
    rw [converts_empty hconfigs hconverts, apiToFRR_empty]
  have hconverts : Converts env calls [] .empty := ⟨[], logLevel, hconfigs, hlevel, Or.inl ⟨rfl, rfl, rfl⟩⟩
  refine applyOutcome_gauging ?_ (not_conversionFails honly) (applies_iff honly hlevel hconverts) (fun _ => rfl)
    (fun hne => (hne hconfigs).elim)
  rintro ⟨configs, -, labels, err, hlist, -, -, hnode⟩
  cases hconfigs.symm.trans hlist
  cases hnode

/-- The run where something is listed. -/
theorem reconcileListed_gauging (hconfigs : calls.configs = .ok configs) (hne : configs ≠ [])
    (hlevel : getLogLevel calls.logLevel env.defaultLogLevel = .ok logLevel) :
    Gauging env m calls (reconcileListed env m calls configs logLevel) := by
  have hconverts := converts_listed hconfigs hne hlevel
  unfold reconcileListed
  split
  · rename_i err hlabels
    refine Gauging.early rfl ?_ (fun cfgs secrets => ?_) rfl rfl
    · simp [ParsingFails, hlabels]
    · simp [hconverts, hlabels]
  rename_i labels hlabels
  split
  · rename_i err hnode
    refine Gauging.failed rfl (Or.inl ⟨configs, logLevel, labels, err, hconfigs, hlevel, hlabels, hnode⟩)
      (fun cfgs secrets config => ?_) rfl
    simp [hconverts, hlabels, hnode]
  rename_i cfgs hnode
  have hparsing : ¬ ParsingFails env calls := by simp [ParsingFails, hconfigs, hlevel, hlabels, hnode]
  split
  · rename_i err hsecrets
    refine Gauging.early rfl hparsing (fun cfgs secrets => ?_) rfl rfl
    simp [hconverts, hsecrets]
  rename_i secrets hsecrets
  -- what is converted is what was just found
  have honly : ∀ cfgs' secrets', Converts env calls cfgs' secrets' ↔ cfgs = cfgs' ∧ secrets = secrets' := by
    simp [hconverts, hlabels, hnode, hsecrets]
  split
  · rename_i err hconversion
    have hfails : ConversionFails env calls :=
      conversionFails_iff.2 ⟨cfgs, secrets, err, (honly _ _).2 ⟨rfl, rfl⟩, hconversion⟩
    refine Gauging.failed rfl (Or.inr (Or.inl hfails)) ?_ rfl
    intro cfgs' secrets' config hc
    obtain ⟨rfl, rfl⟩ := (honly _ _).1 hc
    simp [hconversion]
  rename_i config hconversion
  have hlisted : calls.configs ≠ .ok [] := by
    rw [hconfigs]
    exact fun h => hne (Except.ok.inj h)
  have hgives : ∀ cfgs' secrets', Converts env calls cfgs' secrets' →
      apiToFRR ⟨cfgs', secrets'⟩ env.alwaysBlockCIDRs = .ok config := by
    intro cfgs' secrets' hc
    obtain ⟨rfl, rfl⟩ := (honly _ _).1 hc
    exact hconversion
  exact applyOutcome_gauging hparsing (not_conversionFails hgives)
    (applies_iff hgives hlevel ((honly _ _).2 ⟨rfl, rfl⟩)) (fun h => (hlisted h).elim) (fun _ => rfl)

/-- **A run leaves the gauges that what it did calls for, but for one that applies the empty configuration.** -/
theorem reconcileOutcome_gauging (env : ReconcilerSettings) (m : Metrics) (calls : Calls) :
    Gauging env m calls (reconcileOutcome env m calls) := by
  unfold reconcileOutcome
  simp only
  split
  · rename_i err hconfigs
    refine Gauging.early rfl ?_ (fun cfgs secrets => ?_) rfl rfl
    · simp [ParsingFails, hconfigs]
    · simp [Converts, hconfigs]
  rename_i configs hconfigs
  split
  · rename_i err hlevel
    refine Gauging.early rfl ?_ (fun cfgs secrets => ?_) rfl rfl
    · simp [ParsingFails, hlevel]
    · simp [Converts, hlevel]
  rename_i logLevel hlevel
  split
  · rename_i hempty
    obtain rfl := List.isEmpty_iff.1 hempty
    exact (reconcileEmpty_gauging hconfigs hlevel).of_updates
  · rename_i hempty
    have hne : configs ≠ [] := fun hnil => hempty (List.isEmpty_iff.2 hnil)
    exact (reconcileListed_gauging hconfigs hne hlevel).of_updates

/-- A run that lists nothing applies the empty configuration where the log level and the name of the host are known. -/
theorem empties_iff (env : ReconcilerSettings) (calls : Calls) :
    Empties calls ↔ calls.configs = .ok [] ∧ ∃ event, Applies env calls (.ok event) := by
  refine and_congr_right fun hconfigs => ?_
  have happly : ∀ c : Config, (applyConfig calls.osHostname env.fallbackRouterID c).isOk = true ↔
      calls.osHostname.isOk = true := by
    intro c
    cases calls.osHostname <;> exact Iff.rfl
  rw [← getLogLevel_isOk _ env.defaultLogLevel]
  constructor
  · rintro ⟨hlevel, hhost⟩
    obtain ⟨logLevel, hlevel⟩ := (isOk_iff _).1 hlevel
    obtain ⟨event, hevent⟩ := (isOk_iff _).1 ((happly { loglevel := levelFrom logLevel }).2 hhost)
    exact ⟨event, _, ⟨[], logLevel, [], .empty, {}, hconfigs, hlevel, Or.inl ⟨rfl, rfl, rfl⟩, rfl, rfl⟩, hevent⟩
  · rintro ⟨event, c, ⟨configs, logLevel, cfgs, secrets, config, -, hlevel, -⟩, hevent⟩
    refine ⟨by rw [hlevel]; rfl, (happly c).1 ?_⟩
    rw [hevent]
    rfl

end

/-! ## What the gauges say -/

/-- **The gauges are right after a run**: one that applied a configuration leaves them fresh, one that failed stale. -/
structure Gauged (env : ReconcilerSettings) (s : Reconciler) (calls : Calls) (s' : Reconciler) : Prop where
  applied : HandedOver env s calls → s'.metrics.configStale = false ∧ s'.metrics.configLoaded = true
  failed : ParsingFails env calls ∨ ConversionFails env calls ∨
    (∃ c err, (reconcileOutcome env s.metrics calls).applied = some (c, .error err)) → s'.metrics.configStale = true

/-- Of the runs so far one loaded what it listed, and none has failed since. -/
def UpToDate (env : ReconcilerSettings) (past : List (Reconciler × Calls)) : Prop :=
  ∃ late x early, past = late ++ x :: early ∧ Loads env x.2 ∧ ∀ y ∈ late, ¬ Fails env y.2

section

variable {env : ReconcilerSettings} {past : List (Reconciler × Calls)} {s : Reconciler} {calls : Calls}

theorem upToDate_cons :
    UpToDate env ((s, calls) :: past) ↔ Loads env calls ∨ (¬ Fails env calls ∧ UpToDate env past) := by
  constructor
  · rintro ⟨late, x, early, hpast, hloads, hlate⟩
    cases late with
    | nil =>
      cases hpast
      exact Or.inl hloads
    | cons y late =>
      cases hpast
      rw [List.forall_mem_cons] at hlate
      exact Or.inr ⟨hlate.1, late, x, early, rfl, hloads, hlate.2⟩
  · rintro (hloads | ⟨hfails, late, x, early, rfl, hloads, hlate⟩)
    · exact ⟨[], _, past, rfl, hloads, by simp⟩
    · exact ⟨(s, calls) :: late, x, early, rfl, hloads, List.forall_mem_cons.2 ⟨hfails, hlate⟩⟩

/-- One run: the gauges are fresh after it if it loads, or if they were fresh and it does not fail. -/
theorem reconcile_fresh_iff (env : ReconcilerSettings) (s : Reconciler) (calls : Calls) :
    ((reconcile env s calls).metrics.configStale = false ∧ (reconcile env s calls).metrics.configLoaded = true) ↔
      Loads env calls ∨ (¬ Fails env calls ∧ s.metrics.configStale = false ∧ s.metrics.configLoaded = true) := by
  have hgauging := reconcileOutcome_gauging env s.metrics calls
  have hfresh : Loads env calls → ¬ Fails env calls := by
    rintro ⟨-, event, happlies⟩
    obtain ⟨c, hc⟩ := (hgauging.applied _).2 happlies
    exact hgauging.fresh ⟨c, event, hc⟩
  rw [← Bool.not_eq_true, ← Bool.not_eq_true]
  simp only [reconcile, hgauging.loaded, hgauging.stale]
  tauto

/-- **The gauges are fresh exactly when the runs so far loaded something and none has failed since.** -/
theorem Run.fresh_iff (h : Run (reconciles env) past s) :
    (s.metrics.configStale = false ∧ s.metrics.configLoaded = true) ↔ UpToDate env past := by
  -- a run keeps the equivalence, whatever it does
  refine Run.invariant (G := fun _ _ => True)
    (P := fun past s => (s.metrics.configStale = false ∧ s.metrics.configLoaded = true) ↔ UpToDate env past) ?_ ?_ h
    (fun _ _ => trivial)
  · refine iff_of_false ?_ ?_
    · rintro ⟨-, hloaded⟩
      cases hloaded
    · rintro ⟨late, x, early, hpast, -⟩
      exact absurd hpast (by simp)
  · intro past s calls s' _ ih _ hstep
    obtain rfl := Option.some.inj hstep
    rw [reconcile_fresh_iff, upToDate_cons, ih]

end

/-- **After every run the gauges are right exactly when a run that applies the empty configuration finds them up to
date.** -/
theorem reconcile_gauged_iff (env : ReconcilerSettings) (past : List (Reconciler × Calls)) (s : Reconciler)
    (calls : Calls) (s' : Reconciler) (h : Run (reconciles env) ((s, calls) :: past) s') :
    Gauged env s calls s' ↔ (Empties calls → UpToDate env past) := by
  cases h with
  | next hrun hstep =>
    obtain rfl := Option.some.inj hstep
    have hgauging := reconcileOutcome_gauging env s.metrics calls
    have hhanded : HandedOver env s calls ↔ ∃ event, Applies env calls (.ok event) := by
      rw [handedOver_iff]
      constructor
      · rintro ⟨c, event, hc⟩
        exact ⟨event, (hgauging.applied _).1 ⟨c, hc⟩⟩
      · rintro ⟨event, happlies⟩
        obtain ⟨c, hc⟩ := (hgauging.applied _).2 happlies
        exact ⟨c, event, hc⟩
    rw [← Run.fresh_iff hrun, empties_iff env calls]
    constructor
    · rintro hgauged ⟨hnil, happlies⟩
      have hfresh := (reconcile_fresh_iff env s calls).1 (hgauged.applied (hhanded.2 happlies))
      exact (hfresh.resolve_left (fun hloads => hloads.1 hnil)).2
    · intro hempties
      refine ⟨fun hhand => (reconcile_fresh_iff env s calls).2 ?_, fun hfails => hgauging.stale.2 (Or.inl ?_)⟩
      · by_cases hnil : calls.configs = .ok []
        · exact Or.inr ⟨hgauging.fresh ((handedOver_iff env s calls).1 hhand), hempties ⟨hnil, hhanded.1 hhand⟩⟩
        · exact Or.inl ⟨hnil, hhanded.1 hhand⟩
      · refine hfails.imp_right (Or.imp_right ?_)
        rintro ⟨c, err, hc⟩
        exact ⟨err, (hgauging.applied _).1 ⟨c, hc⟩⟩

theorem reconcile_gauged_iff_emptied :
    let first := listedCalls [firstPart] (.ok "")
    let calls := listedCalls [] (.ok "")
    let s := reconcile plainSettings {} first
    Empties calls ∧ Gauged plainSettings s calls (reconcile plainSettings s calls) := by
  intro first calls s
  have hrun : Run (reconciles plainSettings) [({}, first)] s := .next .start rfl
  have hfresh : s.metrics.configStale = false ∧ s.metrics.configLoaded = true := by decide +kernel
  refine ⟨⟨rfl, Or.inl rfl, rfl⟩, (reconcile_gauged_iff plainSettings _ _ _ _ (.next hrun rfl)).2 (fun _ => ?_)⟩
  exact (Run.fresh_iff hrun).1 hfresh

/-- A configuration that is not translated, and then none: the empty configuration is applied, and the gauge stays. -/
theorem stale_emptied :
    let invalid : FRRConfiguration := { routers := [{ asn := 64512, prefixes := ["192.0.2.0"] }] }
    let first := listedCalls [invalid] (.ok "")
    let calls := listedCalls [] (.ok "")
    let s := reconcile plainSettings {} first
    Run (reconciles plainSettings) [(s, calls), ({}, first)] (reconcile plainSettings s calls) ∧
      HandedOver plainSettings s calls ∧
      (reconcile plainSettings s calls).metrics = ⟨2, 1, false, true⟩ ∧
      ¬ Gauged plainSettings s calls (reconcile plainSettings s calls) := by
  intro invalid first calls s
  have happlied : HandedOver plainSettings s calls := (handedOver_iff _ _ _).2 ⟨_, _, rfl⟩
  have hmetrics : (reconcile plainSettings s calls).metrics = ⟨2, 1, false, true⟩ := by decide +kernel
  refine ⟨.next (.next .start rfl) rfl, happlied, hmetrics, fun hgauged => ?_⟩
  have hstale := (hgauged.applied happlied).1
  rw [hmetrics] at hstale
  cases hstale

end FrrK8s
