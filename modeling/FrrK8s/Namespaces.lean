import FrrK8s.Admission
/-!
# Namespaces — admission and the configurations of other namespaces

The daemon caches and applies the configurations of its own namespace only (`cmd/frr-k8s-controller`), while the webhook
reads those of every namespace (`getFRRConfigurations`, over the API reader of `cmd/statuscleaner`).  What others store
decides, with what the namespace has, whether a configuration of the namespace is accepted: always, unless it selects no
node, or one where its own namespace is refused together with any others (`admission_undisturbed`).
-/
namespace FrrK8s

section

variable (lib : SelectorLib)

/-- The configurations of a namespace. -/
def ofNamespace (ns : String) (stored : List FRRConfiguration) : List FRRConfiguration :=
  stored.filter (fun cfg => cfg.ns = ns)

/-- The webhook accepts the configuration where these are stored, in all namespaces. -/
def admits (cache : lib.Cache) (nodes : List Node) (stored : List FRRConfiguration) (config : FRRConfiguration) :
    Bool :=
  (validateConfig lib cache (.ok nodes) (.ok stored) config).1.isOk

/-- The nodes that a configuration is validated for. -/
def matchingNodes (cache : lib.Cache) (nodes : List Node) (config : FRRConfiguration) : List Node :=
  match (getCachedSelector lib cache config.nodeSelector).1 with
  | .error _ => []
  | .ok selector => nodes.filter (fun n => selector n.labels)

end

/-! ## What a node is validated with -/

section

variable {lib : SelectorLib} {stored items : List FRRConfiguration} {config : FRRConfiguration} {nodeLabels : Labels}

theorem validSelector_of_selects {cfg : FRRConfiguration} (h : cfg.selects lib nodeLabels = true) :
    cfg.ValidSelector lib := by
  unfold FRRConfiguration.selects at h
  unfold FRRConfiguration.ValidSelector
  cases hs : lib.labelSelectorAsSelector cfg.nodeSelector with
  | error err =>
    rw [hs] at h
    cases h
  | ok m => exact ⟨m, rfl⟩

theorem subset_collect (st : Collected lib) (cfg : FRRConfiguration) :
    ∀ c ∈ st.items, c ∈ (collect lib config nodeLabels st cfg).items := by
  intro c hc
  unfold collect
  split
  · exact hc
  · split
    · exact hc
    · split
      · exact List.mem_append_left _ hc
      · exact hc

/-- Nothing that was collected is lost, and what has another name and selects the node is collected. -/
theorem mem_foldl_collect : ∀ (stored : List FRRConfiguration) (st : Collected lib), CacheSound lib st.cache →
    (∀ c ∈ st.items, c ∈ (stored.foldl (collect lib config nodeLabels) st).items) ∧
      ∀ cfg ∈ stored, cfg.name ≠ config.name → cfg.selects lib nodeLabels = true →
        cfg ∈ (stored.foldl (collect lib config nodeLabels) st).items
  | [], _, _ => ⟨fun _ hc => hc, fun _ hcfg => (List.not_mem_nil hcfg).elim⟩
  | x :: stored, st, h => by
    obtain ⟨hkept, hnew⟩ := mem_foldl_collect stored (collect lib config nodeLabels st x) (collect_sound h x)
    refine ⟨fun c hc => hkept c (subset_collect st x c hc), fun cfg hcfg hname hsel => ?_⟩
    obtain rfl | hcfg := List.mem_cons.1 hcfg
    · apply hkept
      rw [collect_items h (validSelector_of_selects hsel)]
      simp [hname, hsel]
    · exact hnew cfg hcfg hname hsel

/-- What the loop over the stored configurations collects for a node, from some state of the cache. -/
def Collects (lib : SelectorLib) (stored : List FRRConfiguration) (config : FRRConfiguration) (nodeLabels : Labels)
    (items : List FRRConfiguration) : Prop :=
  ∃ st : Collected lib, CacheSound lib st.cache ∧ st.items = [] ∧
    items = (stored.foldl (collect lib config nodeLabels) st).items

theorem Collects.eq_filter (h : Collects lib stored config nodeLabels items)
    (hvalid : ∀ cfg ∈ stored, cfg.ValidSelector lib) :
    items ++ [config] = validatedWith lib stored config nodeLabels := by
  obtain ⟨st, hsound, hnil, rfl⟩ := h
  rw [(foldl_collect config nodeLabels stored st hsound).2 hvalid, hnil, List.nil_append, validatedWith]

theorem Collects.mem (h : Collects lib stored config nodeLabels items) {cfg : FRRConfiguration} (hcfg : cfg ∈ stored)
    (hname : cfg.name ≠ config.name) (hsel : cfg.selects lib nodeLabels = true) : cfg ∈ items := by
  obtain ⟨st, hsound, -, rfl⟩ := h
  exact (mem_foldl_collect stored st hsound).2 cfg hcfg hname hsel

/-- The node is validated with what is collected for it, the configuration at the end. -/
def ValidatedFor (lib : SelectorLib) (stored : List FRRConfiguration) (config : FRRConfiguration) (n : Node)
    (x : NodeAndConfigs) : Prop :=
  ∃ items, Collects lib stored config n.labels items ∧ x.cfgs = items ++ [config]

theorem foldl_collectForNode_collects (stored : List FRRConfiguration) (config : FRRConfiguration) :
    ∀ (nodes : List Node) (st : List NodeAndConfigs × List String × lib.Cache), CacheSound lib st.2.2 →
      ∃ found, (nodes.foldl (collectForNode lib stored config) st).1 = st.1 ++ found ∧
        List.Forall₂ (ValidatedFor lib stored config) nodes found
  | [], st, _ => ⟨[], (List.append_nil _).symm, .nil⟩
  | n :: nodes, st, h => by
    have hone := (foldl_collect config n.labels stored { warnings := st.2.1, cache := st.2.2 } h).1
    obtain ⟨found, heq, hfound⟩ := foldl_collectForNode_collects stored config nodes
      (collectForNode lib stored config st n) hone
    let items := (stored.foldl (collect lib config n.labels) { warnings := st.2.1, cache := st.2.2 }).items
    have hnode : ValidatedFor lib stored config n ⟨n.name, n.labels, items ++ [config]⟩ :=
      ⟨items, ⟨{ warnings := st.2.1, cache := st.2.2 }, h, rfl, rfl⟩, rfl⟩
    refine ⟨_ :: found, ?_, .cons hnode hfound⟩
    rw [List.foldl_cons, heq, collectForNode, List.append_assoc, List.singleton_append]

theorem validateNodes_isOk (found : List NodeAndConfigs) : (validateNodes found).isOk = true ↔
    ∀ x ∈ found, validate [.frrConfigurationList x.cfgs] = .ok () := by
  unfold validateNodes
  rw [isOk_iff]
  constructor
  · rintro ⟨u, hok⟩ x hx
    have hone := (forM_eq_ok _ _).1 hok x hx
    split at hone
    · cases hone
    · assumption
  · intro h
    refine ⟨(), (forM_eq_ok _ _).2 (fun x hx => ?_)⟩
    rw [h x hx]

/-- **A configuration is admitted when its selector is taken and every node it selects passes**, with what is collected
for the node. -/
theorem admits_iff {cache : lib.Cache} (h : CacheSound lib cache) (nodes : List Node) (stored : List FRRConfiguration)
    (config : FRRConfiguration) : ∃ found,
      List.Forall₂ (ValidatedFor lib stored config) (matchingNodes lib cache nodes config) found ∧
      (admits lib cache nodes stored config = true ↔
        (getCachedSelector lib cache config.nodeSelector).1.isOk = true ∧
          ∀ x ∈ found, validate [.frrConfigurationList x.cfgs] = .ok ()) := by
  have hsound := getCachedSelector_sound h config.nodeSelector
  unfold admits matchingNodes validateConfig
  cases hget : getCachedSelector lib cache config.nodeSelector with
  | mk answer cache' =>
    rw [hget] at hsound
    cases answer with
    | error err => exact ⟨[], .nil, by simp⟩
    | ok selector =>
      obtain ⟨found, hfold, hfound⟩ := foldl_collectForNode_collects stored config
        (nodes.filter (fun n => selector n.labels))
        ([], if containsDisableMP config.routers then
          ["disableMP is deprecated, is ignored and will be removed in a future release"] else [], cache') hsound
      refine ⟨found, hfound, ?_⟩
      rw [List.nil_append] at hfold
      rw [← validateNodes_isOk, ← hfold]
      simp only [isOk_ok, true_and]
      cases validateNodes _ <;> rfl

end

/-! ## Refusals that stay -/

theorem evpnServed_resetSecrets {cfgs : List FRRConfiguration} (h : EvpnServed cfgs) :
    EvpnServed (resetSecrets cfgs) := by
  intro _ hmem _ hmem' hneed
  obtain ⟨cfg, hcfg, rfl⟩ := List.mem_map.1 hmem
  obtain ⟨r, hr, rfl⟩ := List.mem_map.1 hmem'
  obtain ⟨cfg', hcfg', r', hr', hvrf, hdeclares⟩ := h cfg hcfg r hr hneed
  refine ⟨_, List.mem_map_of_mem hcfg', _, List.mem_map_of_mem hr', hvrf, ?_⟩
  unfold Router.declaresEvpn at hdeclares ⊢
  rw [List.any_map]
  exact hdeclares

/-- What is refused though its EVPN neighbors are there is refused with any more configurations. -/
theorem refused_of_part {l cfgs : List FRRConfiguration} (hl : ∀ c ∈ l, c ∈ cfgs) (hserved : EvpnServed l)
    (hrefused : validate [.frrConfigurationList l] ≠ .ok ()) : validate [.frrConfigurationList cfgs] ≠ .ok () := by
  intro hok
  have hacc := (validate_eq_ok cfgs).1 hok
  have hsub : ∀ c ∈ resetSecrets l, c ∈ resetSecrets cfgs := by
    intro c hc
    obtain ⟨c', hc', rfl⟩ := List.mem_map.1 hc
    exact List.mem_map_of_mem (hl c' hc')
  exact hrefused ((validate_eq_ok l).2 ((hacc.part_iff hsub).2 (evpnServed_resetSecrets hserved)))

/-- `Validate` refuses the configurations together with any others. -/
def NeverPasses (cfgs : List FRRConfiguration) : Prop :=
  ∀ more, (∀ c ∈ cfgs, c ∈ more) → validate [.frrConfigurationList more] ≠ .ok ()

/-- An EVPN neighbor is all that others can help with. -/
theorem neverPasses_iff {cfgs : List FRRConfiguration} (hserved : EvpnServed cfgs) :
    NeverPasses cfgs ↔ validate [.frrConfigurationList cfgs] ≠ .ok () :=
  ⟨fun h => h cfgs (fun _ hc => hc), fun h _ hmore => refused_of_part hmore hserved h⟩

theorem resetSecrets_sameContent {cfgs cfgs' : List FRRConfiguration} (h : ∀ c ∈ cfgs, ∃ c' ∈ cfgs', c.SameContent c') :
    ∀ c ∈ resetSecrets cfgs, ∃ c' ∈ resetSecrets cfgs', c.SameContent c' := by
  intro _ hmem
  obtain ⟨c, hc, rfl⟩ := List.mem_map.1 hmem
  obtain ⟨c', hc', hrouters, hprofiles⟩ := h c hc
  refine ⟨_, List.mem_map_of_mem hc', ?_, hprofiles⟩
  rw [hrouters]

theorem validate_of_sameContent {cfgs cfgs' : List FRRConfiguration} (hto : ∀ c ∈ cfgs', ∃ c' ∈ cfgs, c.SameContent c')
    (hfrom : ∀ c ∈ cfgs, ∃ c' ∈ cfgs', c.SameContent c') (h : validate [.frrConfigurationList cfgs] = .ok ()) :
    validate [.frrConfigurationList cfgs'] = .ok () :=
  (validate_eq_ok cfgs').2 (((validate_eq_ok cfgs).1 h).of_sameContent (resetSecrets_sameContent hto)
    (resetSecrets_sameContent hfrom))

/-- A configuration that no node can load. -/
def unloadable (ns name : String) : FRRConfiguration :=
  { ns := ns, name := name, routers := [{ asn := 64512, prefixes := ["none"] }] }

theorem refused_of_unloadable {ns name : String} {cfgs : List FRRConfiguration} (h : unloadable ns name ∈ cfgs) :
    validate [.frrConfigurationList cfgs] ≠ .ok () := by
  intro hok
  have hmem : unloadable ns name ∈ resetSecrets cfgs := List.mem_map.2 ⟨_, h, rfl⟩
  have hentry := ((validate_eq_ok cfgs).1 hok).entries _ hmem _ (List.mem_singleton_self _)
  have hfails : (entryFor .empty [] (unloadable ns name) { asn := 64512, prefixes := ["none"] }).isOk = false := rfl
  exact Bool.false_ne_true (hfails.symm.trans hentry)

/-! ## Two clusters -/

section

variable (lib : SelectorLib) (cache : lib.Cache) (ns : String) (nodes : List Node)

/-- Where the namespace has the configurations `own`, the others do not matter for the verdict. -/
def Undisturbed (own : List FRRConfiguration) (config : FRRConfiguration) : Prop :=
  ∀ stored stored', ofNamespace ns stored = own → ofNamespace ns stored' = own →
    admits lib cache nodes stored config = admits lib cache nodes stored' config

/-- The configuration is refused, whatever other namespaces have. -/
def AlwaysRefused (own : List FRRConfiguration) (config : FRRConfiguration) : Prop :=
  ∀ stored, ofNamespace ns stored = own → admits lib cache nodes stored config = false

/-- The configuration selects no node, or one where what its own namespace has for it never passes. -/
def SettledAlone (own : List FRRConfiguration) (config : FRRConfiguration) : Prop :=
  matchingNodes lib cache nodes config = [] ∨
    ∃ n ∈ matchingNodes lib cache nodes config, NeverPasses (validatedWith lib own config n.labels)

/-- All selectors are valid, and what other namespaces have under other names selects none of the nodes. -/
def KeptApart (stored : List FRRConfiguration) (config : FRRConfiguration) : Prop :=
  (∀ cfg ∈ stored, cfg.ValidSelector lib) ∧ ∀ cfg ∈ stored, cfg.ns ≠ ns → cfg.name ≠ config.name →
    ∀ n ∈ matchingNodes lib cache nodes config, cfg.selects lib n.labels = false

end

section

variable {lib : SelectorLib} {cache : lib.Cache} {ns : String} {nodes : List Node} {own stored : List FRRConfiguration}
  {config : FRRConfiguration}

theorem mem_of_ofNamespace (h : ofNamespace ns stored = own) {cfg : FRRConfiguration} (hcfg : cfg ∈ own) :
    cfg ∈ stored := by
  rw [← h] at hcfg
  exact List.mem_of_mem_filter hcfg

/-- A node that the configuration selects is refused with whatever is stored. -/
theorem not_admits {n : Node} (hsound : CacheSound lib cache) (hn : n ∈ matchingNodes lib cache nodes config)
    (hrefused : ∀ items, Collects lib stored config n.labels items →
    validate [.frrConfigurationList (items ++ [config])] ≠ .ok ()) : admits lib cache nodes stored config = false := by
  obtain ⟨found, hfound, hiff⟩ := admits_iff hsound nodes stored config
  obtain ⟨x, hx, items, hitems, heq⟩ := (exists_of_forall₂ hfound).1 n hn
  refine Bool.eq_false_iff.2 (fun hadmits => hrefused items hitems ?_)
  rw [← heq]
  exact (hiff.1 hadmits).2 x hx

theorem alwaysRefused_of_neverPasses (hsound : CacheSound lib cache) {n : Node}
    (hn : n ∈ matchingNodes lib cache nodes config) (hnever : NeverPasses (validatedWith lib own config n.labels)) :
    AlwaysRefused lib cache ns nodes own config := by
  refine fun stored hown => not_admits hsound hn (fun items hitems => hnever _ (fun c hc => ?_))
  obtain hc | hc := List.mem_append.1 hc
  · obtain ⟨hmem, hc⟩ := List.mem_filter.1 hc
    obtain ⟨hname, hsel⟩ := Bool.and_eq_true_iff.1 hc
    exact List.mem_append_left _ (hitems.mem (mem_of_ofNamespace hown hmem) (of_decide_eq_true hname) hsel)
  · exact List.mem_append_right _ hc

theorem of_mem_matchingNodes {n : Node} (h : n ∈ matchingNodes lib cache nodes config) :
    n ∈ nodes ∧ (getCachedSelector lib cache config.nodeSelector).1.isOk = true := by
  unfold matchingNodes at h
  split at h
  · exact (List.not_mem_nil h).elim
  · rename_i heq
    exact ⟨List.mem_of_mem_filter h, by rw [heq]; rfl⟩

theorem admits_of_no_node (hsound : CacheSound lib cache) (hnone : matchingNodes lib cache nodes config = []) :
    admits lib cache nodes stored config = (getCachedSelector lib cache config.nodeSelector).1.isOk := by
  obtain ⟨found, hfound, hiff⟩ := admits_iff hsound nodes stored config
  rw [hnone] at hfound
  cases hfound
  exact Bool.eq_iff_iff.2 (by simpa using hiff)

theorem validatedWith_ofNamespace (hown : ofNamespace ns stored = own) {nodeLabels : Labels}
    (h : ∀ cfg ∈ stored, cfg.ns ≠ ns → cfg.name ≠ config.name → cfg.selects lib nodeLabels = false) :
    validatedWith lib stored config nodeLabels = validatedWith lib own config nodeLabels := by
  unfold validatedWith
  rw [← hown, ofNamespace, List.filter_filter]
  congr 1
  refine List.filter_congr (fun cfg hcfg => ?_)
  by_cases hns : cfg.ns = ns
  · simp [hns]
  · by_cases hname : cfg.name = config.name
    · simp [hname]
    · simp [h cfg hcfg hns hname]

/-- Where all selectors are valid, every node is validated with what selects it. -/
theorem admits_of_validSelectors (hsound : CacheSound lib cache) (hvalid : ∀ cfg ∈ stored, cfg.ValidSelector lib) :
    admits lib cache nodes stored config = true ↔
      (getCachedSelector lib cache config.nodeSelector).1.isOk = true ∧ ∀ n ∈ matchingNodes lib cache nodes config,
        validate [.frrConfigurationList (validatedWith lib stored config n.labels)] = .ok () := by
  obtain ⟨found, hfound, hiff⟩ := admits_iff hsound nodes stored config
  have hcfgs : ∀ n x, ValidatedFor lib stored config n x → x.cfgs = validatedWith lib stored config n.labels := by
    rintro n x ⟨items, hitems, heq⟩
    rw [heq, hitems.eq_filter hvalid]
  rw [hiff]
  refine and_congr_right (fun _ => ⟨fun hok n hn => ?_, fun hok x hx => ?_⟩)
  · obtain ⟨x, hx, hfor⟩ := (exists_of_forall₂ hfound).1 n hn
    rw [← hcfgs n x hfor]
    exact hok x hx
  · obtain ⟨n, hn, hfor⟩ := (exists_of_forall₂ hfound).2 x hx
    rw [hcfgs n x hfor]
    exact hok n hn

/-- **Kept apart from the others, a configuration is validated with those of its namespace.** -/
theorem admits_of_keptApart (hsound : CacheSound lib cache) (hown : ofNamespace ns stored = own)
    (h : KeptApart lib cache ns nodes stored config) : admits lib cache nodes stored config = true ↔
      (getCachedSelector lib cache config.nodeSelector).1.isOk = true ∧ ∀ n ∈ matchingNodes lib cache nodes config,
        validate [.frrConfigurationList (validatedWith lib own config n.labels)] = .ok () := by
  rw [admits_of_validSelectors hsound h.1]
  refine and_congr_right (fun _ => forall₂_congr (fun n hn => ?_))
  rw [validatedWith_ofNamespace hown (fun cfg hcfg hns hname => h.2 cfg hcfg hns hname n hn)]

end

/-! ## What others can do -/

/-- An empty selector matches everything. -/
def MatchesAll (lib : SelectorLib) : Prop := ∃ m, lib.labelSelectorAsSelector {} = .ok m ∧ ∀ labels, m labels = true

/-- The selector matches the nodes with the labels, and no other ones. -/
def Singles (lib : SelectorLib) (nodes : List Node) (labels : Labels) (s : LabelSelector) : Prop :=
  ∃ m, lib.labelSelectorAsSelector s = .ok m ∧ ∀ n ∈ nodes, m n.labels = true ↔ n.labels = labels

/-- The nodes can be told apart by their labels. -/
def SinglesOut (lib : SelectorLib) (nodes : List Node) : Prop := ∀ n ∈ nodes, ∃ s, Singles lib nodes n.labels s

/-- The configuration in another place. -/
def FRRConfiguration.moved (ns name : String) (nodeSelector : LabelSelector) (cfg : FRRConfiguration) :
    FRRConfiguration :=
  { cfg with ns := ns, name := name, nodeSelector := nodeSelector }

/-- What there is for the labels of each node, stored for the nodes with these labels. -/
def storedElsewhere (ns name : String) (selector : Labels → LabelSelector) (more : Labels → List FRRConfiguration)
    (nodes : List Node) : List FRRConfiguration :=
  nodes.flatMap (fun n => (more n.labels).map (FRRConfiguration.moved ns name (selector n.labels)))

theorem append_ne_self (s : String) : s ++ "'" ≠ s := by
  intro h
  have hlen := congrArg String.length h
  rw [String.length_append] at hlen
  exact absurd hlen (by simp)

section

variable {lib : SelectorLib} {cache : lib.Cache} {ns : String} {nodes : List Node} {own : List FRRConfiguration}
  {config : FRRConfiguration}

theorem unloadable_selects (h : MatchesAll lib) (ns name : String) (nodeLabels : Labels) :
    (unloadable ns name).selects lib nodeLabels = true := by
  obtain ⟨m, hm, hall⟩ := h
  have hsel : (unloadable ns name).nodeSelector = {} := rfl
  unfold FRRConfiguration.selects
  rw [hsel, hm]
  exact hall nodeLabels

theorem ofNamespace_append (hns : ∀ cfg ∈ own, cfg.ns = ns) {others : List FRRConfiguration}
    (hothers : ∀ cfg ∈ others, cfg.ns ≠ ns) : ofNamespace ns (own ++ others) = own := by
  have hown : ofNamespace ns own = own := List.filter_eq_self.2 (fun cfg hcfg => decide_eq_true (hns cfg hcfg))
  have hnone : ofNamespace ns others = [] := List.filter_eq_nil_iff.2 (fun cfg hcfg => by simp [hothers cfg hcfg])
  unfold ofNamespace at hown hnone ⊢
  rw [List.filter_append, hown, hnone, List.append_nil]

/-- A configuration that cannot be loaded is enough to have another one refused that selects a node. -/
theorem exists_refused (hsound : CacheSound lib cache) (hall : MatchesAll lib) (hns : ∀ cfg ∈ own, cfg.ns = ns)
    (hnode : matchingNodes lib cache nodes config ≠ []) :
    ∃ stored, ofNamespace ns stored = own ∧ admits lib cache nodes stored config = false := by
  obtain ⟨n, hn⟩ := List.exists_mem_of_ne_nil _ hnode
  let other := unloadable (ns ++ "'") (config.name ++ "'")
  have hother : ∀ cfg ∈ [other], cfg.ns ≠ ns := by
    intro cfg hcfg
    obtain rfl := List.mem_singleton.1 hcfg
    exact append_ne_self ns
  refine ⟨own ++ [other], ofNamespace_append hns hother, not_admits hsound hn (fun items hitems => ?_)⟩
  have hmem : other ∈ items := hitems.mem (List.mem_append_right _ (List.mem_singleton_self _)) (append_ne_self _)
    (unloadable_selects hall _ _ _)
  exact refused_of_unloadable (List.mem_append_left _ hmem)

/-- **Others disturb wherever they can**: they do not matter for a configuration that selects no node or is always
refused, and for no other. -/
theorem undisturbed_iff (hsound : CacheSound lib cache) (hall : MatchesAll lib) (hns : ∀ cfg ∈ own, cfg.ns = ns) :
    Undisturbed lib cache ns nodes own config ↔
      matchingNodes lib cache nodes config = [] ∨ AlwaysRefused lib cache ns nodes own config := by
  constructor
  · intro h
    by_cases hnode : matchingNodes lib cache nodes config = []
    · exact Or.inl hnode
    · obtain ⟨refusing, hown, hrefused⟩ := exists_refused hsound hall hns hnode
      exact Or.inr (fun stored hstored => (h stored refusing hstored hown).trans hrefused)
  · rintro (hnone | hrefused) stored stored' hown hown'
    · rw [admits_of_no_node hsound hnone, admits_of_no_node hsound hnone]
    · rw [hrefused stored hown, hrefused stored' hown']

theorem mem_storedElsewhere {name : String} {selector : Labels → LabelSelector} {more : Labels → List FRRConfiguration}
    {cfg : FRRConfiguration} : cfg ∈ storedElsewhere ns name selector more nodes ↔
      ∃ n ∈ nodes, ∃ c ∈ more n.labels, c.moved ns name (selector n.labels) = cfg := by
  simp only [storedElsewhere, List.mem_flatMap, List.mem_map]

theorem Singles.validSelector {labels : Labels} {s : LabelSelector} (h : Singles lib nodes labels s) (ns name : String)
    (cfg : FRRConfiguration) : (cfg.moved ns name s).ValidSelector lib := by
  obtain ⟨m, hm, -⟩ := h
  exact ⟨m, hm⟩

theorem Singles.selects {labels : Labels} {s : LabelSelector} (h : Singles lib nodes labels s) (ns name : String)
    (cfg : FRRConfiguration) {n : Node} (hn : n ∈ nodes) :
    (cfg.moved ns name s).selects lib n.labels = true ↔ n.labels = labels := by
  obtain ⟨m, hm, honly⟩ := h
  unfold FRRConfiguration.selects FRRConfiguration.moved
  rw [hm]
  exact honly n hn

/-- What helps a node is collected for it, and for no node with other labels. -/
theorem validate_storedElsewhere {chosen : List Node} (hchosen : ∀ n ∈ chosen, n ∈ nodes)
    {selector : Labels → LabelSelector} {more : Labels → List FRRConfiguration}
    (hselector : ∀ n ∈ chosen, Singles lib nodes n.labels (selector n.labels)) {name : String}
    (hname : name ≠ config.name) {n : Node} (hn : n ∈ chosen)
    (hpart : ∀ c ∈ validatedWith lib own config n.labels, c ∈ more n.labels)
    (hok : validate [.frrConfigurationList (more n.labels)] = .ok ()) :
    validate [.frrConfigurationList
      (validatedWith lib (own ++ storedElsewhere ns name selector more chosen) config n.labels)] = .ok () := by
  refine validate_of_sameContent (fun cfg hcfg => ?_) (fun c hc => ?_) hok
  · obtain hcfg | hcfg := List.mem_append.1 hcfg
    · obtain ⟨hstored, hcfg⟩ := List.mem_filter.1 hcfg
      obtain hown | helse := List.mem_append.1 hstored
      · exact ⟨cfg, hpart cfg (List.mem_append_left _ (List.mem_filter.2 ⟨hown, hcfg⟩)), rfl, rfl⟩
      · obtain ⟨n', hn', c, hc, rfl⟩ := mem_storedElsewhere.1 helse
        have hlabels := ((hselector n' hn').selects ns name c (hchosen n hn)).1 (Bool.and_eq_true_iff.1 hcfg).2
        exact ⟨c, hlabels ▸ hc, rfl, rfl⟩
    · exact ⟨cfg, hpart cfg (List.mem_append_right _ hcfg), rfl, rfl⟩
  · have hmem : c.moved ns name (selector n.labels) ∈ storedElsewhere ns name selector more chosen :=
      mem_storedElsewhere.2 ⟨n, hn, c, hc, rfl⟩
    have hselects := ((hselector n hn).selects ns name c (hchosen n hn)).2 rfl
    refine ⟨_, List.mem_append_left _ (List.mem_filter.2 ⟨List.mem_append_right _ hmem, ?_⟩), rfl, rfl⟩
    rw [hselects, Bool.and_true]
    exact decide_eq_true hname

/-- **Where every node can be helped, all can be helped at once**: what helps a node is stored in another namespace,
for the nodes with its labels. -/
theorem exists_admitted (hsound : CacheSound lib cache) (htell : SinglesOut lib nodes) (hns : ∀ cfg ∈ own, cfg.ns = ns)
    (hvalid : ∀ cfg ∈ own, cfg.ValidSelector lib)
    (htaken : (getCachedSelector lib cache config.nodeSelector).1.isOk = true)
    (hopen : ∀ n ∈ matchingNodes lib cache nodes config, ¬ NeverPasses (validatedWith lib own config n.labels)) :
    ∃ stored, ofNamespace ns stored = own ∧ admits lib cache nodes stored config = true := by
  -- nodes with the same labels are helped by the same configurations, so these are chosen by the labels
  have hhelp : ∀ labels ∈ (matchingNodes lib cache nodes config).map Node.labels, ∃ more s,
      (∀ c ∈ validatedWith lib own config labels, c ∈ more) ∧ validate [.frrConfigurationList more] = .ok () ∧
        Singles lib nodes labels s := by
    intro labels hlabels
    obtain ⟨n, hn, rfl⟩ := List.mem_map.1 hlabels
    obtain ⟨s, hs⟩ := htell n (of_mem_matchingNodes hn).1
    have hn := hopen n hn
    unfold NeverPasses at hn
    push Not at hn
    obtain ⟨more, hpart, hok⟩ := hn
    exact ⟨more, s, hpart, hok, hs⟩
  have : Nonempty LabelSelector := ⟨{}⟩
  choose! more selector hpart hok hselector using hhelp
  have hlabels : ∀ n ∈ matchingNodes lib cache nodes config,
      n.labels ∈ (matchingNodes lib cache nodes config).map Node.labels := fun n hn => List.mem_map_of_mem hn
  refine ⟨own ++ storedElsewhere (ns ++ "'") (config.name ++ "'") selector more (matchingNodes lib cache nodes config),
    ofNamespace_append hns (fun cfg hcfg => ?_),
    (admits_of_validSelectors hsound (fun cfg hcfg => ?_)).2 ⟨htaken, fun n hn => ?_⟩⟩
  · obtain ⟨n, hn, c, hc, rfl⟩ := mem_storedElsewhere.1 hcfg
    exact append_ne_self ns
  · obtain hcfg | hcfg := List.mem_append.1 hcfg
    · exact hvalid cfg hcfg
    · obtain ⟨n, hn, c, hc, rfl⟩ := mem_storedElsewhere.1 hcfg
      exact (hselector n.labels (hlabels n hn)).validSelector _ _ c
  · exact validate_storedElsewhere (fun n hn => (of_mem_matchingNodes hn).1)
      (fun n hn => hselector n.labels (hlabels n hn))
      (append_ne_self _) hn (hpart n.labels (hlabels n hn)) (hok n.labels (hlabels n hn))

theorem alwaysRefused_iff (hsound : CacheSound lib cache) (htell : SinglesOut lib nodes)
    (hns : ∀ cfg ∈ own, cfg.ns = ns) (hvalid : ∀ cfg ∈ own, cfg.ValidSelector lib)
    (hnode : matchingNodes lib cache nodes config ≠ []) :
    AlwaysRefused lib cache ns nodes own config ↔
      ∃ n ∈ matchingNodes lib cache nodes config, NeverPasses (validatedWith lib own config n.labels) := by
  obtain ⟨n, hn⟩ := List.exists_mem_of_ne_nil _ hnode
  constructor
  · intro hrefused
    by_contra hopen
    push Not at hopen
    obtain ⟨stored, hown, hadmits⟩ := exists_admitted hsound htell hns hvalid (of_mem_matchingNodes hn).2 hopen
    exact Bool.false_ne_true ((hrefused stored hown).symm.trans hadmits)
  · rintro ⟨n', hn', hnever⟩
    exact alwaysRefused_of_neverPasses hsound hn' hnever

end

/-- **What other namespaces store decides about a configuration unless the matter is settled in its own**: after any
calls of the selector cache, others do not matter where the configuration selects no node or is refused whatever they
have, and only there; with valid selectors in the own namespace, it is so refused where what the namespace has for one
of its nodes never passes, and only there, which without a want of EVPN neighbors is where `Validate` refuses it.  Nor
do others matter that select none of its nodes. -/
theorem admission_undisturbed (lib : SelectorLib) (hall : MatchesAll lib) (past : List (lib.Cache × LabelSelector))
    (cache : lib.Cache) (hrun : Run (selectorCalls lib) past cache) (ns : String) (nodes : List Node)
    (own : List FRRConfiguration) (hns : ∀ cfg ∈ own, cfg.ns = ns) (config : FRRConfiguration) :
    (Undisturbed lib cache ns nodes own config ↔
      matchingNodes lib cache nodes config = [] ∨ AlwaysRefused lib cache ns nodes own config) ∧
    (SettledAlone lib cache nodes own config → Undisturbed lib cache ns nodes own config) ∧
    (SinglesOut lib nodes → (∀ cfg ∈ own, cfg.ValidSelector lib) →
      (Undisturbed lib cache ns nodes own config ↔ SettledAlone lib cache nodes own config)) ∧
    (∀ nodeLabels, EvpnServed (validatedWith lib own config nodeLabels) →
      (NeverPasses (validatedWith lib own config nodeLabels) ↔
        validate [.frrConfigurationList (validatedWith lib own config nodeLabels)] ≠ .ok ())) ∧
    ∀ stored stored', ofNamespace ns stored = own → ofNamespace ns stored' = own →
      KeptApart lib cache ns nodes stored config → KeptApart lib cache ns nodes stored' config →
        admits lib cache nodes stored config = admits lib cache nodes stored' config := by
  have hsound := cacheSound_run hrun
  have hiff : Undisturbed lib cache ns nodes own config ↔
      matchingNodes lib cache nodes config = [] ∨ AlwaysRefused lib cache ns nodes own config :=
    undisturbed_iff hsound hall hns
  refine ⟨hiff, fun h => hiff.2 (h.imp_right ?_), fun htell hvalid => hiff.trans ?_,
    fun _ hserved => neverPasses_iff hserved, ?_⟩
  · rintro ⟨n, hn, hnever⟩
    exact alwaysRefused_of_neverPasses hsound hn hnever
  · by_cases hnode : matchingNodes lib cache nodes config = []
    · exact iff_of_true (Or.inl hnode) (Or.inl hnode)
    · exact or_congr_right (alwaysRefused_iff hsound htell hns hvalid hnode)
  · intro stored stored' hown hown' hapart hapart'
    exact Bool.eq_iff_iff.2 ((admits_of_keptApart hsound hown hapart).trans
      (admits_of_keptApart hsound hown' hapart').symm)

theorem matchesAll_labelSelectors (size : Nat) : MatchesAll (labelSelectors size) := ⟨_, rfl, fun _ => rfl⟩

/-- Keys and values are texts of labels. -/
def Labels.wellFormed (labels : Labels) : Bool :=
  labels.entries.all (fun e => isLabelText e.1 && isLabelText e.2)

/-- These labels, and no other key of the nodes. -/
def exactly (nodes : List Node) (labels : Labels) : LabelSelector :=
  { matchLabels := labels
    matchExpressions := ((nodes.flatMap (fun n => n.labels.entries)).filter (fun e => labels.find? e.1 = none)).map
      (fun e => ⟨e.1, "DoesNotExist", []⟩) }

theorem exactly_wellFormed {nodes : List Node} (h : ∀ n ∈ nodes, Labels.wellFormed n.labels = true) {labels : Labels}
    (hlabels : labels.wellFormed = true) : (exactly nodes labels).wellFormed = true := by
  refine Bool.and_eq_true_iff.2 ⟨hlabels, List.all_eq_true.2 (fun r hr => ?_)⟩
  obtain ⟨e, he, rfl⟩ := List.mem_map.1 hr
  obtain ⟨n, hn, he⟩ := List.mem_flatMap.1 (List.mem_of_mem_filter he)
  have hkey := (Bool.and_eq_true_iff.1 (List.all_eq_true.1 (h n hn) e he)).1
  simp [LabelSelectorRequirement.wellFormed, hkey]

theorem singlesOut_labelSelectors (size : Nat) {nodes : List Node}
    (h : ∀ n ∈ nodes, Labels.wellFormed n.labels = true) : SinglesOut (labelSelectors size) nodes := by
  intro n hn
  refine ⟨exactly nodes n.labels, _, if_pos (exactly_wellFormed h (h n hn)), fun n' hn' => ?_⟩
  simp only [Bool.and_eq_true, List.all_eq_true, decide_eq_true_eq, exactly, List.mem_map, List.mem_filter,
    List.mem_flatMap]
  constructor
  · rintro ⟨hhas, hnone⟩
    refine SortedMap.ext_find? (fun k => ?_)
    cases hk : n.labels.find? k with
    | some v => exact hhas (k, v) ((SortedMap.find?_eq_some _ _ _).1 hk)
    | none =>
      -- a label of the other node that this one has not is asked not to exist
      cases hk' : n'.labels.find? k with
      | none => rfl
      | some v =>
        have hholds := hnone _ ⟨(k, v), ⟨⟨n', hn', (SortedMap.find?_eq_some _ _ _).1 hk'⟩, hk⟩, rfl⟩
        simp [LabelSelectorRequirement.holds, hk'] at hholds
  · intro heq
    rw [heq]
    refine ⟨fun e he => (SortedMap.find?_eq_some _ _ _).2 he, ?_⟩
    rintro _ ⟨e, ⟨-, hnone⟩, rfl⟩
    simp [LabelSelectorRequirement.holds, hnone]

/-- The session in the namespace of the daemon. -/
def ownFabric : FRRConfiguration := { fabric with ns := "frr-k8s-system" }

/-- A router with another ASN, in another namespace. -/
def tenant (nodeSelector : LabelSelector) : FRRConfiguration :=
  { ns := "tenant", name := "tenant", routers := [{ asn := 64999 }], nodeSelector := nodeSelector }

/-- The nodes of another rack. -/
def elsewhere : LabelSelector := { matchLabels := SortedMap.empty.insert "rack" "b" }

theorem keptApart_elsewhere :
    KeptApart (labelSelectors 300) [] "frr-k8s-system" [rackNode] [tenant elsewhere] ownFabric := by
  refine ⟨fun cfg hcfg => ?_, fun cfg hcfg _ _ n hn => ?_⟩
  · obtain rfl := List.mem_singleton.1 hcfg
    exact ⟨_, rfl⟩
  · obtain rfl := List.mem_singleton.1 hcfg
    obtain rfl := List.mem_singleton.1 (of_mem_matchingNodes hn).1
    decide +kernel

theorem admission_undisturbed_elsewhere :
    (Undisturbed (labelSelectors 300) [] "frr-k8s-system" [rackNode] [] ownFabric ↔
      SettledAlone (labelSelectors 300) [] [rackNode] [] ownFabric) ∧
    admits (labelSelectors 300) [] [rackNode] [] ownFabric =
      admits (labelSelectors 300) [] [rackNode] [tenant elsewhere] ownFabric := by
  obtain ⟨-, -, hiff, -, hapart⟩ := admission_undisturbed (labelSelectors 300) (matchesAll_labelSelectors 300)
    [] [] Run.start "frr-k8s-system" [rackNode] [] (by simp) ownFabric
  exact ⟨hiff (singlesOut_labelSelectors 300 (by decide)) (by simp),
    hapart [] [tenant elsewhere] rfl (by decide) ⟨by simp, by simp⟩ keptApart_elsewhere⟩

/-- A router of another namespace, with another ASN, has the configuration refused. -/
theorem admission_disturbed : ofNamespace "frr-k8s-system" [] = ofNamespace "frr-k8s-system" [tenant {}] ∧
    admits (labelSelectors 300) [] [rackNode] [] ownFabric = true ∧
    admits (labelSelectors 300) [] [rackNode] [tenant {}] ownFabric = false := by
  decide +kernel

end FrrK8s
