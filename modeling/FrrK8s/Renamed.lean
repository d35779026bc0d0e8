import FrrK8s.Renaming
import FrrK8s.Translate
/-!
# Renamed — the translation under a renaming of the passwords

`apiToFRR` is equivariant: on resources with renamed passwords, cleartext ones and those of the secrets alike, it fails
with the same error or returns the configuration with renamed passwords (`apiToFRR_map`).  Function by function: a
password is read, stored and compared, and never printed.
-/
namespace FrrK8s

/-! ## The passwords of resources and configurations -/

def Neighbor.mapPassword (f : String → String) (n : Neighbor) : Neighbor := { n with password := f n.password }

def Router.mapPasswords (f : String → String) (r : Router) : Router :=
  { r with neighbors := r.neighbors.map (Neighbor.mapPassword f) }

def FRRConfiguration.mapPasswords (f : String → String) (cfg : FRRConfiguration) : FRRConfiguration :=
  { cfg with routers := cfg.routers.map (Router.mapPasswords f) }

/-- The password of a secret is what its data has under this key. -/
def Secret.password (secret : Secret) : Option String := secret.data.find? "password"

def Secret.mapPassword (f : String → String) (secret : Secret) : Secret :=
  { secret with data := secret.password.elim secret.data (fun p => secret.data.insert "password" (f p)) }

def ClusterResources.mapPasswords (f : String → String) (resources : ClusterResources) : ClusterResources :=
  { frrConfigs := resources.frrConfigs.map (FRRConfiguration.mapPasswords f)
    passwordSecrets := resources.passwordSecrets.mapVal (Secret.mapPassword f) }

def NeighborConfig.mapPassword (f : String → String) (n : NeighborConfig) : NeighborConfig :=
  { n with password := f n.password }

def RouterConfig.mapPasswords (f : String → String) (r : RouterConfig) : RouterConfig :=
  { r with neighbors := r.neighbors.map (NeighborConfig.mapPassword f) }

def Config.mapPasswords (f : String → String) (c : Config) : Config :=
  { c with routers := c.routers.map (RouterConfig.mapPasswords f) }

@[simp] theorem Secret.password_mapPassword (f : String → String) (secret : Secret) :
    (secret.mapPassword f).password = secret.password.map f := by
  unfold Secret.mapPassword Secret.password
  cases h : secret.data.find? "password" with
  | none => exact h
  | some p => simp

theorem wrap_map {α β : Type} (x : Result α) (f : α → β) (text : String → String) :
    Result.wrap (x.map f) text = (x.wrap text).map f := by
  cases x <;> rfl

section

variable (g : Renaming)

/-! ## Neighbors -/

theorem passwordForNeighbor_map (n : Neighbor) (secrets : SortedMap String Secret) :
    passwordForNeighbor (n.mapPassword g) (secrets.mapVal (Secret.mapPassword g)) =
      (passwordForNeighbor n secrets).map g := by
  have hpassword : (n.mapPassword g).password ≠ "" ↔ n.password ≠ "" := not_congr (g.apply_eq_empty n.password)
  have hname : neighborName (n.mapPassword g) = neighborName n := rfl
  have hsecret : (n.mapPassword g).passwordSecret = n.passwordSecret := rfl
  unfold passwordForNeighbor
  simp only [hpassword, hname, hsecret, SortedMap.find?_mapVal]
  by_cases hboth : n.password ≠ "" ∧ n.passwordSecret ≠ ""
  · rw [if_pos hboth, if_pos hboth]
    rfl
  rw [if_neg hboth, if_neg hboth]
  by_cases hclear : n.password ≠ ""
  · rw [if_pos hclear, if_pos hclear]
    rfl
  rw [if_neg hclear, if_neg hclear]
  by_cases hnone : n.passwordSecret = ""
  · rw [if_pos hnone, if_pos hnone]
    exact congrArg Except.ok g.empty.symm
  rw [if_neg hnone, if_neg hnone]
  cases secrets.find? n.passwordSecret with
  | none => rfl
  | some secret =>
    have hread : (secret.mapPassword g).data.find? "password" = (secret.data.find? "password").map g :=
      secret.password_mapPassword g
    show (if secret.type ≠ secretTypeBasicAuth then _ else _) =
      Except.map _ (if secret.type ≠ secretTypeBasicAuth then _ else _)
    by_cases htype : secret.type ≠ secretTypeBasicAuth
    · rw [if_pos htype, if_pos htype]
      rfl
    rw [if_neg htype, if_neg htype, hread]
    cases secret.data.find? "password" <;> rfl

/-- What a neighbor advertises does not depend on its password. -/
theorem neighborToFRR_map (n : Neighbor) (prefixesInRouter : List String) (alwaysBlock : List IncomingFilter)
    (routerVRF : String) (secrets : SortedMap String Secret) (bfdProfiles : SortedMap String BFDProfile) :
    neighborToFRR (n.mapPassword g) prefixesInRouter alwaysBlock routerVRF (secrets.mapVal (Secret.mapPassword g))
        bfdProfiles =
      (neighborToFRR n prefixesInRouter alwaysBlock routerVRF secrets bfdProfiles).map
      (NeighborConfig.mapPassword g) := by
  unfold neighborToFRR
  simp only [map_bind, passwordForNeighbor_map]
  -- the checks before the password is read
  iterate 6 refine bind_congr (fun _ => ?_)
  refine bind_congr (fun _ => ?_)
  refine bind_congr (fun _ => ?_)
  rw [bind_map]
  refine bind_congr (fun _ => ?_)
  exact bind_congr (fun _ => bind_congr (fun _ => rfl))

theorem routerNeighborToFRR_map (r : Router) (n : Neighbor) (alwaysBlock : List IncomingFilter)
    (secrets : SortedMap String Secret) (bfdProfiles : SortedMap String BFDProfile) (routerPrefixes : List String) :
    routerNeighborToFRR (r.mapPasswords g) alwaysBlock (secrets.mapVal (Secret.mapPassword g))
    bfdProfiles routerPrefixes
        (n.mapPassword g) =
      (routerNeighborToFRR r alwaysBlock secrets bfdProfiles routerPrefixes n).map (NeighborConfig.mapPassword g) := by
  unfold routerNeighborToFRR
  rw [map_bind, neighborToFRR_map]
  exact bind_congr (fun _ => wrap_map _ _ _)

/-! ## Routers -/

theorem routerToFRRConfig_map (r : Router) (alwaysBlock : List IncomingFilter) (secrets : SortedMap String Secret)
    (bfdProfiles : SortedMap String BFDProfile) (routerPrefixes : List String) :
    routerToFRRConfig (r.mapPasswords g) alwaysBlock (secrets.mapVal (Secret.mapPassword g))
    bfdProfiles routerPrefixes =
      (routerToFRRConfig r alwaysBlock secrets bfdProfiles routerPrefixes).map (RouterConfig.mapPasswords g) := by
  have hneighbors := mapM_map r.neighbors (fun n _ =>
    routerNeighborToFRR_map g r n alwaysBlock secrets bfdProfiles routerPrefixes)
  unfold routerToFRRConfig
  rw [map_bind]
  show ((r.neighbors.map (Neighbor.mapPassword g)).mapM _ >>= _) = _
  rw [hneighbors, bind_map]
  exact bind_congr (fun _ => rfl)

theorem validateOutgoingPrefixes_map (prefixesInRouter : List String) (r : Router) :
    validateOutgoingPrefixes prefixesInRouter (r.mapPasswords g) = validateOutgoingPrefixes prefixesInRouter r := by
  unfold validateOutgoingPrefixes
  show (r.neighbors.map (Neighbor.mapPassword g)).forM _ = _
  rw [List.forM_eq_forM, List.forM_map]
  rfl

theorem prefixesForVRFs_map (rs : List Router) :
    prefixesForVRFs (rs.map (Router.mapPasswords g)) = prefixesForVRFs rs := by
  unfold prefixesForVRFs
  rw [List.foldl_map]
  rfl

theorem routerFor_map (r : Router) (alwaysBlock : List IncomingFilter) (secrets : SortedMap String Secret)
    (bfdProfiles : SortedMap String BFDProfile) (routersPrefixes : SortedMap String (List String)) :
    routerFor alwaysBlock (secrets.mapVal (Secret.mapPassword g)) bfdProfiles routersPrefixes (r.mapPasswords g) =
      (routerFor alwaysBlock secrets bfdProfiles routersPrefixes r).map (RouterConfig.mapPasswords g) := by
  unfold routerFor
  simp only [map_bind, validateOutgoingPrefixes_map, routerToFRRConfig_map]
  rfl

/-! ## Merging -/

/-- Passwords are compared, so this needs that different ones have different names. -/
theorem neighborsAreCompatible_map (n m : NeighborConfig) :
    neighborsAreCompatible (n.mapPassword g) (m.mapPassword g) = neighborsAreCompatible n m := by
  have hpassword : (n.mapPassword g).password ≠ (m.mapPassword g).password ↔ n.password ≠ m.password :=
    not_congr (g.apply_eq_apply n.password m.password)
  unfold neighborsAreCompatible
  simp only [hpassword]
  rfl

theorem mergeIntoNeighbor_map [RangeOrder] (dest src : NeighborConfig) :
    mergeIntoNeighbor (dest.mapPassword g) (src.mapPassword g) =
      (mergeIntoNeighbor dest src).map (NeighborConfig.mapPassword g) := by
  unfold mergeIntoNeighbor
  simp only [map_bind, neighborsAreCompatible_map]
  rfl

theorem storeOf_map (ns : List NeighborConfig) :
    storeOf (ns.map (NeighborConfig.mapPassword g)) = fun p => (storeOf ns p).mapPassword g := by
  have hempty : ({} : NeighborConfig).mapPassword g = {} := by
    unfold NeighborConfig.mapPassword
    rw [g.empty]
  funext p
  unfold storeOf
  rw [List.getD_eq_getElem?_getD, List.getD_eq_getElem?_getD, List.getElem?_map]
  cases ns[p]? with
  | none => exact hempty.symm
  | some n => rfl

theorem mergeNeighborsLoop_map [RangeOrder] : ∀ (ps : List Nat) (store : Store) (merged : SortedMap String Nat),
    mergeNeighborsLoop ps (fun p => (store p).mapPassword g) merged =
      (mergeNeighborsLoop ps store merged).map (fun st => (fun p => (st.1 p).mapPassword g, st.2))
  | [], _, _ => rfl
  | p :: ps, store, merged => by
    have hid : ((store p).mapPassword g).id = (store p).id := rfl
    simp only [mergeNeighborsLoop, hid]
    cases merged.find? (store p).id with
    | none => exact mergeNeighborsLoop_map ps store _
    | some d =>
      simp only [mergeIntoNeighbor_map, map_bind, bind_map]
      refine bind_congr (fun n => ?_)
      have hstore : (fun q => if q = d then n.mapPassword g else (store q).mapPassword g) =
          fun q => (if q = d then n else store q).mapPassword g := by
        funext q
        split <;> rfl
      rw [hstore]
      exact mergeNeighborsLoop_map ps _ merged

theorem mergeNeighborsLists_map [RangeOrder] (store : Store) (first toMerge : List Nat) :
    mergeNeighborsLists (fun p => (store p).mapPassword g) first toMerge =
      (mergeNeighborsLists store first toMerge).map (List.map (NeighborConfig.mapPassword g)) := by
  unfold mergeNeighborsLists
  dsimp only
  split
  · rfl
  simp only [mergeNeighborsLoop_map, map_bind, bind_map, map_pure, List.map_map]
  rfl

theorem mergeRouterConfigsWith_map (r toMerge : RouterConfig) (neighbors : Result (List NeighborConfig)) :
    mergeRouterConfigsWith (r.mapPasswords g) (toMerge.mapPasswords g)
        (neighbors.map (List.map (NeighborConfig.mapPassword g))) =
      (mergeRouterConfigsWith r toMerge neighbors).map (RouterConfig.mapPasswords g) := by
  unfold mergeRouterConfigsWith
  simp only [map_bind, bind_map]
  rfl

theorem mergeRouterConfigs_map [RangeOrder] (r toMerge : RouterConfig) :
    mergeRouterConfigs (r.mapPasswords g) (toMerge.mapPasswords g) =
      (mergeRouterConfigs r toMerge).map (RouterConfig.mapPasswords g) := by
  unfold mergeRouterConfigs
  rw [← mergeRouterConfigsWith_map, ← mergeNeighborsLists_map, ← storeOf_map, List.map_append]
  show mergeRouterConfigsWith _ _ (mergeNeighborsLists _ (List.range (r.neighbors.map _).length)
    (List.range' (r.neighbors.map _).length (toMerge.neighbors.map _).length)) = _
  rw [List.length_map, List.length_map]
  rfl

theorem validateRouterConfig_map [RangeOrder] (r : RouterConfig) :
    validateRouterConfig (r.mapPasswords g) = (validateRouterConfig r).map (RouterConfig.mapPasswords g) := by
  unfold validateRouterConfig mergeRouterConfigWithItself
  rw [← mergeRouterConfigsWith_map, ← mergeNeighborsLists_map, ← storeOf_map]
  show mergeRouterConfigsWith _ _ (mergeNeighborsLists _ (List.range (r.neighbors.map _).length)
    (List.range (r.neighbors.map _).length)) = _
  rw [List.length_map]
  rfl

/-! ## All configurations -/

theorem validateEVPNConfig_map (r : RouterConfig) : validateEVPNConfig (r.mapPasswords g) = validateEVPNConfig r := by
  have hneighbor : hasEVPNNeighbor (r.mapPasswords g) = hasEVPNNeighbor r := List.any_map
  have hnil : (r.mapPasswords g).neighbors ≠ [] ↔ r.neighbors ≠ [] := not_congr List.map_eq_nil_iff
  unfold validateEVPNConfig
  simp only [hneighbor, hnil]
  rfl

theorem validateEVPN_map [RangeOrder] (m : SortedMap String RouterConfig) :
    validateEVPN (m.mapVal (RouterConfig.mapPasswords g)) = validateEVPN m := by
  have hvnis : vnisOfVRFs (m.mapVal (RouterConfig.mapPasswords g)) = vnisOfVRFs m := by
    unfold vnisOfVRFs
    rw [SortedMap.ranged_mapVal]
    exact List.flatMap_map ..
  unfold validateEVPN validateUniqueVNIs
  rw [hvnis, SortedMap.ranged_mapVal, List.forM_eq_forM, List.forM_map]
  simp only [validateEVPNConfig_map]

def ApiState.mapPasswords (f : String → String) (st : ApiState) : ApiState :=
  { st with routersForVRF := st.routersForVRF.mapVal (RouterConfig.mapPasswords f) }

/-- The body of the loop over the routers of a configuration. -/
def addRouter [RangeOrder] (alwaysBlock : List IncomingFilter) (secrets : SortedMap String Secret)
    (bfdProfiles : SortedMap String BFDProfile) (routersPrefixes : SortedMap String (List String))
    (routersForVRF : SortedMap String RouterConfig) (r : Router) : Result (SortedMap String RouterConfig) := do
  let routerCfg ← routerFor alwaysBlock secrets bfdProfiles routersPrefixes r
  let routerCfg ← validateRouterConfig routerCfg
  upsert RouterConfig.vrf mergeRouterConfigs routersForVRF routerCfg

theorem addRouter_map [RangeOrder] (alwaysBlock : List IncomingFilter) (secrets : SortedMap String Secret)
    (bfdProfiles : SortedMap String BFDProfile) (routersPrefixes : SortedMap String (List String))
    (routersForVRF : SortedMap String RouterConfig) (r : Router) :
    addRouter alwaysBlock (secrets.mapVal (Secret.mapPassword g)) bfdProfiles routersPrefixes
        (routersForVRF.mapVal (RouterConfig.mapPasswords g)) (r.mapPasswords g) =
      (addRouter alwaysBlock secrets bfdProfiles routersPrefixes routersForVRF r).map
        (SortedMap.mapVal (RouterConfig.mapPasswords g)) := by
  unfold addRouter
  rw [routerFor_map, bind_map, map_bind]
  refine bind_congr (fun c => ?_)
  rw [validateRouterConfig_map, bind_map, map_bind]
  exact bind_congr (fun d => upsert_map (fun _ => rfl) (mergeRouterConfigs_map g) routersForVRF d)

theorem addConfig_map [RangeOrder] (secrets : SortedMap String Secret) (alwaysBlock : List Net.IPNet) (st : ApiState)
    (cfg : FRRConfiguration) :
    addConfig (secrets.mapVal (Secret.mapPassword g)) alwaysBlock (st.mapPasswords g) (cfg.mapPasswords g) =
      (addConfig secrets alwaysBlock st cfg).map (ApiState.mapPasswords g) := by
  unfold addConfig
  rw [map_bind]
  refine bind_congr (fun profiles => ?_)
  have hrouters := foldlM_map (addRouter_map g (alwaysBlockToFRR alwaysBlock) secrets profiles.1
    (prefixesForVRFs cfg.routers)) cfg.routers st.routersForVRF
  have hprefixes : prefixesForVRFs (cfg.mapPasswords g).routers = prefixesForVRFs cfg.routers :=
    prefixesForVRFs_map g cfg.routers
  rw [hprefixes]
  show ((cfg.routers.map (Router.mapPasswords g)).foldlM (addRouter _ _ _ _) _ >>= _) =
    Except.map _ (cfg.routers.foldlM (addRouter _ _ _ _) _ >>= _)
  rw [map_bind]
  refine Eq.trans (congrArg (· >>= _) hrouters) ?_
  exact bind_map _ _ _

/-- **The translation is equivariant.** -/
theorem apiToFRR_map [RangeOrder] (resources : ClusterResources) (alwaysBlock : List Net.IPNet) :
    apiToFRR (resources.mapPasswords g) alwaysBlock = (apiToFRR resources alwaysBlock).map (Config.mapPasswords g) := by
  have hconfigs := foldlM_map (addConfig_map g resources.passwordSecrets alwaysBlock) resources.frrConfigs {}
  unfold apiToFRR
  rw [map_bind]
  refine Eq.trans (congrArg (· >>= _) hconfigs) ?_
  refine Eq.trans (bind_map _ _ _) ?_
  refine bind_congr (fun st => ?_)
  show (validateEVPN (st.routersForVRF.mapVal _) >>= _) = _
  rw [validateEVPN_map, map_bind]
  refine bind_congr (fun _ => ?_)
  show Except.ok _ = Except.ok _
  unfold Config.mapPasswords ApiState.mapPasswords
  rw [SortedMap.values_mapVal]

end

/-! ## The passwords of the result -/

def FRRConfiguration.passwords (cfg : FRRConfiguration) : List String :=
  cfg.routers.flatMap (fun r => r.neighbors.map Neighbor.password)

/-- The passwords that are set, in a neighbor or in a secret. -/
def ClusterResources.passwords (resources : ClusterResources) : List String :=
  (resources.frrConfigs.flatMap FRRConfiguration.passwords ++
    resources.passwordSecrets.values.filterMap Secret.password).filter (· ≠ "")

theorem ne_empty_of_mem_passwords {resources : ClusterResources} {p : String} (h : p ∈ resources.passwords) :
    p ≠ "" := by
  simpa using (List.mem_filter.1 h).2

theorem FRRConfiguration.mapPasswords_congr {f f' : String → String} {cfg : FRRConfiguration}
    (h : ∀ p ∈ cfg.passwords, f p = f' p) : cfg.mapPasswords f = cfg.mapPasswords f' := by
  unfold FRRConfiguration.mapPasswords
  congr 1
  refine List.map_congr_left (fun r hr => ?_)
  unfold Router.mapPasswords
  congr 1
  refine List.map_congr_left (fun n hn => ?_)
  unfold Neighbor.mapPassword
  rw [h n.password (List.mem_flatMap.2 ⟨r, hr, List.mem_map.2 ⟨n, hn, rfl⟩⟩)]

theorem Secret.mapPassword_congr {f f' : String → String} {secret : Secret}
    (h : ∀ p, secret.password = some p → f p = f' p) : secret.mapPassword f = secret.mapPassword f' := by
  unfold Secret.mapPassword
  cases hread : secret.password with
  | none => rfl
  | some p => rw [Option.elim_some, Option.elim_some, h p hread]

theorem ClusterResources.mapPasswords_congr {f f' : String → String} {resources : ClusterResources}
    (h : ∀ p ∈ resources.passwords, f p = f' p) (hempty : f "" = f' "") :
    resources.mapPasswords f = resources.mapPasswords f' := by
  have hagree : ∀ p ∈ resources.frrConfigs.flatMap FRRConfiguration.passwords ++
      resources.passwordSecrets.values.filterMap Secret.password, f p = f' p := by
    intro p hp
    by_cases hset : p = ""
    · rw [hset, hempty]
    · exact h p (List.mem_filter.2 ⟨hp, by simpa using hset⟩)
  unfold ClusterResources.mapPasswords
  congr 1
  · refine List.map_congr_left (fun cfg hcfg => FRRConfiguration.mapPasswords_congr (fun p hp => hagree p ?_))
    exact List.mem_append_left _ (List.mem_flatMap.2 ⟨cfg, hcfg, hp⟩)
  · apply SortedMap.ext_find?
    intro k
    rw [SortedMap.find?_mapVal, SortedMap.find?_mapVal]
    cases hk : resources.passwordSecrets.find? k with
    | none => rfl
    | some secret =>
      refine congrArg some (Secret.mapPassword_congr (fun p hread => hagree p (List.mem_append_right _ ?_)))
      exact List.mem_filterMap.2 ⟨secret, (SortedMap.mem_values _ _).2 ⟨k, hk⟩, hread⟩

theorem Config.mapPasswords_congr {f f' : String → String} {c : Config}
    (h : ∀ r ∈ c.routers, ∀ n ∈ r.neighbors, f n.password = f' n.password) : c.mapPasswords f = c.mapPasswords f' := by
  unfold Config.mapPasswords
  congr 1
  refine List.map_congr_left (fun r hr => ?_)
  unfold RouterConfig.mapPasswords
  congr 1
  refine List.map_congr_left (fun n hn => ?_)
  unfold NeighborConfig.mapPassword
  rw [h r hr n hn]

theorem Secret.mapPassword_id (secret : Secret) : secret.mapPassword id = secret := by
  unfold Secret.mapPassword
  cases hread : secret.password with
  | none => rfl
  | some p =>
    have hinsert : secret.data.insert "password" p = secret.data := by
      apply SortedMap.ext_find?
      intro k
      rw [SortedMap.find?_insert]
      split
      · next hk =>
        rw [hk]
        exact hread.symm
      · rfl
    rw [Option.elim_some]
    exact congrArg (fun data => { secret with data := data }) hinsert

theorem ClusterResources.mapPasswords_id (resources : ClusterResources) : resources.mapPasswords id = resources := by
  have hneighbor : ∀ n : Neighbor, n.mapPassword id = n := fun _ => rfl
  have hrouter : ∀ r : Router, r.mapPasswords id = r := by
    intro r
    unfold Router.mapPasswords
    rw [funext hneighbor, List.map_id']
  have hcfg : ∀ cfg : FRRConfiguration, cfg.mapPasswords id = cfg := by
    intro cfg
    unfold FRRConfiguration.mapPasswords
    rw [funext hrouter, List.map_id']
  have hsecrets : resources.passwordSecrets.mapVal (Secret.mapPassword id) = resources.passwordSecrets := by
    apply SortedMap.ext_find?
    intro k
    rw [SortedMap.find?_mapVal, funext Secret.mapPassword_id, Option.map_id']
  unfold ClusterResources.mapPasswords
  rw [funext hcfg, List.map_id', hsecrets]

/-- **Every password of the result is one of the resources.**  A renaming that keeps those and moves every other text
keeps the result. -/
theorem mem_passwords_of_apiToFRR [RangeOrder] {resources : ClusterResources} {alwaysBlock : List Net.IPNet}
    {c : Config} (h : apiToFRR resources alwaysBlock = .ok c) {r : RouterConfig} (hr : r ∈ c.routers)
    {n : NeighborConfig} (hn : n ∈ r.neighbors) (hp : n.password ≠ "") : n.password ∈ resources.passwords := by
  obtain ⟨g, hkeeps, hmoves⟩ := Renaming.extend id resources.passwords (fun _ _ _ _ h => h)
    (fun _ hp => ⟨ne_empty_of_mem_passwords hp, ne_empty_of_mem_passwords hp⟩)
  have hsame : resources.mapPasswords g = resources :=
    (ClusterResources.mapPasswords_congr hkeeps g.empty).trans resources.mapPasswords_id
  have hmap := apiToFRR_map g resources alwaysBlock
  rw [hsame, h] at hmap
  have hc : c = c.mapPasswords g := Except.ok.inj hmap
  have hrouters : c.routers.map (RouterConfig.mapPasswords g) = c.routers.map id := by
    rw [List.map_id]
    exact (congrArg Config.routers hc).symm
  have hneighbors : r.neighbors.map (NeighborConfig.mapPassword g) = r.neighbors.map id := by
    rw [List.map_id]
    exact congrArg RouterConfig.neighbors (List.map_inj_left.1 hrouters r hr)
  have hpassword : g n.password = n.password := congrArg NeighborConfig.password (List.map_inj_left.1 hneighbors n hn)
  by_contra hmem
  exact hmoves n.password hmem hp hpassword

/-- A password that is not set stays so. -/
def renamed (f : String → String) (p : String) : String := if p = "" then "" else f p

/-- The translation under a map that is injective on the passwords of the resources. -/
theorem apiToFRR_renamed [RangeOrder] {f : String → String} {resources : ClusterResources}
    (hinj : ∀ p ∈ resources.passwords, ∀ q ∈ resources.passwords, f p = f q → p = q)
    (hempty : ∀ p ∈ resources.passwords, f p ≠ "") (alwaysBlock : List Net.IPNet) :
    apiToFRR (resources.mapPasswords (renamed f)) alwaysBlock =
      (apiToFRR resources alwaysBlock).map (Config.mapPasswords (renamed f)) := by
  obtain ⟨g, hvalues, -⟩ := Renaming.extend f resources.passwords hinj
    (fun p hp => ⟨ne_empty_of_mem_passwords hp, hempty p hp⟩)
  have hagree : ∀ p, p ∈ resources.passwords ∨ p = "" → renamed f p = g p := by
    intro p hp
    unfold renamed
    split
    · next h => rw [h, g.empty]
    · next h => exact (hvalues p (hp.resolve_right h)).symm
  rw [ClusterResources.mapPasswords_congr (fun p hp => hagree p (Or.inl hp)) (hagree "" (Or.inr rfl)), apiToFRR_map]
  cases hc : apiToFRR resources alwaysBlock with
  | error e => rfl
  | ok c =>
    refine congrArg Except.ok (Config.mapPasswords_congr (fun r hr n hn => ?_))
    by_cases hp : n.password = ""
    · exact (hagree _ (Or.inr hp)).symm
    · exact (hagree _ (Or.inl (mem_passwords_of_apiToFRR hc hr hn hp))).symm

end FrrK8s
