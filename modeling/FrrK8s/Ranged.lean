import FrrK8s.EvpnChecks
import FrrK8s.Renamed
/-!
# Ranged — the order of a range shows only in the text of an error

A loop over a map that checks each entry stops at the first one that fails, so the order decides which error is reported
and nothing else: in every order the translation fails, or succeeds with one and the same configuration
(`apiToFRR_toOption`).  What is proved about outcomes at the order of the keys is so true of every run.
-/
namespace FrrK8s

variable (order order' : RangeOrder)

/-! ## Merging -/

theorem mergeAllowedOut_toOption (r toMerge : AllowedOut) :
    (@mergeAllowedOut order r toMerge).toOption = (@mergeAllowedOut order' r toMerge).toOption := by
  ext c
  rw [toOption_eq_some, toOption_eq_some, @mergeAllowedOut_eq_ok order, @mergeAllowedOut_eq_ok order']

theorem mergeIntoNeighbor_toOption (dest src : NeighborConfig) :
    (@mergeIntoNeighbor order dest src).toOption = (@mergeIntoNeighbor order' dest src).toOption := by
  unfold mergeIntoNeighbor
  simp only [toOption_bind, toOption_wrap, mergeAllowedOut_toOption order order']

theorem mergeNeighborsLoop_toOption : ∀ (ps : List Nat) (store : Store) (merged : SortedMap String Nat),
    (@mergeNeighborsLoop order ps store merged).toOption = (@mergeNeighborsLoop order' ps store merged).toOption
  | [], _, _ => rfl
  | p :: ps, store, merged => by
    unfold mergeNeighborsLoop
    cases merged.find? (store p).id with
    | none => exact mergeNeighborsLoop_toOption ps store _
    | some d =>
      simp only [toOption_bind, mergeIntoNeighbor_toOption order order', mergeNeighborsLoop_toOption ps _ merged]

theorem mergeNeighborsLists_toOption (store : Store) (first toMerge : List Nat) :
    (@mergeNeighborsLists order store first toMerge).toOption =
      (@mergeNeighborsLists order' store first toMerge).toOption := by
  unfold mergeNeighborsLists
  dsimp only
  split
  · rfl
  · simp only [toOption_bind, mergeNeighborsLoop_toOption order order']

theorem mergeRouterConfigsWith_toOption {neighbors neighbors' : Result (List NeighborConfig)}
    (h : neighbors.toOption = neighbors'.toOption) (r toMerge : RouterConfig) :
    (mergeRouterConfigsWith r toMerge neighbors).toOption = (mergeRouterConfigsWith r toMerge neighbors').toOption := by
  unfold mergeRouterConfigsWith
  simp only [toOption_bind, h]

/-! ## All configurations -/

theorem vnisOfVRFs_perm (m : SortedMap String RouterConfig) : (@vnisOfVRFs order m).Perm (@vnisOfVRFs order' m) :=
  ((@SortedMap.ranged_perm _ _ _ order m).trans (@SortedMap.ranged_perm _ _ _ order' m).symm).flatMap_right _

theorem validateEVPN_toOption (m : SortedMap String RouterConfig) :
    (@validateEVPN order m).toOption = (@validateEVPN order' m).toOption := by
  ext u
  rw [toOption_eq_some, toOption_eq_some, @validateEVPN_eq_ok_iff order, @validateEVPN_eq_ok_iff order',
    ((vnisOfVRFs_perm order order' m).map _).nodup_iff]

theorem addRouter_toOption (alwaysBlock : List IncomingFilter) (secrets : SortedMap String Secret)
    (bfdProfiles : SortedMap String BFDProfile) (routersPrefixes : SortedMap String (List String))
    (routersForVRF : SortedMap String RouterConfig) (r : Router) :
    (@addRouter order alwaysBlock secrets bfdProfiles routersPrefixes routersForVRF r).toOption =
      (@addRouter order' alwaysBlock secrets bfdProfiles routersPrefixes routersForVRF r).toOption := by
  have hself : ∀ c, (@validateRouterConfig order c).toOption = (@validateRouterConfig order' c).toOption :=
    fun c => mergeRouterConfigsWith_toOption (mergeNeighborsLists_toOption order order' _ _ _) c c
  have hmerge : ∀ c d, (@mergeRouterConfigs order c d).toOption = (@mergeRouterConfigs order' c d).toOption :=
    fun c d => mergeRouterConfigsWith_toOption (mergeNeighborsLists_toOption order order' _ _ _) c d
  unfold addRouter
  simp only [toOption_bind, hself, upsert_toOption hmerge]

theorem addConfig_toOption (secrets : SortedMap String Secret) (alwaysBlock : List Net.IPNet) (st : ApiState)
    (cfg : FRRConfiguration) :
    (@addConfig order secrets alwaysBlock st cfg).toOption =
    (@addConfig order' secrets alwaysBlock st cfg).toOption := by
  unfold addConfig
  simp only [toOption_bind]
  refine Option.bind_congr (fun profiles _ => ?_)
  exact congrArg (Option.bind · _) (foldlM_toOption (addRouter_toOption order order' _ secrets profiles.1 _) _ _)

/-- **In every order the same configuration, or no configuration.** -/
theorem apiToFRR_toOption (resources : ClusterResources) (alwaysBlock : List Net.IPNet) :
    (@apiToFRR order resources alwaysBlock).toOption = (@apiToFRR order' resources alwaysBlock).toOption := by
  unfold apiToFRR
  simp only [toOption_bind, validateEVPN_toOption order order',
    foldlM_toOption (addConfig_toOption order order' resources.passwordSecrets alwaysBlock)]

end FrrK8s
