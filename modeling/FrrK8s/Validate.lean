import FrrK8s.Passwords
/-!
# Validate — what the webhook checks of configurations (`internal/controller/validate.go`)

`Validate` translates the configurations with their secret references blanked, since a secret may come later.  What it
accepts, `apiToFRR` translates with any secrets, once every password is found and neighbors that are merged have the
same (`validated_iff`): blanking hides, besides secrets that are missing, that two secrets have different passwords.
-/
namespace FrrK8s

/-- A `client.ObjectList`: `Validate` looks at lists of configurations only. -/
inductive ObjectList
  | frrConfigurationList (items : List FRRConfiguration)
  | other

def ObjectList.frrConfigs : ObjectList → List FRRConfiguration
  | .frrConfigurationList items => items
  | .other => []

def resetSecrets (cfgs : List FRRConfiguration) : List FRRConfiguration :=
  cfgs.map (fun cfg => { cfg with
    routers := cfg.routers.map (fun r => { r with
      neighbors := r.neighbors.map (fun n => { n with passwordSecret := "" }) }) })

def validate (resources : List ObjectList) : Result Unit := do
  let _ ← apiToFRR ⟨resetSecrets (resources.flatMap ObjectList.frrConfigs), .empty⟩ []
  return ()

theorem validate_eq_ok (cfgs : List FRRConfiguration) :
    validate [.frrConfigurationList cfgs] = .ok () ↔ Acceptable .empty [] (resetSecrets cfgs) := by
  rw [← apiToFRR_isOk, isOk_iff]
  unfold validate
  simp only [List.flatMap_cons, List.flatMap_nil, List.append_nil, ObjectList.frrConfigs, bind_eq_ok,
    and_true, pure_eq_ok]

theorem resetSecrets_like (cfgs : List FRRConfiguration) :
    List.Forall₂ FRRConfiguration.Like (resetSecrets cfgs) cfgs := by
  refine List.forall₂_map_left_iff.2 (List.forall₂_same.2 (fun cfg _ => ⟨cfg.routers, rfl, ?_⟩))
  refine List.forall₂_map_left_iff.2 (List.forall₂_same.2 (fun r _ => ⟨r.neighbors, rfl, ?_⟩))
  exact List.forall₂_map_left_iff.2 (List.forall₂_same.2 (fun n _ => ⟨n.password, n.passwordSecret, rfl⟩))

/-- **What was validated is acceptable exactly with passwords that are found and agree.** -/
theorem validated_iff {secrets : SortedMap String Secret} {alwaysBlock : List Net.IPNet} {cfgs : List FRRConfiguration}
    (h : validate [.frrConfigurationList cfgs] = .ok ()) :
    Acceptable secrets alwaysBlock cfgs ↔ PasswordsFound secrets cfgs ∧ SamePasswords secrets cfgs :=
  ⟨Acceptable.samePasswords, fun ⟨hfound, hsame⟩ =>
  ((validate_eq_ok cfgs).1 h).like (resetSecrets_like cfgs) hfound hsame⟩

/-- No neighbor refers to a secret. -/
def FRRConfiguration.NoSecrets (cfg : FRRConfiguration) : Prop :=
  ∀ r ∈ cfg.routers, ∀ a ∈ r.neighbors, a.passwordSecret = ""

theorem resetSecrets_eq {cfgs : List FRRConfiguration} (h : ∀ cfg ∈ cfgs, cfg.NoSecrets) :
    resetSecrets cfgs = cfgs := by
  refine (List.map_congr_left (fun cfg hcfg => ?_)).trans (List.map_id cfgs)
  have hrouters : cfg.routers.map (fun r => { r with
      neighbors := r.neighbors.map (fun n => { n with passwordSecret := "" }) }) = cfg.routers := by
    refine (List.map_congr_left (fun r hr => ?_)).trans (List.map_id cfg.routers)
    have hneighbors : r.neighbors.map (fun n => { n with passwordSecret := "" }) = r.neighbors :=
      (List.map_congr_left (fun n hn => by rw [← h cfg hcfg r hr n hn]; rfl)).trans (List.map_id r.neighbors)
    rw [hneighbors, id]
  rw [hrouters, id]

theorem passwordForNeighbor_noSecret {a : Neighbor} (h : a.passwordSecret = "") (secrets : SortedMap String Secret) :
    passwordForNeighbor a secrets = .ok a.password := by
  unfold passwordForNeighbor
  simp [h]

/-- **Without secret references, what was validated can be loaded**, with any secrets and whatever is blocked. -/
theorem validated_noSecrets {secrets : SortedMap String Secret} {alwaysBlock : List Net.IPNet}
    {cfgs : List FRRConfiguration} (h : validate [.frrConfigurationList cfgs] = .ok ())
    (hsecrets : ∀ cfg ∈ cfgs, cfg.NoSecrets) : Acceptable secrets alwaysBlock cfgs := by
  have hempty := (validate_eq_ok cfgs).1 h
  rw [resetSecrets_eq hsecrets] at hempty
  refine (validated_iff h).2 ⟨fun cfg hcfg r hr a ha => ?_, fun vrf id cfg e a cfg' e' a' hcon hcon' => ?_⟩
  · rw [passwordForNeighbor_noSecret (hsecrets cfg hcfg r hr a ha)]
    rfl
  · have hsame := hempty.samePasswords.2 vrf id cfg e a cfg' e' a' hcon hcon'
    have hpassword : ∀ {c r n}, Contributes cfgs vrf id c r n →
        ∀ secrets, passwordForNeighbor n secrets = .ok n.password :=
      fun hc => passwordForNeighbor_noSecret (hsecrets _ hc.cfg_mem _ hc.entry_mem _ hc.mem)
    rwa [hpassword hcon, hpassword hcon'] at hsame ⊢

/-! ## Secrets -/

/-- The secret is of the type for passwords and has one. -/
def Secret.usable (s : Secret) : Bool := s.type = secretTypeBasicAuth && (s.data.find? "password").isSome

/-- Every secret that a neighbor refers to is there, and is usable. -/
def SecretsUsable (secrets : SortedMap String Secret) (cfgs : List FRRConfiguration) : Prop :=
  ∀ cfg ∈ cfgs, ∀ r ∈ cfg.routers, ∀ a ∈ r.neighbors, a.passwordSecret ≠ "" →
    (secrets.find? a.passwordSecret).any Secret.usable = true

/-- No neighbor has both a password and a secret reference. -/
def OnePassword (cfgs : List FRRConfiguration) : Prop :=
  ∀ cfg ∈ cfgs, ∀ r ∈ cfg.routers, ∀ a ∈ r.neighbors, ¬ (a.password ≠ "" ∧ a.passwordSecret ≠ "")

theorem passwordForNeighbor_isOk {a : Neighbor} {secrets : SortedMap String Secret}
    (hone : ¬ (a.password ≠ "" ∧ a.passwordSecret ≠ ""))
    (husable : a.passwordSecret ≠ "" → (secrets.find? a.passwordSecret).any Secret.usable = true) :
    (passwordForNeighbor a secrets).isOk = true := by
  unfold passwordForNeighbor
  rw [if_neg hone]
  by_cases hp : a.password ≠ ""
  · rw [if_pos hp]
    rfl
  · by_cases hs : a.passwordSecret = ""
    · rw [if_neg hp, if_pos hs]
      rfl
    · rw [if_neg hp, if_neg hs]
      have hu := husable hs
      cases hfind : secrets.find? a.passwordSecret with
      | none => simp [hfind] at hu
      | some secret =>
        rw [hfind, Option.any_some] at hu
        obtain ⟨htype, hdata⟩ := Bool.and_eq_true_iff.1 hu
        obtain ⟨password, hdata⟩ := Option.isSome_iff_exists.1 hdata
        simp [of_decide_eq_true htype, hdata]

/-- **What the webhook validates can be loaded when merged neighbors have the same password.**  For configurations that
were validated, in which no neighbor has both a password and a secret reference, and usable secrets. -/
theorem validated_loads_iff (secrets : SortedMap String Secret) (alwaysBlock : List Net.IPNet)
    (cfgs : List FRRConfiguration) (h : validate [.frrConfigurationList cfgs] = .ok ())
    (hsecrets : SecretsUsable secrets cfgs) (hone : OnePassword cfgs) :
    (apiToFRR ⟨cfgs, secrets⟩ alwaysBlock).isOk = true ↔ SamePasswords secrets cfgs := by
  have hfound : PasswordsFound secrets cfgs := fun cfg hcfg r hr a ha =>
    passwordForNeighbor_isOk (hone cfg hcfg r hr a ha) (hsecrets cfg hcfg r hr a ha)
  rw [apiToFRR_isOk, validated_iff h, and_iff_right hfound]

/-- A session with one neighbor, its password in a secret. -/
def securedBy (secret : String) : FRRConfiguration :=
  { name := secret
    routers := [{ asn := 64512, neighbors := [{ asn := 64513, address := "10.0.0.1", passwordSecret := secret }] }] }

/-- Two secrets with different passwords. -/
def twoSecrets : SortedMap String Secret :=
  (SortedMap.empty.insert "first" { type := secretTypeBasicAuth,
                                    data := SortedMap.empty.insert "password" "one" }).insert
    "second" { type := secretTypeBasicAuth, data := SortedMap.empty.insert "password" "two" }

/-- Two configurations with one secret. -/
def sharedSecret : List FRRConfiguration := [securedBy "first", { securedBy "first" with name := "again" }]

theorem validated_loads_iff_shared : validate [.frrConfigurationList sharedSecret] = .ok () ∧
    (apiToFRR ⟨sharedSecret, twoSecrets⟩ []).isOk = true := by
  have hval : validate [.frrConfigurationList sharedSecret] = .ok () := by decide +kernel
  have husable : SecretsUsable twoSecrets sharedSecret := by unfold SecretsUsable; decide +kernel
  have hone : OnePassword sharedSecret := by unfold OnePassword; decide +kernel
  have hread : ∀ cfg ∈ sharedSecret, ∀ e ∈ cfg.routers, ∀ a ∈ e.neighbors,
      passwordForNeighbor a twoSecrets = .ok "one" := by
    decide +kernel
  refine ⟨hval, (validated_loads_iff twoSecrets [] _ hval husable hone).2 ?_⟩
  intro vrf id cfg e a cfg' e' a' hcon hcon'
  exact (hread cfg hcon.cfg_mem e hcon.entry_mem a hcon.mem).trans
    (hread cfg' hcon'.cfg_mem e' hcon'.entry_mem a' hcon'.mem).symm

/-- Two sessions with the same neighbor whose secrets have different passwords are validated, but not translated. -/
theorem validated_secrets_clash : validate [.frrConfigurationList [securedBy "first", securedBy "second"]] = .ok () ∧
    SecretsUsable twoSecrets [securedBy "first", securedBy "second"] ∧
    OnePassword [securedBy "first", securedBy "second"] ∧
    (apiToFRR ⟨[securedBy "first", securedBy "second"], twoSecrets⟩ []).isOk = false := by
  unfold SecretsUsable OnePassword
  decide +kernel

end FrrK8s
