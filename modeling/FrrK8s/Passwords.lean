import FrrK8s.Contributors
/-!
# Passwords — configurations that differ only in passwords

Neighbors, entries and configurations that are alike but for passwords and secret references are translated alike: they
tell the same facts, but for those about passwords (`told_like`).  So when one list is acceptable, a list like it is
acceptable exactly when its passwords can be found and neighbors of one VRF and ID have the same (`Acceptable.like`,
`Acceptable.samePasswords`), whatever is blocked.
-/
namespace FrrK8s

/-! ## Alike but for passwords -/

def Neighbor.Like (a b : Neighbor) : Prop :=
  ∃ password secret, b = { a with password := password, passwordSecret := secret }

def Router.Like (r s : Router) : Prop :=
  ∃ ns, s = { r with neighbors := ns } ∧ List.Forall₂ Neighbor.Like r.neighbors ns

def FRRConfiguration.Like (cfg other : FRRConfiguration) : Prop :=
  ∃ rs, other = { cfg with routers := rs } ∧ List.Forall₂ Router.Like cfg.routers rs

/-- A fact about a password. -/
def RouterFact.isPassword : RouterFact → Prop
  | .neighbor _ (.attr .password _) => True
  | _ => False

section

variable {secrets secrets' : SortedMap String Secret} {alwaysBlock alwaysBlock' : List Net.IPNet}

theorem neighborToFRR_like {a b : Neighbor} {prefixes : List String} {block block' : List IncomingFilter} {vrf : String}
    {profiles : SortedMap String BFDProfile} {m : NeighborConfig} {password : String} (hab : a.Like b)
    (h : neighborToFRR a prefixes block vrf secrets profiles = .ok m)
    (hp : passwordForNeighbor b secrets' = .ok password) :
    neighborToFRR b prefixes block' vrf secrets' profiles =
    .ok { m with password := password, alwaysBlock := block' } := by
  obtain ⟨checks, f, hf, timers, ht, _, -, out, hout, incoming, hin, rfl⟩ := (neighborToFRR_eq_ok ..).1 h
  obtain ⟨_, _, rfl⟩ := hab
  refine (neighborToFRR_eq_ok ..).2 ⟨?_, f, hf, timers, ht, password, hp, out, hout, incoming, hin, rfl⟩
  exact ⟨checks.hasPeer, checks.onePeer, checks.bfdProfile, checks.hasASN, checks.oneASN, checks.dynamicASN⟩

theorem tells_like {m : NeighborConfig} {password : String} {block : List IncomingFilter} {x : NeighborFact}
    (hx : ∀ v, x ≠ .attr .password v) :
    ({ m with password := password, alwaysBlock := block } : NeighborConfig).tells x ↔ m.tells x := by
  cases x with
  | attr a v =>
    cases a with
    | password => exact absurd rfl (hx v)
    | _ => exact Iff.rfl
  | _ => exact Iff.rfl

theorem prefixesForVRFs_like {rs ss : List Router} (h : List.Forall₂ Router.Like rs ss) :
    prefixesForVRFs ss = prefixesForVRFs rs := by
  unfold prefixesForVRFs
  generalize (SortedMap.empty : SortedMap String (List String)) = m
  induction h generalizing m with
  | nil => rfl
  | cons hrs _ ih =>
    obtain ⟨ns, rfl, -⟩ := hrs
    exact ih _

theorem routerNeighborToFRR_like {r : Router} {ns : List Neighbor} {a b : Neighbor} {prefixes : List String}
    {block block' : List IncomingFilter} {profiles : SortedMap String BFDProfile} {m : NeighborConfig}
    {password : String} (hab : a.Like b) (h : routerNeighborToFRR r block secrets profiles prefixes a = .ok m)
    (hp : passwordForNeighbor b secrets' = .ok password) :
    routerNeighborToFRR { r with neighbors := ns } block' secrets' profiles prefixes b =
      .ok { m with password := password, alwaysBlock := block' } := by
  obtain ⟨hasn, hm⟩ := (routerNeighborToFRR_eq_ok ..).1 h
  refine (routerNeighborToFRR_eq_ok ..).2 ⟨?_, neighborToFRR_like hab hm hp⟩
  obtain ⟨_, _, rfl⟩ := hab
  exact hasn

/-- Neighbors that are alike are translated alike, one by one. -/
theorem mapM_routerNeighborToFRR_like {r : Router} {ns : List Neighbor} {prefixes : List String}
    {block block' : List IncomingFilter} {profiles : SortedMap String BFDProfile} {as bs : List Neighbor}
    (h : List.Forall₂ Neighbor.Like as bs) (hp : ∀ b ∈ bs, (passwordForNeighbor b secrets').isOk = true) :
    ∀ {ms : List NeighborConfig}, as.mapM (routerNeighborToFRR r block secrets profiles prefixes) = .ok ms →
      ∃ ms', bs.mapM (routerNeighborToFRR { r with neighbors := ns } block' secrets' profiles prefixes) = .ok ms' ∧
        List.Forall₂ (fun m m' => ∃ password, m' = { m with password := password, alwaysBlock := block' }) ms ms' := by
  induction h with
  | nil =>
    intro ms hms
    cases hms
    exact ⟨[], rfl, .nil⟩
  | @cons a b as bs hab _ ih =>
    intro ms hms
    rw [List.mapM_cons, bind_eq_ok] at hms
    obtain ⟨m, hm, hms⟩ := hms
    rw [bind_eq_ok] at hms
    obtain ⟨ms, hrest, hms⟩ := hms
    cases hms
    obtain ⟨password, hpass⟩ := (isOk_iff _).1 (hp b (List.mem_cons_self ..))
    obtain ⟨ms', hms', hlike⟩ := ih (fun b' hb' => hp b' (List.mem_cons_of_mem _ hb')) hrest
    refine ⟨_ :: ms', ?_, .cons ⟨password, rfl⟩ hlike⟩
    rw [List.mapM_cons, routerNeighborToFRR_like hab hm hpass, hms']
    rfl

/-- **Entries that are alike are translated alike.** -/
theorem entryFor_like {cfg cfg' : FRRConfiguration} {r r' : Router} {c : RouterConfig} (hcfg : cfg.Like cfg')
    (hr : r.Like r') (hp : ∀ b ∈ r'.neighbors, (passwordForNeighbor b secrets').isOk = true)
    (h : entryFor secrets alwaysBlock cfg r = .ok c) : ∃ c', entryFor secrets' alwaysBlock' cfg' r' = .ok c' ∧
      c'.vrf = c.vrf ∧ ∀ x, ¬ x.isPassword → (c'.tells x ↔ c.tells x) := by
  obtain ⟨rs, rfl, hrs⟩ := hcfg
  obtain ⟨ns, rfl, hns⟩ := hr
  obtain ⟨hprefixes, himports, imported, himported, hout, hc⟩ := (routerFor_eq_ok ..).1 h
  obtain ⟨ms, hms, rfl⟩ := (routerToFRRConfig_eq_ok ..).1 hc
  obtain ⟨ms', hms', hlike⟩ := mapM_routerNeighborToFRR_like hns hp hms
  obtain ⟨hright, hleft⟩ := exists_of_forall₂ hlike
  refine ⟨_, (routerFor_eq_ok ..).2 ⟨hprefixes, ?_, imported, ?_, ?_,
    (routerToFRRConfig_eq_ok ..).2 ⟨ms', hms', rfl⟩⟩, rfl, fun x hx => ?_⟩
  · rw [prefixesForVRFs_like hrs]
    exact himports
  · rw [prefixesForVRFs_like hrs]
    exact himported
  · refine (forM_eq_ok _ _).2 (fun b hb => ?_)
    obtain ⟨a, ha, _, _, rfl⟩ := (exists_of_forall₂ hns).2 b hb
    exact (forM_eq_ok _ _).1 hout a ha
  · cases x with
    | neighbor id f =>
      have hf : ∀ v, f ≠ .attr .password v := by
        rintro v rfl
        exact hx trivial
      constructor
      · rintro ⟨m', hm', hid, htells⟩
        obtain ⟨m, hm, password, rfl⟩ := hleft m' hm'
        exact ⟨m, hm, hid, (tells_like hf).1 htells⟩
      · rintro ⟨m, hm, hid, htells⟩
        obtain ⟨m', hm', password, rfl⟩ := hright m hm
        exact ⟨_, hm', hid, (tells_like hf).2 htells⟩
    | _ => exact Iff.rfl

/-! ## All configurations -/

/-- The password of every neighbor can be found. -/
def PasswordsFound (secrets : SortedMap String Secret) (cfgs : List FRRConfiguration) : Prop :=
  ∀ cfg ∈ cfgs, ∀ r ∈ cfg.routers, ∀ a ∈ r.neighbors, (passwordForNeighbor a secrets).isOk = true

/-- Neighbors declared with one VRF and ID have the same password. -/
def SamePasswords (secrets : SortedMap String Secret) (cfgs : List FRRConfiguration) : Prop :=
  ∀ vrf id cfg e a cfg' e' a', Contributes cfgs vrf id cfg e a → Contributes cfgs vrf id cfg' e' a' →
    passwordForNeighbor a secrets = passwordForNeighbor a' secrets

variable {cfgs cfgs' : List FRRConfiguration}

theorem like_entries (hlike : List.Forall₂ FRRConfiguration.Like cfgs cfgs') :
    (∀ cfg ∈ cfgs, ∀ r ∈ cfg.routers, ∃ cfg' ∈ cfgs', ∃ r' ∈ cfg'.routers, cfg.Like cfg' ∧ r.Like r') ∧
      ∀ cfg' ∈ cfgs', ∀ r' ∈ cfg'.routers, ∃ cfg ∈ cfgs, ∃ r ∈ cfg.routers, cfg.Like cfg' ∧ r.Like r' := by
  obtain ⟨hright, hleft⟩ := exists_of_forall₂ hlike
  refine ⟨fun cfg hcfg r hr => ?_, fun cfg' hcfg' r' hr' => ?_⟩
  · obtain ⟨_, hcfg', rs, rfl, hrs⟩ := hright cfg hcfg
    obtain ⟨r', hr', h⟩ := (exists_of_forall₂ hrs).1 r hr
    exact ⟨_, hcfg', r', hr', ⟨rs, rfl, hrs⟩, h⟩
  · obtain ⟨cfg, hcfg, rs, rfl, hrs⟩ := hleft cfg' hcfg'
    obtain ⟨r, hr, h⟩ := (exists_of_forall₂ hrs).2 r' hr'
    exact ⟨cfg, hcfg, r, hr, ⟨rs, rfl, hrs⟩, h⟩

/-- **Lists that are alike tell the same**, but for passwords. -/
theorem told_like (hlike : List.Forall₂ FRRConfiguration.Like cfgs cfgs') (hacc : Acceptable secrets alwaysBlock cfgs)
    (hfound : PasswordsFound secrets' cfgs') {x : String × RouterFact} (hx : ¬ x.2.isPassword) :
    told secrets' alwaysBlock' cfgs' x ↔ told secrets alwaysBlock cfgs x := by
  obtain ⟨hright, hleft⟩ := like_entries hlike
  refine ⟨fun ⟨cfg', hcfg', r', hr', c', hc', hk, hc'x⟩ => ?_, fun ⟨cfg, hcfg, r, hr, c, hc, hk, hcx⟩ => ?_⟩
  · obtain ⟨cfg, hcfg, r, hr, hlc, hlr⟩ := hleft cfg' hcfg' r' hr'
    obtain ⟨c, hc⟩ := (isOk_iff _).1 (hacc.entries cfg hcfg r hr)
    obtain ⟨c'', hc'', hvrf, htells⟩ := @entryFor_like secrets secrets' alwaysBlock alwaysBlock' _ _ _ _ c hlc hlr
      (hfound cfg' hcfg' r' hr') hc
    obtain rfl := Except.ok.inj (hc'.symm.trans hc'')
    exact ⟨cfg, hcfg, r, hr, c, hc, hvrf.symm.trans hk, (htells _ hx).1 hc'x⟩
  · obtain ⟨cfg', hcfg', r', hr', hlc, hlr⟩ := hright cfg hcfg r hr
    obtain ⟨c', hc', hvrf, htells⟩ := @entryFor_like secrets secrets' alwaysBlock alwaysBlock' _ _ _ _ c hlc hlr
      (hfound cfg' hcfg' r' hr') hc
    exact ⟨cfg', hcfg', r', hr', c', hc', hvrf.trans hk, (htells _ hx).2 hcx⟩

/-- A password that is told is that of a declared neighbor, which has an ASN, too. -/
theorem told_password {vrf id : String} {x : NeighborFact} (h : told secrets alwaysBlock cfgs (vrf, .neighbor id x)) :
    (∃ v, told secrets alwaysBlock cfgs (vrf, .neighbor id (.attr .asn v))) ∧
      ∀ v, x = .attr .password v → ∃ cfg e a, Contributes cfgs vrf id cfg e a ∧
        ∃ password, passwordForNeighbor a secrets = .ok password ∧ v = .text password := by
  obtain ⟨cfg, hcfg, e, he, c, hc, hvrf, m, hm, hid, hx⟩ := h
  refine ⟨⟨.text m.asn, cfg, hcfg, e, he, c, hc, hvrf, m, hm, hid, rfl⟩, fun v hv => ?_⟩
  subst hv
  obtain ⟨a, ha, hm⟩ := ((entryFor_neighbors hc).2.2 m).1 hm
  have hevrf : e.vrf = vrf := (entryFor_wf hc).1.symm.trans hvrf
  refine ⟨cfg, e, a, ⟨hcfg, he, hevrf, ha, ?_⟩, m.password, ?_, (Option.some.inj hx).symm⟩
  · rw [← hevrf, ← translation_id hm, hid]
  · obtain ⟨-, _, -, _, -, password, hp, _, -, _, -, rfl⟩ := (neighborToFRR_eq_ok ..).1 hm
    exact hp

theorem exists_of_isPassword {x : RouterFact} (hx : x.isPassword) : ∃ id v, x = .neighbor id (.attr .password v) := by
  cases x with
  | neighbor id f =>
    cases f with
    | attr a v =>
      cases a with
      | password => exact ⟨id, v, rfl⟩
      | _ => exact hx.elim
    | _ => exact hx.elim
  | _ => exact hx.elim

/-- A password clashes only with a password of the same neighbor. -/
theorem clash_password {id : String} {v : Datum} {y : RouterFact}
    (h : RouterFact.clash (.neighbor id (.attr .password v)) y) :
    ∃ w, y = .neighbor id (.attr .password w) ∧ v ≠ w := by
  cases y with
  | neighbor id' g =>
    cases g with
    | attr b w =>
      obtain ⟨rfl, rfl, hne⟩ := h
      exact ⟨w, rfl, hne⟩
    | _ => exact h.2.elim
  | _ => exact h.elim

/-- Passwords clash only with passwords, and everything else is told by the other list. -/
theorem Acceptable.agree_like (h : Acceptable secrets alwaysBlock cfgs)
    (hlike : List.Forall₂ FRRConfiguration.Like cfgs cfgs') (hfound : PasswordsFound secrets' cfgs')
    (hsame : SamePasswords secrets' cfgs') :
    Agree (keyClash RouterFact.clash) (told secrets' alwaysBlock' cfgs') (told secrets' alwaysBlock' cfgs') := by
  rintro ⟨vrf, f⟩ ⟨vrf', g⟩ hx hy ⟨hvrf, hclash⟩
  simp only at hvrf hclash
  subst hvrf
  by_cases hf : f.isPassword
  · obtain ⟨id, v, rfl⟩ := exists_of_isPassword hf
    obtain ⟨w, rfl, hne⟩ := clash_password hclash
    obtain ⟨cfg, e, a, hcon, password, hp, rfl⟩ := (told_password hx).2 v rfl
    obtain ⟨cfg', e', a', hcon', password', hp', rfl⟩ := (told_password hy).2 w rfl
    have heq := hsame _ _ _ _ _ _ _ _ hcon hcon'
    rw [hp, hp', Except.ok.injEq] at heq
    exact hne (by rw [heq])
  · have hg : ¬ g.isPassword := by
      intro hg
      obtain ⟨id, w, rfl⟩ := exists_of_isPassword hg
      obtain ⟨v, rfl, -⟩ := clash_password (RouterFact.clash_symm _ _ hclash)
      exact hf trivial
    exact h.agree _ _ ((told_like hlike h hfound hf).1 hx) ((told_like hlike h hfound hg).1 hy) ⟨rfl, hclash⟩

/-- **What is like an acceptable list is acceptable**, when its passwords are found and are the same for one
neighbor. -/
theorem Acceptable.like (h : Acceptable secrets alwaysBlock cfgs)
    (hlike : List.Forall₂ FRRConfiguration.Like cfgs cfgs') (hfound : PasswordsFound secrets' cfgs')
    (hsame : SamePasswords secrets' cfgs') : Acceptable secrets' alwaysBlock' cfgs' := by
  obtain ⟨-, hleft⟩ := like_entries hlike
  obtain ⟨-, hcfgs⟩ := exists_of_forall₂ hlike
  have htold : ∀ {x : String × RouterFact}, ¬ x.2.isPassword →
      (told secrets' alwaysBlock' cfgs' x ↔ told secrets alwaysBlock cfgs x) := fun hx => told_like hlike h hfound hx
  have hprofile : ∀ p, toldProfile cfgs' p → toldProfile cfgs p := by
    rintro p ⟨cfg', hcfg', b, hb, hp⟩
    obtain ⟨cfg, hcfg, rs, rfl, -⟩ := hcfgs cfg' hcfg'
    exact ⟨cfg, hcfg, b, hb, hp⟩
  refine ⟨fun cfg' hcfg' => ?_, fun cfg' hcfg' r' hr' => ?_,
    fun p q hp hq => h.profiles p q (hprofile p hp) (hprofile q hq), h.agree_like hlike hfound hsame, ?_, ?_, ?_⟩
  · obtain ⟨cfg, hcfg, rs, rfl, -⟩ := hcfgs cfg' hcfg'
    exact h.profileNames cfg hcfg
  · obtain ⟨cfg, hcfg, r, hr, hlc, hlr⟩ := hleft cfg' hcfg' r' hr'
    obtain ⟨c, hc⟩ := (isOk_iff _).1 (h.entries cfg hcfg r hr)
    obtain ⟨c', hc', -⟩ := @entryFor_like secrets secrets' alwaysBlock alwaysBlock' _ _ _ _ c hlc hlr
      (hfound cfg' hcfg' r' hr') hc
    rw [hc']
    rfl
  · intro vrf hneed
    have hneed' : needsEvpnNeighbor (told secrets alwaysBlock cfgs) vrf :=
      hneed.imp (htold id).1 (Or.imp (htold id).1 (Exists.imp (fun _ => (htold id).1)))
    obtain ⟨i, hi⟩ := h.evpn.neighbor vrf hneed'
    exact ⟨i, (htold id).2 hi⟩
  · intro vrf n i f hl3 hn
    obtain ⟨v, hv⟩ := (told_password hn).1
    exact h.evpn.l3 vrf n i _ ((htold id).1 hl3) ((htold id).1 hv)
  · have huses : ∀ u n, usesVNI (told secrets' alwaysBlock' cfgs') u n → usesVNI (told secrets alwaysBlock cfgs) u n :=
      fun u n hu => hu.imp (And.imp_right (Exists.imp (fun _ => (htold id).1))) (And.imp_right (htold id).1)
    exact fun u v n hu hv => h.evpn.unique u v n (huses u n hu) (huses v n hv)

/-- Neighbors of one VRF and ID have the same password in an acceptable list. -/
theorem Acceptable.samePasswords (h : Acceptable secrets alwaysBlock cfgs) :
    PasswordsFound secrets cfgs ∧ SamePasswords secrets cfgs := by
  have htrans : ∀ {vrf id cfg e a}, Contributes cfgs vrf id cfg e a → ∃ password,
      passwordForNeighbor a secrets = .ok password ∧
        told secrets alwaysBlock cfgs (vrf, .neighbor id (.attr .password (.text password))) := by
    intro vrf id cfg e a hcon
    obtain ⟨m, -, hm, -, -⟩ := hcon.translated h
    have htold := (told_neighbor_iff h vrf id (.attr .password (.text m.password))).2 ⟨cfg, e, a, hcon, m, hm, rfl⟩
    obtain ⟨-, _, -, _, -, password, hp, _, -, _, -, rfl⟩ := (neighborToFRR_eq_ok ..).1 hm
    exact ⟨password, hp, htold⟩
  refine ⟨fun cfg hcfg r hr a ha => ?_, fun vrf id cfg e a cfg' e' a' hcon hcon' => ?_⟩
  · obtain ⟨password, hp, -⟩ := htrans ⟨hcfg, hr, rfl, ha, rfl⟩
    rw [hp]
    rfl
  · obtain ⟨password, hp, htold⟩ := htrans hcon
    obtain ⟨password', hp', htold'⟩ := htrans hcon'
    have hagree := h.agree _ _ htold htold'
    rw [hp, hp']
    exact congrArg _ (not_not.1 (fun hne => hagree ⟨rfl, rfl, rfl, fun h => hne (Datum.text.inj h)⟩))

end

end FrrK8s
