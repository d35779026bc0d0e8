import FrrK8s.Contributors
/-!
# Session — the session attributes of a neighbor and those its contributors ask for

Every attribute `neighborsAreCompatible` compares is, in the result, what each contributor asks for.  Graceful restart
is not compared: the result has that of one contributor, and of each of them exactly when they agree
(`apiToFRR_session_iff`).
-/
namespace FrrK8s

/-- The attributes of `n` that are compared are those `a` asks for.  A port or timer left out is its default, timers
count in the whole seconds FRR is configured in, and a missing BFD profile may be another contributor's. -/
structure ComparedOf (secrets : SortedMap String Secret) (a : Neighbor) (n : NeighborConfig) : Prop where
  asn : n.asn = asnFor a
  port : n.port.getD defaultBGPPort = a.port.getD defaultBGPPort
  srcAddr : n.srcAddr = a.sourceAddress
  password : passwordForNeighbor a secrets = .ok n.password
  bfdProfile : a.bfdProfile = "" ∨ n.bfdProfile = a.bfdProfile
  ebgpMultiHop : n.ebgpMultiHop = a.ebgpMultiHop
  ipFamily : addressFamilyForNeighbor a = .ok n.ipFamily
  holdTime : n.holdTime.getD defaultHoldTime = (a.holdTime.map seconds).getD defaultHoldTime
  keepaliveTime : n.keepaliveTime.getD defaultKeepaliveTime = (a.keepaliveTime.map seconds).getD defaultKeepaliveTime
  connectTime : n.connectTime.getD defaultConnectTime = (a.connectTime.map seconds).getD defaultConnectTime
  localASN : n.localASN = a.localASN

/-- **The session of `n` is the one `a` asks for.** -/
structure SessionOf (secrets : SortedMap String Secret) (a : Neighbor) (n : NeighborConfig) : Prop
    extends ComparedOf secrets a n where
  gracefulRestart : n.gracefulRestart = a.enableGracefulRestart

theorem parseTimers_eq {ht ka : Option Int} {timers : Option Int × Option Int} (h : parseTimers ht ka = .ok timers) :
    timers = (ht.map seconds, ka.map seconds) := by
  cases ht with
  | none =>
    cases ka with
    | none => exact (Except.ok.inj h).symm
    | some ka => simp [parseTimers] at h
  | some ht =>
    cases ka with
    | none => simp [parseTimers] at h
    | some ka =>
      simp only [parseTimers, bind_eq_ok, pure_eq_ok] at h
      obtain ⟨-, -, -, -, rfl⟩ := h
      rfl

/-- A translation has the session its neighbor asks for. -/
theorem translation_sessionOf {secrets : SortedMap String Secret} {alwaysBlock : List Net.IPNet}
    {cfg : FRRConfiguration} {e : Router} {a : Neighbor} {m : NeighborConfig}
    (h : translation secrets alwaysBlock cfg e a = .ok m) : SessionOf secrets a m := by
  obtain ⟨-, f, hf, timers, ht, password, hp, out, -, incoming, -, rfl⟩ := (neighborToFRR_eq_ok ..).1 h
  obtain rfl := parseTimers_eq ht
  exact ⟨⟨rfl, rfl, rfl, hp, Or.inr rfl, rfl, hf, rfl, rfl, rfl, rfl⟩, rfl⟩

theorem setting_eq_some {s t : String} (h : setting s = some (.text t)) : s = t := by
  unfold setting at h
  split at h
  · cases h
  · exact Datum.text.inj (Option.some.inj h)

theorem setting_iff {s t : String} (ht : t ≠ "") : setting s = some (.text t) ↔ s = t := by
  refine ⟨setting_eq_some, ?_⟩
  rintro rfl
  exact if_neg ht

/-- The compared attributes are carried over with what a neighbor settles. -/
theorem ComparedOf.of_attrs {secrets : SortedMap String Secret} {a : Neighbor} {m n : NeighborConfig}
    (h : ComparedOf secrets a m) (hattr : ∀ k v, m.attr? k = some v → n.attr? k = some v) : ComparedOf secrets a n := by
  have hasn := hattr .asn _ rfl
  have hport := hattr .port _ rfl
  have hsrc := hattr .srcAddr _ rfl
  have hpass := hattr .password _ rfl
  have hhop := hattr .ebgpMultiHop _ rfl
  have hfam := hattr .ipFamily _ rfl
  have hhold := hattr .holdTime _ rfl
  have hkeep := hattr .keepaliveTime _ rfl
  have hconn := hattr .connectTime _ rfl
  have hlocal := hattr .localASN _ rfl
  simp only [NeighborConfig.attr?, Option.some.injEq, Datum.text.injEq, Datum.nat.injEq, Datum.int.injEq,
    Datum.bool.injEq, Datum.family.injEq] at hasn hport hsrc hpass hhop hfam hhold hkeep hconn hlocal
  refine ⟨hasn.trans h.asn, hport.trans h.port, hsrc.trans h.srcAddr, hpass ▸ h.password, ?_, hhop.trans h.ebgpMultiHop,
    hfam ▸ h.ipFamily, hhold.trans h.holdTime, hkeep.trans h.keepaliveTime, hconn.trans h.connectTime,
    hlocal.trans h.localASN⟩
  by_cases ha : a.bfdProfile = ""
  · exact Or.inl ha
  · have hm : m.attr? .bfdProfile = some (.text a.bfdProfile) := by
      simp [NeighborConfig.attr?, setting, h.bfdProfile.resolve_left ha, ha]
    exact Or.inr (setting_eq_some (hattr .bfdProfile _ hm))

section

variable {secrets : SortedMap String Secret} {alwaysBlock : List Net.IPNet} {cfgs : List FRRConfiguration} {c : Config}

/-- The result has what each contributor asks for of what is compared. -/
theorem ResultOf.comparedOf (hacc : Acceptable secrets alwaysBlock cfgs) (h : ResultOf secrets alwaysBlock cfgs c)
    {r : RouterConfig} (hr : r ∈ c.routers) {n : NeighborConfig} (hn : n ∈ r.neighbors) {cfg : FRRConfiguration}
    {e : Router} {a : Neighbor} (hcon : Contributes cfgs r.vrf n.id cfg e a) : ComparedOf secrets a n := by
  obtain ⟨m, f, hm, -, -⟩ := hcon.translated hacc
  refine (translation_sessionOf hm).toComparedOf.of_attrs (fun k v hv => ?_)
  exact (h.neighbor_told hr hn (.attr k v)).2 ((told_neighbor_iff hacc _ _ _).2 ⟨cfg, e, a, hcon, m, hm, hv⟩)

/-- The graceful restart of a neighbor of the result is that of one of its contributors. -/
theorem ResultOf.gracefulRestart_of (h : ResultOf secrets alwaysBlock cfgs c) {r : RouterConfig} (hr : r ∈ c.routers)
    {n : NeighborConfig} (hn : n ∈ r.neighbors) :
    ∃ cfg e a, Contributes cfgs r.vrf n.id cfg e a ∧ n.gracefulRestart = a.enableGracefulRestart := by
  obtain ⟨cfg, e, a, hcon, m, hm, hk⟩ := brought_neighbor (h.keeps r hr (n.id, .identity n.identity) ⟨n, hn, rfl, rfl⟩)
  have hgr : m.gracefulRestart = n.gracefulRestart := congrArg Identity.gracefulRestart hk
  exact ⟨cfg, e, a, hcon, hgr.symm.trans (translation_sessionOf hm).gracefulRestart⟩

/-- A router and its session with one neighbor, with or without graceful restart. -/
def restarting (name : String) (enableGracefulRestart : Bool) : FRRConfiguration :=
  { name := name
    routers := [{ asn := 64512, neighbors := [{
      asn := 64513, address := "10.0.0.1", enableGracefulRestart := enableGracefulRestart }] }] }

/-- **The session of every neighbor of a result is the one each contributor asks for, exactly when contributors agree
on graceful restart.**  Every other attribute is always the one each contributor asks for: contributors that disagree
on one are refused. -/
theorem apiToFRR_session_iff (secrets : SortedMap String Secret) (alwaysBlock : List Net.IPNet)
    (cfgs : List FRRConfiguration) (c : Config) (h : apiToFRR ⟨cfgs, secrets⟩ alwaysBlock = .ok c) :
    (∀ r ∈ c.routers, ∀ n ∈ r.neighbors, ∀ cfg e a, Contributes cfgs r.vrf n.id cfg e a → ComparedOf secrets a n) ∧
    ((∀ r ∈ c.routers, ∀ n ∈ r.neighbors, ∀ cfg e a, Contributes cfgs r.vrf n.id cfg e a → SessionOf secrets a n) ↔
      ∀ vrf id cfg e a cfg' e' a', Contributes cfgs vrf id cfg e a → Contributes cfgs vrf id cfg' e' a' →
        a.enableGracefulRestart = a'.enableGracefulRestart) := by
  have hacc := apiToFRR_acceptable h
  have hres := apiToFRR_result h
  refine ⟨fun r hr n hn cfg e a hcon => hres.comparedOf hacc hr hn hcon,
    fun hsession vrf id cfg e a cfg' e' a' hcon hcon' => ?_, fun hagree r hr n hn cfg e a hcon => ?_⟩
  · obtain ⟨r, hr, rfl, n, hn, rfl⟩ := hres.exists_neighbor hacc hcon
    have ha := (hsession r hr n hn cfg e a hcon).gracefulRestart
    have ha' := (hsession r hr n hn cfg' e' a' hcon').gracefulRestart
    exact ha.symm.trans ha'
  · obtain ⟨cfg', e', a', hcon', hgr⟩ := hres.gracefulRestart_of hr hn
    exact ⟨hres.comparedOf hacc hr hn hcon, hgr.trans (hagree _ _ cfg' e' a' cfg e a hcon' hcon)⟩

theorem apiToFRR_session_iff_restarting :
    ∃ c, apiToFRR ⟨[restarting "first" true, restarting "second" true], .empty⟩ [] = .ok c ∧
      ∀ r ∈ c.routers, ∀ n ∈ r.neighbors, ∀ cfg e a,
        Contributes [restarting "first" true, restarting "second" true] r.vrf n.id cfg e a → SessionOf .empty a n := by
  obtain ⟨c, hc⟩ := (isOk_iff (apiToFRR ⟨[restarting "first" true, restarting "second" true], .empty⟩ [])).1
    (by decide +kernel)
  have hall : ∀ cfg ∈ [restarting "first" true, restarting "second" true], ∀ e ∈ cfg.routers, ∀ a ∈ e.neighbors,
      a.enableGracefulRestart = true := by decide
  refine ⟨c, hc, (apiToFRR_session_iff .empty [] _ c hc).2.2 (fun vrf id cfg e a cfg' e' a' h h' => ?_)⟩
  rw [hall cfg h.cfg_mem e h.entry_mem a h.mem, hall cfg' h'.cfg_mem e' h'.entry_mem a' h'.mem]

/-- Contributors that differ in graceful restart are merged, and the first one wins. -/
theorem gracefulRestart_of_first :
    (apiToFRR ⟨[restarting "first" true, restarting "second" false], .empty⟩ []).toOption.map
        (fun c => c.routers.flatMap (fun r => r.neighbors.map (fun n => (n.id, n.gracefulRestart)))) =
      some [("10.0.0.1", true)] ∧
    (apiToFRR ⟨[restarting "second" false, restarting "first" true], .empty⟩ []).toOption.map
        (fun c => c.routers.flatMap (fun r => r.neighbors.map (fun n => (n.id, n.gracefulRestart)))) =
      some [("10.0.0.1", false)] := by
  decide +kernel

end

end FrrK8s
