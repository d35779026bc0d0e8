import FrrK8s.Union
/-!
# EvpnMerged — the EVPN section of a router of the result

A router's section has one VNI for each number the sections of its VRF ask for, with the union of their route targets
and their one route distinguisher; contributions that the rules do not let be merged are refused
(`apiToFRR_mergesEvpn`).
-/
namespace FrrK8s

/-! ## What the resources ask for -/

/-- `s` is the EVPN section of an entry of the VRF. -/
def EvpnSection (cfgs : List FRRConfiguration) (vrf : String) (s : EVPNSpec) : Prop :=
  ∃ cfg ∈ cfgs, ∃ e ∈ cfg.routers, e.vrf = vrf ∧ e.evpn = some s

/-- One of the sections asks for the L2 VNI `n` with the properties `p`. -/
def AsksL2VNI (sections : EVPNSpec → Prop) (n : Nat) (p : VNIPropertiesSpec) : Prop :=
  ∃ s, sections s ∧ ∃ v ∈ s.l2vnis, v.vni = n ∧ v.properties = p

/-- One of the sections asks for the L3 VNI `n` with the properties `p`. -/
def AsksL3VNI (sections : EVPNSpec → Prop) (n : Nat) (p : VNIPropertiesSpec) : Prop :=
  ∃ s, sections s ∧ ∃ v, s.l3vni = some v ∧ v.vni = n ∧ v.properties = p

/-- A section of some VRF contributes `p` to the VNI `n`, of either type. -/
def ContributesVNI (cfgs : List FRRConfiguration) (n : Nat) (p : VNIPropertiesSpec) : Prop :=
  ∃ vrf, AsksL2VNI (EvpnSection cfgs vrf) n p ∨ AsksL3VNI (EvpnSection cfgs vrf) n p

/-- Contributions to one VNI that cannot be merged: two route distinguishers, or route targets next to none. -/
def VNIPropertiesSpec.Conflict (p q : VNIPropertiesSpec) : Prop :=
  (p.rd ≠ "" ∧ q.rd ≠ "" ∧ p.rd ≠ q.rd) ∨ (p.importRTs.elems ≠ [] ∧ q.importRTs.elems = []) ∨
    (p.exportRTs.elems ≠ [] ∧ q.exportRTs.elems = [])

/-- `p` merges the properties asked for. -/
structure MergedProperties (asked : VNIPropertiesSpec → Prop) (p : VNIProperties) : Prop where
  importRTs : ∀ t, t ∈ p.importRTs.elems ↔ ∃ q, asked q ∧ t ∈ q.importRTs.elems
  importSorted : p.importRTs.elems.Pairwise (· < ·)
  exportRTs : ∀ t, t ∈ p.exportRTs.elems ↔ ∃ q, asked q ∧ t ∈ q.exportRTs.elems
  exportSorted : p.exportRTs.elems.Pairwise (· < ·)
  rd : ∀ q, asked q → q.rd ≠ "" → p.rd = q.rd
  rdAsked : p.rd ≠ "" → ∃ q, asked q ∧ q.rd = p.rd

/-- **`e` merges the sections**, VNI by VNI. -/
structure MergedSection (sections : EVPNSpec → Prop) (e : EVPNConfig) : Prop where
  l2Sorted : e.l2vnis.elems.Pairwise (fun v w => v.vni < w.vni)
  l2Numbers : ∀ n, (∃ v ∈ e.l2vnis.elems, v.vni = n) ↔ ∃ p, AsksL2VNI sections n p
  l2 : ∀ v ∈ e.l2vnis.elems, MergedProperties (AsksL2VNI sections v.vni) v.properties
  l3Number : ∀ n, (∃ v, e.l3vni = some v ∧ v.vni = n) ↔ ∃ p, AsksL3VNI sections n p
  l3 : ∀ v, e.l3vni = some v → MergedProperties (AsksL3VNI sections v.vni) v.properties
  l3Advertises : ∀ v, e.l3vni = some v → ∀ p, p ∈ v.advertisePrefixes.elems ↔
    ∃ s, sections s ∧ ∃ w, s.l3vni = some w ∧ p ∈ w.advertisePrefixes.elems
  l3AdvertisesSorted : ∀ v, e.l3vni = some v → v.advertisePrefixes.elems.Pairwise (· < ·)
  advertiseSVI : ∀ s, sections s → s.advertiseSVI = e.advertiseSVI
  advertiseVNIs : e.advertiseVNIs = some vniAdvertisementAll ↔
    ∀ s, sections s → s.advertiseVNIs = some vniAdvertisementAll

/-- **Every router of the result merges the EVPN sections of its VRF**, and no VNI is used twice. -/
structure MergesEvpn (cfgs : List FRRConfiguration) (c : Config) : Prop where
  without : ∀ r ∈ c.routers, r.evpn = none ↔ ¬ ∃ s, EvpnSection cfgs r.vrf s
  merged : ∀ r ∈ c.routers, ∀ e, r.evpn = some e → MergedSection (EvpnSection cfgs r.vrf) e
  unique : (c.routers.flatMap (fun r => (vnisOf r).map Prod.fst)).Nodup

/-! ## What a section tells -/

theorem evpnToFRR_l2vnis (s : EVPNSpec) : (evpnToFRR s).l2vnis.elems =
    s.l2vnis.map (fun l2 => { vni := l2.vni, properties := vniPropertiesToFRR l2.properties }) := by
  unfold evpnToFRR
  by_cases h : s.l2vnis = []
  · simp [h, Slice.elems]
  · simp [h, Slice.elems]

theorem evpnToFRR_l2 (s : EVPNSpec) (n : Nat) (f : VniFact) : (evpnToFRR s).tells (.l2 (n, f)) ↔
    ∃ v ∈ s.l2vnis, v.vni = n ∧ (vniPropertiesToFRR v.properties).tells f := by
  simp only [EVPNConfig.tells, l2Tells, evpnToFRR_l2vnis, keyTells, List.mem_map]
  constructor
  · rintro ⟨_, ⟨v, hv, rfl⟩, hn, hf⟩
    exact ⟨v, hv, hn, hf⟩
  · rintro ⟨v, hv, hn, hf⟩
    exact ⟨_, ⟨v, hv, rfl⟩, hn, hf⟩

/-- What the L3 VNI of a section tells is read off the one that is declared. -/
theorem evpnToFRR_l3vni (s : EVPNSpec) (P : L3VNI → Prop) : (∃ v, (evpnToFRR s).l3vni = some v ∧ P v) ↔
    ∃ v, s.l3vni = some v ∧ P ⟨v.vni, vniPropertiesToFRR v.properties, v.advertisePrefixes⟩ := by
  simp only [evpnToFRR, Option.map_eq_some_iff]
  constructor
  · rintro ⟨_, ⟨v, hv, rfl⟩, hP⟩
    exact ⟨v, hv, hP⟩
  · rintro ⟨v, hv, hP⟩
    exact ⟨_, ⟨v, hv, rfl⟩, hP⟩

/-- An unset `advertiseVNIs` is not `All`. -/
theorem advertisesAll_iff (o : Option String) :
    o.getD vniAdvertisementDisabled = vniAdvertisementAll ↔ o = some vniAdvertisementAll := by
  cases o with
  | none => decide
  | some v => simp

theorem NormalRTs.sorted {s : Slice String} (h : NormalRTs s) : s.elems.Pairwise (· < ·) := by
  obtain rfl | ⟨l, rfl, -, hl⟩ := h
  · exact List.Pairwise.nil
  · exact hl

theorem NormalL2.sorted {s : Slice L2VNI} (h : NormalL2 s) : s.elems.Pairwise (fun v w => v.vni < w.vni) := by
  obtain rfl | ⟨l, rfl, -, hl, -⟩ := h
  · exact List.Pairwise.nil
  · exact hl

/-- Properties in normal form that tell what is asked for merge it. -/
theorem VNIProperties.Normal.merged {asked : VNIPropertiesSpec → Prop} {p : VNIProperties} (hp : p.Normal)
    (h : ∀ f, p.tells f ↔ ∃ q, asked q ∧ (vniPropertiesToFRR q).tells f) : MergedProperties asked p where
  importRTs t := h (.importRT t)
  importSorted := hp.1.sorted
  exportRTs t := h (.exportRT t)
  exportSorted := hp.2.sorted
  rd q hq hrd := ((h (.rd q.rd)).2 ⟨q, hq, hrd, rfl⟩).2
  rdAsked hrd := by
    obtain ⟨q, hq, -, hv⟩ := (h (.rd p.rd)).1 ⟨hrd, rfl⟩
    exact ⟨q, hq, hv⟩

/-- Properties tell something whatever they are. -/
theorem VNIProperties.exists_tells (p : VNIProperties) : ∃ f, p.tells f := by
  obtain ⟨⟨n, f⟩, v, hv, -, hf⟩ := exists_l2Tells (List.cons_ne_nil (⟨0, p⟩ : L2VNI) [])
  obtain rfl := List.mem_singleton.1 hv
  exact ⟨f, hf⟩

theorem vniPropertiesToFRR_clash {p q : VNIPropertiesSpec} (h : p.Conflict q) :
    ¬ Agree VniFact.clash (vniPropertiesToFRR p).tells (vniPropertiesToFRR q).tells := by
  intro hagree
  obtain ⟨hp, hq, hne⟩ | ⟨hp, hq⟩ | ⟨hp, hq⟩ := h
  · exact hagree (.rd p.rd) (.rd q.rd) ⟨hp, rfl⟩ ⟨hq, rfl⟩ hne
  · obtain ⟨t, ht⟩ := List.exists_mem_of_ne_nil _ hp
    exact hagree (.importRT t) .autoImport ht hq trivial
  · obtain ⟨t, ht⟩ := List.exists_mem_of_ne_nil _ hp
    exact hagree (.exportRT t) .autoExport ht hq trivial

/-! ## The sections of a VRF -/

section

variable {secrets : SortedMap String Secret} {alwaysBlock : List Net.IPNet} {cfgs : List FRRConfiguration} {c : Config}

theorem told_evpn_iff (hacc : Acceptable secrets alwaysBlock cfgs) (vrf : String) (f : EvpnFact) :
    told secrets alwaysBlock cfgs (vrf, .evpn f) ↔ ∃ s, EvpnSection cfgs vrf s ∧ (evpnToFRR s).tells f := by
  have htold := told_iff_of_entries hacc.entries (f := .evpn f)
    (P := fun e => ∃ s, e.evpn = some s ∧ (evpnToFRR s).tells f) (fun cfg e d hd => by
      rw [RouterConfig.tells, (entryFor_fields hd).2.2.2.2.2]
      simp only [evpnTells, Option.map_eq_some_iff]
      constructor
      · rintro ⟨_, ⟨s, hs, rfl⟩, hf⟩
        exact ⟨s, hs, hf⟩
      · rintro ⟨s, hs, hf⟩
        exact ⟨_, ⟨s, hs, rfl⟩, hf⟩) vrf
  rw [htold]
  constructor
  · rintro ⟨cfg, hcfg, e, he, hvrf, s, hs, hf⟩
    exact ⟨s, ⟨cfg, hcfg, e, he, hvrf, hs⟩, hf⟩
  · rintro ⟨s, ⟨cfg, hcfg, e, he, hvrf, hs⟩, hf⟩
    exact ⟨cfg, hcfg, e, he, hvrf, s, hs, hf⟩

theorem told_l2_iff (hacc : Acceptable secrets alwaysBlock cfgs) (vrf : String) (n : Nat) (f : VniFact) :
    told secrets alwaysBlock cfgs (vrf, .evpn (.l2 (n, f))) ↔
      ∃ p, AsksL2VNI (EvpnSection cfgs vrf) n p ∧ (vniPropertiesToFRR p).tells f := by
  rw [told_evpn_iff hacc]
  simp only [evpnToFRR_l2]
  constructor
  · rintro ⟨s, hs, v, hv, hn, hf⟩
    exact ⟨v.properties, ⟨s, hs, v, hv, hn, rfl⟩, hf⟩
  · rintro ⟨p, ⟨s, hs, v, hv, hn, rfl⟩, hf⟩
    exact ⟨s, hs, v, hv, hn, hf⟩

theorem told_l3vni_iff (hacc : Acceptable secrets alwaysBlock cfgs) (vrf : String) (n : Nat) :
    told secrets alwaysBlock cfgs (vrf, .evpn (.l3vni n)) ↔ ∃ p, AsksL3VNI (EvpnSection cfgs vrf) n p := by
  rw [told_evpn_iff hacc]
  simp only [EVPNConfig.tells, evpnToFRR_l3vni]
  constructor
  · rintro ⟨s, hs, v, hv, hn⟩
    exact ⟨v.properties, s, hs, v, hv, hn, rfl⟩
  · rintro ⟨_, s, hs, v, hv, hn, -⟩
    exact ⟨s, hs, v, hv, hn⟩

/-- All L3 VNIs of a VRF have one number. -/
theorem asksL3VNI_number (hacc : Acceptable secrets alwaysBlock cfgs) {vrf : String} {n k : Nat}
    {p q : VNIPropertiesSpec} (hn : AsksL3VNI (EvpnSection cfgs vrf) n p) (hk : AsksL3VNI (EvpnSection cfgs vrf) k q) :
    n = k := by
  by_contra hne
  exact hacc.agree (vrf, .evpn (.l3vni n)) (vrf, .evpn (.l3vni k)) ((told_l3vni_iff hacc vrf n).2 ⟨p, hn⟩)
    ((told_l3vni_iff hacc vrf k).2 ⟨q, hk⟩) ⟨rfl, hne⟩

theorem told_l3_iff (hacc : Acceptable secrets alwaysBlock cfgs) {vrf : String} {n : Nat}
    (hn : ∃ p, AsksL3VNI (EvpnSection cfgs vrf) n p) (f : VniFact) :
    told secrets alwaysBlock cfgs (vrf, .evpn (.l3 f)) ↔
      ∃ p, AsksL3VNI (EvpnSection cfgs vrf) n p ∧ (vniPropertiesToFRR p).tells f := by
  obtain ⟨p₀, hp₀⟩ := hn
  rw [told_evpn_iff hacc]
  simp only [EVPNConfig.tells, evpnToFRR_l3vni]
  constructor
  · rintro ⟨s, hs, v, hv, hf⟩
    have hk : AsksL3VNI (EvpnSection cfgs vrf) v.vni v.properties := ⟨s, hs, v, hv, rfl, rfl⟩
    exact ⟨v.properties, asksL3VNI_number hacc hk hp₀ ▸ hk, hf⟩
  · rintro ⟨p, ⟨s, hs, v, hv, -, rfl⟩, hf⟩
    exact ⟨s, hs, v, hv, hf⟩

/-- **The section of a router tells what the sections of its VRF do.** -/
theorem ResultOf.evpn_told (h : ResultOf secrets alwaysBlock cfgs c) {r : RouterConfig} (hr : r ∈ c.routers)
    {e : EVPNConfig} (he : r.evpn = some e) (f : EvpnFact) :
    e.tells f ↔ told secrets alwaysBlock cfgs (r.vrf, .evpn f) := by
  rw [← h.tells_of_mem hr, RouterConfig.tells, he, evpnTells_some]

theorem ResultOf.evpn_none_iff (hacc : Acceptable secrets alwaysBlock cfgs) (h : ResultOf secrets alwaysBlock cfgs c)
    {r : RouterConfig} (hr : r ∈ c.routers) : r.evpn = none ↔ ¬ ∃ s, EvpnSection cfgs r.vrf s := by
  constructor
  · rintro hnone ⟨s, hs⟩
    have htold := (told_evpn_iff hacc r.vrf (.advertiseSVI s.advertiseSVI)).2 ⟨s, hs, rfl⟩
    obtain ⟨e, he, -⟩ := (h.tells_of_mem hr _).2 htold
    rw [hnone] at he
    cases he
  · intro hno
    cases he : r.evpn with
    | none => rfl
    | some e =>
      obtain ⟨s, hs, -⟩ := (told_evpn_iff hacc r.vrf _).1 ((h.evpn_told hr he (.advertiseSVI e.advertiseSVI)).1 rfl)
      exact (hno ⟨s, hs⟩).elim

/-- An L2 VNI of a router has the facts that are told of its number. -/
theorem ResultOf.l2_told (h : ResultOf secrets alwaysBlock cfgs c) {r : RouterConfig} (hr : r ∈ c.routers)
    {e : EVPNConfig} (he : r.evpn = some e) {v : L2VNI} (hv : v ∈ e.l2vnis.elems) (f : VniFact) :
    v.properties.tells f ↔ told secrets alwaysBlock cfgs (r.vrf, .evpn (.l2 (v.vni, f))) := by
  rw [← h.evpn_told hr he]
  constructor
  · intro hf
    exact ⟨v, hv, rfl, hf⟩
  · rintro ⟨w, hw, hvni, hf⟩
    rwa [List.inj_on_of_nodup_map ((h.normal r hr).evpn e he).l2.nodup hw hv hvni] at hf

theorem ResultOf.mergedSection (hacc : Acceptable secrets alwaysBlock cfgs) (h : ResultOf secrets alwaysBlock cfgs c)
    {r : RouterConfig} (hr : r ∈ c.routers) {e : EVPNConfig} (he : r.evpn = some e) :
    MergedSection (EvpnSection cfgs r.vrf) e := by
  have hnormal := (h.normal r hr).evpn e he
  have htold := h.evpn_told hr he
  have hl3 : ∀ n, (∃ v, e.l3vni = some v ∧ v.vni = n) ↔ ∃ p, AsksL3VNI (EvpnSection cfgs r.vrf) n p :=
    fun n => (htold (.l3vni n)).trans (told_l3vni_iff hacc r.vrf n)
  -- what is told of the one L3 VNI is told of this one
  have hone : ∀ v, e.l3vni = some v → ∀ P : L3VNI → Prop, P v ↔ ∃ w, e.l3vni = some w ∧ P w := by
    intro v hv P
    simp only [hv, Option.some.injEq, exists_eq_left']
  refine ⟨hnormal.l2.sorted, fun n => ?_, fun v hv => ?_, hl3, fun v hv => ?_, fun v hv p => ?_, fun v hv => ?_,
    fun s hs => ?_, ?_⟩
  · constructor
    · rintro ⟨v, hv, rfl⟩
      obtain ⟨f, hf⟩ := v.properties.exists_tells
      obtain ⟨p, hp, -⟩ := (told_l2_iff hacc _ _ f).1 ((h.l2_told hr he hv f).1 hf)
      exact ⟨p, hp⟩
    · rintro ⟨p, hp⟩
      obtain ⟨f, hf⟩ := (vniPropertiesToFRR p).exists_tells
      obtain ⟨v, hv, hn, -⟩ := (htold (.l2 (n, f))).2 ((told_l2_iff hacc _ _ f).2 ⟨p, hp, hf⟩)
      exact ⟨v, hv, hn⟩
  · refine (hnormal.l2.normal v hv).merged (fun f => ?_)
    rw [h.l2_told hr he hv, told_l2_iff hacc]
  · refine (hnormal.l3 v hv).1.merged (fun f => ?_)
    rw [hone v hv (fun w => w.properties.tells f), ← told_l3_iff hacc ((hl3 v.vni).1 ⟨v, hv, rfl⟩)]
    exact htold (.l3 f)
  · rw [hone v hv (fun w => p ∈ w.advertisePrefixes.elems)]
    refine (htold (.l3Advertise p)).trans ((told_evpn_iff hacc _ _).trans ?_)
    simp only [EVPNConfig.tells, evpnToFRR_l3vni]
  · obtain ⟨-, l, hl, hsorted⟩ := hnormal.l3 v hv
    rw [hl]
    exact hsorted
  · exact ((htold (.advertiseSVI s.advertiseSVI)).2 ((told_evpn_iff hacc _ _).2 ⟨s, hs, rfl⟩)).symm
  · rw [← advertisesAll_iff]
    have hsame : ∀ s, EvpnSection cfgs r.vrf s → e.advertiseVNIs.getD vniAdvertisementDisabled =
        s.advertiseVNIs.getD vniAdvertisementDisabled :=
      fun s hs => (htold (.advertiseVNIs _)).2 ((told_evpn_iff hacc r.vrf _).2 ⟨s, hs, rfl⟩)
    constructor
    · intro hall s hs
      rw [← advertisesAll_iff, ← hsame s hs, hall]
    · intro hall
      obtain ⟨s, hs, -⟩ := (told_evpn_iff hacc r.vrf _).1 ((htold (.advertiseSVI e.advertiseSVI)).1 rfl)
      rw [hsame s hs, advertisesAll_iff, hall s hs]

/-! ## Numbers are used once -/

theorem ResultOf.usesVNI (h : ResultOf secrets alwaysBlock cfgs c) {r : RouterConfig} (hr : r ∈ c.routers) {n : Nat}
    {k : String} (hn : (n, k) ∈ vnisOf r) : usesVNI (told secrets alwaysBlock cfgs) (r.vrf, k) n := by
  obtain ⟨rfl, f, hf⟩ | ⟨rfl, hf⟩ := (mem_vnisOf r n k).1 hn
  · exact Or.inl ⟨rfl, f, (h.tells_of_mem hr _).1 hf⟩
  · exact Or.inr ⟨rfl, (h.tells_of_mem hr _).1 hf⟩

theorem ResultOf.vnis_nodup (hacc : Acceptable secrets alwaysBlock cfgs) (h : ResultOf secrets alwaysBlock cfgs c) :
    (c.routers.flatMap (fun r => (vnisOf r).map Prod.fst)).Nodup := by
  refine List.nodup_flatMap.2 ⟨fun r hr => ?_, ?_⟩
  · refine (vnisOf_nodup (h.normal r hr)).map_on ?_
    rintro ⟨n, k⟩ hn ⟨_, l⟩ hl rfl
    obtain ⟨-, rfl⟩ := Prod.mk.inj (hacc.evpn.unique _ _ _ (h.usesVNI hr hn) (h.usesVNI hr hl))
    rfl
  · refine h.sorted.imp_of_mem (fun {r s} hr hs hlt => ?_)
    intro n hn hn'
    obtain ⟨⟨_, k⟩, hk, rfl⟩ := List.mem_map.1 hn
    obtain ⟨⟨m, l⟩, hl, hm⟩ := List.mem_map.1 hn'
    obtain rfl : m = _ := hm
    exact ne_of_lt hlt (Prod.mk.inj (hacc.evpn.unique _ _ _ (h.usesVNI hr hk) (h.usesVNI hs hl))).1

/-! ## Contributions that conflict -/

/-- A number is asked for in one VRF and as one type. -/
theorem contributesVNI_place (hacc : Acceptable secrets alwaysBlock cfgs) {n : Nat} {p q : VNIPropertiesSpec}
    (hp : ContributesVNI cfgs n p) (hq : ContributesVNI cfgs n q) : ∃ vrf,
      (AsksL2VNI (EvpnSection cfgs vrf) n p ∧ AsksL2VNI (EvpnSection cfgs vrf) n q) ∨
      (AsksL3VNI (EvpnSection cfgs vrf) n p ∧ AsksL3VNI (EvpnSection cfgs vrf) n q) := by
  have hl2 : ∀ {vrf p}, AsksL2VNI (EvpnSection cfgs vrf) n p →
      usesVNI (told secrets alwaysBlock cfgs) (vrf, "l2vni") n := by
    intro vrf p h
    obtain ⟨f, hf⟩ := (vniPropertiesToFRR p).exists_tells
    exact Or.inl ⟨rfl, f, (told_l2_iff hacc _ _ _).2 ⟨p, h, hf⟩⟩
  have hl3 : ∀ {vrf p}, AsksL3VNI (EvpnSection cfgs vrf) n p →
      usesVNI (told secrets alwaysBlock cfgs) (vrf, "l3vni") n :=
    fun {vrf p} h => Or.inr ⟨rfl, (told_l3vni_iff hacc _ _).2 ⟨p, h⟩⟩
  obtain ⟨vrf, hp | hp⟩ := hp <;> obtain ⟨vrf', hq | hq⟩ := hq
  · obtain ⟨rfl, -⟩ := Prod.mk.inj (hacc.evpn.unique _ _ _ (hl2 hp) (hl2 hq))
    exact ⟨vrf, Or.inl ⟨hp, hq⟩⟩
  · exact absurd (Prod.mk.inj (hacc.evpn.unique _ _ _ (hl2 hp) (hl3 hq))).2 (by decide)
  · exact absurd (Prod.mk.inj (hacc.evpn.unique _ _ _ (hl3 hp) (hl2 hq))).2 (by decide)
  · obtain ⟨rfl, -⟩ := Prod.mk.inj (hacc.evpn.unique _ _ _ (hl3 hp) (hl3 hq))
    exact ⟨vrf, Or.inr ⟨hp, hq⟩⟩

/-- **What is accepted has no two conflicting contributions to a VNI.** -/
theorem Acceptable.no_conflict (hacc : Acceptable secrets alwaysBlock cfgs) {n : Nat} {p q : VNIPropertiesSpec}
    (hp : ContributesVNI cfgs n p) (hq : ContributesVNI cfgs n q) : ¬ p.Conflict q := by
  intro hconflict
  refine vniPropertiesToFRR_clash hconflict (fun x y hx hy hc => ?_)
  obtain ⟨vrf, ⟨hp, hq⟩ | ⟨hp, hq⟩⟩ := contributesVNI_place hacc hp hq
  · exact hacc.agree (vrf, .evpn (.l2 (n, x))) (vrf, .evpn (.l2 (n, y))) ((told_l2_iff hacc _ _ _).2 ⟨p, hp, hx⟩)
      ((told_l2_iff hacc _ _ _).2 ⟨q, hq, hy⟩) ⟨rfl, rfl, hc⟩
  · exact hacc.agree (vrf, .evpn (.l3 x)) (vrf, .evpn (.l3 y)) ((told_l3_iff hacc ⟨p, hp⟩ _).2 ⟨p, hp, hx⟩)
      ((told_l3_iff hacc ⟨p, hp⟩ _).2 ⟨q, hq, hy⟩) ⟨rfl, hc⟩

end

/-- **EVPN sections are merged by the documented rules, and what the rules exclude is refused.** -/
theorem apiToFRR_mergesEvpn (secrets : SortedMap String Secret) (alwaysBlock : List Net.IPNet)
    (cfgs : List FRRConfiguration) :
    (∀ c, apiToFRR ⟨cfgs, secrets⟩ alwaysBlock = .ok c → MergesEvpn cfgs c) ∧
    ∀ n p q, ContributesVNI cfgs n p → ContributesVNI cfgs n q → p.Conflict q →
      (apiToFRR ⟨cfgs, secrets⟩ alwaysBlock).isOk = false := by
  refine ⟨fun c h => ?_, fun n p q hp hq hconflict => ?_⟩
  · have hacc := apiToFRR_acceptable h
    have hres := apiToFRR_result h
    exact ⟨fun r hr => hres.evpn_none_iff hacc hr, fun r hr e he => hres.mergedSection hacc hr he, hres.vnis_nodup hacc⟩
  · rw [Bool.eq_false_iff]
    intro hok
    exact (apiToFRR_isOk.1 hok).no_conflict hp hq hconflict

/-- A configuration of one EVPN session, whose router contributes import route targets to VNI 100. -/
def vniSession (name : String) (targets : List String) : FRRConfiguration :=
  { name := name
    routers := [{
      asn := 64512
      neighbors := [{ asn := 64513, address := "10.0.0.1", addressFamilies := some [addressFamilyEVPN] }]
      evpn := some {
        advertiseVNIs := some vniAdvertisementAll
        l2vnis := [{ vni := 100, properties := { rd := "64512:100", importRTs := some targets } }] } }] }

theorem apiToFRR_mergesEvpn_vniSession : ∃ c,
    apiToFRR ⟨[vniSession "a" ["64512:2"], vniSession "b" ["64512:1"]], .empty⟩ [] = .ok c ∧
      MergesEvpn [vniSession "a" ["64512:2"], vniSession "b" ["64512:1"]] c := by
  obtain ⟨c, hc⟩ := (isOk_iff (apiToFRR ⟨[vniSession "a" ["64512:2"], vniSession "b" ["64512:1"]], .empty⟩ [])).1
    (by decide +kernel)
  exact ⟨c, hc, (apiToFRR_mergesEvpn .empty [] _).1 c hc⟩

end FrrK8s
