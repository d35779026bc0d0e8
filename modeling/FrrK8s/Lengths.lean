import FrrK8s.Inbound
import FrrK8s.Precedence
/-!
# Lengths — the bounds of the filters a neighbor receives by

Of the filters declared for a neighbor under one text of prefix and bounds the last is kept (`apiToFRR_kept`), and every
one was checked to have its bounds above the mask length and in order.  That the bounds fit the family is not checked,
so the kept filters are well-formed exactly when they do (`apiToFRR_lengths_iff`).
-/
namespace FrrK8s

/-! ## The kept filters -/

/-- The filter of a selector. -/
def PrefixSelector.filter (s : PrefixSelector) : IncomingFilter :=
  { ipFamily := forCIDRString s.pfx, pfx := s.pfx, le := s.le, ge := s.ge }

/-- The filters of a family that a declared neighbor receives by, in order. -/
def Receive.filters (toReceive : Receive) (f : Family) : List IncomingFilter :=
  if toReceive.allowed.mode = .all then []
  else sortFilters ((toReceive.allowed.prefixes.map PrefixSelector.filter).filter (fun i => i.ipFamily = f))

/-- The filter is the last declared for the neighbor `id` of `vrf` under its text, among those of its family. -/
def LastDeclared (cfgs : List FRRConfiguration) (vrf id : String) (i : IncomingFilter) : Prop :=
  lastWith IncomingFilter.key i.key ((contributors cfgs vrf id).flatMap (·.toReceive.filters i.ipFamily)) = some i

theorem filterForSelector_eq {s : PrefixSelector} {i : IncomingFilter} (h : filterForSelector s = .ok i) :
    s.filter = i := by
  obtain ⟨hsel, hfam, -⟩ := filterForSelector_ok h
  subst hsel
  unfold PrefixSelector.filter
  rw [← hfam]
  rfl

theorem toReceiveToFRR_filtersOf {toReceive : Receive} {incoming : AllowedIn}
    (h : toReceiveToFRR toReceive = .ok incoming) {f : Family} (hf : f = .ipv4 ∨ f = .ipv6) :
    incoming.filtersOf f = toReceive.filters f := by
  unfold toReceiveToFRR at h
  unfold Receive.filters
  by_cases hm : toReceive.allowed.mode = .all
  · rw [if_pos hm] at h ⊢
    obtain rfl := Except.ok.inj h
    rcases hf with rfl | rfl <;> rfl
  · rw [if_neg hm] at h ⊢
    simp only [bind_eq_ok, pure_eq_ok] at h
    obtain ⟨filters, hfilters, rfl⟩ := h
    have hmap : toReceive.allowed.prefixes.map PrefixSelector.filter = filters := by
      have := ((mapM_eq_ok _ _ _).1 hfilters).imp (fun s i hsi => filterForSelector_eq hsi)
      rwa [← List.forall₂_map_left_iff (R := Eq), List.forall₂_eq_eq_eq] at this
    rw [hmap]
    rcases hf with rfl | rfl
    · rfl
    · apply congrArg sortFilters
      apply List.filter_congr
      intro i hi
      obtain ⟨s, -, hs⟩ := (mem_of_mapM_eq_ok hfilters i).1 hi
      obtain ⟨-, hfam, hknown⟩ := filterForSelector_ok hs
      rcases hknown with hknown | hknown <;> simp [hfam, hknown]

theorem AllowedIn.ByFamily.mem_allPrefixes {a : AllowedIn} (h : a.ByFamily) (i : IncomingFilter) :
    i ∈ a.allPrefixes ↔ (i.ipFamily = .ipv4 ∨ i.ipFamily = .ipv6) ∧ i ∈ a.filtersOf i.ipFamily := by
  unfold AllowedIn.allPrefixes
  rw [List.mem_append]
  constructor
  · rintro (hi | hi)
    · rw [h.familyV4 i hi]
      exact ⟨Or.inl rfl, hi⟩
    · rw [h.familyV6 i hi]
      exact ⟨Or.inr rfl, hi⟩
  · rintro ⟨hf | hf, hi⟩
    · rw [hf] at hi
      exact Or.inl hi
    · rw [hf] at hi
      exact Or.inr hi

theorem NeighborConfig.Normal.nodup_filtersOf {n : NeighborConfig} (h : n.Normal) (f : Family) :
    ((n.incoming.filtersOf f).map IncomingFilter.key).Nodup := by
  cases f with
  | ipv4 => exact nodup_map_of_pairwise_lt h.filtersV4
  | ipv6 => exact nodup_map_of_pairwise_lt h.filtersV6
  | dual => exact List.nodup_nil
  | unknown => exact List.nodup_nil

theorem LastDeclared.exists_selector {cfgs : List FRRConfiguration} {vrf id : String} {i : IncomingFilter}
    (h : LastDeclared cfgs vrf id i) : Selects cfgs vrf id i.selector ∧ i.selector.filter = i := by
  obtain ⟨hmem, -⟩ := mem_of_lastWith h
  obtain ⟨a, ha, hi⟩ := List.mem_flatMap.1 hmem
  obtain ⟨cfg, e, hcon⟩ := mem_contributors.1 ha
  unfold Receive.filters at hi
  by_cases hm : a.toReceive.allowed.mode = .all
  · rw [if_pos hm] at hi
    exact (List.not_mem_nil hi).elim
  · rw [if_neg hm, mem_sortFilters] at hi
    obtain ⟨s, hs, rfl⟩ := List.mem_map.1 (List.mem_filter.1 hi).1
    exact ⟨⟨cfg, e, a, hcon, hm, hs⟩, rfl⟩

section

variable {secrets : SortedMap String Secret} {alwaysBlock : List Net.IPNet} {cfgs : List FRRConfiguration} {c : Config}

/-- Where nobody receives everything, the last filter of a text is the last declared. -/
theorem apiToFRR_lastWith (h : apiToFRR ⟨cfgs, secrets⟩ alwaysBlock = .ok c) {r : RouterConfig} (hr : r ∈ c.routers)
    {n : NeighborConfig} (hn : n ∈ r.neighbors) (hall : n.incoming.all = false) {f : Family}
    (hf : f = .ipv4 ∨ f = .ipv6) (key : String) : lastWith IncomingFilter.key key (n.incoming.filtersOf f) =
      lastWith IncomingFilter.key key ((contributors cfgs r.vrf n.id).flatMap (·.toReceive.filters f)) := by
  obtain ⟨ms, hms, hprec⟩ := apiToFRR_precedence h hr hn
  have hmsall : ms.any (·.incoming.all) = false := by
    have := congrArg Precedence.all hprec
    simpa [precedence, hall] using this.symm
  have hlast := congrFun (congrFun (congrArg Precedence.last hprec) f) key
  simp only [precedence, List.any_cons, List.any_nil, hall, hmsall, Bool.or_false, cond_false, List.flatMap_cons,
    List.flatMap_nil, List.append_nil] at hlast
  rw [hlast, flatMap_eq_of_forall₂ (fun a m ham => ?_) hms]
  obtain ⟨cfg, e, -, ham⟩ := ham
  obtain ⟨-, g, -, timers, -, password, -, out, -, incoming, hin, rfl⟩ := (neighborToFRR_eq_ok ..).1 ham
  exact (toReceiveToFRR_filtersOf hin hf).symm

/-- **The filters of a neighbor of a result are the last declared under each text**, unless a contributor receives
everything. -/
theorem apiToFRR_kept (h : apiToFRR ⟨cfgs, secrets⟩ alwaysBlock = .ok c) {r : RouterConfig} (hr : r ∈ c.routers)
    {n : NeighborConfig} (hn : n ∈ r.neighbors) (i : IncomingFilter) :
    i ∈ n.incoming.allPrefixes ↔ ¬ ReceivesAll cfgs r.vrf n.id ∧ LastDeclared cfgs r.vrf n.id i := by
  have hacc := apiToFRR_acceptable h
  have hres := apiToFRR_result h
  have hnormal := (hres.normal r hr).neighbors n hn
  have hall := hres.all_iff hacc hr hn
  rw [(hres.incoming_byFamily hr hn).mem_allPrefixes, ← hall, Bool.not_eq_true]
  by_cases ha : n.incoming.all = true
  · have hnone : n.incoming.filtersOf i.ipFamily = [] := by
      obtain ⟨h4, h6⟩ := hnormal.receiveAll ha
      cases i.ipFamily with
      | ipv4 => exact h4
      | ipv6 => exact h6
      | dual => rfl
      | unknown => rfl
    rw [hnone, ha]
    simp
  · rw [Bool.not_eq_true] at ha
    rw [ha, and_iff_right rfl]
    unfold LastDeclared
    constructor
    · rintro ⟨hf, hi⟩
      rw [← apiToFRR_lastWith h hr hn ha hf]
      exact (lastWith_of_nodup (hnormal.nodup_filtersOf _) _ _).2 ⟨hi, rfl⟩
    · intro hi
      have hf : i.ipFamily = .ipv4 ∨ i.ipFamily = .ipv6 := by
        obtain ⟨hsel, hfilter⟩ := LastDeclared.exists_selector hi
        rw [← hfilter]
        exact hsel.known hacc
      rw [← apiToFRR_lastWith h hr hn ha hf] at hi
      exact ⟨hf, (mem_of_lastWith hi).1⟩

/-! ## Their bounds -/

/-- The number of bits of an address of a family. -/
def addressBits : Family → Nat
  | .ipv4 => 32
  | _ => 128

/-- The bounds of a prefix list entry, 0 where one is not set: not below the mask length, not above the bits of the
family and `ge` not above `le`. -/
structure ValidLengths (f : Family) (mask le ge : Nat) : Prop where
  lower : ge = 0 ∨ mask ≤ ge ∧ ge ≤ addressBits f
  upper : le = 0 ∨ mask ≤ le ∧ le ≤ addressBits f
  order : ge ≠ 0 → le ≠ 0 → ge ≤ le

/-- The text is a prefix of valid bounds. -/
def IncomingFilter.Valid (i : IncomingFilter) : Prop :=
  ∃ cidr, Net.parseCIDR i.pfx = some cidr ∧ ValidLengths i.ipFamily cidr.ones i.le i.ge

/-- Bounds that fit the family. -/
def IncomingFilter.Fits (i : IncomingFilter) : Prop := i.le ≤ addressBits i.ipFamily ∧ i.ge ≤ addressBits i.ipFamily

theorem validateSelectorLengths_eq_ok (mask le ge : Nat) : validateSelectorLengths mask le ge = .ok () ↔
    (ge = 0 ∨ mask ≤ ge) ∧ (le = 0 ∨ mask ≤ le) ∧ (ge ≠ 0 → le ≠ 0 → ge ≤ le) := by
  unfold validateSelectorLengths
  by_cases h0 : ge = 0 ∧ le = 0
  · simp [h0]
  · rw [if_neg h0]
    simp only [bind_eq_ok, reject_eq_ok, exists_const]
    omega

/-- An accepted filter is well-formed exactly when its bounds fit the family. -/
theorem filterForSelector_valid_iff {s : PrefixSelector} {i : IncomingFilter} (h : filterForSelector s = .ok i) :
    i.Valid ↔ i.Fits := by
  obtain rfl := filterForSelector_eq h
  unfold filterForSelector at h
  unfold IncomingFilter.Valid IncomingFilter.Fits
  cases hp : Net.parseCIDR s.pfx with
  | none => simp [hp] at h
  | some cidr =>
    simp only [hp, bind_eq_ok, pure_eq_ok] at h
    obtain ⟨_, hlengths, -⟩ := h
    obtain ⟨hge, hle, horder⟩ := (validateSelectorLengths_eq_ok _ _ _).1 hlengths
    have hpfx : Net.parseCIDR s.filter.pfx = some cidr := hp
    have hsle : s.filter.le = s.le := rfl
    have hsge : s.filter.ge = s.ge := rfl
    rw [hsle, hsge]
    constructor
    · rintro ⟨_, -, hvalid⟩
      have h1 := hvalid.lower
      have h2 := hvalid.upper
      omega
    · rintro ⟨h1, h2⟩
      exact ⟨cidr, hpfx, ⟨by omega, by omega, horder⟩⟩

/-- No selector of valid bounds is rejected. -/
theorem toReceiveToFRR_isOk {toReceive : Receive} (h : ∀ s ∈ toReceive.allowed.prefixes, s.filter.Valid) :
    (toReceiveToFRR toReceive).isOk = true := by
  unfold toReceiveToFRR
  by_cases hm : toReceive.allowed.mode = .all
  · rw [if_pos hm]
    rfl
  · rw [if_neg hm, isOk_bind]
    have hok : (toReceive.allowed.prefixes.mapM filterForSelector).isOk = true := by
      rw [mapM_isOk]
      intro s hs
      obtain ⟨cidr, hp, hvalid⟩ := h s hs
      have hp : Net.parseCIDR s.pfx = some cidr := hp
      have hlengths : validateSelectorLengths cidr.ones s.le s.ge = .ok () := by
        rw [validateSelectorLengths_eq_ok]
        exact ⟨hvalid.lower.imp (fun h => h) And.left, hvalid.upper.imp (fun h => h) And.left, hvalid.order⟩
      unfold filterForSelector
      rw [hp]
      simp only
      rw [hlengths]
      rfl
    obtain ⟨filters, hfilters⟩ := (isOk_iff _).1 hok
    exact ⟨filters, hfilters, rfl⟩

/-- **The filters of a result are well-formed prefix list entries exactly when the kept ones fit their family**, and no
neighbor is rejected for selectors that are. -/
theorem apiToFRR_lengths_iff (h : apiToFRR ⟨cfgs, secrets⟩ alwaysBlock = .ok c) :
    ((∀ r ∈ c.routers, ∀ n ∈ r.neighbors, ∀ i ∈ n.incoming.allPrefixes, i.Valid) ↔
      ∀ vrf id i, ¬ ReceivesAll cfgs vrf id → LastDeclared cfgs vrf id i → i.Fits) ∧
    ∀ toReceive : Receive, (∀ s ∈ toReceive.allowed.prefixes, s.filter.Valid) →
    (toReceiveToFRR toReceive).isOk = true := by
  have hacc := apiToFRR_acceptable h
  have hres := apiToFRR_result h
  have hvalid : ∀ vrf id i, LastDeclared cfgs vrf id i → (i.Valid ↔ i.Fits) := by
    intro vrf id i hi
    obtain ⟨⟨cfg, e, a, hcon, hmode, hs⟩, hfilter⟩ := hi.exists_selector
    obtain ⟨m, f, hm, -⟩ := hcon.translated hacc
    obtain ⟨j, hj⟩ := (translation_receives hm).selectors hmode _ hs
    rw [← hfilter, filterForSelector_eq hj]
    exact filterForSelector_valid_iff hj
  refine ⟨⟨?_, ?_⟩, fun toReceive => toReceiveToFRR_isOk⟩
  · intro hall vrf id i hnot hi
    obtain ⟨⟨cfg, e, a, hcon, -⟩, -⟩ := hi.exists_selector
    obtain ⟨r, hr, rfl, n, hn, rfl⟩ := hres.exists_neighbor hacc hcon
    exact (hvalid _ _ i hi).1 (hall r hr n hn i ((apiToFRR_kept h hr hn i).2 ⟨hnot, hi⟩))
  · intro hfits r hr n hn i hi
    obtain ⟨hnot, hlast⟩ := (apiToFRR_kept h hr hn i).1 hi
    exact (hvalid _ _ i hlast).2 (hfits r.vrf n.id i hnot hlast)

end

theorem apiToFRR_lengths_iff_receiving : ∃ c, apiToFRR ⟨[receivingBy [⟨"10.0.0.0/8", 24, 16⟩]], .empty⟩ [] = .ok c ∧
    ∀ r ∈ c.routers, ∀ n ∈ r.neighbors, ∀ i ∈ n.incoming.allPrefixes, i.Valid := by
  obtain ⟨c, hc⟩ := (isOk_iff (apiToFRR ⟨[receivingBy [⟨"10.0.0.0/8", 24, 16⟩]], .empty⟩ [])).1 (by decide +kernel)
  refine ⟨c, hc, (apiToFRR_lengths_iff hc).1.2 (fun vrf id i _ hi => ?_)⟩
  obtain ⟨hsel, hfilter⟩ := hi.exists_selector
  have hs : i.selector = ⟨"10.0.0.0/8", 24, 16⟩ := List.mem_singleton.1 (selects_receivingBy hsel)
  rw [← hfilter, hs]
  unfold IncomingFilter.Fits
  decide +kernel

/-- `le 64` for IPv4, as the API allows and as FRR refuses. -/
theorem lengths_unfit : ∃ c, apiToFRR ⟨[receivingBy [⟨"10.0.0.0/8", 64, 0⟩]], .empty⟩ [] = .ok c ∧
    c.routers.flatMap (fun r => r.neighbors.map (fun n => n.incoming.allPrefixes)) = [[⟨.ipv4, "10.0.0.0/8", 64, 0⟩]] ∧
    ¬ ∀ r ∈ c.routers, ∀ n ∈ r.neighbors, ∀ i ∈ n.incoming.allPrefixes, i.Valid := by
  obtain ⟨c, hc, hfilters⟩ := (toOption_map_eq_some (apiToFRR ⟨[receivingBy [⟨"10.0.0.0/8", 64, 0⟩]], .empty⟩ [])
    (fun c => c.routers.flatMap (fun r => r.neighbors.map (fun n => n.incoming.allPrefixes)))
    [[⟨.ipv4, "10.0.0.0/8", 64, 0⟩]]).1 (by decide +kernel)
  refine ⟨c, hc, hfilters, fun hall => ?_⟩
  obtain ⟨r, hr, hmem⟩ := List.mem_flatMap.1 (hfilters ▸ List.mem_singleton_self _)
  obtain ⟨n, hn, heq⟩ := List.mem_map.1 hmem
  obtain ⟨cidr, -, hvalid⟩ := hall r hr n hn ⟨.ipv4, "10.0.0.0/8", 64, 0⟩ (heq ▸ List.mem_singleton_self _)
  exact absurd hvalid.upper (by simp [addressBits])

end FrrK8s
