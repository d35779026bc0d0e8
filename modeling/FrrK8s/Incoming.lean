import FrrK8s.Union
/-!
# Incoming — which filters a merge keeps

`mergeIncomingFilters` keeps one filter for each text of prefix and bounds, written one after the other.  So the filters
of both sides are kept exactly when no two different ones have the same text (`incoming_kept_iff`), in one merge and in
a whole translation; `0.0.0.0/1` up to length 20 and `0.0.0.0/12` have the same.
-/
namespace FrrK8s

/-- The selector a filter was made of. -/
def IncomingFilter.selector (f : IncomingFilter) : PrefixSelector := ⟨f.pfx, f.le, f.ge⟩

/-- The text under which `mergeIncomingFilters` keeps the filter of a selector. -/
def PrefixSelector.key (s : PrefixSelector) : String := s!"{s.pfx}{s.le}{s.ge}"

theorem IncomingFilter.key_selector (f : IncomingFilter) : f.selector.key = f.key := rfl

/-- Different selectors have different texts. -/
def ToldApart (S : PrefixSelector → Prop) : Prop := ∀ s t, S s → S t → s.key = t.key → s = t

/-! ## One merge -/

theorem mergeIncomingFilters_selectors (curr toMerge : List IncomingFilter) :
    (∀ s, s ∈ (mergeIncomingFilters curr toMerge).map IncomingFilter.selector ↔
        s ∈ curr.map IncomingFilter.selector ∨ s ∈ toMerge.map IncomingFilter.selector) ↔
      ToldApart (fun s => s ∈ curr.map IncomingFilter.selector ∨ s ∈ toMerge.map IncomingFilter.selector) := by
  have hfrom : ∀ s, s ∈ (mergeIncomingFilters curr toMerge).map IncomingFilter.selector →
      s ∈ curr.map IncomingFilter.selector ∨ s ∈ toMerge.map IncomingFilter.selector := by
    intro s hs
    obtain ⟨f, hf, rfl⟩ := List.mem_map.1 hs
    exact (mergeIncomingFilters_mem curr toMerge f hf).imp (List.mem_map_of_mem) (List.mem_map_of_mem)
  have hkeys : ∀ s, s ∈ curr.map IncomingFilter.selector ∨ s ∈ toMerge.map IncomingFilter.selector →
      ∃ t ∈ (mergeIncomingFilters curr toMerge).map IncomingFilter.selector, t.key = s.key := by
    intro s hs
    have hs' : (∃ f ∈ curr, f.key = s.key) ∨ ∃ f ∈ toMerge, f.key = s.key := by
      simp only [List.mem_map] at hs
      exact hs.imp (fun ⟨f, hf, h⟩ => ⟨f, hf, h ▸ rfl⟩) (fun ⟨f, hf, h⟩ => ⟨f, hf, h ▸ rfl⟩)
    obtain ⟨f, hf, hk⟩ := (mergeIncomingFilters_key curr toMerge s.key).2 hs'
    exact ⟨f.selector, List.mem_map_of_mem hf, hk⟩
  have hone : ∀ s t, s ∈ (mergeIncomingFilters curr toMerge).map IncomingFilter.selector →
      t ∈ (mergeIncomingFilters curr toMerge).map IncomingFilter.selector → s.key = t.key → s = t := by
    intro s t hs ht hk
    obtain ⟨f, hf, rfl⟩ := List.mem_map.1 hs
    obtain ⟨g, hg, rfl⟩ := List.mem_map.1 ht
    exact congrArg _ (List.inj_on_of_nodup_map (nodup_map_of_pairwise_lt (mergeIncomingFilters_sorted curr toMerge))
      hf hg hk)
  refine Iff.trans ?_ (represented_iff hfrom hkeys hone)
  exact ⟨fun h s hs => (h s).2 hs, fun h s => ⟨hfrom s, h s⟩⟩

/-! ## A translation -/

/-- A contributor of the neighbor that filters what it receives selects with `s`. -/
def Selects (cfgs : List FRRConfiguration) (vrf id : String) (s : PrefixSelector) : Prop :=
  ∃ cfg e a, Contributes cfgs vrf id cfg e a ∧ a.toReceive.allowed.mode ≠ .all ∧ s ∈ a.toReceive.allowed.prefixes

/-- A contributor of the neighbor receives everything. -/
def ReceivesAll (cfgs : List FRRConfiguration) (vrf id : String) : Prop :=
  ∃ cfg e a, Contributes cfgs vrf id cfg e a ∧ a.toReceive.allowed.mode = .all

theorem filterForSelector_ok {s : PrefixSelector} {f : IncomingFilter} (h : filterForSelector s = .ok f) :
    f.selector = s ∧ f.ipFamily = forCIDRString s.pfx ∧
    (forCIDRString s.pfx = .ipv4 ∨ forCIDRString s.pfx = .ipv6) := by
  unfold filterForSelector at h
  cases hp : Net.parseCIDR s.pfx with
  | none => simp [hp] at h
  | some cidr =>
    simp only [hp, bind_eq_ok, pure_eq_ok] at h
    obtain ⟨_, -, rfl⟩ := h
    refine ⟨rfl, rfl, known_family ?_⟩
    unfold forCIDRString forAddress
    rw [hp]
    simp only
    split <;> simp

theorem mem_sortFilters (l : List IncomingFilter) (f : IncomingFilter) : f ∈ sortFilters l ↔ f ∈ l :=
  List.mem_insertionSort _

/-- What a declared neighbor receives: everything, or by one filter for each of its selectors. -/
structure Receives (toReceive : Receive) (incoming : AllowedIn) : Prop where
  all : incoming.all = true ↔ toReceive.allowed.mode = .all
  filtersV4 : ∀ f, f ∈ incoming.prefixesV4 ↔ toReceive.allowed.mode ≠ .all ∧
    ∃ s ∈ toReceive.allowed.prefixes, filterForSelector s = .ok f ∧ forCIDRString s.pfx = .ipv4
  filtersV6 : ∀ f, f ∈ incoming.prefixesV6 ↔ toReceive.allowed.mode ≠ .all ∧
    ∃ s ∈ toReceive.allowed.prefixes, filterForSelector s = .ok f ∧ forCIDRString s.pfx ≠ .ipv4
  selectors : toReceive.allowed.mode ≠ .all → ∀ s ∈ toReceive.allowed.prefixes, ∃ f, filterForSelector s = .ok f

theorem toReceiveToFRR_receives {toReceive : Receive} {incoming : AllowedIn}
    (h : toReceiveToFRR toReceive = .ok incoming) : Receives toReceive incoming := by
  unfold toReceiveToFRR at h
  by_cases hm : toReceive.allowed.mode = .all
  · rw [if_pos hm] at h
    obtain rfl := Except.ok.inj h
    exact ⟨by simp [hm], by simp [hm], by simp [hm], fun hne => (hne hm).elim⟩
  · rw [if_neg hm] at h
    simp only [bind_eq_ok, pure_eq_ok] at h
    obtain ⟨filters, hfilters, rfl⟩ := h
    have hfam : ∀ (P : Family → Prop) (f : IncomingFilter),
      ((∃ s ∈ toReceive.allowed.prefixes, filterForSelector s = .ok f) ∧
        P f.ipFamily) ↔ ∃ s ∈ toReceive.allowed.prefixes, filterForSelector s = .ok f ∧ P (forCIDRString s.pfx) := by
      intro P f
      constructor
      · rintro ⟨⟨s, hs, hf⟩, hP⟩
        exact ⟨s, hs, hf, (filterForSelector_ok hf).2.1 ▸ hP⟩
      · rintro ⟨s, hs, hf, hP⟩
        exact ⟨⟨s, hs, hf⟩, (filterForSelector_ok hf).2.1 ▸ hP⟩
    refine ⟨by simp [hm], fun f => ?_, fun f => ?_, fun _ s hs => ok_of_mapM_eq_ok hfilters hs⟩
    · simp only [mem_sortFilters, List.mem_filter, mem_of_mapM_eq_ok hfilters, decide_eq_true_eq, hfam (· = .ipv4), hm,
        ne_eq, not_false_eq_true, true_and]
    · simp only [mem_sortFilters, List.mem_filter, mem_of_mapM_eq_ok hfilters, decide_eq_true_eq, hfam (· ≠ .ipv4), hm,
        ne_eq, not_false_eq_true, true_and]

section

variable {secrets : SortedMap String Secret} {alwaysBlock : List Net.IPNet} {cfgs : List FRRConfiguration} {c : Config}

theorem translation_receives {cfg : FRRConfiguration} {e : Router} {a : Neighbor} {m : NeighborConfig}
    (h : translation secrets alwaysBlock cfg e a = .ok m) : Receives a.toReceive m.incoming := by
  obtain ⟨-, f, -, timers, -, password, -, out, -, incoming, hin, rfl⟩ := (neighborToFRR_eq_ok ..).1 h
  exact toReceiveToFRR_receives hin

/-- A neighbor of the result receives everything exactly when a contributor does. -/
theorem ResultOf.all_iff (hacc : Acceptable secrets alwaysBlock cfgs) (h : ResultOf secrets alwaysBlock cfgs c)
    {r : RouterConfig} (hr : r ∈ c.routers) {n : NeighborConfig} (hn : n ∈ r.neighbors) :
    n.incoming.all = true ↔ ReceivesAll cfgs r.vrf n.id :=
  h.tells_iff hacc hr hn (x := .receiveAll) (fun _ hm _ _ => (translation_receives hm).all)

theorem Selects.known (hacc : Acceptable secrets alwaysBlock cfgs) {vrf id : String} {s : PrefixSelector}
    (h : Selects cfgs vrf id s) : forCIDRString s.pfx = .ipv4 ∨ forCIDRString s.pfx = .ipv6 := by
  obtain ⟨cfg, e, a, hcon, hmode, hmem⟩ := h
  obtain ⟨m, f, hm, -⟩ := hcon.translated hacc
  obtain ⟨g, hg⟩ := (translation_receives hm).selectors hmode s hmem
  exact (filterForSelector_ok hg).2.2

/-- The filters of a neighbor of the result are those of selectors of its contributors. -/
theorem ResultOf.filter_selects (h : ResultOf secrets alwaysBlock cfgs c) {r : RouterConfig} (hr : r ∈ c.routers)
    {n : NeighborConfig} (hn : n ∈ r.neighbors) (f : IncomingFilter) :
    (f ∈ n.incoming.prefixesV4 → Selects cfgs r.vrf n.id f.selector ∧ forCIDRString f.pfx = .ipv4) ∧
      (f ∈ n.incoming.prefixesV6 → Selects cfgs r.vrf n.id f.selector ∧ forCIDRString f.pfx ≠ .ipv4) := by
  refine ⟨fun hf => ?_, fun hf => ?_⟩
  · obtain ⟨cfg, e, a, hcon, m, hm, hk⟩ := brought_neighbor (h.keeps r hr (n.id, .filterV4 f) ⟨n, hn, rfl, hf⟩)
    obtain ⟨hmode, s, hs, hsf, hfam⟩ := ((translation_receives hm).filtersV4 f).1 hk
    obtain rfl := (filterForSelector_ok hsf).1
    exact ⟨⟨cfg, e, a, hcon, hmode, hs⟩, hfam⟩
  · obtain ⟨cfg, e, a, hcon, m, hm, hk⟩ := brought_neighbor (h.keeps r hr (n.id, .filterV6 f) ⟨n, hn, rfl, hf⟩)
    obtain ⟨hmode, s, hs, hsf, hfam⟩ := ((translation_receives hm).filtersV6 f).1 hk
    obtain rfl := (filterForSelector_ok hsf).1
    exact ⟨⟨cfg, e, a, hcon, hmode, hs⟩, hfam⟩

/-- The text of a selector of a contributor is that of a filter of the result. -/
theorem ResultOf.key_of_selects (hacc : Acceptable secrets alwaysBlock cfgs) (h : ResultOf secrets alwaysBlock cfgs c)
    {r : RouterConfig} (hr : r ∈ c.routers) {n : NeighborConfig} (hn : n ∈ r.neighbors)
    (hall : ¬ ReceivesAll cfgs r.vrf n.id) {s : PrefixSelector} (hs : Selects cfgs r.vrf n.id s) :
    (forCIDRString s.pfx = .ipv4 → ∃ f ∈ n.incoming.prefixesV4, f.key = s.key) ∧
      (forCIDRString s.pfx ≠ .ipv4 → ∃ f ∈ n.incoming.prefixesV6, f.key = s.key) := by
  have hnall : ¬ n.incoming.all = true := fun ha => hall ((h.all_iff hacc hr hn).1 ha)
  obtain ⟨cfg, e, a, hcon, hmode, hmem⟩ := hs
  obtain ⟨m, hm, htr, hfam⟩ := h.contributor hacc hr hn hcon
  have hrec := translation_receives hm
  obtain ⟨f, hf⟩ := hrec.selectors hmode s hmem
  have hkey : f.key = s.key := by rw [← f.key_selector, (filterForSelector_ok hf).1]
  refine ⟨fun hv => ?_, fun hv => ?_⟩
  · have hmf : f ∈ m.incoming.prefixesV4 := (hrec.filtersV4 f).2 ⟨hmode, s, hmem, hf, hv⟩
    have hx : m.tells (.filterKeyV4 s.key) := Or.inr ⟨f, hmf, hkey⟩
    exact (h.tells_of_translation hacc hr hn hcon hm hx).resolve_left hnall
  · have hmf : f ∈ m.incoming.prefixesV6 := (hrec.filtersV6 f).2 ⟨hmode, s, hmem, hf, hv⟩
    have hx : m.tells (.filterKeyV6 s.key) := Or.inr ⟨f, hmf, hkey⟩
    exact (h.tells_of_translation hacc hr hn hcon hm hx).resolve_left hnall

theorem ResultOf.selectors_kept_iff (hacc : Acceptable secrets alwaysBlock cfgs)
    (h : ResultOf secrets alwaysBlock cfgs c) {r : RouterConfig} (hr : r ∈ c.routers) {n : NeighborConfig}
    (hn : n ∈ r.neighbors) (hall : ¬ ReceivesAll cfgs r.vrf n.id) :
    (∀ s, Selects cfgs r.vrf n.id s → s ∈ n.incoming.allPrefixes.map IncomingFilter.selector) ↔
      ∀ f, ToldApart (fun s => Selects cfgs r.vrf n.id s ∧ forCIDRString s.pfx = f) := by
  have hnormal := (h.normal r hr).neighbors n hn
  have hmem : ∀ s, s ∈ n.incoming.allPrefixes.map IncomingFilter.selector ↔
      ∃ f, (f ∈ n.incoming.prefixesV4 ∨ f ∈ n.incoming.prefixesV6) ∧ f.selector = s := by
    intro s
    simp only [AllowedIn.allPrefixes, List.mem_map, List.mem_append]
  have hkept := @represented_iff PrefixSelector _ (fun s => (forCIDRString s.pfx, s.key))
    (fun s => s ∈ n.incoming.allPrefixes.map IncomingFilter.selector) (fun s => Selects cfgs r.vrf n.id s) ?_ ?_ ?_
  · refine hkept.trans ⟨fun hs f s t hS hT hk => ?_, fun hs s t hS hT hk => ?_⟩
    · exact hs s t hS.1 hT.1 (Prod.ext (hS.2.trans hT.2.symm) hk)
    · exact hs _ s t ⟨hS, rfl⟩ ⟨hT, (congrArg Prod.fst hk).symm⟩ (congrArg Prod.snd hk)
  · intro s hs
    obtain ⟨f, hf, rfl⟩ := (hmem s).1 hs
    exact hf.elim (fun hf => ((h.filter_selects hr hn f).1 hf).1) (fun hf => ((h.filter_selects hr hn f).2 hf).1)
  · intro s hs
    obtain ⟨h4, h6⟩ := h.key_of_selects hacc hr hn hall hs
    by_cases hv : forCIDRString s.pfx = .ipv4
    · obtain ⟨f, hf, hk⟩ := h4 hv
      exact ⟨f.selector, (hmem _).2 ⟨f, Or.inl hf, rfl⟩,
        Prod.ext (((h.filter_selects hr hn f).1 hf).2.trans hv.symm) hk⟩
    · obtain ⟨f, hf, hk⟩ := h6 hv
      obtain ⟨hsel, hne⟩ := (h.filter_selects hr hn f).2 hf
      have hfam : forCIDRString f.pfx = forCIDRString s.pfx :=
        ((hsel.known hacc).resolve_left hne).trans ((hs.known hacc).resolve_left hv).symm
      exact ⟨f.selector, (hmem _).2 ⟨f, Or.inr hf, rfl⟩, Prod.ext hfam hk⟩
  · intro s t hs ht hk
    obtain ⟨f, hf, rfl⟩ := (hmem s).1 hs
    obtain ⟨g, hg, rfl⟩ := (hmem t).1 ht
    have hfam : forCIDRString f.pfx = forCIDRString g.pfx := congrArg Prod.fst hk
    have hkey : f.key = g.key := congrArg Prod.snd hk
    have h4 : ∀ f ∈ n.incoming.prefixesV4, forCIDRString f.pfx = .ipv4 :=
      fun f hf => ((h.filter_selects hr hn f).1 hf).2
    have h6 : ∀ f ∈ n.incoming.prefixesV6, forCIDRString f.pfx ≠ .ipv4 :=
      fun f hf => ((h.filter_selects hr hn f).2 hf).2
    rcases hf with hf | hf <;> rcases hg with hg | hg
    · exact congrArg _ (List.inj_on_of_nodup_map (nodup_map_of_pairwise_lt hnormal.filtersV4) hf hg hkey)
    · exact (h6 g hg (hfam.symm.trans (h4 f hf))).elim
    · exact (h6 f hf (hfam.trans (h4 g hg))).elim
    · exact congrArg _ (List.inj_on_of_nodup_map (nodup_map_of_pairwise_lt hnormal.filtersV6) hf hg hkey)

/-- A router with one neighbor, from which it receives what the selectors allow. -/
def receivingBy (selectors : List PrefixSelector) : FRRConfiguration :=
  { name := "receiving"
    routers := [{ asn := 64512, neighbors := [{
      asn := 64513, address := "10.0.0.1", toReceive := { allowed := { prefixes := selectors } } }] }] }

theorem selects_receivingBy {selectors : List PrefixSelector} {vrf id : String} {s : PrefixSelector}
    (h : Selects [receivingBy selectors] vrf id s) : s ∈ selectors := by
  obtain ⟨cfg, e, a, hcon, -, hs⟩ := h
  obtain rfl := List.mem_singleton.1 hcon.cfg_mem
  obtain rfl := List.mem_singleton.1 hcon.entry_mem
  obtain rfl := List.mem_singleton.1 hcon.mem
  exact hs

theorem toldApart_of_mem {S : PrefixSelector → Prop} {l : List PrefixSelector} (hl : ∀ s, S s → s ∈ l)
    (h : ∀ s ∈ l, ∀ t ∈ l, s.key = t.key → s = t) : ToldApart S :=
  fun s t hs ht => h s (hl s hs) t (hl t ht)

/-- **Filters are kept exactly when their texts tell them apart.**  A merge of two filtered sides has the selectors of
both, family by family, exactly when different ones of a family have different texts.  In the result of a translation
every selector of a contributor is kept, unless a contributor receives everything, under the same condition. -/
theorem incoming_kept_iff (r toMerge : AllowedIn) (secrets : SortedMap String Secret) (alwaysBlock : List Net.IPNet)
    (cfgs : List FRRConfiguration) (c : Config) :
    (r.all = false → toMerge.all = false →
      (((∀ s, s ∈ (mergeAllowedIn r toMerge).prefixesV4.map IncomingFilter.selector ↔
            s ∈ r.prefixesV4.map IncomingFilter.selector ∨ s ∈ toMerge.prefixesV4.map IncomingFilter.selector) ∧
          ∀ s, s ∈ (mergeAllowedIn r toMerge).prefixesV6.map IncomingFilter.selector ↔
            s ∈ r.prefixesV6.map IncomingFilter.selector ∨ s ∈ toMerge.prefixesV6.map IncomingFilter.selector) ↔
        ToldApart (fun s => s ∈ r.prefixesV4.map IncomingFilter.selector ∨
            s ∈ toMerge.prefixesV4.map IncomingFilter.selector) ∧
          ToldApart (fun s => s ∈ r.prefixesV6.map IncomingFilter.selector ∨
            s ∈ toMerge.prefixesV6.map IncomingFilter.selector))) ∧
    (apiToFRR ⟨cfgs, secrets⟩ alwaysBlock = .ok c →
      ((∀ r ∈ c.routers, ∀ n ∈ r.neighbors, ¬ ReceivesAll cfgs r.vrf n.id →
          ∀ s, Selects cfgs r.vrf n.id s → s ∈ n.incoming.allPrefixes.map IncomingFilter.selector) ↔
        ∀ vrf id, ¬ ReceivesAll cfgs vrf id →
          ∀ f, ToldApart (fun s => Selects cfgs vrf id s ∧ forCIDRString s.pfx = f))) := by
  refine ⟨fun hr ht => ?_, fun h => ?_⟩
  · rw [(mergeAllowedIn_filters hr ht).1, (mergeAllowedIn_filters hr ht).2]
    exact and_congr (mergeIncomingFilters_selectors _ _) (mergeIncomingFilters_selectors _ _)
  · have hacc := apiToFRR_acceptable h
    have hres := apiToFRR_result h
    refine ⟨fun hkept vrf id hall f s t hs ht hk => ?_, fun hapart r hr n hn hall => ?_⟩
    · obtain ⟨cfg, e, a, hcon, -⟩ := hs.1
      obtain ⟨r, hr, rfl, n, hn, rfl⟩ := hres.exists_neighbor hacc hcon
      exact (hres.selectors_kept_iff hacc hr hn hall).1 (hkept r hr n hn hall) f s t hs ht hk
    · exact (hres.selectors_kept_iff hacc hr hn hall).2 (hapart r.vrf n.id hall)

theorem incoming_kept_iff_ordinary :
    (∀ s, s ∈ (mergeAllowedIn { prefixesV4 := [⟨.ipv4, "10.0.0.0/8", 24, 0⟩] }
        { prefixesV4 := [⟨.ipv4, "192.0.2.0/24", 0, 0⟩] }).prefixesV4.map IncomingFilter.selector ↔
      s ∈ [(⟨"10.0.0.0/8", 24, 0⟩ : PrefixSelector)] ∨ s ∈ [(⟨"192.0.2.0/24", 0, 0⟩ : PrefixSelector)]) ∧
    ∃ c, apiToFRR ⟨[receivingBy [⟨"10.0.0.0/8", 24, 0⟩, ⟨"192.0.2.0/24", 0, 0⟩]], .empty⟩ [] = .ok c ∧
      ∀ r ∈ c.routers, ∀ n ∈ r.neighbors,
        ¬ ReceivesAll [receivingBy [⟨"10.0.0.0/8", 24, 0⟩, ⟨"192.0.2.0/24", 0, 0⟩]] r.vrf n.id →
        ∀ s, Selects [receivingBy [⟨"10.0.0.0/8", 24, 0⟩, ⟨"192.0.2.0/24", 0, 0⟩]] r.vrf n.id s →
          s ∈ n.incoming.allPrefixes.map IncomingFilter.selector := by
  refine ⟨?_, ?_⟩
  · refine (((incoming_kept_iff { prefixesV4 := [⟨.ipv4, "10.0.0.0/8", 24, 0⟩] }
      { prefixesV4 := [⟨.ipv4, "192.0.2.0/24", 0, 0⟩] } .empty [] [] {}).1 rfl rfl).2 ⟨?_, ?_⟩).1
    · exact @toldApart_of_mem _ [⟨"10.0.0.0/8", 24, 0⟩, ⟨"192.0.2.0/24", 0, 0⟩]
        (fun s hs => List.mem_append.2 hs) (by decide)
    · exact @toldApart_of_mem _ [] (fun s hs => List.mem_append.2 hs) (by decide)
  · obtain ⟨c, hc⟩ := (isOk_iff (apiToFRR
      ⟨[receivingBy [⟨"10.0.0.0/8", 24, 0⟩, ⟨"192.0.2.0/24", 0, 0⟩]], .empty⟩ [])).1 (by decide +kernel)
    refine ⟨c, hc, ((incoming_kept_iff {} {} .empty [] _ c).2 hc).2 (fun vrf id _ f => ?_)⟩
    exact toldApart_of_mem (fun s hs => selects_receivingBy hs.1) (by decide)

/-- `0.0.0.0/1` up to length 20 is lost where it meets `0.0.0.0/12`, whose text with its bounds is the same. -/
theorem incoming_selector_lost :
    ((do
      let r ← toReceiveToFRR { allowed := { prefixes := [⟨"0.0.0.0/1", 20, 0⟩] } }
      let toMerge ← toReceiveToFRR { allowed := { prefixes := [⟨"0.0.0.0/12", 0, 0⟩] } }
      return (mergeAllowedIn r toMerge).allPrefixes.map IncomingFilter.selector : Result (List PrefixSelector)) =
        .ok [⟨"0.0.0.0/12", 0, 0⟩]) ∧
    (apiToFRR ⟨[receivingBy [⟨"0.0.0.0/1", 20, 0⟩, ⟨"0.0.0.0/12", 0, 0⟩]], .empty⟩ []).toOption.map
        (fun c => c.routers.flatMap (fun r => r.neighbors.map
          (fun n => (n.id, n.incoming.all, n.incoming.allPrefixes.map IncomingFilter.selector)))) =
      some [("10.0.0.1", false, [⟨"0.0.0.0/12", 0, 0⟩])] := by
  decide +kernel

end

end FrrK8s
