import FrrK8s.Inbound
import FrrK8s.Ranged
import FrrK8s.Session
/-!
# Reordered — where the order of the configurations does not matter at all

Two orders of the same configurations give results that are equal but for what merging does not compare: the graceful
restart of a neighbor, which is that of the first configuration that has the neighbor, and the inbound filters, of which
the last one of a key is kept.  Where the configurations agree on both, nothing is left that could differ, and the
results are equal (`apiToFRR_reordered`).
-/
namespace FrrK8s

/-- The neighbors of one ID agree on graceful restart, and the filters of one family that they select on what a key
stands for. -/
structure Determinate (cfgs : List FRRConfiguration) : Prop where
  gracefulRestart : ∀ vrf id cfg e a cfg' e' a', Contributes cfgs vrf id cfg e a → Contributes cfgs vrf id cfg' e' a' →
    a.enableGracefulRestart = a'.enableGracefulRestart
  filters : ∀ vrf id f, ToldApart (fun s => Selects cfgs vrf id s ∧ forCIDRString s.pfx = f)

theorem Determinate.of_subset {cfgs cfgs' : List FRRConfiguration} (hsub : ∀ cfg ∈ cfgs, cfg ∈ cfgs')
    (h : Determinate cfgs') : Determinate cfgs := by
  have hselects : ∀ {vrf id s}, Selects cfgs vrf id s → Selects cfgs' vrf id s :=
    fun ⟨cfg, e, a, hcon, hs⟩ => ⟨cfg, e, a, hcon.of_subset hsub, hs⟩
  refine ⟨fun vrf id cfg e a cfg' e' a' hcon hcon' => ?_, fun vrf id f s t hs ht => ?_⟩
  · exact h.gracefulRestart vrf id cfg e a cfg' e' a' (hcon.of_subset hsub) (hcon'.of_subset hsub)
  · exact h.filters vrf id f s t ⟨hselects hs.1, hs.2⟩ ⟨hselects ht.1, ht.2⟩

theorem InterfacesApart.of_subset {cfgs cfgs' : List FRRConfiguration} (hsub : ∀ cfg ∈ cfgs, cfg ∈ cfgs')
    (h : InterfacesApart cfgs') : InterfacesApart cfgs := by
  have hdeclared : ∀ x ∈ declaredNeighbors cfgs, x ∈ declaredNeighbors cfgs' := fun x hx => by
    obtain ⟨cfg, hcfg, hx⟩ := List.mem_flatMap.1 hx
    exact List.mem_flatMap.2 ⟨cfg, hsub cfg hcfg, hx⟩
  exact fun x hx y hy => h x (hdeclared x hx) y (hdeclared y hy)

/-! ## What the erased fields leave open -/

theorem eq_of_map_eq {α β : Type} {f : α → β} : ∀ {l l' : List α}, l.map f = l'.map f →
    (∀ a ∈ l, ∀ b ∈ l', f a = f b → a = b) → l = l'
  | [], [], _, _ => rfl
  | [], _ :: _, h, _ => by cases h
  | _ :: _, [], h, _ => by cases h
  | a :: l, b :: l', h, heq => by
    obtain ⟨hhead, htail⟩ := List.cons.inj h
    rw [heq a (List.mem_cons_self ..) b (List.mem_cons_self ..) hhead]
    rw [eq_of_map_eq htail (fun x hx y hy => heq x (List.mem_cons_of_mem a hx) y (List.mem_cons_of_mem b hy))]

theorem NeighborConfig.eq_of_erase {n n' : NeighborConfig} (h : n.erase = n'.erase)
    (hgr : n.gracefulRestart = n'.gracefulRestart) (hV4 : n.incoming.prefixesV4 = n'.incoming.prefixesV4)
    (hV6 : n.incoming.prefixesV6 = n'.incoming.prefixesV6) : n = n' := by
  have hall : n.incoming.all = n'.incoming.all := congrArg (fun m => m.incoming.all) h
  have hin : n.incoming = n'.incoming := by
    cases hi : n.incoming
    cases hi' : n'.incoming
    simp_all
  unfold NeighborConfig.erase at h
  cases n
  cases n'
  simp_all

theorem RouterConfig.eq_of_erase {r r' : RouterConfig} (h : r.erase = r'.erase)
    (hneighbors : ∀ n ∈ r.neighbors, ∀ n' ∈ r'.neighbors, n.erase = n'.erase → n = n') : r = r' := by
  have hmap : r.neighbors.map NeighborConfig.erase = r'.neighbors.map NeighborConfig.erase :=
    congrArg RouterConfig.neighbors h
  have heq := eq_of_map_eq hmap hneighbors
  unfold RouterConfig.erase at h
  cases r
  cases r'
  simp_all

theorem Config.eq_of_erase {c c' : Config} (h : c.erase = c'.erase)
    (hneighbors : ∀ r ∈ c.routers, ∀ r' ∈ c'.routers, r.vrf = r'.vrf → ∀ n ∈ r.neighbors, ∀ n' ∈ r'.neighbors,
      n.erase = n'.erase → n = n') : c = c' := by
  have hmap : c.routers.map RouterConfig.erase = c'.routers.map RouterConfig.erase := congrArg Config.routers h
  have heq : c.routers = c'.routers := eq_of_map_eq hmap (fun r hr r' hr' herase =>
    RouterConfig.eq_of_erase herase (hneighbors r hr r' hr'
      (congrArg RouterConfig.vrf herase : r.erase.vrf = r'.erase.vrf)))
  unfold Config.erase at h
  cases c
  cases c'
  simp_all

/-! ## Neighbors of two results -/

section

variable {secrets : SortedMap String Secret} {alwaysBlock : List Net.IPNet} {cfgs : List FRRConfiguration}
  {c c' : Config}
  {r r' : RouterConfig} {n n' : NeighborConfig}

theorem IncomingFilter.eq_of_selector {f g : IncomingFilter} (h : f.selector = g.selector)
    (hfam : f.ipFamily = g.ipFamily) : f = g := by
  unfold IncomingFilter.selector at h
  cases f
  cases g
  simp_all

/-- Every filter of one result is a filter of the other: both have one of its key, and a key stands for one selector. -/
theorem Determinate.filters_subset (hdet : Determinate cfgs) (hacc : Acceptable secrets alwaysBlock cfgs)
    (h : ResultOf secrets alwaysBlock cfgs c) (h' : ResultOf secrets alwaysBlock cfgs c') (hr : r ∈ c.routers)
    (hr' : r' ∈ c'.routers) (hn : n ∈ r.neighbors) (hn' : n' ∈ r'.neighbors) (hvrf : r.vrf = r'.vrf)
    (hid : n.id = n'.id) (hall : ¬ ReceivesAll cfgs r.vrf n.id) :
    (∀ f ∈ n.incoming.prefixesV4, f ∈ n'.incoming.prefixesV4) ∧ ∀ f ∈ n.incoming.prefixesV6,
    f ∈ n'.incoming.prefixesV6 := by
  have hfam := h.incoming_byFamily hr hn
  have hfam' := h'.incoming_byFamily hr' hn'
  have hall' : ¬ ReceivesAll cfgs r'.vrf n'.id := by rwa [← hvrf, ← hid]
  refine ⟨fun f hf => ?_, fun f hf => ?_⟩
  · obtain ⟨hsel, hcidr⟩ := (h.filter_selects hr hn f).1 hf
    rw [hvrf, hid] at hsel
    obtain ⟨g, hg, hkey⟩ := (h'.key_of_selects hacc hr' hn' hall' hsel).1 hcidr
    obtain ⟨hsel', hcidr'⟩ := (h'.filter_selects hr' hn' g).1 hg
    have hsame : g.selector = f.selector := hdet.filters _ _ .ipv4 _ _ ⟨hsel', hcidr'⟩ ⟨hsel, hcidr⟩ hkey
    rwa [← IncomingFilter.eq_of_selector hsame ((hfam'.familyV4 g hg).trans (hfam.familyV4 f hf).symm)]
  · obtain ⟨hsel, hcidr⟩ := (h.filter_selects hr hn f).2 hf
    rw [hvrf, hid] at hsel
    obtain ⟨g, hg, hkey⟩ := (h'.key_of_selects hacc hr' hn' hall' hsel).2 hcidr
    obtain ⟨hsel', hcidr'⟩ := (h'.filter_selects hr' hn' g).2 hg
    have hsame : g.selector = f.selector := hdet.filters _ _ .ipv6 _ _
      ⟨hsel', (hsel'.known hacc).resolve_left hcidr'⟩ ⟨hsel, (hsel.known hacc).resolve_left hcidr⟩ hkey
    rwa [← IncomingFilter.eq_of_selector hsame ((hfam'.familyV6 g hg).trans (hfam.familyV6 f hf).symm)]

/-- **Neighbors of two results that merging makes equal are equal**, where nothing is left that it does not compare. -/
theorem Determinate.neighbor_eq (hdet : Determinate cfgs) (hacc : Acceptable secrets alwaysBlock cfgs)
    (h : ResultOf secrets alwaysBlock cfgs c) (h' : ResultOf secrets alwaysBlock cfgs c') (hr : r ∈ c.routers)
    (hr' : r' ∈ c'.routers) (hn : n ∈ r.neighbors) (hn' : n' ∈ r'.neighbors) (hvrf : r.vrf = r'.vrf)
    (herase : n.erase = n'.erase) : n = n' := by
  have hid : n.id = n'.id := (congrArg NeighborConfig.id herase : n.erase.id = n'.erase.id)
  have hnormal := (h.normal r hr).neighbors n hn
  have hnormal' := (h'.normal r' hr').neighbors n' hn'
  have hgr : n.gracefulRestart = n'.gracefulRestart := by
    obtain ⟨cfg, e, a, hcon, ha⟩ := h.gracefulRestart_of hr hn
    obtain ⟨cfg', e', a', hcon', ha'⟩ := h'.gracefulRestart_of hr' hn'
    rw [← hvrf, ← hid] at hcon'
    rw [ha, ha', hdet.gracefulRestart _ _ cfg e a cfg' e' a' hcon hcon']
  by_cases hall : ReceivesAll cfgs r.vrf n.id
  · -- whoever receives everything has no filters
    obtain ⟨hV4, hV6⟩ := hnormal.receiveAll ((h.all_iff hacc hr hn).2 hall)
    rw [hvrf, hid] at hall
    obtain ⟨hV4', hV6'⟩ := hnormal'.receiveAll ((h'.all_iff hacc hr' hn').2 hall)
    exact NeighborConfig.eq_of_erase herase hgr (hV4.trans hV4'.symm) (hV6.trans hV6'.symm)
  · have hall' : ¬ ReceivesAll cfgs r'.vrf n'.id := by rwa [← hvrf, ← hid]
    obtain ⟨hV4, hV6⟩ := hdet.filters_subset hacc h h' hr hr' hn hn' hvrf hid hall
    obtain ⟨hV4', hV6'⟩ := hdet.filters_subset hacc h' h hr' hr hn' hn hvrf.symm hid.symm hall'
    exact NeighborConfig.eq_of_erase herase hgr
      (eq_of_sorted_key_of_mem_iff hnormal.filtersV4 hnormal'.filtersV4 (fun f => ⟨hV4 f, hV4' f⟩))
      (eq_of_sorted_key_of_mem_iff hnormal.filtersV6 hnormal'.filtersV6 (fun f => ⟨hV6 f, hV6' f⟩))

/-- Nothing of the result is left open. -/
theorem ResultOf.eq_of_determinate (hdet : Determinate cfgs) (hacc : Acceptable secrets alwaysBlock cfgs)
    (hapart : InterfacesApart cfgs) (h : ResultOf secrets alwaysBlock cfgs c)
    (h' : ResultOf secrets alwaysBlock cfgs c') : c = c' :=
  Config.eq_of_erase (h.erase_eq hacc hapart h') (fun _ hr _ hr' hvrf _ hn _ hn' herase =>
    hdet.neighbor_eq hacc h h' hr hr' hn hn' hvrf herase)

end

/-- A result is the result in every other order. -/
theorem Determinate.ok_of_perm {secrets : SortedMap String Secret} {alwaysBlock : List Net.IPNet}
    {cfgs cfgs' : List FRRConfiguration} (hdet : Determinate cfgs) (hapart : InterfacesApart cfgs)
    (hperm : cfgs.Perm cfgs') (hnames : (cfgs.map FRRConfiguration.name).Nodup) {c : Config}
    (h : apiToFRR ⟨cfgs, secrets⟩ alwaysBlock = .ok c) : apiToFRR ⟨cfgs', secrets⟩ alwaysBlock = .ok c := by
  have hacc := apiToFRR_acceptable h
  obtain ⟨c', hc'⟩ := (isOk_iff _).1 (apiToFRR_isOk.2 (hacc.congr (fun _ => hperm.mem_iff)))
  rw [hc', (apiToFRR_result h).eq_of_determinate hdet hacc hapart ((apiToFRR_result hc').of_perm hperm hnames)]

/-- **Where the configurations agree on what merging does not compare, their order does not matter at all**: in every
order, and in whichever order maps are walked, `apiToFRR` fails, or it succeeds with the same result. -/
theorem apiToFRR_reordered (order order' : RangeOrder) (secrets : SortedMap String Secret)
    (alwaysBlock : List Net.IPNet) (cfgs cfgs' : List FRRConfiguration) (hperm : cfgs.Perm cfgs')
    (hnames : (cfgs.map FRRConfiguration.name).Nodup) (hapart : InterfacesApart cfgs) (hdet : Determinate cfgs) :
    (@apiToFRR order ⟨cfgs, secrets⟩ alwaysBlock).toOption =
    (@apiToFRR order' ⟨cfgs', secrets⟩ alwaysBlock).toOption := by
  rw [apiToFRR_toOption order inOrder, apiToFRR_toOption order' inOrder]
  have hsub : ∀ cfg ∈ cfgs', cfg ∈ cfgs := fun _ => hperm.mem_iff.2
  cases h : @apiToFRR inOrder ⟨cfgs, secrets⟩ alwaysBlock with
  | ok c => rw [hdet.ok_of_perm hapart hperm hnames h]
  | error err =>
    cases h' : @apiToFRR inOrder ⟨cfgs', secrets⟩ alwaysBlock with
    | error err' => rfl
    | ok c =>
      have hok := (hdet.of_subset hsub).ok_of_perm (hapart.of_subset hsub) hperm.symm
        ((hperm.map FRRConfiguration.name).nodup_iff.1 hnames) h'
      rw [h] at hok
      cases hok

/-- One value of graceful restart and a list of selectors with a key each. -/
theorem Determinate.of_all {cfgs : List FRRConfiguration} (gracefulRestart : Bool) (selectors : List PrefixSelector)
    (hneighbors : ∀ cfg ∈ cfgs, ∀ e ∈ cfg.routers, ∀ a ∈ e.neighbors, a.enableGracefulRestart = gracefulRestart ∧
      ∀ s ∈ a.toReceive.allowed.prefixes, s ∈ selectors)
    (hkeys : ∀ s ∈ selectors, ∀ t ∈ selectors, s.key = t.key → s = t) : Determinate cfgs := by
  refine ⟨fun vrf id cfg e a cfg' e' a' hcon hcon' => ?_, fun vrf id f => toldApart_of_mem (fun s hs => ?_) hkeys⟩
  · have ha := (hneighbors cfg hcon.cfg_mem e hcon.entry_mem a hcon.mem).1
    have ha' := (hneighbors cfg' hcon'.cfg_mem e' hcon'.entry_mem a' hcon'.mem).1
    exact ha.trans ha'.symm
  · obtain ⟨⟨cfg, e, a, hcon, -, hs⟩, -⟩ := hs
    exact (hneighbors cfg hcon.cfg_mem e hcon.entry_mem a hcon.mem).2 s hs

/-- A neighbor and what it receives. -/
def filtering (name : String) (selectors : List PrefixSelector) : FRRConfiguration :=
  { name := name
    routers := [{ asn := 64512, neighbors := [{
      asn := 64513, address := "10.0.0.1", enableGracefulRestart := true
      toReceive := { allowed := { prefixes := selectors } } }] }] }

def filtered : List FRRConfiguration :=
  [filtering "first" [⟨"10.0.0.0/8", 24, 0⟩], filtering "second" [⟨"10.0.0.0/8", 0, 16⟩, ⟨"fd00::/64", 0, 0⟩]]

theorem apiToFRR_reordered_filtered : (apiToFRR ⟨filtered, .empty⟩ []).isOk = true ∧
    (apiToFRR ⟨filtered, .empty⟩ []).toOption = (@apiToFRR reversed ⟨filtered.reverse, .empty⟩ []).toOption :=
  ⟨by decide +kernel, apiToFRR_reordered inOrder reversed .empty [] filtered filtered.reverse
  (List.reverse_perm filtered).symm (by decide)
    (by unfold InterfacesApart; decide +kernel)
    (.of_all true [⟨"10.0.0.0/8", 24, 0⟩, ⟨"10.0.0.0/8", 0, 16⟩, ⟨"fd00::/64", 0, 0⟩] (by decide) (by decide +kernel))⟩

end FrrK8s
