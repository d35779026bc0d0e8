import FrrK8s.EvpnMerged
import FrrK8s.Session
import FrrK8s.Template
/-!
# Activation — the address families FRR activates a neighbor for

A router block turns default activation off, so that a neighbor is activated for the address families in which the block
says so: the unicast families of a neighbor whose merged list of address families is empty or has `unicast`, and EVPN
where the list has `evpn` and the router an EVPN section.
-/
namespace FrrK8s

/-! ## The lines of a router block -/

/-- A line of a router block that opens or closes an address family, or stands in one. -/
inductive FamilyLine
  | enter (family : String)
  | activate (peer : String)
  | network (pfx : String)
  | exit
deriving DecidableEq, Repr

def FamilyLine.text : FamilyLine → String
  | .enter family => "\n  address-family " ++ family
  | .activate peer => "\n    neighbor " ++ peer ++ " activate"
  | .network pfx => "\n    network " ++ pfx
  | .exit => "\n  exit-address-family"

def familyTokenText : Token FamilyLine → String
  | .text s => s
  | .line l => l.text

def blockText (tokens : List (Token FamilyLine)) : String := String.join (tokens.map familyTokenText)

def familyTokens (family : String) (body : List (Token FamilyLine)) : List (Token FamilyLine) :=
  .line (.enter family) :: (body ++ [.line .exit])

def unicast (family : String) : String := family ++ " unicast"

def evpnFamily : String := "l2vpn evpn"

def activateTokens (family : String) (n : NeighborConfig) : List (Token FamilyLine) :=
  if activateNeighborFor family n.ipFamily n.addressFamilies = true then
    familyTokens (unicast family) [.line (.activate n.peer),
      .text s!"\n    neighbor {n.peer} route-map {n.id}-in in\n    neighbor {n.peer} route-map {n.id}-out out"]
  else []

def importTokens (family : String) (imports : List String) : List (Token FamilyLine) :=
  familyTokens (unicast family) [.text (String.join (imports.map (fun v => s!"\n    import vrf {v}")))]

def networkTokens (family : String) (prefixes : List String) : List (Token FamilyLine) :=
  if prefixes ≠ [] then familyTokens (unicast family) (prefixes.map (fun p => .line (.network p))) ++ [.text "\n"]
    else []

def evpnTokens (r : RouterConfig) : List (Token FamilyLine) :=
  match r.evpn with
  | none => []
  | some e =>
    familyTokens evpnFamily (r.neighbors.flatMap (fun n =>
        if hasAddressFamilyEVPN n.addressFamilies = true then [.line (.activate n.peer)] else []) ++
      [.text (textIf (hasAdvertiseVNIsAll e.advertiseVNIs = true) "\n    advertise-all-vni" ++
        textIf (e.advertiseSVI = true) "\n    advertise-svi-ip" ++
        String.join (e.l2vnis.elems.map l2vniText) ++ e.l3vni.elim "" l3vniText)]) ++ [.text "\n"]

def routerTokens (r : RouterConfig) : List (Token FamilyLine) :=
  [.text (s!"router bgp {r.myASN}" ++ textIf (r.vrf ≠ "") s!" vrf {r.vrf}" ++
    "\n  no bgp ebgp-requires-policy\n  no bgp network import-check" ++
    "\n  no bgp default ipv4-unicast\n  bgp graceful-restart preserve-fw-state\n" ++
    textIf (r.routerID ≠ "") s!"\n  bgp router-id {r.routerID}")] ++
    (if r.importVRFs ≠ [] then importTokens "ipv4" r.importVRFs ++ importTokens "ipv6" r.importVRFs else []) ++
    [.text (String.join (r.neighbors.map (sessionText r.myASN)))] ++
    r.neighbors.flatMap (fun n => .text "\n" :: (activateTokens "ipv4" n ++ activateTokens "ipv6" n)) ++
    networkTokens "ipv4" r.ipv4Prefixes ++ networkTokens "ipv6" r.ipv6Prefixes ++ evpnTokens r ++ [.text "\n"]

/-! ### They are the lines of the text -/

section

@[simp] theorem blockText_nil : blockText [] = "" := rfl

theorem blockText_cons (t : Token FamilyLine) (tokens : List (Token FamilyLine)) :
    blockText (t :: tokens) = familyTokenText t ++ blockText tokens := String.join_cons

theorem blockText_append (x y : List (Token FamilyLine)) : blockText (x ++ y) = blockText x ++ blockText y := by
  unfold blockText
  rw [List.map_append, String.join_append]

theorem blockText_flatMap {α : Type} (l : List α) (f : α → List (Token FamilyLine)) :
    blockText (l.flatMap f) = String.join (l.map (fun x => blockText (f x))) := by
  induction l with
  | nil => rfl
  | cons x l ih => rw [List.flatMap_cons, blockText_append, ih, List.map_cons, String.join_cons]

theorem blockText_ite (p : Prop) [Decidable p] (tokens : List (Token FamilyLine)) :
    blockText (if p then tokens else []) = textIf p (blockText tokens) := by
  unfold textIf
  split <;> rfl

theorem blockText_family (family : String) (body : List (Token FamilyLine)) :
    blockText (familyTokens family body) =
      "\n  address-family " ++ family ++ blockText body ++ "\n  exit-address-family" := by
  rw [familyTokens, blockText_cons, blockText_append, blockText_cons, blockText_nil, String.append_empty,
    ← String.append_assoc]
  rfl

theorem blockText_text (s : String) : blockText [.text s] = s := by
  rw [blockText_cons, blockText_nil, String.append_empty]
  rfl

theorem activateTokens_text (family : String) (n : NeighborConfig) :
    blockText (activateTokens family n) = activateText family n := by
  have hsplit : " unicast\n    neighbor " = " unicast" ++ "\n    neighbor " := rfl
  have hlines : ∀ peer maps : String, "\n  address-family " ++ (family ++ " unicast") ++
      ("\n    neighbor " ++ peer ++ " activate" ++ maps) ++ "\n  exit-address-family" =
        "\n  address-family " ++ family ++ " unicast\n    neighbor " ++ peer ++ " activate" ++ maps ++
          "\n  exit-address-family" := by
    intro peer maps
    rw [hsplit]
    simp only [String.append_assoc]
  unfold activateTokens activateText textIf
  by_cases h : activateNeighborFor family n.ipFamily n.addressFamilies = true
  · rw [if_pos h, if_pos h, blockText_family, blockText_cons, blockText_text]
    exact (hlines n.peer _).trans (by simp only [toString, String.append_assoc])
  · rw [if_neg h, if_neg h, blockText_nil]

theorem importTokens_text (family : String) (imports : List String) :
    blockText (importTokens family imports) = familyText family "import vrf" imports := by
  have hsplit : "\n    import vrf " = "\n    " ++ "import vrf" ++ " " := rfl
  unfold importTokens familyText
  rw [blockText_family, blockText_text]
  simp only [unicast, toString]
  rw [hsplit]
  simp only [String.append_assoc]

theorem networkTokens_text (family : String) (prefixes : List String) : blockText (networkTokens family prefixes) =
    textIf (prefixes ≠ []) (familyText family "network" prefixes ++ "\n") := by
  have hsplit : "\n    network " = "\n    " ++ "network" ++ " " := rfl
  have hlines : blockText (prefixes.map (fun p => .line (.network p))) =
      String.join (prefixes.map (fun p => "\n    " ++ "network" ++ " " ++ p)) := by
    unfold blockText
    rw [List.map_map, ← hsplit]
    rfl
  unfold networkTokens familyText
  rw [blockText_ite, blockText_append, blockText_family, blockText_text, hlines]
  simp only [unicast, toString, String.append_assoc]

theorem evpnTokens_text (r : RouterConfig) : blockText (evpnTokens r) = evpnText r := by
  unfold evpnTokens evpnText
  cases r.evpn with
  | none => rfl
  | some e =>
    have hsplit : "\n  exit-address-family\n" = "\n  exit-address-family" ++ "\n" := rfl
    have hfamily : "\n  address-family l2vpn evpn" = "\n  address-family " ++ evpnFamily := rfl
    have hpeers : blockText (r.neighbors.flatMap (fun n =>
        if hasAddressFamilyEVPN n.addressFamilies = true then [.line (.activate n.peer)] else [])) =
          String.join (r.neighbors.map (fun n =>
            textIf (hasAddressFamilyEVPN n.addressFamilies = true) s!"\n    neighbor {n.peer} activate")) := by
      simp only [blockText_flatMap, blockText_ite, blockText_cons, blockText_nil, String.append_empty]
      rfl
    simp only
    rw [blockText_append, blockText_family, blockText_text, blockText_append, blockText_text, hpeers, hsplit, hfamily]
    simp only [String.append_assoc]

/-- **The text of a router block is that of its lines and of what stands around them.** -/
theorem routerTokens_text (r : RouterConfig) : blockText (routerTokens r) = routerText r := by
  unfold routerTokens routerText
  have hneighbors : blockText (r.neighbors.flatMap (fun n =>
      .text "\n" :: (activateTokens "ipv4" n ++ activateTokens "ipv6" n))) =
        String.join (r.neighbors.map neighborEnableIPFamily) := by
    rw [blockText_flatMap]
    refine congrArg String.join (List.map_congr_left (fun n _ => ?_))
    rw [blockText_cons, blockText_append, activateTokens_text, activateTokens_text, neighborEnableIPFamily,
      String.append_assoc]
    rfl
  simp only [blockText_append, blockText_text, blockText_ite, importTokens_text, networkTokens_text, evpnTokens_text,
    hneighbors]

end

/-! ## What stands in which family -/

/-- The lines of a block with the address family each stands in. -/
def withFamily : String → List FamilyLine → List (String × FamilyLine)
  | _, [] => []
  | _, .enter family :: lines => withFamily family lines
  | _, .exit :: lines => withFamily "" lines
  | family, .activate peer :: lines => (family, .activate peer) :: withFamily family lines
  | family, .network pfx :: lines => (family, .network pfx) :: withFamily family lines

def familyLines (r : RouterConfig) : List (String × FamilyLine) := withFamily "" (linesOf (routerTokens r))

/-- The line stands in a family. -/
def FamilyLine.inner : FamilyLine → Bool
  | .activate _ | .network _ => true
  | .enter _ | .exit => false

/-- The tokens close every family they open, and their lines are read as `read`. -/
def Reads (tokens : List (Token FamilyLine)) (read : List (String × FamilyLine)) : Prop :=
  ∀ rest, withFamily "" (linesOf tokens ++ rest) = read ++ withFamily "" rest

section

theorem withFamily_inner (family : String) : ∀ (lines rest : List FamilyLine), (∀ l ∈ lines, l.inner = true) →
    withFamily family (lines ++ rest) = lines.map (fun l => (family, l)) ++ withFamily family rest
  | [], _, _ => rfl
  | l :: lines, rest, h => by
    have ih := withFamily_inner family lines rest (fun l hl => h l (List.mem_cons_of_mem _ hl))
    cases l with
    | enter family' => exact absurd (h _ List.mem_cons_self) Bool.false_ne_true
    | exit => exact absurd (h _ List.mem_cons_self) Bool.false_ne_true
    | activate peer => exact congrArg (_ :: ·) ih
    | network pfx => exact congrArg (_ :: ·) ih

theorem Reads.nil : Reads [] [] := fun _ => rfl

theorem Reads.text (s : String) : Reads [.text s] [] := fun _ => rfl

theorem Reads.append {x y : List (Token FamilyLine)} {a b : List (String × FamilyLine)} (hx : Reads x a)
    (hy : Reads y b) : Reads (x ++ y) (a ++ b) := by
  intro rest
  rw [linesOf_append, List.append_assoc, hx, hy, List.append_assoc]

theorem Reads.flatMap {α : Type} {f : α → List (Token FamilyLine)} {g : α → List (String × FamilyLine)}
    (h : ∀ x, Reads (f x) (g x)) (l : List α) : Reads (l.flatMap f) (l.flatMap g) := by
  induction l with
  | nil => exact Reads.nil
  | cons x l ih => exact (h x).append ih

theorem Reads.ite {p : Prop} [Decidable p] {x : List (Token FamilyLine)} {a : List (String × FamilyLine)}
    (h : p → Reads x a) : Reads (if p then x else []) (if p then a else []) := by
  by_cases hp : p
  · rw [if_pos hp, if_pos hp]
    exact h hp
  · rw [if_neg hp, if_neg hp]
    exact Reads.nil

theorem Reads.family (family : String) {body : List (Token FamilyLine)} (h : ∀ l ∈ linesOf body, l.inner = true) :
    Reads (familyTokens family body) ((linesOf body).map (fun l => (family, l))) := by
  intro rest
  rw [familyTokens, linesOf_line, linesOf_append, List.cons_append, withFamily, List.append_assoc,
    withFamily_inner family _ _ h]
  rfl

def activateRead (family : String) (n : NeighborConfig) : List (String × FamilyLine) :=
  if activateNeighborFor family n.ipFamily n.addressFamilies = true then [(unicast family, .activate n.peer)] else []

def networkRead (family : String) (prefixes : List String) : List (String × FamilyLine) :=
  prefixes.map (fun p => (unicast family, .network p))

def evpnRead (r : RouterConfig) : List (String × FamilyLine) :=
  if r.evpn ≠ none then r.neighbors.flatMap (fun n =>
    if hasAddressFamilyEVPN n.addressFamilies = true then [(evpnFamily, .activate n.peer)] else []) else []

theorem reads_activate (family : String) (n : NeighborConfig) :
    Reads (activateTokens family n) (activateRead family n) :=
  Reads.ite (fun _ => Reads.family _ (by simp [FamilyLine.inner]))

theorem linesOf_networks (prefixes : List String) :
    linesOf (prefixes.map (fun p => Token.line (FamilyLine.network p))) = prefixes.map .network := by
  induction prefixes with
  | nil => rfl
  | cons p prefixes ih => rw [List.map_cons, linesOf_line, ih, List.map_cons]

theorem reads_network (family : String) (prefixes : List String) :
    Reads (networkTokens family prefixes) (networkRead family prefixes) := by
  have hread : networkRead family prefixes = if prefixes ≠ [] then networkRead family prefixes ++ [] else [] := by
    by_cases h : prefixes = []
    · rw [if_neg (not_not.2 h), h]
      rfl
    · rw [if_pos h, List.append_nil]
  rw [hread]
  refine Reads.ite (fun _ => Reads.append ?_ (Reads.text _))
  have hlines : networkRead family prefixes =
      (linesOf (prefixes.map (fun p => Token.line (FamilyLine.network p)))).map (fun l => (unicast family, l)) := by
    rw [linesOf_networks, List.map_map]
    rfl
  rw [hlines]
  exact Reads.family _ (by simp [linesOf_networks, FamilyLine.inner])

theorem reads_evpn (r : RouterConfig) : Reads (evpnTokens r) (evpnRead r) := by
  unfold evpnTokens evpnRead
  cases he : r.evpn with
  | none => exact Reads.nil
  | some e =>
    have hpeers : ∀ s : String, linesOf (r.neighbors.flatMap (fun n =>
        if hasAddressFamilyEVPN n.addressFamilies = true then [.line (.activate n.peer)] else []) ++ [.text s]) =
          r.neighbors.flatMap (fun n =>
            if hasAddressFamilyEVPN n.addressFamilies = true then [FamilyLine.activate n.peer] else []) := by
      intro s
      rw [linesOf_append, linesOf_text, linesOf_nil, List.append_nil, linesOf_flatMap]
      simp only [apply_ite linesOf, linesOf_line, linesOf_nil]
    have hread : ∀ ns : List NeighborConfig, (ns.flatMap (fun n =>
        if hasAddressFamilyEVPN n.addressFamilies = true then [FamilyLine.activate n.peer] else [])).map
          (fun l => (evpnFamily, l)) = ns.flatMap (fun n =>
            if hasAddressFamilyEVPN n.addressFamilies = true then [(evpnFamily, .activate n.peer)] else []) := by
      intro ns
      rw [List.map_flatMap]
      simp only [apply_ite (List.map _), List.map_cons, List.map_nil]
    rw [if_pos (Option.some_ne_none e), ← hread, ← hpeers, ← List.append_nil (List.map _ _)]
    refine Reads.append (Reads.family evpnFamily (fun l hl => ?_)) (Reads.text _)
    rw [hpeers] at hl
    obtain ⟨n, -, hl⟩ := List.mem_flatMap.1 hl
    split at hl
    · rw [List.mem_singleton.1 hl]
      rfl
    · exact absurd hl List.not_mem_nil

/-- **What a router block says in each address family.** -/
theorem familyLines_eq (r : RouterConfig) : familyLines r =
    r.neighbors.flatMap (fun n => activateRead "ipv4" n ++ activateRead "ipv6" n) ++
      networkRead "ipv4" r.ipv4Prefixes ++ networkRead "ipv6" r.ipv6Prefixes ++ evpnRead r := by
  have himports : Reads (if r.importVRFs ≠ [] then importTokens "ipv4" r.importVRFs ++ importTokens "ipv6" r.importVRFs
      else []) [] := by
    split
    · exact (Reads.family _ (by simp)).append (Reads.family _ (by simp))
    · exact Reads.nil
  have hneighbors :
    Reads (r.neighbors.flatMap (fun n => .text "\n" :: (activateTokens "ipv4" n ++ activateTokens "ipv6" n)))
      (r.neighbors.flatMap (fun n => activateRead "ipv4" n ++ activateRead "ipv6" n)) :=
    Reads.flatMap (fun n => (Reads.text "\n").append ((reads_activate "ipv4" n).append (reads_activate "ipv6" n))) _
  have hall : Reads (routerTokens r) (r.neighbors.flatMap (fun n => activateRead "ipv4" n ++ activateRead "ipv6" n) ++
      networkRead "ipv4" r.ipv4Prefixes ++ networkRead "ipv6" r.ipv6Prefixes ++ evpnRead r ++ []) :=
    (((((((Reads.text _).append himports).append (Reads.text _)).append hneighbors).append
      (reads_network "ipv4" r.ipv4Prefixes)).append (reads_network "ipv6" r.ipv6Prefixes)).append (reads_evpn r)).append
        (Reads.text "\n")
  have hread := hall []
  rw [List.append_nil, List.append_nil, withFamily, List.append_nil] at hread
  exact hread

end

/-! ## Activation -/

/-- The configuration activates the peer for the address family, in the router block of the VRF. -/
def Activates (c : Config) (vrf family peer : String) : Prop :=
  ∃ r ∈ c.routers, r.vrf = vrf ∧ (family, .activate peer) ∈ familyLines r

/-- The block of `r` activates `n`, by the conditions of the templates. -/
def ActivatedFor (r : RouterConfig) (n : NeighborConfig) (family : String) : Prop :=
  (∃ f, (f = .ipv4 ∨ f = .ipv6) ∧ family = unicast (Family.string f) ∧
      activateNeighborFor f.string n.ipFamily n.addressFamilies = true) ∨
    (family = evpnFamily ∧ r.evpn ≠ none ∧ hasAddressFamilyEVPN n.addressFamilies = true)

theorem mem_activateRead {f : Family} {n : NeighborConfig} {family peer : String} :
    (family, .activate peer) ∈ activateRead f.string n ↔ family = unicast f.string ∧ n.peer = peer ∧
      activateNeighborFor f.string n.ipFamily n.addressFamilies = true := by
  unfold activateRead
  by_cases h : activateNeighborFor f.string n.ipFamily n.addressFamilies = true
  · simp [h, eq_comm]
  · simp [h]

theorem mem_evpnRead {r : RouterConfig} {x : String × FamilyLine} : x ∈ evpnRead r ↔ r.evpn ≠ none ∧
    ∃ n ∈ r.neighbors, hasAddressFamilyEVPN n.addressFamilies = true ∧ x = (evpnFamily, .activate n.peer) := by
  unfold evpnRead
  rw [List.mem_ite_nil_right, List.mem_flatMap]
  simp only [List.mem_ite_nil_right, List.mem_singleton]

theorem activate_mem_familyLines (r : RouterConfig) (family peer : String) :
    (family, .activate peer) ∈ familyLines r ↔ ∃ n ∈ r.neighbors, n.peer = peer ∧ ActivatedFor r n family := by
  have hunicast : ∀ n, (family, .activate peer) ∈ activateRead "ipv4" n ++ activateRead "ipv6" n ↔ n.peer = peer ∧
      ∃ f, (f = .ipv4 ∨ f = .ipv6) ∧ family = unicast (Family.string f) ∧
        activateNeighborFor f.string n.ipFamily n.addressFamilies = true := by
    intro n
    have h4 := @mem_activateRead .ipv4 n family peer
    have h6 := @mem_activateRead .ipv6 n family peer
    rw [List.mem_append]
    constructor
    · rintro (h | h)
      · obtain ⟨hf, hp, ha⟩ := h4.1 h
        exact ⟨hp, .ipv4, Or.inl rfl, hf, ha⟩
      · obtain ⟨hf, hp, ha⟩ := h6.1 h
        exact ⟨hp, .ipv6, Or.inr rfl, hf, ha⟩
    · rintro ⟨hp, f, rfl | rfl, hf, ha⟩
      · exact Or.inl (h4.2 ⟨hf, hp, ha⟩)
      · exact Or.inr (h6.2 ⟨hf, hp, ha⟩)
  have hnetwork : ∀ g ps, (family, FamilyLine.activate peer) ∉ networkRead g ps := by
    intro g ps h
    obtain ⟨p, -, h⟩ := List.mem_map.1 h
    cases h
  have hevpn : (family, .activate peer) ∈ evpnRead r ↔ ∃ n ∈ r.neighbors, n.peer = peer ∧ family = evpnFamily ∧
      r.evpn ≠ none ∧ hasAddressFamilyEVPN n.addressFamilies = true := by
    rw [mem_evpnRead]
    constructor
    · rintro ⟨he, n, hn, hhas, heq⟩
      cases heq
      exact ⟨n, hn, rfl, rfl, he, hhas⟩
    · rintro ⟨n, hn, rfl, rfl, he, hhas⟩
      exact ⟨he, n, hn, hhas, rfl⟩
  rw [familyLines_eq, List.mem_append, List.mem_append, List.mem_append, List.mem_flatMap, hevpn]
  simp only [hunicast, hnetwork, or_false]
  unfold ActivatedFor
  constructor
  · rintro (⟨n, hn, hp, h⟩ | ⟨n, hn, hp, h⟩)
    · exact ⟨n, hn, hp, Or.inl h⟩
    · exact ⟨n, hn, hp, Or.inr h⟩
  · rintro ⟨n, hn, hp, h | h⟩
    · exact Or.inl ⟨n, hn, hp, h⟩
    · exact Or.inr ⟨n, hn, hp, h⟩

/-- A neighbor is activated for a unicast family exactly when it has the family and its list is empty or has
`unicast`. -/
theorem activateNeighborFor_iff (n : NeighborConfig) {f : Family} (hf : f = .ipv4 ∨ f = .ipv6) :
    activateNeighborFor f.string n.ipFamily n.addressFamilies = true ↔ neighborHasIPFamily n f = true ∧
      (n.addressFamilies.elems = [] ∨ addressFamilyUnicast ∈ n.addressFamilies.elems) := by
  unfold activateNeighborFor neighborHasIPFamily
  have hstring : ∀ g : Family, g.string = f.string ↔ g = f := by
    intro g
    rcases hf with rfl | rfl <;> cases g <;> decide
  simp only [Bool.and_eq_true, Bool.or_eq_true, decide_eq_true_eq, List.contains_iff_mem, hstring]
  exact and_comm.trans (and_congr_left' or_comm)

/-- The neighbor asks for the unicast address families: it lists them, or nothing. -/
def Neighbor.RequestsUnicast (a : Neighbor) : Prop :=
  a.addressFamilies.elems = [] ∨ addressFamilyUnicast ∈ a.addressFamilies.elems

section

variable {secrets : SortedMap String Secret} {alwaysBlock : List Net.IPNet} {cfgs : List FRRConfiguration} {c : Config}

theorem ResultOf.peer_inj (hacc : Acceptable secrets alwaysBlock cfgs) (h : ResultOf secrets alwaysBlock cfgs c)
    {r : RouterConfig} (hr : r ∈ c.routers) {n m : NeighborConfig} (hn : n ∈ r.neighbors) (hm : m ∈ r.neighbors)
    (hpeer : n.peer = m.peer) : n = m := by
  refine h.neighbor_inj hr hn hm ?_
  unfold NeighborConfig.id
  rw [h.vrfName_eq hacc hr hn, h.vrfName_eq hacc hr hm]
  exact congrArg (· ++ _) hpeer

/-- **A neighbor of a result is activated by its own lines.** -/
theorem ResultOf.activates_iff (hacc : Acceptable secrets alwaysBlock cfgs) (h : ResultOf secrets alwaysBlock cfgs c)
    {r : RouterConfig} (hr : r ∈ c.routers) {n : NeighborConfig} (hn : n ∈ r.neighbors) (family : String) :
    Activates c r.vrf family n.peer ↔ ActivatedFor r n family := by
  constructor
  · rintro ⟨s, hs, hvrf, hmem⟩
    obtain rfl := h.router_inj hs hr hvrf
    obtain ⟨m, hm, hpeer, hact⟩ := (activate_mem_familyLines s family n.peer).1 hmem
    rwa [h.peer_inj hacc hs hm hn hpeer] at hact
  · intro hact
    exact ⟨r, hr, rfl, (activate_mem_familyLines r family n.peer).2 ⟨n, hn, rfl, hact⟩⟩

theorem ResultOf.activates_unicast_iff (hacc : Acceptable secrets alwaysBlock cfgs)
    (h : ResultOf secrets alwaysBlock cfgs c) {r : RouterConfig} (hr : r ∈ c.routers) {n : NeighborConfig}
    (hn : n ∈ r.neighbors) {f : Family} (hf : f = .ipv4 ∨ f = .ipv6) :
    Activates c r.vrf (unicast f.string) n.peer ↔ neighborHasIPFamily n f = true ∧
      (n.addressFamilies.elems = [] ∨ addressFamilyUnicast ∈ n.addressFamilies.elems) := by
  have hne : ∀ g, g = .ipv4 ∨ g = .ipv6 → unicast (Family.string g) ≠ evpnFamily := by
    rintro g (rfl | rfl) <;> decide
  have hinj : ∀ g, g = .ipv4 ∨ g = .ipv6 → unicast f.string = unicast (Family.string g) → f = g := by
    rintro g (rfl | rfl) hg <;> rcases hf with rfl | rfl <;> first | rfl | exact absurd hg (by decide)
  rw [h.activates_iff hacc hr hn, ← activateNeighborFor_iff n hf]
  constructor
  · rintro (⟨g, hg, heq, hact⟩ | ⟨heq, -⟩)
    · rwa [hinj g hg heq]
    · exact (hne f hf heq).elim
  · intro hact
    exact Or.inl ⟨f, hf, rfl, hact⟩

/-- The address families of a neighbor are those its contributors list. -/
theorem ResultOf.addressFamily_iff (hacc : Acceptable secrets alwaysBlock cfgs)
    (h : ResultOf secrets alwaysBlock cfgs c) {r : RouterConfig} (hr : r ∈ c.routers) {n : NeighborConfig}
    (hn : n ∈ r.neighbors) (f : String) :
    f ∈ n.addressFamilies.elems ↔ ∃ cfg e a, Contributes cfgs r.vrf n.id cfg e a ∧ f ∈ a.addressFamilies.elems := by
  have htranslated : ∀ {cfg e a m}, translation secrets alwaysBlock cfg e a = .ok m →
      m.addressFamilies = a.addressFamilies := by
    intro cfg e a m hm
    obtain ⟨-, f, -, timers, -, password, -, out, -, incoming, -, rfl⟩ := (neighborToFRR_eq_ok ..).1 hm
    rfl
  apply h.tells_iff hacc hr hn (x := .addressFamily f)
  intro cfg e a m _ hm _ _
  rw [NeighborConfig.tells, htranslated hm]

/-- A neighbor of a result has one of the unicast families. -/
theorem ResultOf.exists_family (hacc : Acceptable secrets alwaysBlock cfgs) (h : ResultOf secrets alwaysBlock cfgs c)
    {r : RouterConfig} (hr : r ∈ c.routers) {n : NeighborConfig} (hn : n ∈ r.neighbors) :
    ∃ f, (f = .ipv4 ∨ f = .ipv6) ∧ neighborHasIPFamily n f = true := by
  obtain ⟨cfg, e, a, hcon⟩ := h.exists_contributor hacc hr hn
  obtain ⟨m, -, htr, hfam⟩ := h.contributor hacc hr hn hcon
  unfold neighborHasIPFamily
  rw [← hfam]
  rcases htr.family with hf | hf | hf <;> rw [hf]
  · exact ⟨.ipv4, Or.inl rfl, rfl⟩
  · exact ⟨.ipv6, Or.inr rfl, rfl⟩
  · exact ⟨.ipv4, Or.inl rfl, rfl⟩

theorem ResultOf.addressFamilies_nil_iff (hacc : Acceptable secrets alwaysBlock cfgs)
    (h : ResultOf secrets alwaysBlock cfgs c) {r : RouterConfig} (hr : r ∈ c.routers) {n : NeighborConfig}
    (hn : n ∈ r.neighbors) : n.addressFamilies.elems = [] ↔
      ∀ cfg e a, Contributes cfgs r.vrf n.id cfg e a → a.addressFamilies.elems = [] := by
  simp only [List.eq_nil_iff_forall_not_mem, h.addressFamily_iff hacc hr hn]
  constructor
  · intro hno cfg e a hcon f hf
    exact hno f ⟨cfg, e, a, hcon, hf⟩
  · rintro hno f ⟨cfg, e, a, hcon, hf⟩
    exact hno cfg e a hcon f hf

end

/-! ### Unicast -/

/-- **A neighbor is activated for a unicast family exactly when it has the family and a contributor requests
unicast.** -/
def ActivatesRequested (cfgs : List FRRConfiguration) (c : Config) : Prop :=
  ∀ r ∈ c.routers, ∀ n ∈ r.neighbors, ∀ f, f = .ipv4 ∨ f = .ipv6 →
    (Activates c r.vrf (unicast (Family.string f)) n.peer ↔ neighborHasIPFamily n f = true ∧
      ∃ cfg e a, Contributes cfgs r.vrf n.id cfg e a ∧ a.RequestsUnicast)

/-- Where a contributor of a neighbor lists no address family, no contributor does, or one lists `unicast`. -/
def UnicastKept (cfgs : List FRRConfiguration) : Prop :=
  ∀ vrf id cfg e a, Contributes cfgs vrf id cfg e a → a.addressFamilies.elems = [] →
    (∀ cfg' e' a', Contributes cfgs vrf id cfg' e' a' → a'.addressFamilies.elems = []) ∨
    ∃ cfg' e' a', Contributes cfgs vrf id cfg' e' a' ∧ addressFamilyUnicast ∈ a'.addressFamilies.elems

section

variable {secrets : SortedMap String Secret} {alwaysBlock : List Net.IPNet} {cfgs : List FRRConfiguration} {c : Config}

/-- The merged list asks for unicast only if a contributor does. -/
theorem ResultOf.requestsUnicast (hacc : Acceptable secrets alwaysBlock cfgs) (h : ResultOf secrets alwaysBlock cfgs c)
    {r : RouterConfig} (hr : r ∈ c.routers) {n : NeighborConfig} (hn : n ∈ r.neighbors)
    (hmerged : n.addressFamilies.elems = [] ∨ addressFamilyUnicast ∈ n.addressFamilies.elems) :
    ∃ cfg e a, Contributes cfgs r.vrf n.id cfg e a ∧ a.RequestsUnicast := by
  rcases hmerged with hnil | hmem
  · obtain ⟨cfg, e, a, hcon⟩ := h.exists_contributor hacc hr hn
    exact ⟨cfg, e, a, hcon, Or.inl ((h.addressFamilies_nil_iff hacc hr hn).1 hnil cfg e a hcon)⟩
  · obtain ⟨cfg, e, a, hcon, hmem⟩ := (h.addressFamily_iff hacc hr hn _).1 hmem
    exact ⟨cfg, e, a, hcon, Or.inr hmem⟩

theorem ResultOf.activatesRequested_iff (hacc : Acceptable secrets alwaysBlock cfgs)
    (h : ResultOf secrets alwaysBlock cfgs c) : ActivatesRequested cfgs c ↔ UnicastKept cfgs := by
  constructor
  · intro hall vrf id cfg e a hcon hnil
    obtain ⟨r, hr, rfl, n, hn, rfl⟩ := h.exists_neighbor hacc hcon
    obtain ⟨f, hf, hhas⟩ := h.exists_family hacc hr hn
    have hact := (hall r hr n hn f hf).2 ⟨hhas, cfg, e, a, hcon, Or.inl hnil⟩
    obtain ⟨-, hmerged | hmerged⟩ := (h.activates_unicast_iff hacc hr hn hf).1 hact
    · exact Or.inl ((h.addressFamilies_nil_iff hacc hr hn).1 hmerged)
    · exact Or.inr ((h.addressFamily_iff hacc hr hn _).1 hmerged)
  · intro hkept r hr n hn f hf
    rw [h.activates_unicast_iff hacc hr hn hf]
    refine and_congr_right fun _ => ⟨h.requestsUnicast hacc hr hn, ?_⟩
    rintro ⟨cfg, e, a, hcon, hnil | hmem⟩
    · rcases hkept _ _ cfg e a hcon hnil with hall | hlisted
      · exact Or.inl ((h.addressFamilies_nil_iff hacc hr hn).2 hall)
      · exact Or.inr ((h.addressFamily_iff hacc hr hn _).2 hlisted)
    · exact Or.inr ((h.addressFamily_iff hacc hr hn _).2 ⟨cfg, e, a, hcon, hmem⟩)

/-- A neighbor keeps its unicast activation when configurations are added. -/
theorem ResultOf.activates_of_subset {cfgs' : List FRRConfiguration} {c' : Config}
    (hacc : Acceptable secrets alwaysBlock cfgs) (h : ResultOf secrets alwaysBlock cfgs c)
    (hacc' : Acceptable secrets alwaysBlock cfgs') (h' : ResultOf secrets alwaysBlock cfgs' c')
    (hsub : ∀ cfg ∈ cfgs, cfg ∈ cfgs') (hkept : UnicastKept cfgs') {vrf peer : String} {f : Family}
    (hf : f = .ipv4 ∨ f = .ipv6) (hact : Activates c vrf (unicast f.string) peer) :
    Activates c' vrf (unicast f.string) peer := by
  obtain ⟨r, hr, rfl, hmem⟩ := hact
  obtain ⟨n, hn, rfl, -⟩ := (activate_mem_familyLines r _ peer).1 hmem
  obtain ⟨hhas, hmerged⟩ := (h.activates_unicast_iff hacc hr hn hf).1 ⟨r, hr, rfl, hmem⟩
  obtain ⟨cfg, e, a, hcon, hreq⟩ := h.requestsUnicast hacc hr hn hmerged
  have hcon' : Contributes cfgs' r.vrf n.id cfg e a := { hcon with cfg_mem := hsub cfg hcon.cfg_mem }
  obtain ⟨s, hs, hvrf, m, hm, hid⟩ := h'.exists_neighbor hacc' hcon'
  have hfam : n.ipFamily = m.ipFamily := by
    have hn' := (h.comparedOf hacc hr hn hcon).ipFamily
    rw [← hvrf, ← hid] at hcon'
    exact Except.ok.inj (hn'.symm.trans (h'.comparedOf hacc' hs hm hcon').ipFamily)
  have hpeer : m.peer = n.peer := by
    unfold NeighborConfig.id at hid
    rw [h.vrfName_eq hacc hr hn, h'.vrfName_eq hacc' hs hm, hvrf] at hid
    exact (String.append_left_inj _).1 hid
  rw [← hvrf, ← hpeer]
  refine ((h'.activatesRequested_iff hacc').2 hkept s hs m hm f hf).2 ⟨?_, cfg, e, a, ?_, hreq⟩
  · rw [neighborHasIPFamily_congr hfam.symm]
    exact hhas
  · rw [hvrf, hid]
    exact hcon'

end

/-- **Every neighbor is activated for the unicast families its contributors request, exactly when none that lists no
address family is merged with others that list only `evpn`**; and no unicast activation is then lost to further
configurations. -/
theorem apiToFRR_unicast_iff (secrets : SortedMap String Secret) (alwaysBlock : List Net.IPNet)
    (cfgs : List FRRConfiguration) (c : Config) (h : apiToFRR ⟨cfgs, secrets⟩ alwaysBlock = .ok c) :
    (ActivatesRequested cfgs c ↔ UnicastKept cfgs) ∧
    ∀ cfgs' c', (∀ cfg ∈ cfgs, cfg ∈ cfgs') → apiToFRR ⟨cfgs', secrets⟩ alwaysBlock = .ok c' → UnicastKept cfgs' →
      ∀ vrf peer f, f = .ipv4 ∨ f = .ipv6 → Activates c vrf (unicast (Family.string f)) peer →
        Activates c' vrf (unicast (Family.string f)) peer := by
  have hacc := apiToFRR_acceptable h
  have hres := apiToFRR_result h
  refine ⟨hres.activatesRequested_iff hacc, fun cfgs' c' hsub h' hkept vrf peer f hf hact => ?_⟩
  have hacc' := apiToFRR_acceptable h'
  exact hres.activates_of_subset hacc hacc' (apiToFRR_result h') hsub hkept hf hact

/-- A router and its session with one neighbor, for these address families. -/
def familiesSession (name : String) (addressFamilies : List String) : FRRConfiguration :=
  { name := name
    routers := [{ asn := 64512, neighbors := [{
      asn := 64513, address := "10.0.0.1", addressFamilies := some addressFamilies }] }] }

theorem apiToFRR_unicast_iff_session : ∃ c,
    apiToFRR ⟨[familiesSession "plain" [], familiesSession "both" ["unicast", "evpn"]], .empty⟩ [] = .ok c ∧
      ActivatesRequested [familiesSession "plain" [], familiesSession "both" ["unicast", "evpn"]] c := by
  obtain ⟨c, hc⟩ := (isOk_iff (apiToFRR ⟨[familiesSession "plain" [], familiesSession "both" ["unicast", "evpn"]],
    .empty⟩ [])).1 (by decide +kernel)
  refine ⟨c, hc, (apiToFRR_unicast_iff .empty [] _ c hc).1.2 (fun vrf id cfg e a hcon hnil => Or.inr ?_)⟩
  have hall : ∀ cfg ∈ [familiesSession "plain" [], familiesSession "both" ["unicast", "evpn"]], ∀ e ∈ cfg.routers,
      ∀ a ∈ e.neighbors, neighborID e.vrf a = "10.0.0.1" ∧ e.vrf = "" := by decide
  obtain ⟨hid, hvrf⟩ := hall cfg hcon.cfg_mem e hcon.entry_mem a hcon.mem
  rw [hcon.vrf_eq] at hvrf hid
  rw [hcon.id_eq] at hid
  subst hvrf hid
  exact ⟨familiesSession "both" ["unicast", "evpn"], _, _,
    ⟨by decide, List.mem_singleton_self _, rfl, List.mem_singleton_self _, rfl⟩, by decide⟩

/-- A session without a list of address families is activated for unicast; with one more configuration that asks for
`evpn` it is not. -/
theorem unicast_deactivated :
    (apiToFRR ⟨[familiesSession "plain" []], .empty⟩ []).toOption.map (fun c => c.routers.flatMap familyLines) =
      some [("ipv4 unicast", .activate "10.0.0.1")] ∧
    ∃ c, apiToFRR ⟨[familiesSession "plain" [], familiesSession "fabric" ["evpn"]], .empty⟩ [] = .ok c ∧
      c.routers.flatMap familyLines = [] ∧
      ¬ ActivatesRequested [familiesSession "plain" [], familiesSession "fabric" ["evpn"]] c := by
  refine ⟨by decide +kernel, ?_⟩
  obtain ⟨c, hc, hlines⟩ := (toOption_map_eq_some
    (apiToFRR ⟨[familiesSession "plain" [], familiesSession "fabric" ["evpn"]], .empty⟩ [])
    (fun c => c.routers.flatMap familyLines) []).1 (by decide +kernel)
  refine ⟨c, hc, hlines, fun hall => ?_⟩
  have hacc := apiToFRR_acceptable hc
  have hkept := ((apiToFRR_result hc).activatesRequested_iff hacc).1 hall "" "10.0.0.1" (familiesSession "plain" []) _ _
    ⟨by decide, List.mem_singleton_self _, rfl, List.mem_singleton_self _, rfl⟩ rfl
  rcases hkept with hnil | ⟨cfg, e, a, hcon, hmem⟩
  · exact absurd (hnil (familiesSession "fabric" ["evpn"]) _ _
      ⟨by decide, List.mem_singleton_self _, rfl, List.mem_singleton_self _, rfl⟩) (by decide)
  · have hno : ∀ cfg ∈ [familiesSession "plain" [], familiesSession "fabric" ["evpn"]], ∀ e ∈ cfg.routers,
        ∀ a ∈ e.neighbors, addressFamilyUnicast ∉ a.addressFamilies.elems := by decide
    exact hno cfg hcon.cfg_mem e hcon.entry_mem a hcon.mem hmem

/-! ### Any family -/

/-- **Every neighbor is activated for some address family.** -/
def EveryActivated (c : Config) : Prop := ∀ r ∈ c.routers, ∀ n ∈ r.neighbors, ∃ family, Activates c r.vrf family n.peer

/-- A neighbor that is asked for `evpn` and not for `unicast` is in a VRF with an EVPN section. -/
def EvpnSectionsGiven (cfgs : List FRRConfiguration) : Prop :=
  ∀ vrf id cfg e a, Contributes cfgs vrf id cfg e a → addressFamilyEVPN ∈ a.addressFamilies.elems →
    (∀ cfg' e' a', Contributes cfgs vrf id cfg' e' a' → addressFamilyUnicast ∉ a'.addressFamilies.elems) →
      ∃ s, EvpnSection cfgs vrf s

section

variable {secrets : SortedMap String Secret} {alwaysBlock : List Net.IPNet} {cfgs : List FRRConfiguration} {c : Config}

theorem ResultOf.activatesAny_iff (hacc : Acceptable secrets alwaysBlock cfgs) (h : ResultOf secrets alwaysBlock cfgs c)
    {r : RouterConfig} (hr : r ∈ c.routers) {n : NeighborConfig} (hn : n ∈ r.neighbors) :
    (∃ family, Activates c r.vrf family n.peer) ↔
      (n.addressFamilies.elems = [] ∨ addressFamilyUnicast ∈ n.addressFamilies.elems) ∨
      ((∃ s, EvpnSection cfgs r.vrf s) ∧ addressFamilyEVPN ∈ n.addressFamilies.elems) := by
  have hsection : r.evpn ≠ none ↔ ∃ s, EvpnSection cfgs r.vrf s := (h.evpn_none_iff hacc hr).not_left
  simp only [h.activates_iff hacc hr hn, ← hsection]
  constructor
  · rintro ⟨family, ⟨f, hf, -, hact⟩ | ⟨-, hevpn, hhas⟩⟩
    · exact Or.inl ((activateNeighborFor_iff n hf).1 hact).2
    · exact Or.inr ⟨hevpn, List.contains_iff_mem.1 hhas⟩
  · rintro (hmerged | ⟨hevpn, hmem⟩)
    · obtain ⟨f, hf, hhas⟩ := h.exists_family hacc hr hn
      exact ⟨_, Or.inl ⟨f, hf, rfl, (activateNeighborFor_iff n hf).2 ⟨hhas, hmerged⟩⟩⟩
    · exact ⟨_, Or.inr ⟨rfl, hevpn, List.contains_iff_mem.2 hmem⟩⟩

theorem ResultOf.everyActivated_iff (hacc : Acceptable secrets alwaysBlock cfgs)
    (h : ResultOf secrets alwaysBlock cfgs c)
    (hvalues : ∀ cfg ∈ cfgs, ∀ e ∈ cfg.routers, ∀ a ∈ e.neighbors, ∀ f ∈ a.addressFamilies.elems,
    f = addressFamilyUnicast ∨ f = addressFamilyEVPN) : EveryActivated c ↔ EvpnSectionsGiven cfgs := by
  constructor
  · intro hall vrf id cfg e a hcon hevpn hno
    obtain ⟨r, hr, rfl, n, hn, rfl⟩ := h.exists_neighbor hacc hcon
    have hmem := (h.addressFamily_iff hacc hr hn _).2 ⟨cfg, e, a, hcon, hevpn⟩
    rcases (h.activatesAny_iff hacc hr hn).1 (hall r hr n hn) with (hnil | hunicast) | ⟨hsection, -⟩
    · rw [hnil] at hmem
      exact absurd hmem List.not_mem_nil
    · obtain ⟨cfg', e', a', hcon', hunicast⟩ := (h.addressFamily_iff hacc hr hn _).1 hunicast
      exact (hno cfg' e' a' hcon' hunicast).elim
    · exact hsection
  · intro hgiven r hr n hn
    rw [h.activatesAny_iff hacc hr hn]
    by_cases hmerged : n.addressFamilies.elems = [] ∨ addressFamilyUnicast ∈ n.addressFamilies.elems
    · exact Or.inl hmerged
    · -- the list is not empty and has no `unicast`, so a contributor asks for `evpn` and none for `unicast`
      obtain ⟨hne, hno⟩ := not_or.1 hmerged
      obtain ⟨f, hf⟩ := List.exists_mem_of_ne_nil _ hne
      obtain ⟨cfg, e, a, hcon, hfa⟩ := (h.addressFamily_iff hacc hr hn f).1 hf
      obtain rfl := (hvalues cfg hcon.cfg_mem e hcon.entry_mem a hcon.mem f hfa).resolve_left
        (fun heq => hno (heq ▸ hf))
      refine Or.inr ⟨hgiven _ _ cfg e a hcon hfa (fun cfg' e' a' hcon' hunicast => hno ?_), hf⟩
      exact (h.addressFamily_iff hacc hr hn _).2 ⟨cfg', e', a', hcon', hunicast⟩

end

/-- **Every neighbor is activated for some address family exactly when those asked only for `evpn` are in VRFs with an
EVPN section.** -/
theorem apiToFRR_activated_iff (secrets : SortedMap String Secret) (alwaysBlock : List Net.IPNet)
    (cfgs : List FRRConfiguration) (hvalues : ∀ cfg ∈ cfgs, ∀ e ∈ cfg.routers, ∀ a ∈ e.neighbors,
      ∀ f ∈ a.addressFamilies.elems, f = addressFamilyUnicast ∨ f = addressFamilyEVPN)
    (c : Config) (h : apiToFRR ⟨cfgs, secrets⟩ alwaysBlock = .ok c) : EveryActivated c ↔ EvpnSectionsGiven cfgs :=
  (apiToFRR_result h).everyActivated_iff (apiToFRR_acceptable h) hvalues

/-- A session for EVPN on a router that advertises its VNIs. -/
def fabricSession : FRRConfiguration :=
  { name := "fabric"
    routers := [{ asn := 64512, evpn := some { advertiseVNIs := some vniAdvertisementAll }, neighbors := [{
      asn := 64513, address := "10.0.0.1", addressFamilies := some ["evpn"] }] }] }

theorem apiToFRR_activated_iff_session : ∃ c, apiToFRR ⟨[fabricSession], .empty⟩ [] = .ok c ∧
    c.neighbors.map NeighborConfig.peer = ["10.0.0.1"] ∧ EveryActivated c := by
  obtain ⟨c, hc, hpeers⟩ := (toOption_map_eq_some (apiToFRR ⟨[fabricSession], .empty⟩ [])
    (fun c => c.neighbors.map NeighborConfig.peer) ["10.0.0.1"]).1 (by decide +kernel)
  refine ⟨c, hc, hpeers, (apiToFRR_activated_iff .empty [] _ (by decide) c hc).2 (fun vrf id cfg e a hcon _ _ => ?_)⟩
  have hsection : ∀ e ∈ fabricSession.routers, e.evpn ≠ none := by decide
  obtain rfl := List.mem_singleton.1 hcon.cfg_mem
  obtain ⟨s, hs⟩ := Option.ne_none_iff_exists'.1 (hsection e hcon.entry_mem)
  exact ⟨s, _, hcon.cfg_mem, e, hcon.entry_mem, hcon.vrf_eq, hs⟩

/-- A session for EVPN on a router without an EVPN section is accepted, and never activated. -/
theorem evpn_unserved : ∃ c, apiToFRR ⟨[familiesSession "fabric" ["evpn"]], .empty⟩ [] = .ok c ∧
    c.routers.flatMap (fun r => r.neighbors.map NeighborConfig.peer) = ["10.0.0.1"] ∧
    c.routers.flatMap familyLines = [] ∧ ¬ EveryActivated c := by
  obtain ⟨c, hc, hboth⟩ := (toOption_map_eq_some (apiToFRR ⟨[familiesSession "fabric" ["evpn"]], .empty⟩ []) (fun c =>
    (c.routers.flatMap (fun r => r.neighbors.map NeighborConfig.peer), c.routers.flatMap familyLines))
    (["10.0.0.1"], [])).1 (by decide +kernel)
  obtain ⟨hpeers, hlines⟩ := Prod.mk.inj hboth
  refine ⟨c, hc, hpeers, hlines, fun hall => ?_⟩
  obtain ⟨r, hr, hpeer⟩ := List.mem_flatMap.1 (hpeers ▸ List.mem_singleton_self "10.0.0.1")
  obtain ⟨n, hn, -⟩ := List.mem_map.1 hpeer
  obtain ⟨family, s, hs, -, hmem⟩ := hall r hr n hn
  exact absurd (hlines ▸ List.mem_flatMap.2 ⟨s, hs, hmem⟩) List.not_mem_nil

end FrrK8s
