import FrrK8s.Names
/-!
# MergeNeighbor — what merging two neighbors keeps

A neighbor is read as the facts it tells: its session attributes (a port or timer left out as its default, an empty
text that another neighbor may fill in as nothing), the prefixes it advertises and their properties, and what it
receives.  `mergeIntoNeighbor` refuses exactly when two facts clash (`mergeIntoNeighbor_isOk`), and what it returns
tells the facts of both (`mergeIntoNeighbor_tells`) in a normal form (`mergeIntoNeighbor_normal`).
-/
namespace FrrK8s

@[simp] theorem mem_setList (l : List String) (x : String) : x ∈ setList l ↔ x ∈ l := by simp [setList]

theorem sorted_setList (l : List String) : (setList l).Pairwise (· < ·) := (SortedSet.ofList l).sorted

/-! ## The facts a neighbor tells -/

/-- The attributes a neighbor has one value of. -/
inductive Attribute
  | asn | port | srcAddr | password | bfdProfile | ebgpMultiHop | ipFamily | holdTime | keepaliveTime | connectTime
  | localASN | nextHopV4 | nextHopV6
deriving DecidableEq, Repr

inductive Datum
  | text (s : String)
  | nat (n : Nat)
  | int (i : Int)
  | bool (b : Bool)
  | family (f : Family)
deriving DecidableEq, Repr

/-- A text, unless it is empty. -/
def setting (s : String) : Option Datum := if s = "" then none else some (.text s)

/-- The value of an attribute, where the neighbor settles it. -/
def NeighborConfig.attr? (n : NeighborConfig) : Attribute → Option Datum
  | .asn => some (.text n.asn)
  | .port => some (.nat (n.port.getD defaultBGPPort))
  | .srcAddr => some (.text n.srcAddr)
  | .password => some (.text n.password)
  | .bfdProfile => setting n.bfdProfile
  | .ebgpMultiHop => some (.bool n.ebgpMultiHop)
  | .ipFamily => some (.family n.ipFamily)
  | .holdTime => some (.int (n.holdTime.getD defaultHoldTime))
  | .keepaliveTime => some (.int (n.keepaliveTime.getD defaultKeepaliveTime))
  | .connectTime => some (.int (n.connectTime.getD defaultConnectTime))
  | .localASN => some (.nat n.localASN)
  | .nextHopV4 => setting n.outgoing.nextHopV4
  | .nextHopV6 => setting n.outgoing.nextHopV6

inductive NeighborFact
  | attr (a : Attribute) (v : Datum)
  | prefixV4 (p : String)
  | prefixV6 (p : String)
  | localPref (lp : Nat) (family p : String)
  | community (c : BGPCommunity) (family p : String)
  | addressFamily (f : String)
  | receiveAll
  | filterKeyV4 (k : String)
  | filterKeyV6 (k : String)

/-- What a neighbor says about its session and its filters. A neighbor that receives everything receives under every
key. -/
def NeighborConfig.tells (n : NeighborConfig) : NeighborFact → Prop
  | .attr a v => n.attr? a = some v
  | .prefixV4 p => p ∈ n.outgoing.prefixesV4
  | .prefixV6 p => p ∈ n.outgoing.prefixesV6
  | .localPref lp f p => ∃ l ∈ n.outgoing.localPrefPrefixesModifiers, l.localPref = lp ∧ l.ipFamily = f ∧ p ∈ l.prefixes
  | .community c f p => ∃ l ∈ n.outgoing.communityPrefixesModifiers, l.community = c ∧ l.ipFamily = f ∧ p ∈ l.prefixes
  | .addressFamily f => f ∈ n.addressFamilies.elems
  | .receiveAll => n.incoming.all = true
  | .filterKeyV4 k => n.incoming.all = true ∨ ∃ f ∈ n.incoming.prefixesV4, f.key = k
  | .filterKeyV6 k => n.incoming.all = true ∨ ∃ f ∈ n.incoming.prefixesV6, f.key = k

/-- Two values of one attribute, or two local preferences of one prefix. -/
def NeighborFact.clash : NeighborFact → NeighborFact → Prop
  | .attr a v, .attr b w => a = b ∧ v ≠ w
  | .localPref lp _ p, .localPref lp' _ p' => p = p' ∧ lp ≠ lp'
  | _, _ => False

theorem NeighborFact.clash_symm (x y : NeighborFact) (h : x.clash y) : y.clash x := by
  cases x <;> cases y <;> simp_all [NeighborFact.clash, eq_comm]

/-! ## Lists of prefixes with a property -/

section PrefixLists

variable {α : Type} (key : α → String) (addTo : α → α → α) (prefixesOf : α → SortedSet String)

/-- Each merged list has the prefixes of both lists of its key. -/
theorem mergePrefixLists_mem (hkey : ∀ b a, key (addTo b a) = key b)
    (hadd : ∀ b a, prefixesOf (addTo b a) = (prefixesOf b).union (prefixesOf a)) {curr : List α}
    (hcurr : (curr.map key).Nodup) (toMerge : List α) (k p : String) :
    (∃ l ∈ mergePrefixLists key addTo curr toMerge, key l = k ∧ p ∈ prefixesOf l) ↔
      (∃ l ∈ curr, key l = k ∧ p ∈ prefixesOf l) ∨ ∃ l ∈ toMerge, key l = k ∧ p ∈ prefixesOf l := by
  have hinv : mapInv key (fun _ => True) (toMerge.foldl (upsertWith key addTo) (SortedMap.insertAll key .empty curr)) :=
    upsertWith_inv (fun b a _ _ _ => ⟨trivial, hkey b a⟩) toMerge _ (mapInv_insertAll (fun _ _ => trivial))
      (fun _ _ => trivial)
  have hknows := upsertWith_knows key addTo (fun a p => p ∈ prefixesOf a)
    (fun b a x => by rw [hadd]; exact SortedSet.mem_union _ _ x) (k, p) toMerge (SortedMap.insertAll key .empty curr)
  rw [mapKnows_iff_values hinv, mapKnows_insertAll hcurr] at hknows
  exact hknows

/-- What holds of all lists and of the addition of two of them holds of the merged lists. -/
theorem mergePrefixLists_inv {P : α → Prop}
    (hadd : ∀ b a, P b → P a → key b = key a → P (addTo b a) ∧ key (addTo b a) = key b) {curr toMerge : List α}
    (hcurr : ∀ l ∈ curr, P l) (htoMerge : ∀ l ∈ toMerge, P l) :
    (mergePrefixLists key addTo curr toMerge).Pairwise (fun a b => key a < key b) ∧
      ∀ l ∈ mergePrefixLists key addTo curr toMerge, P l :=
  mapInv_values (upsertWith_inv hadd toMerge _ (mapInv_insertAll hcurr) htoMerge)

end PrefixLists

theorem LocalPrefPrefixList.key_eq_iff (l : LocalPrefPrefixList) (lp : Nat) (f : String) :
    l.key = localPrefPrefixListKey lp f ↔ l.localPref = lp ∧ l.ipFamily = f := by
  refine ⟨localPrefPrefixListKey_inj, ?_⟩
  rintro ⟨rfl, rfl⟩; rfl

theorem CommunityPrefixList.key_eq_iff (l : CommunityPrefixList) (c : BGPCommunity) (f : String) :
    l.key = communityPrefixListKey c f ↔ l.community = c ∧ l.ipFamily = f := by
  refine ⟨communityPrefixListKey_inj, ?_⟩
  rintro ⟨rfl, rfl⟩; rfl

theorem mergeLocalPrefPrefixLists_mem {curr : List LocalPrefPrefixList}
    (hcurr : (curr.map LocalPrefPrefixList.key).Nodup) (toMerge : List LocalPrefPrefixList) (lp : Nat) (f p : String) :
    (∃ l ∈ mergeLocalPrefPrefixLists curr toMerge, l.localPref = lp ∧ l.ipFamily = f ∧ p ∈ l.prefixes) ↔
      (∃ l ∈ curr, l.localPref = lp ∧ l.ipFamily = f ∧ p ∈ l.prefixes) ∨
        ∃ l ∈ toMerge, l.localPref = lp ∧ l.ipFamily = f ∧ p ∈ l.prefixes := by
  have h := mergePrefixLists_mem LocalPrefPrefixList.key
    (fun l l' => { l with prefixes := l.prefixes.union l'.prefixes })
    (fun l => l.prefixes) (fun _ _ => rfl) (fun _ _ => rfl) hcurr toMerge (localPrefPrefixListKey lp f) p
  simp only [LocalPrefPrefixList.key_eq_iff, and_assoc] at h
  exact h

theorem mergeCommunityPrefixLists_mem {curr : List CommunityPrefixList}
    (hcurr : (curr.map CommunityPrefixList.key).Nodup) (toMerge : List CommunityPrefixList) (c : BGPCommunity)
    (f p : String) :
    (∃ l ∈ mergeCommunityPrefixLists curr toMerge, l.community = c ∧ l.ipFamily = f ∧ p ∈ l.prefixes) ↔
      (∃ l ∈ curr, l.community = c ∧ l.ipFamily = f ∧ p ∈ l.prefixes) ∨
        ∃ l ∈ toMerge, l.community = c ∧ l.ipFamily = f ∧ p ∈ l.prefixes := by
  have h := mergePrefixLists_mem CommunityPrefixList.key
    (fun l l' => { l with prefixes := l.prefixes.union l'.prefixes })
    (fun l => l.prefixes) (fun _ _ => rfl) (fun _ _ => rfl) hcurr toMerge (communityPrefixListKey c f) p
  simp only [CommunityPrefixList.key_eq_iff, and_assoc] at h
  exact h

/-! ## Well-formed neighbors -/

/-- What translated and merged neighbors keep: one list for each property and family, under the neighbor's own name,
with prefixes; and one local preference for each prefix. -/
structure NeighborConfig.WF (n : NeighborConfig) : Prop where
  localPrefKeys : (n.outgoing.localPrefPrefixesModifiers.map LocalPrefPrefixList.key).Nodup
  communityKeys : (n.outgoing.communityPrefixesModifiers.map CommunityPrefixList.key).Nodup
  localPrefOnce : ∀ lp lp' f f' p, n.tells (.localPref lp f p) → n.tells (.localPref lp' f' p) → lp = lp'
  localPrefNamed : ∀ l ∈ n.outgoing.localPrefPrefixesModifiers,
    l.name = localPrefPrefixListName n.id l.localPref l.ipFamily ∧ l.prefixes.toList ≠ []
  communityNamed : ∀ l ∈ n.outgoing.communityPrefixesModifiers,
    l.name = communityPrefixListName n.id l.community l.ipFamily ∧ l.prefixes.toList ≠ []

/-- The normal form a merge leaves: no default spelled out, every list sorted, each entry once. -/
structure NeighborConfig.Normal (n : NeighborConfig) : Prop extends n.WF where
  port : n.port ≠ some defaultBGPPort
  holdTime : n.holdTime ≠ some defaultHoldTime
  keepaliveTime : n.keepaliveTime ≠ some defaultKeepaliveTime
  connectTime : n.connectTime ≠ some defaultConnectTime
  addressFamilies : ∃ l, n.addressFamilies = some l ∧ l.Pairwise (· < ·)
  prefixesV4 : n.outgoing.prefixesV4.Pairwise (· < ·)
  prefixesV6 : n.outgoing.prefixesV6.Pairwise (· < ·)
  localPrefs : n.outgoing.localPrefPrefixesModifiers.Pairwise (fun a b => a.key < b.key)
  communities : n.outgoing.communityPrefixesModifiers.Pairwise (fun a b => a.key < b.key)
  filtersV4 : n.incoming.prefixesV4.Pairwise (fun a b => a.key < b.key)
  filtersV6 : n.incoming.prefixesV6.Pairwise (fun a b => a.key < b.key)
  receiveAll : n.incoming.all = true → n.incoming.prefixesV4 = [] ∧ n.incoming.prefixesV6 = []

/-! ## The local preference check -/

theorem find?_foldl_insert_const (v : Nat) (y : String) : ∀ (l : List String) (m : SortedMap String Nat),
    (l.foldl (fun m x => m.insert x v) m).find? y = if y ∈ l then some v else m.find? y
  | [], _ => by simp
  | x :: l, m => by
    rw [List.foldl_cons, find?_foldl_insert_const v y l, SortedMap.find?_insert]
    by_cases hl : y ∈ l
    · simp [hl]
    · by_cases hx : y = x <;> simp [hl, hx]

theorem localPrefForPrefix_fold (x : String) (e : Nat) : ∀ (l : List LocalPrefPrefixList) (m : SortedMap String Nat),
    (l.foldl (fun m p => p.prefixes.toList.foldl (fun m x => m.insert x p.localPref) m) m).find? x = some e →
      (∃ p ∈ l, x ∈ p.prefixes ∧ p.localPref = e) ∨ m.find? x = some e
  | [], _, h => Or.inr h
  | p :: l, m, h => by
    rw [List.foldl_cons] at h
    rcases localPrefForPrefix_fold x e l _ h with ⟨q, hq, hx⟩ | h
    · exact Or.inl ⟨q, List.mem_cons_of_mem _ hq, hx⟩
    · rw [find?_foldl_insert_const] at h
      split at h
      · rename_i hx
        exact Or.inl ⟨p, List.mem_cons_self .., hx, by simpa using h⟩
      · exact Or.inr h

theorem localPrefForPrefix_fold_isSome (x : String) : ∀ (l : List LocalPrefPrefixList) (m : SortedMap String Nat),
    ((∃ p ∈ l, x ∈ p.prefixes) ∨ (m.find? x).isSome) →
      ((l.foldl (fun m p => p.prefixes.toList.foldl (fun m x => m.insert x p.localPref) m) m).find? x).isSome
  | [], _, h => by simpa using h
  | p :: l, m, h => by
    rw [List.foldl_cons]
    apply localPrefForPrefix_fold_isSome x l
    rw [find?_foldl_insert_const]
    by_cases hx : x ∈ p.prefixes.toList
    · simp [hx]
    · rw [if_neg hx]
      rw [SortedSet.mem_toList] at hx
      simpa [hx] using h

/-- The map of a well-formed neighbor has the local preference of each of its prefixes. -/
theorem localPrefForPrefix_find? {n : NeighborConfig} (hn : n.WF) (x : String) (e : Nat) :
    (localPrefForPrefix n.outgoing.localPrefPrefixesModifiers).find? x = some e ↔ ∃ f, n.tells (.localPref e f x) := by
  constructor
  · intro h
    rcases localPrefForPrefix_fold x e _ _ h with ⟨p, hp, hx, rfl⟩ | h
    · exact ⟨p.ipFamily, p, hp, rfl, rfl, hx⟩
    · cases h
  · rintro ⟨f, p, hp, hlp, hf, hx⟩
    obtain ⟨e', he'⟩ := Option.isSome_iff_exists.1 (localPrefForPrefix_fold_isSome x _ .empty (Or.inl ⟨p, hp, hx⟩))
    rcases localPrefForPrefix_fold x e' _ _ he' with ⟨q, hq, hxq, hqe⟩ | h
    · have := hn.localPrefOnce e e' f q.ipFamily x ⟨p, hp, hlp, hf, hx⟩ ⟨q, hq, hqe, rfl, hxq⟩
      rw [this]; exact he'
    · cases h

theorem checkLocalPrefs_eq_ok [RangeOrder] (existing : SortedMap String Nat) (p : LocalPrefPrefixList) :
    checkLocalPrefs existing p = .ok () ↔ ∀ x ∈ p.prefixes, ∀ e, existing.find? x = some e → e = p.localPref := by
  unfold checkLocalPrefs
  simp only [forM_eq_ok, (RangeOrder.perm p.prefixes.toList).mem_iff, SortedSet.mem_toList]
  refine forall₂_congr fun x _ => ?_
  cases existing.find? x <;> simp

/-! ## One merge -/

theorem mergeNextHop_eq_ok (curr toMerge c : String) : mergeNextHop curr toMerge = .ok c ↔
    (curr = "" ∨ toMerge = "" ∨ curr = toMerge) ∧ c = if curr = "" then toMerge else curr := by
  unfold mergeNextHop
  by_cases h1 : curr = ""
  · simp [h1, eq_comm]
  · by_cases h2 : toMerge = "" ∨ curr = toMerge
    · simp [h1, h2, eq_comm]
    · simp [h1, h2]

theorem mergeAllowedOut_eq_ok [RangeOrder] (r toMerge c : AllowedOut) : mergeAllowedOut r toMerge = .ok c ↔
    (r.nextHopV4 = "" ∨ toMerge.nextHopV4 = "" ∨ r.nextHopV4 = toMerge.nextHopV4) ∧
    (r.nextHopV6 = "" ∨ toMerge.nextHopV6 = "" ∨ r.nextHopV6 = toMerge.nextHopV6) ∧
    (∀ p ∈ toMerge.localPrefPrefixesModifiers, ∀ x ∈ p.prefixes, ∀ e,
      (localPrefForPrefix r.localPrefPrefixesModifiers).find? x = some e → e = p.localPref) ∧
    c = {
      prefixesV4 := setList (r.prefixesV4 ++ toMerge.prefixesV4)
      prefixesV6 := setList (r.prefixesV6 ++ toMerge.prefixesV6)
      nextHopV4 := if r.nextHopV4 = "" then toMerge.nextHopV4 else r.nextHopV4
      nextHopV6 := if r.nextHopV6 = "" then toMerge.nextHopV6 else r.nextHopV6
      localPrefPrefixesModifiers :=
        mergeLocalPrefPrefixLists r.localPrefPrefixesModifiers toMerge.localPrefPrefixesModifiers
      communityPrefixesModifiers :=
        mergeCommunityPrefixLists r.communityPrefixesModifiers toMerge.communityPrefixesModifiers } := by
  unfold mergeAllowedOut
  simp only [bind_eq_ok, wrap_eq_ok, mergeNextHop_eq_ok, pure_eq_ok]
  constructor
  · rintro ⟨v4, ⟨h4, rfl⟩, v6, ⟨h6, rfl⟩, _, hlp, rfl⟩
    refine ⟨h4, h6, fun p hp => ?_, rfl⟩
    exact (checkLocalPrefs_eq_ok _ p).1 ((forM_eq_ok _ _).1 hlp p hp)
  · rintro ⟨h4, h6, hlp, rfl⟩
    exact ⟨_, ⟨h4, rfl⟩, _, ⟨h6, rfl⟩, (), (forM_eq_ok _ _).2 (fun p hp => (checkLocalPrefs_eq_ok _ p).2 (hlp p hp)),
      rfl⟩

theorem ptrsEqual_iff {α : Type} [DecidableEq α] (p1 p2 : Option α) (dflt : α) :
    ptrsEqual p1 p2 dflt = true ↔ p1.getD dflt = p2.getD dflt := by
  cases p1 <;> cases p2 <;> simp [ptrsEqual, eq_comm]

theorem cleanDefault_getD {α : Type} [DecidableEq α] (p : Option α) (dflt : α) :
    (cleanDefault p dflt).getD dflt = p.getD dflt := by
  unfold cleanDefault
  split
  · rename_i h; simp [h]
  · rfl

theorem cleanDefault_ne {α : Type} [DecidableEq α] (p : Option α) (dflt : α) : cleanDefault p dflt ≠ some dflt := by
  unfold cleanDefault
  split
  · simp
  · assumption

theorem neighborsAreCompatible_eq_ok (n1 n2 : NeighborConfig) (u : Unit) : neighborsAreCompatible n1 n2 = .ok u ↔
    n1.id = n2.id ∧ n1.asn = n2.asn ∧ n1.port.getD defaultBGPPort = n2.port.getD defaultBGPPort ∧
    n1.srcAddr = n2.srcAddr ∧ n1.password = n2.password ∧
    (n1.bfdProfile = "" ∨ n2.bfdProfile = "" ∨ n1.bfdProfile = n2.bfdProfile) ∧
    n1.ebgpMultiHop = n2.ebgpMultiHop ∧ n1.ipFamily = n2.ipFamily ∧
    n1.holdTime.getD defaultHoldTime = n2.holdTime.getD defaultHoldTime ∧
    n1.keepaliveTime.getD defaultKeepaliveTime = n2.keepaliveTime.getD defaultKeepaliveTime ∧
    n1.connectTime.getD defaultConnectTime = n2.connectTime.getD defaultConnectTime ∧ n1.localASN = n2.localASN := by
  unfold neighborsAreCompatible
  simp only [bind_eq_ok, reject_eq_ok, exists_const, not_not, ptrsEqual_iff, not_and_or, ne_eq]

theorem mergeIntoNeighbor_eq_ok (dest src c : NeighborConfig) : mergeIntoNeighbor dest src = .ok c ↔
    neighborsAreCompatible dest src = .ok () ∧ ∃ out, mergeAllowedOut dest.outgoing src.outgoing = .ok out ∧
      c = cleanNeighborDefaults { dest with
        bfdProfile := if dest.bfdProfile = "" then src.bfdProfile else dest.bfdProfile
        outgoing := out
        incoming := mergeAllowedIn dest.incoming src.incoming
        addressFamilies := some (setList (dest.addressFamilies.elems ++ src.addressFamilies.elems)) } := by
  unfold mergeIntoNeighbor
  simp only [bind_eq_ok, wrap_eq_ok, pure_eq_ok]
  constructor
  · rintro ⟨_, hcompat, out, hout, rfl⟩
    exact ⟨hcompat, out, hout, rfl⟩
  · rintro ⟨hcompat, out, hout, rfl⟩
    exact ⟨(), hcompat, out, hout, rfl⟩

theorem setting_agree (a b : String) :
    (∀ v w, setting a = some v → setting b = some w → v = w) ↔ a = "" ∨ b = "" ∨ a = b := by
  unfold setting
  by_cases ha : a = "" <;> by_cases hb : b = "" <;> simp [ha, hb]

/-- A text filled in when it is empty. -/
theorem setting_fill {a b : String} (v : Datum) (h : a = "" ∨ b = "" ∨ a = b) :
    setting (if a = "" then b else a) = some v ↔ setting a = some v ∨ setting b = some v := by
  unfold setting
  by_cases ha : a = ""
  · simp [ha]
  · by_cases hb : b = ""
    · simp [ha, hb]
    · have hab : a = b := by simpa [ha, hb] using h
      simp [hab]

/-- The checks of a merge, attribute by attribute. -/
theorem mergeIntoNeighbor_isOk_attrs {dest src : NeighborConfig} (hid : dest.id = src.id) :
    (mergeIntoNeighbor dest src).isOk = true ↔
      (∀ a v w, dest.attr? a = some v → src.attr? a = some w → v = w) ∧
      (∀ p ∈ src.outgoing.localPrefPrefixesModifiers, ∀ x ∈ p.prefixes, ∀ e,
        (localPrefForPrefix dest.outgoing.localPrefPrefixesModifiers).find? x = some e → e = p.localPref) := by
  rw [isOk_iff]
  simp only [mergeIntoNeighbor_eq_ok, neighborsAreCompatible_eq_ok, mergeAllowedOut_eq_ok]
  constructor
  · rintro ⟨c, ⟨-, h1, h2, h3, h4, h5, h6, h7, h8, h9, h10, h11⟩, out, ⟨h12, h13, hlp, -⟩, -⟩
    refine ⟨fun a => ?_, hlp⟩
    cases a with
    | bfdProfile => exact (setting_agree _ _).2 h5
    | nextHopV4 => exact (setting_agree _ _).2 h12
    | nextHopV6 => exact (setting_agree _ _).2 h13
    | _ =>
      simp only [NeighborConfig.attr?, Option.some.injEq]
      rintro v w rfl rfl
      simp [*]
  · rintro ⟨h, hlp⟩
    refine ⟨_, ⟨hid, ?_, ?_, ?_, ?_, ?_, ?_, ?_, ?_, ?_, ?_, ?_⟩, _, ⟨?_, ?_, hlp, rfl⟩, rfl⟩
    · simpa [NeighborConfig.attr?] using h .asn
    · simpa [NeighborConfig.attr?] using h .port
    · simpa [NeighborConfig.attr?] using h .srcAddr
    · simpa [NeighborConfig.attr?] using h .password
    · exact (setting_agree _ _).1 (h .bfdProfile)
    · simpa [NeighborConfig.attr?] using h .ebgpMultiHop
    · simpa [NeighborConfig.attr?] using h .ipFamily
    · simpa [NeighborConfig.attr?] using h .holdTime
    · simpa [NeighborConfig.attr?] using h .keepaliveTime
    · simpa [NeighborConfig.attr?] using h .connectTime
    · simpa [NeighborConfig.attr?] using h .localASN
    · exact (setting_agree _ _).1 (h .nextHopV4)
    · exact (setting_agree _ _).1 (h .nextHopV6)

/-- **A merge succeeds exactly when no fact of one neighbor clashes with one of the other.** -/
theorem mergeIntoNeighbor_isOk {dest src : NeighborConfig} (hd : dest.WF) (hid : dest.id = src.id) :
    (mergeIntoNeighbor dest src).isOk = true ↔ Agree NeighborFact.clash dest.tells src.tells := by
  rw [mergeIntoNeighbor_isOk_attrs hid]
  constructor
  · rintro ⟨ha, hlp⟩ x y hx hy hc
    cases x <;> cases y <;> try exact hc
    case attr a v b w =>
      obtain ⟨rfl, hvw⟩ := hc
      exact hvw (ha a v w hx hy)
    case localPref lp f p lp' f' p' =>
      obtain ⟨rfl, hne⟩ := hc
      obtain ⟨l, hl, rfl, -, hp⟩ := hy
      exact hne (hlp l hl p hp lp ((localPrefForPrefix_find? hd p lp).2 ⟨f, hx⟩))
  · intro h
    refine ⟨fun a v w hv hw => ?_, fun l hl x hx e he => ?_⟩
    · by_contra hne
      exact h (.attr a v) (.attr a w) hv hw ⟨rfl, hne⟩
    · by_contra hne
      obtain ⟨f, hf⟩ := (localPrefForPrefix_find? hd x e).1 he
      exact h (.localPref e f x) (.localPref l.localPref l.ipFamily x) hf ⟨l, hl, rfl, rfl, hx⟩ ⟨rfl, hne⟩

/-! ## What a merge returns -/

theorem mergeIncomingFilters_mem (curr toMerge : List IncomingFilter) (f : IncomingFilter)
    (h : f ∈ mergeIncomingFilters curr toMerge) : f ∈ curr ∨ f ∈ toMerge := by
  obtain ⟨k, hk⟩ := (SortedMap.mem_values _ f).1 h
  exact List.mem_append.1 (SortedMap.mem_of_find?_insertAll hk).1

/-- The keys of both lists are kept, whichever filter is kept under them. -/
theorem mergeIncomingFilters_key (curr toMerge : List IncomingFilter) (k : String) :
    (∃ f ∈ mergeIncomingFilters curr toMerge, f.key = k) ↔ (∃ f ∈ curr, f.key = k) ∨ ∃ f ∈ toMerge, f.key = k := by
  constructor
  · rintro ⟨f, hf, hk⟩
    exact (mergeIncomingFilters_mem curr toMerge f hf).imp (fun h => ⟨f, h, hk⟩) (fun h => ⟨f, h, hk⟩)
  · intro h
    have h' : ∃ f ∈ curr ++ toMerge, f.key = k := by
      rcases h with ⟨f, hf, hk⟩ | ⟨f, hf, hk⟩
      · exact ⟨f, List.mem_append_left _ hf, hk⟩
      · exact ⟨f, List.mem_append_right _ hf, hk⟩
    obtain ⟨g, hg⟩ := Option.isSome_iff_exists.1
      (SortedMap.find?_insertAll_isSome IncomingFilter.key k (curr ++ toMerge) .empty (Or.inl h'))
    exact ⟨g, (SortedMap.mem_values _ g).2 ⟨k, hg⟩, (SortedMap.mem_of_find?_insertAll hg).2⟩

theorem mergeIncomingFilters_sorted (curr toMerge : List IncomingFilter) :
    (mergeIncomingFilters curr toMerge).Pairwise (fun a b => a.key < b.key) :=
  (mapInv_values (mapInv_insertAll (fun _ _ => trivial : ∀ f ∈ curr ++ toMerge, True))).1

@[simp] theorem mergeAllowedIn_all (r toMerge : AllowedIn) :
    (mergeAllowedIn r toMerge).all = (r.all || toMerge.all) := by
  unfold mergeAllowedIn
  cases r.all <;> cases toMerge.all <;> rfl

theorem mergeAllowedIn_filters {r toMerge : AllowedIn} (hr : r.all = false) (ht : toMerge.all = false) :
    (mergeAllowedIn r toMerge).prefixesV4 = mergeIncomingFilters r.prefixesV4 toMerge.prefixesV4 ∧
    (mergeAllowedIn r toMerge).prefixesV6 = mergeIncomingFilters r.prefixesV6 toMerge.prefixesV6 := by
  simp [mergeAllowedIn, hr, ht]

theorem mergeAllowedIn_of_all {r toMerge : AllowedIn} (h : r.all = true ∨ toMerge.all = true) :
    mergeAllowedIn r toMerge = { all := true } := by
  unfold mergeAllowedIn
  rw [if_pos (by simpa using h)]

theorem mergeAllowedIn_sorted (r toMerge : AllowedIn) :
    (mergeAllowedIn r toMerge).prefixesV4.Pairwise (fun a b => a.key < b.key) ∧
      (mergeAllowedIn r toMerge).prefixesV6.Pairwise (fun a b => a.key < b.key) := by
  unfold mergeAllowedIn
  split
  · exact ⟨List.Pairwise.nil, List.Pairwise.nil⟩
  · exact ⟨mergeIncomingFilters_sorted _ _, mergeIncomingFilters_sorted _ _⟩

theorem mergeIntoNeighbor_id {dest src c : NeighborConfig} (h : mergeIntoNeighbor dest src = .ok c) :
    c.id = dest.id := by
  obtain ⟨-, out, -, rfl⟩ := (mergeIntoNeighbor_eq_ok _ _ _).1 h
  rfl

/-- **What a merge returns tells the facts of both neighbors.** -/
theorem mergeIntoNeighbor_tells {dest src c : NeighborConfig} (hd : dest.WF) (h : mergeIntoNeighbor dest src = .ok c)
    (x : NeighborFact) : c.tells x ↔ dest.tells x ∨ src.tells x := by
  obtain ⟨hcompat, out, hout, rfl⟩ := (mergeIntoNeighbor_eq_ok _ _ _).1 h
  obtain ⟨-, h1, h2, h3, h4, h5, h6, h7, h8, h9, h10, h11⟩ := (neighborsAreCompatible_eq_ok _ _ _).1 hcompat
  obtain ⟨h12, h13, -, rfl⟩ := (mergeAllowedOut_eq_ok _ _ _).1 hout
  cases x with
  | attr a v =>
    cases a with
    | bfdProfile => exact setting_fill v h5
    | nextHopV4 => exact setting_fill v h12
    | nextHopV6 => exact setting_fill v h13
    | _ => simp [NeighborConfig.tells, NeighborConfig.attr?, cleanNeighborDefaults, cleanDefault_getD, *]
  | prefixV4 p => simp [NeighborConfig.tells, cleanNeighborDefaults]
  | prefixV6 p => simp [NeighborConfig.tells, cleanNeighborDefaults]
  | localPref lp f p => exact mergeLocalPrefPrefixLists_mem hd.localPrefKeys _ lp f p
  | community c f p => exact mergeCommunityPrefixLists_mem hd.communityKeys _ c f p
  | addressFamily f => simp [NeighborConfig.tells, cleanNeighborDefaults, Slice.elems]
  | receiveAll => simp [NeighborConfig.tells, cleanNeighborDefaults]
  | filterKeyV4 k =>
    simp only [NeighborConfig.tells, cleanNeighborDefaults, mergeAllowedIn_all, Bool.or_eq_true]
    by_cases hall : dest.incoming.all = true ∨ src.incoming.all = true
    · rcases hall with hall | hall <;> simp [hall]
    · simp only [not_or, Bool.not_eq_true] at hall
      rw [(mergeAllowedIn_filters hall.1 hall.2).1, mergeIncomingFilters_key]
      simp [hall]
  | filterKeyV6 k =>
    simp only [NeighborConfig.tells, cleanNeighborDefaults, mergeAllowedIn_all, Bool.or_eq_true]
    by_cases hall : dest.incoming.all = true ∨ src.incoming.all = true
    · rcases hall with hall | hall <;> simp [hall]
    · simp only [not_or, Bool.not_eq_true] at hall
      rw [(mergeAllowedIn_filters hall.1 hall.2).2, mergeIncomingFilters_key]
      simp [hall]

theorem union_toList_ne_nil {s t : SortedSet String} (hs : s.toList ≠ []) : (s.union t).toList ≠ [] := by
  obtain ⟨x, hx⟩ := List.exists_mem_of_ne_nil _ hs
  exact List.ne_nil_of_mem ((SortedSet.mem_union s t x).2 (Or.inl hx))

/-- **A merge leaves a well-formed neighbor in normal form.** -/
theorem mergeIntoNeighbor_normal {dest src c : NeighborConfig} (hd : dest.WF) (hs : src.WF) (hid : dest.id = src.id)
    (h : mergeIntoNeighbor dest src = .ok c) : c.Normal := by
  have htells := mergeIntoNeighbor_tells hd h
  have hagree := (mergeIntoNeighbor_isOk hd hid).1 (by rw [h]; rfl)
  obtain ⟨hcompat, out, hout, rfl⟩ := (mergeIntoNeighbor_eq_ok _ _ _).1 h
  obtain ⟨-, -, -, rfl⟩ := (mergeAllowedOut_eq_ok _ _ _).1 hout
  obtain ⟨hlpSorted, hlpNamed⟩ := mergePrefixLists_inv LocalPrefPrefixList.key
    (fun l l' => { l with prefixes := l.prefixes.union l'.prefixes })
    (fun l l' hl _ _ => ⟨⟨hl.1, union_toList_ne_nil hl.2⟩, rfl⟩) hd.localPrefNamed (hid ▸ hs.localPrefNamed)
  obtain ⟨hcSorted, hcNamed⟩ := mergePrefixLists_inv CommunityPrefixList.key
    (fun l l' => { l with prefixes := l.prefixes.union l'.prefixes })
    (fun l l' hl _ _ => ⟨⟨hl.1, union_toList_ne_nil hl.2⟩, rfl⟩) hd.communityNamed (hid ▸ hs.communityNamed)
  refine {
    localPrefKeys := nodup_map_of_pairwise_lt hlpSorted
    communityKeys := nodup_map_of_pairwise_lt hcSorted
    localPrefOnce := ?_
    localPrefNamed := hlpNamed
    communityNamed := hcNamed
    port := cleanDefault_ne _ _
    holdTime := cleanDefault_ne _ _
    keepaliveTime := cleanDefault_ne _ _
    connectTime := cleanDefault_ne _ _
    addressFamilies := ⟨_, rfl, sorted_setList _⟩
    prefixesV4 := sorted_setList _
    prefixesV6 := sorted_setList _
    localPrefs := hlpSorted
    communities := hcSorted
    filtersV4 := (mergeAllowedIn_sorted _ _).1
    filtersV6 := (mergeAllowedIn_sorted _ _).2
    receiveAll := ?_ }
  · intro lp lp' f f' p h1 h2
    rw [htells] at h1 h2
    by_contra hne
    rcases h1 with h1 | h1 <;> rcases h2 with h2 | h2
    · exact hne (hd.localPrefOnce lp lp' f f' p h1 h2)
    · exact hagree _ _ h1 h2 ⟨rfl, hne⟩
    · exact hagree _ _ h2 h1 ⟨rfl, Ne.symm hne⟩
    · exact hne (hs.localPrefOnce lp lp' f f' p h1 h2)
  · intro hall
    have hall' : dest.incoming.all = true ∨ src.incoming.all = true := by
      simpa [cleanNeighborDefaults] using hall
    show (mergeAllowedIn dest.incoming src.incoming).prefixesV4 = [] ∧
      (mergeAllowedIn dest.incoming src.incoming).prefixesV6 = []
    rw [mergeAllowedIn_of_all hall']
    exact ⟨rfl, rfl⟩

/-- A well-formed neighbor agrees with itself. -/
theorem NeighborConfig.WF.agree_self {n : NeighborConfig} (hn : n.WF) : Agree NeighborFact.clash n.tells n.tells := by
  intro x y hx hy hc
  cases x <;> cases y <;> try exact hc
  case attr a v b w =>
    obtain ⟨rfl, hvw⟩ := hc
    exact hvw (Option.some.inj (hx.symm.trans hy))
  case localPref lp f p lp' f' p' =>
    obtain ⟨rfl, hne⟩ := hc
    exact hne (hn.localPrefOnce lp lp' f f' p hx hy)

/-! ## What a merge takes from one of the two -/

/-- The fields a merge leaves as its first argument has them. -/
structure Identity where
  name : String
  addr : String
  iface : String
  vrfName : String
  gracefulRestart : Bool
  alwaysBlock : List IncomingFilter
deriving DecidableEq

def NeighborConfig.identity (n : NeighborConfig) : Identity :=
  ⟨n.name, n.addr, n.iface, n.vrfName, n.gracefulRestart, n.alwaysBlock⟩

inductive NeighborOrigin
  | identity (i : Identity)
  | filterV4 (f : IncomingFilter)
  | filterV6 (f : IncomingFilter)

def NeighborConfig.keeps (n : NeighborConfig) : NeighborOrigin → Prop
  | .identity i => n.identity = i
  | .filterV4 f => f ∈ n.incoming.prefixesV4
  | .filterV6 f => f ∈ n.incoming.prefixesV6

/-- **A merge brings in nothing that neither neighbor had.** -/
theorem mergeIntoNeighbor_keeps {dest src c : NeighborConfig} (h : mergeIntoNeighbor dest src = .ok c)
    (x : NeighborOrigin) (hx : c.keeps x) : dest.keeps x ∨ src.keeps x := by
  obtain ⟨-, out, -, rfl⟩ := (mergeIntoNeighbor_eq_ok _ _ _).1 h
  cases x with
  | identity i => exact Or.inl hx
  | filterV4 f =>
    have hf : f ∈ (mergeAllowedIn dest.incoming src.incoming).prefixesV4 := hx
    unfold mergeAllowedIn at hf
    split at hf
    · cases hf
    · exact mergeIncomingFilters_mem _ _ f hf
  | filterV6 f =>
    have hf : f ∈ (mergeAllowedIn dest.incoming src.incoming).prefixesV6 := hx
    unfold mergeAllowedIn at hf
    split at hf
    · cases hf
    · exact mergeIncomingFilters_mem _ _ f hf

end FrrK8s
