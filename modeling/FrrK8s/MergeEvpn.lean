import FrrK8s.MergeNeighbor
/-!
# MergeEvpn — what merging EVPN sections accepts and keeps

The facts an EVPN section tells, which of them clash, and the merge of two sections: of two in normal form, and of a
section with itself, which brings it into normal form.
-/
namespace FrrK8s

/-! ## Facts -/

/-- A fact about one VNI; `autoImport` and `autoExport` say that the route targets are left to FRR. -/
inductive VniFact where
  | rd (v : String)
  | importRT (v : String)
  | exportRT (v : String)
  | autoImport
  | autoExport

def VniFact.clash : VniFact → VniFact → Prop
  | .rd v, .rd w => v ≠ w
  | .importRT _, .autoImport => True
  | .autoImport, .importRT _ => True
  | .exportRT _, .autoExport => True
  | .autoExport, .exportRT _ => True
  | _, _ => False

def VNIProperties.tells (p : VNIProperties) : VniFact → Prop
  | .rd v => p.rd ≠ "" ∧ p.rd = v
  | .importRT v => v ∈ p.importRTs.elems
  | .exportRT v => v ∈ p.exportRTs.elems
  | .autoImport => p.importRTs.elems = []
  | .autoExport => p.exportRTs.elems = []

/-- A fact about the EVPN section of a router: `advertiseVNIs` reads the default, `advertiseVNIsSet` what is written. -/
inductive EvpnFact where
  | advertiseVNIs (v : String)
  | advertiseVNIsSet (v : String)
  | advertiseSVI (b : Bool)
  | l2 (x : Nat × VniFact)
  | l3vni (n : Nat)
  | l3 (f : VniFact)
  | l3Advertise (v : String)

def EvpnFact.clash : EvpnFact → EvpnFact → Prop
  | .advertiseVNIs v, .advertiseVNIs w => v ≠ w
  | .advertiseSVI v, .advertiseSVI w => v ≠ w
  | .l2 x, .l2 y => keyClash VniFact.clash x y
  | .l3vni v, .l3vni w => v ≠ w
  | .l3 f, .l3 g => f.clash g
  | _, _ => False

def l2Tells (l : List L2VNI) (x : Nat × VniFact) : Prop :=
  ∃ v ∈ l, keyTells L2VNI.vni (fun v => v.properties.tells) v x

def EVPNConfig.tells (e : EVPNConfig) : EvpnFact → Prop
  | .advertiseVNIs v => e.advertiseVNIs.getD vniAdvertisementDisabled = v
  | .advertiseVNIsSet v => e.advertiseVNIs = some v
  | .advertiseSVI b => e.advertiseSVI = b
  | .l2 x => l2Tells e.l2vnis.elems x
  | .l3vni n => ∃ l3, e.l3vni = some l3 ∧ l3.vni = n
  | .l3 f => ∃ l3, e.l3vni = some l3 ∧ l3.properties.tells f
  | .l3Advertise v => ∃ l3, e.l3vni = some l3 ∧ v ∈ l3.advertisePrefixes.elems

theorem VniFact.clash_symm (x y : VniFact) (h : x.clash y) : y.clash x := by
  cases x <;> cases y <;> first | exact h | exact Ne.symm h

theorem EvpnFact.clash_symm (x y : EvpnFact) (h : x.clash y) : y.clash x := by
  cases x <;> cases y <;>
    first | exact h | exact Ne.symm h | exact VniFact.clash_symm _ _ h | exact ⟨h.1.symm, VniFact.clash_symm _ _ h.2⟩

theorem VNIProperties.agree_self (p : VNIProperties) : Agree VniFact.clash p.tells p.tells := by
  intro x y hx hy hc
  cases x <;> cases y <;> simp_all [VNIProperties.tells, VniFact.clash]

/-! ## One VNI -/

/-- A list of route targets as a merge leaves it. -/
def NormalRTs (s : Slice String) : Prop := s = none ∨ ∃ l, s = some l ∧ l ≠ [] ∧ l.Pairwise (· < ·)

def VNIProperties.Normal (p : VNIProperties) : Prop := NormalRTs p.importRTs ∧ NormalRTs p.exportRTs

theorem mem_mergeRTs (a b : Slice String) (v : String) : v ∈ (mergeRTs a b).elems ↔ v ∈ a.elems ∨ v ∈ b.elems := by
  unfold mergeRTs
  split
  · rename_i h; rw [h.1, h.2]; simp [Slice.elems]
  · split
    · rename_i h; simp [h]
    · split
      · rename_i h; simp [h]
      · simp [Slice.elems, mem_setList]

theorem mergeRTs_normal {a b : Slice String} (h : (a.elems = []) = (b.elems = [])) : NormalRTs (mergeRTs a b) := by
  unfold mergeRTs
  by_cases ha : a.elems = []
  · have hb : b.elems = [] := h ▸ ha
    rw [if_pos ⟨ha, hb⟩]; exact Or.inl rfl
  · have hb : b.elems ≠ [] := fun hb => ha (h ▸ hb)
    rw [if_neg (fun h => ha h.1), if_neg ha, if_neg hb]
    refine Or.inr ⟨_, rfl, ?_, sorted_setList _⟩
    obtain ⟨v, hv⟩ := List.exists_mem_of_ne_nil _ ha
    exact List.ne_nil_of_mem ((mem_setList _ v).2 (List.mem_append_left _ hv))

theorem mergeVNIProperties_eq_ok (a b c : VNIProperties) :
    mergeVNIProperties a b = .ok c ↔
      (a.rd = "" ∨ b.rd = "" ∨ a.rd = b.rd) ∧ (a.importRTs.elems = []) = (b.importRTs.elems = []) ∧
      (a.exportRTs.elems = []) = (b.exportRTs.elems = []) ∧
      c = { rd := if a.rd = "" then b.rd else a.rd
            importRTs := mergeRTs a.importRTs b.importRTs
            exportRTs := mergeRTs a.exportRTs b.exportRTs } := by
  unfold mergeVNIProperties
  simp only [bind_eq_ok, reject_eq_ok, pure_eq_ok]
  constructor
  · rintro ⟨_, h1, _, h2, _, h3, rfl⟩
    refine ⟨?_, not_not.1 h2, not_not.1 h3, rfl⟩
    by_cases ha : a.rd = "" <;> by_cases hb : b.rd = "" <;> simp_all
  · rintro ⟨h1, h2, h3, rfl⟩
    refine ⟨(), ?_, (), not_not.2 h2, (), not_not.2 h3, rfl⟩
    rintro ⟨ha, hb, hne⟩
    exact h1.elim ha (fun h => h.elim hb hne)

/-- What the check on route targets says, in terms of facts. -/
theorem rts_agree (a b : List String) :
    (a = []) = (b = []) ↔ (∀ v ∈ a, b ≠ []) ∧ (∀ v ∈ b, a ≠ []) := by
  constructor
  · intro h
    refine ⟨fun v hv hb => ?_, fun v hv ha => ?_⟩
    · exact List.ne_nil_of_mem hv (h ▸ hb)
    · exact List.ne_nil_of_mem hv (h ▸ ha)
  · rintro ⟨hab, hba⟩
    cases a with
    | nil => cases b with
      | nil => rfl
      | cons w b => exact (hba w (List.mem_cons_self ..) rfl).elim
    | cons v a => cases b with
      | nil => exact (hab v (List.mem_cons_self ..) rfl).elim
      | cons w b => simp

theorem mergeVNIProperties_isOk (a b : VNIProperties) :
    (mergeVNIProperties a b).isOk = true ↔ Agree VniFact.clash a.tells b.tells := by
  rw [isOk_iff]
  simp only [mergeVNIProperties_eq_ok, rts_agree]
  constructor
  · rintro ⟨_, hrd, ⟨him, him'⟩, ⟨hex, hex'⟩, -⟩ x y hx hy hc
    cases x <;> cases y <;> simp only [VniFact.clash] at hc
    · rcases hrd with h | h | h
      · exact hx.1 h
      · exact hy.1 h
      · exact hc (hx.2.symm.trans (h.trans hy.2))
    · exact him _ hx hy
    · exact hex _ hx hy
    · exact him' _ hy hx
    · exact hex' _ hy hx
  · intro h
    refine ⟨_, ?_, ⟨fun v hv hn => ?_, fun v hv hn => ?_⟩, ⟨fun v hv hn => ?_, fun v hv hn => ?_⟩, rfl⟩
    · by_cases ha : a.rd = ""
      · exact Or.inl ha
      · by_cases hb : b.rd = ""
        · exact Or.inr (Or.inl hb)
        · exact Or.inr (Or.inr (not_not.1 (h (.rd _) (.rd _) ⟨ha, rfl⟩ ⟨hb, rfl⟩)))
    · exact h (.importRT v) .autoImport hv hn trivial
    · exact h .autoImport (.importRT v) hn hv trivial
    · exact h (.exportRT v) .autoExport hv hn trivial
    · exact h .autoExport (.exportRT v) hn hv trivial

theorem mergeRTs_eq_nil {a b : Slice String} (h : (a.elems = []) = (b.elems = [])) :
    (mergeRTs a b).elems = [] ↔ a.elems = [] ∨ b.elems = [] := by
  simp only [List.eq_nil_iff_forall_not_mem, mem_mergeRTs, not_or] at h ⊢
  constructor
  · intro hn; exact Or.inl (fun v => (hn v).1)
  · rintro (ha | hb) v
    · exact ⟨ha v, (h ▸ ha) v⟩
    · exact ⟨(h ▸ hb) v, hb v⟩

theorem mergeVNIProperties_tells {a b c : VNIProperties} (h : mergeVNIProperties a b = .ok c) (x : VniFact) :
    c.tells x ↔ a.tells x ∨ b.tells x := by
  obtain ⟨hrd, him, hex, rfl⟩ := (mergeVNIProperties_eq_ok a b c).1 h
  cases x with
  | rd v =>
    simp only [VNIProperties.tells]
    by_cases ha : a.rd = ""
    · simp [ha]
    · rw [if_neg ha]
      simp only [ne_eq, ha, not_false_eq_true, true_and]
      refine ⟨Or.inl, fun hv => hv.elim id (fun ⟨hb, hv⟩ => ?_)⟩
      exact (hrd.resolve_left ha |>.resolve_left hb).trans hv
  | importRT v => exact mem_mergeRTs _ _ v
  | exportRT v => exact mem_mergeRTs _ _ v
  | autoImport => exact mergeRTs_eq_nil him
  | autoExport => exact mergeRTs_eq_nil hex

theorem mergeVNIProperties_normal {a b c : VNIProperties} (h : mergeVNIProperties a b = .ok c) : c.Normal := by
  obtain ⟨-, him, hex, rfl⟩ := (mergeVNIProperties_eq_ok a b c).1 h
  exact ⟨mergeRTs_normal him, mergeRTs_normal hex⟩

/-! ## L2 VNIs -/

theorem mergeL2VNI_eq_ok (a b c : L2VNI) :
    mergeL2VNI a b = .ok c ↔ ∃ p, mergeVNIProperties a.properties b.properties = .ok p ∧ c = ⟨a.vni, p⟩ := by
  unfold mergeL2VNI
  simp only [bind_eq_ok, wrap_eq_ok, pure_eq_ok]
  exact exists_congr fun p => and_congr Iff.rfl eq_comm

theorem l2_accumulate {inv : L2VNI → Prop} (hnormal : ∀ v : L2VNI, v.properties.Normal → inv v) :
    Accumulates (mapInv L2VNI.vni inv) inv (mapKnows (fun v => v.properties.tells))
      (keyTells L2VNI.vni (fun v => v.properties.tells)) (keyClash VniFact.clash) (upsert L2VNI.vni mergeL2VNI) := by
  refine upsert_accumulates (fun _ h => h) (fun a b _ _ _ => ?_) (fun a b c _ _ _ h => ?_)
  · rw [← mergeVNIProperties_isOk, isOk_iff, isOk_iff]
    simp only [mergeL2VNI_eq_ok]
    exact ⟨fun ⟨_, p, h, _⟩ => ⟨p, h⟩, fun ⟨p, h⟩ => ⟨_, p, h, rfl⟩⟩
  · obtain ⟨p, hp, rfl⟩ := (mergeL2VNI_eq_ok a b c).1 h
    exact ⟨hnormal _ (mergeVNIProperties_normal hp), rfl, mergeVNIProperties_tells hp⟩

/-- A list of L2 VNIs as a merge leaves it. -/
def NormalL2 (s : Slice L2VNI) : Prop :=
  s = none ∨ ∃ l, s = some l ∧ l ≠ [] ∧ l.Pairwise (fun v w => v.vni < w.vni) ∧ ∀ v ∈ l, v.properties.Normal

theorem NormalL2.nodup {s : Slice L2VNI} (h : NormalL2 s) : (s.elems.map L2VNI.vni).Nodup := by
  rcases h with rfl | ⟨l, rfl, -, hl, -⟩
  · exact List.nodup_nil
  · exact nodup_map_of_pairwise_lt hl

theorem NormalL2.normal {s : Slice L2VNI} (h : NormalL2 s) : ∀ v ∈ s.elems, v.properties.Normal := by
  rcases h with rfl | ⟨l, rfl, -, -, hl⟩
  · intro v hv; exact (List.not_mem_nil hv).elim
  · exact hl

theorem not_l2Tells_nil (x : Nat × VniFact) : ¬ l2Tells [] x := fun ⟨_, h, _⟩ => List.not_mem_nil h

theorem l2Tells_values {inv : L2VNI → Prop} {m : SortedMap Nat L2VNI} (hm : mapInv L2VNI.vni inv m)
    (x : Nat × VniFact) : l2Tells m.values x ↔ mapKnows (fun v : L2VNI => v.properties.tells) m x :=
  (mapKnows_iff_values hm _ x.1 x.2).symm

/-- A map that has an element of a list under its key is not empty. -/
theorem NormalL2.of_map {m : SortedMap Nat L2VNI} (hm : mapInv L2VNI.vni (fun v => v.properties.Normal) m)
    {x : Nat × VniFact} (hx : l2Tells m.values x) : NormalL2 (some m.values) := by
  obtain ⟨v, hv, -⟩ := hx
  exact Or.inr ⟨_, rfl, List.ne_nil_of_mem hv, mapInv_values hm⟩

/-- A VNI always tells something: its route targets, or that it has none. -/
theorem exists_l2Tells {l : List L2VNI} (h : l ≠ []) : ∃ x, l2Tells l x := by
  obtain ⟨v, hv⟩ := List.exists_mem_of_ne_nil l h
  cases hrt : v.properties.importRTs.elems with
  | nil => exact ⟨(v.vni, .autoImport), v, hv, rfl, hrt⟩
  | cons t ts => exact ⟨(v.vni, .importRT t), v, hv, rfl, by simp [VNIProperties.tells, hrt]⟩

theorem mergeL2VNIs_two {a b : Slice L2VNI} (ha : NormalL2 a) (hb : NormalL2 b) :
    ((mergeL2VNIs a b).isOk = true ↔ Agree (keyClash VniFact.clash) (l2Tells a.elems) (l2Tells b.elems)) ∧
    ∀ c, mergeL2VNIs a b = .ok c → NormalL2 c ∧ ∀ x, l2Tells c.elems x ↔ l2Tells a.elems x ∨ l2Tells b.elems x := by
  unfold mergeL2VNIs
  by_cases hae : a.elems = []
  · by_cases hbe : b.elems = []
    · rw [if_pos ⟨hae, hbe⟩, hae, hbe]
      refine ⟨⟨fun _ x y hx => (not_l2Tells_nil x hx).elim, fun _ => rfl⟩, fun c hc => ?_⟩
      cases hc
      exact ⟨Or.inl rfl, fun x => by simp [Slice.elems, not_l2Tells_nil]⟩
    · rw [if_neg (fun h => hbe h.2), if_pos hae, hae]
      refine ⟨⟨fun _ x y hx => (not_l2Tells_nil x hx).elim, fun _ => rfl⟩, fun c hc => ?_⟩
      cases hc
      exact ⟨hb, fun x => by simp [not_l2Tells_nil]⟩
  · by_cases hbe : b.elems = []
    · rw [if_neg (fun h => hae h.1), if_neg hae, if_pos hbe, hbe]
      refine ⟨⟨fun _ x y _ hy => (not_l2Tells_nil y hy).elim, fun _ => rfl⟩, fun c hc => ?_⟩
      cases hc
      exact ⟨ha, fun x => by simp [not_l2Tells_nil]⟩
    · rw [if_neg (fun h => hae h.1), if_neg hae, if_neg hbe]
      have hacc := @l2_accumulate (fun v => v.properties.Normal) (fun _ h => h)
      have hinit : mapInv L2VNI.vni (fun v : L2VNI => v.properties.Normal)
          (SortedMap.insertAll L2VNI.vni .empty a.elems) :=
        mapInv_insertAll ha.normal
      have hknows : ∀ x, mapKnows (fun v : L2VNI => v.properties.tells)
        (SortedMap.insertAll L2VNI.vni .empty a.elems) x ↔
          l2Tells a.elems x := mapKnows_insertAll ha.nodup _
      constructor
      · have hpair := pairwise_agree_of_nodup hb.nodup (fun v : L2VNI => v.properties.tells) VniFact.clash
        rw [isOk_bind]
        simp only [isOk_pure, and_true, ← isOk_iff]
        rw [hacc.foldlM_isOk _ _ hinit hb.normal, and_iff_left hpair, ← agree_exists_right]
        exact agree_congr hknows (fun _ => Iff.rfl)
      · intro c hc
        simp only [bind_eq_ok, pure_eq_ok] at hc
        obtain ⟨m, hm, rfl⟩ := hc
        obtain ⟨hinv, hm⟩ := hacc.foldlM_knows _ _ _ hinit hb.normal hm
        have htells : ∀ x, l2Tells m.values x ↔ l2Tells a.elems x ∨ l2Tells b.elems x := by
          intro x
          rw [l2Tells_values hinv, hm, hknows]
          rfl
        obtain ⟨x, hx⟩ := exists_l2Tells hae
        exact ⟨NormalL2.of_map hinv ((htells x).2 (Or.inl hx)), htells⟩

theorem mergeL2VNIs_self (a : Slice L2VNI) :
    ((mergeL2VNIs a a).isOk = true ↔ Agree (keyClash VniFact.clash) (l2Tells a.elems) (l2Tells a.elems)) ∧
    ∀ c, mergeL2VNIs a a = .ok c → NormalL2 c ∧ ∀ x, l2Tells c.elems x ↔ l2Tells a.elems x ∨ l2Tells a.elems x := by
  simp only [or_self]
  unfold mergeL2VNIs
  by_cases hae : a.elems = []
  · rw [if_pos ⟨hae, hae⟩, hae]
    refine ⟨⟨fun _ x y hx => (not_l2Tells_nil x hx).elim, fun _ => rfl⟩, fun c hc => ?_⟩
    cases hc
    exact ⟨Or.inl rfl, fun x => Iff.rfl⟩
  · rw [if_neg (fun h => hae h.1), if_neg hae, if_neg hae]
    have hacc := @l2_accumulate (fun _ => True) (fun _ _ => trivial)
    have hinit : mapInv L2VNI.vni (fun _ => True) (SortedMap.insertAll L2VNI.vni .empty a.elems) :=
      mapInv_insertAll (fun _ _ => trivial)
    -- of several VNIs of one number the map starts with the last; the loop brings the others back
    have hknows : ∀ x, mapKnows (fun v : L2VNI => v.properties.tells) (SortedMap.insertAll L2VNI.vni .empty a.elems) x →
        l2Tells a.elems x := by
      rintro x ⟨v, hv, hx⟩
      obtain ⟨hmem, hvni⟩ := SortedMap.mem_of_find?_insertAll hv
      exact ⟨v, hmem, hvni, hx⟩
    constructor
    · rw [isOk_bind]
      simp only [isOk_pure, and_true, ← isOk_iff]
      rw [hacc.foldlM_isOk _ _ hinit (fun _ _ => trivial),
        pairwise_agree_iff (fun x y h => ⟨h.1.symm, VniFact.clash_symm _ _ h.2⟩)
          (fun v _ x y hx hy hc => v.properties.agree_self _ _ hx.2 hy.2 hc.2)]
      refine ⟨fun h => h.2, fun h => ⟨fun v hv x y hx hy => h x y (hknows x hx) ⟨v, hv, hy⟩, h⟩⟩
    · intro c hc
      simp only [bind_eq_ok, pure_eq_ok] at hc
      obtain ⟨m, hm, rfl⟩ := hc
      obtain ⟨hinv, hk⟩ := hacc.foldlM_knows _ _ _ hinit (fun _ _ => trivial) hm
      have htells : ∀ x, l2Tells m.values x ↔ l2Tells a.elems x := by
        intro x
        rw [l2Tells_values hinv, hk]
        exact ⟨fun h => h.elim (hknows x) id, Or.inr⟩
      have hnormal : mapInv L2VNI.vni (fun v : L2VNI => v.properties.Normal) m := by
        intro k v hv
        refine ⟨(hinv k v hv).1, upsert_merged_self (P := fun v : L2VNI => v.properties.Normal)
          (fun u w z h => ?_) hm hv⟩
        obtain ⟨p, hp, rfl⟩ := (mergeL2VNI_eq_ok u w z).1 h
        exact mergeVNIProperties_normal hp
      obtain ⟨x, hx⟩ := exists_l2Tells hae
      exact ⟨NormalL2.of_map hnormal ((htells x).2 hx), htells⟩

/-! ## The L3 VNI -/

def NormalL3 (o : Option L3VNI) : Prop :=
  ∀ v ∈ o, v.properties.Normal ∧ ∃ l, v.advertisePrefixes = some l ∧ l.Pairwise (· < ·)

theorem mergeL3VNIs_some_eq_ok (a b : L3VNI) (c : Option L3VNI) :
    mergeL3VNIs (some a) (some b) = .ok c ↔ a.vni = b.vni ∧ ∃ p, mergeVNIProperties a.properties b.properties = .ok p ∧
      c = some ⟨a.vni, p, some (setList (a.advertisePrefixes.elems ++ b.advertisePrefixes.elems))⟩ := by
  unfold mergeL3VNIs
  simp only [bind_eq_ok, reject_eq_ok, pure_eq_ok, not_not]
  constructor
  · rintro ⟨_, h, p, hp, rfl⟩; exact ⟨h, p, hp, rfl⟩
  · rintro ⟨h, p, hp, rfl⟩; exact ⟨(), h, p, hp, rfl⟩

theorem mergeL3VNIs_isOk (a b : Option L3VNI) :
    (mergeL3VNIs a b).isOk = true ↔
      ∀ u ∈ a, ∀ v ∈ b, u.vni = v.vni ∧ Agree VniFact.clash u.properties.tells v.properties.tells := by
  cases a with
  | none => simp [mergeL3VNIs]
  | some u =>
    cases b with
    | none => simp [mergeL3VNIs]
    | some v =>
      rw [isOk_iff]
      simp only [mergeL3VNIs_some_eq_ok, Option.mem_some_iff, forall_eq', ← mergeVNIProperties_isOk, isOk_iff]
      exact ⟨fun ⟨_, h, p, hp, _⟩ => ⟨h, p, hp⟩, fun ⟨h, p, hp⟩ => ⟨_, h, p, hp, rfl⟩⟩

theorem mergeL3VNIs_normal {a b c : Option L3VNI} (h : mergeL3VNIs a b = .ok c)
    (hn : (NormalL3 a ∧ NormalL3 b) ∨ a = b) : NormalL3 c := by
  cases a with
  | none =>
    cases h
    rcases hn with hn | rfl
    · exact hn.2
    · intro v hv; cases hv
  | some u =>
    cases b with
    | none =>
      cases h
      exact (hn.resolve_right (by simp)).1
    | some v =>
      obtain ⟨-, p, hp, rfl⟩ := (mergeL3VNIs_some_eq_ok u v c).1 h
      intro w hw
      cases hw
      exact ⟨mergeVNIProperties_normal hp, _, rfl, sorted_setList _⟩

/-- What the L3 VNI of a merge tells: each of its facts, as a property of the VNI, is one of the merged ones. -/
theorem mergeL3VNIs_tells {a b c : Option L3VNI} (h : mergeL3VNIs a b = .ok c) :
    (∀ n, (∃ v, c = some v ∧ v.vni = n) ↔ (∃ v, a = some v ∧ v.vni = n) ∨ ∃ v, b = some v ∧ v.vni = n) ∧
    (∀ f, (∃ v, c = some v ∧ v.properties.tells f) ↔
      (∃ v, a = some v ∧ v.properties.tells f) ∨ ∃ v, b = some v ∧ v.properties.tells f) ∧
    ∀ p, (∃ v, c = some v ∧ p ∈ v.advertisePrefixes.elems) ↔
      (∃ v, a = some v ∧ p ∈ v.advertisePrefixes.elems) ∨ ∃ v, b = some v ∧ p ∈ v.advertisePrefixes.elems := by
  cases a with
  | none => cases h; simp
  | some u =>
    cases b with
    | none => cases h; simp
    | some v =>
      obtain ⟨hvni, p, hp, rfl⟩ := (mergeL3VNIs_some_eq_ok u v c).1 h
      simp only [Option.some.injEq, exists_eq_left']
      refine ⟨fun n => ?_, mergeVNIProperties_tells hp, fun q => ?_⟩
      · rw [hvni, or_self]
      · simp [Slice.elems, mem_setList]

/-! ## The section -/

structure EVPNConfig.Normal (e : EVPNConfig) : Prop where
  l2 : NormalL2 e.l2vnis
  l3 : NormalL3 e.l3vni

theorem mergeEVPNConfigs_some_eq_ok (a b : EVPNConfig) (c : Option EVPNConfig) :
    mergeEVPNConfigs (some a) (some b) = .ok c ↔
      a.advertiseVNIs.getD vniAdvertisementDisabled = b.advertiseVNIs.getD vniAdvertisementDisabled ∧
      a.advertiseSVI = b.advertiseSVI ∧ ∃ l2, mergeL2VNIs a.l2vnis b.l2vnis = .ok l2 ∧
        ∃ l3, mergeL3VNIs a.l3vni b.l3vni = .ok l3 ∧
          c = some ⟨a.advertiseVNIs.or b.advertiseVNIs, a.advertiseSVI, l2, l3⟩ := by
  unfold mergeEVPNConfigs
  simp only [bind_eq_ok, reject_eq_ok, pure_eq_ok, not_not, ptrsEqual_iff]
  constructor
  · rintro ⟨_, h1, _, h2, l2, hl2, l3, hl3, rfl⟩; exact ⟨h1, h2, l2, hl2, l3, hl3, rfl⟩
  · rintro ⟨h1, h2, l2, hl2, l3, hl3, rfl⟩; exact ⟨(), h1, (), h2, l2, hl2, l3, hl3, rfl⟩

theorem mergeEVPNConfigs_some_isOk {a b : EVPNConfig} (hl2 : (mergeL2VNIs a.l2vnis b.l2vnis).isOk = true ↔
      Agree (keyClash VniFact.clash) (l2Tells a.l2vnis.elems) (l2Tells b.l2vnis.elems)) :
    (mergeEVPNConfigs (some a) (some b)).isOk = true ↔ Agree EvpnFact.clash a.tells b.tells := by
  have hparts : (mergeEVPNConfigs (some a) (some b)).isOk = true ↔
      a.advertiseVNIs.getD vniAdvertisementDisabled = b.advertiseVNIs.getD vniAdvertisementDisabled ∧
      a.advertiseSVI = b.advertiseSVI ∧ (mergeL2VNIs a.l2vnis b.l2vnis).isOk = true ∧
        (mergeL3VNIs a.l3vni b.l3vni).isOk = true := by
    simp only [isOk_iff, mergeEVPNConfigs_some_eq_ok]
    exact ⟨fun ⟨_, h1, h2, l2, hl2, l3, hl3, _⟩ => ⟨h1, h2, ⟨l2, hl2⟩, l3, hl3⟩,
      fun ⟨h1, h2, ⟨l2, hl2⟩, l3, hl3⟩ => ⟨_, h1, h2, l2, hl2, l3, hl3, rfl⟩⟩
  rw [hparts, hl2, mergeL3VNIs_isOk]
  constructor
  · rintro ⟨h1, h2, h3, h4⟩ x y hx hy hc
    cases x <;> cases y <;> simp only [EvpnFact.clash] at hc
    · exact hc (hx.symm.trans (h1.trans hy))
    · exact hc (hx.symm.trans (h2.trans hy))
    · exact h3 _ _ hx hy hc
    · obtain ⟨u, hu, rfl⟩ := hx
      obtain ⟨v, hv, rfl⟩ := hy
      exact hc (h4 u hu v hv).1
    · obtain ⟨u, hu, hx⟩ := hx
      obtain ⟨v, hv, hy⟩ := hy
      exact (h4 u hu v hv).2 _ _ hx hy hc
  · intro h
    refine ⟨?_, ?_, fun x y hx hy hc => h (.l2 x) (.l2 y) hx hy hc, fun u hu v hv => ⟨?_, fun x y hx hy hc => ?_⟩⟩
    · exact not_not.1 (h (.advertiseVNIs _) (.advertiseVNIs _) rfl rfl)
    · exact not_not.1 (h (.advertiseSVI _) (.advertiseSVI _) rfl rfl)
    · exact not_not.1 (h (.l3vni _) (.l3vni _) ⟨u, hu, rfl⟩ ⟨v, hv, rfl⟩)
    · exact h (.l3 x) (.l3 y) ⟨u, hu, hx⟩ ⟨v, hv, hy⟩ hc

theorem mergeEVPNConfigs_some_tells {a b : EVPNConfig} {c : Option EVPNConfig} (hl2 : ∀ l,
      mergeL2VNIs a.l2vnis b.l2vnis = .ok l → NormalL2 l ∧
        ∀ x, l2Tells l.elems x ↔ l2Tells a.l2vnis.elems x ∨ l2Tells b.l2vnis.elems x)
    (hl3 : (NormalL3 a.l3vni ∧ NormalL3 b.l3vni) ∨ a.l3vni = b.l3vni)
    (h : mergeEVPNConfigs (some a) (some b) = .ok c) :
    ∃ e, c = some e ∧ e.Normal ∧ ∀ x, e.tells x ↔ a.tells x ∨ b.tells x := by
  obtain ⟨h1, h2, l2, hm2, l3, hm3, rfl⟩ := (mergeEVPNConfigs_some_eq_ok a b c).1 h
  obtain ⟨hn2, ht2⟩ := hl2 l2 hm2
  obtain ⟨hvni, hprops, hadv⟩ := mergeL3VNIs_tells hm3
  refine ⟨_, rfl, ⟨hn2, mergeL3VNIs_normal hm3 hl3⟩, fun x => ?_⟩
  cases x with
  | advertiseVNIs v =>
    simp only [EVPNConfig.tells]
    rw [← h1, or_self]
    cases ha : a.advertiseVNIs with
    | none => rw [Option.none_or, ← h1, ha]
    | some w => rfl
  | advertiseVNIsSet v =>
    simp only [EVPNConfig.tells]
    cases ha : a.advertiseVNIs with
    | none => simp
    | some w =>
      cases hb : b.advertiseVNIs with
      | none => simp
      | some u =>
        rw [ha, hb] at h1
        simp only [Option.getD_some] at h1
        simp [h1]
  | advertiseSVI v => simp only [EVPNConfig.tells]; rw [← h2, or_self]
  | l2 x => exact ht2 x
  | l3vni n => exact hvni n
  | l3 f => exact hprops f
  | l3Advertise p => exact hadv p

/-! ## Optional sections -/

def evpnTells (o : Option EVPNConfig) (x : EvpnFact) : Prop := ∃ e, o = some e ∧ e.tells x

def EvpnNormal (o : Option EVPNConfig) : Prop := ∀ e, o = some e → e.Normal

theorem not_evpnTells_none (x : EvpnFact) : ¬ evpnTells none x := fun ⟨_, h, _⟩ => nomatch h

theorem evpnTells_some (e : EVPNConfig) (x : EvpnFact) : evpnTells (some e) x ↔ e.tells x := by
  simp [evpnTells]

/-- **Two sections in normal form merge exactly when their facts agree, into one with the facts of both.** -/
theorem mergeEVPNConfigs_two {a b : Option EVPNConfig} (ha : EvpnNormal a) (hb : EvpnNormal b) :
    ((mergeEVPNConfigs a b).isOk = true ↔ Agree EvpnFact.clash (evpnTells a) (evpnTells b)) ∧
    ∀ c, mergeEVPNConfigs a b = .ok c → EvpnNormal c ∧ ∀ x, evpnTells c x ↔ evpnTells a x ∨ evpnTells b x := by
  cases a with
  | none =>
    refine ⟨⟨fun _ x y hx => (not_evpnTells_none x hx).elim, fun _ => rfl⟩, fun c hc => ?_⟩
    cases hc
    exact ⟨hb, fun x => by simp [not_evpnTells_none]⟩
  | some a =>
    cases b with
    | none =>
      refine ⟨⟨fun _ x y _ hy => (not_evpnTells_none y hy).elim, fun _ => rfl⟩, fun c hc => ?_⟩
      cases hc
      exact ⟨ha, fun x => by simp [not_evpnTells_none]⟩
    | some b =>
      have hl2 := mergeL2VNIs_two (ha a rfl).l2 (hb b rfl).l2
      rw [agree_congr (evpnTells_some a) (evpnTells_some b)]
      refine ⟨mergeEVPNConfigs_some_isOk hl2.1, fun c hc => ?_⟩
      obtain ⟨e, rfl, hn, ht⟩ := mergeEVPNConfigs_some_tells hl2.2 (Or.inl ⟨(ha a rfl).l3, (hb b rfl).l3⟩) hc
      exact ⟨fun e' he => (Option.some.inj he) ▸ hn, fun x => by simp only [evpnTells_some, ht]⟩

/-- **A section merges with itself exactly when its own facts agree, and is then in normal form with the same
facts.** -/
theorem mergeEVPNConfigs_self (a : Option EVPNConfig) :
    ((mergeEVPNConfigs a a).isOk = true ↔ Agree EvpnFact.clash (evpnTells a) (evpnTells a)) ∧
    ∀ c, mergeEVPNConfigs a a = .ok c → EvpnNormal c ∧ ∀ x, evpnTells c x ↔ evpnTells a x := by
  cases a with
  | none =>
    refine ⟨⟨fun _ x y hx => (not_evpnTells_none x hx).elim, fun _ => rfl⟩, fun c hc => ?_⟩
    cases hc
    exact ⟨fun e he => (nomatch he), fun x => Iff.rfl⟩
  | some a =>
    have hl2 := mergeL2VNIs_self a.l2vnis
    rw [agree_congr (evpnTells_some a) (evpnTells_some a)]
    refine ⟨mergeEVPNConfigs_some_isOk hl2.1, fun c hc => ?_⟩
    obtain ⟨e, rfl, hn, ht⟩ := mergeEVPNConfigs_some_tells hl2.2 (Or.inr rfl) hc
    exact ⟨fun e' he => (Option.some.inj he) ▸ hn, fun x => by simp only [evpnTells_some, ht, or_self]⟩

end FrrK8s
