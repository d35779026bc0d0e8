import FrrK8s.NodeState
import FrrK8s.Ranged
import FrrK8s.Template
/-!
# Redact — what logs and published texts show of the passwords (`dump.go`, `cleanPasswords`)

Two inputs that differ only in what their passwords are called cannot be told apart by the errors of `apiToFRR`, by the
dumps of the resources and of the configuration, or by the text of the configuration once `cleanPasswords` has been over
it (`apiToFRR_redacted`).  The dumps replace every password before they print.  In the text, a password is the tail of
its line and the word before it starts a match there at the latest, so what is left of the line does not depend on it
(`CleansAlike.passwordLine`), whatever stands around it.
-/
namespace FrrK8s

/-! ## Dumps -/

/-- `json.Marshal`, and `spew.Sdump` for what it refuses. -/
structure Marshaller (α : Type) where
  marshal : α → Except String String
  sdump : α → String

def dumpResource {α : Type} (m : Marshaller α) (i : α) : String :=
  match m.marshal i with
  | .error _ => m.sdump i
  | .ok toDump => toDump

def retracted : String := "<retracted>"

/-- An item of an `FRRConfigurationList`, with the annotations of its metadata. -/
structure FRRConfigurationItem where
  config : FRRConfiguration
  annotations : SortedMap String String := .empty

/-- Under this annotation `kubectl` keeps the manifest as it was applied. -/
def lastAppliedAnnotation : String := "kubectl.kubernetes.io/last-applied-configuration"

def sanitizedConfig (c : FRRConfigurationItem) : FRRConfigurationItem :=
  { config := c.config.mapPasswords (fun _ => retracted)
    annotations := c.annotations.erase lastAppliedAnnotation }

def dumpK8sConfigs (m : Marshaller FRRConfigurationItem) (items : List FRRConfigurationItem) : String :=
  items.foldl (fun res cfg => res ++ "\n" ++ dumpResource m (sanitizedConfig cfg)) ""

def dumpFRRConfig (m : Marshaller Config) (c : Config) : String := dumpResource m (c.mapPasswords (fun _ => retracted))

/-- `b` is `a` with renamed passwords; the manifest in its annotation is another text. -/
def FRRConfigurationItem.RenamedBy (f : String → String) (a b : FRRConfigurationItem) : Prop :=
  b.config = a.config.mapPasswords (renamed f) ∧
    ∀ k, k ≠ lastAppliedAnnotation → b.annotations.find? k = a.annotations.find? k

theorem FRRConfiguration.mapPasswords_const (f : String → String) (p : String) (cfg : FRRConfiguration) :
    (cfg.mapPasswords f).mapPasswords (fun _ => p) = cfg.mapPasswords (fun _ => p) := by
  simp [FRRConfiguration.mapPasswords, Router.mapPasswords, Neighbor.mapPassword]

theorem Config.mapPasswords_const (f : String → String) (p : String) (c : Config) :
    (c.mapPasswords f).mapPasswords (fun _ => p) = c.mapPasswords (fun _ => p) := by
  simp [Config.mapPasswords, RouterConfig.mapPasswords, NeighborConfig.mapPassword]

theorem sanitizedConfig_renamed {f : String → String} {a b : FRRConfigurationItem} (h : a.RenamedBy f b) :
    sanitizedConfig b = sanitizedConfig a := by
  unfold sanitizedConfig
  congr 1
  · rw [h.1, FRRConfiguration.mapPasswords_const]
  · apply SortedMap.ext_find?
    intro k
    rw [SortedMap.find?_erase, SortedMap.find?_erase]
    split
    · rfl
    · next hk => exact h.2 k hk

theorem dumpK8sConfigs_renamed (m : Marshaller FRRConfigurationItem) {f : String → String}
    {items items' : List FRRConfigurationItem} (h : List.Forall₂ (FRRConfigurationItem.RenamedBy f) items items') :
    dumpK8sConfigs m items' = dumpK8sConfigs m items := by
  have hfrom : ∀ res : String, items'.foldl (fun res cfg => res ++ "\n" ++ dumpResource m (sanitizedConfig cfg)) res =
      items.foldl (fun res cfg => res ++ "\n" ++ dumpResource m (sanitizedConfig cfg)) res := by
    induction h with
    | nil => exact fun _ => rfl
    | cons hab _ ih =>
      intro res
      rw [List.foldl_cons, List.foldl_cons, sanitizedConfig_renamed hab]
      exact ih _
  exact hfrom ""

/-! ## Cleaned texts -/

/-- Texts that `cleanPasswords` makes the same in any context, inside a match or not. -/
def CleansAlike (s t : String) : Prop :=
  ∀ (skip : Bool) (x y : List Char), cleanFrom skip (x ++ (s.toList ++ y)) = cleanFrom skip (x ++ (t.toList ++ y))

theorem cleanFrom_rest (y : List Char) : ∀ (p : List Char), '\n' ∉ p →
    cleanFrom true (p ++ '\n' :: y) = '\n' :: cleanFrom false y
  | [], _ => rfl
  | c :: p, h => by
    have hc : c ≠ '\n' := fun hc => h (hc ▸ List.mem_cons_self ..)
    have hp : '\n' ∉ p := fun hp => h (List.mem_cons_of_mem _ hp)
    rw [List.cons_append, cleanFrom, if_pos rfl, if_neg hc]
    exact cleanFrom_rest y p hp

/-- Whether a match starts is seen from as many characters as the word has. -/
theorem password_prefix_append {l : List Char} (h : 8 ≤ l.length) (y : List Char) :
    "password".toList <+: l ++ y ↔ "password".toList <+: l := by
  constructor
  · intro hpre
    exact List.prefix_of_prefix_length_le hpre (List.prefix_append l y) h
  · exact List.prefix_append_of_prefix

/-- Where the word stands, the rest of its line is left out; `skip` is whether the word is within a match already. -/
theorem cleanFrom_word {p : List Char} (hp : '\n' ∉ p) (y : List Char) (skip : Bool) :
    cleanFrom skip ("password".toList ++ (p ++ '\n' :: y)) =
      (if skip then [] else "password <retracted>".toList) ++ '\n' :: cleanFrom false y := by
  have hrest : ∀ w : List Char, '\n' ∉ w → cleanFrom true (w ++ (p ++ '\n' :: y)) = '\n' :: cleanFrom false y := by
    intro w hw
    rw [← List.append_assoc]
    exact cleanFrom_rest y (w ++ p) (by simp [hw, hp])
  cases skip with
  | true => exact hrest "password".toList (by decide)
  | false =>
    have hstart : "password".toList <+: 'p' :: ("assword".toList ++ (p ++ '\n' :: y)) := List.prefix_append _ _
    show cleanFrom false ('p' :: ("assword".toList ++ (p ++ '\n' :: y))) = _
    rw [cleanFrom, if_neg Bool.false_ne_true, if_pos hstart, hrest "assword".toList (by decide)]
    rfl

/-- What stands before the word sees the same characters after it, whatever the rest of the line is. -/
theorem cleanFrom_password {p q : List Char} (hp : '\n' ∉ p) (hq : '\n' ∉ q) (y : List Char) :
    ∀ (x : List Char) (skip : Bool), cleanFrom skip (x ++ ("password".toList ++ (p ++ '\n' :: y))) =
      cleanFrom skip (x ++ ("password".toList ++ (q ++ '\n' :: y)))
  | [], skip => (cleanFrom_word hp y skip).trans (cleanFrom_word hq y skip).symm
  | c :: x, true => by
    rw [List.cons_append, List.cons_append, cleanFrom, cleanFrom, if_pos rfl, if_pos rfl,
      cleanFrom_password hp hq y x true, cleanFrom_password hp hq y x false]
  | c :: x, false => by
    have hlen : 8 ≤ (c :: x ++ "password".toList).length := by
      rw [List.length_append]
      exact Nat.le_add_left _ _
    have hstart : ∀ r : List Char, "password".toList <+: c :: (x ++ ("password".toList ++ r)) ↔
        "password".toList <+: c :: x ++ "password".toList := by
      intro r
      have h := password_prefix_append hlen r
      rw [List.append_assoc] at h
      exact h
    rw [List.cons_append, List.cons_append, cleanFrom, cleanFrom]
    simp only [hstart, cleanFrom_password hp hq y x]

namespace CleansAlike

theorem refl (s : String) : CleansAlike s s := fun _ _ _ => rfl

theorem append {s t s' t' : String} (h : CleansAlike s t) (h' : CleansAlike s' t') :
    CleansAlike (s ++ s') (t ++ t') := by
  intro skip x y
  rw [String.toList_append, String.toList_append, List.append_assoc, List.append_assoc, h skip x (s'.toList ++ y),
    ← List.append_assoc x, ← List.append_assoc x]
  exact h' skip (x ++ t.toList) y

theorem behind (s : String) {t u t' u' : String} (h : CleansAlike (t ++ u) (t' ++ u')) :
    CleansAlike (s ++ t ++ u) (s ++ t' ++ u') := by
  rw [String.append_assoc, String.append_assoc]
  exact (refl s).append h

theorem join {α : Type} {text : α → String} {q : α → α} : ∀ (l : List α), (∀ a ∈ l, CleansAlike (text a) (text (q a))) →
    CleansAlike (String.join (l.map text)) (String.join ((l.map q).map text))
  | [], _ => refl _
  | a :: l, h => by
    rw [List.map_cons, List.map_cons, List.map_cons, String.join_cons, String.join_cons]
    exact (h a (List.mem_cons_self ..)).append (join l (fun b hb => h b (List.mem_cons_of_mem _ hb)))

theorem passwordLine {p q : String} (hp : '\n' ∉ p.toList) (hq : '\n' ∉ q.toList) :
    CleansAlike ("password " ++ p ++ "\n") ("password " ++ q ++ "\n") := by
  intro skip x y
  have hsplit : ∀ r : String, ("password " ++ r ++ "\n").toList ++ y =
      "password".toList ++ ((' ' :: r.toList) ++ '\n' :: y) := by
    intro r
    simp
  rw [hsplit, hsplit]
  exact cleanFrom_password (by simp [hp]) (by simp [hq]) y x skip

theorem cleanPasswords_eq {s t : String} (h : CleansAlike s t) : cleanPasswords s = cleanPasswords t := by
  have hclean := h false [] []
  simp only [List.append_nil, List.nil_append] at hclean
  exact congrArg String.ofList hclean

end CleansAlike

/-! ## The text of a configuration -/

/-- Renamed passwords that stay on their lines, in a neighbor. -/
def NeighborConfig.OnLine (f : String → String) (n : NeighborConfig) : Prop :=
  (f n.password = "" ↔ n.password = "") ∧ '\n' ∉ n.password.toList ∧ '\n' ∉ (f n.password).toList

def tokenText (n : NeighborConfig) : Token SessionLine → String
  | .text s => s
  | .line l => sessionCommand n l

theorem lineOrBlank_text (n : NeighborConfig) (c : Prop) [Decidable c] (l : SessionLine) :
    String.join ((lineOrBlank c l).map (tokenText n)) = "\n  " ++ textIf c (sessionCommand n l) := by
  unfold lineOrBlank textIf
  split <;> simp [tokenText, String.join_cons]

theorem sessionCommand_password (n : NeighborConfig) (word : String) :
    sessionCommand n (.password word) = "neighbor " ++ n.peer ++ " " ++ ("password " ++ word) := by
  unfold sessionCommand
  rw [if_neg (by simp)]
  rfl

/-- The password and what the template writes after it, of which the first character is a line break. -/
theorem passwordLine_text (n : NeighborConfig) (hp : n.password ≠ "") (rest : String) :
    "\n  " ++ textIf (n.password ≠ "") (sessionCommand n (.password n.password)) ++ ("\n  " ++ rest) =
      "\n  " ++ ("neighbor " ++ n.peer ++ " ") ++ ("password " ++ n.password ++ "\n") ++ ("  " ++ rest) := by
  have hbreak : "\n  " ++ rest = "\n" ++ ("  " ++ rest) := by
    rw [← String.append_assoc]
    rfl
  rw [textIf, if_pos hp, sessionCommand_password, hbreak]
  simp only [String.append_assoc]

theorem sessionText_alike {f : String → String} {n : NeighborConfig} (h : n.OnLine f) (routerASN : Nat) :
    CleansAlike (sessionText routerASN n) (sessionText routerASN (n.mapPassword f)) := by
  have htext : ∀ n, sessionText routerASN n = String.join ((sessionTokens routerASN n).map (tokenText n)) :=
    fun _ => rfl
  rw [htext, htext]
  unfold sessionTokens
  simp only [List.map_append, String.join_append]
  -- all but the password and the line break that follows it is the same text
  refine .append (.append (.append (.append ?_ (.refl _)) (.refl _)) (.refl _)) (.refl _)
  refine .behind _ ?_
  rw [lineOrBlank_text, lineOrBlank_text, lineOrBlank_text, lineOrBlank_text]
  by_cases hp : n.password = ""
  · have hsame : n.mapPassword f = n := by
      unfold NeighborConfig.mapPassword
      rw [h.1.2 hp, ← hp]
    rw [hsame]
    exact .refl _
  · rw [passwordLine_text n hp, passwordLine_text (n.mapPassword f) (fun hf => hp (h.1.1 hf))]
    exact .append (.append (.refl _) (.passwordLine h.2.1 h.2.2)) (.refl _)

theorem filtersText_mapPasswords (f : String → String) (c : Config) :
    filtersText (c.mapPasswords f) = filtersText c := by
  have hneighbors : (c.mapPasswords f).neighbors = c.neighbors.map (NeighborConfig.mapPassword f) := by
    unfold Config.neighbors
    rw [List.map_flatMap]
    exact List.flatMap_map ..
  unfold filtersText
  rw [hneighbors, List.flatMap_map]
  rfl

theorem evpnText_mapPasswords (f : String → String) (r : RouterConfig) : evpnText (r.mapPasswords f) = evpnText r := by
  have hactivate : (r.mapPasswords f).neighbors.map (fun n =>
        textIf (hasAddressFamilyEVPN n.addressFamilies = true) s!"\n    neighbor {n.peer} activate") =
      r.neighbors.map (fun n =>
        textIf (hasAddressFamilyEVPN n.addressFamilies = true) s!"\n    neighbor {n.peer} activate") := List.map_map
  unfold evpnText
  rw [hactivate]
  rfl

theorem routerText_alike {f : String → String} {r : RouterConfig} (h : ∀ n ∈ r.neighbors, n.OnLine f) :
    CleansAlike (routerText r) (routerText (r.mapPasswords f)) := by
  have hsessions : CleansAlike (String.join (r.neighbors.map (sessionText r.myASN)))
      (String.join ((r.mapPasswords f).neighbors.map (sessionText r.myASN))) :=
    .join r.neighbors (fun n hn => sessionText_alike (h n hn) r.myASN)
  have hfamilies : (r.mapPasswords f).neighbors.map neighborEnableIPFamily = r.neighbors.map neighborEnableIPFamily :=
    List.map_map
  unfold routerText
  rw [evpnText_mapPasswords, hfamilies]
  exact .append (.append (.append (.append (.append (.append (.refl _) hsessions) (.refl _)) (.refl _)) (.refl _))
    (.refl _)) (.refl _)

/-- **The cleaned text of a configuration does not depend on what its passwords are.** -/
theorem templateConfig_alike {f : String → String} {c : Config} (h : ∀ r ∈ c.routers, ∀ n ∈ r.neighbors, n.OnLine f) :
    CleansAlike (templateConfig c) (templateConfig (c.mapPasswords f)) := by
  have hrouters : CleansAlike (String.join (c.routers.map routerText))
      (String.join ((c.mapPasswords f).routers.map routerText)) :=
    .join c.routers (fun r hr => routerText_alike (h r hr))
  have hvrfs : (c.mapPasswords f).routers.map vrfText = c.routers.map vrfText := List.map_map
  unfold templateConfig
  rw [filtersText_mapPasswords, hvrfs]
  exact .append (.append (.append (.append (.refl _) hrouters) (.refl _)) (.refl _)) (.refl _)

/-! ## Nothing is shown -/

def resourcesOf (items : List FRRConfigurationItem) (secrets : SortedMap String Secret) : ClusterResources :=
  { frrConfigs := items.map FRRConfigurationItem.config, passwordSecrets := secrets }

theorem resourcesOf_renamed {f : String → String} {items items' : List FRRConfigurationItem}
    (h : List.Forall₂ (FRRConfigurationItem.RenamedBy f) items items') (secrets : SortedMap String Secret) :
    resourcesOf items' (secrets.mapVal (Secret.mapPassword (renamed f))) =
      (resourcesOf items secrets).mapPasswords (renamed f) := by
  have hconfigs : items'.map FRRConfigurationItem.config =
      (items.map FRRConfigurationItem.config).map (FRRConfiguration.mapPasswords (renamed f)) := by
    induction h with
    | nil => rfl
    | cons hab _ ih => rw [List.map_cons, List.map_cons, List.map_cons, hab.1, ih]
  unfold resourcesOf ClusterResources.mapPasswords
  rw [hconfigs]

/-- The same error, or configurations that differ in what the passwords are called and that neither the dump nor the
cleaned text, for whatever log level and host name, tells apart. -/
def Indistinct (m : Marshaller Config) (f : String → String) : Result Config → Result Config → Prop
  | .error e, .error e' => e'.text = e.text
  | .ok c, .ok c' => c' = c.mapPasswords (renamed f) ∧ dumpFRRConfig m c' = dumpFRRConfig m c ∧
    ∀ loglevel hostname, cleanPasswords (templateConfig { c' with loglevel := loglevel, hostname := hostname }) =
      cleanPasswords (templateConfig { c with loglevel := loglevel, hostname := hostname })
  | _, _ => False

/-- **Passwords are not shown.**  Two inputs that differ in what their passwords are called are dumped alike, and
translated to the same error or to configurations that are dumped and published alike, the maps being walked in one
order.  Another order may show another error, and nothing else. -/
theorem apiToFRR_redacted (order order' : RangeOrder) (dumpK8s : Marshaller FRRConfigurationItem)
    (dumpFRR : Marshaller Config) (f : String → String) (items items' : List FRRConfigurationItem)
    (secrets : SortedMap String Secret) (alwaysBlock : List Net.IPNet)
    (hitems : List.Forall₂ (FRRConfigurationItem.RenamedBy f) items items')
    (hinj : ∀ p ∈ (resourcesOf items secrets).passwords, ∀ q ∈ (resourcesOf items secrets).passwords, f p = f q → p = q)
    (hvalues : ∀ p ∈ (resourcesOf items secrets).passwords, f p ≠ "" ∧ '\n' ∉ p.toList ∧ '\n' ∉ (f p).toList) :
    dumpK8sConfigs dumpK8s items' = dumpK8sConfigs dumpK8s items ∧
      Indistinct dumpFRR f (@apiToFRR order (resourcesOf items secrets) alwaysBlock)
        (@apiToFRR order (resourcesOf items' (secrets.mapVal (Secret.mapPassword (renamed f)))) alwaysBlock) ∧
      (@apiToFRR order' (resourcesOf items secrets) alwaysBlock).toOption =
        (@apiToFRR order (resourcesOf items secrets) alwaysBlock).toOption := by
  refine ⟨dumpK8sConfigs_renamed dumpK8s hitems, ?_, apiToFRR_toOption order' order _ alwaysBlock⟩
  rw [resourcesOf_renamed hitems, @apiToFRR_renamed order _ _ hinj (fun p hp => (hvalues p hp).1)]
  cases hc : @apiToFRR order (resourcesOf items secrets) alwaysBlock with
  | error e => exact rfl
  | ok c =>
    have honLine : ∀ r ∈ c.routers, ∀ n ∈ r.neighbors, n.OnLine (renamed f) := by
      intro r hr n hn
      unfold NeighborConfig.OnLine renamed
      by_cases hp : n.password = ""
      · simp [hp]
      · have hvalid := hvalues n.password (@mem_passwords_of_apiToFRR order _ _ _ hc _ hr _ hn hp)
        rw [if_neg hp]
        exact ⟨iff_of_false hvalid.1 hp, hvalid.2⟩
    refine ⟨rfl, congrArg (dumpResource dumpFRR) (Config.mapPasswords_const _ _ c), fun loglevel hostname => ?_⟩
    have halike : CleansAlike (templateConfig { c with loglevel := loglevel, hostname := hostname })
        (templateConfig ({ c with loglevel := loglevel, hostname := hostname }.mapPasswords (renamed f))) :=
      templateConfig_alike honLine
    exact halike.cleanPasswords_eq.symm

/-- A neighbor with a password and one with a secret, and the manifest with which they were applied. -/
def itemWith (password manifest : String) : FRRConfigurationItem :=
  { config := { name := "cfg", routers := [{ asn := 64512, neighbors := [
      { asn := 64513, address := "192.0.2.1", password := password },
      { asn := 64514, address := "192.0.2.2", passwordSecret := "peer" }] }] }
    annotations := SortedMap.empty.insert lastAppliedAnnotation manifest }

def peerSecret (password : String) : SortedMap String Secret :=
  SortedMap.empty.insert "peer"
    { name := "peer", type := secretTypeBasicAuth, data := SortedMap.empty.insert "password" password }

/-- With dumps that print every password and annotation they are given. -/
theorem apiToFRR_redacted_peerSecret :
    (apiToFRR (resourcesOf [itemWith "first" "password: first"] (peerSecret "second")) []).isOk = true ∧
      dumpK8sConfigs ⟨fun i => .ok (sliceText (i.config.passwords ++ i.annotations.values)), fun _ => ""⟩
          [itemWith "new-first" "password: new-first"] =
        dumpK8sConfigs ⟨fun i => .ok (sliceText (i.config.passwords ++ i.annotations.values)), fun _ => ""⟩
          [itemWith "first" "password: first"] ∧
      Indistinct ⟨fun c => .ok (sliceText (c.neighbors.map NeighborConfig.password)), fun _ => ""⟩ ("new-" ++ ·)
        (apiToFRR (resourcesOf [itemWith "first" "password: first"] (peerSecret "second")) [])
        (apiToFRR (resourcesOf [itemWith "new-first" "password: new-first"]
          ((peerSecret "second").mapVal (Secret.mapPassword (renamed ("new-" ++ ·))))) []) ∧
      (@apiToFRR reversed (resourcesOf [itemWith "first" "password: first"] (peerSecret "second")) []).toOption =
        (apiToFRR (resourcesOf [itemWith "first" "password: first"] (peerSecret "second")) []).toOption := by
  refine ⟨by decide +kernel, apiToFRR_redacted _ _ _ _ _ _ _ _ _ (.cons ⟨by decide +kernel, fun k hk => ?_⟩ .nil)
    (by decide +kernel) (by decide +kernel)⟩
  simp [itemWith, hk]

/-- Two VRFs whose EVPN sections need a neighbor they do not have, beside a neighbor with a password. -/
def invalidVRFs (password : String) : FRRConfigurationItem :=
  { config := { name := "cfg", routers := [
      { asn := 64512, neighbors := [{ asn := 64513, address := "192.0.2.1", password := password }] },
      { asn := 64512, vrf := "blue", evpn := some { advertiseSVI := true } },
      { asn := 64512, vrf := "red", evpn := some { advertiseSVI := true } }] } }

/-- Walked in two orders, the VRFs of two inputs that differ in a password fail with two texts. -/
theorem apiToFRR_redacted_not_across_orders :
    (invalidVRFs "first").RenamedBy ("new-" ++ ·) (invalidVRFs "new-first") ∧
      (@apiToFRR inOrder (resourcesOf [invalidVRFs "first"] .empty) []).mapError Error.text = .error
        ("invalid EVPN configuration for vrf \"blue\": advertiseVNIs=All, advertiseSVI and l2vnis require at least one "
        ++
          "neighbor with evpn address family") ∧
      (@apiToFRR reversed (resourcesOf [invalidVRFs "new-first"] .empty) []).mapError Error.text = .error
        ("invalid EVPN configuration for vrf \"red\": advertiseVNIs=All, advertiseSVI and l2vnis require at least one "
        ++
          "neighbor with evpn address family") := by
  exact ⟨⟨by decide +kernel, fun k hk => by simp [invalidVRFs]⟩, by decide +kernel, by decide +kernel⟩

end FrrK8s
