import FrrK8s.Api
import FrrK8s.Runs
import FrrK8s.Text
/-!
# Selector — node selectors and their cache

A selector is read by `metav1.LabelSelectorAsSelector`, and the webhook keeps what it read in an LRU cache under a text
of the selector (`selectorKey`).  Both come from libraries: `SelectorLib` has them with what their documentation says,
that invalid selectors are rejected and that the cache returns what was stored last or nothing.  The text tells valid
selectors apart (`selectorKey_inj`), so for them the cache does not show (`getCachedSelector_valid`).  It does not tell
an invalid selector from a valid one, and the cache is asked before the selector is read, so an invalid one passes as
the valid one of its text that is still in the cache, and only so (`getCachedSelector_transparent_iff`).
`labelSelectors` is one such pair.
-/
namespace FrrK8s

abbrev Labels := SortedMap String String

/-- A `labels.Selector`, by what it matches. -/
abbrev Selector := Labels → Bool

/-! ## The text of a selector -/

/-- `%v` of a requirement. -/
def LabelSelectorRequirement.text (r : LabelSelectorRequirement) : String :=
  "\x7b" ++ r.key ++ " " ++ r.operator ++ " " ++ sliceText r.values ++ "\x7d"

/-- `%v` of a map, whose keys are sorted. -/
def mapText (m : SortedMap String String) : String :=
  "map[" ++ " ".intercalate (m.entries.map (fun e => e.1 ++ ":" ++ e.2)) ++ "]"

/-- The key of `getCachedSelector`. -/
def selectorKey (s : LabelSelector) : String :=
  mapText s.matchLabels ++ "-" ++ ("[" ++ " ".intercalate (s.matchExpressions.map LabelSelectorRequirement.text) ++ "]")

/-! ## Valid selectors -/

def labelChar (c : Char) : Bool := c.isAlphanum || c = '-' || c = '_' || c = '.' || c = '/'

/-- Only characters that keys and values of labels have. -/
def isLabelText (s : String) : Bool := s.toList.all labelChar

/-- The key and the values are texts of labels, and the number of values is one for the operator. -/
structure LabelSelectorRequirement.WellFormed (r : LabelSelectorRequirement) : Prop where
  key : isLabelText r.key = true
  values : ∀ v ∈ r.values, isLabelText v = true
  count : ((r.operator = "In" ∨ r.operator = "NotIn") ∧ r.values ≠ []) ∨
    (r.operator = "Exists" ∨ r.operator = "DoesNotExist") ∧ r.values = []

structure LabelSelector.WellFormed (s : LabelSelector) : Prop where
  labels : ∀ e ∈ s.matchLabels.entries, isLabelText e.1 = true ∧ isLabelText e.2 = true
  expressions : ∀ r ∈ s.matchExpressions, r.WellFormed

theorem not_mem_label {s : String} (hs : isLabelText s = true) {c : Char} (hc : labelChar c = false) :
    c ∉ s.toList := by
  intro hmem
  have := List.all_eq_true.1 hs c hmem
  rw [hc] at this
  cases this

theorem values_inj {vs ws : List String} (hvs : ∀ v ∈ vs, isLabelText v = true) (hws : ∀ w ∈ ws, isLabelText w = true)
    (hne : vs ≠ []) (hne' : ws ≠ []) (h : (" ".intercalate vs).toList = (" ".intercalate ws).toList) : vs = ws := by
  rw [String.toList_intercalate, String.toList_intercalate] at h
  have hwords : ∀ us : List String, (∀ u ∈ us, isLabelText u = true) → ∀ w ∈ us.map String.toList, ' ' ∉ w := by
    intro us hus w hw
    obtain ⟨u, hu, rfl⟩ := List.mem_map.1 hw
    exact not_mem_label (hus u hu) (by decide)
  have hmap := intercalate_inj (hwords vs hvs) (hwords ws hws) (by simpa using hne) (by simpa using hne') h
  exact map_inj_of_mem (fun a _ b _ hab => String.toList_inj.1 hab) hmap

theorem operator_word {r : LabelSelectorRequirement} (h : r.WellFormed) : ' ' ∉ r.operator.toList := by
  obtain ⟨hop | hop, -⟩ | ⟨hop | hop, -⟩ := h.count
  all_goals
    rw [hop]
    decide

theorem bracket_not_mem_values {vs : List String} (hvs : ∀ v ∈ vs, isLabelText v = true) :
    ']' ∉ (" ".intercalate vs).toList := by
  intro hmem
  rw [String.toList_intercalate] at hmem
  obtain hsep | ⟨w, hw, hc⟩ := mem_intercalate hmem
  · exact absurd hsep (by decide)
  · obtain ⟨v, hv, rfl⟩ := List.mem_map.1 hw
    exact not_mem_label (hvs v hv) (by decide) hc

/-- A requirement ends where its text ends, whatever follows. -/
theorem requirement_append_inj {r t : LabelSelectorRequirement} (hr : r.WellFormed) (ht : t.WellFormed)
    {x y : List Char} (h : r.text.toList ++ x = t.text.toList ++ y) : r = t ∧ x = y := by
  have hsplit : ∀ (u : LabelSelectorRequirement) (z : List Char), u.text.toList ++ z = '\x7b' :: (u.key.toList ++ ' ' ::
      (u.operator.toList ++ ' ' :: '[' :: ((" ".intercalate u.values).toList ++ ']' :: '\x7d' :: z))) := by
    intro u z
    simp [LabelSelectorRequirement.text, sliceText]
  rw [hsplit, hsplit] at h
  obtain ⟨hkey, hrest⟩ := append_sep_inj (not_mem_label hr.key (by decide)) (not_mem_label ht.key (by decide))
    (List.cons.inj h).2
  obtain ⟨hop, hrest⟩ := append_sep_inj (operator_word hr) (operator_word ht) hrest
  obtain ⟨hvalues, hend⟩ := append_sep_inj (bracket_not_mem_values hr.values) (bracket_not_mem_values ht.values)
    (List.cons.inj hrest).2
  have hop : r.operator = t.operator := String.toList_inj.1 hop
  have hvs : r.values = t.values := by
    obtain ⟨hin, hne⟩ | ⟨hex, hnil⟩ := hr.count
    · obtain ⟨-, hne'⟩ | ⟨hex, -⟩ := ht.count
      · exact values_inj hr.values ht.values hne hne' hvalues
      · rw [← hop] at hex
        obtain hin | hin := hin <;> obtain hex | hex := hex <;> exact absurd (hin.symm.trans hex) (by decide)
    · obtain ⟨hin, -⟩ | ⟨-, hnil'⟩ := ht.count
      · rw [← hop] at hin
        obtain hin | hin := hin <;> obtain hex | hex := hex <;> exact absurd (hin.symm.trans hex) (by decide)
      · rw [hnil, hnil']
  obtain ⟨key, operator, values⟩ := r
  obtain ⟨key', operator', values'⟩ := t
  simp only at hop hvs hkey
  rw [hop, hvs, String.toList_inj.1 hkey]
  exact ⟨rfl, (List.cons.inj hend).2⟩

theorem requirements_inj :
    ∀ {rs ts : List LabelSelectorRequirement}, (∀ r ∈ rs, r.WellFormed) → (∀ t ∈ ts, t.WellFormed) →
    [' '].intercalate (rs.map (fun r => r.text.toList)) = [' '].intercalate (ts.map (fun t => t.text.toList)) → rs = ts
  | [], [], _, _, _ => rfl
  | [], t :: ts, _, _, h => by
    cases ts <;> simp [LabelSelectorRequirement.text] at h
  | r :: rs, [], _, _, h => by
    cases rs <;> simp [LabelSelectorRequirement.text] at h
  | [r], [t], hr, ht, h => by
    simp only [List.map_cons, List.map_nil, List.intercalate_singleton] at h
    have h' : r.text.toList ++ [] = t.text.toList ++ [] := congrArg (· ++ []) h
    rw [(requirement_append_inj (hr r (by simp)) (ht t (by simp)) h').1]
  | [r], t :: t' :: ts, hr, ht, h => by
    simp only [List.map_cons, List.map_nil, List.intercalate_singleton, List.intercalate_cons_cons,
      List.append_assoc] at h
    exact absurd (requirement_append_inj (hr r (by simp)) (ht t (by simp)) ((List.append_nil _).trans h)).2 (by simp)
  | r :: r' :: rs, [t], hr, ht, h => by
    simp only [List.map_cons, List.map_nil, List.intercalate_singleton, List.intercalate_cons_cons,
      List.append_assoc] at h
    exact absurd (requirement_append_inj (hr r (by simp)) (ht t (by simp)) (h.trans (List.append_nil _).symm)).2
      (by simp)
  | r :: r' :: rs, t :: t' :: ts, hr, ht, h => by
    simp only [List.map_cons, List.intercalate_cons_cons, List.append_assoc] at h
    obtain ⟨hrt, hrest⟩ := requirement_append_inj (hr r (by simp)) (ht t (by simp)) h
    rw [hrt, requirements_inj (fun x hx => hr x (List.mem_cons_of_mem _ hx))
      (fun x hx => ht x (List.mem_cons_of_mem _ hx)) (List.append_cancel_left hrest)]

theorem mapText_inj {m m' : SortedMap String String}
    (hm : ∀ e ∈ m.entries, isLabelText e.1 = true ∧ isLabelText e.2 = true)
    (hm' : ∀ e ∈ m'.entries, isLabelText e.1 = true ∧ isLabelText e.2 = true)
    (h : [' '].intercalate (m.entries.map (fun e => e.1.toList ++ ':' :: e.2.toList)) =
      [' '].intercalate (m'.entries.map (fun e => e.1.toList ++ ':' :: e.2.toList))) : m = m' := by
  have hwords : ∀ es : List (String × String), (∀ e ∈ es, isLabelText e.1 = true ∧ isLabelText e.2 = true) →
      ∀ w ∈ es.map (fun e => e.1.toList ++ ':' :: e.2.toList), ' ' ∉ w := by
    intro es hes w hw
    obtain ⟨e, he, rfl⟩ := List.mem_map.1 hw
    simp [not_mem_label (hes e he).1 (by decide : labelChar ' ' = false),
      not_mem_label (hes e he).2 (by decide : labelChar ' ' = false)]
  have hentries : m.entries = m'.entries := by
    cases hes : m.entries with
    | nil =>
      cases hes' : m'.entries with
      | nil => rfl
      | cons e es =>
        rw [hes, hes'] at h
        cases es <;> simp at h
    | cons e es =>
      cases hes' : m'.entries with
      | nil =>
        rw [hes, hes'] at h
        cases es <;> simp at h
      | cons e' es' =>
        rw [← hes, ← hes']
        refine map_inj_of_mem (fun a ha b hb hab => ?_) (intercalate_inj (hwords _ hm) (hwords _ hm') (by simp [hes])
          (by simp [hes']) h)
        obtain ⟨h1, h2⟩ := append_sep_inj (not_mem_label (hm a ha).1 (by decide))
          (not_mem_label (hm' b hb).1 (by decide)) hab
        exact Prod.ext (String.toList_inj.1 h1) (String.toList_inj.1 h2)
  obtain ⟨entries, _⟩ := m
  obtain ⟨entries', _⟩ := m'
  simp only at hentries
  subst hentries
  rfl

/-- **The text of a selector tells valid selectors apart.** -/
theorem selectorKey_inj {s t : LabelSelector} (hs : s.WellFormed) (ht : t.WellFormed)
    (h : selectorKey s = selectorKey t) : s = t := by
  have hsplit : ∀ u : LabelSelector, (selectorKey u).toList = "map[".toList ++
      ([' '].intercalate (u.matchLabels.entries.map (fun e => e.1.toList ++ ':' :: e.2.toList)) ++
        ']' :: '-' :: '[' :: ([' '].intercalate (u.matchExpressions.map (fun r => r.text.toList)) ++ [']'])) := by
    intro u
    simp [selectorKey, mapText, String.toList_intercalate, Function.comp_def]
  have hbracket : ∀ u : LabelSelector, u.WellFormed →
      ']' ∉ [' '].intercalate (u.matchLabels.entries.map (fun e => e.1.toList ++ ':' :: e.2.toList)) := by
    intro u hu hmem
    obtain hsep | ⟨w, hw, hc⟩ := mem_intercalate hmem
    · exact absurd hsep (by decide)
    · obtain ⟨e, he, rfl⟩ := List.mem_map.1 hw
      simp [not_mem_label (hu.labels e he).1 (by decide : labelChar ']' = false),
        not_mem_label (hu.labels e he).2 (by decide : labelChar ']' = false)] at hc
  have hl := congrArg String.toList h
  rw [hsplit, hsplit] at hl
  obtain ⟨hlabels, hrest⟩ := append_sep_inj (hbracket s hs) (hbracket t ht) (List.append_cancel_left hl)
  have hexprs := List.append_cancel_right (List.cons.inj (List.cons.inj hrest).2).2
  obtain ⟨labels, exprs⟩ := s
  obtain ⟨labels', exprs'⟩ := t
  have hm : labels = labels' := mapText_inj hs.labels ht.labels hlabels
  have he : exprs = exprs' := requirements_inj hs.expressions ht.expressions hexprs
  rw [hm, he]

/-! ## The libraries -/

/-- `metav1.LabelSelectorAsSelector` and the LRU cache of `k8s.io/utils/lru`, with what the webhook relies on. -/
structure SelectorLib where
  labelSelectorAsSelector : LabelSelector → Except String Selector
  /-- Invalid keys, values, operators and numbers of values are rejected. -/
  rejects : ∀ s m, labelSelectorAsSelector s = .ok m → s.WellFormed
  Cache : Type
  new : Cache
  get : Cache → String → Option Selector × Cache
  add : Cache → String → Selector → Cache
  get_new : ∀ k, (get new k).1 = none
  /-- What is found under a key was stored under it last. -/
  get_add : ∀ c k v k' w, (get (add c k v) k').1 = some w → (k' = k ∧ w = v) ∨ (k' ≠ k ∧ (get c k').1 = some w)
  get_get : ∀ c k k' w, (get (get c k).2 k').1 = some w → (get c k').1 = some w

section

variable (lib : SelectorLib)

def getCachedSelector (cache : lib.Cache) (nodeSelector : LabelSelector) : Except String Selector × lib.Cache :=
  match lib.get cache (selectorKey nodeSelector) with
  | (some cached, cache) => (.ok cached, cache)
  | (none, cache) =>
    match lib.labelSelectorAsSelector nodeSelector with
    | .error err => (.error err, cache)
    | .ok selector => (.ok selector, lib.add cache (selectorKey nodeSelector) selector)

/-- The configurations that select a node by its labels. -/
def configsForNode (cfgs : List FRRConfiguration) (nodeLabels : Labels) : Except String (List FRRConfiguration) :=
  cfgs.foldlM (fun valid cfg =>
    match lib.labelSelectorAsSelector cfg.nodeSelector with
    | .error err => .error s!"could not parse nodeSelector for FRRConfiguration {cfg.ns}/{cfg.name}, err: {err}"
    | .ok selector => .ok (if selector nodeLabels then valid ++ [cfg] else valid)) []

/-- The selector of the configuration is valid. -/
def FRRConfiguration.ValidSelector (cfg : FRRConfiguration) : Prop :=
  ∃ m, lib.labelSelectorAsSelector cfg.nodeSelector = .ok m

/-- The configuration selects nodes with these labels. -/
def FRRConfiguration.selects (cfg : FRRConfiguration) (nodeLabels : Labels) : Bool :=
  match lib.labelSelectorAsSelector cfg.nodeSelector with
  | .error _ => false
  | .ok selector => selector nodeLabels

/-- What is in the cache was read from a selector with that text. -/
def CacheSound (cache : lib.Cache) : Prop :=
  ∀ k m, (lib.get cache k).1 = some m → ∃ s, selectorKey s = k ∧ lib.labelSelectorAsSelector s = .ok m

end

section

variable {lib : SelectorLib}

theorem cacheSound_new : CacheSound lib lib.new := fun k m h => by
  rw [lib.get_new] at h
  cases h

theorem getCachedSelector_sound {cache : lib.Cache} (h : CacheSound lib cache) (s : LabelSelector) :
    CacheSound lib (getCachedSelector lib cache s).2 := by
  have hget : CacheSound lib (lib.get cache (selectorKey s)).2 := fun k m hm => h k m (lib.get_get _ _ _ _ hm)
  unfold getCachedSelector
  split
  · rename_i cached cache' heq
    rw [heq] at hget
    exact hget
  · rename_i cache' heq
    rw [heq] at hget
    split
    · exact hget
    · rename_i selector hs
      intro k m hm
      obtain ⟨rfl, rfl⟩ | ⟨-, hm⟩ := lib.get_add _ _ _ _ _ hm
      · exact ⟨s, rfl, hs⟩
      · exact hget k m hm

/-- **For a valid selector the cache does not show.** -/
theorem getCachedSelector_valid {cache : lib.Cache} (h : CacheSound lib cache) {s : LabelSelector} {m : Selector}
    (hs : lib.labelSelectorAsSelector s = .ok m) : (getCachedSelector lib cache s).1 = .ok m := by
  unfold getCachedSelector
  split
  · rename_i cached cache' heq
    obtain ⟨t, hkey, ht⟩ := h (selectorKey s) cached (by rw [heq])
    rw [selectorKey_inj (lib.rejects t cached ht) (lib.rejects s m hs) hkey, hs] at ht
    exact ht.symm
  · rw [hs]

theorem configsForNode_eq {cfgs : List FRRConfiguration} (h : ∀ cfg ∈ cfgs, cfg.ValidSelector lib)
    (nodeLabels : Labels) :
    configsForNode lib cfgs nodeLabels = .ok (cfgs.filter (fun cfg => cfg.selects lib nodeLabels)) := by
  have hfold : ∀ (cfgs valid : List FRRConfiguration), (∀ cfg ∈ cfgs, cfg.ValidSelector lib) →
      cfgs.foldlM (fun valid cfg =>
        match lib.labelSelectorAsSelector cfg.nodeSelector with
        | .error err => .error s!"could not parse nodeSelector for FRRConfiguration {cfg.ns}/{cfg.name}, err: {err}"
        | .ok selector => .ok (if selector nodeLabels then valid ++ [cfg] else valid)) valid =
      (.ok (valid ++ cfgs.filter (fun cfg => cfg.selects lib nodeLabels)) : Except String (List FRRConfiguration)) := by
    intro cfgs
    induction cfgs with
    | nil => exact fun valid _ => by rw [List.filter_nil, List.append_nil]; rfl
    | cons cfg cfgs ih =>
      intro valid hvalid
      obtain ⟨m, hm⟩ := hvalid cfg (List.mem_cons_self ..)
      rw [List.foldlM_cons, hm, List.filter_cons]
      refine (ih _ (fun c hc => hvalid c (List.mem_cons_of_mem _ hc))).trans ?_
      unfold FRRConfiguration.selects
      rw [hm]
      by_cases hsel : m nodeLabels = true
      · simp [hsel]
      · simp [hsel]
  exact hfold cfgs [] h

/-- Where the configurations of a node are found, the selector of every one is valid. -/
theorem validSelector_of_configsForNode {cfgs valid : List FRRConfiguration} {nodeLabels : Labels}
    (h : configsForNode lib cfgs nodeLabels = .ok valid) : ∀ cfg ∈ cfgs, cfg.ValidSelector lib := by
  have hfold : ∀ (cfgs start : List FRRConfiguration), cfgs.foldlM (fun valid cfg =>
      match lib.labelSelectorAsSelector cfg.nodeSelector with
      | .error err => .error s!"could not parse nodeSelector for FRRConfiguration {cfg.ns}/{cfg.name}, err: {err}"
      | .ok selector => .ok (if selector nodeLabels then valid ++ [cfg] else valid)) start =
        (.ok valid : Except String (List FRRConfiguration)) → ∀ cfg ∈ cfgs, cfg.ValidSelector lib := by
    intro cfgs
    induction cfgs with
    | nil => exact fun _ _ cfg hcfg => absurd hcfg List.not_mem_nil
    | cons cfg cfgs ih =>
      intro start h
      rw [List.foldlM_cons] at h
      cases hm : lib.labelSelectorAsSelector cfg.nodeSelector with
      | error err =>
        rw [hm] at h
        cases h
      | ok m =>
        rw [hm] at h
        exact List.forall_mem_cons.2 ⟨⟨m, hm⟩, ih _ h⟩
  exact hfold cfgs [] h

end

/-! ## An implementation -/

def LabelSelectorRequirement.wellFormed (r : LabelSelectorRequirement) : Bool :=
  isLabelText r.key && r.values.all isLabelText &&
    (((r.operator = "In" || r.operator = "NotIn") && r.values ≠ []) ||
      ((r.operator = "Exists" || r.operator = "DoesNotExist") && r.values = []))

def LabelSelector.wellFormed (s : LabelSelector) : Bool :=
  s.matchLabels.entries.all (fun e => isLabelText e.1 && isLabelText e.2) &&
    s.matchExpressions.all LabelSelectorRequirement.wellFormed

theorem wellFormed_of_checked {s : LabelSelector} (h : s.wellFormed = true) : s.WellFormed := by
  simp only [LabelSelector.wellFormed, Bool.and_eq_true, List.all_eq_true] at h
  refine ⟨h.1, fun r hr => ?_⟩
  have hr := h.2 r hr
  simp only [LabelSelectorRequirement.wellFormed, Bool.and_eq_true, Bool.or_eq_true, List.all_eq_true,
    decide_eq_true_eq] at hr
  exact ⟨hr.1.1, hr.1.2, hr.2⟩

/-- Whether labels meet a requirement. -/
def LabelSelectorRequirement.holds (r : LabelSelectorRequirement) (labels : Labels) : Bool :=
  if r.operator = "In" then (labels.find? r.key).any (fun v => v ∈ r.values)
  else if r.operator = "NotIn" then !(labels.find? r.key).any (fun v => v ∈ r.values)
  else if r.operator = "Exists" then (labels.find? r.key).isSome
  else (labels.find? r.key).isNone

theorem lookup_filter_ne {α : Type} {k k' : String} (hne : k' ≠ k) : ∀ c : List (String × α),
    (c.filter (fun e => e.1 ≠ k)).lookup k' = c.lookup k'
  | [] => rfl
  | (j, v) :: c => by
    rw [List.filter_cons, List.lookup_cons, ← lookup_filter_ne hne c]
    by_cases hj : j = k
    · simp [hj, beq_false_of_ne hne]
    · simp [hj, List.lookup_cons]

/-- The cache is the list of what was used, the last first. -/
def labelSelectors (size : Nat) : SelectorLib where
  labelSelectorAsSelector s :=
    if s.wellFormed then .ok (fun labels =>
      s.matchLabels.entries.all (fun e => labels.find? e.1 = some e.2) && s.matchExpressions.all
      (fun r => r.holds labels))
    else .error "invalid label selector"
  rejects s m h := by
    split at h
    · exact wellFormed_of_checked ‹_›
    · cases h
  Cache := List (String × Selector)
  new := []
  get c k := (c.lookup k, match c.lookup k with
    | some v => (k, v) :: c.filter (fun e => e.1 ≠ k)
    | none => c)
  add c k v := ((k, v) :: c.filter (fun e => e.1 ≠ k)).take size
  get_new k := rfl
  get_add c k v k' w h := by
    have h := (List.take_prefix size ((k, v) :: c.filter (fun e => e.1 ≠ k))).lookup_eq_some h
    by_cases hk : k' = k
    · simp [hk] at h
      exact Or.inl ⟨hk, h.symm⟩
    · rw [List.lookup_cons, beq_false_of_ne hk, lookup_filter_ne hk] at h
      exact Or.inr ⟨hk, h⟩
  get_get c k k' w h := by
    simp only at h ⊢
    cases hv : c.lookup k with
    | none => rwa [hv] at h
    | some v =>
      rw [hv] at h
      by_cases hk : k' = k
      · simp [hk] at h
        rw [hk, hv, h]
      · rwa [List.lookup_cons, beq_false_of_ne hk, lookup_filter_ne hk] at h

/-! ## One call after another -/

/-- The calls of `getCachedSelector` from an empty cache. -/
def selectorCalls (lib : SelectorLib) : System lib.Cache LabelSelector where
  init := lib.new
  step cache s := some (getCachedSelector lib cache s).2

/-- Both fail, or both are selectors that match the same labels. -/
def SameAnswer : Except String Selector → Except String Selector → Prop
  | .error _, .error _ => True
  | .ok m, .ok m' => ∀ labels, m labels = m' labels
  | _, _ => False

section

variable {lib : SelectorLib}

theorem cacheSound_run {past : List (lib.Cache × LabelSelector)} {cache : lib.Cache}
    (h : Run (selectorCalls lib) past cache) : CacheSound lib cache := by
  refine h.invariant (G := fun _ _ => True) (P := fun _ cache => CacheSound lib cache) cacheSound_new ?_
    (fun _ _ => trivial)
  intro past cache s cache' _ hsound _ hstep
  obtain rfl := Option.some.inj hstep
  exact getCachedSelector_sound hsound s

theorem getCachedSelector_found {cache : lib.Cache} {s : LabelSelector} {m : Selector}
    (h : (lib.get cache (selectorKey s)).1 = some m) : (getCachedSelector lib cache s).1 = .ok m := by
  unfold getCachedSelector
  split
  · rename_i cached cache' heq
    rw [heq] at h
    rw [Option.some.inj h]
  · rename_i cache' heq
    rw [heq] at h
    cases h

theorem getCachedSelector_missing {cache : lib.Cache} {s : LabelSelector}
    (h : (lib.get cache (selectorKey s)).1 = none) :
    (getCachedSelector lib cache s).1 = lib.labelSelectorAsSelector s := by
  unfold getCachedSelector
  split
  · rename_i cached cache' heq
    rw [heq] at h
    cases h
  · cases lib.labelSelectorAsSelector s <;> rfl

theorem sameAnswer_self (a : Except String Selector) : SameAnswer a a := by
  cases a with
  | error err => trivial
  | ok m => exact fun _ => rfl

end

/-- **After every sequence of calls the cache does not show exactly when** the selector can be read, or nothing is
cached under its text. -/
theorem getCachedSelector_transparent_iff (lib : SelectorLib) (past : List (lib.Cache × LabelSelector))
    (cache : lib.Cache) (h : Run (selectorCalls lib) past cache) (s : LabelSelector) :
    SameAnswer (getCachedSelector lib cache s).1 (lib.labelSelectorAsSelector s) ↔
      (lib.labelSelectorAsSelector s).isOk = true ∨ (lib.get cache (selectorKey s)).1 = none := by
  constructor
  · intro hsame
    cases hfound : (lib.get cache (selectorKey s)).1 with
    | none => exact Or.inr rfl
    | some m =>
      rw [getCachedSelector_found hfound] at hsame
      cases hread : lib.labelSelectorAsSelector s with
      | error err =>
        rw [hread] at hsame
        exact hsame.elim
      | ok m' => exact Or.inl rfl
  · rintro (hread | hmissing)
    · cases hs : lib.labelSelectorAsSelector s with
      | error err =>
        rw [hs] at hread
        cases hread
      | ok m =>
        rw [getCachedSelector_valid (cacheSound_run h) hs]
        exact sameAnswer_self _
    · rw [getCachedSelector_missing hmissing]
      exact sameAnswer_self _

/-- Nodes whose `rack` is one of the values. -/
def racks (values : List String) : LabelSelector := { matchExpressions := [⟨"rack", "In", values⟩] }

theorem run_racks : Run (selectorCalls (labelSelectors 300)) [([], racks ["a", "b"])]
    (getCachedSelector (labelSelectors 300) [] (racks ["a", "b"])).2 :=
  Run.next Run.start rfl

/-- The same selector is read again, and one that was not asked for before. -/
theorem getCachedSelector_transparent_racks :
    SameAnswer (getCachedSelector (labelSelectors 300)
      (getCachedSelector (labelSelectors 300) [] (racks ["a", "b"])).2 (racks ["a", "b"])).1
        ((labelSelectors 300).labelSelectorAsSelector (racks ["a", "b"])) ∧
    SameAnswer (getCachedSelector (labelSelectors 300)
      (getCachedSelector (labelSelectors 300) [] (racks ["a", "b"])).2 (racks ["a c"])).1
        ((labelSelectors 300).labelSelectorAsSelector (racks ["a c"])) :=
  ⟨(getCachedSelector_transparent_iff _ _ _ run_racks _).2 (Or.inl (by decide +kernel)),
    (getCachedSelector_transparent_iff _ _ _ run_racks _).2 (Or.inr (by rfl))⟩

/-- `a b` is no value of a label, but its text is that of the two values `a` and `b`. -/
theorem getCachedSelector_takes_invalid : ∃ cache past, Run (selectorCalls (labelSelectors 300)) past cache ∧
    ((labelSelectors 300).labelSelectorAsSelector (racks ["a b"])).isOk = false ∧
      (getCachedSelector (labelSelectors 300) cache (racks ["a b"])).1.isOk = true :=
  ⟨_, _, run_racks, by decide +kernel, by decide +kernel⟩

end FrrK8s
