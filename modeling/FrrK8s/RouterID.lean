import FrrK8s.Crc
import FrrK8s.Daemon
import FrrK8s.NetText
/-!
# RouterID — the router ID of a node without IPv4 (`hasIPv4Address`, `hashRouterID`, `NewFRR`)

FRR takes a router ID from an IPv4 address of the node, and where there is none it would take `0.0.0.0` on every node.
The daemon then gives each router without an ID of its own a checksum of the name of the host, written as an address.
Names that differ within four bytes in a row, as those of numbered nodes do, never have the same one
(`routerIDs_apart`).
-/
namespace FrrK8s

/-! ## The fallback -/

/-- An address of an interface; of a network the address is kept, in 16 bytes. -/
inductive InterfaceAddr
  | ipNet (ip : Nat)
  | other
deriving DecidableEq, Repr

def InterfaceAddr.isIPv4 : InterfaceAddr → Bool
  | .ipNet ip => (Net.to4 ip).isSome
  | .other => false

def hasIPv4Address (netInterfaceAddrs : Except String (List InterfaceAddr)) : Bool :=
  match netInterfaceAddrs with
  | .error _ => false
  | .ok addrs => addrs.any InterfaceAddr.isIPv4

/-- The polynomial of IEEE 802.3, reflected. -/
def ieee : BitVec 32 := 0xedb88320#32

/-- `crc32.ChecksumIEEE` -/
def checksumIEEE (data : List (BitVec 8)) : BitVec 32 := ~~~(crcUpdate ieee (BitVec.allOnes 32) data)

/-- The bytes of a string. -/
def bytesOf (s : String) : List (BitVec 8) := s.toUTF8.data.toList.map UInt8.toBitVec

/-- `binary.LittleEndian.PutUint32`, and the bytes as an address. -/
def littleEndian (v : BitVec 32) : Nat :=
  v.toNat % 256 * 2 ^ 24 + v.toNat / 2 ^ 8 % 256 * 2 ^ 16 + v.toNat / 2 ^ 16 % 256 * 2 ^ 8 + v.toNat / 2 ^ 24 % 256

def hashRouterID (osHostname : Except String String) : Except String String :=
  match osHostname with
  | .error err => .error err
  | .ok hostname => .ok (Net.ipv4String (littleEndian (checksumIEEE (bytesOf hostname))))

/-- The `fallbackRouterID` of `NewFRR`. -/
def newFallbackRouterID (netInterfaceAddrs : Except String (List InterfaceAddr)) (osHostname : Except String String) :
    Except String String :=
  if hasIPv4Address netInterfaceAddrs then .ok ""
  else
    match hashRouterID osHostname with
    | .error err => .error s!"failed to generate fallback router-id: {err}"
    | .ok routerID => .ok routerID

/-! ## Names of hosts -/

theorem littleEndian_lt (v : BitVec 32) : littleEndian v < 2 ^ 32 := by
  unfold littleEndian
  omega

/-- Four bytes, the first one the lowest. -/
theorem toNat_eq_bytes (v : BitVec 32) :
    v.toNat = v.toNat % 256 + v.toNat / 2 ^ 8 % 256 * 2 ^ 8 + v.toNat / 2 ^ 16 % 256 * 2 ^ 16 +
      v.toNat / 2 ^ 24 % 256 * 2 ^ 24 := by
  have hv := v.isLt
  omega

theorem bigEndian_inj {a b c d a' b' c' d' : Nat} (hb : b < 256) (hc : c < 256) (hd : d < 256) (hb' : b' < 256)
    (hc' : c' < 256) (hd' : d' < 256)
    (h : a * 2 ^ 24 + b * 2 ^ 16 + c * 2 ^ 8 + d = a' * 2 ^ 24 + b' * 2 ^ 16 + c' * 2 ^ 8 + d') :
    a = a' ∧ b = b' ∧ c = c' ∧ d = d' := by
  omega

theorem littleEndian_inj {v v' : BitVec 32} (h : littleEndian v = littleEndian v') : v = v' := by
  have hbyte (n : Nat) : n % 256 < 256 := Nat.mod_lt n (by decide)
  obtain ⟨h0, h1, h2, h3⟩ := bigEndian_inj (hbyte _) (hbyte _) (hbyte _) (hbyte _) (hbyte _) (hbyte _) h
  apply BitVec.eq_of_toNat_eq
  rw [toNat_eq_bytes v, toNat_eq_bytes v', h0, h1, h2, h3]

theorem ipv4String_inj {v v' : Nat} (hv : v < 2 ^ 32) (hv' : v' < 2 ^ 32) (h : Net.ipv4String v = Net.ipv4String v') :
    v = v' := by
  have hread := Net.parseAddr_ipv4String hv
  rw [h, Net.parseAddr_ipv4String hv', Option.some.injEq, Net.Addr.mk.injEq] at hread
  unfold Net.v4InV6 at hread
  omega

/-- Two names differ within four bytes in a row. -/
def DifferShortly (s t : String) : Prop :=
  ∃ before x y after, bytesOf s = before ++ x ++ after ∧ bytesOf t = before ++ y ++ after ∧
    x.length = y.length ∧ x.length ≤ 4 ∧ x ≠ y

/-- **Names that differ within four bytes in a row have different checksums.** -/
theorem hashRouterID_apart {s t : String} (h : DifferShortly s t) : hashRouterID (.ok s) ≠ hashRouterID (.ok t) := by
  obtain ⟨before, x, y, after, hs, ht, hlength, hshort, hne⟩ := h
  intro hsame
  have htext := Except.ok.inj hsame
  have hsum := littleEndian_inj (ipv4String_inj (littleEndian_lt _) (littleEndian_lt _) htext)
  unfold checksumIEEE at hsum
  rw [BitVec.not_inj, hs, ht] at hsum
  exact hne (crcUpdate_burst (by decide) _ before after hlength (by omega) hsum)

theorem bytesOf_append (s t : String) : bytesOf (s ++ t) = bytesOf s ++ bytesOf t := by
  simp [bytesOf]

/-- Names that differ in one part, of the same length in both and of four bytes at most. -/
theorem differShortly_of_append (p q : String) {s t : String} (hlength : (bytesOf s).length = (bytesOf t).length)
    (hshort : (bytesOf s).length ≤ 4) (hne : bytesOf s ≠ bytesOf t) : DifferShortly (p ++ s ++ q) (p ++ t ++ q) :=
  ⟨bytesOf p, bytesOf s, bytesOf t, bytesOf q, by simp only [bytesOf_append], by simp only [bytesOf_append],
  hlength, hshort, hne⟩

/-! ## The routers that are sent -/

/-- The fallback of a node without IPv4 is the text of an IPv4 address. -/
theorem newFallbackRouterID_ok {netInterfaceAddrs : Except String (List InterfaceAddr)}
    {osHostname : Except String String} {id : String} (hnone : hasIPv4Address netInterfaceAddrs = false)
    (h : newFallbackRouterID netInterfaceAddrs osHostname = .ok id) :
    hashRouterID osHostname = .ok id ∧ ∃ v, v < 2 ^ 32 ∧ id = Net.ipv4String v := by
  unfold newFallbackRouterID at h
  rw [hnone, if_neg Bool.false_ne_true] at h
  cases hhash : hashRouterID osHostname with
  | error err => rw [hhash] at h; cases h
  | ok routerID =>
    rw [hhash] at h
    obtain rfl := Except.ok.inj h
    cases osHostname with
    | error err => cases hhash
    | ok hostname => exact ⟨rfl, _, littleEndian_lt _, (Except.ok.inj hhash).symm⟩

/-- A router that is sent is one of the configuration with an ID of its own, or has the fallback. -/
theorem applyConfig_routerID {osHostname : Except String String} {id : String} {config c : Config}
    {e : ReloadEvent Config} (hid : id ≠ "") (h : applyConfig osHostname id config = .ok e) (hc : e.config = some c)
    {r : RouterConfig} (hr : r ∈ c.routers) : (r ∈ config.routers ∧ r.routerID ≠ "") ∨ r.routerID = id := by
  cases osHostname with
  | error err => cases h
  | ok hostname =>
    obtain rfl := Except.ok.inj h
    obtain rfl := Option.some.inj hc
    simp only [if_pos hid] at hr
    obtain ⟨own, hown, rfl⟩ := List.mem_map.1 hr
    split
    · exact .inr rfl
    · exact .inl ⟨hown, ‹_›⟩

/-- An ID of a router in the result is that of an entry. -/
theorem ResultOf.routerID {secrets : SortedMap String Secret} {alwaysBlock : List Net.IPNet}
    {cfgs : List FRRConfiguration} {c : Config} (h : ResultOf secrets alwaysBlock cfgs c) {r : RouterConfig}
    (hr : r ∈ c.routers) (hid : r.routerID ≠ "") : ∃ cfg ∈ cfgs, ∃ e ∈ cfg.routers, e.id = r.routerID := by
  obtain ⟨cfg, hcfg, e, he, own, hown, -, -, hsame⟩ := (h.tells r.vrf (.routerID r.routerID)).1 ⟨r, hr, rfl, hid, rfl⟩
  obtain ⟨-, -, imported, -, -, hown⟩ := (routerFor_eq_ok ..).1 hown
  obtain ⟨ns, -, rfl⟩ := (routerToFRRConfig_eq_ok ..).1 hown
  exact ⟨cfg, hcfg, e, he, hsame⟩

theorem InputOf.subset {env : ReconcilerSettings} {calls : Calls} {configs cfgs : List FRRConfiguration}
    {secrets : SortedMap String Secret} (h : InputOf env calls configs cfgs secrets) : ∀ cfg ∈ cfgs, cfg ∈ configs := by
  obtain ⟨-, rfl, -⟩ | ⟨labels, -, hcfgs, -⟩ := h
  · exact fun cfg hcfg => absurd hcfg List.not_mem_nil
  · rw [configsForNode_eq (validSelector_of_configsForNode hcfgs)] at hcfgs
    obtain rfl := Except.ok.inj hcfgs
    exact fun cfg hcfg => List.mem_of_mem_filter hcfg

/-! ## Over a run -/

/-- A run of the controller has listed an entry with this router ID. -/
def Declares (past : List (Daemon × DaemonStep)) (id : String) : Prop :=
  ∃ x ∈ past, ∃ request a configs, x.1.watch.running = some (request, a) ∧ a.configs = some (.ok configs) ∧
    ∃ cfg ∈ configs, ∃ e ∈ cfg.routers, e.id = id

section

variable {env : WatchSettings} {eq : Config → Config → Bool} {conf : String} {s : Daemon}
  {past : List (Daemon × DaemonStep)}

/-- The configurations the loop was handed. -/
def Daemon.Received (env : WatchSettings) (past : List (Daemon × DaemonStep)) (c : Config) : Prop :=
  FrrK8s.Received (partOf Daemon.delivery (Daemon.deliveryEvent env) past) c

theorem Daemon.received_config (h : Run (daemon env eq conf) past s) {c : Config}
    (hc : s.delivery.loop.config = some c) : Daemon.Received env past c :=
  (Delivery.rendered_run (Daemon.delivery_run h) (Daemon.delivery_sent h)).config c hc

/-- A configuration the loop was handed is what `ApplyConfig` made of a translation. -/
theorem Daemon.Received.applied {c : Config} (hc : Daemon.Received env past c) (h : Run (daemon env eq conf) past s) :
    ∃ x ∈ past, ∃ request a osHostname config, x.1.watch.running = some (request, a) ∧
      TranslationOf env.env (a.calls osHostname) config ∧
      applyConfig osHostname env.env.fallbackRouterID config = .ok { config := some c } := by
  obtain ⟨y, hy, newCfg, hreload, -, hconfig⟩ := hc
  obtain ⟨⟨t, e⟩, hx, hmap⟩ := List.mem_filterMap.1 hy
  obtain ⟨d, hd, rfl⟩ := Option.map_eq_some_iff.1 hmap
  obtain ⟨late, before, rfl⟩ := List.append_of_mem hx
  obtain ⟨t', hstep⟩ := Option.isSome_iff_exists.1 h.before.2
  cases Daemon.does_of_step hstep with
  | watch e w _ hnone =>
    rw [Daemon.deliveryEvent, hnone] at hd
    cases hd
  | delivery e d' hother => exact (hother newCfg ((Option.some.inj hd).trans hreload)).elim
  | handOver osHostname request a sent d' hrunning _ happlied hsends _ =>
    rw [Daemon.deliveryEvent, hsends] at hd
    obtain rfl := Option.some.inj hd
    cases hreload
    obtain rfl := Option.some.inj hconfig
    obtain ⟨-, config, htranslation, hcall⟩ := reconcileOutcome_handed happlied
    exact ⟨_, hx, request, a, osHostname, config, hrunning, htranslation, hcall⟩

/-- Each router the loop was handed has the ID of an entry, or the fallback. -/
theorem Daemon.Received.routerID {c : Config} (hc : Daemon.Received env past c) (h : Run (daemon env eq conf) past s)
    (hid : env.env.fallbackRouterID ≠ "") {r : RouterConfig} (hr : r ∈ c.routers) :
    (r.routerID ≠ "" ∧ Declares past r.routerID) ∨ r.routerID = env.env.fallbackRouterID := by
  obtain ⟨x, hx, request, a, osHostname, config, hrunning, htranslation, hcall⟩ := hc.applied h
  refine (applyConfig_routerID hid hcall rfl hr).imp_left (fun ⟨hown, hne⟩ => ⟨hne, ?_⟩)
  obtain ⟨configs, logLevel, cfgs, secrets, result, hconfigs, -, hinput, hresult, rfl⟩ := htranslation
  obtain ⟨cfg, hcfg, e, he, hsame⟩ := (apiToFRR_result hresult).routerID hown hne
  refine ⟨x, hx, request, a, configs, hrunning, ?_, cfg, hinput.subset cfg hcfg, e, he, hsame⟩
  cases ha : a.configs with
  | none =>
    -- nothing is listed, so there is no entry
    rw [Attempt.calls, ha] at hconfigs
    obtain rfl := Except.ok.inj hconfigs
    exact absurd (hinput.subset cfg hcfg) List.not_mem_nil
  | some answer =>
    rw [Attempt.calls, ha] at hconfigs
    exact congrArg some hconfigs

end

theorem ipv4String_ne_empty {v : Nat} (hv : v < 2 ^ 32) : Net.ipv4String v ≠ "" := by
  intro h
  have hread := Net.parseAddr_ipv4String hv
  rw [h] at hread
  cases hread

/-- **Routers of two nodes without IPv4 have different IDs**, where none is configured: the names of the nodes differ
within four bytes in a row, and the routers are any that the loops of the two daemons were handed, in whichever
runs. -/
theorem routerIDs_apart (env env' : WatchSettings) (eq eq' : Config → Config → Bool) (conf conf' : String)
    (past past' : List (Daemon × DaemonStep)) (s s' : Daemon) (h : Run (daemon env eq conf) past s)
    (h' : Run (daemon env' eq' conf') past' s') (addrs addrs' : Except String (List InterfaceAddr))
    (hnone : hasIPv4Address addrs = false) (hnone' : hasIPv4Address addrs' = false)
    (hid : newFallbackRouterID addrs (.ok env.hostname) = .ok env.env.fallbackRouterID)
    (hid' : newFallbackRouterID addrs' (.ok env'.hostname) = .ok env'.env.fallbackRouterID)
    (hdiffer : DifferShortly env.hostname env'.hostname) (c c' : Config) (hc : Daemon.Received env past c)
    (hc' : Daemon.Received env' past' c') (r r' : RouterConfig) (hr : r ∈ c.routers) (hr' : r' ∈ c'.routers) :
    r.routerID ≠ "" ∧ r'.routerID ≠ "" ∧
      (r.routerID = r'.routerID → Declares past r.routerID ∨ Declares past' r'.routerID) := by
  obtain ⟨hhash, v, hv, htext⟩ := newFallbackRouterID_ok hnone hid
  obtain ⟨hhash', v', hv', htext'⟩ := newFallbackRouterID_ok hnone' hid'
  have hne : env.env.fallbackRouterID ≠ "" := htext ▸ ipv4String_ne_empty hv
  have hne' : env'.env.fallbackRouterID ≠ "" := htext' ▸ ipv4String_ne_empty hv'
  have hfrom := hc.routerID h hne hr
  have hfrom' := hc'.routerID h' hne' hr'
  refine ⟨hfrom.elim And.left (fun hfallback => hfallback ▸ hne),
    hfrom'.elim And.left (fun hfallback => hfallback ▸ hne'),
    fun hsame => ?_⟩
  obtain ⟨-, hown⟩ | hfallback := hfrom
  · exact .inl hown
  obtain ⟨-, hown'⟩ | hfallback' := hfrom'
  · exact .inr hown'
  refine (hashRouterID_apart hdiffer ?_).elim
  rw [hhash, hhash', ← hfallback, ← hfallback', hsame]

/-! Two nodes of a cluster, each with a configuration that sets no router ID. -/

def onNode (hostname fallbackRouterID : String) : WatchSettings :=
  { watchSettings with env := { plainSettings with fallbackRouterID := fallbackRouterID }, hostname := hostname }

def listedOn (hostname : String) : List DaemonStep :=
  let node := Object.node "node" .empty
  let config := Object.config firstPart
  ([.change (.create config), .change (.create node), .notify (.create node), .begin node.request,
  .list (.ok [firstPart]),
    .getLogLevel (.error { text := "not found", notFound := true }), .getNode (.ok .empty), .getSecrets (.ok []),
    .finish (.ok hostname)] : List WatchStep).map .watch

def listedRun (hostname fallbackRouterID : String) : List (Daemon × DaemonStep) × Daemon :=
  ((daemon (onNode hostname fallbackRouterID) (fun a b => decide (a = b)) "").exec (listedOn hostname) []
    { delivery := { conf := "" } }).getD ([], { delivery := { conf := "" } })

/-- The one router that the loop was handed in such a run. -/
theorem listedRun_router {hostname id : String}
    (h : ((daemon (onNode hostname id) (fun a b => decide (a = b)) "").exec (listedOn hostname) []
    { delivery := { conf := "" } }).isSome = true)
    (hids : (listedRun hostname id).2.delivery.loop.config.map
    (fun c => c.routers.map RouterConfig.routerID) = some [id]) :
    Run (daemon (onNode hostname id) (fun a b => decide (a = b)) "") (listedRun hostname id).1
    (listedRun hostname id).2 ∧
      ∃ c, Daemon.Received (onNode hostname id) (listedRun hostname id).1 c ∧ ∃ r ∈ c.routers, r.routerID = id := by
  have hrun : Run (daemon (onNode hostname id) (fun a b => decide (a = b)) "") (listedRun hostname id).1
      (listedRun hostname id).2 := Run.of_exec_getD _ .start h
  obtain ⟨c, hc, hrouters⟩ := Option.map_eq_some_iff.1 hids
  obtain ⟨r, hr, hid⟩ := List.mem_map.1 (hrouters ▸ List.mem_singleton_self id)
  exact ⟨hrun, c, Daemon.received_config hrun hc, r, hr, hid⟩

theorem routerIDs_apart_workers : ∃ c c',
    Daemon.Received (onNode "worker-1" "160.112.56.60") (listedRun "worker-1" "160.112.56.60").1 c ∧
    Daemon.Received (onNode "worker-2" "26.33.49.165") (listedRun "worker-2" "26.33.49.165").1 c' ∧
    ∃ r ∈ c.routers, ∃ r' ∈ c'.routers, r.routerID = "160.112.56.60" ∧ r'.routerID = "26.33.49.165" ∧
      (r.routerID = r'.routerID → Declares (listedRun "worker-1" "160.112.56.60").1 r.routerID ∨
        Declares (listedRun "worker-2" "26.33.49.165").1 r'.routerID) := by
  obtain ⟨hrun, c, hc, r, hr, hid⟩ := @listedRun_router "worker-1" "160.112.56.60" (by decide +kernel)
    (by decide +kernel)
  obtain ⟨hrun', c', hc', r', hr', hid'⟩ := @listedRun_router "worker-2" "26.33.49.165" (by decide +kernel)
    (by decide +kernel)
  have hdiffer : DifferShortly "worker-1" "worker-2" :=
    @differShortly_of_append "worker-" "" "1" "2" (by decide +kernel) (by decide +kernel) (by decide +kernel)
  exact ⟨c, c', hc, hc', r, hr, r', hr', hid, hid',
    (routerIDs_apart _ _ _ _ _ _ _ _ _ _ hrun hrun' (.ok [.ipNet 1]) (.ok [])
    (by decide +kernel) (by decide +kernel) ((toOption_eq_some _ _).1 (by decide +kernel))
    ((toOption_eq_some _ _).1 (by decide +kernel)) hdiffer c c' hc hc' r r' hr hr').2.2⟩

end FrrK8s
