import FrrK8s.Session
import FrrK8s.Template
/-!
# Timers — the timers and the port that FRR runs a session with

A port or timer of the result that is the default is left out (`cleanNeighborDefaults`), each for itself, while the
template writes the keepalive and the hold time only together.  So FRR runs a session with the requested pair exactly
when both are the defaults or neither is (`apiToFRR_timers_iff`); the connect time and the port are always the requested
ones.  The timers of the result are valid BGP timers exactly when no keepalive time is negative
(`apiToFRR_validTimers_iff`).
-/
namespace FrrK8s

/-! ## What FRR reads -/

def SessionLine.timers? : SessionLine → Option (Int × Int)
  | .timers keepalive hold => some (keepalive, hold)
  | _ => none

def SessionLine.timersConnect? : SessionLine → Option Int
  | .timersConnect seconds => some seconds
  | _ => none

def SessionLine.port? : SessionLine → Option Nat
  | .port number => some number
  | _ => none

/-- The keepalive and the hold time of a session. -/
def effectiveTimers (lines : List SessionLine) : Int × Int :=
  (lines.findSome? SessionLine.timers?).getD (defaultKeepaliveTime, defaultHoldTime)

def effectiveConnectTime (lines : List SessionLine) : Int :=
  (lines.findSome? SessionLine.timersConnect?).getD defaultConnectTime

def effectivePort (lines : List SessionLine) : Nat := (lines.findSome? SessionLine.port?).getD defaultBGPPort

/-! ## What the template writes -/

theorem linesOf_lineIf (p : Prop) [Decidable p] (l : SessionLine) : linesOf (lineIf p l) = if p then [l] else [] := by
  unfold lineIf
  split <;> rfl

theorem linesOf_lineOrBlank (p : Prop) [Decidable p] (l : SessionLine) :
    linesOf (lineOrBlank p l) = if p then [l] else [] := by
  unfold lineOrBlank
  split <;> rfl

/-- The line sets the port or a timer. -/
def SessionLine.isSetting : SessionLine → Bool
  | .port _ | .timers _ _ | .timersConnect _ => true
  | _ => false

section

variable (routerASN : Nat) (n : NeighborConfig)

/-- What reads only lines that set the port or a timer reads those the template writes for the neighbor's own. -/
theorem findSome?_session {α : Type} (f : SessionLine → Option α) (hf : ∀ l, l.isSetting = false → f l = none) :
    (sessionLines routerASN n).findSome? f = ((n.port.map SessionLine.port).bind f).or
      (((linesOf (timersTokens n)).findSome? f).or ((n.connectTime.map SessionLine.timersConnect).bind f)) := by
  have hif : ∀ (p : Prop) [Decidable p] (l : SessionLine), l.isSetting = false →
      (if p then [l] else []).findSome? f = none := by
    intro p _ l hl
    split
    · rw [List.findSome?_singleton, hf l hl]
    · rfl
  have hremote : f (if n.iface ≠ "" then .interfaceRemoteAs n.asn else .remoteAs n.asn) = none := by
    split
    · exact hf _ rfl
    · exact hf _ rfl
  have hport : (linesOf (.text "\n  " :: n.port.elim [] (fun port => [.line (SessionLine.port port)]))).findSome? f =
      (n.port.map SessionLine.port).bind f := by
    cases n.port with
    | none => rfl
    | some port => exact List.findSome?_singleton
  have hconnect :
    (linesOf (n.connectTime.elim [] (fun t => [.text "\n  ", .line (SessionLine.timersConnect t)]))).findSome? f =
      (n.connectTime.map SessionLine.timersConnect).bind f := by
    cases n.connectTime with
    | none => rfl
    | some t => exact List.findSome?_singleton
  unfold sessionLines sessionTokens
  simp only [linesOf_append, linesOf_lineIf, linesOf_lineOrBlank, List.findSome?_append, hport, hconnect]
  rw [linesOf_text, linesOf_line, linesOf_nil, List.findSome?_singleton, hremote, hif _ _ rfl, hif _ _ rfl, hif _ _ rfl,
    hif _ _ rfl, hif _ _ rfl, hif _ _ rfl, hif _ _ rfl, hif _ _ rfl]
  simp only [Option.none_or, Option.or_none, Option.or_assoc]

theorem effectiveTimers_session : effectiveTimers (sessionLines routerASN n) =
    match n.keepaliveTime, n.holdTime with
    | some keepalive, some hold => (keepalive, hold)
    | _, _ => (defaultKeepaliveTime, defaultHoldTime) := by
  unfold effectiveTimers
  rw [findSome?_session routerASN n SessionLine.timers? (fun l hl => by cases l <;> first | rfl | cases hl)]
  unfold timersTokens
  cases n.keepaliveTime <;> cases n.holdTime <;> cases n.port <;> cases n.connectTime <;> rfl

theorem effectiveConnectTime_session :
    effectiveConnectTime (sessionLines routerASN n) = n.connectTime.getD defaultConnectTime := by
  unfold effectiveConnectTime
  rw [findSome?_session routerASN n SessionLine.timersConnect? (fun l hl => by cases l <;> first | rfl | cases hl)]
  unfold timersTokens
  cases n.keepaliveTime <;> cases n.holdTime <;> cases n.port <;> cases n.connectTime <;> rfl

theorem effectivePort_session : effectivePort (sessionLines routerASN n) = n.port.getD defaultBGPPort := by
  unfold effectivePort
  rw [findSome?_session routerASN n SessionLine.port? (fun l hl => by cases l <;> first | rfl | cases hl)]
  unfold timersTokens
  cases n.keepaliveTime <;> cases n.holdTime <;> cases n.port <;> cases n.connectTime <;> rfl

end

/-! ## Requested and effective timers -/

/-- Left out, each for itself, and written together, the timers are the ones asked for exactly when both are left out or
neither is. -/
theorem effectiveTimers_iff (routerASN : Nat) {n : NeighborConfig} {keepalive hold : Int} (hn : n.Normal)
    (hkeepalive : n.keepaliveTime.getD defaultKeepaliveTime = keepalive)
    (hhold : n.holdTime.getD defaultHoldTime = hold) :
    effectiveTimers (sessionLines routerASN n) = (keepalive, hold) ↔
      (hold = defaultHoldTime ↔ keepalive = defaultKeepaliveTime) := by
  have hne := hn.keepaliveTime
  have hne' := hn.holdTime
  rw [effectiveTimers_session]
  subst hkeepalive hhold
  cases hk : n.keepaliveTime with
  | none =>
    cases hh : n.holdTime with
    | none => simp
    | some hold => simp [eq_comm]
  | some keepalive =>
    cases hh : n.holdTime with
    | none => simp [eq_comm]
    | some hold =>
      have h1 : hold ≠ defaultHoldTime := fun heq => hne' (hh.trans (congrArg some heq))
      have h2 : keepalive ≠ defaultKeepaliveTime := fun heq => hne (hk.trans (congrArg some heq))
      simp [h1, h2]

/-- The lines are those of the session with the neighbor `id` of `vrf`. -/
def IsSession (c : Config) (vrf id : String) (lines : List SessionLine) : Prop :=
  ∃ r ∈ c.routers, r.vrf = vrf ∧ ∃ n ∈ r.neighbors, n.id = id ∧ lines = sessionLines r.myASN n

/-- A neighbor of a result has one session. -/
theorem ResultOf.isSession_iff {secrets : SortedMap String Secret} {alwaysBlock : List Net.IPNet}
    {cfgs : List FRRConfiguration} {c : Config} (h : ResultOf secrets alwaysBlock cfgs c) {r : RouterConfig}
    (hr : r ∈ c.routers) {n : NeighborConfig} (hn : n ∈ r.neighbors) (lines : List SessionLine) :
    IsSession c r.vrf n.id lines ↔ lines = sessionLines r.myASN n := by
  refine ⟨?_, fun heq => ⟨r, hr, rfl, n, hn, rfl, heq⟩⟩
  rintro ⟨s, hs, hvrf, m, hm, hid, rfl⟩
  obtain rfl := h.router_inj hs hr hvrf
  obtain rfl := h.neighbor_inj hs hm hn hid
  rfl

/-- **FRR runs a session with the requested timers exactly when both are the defaults or neither is**, and always with
the requested connect time and port. -/
theorem apiToFRR_timers_iff (secrets : SortedMap String Secret) (alwaysBlock : List Net.IPNet)
    (cfgs : List FRRConfiguration) (c : Config) (h : apiToFRR ⟨cfgs, secrets⟩ alwaysBlock = .ok c)
    (cfg : FRRConfiguration) (hcfg : cfg ∈ cfgs) (e : Router) (he : e ∈ cfg.routers) (a : Neighbor)
    (ha : a ∈ e.neighbors) :
    ∃ session, (∀ lines, IsSession c e.vrf (neighborID e.vrf a) lines ↔ lines = session) ∧
      (∀ hold keepalive, a.holdTime = some hold → a.keepaliveTime = some keepalive →
        (effectiveTimers session = (seconds keepalive, seconds hold) ↔
          (seconds hold = defaultHoldTime ↔ seconds keepalive = defaultKeepaliveTime))) ∧
      effectiveConnectTime session = (a.connectTime.map seconds).getD defaultConnectTime ∧
      effectivePort session = a.port.getD defaultBGPPort := by
  have hacc := apiToFRR_acceptable h
  have hres := apiToFRR_result h
  obtain ⟨r, hr, hvrf, n, hn, hid, hcon⟩ := hres.exists_contributed hacc hcfg he ha
  rw [← hid, ← hvrf]
  have hasked := hres.comparedOf hacc hr hn hcon
  refine ⟨sessionLines r.myASN n, hres.isSession_iff hr hn, fun hold keepalive hh hk => ?_, ?_, ?_⟩
  · refine effectiveTimers_iff r.myASN ((hres.normal r hr).neighbors n hn) ?_ ?_
    · rw [hasked.keepaliveTime, hk]
      rfl
    · rw [hasked.holdTime, hh]
      rfl
  · rw [effectiveConnectTime_session, hasked.connectTime]
  · rw [effectivePort_session, hasked.port]

/-- A neighbor with these timers, in seconds. -/
def timedNeighbor (hold keepalive : Int) : Neighbor :=
  { asn := 64513, address := "10.0.0.1", holdTime := some (hold * second), keepaliveTime := some (keepalive * second) }

def timed (hold keepalive : Int) : FRRConfiguration :=
  { name := "timed", routers := [{ asn := 64512, neighbors := [timedNeighbor hold keepalive] }] }

theorem apiToFRR_timers_iff_timed : ∃ c, apiToFRR ⟨[timed 90 30], .empty⟩ [] = .ok c ∧
    ∃ session, IsSession c "" "10.0.0.1" session ∧ effectiveTimers session = (30, 90) ∧
    effectivePort session = 179 := by
  obtain ⟨c, hc⟩ := (isOk_iff (apiToFRR ⟨[timed 90 30], .empty⟩ [])).1 (by decide +kernel)
  obtain ⟨session, hsession, htimers, -, hport⟩ := apiToFRR_timers_iff .empty [] _ c hc (timed 90 30)
    (List.mem_singleton_self _) _ (List.mem_singleton_self _) (timedNeighbor 90 30) (List.mem_singleton_self _)
  exact ⟨c, hc, session, (hsession session).2 rfl, (htimers _ _ rfl rfl).2 (by decide), hport⟩

/-- A hold time of 180 s with a keepalive time of 30 s: only the keepalive time is kept, and neither is written. -/
theorem timers_lost : (apiToFRR ⟨[timed 180 30], .empty⟩ []).toOption.map (fun c => c.routers.flatMap (fun r =>
    r.neighbors.map (fun n => (n.keepaliveTime, n.holdTime, effectiveTimers (sessionLines r.myASN n))))) =
      some [(some 30, none, (60, 180))] := by
  decide +kernel

/-! ## Valid timers -/

/-- The timers of `n`, its defaults filled in, are ones BGP allows. -/
structure ValidTimers (n : NeighborConfig) : Prop where
  hold : n.holdTime.getD defaultHoldTime = 0 ∨ 3 ≤ n.holdTime.getD defaultHoldTime
  keepalive : 0 ≤ n.keepaliveTime.getD defaultKeepaliveTime
  order : n.keepaliveTime.getD defaultKeepaliveTime ≤ n.holdTime.getD defaultHoldTime

theorem seconds_mono {d d' : Int} (h : d ≤ d') : seconds d ≤ seconds d' := Int.tdiv_le_tdiv (by decide) h

/-- Seconds are counted toward zero, so a negative time of less than a second counts as none. -/
theorem seconds_nonneg_iff (d : Int) : 0 ≤ seconds d ↔ -second < d := by
  unfold seconds second
  rcases le_total 0 d with hd | hd
  · rw [Int.tdiv_eq_ediv_of_nonneg hd]
    omega
  · obtain ⟨k, rfl⟩ : ∃ k, d = -k := ⟨-d, by omega⟩
    rw [Int.neg_tdiv, Int.tdiv_eq_ediv_of_nonneg (by omega)]
    omega

/-- What `parseTimers` lets through: a hold time of no or at least three seconds, and a keepalive time below it. -/
theorem parseTimers_bounds {ht ka : Option Int} {timers : Option Int × Option Int}
    (h : parseTimers ht ka = .ok timers) :
    ((ht.map seconds).getD defaultHoldTime = 0 ∨ 3 ≤ (ht.map seconds).getD defaultHoldTime) ∧
      (ka.map seconds).getD defaultKeepaliveTime ≤ (ht.map seconds).getD defaultHoldTime := by
  cases ht with
  | none =>
    cases ka with
    | none => decide
    | some ka => simp [parseTimers] at h
  | some ht =>
    cases ka with
    | none => simp [parseTimers] at h
    | some ka =>
      simp only [parseTimers, bind_eq_ok, reject_eq_ok, pure_eq_ok] at h
      obtain ⟨-, hhold, -, horder, -⟩ := h
      refine ⟨?_, seconds_mono (not_lt.1 horder)⟩
      rw [Option.map_some, Option.getD_some]
      unfold second at hhold
      omega

section

variable {secrets : SortedMap String Secret} {alwaysBlock : List Net.IPNet} {cfgs : List FRRConfiguration} {c : Config}

theorem ResultOf.validTimers_iff (hacc : Acceptable secrets alwaysBlock cfgs) (h : ResultOf secrets alwaysBlock cfgs c)
    {r : RouterConfig} (hr : r ∈ c.routers) {n : NeighborConfig} (hn : n ∈ r.neighbors) {cfg : FRRConfiguration}
    {e : Router} {a : Neighbor} (hcon : Contributes cfgs r.vrf n.id cfg e a) :
    ValidTimers n ↔ ∀ k ∈ a.keepaliveTime, -second < k := by
  have hasked := h.comparedOf hacc hr hn hcon
  obtain ⟨m, -, hm, -, -⟩ := hcon.translated hacc
  obtain ⟨-, f, -, timers, htimers, -⟩ := (neighborToFRR_eq_ok ..).1 hm
  obtain ⟨hhold, horder⟩ := parseTimers_bounds htimers
  have hkeepalive : 0 ≤ (a.keepaliveTime.map seconds).getD defaultKeepaliveTime ↔ ∀ k ∈ a.keepaliveTime,
      -second < k := by
    cases a.keepaliveTime with
    | none => simp [defaultKeepaliveTime]
    | some k => simp [seconds_nonneg_iff]
  rw [← hkeepalive, ← hasked.keepaliveTime]
  constructor
  · exact ValidTimers.keepalive
  · intro hk
    refine ⟨?_, hk, ?_⟩
    · rw [hasked.holdTime]
      exact hhold
    · rw [hasked.keepaliveTime, hasked.holdTime]
      exact horder

end

/-- **The timers of every neighbor of a result are valid BGP timers exactly when no keepalive time is a negative number
of seconds.** -/
theorem apiToFRR_validTimers_iff (secrets : SortedMap String Secret) (alwaysBlock : List Net.IPNet)
    (cfgs : List FRRConfiguration) (c : Config) (h : apiToFRR ⟨cfgs, secrets⟩ alwaysBlock = .ok c) :
    (∀ r ∈ c.routers, ∀ n ∈ r.neighbors, ValidTimers n) ↔
      ∀ cfg ∈ cfgs, ∀ e ∈ cfg.routers, ∀ a ∈ e.neighbors, ∀ k ∈ a.keepaliveTime, -second < k := by
  have hacc := apiToFRR_acceptable h
  have hres := apiToFRR_result h
  constructor
  · intro hvalid cfg hcfg e he a ha
    obtain ⟨r, hr, -, n, hn, -, hcon⟩ := hres.exists_contributed hacc hcfg he ha
    exact (hres.validTimers_iff hacc hr hn hcon).1 (hvalid r hr n hn)
  · intro hk r hr n hn
    obtain ⟨cfg, e, a, hcon⟩ := hres.exists_contributor hacc hr hn
    exact (hres.validTimers_iff hacc hr hn hcon).2 (hk cfg hcon.cfg_mem e hcon.entry_mem a hcon.mem)

theorem apiToFRR_validTimers_iff_timed : ∃ c, apiToFRR ⟨[timed 90 30], .empty⟩ [] = .ok c ∧
    ∀ r ∈ c.routers, ∀ n ∈ r.neighbors, ValidTimers n := by
  obtain ⟨c, hc⟩ := (isOk_iff (apiToFRR ⟨[timed 90 30], .empty⟩ [])).1 (by decide +kernel)
  exact ⟨c, hc, (apiToFRR_validTimers_iff .empty [] _ c hc).2 (by decide)⟩

/-- A keepalive time of minus 30 s is accepted and written to FRR. -/
theorem keepalive_negative : ∃ c, apiToFRR ⟨[timed 90 (-30)], .empty⟩ [] = .ok c ∧
    c.routers.flatMap (fun r => r.neighbors.map (fun n => (n.keepaliveTime, n.holdTime))) = [(some (-30), some 90)] ∧
    ¬ ∀ r ∈ c.routers, ∀ n ∈ r.neighbors, ValidTimers n := by
  obtain ⟨c, hc, htimers⟩ := (toOption_map_eq_some (apiToFRR ⟨[timed 90 (-30)], .empty⟩ []) (fun c =>
    c.routers.flatMap (fun r => r.neighbors.map (fun n => (n.keepaliveTime, n.holdTime)))) [(some (-30), some 90)]).1
      (by decide +kernel)
  refine ⟨c, hc, htimers, fun hvalid => ?_⟩
  obtain ⟨r, hr, hmem⟩ := List.mem_flatMap.1 (htimers ▸ List.mem_singleton_self (some (-30 : Int), some (90 : Int)))
  obtain ⟨n, hn, heq⟩ := List.mem_map.1 hmem
  have hkeepalive := (hvalid r hr n hn).keepalive
  rw [(Prod.mk.inj heq).1] at hkeepalive
  exact absurd hkeepalive (by decide)

end FrrK8s
