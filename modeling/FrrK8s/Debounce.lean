import FrrK8s.Frr
import FrrK8s.Runs
/-!
# Debounce — the loop that reloads FRR (`debouncer`)

The loop waits for a reload event, for its timer, or for its end.  Timers are those `time.After` started and that did
not fire yet, so that one the loop forgot would still be there.  `body` is called where a timer fires, with the
configuration the loop has; its error is part of the event.  What a configuration is does not matter here, nor how two
are compared (`reflect.DeepEqual`): both are parameters.
-/
namespace FrrK8s

/-! ## The loop -/

/-- `reloadEvent`. -/
structure ReloadEvent (Cfg : Type) where
  config : Option Cfg := none
  useOld : Bool := false
deriving DecidableEq, Repr

inductive Interval
  | reloadInterval
  | failureRetryInterval
deriving DecidableEq, Repr

structure Timer where
  id : Nat
  interval : Interval
deriving DecidableEq, Repr

/-- The variables of the loop and, below them, the timers that did not fire and the number of those started. -/
structure Debouncer (Cfg : Type) where
  config : Option Cfg := none
  timeOut : Option Timer := none
  timerSet : Bool := false
  running : Bool := true
  outstanding : List Timer := []
  started : Nat := 0
deriving DecidableEq, Repr

/-- What the `select` receives: a reload event, the end of their channel, the timer (with the error of `body`) or the
end of the context. -/
inductive LoopEvent (Cfg : Type)
  | reload (newCfg : ReloadEvent Cfg)
  | closed
  | timeOut (err : Option String)
  | done
deriving DecidableEq, Repr

section

variable {Cfg : Type}

/-- `reflect.DeepEqual` of two pointers. -/
def deepEqual (eq : Cfg → Cfg → Bool) : Option Cfg → Option Cfg → Bool
  | none, none => true
  | some a, some b => eq a b
  | _, _ => false

namespace Debouncer

/-- `timeOut = time.After(interval)`, `timerSet = true`. -/
def setTimer (s : Debouncer Cfg) (interval : Interval) : Debouncer Cfg :=
  { s with
    timeOut := some ⟨s.started, interval⟩
    timerSet := true
    outstanding := ⟨s.started, interval⟩ :: s.outstanding
    started := s.started + 1 }

def receive (eq : Cfg → Cfg → Bool) (s : Debouncer Cfg) (newCfg : ReloadEvent Cfg) : Debouncer Cfg :=
  if newCfg.useOld && s.config.isNone then s
  else if !newCfg.useOld && deepEqual eq newCfg.config s.config then s
  else
    let s := if newCfg.useOld then s else { s with config := newCfg.config }
    if s.timerSet then s else s.setTimer .reloadInterval

/-- The timer fired and `body` returned `err`. -/
def expire (s : Debouncer Cfg) (t : Timer) (err : Option String) : Debouncer Cfg :=
  let s := { s with outstanding := s.outstanding.erase t }
  if err.isSome then s.setTimer .failureRetryInterval else { s with timerSet := false }

/-- A timer that fired never fires again, and a loop that returned does nothing. -/
def step (eq : Cfg → Cfg → Bool) (s : Debouncer Cfg) (e : LoopEvent Cfg) : Option (Debouncer Cfg) :=
  if s.running then
    match e with
    | .reload newCfg => some (s.receive eq newCfg)
    | .closed | .done => some { s with running := false }
    | .timeOut err => (s.timeOut.filter (· ∈ s.outstanding)).map (fun t => s.expire t err)
  else none

end Debouncer

def debouncer (eq : Cfg → Cfg → Bool) : System (Debouncer Cfg) (LoopEvent Cfg) where
  init := {}
  step := Debouncer.step eq

end

/-! ## Who sends reload events -/

/-- `FRR.ApplyConfig`: the configuration it sends. -/
def applyConfig (osHostname : Except String String) (fallbackRouterID : String) (config : Config) :
    Except String (ReloadEvent Config) := do
  let hostname ← osHostname
  let routers := if fallbackRouterID ≠ "" then
      config.routers.map (fun r => if r.routerID = "" then { r with routerID := fallbackRouterID } else r)
    else config.routers
  return { config := some { config with hostname := hostname, routers := routers } }

/-- An event without `useOld` has a configuration: `ApplyConfig` writes to it before it sends it. -/
def LoopEvent.Sent {Cfg : Type} : LoopEvent Cfg → Prop
  | .reload newCfg => newCfg.useOld = true ∨ newCfg.config.isSome = true
  | _ => True

theorem applyConfig_sent {osHostname : Except String String} {fallbackRouterID : String} {config : Config}
    {e : ReloadEvent Config} (h : applyConfig osHostname fallbackRouterID config = .ok e) :
    (LoopEvent.reload e).Sent := by
  cases osHostname with
  | error msg => cases h
  | ok hostname =>
    obtain rfl := Except.ok.inj h
    exact .inr rfl

/-! ## What a step does -/

section

variable {Cfg : Type} {eq : Cfg → Cfg → Bool}

/-- The loop ignores the event. -/
def Debouncer.Ignores (eq : Cfg → Cfg → Bool) (s : Debouncer Cfg) (newCfg : ReloadEvent Cfg) : Prop :=
  (newCfg.useOld = true ∧ s.config = none) ∨ (newCfg.useOld = false ∧ deepEqual eq newCfg.config s.config = true)

/-- An event is accepted that asks for the configuration the loop has, or brings one that is different. -/
def Debouncer.Accepts (eq : Cfg → Cfg → Bool) (s : Debouncer Cfg) (newCfg : ReloadEvent Cfg) : Prop :=
  newCfg.useOld = true ∨ deepEqual eq newCfg.config s.config = false

theorem Debouncer.receive_ignored {s : Debouncer Cfg} {newCfg : ReloadEvent Cfg} (h : s.Ignores eq newCfg) :
    s.receive eq newCfg = s := by
  unfold receive
  obtain ⟨hold, hnone⟩ | ⟨hnew, hsame⟩ := h
  · simp [hold, hnone]
  · simp [hnew, hsame]

/-- The loop with the configuration the event brings, if it brings one. -/
def Debouncer.adopt (s : Debouncer Cfg) (newCfg : ReloadEvent Cfg) : Debouncer Cfg :=
  { s with config := if newCfg.useOld then s.config else newCfg.config }

/-- An event that is not ignored leaves a timer, and the configuration it brings. -/
theorem Debouncer.receive_taken {s : Debouncer Cfg} {newCfg : ReloadEvent Cfg} (h : ¬ s.Ignores eq newCfg) :
    s.receive eq newCfg = if s.timerSet then s.adopt newCfg else (s.adopt newCfg).setTimer .reloadInterval := by
  simp only [Ignores, not_or, not_and] at h
  unfold receive adopt
  cases hold : newCfg.useOld with
  | true => simp [Option.isNone_iff_eq_none, h.1 hold]
  | false => simp [h.2 hold]

/-- **All that a step can do.** -/
theorem Debouncer.step_cases {s s' : Debouncer Cfg} {e : LoopEvent Cfg} (h : s.step eq e = some s') :
    (∃ newCfg, e = .reload newCfg ∧ s.Ignores eq newCfg ∧ s' = s) ∨
    (∃ newCfg, e = .reload newCfg ∧ ¬ s.Ignores eq newCfg ∧
      s' = if s.timerSet then s.adopt newCfg else (s.adopt newCfg).setTimer .reloadInterval) ∨
    ((e = .closed ∨ e = .done) ∧ s' = { s with running := false }) ∨
    ∃ err t, e = .timeOut err ∧ s.timeOut = some t ∧ t ∈ s.outstanding ∧ s' = s.expire t err := by
  unfold step at h
  split at h
  · cases e with
    | reload newCfg =>
      obtain rfl := Option.some.inj h
      by_cases hig : s.Ignores eq newCfg
      · exact .inl ⟨newCfg, rfl, hig, receive_ignored hig⟩
      · exact .inr (.inl ⟨newCfg, rfl, hig, receive_taken hig⟩)
    | closed => exact .inr (.inr (.inl ⟨.inl rfl, (Option.some.inj h).symm⟩))
    | done => exact .inr (.inr (.inl ⟨.inr rfl, (Option.some.inj h).symm⟩))
    | timeOut err =>
      obtain ⟨t, ht, rfl⟩ := Option.map_eq_some_iff.1 h
      obtain ⟨ht, hmem⟩ := Option.filter_eq_some_iff.1 ht
      exact .inr (.inr (.inr ⟨err, t, rfl, ht, of_decide_eq_true hmem, rfl⟩))
  · cases h

/-! ## Runs -/

/-- The timer the loop waits for is the only one, and there is one exactly when `timerSet` is. -/
def Debouncer.Timed (s : Debouncer Cfg) : Prop :=
  (s.timerSet = true → ∃ t, s.timeOut = some t ∧ s.outstanding = [t]) ∧ (s.timerSet = false → s.outstanding = [])

/-- The configuration received last. -/
def lastReceived (past : List (Debouncer Cfg × LoopEvent Cfg)) : Option Cfg :=
  past.findSome? (fun x => match x.2 with
    | .reload newCfg => if newCfg.useOld then none else newCfg.config
    | _ => none)

/-- No call of `body` and no accepted event. -/
def Quiet (eq : Cfg → Cfg → Bool) : Debouncer Cfg × LoopEvent Cfg → Prop
  | (s, .reload newCfg) => ¬ s.Accepts eq newCfg
  | (_, .timeOut _) => False
  | _ => True

/-- The last call of `body` was for the current configuration and succeeded, and nothing was accepted since. -/
def Settled (eq : Cfg → Cfg → Bool) (past : List (Debouncer Cfg × LoopEvent Cfg)) (s : Debouncer Cfg) : Prop :=
  ∃ late called rest, past = late ++ (called, .timeOut none) :: rest ∧ called.config = s.config ∧ ∀ x ∈ late, Quiet eq x

/-- What the loop has, after what happened. -/
structure Tracked (eq : Cfg → Cfg → Bool) (past : List (Debouncer Cfg × LoopEvent Cfg)) (s : Debouncer Cfg) : Prop where
  timed : s.Timed
  fresh : lastReceived past = none → s.config = none
  current : ∀ r, lastReceived past = some r → ∃ c, s.config = some c ∧ (c = r ∨ eq r c = true)
  idle : s.config = none → s.timerSet = false
  settled : s.timerSet = false → s.config = none ∨ Settled eq past s

theorem Settled.later {past : List (Debouncer Cfg × LoopEvent Cfg)} {s s' : Debouncer Cfg} (h : Settled eq past s)
    {x : Debouncer Cfg × LoopEvent Cfg} (hx : Quiet eq x) (hc : s'.config = s.config) : Settled eq (x :: past) s' := by
  obtain ⟨late, called, rest, rfl, hcalled, hquiet⟩ := h
  exact ⟨x :: late, called, rest, rfl, hcalled.trans hc.symm, List.forall_mem_cons.2 ⟨hx, hquiet⟩⟩

theorem Debouncer.Timed.setTimer {s : Debouncer Cfg} (h : s.outstanding = []) (i : Interval) : (s.setTimer i).Timed :=
  ⟨fun _ => ⟨_, rfl, by simp [Debouncer.setTimer, h]⟩, fun hset => absurd hset (by simp [Debouncer.setTimer])⟩

section

variable {past : List (Debouncer Cfg × LoopEvent Cfg)} {s : Debouncer Cfg} {newCfg : ReloadEvent Cfg}

theorem lastReceived_useOld (h : newCfg.useOld = true) :
    lastReceived ((s, .reload newCfg) :: past) = lastReceived past := by simp [lastReceived, h]

theorem lastReceived_new (h : newCfg.useOld = false) {r : Cfg} (hr : newCfg.config = some r) :
    lastReceived ((s, .reload newCfg) :: past) = some r := by simp [lastReceived, h, hr]

/-- An event that brings a configuration the loop then has, or an equal one. -/
theorem current_new (h : newCfg.useOld = false) {r c : Cfg} (hr : newCfg.config = some r) (hc : c = r ∨ eq r c = true) :
    (lastReceived ((s, .reload newCfg) :: past) = none → some c = none) ∧
      ∀ r, lastReceived ((s, .reload newCfg) :: past) = some r → ∃ d, some c = some d ∧ (d = r ∨ eq r d = true) := by
  rw [lastReceived_new h hr]
  exact ⟨fun h => (by cases h), fun r' h' => ⟨c, rfl, Option.some.inj h' ▸ hc⟩⟩

theorem tracked_ignored (h : Tracked eq past s) (hsent : (LoopEvent.reload newCfg).Sent) (hig : s.Ignores eq newCfg) :
    Tracked eq ((s, .reload newCfg) :: past) s := by
  obtain ⟨hold, hnone⟩ | ⟨hnew, hsame⟩ := hig
  · have hlast := @lastReceived_useOld Cfg past s newCfg hold
    exact ⟨h.timed, hlast ▸ h.fresh, hlast ▸ h.current, h.idle, fun _ => .inl hnone⟩
  · obtain ⟨r, hr⟩ := Option.isSome_iff_exists.1 (hsent.resolve_left (by simp [hnew]))
    obtain ⟨c, hc, heq⟩ : ∃ c, s.config = some c ∧ eq r c = true := by
      cases hs : s.config with
      | none => simp [hr, hs, deepEqual] at hsame
      | some c => exact ⟨c, rfl, by simpa [hr, hs, deepEqual] using hsame⟩
    have hquiet : Quiet eq (s, .reload newCfg) := by simp [Quiet, Debouncer.Accepts, hnew, hsame]
    obtain ⟨hfresh, hcurrent⟩ := @current_new Cfg eq past s newCfg hnew r c hr (.inr heq)
    exact ⟨h.timed, hc ▸ hfresh, hc ▸ hcurrent, h.idle,
      fun hset => (h.settled hset).imp_right (fun hs => hs.later hquiet rfl)⟩

/-- The configuration after an event that is not ignored. -/
theorem adopt_current (h : Tracked eq past s) (hsent : (LoopEvent.reload newCfg).Sent) (hig : ¬ s.Ignores eq newCfg) :
    (s.adopt newCfg).config ≠ none ∧
      (lastReceived ((s, .reload newCfg) :: past) = none → (s.adopt newCfg).config = none) ∧
      ∀ r, lastReceived ((s, .reload newCfg) :: past) = some r →
        ∃ c, (s.adopt newCfg).config = some c ∧ (c = r ∨ eq r c = true) := by
  cases hold : newCfg.useOld with
  | true =>
    have hconfig : (s.adopt newCfg).config = s.config := by simp [Debouncer.adopt, hold]
    rw [lastReceived_useOld hold, hconfig]
    exact ⟨fun hnone => hig (.inl ⟨hold, hnone⟩), h.fresh, h.current⟩
  | false =>
    obtain ⟨r, hr⟩ := Option.isSome_iff_exists.1 (hsent.resolve_left (by simp [hold]))
    have hconfig : (s.adopt newCfg).config = some r := by simp [Debouncer.adopt, hold, hr]
    rw [hconfig]
    exact ⟨by simp, current_new hold hr (.inl rfl)⟩

theorem tracked_taken (h : Tracked eq past s) (hsent : (LoopEvent.reload newCfg).Sent) (hig : ¬ s.Ignores eq newCfg) :
    Tracked eq ((s, .reload newCfg) :: past)
      (if s.timerSet then s.adopt newCfg else (s.adopt newCfg).setTimer .reloadInterval) := by
  obtain ⟨hne, hfresh, hcurrent⟩ := adopt_current h hsent hig
  cases hset : s.timerSet with
  | true =>
    have hset' : ¬ (s.adopt newCfg).timerSet = false := by simp [Debouncer.adopt, hset]
    exact ⟨h.timed, hfresh, hcurrent, fun hnone => absurd hnone hne, fun hunset => absurd hunset hset'⟩
  | false =>
    exact ⟨.setTimer (h.timed.2 hset) _, hfresh, hcurrent, fun hnone => absurd hnone hne,
      fun hunset => absurd hunset (by simp [Debouncer.setTimer])⟩

theorem tracked_stopped (h : Tracked eq past s) {e : LoopEvent Cfg} (he : e = .closed ∨ e = .done) :
    Tracked eq ((s, e) :: past) { s with running := false } := by
  have hlast : lastReceived ((s, e) :: past) = lastReceived past := by
    obtain rfl | rfl := he
    · rfl
    · rfl
  have hquiet : Quiet eq (s, e) := by
    obtain rfl | rfl := he
    · trivial
    · trivial
  exact ⟨h.timed, hlast ▸ h.fresh, hlast ▸ h.current, h.idle,
    fun hset => (h.settled hset).imp_right (fun hs => hs.later hquiet rfl)⟩

/-- A timer that can fire is the one that is set, and was set for a configuration. -/
theorem Tracked.of_timer (h : Tracked eq past s) {t : Timer} (ht : t ∈ s.outstanding) :
    s.timerSet = true ∧ s.config ≠ none := by
  have hset : s.timerSet = true := by
    cases hset : s.timerSet with
    | true => rfl
    | false =>
      rw [h.timed.2 hset] at ht
      cases ht
  exact ⟨hset, fun hnone => absurd ((h.idle hnone).symm.trans hset) (by decide)⟩

theorem tracked_expire (h : Tracked eq past s) {t : Timer} (ht : t ∈ s.outstanding) (err : Option String) :
    Tracked eq ((s, .timeOut err) :: past) (s.expire t err) := by
  obtain ⟨hset, hne⟩ := h.of_timer ht
  have herase : s.outstanding.erase t = [] := by
    obtain ⟨t', -, hout⟩ := h.timed.1 hset
    rw [hout, List.mem_singleton] at ht
    simp [hout, ht]
  cases err with
  | some msg =>
    exact ⟨.setTimer herase _, h.fresh, h.current, fun hnone => absurd hnone hne,
      fun hunset => absurd hunset (by simp [Debouncer.expire, Debouncer.setTimer])⟩
  | none =>
    refine ⟨⟨fun hset => absurd hset (by simp [Debouncer.expire]), fun _ => herase⟩, h.fresh, h.current, fun _ => rfl,
      fun _ => .inr ⟨[], s, past, rfl, rfl, fun x hx => absurd hx List.not_mem_nil⟩⟩

end

theorem Tracked.step {past : List (Debouncer Cfg × LoopEvent Cfg)} {s s' : Debouncer Cfg} {e : LoopEvent Cfg}
    (h : Tracked eq past s) (hsent : e.Sent) (hstep : s.step eq e = some s') : Tracked eq ((s, e) :: past) s' := by
  obtain ⟨newCfg, rfl, hig, rfl⟩ | ⟨newCfg, rfl, hig, rfl⟩ | ⟨he, rfl⟩ | ⟨err, t, rfl, -, ht, rfl⟩ :=
    Debouncer.step_cases hstep
  · exact tracked_ignored h hsent hig
  · exact tracked_taken h hsent hig
  · exact tracked_stopped h he
  · exact tracked_expire h ht err

theorem tracked_run {past : List (Debouncer Cfg × LoopEvent Cfg)} {s : Debouncer Cfg} (h : Run (debouncer eq) past s)
    (hsent : ∀ x ∈ past, x.2.Sent) : Tracked eq past s := by
  refine Run.invariant (G := fun _ e => e.Sent) ⟨⟨fun h => (by cases h), fun _ => rfl⟩, fun _ => rfl,
    fun r hr => (by cases hr), fun _ => rfl, fun _ => .inl rfl⟩ (fun _ _ _ _ _ h hs hstep => h.step hs hstep) h hsent

/-- The loop is safe after what happened. -/
structure DebouncerSafe (eq : Cfg → Cfg → Bool) (past : List (Debouncer Cfg × LoopEvent Cfg)) (s : Debouncer Cfg) :
    Prop where
  /-- `body` was called with the configuration received last before, or one equal to it. -/
  called : ∀ late atCall err before, past = late ++ (atCall, .timeOut err) :: before →
    ∃ r c, lastReceived before = some r ∧ atCall.config = some c ∧ (c = r ∨ eq r c = true)
  /-- No more than one timer is outstanding, and the loop waits for it. -/
  timers : s.outstanding.length ≤ 1 ∧ ∀ t ∈ s.outstanding, s.timeOut = some t
  timerSet : s.timerSet = true ↔ s.outstanding ≠ []
  /-- Without a timer nothing is left to do. -/
  settled : s.outstanding = [] → lastReceived past = none ∨ Settled eq past s

theorem Debouncer.Timed.timerSet_iff {s : Debouncer Cfg} (h : s.Timed) : s.timerSet = true ↔ s.outstanding ≠ [] := by
  cases hset : s.timerSet with
  | true =>
    obtain ⟨t, -, hout⟩ := h.1 hset
    simp [hout]
  | false => simp [h.2 hset]

/-- **The loop loses no update and no retry.**  After every run of reload events, timers, results of `body` and the
end, in whatever order: `body` was called with the configuration received last, no more than one timer is outstanding,
and where none is, no configuration was received, or the last call succeeded for the current configuration and nothing
was accepted after it. -/
theorem debouncer_safe (eq : Cfg → Cfg → Bool) (past : List (Debouncer Cfg × LoopEvent Cfg)) (s : Debouncer Cfg)
    (h : Run (debouncer eq) past s) (hsent : ∀ x ∈ past, x.2.Sent) : DebouncerSafe eq past s := by
  have hnow := tracked_run h hsent
  have htimer : ∀ t ∈ s.outstanding, s.timeOut = some t ∧ s.outstanding = [t] := by
    intro t ht
    obtain ⟨t', hwait, hout⟩ := hnow.timed.1 (hnow.timed.timerSet_iff.2 (List.ne_nil_of_mem ht))
    rw [hout, List.mem_singleton] at ht
    exact ht ▸ ⟨hwait, hout⟩
  refine ⟨fun late atCall err before hpast => ?_, ⟨?_, fun t ht => (htimer t ht).1⟩, hnow.timed.timerSet_iff,
    fun hout => ?_⟩
  · subst hpast
    obtain ⟨hbefore, hcan⟩ := h.before
    have hthen := tracked_run hbefore (fun x hx => hsent x (by simp [hx]))
    obtain ⟨s', hstep⟩ : ∃ s', atCall.step eq (.timeOut err) = some s' := Option.isSome_iff_exists.1 hcan
    obtain ⟨_, he, -⟩ | ⟨_, he, -⟩ | ⟨he | he, -⟩ | ⟨_, t, -, -, ht, -⟩ := Debouncer.step_cases hstep
    · cases he
    · cases he
    · cases he
    · cases he
    · cases hlast : lastReceived before with
      | none => exact absurd (hthen.fresh hlast) (hthen.of_timer ht).2
      | some r =>
        obtain ⟨c, hc, heq⟩ := hthen.current r hlast
        exact ⟨r, c, rfl, hc, heq⟩
  · cases hout : s.outstanding with
    | nil => simp
    | cons t rest =>
      have := (htimer t (by simp [hout])).2
      rw [hout] at this
      simp [this]
  · have hunset : s.timerSet = false := by simpa [hout] using hnow.timed.timerSet_iff
    refine (hnow.settled hunset).imp_left (fun hnone => ?_)
    cases hlast : lastReceived past with
    | none => rfl
    | some r =>
      obtain ⟨c, hc, -⟩ := hnow.current r hlast
      exact absurd (hnone.symm.trans hc) (by simp)

end

/-- A configuration, its reload that fails, a poll that asks for it again, and the reload that succeeds. -/
def retried : List (LoopEvent Config) :=
  [.reload { config := some { hostname := "node" } }, .timeOut (some "reload failed"), .reload { useOld := true },
    .timeOut none]

theorem debouncer_safe_retried : applyConfig (.ok "node") "" {} = .ok { config := some { hostname := "node" } } ∧
    ∃ past s, (debouncer (fun a b : Config => decide (a = b))).exec retried [] {} = some (past, s) ∧
      s.outstanding = [] ∧ DebouncerSafe (fun a b => decide (a = b)) past s := by
  obtain ⟨⟨past, s⟩, hexec⟩ := Option.isSome_iff_exists.1
    (by decide +kernel : ((debouncer (fun a b : Config => decide (a = b))).exec retried [] {}).isSome = true)
  have hlast : ((debouncer (fun a b : Config => decide (a = b))).exec retried [] {}).map (fun r =>
      (r.2.outstanding, r.1.map (fun x => x.2))) = some ([], retried.reverse) := by decide +kernel
  rw [hexec, Option.map_some, Option.some.injEq, Prod.mk.injEq] at hlast
  refine ⟨rfl, past, s, hexec, hlast.1, debouncer_safe _ past s (Run.of_exec retried .start hexec) (fun x hx => ?_)⟩
  have hmem : x.2 ∈ retried.reverse := hlast.2 ▸ List.mem_map_of_mem hx
  have hall : ∀ e ∈ retried, e.Sent := by
    simp only [retried, List.forall_mem_cons]
    exact ⟨@applyConfig_sent (.ok "node") "" {} _ rfl, trivial, .inl rfl, trivial, fun e he =>
      absurd he List.not_mem_nil⟩
  exact hall x.2 (List.mem_reverse.1 hmem)

end FrrK8s
