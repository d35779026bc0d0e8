import FrrK8s.Daemon
/-!
# Recovery — from every state the daemon can get done

What holds where nothing is left to do says little about a daemon that never gets there.  Here the other half: from
every state that can be reached, whatever failed or was interrupted on the way, the steps that are due can be taken
until nothing is left to do, without a change from outside and without another failure (`Daemon.leads_clean`,
`Delivery.leads_quiescent`).  So if the configurations can be translated, the daemon can get to where FRR runs the
translation (`daemon_recovers`).
-/
namespace FrrK8s

/-! ## Steps that are due -/

/-- A run of the reloader succeeds, and the files can be read. -/
def ReloadStep.works : ReloadStep → Bool
  | .start r => r.result = .applied
  | .readError => false
  | .write | .readStatus | .readLastError | .readRunningConfig | .update => true

/-- Nothing comes from outside, and `body` does not fail. -/
def DeliveryStep.works : DeliveryStep → Bool
  | .loop _ | .fail _ => false
  | .reload e => e.works
  | .fire | .empty | .write _ | .written | .signal | .trap | .test | .apply => true

/-- Nothing changes, and every call is answered. -/
def WatchStep.works : WatchStep → Bool
  | .change _ => false
  | .notify _ | .begin _ => true
  | .list answer => answer.isOk
  | .getLogLevel (.error err) | .getNode (.error err) => err.notFound
  | .getLogLevel (.ok _) | .getNode (.ok _) => true
  | .getSecrets answer => answer.isOk
  | .finish osHostname => osHostname.isOk

def DaemonStep.works : DaemonStep → Bool
  | .watch e => e.works
  | .delivery e => e.works

theorem Debouncer.running_of_step {Cfg : Type} {eq : Cfg → Cfg → Bool} {s s' : Debouncer Cfg} {e : LoopEvent Cfg}
    (h : s.step eq e = some s') (hopen : e ≠ .closed ∧ e ≠ .done) : s'.running = s.running := by
  obtain ⟨newCfg, -, -, rfl⟩ | ⟨newCfg, -, -, rfl⟩ | ⟨hclosed, -⟩ | h := Debouncer.step_cases h
  · rfl
  · split <;> rfl
  · exact (hclosed.elim hopen.1 hopen.2).elim
  · obtain ⟨err, t, -, -, -, rfl⟩ := h
    unfold Debouncer.expire
    split <;> rfl

namespace Delivery

variable {eq : Config → Config → Bool} {conf : String} {s s' t : Delivery}

/-- A state of a run in which ticks and runs of the reloader did not disturb one another; the loop has not ended. -/
structure Reached (eq : Config → Config → Bool) (conf : String) (s : Delivery) : Prop where
  run : ∃ past, Run (delivery eq conf) past s ∧ (∀ x ∈ past, x.2.Sent) ∧ ∀ x ∈ past, x.2.Undisturbed x.1
  running : s.loop.running = true

/-- A step that is due. -/
def Smooth (s : Delivery) (e : DeliveryStep) : Prop := e.works = true ∧ e.Undisturbed s

theorem Reached.step (h : Reached eq conf s) {e : DeliveryStep} (hsmooth : s.Smooth e) (hstep : s.step eq e = some s') :
    Reached eq conf s' := by
  obtain ⟨past, hrun, hsent, hwhen⟩ := h.run
  refine ⟨⟨(s, e) :: past, hrun.next hstep, List.forall_mem_cons.2 ⟨?_, hsent⟩,
    List.forall_mem_cons.2 ⟨hsmooth.2, hwhen⟩⟩, ?_⟩
  · cases e with
    | loop e => cases hsmooth.1
    | fire | empty | write | written | signal | fail | trap | reload | test | apply => trivial
  · cases does_of_step hstep with
    | loop | fail => cases hsmooth.1
    | signal loop _ hloop => exact (Debouncer.running_of_step hloop (by decide)).trans h.running
    | retry status loop _ _ _ hloop => exact (Debouncer.running_of_step hloop (by decide)).trans h.running
    | fire | empty | write | written | trap | start | writeFile | read | take | test | apply => exact h.running

theorem Reached.leads (h : Reached eq conf s) (hl : Leads (delivery eq conf) Smooth s t) : Reached eq conf t := by
  induction hl with
  | here => exact h
  | next hsmooth hstep _ ih => exact ih (h.step hsmooth hstep)

theorem Reached.inv (h : Reached eq conf s) : s.Inv := by
  obtain ⟨past, hrun, hsent, -⟩ := h.run
  exact inv_run hrun hsent

theorem Reached.timed (h : Reached eq conf s) : s.loop.Timed ∧ (s.loop.timerSet = true → s.loop.config ≠ none) := by
  obtain ⟨past, hrun, hsent, -⟩ := h.run
  have htracked := tracked hrun hsent
  refine ⟨htracked.timed, fun hset hnone => ?_⟩
  rw [htracked.idle hnone] at hset
  cases hset

/-- The timer can fire, and `body` return. -/
theorem Reached.timeOut (h : Reached eq conf s) (hset : s.loop.timerSet = true) :
    ∃ loop, s.loop.step eq (.timeOut none) = some loop ∧ loop.outstanding = [] := by
  obtain ⟨timer, htimer, hout⟩ := h.timed.1.1 hset
  refine ⟨s.loop.expire timer none, ?_, ?_⟩
  · simp [Debouncer.step, h.running, htimer, hout]
  · simp [Debouncer.expire, hout]

/-! ## The file is written -/

theorem leads_signalled (h : Reached eq conf s) (hbody : s.body = .signalling) :
    ∃ loop, loop.outstanding = [] ∧
      Leads (delivery eq conf) Smooth s { s with loop := loop, body := .idle, hup := true } := by
  obtain ⟨loop, hloop, hout⟩ := h.timeOut (h.inv.busy (by rw [hbody]; decide))
  have hstep : s.step eq .signal = some { s with loop := loop, body := .idle, hup := true } := by
    simp [step, hbody, hloop]
  have hsmooth : s.Smooth .signal := ⟨rfl, trivial⟩
  exact ⟨loop, hout, .single hsmooth hstep⟩

theorem leads_written (h : Reached eq conf s) {text : String} (hbody : s.body = .writing text) :
    ∃ loop, loop.outstanding = [] ∧
      Leads (delivery eq conf) Smooth s { s with loop := loop, body := .idle, conf := text, hup := true } := by
  have hstep : s.step eq .written = some { s with conf := text, body := .signalling } := by simp [step, hbody]
  have hsmooth : s.Smooth .written := ⟨rfl, trivial⟩
  obtain ⟨loop, hout, hleads⟩ := leads_signalled (h.step hsmooth hstep) rfl
  exact ⟨loop, hout, .next hsmooth hstep hleads⟩

theorem leads_opened (h : Reached eq conf s) {text : String} (hbody : s.body = .opening text) :
    ∃ loop, loop.outstanding = [] ∧
      Leads (delivery eq conf) Smooth s { s with loop := loop, body := .idle, conf := text, hup := true } := by
  have hstep : s.step eq .empty = some { s with conf := "", body := .writing text } := by simp [step, hbody]
  have hsmooth : s.Smooth .empty := ⟨rfl, trivial⟩
  obtain ⟨loop, hout, hleads⟩ := leads_written (h.step hsmooth hstep) rfl
  exact ⟨loop, hout, .next hsmooth hstep hleads⟩

/-- The timer fires, and the file is written and signalled. -/
theorem leads_fired (h : Reached eq conf s) (hidle : s.body = .idle) (hset : s.loop.timerSet = true) :
    ∃ loop text, loop.outstanding = [] ∧
      Leads (delivery eq conf) Smooth s { s with loop := loop, body := .idle, conf := text, hup := true } := by
  obtain ⟨loop, hloop, -⟩ := h.timeOut hset
  obtain ⟨config, hconfig⟩ := Option.ne_none_iff_exists'.1 (h.timed.2 hset)
  have hstep : s.step eq .fire = some { s with body := .opening (templateConfig config) } := by
    simp [step, hidle, hloop, hconfig]
  have hsmooth : s.Smooth .fire := ⟨rfl, trivial⟩
  obtain ⟨loop, hout, hleads⟩ := leads_opened (h.step hsmooth hstep) rfl
  exact ⟨loop, _, hout, .next hsmooth hstep hleads⟩

/-- A call of `body` can be completed. -/
theorem leads_idle (h : Reached eq conf s) : ∃ t, Leads (delivery eq conf) Smooth s t ∧ t.body = .idle := by
  cases hbody : s.body with
  | idle => exact ⟨s, .here, hbody⟩
  | opening text =>
    obtain ⟨loop, -, hleads⟩ := leads_opened h hbody
    exact ⟨_, hleads, rfl⟩
  | writing text =>
    obtain ⟨loop, -, hleads⟩ := leads_written h hbody
    exact ⟨_, hleads, rfl⟩
  | signalling =>
    obtain ⟨loop, -, hleads⟩ := leads_signalled h hbody
    exact ⟨_, hleads, rfl⟩

/-! ## A tick -/

/-- The end of a tick, which sends an event to the loop where the status is new and tells a failure. -/
theorem leads_updated (h : Reached eq conf s) (hidle : s.body = .idle) {status : Status}
    (hpoll : s.reload.poll = .fetched status) :
    ∃ loop, (loop = s.loop ∨ (status.lastReloadResult ≠ reloadSuccess ∧ loop = s.loop.receive eq { useOld := true })) ∧
      Leads (delivery eq conf) Smooth s { s with loop := loop, reload := s.reload.take status } := by
  have hsmooth : s.Smooth (.reload .update) := ⟨rfl, trivial⟩
  by_cases hquiet : status.updateTime = s.reload.status.updateTime ∨ status.lastReloadResult = reloadSuccess
  · have hstep : s.step eq (.reload .update) = some { s with reload := s.reload.take status } := by
      simp only [step, update, hpoll, if_pos hquiet]
    exact ⟨s.loop, .inl rfl, .single hsmooth hstep⟩
  · have hstep : s.step eq (.reload .update) =
        some { s with loop := s.loop.receive eq { useOld := true }, reload := s.reload.take status } := by
      simp only [step, update, hpoll, if_neg hquiet, if_pos hidle, Debouncer.step, h.running, if_true, Option.map_some]
    exact ⟨_, .inr ⟨fun hsuccess => hquiet (.inr hsuccess), rfl⟩, .single hsmooth hstep⟩

theorem leads_fetched {timeStamp result : String} (hpoll : s.reload.poll = .readLastError timeStamp result) :
    Leads (delivery eq conf) Smooth s { s with reload := { s.reload with
      poll :=
        .fetched { updateTime := timeStamp, lastReloadResult := result,
                   current := s.reload.files.runningConfig.getD "" } } } := by
  have hsmooth : s.Smooth (.reload .readRunningConfig) := ⟨rfl, trivial⟩
  refine .single hsmooth ?_
  simp only [delivery, step, ReloadState.step, hpoll, Option.map_some]

theorem leads_read {timeStamp status : String} (hpoll : s.reload.poll = .readStatus timeStamp status) :
    Leads (delivery eq conf) Smooth s { s with reload := { s.reload with
      poll := .fetched {
        updateTime := timeStamp
        lastReloadResult := lastReloadResult s.reload.files status
        current := s.reload.files.runningConfig.getD "" } } } := by
  have hstep : s.step eq (.reload .readLastError) = some { s with reload := { s.reload with
      poll := .readLastError timeStamp (lastReloadResult s.reload.files status) } } := by
    simp only [step, ReloadState.step, hpoll, Option.map_some]
  have hsmooth : s.Smooth (.reload .readLastError) := ⟨rfl, trivial⟩
  exact .next hsmooth hstep (leads_fetched rfl)

/-- A tick can be completed. -/
theorem leads_unpolled (h : Reached eq conf s) (hidle : s.body = .idle) :
    ∃ t, Leads (delivery eq conf) Smooth s t ∧ t.body = .idle ∧ t.reload.poll = .idle := by
  have htake : ∀ (r : ReloadState) (status : Status), (r.take status).poll = .idle := by
    intro r status
    unfold ReloadState.take
    split <;> rfl
  have hupdate : ∀ {s : Delivery} {status : Status}, Reached eq conf s → s.body = .idle →
    s.reload.poll = .fetched status →
      ∃ t, Leads (delivery eq conf) Smooth s t ∧ t.body = .idle ∧ t.reload.poll = .idle := by
    intro s status h hidle hpoll
    obtain ⟨loop, -, hleads⟩ := leads_updated h hidle hpoll
    exact ⟨_, hleads, hidle, htake _ _⟩
  cases hpoll : s.reload.poll with
  | idle => exact ⟨s, .here, hidle, hpoll⟩
  | fetched status => exact hupdate h hidle hpoll
  | readLastError timeStamp result =>
    have hfetch : Leads (delivery eq conf) Smooth s _ := leads_fetched hpoll
    obtain ⟨t, hleads, ht⟩ := hupdate (h.leads hfetch) hidle rfl
    exact ⟨t, hfetch.trans hleads, ht⟩
  | readStatus timeStamp status =>
    have hfetch : Leads (delivery eq conf) Smooth s _ := leads_read hpoll
    obtain ⟨t, hleads, ht⟩ := hupdate (h.leads hfetch) hidle rfl
    exact ⟨t, hfetch.trans hleads, ht⟩

end Delivery

/-! ## What is left to do -/

/-- The calls that a run has still to make. -/
def Loading.calls (l : Loading) : Nat := (if l.tested = none then 1 else 0) + (if l.applied = none then 1 else 0)

/-- A run that has ended can be read. -/
theorem Loading.At.readable {l : Loading} {r : ReloadState} {done : List FileWrite} {before : Files}
    (h : l.At r done before) (hnil : r.remaining = []) :
    ∃ result, readLastReloadResult r.files = .ok (toString l.run.seconds, result) := by
  have hfiles : r.files = (reloadFrr l.run).foldl Files.write before := by
    rw [h.files, h.script, hnil, List.append_nil]
  exact ⟨_, readLastReloadResult_statusText (hfiles ▸ (reloadFrr_leaves l.run before).1)⟩

namespace Delivery

variable {eq : Config → Config → Bool} {conf : String} {s : Delivery}

/-- The daemon has seen how the last run ended. -/
def Seen (s : Delivery) : Prop := ∀ l, s.loading = some l → s.reload.status.updateTime = toString l.run.seconds

/-- What the last run and the tick after it have still to do; a failure will be answered by another reload. -/
def unread (s : Delivery) : Nat :=
  match s.loading with
  | none => 0
  | some l =>
    l.calls +
      if s.reload.remaining = [] ∧ s.reload.status.updateTime = toString l.run.seconds then 0
      else if l.run.result = .applied then 1 else 31

/-- A bound on the steps that are due: a timer leads to a signal, a signal to a run that succeeds. -/
def work (s : Delivery) : Nat :=
  30 * s.loop.outstanding.length + (if s.hup = true then 29 else 0) + 28 * s.waiting +
  3 * s.reload.remaining.length + s.unread

/-- Between calls of `body` and between ticks. -/
structure Resting (eq : Config → Config → Bool) (conf : String) (s : Delivery) : Prop where
  reached : Reached eq conf s
  idle : s.body = .idle
  unpolled : s.reload.poll = .idle

theorem work_fired (h : Resting eq conf s) (hout : s.loop.outstanding ≠ []) :
    ∃ t, Leads (delivery eq conf) Smooth s t ∧ Resting eq conf t ∧ t.work < s.work := by
  obtain ⟨loop, text, hnil, hleads⟩ := leads_fired h.reached h.idle (h.reached.timed.1.timerSet_iff.2 hout)
  refine ⟨_, hleads, ⟨h.reached.leads hleads, rfl, h.unpolled⟩, ?_⟩
  have hpos : 0 < s.loop.outstanding.length := List.length_pos_iff.2 hout
  simp only [work, unread, hnil, List.length_nil, if_true]
  omega

theorem work_trapped (h : Resting eq conf s) (hhup : s.hup = true) :
    ∃ t, Leads (delivery eq conf) Smooth s t ∧ Resting eq conf t ∧ t.work < s.work := by
  have hstep : s.step eq .trap = some { s with hup := false, waiting := s.waiting + 1 } := by simp [step, hhup]
  have hsmooth : s.Smooth .trap := ⟨rfl, trivial⟩
  refine ⟨_, .single hsmooth hstep, ⟨h.reached.step hsmooth hstep, h.idle, h.unpolled⟩, ?_⟩
  simp only [work, unread, hhup, if_true, Bool.false_eq_true, if_false]
  omega

/-- A run that waits starts, and is one that succeeds. -/
theorem work_started (h : Resting eq conf s) (hnil : s.reload.remaining = []) (hwaiting : 0 < s.waiting) :
    ∃ t, Leads (delivery eq conf) Smooth s t ∧ Resting eq conf t ∧ t.work < s.work := by
  let r : ReloadRun := { result := .applied, seconds := s.reload.last.getD 0 + 1 }
  have hlater : ∀ t ∈ s.reload.last, t < r.seconds := by
    intro t ht
    rw [Option.mem_def] at ht
    simp [r, ht]
  have hstep : s.step eq (.reload (.start r)) = some { s with
      reload := { s.reload with remaining := reloadFrr r, last := some r.seconds }
      waiting := s.waiting - 1
      loading := some { run := r } } := by
    have hstart : s.reload.remaining = [] ∧ ∀ t ∈ s.reload.last, t ≤ r.seconds := ⟨hnil, fun t ht => (hlater t ht).le⟩
    simp only [step, ReloadState.step, if_pos hwaiting, if_pos hstart, Option.map_some]
  have hsmooth : s.Smooth (.reload (.start r)) := by
    refine ⟨rfl, ⟨hlater, ?_⟩, (by decide : "" ≠ reloadSuccess)⟩
    rw [h.unpolled]
    rfl
  refine ⟨_, .single hsmooth hstep, ⟨h.reached.step hsmooth hstep, h.idle, h.unpolled⟩, ?_⟩
  have hlength : (reloadFrr r).length = 8 := rfl
  have hnew : unread { s with
      reload := { s.reload with remaining := reloadFrr r, last := some r.seconds }
      waiting := s.waiting - 1
      loading := some { run := r } } = 3 := rfl
  simp only [work, hnew, hlength, hnil, List.length_nil]
  omega

/-- A write leaves what the run has called, and what a tick will have to do. -/
theorem unread_written {w : FileWrite} {ws : List FileWrite} (hremaining : s.reload.remaining = w :: ws) :
    unread { s with reload := { s.reload with files := s.reload.files.write w, remaining := ws } } ≤ s.unread := by
  have hne : s.reload.remaining ≠ [] := hremaining ▸ List.cons_ne_nil w ws
  unfold unread
  cases s.loading with
  | none => exact Nat.le_refl _
  | some l =>
    simp only [hne, false_and, if_false]
    refine Nat.add_le_add_left ?_ _
    split
    · exact Nat.zero_le _
    · exact Nat.le_refl _

/-- The run in progress goes on: it calls what it is to call next, or writes. -/
theorem work_loaded (h : Resting eq conf s) (hne : s.reload.remaining ≠ []) :
    ∃ t, Leads (delivery eq conf) Smooth s t ∧ Resting eq conf t ∧ t.work < s.work := by
  obtain ⟨w, ws, hremaining⟩ := List.exists_cons_of_ne_nil hne
  by_cases hmay : s.loading.all (fun l => l.mayWrite s.reload.remaining) = true
  · have hstep : s.step eq (.reload .write) =
        some { s with reload := { s.reload with files := s.reload.files.write w, remaining := ws } } := by
      rw [hremaining] at hmay
      simp only [step, ReloadState.step, hremaining, Option.map_some, hmay, if_true]
    have hsmooth : s.Smooth (.reload .write) := ⟨rfl, trivial⟩
    refine ⟨_, .single hsmooth hstep, ⟨h.reached.step hsmooth hstep, h.idle, h.unpolled⟩, ?_⟩
    have hunread := unread_written hremaining
    unfold work
    rw [hremaining, List.length_cons]
    dsimp only at hunread ⊢
    omega
  · obtain ⟨l, hl, hmay⟩ : ∃ l, s.loading = some l ∧ l.mayWrite s.reload.remaining = false := by
      cases hl : s.loading with
      | none => simp [hl] at hmay
      | some l => exact ⟨l, rfl, by simpa [hl] using hmay⟩
    simp only [Loading.mayWrite, Bool.and_eq_false_iff, Bool.or_eq_false_iff, decide_eq_false_iff_not, not_not, ne_eq,
      Option.isSome_eq_false_iff, Option.isNone_iff_eq_none] at hmay
    obtain ⟨hone, htested⟩ | ⟨⟨htwo, hresult⟩, happlied⟩ := hmay
    · have hstep : s.step eq .test = some { s with loading := some { l with tested := some s.conf } } := by
        simp only [step, hl, htested, hone, and_self, if_true]
      have hsmooth : s.Smooth .test := ⟨rfl, trivial⟩
      refine ⟨_, .single hsmooth hstep, ⟨h.reached.step hsmooth hstep, h.idle, h.unpolled⟩, ?_⟩
      simp [work, unread, Loading.calls, hl, htested, hne]
    · have hstep : s.step eq .apply = some { s with
          loading := some { l with applied := some s.conf }
          frr := if l.run.result = .applied then .runs s.conf else .unknown } := by
        simp only [step, hl, happlied, htwo, ne_eq, hresult, not_false_eq_true, and_self, if_true]
      have hsmooth : s.Smooth .apply := ⟨rfl, trivial⟩
      refine ⟨_, .single hsmooth hstep, ⟨h.reached.step hsmooth hstep, h.idle, h.unpolled⟩, ?_⟩
      simp [work, unread, Loading.calls, hl, happlied, hne]

/-- A timer that is set on a loop without one is the only one. -/
theorem outstanding_receive {loop : Debouncer Config} (hout : loop.outstanding = []) :
    (loop.receive eq { useOld := true }).outstanding.length ≤ 1 := by
  unfold Debouncer.receive
  split
  · simp [hout]
  · simp only [Bool.not_true, Bool.false_and, Bool.false_eq_true, if_false, if_true]
    split
    · simp [hout]
    · simp [Debouncer.setTimer, hout]

/-- A tick reads how the run has ended, and a failure is answered. -/
theorem leads_ticked (h : Resting eq conf s) (hnil : s.reload.remaining = []) {l : Loading} (hl : s.loading = some l)
    (htime : s.reload.status.updateTime ≠ toString l.run.seconds) :
    ∃ loop reload, Leads (delivery eq conf) Smooth s { s with loop := loop, reload := reload } ∧
      reload.poll = .idle ∧ reload.remaining = [] ∧ reload.status.updateTime = toString l.run.seconds ∧
      (loop = s.loop ∨ (l.run.result ≠ .applied ∧ loop = s.loop.receive eq { useOld := true })) := by
  obtain ⟨done, before, hat⟩ := h.reached.inv.loading l hl
  obtain ⟨result, hread⟩ := hat.readable hnil
  have hstep : s.step eq (.reload .readStatus) =
      some { s with reload := { s.reload with poll := .readStatus (toString l.run.seconds) result } } := by
    simp only [step, ReloadState.step, h.unpolled, hread, Option.map_some]
  have hsmooth : s.Smooth (.reload .readStatus) := ⟨rfl, .inl hnil⟩
  have hfetched : Leads (delivery eq conf) Smooth s _ := .next hsmooth hstep (leads_read rfl)
  obtain ⟨loop, hloop, hupdate⟩ := leads_updated (h.reached.leads hfetched) h.idle rfl
  refine ⟨loop, _, hfetched.trans hupdate, ?_⟩
  rw [ReloadState.take, if_neg (Ne.symm htime)]
  refine ⟨rfl, hnil, rfl, hloop.imp_right (fun hfailed => ⟨fun happlied => hfailed.1 ?_, hfailed.2⟩)⟩
  have hfetch := (hat.fetched hnil (by rw [fetchStatus, hread])).2.2
  rwa [if_pos happlied] at hfetch

theorem work_ticked (h : Resting eq conf s) (hq : s.Quiescent) (hunseen : ¬ s.Seen) :
    ∃ t, Leads (delivery eq conf) Smooth s t ∧ Resting eq conf t ∧ t.work < s.work := by
  obtain ⟨hout, -, -, -, hnil⟩ := hq
  obtain ⟨l, hl, htime⟩ : ∃ l, s.loading = some l ∧ s.reload.status.updateTime ≠ toString l.run.seconds := by
    unfold Seen at hunseen
    push Not at hunseen
    exact hunseen
  obtain ⟨loop, reload, hleads, hpoll, hremaining, hstatus, hloop⟩ := leads_ticked h hnil hl htime
  refine ⟨_, hleads, ⟨h.reached.leads hleads, h.idle, hpoll⟩, ?_⟩
  have hbefore : s.unread = l.calls + if l.run.result = .applied then 1 else 31 := by
    simp only [unread, hl, htime, and_false, if_false]
  have hafter : unread { s with loop := loop, reload := reload } = l.calls := by
    simp only [unread, hl, hremaining, hstatus, and_self, if_true, Nat.add_zero]
  have hmore : 30 * loop.outstanding.length < if l.run.result = .applied then 1 else 31 := by
    obtain rfl | ⟨hfailed, rfl⟩ := hloop
    · rw [hout]
      split <;> decide
    · have hle : (s.loop.receive eq { useOld := true }).outstanding.length ≤ 1 := outstanding_receive hout
      rw [if_neg hfailed]
      omega
  simp only [work, hafter, hbefore, hout, hnil, hremaining, List.length_nil]
  omega

/-- **The loop, the reloader and the ticks can get done**: the file is written, the reloader has read it, and the
daemon has seen how that ended. -/
theorem leads_quiescent (h : Reached eq conf s) :
    ∃ t, Leads (delivery eq conf) Smooth s t ∧ Resting eq conf t ∧ t.Quiescent ∧ t.Seen := by
  obtain ⟨s₁, h₁, hidle₁⟩ := leads_idle h
  obtain ⟨s₂, h₂, hidle₂, hunpolled₂⟩ := leads_unpolled (h.leads h₁) hidle₁
  have hless : ∀ s, Resting eq conf s → ¬ (s.Quiescent ∧ s.Seen) →
      ∃ t, Leads (delivery eq conf) Smooth s t ∧ Resting eq conf t ∧ t.work < s.work := by
    intro s h hbusy
    by_cases hout : s.loop.outstanding = []
    case neg => exact work_fired h hout
    by_cases hhup : s.hup = true
    case pos => exact work_trapped h hhup
    by_cases hnil : s.reload.remaining = []
    case neg => exact work_loaded h hnil
    obtain hwaiting | hwaiting := Nat.eq_zero_or_pos s.waiting
    case inr => exact work_started h hnil hwaiting
    have hq : s.Quiescent := ⟨hout, h.idle, Bool.not_eq_true _ ▸ hhup, hwaiting, hnil⟩
    exact work_ticked h hq (fun hseen => hbusy ⟨hq, hseen⟩)
  obtain ⟨t, hleads, ht⟩ := Leads.of_measure work hless s₂ ⟨(h.leads h₁).leads h₂, hidle₂, hunpolled₂⟩
  exact ⟨t, (h₁.trans h₂).trans hleads, ht⟩

/-- Where the daemon has seen how the last run ended, the files have the status it has. -/
theorem Seen.fetched (hseen : s.Seen) (h : Reached eq conf s) (hq : s.Quiescent) {l : Loading}
    (hl : s.loading = some l) :
    ∃ now, fetchStatus s.reload.files = .ok now ∧ now.updateTime = s.reload.status.updateTime := by
  obtain ⟨done, before, hat⟩ := h.inv.loading l hl
  obtain ⟨result, hread⟩ := hat.readable hq.2.2.2.2
  exact ⟨_, by rw [fetchStatus, hread], (hseen l hl).symm⟩

end Delivery

/-! ## A run of the controller -/

/-- What a run is answered at a call. -/
def Calls.step (calls : Calls) : Call → WatchStep
  | .list => .list calls.configs
  | .getLogLevel => .getLogLevel calls.logLevel
  | .getNode => .getNode calls.nodeLabels
  | .getSecrets => .getSecrets calls.secrets
  | .finish => .finish calls.osHostname

namespace Attempt

variable {env : WatchSettings} {objects : List Object} {calls : Calls} {a : Attempt}

/-- What a run has got when it is answered. -/
def answer (calls : Calls) (a : Attempt) : Call → Attempt
  | .list => { a with configs := some calls.configs }
  | .getLogLevel => { a with logLevel := some calls.logLevel }
  | .getNode => { a with nodeLabels := some calls.nodeLabels }
  | .getSecrets => { a with secrets := some calls.secrets }
  | .finish => a

/-- What a run has not asked for. -/
def missing (a : Attempt) : Nat :=
  (if a.configs.isNone then 1 else 0) + (if a.logLevel.isNone then 1 else 0) + (if a.nodeLabels.isNone then 1 else 0) +
    if a.secrets.isNone then 1 else 0

/-- Every answer so far is the one of `calls`. -/
structure Truthful (calls : Calls) (a : Attempt) : Prop where
  list : ∀ r, a.configs = some r → r = calls.configs
  logLevel : ∀ r, a.logLevel = some r → r = calls.logLevel
  node : ∀ r, a.nodeLabels = some r → r = calls.nodeLabels
  secrets : ∀ r, a.secrets = some r → r = calls.secrets

theorem Truthful.fresh (calls : Calls) : Truthful calls {} where
  list _ h := by cases h
  logLevel _ h := by cases h
  node _ h := by cases h
  secrets _ h := by cases h

theorem Truthful.answer (h : a.Truthful calls) (c : Call) : (a.answer calls c).Truthful calls := by
  cases c with
  | list => exact ⟨fun r hr => (Option.some.inj hr).symm, h.logLevel, h.node, h.secrets⟩
  | getLogLevel => exact ⟨h.list, fun r hr => (Option.some.inj hr).symm, h.node, h.secrets⟩
  | getNode => exact ⟨h.list, h.logLevel, fun r hr => (Option.some.inj hr).symm, h.secrets⟩
  | getSecrets => exact ⟨h.list, h.logLevel, h.node, fun r hr => (Option.some.inj hr).symm⟩
  | finish => exact h

/-- A run asks for what it has not got. -/
theorem missing_answer {env : ReconcilerSettings} (hnext : a.next env ≠ .finish) :
    (a.answer calls (a.next env)).missing < a.missing := by
  unfold next at hnext ⊢
  split
  · rename_i hc
    simp [Attempt.answer, missing, hc]
  · rename_i hc
    simp [hc] at hnext
  rename_i configs hc
  simp only [hc] at hnext
  split
  · rename_i hl
    simp [Attempt.answer, missing, hl]
  rename_i logLevel hl
  simp only [hl] at hnext
  split
  · rename_i hends
    exact (hnext (if_pos hends)).elim
  rename_i hends
  rw [if_neg hends] at hnext
  split
  · rename_i hn
    simp [Attempt.answer, missing, hn]
  · rename_i hn
    simp [hn] at hnext
  rename_i labels hn
  simp only [hn] at hnext
  split
  · rename_i hends
    exact (hnext (if_pos hends)).elim
  · rename_i hends
    have hs : a.secrets = none := by simpa using fun h => hends (Or.inr h)
    simp [Attempt.answer, missing, hs]

/-- A run that asks for what it is to ask for, and is told what is there, ends as a run over it. -/
theorem Truthful.outcome (h : a.Truthful calls) (hnext : a.next env.env = .finish) {c : Config}
    (hc : TranslationOf env.env calls c) {host : String} (hhost : calls.osHostname = .ok host) {m : Metrics} :
    reconcileOutcome env.env m (a.calls (.ok host)) = reconcileOutcome env.env m calls := by
  obtain ⟨configs, logLevel, cfgs, found, config, hconfigs, hlevel, hinput, -, -⟩ := hc
  have hlist : a.configs = some (.ok configs) := by
    cases hr : a.configs with
    | none => simp [next, hr] at hnext
    | some r => rw [h.list r hr, hconfigs]
  have hanswer : a.logLevel = some calls.logLevel := by
    cases hr : a.logLevel with
    | none => simp [next, hlist, hr] at hnext
    | some r => rw [h.logLevel r hr]
  have hknown : (getLogLevel calls.logLevel env.env.defaultLogLevel).isOk = true := by
    rw [hlevel]
    rfl
  refine reconcileOutcome_congr (by rw [Attempt.calls, hlist]; rfl) hconfigs
    (by rw [Attempt.calls, hanswer]; rfl) hhost.symm (fun hne => ?_)
  obtain ⟨hnil, -, -⟩ | ⟨labels, hlabels, hcfgs, hfound⟩ := hinput
  · exact (hne hnil).elim
  have hnode : a.nodeLabels = some (.ok labels) := by
    cases hr : a.nodeLabels with
    | none => simp [next, hlist, hanswer, hknown, hne, hr] at hnext
    | some r => rw [h.node r hr, hlabels]
  have hvalid : (configsForNode env.env.lib configs labels).isOk = true := by
    rw [hcfgs]
    rfl
  obtain ⟨answer, hsecrets⟩ := Option.isSome_iff_exists.1
    (secrets_of_finish hlist hanswer hnode hknown hne hvalid hnext)
  refine ⟨by rw [Attempt.calls, hnode, hlabels]; rfl, ?_⟩
  rw [Attempt.calls, hsecrets, Option.getD_some, h.secrets answer hsecrets]

end Attempt

/-- A run that is answered and has a translation ends without an error. -/
theorem TranslationOf.err_none {env : ReconcilerSettings} {m : Metrics} {calls : Calls} {c : Config}
    (h : TranslationOf env calls c) {host : String} (hhost : calls.osHostname = .ok host) :
    (reconcileOutcome env m calls).err = none := by
  have happlied : ∀ m' done logLevel config,
      (applyOutcome m' done (handOver env calls logLevel config)).err = none := by
    intro m' done logLevel config
    rw [handOver, hhost]
    rfl
  obtain ⟨configs, logLevel, cfgs, found, config, hconfigs, hlevel, hinput, hconfig, -⟩ := h
  unfold reconcileOutcome
  simp only [hconfigs, hlevel]
  split
  · rw [reconcileEmpty, apiToFRR_empty]
    exact happlied _ _ _ _
  · rename_i hlisted
    obtain ⟨rfl, -, -⟩ | ⟨labels, hlabels, hcfgs, hfound⟩ := hinput
    · exact (hlisted rfl).elim
    · simp only [reconcileListed, hlabels, hcfgs, hfound, hconfig]
      exact happlied _ _ _ _

/-- The answers of the objects, as they are listed. -/
def clusterAnswers (env : WatchSettings) (objects : List Object) : Calls :=
  clusterCalls env objects (listConfigs objects) (listSecrets env.ns objects)

namespace Watch

variable {env : WatchSettings} {w : Watch} {r : Request} {a : Attempt}

theorem works_answer (objects : List Object) (c : Call) : ((clusterAnswers env objects).step c).works = true := by
  cases c with
  | list | getSecrets | finish => rfl
  | getLogLevel =>
    simp only [Calls.step, clusterAnswers, clusterCalls]
    cases getK8sConfig env.ns objects <;> rfl
  | getNode =>
    simp only [Calls.step, clusterAnswers, clusterCalls]
    cases getNode env.nodeName objects <;> rfl

/-- The run in progress can be answered. -/
theorem step_answer (hrunning : w.running = some (r, a)) (hnext : a.next env.env ≠ .finish) :
    w.step env ((clusterAnswers env w.objects).step (a.next env.env)) =
      some { w with running := some (r, a.answer (clusterAnswers env w.objects) (a.next env.env)) } := by
  cases hc : a.next env.env with
  | finish => exact (hnext hc).elim
  | list => simp [Calls.step, step, call, hrunning, hc, clusterAnswers, clusterCalls, answersList, Attempt.answer]
  | getSecrets =>
    simp [Calls.step, step, call, hrunning, hc, clusterAnswers, clusterCalls, answersSecrets, Attempt.answer]
  | getLogLevel =>
    have hanswers : answersLogLevel env.ns w.objects (clusterAnswers env w.objects).logLevel = true := by
      cases hget : getK8sConfig env.ns w.objects <;> simp [clusterAnswers, clusterCalls, hget, answersLogLevel]
    simp [Calls.step, step, call, hrunning, hc, hanswers, Attempt.answer]
  | getNode =>
    have hanswers : answersNode env.nodeName w.objects (clusterAnswers env w.objects).nodeLabels = true := by
      cases hget : getNode env.nodeName w.objects <;> simp [clusterAnswers, clusterCalls, hget, answersNode]
    simp [Calls.step, step, call, hrunning, hc, hanswers, Attempt.answer]

/-- A step of a run before its end that is due. -/
def Answers (_ : Watch) (e : WatchStep) : Prop := e.works = true ∧ ∀ osHostname, e ≠ .finish osHostname

/-- **The run in progress can get to its end**; one that was told what is there still was. -/
theorem leads_answered (env : WatchSettings) (hrunning : w.running = some (r, a)) :
    ∃ a', Leads (watch env) Answers w { w with running := some (r, a') } ∧ a'.next env.env = .finish ∧
      (a.Truthful (clusterAnswers env w.objects) → a'.Truthful (clusterAnswers env w.objects)) := by
  let P (w' : Watch) := ∃ a', w' = { w with running := some (r, a') } ∧
    (a.Truthful (clusterAnswers env w.objects) → a'.Truthful (clusterAnswers env w.objects))
  let Goal (w' : Watch) := ∀ a', w'.running = some (r, a') → a'.next env.env = .finish
  have hless : ∀ w', P w' → ¬ Goal w' → ∃ t, Leads (watch env) Answers w' t ∧ P t ∧
      t.running.elim 0 (fun run => run.2.missing) < w'.running.elim 0 (fun run => run.2.missing) := by
    rintro w' ⟨a', rfl, htruthful⟩ hgoal
    have hnext : a'.next env.env ≠ .finish := by
      intro hnext
      refine hgoal (fun b hb => ?_)
      cases hb
      exact hnext
    have hstep : Watch.step env { w with running := some (r, a') }
      ((clusterAnswers env w.objects).step (a'.next env.env)) =
        some { w with running := some (r, a'.answer (clusterAnswers env w.objects) (a'.next env.env)) } :=
          step_answer rfl hnext
    have hother : ∀ osHostname, (clusterAnswers env w.objects).step (a'.next env.env) ≠ .finish osHostname := by
      intro osHostname heq
      cases hc : a'.next env.env with
      | finish => exact hnext hc
      | list | getLogLevel | getNode | getSecrets =>
        rw [hc] at heq
        cases heq
    exact ⟨_, .single ⟨works_answer _ _, hother⟩ hstep, ⟨_, rfl, fun h => (htruthful h).answer _⟩,
      Attempt.missing_answer hnext⟩
  obtain ⟨t, hleads, ⟨a', rfl, htruthful⟩, hgoal⟩ :=
    Leads.of_measure (fun w' => w'.running.elim 0 (fun run => run.2.missing))
    hless w ⟨a, by rw [← hrunning], id⟩
  exact ⟨a', hleads, hgoal a' rfl, htruthful⟩

end Watch

/-! ## The daemon -/

namespace Daemon

variable {env : WatchSettings} {eq : Config → Config → Bool} {conf : String} {s s' t : Daemon} {objects : List Object}

/-- A step that is due. -/
def Smooth (s : Daemon) (e : DaemonStep) : Prop := e.works = true ∧ e.Undisturbed s

/-- A state of a run in which ticks and runs of the reloader did not disturb one another; the loop has not ended. -/
structure Reached (env : WatchSettings) (eq : Config → Config → Bool) (conf : String) (s : Daemon) : Prop where
  run : ∃ past, Run (daemon env eq conf) past s ∧ ∀ x ∈ past, x.2.Undisturbed x.1
  running : s.delivery.loop.running = true

theorem Reached.delivery (h : Reached env eq conf s) : Delivery.Reached eq conf s.delivery := by
  obtain ⟨past, hrun, hwhen⟩ := h.run
  exact ⟨⟨_, delivery_run hrun, delivery_sent hrun, delivery_undisturbed hwhen⟩, h.running⟩

theorem Reached.step (h : Reached env eq conf s) {e : DaemonStep} (hsmooth : s.Smooth e)
    (hstep : s.step env eq e = some s') : Reached env eq conf s' := by
  obtain ⟨past, hrun, hwhen⟩ := h.run
  refine ⟨⟨_, hrun.next hstep, List.forall_mem_cons.2 ⟨hsmooth.2, hwhen⟩⟩, ?_⟩
  cases does_of_step hstep with
  | watch => exact h.running
  | handOver _ _ _ _ d _ _ _ _ hdelivery =>
    cases Delivery.does_of_step hdelivery with
    | loop _ loop _ _ hloop => exact (Debouncer.running_of_step hloop (by simp)).trans h.running
  | delivery e d _ hdelivery => exact (h.delivery.step hsmooth hdelivery).running

theorem Reached.leads (h : Reached env eq conf s) (hl : Leads (daemon env eq conf) Smooth s t) :
    Reached env eq conf t := by
  induction hl with
  | here => exact h
  | next hsmooth hstep _ ih => exact ih (h.step hsmooth hstep)

theorem leads_delivery {w : Watch} {d d' : Delivery} (h : Leads (FrrK8s.delivery eq conf) Delivery.Smooth d d') :
    Leads (daemon env eq conf) Smooth { watch := w, delivery := d } { watch := w, delivery := d' } := by
  refine Leads.lift (f := fun d => Daemon.mk w d) (g := DaemonStep.delivery)
    (fun d e d' hsmooth hstep => ⟨hsmooth, ?_⟩) h
  have hmap : (d.step eq e).map (fun d' => ({ watch := w, delivery := d' } : Daemon)) =
      some { watch := w, delivery := d' } := by
    rw [show d.step eq e = some d' from hstep]
    rfl
  cases e with
  | loop e => cases hsmooth.1
  | fire | empty | write | written | signal | fail | trap | reload | test | apply => exact hmap

theorem leads_watch {w w' : Watch} {d : Delivery} (h : Leads (FrrK8s.watch env) Watch.Answers w w') :
    Leads (daemon env eq conf) Smooth { watch := w, delivery := d } { watch := w', delivery := d } := by
  refine Leads.lift (f := fun w => Daemon.mk w d) (g := DaemonStep.watch)
    (fun w e w' hanswers hstep => ⟨⟨hanswers.1, trivial⟩, ?_⟩) h
  have hnone : Daemon.sends env { watch := w, delivery := d } e = none := by
    cases e with
    | finish osHostname => exact (hanswers.2 osHostname rfl).elim
    | change | notify | begin | list | getLogLevel | getNode | getSecrets => rfl
  simp only [daemon, Daemon.step, hnone]
  rw [show w.step env e = some w' from hstep]
  rfl

/-- The end of a run: the loop receives what is handed over. -/
theorem leads_finish (h : Reached env eq conf s) (hidle : s.delivery.body = .idle) {r : Request} {a : Attempt}
    (hrunning : s.watch.running = some (r, a)) (hnext : a.next env.env = .finish) :
    ∃ t, Leads (daemon env eq conf) Smooth s t ∧ t.watch = s.watch.finished env r (a.calls (.ok env.hostname)) ∧
      t.delivery.body = .idle := by
  have hsmooth : s.Smooth (.watch (.finish (.ok env.hostname))) := ⟨rfl, trivial⟩
  have hwatch : s.watch.step env (.finish (.ok env.hostname)) =
      some (s.watch.finished env r (a.calls (.ok env.hostname))) := by
    have hhost : ∀ x ∈ (Except.ok env.hostname : Except String String).toOption, x = env.hostname := by
      intro x hx
      cases hx
      rfl
    simp only [Watch.step, hrunning, Option.bind_some, hnext, true_and]
    exact if_pos hhost
  cases hsends : s.sends env (.finish (.ok env.hostname)) with
  | none =>
    have hstep : s.step env eq (.watch (.finish (.ok env.hostname))) =
        some { s with watch := s.watch.finished env r (a.calls (.ok env.hostname)) } := by
      simp only [step, hwatch, Option.bind_some, hsends]
    exact ⟨_, .single hsmooth hstep, rfl, hidle⟩
  | some event =>
    have hloop : s.delivery.step eq (.loop (.reload event)) =
        some { s.delivery with loop := s.delivery.loop.receive eq event } := by
      simp only [Delivery.step, hidle, LoopEvent.external, and_self, if_true, Debouncer.step, h.running,
        Option.map_some]
    have hstep : s.step env eq (.watch (.finish (.ok env.hostname))) =
        some { watch := s.watch.finished env r (a.calls (.ok env.hostname))
               delivery := { s.delivery with loop := s.delivery.loop.receive eq event } } := by
      simp only [step, hwatch, Option.bind_some, hsends, hloop, Option.map_some]
    exact ⟨_, .single hsmooth hstep, rfl, hidle⟩

/-- A run in progress can be completed. -/
theorem leads_finished (h : Reached env eq conf s) (hidle : s.delivery.body = .idle) {r : Request} {a : Attempt}
    (hrunning : s.watch.running = some (r, a)) :
    ∃ t, ∃ a' : Attempt, Leads (daemon env eq conf) Smooth s t ∧
    t.watch = s.watch.finished env r (a'.calls (.ok env.hostname)) ∧
      t.delivery.body = .idle ∧ a'.next env.env = .finish ∧
      (a.Truthful (clusterAnswers env s.watch.objects) → a'.Truthful (clusterAnswers env s.watch.objects)) := by
  obtain ⟨a', hanswered, hnext, htruthful⟩ := Watch.leads_answered env hrunning
  have hleads : Leads (daemon env eq conf) Smooth s { s with watch := { s.watch with running := some (r, a') } } :=
    leads_watch hanswered
  obtain ⟨t, hfinish, hwatch, hbody⟩ := leads_finish (h.leads hleads) hidle rfl hnext
  exact ⟨t, a', hleads.trans hfinish, hwatch, hbody, hnext, htruthful⟩

/-- Between calls of `body` and between runs of the controller, over these objects. -/
structure Resting (env : WatchSettings) (eq : Config → Config → Bool) (conf : String) (objects : List Object)
    (s : Daemon) : Prop where
  reached : Reached env eq conf s
  idle : s.delivery.body = .idle
  between : s.watch.running = none
  same : s.watch.objects = objects

theorem leads_resting (h : Reached env eq conf s) :
    ∃ t, Leads (daemon env eq conf) Smooth s t ∧ Resting env eq conf s.watch.objects t := by
  obtain ⟨d, hd, hidle⟩ := Delivery.leads_idle h.delivery
  have hleads : Leads (daemon env eq conf) Smooth s { s with delivery := d } := leads_delivery hd
  cases hrunning : s.watch.running with
  | none => exact ⟨_, hleads, h.leads hleads, hidle, hrunning, rfl⟩
  | some run =>
    obtain ⟨r, a⟩ := run
    obtain ⟨t, a', hfinish, hwatch, hbody, -, -⟩ := leads_finished (h.leads hleads) hidle hrunning
    refine ⟨t, hleads.trans hfinish, h.leads (hleads.trans hfinish), hbody, ?_, ?_⟩ <;> rw [hwatch] <;> rfl

/-- An event is handled. -/
theorem less_notified (h : Resting env eq conf objects s) {e : Event} (he : e ∈ s.watch.pending) :
    ∃ t, Leads (daemon env eq conf) Smooth s t ∧ Resting env eq conf objects t ∧
      2 * t.watch.pending.length + t.watch.queue.length < 2 * s.watch.pending.length + s.watch.queue.length := by
  have hstep : s.step env eq (.watch (.notify e)) = some { s with watch := { s.watch with
      pending := s.watch.pending.erase e
      queue := if e.passes env.nodeName then enqueue e.request s.watch.queue else s.watch.queue } } := by
    simp only [step, Watch.step, if_pos he, Option.bind_some]
    rfl
  have hsmooth : s.Smooth (.watch (.notify e)) := ⟨rfl, trivial⟩
  refine ⟨_, .single hsmooth hstep, ⟨h.reached.step hsmooth hstep, h.idle, h.between, h.same⟩, ?_⟩
  have herase := List.length_erase_of_mem he
  have hpos := List.length_pos_of_mem he
  have hqueue : (if e.passes env.nodeName then enqueue e.request s.watch.queue else s.watch.queue).length ≤
      s.watch.queue.length + 1 := by
    unfold enqueue
    split
    · split
      · omega
      · simp
    · omega
  simp only
  omega

/-- A request is taken, and the run for it is answered and ends without an error. -/
theorem less_reconciled (h : Resting env eq conf objects s) {c : Config}
    (hc : TranslationOf env.env (clusterAnswers env objects) c) {r : Request} (hr : r ∈ s.watch.queue) :
    ∃ t, Leads (daemon env eq conf) Smooth s t ∧ Resting env eq conf objects t ∧
      2 * t.watch.pending.length + t.watch.queue.length < 2 * s.watch.pending.length + s.watch.queue.length := by
  have hstep : s.step env eq (.watch (.begin r)) = some { s with watch := { s.watch with
      queue := s.watch.queue.erase r
      running := some (r, {}) } } := by
    simp only [step, Watch.step, hr, h.between, Option.isNone_none, and_self, if_true, Option.bind_some]
    rfl
  have hsmooth : s.Smooth (.watch (.begin r)) := ⟨rfl, trivial⟩
  have hbegin : Leads (daemon env eq conf) Smooth s _ := .single hsmooth hstep
  obtain ⟨t, a, hfinish, hwatch, hbody, hnext, htruthful⟩ := leads_finished (h.reached.leads hbegin) h.idle rfl
  have hanswers : clusterAnswers env s.watch.objects = clusterAnswers env objects := by rw [h.same]
  have htruth : a.Truthful (clusterAnswers env objects) := hanswers ▸ htruthful (.fresh _)
  have herr : ∀ m, (reconcileOutcome env.env m (a.calls (.ok env.hostname))).err = none := by
    intro m
    rw [htruth.outcome hnext hc rfl]
    exact hc.err_none rfl
  refine ⟨t, hbegin.trans hfinish, ⟨h.reached.leads (hbegin.trans hfinish), hbody, by rw [hwatch]; rfl, ?_⟩, ?_⟩
  · rw [hwatch]
    exact h.same
  · have hlength := List.length_erase_of_mem hr
    have hpos := List.length_pos_of_mem hr
    rw [hwatch]
    simp only [Watch.finished, herr, Option.isSome_none, Bool.false_eq_true, if_false]
    omega

/-- **The controller can get done**: every event is handled, and a run follows the last one that is not filtered out. -/
theorem leads_clean (h : Reached env eq conf s) {c : Config}
    (hc : TranslationOf env.env (clusterAnswers env s.watch.objects) c) :
    ∃ t, Leads (daemon env eq conf) Smooth s t ∧ Resting env eq conf s.watch.objects t ∧ t.watch.Clean env := by
  obtain ⟨s₁, h₁, hresting⟩ := leads_resting h
  have hless : ∀ u, Resting env eq conf s.watch.objects u → ¬ u.watch.Clean env →
      ∃ t, Leads (daemon env eq conf) Smooth u t ∧ Resting env eq conf s.watch.objects t ∧
        2 * t.watch.pending.length + t.watch.queue.length < 2 * u.watch.pending.length + u.watch.queue.length := by
    intro u hu hdirty
    by_cases hqueue : u.watch.queue = []
    · have hpending : u.watch.pending ≠ [] := by
        intro hnil
        refine hdirty ⟨hqueue, fun e he => ?_⟩
        rw [hnil] at he
        cases he
      obtain ⟨e, he⟩ := List.exists_mem_of_ne_nil _ hpending
      exact less_notified hu he
    · obtain ⟨r, hr⟩ := List.exists_mem_of_ne_nil _ hqueue
      exact less_reconciled hu hc hr
  obtain ⟨t, hleads, ht⟩ := Leads.of_measure (fun t : Daemon => 2 * t.watch.pending.length + t.watch.queue.length)
    hless s₁ hresting
  exact ⟨t, h₁.trans hleads, ht⟩

end Daemon

/-- **The daemon is never stuck.**  From every state it can reach, whatever failed on the way and wherever a run of the
controller, a call of `body`, a run of the reloader or a tick is: if the configurations can be translated, in whatever
order they are listed, the steps that are due can be taken, without a change from outside and without another failure,
until nothing is left to do, and FRR then runs the translation. -/
theorem daemon_recovers (env : WatchSettings) (eq : Config → Config → Bool) (conf : String)
    (past : List (Daemon × DaemonStep)) (s : Daemon) (h : Run (daemon env eq conf) past s)
    (hwhen : ∀ x ∈ past, x.2.Undisturbed x.1) (heq : ∀ a b, eq a b = true → a = b)
    (hrunning : s.delivery.loop.running = true) (hobjects : s.watch.objects ≠ [])
    (htranslates : ∀ configs secrets, configs.Perm (listConfigs s.watch.objects) →
    secrets.Perm (listSecrets env.ns s.watch.objects) →
    ∃ c, TranslationOf env.env (clusterCalls env s.watch.objects configs secrets) c) :
    ∃ more s', Run (daemon env eq conf) (more ++ past) s' ∧ (∀ x ∈ more, x.2.works = true ∧ x.2.Undisturbed x.1) ∧
      s'.watch.objects = s.watch.objects ∧ s'.watch.Clean env ∧ s'.watch.running = none ∧ s'.delivery.Quiescent ∧
      ∃ configs secrets c sent, configs.Perm (listConfigs s.watch.objects) ∧
        secrets.Perm (listSecrets env.ns s.watch.objects) ∧
        TranslationOf env.env (clusterCalls env s.watch.objects configs secrets) c ∧
        applyConfig (.ok env.hostname) env.env.fallbackRouterID c = .ok { config := some sent } ∧
        s'.delivery.frr = .runs (templateConfig sent) := by
  have hreached : Daemon.Reached env eq conf s := ⟨⟨past, h, hwhen⟩, hrunning⟩
  obtain ⟨c, hc⟩ := htranslates _ _ (.refl _) (.refl _)
  -- first the controller gets done, which changes what the loop has to do; then the loop and what follows it
  obtain ⟨s₁, h₁, hresting, hclean⟩ := Daemon.leads_clean hreached hc
  obtain ⟨d, h₂, hd, hq, hseen⟩ := Delivery.leads_quiescent hresting.reached.delivery
  have hleads : Leads (daemon env eq conf) Daemon.Smooth s { s₁ with delivery := d } :=
    h₁.trans (Daemon.leads_delivery h₂)
  obtain ⟨more, hrun, hmore⟩ := h.leads hleads
  have hundisturbed : ∀ x ∈ more ++ past, x.2.Undisturbed x.1 :=
    List.forall_mem_append.2 ⟨fun x hx => (hmore x hx).2, hwhen⟩
  have hsome : s₁.watch.objects ≠ [] := hresting.same ▸ hobjects
  have hreflects : Reflects env s₁.watch.objects s₁.watch.reconciler :=
    Daemon.reflects_of_clean (s := { s₁ with delivery := d }) hrun hclean hresting.between hsome
  have hok : s₁.watch.reconciler.conversionResult = conversionSuccess := by
    obtain ⟨before, configs, secrets, hconfigs, hsecrets, hr, herr⟩ := hreflects
    rw [hresting.same] at hconfigs hsecrets hr herr
    rw [hr]
    exact (conversionResult_iff herr rfl).2 (htranslates configs secrets hconfigs hsecrets)
  obtain ⟨_, _, _, sent, -, -, -, -, hhanded⟩ := Daemon.reflects_success hreflects hok
  obtain ⟨l, hl, -⟩ := Delivery.current_of_quiescent (Daemon.delivery_run hrun) (Daemon.delivery_sent hrun) heq hq
    ((Daemon.handedOver_eq hrun).trans hhanded)
  have hruns := Daemon.runs_of_success hrun hundisturbed heq hclean hresting.between hsome hq
    (hseen.fetched hd.reached hq hl) hok
  refine ⟨more, _, hrun, hmore, hresting.same, hclean, hresting.between, hq, ?_⟩
  rw [← hresting.same]
  exact hruns

/-- The first configuration that was handed over is being written when the run for the next one fails to list. -/
def interrupted : List DaemonStep :=
  let config := Object.config firstPart
  (listedTooEarly.take 7).map .watch ++ [.delivery .fire, .delivery .empty, .delivery (.write 5),
  .watch (.notify (.create config)),
    .watch (.begin config.request), .watch (.list (.error { text := "timeout" }))]

def midway : List (Daemon × DaemonStep) × Daemon :=
  ((daemon watchSettings (fun a b => decide (a = b)) "").exec interrupted [] { delivery := { conf := "" } }).getD
    ([], { delivery := { conf := "" } })

theorem midway_run : Run (daemon watchSettings (fun a b => decide (a = b)) "") midway.1 midway.2 :=
  Run.of_exec_getD _ .start (by decide +kernel)

/-- The configuration can be translated. -/
theorem midway_translates (configs : List FRRConfiguration) (secrets : List Secret)
    (hconfigs : configs.Perm (listConfigs midway.2.watch.objects))
    (hsecrets : secrets.Perm (listSecrets "frr-k8s" midway.2.watch.objects)) :
    ∃ c, TranslationOf plainSettings (clusterCalls watchSettings midway.2.watch.objects configs secrets) c := by
  have hlisted : listConfigs midway.2.watch.objects = [firstPart] ∧
      listSecrets "frr-k8s" midway.2.watch.objects = [] := by
    decide +kernel
  rw [hlisted.1, List.perm_singleton] at hconfigs
  rw [hlisted.2, List.perm_nil] at hsecrets
  rw [hconfigs, hsecrets]
  obtain ⟨⟨c, r⟩, happlied⟩ := Option.isSome_iff_exists.1 (by decide +kernel :
    (reconcileOutcome plainSettings {} (clusterCalls watchSettings midway.2.watch.objects [firstPart]
    [])).applied.isSome = true)
  exact ⟨c, reconcileOutcome_applied happlied⟩

theorem daemon_recovers_midway : midway.2.delivery.conf.length = 5 ∧ midway.2.watch.running.isSome = true ∧
    ∃ more s', Run (daemon watchSettings (fun a b => decide (a = b)) "") (more ++ midway.1) s' ∧
      s'.delivery.Quiescent ∧ ∃ sent, s'.delivery.frr = .runs (templateConfig sent) := by
  refine ⟨by decide +kernel, by decide +kernel, ?_⟩
  obtain ⟨more, s', hrun, -, -, -, -, hq, _, _, _, sent, -, -, -, -, hfrr⟩ :=
    daemon_recovers watchSettings _ "" midway.1 midway.2
    midway_run (by decide +kernel) (fun a b h => of_decide_eq_true h) (by decide +kernel) (by decide +kernel)
    midway_translates
  exact ⟨more, s', hrun, hq, sent, hfrr⟩

end FrrK8s
