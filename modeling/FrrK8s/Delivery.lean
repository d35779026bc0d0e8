import FrrK8s.Debounce
import FrrK8s.Reload
import FrrK8s.Template
/-!
# Delivery — from the loop to FRR (`generateAndReloadConfigFile`, `reload_frr`, `pollStatus`)

The loop of the daemon, the file it writes, the signal it sends, the reloader that has FRR load the file, and the ticks
that ask the loop for another reload when one failed.  All of them go on at the same time: the reloader reads the file
twice, once to test it and once to apply it, and the daemon may be writing it meanwhile.  The loop is the one of
`Debounce` and the reloader and the ticks are those of `Reload`; what is added is the file, the signals, and what FRR
runs.

Where nothing is left to do, the last run of the reloader has read the configuration that was handed over last
(`delivery_current`), and where the daemon has seen how that run ended, FRR runs it (`Delivery.applied_of_quiescent`).
What FRR loads is never anything but the beginning of a rendering (`delivery_rendered`).
-/
namespace FrrK8s

/-! ## The system -/

/-- Where a call of `generateAndReloadConfigFile` is: `os.WriteFile` empties the file and writes it, then the reloader
is signalled. -/
inductive Body
  | idle
  | opening (text : String)
  | writing (text : String)
  | signalling
deriving DecidableEq, Repr

/-- The run of the reloader that started last, and what its two calls of `frr-reload.py` have read. -/
structure Loading where
  run : ReloadRun
  tested : Option String := none
  applied : Option String := none
deriving DecidableEq, Repr

/-- What FRR runs: the text it was loaded with, or anything where it never was or where loading failed on the way. -/
inductive Running
  | unknown
  | runs (text : String)
deriving DecidableEq, Repr

/-- The loop and its call of `body`, the file `frr.conf`, the signal that is pending and the background runs that wait
for the lock, the reloader's other files with the daemon's ticks, the run that has the lock, and FRR. -/
structure Delivery where
  loop : Debouncer Config := {}
  body : Body := .idle
  conf : String
  hup : Bool := false
  waiting : Nat := 0
  reload : ReloadState := {}
  loading : Option Loading := none
  frr : Running := .unknown
deriving DecidableEq

inductive DeliveryStep
  | loop (e : LoopEvent Config)
  | fire
  | empty
  | write (n : Nat)
  | written
  | signal
  | fail (err : String)
  | trap
  | reload (e : ReloadStep)
  | test
  | apply
deriving DecidableEq

/-- An event of the loop that does not come from its own timer. -/
def LoopEvent.external {Cfg : Type} : LoopEvent Cfg → Bool
  | .timeOut _ => false
  | .reload _ | .closed | .done => true

/-- How many of its writes the run in progress has done. -/
def Loading.progress (l : Loading) (remaining : List FileWrite) : Nat := (reloadFrr l.run).length - remaining.length

/-- The script goes on after `--test` when that has read the file, and after `--reload`, which is called if the test
passed. -/
def Loading.mayWrite (l : Loading) (remaining : List FileWrite) : Bool :=
  (l.progress remaining ≠ 1 || l.tested.isSome) &&
    (l.progress remaining ≠ 2 || l.run.result = .syntaxError || l.applied.isSome)

namespace Delivery

/-- The end of a tick: a status that is new and tells a failure is sent to the loop before it is taken. -/
def update (eq : Config → Config → Bool) (s : Delivery) : Option Delivery :=
  match s.reload.poll with
  | .fetched status =>
    let s' := { s with reload := s.reload.take status }
    if status.updateTime = s.reload.status.updateTime ∨ status.lastReloadResult = reloadSuccess then some s'
    else if s.body = .idle then (s.loop.step eq (.reload { useOld := true })).map (fun loop => { s' with loop := loop })
    else none
  | _ => none

/-- While `body` is called the loop receives nothing, and its variables change when the call has returned.  The file is
written piece by piece; a call of `frr-reload.py` is taken to read it at one moment. -/
def step (eq : Config → Config → Bool) (s : Delivery) : DeliveryStep → Option Delivery
  | .loop e =>
    if s.body = .idle ∧ e.external = true then (s.loop.step eq e).map (fun loop => { s with loop := loop }) else none
  | .fire =>
    if s.body = .idle ∧ (s.loop.step eq (.timeOut none)).isSome = true then
      -- no timer is set without a configuration (`Tracked.of_timer`)
      s.loop.config.map (fun config => { s with body := .opening (templateConfig config) })
    else none
  | .empty =>
    match s.body with
    | .opening text => some { s with conf := "", body := .writing text }
    | _ => none
  | .write n =>
    match s.body with
    | .writing text => some { s with conf := String.ofList (text.toList.take n) }
    | _ => none
  | .written =>
    match s.body with
    | .writing text => some { s with conf := text, body := .signalling }
    | _ => none
  | .signal =>
    match s.body with
    | .signalling =>
      (s.loop.step eq (.timeOut none)).map (fun loop => { s with loop := loop, body := .idle, hup := true })
    | _ => none
  | .fail err =>
    if s.body ≠ .idle then (s.loop.step eq (.timeOut (some err))).map
      (fun loop => { s with loop := loop, body := .idle })
    else none
  -- signals that arrive before the trap is run are one
  | .trap => if s.hup = true then some { s with hup := false, waiting := s.waiting + 1 } else none
  | .reload (.start r) =>
    if 0 < s.waiting then
      (s.reload.step (.start r)).map (fun reload =>
        { s with reload := reload, waiting := s.waiting - 1, loading := some { run := r } })
    else none
  | .reload .write =>
    if s.loading.all (fun l => l.mayWrite s.reload.remaining) = true then
      (s.reload.step .write).map (fun reload => { s with reload := reload })
    else none
  | .reload .update => s.update eq
  | .reload e => (s.reload.step e).map (fun reload => { s with reload := reload })
  | .test =>
    match s.loading with
    | some l =>
      if l.tested = none ∧ l.progress s.reload.remaining = 1
        then some { s with loading := some { l with tested := some s.conf } }
      else none
    | none => none
  | .apply =>
    match s.loading with
    | some l =>
      if l.applied = none ∧ l.progress s.reload.remaining = 2 ∧ l.run.result ≠ .syntaxError then
        some { s with
          loading := some { l with applied := some s.conf }
          frr := if l.run.result = .applied then .runs s.conf else .unknown }
      else none
    | none => none

end Delivery

/-- From the start of the daemon and the reloader, with the file as it was left. -/
def delivery (eq : Config → Config → Bool) (conf : String) : System Delivery DeliveryStep where
  init := { conf := conf }
  step := Delivery.step eq

/-! ## What a step does -/

namespace Delivery

variable {eq : Config → Config → Bool} {conf : String} {s s' : Delivery}

/-- A tick ends with a status that is new and tells a failure. -/
def retries (s : Delivery) : Bool :=
  match s.reload.poll with
  | .fetched status => decide (status.updateTime ≠ s.reload.status.updateTime ∧ status.lastReloadResult ≠ reloadSuccess)
  | _ => false

/-- What a step does, and where it does it. -/
inductive Does (eq : Config → Config → Bool) (s : Delivery) : DeliveryStep → Delivery → Prop
  | loop (e : LoopEvent Config) (loop : Debouncer Config) (hidle : s.body = .idle) (hext : e.external = true)
      (hloop : s.loop.step eq e = some loop) : Does eq s (.loop e) { s with loop := loop }
  | fire (c : Config) (hcan : (s.loop.step eq (.timeOut none)).isSome = true) (hconfig : s.loop.config = some c) :
      Does eq s .fire { s with body := .opening (templateConfig c) }
  | empty (text : String) (hbody : s.body = .opening text) :
      Does eq s .empty { s with conf := "", body := .writing text }
  | write (n : Nat) (text : String) (hbody : s.body = .writing text) :
      Does eq s (.write n) { s with conf := String.ofList (text.toList.take n) }
  | written (text : String) (hbody : s.body = .writing text) :
      Does eq s .written { s with conf := text, body := .signalling }
  | signal (loop : Debouncer Config) (hbody : s.body = .signalling)
      (hloop : s.loop.step eq (.timeOut none) = some loop) :
      Does eq s .signal { s with loop := loop, body := .idle, hup := true }
  | fail (err : String) (loop : Debouncer Config) (hloop : s.loop.step eq (.timeOut (some err)) = some loop) :
      Does eq s (.fail err) { s with loop := loop, body := .idle }
  | trap (hhup : s.hup = true) : Does eq s .trap { s with hup := false, waiting := s.waiting + 1 }
  | start (r : ReloadRun) (reload : ReloadState) (hwaiting : 0 < s.waiting)
      (hreload : s.reload.step (.start r) = some reload) :
      Does eq s (.reload (.start r)) { s with reload := reload, waiting := s.waiting - 1, loading := some { run := r } }
  | writeFile (reload : ReloadState) (hmay : ∀ l ∈ s.loading, l.mayWrite s.reload.remaining = true)
      (hreload : s.reload.step .write = some reload) : Does eq s (.reload .write) { s with reload := reload }
  | read (e : ReloadStep) (reload : ReloadState) (hfiles : reload.files = s.reload.files)
      (hremaining : reload.remaining = s.reload.remaining) (hlast : reload.last = s.reload.last)
      (hstatus : reload.status = s.reload.status) (hreload : s.reload.step e = some reload) (hevent : e ≠ .update) :
      Does eq s (.reload e) { s with reload := reload }
  | take (status : Status) (hpoll : s.reload.poll = .fetched status)
      (hquiet : status.updateTime = s.reload.status.updateTime ∨ status.lastReloadResult = reloadSuccess) :
      Does eq s (.reload .update) { s with reload := s.reload.take status }
  | retry (status : Status) (loop : Debouncer Config) (hpoll : s.reload.poll = .fetched status)
      (hnew : ¬ (status.updateTime = s.reload.status.updateTime ∨ status.lastReloadResult = reloadSuccess))
      (hidle : s.body = .idle) (hloop : s.loop.step eq (.reload { useOld := true }) = some loop) :
      Does eq s (.reload .update) { s with loop := loop, reload := s.reload.take status }
  | test (l : Loading) (hloading : s.loading = some l) (hprogress : l.progress s.reload.remaining = 1) :
      Does eq s .test { s with loading := some { l with tested := some s.conf } }
  | apply (l : Loading) (hloading : s.loading = some l) (hprogress : l.progress s.reload.remaining = 2) :
      Does eq s .apply { s with
        loading := some { l with applied := some s.conf }
        frr := if l.run.result = .applied then .runs s.conf else .unknown }

/-- A read of a tick leaves everything but the tick alone. -/
theorem does_of_read {e : ReloadStep}
    (he : e = .readStatus ∨ e = .readLastError ∨ e = .readRunningConfig ∨ e = .readError) {reload : ReloadState}
    (h : s.reload.step e = some reload) : s.Does eq (.reload e) { s with reload := reload } := by
  have hkept : reload.files = s.reload.files ∧ reload.remaining = s.reload.remaining ∧ reload.last = s.reload.last ∧
      reload.status = s.reload.status ∧ e ≠ .update := by
    obtain rfl | rfl | rfl | rfl := he
    all_goals
      cases ReloadState.does_of_step h <;> exact ⟨rfl, rfl, rfl, rfl, by decide⟩
  exact .read e reload hkept.1 hkept.2.1 hkept.2.2.1 hkept.2.2.2.1 h hkept.2.2.2.2

theorem does_of_update (h : s.update eq = some s') : s.Does eq (.reload .update) s' := by
  unfold update at h
  split at h
  · rename_i status hpoll
    simp only at h
    split at h
    · rename_i hquiet
      cases h
      exact .take status hpoll hquiet
    · rename_i hnew
      split at h
      · rename_i hidle
        obtain ⟨loop, hloop, rfl⟩ := Option.map_eq_some_iff.1 h
        exact .retry status loop hpoll hnew hidle hloop
      · cases h
  · cases h

theorem does_of_step {e : DeliveryStep} (hstep : s.step eq e = some s') : s.Does eq e s' := by
  cases e with
  | loop e =>
    simp only [step] at hstep
    split at hstep
    · rename_i hwhen
      obtain ⟨loop, hloop, rfl⟩ := Option.map_eq_some_iff.1 hstep
      exact .loop e loop hwhen.1 hwhen.2 hloop
    · cases hstep
  | fire =>
    simp only [step] at hstep
    split at hstep
    · rename_i hwhen
      obtain ⟨c, hconfig, rfl⟩ := Option.map_eq_some_iff.1 hstep
      exact .fire c hwhen.2 hconfig
    · cases hstep
  | empty =>
    simp only [step] at hstep
    split at hstep
    · rename_i text hbody
      cases hstep
      exact .empty text hbody
    · cases hstep
  | write n =>
    simp only [step] at hstep
    split at hstep
    · rename_i text hbody
      cases hstep
      exact .write n text hbody
    · cases hstep
  | written =>
    simp only [step] at hstep
    split at hstep
    · rename_i text hbody
      cases hstep
      exact .written text hbody
    · cases hstep
  | signal =>
    simp only [step] at hstep
    split at hstep
    · rename_i hbody
      obtain ⟨loop, hloop, rfl⟩ := Option.map_eq_some_iff.1 hstep
      exact .signal loop hbody hloop
    · cases hstep
  | fail err =>
    simp only [step] at hstep
    split at hstep
    · obtain ⟨loop, hloop, rfl⟩ := Option.map_eq_some_iff.1 hstep
      exact .fail err loop hloop
    · cases hstep
  | trap =>
    simp only [step] at hstep
    split at hstep
    · rename_i hhup
      cases hstep
      exact .trap hhup
    · cases hstep
  | reload e =>
    cases e with
    | start r =>
      simp only [step] at hstep
      split at hstep
      · rename_i hwaiting
        obtain ⟨reload, hreload, rfl⟩ := Option.map_eq_some_iff.1 hstep
        exact .start r reload hwaiting hreload
      · cases hstep
    | write =>
      simp only [step] at hstep
      split at hstep
      · rename_i hmay
        obtain ⟨reload, hreload, rfl⟩ := Option.map_eq_some_iff.1 hstep
        exact .writeFile reload (fun l hl => by rw [Option.all_eq_true] at hmay; exact hmay l hl) hreload
      · cases hstep
    | update => exact does_of_update hstep
    | readStatus =>
      obtain ⟨reload, hreload, rfl⟩ := Option.map_eq_some_iff.1 hstep
      exact does_of_read (Or.inl rfl) hreload
    | readLastError =>
      obtain ⟨reload, hreload, rfl⟩ := Option.map_eq_some_iff.1 hstep
      exact does_of_read (Or.inr (Or.inl rfl)) hreload
    | readRunningConfig =>
      obtain ⟨reload, hreload, rfl⟩ := Option.map_eq_some_iff.1 hstep
      exact does_of_read (Or.inr (Or.inr (Or.inl rfl))) hreload
    | readError =>
      obtain ⟨reload, hreload, rfl⟩ := Option.map_eq_some_iff.1 hstep
      exact does_of_read (Or.inr (Or.inr (Or.inr rfl))) hreload
  | test =>
    simp only [step] at hstep
    split at hstep
    · rename_i l hloading
      split at hstep
      · rename_i hwhen
        cases hstep
        exact .test l hloading hwhen.2
      · cases hstep
    · cases hstep
  | apply =>
    simp only [step] at hstep
    split at hstep
    · rename_i l hloading
      split at hstep
      · rename_i hwhen
        cases hstep
        exact .apply l hloading hwhen.2.1
      · cases hstep
    · cases hstep

/-! ## The loop and the reloader in it -/

/-- The event of the loop in a step. -/
def loopEvent (s : Delivery) : DeliveryStep → Option (LoopEvent Config)
  | .loop e => some e
  | .signal => some (.timeOut none)
  | .fail err => some (.timeOut (some err))
  | .reload .update => if s.retries = true then some (.reload { useOld := true }) else none
  | _ => none

def reloadEvent (_ : Delivery) : DeliveryStep → Option ReloadStep
  | .reload e => some e
  | _ => none

theorem retries_of_new {status : Status} (hpoll : s.reload.poll = .fetched status) : s.retries = true ↔
    ¬ (status.updateTime = s.reload.status.updateTime ∨ status.lastReloadResult = reloadSuccess) := by
  unfold retries
  rw [hpoll, not_or]
  exact decide_eq_true_iff

theorem loop_run {past : List (Delivery × DeliveryStep)} (h : Run (delivery eq conf) past s) :
    Run (debouncer eq) (partOf Delivery.loop loopEvent past) s.loop := by
  refine h.project rfl (fun s e s' hstep hnone => ?_) (fun s e s' d hstep hsome => ?_)
  · cases does_of_step hstep with
    | loop | signal | fail => cases hnone
    | retry status loop hpoll hnew =>
      rw [loopEvent, if_pos ((retries_of_new hpoll).2 hnew)] at hnone
      cases hnone
    | fire | empty | write | written | trap | start | writeFile | read | take | test | apply => rfl
  · cases does_of_step hstep with
    | loop e loop _ _ hloop =>
      cases hsome
      exact hloop
    | signal loop _ hloop =>
      cases hsome
      exact hloop
    | fail err loop hloop =>
      cases hsome
      exact hloop
    | take status hpoll hquiet =>
      rw [loopEvent, if_neg (fun hr => (retries_of_new hpoll).1 hr hquiet)] at hsome
      cases hsome
    | retry status loop hpoll hnew _ hloop =>
      rw [loopEvent, if_pos ((retries_of_new hpoll).2 hnew)] at hsome
      cases hsome
      exact hloop
    | read e _ _ _ _ _ _ hevent =>
      cases e with
      | update => exact (hevent rfl).elim
      | start | write | readStatus | readLastError | readRunningConfig | readError => cases hsome
    | fire | empty | write | written | trap | start | writeFile | test | apply => cases hsome

theorem reload_run {past : List (Delivery × DeliveryStep)} (h : Run (delivery eq conf) past s) :
    Run reloads (partOf Delivery.reload reloadEvent past) s.reload := by
  refine h.project rfl (fun s e s' hstep hnone => ?_) (fun s e s' d hstep hsome => ?_)
  · cases does_of_step hstep with
    | start | writeFile | read | take | retry => cases hnone
    | loop | fire | empty | write | written | signal | fail | trap | test | apply => rfl
  · cases does_of_step hstep with
    | start r reload _ hreload =>
      cases hsome
      exact hreload
    | writeFile reload _ hreload =>
      cases hsome
      exact hreload
    | read e reload _ _ _ _ hreload _ =>
      cases hsome
      exact hreload
    | take status hpoll _ =>
      cases hsome
      show s.reload.step .update = _
      rw [ReloadState.step, hpoll]
    | retry status _ hpoll _ _ _ =>
      cases hsome
      show s.reload.step .update = _
      rw [ReloadState.step, hpoll]
    | loop | fire | empty | write | written | signal | fail | trap | test | apply => cases hsome

end Delivery

/-- A configuration comes with every event that does not ask for the old one. -/
def DeliveryStep.Sent : DeliveryStep → Prop
  | .loop e => e.Sent
  | _ => True

/-- The configuration that was handed over last. -/
def handedOver (past : List (Delivery × DeliveryStep)) : Option Config :=
  lastReceived (partOf Delivery.loop Delivery.loopEvent past)

namespace Delivery

variable {eq : Config → Config → Bool} {conf : String} {s s' : Delivery} {past : List (Delivery × DeliveryStep)}

theorem loopEvent_sent {s : Delivery} {e : DeliveryStep} (h : e.Sent) {d : LoopEvent Config}
    (hd : s.loopEvent e = some d) : d.Sent := by
  cases e with
  | loop e =>
    cases hd
    exact h
  | signal =>
    cases hd
    trivial
  | fail err =>
    cases hd
    trivial
  | reload e =>
    cases e with
    | update =>
      by_cases hr : s.retries = true
      · rw [loopEvent, if_pos hr] at hd
        cases hd
        exact Or.inl rfl
      · rw [loopEvent, if_neg hr] at hd
        cases hd
    | start | write | readStatus | readLastError | readRunningConfig | readError => cases hd
  | fire | empty | write | written | trap | test | apply => cases hd

/-- The loop has what it was sent. -/
theorem tracked (h : Run (delivery eq conf) past s) (hsent : ∀ x ∈ past, x.2.Sent) :
    Tracked eq (partOf Delivery.loop loopEvent past) s.loop := by
  refine tracked_run (loop_run h) (fun x hx => ?_)
  obtain ⟨y, hy, hmap⟩ := List.mem_filterMap.1 hx
  obtain ⟨d, hd, rfl⟩ := Option.map_eq_some_iff.1 hmap
  exact loopEvent_sent (hsent y hy) hd

/-! ## The loop's part -/

section

variable {loop loop' : Debouncer Config}

/-- An event that comes from outside leaves no timer unset that was set, and where none is set nothing has changed. -/
theorem external_unset {e : LoopEvent Config} (he : e.external = true) (h : loop.step eq e = some loop')
    (hunset : loop'.timerSet = false) : loop.timerSet = false ∧ loop'.config = loop.config := by
  obtain ⟨_, rfl, _, rfl⟩ | ⟨newCfg, rfl, _, rfl⟩ | ⟨_, rfl⟩ | ⟨_, _, rfl, _⟩ := Debouncer.step_cases h
  · exact ⟨hunset, rfl⟩
  · split at hunset
    · rename_i hset
      exact absurd (hset.symm.trans hunset) (by decide)
    · cases hunset
  · exact ⟨hunset, rfl⟩
  · cases he

theorem external_config {e : LoopEvent Config} (he : e.external = true) (hsent : e.Sent)
    (h : loop.step eq e = some loop') (hconfig : loop.config ≠ none) : loop'.config ≠ none := by
  obtain ⟨_, rfl, _, rfl⟩ | ⟨newCfg, rfl, _, rfl⟩ | ⟨_, rfl⟩ | ⟨_, _, rfl, _⟩ := Debouncer.step_cases h
  · exact hconfig
  · have hadopt : (loop.adopt newCfg).config ≠ none := by
      unfold Debouncer.adopt
      split
      · exact hconfig
      · rename_i hnew
        exact Option.isSome_iff_ne_none.1 (hsent.resolve_left hnew)
    split <;> exact hadopt
  · exact hconfig
  · cases he

theorem timeOut_none (h : loop.step eq (.timeOut none) = some loop') :
    loop'.timerSet = false ∧ loop'.config = loop.config := by
  obtain ⟨_, he, _⟩ | ⟨_, he, _⟩ | ⟨he | he, _⟩ | ⟨_, t, he, _, _, rfl⟩ := Debouncer.step_cases h
  · cases he
  · cases he
  · cases he
  · cases he
  · cases he
    exact ⟨rfl, rfl⟩

theorem timeOut_some {err : String} (h : loop.step eq (.timeOut (some err)) = some loop') :
    loop'.timerSet = true ∧ loop'.config = loop.config := by
  obtain ⟨_, he, _⟩ | ⟨_, he, _⟩ | ⟨he | he, _⟩ | ⟨_, t, he, _, _, rfl⟩ := Debouncer.step_cases h
  · cases he
  · cases he
  · cases he
  · cases he
  · cases he
    exact ⟨rfl, rfl⟩

/-- The daemon asks for the configuration again: the loop then waits for a timer, unless it has none. -/
theorem useOld_config (h : loop.step eq (.reload { useOld := true }) = some loop') :
    loop'.config = loop.config ∧ (loop.config ≠ none → loop'.timerSet = true) := by
  obtain ⟨_, he, hig, rfl⟩ | ⟨_, he, _, rfl⟩ | ⟨he | he, _⟩ | ⟨_, _, he, _⟩ := Debouncer.step_cases h
  · cases he
    obtain ⟨_, hnone⟩ | ⟨hnew, _⟩ := hig
    · exact ⟨rfl, fun hne => absurd hnone hne⟩
    · cases hnew
  · cases he
    split
    · rename_i hset
      exact ⟨rfl, fun _ => hset⟩
    · exact ⟨rfl, fun _ => rfl⟩
  · cases he
  · cases he
  · cases he

end

/-! ## What is written, tested and applied -/

/-- A run of the reloader is still to start for a signal. -/
def Signalled (s : Delivery) : Prop := s.hup = true ∨ 0 < s.waiting

end Delivery

/-- What a call of `body` writes is the rendering of the loop's configuration. -/
def Body.Of (conf : String) (config : Option Config) : Body → Prop
  | .idle => True
  | .opening text | .writing text => ∃ c, config = some c ∧ text = templateConfig c
  | .signalling => ∃ c, config = some c ∧ conf = templateConfig c

/-- What the run has read so far is the text. -/
def Loading.Reads (l : Loading) (text : String) : Prop :=
  (∀ t, l.tested = some t → t = text) ∧ ∀ t, l.applied = some t → t = text

/-- Where a run is in its script: what it has written is in the files, and what it has called has read the
configuration. -/
structure Loading.At (l : Loading) (r : ReloadState) (done : List FileWrite) (before : Files) : Prop where
  script : reloadFrr l.run = done ++ r.remaining
  files : r.files = done.foldl Files.write before
  last : r.last = some l.run.seconds
  tested : 2 ≤ done.length → l.tested ≠ none
  applied : 3 ≤ done.length → l.run.result ≠ .syntaxError → l.applied ≠ none

namespace Loading.At

variable {l : Loading} {r r' : ReloadState} {done : List FileWrite} {before : Files}

theorem progress_eq (h : l.At r done before) : l.progress r.remaining = done.length := by
  rw [Loading.progress, h.script, List.length_append, Nat.add_sub_cancel]

theorem keep (h : l.At r done before) (hfiles : r'.files = r.files) (hremaining : r'.remaining = r.remaining)
    (hlast : r'.last = r.last) : l.At r' done before :=
  ⟨hremaining ▸ h.script, hfiles.trans h.files, hlast.trans h.last, h.tested, h.applied⟩

/-- The next write, once the script may go on. -/
theorem next (h : l.At r done before) (hmay : l.mayWrite r.remaining = true) {w : FileWrite} {ws : List FileWrite}
    (hremaining : r.remaining = w :: ws) :
    l.At { r with files := r.files.write w, remaining := ws } (done ++ [w]) before := by
  simp only [Loading.mayWrite, h.progress_eq, Bool.and_eq_true, Bool.or_eq_true, decide_eq_true_eq] at hmay
  refine ⟨?_, ?_, h.last, fun htwo => ?_, fun hthree hresult => ?_⟩
  · rw [h.script, hremaining, List.append_assoc, List.singleton_append]
  · rw [List.foldl_append, ← h.files]
    rfl
  · rw [List.length_append, List.length_singleton] at htwo
    obtain hone | htested := hmay.1
    · exact h.tested (by omega)
    · exact Option.isSome_iff_ne_none.1 htested
  · rw [List.length_append, List.length_singleton] at hthree
    obtain (htwo | hsyntax) | happlied := hmay.2
    · exact h.applied (by omega) hresult
    · exact absurd hsyntax hresult
    · exact Option.isSome_iff_ne_none.1 happlied

/-- A run that has ended has called `--test`, and `--reload` if the test passed. -/
theorem ended (h : l.At r done before) (hnil : r.remaining = []) :
    l.tested ≠ none ∧ (l.run.result ≠ .syntaxError → l.applied ≠ none) := by
  have hlong : 3 ≤ done.length := by
    have hscript := congrArg List.length h.script
    rw [hnil, List.append_nil] at hscript
    rw [← hscript]
    unfold reloadFrr
    cases l.run.result <;> simp [redirect, saveStatus]
  exact ⟨h.tested (by omega), h.applied hlong⟩

end Loading.At

namespace Delivery

variable {eq : Config → Config → Bool} {conf : String} {s s' : Delivery} {past : List (Delivery × DeliveryStep)}

structure Inv (s : Delivery) : Prop where
  busy : s.body ≠ .idle → s.loop.timerSet = true
  body : s.body.Of s.conf s.loop.config
  current : s.loop.timerSet = false → ∀ c, s.loop.config = some c →
    s.conf = templateConfig c ∧ (s.Signalled ∨ ∃ l, s.loading = some l ∧ l.Reads (templateConfig c))
  loading : ∀ l, s.loading = some l → ∃ done before, l.At s.reload done before
  frr : ∀ l t, s.loading = some l → l.applied = some t → l.run.result = .applied → s.frr = .runs t
  configured : s.Signalled ∨ s.loading ≠ none → s.loop.config ≠ none

theorem inv_init (eq : Config → Config → Bool) (conf : String) : (delivery eq conf).init.Inv where
  busy h := (h rfl).elim
  body := trivial
  current _ c hc := by cases hc
  loading l hl := by cases hl
  frr l t hl := by cases hl
  configured h := by
    obtain (hhup | hwaiting) | hloading := h
    · cases hhup
    · cases hwaiting
    · exact (hloading rfl).elim

/-- A step of the loop alone that sets no timer off and loses no configuration. -/
theorem Inv.setLoop (h : s.Inv) {loop : Debouncer Config} (hidle : s.body = .idle)
    (hunset : loop.timerSet = false → ∀ c, loop.config = some c → s.loop.timerSet = false ∧ s.loop.config = some c)
    (hconfig : s.loop.config ≠ none → loop.config ≠ none) : { s with loop := loop : Delivery }.Inv where
  busy hbusy := (hbusy hidle).elim
  body := by
    simp only [hidle]
    trivial
  current hset c hc := h.current (hunset hset c hc).1 c (hunset hset c hc).2
  loading := h.loading
  frr := h.frr
  configured hwhen := hconfig (h.configured hwhen)

/-- A step inside a call of `body`. -/
theorem Inv.setBody (h : s.Inv) (hset : s.loop.timerSet = true) {body : Body} {text : String}
    (hof : body.Of text s.loop.config) : { s with conf := text, body := body : Delivery }.Inv where
  busy _ := hset
  body := hof
  current hunset := absurd (hset.symm.trans hunset) (by decide)
  loading := h.loading
  frr := h.frr
  configured := h.configured

/-- A step of the reloader and the ticks that leaves the run where it is in its script. -/
theorem Inv.setReload (h : s.Inv) {reload : ReloadState}
    (hat : ∀ l done before, s.loading = some l → l.At s.reload done before → ∃ done before, l.At reload done before) :
    { s with reload := reload : Delivery }.Inv where
  busy := h.busy
  body := h.body
  current := h.current
  loading l hl := by
    obtain ⟨done, before, hdone⟩ := h.loading l hl
    exact hat l done before hl hdone
  frr := h.frr
  configured := h.configured

theorem take_kept (r : ReloadState) (status : Status) : (r.take status).files = r.files ∧
    (r.take status).remaining = r.remaining ∧ (r.take status).last = r.last := by
  unfold ReloadState.take
  split <;> exact ⟨rfl, rfl, rfl⟩

theorem Inv.take (h : s.Inv) (status : Status) : { s with reload := s.reload.take status : Delivery }.Inv :=
  h.setReload (fun _ done before _ hat =>
    ⟨done, before, hat.keep (take_kept _ _).1 (take_kept _ _).2.1 (take_kept _ _).2.2⟩)

theorem Inv.signal (h : s.Inv) {loop : Debouncer Config} (hbody : s.body = .signalling)
    (hloop : s.loop.step eq (.timeOut none) = some loop) :
    { s with loop := loop, body := .idle, hup := true : Delivery }.Inv := by
  have hof := h.body
  rw [hbody] at hof
  obtain ⟨c, hconfig, hconf⟩ := hof
  obtain ⟨_, hsame⟩ := timeOut_none hloop
  exact {
    busy := fun hbusy => (hbusy rfl).elim
    body := trivial
    current := fun _ d hd => by
      simp only [hsame, hconfig, Option.some.injEq] at hd
      exact ⟨hd ▸ hconf, Or.inl (Or.inl rfl)⟩
    loading := h.loading
    frr := h.frr
    configured := fun _ => by
      simp only [hsame, hconfig]
      exact Option.some_ne_none c }

theorem Inv.fail (h : s.Inv) {err : String} {loop : Debouncer Config}
    (hloop : s.loop.step eq (.timeOut (some err)) = some loop) :
    { s with loop := loop, body := .idle : Delivery }.Inv := by
  obtain ⟨hset, hsame⟩ := timeOut_some hloop
  exact {
    busy := fun hbusy => (hbusy rfl).elim
    body := trivial
    current := fun hunset => absurd (hset.symm.trans hunset) (by decide)
    loading := h.loading
    frr := h.frr
    configured := fun hwhen => hsame ▸ h.configured hwhen }

theorem Inv.trap (h : s.Inv) (hhup : s.hup = true) :
    { s with hup := false, waiting := s.waiting + 1 : Delivery }.Inv where
  busy := h.busy
  body := h.body
  current hunset c hc := ⟨(h.current hunset c hc).1, Or.inl (Or.inr (Nat.succ_pos _))⟩
  loading := h.loading
  frr := h.frr
  configured _ := h.configured (Or.inl (Or.inl hhup))

theorem Inv.start (h : s.Inv) {r : ReloadRun} {reload : ReloadState} (hwaiting : 0 < s.waiting)
    (hreload : s.reload.step (.start r) = some reload) :
    { s with reload := reload, waiting := s.waiting - 1, loading := some { run := r } : Delivery }.Inv where
  busy := h.busy
  body := h.body
  current hunset c hc :=
    ⟨(h.current hunset c hc).1, Or.inr ⟨_, rfl, fun t ht => (by cases ht), fun t ht => (by cases ht)⟩⟩
  loading l hl := by
    cases hl
    cases ReloadState.does_of_step hreload with
    | start _ _ =>
      exact ⟨[], s.reload.files, rfl, rfl, rfl, fun htwo => absurd htwo (by decide), fun hthree =>
        absurd hthree (by decide)⟩
  frr l t hl happlied := by
    cases hl
    cases happlied
  configured _ := h.configured (Or.inl (Or.inr hwaiting))

theorem Inv.writeFile (h : s.Inv) {reload : ReloadState} (hmay : ∀ l ∈ s.loading, l.mayWrite s.reload.remaining = true)
    (hreload : s.reload.step .write = some reload) : { s with reload := reload : Delivery }.Inv := by
  refine h.setReload (fun l done before hl hat => ?_)
  cases ReloadState.does_of_step hreload with
  | write w ws hremaining => exact ⟨done ++ [w], before, hat.next (hmay l hl) hremaining⟩

/-- One of the two calls of `frr-reload.py` reads the file. -/
theorem Inv.setLoading (h : s.Inv) {l l' : Loading} (hl : s.loading = some l) {frr : Running} (hrun : l'.run = l.run)
    (htested : l.tested ≠ none → l'.tested ≠ none) (happlied : l.applied ≠ none → l'.applied ≠ none)
    (hreads : l.Reads s.conf → l'.Reads s.conf)
    (hfrr : ∀ t, l'.applied = some t → l'.run.result = .applied → frr = .runs t) :
    { s with loading := some l', frr := frr : Delivery }.Inv where
  busy := h.busy
  body := h.body
  current hunset c hc := by
    obtain ⟨hconf, hwhen⟩ := h.current hunset c hc
    refine ⟨hconf, hwhen.imp_right (fun hread => ?_)⟩
    obtain ⟨m, hm, hread⟩ := hread
    obtain rfl := Option.some.inj (hl.symm.trans hm)
    exact ⟨l', rfl, hconf ▸ hreads (hconf ▸ hread)⟩
  loading m hm := by
    cases hm
    obtain ⟨done, before, hat⟩ := h.loading l hl
    exact ⟨done, before, hrun ▸ hat.script, hat.files, hrun ▸ hat.last, fun htwo => htested (hat.tested htwo),
      fun hthree hresult => happlied (hat.applied hthree (hrun ▸ hresult))⟩
  frr m t hm hm' hresult := by
    cases hm
    exact hfrr t hm' hresult
  configured _ := h.configured (Or.inr (hl ▸ Option.some_ne_none l))

theorem Inv.step (h : s.Inv) {e : DeliveryStep} (hsent : e.Sent)
    (htimer : ∀ t ∈ s.loop.outstanding, s.loop.timerSet = true) (hstep : s.step eq e = some s') : s'.Inv := by
  cases does_of_step hstep with
  | loop e loop hidle hext hloop =>
    refine h.setLoop hidle (fun hunset c hc => ?_) (external_config hext hsent hloop)
    obtain ⟨hbefore, hsame⟩ := external_unset hext hloop hunset
    exact ⟨hbefore, hsame ▸ hc⟩
  | fire c hcan hconfig =>
    obtain ⟨loop, hloop⟩ := Option.isSome_iff_exists.1 hcan
    obtain ⟨_, he, _⟩ | ⟨_, he, _⟩ | ⟨he | he, _⟩ | ⟨_, t, _, _, ht, _⟩ := Debouncer.step_cases hloop
    · cases he
    · cases he
    · cases he
    · cases he
    · exact h.setBody (htimer t ht) ⟨c, hconfig, rfl⟩
  | empty text hbody =>
    have hof := h.body
    rw [hbody] at hof
    exact h.setBody (h.busy (by simp [hbody])) hof
  | write n text hbody =>
    have hof := h.body
    rw [hbody] at hof
    have hinv : { s with conf := String.ofList (text.toList.take n), body := .writing text : Delivery }.Inv :=
      h.setBody (h.busy (by simp [hbody])) hof
    rwa [← hbody] at hinv
  | written text hbody =>
    have hof := h.body
    rw [hbody] at hof
    exact h.setBody (h.busy (by simp [hbody])) hof
  | signal loop hbody hloop => exact h.signal hbody hloop
  | fail err loop hloop => exact h.fail hloop
  | trap hhup => exact h.trap hhup
  | start r reload hwaiting hreload => exact h.start hwaiting hreload
  | writeFile reload hmay hreload => exact h.writeFile hmay hreload
  | read e reload hfiles hremaining hlast =>
    exact h.setReload (fun _ done before _ hat => ⟨done, before, hat.keep hfiles hremaining hlast⟩)
  | take status => exact h.take status
  | retry status loop _ _ hidle hloop =>
    obtain ⟨hsame, hset⟩ := useOld_config hloop
    refine (h.take status).setLoop hidle (fun hunset c hc => ?_) (hsame ▸ id)
    exact absurd ((hset (hsame ▸ hc ▸ Option.some_ne_none c)).symm.trans hunset) (by decide)
  | test l hl =>
    refine h.setLoading hl rfl (fun _ => Option.some_ne_none _) id (fun hread => ⟨fun t ht => ?_, hread.2⟩)
      (fun t ht hresult => h.frr l t hl ht hresult)
    exact (Option.some.inj ht).symm
  | apply l hl =>
    refine h.setLoading hl rfl id (fun _ => Option.some_ne_none _) (fun hread => ⟨hread.1, fun t ht => ?_⟩)
      (fun t ht hresult => ?_)
    · exact (Option.some.inj ht).symm
    · rw [if_pos hresult, Option.some.inj ht]

theorem inv_run (h : Run (delivery eq conf) past s) (hsent : ∀ x ∈ past, x.2.Sent) : s.Inv := by
  refine h.invariant_past (G := fun _ e => e.Sent) (P := fun _ s => s.Inv) (inv_init eq conf)
    (fun past s e s' hrun hpast hinv hG hstep => ?_) hsent
  exact hinv.step hG (fun t ht => ((tracked hrun hpast).of_timer ht).1) hstep

/-! ## Where nothing is left to do -/

/-- No timer, no call of `body`, no signal and no run of the reloader. -/
def Quiescent (s : Delivery) : Prop :=
  s.loop.outstanding = [] ∧ s.body = .idle ∧ s.hup = false ∧ s.waiting = 0 ∧ s.reload.remaining = []

instance (s : Delivery) : Decidable s.Quiescent := inferInstanceAs (Decidable (_ ∧ _))

theorem Quiescent.not_signalled (h : s.Quiescent) : ¬ s.Signalled := by
  obtain ⟨_, _, hhup, hwaiting, _⟩ := h
  rintro (hset | hpos)
  · exact absurd (hhup.symm.trans hset) (by decide)
  · omega

theorem Quiescent.unset (h : s.Quiescent) (hrun : Run (delivery eq conf) past s) (hsent : ∀ x ∈ past, x.2.Sent) :
    s.loop.timerSet = false := by
  have hiff := (tracked hrun hsent).timed.timerSet_iff
  rw [h.1] at hiff
  simpa using hiff

/-- The last run has read the rendering of the configuration that was handed over last. -/
theorem current_of_quiescent (hrun : Run (delivery eq conf) past s) (hsent : ∀ x ∈ past, x.2.Sent)
    (heq : ∀ a b, eq a b = true → a = b) (hq : s.Quiescent) {c : Config} (hc : handedOver past = some c) :
    ∃ l, s.loading = some l ∧ l.tested = some (templateConfig c) ∧
      (l.run.result ≠ .syntaxError → l.applied = some (templateConfig c)) := by
  have hinv := inv_run hrun hsent
  have hconfig : s.loop.config = some c := by
    obtain ⟨d, hd, hsame⟩ := (tracked hrun hsent).current c hc
    exact hd.trans (congrArg some (hsame.elim id (fun h => (heq c d h).symm)))
  obtain ⟨l, hl, htested, happlied⟩ := ((hinv.current (hq.unset hrun hsent) c hconfig).2).resolve_left hq.not_signalled
  obtain ⟨done, before, hat⟩ := hinv.loading l hl
  obtain ⟨hended, hended'⟩ := hat.ended hq.2.2.2.2
  refine ⟨l, hl, ?_, fun hresult => ?_⟩
  · obtain ⟨t, ht⟩ := Option.ne_none_iff_exists'.1 hended
    rw [ht, htested t ht]
  · obtain ⟨t, ht⟩ := Option.ne_none_iff_exists'.1 (hended' hresult)
    rw [ht, happlied t ht]

end Delivery

/-- **No configuration is lost on its way to FRR.**  Whatever the loop, the writes of the file, the signals, the
reloader's runs and the ticks do in between: where nothing is left to do, the last run of the reloader has tested the
rendering of the configuration that was handed over last, has applied it if the test passed, and if that succeeded FRR
runs it. -/
theorem delivery_current (eq : Config → Config → Bool) (conf : String) (past : List (Delivery × DeliveryStep))
    (s : Delivery) (h : Run (delivery eq conf) past s) (hsent : ∀ x ∈ past, x.2.Sent)
    (heq : ∀ a b, eq a b = true → a = b) (hq : s.Quiescent) (c : Config) (hc : handedOver past = some c) :
    ∃ l, s.loading = some l ∧ l.tested = some (templateConfig c) ∧
      (l.run.result ≠ .syntaxError → l.applied = some (templateConfig c)) ∧
      (l.run.result = .applied → s.frr = .runs (templateConfig c)) := by
  obtain ⟨l, hl, htested, happlied⟩ := Delivery.current_of_quiescent h hsent heq hq hc
  refine ⟨l, hl, htested, happlied, fun hresult => ?_⟩
  exact (Delivery.inv_run h hsent).frr l _ hl (happlied (by rw [hresult]; decide)) hresult

/-- A run of the reloader whose test passes. -/
def loadedBy (r : ReloadRun) : List DeliveryStep :=
  [.reload (.start r), .reload .write, .test, .reload .write, .apply] ++
  (reloadFrr r).tail.tail.map (fun _ => .reload .write)

def written : List DeliveryStep := [.fire, .empty, .write 5, .written, .signal, .trap]

/-- A reload that fails, the tick that sees it, the reload that succeeds and the tick after it. -/
def reloadedTwice : List DeliveryStep :=
  written ++ loadedBy { result := .notApplied, testOutput := "line 3", seconds := 100 } ++ wholeTick.map .reload ++
    written ++ loadedBy { result := .applied, runningConf := "hostname node", seconds := 130 } ++ wholeTick.map .reload

def failedOnce : List DeliveryStep := .loop (.reload { config := some { hostname := "node" } }) :: reloadedTwice

/-- The run of some steps, from an empty file. -/
def delivered (steps : List DeliveryStep) : List (Delivery × DeliveryStep) × Delivery :=
  ((delivery (fun a b => decide (a = b)) "").exec steps [] { conf := "" }).getD ([], { conf := "" })

instance (e : DeliveryStep) : Decidable e.Sent :=
  match e with
  | .loop (.reload _) => inferInstanceAs (Decidable (_ ∨ _))
  | .loop .closed | .loop (.timeOut _) | .loop .done => inferInstanceAs (Decidable True)
  | .fire | .empty | .write _ | .written | .signal | .fail _ | .trap | .reload _ | .test | .apply =>
    inferInstanceAs (Decidable True)

theorem delivered_run {steps : List DeliveryStep}
    (h : ((delivery (fun a b => decide (a = b)) "").exec steps [] { conf := "" }).isSome = true) :
    Run (delivery (fun a b => decide (a = b)) "") (delivered steps).1 (delivered steps).2 :=
  Run.of_exec_getD _ .start h

/-- After the failure the configuration is still the one to run, and after the second reload FRR runs it. -/
theorem delivery_current_failedOnce :
    (delivered failedOnce).2.Quiescent ∧ (delivered failedOnce).2.frr =
    .runs (templateConfig { hostname := "node" }) := by
  have hrun := @delivered_run failedOnce (by decide +kernel)
  have hq : (delivered failedOnce).2.Quiescent := by decide +kernel
  obtain ⟨l, hl, _, _, hfrr⟩ := delivery_current _ "" _ _ hrun (by decide +kernel) (fun a b h => of_decide_eq_true h) hq
    { hostname := "node" } (by decide +kernel)
  have hresult : (delivered failedOnce).2.loading.map (fun l => l.run.result) = some .applied := by decide +kernel
  rw [hl] at hresult
  exact ⟨hq, hfrr (Option.some.inj hresult)⟩

/-! ## What the daemon does about a failure -/

/-- Ticks and runs do not disturb one another, and no failing test prints the word for success. -/
def DeliveryStep.Undisturbed (s : Delivery) : DeliveryStep → Prop
  | .reload (.start r) => s.reload.Undisturbed (.start r) ∧ r.testOutput ≠ reloadSuccess
  | .reload e => s.reload.Undisturbed e
  | _ => True

theorem DeliveryStep.Undisturbed.reload {s : Delivery} {e : ReloadStep} (h : DeliveryStep.Undisturbed s (.reload e)) :
    s.reload.Undisturbed e := by
  cases e with
  | start r => exact h.1
  | write | readStatus | readLastError | readRunningConfig | readError | update => exact h

/-- What a run leaves in the files: its time and result, the running configuration, and if it failed what `--test` has
printed. -/
theorem reloadFrr_leaves (run : ReloadRun) (before : Files) :
    ((reloadFrr run).foldl Files.write before).status = some (statusText run.seconds (run.result = .applied)) ∧
      ((reloadFrr run).foldl Files.write before).runningConfig = some run.runningConf ∧
      (run.result ≠ .applied → ((reloadFrr run).foldl Files.write before).lastError = some run.testOutput) := by
  obtain ⟨result, testOutput, runningConf, seconds⟩ := run
  cases result with
  | syntaxError => exact ⟨rfl, rfl, fun _ => rfl⟩
  | notApplied => exact ⟨rfl, rfl, fun _ => rfl⟩
  | applied => exact ⟨rfl, rfl, fun hne => (hne rfl).elim⟩

theorem lastReloadResult_failure (f : Files) : lastReloadResult f "failure" = f.lastError.getD "" :=
  if_pos (List.infix_refl _)

/-- What a tick reads once the run has ended. -/
theorem Loading.At.fetched {l : Loading} {r : ReloadState} {done : List FileWrite} {before : Files}
    (h : l.At r done before) (hnil : r.remaining = []) {status : Status} (hfetch : fetchStatus r.files = .ok status) :
    status.updateTime = toString l.run.seconds ∧ status.current = l.run.runningConf ∧
      status.lastReloadResult = if l.run.result = .applied then reloadSuccess else l.run.testOutput := by
  have hfiles : r.files = (reloadFrr l.run).foldl Files.write before := by
    rw [h.files, h.script, hnil, List.append_nil]
  obtain ⟨hstatus, hrunning, herror⟩ := reloadFrr_leaves l.run before
  rw [← hfiles] at hstatus hrunning herror
  rw [fetchStatus, readLastReloadResult_statusText hstatus] at hfetch
  cases hfetch
  refine ⟨rfl, by rw [hrunning, Option.getD_some], ?_⟩
  by_cases hresult : l.run.result = .applied
  · simp only [hresult, decide_true, if_true]
    exact if_neg (by decide)
  · simp only [hresult, decide_false, Bool.false_eq_true, if_false, lastReloadResult_failure, herror hresult,
      Option.getD_some]

namespace Delivery

variable {eq : Config → Config → Bool} {conf : String} {s s' : Delivery} {past : List (Delivery × DeliveryStep)}

/-- A failure the daemon has seen is on its way: the loop has a timer, or a run is still to start. -/
structure Answered (s : Delivery) : Prop where
  output : ∀ l, s.loading = some l → l.run.testOutput ≠ reloadSuccess
  answered : s.reload.remaining = [] → ∀ l, s.loading = some l → l.run.result ≠ .applied →
    s.reload.status.updateTime = toString l.run.seconds → s.loop.timerSet = true ∨ s.Signalled

theorem Answered.take (h : s.Answered) (hinv : s.Inv) (hreload : ReloadState.Inv {} s.reload) {status : Status}
    (hpoll : s.reload.poll = .fetched status)
    (hquiet : status.updateTime = s.reload.status.updateTime ∨ status.lastReloadResult = reloadSuccess) :
    { s with reload := s.reload.take status : Delivery }.Answered := by
  refine ⟨h.output, fun hnil l hl hresult htime => ?_⟩
  simp only [ReloadState.take] at hnil htime
  split at htime
  · rename_i hsame
    rw [if_pos hsame] at hnil
    exact h.answered hnil l hl hresult htime
  · rename_i hnew
    rw [if_neg hnew] at hnil
    obtain ⟨done, before, hat⟩ := hinv.loading l hl
    -- the tick has read what the last run left, and that is a failure
    have hseen : s.reload.Seen (toString l.run.seconds) (fetchStatus s.reload.files = .ok status) := by
      have hpolled := hreload.poll
      rw [hpoll] at hpolled
      exact htime ▸ hpolled
    have hfailed := (hat.fetched hnil (hseen.last hat.last)).2.2
    rw [if_neg hresult] at hfailed
    exact absurd (hfailed.symm.trans (hquiet.resolve_left hnew)) (h.output l hl)

theorem Answered.step (h : s.Answered) (hinv : s.Inv) (hreload : ReloadState.Inv {} s.reload) {e : DeliveryStep}
    (hwhen : e.Undisturbed s) (hstep : s.step eq e = some s') : s'.Answered := by
  cases does_of_step hstep with
  | loop e loop hidle hext hloop =>
    refine ⟨h.output, fun hnil l hl hresult htime => ?_⟩
    refine (h.answered hnil l hl hresult htime).imp_left (fun hset => ?_)
    by_contra hunset
    have hbefore := (external_unset hext hloop (by simpa using hunset)).1
    exact absurd (hset.symm.trans hbefore) (by decide)
  | signal => exact ⟨h.output, fun _ _ _ _ _ => Or.inr (Or.inl rfl)⟩
  | fail err loop hloop => exact ⟨h.output, fun _ _ _ _ _ => Or.inl (timeOut_some hloop).1⟩
  | trap => exact ⟨h.output, fun _ _ _ _ _ => Or.inr (Or.inr (Nat.succ_pos _))⟩
  | start r reload _ hreload' =>
    refine ⟨fun l hl => ?_, fun hnil => ?_⟩
    · cases hl
      exact hwhen.2
    · cases ReloadState.does_of_step hreload' with
      | start _ _ => exact absurd hnil (by simp [reloadFrr, redirect])
  | writeFile reload _ hreload' =>
    refine ⟨h.output, fun hnil l hl hresult htime => ?_⟩
    obtain ⟨done, before, hat⟩ := hinv.loading l hl
    cases ReloadState.does_of_step hreload' with
    | write w ws hremaining =>
      -- the run has not ended before this write, so the daemon has seen an earlier one only
      have hseen : s.reload.Seen (toString l.run.seconds) False := by
        refine htime ▸ (hreload.status (Or.inl rfl)).earlier (fun m hm => ⟨m, hm, Or.inr ⟨rfl, ?_⟩⟩)
        rw [hremaining]
        exact List.cons_ne_nil w ws
      exact (hseen.last hat.last).elim
  | read e reload _ hremaining _ hstatus =>
    refine ⟨h.output, fun hnil l hl hresult htime => h.answered (hremaining ▸ hnil) l hl hresult ?_⟩
    rw [← hstatus]
    exact htime
  | take status hpoll hquiet => exact h.take hinv hreload hpoll hquiet
  | retry status loop _ _ _ hloop =>
    refine ⟨h.output, fun _ l hl _ _ => Or.inl ((useOld_config hloop).2 ?_)⟩
    exact hinv.configured (Or.inr (hl ▸ Option.some_ne_none l))
  | test l hl =>
    refine ⟨fun m hm => ?_, fun hnil m hm hresult htime => ?_⟩
    · cases hm
      exact h.output l hl
    · cases hm
      exact h.answered hnil l hl hresult htime
  | apply l hl =>
    refine ⟨fun m hm => ?_, fun hnil m hm hresult htime => ?_⟩
    · cases hm
      exact h.output l hl
    · cases hm
      exact h.answered hnil l hl hresult htime
  | fire | empty | write | written => exact ⟨h.output, h.answered⟩

/-- The ticks and the runs in a run that is not disturbed. -/
theorem reload_inv (h : Run (delivery eq conf) past s) (hwhen : ∀ x ∈ past, x.2.Undisturbed x.1) :
    ReloadState.Inv {} s.reload := by
  refine ReloadState.inv_run_init (reload_run h) (fun x hx => ?_)
  obtain ⟨⟨t, e⟩, hy, hmap⟩ := List.mem_filterMap.1 hx
  obtain ⟨d, hd, rfl⟩ := Option.map_eq_some_iff.1 hmap
  cases e with
  | reload e =>
    cases hd
    exact (hwhen _ hy).reload
  | loop | fire | empty | write | written | signal | fail | trap | test | apply => cases hd

theorem answered_run (h : Run (delivery eq conf) past s) (hsent : ∀ x ∈ past, x.2.Sent)
    (hwhen : ∀ x ∈ past, x.2.Undisturbed x.1) : s.Answered := by
  refine h.invariant_past (G := fun s e => e.Sent ∧ e.Undisturbed s) (P := fun _ s => s.Answered)
    ⟨fun l hl => (by cases hl), fun _ l hl => (by cases hl)⟩ (fun past s e s' hrun hpast hanswered hG hstep => ?_)
    (fun x hx => ⟨hsent x hx, hwhen x hx⟩)
  have hinv := inv_run hrun (fun x hx => (hpast x hx).1)
  have hreload := reload_inv hrun (fun x hx => (hpast x hx).2)
  exact hanswered.step hinv hreload hG.2 hstep

/-- **Where the daemon has seen how the last run ended and nothing is left to do, the run has applied what was handed
over last**: a failure would have been answered by another reload. -/
theorem applied_of_quiescent (h : Run (delivery eq conf) past s) (hsent : ∀ x ∈ past, x.2.Sent)
    (hwhen : ∀ x ∈ past, x.2.Undisturbed x.1) (heq : ∀ a b, eq a b = true → a = b) (hq : s.Quiescent) {now : Status}
    (hnow : fetchStatus s.reload.files = .ok now) (htime : now.updateTime = s.reload.status.updateTime)
    {c : Config} (hc : handedOver past = some c) :
    ∃ l, s.loading = some l ∧ l.applied = some (templateConfig c) ∧ s.frr = .runs (templateConfig c) ∧
      s.reload.status.lastReloadResult = reloadSuccess ∧ s.reload.status.current = l.run.runningConf := by
  obtain ⟨l, hl, _, happlied⟩ := current_of_quiescent h hsent heq hq hc
  have hinv := inv_run h hsent
  obtain ⟨done, before, hat⟩ := hinv.loading l hl
  have hresult : l.run.result = .applied := by
    by_contra hresult
    have hstatus : s.reload.status.updateTime = toString l.run.seconds :=
      htime.symm.trans (hat.fetched hq.2.2.2.2 hnow).1
    obtain hset | hsignal := (answered_run h hsent hwhen).answered hq.2.2.2.2 l hl hresult hstatus
    · exact absurd (hset.symm.trans (hq.unset h hsent)) (by decide)
    · exact hq.not_signalled hsignal
  have hloaded := happlied (by rw [hresult]; decide)
  obtain ⟨status, hread, hlast, hcurrent⟩ := (reload_inv h hwhen).status_of (Or.inl rfl) hq.2.2.2.2 hnow htime
  obtain ⟨-, hrunning, hreported⟩ := hat.fetched hq.2.2.2.2 hread
  refine ⟨l, hl, hloaded, hinv.frr l _ hl hloaded hresult, ?_, hcurrent.trans hrunning⟩
  rw [hlast, hreported, if_pos hresult]

end Delivery

instance (s : Delivery) (e : DeliveryStep) : Decidable (e.Undisturbed s) :=
  match e with
  | .reload (.start _) => inferInstanceAs (Decidable (_ ∧ _))
  | .reload .readStatus => inferInstanceAs (Decidable (s.reload.Undisturbed .readStatus))
  | .reload .write | .reload .readLastError | .reload .readRunningConfig | .reload .readError | .reload .update
      | .loop _ | .fire
  | .empty | .write _ | .written | .signal | .fail _ | .trap | .test | .apply => inferInstanceAs (Decidable True)

/-! ## What FRR may load -/

/-- The loop was handed the configuration. -/
def Received (past : List (Delivery × DeliveryStep)) (c : Config) : Prop :=
  ∃ x ∈ past, ∃ newCfg, x.2 = .loop (.reload newCfg) ∧ newCfg.useOld = false ∧ newCfg.config = some c

/-- The beginning of a rendering, or all of it. -/
def Begins (past : List (Delivery × DeliveryStep)) (text : String) : Prop :=
  ∃ c, Received past c ∧ text.toList <+: (templateConfig c).toList

theorem Received.later {past : List (Delivery × DeliveryStep)} {c : Config} (h : Received past c)
    (x : Delivery × DeliveryStep) : Received (x :: past) c := by
  obtain ⟨y, hy, hreceived⟩ := h
  exact ⟨y, List.mem_cons_of_mem x hy, hreceived⟩

theorem Begins.later {past : List (Delivery × DeliveryStep)} {text : String} (h : Begins past text)
    (x : Delivery × DeliveryStep) : Begins (x :: past) text := by
  obtain ⟨c, hc, hpre⟩ := h
  exact ⟨c, hc.later x, hpre⟩

namespace Delivery

variable {eq : Config → Config → Bool} {conf : String} {s s' : Delivery} {past : List (Delivery × DeliveryStep)}

/-- Nothing was written yet, or what is in the file is the beginning of a rendering. -/
structure Rendered (past : List (Delivery × DeliveryStep)) (s : Delivery) : Prop where
  config : ∀ c, s.loop.config = some c → Received past c
  conf : Begins past s.conf ∨ (¬ s.Signalled ∧ s.loading = none ∧ (s.body = .idle ∨ ∃ text, s.body = .opening text))
  frr : ∀ text, s.frr = .runs text → Begins past text

theorem loop_received {e : LoopEvent Config} {loop : Debouncer Config} (hloop : s.loop.step eq e = some loop)
    (h : ∀ c, s.loop.config = some c → Received past c) (c : Config) (hc : loop.config = some c) :
    Received ((s, .loop e) :: past) c := by
  obtain ⟨_, rfl, _, rfl⟩ | ⟨newCfg, rfl, _, rfl⟩ | ⟨_, rfl⟩ | ⟨err, t, rfl, _, _, rfl⟩ := Debouncer.step_cases hloop
  · exact (h c hc).later _
  · have hadopt : (s.loop.adopt newCfg).config = some c := by
      split at hc <;> exact hc
    unfold Debouncer.adopt at hadopt
    split at hadopt
    · exact (h c hadopt).later _
    · rename_i hnew
      exact ⟨_, List.mem_cons_self .., newCfg, rfl, by simpa using hnew, hadopt⟩
  · exact (h c hc).later _
  · cases err with
    | none => exact (h c hc).later _
    | some err => exact (h c hc).later _

theorem Rendered.keep (h : Rendered past s) (x : Delivery × DeliveryStep) (hconfig : s'.loop.config = s.loop.config)
    (hconf : s'.conf = s.conf) (hsignal : s'.Signalled ∨ s'.loading ≠ none → s.Signalled ∨ s.loading ≠ none)
    (hbody : s'.body = s.body ∨ s'.body = .idle ∨ ∃ text, s'.body = .opening text) (hfrr : s'.frr = s.frr) :
    Rendered (x :: past) s' where
  config c hc := (h.config c (hconfig ▸ hc)).later x
  conf := by
    rw [hconf]
    refine h.conf.imp (fun hbegins => hbegins.later x) (fun hnothing => ?_)
    obtain ⟨hnot, hloading, hidle⟩ := hnothing
    have hneither : ¬ (s'.Signalled ∨ s'.loading ≠ none) :=
      fun hwhen => (hsignal hwhen).elim hnot (fun hne => hne hloading)
    rw [not_or, not_ne_iff] at hneither
    exact ⟨hneither.1, hneither.2, hbody.elim (fun hsame => hsame ▸ hidle) id⟩
  frr text htext := (h.frr text (hfrr ▸ htext)).later x

/-- A write of the file. -/
theorem Rendered.setConf (h : Rendered past s) (x : Delivery × DeliveryStep) {body : Body} {text whole : String}
    (hwhole : ∃ c, s.loop.config = some c ∧ whole = templateConfig c) (hpre : text.toList <+: whole.toList) :
    Rendered (x :: past) { s with conf := text, body := body } where
  config c hc := (h.config c hc).later x
  conf := by
    obtain ⟨c, hc, rfl⟩ := hwhole
    exact Or.inl ⟨c, (h.config c hc).later x, hpre⟩
  frr t ht := (h.frr t ht).later x

theorem Rendered.step (h : Rendered past s) (hinv : s.Inv) {e : DeliveryStep} (hstep : s.step eq e = some s') :
    Rendered ((s, e) :: past) s' := by
  have hof := hinv.body
  cases does_of_step hstep with
  | loop e loop hidle _ hloop =>
    have hkeep : Rendered ((s, .loop e) :: past) s := h.keep _ rfl rfl id (Or.inl rfl) rfl
    exact ⟨loop_received hloop h.config, hkeep.conf, hkeep.frr⟩
  | fire c => exact h.keep _ rfl rfl id (Or.inr (Or.inr ⟨_, rfl⟩)) rfl
  | empty text hbody =>
    rw [hbody] at hof
    exact h.setConf _ hof List.nil_prefix
  | write n text hbody =>
    rw [hbody] at hof
    have hset : Rendered _ { s with conf := String.ofList (text.toList.take n), body := .writing text } :=
      h.setConf (s, .write n) hof (by rw [String.toList_ofList]; exact List.take_prefix n _)
    rwa [← hbody] at hset
  | written text hbody =>
    rw [hbody] at hof
    exact h.setConf _ hof (List.prefix_refl _)
  | signal loop hbody hloop =>
    rw [hbody] at hof
    obtain ⟨c, hc, hconf⟩ := hof
    have hkeep : Rendered ((s, .signal) :: past) s := h.keep _ rfl rfl id (Or.inl rfl) rfl
    refine ⟨fun d hd => hkeep.config d ((timeOut_none hloop).2 ▸ hd), Or.inl ⟨c, hkeep.config c hc, ?_⟩, hkeep.frr⟩
    exact hconf ▸ List.prefix_refl _
  | fail err loop hloop => exact h.keep _ (timeOut_some hloop).2 rfl id (Or.inr (Or.inl rfl)) rfl
  | trap hhup => exact h.keep _ rfl rfl (fun _ => Or.inl (Or.inl hhup)) (Or.inl rfl) rfl
  | start r reload hwaiting => exact h.keep _ rfl rfl (fun _ => Or.inl (Or.inr hwaiting)) (Or.inl rfl) rfl
  | writeFile | read | take => exact h.keep _ rfl rfl id (Or.inl rfl) rfl
  | retry status loop _ _ _ hloop => exact h.keep _ (useOld_config hloop).1 rfl id (Or.inl rfl) rfl
  | test l hl => exact h.keep _ rfl rfl (fun _ => Or.inr (hl ▸ Option.some_ne_none l)) (Or.inl rfl) rfl
  | apply l hl =>
    have hconf : Begins past s.conf := h.conf.resolve_right (fun hnothing => by
      rw [hl] at hnothing
      cases hnothing.2.1)
    refine ⟨fun c hc => (h.config c hc).later _, Or.inl (hconf.later _), fun text htext => ?_⟩
    simp only at htext
    split at htext
    · cases htext
      exact hconf.later _
    · cases htext

theorem rendered_run (h : Run (delivery eq conf) past s) (hsent : ∀ x ∈ past, x.2.Sent) : Rendered past s := by
  refine h.invariant_past (G := fun _ e => e.Sent) (P := Rendered)
    ⟨fun c hc => (by cases hc), Or.inr ⟨?_, rfl, Or.inl rfl⟩, fun t ht => (by cases ht)⟩
    (fun past s e s' hrun hpast hprev _ hstep => hprev.step (inv_run hrun hpast) hstep) hsent
  rintro (hhup | hwaiting)
  · cases hhup
  · cases hwaiting

end Delivery

/-- **FRR never loads anything but the beginning of a rendering**: the file is the one of a configuration that was
handed over, whole or, where a run of the reloader reads it while it is written, as far as it was written. -/
theorem delivery_rendered (eq : Config → Config → Bool) (conf : String) (past : List (Delivery × DeliveryStep))
    (s : Delivery) (h : Run (delivery eq conf) past s) (hsent : ∀ x ∈ past, x.2.Sent) (text : String)
    (hfrr : s.frr = .runs text) : Begins past text :=
  (Delivery.rendered_run h hsent).frr text hfrr

/-- A second configuration comes while the reloader is between its test of the first and the reload. -/
def tornFile : List DeliveryStep :=
  .loop (.reload { config := some { hostname := "node" } }) :: written ++
    [.reload (.start { result := .applied, seconds := 100 }), .reload .write, .test, .reload .write,
      .loop (.reload { config := some { hostname := "other" } }), .fire, .empty, .write 5, .apply]

/-- FRR then runs what was written of the second, which is not what was tested. -/
theorem delivery_rendered_torn :
    (delivered tornFile).2.frr = .runs "log s" ∧
      (delivered tornFile).2.loading.map Loading.tested = some (some (templateConfig { hostname := "node" })) ∧
      Begins (delivered tornFile).1 "log s" := by
  have hfrr : (delivered tornFile).2.frr = .runs "log s" := by decide +kernel
  exact ⟨hfrr, by decide +kernel,
    delivery_rendered _ "" _ _ (@delivered_run tornFile (by decide +kernel)) (by decide +kernel) _ hfrr⟩

end FrrK8s
