import FrrK8s.Reconcile
import FrrK8s.Reload
/-!
# NodeState — the published state of a node (`FRRStateReconciler`)

Two producers change what is to be published: runs of the configuration controller, which notify when their result is
not the one before, and ticks of the daemon, which notify when they took a new status.  A notification is an event on
its way to a queue that holds one event at most; a run for it reads the stored object, the status and the conversion
result one after the other, and writes when they differ.  The object's own changes wake the controller too.  At any time
what is stored is current, or a notification is due, or the run in progress has read nothing that is out of date
(`NodeState.Current`); so where nothing is due and no run is in progress, what is stored is current
(`nodeState_quiescent`).
-/
namespace FrrK8s

/-! ## Passwords in texts -/

/-- `ReplaceAllString` of `password.*`, which matches up to the end of the line; `skip` holds within a match. -/
def cleanFrom (skip : Bool) : List Char → List Char
  | [] => []
  | c :: cs =>
    if skip then (if c = '\n' then c :: cleanFrom false cs else cleanFrom true cs)
    else if "password".toList <+: c :: cs then "password <retracted>".toList ++ cleanFrom true cs
    else c :: cleanFrom false cs

def cleanPasswords (toClean : String) : String := String.ofList (cleanFrom false toClean.toList)

/-! ## The system -/

/-- `FRRNodeStateStatus`. -/
structure NodeStatus where
  runningConfig : String := ""
  lastReloadResult : String := ""
  lastConversionResult : String := ""
deriving DecidableEq, Repr

def nodeStatusOf (frrStatus : Status) (conversionResult : String) : NodeStatus :=
  { runningConfig := cleanPasswords frrStatus.current
    lastReloadResult := cleanPasswords frrStatus.lastReloadResult
    lastConversionResult := conversionResult }

/-- A run of the configuration controller: between its start, where it keeps the last result, its publication and, if
the result is another one, its notification. -/
inductive Converting
  | idle
  | running (last : String)
  | notifying
deriving DecidableEq, Repr

/-- A run of `FRRStateReconciler`, by what it has read. -/
inductive Publishing
  | idle
  | started
  | got (state : NodeStatus)
  | gotStatus (state : NodeStatus) (frrStatus : Status)
  | gotResult (state : NodeStatus) (frrStatus : Status) (conversionResult : String)
deriving DecidableEq, Repr

/-- The reconciler and the daemon with what they are doing, the events on their way, the queue, the run of the state
controller, and the stored object. -/
structure NodeState where
  reconciler : Reconciler := {}
  converting : Converting := .idle
  frr : Status := {}
  polling : Bool := false
  pending : Nat
  queued : Bool := false
  publishing : Publishing := .idle
  stored : Option NodeStatus

inductive NodeStep
  | convert
  | publish (calls : Calls)
  | notifyConverted
  | poll (status : Status)
  | notifyPolled
  | deliver
  | reconcile
  | wake
  | get
  | getStatus
  | conversionResult
  | update

namespace NodeState

/-- A producer is between its update and its notification, or an event is pending or queued. -/
def Due (s : NodeState) : Prop := s.converting = .notifying ∨ s.polling = true ∨ 0 < s.pending ∨ s.queued = true

/-- Nothing is due, and no event is being processed. -/
def Quiescent (s : NodeState) : Prop := ¬ s.Due ∧ s.publishing = .idle

instance (s : NodeState) : Decidable s.Due := inferInstanceAs (Decidable (_ ∨ _ ∨ _ ∨ _))

instance (s : NodeState) : Decidable s.Quiescent := inferInstanceAs (Decidable (_ ∧ _))

/-- One step of one of them; a run of the state controller starts for the queued event, or because the object
changed. -/
def step (env : ReconcilerSettings) (s : NodeState) : NodeStep → Option NodeState
  | .convert =>
    match s.converting with
    | .idle => some { s with converting := .running s.reconciler.conversionResult }
    | _ => none
  | .publish calls =>
    match s.converting with
    | .running last =>
      let reconciler := FrrK8s.reconcile env s.reconciler calls
      some { s with
        reconciler := reconciler
        converting := if reconciler.conversionResult ≠ last then .notifying else .idle }
    | _ => none
  | .notifyConverted =>
    match s.converting with
    | .notifying => some { s with converting := .idle, pending := s.pending + 1 }
    | _ => none
  | .poll status =>
    if s.polling then none
    else if status.updateTime = s.frr.updateTime then some s
    else some { s with frr := status, polling := true }
  | .notifyPolled => if s.polling then some { s with polling := false, pending := s.pending + 1 } else none
  | .deliver => if 0 < s.pending then some { s with pending := s.pending - 1, queued := true } else none
  | .reconcile =>
    match s.publishing with
    | .idle => if s.queued then some { s with queued := false, publishing := .started } else none
    | _ => none
  | .wake =>
    match s.publishing with
    | .idle => some { s with publishing := .started }
    | _ => none
  | .get =>
    match s.publishing with
    | .started =>
      match s.stored with
      | some state => some { s with publishing := .got state }
      -- not found: an empty one is created
      | none => some { s with publishing := .got {}, stored := some {} }
    | _ => none
  | .getStatus =>
    match s.publishing with
    | .got state => some { s with publishing := .gotStatus state s.frr }
    | _ => none
  | .conversionResult =>
    match s.publishing with
    | .gotStatus state frrStatus =>
      some { s with publishing := .gotResult state frrStatus s.reconciler.conversionResult }
    | _ => none
  | .update =>
    match s.publishing with
    | .gotResult state frrStatus conversionResult =>
      let newStatus := nodeStatusOf frrStatus conversionResult
      some { s with
        publishing := .idle
        stored := if state = newStatus then s.stored else some newStatus }
    | _ => none

end NodeState

/-- From the start of the controllers, which send a first event, with the object as it was stored. -/
def nodeStates (env : ReconcilerSettings) (stored : Option NodeStatus) : System NodeState NodeStep where
  init := { pending := 1, stored := stored }
  step := NodeState.step env

/-! ## What is published -/

namespace NodeState

/-- What is to be published. -/
def target (s : NodeState) : NodeStatus := nodeStatusOf s.frr s.reconciler.conversionResult

/-- What a run of the state controller has read is what there is. -/
def UpToDate (s : NodeState) : Prop :=
  match s.publishing with
  | .idle => s.stored = some s.target
  | .started | .got _ => True
  | .gotStatus _ frrStatus => frrStatus = s.frr
  | .gotResult _ frrStatus conversionResult => frrStatus = s.frr ∧ conversionResult = s.reconciler.conversionResult

/-- The object a run got is the stored one. -/
def Got (s : NodeState) : Prop :=
  match s.publishing with
  | .idle | .started => True
  | .got state | .gotStatus state _ | .gotResult state _ _ => s.stored = some state

/-- **What is stored is current, or will be.** -/
structure Current (s : NodeState) : Prop where
  /-- The result a run of the configuration controller compares with is the published one. -/
  last : ∀ last, s.converting = .running last → last = s.reconciler.conversionResult
  got : s.Got
  upToDate : s.Due ∨ s.UpToDate

variable {env : ReconcilerSettings} {s s' : NodeState}

/-- Steps of the producers and of the queue leave the run of the state controller and the object alone. -/
theorem Got.congr (h : s.Got) (hpublishing : s'.publishing = s.publishing) (hstored : s'.stored = s.stored) :
    s'.Got := by
  unfold Got
  rw [hpublishing, hstored]
  exact h

theorem UpToDate.congr (h : s.UpToDate) (hpublishing : s'.publishing = s.publishing) (hstored : s'.stored = s.stored)
    (hfrr : s'.frr = s.frr) (hresult : s'.reconciler.conversionResult = s.reconciler.conversionResult) :
    s'.UpToDate := by
  unfold UpToDate target
  rw [hpublishing, hstored, hfrr, hresult]
  exact h

/-- What a step does, and where it does it. -/
inductive Does (env : ReconcilerSettings) (s : NodeState) : NodeStep → NodeState → Prop
  | convert (hidle : s.converting = .idle) :
      Does env s .convert { s with converting := .running s.reconciler.conversionResult }
  | publish (calls : Calls) (last : String) (hlast : s.converting = .running last) :
      Does env s (.publish calls) { s with
        reconciler := FrrK8s.reconcile env s.reconciler calls
        converting := if (FrrK8s.reconcile env s.reconciler calls).conversionResult ≠ last then .notifying else .idle }
  | notifyConverted : Does env s .notifyConverted { s with converting := .idle, pending := s.pending + 1 }
  | sameStatus (status : Status) : Does env s (.poll status) s
  | newStatus (status : Status) : Does env s (.poll status) { s with frr := status, polling := true }
  | notifyPolled : Does env s .notifyPolled { s with polling := false, pending := s.pending + 1 }
  | deliver : Does env s .deliver { s with pending := s.pending - 1, queued := true }
  | reconcile : Does env s .reconcile { s with queued := false, publishing := .started }
  | wake : Does env s .wake { s with publishing := .started }
  | get (state : NodeStatus) (hstored : s.stored = some state) : Does env s .get { s with publishing := .got state }
  | create : Does env s .get { s with publishing := .got {}, stored := some {} }
  | getStatus (state : NodeStatus) (hrun : s.publishing = .got state) :
      Does env s .getStatus { s with publishing := .gotStatus state s.frr }
  | conversionResult (state : NodeStatus) (frrStatus : Status) (hrun : s.publishing = .gotStatus state frrStatus) :
      Does env s .conversionResult { s with publishing := .gotResult state frrStatus s.reconciler.conversionResult }
  | update (state : NodeStatus) (frrStatus : Status) (conversionResult : String)
      (hrun : s.publishing = .gotResult state frrStatus conversionResult) :
      Does env s .update { s with
        publishing := .idle
        stored := if state = nodeStatusOf frrStatus conversionResult then s.stored
          else some (nodeStatusOf frrStatus conversionResult) }

theorem does_of_step {e : NodeStep} (hstep : s.step env e = some s') : s.Does env e s' := by
  cases e with
  | convert =>
    simp only [NodeState.step] at hstep
    split at hstep
    · rename_i hidle
      cases hstep
      exact .convert hidle
    · cases hstep
  | publish calls =>
    simp only [NodeState.step] at hstep
    split at hstep
    · rename_i last hlast
      cases hstep
      exact .publish calls last hlast
    · cases hstep
  | notifyConverted =>
    simp only [NodeState.step] at hstep
    split at hstep
    · cases hstep
      exact .notifyConverted
    · cases hstep
  | poll status =>
    simp only [NodeState.step] at hstep
    split at hstep
    · cases hstep
    split at hstep
    · cases hstep
      exact .sameStatus status
    · cases hstep
      exact .newStatus status
  | notifyPolled =>
    simp only [NodeState.step] at hstep
    split at hstep
    · cases hstep
      exact .notifyPolled
    · cases hstep
  | deliver =>
    simp only [NodeState.step] at hstep
    split at hstep
    · cases hstep
      exact .deliver
    · cases hstep
  | reconcile =>
    simp only [NodeState.step] at hstep
    split at hstep
    · split at hstep
      · cases hstep
        exact .reconcile
      · cases hstep
    · cases hstep
  | wake =>
    simp only [NodeState.step] at hstep
    split at hstep
    · cases hstep
      exact .wake
    · cases hstep
  | get =>
    simp only [NodeState.step] at hstep
    split at hstep
    · split at hstep
      · rename_i state hstored
        cases hstep
        exact .get state hstored
      · cases hstep
        exact .create
    · cases hstep
  | getStatus =>
    simp only [NodeState.step] at hstep
    split at hstep
    · rename_i state hrun
      cases hstep
      exact .getStatus state hrun
    · cases hstep
  | conversionResult =>
    simp only [NodeState.step] at hstep
    split at hstep
    · rename_i state frrStatus hrun
      cases hstep
      exact .conversionResult state frrStatus hrun
    · cases hstep
  | update =>
    simp only [NodeState.step] at hstep
    split at hstep
    · rename_i state frrStatus conversionResult hrun
      cases hstep
      exact .update state frrStatus conversionResult hrun
    · cases hstep

theorem Current.publish (h : s.Current) {calls : Calls} {last : String} (hlast : s.converting = .running last) :
    { s with
      reconciler := FrrK8s.reconcile env s.reconciler calls
      converting := if (FrrK8s.reconcile env s.reconciler calls).conversionResult ≠ last then .notifying else .idle :
        NodeState }.Current := by
  by_cases hne : (FrrK8s.reconcile env s.reconciler calls).conversionResult ≠ last
  · rw [if_pos hne]
    exact ⟨fun _ hrun => (by cases hrun), h.got.congr rfl rfl, Or.inl (Or.inl rfl)⟩
  · rw [if_neg hne]
    have hsame : (FrrK8s.reconcile env s.reconciler calls).conversionResult = s.reconciler.conversionResult :=
      (not_not.1 hne).trans (h.last last hlast)
    refine ⟨fun _ hrun => (by cases hrun), h.got.congr rfl rfl, ?_⟩
    obtain hdue | hup := h.upToDate
    · obtain hnotifying | hdue := hdue
      · rw [hlast] at hnotifying
        cases hnotifying
      · exact Or.inl (Or.inr hdue)
    · exact Or.inr (hup.congr rfl rfl rfl hsame)

theorem Current.update (h : s.Current) {state : NodeStatus} {frrStatus : Status} {conversionResult : String}
    (hrun : s.publishing = .gotResult state frrStatus conversionResult) :
    { s with
      publishing := .idle
      stored := if state = nodeStatusOf frrStatus conversionResult then s.stored
        else some (nodeStatusOf frrStatus conversionResult) : NodeState }.Current := by
  refine ⟨h.last, trivial, h.upToDate.imp id (fun hup => ?_)⟩
  have hgot := h.got
  unfold Got at hgot
  unfold UpToDate at hup
  rw [hrun] at hgot hup
  obtain ⟨rfl, rfl⟩ := hup
  show (if _ then _ else _) = _
  split
  · rename_i hstate
    rw [hgot, hstate]
    rfl
  · rfl

theorem Current.convert (h : s.Current) (hidle : s.converting = .idle) :
    { s with converting := .running s.reconciler.conversionResult : NodeState }.Current := by
  refine ⟨fun last hrun => by cases hrun; rfl, h.got.congr rfl rfl, ?_⟩
  obtain (hnotifying | hdue) | hup := h.upToDate
  · rw [hidle] at hnotifying
    cases hnotifying
  · exact Or.inl (Or.inr hdue)
  · exact Or.inr (hup.congr rfl rfl rfl rfl)

theorem Current.step (h : s.Current) {e : NodeStep} (hstep : s.step env e = some s') : s'.Current := by
  have hgot := h.got
  have hpending : 0 < s.pending + 1 := Nat.succ_pos _
  cases does_of_step hstep with
  | convert hidle => exact h.convert hidle
  | publish calls last hlast => exact h.publish hlast
  | notifyConverted =>
    exact ⟨fun _ hrun => (by cases hrun), hgot.congr rfl rfl, Or.inl (Or.inr (Or.inr (Or.inl hpending)))⟩
  | sameStatus status => exact h
  | newStatus status => exact ⟨h.last, hgot.congr rfl rfl, Or.inl (Or.inr (Or.inl rfl))⟩
  | notifyPolled => exact ⟨h.last, hgot.congr rfl rfl, Or.inl (Or.inr (Or.inr (Or.inl hpending)))⟩
  | deliver => exact ⟨h.last, hgot.congr rfl rfl, Or.inl (Or.inr (Or.inr (Or.inr rfl)))⟩
  -- a run that has only started has read nothing yet
  | reconcile => exact ⟨h.last, trivial, Or.inr trivial⟩
  | wake => exact ⟨h.last, trivial, Or.inr trivial⟩
  | get state hstored => exact ⟨h.last, hstored, Or.inr trivial⟩
  | create => exact ⟨h.last, rfl, Or.inr trivial⟩
  | getStatus state hrun =>
    rw [Got, hrun] at hgot
    exact ⟨h.last, hgot, Or.inr rfl⟩
  | conversionResult state frrStatus hrun =>
    rw [Got, hrun] at hgot
    refine ⟨h.last, hgot, h.upToDate.imp id (fun hup => ?_)⟩
    rw [UpToDate, hrun] at hup
    exact ⟨hup, rfl⟩
  | update state frrStatus conversionResult hrun => exact h.update hrun

theorem current_init (stored : Option NodeStatus) : ((nodeStates env stored).init).Current :=
  ⟨fun _ hrun => (by cases hrun), trivial, Or.inl (Or.inr (Or.inr (Or.inl Nat.one_pos)))⟩

theorem current_run {stored : Option NodeStatus} {past : List (NodeState × NodeStep)}
    (h : Run (nodeStates env stored) past s) : s.Current :=
  h.invariant (G := fun _ _ => True) (P := fun _ s => s.Current) (current_init stored)
    (fun _ _ _ _ _ hcurrent _ hstep => hcurrent.step hstep) (fun _ _ => trivial)

end NodeState

/-- **Where nothing is due and no event is being processed, the stored object is current.** -/
theorem nodeState_quiescent (env : ReconcilerSettings) (stored : Option NodeStatus) (past : List (NodeState × NodeStep))
    (s : NodeState) (h : Run (nodeStates env stored) past s) (hquiet : s.Quiescent) :
    s.stored = some
      { runningConfig := cleanPasswords s.frr.current
        lastReloadResult := cleanPasswords s.frr.lastReloadResult
        lastConversionResult := s.reconciler.conversionResult } := by
  obtain hdue | hup := (NodeState.current_run h).upToDate
  · exact (hquiet.1 hdue).elim
  · rw [NodeState.UpToDate, hquiet.2] at hup
    exact hup

/-- A run for the first event, during which a configuration is converted and a status polled, and a run for both. -/
def publishedTwice : List NodeStep :=
  [.deliver, .reconcile, .convert, .get, .getStatus, .publish (listedCalls [firstPart] (.ok "")), .conversionResult,
    .notifyConverted, .poll ⟨"100", "neighbor 10.0.0.1 password secret\nexit", "success"⟩, .update, .deliver,
    .notifyPolled, .deliver, .reconcile, .get, .getStatus, .conversionResult, .update]

theorem nodeState_quiescent_publishedTwice :
    ∃ past s, (nodeStates plainSettings none).exec publishedTwice [] (nodeStates plainSettings none).init =
    some (past, s) ∧
      s.stored = some ⟨cleanPasswords s.frr.current, cleanPasswords s.frr.lastReloadResult,
      s.reconciler.conversionResult⟩ ∧
      s.stored = some ⟨"neighbor 10.0.0.1 password <retracted>\nexit", "success", "success"⟩ := by
  let sys := nodeStates plainSettings none
  have hquiet : ((sys.exec publishedTwice [] sys.init).map (fun r => decide r.2.Quiescent)) = some true := by
    decide +kernel
  have hstored : ((sys.exec publishedTwice [] sys.init).map (fun r => r.2.stored)) =
      some (some ⟨"neighbor 10.0.0.1 password <retracted>\nexit", "success", "success"⟩) := by decide +kernel
  obtain ⟨⟨past, s⟩, hexec, hs⟩ := Option.map_eq_some_iff.1 hquiet
  rw [hexec, Option.map_some, Option.some.injEq] at hstored
  have hrun : Run sys past s := Run.of_exec publishedTwice .start hexec
  exact ⟨past, s, hexec, nodeState_quiescent plainSettings none past s hrun (of_decide_eq_true hs), hstored⟩

end FrrK8s
