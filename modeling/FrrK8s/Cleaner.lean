import FrrK8s.Mirror
import FrrK8s.Watch
/-!
# Cleaner — the states of the nodes and the pods on them (`NodeStateCleaner`, `FRRStateReconciler`)

Every daemon keeps an `FRRNodeState` named after its node, and creates it when it does not find it.  The cleaner deletes
those whose node has no pod of FRR-K8s.  It lists the pods first and then the states, from copies that lag behind, and
deletes one after the other, so that it may delete the state of a node whose daemon has just started.  The daemon then
hears of the deletion and creates it again, and the cleaner hears of that.  Where the cleaner is idle no state is
without a pod, and where a daemon is idle its state is there (`cleanup_quiescent`).
-/
namespace FrrK8s

/-! ## The cleaner's filter -/

/-- A pod of FRR-K8s; its node is set once, when it is scheduled. -/
structure Pod where
  name : String
  nodeName : String := ""
deriving DecidableEq, Repr

inductive EventKind
  | create
  | update
  | delete
  | generic
deriving DecidableEq, Repr

/-- The predicates of `NodeStateCleaner.SetupWithManager`. -/
def cleanerPasses (isPod : Bool) : EventKind → Bool
  | .create => !isPod
  | .update | .generic => false
  | .delete => isPod

structure CleanerEvent where
  kind : EventKind
  isPod : Bool
  name : String
deriving DecidableEq, Repr

def CleanerEvent.passes (e : CleanerEvent) : Bool := cleanerPasses e.isPod e.kind

def Change.event : Change String → CleanerEvent
  | .added x => ⟨.create, false, x⟩
  | .touched x => ⟨.update, false, x⟩
  | .removed x => ⟨.delete, false, x⟩

/-! ## The system -/

/-- A run of the cleaner: it lists the pods, then the states, and goes through these; `errors` are those of `Delete`. -/
inductive CleanerRun
  | idle
  | started (r : Request)
  | listedPods (r : Request) (nodesWithFRRPods : List String)
  | deleting (r : Request) (nodesWithFRRPods items errors : List String)
deriving DecidableEq, Repr

/-- The cleaner: its copy of the states, the events that are not handled, the queue and the run. -/
structure Cleaner where
  mirror : Mirror String := {}
  pending : List CleanerEvent := []
  queue : List Request := []
  run : CleanerRun := .idle
deriving DecidableEq, Repr

inductive CleanerStep
  | sync
  | notify (e : CleanerEvent)
  | begin (r : Request)
  | listPods (err : Option String)
  | listStates (answer : Except String (List String))
  | next (err : Option String)
  | finish
deriving DecidableEq

def nodesOf (pods : List Pod) : List String := pods.map Pod.nodeName

namespace Cleaner

/-- A run that returns an error is repeated. -/
def retry (c : Cleaner) (r : Request) : Cleaner := { c with run := .idle, queue := enqueue r c.queue }

/-- The next one of the listed states: one without a pod is deleted, where that succeeds. -/
def next (states : List String) (c : Cleaner) (err : Option String) : Option (Cleaner × Option (Change String)) :=
  match c.run with
  | .deleting r nodes (name :: items) errors =>
    if name ∈ nodes then some ({ c with run := .deleting r nodes items errors }, none)
    else
      match err with
      | none =>
        if name ∈ states then some ({ c with run := .deleting r nodes items errors }, some (.removed name)) else none
      | some text =>
        some ({ c with
          run := .deleting r nodes items (errors ++ ["failed to delete FRRNodeState " ++ name ++ ": " ++ text]) }, none)
  | _ => none

/-- A step of the cleaner, with the change of the states it makes. -/
def step (pods : List Pod) (states : List String) (c : Cleaner) :
    CleanerStep → Option (Cleaner × Option (Change String))
  | .sync => c.mirror.sync.map (fun m => ({ c with mirror := m.2, pending := m.1.event :: c.pending }, none))
  | .notify e =>
    if e ∈ c.pending then
      some ({ c with
        pending := c.pending.erase e
        queue := if e.passes then enqueue { name := e.name } c.queue else c.queue }, none)
    else none
  | .begin r =>
    if r ∈ c.queue ∧ c.run = .idle then some ({ c with queue := c.queue.erase r, run := .started r }, none) else none
  | .listPods err =>
    match c.run with
    | .started r => some (if err.isSome then c.retry r else { c with run := .listedPods r (nodesOf pods) }, none)
    | _ => none
  | .listStates answer =>
    match c.run with
    | .listedPods r nodes =>
      match answer with
      | .error _ => some (c.retry r, none)
      | .ok items =>
        if items.Perm c.mirror.copy then some ({ c with run := .deleting r nodes items [] }, none) else none
    | _ => none
  | .next err => c.next states err
  | .finish =>
    match c.run with
    | .deleting r _ [] errors => some (if errors = [] then { c with run := .idle } else c.retry r, none)
    | _ => none

end Cleaner

/-- A run of a daemon's `FRRStateReconciler`: its state was not found, or is there. -/
inductive PublisherRun
  | idle
  | started
  | missing
  | got
deriving DecidableEq, Repr

/-- A daemon: its copy of the states, the events that are not handled, the queue and the run. -/
structure Publisher where
  mirror : Mirror String := {}
  pending : Nat := 0
  queued : Bool := false
  run : PublisherRun := .idle
deriving DecidableEq, Repr

inductive PublisherStep
  | wake
  | sync
  | notify
  | reconcile
  | get (err : Option String)
  | create (err : Option String)
  | unchanged
  | update (err : Option String)
deriving DecidableEq

namespace Publisher

/-- A step of the daemon of a node, with the change of the states it makes.  It is woken by a change of its own status
and hears of its own state only; a run that returns an error is repeated. -/
def step (node : String) (states : List String) (p : Publisher) :
    PublisherStep → Option (Publisher × Option (Change String))
  | .wake => some ({ p with pending := p.pending + 1 }, none)
  | .sync =>
    p.mirror.sync.map (fun m =>
      ({ p with mirror := m.2, pending := if m.1.subject = node then p.pending + 1 else p.pending }, none))
  | .notify => if 0 < p.pending then some ({ p with pending := p.pending - 1, queued := true }, none) else none
  | .reconcile =>
    if p.queued = true ∧ p.run = .idle then some ({ p with queued := false, run := .started }, none) else none
  | .get err =>
    if p.run = .started then
      some (if err.isSome then { p with queued := true, run := .idle }
        else { p with run := if node ∈ p.mirror.copy then .got else .missing }, none)
    else none
  | .create err =>
    if p.run = .missing then
      match err with
      | none => if node ∈ states then none else some ({ p with run := .got }, some (.added node))
      | some _ => some ({ p with queued := true, run := .idle }, none)
    else none
  | .unchanged => if p.run = .got then some ({ p with run := .idle }, none) else none
  | .update err =>
    if p.run = .got then
      match err with
      | none => if node ∈ states then some ({ p with run := .idle }, some (.touched node)) else none
      | some _ => some ({ p with queued := true, run := .idle }, none)
    else none

end Publisher

/-- The pods as the cleaner knows them, the states, the cleaner, and the daemons by node. -/
structure Cleanup where
  pods : List Pod
  states : List String
  cleaner : Cleaner
  publishers : String → Option Publisher := fun _ => none

inductive CleanupStep
  | podCreate (p : Pod)
  | podSchedule (name nodeName : String)
  | podDelete (p : Pod)
  | cleaner (e : CleanerStep)
  | start (node : String)
  | stop (node : String)
  | publisher (node : String) (e : PublisherStep)

namespace Cleanup

/-- Everyone hears of a change of the states. -/
def hears (s : Cleanup) (change : Option (Change String)) : Cleanup :=
  { s with
    states := Change.applied s.states change
    cleaner := { s.cleaner with mirror := s.cleaner.mirror.hear change }
    publishers := fun n => (s.publishers n).map (fun p => { p with mirror := p.mirror.hear change }) }

def setPublisher (s : Cleanup) (node : String) (p : Option Publisher) : Cleanup :=
  { s with publishers := fun n => if n = node then p else s.publishers n }

def setPods (s : Cleanup) (pods : List Pod) (e : CleanerEvent) : Cleanup :=
  { s with pods := pods, cleaner := { s.cleaner with pending := e :: s.cleaner.pending } }

def step (s : Cleanup) : CleanupStep → Option Cleanup
  | .podCreate p =>
    if p.name ∈ s.pods.map Pod.name then none else some (s.setPods (p :: s.pods) ⟨.create, true, p.name⟩)
  | .podSchedule name nodeName =>
    if ⟨name, ""⟩ ∈ s.pods then
      some (s.setPods (s.pods.map (fun p => if p = ⟨name, ""⟩ then ⟨name, nodeName⟩ else p)) ⟨.update, true, name⟩)
    else none
  | .podDelete p =>
    if p ∈ s.pods then some (s.setPods (s.pods.filter (fun q => decide (q ≠ p))) ⟨.delete, true, p.name⟩) else none
  | .cleaner e => (s.cleaner.step s.pods s.states e).map (fun r => { s with cleaner := r.1 : Cleanup }.hears r.2)
  -- a daemon starts with the states there are, and with an event of its own
  | .start node =>
    if node ≠ "" ∧ s.publishers node = none then
      some (s.setPublisher node (some { mirror := { copy := s.states }, pending := 1 }))
    else none
  | .stop node => if (s.publishers node).isSome = true then some (s.setPublisher node none) else none
  | .publisher node e =>
    (s.publishers node).bind (fun p =>
      (p.step node s.states e).map (fun r => (s.setPublisher node (some r.1)).hears r.2))

end Cleanup

/-- The cleaner starts with the pods and the states there are, and with an event for each of the states. -/
def cleanup (pods : List Pod) (states : List String) : System Cleanup CleanupStep where
  init :=
    { pods := pods
      states := states
      cleaner := { mirror := { copy := states }, pending := states.map (fun x => (Change.added x).event) } }
  step := Cleanup.step

/-! ## A daemon -/

namespace Publisher

variable {node : String} {states : List String} {p p' : Publisher} {change : Option (Change String)}

/-- The daemon is going to look for its state. -/
def Due (node : String) (p : Publisher) : Prop :=
  0 < p.pending ∨ p.queued = true ∨ p.run = .started ∨ p.run = .missing ∨ Change.removed node ∈ p.mirror.underway

/-- Its copy follows the states, and where its own is missing it is going to look for it. -/
structure Owes (node : String) (states : List String) (p : Publisher) : Prop where
  follows : p.mirror.Follows states
  due : node ∉ states → p.Due node

theorem Owes.hear (h : p.Owes node states) (change : Option (Change String)) :
    { p with mirror := p.mirror.hear change : Publisher }.Owes node (Change.applied states change) := by
  refine ⟨h.follows.hear change, fun hgone => ?_⟩
  by_cases hthere : node ∈ states
  · -- the change is the one that removes it
    have hremoved : change = some (.removed node) := by
      cases change with
      | none => exact (hgone hthere).elim
      | some c =>
        cases c with
        | added y => exact (hgone (List.mem_cons_of_mem y hthere)).elim
        | touched y => exact (hgone hthere).elim
        | removed y =>
          by_contra hne
          refine hgone (List.mem_filter.2 ⟨hthere, decide_eq_true (fun heq => hne ?_)⟩)
          rw [heq]
    rw [hremoved]
    exact .inr (.inr (.inr (.inr (List.mem_append_right _ (List.mem_singleton_self _)))))
  · obtain hpending | hqueued | hstarted | hmissing | hunderway := h.due hthere
    · exact .inl hpending
    · exact .inr (.inl hqueued)
    · exact .inr (.inr (.inl hstarted))
    · exact .inr (.inr (.inr (.inl hmissing)))
    · exact .inr (.inr (.inr (.inr (List.mem_append_left _ hunderway))))

/-- A removal that was under way is, or it has arrived. -/
theorem Owes.sync (h : p.Owes node states) {c : Change String} {m : Mirror String}
    (hsync : p.mirror.sync = some (c, m)) :
    { p with mirror := m
             pending := if c.subject = node then p.pending + 1 else p.pending : Publisher }.Owes node states := by
  refine ⟨h.follows.sync hsync, fun hgone => ?_⟩
  by_cases hown : c.subject = node
  · refine .inl ?_
    simp only [if_pos hown]
    exact Nat.succ_pos _
  · simp only [if_neg hown]
    obtain hpending | hqueued | hstarted | hmissing | hunderway := h.due hgone
    · exact .inl hpending
    · exact .inr (.inl hqueued)
    · exact .inr (.inr (.inl hstarted))
    · exact .inr (.inr (.inr (.inl hmissing)))
    · rw [(Mirror.sync_eq hsync).1, List.mem_cons] at hunderway
      refine .inr (.inr (.inr (.inr (hunderway.resolve_left (fun hc => hown ?_)))))
      rw [← hc]
      rfl

theorem Owes.unchanged (h : p.Owes node states) (hrun : p.run = .got) :
    { p with run := .idle : Publisher }.Owes node states := by
  refine ⟨h.follows, fun hgone => ?_⟩
  obtain hpending | hqueued | hstarted | hmissing | hunderway := h.due hgone
  · exact .inl hpending
  · exact .inr (.inl hqueued)
  · exact absurd (hrun.symm.trans hstarted) (by decide)
  · exact absurd (hrun.symm.trans hmissing) (by decide)
  · exact .inr (.inr (.inr (.inr hunderway)))

/-- A run that returns an error. -/
theorem Owes.repeat (h : p.Owes node states) : { p with queued := true, run := .idle : Publisher }.Owes node states :=
  ⟨h.follows, fun _ => .inr (.inl rfl)⟩

/-- **A daemon that misses its state looks for it**, whatever step it takes. -/
theorem Owes.step (h : p.Owes node states) {e : PublisherStep} (hstep : p.step node states e = some (p', change)) :
    { p' with mirror := p'.mirror.hear change : Publisher }.Owes node (Change.applied states change) := by
  cases e with
  | wake =>
    cases hstep
    exact Owes.hear (p := { p with pending := p.pending + 1 }) ⟨h.follows, fun _ => .inl (Nat.succ_pos _)⟩ none
  | sync =>
    obtain ⟨⟨c, m⟩, hsync, heq⟩ := Option.map_eq_some_iff.1 hstep
    cases heq
    exact (h.sync hsync).hear none
  | notify =>
    simp only [Publisher.step] at hstep
    split at hstep
    · cases hstep
      exact Owes.hear (p := { p with pending := p.pending - 1, queued := true })
        ⟨h.follows, fun _ => .inr (.inl rfl)⟩ none
    · cases hstep
  | reconcile =>
    simp only [Publisher.step] at hstep
    split at hstep
    · cases hstep
      exact Owes.hear (p := { p with queued := false, run := .started })
        ⟨h.follows, fun _ => .inr (.inr (.inl rfl))⟩ none
    · cases hstep
  | get err =>
    simp only [Publisher.step] at hstep
    split at hstep
    · cases hstep
      split
      · exact h.repeat.hear none
      · refine Owes.hear (p := { p with run := if node ∈ p.mirror.copy then .got else .missing })
          ⟨h.follows, fun hgone => ?_⟩ none
        by_cases hcopy : node ∈ p.mirror.copy
        · exact .inr (.inr (.inr (.inr (h.follows.removing hcopy hgone))))
        · simp only [if_neg hcopy]
          exact .inr (.inr (.inr (.inl rfl)))
    · cases hstep
  | create err =>
    simp only [Publisher.step] at hstep
    split at hstep
    · cases err with
      | none =>
        simp only at hstep
        split at hstep
        · cases hstep
        · cases hstep
          exact ⟨h.follows.hear _, fun hgone => (hgone (List.mem_cons_self ..)).elim⟩
      | some text =>
        cases hstep
        exact h.repeat.hear none
    · cases hstep
  | unchanged =>
    simp only [Publisher.step] at hstep
    split at hstep
    · rename_i hrun
      cases hstep
      exact (h.unchanged hrun).hear none
    · cases hstep
  | update err =>
    simp only [Publisher.step] at hstep
    split at hstep
    · rename_i hrun
      cases err with
      | none =>
        simp only at hstep
        split at hstep
        · cases hstep
          exact (h.unchanged hrun).hear _
        · cases hstep
      | some text =>
        cases hstep
        exact h.repeat.hear none
    · cases hstep

end Publisher

/-! ## The cleaner -/

/-- The run is going to delete the state, or to be repeated. -/
def CleanerRun.Handles (x : String) : CleanerRun → Prop
  | .idle => False
  | .started _ => True
  | .listedPods _ nodes => x ∉ nodes
  | .deleting _ nodes items errors => errors ≠ [] ∨ (x ∈ items ∧ x ∉ nodes)

namespace Cleaner

variable {pods : List Pod} {states : List String} {c c' : Cleaner} {change : Option (Change String)}

/-- A run is still to start. -/
def Due (c : Cleaner) : Prop := c.queue ≠ [] ∨ ∃ e ∈ c.pending, e.passes = true

/-- Its copy follows the states, and it is going to delete those without a pod. -/
structure Owes (pods : List Pod) (states : List String) (c : Cleaner) : Prop where
  follows : c.mirror.Follows states
  handles : ∀ x ∈ c.mirror.copy, x ≠ "" → x ∉ nodesOf pods →
    c.Due ∨ Change.removed x ∈ c.mirror.underway ∨ c.run.Handles x

theorem Owes.hear (h : c.Owes pods states) (change : Option (Change String)) :
    { c with mirror := c.mirror.hear change : Cleaner }.Owes pods (Change.applied states change) := by
  refine ⟨h.follows.hear change, fun x hx hne hpod => ?_⟩
  exact (h.handles x hx hne hpod).imp_right (Or.imp_left (List.mem_append_left _))

/-- A step after which a run is still to start. -/
theorem owes_of_due (hfollows : c.mirror.Follows states) (hdue : c.Due) : c.Owes pods states :=
  ⟨hfollows, fun _ _ _ _ => Or.inl hdue⟩

/-- A step of the run alone. -/
theorem Owes.setRun (h : c.Owes pods states) (run : CleanerRun)
    (hrun : ∀ x ∈ c.mirror.copy, x ∉ nodesOf pods → c.run.Handles x → run.Handles x) :
    { c with run := run : Cleaner }.Owes pods states := by
  refine ⟨h.follows, fun x hx hne hpod => ?_⟩
  obtain hdue | hunderway | hhandles := h.handles x hx hne hpod
  · exact Or.inl hdue
  · exact Or.inr (Or.inl hunderway)
  · exact Or.inr (Or.inr (hrun x hx hpod hhandles))

theorem Owes.retry (h : c.Owes pods states) (r : Request) : (c.retry r).Owes pods states :=
  owes_of_due h.follows (Or.inl (Watch.enqueue_ne_nil r c.queue))

/-- Of what arrives only a new state wakes the cleaner. -/
theorem Owes.sync (h : c.Owes pods states) {ch : Change String} {m : Mirror String}
    (hsync : c.mirror.sync = some (ch, m)) :
    { c with mirror := m, pending := ch.event :: c.pending : Cleaner }.Owes pods states := by
  obtain ⟨hunderway, hcopy⟩ := Mirror.sync_eq hsync
  have hfollows := h.follows.sync hsync
  cases ch with
  | added y => exact owes_of_due hfollows (Or.inr ⟨_, List.mem_cons_self .., rfl⟩)
  | touched y =>
    refine ⟨hfollows, fun x hx hne hpod => ?_⟩
    rw [hcopy] at hx
    obtain hdue | hremoved | hhandles := h.handles x hx hne hpod
    · exact Or.inl (hdue.imp_right (fun ⟨e, he, hpasses⟩ => ⟨e, List.mem_cons_of_mem _ he, hpasses⟩))
    · rw [hunderway, List.mem_cons] at hremoved
      exact Or.inr (Or.inl (hremoved.resolve_left (fun heq => by cases heq)))
    · exact Or.inr (Or.inr hhandles)
  | removed y =>
    refine ⟨hfollows, fun x hx hne hpod => ?_⟩
    rw [hcopy] at hx
    obtain ⟨hx, hxy⟩ := List.mem_filter.1 hx
    obtain hdue | hremoved | hhandles := h.handles x hx hne hpod
    · exact Or.inl (hdue.imp_right (fun ⟨e, he, hpasses⟩ => ⟨e, List.mem_cons_of_mem _ he, hpasses⟩))
    · rw [hunderway, List.mem_cons] at hremoved
      refine Or.inr (Or.inl (hremoved.resolve_left (fun heq => of_decide_eq_true hxy ?_)))
      exact Change.removed.inj heq
    · exact Or.inr (Or.inr hhandles)

theorem Owes.notify (h : c.Owes pods states) (e : CleanerEvent) :
    { c with
      pending := c.pending.erase e
      queue := if e.passes then enqueue { name := e.name } c.queue else c.queue : Cleaner }.Owes pods states := by
  by_cases hpasses : e.passes = true
  · refine owes_of_due h.follows (Or.inl ?_)
    simp only [if_pos hpasses]
    exact Watch.enqueue_ne_nil _ _
  · refine ⟨h.follows, fun x hx hne hpod => (h.handles x hx hne hpod).imp_left (fun hdue => ?_)⟩
    simp only [if_neg hpasses]
    refine hdue.imp_right (fun ⟨e', he', hpasses'⟩ => ⟨e', ?_, hpasses'⟩)
    exact (List.mem_erase_of_ne (fun heq : e' = e => hpasses (heq ▸ hpasses'))).2 he'

theorem Owes.next (h : c.Owes pods states) {err : Option String} (hstep : c.next states err = some (c', change)) :
    { c' with mirror := c'.mirror.hear change : Cleaner }.Owes pods (Change.applied states change) := by
  unfold Cleaner.next at hstep
  split at hstep
  · rename_i r nodes name items errors hrun
    -- what was to be deleted still is, unless it is this one
    have hrest : ∀ x, x ≠ name ∨ name ∈ nodes → c.run.Handles x →
        (CleanerRun.deleting r nodes items errors).Handles x := by
      intro x hother hhandles
      rw [hrun] at hhandles
      refine hhandles.imp_right (fun hx => ⟨?_, hx.2⟩)
      exact (List.mem_cons.1 hx.1).resolve_left (fun heq =>
        hother.elim (fun hne => hne heq) (fun hin => hx.2 (heq ▸ hin)))
    split at hstep
    · rename_i hpod
      cases hstep
      exact (h.setRun _ (fun x _ _ => hrest x (Or.inr hpod))).hear none
    · cases err with
      | none =>
        simp only at hstep
        split at hstep
        · cases hstep
          refine ⟨h.follows.hear _, fun x hx hne hpod => ?_⟩
          by_cases hname : x = name
          · rw [hname]
            exact Or.inr (Or.inl (List.mem_append_right _ (List.mem_singleton_self _)))
          · obtain hdue | hunderway | hhandles := h.handles x hx hne hpod
            · exact Or.inl hdue
            · exact Or.inr (Or.inl (List.mem_append_left _ hunderway))
            · exact Or.inr (Or.inr (hrest x (Or.inl hname) hhandles))
        · cases hstep
      | some text =>
        cases hstep
        exact (h.setRun (.deleting r nodes items _) (fun _ _ _ _ => Or.inl (by simp))).hear none
  · cases hstep

/-- **The cleaner is going to delete every state without a pod**, whatever step it takes. -/
theorem Owes.step (h : c.Owes pods states) {e : CleanerStep} (hstep : c.step pods states e = some (c', change)) :
    { c' with mirror := c'.mirror.hear change : Cleaner }.Owes pods (Change.applied states change) := by
  cases e with
  | sync =>
    obtain ⟨⟨ch, m⟩, hsync, heq⟩ := Option.map_eq_some_iff.1 hstep
    cases heq
    exact (h.sync hsync).hear none
  | notify e =>
    simp only [Cleaner.step] at hstep
    split at hstep
    · cases hstep
      exact (h.notify e).hear none
    · cases hstep
  | begin r =>
    simp only [Cleaner.step] at hstep
    split at hstep
    · cases hstep
      exact Owes.hear (c := { c with queue := c.queue.erase r, run := .started r })
        ⟨h.follows, fun _ _ _ _ => Or.inr (Or.inr trivial)⟩ none
    · cases hstep
  | listPods err =>
    simp only [Cleaner.step] at hstep
    split at hstep
    · rename_i r hrun
      cases hstep
      split
      · exact (h.retry r).hear none
      · exact (h.setRun (.listedPods r (nodesOf pods)) (fun x _ hpod _ => hpod)).hear none
    · cases hstep
  | listStates answer =>
    simp only [Cleaner.step] at hstep
    split at hstep
    · rename_i r nodes hrun
      cases answer with
      | error err =>
        cases hstep
        exact (h.retry r).hear none
      | ok items =>
        simp only at hstep
        split at hstep
        · rename_i hperm
          cases hstep
          refine (h.setRun (.deleting r nodes items [])
            (fun x hx _ hhandles => Or.inr ⟨hperm.mem_iff.2 hx, ?_⟩)).hear none
          rw [hrun] at hhandles
          exact hhandles
        · cases hstep
    · cases hstep
  | next err => exact h.next hstep
  | finish =>
    simp only [Cleaner.step] at hstep
    split at hstep
    · rename_i r nodes errors hrun
      cases hstep
      split
      · rename_i herrors
        refine (h.setRun .idle (fun x _ _ hhandles => ?_)).hear none
        rw [hrun] at hhandles
        obtain hne | hmem := hhandles
        · exact (hne herrors).elim
        · cases hmem.1
      · exact (h.retry r).hear none
    · cases hstep

/-- The filter leaves out a pod that comes or is scheduled: no node loses its pods by that. -/
theorem Owes.setPods (h : c.Owes pods states) {pods' : List Pod}
    (hnodes : ∀ x, x ≠ "" → x ∈ nodesOf pods → x ∈ nodesOf pods') (e : CleanerEvent) :
    { c with pending := e :: c.pending : Cleaner }.Owes pods' states := by
  refine ⟨h.follows, fun x hx hne hpod => ?_⟩
  refine (h.handles x hx hne (fun hold => hpod (hnodes x hne hold))).imp_left (fun hdue => ?_)
  exact hdue.imp_right (fun ⟨e', he', hpasses⟩ => ⟨e', List.mem_cons_of_mem _ he', hpasses⟩)

end Cleaner

/-! ## All of them -/

namespace Cleanup

variable {s s' : Cleanup}

structure Inv (s : Cleanup) : Prop where
  cleaner : s.cleaner.Owes s.pods s.states
  publishers : ∀ n p, s.publishers n = some p → p.Owes n s.states

theorem Inv.cleanerStep (h : s.Inv) {e : CleanerStep} {c : Cleaner} {change : Option (Change String)}
    (hstep : s.cleaner.step s.pods s.states e = some (c, change)) :
    ({ s with cleaner := c : Cleanup }.hears change).Inv := by
  refine ⟨h.cleaner.step hstep, fun n p hp => ?_⟩
  obtain ⟨q, hq, rfl⟩ := Option.map_eq_some_iff.1 hp
  exact (h.publishers n q hq).hear change

theorem Inv.publisherStep (h : s.Inv) {node : String} {p p' : Publisher} {e : PublisherStep}
    {change : Option (Change String)} (hp : s.publishers node = some p)
    (hstep : p.step node s.states e = some (p', change)) : ((s.setPublisher node (some p')).hears change).Inv := by
  refine ⟨h.cleaner.hear change, fun n q hq => ?_⟩
  obtain ⟨q', hq', rfl⟩ := Option.map_eq_some_iff.1 hq
  simp only [setPublisher] at hq'
  split at hq'
  · rename_i hn
    cases hq'
    rw [hn]
    exact (h.publishers node p hp).step hstep
  · exact (h.publishers n q' hq').hear change

theorem Inv.setPublisher (h : s.Inv) {node : String} {p : Option Publisher}
    (hp : ∀ q, p = some q → q.Owes node s.states) : (s.setPublisher node p).Inv := by
  refine ⟨h.cleaner, fun n q hq => ?_⟩
  simp only [Cleanup.setPublisher] at hq
  split at hq
  · rename_i hn
    rw [hn]
    exact hp q hq
  · exact h.publishers n q hq

theorem Inv.step (h : s.Inv) {e : CleanupStep} (hstep : s.step e = some s') : s'.Inv := by
  cases e with
  | podCreate p =>
    simp only [Cleanup.step] at hstep
    split at hstep
    · cases hstep
    · cases hstep
      have hnodes : ∀ x, x ≠ "" → x ∈ nodesOf s.pods → x ∈ nodesOf (p :: s.pods) :=
        fun x _ hx => List.mem_cons_of_mem _ hx
      exact ⟨h.cleaner.setPods hnodes _, h.publishers⟩
  | podSchedule name nodeName =>
    simp only [Cleanup.step] at hstep
    split at hstep
    · cases hstep
      refine ⟨h.cleaner.setPods (fun x hne hx => ?_) _, h.publishers⟩
      obtain ⟨p, hp, rfl⟩ := List.mem_map.1 hx
      -- a pod that has a node keeps it
      refine List.mem_map.2 ⟨p, List.mem_map.2 ⟨p, hp, if_neg (fun hpod => hne ?_)⟩, rfl⟩
      rw [hpod]
    · cases hstep
  | podDelete p =>
    simp only [Cleanup.step] at hstep
    split at hstep
    · cases hstep
      exact ⟨Cleaner.owes_of_due h.cleaner.follows (Or.inr ⟨_, List.mem_cons_self .., rfl⟩), h.publishers⟩
    · cases hstep
  | cleaner e =>
    obtain ⟨⟨c, change⟩, hc, rfl⟩ := Option.map_eq_some_iff.1 hstep
    exact h.cleanerStep hc
  | start node =>
    simp only [Cleanup.step] at hstep
    split at hstep
    · cases hstep
      refine h.setPublisher (fun q hq => ?_)
      cases hq
      exact ⟨Mirror.follows_self s.states, fun _ => Or.inl Nat.one_pos⟩
    · cases hstep
  | stop node =>
    simp only [Cleanup.step] at hstep
    split at hstep
    · cases hstep
      exact h.setPublisher (fun q hq => by cases hq)
    · cases hstep
  | publisher node e =>
    obtain ⟨p, hp, hstep⟩ := Option.bind_eq_some_iff.1 hstep
    obtain ⟨⟨p', change⟩, hp', rfl⟩ := Option.map_eq_some_iff.1 hstep
    exact h.publisherStep hp hp'

theorem inv_init (pods : List Pod) (states : List String) : (cleanup pods states).init.Inv := by
  refine ⟨⟨Mirror.follows_self states, fun x hx _ _ => Or.inl (Or.inr ⟨(Change.added x).event, ?_, rfl⟩)⟩,
    fun n p hp => (by cases hp)⟩
  exact List.mem_map.2 ⟨x, hx, rfl⟩

theorem inv_run {pods : List Pod} {states : List String} {past : List (Cleanup × CleanupStep)}
    (h : Run (cleanup pods states) past s) : s.Inv :=
  h.invariant (G := fun _ _ => True) (P := fun _ s => s.Inv) (inv_init pods states)
    (fun _ _ _ _ _ hinv _ hstep => hinv.step hstep) (fun _ _ => trivial)

end Cleanup

/-- The cleaner has nothing to do, and nothing is under way to it. -/
def Cleaner.Idle (c : Cleaner) : Prop :=
  c.queue = [] ∧ (∀ e ∈ c.pending, e.passes = false) ∧ c.run = .idle ∧ c.mirror.underway = []

def Publisher.Idle (p : Publisher) : Prop := p.pending = 0 ∧ p.queued = false ∧ p.run = .idle ∧ p.mirror.underway = []

/-- **The states are those of the nodes with a pod, and no daemon is without its own.**  Pods come, are scheduled and
go, daemons start and stop, and the cleaner and the daemons read copies that lag behind and make calls that fail, in
any order: where the cleaner is idle, every state is that of a node with a pod, and where a daemon is idle its state is
there, also if the cleaner has deleted it meanwhile. -/
theorem cleanup_quiescent (pods : List Pod) (states : List String) (past : List (Cleanup × CleanupStep)) (s : Cleanup)
    (h : Run (cleanup pods states) past s) :
    (s.cleaner.Idle → ∀ x ∈ s.states, x ≠ "" → x ∈ nodesOf s.pods) ∧
      ∀ n p, s.publishers n = some p → p.Idle → n ∈ s.states := by
  have hinv := Cleanup.inv_run h
  refine ⟨fun hidle x hx hne => ?_, fun n p hp hidle => ?_⟩
  · obtain ⟨hqueue, hpending, hrun, hunderway⟩ := hidle
    by_contra hpod
    have hcopy : x ∈ s.cleaner.mirror.copy := (hinv.cleaner.follows.agree hunderway).2 hx
    obtain hdue | hremoved | hhandles := hinv.cleaner.handles x hcopy hne hpod
    · obtain hne | ⟨e, he, hpasses⟩ := hdue
      · exact hne hqueue
      · exact absurd (hpasses.symm.trans (hpending e he)) (by decide)
    · rw [hunderway] at hremoved
      cases hremoved
    · rw [hrun] at hhandles
      exact hhandles
  · obtain ⟨hpending, hqueued, hrun, hunderway⟩ := hidle
    by_contra hgone
    obtain hpos | htrue | hstarted | hmissing | hremoved := (hinv.publishers n p hp).due hgone
    · omega
    · exact absurd (hqueued.symm.trans htrue) (by decide)
    · exact absurd (hrun.symm.trans hstarted) (by decide)
    · exact absurd (hrun.symm.trans hmissing) (by decide)
    · rw [hunderway] at hremoved
      cases hremoved

/-- The cleaner has listed the pods when one comes; its daemon creates its state, which the cleaner then deletes with
the one that is left over, and creates it again. -/
def deletedTooEarly : List CleanupStep :=
  [.cleaner (.notify ⟨.create, false, "gone"⟩), .cleaner (.begin { name := "gone" }), .cleaner (.listPods none),
    .podCreate ⟨"frr-k8s-1", ""⟩, .podSchedule "frr-k8s-1" "node", .start "node", .publisher "node" .notify,
    .publisher "node" .reconcile, .publisher "node" (.get none), .publisher "node" (.create none), .cleaner .sync,
    .cleaner (.listStates (.ok ["node", "gone"])), .cleaner (.next none), .cleaner (.next none), .cleaner .finish,
    .publisher "node" (.update (some "not found")), .publisher "node" .sync, .publisher "node" .sync,
    .publisher "node" .sync, .publisher "node" .reconcile, .publisher "node" (.get none),
    .publisher "node" (.create none),
    .publisher "node" .unchanged, .publisher "node" .sync, .publisher "node" .notify, .publisher "node" .notify,
    .publisher "node" .notify, .publisher "node" .reconcile, .publisher "node" (.get none),
    .publisher "node" .unchanged,
    .cleaner .sync, .cleaner .sync, .cleaner .sync, .cleaner (.notify ⟨.create, false, "node"⟩),
    .cleaner (.notify ⟨.create, false, "node"⟩), .cleaner (.begin { name := "node" }), .cleaner (.listPods none),
    .cleaner (.listStates (.ok ["node"])), .cleaner (.next none), .cleaner .finish]

theorem cleanup_quiescent_deletedTooEarly :
    ∃ past s, (cleanup [] ["gone"]).exec deletedTooEarly [] (cleanup [] ["gone"]).init = some (past, s) ∧
      (∀ x ∈ s.states, x ≠ "" → x ∈ nodesOf s.pods) ∧ "node" ∈ s.states := by
  obtain ⟨⟨past, s⟩, hexec⟩ := Option.isSome_iff_exists.1 (by decide +kernel :
    ((cleanup [] ["gone"]).exec deletedTooEarly [] (cleanup [] ["gone"]).init).isSome = true)
  have hend : ((cleanup [] ["gone"]).exec deletedTooEarly [] (cleanup [] ["gone"]).init).all (fun r =>
      decide (r.2.cleaner.queue = [] ∧ (∀ e ∈ r.2.cleaner.pending, e.passes = false) ∧ r.2.cleaner.run = .idle ∧
        r.2.cleaner.mirror.underway = []) &&
      decide (r.2.publishers "node" = some { mirror := { copy := ["node"] } })) = true := by decide +kernel
  rw [hexec, Option.all_some, Bool.and_eq_true, decide_eq_true_eq, decide_eq_true_eq] at hend
  have hboth := cleanup_quiescent [] ["gone"] past s (Run.of_exec deletedTooEarly .start hexec)
  exact ⟨past, s, hexec, hboth.1 hend.1, hboth.2 "node" _ hend.2 ⟨rfl, rfl, rfl, rfl⟩⟩

end FrrK8s
