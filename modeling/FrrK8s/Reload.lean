import FrrK8s.Runs
import FrrK8s.Text
/-!
# Reload — the reloader's files and the daemon that polls them (`frr-reloader.sh`, `pollStatus`)

A run of the reloader writes three files one after the other, each by emptying it first; the lock keeps runs apart.  A
tick of the daemon reads the same files in another order, without the lock, and takes what it read only if the time in
the status file is not the one it has.  So an outcome is lost when two runs end in the same second, when a run starts
between the reads of a tick, and when a tick reads the status of a failed run before the run has saved the running
configuration.  Where none of these happens, a tick leaves the daemon with what the files have, and what happened before
the status was last taken does not matter (`pollStatus_current`).
-/
namespace FrrK8s

/-! ## The reloader -/

inductive ReloadFile
  | status
  | lastError
  | runningConfig
deriving DecidableEq, Repr

/-- The files of the shared volume that the daemon reads. -/
structure Files where
  status : Option String := none
  lastError : Option String := none
  runningConfig : Option String := none
deriving DecidableEq, Repr

abbrev FileWrite := ReloadFile × String

def Files.write (f : Files) : FileWrite → Files
  | (.status, text) => { f with status := some text }
  | (.lastError, text) => { f with lastError := some text }
  | (.runningConfig, text) => { f with runningConfig := some text }

/-- How the two calls of `frr-reload.py` end. -/
inductive ReloadResult
  | syntaxError
  | notApplied
  | applied
deriving DecidableEq, Repr

/-- What a run of the reloader gets: how its calls end, what `--test` and `show running-conf` print, and `date +%s`. -/
structure ReloadRun where
  result : ReloadResult
  testOutput : String := ""
  runningConf : String := ""
  seconds : Nat
deriving DecidableEq, Repr

/-- `> file`, and `cp`: the file is emptied and then written. -/
def redirect (file : ReloadFile) (text : String) : List FileWrite := [(file, ""), (file, text)]

def statusText (seconds : Nat) (success : Bool) : String :=
  toString seconds ++ " " ++ (if success then "success" else "failure")

def saveStatus (r : ReloadRun) : List FileWrite := redirect .runningConfig r.runningConf

/-- `reload_frr`: what a run writes, in order. -/
def reloadFrr (r : ReloadRun) : List FileWrite :=
  redirect .lastError r.testOutput ++
  match r.result with
  | .syntaxError => redirect .status (statusText r.seconds false) ++ saveStatus r
  | .notApplied => redirect .status (statusText r.seconds false) ++ saveStatus r
  | .applied => saveStatus r ++ redirect .lastError "\n" ++ redirect .status (statusText r.seconds true)

/-! ## The daemon -/

/-- The code points of `unicode.IsSpace`. -/
def spaces : List Nat :=
  [0x09, 0x0a, 0x0b, 0x0c, 0x0d, 0x20, 0x85, 0xa0, 0x1680, 0x2000, 0x2001, 0x2002, 0x2003, 0x2004, 0x2005,
  0x2006, 0x2007,
    0x2008, 0x2009, 0x200a, 0x2028, 0x2029, 0x202f, 0x205f, 0x3000]

def isSpace (c : Char) : Bool := c.toNat ∈ spaces

/-- `strings.Fields`, with the field it is in. -/
def fieldsFrom (field : List Char) : List Char → List (List Char)
  | [] => if field = [] then [] else [field]
  | c :: cs =>
    if isSpace c then (if field = [] then fieldsFrom [] cs else field :: fieldsFrom [] cs)
      else fieldsFrom (field ++ [c]) cs

def fields (s : String) : List String := (fieldsFrom [] s.toList).map String.ofList

def reloadSuccess : String := "success"

/-- `frr.Status`. -/
structure Status where
  updateTime : String := ""
  current : String := ""
  lastReloadResult : String := ""
deriving DecidableEq, Repr

/-- `readLastReloadResult`: the time and the result in the status file. -/
def readLastReloadResult (f : Files) : Except String (String × String) :=
  match f.status with
  | none => .error "failed to read status file: no such file"
  | some text =>
    match fields text with
    | [timeStamp, status] => .ok (timeStamp, status)
    | _ => .error s!"invalid status file format: {text}"

/-- A file that does not exist is read as an empty one. -/
def lastReloadResult (f : Files) (status : String) : String :=
  if "failure".toList <:+: status.toList then f.lastError.getD "" else reloadSuccess

/-- `fetchStatus`, where the files do not change. -/
def fetchStatus (f : Files) : Except String Status :=
  match readLastReloadResult f with
  | .error err => .error s!"failed to read status file: {err}"
  | .ok (timeStamp, status) =>
    .ok { updateTime := timeStamp, lastReloadResult := lastReloadResult f status, current := f.runningConfig.getD "" }

/-- A tick of the daemon, by what `fetchStatus` has read. -/
inductive Poll
  | idle
  | readStatus (timeStamp status : String)
  | readLastError (timeStamp result : String)
  | fetched (status : Status)
deriving DecidableEq, Repr

/-- The tick is between its reads. -/
def Poll.reading : Poll → Bool
  | .idle | .fetched _ => false
  | .readStatus .. | .readLastError .. => true

/-! ## Interleavings -/

/-- The files, what the run in progress has still to write, the second of the run that started last, the tick, and the
daemon's `Status` with the reloads it asked for and the changes it notified. -/
structure ReloadState where
  files : Files := {}
  remaining : List FileWrite := []
  last : Option Nat := none
  poll : Poll := .idle
  status : Status := {}
  retries : Nat := 0
  notified : Nat := 0
deriving DecidableEq, Repr

inductive ReloadStep
  | start (r : ReloadRun)
  | write
  | readStatus
  | readLastError
  | readRunningConfig
  | readError
  | update
deriving DecidableEq, Repr

namespace ReloadState

/-- The end of a tick: the status is taken when its time is another one. -/
def take (s : ReloadState) (status : Status) : ReloadState :=
  if status.updateTime = s.status.updateTime then { s with poll := .idle }
  else
    { s with
      poll := .idle
      status := status
      retries := if status.lastReloadResult ≠ reloadSuccess then s.retries + 1 else s.retries
      notified := s.notified + 1 }

/-- A run starts when it has the lock, at a time that is not before the last one's. -/
def step (s : ReloadState) : ReloadStep → Option ReloadState
  | .start r =>
    if s.remaining = [] ∧ ∀ t ∈ s.last, t ≤ r.seconds then
      some { s with remaining := reloadFrr r, last := some r.seconds }
    else none
  | .write =>
    match s.remaining with
    | [] => none
    | w :: ws => some { s with files := s.files.write w, remaining := ws }
  | .readStatus =>
    match s.poll with
    | .idle =>
      match readLastReloadResult s.files with
      -- the tick ends, and nothing is kept of it
      | .error _ => some s
      | .ok (timeStamp, status) => some { s with poll := .readStatus timeStamp status }
    | _ => none
  | .readLastError =>
    match s.poll with
    | .readStatus timeStamp status => some { s with poll := .readLastError timeStamp (lastReloadResult s.files status) }
    | _ => none
  | .readRunningConfig =>
    match s.poll with
    | .readLastError timeStamp result =>
      some { s with poll := .fetched { updateTime := timeStamp, lastReloadResult := result,
                                       current := s.files.runningConfig.getD "" } }
    | _ => none
  | .readError =>
    match s.poll with
    | .readStatus .. | .readLastError .. => some { s with poll := .idle }
    | _ => none
  | .update =>
    match s.poll with
    | .fetched status => some (s.take status)
    | _ => none

end ReloadState

/-- The reloader and the daemon on a new volume. -/
def reloads : System ReloadState ReloadStep where
  init := {}
  step := ReloadState.step

/-! ## The status file -/

theorem fieldsFrom_word : ∀ {word : List Char}, (∀ c ∈ word, isSpace c = false) → ∀ (field rest : List Char),
    fieldsFrom field (word ++ rest) = fieldsFrom (field ++ word) rest
  | [], _, field, rest => by rw [List.nil_append, List.append_nil]
  | c :: word, h, field, rest => by
    have hc := h c (List.mem_cons_self ..)
    have ih := fieldsFrom_word (fun d hd => h d (List.mem_cons_of_mem _ hd)) (field ++ [c]) rest
    rw [List.cons_append, fieldsFrom, hc, ih, List.append_assoc]
    rfl

theorem fields_pair {a b : List Char} (ha : ∀ c ∈ a, isSpace c = false) (hb : ∀ c ∈ b, isSpace c = false)
    (hane : a ≠ []) (hbne : b ≠ []) : fieldsFrom [] (a ++ ' ' :: b) = [a, b] := by
  have hlast : fieldsFrom [] b = [b] := by
    have := fieldsFrom_word hb [] []
    rw [List.append_nil, List.nil_append] at this
    rw [this, fieldsFrom, if_neg hbne]
  rw [fieldsFrom_word ha, List.nil_append, fieldsFrom, if_pos (by decide), if_neg hane, hlast]

theorem isSpace_decimal {n : Nat} {c : Char} (hc : c ∈ Nat.toDigits 10 n) : isSpace c = false := by
  have hdigit := Nat.isDigit_of_mem_toDigits (by decide) (by decide) hc
  by_contra hspace
  rw [Bool.not_eq_false] at hspace
  have hcode : ∀ k ∈ spaces, ¬ (48 ≤ k ∧ k ≤ 57) := by decide
  refine hcode c.toNat (of_decide_eq_true hspace) ?_
  simpa [Char.isDigit, UInt32.le_iff_toNat_le] using hdigit

/-- What a run writes to the status file is read back. -/
theorem readLastReloadResult_statusText {f : Files} {n : Nat} {success : Bool}
    (h : f.status = some (statusText n success)) :
    readLastReloadResult f = .ok (toString n, if success then "success" else "failure") := by
  have hfields : fields (statusText n success) = [toString n, if success then "success" else "failure"] := by
    have htext : (statusText n success).toList =
        Nat.toDigits 10 n ++ ' ' :: (if success then "success" else "failure").toList := by
      simp [statusText]
    have hword : ((if success then "success" else "failure").toList.all (fun c => !isSpace c)) = true := by
      cases success <;> decide
    rw [fields, htext, fields_pair (fun c hc => isSpace_decimal hc)
      (fun c hc => by simpa using List.all_eq_true.1 hword c hc) Nat.toDigits_ne_nil (by cases success <;> decide)]
    rw [← toList_toString_nat, List.map_cons, List.map_cons, List.map_nil, String.ofList_toList, String.ofList_toList]
  unfold readLastReloadResult
  rw [h]
  simp only [hfields]

/-- What is still to be written to the status file. -/
def statusWrites (ws : List FileWrite) : List String := ws.filterMap (fun w => if w.1 = .status then some w.2 else none)

theorem statusWrites_reloadFrr (r : ReloadRun) :
    statusWrites (reloadFrr r) = ["", statusText r.seconds (r.result = .applied)] := by
  obtain ⟨result, testOutput, runningConf, seconds⟩ := r
  cases result <;> rfl

/-- The status file before, during and after the writes of the run that started last; `later` is what is known of its
second and that of the run before it. -/
inductive ReloadState.Phase (later : Nat → Nat → Prop) (s : ReloadState) : Prop
  | fresh (hlast : s.last = none) (hremaining : s.remaining = []) (hstatus : s.files.status = none)
  | old (m : Nat) (success : Bool) (hlast : s.last = some m)
      (hremaining : statusWrites s.remaining = ["", statusText m success])
      (hstatus : s.files.status = none ∨ ∃ n, later n m ∧ ∃ before, s.files.status = some (statusText n before))
  | emptied (m : Nat) (success : Bool) (hlast : s.last = some m)
      (hremaining : statusWrites s.remaining = [statusText m success])
      (hstatus : s.files.status = some "")
  | written (m : Nat) (success : Bool) (hlast : s.last = some m) (hremaining : statusWrites s.remaining = [])
      (hstatus : s.files.status = some (statusText m success))

/-! ## What the daemon has seen -/

/-- The result and the running configuration are those in the files. -/
def Status.Of (st : Status) (f : Files) : Prop :=
  ∃ now, fetchStatus f = .ok now ∧ st.lastReloadResult = now.lastReloadResult ∧ st.current = now.current

/-- What a tick has read is in the files. -/
def Poll.Of (f : Files) : Poll → Prop
  | .idle => True
  | .readStatus timeStamp status => readLastReloadResult f = .ok (timeStamp, status)
  | .readLastError timeStamp result =>
    ∃ status, readLastReloadResult f = .ok (timeStamp, status) ∧ result = lastReloadResult f status
  | .fetched status => fetchStatus f = .ok status

/-- The last read of a tick completes what `fetchStatus` reads. -/
theorem Poll.of_readLastError {f : Files} {timeStamp result : String} (h : (Poll.readLastError timeStamp result).Of f) :
    (Poll.fetched { updateTime := timeStamp, lastReloadResult := result,
                    current := f.runningConfig.getD "" }).Of f := by
  obtain ⟨status, hread, rfl⟩ := h
  simp only [Poll.Of, fetchStatus, hread]

def Poll.time : Poll → String
  | .idle => ""
  | .readStatus timeStamp _ => timeStamp
  | .readLastError timeStamp _ => timeStamp
  | .fetched status => status.updateTime

/-- A time the daemon has read: that of an earlier run, or of the last one, which then has ended and of which `P`
holds. -/
def ReloadState.Seen (s : ReloadState) (time : String) (P : Prop) : Prop :=
  time = "" ∨ ∃ n m, time = toString n ∧ s.last = some m ∧ (n < m ∨ (n = m ∧ s.remaining = [] ∧ P))

/-- A tick begins before a run writes its status or after the run has ended; a run starts in a later second than the one
before it, and not between the reads of a tick. -/
def ReloadState.Undisturbed (s : ReloadState) : ReloadStep → Prop
  | .start r => (∀ t ∈ s.last, t < r.seconds) ∧ s.poll.reading = false
  | .readStatus => s.remaining = [] ∨ ∃ w ∈ s.remaining, w.1 = .status
  | _ => True

instance (s : ReloadState) (e : ReloadStep) : Decidable (s.Undisturbed e) :=
  match e with
  | .start _ => inferInstanceAs (Decidable (_ ∧ _))
  | .readStatus => inferInstanceAs (Decidable (_ ∨ _))
  | .write | .readLastError | .readRunningConfig | .readError | .update => inferInstanceAs (Decidable True)

/-- A status has been taken since `b`, or none had been before. -/
def ReloadState.TakenSince (b s : ReloadState) : Prop := b.status.updateTime = "" ∨ b.notified < s.notified

/-- What holds where nothing has disturbed since `b`. -/
structure ReloadState.Inv (b s : ReloadState) : Prop where
  phase : s.Phase (· < ·)
  status : b.TakenSince s → s.Seen s.status.updateTime (s.status.Of s.files)
  poll : s.Seen s.poll.time (s.poll.Of s.files)

namespace ReloadState

variable {b s s' : ReloadState} {time : String} {P Q : Prop} {later : Nat → Nat → Prop}

theorem Seen.imp (h : s.Seen time P) (hlast : s'.last = s.last) (hremaining : s'.remaining = s.remaining)
    (hPQ : P → Q) : s'.Seen time Q := by
  obtain rfl | ⟨n, m, rfl, hm, hlt | ⟨rfl, hnil, hP⟩⟩ := h
  · exact Or.inl rfl
  · exact Or.inr ⟨n, m, rfl, hlast.trans hm, Or.inl hlt⟩
  · exact Or.inr ⟨n, n, rfl, hlast.trans hm, Or.inr ⟨rfl, hremaining.trans hnil, hPQ hP⟩⟩

/-- A time that was seen is an earlier one when a new run starts, and as long as a run is in progress. -/
theorem Seen.earlier (h : s.Seen time P)
    (hlater : ∀ m, s.last = some m → ∃ m', s'.last = some m' ∧ (m < m' ∨ (m = m' ∧ s.remaining ≠ []))) :
    s'.Seen time Q := by
  obtain rfl | ⟨n, m, rfl, hm, hn⟩ := h
  · exact Or.inl rfl
  · obtain ⟨m', hm', hlt | ⟨rfl, hne⟩⟩ := hlater m hm
    · refine Or.inr ⟨n, m', rfl, hm', Or.inl ?_⟩
      obtain hn | ⟨rfl, -⟩ := hn <;> omega
    · exact Or.inr ⟨n, m, rfl, hm', Or.inl (hn.resolve_right (fun h => hne h.2.1))⟩

/-- The time of the last run is seen after its end only, and then with what it left. -/
theorem Seen.last {m : Nat} (h : s.Seen (toString m) P) (hlast : s.last = some m) : P := by
  obtain hempty | ⟨n, m', hn, hm', hlt | ⟨rfl, -, hP⟩⟩ := h
  · have hlist := congrArg String.toList hempty
    rw [toList_toString_nat] at hlist
    exact absurd hlist Nat.toDigits_ne_nil
  · rw [hlast] at hm'
    cases hm'
    cases decimal_inj hn
    omega
  · exact hP

/-! ## Steps -/

/-- What a step does, and where it does it. -/
inductive Does (s : ReloadState) : ReloadStep → ReloadState → Prop
  | start (r : ReloadRun) (hnil : s.remaining = []) :
      Does s (.start r) { s with remaining := reloadFrr r, last := some r.seconds }
  | write (w : FileWrite) (ws : List FileWrite) (hremaining : s.remaining = w :: ws) :
      Does s .write { s with files := s.files.write w, remaining := ws }
  | unreadable (hidle : s.poll = .idle) : Does s .readStatus s
  | readStatus (timeStamp status : String) (hread : readLastReloadResult s.files = .ok (timeStamp, status)) :
      Does s .readStatus { s with poll := .readStatus timeStamp status }
  | readLastError (timeStamp status : String) (hpoll : s.poll = .readStatus timeStamp status) :
      Does s .readLastError { s with poll := .readLastError timeStamp (lastReloadResult s.files status) }
  | readRunningConfig (timeStamp result : String) (hpoll : s.poll = .readLastError timeStamp result) :
      Does s .readRunningConfig { s with
        poll := .fetched {
          updateTime := timeStamp, lastReloadResult := result, current := s.files.runningConfig.getD "" } }
  | readError : Does s .readError { s with poll := .idle }
  | update (status : Status) (hpoll : s.poll = .fetched status) : Does s .update (s.take status)

theorem does_of_step {e : ReloadStep} (hstep : s.step e = some s') : s.Does e s' := by
  cases e with
  | start r =>
    simp only [ReloadState.step] at hstep
    split at hstep
    · rename_i hlock
      cases hstep
      exact .start r hlock.1
    · cases hstep
  | write =>
    simp only [ReloadState.step] at hstep
    split at hstep
    · cases hstep
    · rename_i w ws hremaining
      cases hstep
      exact .write w ws hremaining
  | readStatus =>
    simp only [ReloadState.step] at hstep
    split at hstep
    · rename_i hidle
      split at hstep
      · cases hstep
        exact .unreadable hidle
      · rename_i timeStamp status hread
        cases hstep
        exact .readStatus timeStamp status hread
    · cases hstep
  | readLastError =>
    simp only [ReloadState.step] at hstep
    split at hstep
    · rename_i timeStamp status hpoll
      cases hstep
      exact .readLastError timeStamp status hpoll
    · cases hstep
  | readRunningConfig =>
    simp only [ReloadState.step] at hstep
    split at hstep
    · rename_i timeStamp result hpoll
      cases hstep
      exact .readRunningConfig timeStamp result hpoll
    · cases hstep
  | readError =>
    simp only [ReloadState.step] at hstep
    split at hstep
    · cases hstep
      exact .readError
    · cases hstep
      exact .readError
    · cases hstep
  | update =>
    simp only [ReloadState.step] at hstep
    split at hstep
    · rename_i status hpoll
      cases hstep
      exact .update status hpoll
    · cases hstep

/-- Between runs of the reloader there was none so far, or the status file has the outcome of the last one. -/
theorem Phase.outcome (h : s.Phase later) (hnil : s.remaining = []) :
    (s.last = none ∧ s.files.status = none) ∨
      ∃ m success, s.last = some m ∧ s.files.status = some (statusText m success) := by
  cases h with
  | fresh hlast _ hstatus => exact Or.inl ⟨hlast, hstatus⟩
  | old m success _ hremaining _ =>
    rw [hnil] at hremaining
    cases hremaining
  | emptied m success _ hremaining _ =>
    rw [hnil] at hremaining
    cases hremaining
  | written m success hlast _ hstatus => exact Or.inr ⟨m, success, hlast, hstatus⟩

theorem Phase.start (h : s.Phase later) (hnil : s.remaining = []) {r : ReloadRun}
    (hlater : ∀ t ∈ s.last, later t r.seconds) :
    { s with remaining := reloadFrr r, last := some r.seconds : ReloadState }.Phase later := by
  refine .old r.seconds _ rfl (statusWrites_reloadFrr r) ?_
  rcases h.outcome hnil with ⟨-, hstatus⟩ | ⟨m, success, hlast, hstatus⟩
  · exact Or.inl hstatus
  · exact Or.inr ⟨m, hlater m hlast, success, hstatus⟩

theorem write_status {f : Files} {w : FileWrite} (h : w.1 ≠ .status) : (f.write w).status = f.status := by
  obtain ⟨file, text⟩ := w
  cases file with
  | status => exact (h rfl).elim
  | lastError => rfl
  | runningConfig => rfl

theorem Phase.write (h : s.Phase later) {w : FileWrite} {ws : List FileWrite} (hremaining : s.remaining = w :: ws) :
    { s with files := s.files.write w, remaining := ws : ReloadState }.Phase later := by
  by_cases hw : w.1 = .status
  · obtain ⟨file, text⟩ := w
    obtain rfl : file = .status := hw
    have hcons : statusWrites s.remaining = text :: statusWrites ws := by rw [hremaining]; rfl
    cases h with
    | fresh _ hnil _ =>
      rw [hnil] at hremaining
      cases hremaining
    | old m success hlast hws _ =>
      rw [hcons] at hws
      obtain ⟨rfl, hrest⟩ := List.cons.inj hws
      exact .emptied m success hlast hrest rfl
    | emptied m success hlast hws _ =>
      rw [hcons] at hws
      obtain ⟨rfl, hrest⟩ := List.cons.inj hws
      exact .written m success hlast hrest rfl
    | written m success _ hws _ =>
      rw [hcons] at hws
      cases hws
  · have hsame : statusWrites s.remaining = statusWrites ws := by
      rw [hremaining]
      simp [statusWrites, hw]
    have hfile : (s.files.write w).status = s.files.status := write_status hw
    cases h with
    | fresh _ hnil _ =>
      rw [hnil] at hremaining
      cases hremaining
    | old m success hlast hws hstatus =>
      exact .old m success hlast (hsame.symm.trans hws) (by simpa only [hfile] using hstatus)
    | emptied m success hlast hws hstatus => exact .emptied m success hlast (hsame.symm.trans hws) (hfile.trans hstatus)
    | written m success hlast hws hstatus => exact .written m success hlast (hsame.symm.trans hws) (hfile.trans hstatus)

theorem Phase.congr (h : s.Phase later) (hlast : s'.last = s.last) (hremaining : s'.remaining = s.remaining)
    (hfiles : s'.files = s.files) : s'.Phase later := by
  cases h with
  | fresh h1 h2 h3 => exact .fresh (hlast.trans h1) (hremaining.trans h2) (by rw [hfiles, h3])
  | old m success h1 h2 h3 => exact .old m success (hlast.trans h1) (by rw [hremaining, h2]) (by rw [hfiles]; exact h3)
  | emptied m success h1 h2 h3 =>
    exact .emptied m success (hlast.trans h1) (by rw [hremaining, h2]) (by rw [hfiles, h3])
  | written m success h1 h2 h3 =>
    exact .written m success (hlast.trans h1) (by rw [hremaining, h2]) (by rw [hfiles, h3])

theorem take_eq (s : ReloadState) (status : Status) :
    (s.take status).files = s.files ∧ (s.take status).remaining = s.remaining ∧ (s.take status).last = s.last := by
  unfold ReloadState.take
  split <;> exact ⟨rfl, rfl, rfl⟩

/-- In every run, disturbed or not. -/
theorem phase_run {past : List (ReloadState × ReloadStep)} (h : Run reloads past s) : s.Phase (fun _ _ => True) := by
  refine h.invariant (G := fun _ _ => True) (P := fun _ s => s.Phase (fun _ _ => True)) (.fresh rfl rfl rfl)
    (fun _ s e s' _ hphase _ hstep => ?_) (fun _ _ => trivial)
  cases does_of_step hstep with
  | start r hnil => exact hphase.start hnil (fun _ _ => trivial)
  | write w ws hremaining => exact hphase.write hremaining
  | unreadable _ => exact hphase
  | readStatus | readLastError | readRunningConfig | readError => exact hphase.congr rfl rfl rfl
  | update status _ =>
    obtain ⟨hfiles, hremaining, hlast⟩ := s.take_eq status
    exact hphase.congr hlast hremaining hfiles

/-- Between runs of the reloader it does not matter when the earlier ones were. -/
theorem Phase.between {later' : Nat → Nat → Prop} (h : s.Phase later) (hnil : s.remaining = []) : s.Phase later' := by
  rcases h.outcome hnil with ⟨hlast, hstatus⟩ | ⟨m, success, hlast, hstatus⟩
  · exact .fresh hlast hnil hstatus
  · exact .written m success hlast (by rw [hnil]; rfl) hstatus

/-- The time a tick reads, if it begins when it may. -/
theorem Phase.seen (h : s.Phase (· < ·)) (hwhen : s.Undisturbed .readStatus) {timeStamp status : String}
    (hread : readLastReloadResult s.files = .ok (timeStamp, status)) : s.Seen timeStamp True := by
  cases h with
  | fresh _ _ hstatus =>
    rw [readLastReloadResult, hstatus] at hread
    cases hread
  | old m success hlast _ hstatus =>
    obtain hnone | ⟨n, hlt, before, hstatus⟩ := hstatus
    · rw [readLastReloadResult, hnone] at hread
      cases hread
    · rw [readLastReloadResult_statusText hstatus] at hread
      cases hread
      exact Or.inr ⟨n, m, rfl, hlast, Or.inl hlt⟩
  | emptied m success _ _ hstatus =>
    rw [readLastReloadResult, hstatus] at hread
    cases hread
  | written m success hlast hws hstatus =>
    rw [readLastReloadResult_statusText hstatus] at hread
    cases hread
    obtain hnil | ⟨w, hmem, hw⟩ := hwhen
    · exact Or.inr ⟨m, m, rfl, hlast, Or.inr ⟨rfl, hnil, trivial⟩⟩
    · have hin : w.2 ∈ statusWrites s.remaining := List.mem_filterMap.2 ⟨w, hmem, if_pos hw⟩
      rw [hws] at hin
      cases hin

theorem Inv.start (h : b.Inv s) {r : ReloadRun} (hwhen : s.Undisturbed (.start r)) (hnil : s.remaining = []) :
    b.Inv { s with remaining := reloadFrr r, last := some r.seconds } := by
  have hlater : ∀ m, s.last = some m → ∃ m', some r.seconds = some m' ∧ (m < m' ∨ (m = m' ∧ s.remaining ≠ [])) :=
    fun m hm => ⟨r.seconds, rfl, Or.inl (hwhen.1 m hm)⟩
  exact ⟨h.phase.start hnil hwhen.1, fun htaken => (h.status htaken).earlier hlater, h.poll.earlier hlater⟩

theorem Inv.write (h : b.Inv s) {w : FileWrite} {ws : List FileWrite} (hremaining : s.remaining = w :: ws) :
    b.Inv { s with files := s.files.write w, remaining := ws } := by
  have hlater : ∀ m, s.last = some m → ∃ m', s.last = some m' ∧ (m < m' ∨ (m = m' ∧ s.remaining ≠ [])) :=
    fun m hm => ⟨m, hm, Or.inr ⟨rfl, by rw [hremaining]; exact List.cons_ne_nil _ _⟩⟩
  exact ⟨h.phase.write hremaining, fun htaken => (h.status htaken).earlier hlater, h.poll.earlier hlater⟩

/-- A step of a tick, whose data is then in the files if it was before. -/
theorem Inv.setPoll (h : b.Inv s) {p : Poll} (hp : s.Seen p.time (p.Of s.files)) : b.Inv { s with poll := p } :=
  ⟨h.phase.congr rfl rfl rfl, fun htaken => (h.status htaken).imp rfl rfl id, hp.imp rfl rfl id⟩

theorem Inv.take (h : b.Inv s) {status : Status} (hpoll : s.poll = .fetched status) : b.Inv (s.take status) := by
  have hseen := h.poll
  rw [hpoll] at hseen
  unfold ReloadState.take
  split
  · exact h.setPoll (Or.inl rfl)
  · refine ⟨h.phase.congr rfl rfl rfl, fun _ => hseen.imp rfl rfl (fun hof => ?_), Or.inl rfl⟩
    exact ⟨status, hof, rfl, rfl⟩

theorem Inv.step (h : b.Inv s) {e : ReloadStep} (hwhen : s.Undisturbed e) (hstep : s.step e = some s') : b.Inv s' := by
  have hseen := h.poll
  cases does_of_step hstep with
  | start r hnil => exact h.start hwhen hnil
  | write w ws hremaining => exact h.write hremaining
  | unreadable _ => exact h
  | readStatus timeStamp status hread =>
    exact h.setPoll ((h.phase.seen hwhen hread).imp rfl rfl (fun _ => hread))
  | readLastError timeStamp status hpoll =>
    rw [hpoll] at hseen
    exact h.setPoll (hseen.imp rfl rfl (fun hof => ⟨status, hof, rfl⟩))
  | readRunningConfig timeStamp result hpoll =>
    rw [hpoll] at hseen
    exact h.setPoll (hseen.imp rfl rfl Poll.of_readLastError)
  | readError => exact h.setPoll (Or.inl rfl)
  | update status hpoll => exact h.take hpoll

/-- No run of the reloader and no tick is in progress. -/
structure Resting (s : ReloadState) : Prop where
  remaining : s.remaining = []
  poll : s.poll = .idle

/-- **Where nothing has disturbed since a rest, what the daemon has taken since of the last run of the reloader is in
the files**, whatever happened before. -/
theorem inv_run {old recent : List (ReloadState × ReloadStep)} (hb : Run reloads old b) (hrest : b.Resting)
    (h : Run reloads (recent ++ old) s) (hwhen : ∀ x ∈ recent, x.1.Undisturbed x.2) : b.Inv s := by
  refine hb.invariant_from (G := ReloadState.Undisturbed) ?_ (fun _ _ _ hinv hG hstep => hinv.step hG hstep) h hwhen
  refine ⟨(phase_run hb).between hrest.remaining, fun htaken => ?_, by rw [hrest.poll]; exact Or.inl rfl⟩
  exact Or.inl (htaken.resolve_right (Nat.lt_irrefl _))

/-- The same since the start. -/
theorem inv_run_init {past : List (ReloadState × ReloadStep)} (h : Run reloads past s)
    (hwhen : ∀ x ∈ past, x.1.Undisturbed x.2) : Inv {} s := by
  rw [← List.append_nil past] at h
  exact inv_run .start ⟨rfl, rfl⟩ h hwhen

/-! ## A tick -/

/-- The tick that began in `s₀` has ended, or it has read nothing else: the files are still the same, or it has read
all of them. -/
def Tracks (s₀ s : ReloadState) : Prop :=
  s.poll = .idle ∨ (s.poll.Of s₀.files ∧ (s.status = s₀.status ∧ s.notified = s₀.notified) ∧
    (s.poll.reading = true → s.files = s₀.files ∧ s.remaining = []))

theorem tracks_readStatus (hnil : s.remaining = []) (hstep : s.step .readStatus = some s') : s.Tracks s' := by
  cases does_of_step hstep with
  | unreadable hidle => exact Or.inl hidle
  | readStatus timeStamp status hread => exact Or.inr ⟨hread, ⟨rfl, rfl⟩, fun _ => ⟨rfl, hnil⟩⟩

theorem Tracks.step {s₀ : ReloadState} (h : s₀.Tracks s) {e : ReloadStep} (hwhen : s.Undisturbed e)
    (hne : e ≠ .readStatus) (hstep : s.step e = some s') : s₀.Tracks s' := by
  cases does_of_step hstep with
  | start r _ =>
    obtain hidle | ⟨hof, hkept, -⟩ := h
    · exact Or.inl hidle
    · exact Or.inr ⟨hof, hkept, fun hreading => absurd (hwhen.2.symm.trans hreading) (by decide)⟩
  | write w ws hremaining =>
    obtain hidle | ⟨hof, hkept, hsame⟩ := h
    · exact Or.inl hidle
    · refine Or.inr ⟨hof, hkept, fun hreading => ?_⟩
      exact absurd (hremaining.symm.trans (hsame hreading).2) (List.cons_ne_nil _ _)
  | unreadable _ => exact (hne rfl).elim
  | readStatus _ _ _ => exact (hne rfl).elim
  | readLastError timeStamp st hpoll =>
    rw [Tracks, hpoll] at h
    obtain hidle | ⟨hof, hkept, hsame⟩ := h
    · cases hidle
    · obtain ⟨hfiles, hnil⟩ := hsame rfl
      exact Or.inr ⟨⟨st, hof, by rw [hfiles]⟩, hkept, fun _ => ⟨hfiles, hnil⟩⟩
  | readRunningConfig timeStamp result hpoll =>
    rw [Tracks, hpoll] at h
    obtain hidle | ⟨hof, hkept, hsame⟩ := h
    · cases hidle
    · obtain ⟨hfiles, hnil⟩ := hsame rfl
      refine Or.inr ⟨?_, hkept, fun hreading => absurd hreading (by simp [Poll.reading])⟩
      rw [hfiles]
      exact Poll.of_readLastError hof
  | readError => exact Or.inl rfl
  | update st _ =>
    refine Or.inl ?_
    unfold ReloadState.take
    split <;> rfl

theorem tracks_run {past : List (ReloadState × ReloadStep)} {s₀ : ReloadState} (hnil : s₀.remaining = []) :
    ∀ {late : List (ReloadState × ReloadStep)} {s : ReloadState}, Run reloads (late ++ (s₀, .readStatus) :: past) s →
      (∀ x ∈ late, x.1.Undisturbed x.2) → (∀ x ∈ late, x.2 ≠ .readStatus) → s₀.Tracks s
  | [], s, hrun, _, _ => by
    cases hrun with
    | next _ hstep => exact tracks_readStatus hnil hstep
  | x :: late, s, hrun, hwhen, hne => by
    cases hrun with
    | next hrun hstep =>
      have ih := tracks_run hnil hrun (fun y hy => hwhen y (List.mem_cons_of_mem _ hy))
        (fun y hy => hne y (List.mem_cons_of_mem _ hy))
      exact ih.step (hwhen _ (List.mem_cons_self ..)) (hne _ (List.mem_cons_self ..)) hstep

/-- A status with the time of the files, between runs of the reloader, is that of the files. -/
theorem Inv.status_of (h : b.Inv s) (htaken : b.TakenSince s) (hnil : s.remaining = []) {now : Status}
    (hnow : fetchStatus s.files = .ok now) (htime : now.updateTime = s.status.updateTime) : s.status.Of s.files := by
  rcases h.phase.outcome hnil with ⟨-, hstatus⟩ | ⟨m, success, hlast, hstatus⟩
  · rw [fetchStatus, readLastReloadResult, hstatus] at hnow
    cases hnow
  · have hseen := h.status htaken
    rw [fetchStatus, readLastReloadResult_statusText hstatus] at hnow
    cases hnow
    rw [← htime] at hseen
    exact hseen.last hlast

end ReloadState

/-- **A tick that begins between runs of the reloader leaves the daemon with what the files had then**, if since some
rest after which a status was taken, if only by this tick, or before which none was, no step disturbs. -/
theorem pollStatus_current (old recent late : List (ReloadState × ReloadStep)) (b s₀ s₁ s : ReloadState)
    (hb : Run reloads old b) (hrest : b.Resting)
    (h : Run reloads ((s₁, .update) :: late ++ (s₀, .readStatus) :: (recent ++ old)) s) (htaken : b.TakenSince s)
    (hwhen : ∀ x ∈ (s₁, .update) :: late ++ (s₀, .readStatus) :: recent, x.1.Undisturbed x.2)
    (htick : ∀ x ∈ late, x.2 ≠ .readStatus) (hquiet : s₀.remaining = []) : s.status.Of s₀.files := by
  cases h with
  | next hrun hstep =>
    have hinv : b.Inv s₀ := ReloadState.inv_run hb hrest hrun.before.1 (fun x hx => hwhen x (by simp [hx]))
    have htracks := ReloadState.tracks_run hquiet hrun (fun x hx => hwhen x (by simp [hx])) htick
    simp only [reloads, ReloadState.step] at hstep
    split at hstep
    · rename_i now hpoll
      cases hstep
      rw [ReloadState.Tracks, hpoll] at htracks
      obtain hidle | ⟨hof, ⟨hstatus, hnotified⟩, -⟩ := htracks
      · cases hidle
      · by_cases htime : now.updateTime = s₁.status.updateTime
        · unfold ReloadState.take at htaken ⊢
          rw [if_pos htime] at htaken ⊢
          have htaken₀ : b.TakenSince s₀ := htaken.imp_right (fun hlt => hnotified ▸ hlt)
          rw [hstatus] at htime ⊢
          exact hinv.status_of htaken₀ hquiet hof htime
        · unfold ReloadState.take
          rw [if_neg htime]
          exact ⟨now, hof, rfl, rfl⟩
    · cases hstep

/-- A whole run of the reloader. -/
def wholeRun (r : ReloadRun) : List ReloadStep := .start r :: (reloadFrr r).map (fun _ => .write)

def wholeTick : List ReloadStep := [.readStatus, .readLastError, .readRunningConfig, .update]

/-- What happens in these steps, the newest first, and where they lead. -/
def tracedReloads (steps : List ReloadStep) : List (ReloadState × ReloadStep) × ReloadState :=
  (reloads.exec steps [] {}).getD ([], {})

/-- The reload that ends the trace below. -/
def lastReload : ReloadRun :=
  { result := .notApplied, testOutput := "line 3", runningConf := "router bgp 64514", seconds := 101 }

/-- Two reloads in one second, with a tick after each, of which the second tick sees nothing; a reload one second
later, and a tick. -/
def failedLater : List ReloadStep :=
  wholeRun { result := .applied, runningConf := "router bgp 64512", seconds := 100 } ++ wholeTick ++
    wholeRun { result := .applied, runningConf := "router bgp 64513", seconds := 100 } ++ wholeTick ++
    wholeRun lastReload ++ wholeTick

theorem pollStatus_current_failedLater :
    (tracedReloads failedLater).2.status = ⟨"101", "router bgp 64514", "line 3"⟩ ∧
      (tracedReloads failedLater).2.status.Of (tracedReloads failedLater).2.files := by
  let r := tracedReloads failedLater
  -- the states before the last steps, the newest first
  let state (i : Nat) : ReloadState := (r.1.map Prod.fst).getD i {}
  have hexec : reloads.exec failedLater [] {} = some r := by decide +kernel
  have hrun : Run reloads r.1 r.2 := Run.of_exec failedLater .start hexec
  have hbefore : r.1 = r.1.take 10 ++ (state 10, .start lastReload) :: r.1.drop 11 := by decide +kernel
  have hsplit : r.1 = (state 0, .update) :: (r.1.drop 1).take 2 ++
      (state 3, .readStatus) :: ((r.1.drop 4).take 7 ++ r.1.drop 11) := by decide +kernel
  have hrest : (state 10).remaining = [] ∧ (state 10).poll = .idle := by decide +kernel
  have hwhen : ∀ x ∈ (state 0, .update) :: (r.1.drop 1).take 2 ++ (state 3, .readStatus) :: (r.1.drop 4).take 7,
      x.1.Undisturbed x.2 := by decide +kernel
  have hsame : (state 3).files = r.2.files := by decide +kernel
  have hb : Run reloads (r.1.drop 11) (state 10) := (hbefore ▸ hrun).before.1
  exact ⟨by decide +kernel, hsame ▸ pollStatus_current (r.1.drop 11) ((r.1.drop 4).take 7) ((r.1.drop 1).take 2)
    (state 10) (state 3) (state 0) r.2 hb ⟨hrest.1, hrest.2⟩ (hsplit ▸ hrun) (Or.inr (by decide +kernel)) hwhen
    (by decide +kernel) (by decide +kernel)⟩

/-- A failure in the second of the success before it: the daemon keeps the success.  And a tick that reads while the
failed run has yet to save the running configuration: later ticks keep the one from before. -/
theorem pollStatus_loses :
    (let r := tracedReloads (
      wholeRun { result := .applied, runningConf := "router bgp 64512", seconds := 100 } ++ wholeTick ++
        wholeRun { result := .notApplied, testOutput := "line 3", runningConf := "router bgp 64513", seconds := 100 } ++
        wholeTick)
     r.2.remaining = [] ∧ r.2.status = ⟨"100", "router bgp 64512", "success"⟩ ∧
      fetchStatus r.2.files = .ok ⟨"100", "router bgp 64513", "line 3"⟩) ∧
    (let failing : ReloadRun := { result := .notApplied, testOutput := "line 3", runningConf := "router bgp 64513",
                                  seconds := 101 }
     let r := tracedReloads (
      wholeRun { result := .applied, runningConf := "router bgp 64512", seconds := 100 } ++ wholeTick ++
        (.start failing :: List.replicate 4 .write) ++ wholeTick ++ List.replicate 2 .write ++ wholeTick)
     r.2.remaining = [] ∧ r.2.status = ⟨"101", "router bgp 64512", "line 3"⟩ ∧
      fetchStatus r.2.files = .ok ⟨"101", "router bgp 64513", "line 3"⟩) := by
  decide +kernel

end FrrK8s
