/-!
# Runs — step after step of a system

A system takes events, each in a state where it can happen.  A run keeps what happened, the newest first, each event
with the state it happened in; a property that every step keeps, for events of some kind, holds after every run of such
events (`Run.invariant`).  A run of a system with parts is a run of each of them (`Run.project`).
-/
namespace FrrK8s

structure System (σ ε : Type) where
  init : σ
  /-- The state after an event, or `none` where the event cannot happen. -/
  step : σ → ε → Option σ

section

variable {σ ε : Type} {sys : System σ ε}

inductive Run (sys : System σ ε) : List (σ × ε) → σ → Prop
  | start : Run sys [] sys.init
  | next {past : List (σ × ε)} {s s' : σ} {e : ε} : Run sys past s → sys.step s e = some s' →
      Run sys ((s, e) :: past) s'

/-- **What every step keeps holds after every run** of events that satisfy `G`. -/
theorem Run.invariant {G : σ → ε → Prop} {P : List (σ × ε) → σ → Prop} (hinit : P [] sys.init)
    (hstep : ∀ past s e s', Run sys past s → P past s → G s e → sys.step s e = some s' → P ((s, e) :: past) s')
    {past : List (σ × ε)} {s : σ} (h : Run sys past s) (hG : ∀ x ∈ past, G x.1 x.2) : P past s := by
  induction h with
  | start => exact hinit
  | next hrun hs ih =>
    exact hstep _ _ _ _ hrun (ih (fun x hx => hG x (List.mem_cons_of_mem _ hx))) (hG _ (List.mem_cons_self ..)) hs

/-- The same where a step may use what holds of everything that happened before. -/
theorem Run.invariant_past {G : σ → ε → Prop} {P : List (σ × ε) → σ → Prop} (hinit : P [] sys.init)
    (hstep : ∀ past s e s', Run sys past s → (∀ x ∈ past, G x.1 x.2) → P past s → G s e → sys.step s e = some s' →
      P ((s, e) :: past) s')
    {past : List (σ × ε)} {s : σ} (h : Run sys past s) (hG : ∀ x ∈ past, G x.1 x.2) : P past s := by
  refine (h.invariant (G := G) (P := fun past s => (∀ x ∈ past, G x.1 x.2) ∧ P past s)
    ⟨fun x hx => absurd hx List.not_mem_nil, hinit⟩ (fun past s e s' hrun hprev hGe hs => ?_) hG).2
  exact ⟨List.forall_mem_cons.2 ⟨hGe, hprev.1⟩, hstep past s e s' hrun hprev.1 hprev.2 hGe hs⟩

/-- What happened before an event is a run that leads to the event. -/
theorem Run.before {late past : List (σ × ε)} {s s' : σ} {e : ε} (h : Run sys (late ++ (s, e) :: past) s') :
    Run sys past s ∧ (sys.step s e).isSome = true := by
  induction late generalizing s' with
  | nil =>
    cases h with
    | next hrun hs => exact ⟨hrun, by rw [hs]; rfl⟩
  | cons x late ih =>
    cases h with
    | next hrun _ => exact ih hrun

theorem Run.unique {past : List (σ × ε)} {s s' : σ} (h : Run sys past s) (h' : Run sys past s') : s = s' := by
  cases h with
  | start =>
    cases h'
    rfl
  | next _ hs =>
    cases h' with
    | next _ hs' => exact Option.some.inj (hs.symm.trans hs')

/-- **What holds at some point and every later step keeps holds at the end**, for later events that satisfy `G`. -/
theorem Run.invariant_from {G : σ → ε → Prop} {P : σ → Prop} {old : List (σ × ε)} {b : σ} (hb : Run sys old b)
    (hP : P b) (hstep : ∀ s e s', P s → G s e → sys.step s e = some s' → P s') : ∀ {recent : List (σ × ε)} {s : σ},
    Run sys (recent ++ old) s → (∀ x ∈ recent, G x.1 x.2) → P s
  | [], _, h, _ => hb.unique h ▸ hP
  | x :: recent, _, .next h hs, hG =>
    hstep _ _ _ (hb.invariant_from hP hstep h (fun y hy => hG y (List.mem_cons_of_mem x hy)))
    (hG _ (List.mem_cons_self ..)) hs

/-- **What an event brings about and no later event undoes holds at the end.** -/
theorem Run.since {P : σ → Prop} {late past : List (σ × ε)} {s s' : σ} {e : ε} (h : Run sys (late ++ (s, e) :: past) s')
    (hevent : ∀ t, sys.step s e = some t → P t) (hlate : ∀ x ∈ late, ∀ t, P x.1 → sys.step x.1 x.2 = some t → P t) :
    P s' := by
  induction late generalizing s' with
  | nil =>
    cases h with
    | next _ hs => exact hevent _ hs
  | cons x late ih =>
    cases h with
    | next hrun hs =>
      exact hlate _ (List.mem_cons_self ..) _ (ih hrun (fun y hy => hlate y (List.mem_cons_of_mem _ hy))) hs

/-- What happened to a part of a system, where `g` tells which events are the part's. -/
def partOf {τ δ : Type} (f : σ → τ) (g : σ → ε → Option δ) (past : List (σ × ε)) : List (τ × δ) :=
  past.filterMap (fun x => (g x.1 x.2).map (fun d => (f x.1, d)))

/-- **A run of a system is a run of each part**: the events that are none of the part's leave it as it is. -/
theorem Run.project {τ δ : Type} {part : System τ δ} {f : σ → τ} {g : σ → ε → Option δ} {past : List (σ × ε)} {s : σ}
    (h : Run sys past s) (hinit : f sys.init = part.init)
    (hother : ∀ s e s', sys.step s e = some s' → g s e = none → f s' = f s)
    (hown : ∀ s e s' d, sys.step s e = some s' → g s e = some d → part.step (f s) d = some (f s')) :
    Run part (partOf f g past) (f s) := by
  induction h with
  | start => exact hinit ▸ .start
  | @next past s s' e _ hs ih =>
    unfold partOf at ih ⊢
    cases hd : g s e with
    | none =>
      rw [List.filterMap_cons_none (by rw [hd]; rfl), hother s e s' hs hd]
      exact ih
    | some d =>
      rw [List.filterMap_cons_some (by rw [hd]; rfl)]
      exact .next ih (hown s e s' d hs hd)

/-- Two systems of which the second follows the first: what an event of the first tells it happens with the event, and
it has events of its own. -/
def System.joint {τ δ : Type} (sys : System σ ε) (part : System τ δ) (tells : σ → ε → Option δ) (own : δ → Bool) :
    System (σ × τ) (ε ⊕ δ) where
  init := (sys.init, part.init)
  step s
    | .inl e =>
      (sys.step s.1 e).bind (fun s' =>
        match tells s.1 e with
        | none => some (s', s.2)
        | some d => (part.step s.2 d).map (fun t => (s', t)))
    | .inr d => if own d then (part.step s.2 d).map (fun t => (s.1, t)) else none

section

variable {τ δ : Type} {part : System τ δ} {tells : σ → ε → Option δ} {own : δ → Bool}

/-- What a step of the two does: one of the first with what it tells the second, or one of the second. -/
inductive System.Joins (sys : System σ ε) (part : System τ δ) (tells : σ → ε → Option δ) (own : δ → Bool) (s : σ)
    (t : τ) : ε ⊕ δ → σ → τ → Prop
  | silent {e : ε} {s' : σ} (hstep : sys.step s e = some s') (hnone : tells s e = none) :
      Joins sys part tells own s t (.inl e) s' t
  | told {e : ε} {d : δ} {s' : σ} {t' : τ} (hstep : sys.step s e = some s') (hsome : tells s e = some d)
      (hpart : part.step t d = some t') : Joins sys part tells own s t (.inl e) s' t'
  | own {d : δ} {t' : τ} (hown : own d = true) (hpart : part.step t d = some t') :
      Joins sys part tells own s t (.inr d) s t'

theorem System.joins_of_step {s s' : σ × τ} {e : ε ⊕ δ} (h : (sys.joint part tells own).step s e = some s') :
    sys.Joins part tells own s.1 s.2 e s'.1 s'.2 := by
  cases e with
  | inl e =>
    obtain ⟨t, hstep, h⟩ := Option.bind_eq_some_iff.1 h
    cases htells : tells s.1 e with
    | none =>
      simp only [htells] at h
      obtain rfl := Option.some.inj h
      exact .silent hstep htells
    | some d =>
      simp only [htells] at h
      obtain ⟨t', hpart, rfl⟩ := Option.map_eq_some_iff.1 h
      exact .told hstep htells hpart
  | inr d =>
    simp only [System.joint] at h
    split at h
    · rename_i hown
      obtain ⟨t', hpart, rfl⟩ := Option.map_eq_some_iff.1 h
      exact .own hown hpart
    · cases h

/-- **A run of the two is a run of the first.** -/
theorem Run.joint_fst {past : List ((σ × τ) × (ε ⊕ δ))} {s : σ × τ} (h : Run (sys.joint part tells own) past s) :
    Run sys (partOf Prod.fst (fun _ => Sum.getLeft?) past) s.1 := by
  refine h.project rfl ?_ ?_
  · rintro ⟨s, t⟩ e ⟨s', t'⟩ hstep hnone
    cases System.joins_of_step hstep with
    | silent | told => cases hnone
    | own => rfl
  · rintro ⟨s, t⟩ e ⟨s', t'⟩ d hstep hsome
    cases System.joins_of_step hstep with
    | silent hsys | told hsys =>
      cases hsome
      exact hsys
    | own => cases hsome

/-- **And one of the second**, whose events are its own and what the first tells it. -/
theorem Run.joint_snd {past : List ((σ × τ) × (ε ⊕ δ))} {s : σ × τ} (h : Run (sys.joint part tells own) past s) :
    Run part (partOf Prod.snd (fun s => Sum.elim (tells s.1) some) past) s.2 := by
  refine h.project rfl ?_ ?_
  · rintro ⟨s, t⟩ e ⟨s', t'⟩ hstep hnone
    cases System.joins_of_step hstep with
    | silent => rfl
    | told _ hsome => cases hsome.symm.trans hnone
    | own => cases hnone
  · rintro ⟨s, t⟩ e ⟨s', t'⟩ d hstep hsome
    cases System.joins_of_step hstep with
    | silent _ hnone => cases hnone.symm.trans hsome
    | told _ htold hpart =>
      cases htold.symm.trans hsome
      exact hpart
    | own _ hpart =>
      cases hsome
      exact hpart

end

/-- From a state to another by events that satisfy `G`. -/
inductive Leads (sys : System σ ε) (G : σ → ε → Prop) : σ → σ → Prop
  | here {s : σ} : Leads sys G s s
  | next {s s' t : σ} {e : ε} : G s e → sys.step s e = some s' → Leads sys G s' t → Leads sys G s t

section

variable {G : σ → ε → Prop}

theorem Leads.trans {s t u : σ} (h : Leads sys G s t) (h' : Leads sys G t u) : Leads sys G s u := by
  induction h with
  | here => exact h'
  | next hG hs _ ih => exact .next hG hs (ih h')

theorem Leads.single {s s' : σ} {e : ε} (hG : G s e) (hs : sys.step s e = some s') :
    Leads sys G s s' := .next hG hs .here

/-- A run is continued. -/
theorem Run.leads {past : List (σ × ε)} {s t : σ} (h : Run sys past s) (hl : Leads sys G s t) :
    ∃ more, Run sys (more ++ past) t ∧ ∀ x ∈ more, G x.1 x.2 := by
  induction hl generalizing past with
  | here => exact ⟨[], h, fun x hx => absurd hx List.not_mem_nil⟩
  | @next s s' t e hG hs _ ih =>
    obtain ⟨more, hrun, hmore⟩ := ih (h.next hs)
    refine ⟨more ++ [(s, e)], by rwa [List.append_assoc, List.singleton_append], fun x hx => ?_⟩
    obtain hx | hx := List.mem_append.1 hx
    · exact hmore x hx
    · rw [List.mem_singleton.1 hx]
      exact hG

/-- **A goal can be reached if wherever it is not reached a measure can be made smaller.** -/
theorem Leads.of_measure {P Goal : σ → Prop} (measure : σ → Nat)
    (hless : ∀ s, P s → ¬ Goal s → ∃ t, Leads sys G s t ∧ P t ∧ measure t < measure s) :
    ∀ s, P s → ∃ t, Leads sys G s t ∧ P t ∧ Goal t := by
  have hbound : ∀ n s, measure s ≤ n → P s → ∃ t, Leads sys G s t ∧ P t ∧ Goal t := by
    intro n
    induction n with
    | zero =>
      intro s hs hP
      refine ⟨s, .here, hP, Classical.byContradiction (fun hgoal => ?_)⟩
      obtain ⟨t, -, -, hlt⟩ := hless s hP hgoal
      omega
    | succ n ih =>
      intro s hs hP
      refine Classical.byCases (fun hgoal : Goal s => ⟨s, .here, hP, hgoal⟩) (fun hgoal => ?_)
      obtain ⟨t, hst, hPt, hlt⟩ := hless s hP hgoal
      obtain ⟨u, htu, hPu, hu⟩ := ih t (by omega) hPt
      exact ⟨u, hst.trans htu, hPu, hu⟩
  exact fun s hP => hbound _ s (Nat.le_refl _) hP

/-- What a part can do the whole can do. -/
theorem Leads.lift {τ δ : Type} {part : System τ δ} {G' : τ → δ → Prop} {f : τ → σ} {g : δ → ε}
    (hstep : ∀ t d t', G' t d → part.step t d = some t' → G (f t) (g d) ∧ sys.step (f t) (g d) = some (f t')) {t t' : τ}
    (h : Leads part G' t t') : Leads sys G (f t) (f t') := by
  induction h with
  | here => exact .here
  | next hG hs _ ih => exact .next (hstep _ _ _ hG hs).1 (hstep _ _ _ hG hs).2 ih

end

/-- The run of a list of events, the first one first. -/
def System.exec (sys : System σ ε) : List ε → List (σ × ε) → σ → Option (List (σ × ε) × σ)
  | [], past, s => some (past, s)
  | e :: events, past, s => (sys.step s e).bind (fun s' => sys.exec events ((s, e) :: past) s')

theorem Run.of_exec : ∀ (events : List ε) {past : List (σ × ε)} {s : σ} {r : List (σ × ε) × σ}, Run sys past s →
    sys.exec events past s = some r → Run sys r.1 r.2
  | [], _, _, r, hrun, h => by
    obtain rfl := Option.some.inj h
    exact hrun
  | e :: events, past, s, r, hrun, h => by
    obtain ⟨s', hs, h⟩ := Option.bind_eq_some_iff.1 h
    exact Run.of_exec events (.next hrun hs) h

/-- The same where the events are only known to be possible. -/
theorem Run.of_exec_getD {events : List ε} {past : List (σ × ε)} {s : σ} (d : List (σ × ε) × σ) (hrun : Run sys past s)
    (h : (sys.exec events past s).isSome = true) :
    Run sys ((sys.exec events past s).getD d).1 ((sys.exec events past s).getD d).2 := by
  obtain ⟨r, hr⟩ := Option.isSome_iff_exists.1 h
  rw [hr]
  exact Run.of_exec events hrun hr

end

end FrrK8s
