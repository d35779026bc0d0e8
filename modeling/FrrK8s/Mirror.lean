/-!
# Mirror — a copy of a set that follows its changes

A client keeps a copy of a set and hears of every change some time after it happened, in their order.  Once the changes
under way have arrived the copy is the set (`Mirror.Follows`), and this stays so when the set changes and when a change
arrives.  So where nothing is under way the two agree, and what is still in the copy but no longer in the set is about
to be removed from it.
-/
namespace FrrK8s

inductive Change (α : Type)
  | added (x : α)
  | touched (x : α)
  | removed (x : α)
deriving DecidableEq, Repr

/-- The copy, and the changes that have not arrived, the oldest first. -/
structure Mirror (α : Type) where
  copy : List α := []
  underway : List (Change α) := []
deriving DecidableEq, Repr

section

variable {α : Type} [DecidableEq α] {x : α} {c : Change α} {xs : List α} {m m' : Mirror α}

namespace Change

def subject : Change α → α
  | added x | touched x | removed x => x

def apply (xs : List α) : Change α → List α
  | added y => y :: xs
  | touched _ => xs
  | removed y => xs.filter (fun x => decide (x ≠ y))

/-- The set after a change, if there is one. -/
def applied (xs : List α) (change : Option (Change α)) : List α := change.elim xs (apply xs)

/-- Whether `x` is there after the change. -/
def leaves (x : α) (there : Bool) : Change α → Bool
  | added y => decide (x = y) || there
  | touched _ => there
  | removed y => there && decide (x ≠ y)

theorem mem_apply (x : α) (xs : List α) (c : Change α) : decide (x ∈ c.apply xs) = c.leaves x (decide (x ∈ xs)) := by
  cases c with
  | added y => simp [apply, leaves]
  | touched y => rfl
  | removed y => simp [apply, leaves]

end Change

namespace Mirror

/-- What happens, if anything does, is under way. -/
def hear (m : Mirror α) (change : Option (Change α)) : Mirror α := { m with underway := m.underway ++ change.toList }

/-- The oldest change arrives. -/
def sync (m : Mirror α) : Option (Change α × Mirror α) :=
  match m.underway with
  | [] => none
  | c :: cs => some (c, { copy := c.apply m.copy, underway := cs })

/-- With the changes under way the copy is the set. -/
def Follows (m : Mirror α) (xs : List α) : Prop :=
  ∀ x, m.underway.foldl (fun there c => c.leaves x there) (decide (x ∈ m.copy)) = decide (x ∈ xs)

theorem follows_self (xs : List α) : Follows { copy := xs, underway := [] } xs := fun _ => rfl

theorem Follows.hear (h : m.Follows xs) (change : Option (Change α)) :
    (m.hear change).Follows (Change.applied xs change) := by
  intro x
  rw [Mirror.hear, List.foldl_append, h x]
  cases change with
  | none => rfl
  | some c => exact (Change.mem_apply x xs c).symm

theorem sync_eq (h : m.sync = some (c, m')) : m.underway = c :: m'.underway ∧ m'.copy = c.apply m.copy := by
  unfold sync at h
  split at h
  · cases h
  · rename_i c' cs hcs
    cases h
    exact ⟨hcs, rfl⟩

theorem Follows.sync (h : m.Follows xs) (hsync : m.sync = some (c, m')) : m'.Follows xs := by
  obtain ⟨hunderway, hcopy⟩ := sync_eq hsync
  intro x
  rw [← h x, hunderway, hcopy, List.foldl_cons, Change.mem_apply]

/-- Where nothing is under way the copy is the set. -/
theorem Follows.agree (h : m.Follows xs) (hnone : m.underway = []) : x ∈ m.copy ↔ x ∈ xs := by
  have hx := h x
  rw [hnone, List.foldl_nil] at hx
  exact decide_eq_decide.1 hx

theorem foldl_leaves_true : ∀ {cs : List (Change α)}, Change.removed x ∉ cs →
    cs.foldl (fun there c => c.leaves x there) true = true
  | [], _ => rfl
  | c :: cs, h => by
    rw [List.mem_cons, not_or] at h
    have hc : c.leaves x true = true := by
      cases c with
      | added y => exact Bool.or_true _
      | touched y => rfl
      | removed y => simpa [Change.leaves] using h.1
    rw [List.foldl_cons, hc]
    exact foldl_leaves_true h.2

/-- What is in the copy and no longer in the set is about to be removed. -/
theorem Follows.removing (h : m.Follows xs) (hcopy : x ∈ m.copy) (hgone : x ∉ xs) : Change.removed x ∈ m.underway := by
  refine Classical.byContradiction (fun hnot => ?_)
  have hx := h x
  rw [decide_eq_true hcopy, foldl_leaves_true hnot] at hx
  exact hgone (of_decide_eq_true hx.symm)

end Mirror

end

end FrrK8s
