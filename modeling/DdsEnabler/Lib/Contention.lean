import DdsEnabler.Lib.Exec

/-!
Threads over a shared state, one of which at most is engaged.

A thread moves by computations on the shared state, and has a state of its own between them.
`Exclusive` says that no two threads are engaged, and that an engaged thread owns something of
the shared state. It is kept by the moves of a thread that is engaged alone, by those of a
thread that stays aside, and by whatever leaves to the engaged thread what it owns. `Throughout`
is a plain invariant, of the shared state and of the states of the threads.
-/

namespace DdsEnabler.Contention

open Exec

variable {κ σ τ ε : Type}

structure Threads (κ σ τ : Type) where
  shared : σ
  thread : κ → τ

namespace Threads

/-- The shared state changes, and no thread moves. -/
def disturb (c : Threads κ σ τ) (x : EStateM ε σ Unit) : Threads κ σ τ :=
  { c with shared := after x c.shared }

variable [DecidableEq κ]

/-- A thread moves by a computation, and has failed where that throws. -/
def move (c : Threads κ σ τ) (k : κ) (failed : τ) (x : EStateM ε σ τ) : Threads κ σ τ where
  shared := after x c.shared
  thread := Function.update c.thread k ((outcome x c.shared).toOption.getD failed)

end Threads

/-- An invariant of the shared state, and what holds of every thread. -/
structure Throughout (I : σ → Prop) (Q : τ → Prop) (c : Threads κ σ τ) : Prop where
  shared : I c.shared
  threads : ∀ k, Q (c.thread k)

/-- No two threads are engaged, and the one that is owns something of the shared state. -/
structure Exclusive (engaged : τ → Prop) (owns : σ → τ → Prop) (c : Threads κ σ τ) : Prop where
  unique : ∀ k k', engaged (c.thread k) → engaged (c.thread k') → k = k'
  owns : ∀ k, engaged (c.thread k) → owns c.shared (c.thread k)

variable {engaged : τ → Prop} {owns : σ → τ → Prop} {c : Threads κ σ τ}

lemma exclusive_of_free (h : ∀ k, ¬ engaged (c.thread k)) : Exclusive engaged owns c where
  unique k _ hk := absurd hk (h k)
  owns k hk := absurd hk (h k)

lemma Exclusive.disturb (h : Exclusive engaged owns c) {x : EStateM ε σ Unit}
    (hx : ∀ k, engaged (c.thread k) → owns c.shared (c.thread k) →
      owns (after x c.shared) (c.thread k)) : Exclusive engaged owns (c.disturb x) where
  unique := h.unique
  owns k hk := hx k hk (h.owns k hk)

variable [DecidableEq κ] {k : κ} {failed : τ} {x : EStateM ε σ τ}

lemma thread_move_self (c : Threads κ σ τ) (k : κ) (failed : τ) (x : EStateM ε σ τ) :
    (c.move k failed x).thread k = failed ∨
      x.run c.shared = .ok ((c.move k failed x).thread k) (c.move k failed x).shared := by
  simp only [Threads.move, Function.update_self]
  rcases hrun : x.run c.shared with ⟨y, t⟩ | ⟨e, t⟩
  · right
    rw [outcome_ok hrun, after_ok hrun]
    rfl
  · left
    rw [(run_eq_error.mp hrun).1]
    rfl

lemma thread_move_ne (c : Threads κ σ τ) {k' : κ} (h : k' ≠ k) :
    (c.move k failed x).thread k' = c.thread k' := Function.update_of_ne h _ _

/-- A thread moves while no other is engaged. -/
lemma exclusive_move (halone : ∀ k', engaged (c.thread k') → k' = k) (hfailed : ¬ engaged failed)
    (hx : ∀ y t, x.run c.shared = .ok y t → engaged y → owns t y) :
    Exclusive engaged owns (c.move k failed x) := by
  have hself : ∀ k', engaged ((c.move k failed x).thread k') → k' = k := by
    intro k' hk'
    by_contra hne
    rw [thread_move_ne c hne] at hk'
    exact hne (halone k' hk')
  refine ⟨fun k₁ k₂ h₁ h₂ => (hself k₁ h₁).trans (hself k₂ h₂).symm, fun k' hk' => ?_⟩
  obtain rfl := hself k' hk'
  rcases thread_move_self c k' failed x with h | h
  · rw [h] at hk'
    exact absurd hk' hfailed
  · exact hx _ _ h hk'

lemma Throughout.move {I : σ → Prop} {Q : τ → Prop} (h : Throughout I Q c) (hx : Ensures I x Q)
    (hfailed : Q failed) : Throughout I Q (c.move k failed x) := by
  obtain ⟨hafter, hreturned⟩ := hx c.shared h.shared
  refine ⟨hafter, fun k' => ?_⟩
  by_cases hk : k' = k
  · subst hk
    rcases thread_move_self c k' failed x with hself | hrun
    · rw [hself]
      exact hfailed
    · exact hreturned _ _ hrun
  · rw [thread_move_ne c hk]
    exact h.threads k'

lemma Exclusive.aside (h : Exclusive engaged owns c) (hk : ¬ engaged (c.thread k))
    (hfailed : ¬ engaged failed) (hx : ∀ y t, x.run c.shared = .ok y t → ¬ engaged y)
    (hkeep : ∀ k, engaged (c.thread k) → owns c.shared (c.thread k) →
      owns (after x c.shared) (c.thread k)) : Exclusive engaged owns (c.move k failed x) := by
  have hother : ∀ k', engaged ((c.move k failed x).thread k') → k' ≠ k := by
    rintro k' hk' rfl
    rcases thread_move_self c k' failed x with h | h
    · rw [h] at hk'
      exact hfailed hk'
    · exact hx _ _ h hk'
  refine ⟨fun k₁ k₂ h₁ h₂ => ?_, fun k' hk' => ?_⟩
  · have hne₁ := hother k₁ h₁
    have hne₂ := hother k₂ h₂
    rw [thread_move_ne c hne₁] at h₁
    rw [thread_move_ne c hne₂] at h₂
    exact h.unique k₁ k₂ h₁ h₂
  · have hne := hother k' hk'
    rw [thread_move_ne c hne] at hk' ⊢
    exact hkeep k' hk' (h.owns k' hk')

end DdsEnabler.Contention
