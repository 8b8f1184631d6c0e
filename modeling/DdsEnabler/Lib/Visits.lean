import DdsEnabler.Lib.Runs

/-!
The steps of a run with the states that they find.

`visits step s w` pairs each event of a run with the state before it. What the steps leave alone,
each in the state that it finds, the run leaves alone; and what each step reports of the keys that
it creates is reported once.
-/

namespace DdsEnabler.Runs

variable {σ ι β : Type} {step : σ → ι → σ}

/-- The events of a run, each with the state that it finds. -/
def visits (step : σ → ι → σ) (s : σ) (w : List ι) : List (σ × ι) := (w.scanl step s).zip w

@[simp] lemma visits_nil (s : σ) : visits step s [] = [] := by simp [visits]

@[simp] lemma visits_cons (s : σ) (i : ι) (w : List ι) :
    visits step s (i :: w) = (s, i) :: visits step (step s i) w := by simp [visits]

lemma run_frame {f : σ → β} {s : σ} {w : List ι}
    (h : ∀ m ∈ visits step s w, f (step m.1 m.2) = f m.1) : f (run step s w) = f s := by
  induction w generalizing s with
  | nil => rfl
  | cons i w ih =>
    rw [visits_cons, List.forall_mem_cons] at h
    rw [run_cons, ih h.2]
    exact h.1

/-! ### Reports of what is created -/

/-- Keys that are there stay, and a step reports a key when it creates it, once. So no key is
reported twice, nor any that was there before the run. -/
lemma nodup_reports {κ : Type} {has : σ → κ → Prop} {reports : σ → ι → List κ}
    (hkeeps : ∀ s i k, has s k → has (step s i) k)
    (hcreates : ∀ s i, ∀ k ∈ reports s i, ¬ has s k ∧ has (step s i) k)
    (hnodup : ∀ s i, (reports s i).Nodup) (s : σ) (w : List ι) :
    ((visits step s w).flatMap fun m => reports m.1 m.2).Nodup ∧
      ∀ k ∈ (visits step s w).flatMap fun m => reports m.1 m.2, ¬ has s k := by
  induction w generalizing s with
  | nil => simp
  | cons i w ih =>
    obtain ⟨hrest, hnew⟩ := ih (step s i)
    rw [visits_cons, List.flatMap_cons]
    refine ⟨List.nodup_append.mpr ⟨hnodup s i, hrest, ?_⟩, fun k hk => ?_⟩
    · rintro k hk k' hk' rfl
      exact hnew k hk' (hcreates s i k hk).2
    · rcases List.mem_append.mp hk with hk | hk
      · exact (hcreates s i k hk).1
      · exact fun hs => hnew k hk (hkeeps s i k hs)

end DdsEnabler.Runs
