import Mathlib

/-!
Runs of a state machine given as a function.

`run step s w` feeds the events `w` to the machine one after the other. `Along step P s w`
says that `P` holds at every step of that run, of the state the step finds and its event.
What holds of one step under an invariant holds along every run from a state with the
invariant.
-/

namespace DdsEnabler.Runs

variable {σ ι : Type} {step : σ → ι → σ}

def run (step : σ → ι → σ) (s : σ) (w : List ι) : σ := w.foldl step s

@[simp] lemma run_nil (s : σ) : run step s [] = s := rfl
@[simp] lemma run_cons (s : σ) (i : ι) (w : List ι) :
    run step s (i :: w) = run step (step s i) w := rfl
lemma run_append (s : σ) (u v : List ι) : run step s (u ++ v) = run step (run step s u) v := by
  simp [run, List.foldl_append]

/-- `P` holds at every step of the run. -/
def Along (step : σ → ι → σ) (P : σ → ι → Prop) : σ → List ι → Prop
  | _, [] => True
  | s, i :: w => P s i ∧ Along step P (step s i) w

lemma along_of_forall {P : σ → ι → Prop} (h : ∀ s i, P s i) (s : σ) (w : List ι) :
    Along step P s w := by
  induction w generalizing s with
  | nil => trivial
  | cons i w ih => exact ⟨h s i, ih _⟩

variable {P Q G : σ → ι → Prop} {I : σ → Prop}

@[simp] lemma along_nil (s : σ) : Along step P s [] := trivial
@[simp] lemma along_cons (s : σ) (i : ι) (w : List ι) :
    Along step P s (i :: w) ↔ P s i ∧ Along step P (step s i) w := Iff.rfl

lemma along_append (s : σ) (u v : List ι) :
    Along step P s (u ++ v) ↔ Along step P s u ∧ Along step P (run step s u) v := by
  induction u generalizing s with
  | nil => simp
  | cons i u ih => simp [ih, and_assoc]

/-- An invariant of the steps that meet `G` holds at the end of a run of such steps. -/
lemma run_inv (hstep : ∀ s i, I s → G s i → I (step s i)) {s : σ} {w : List ι} (hs : I s)
    (hw : Along step G s w) : I (run step s w) := by
  induction w generalizing s with
  | nil => exact hs
  | cons i w ih => exact ih (hstep s i hs hw.1) hw.2

lemma run_inv_all (hstep : ∀ s i, I s → I (step s i)) {s : σ} (hs : I s) (w : List ι) :
    I (run step s w) := by
  induction w generalizing s with
  | nil => exact hs
  | cons i w ih => exact ih (hstep s i hs)

/-- What holds of a step under the invariant holds along the run. -/
lemma along_of_inv (hstep : ∀ s i, I s → G s i → I (step s i))
    (h : ∀ s i, I s → G s i → P s i) {s : σ} {w : List ι} (hs : I s)
    (hw : Along step G s w) : Along step P s w := by
  induction w generalizing s with
  | nil => trivial
  | cons i w ih => exact ⟨h s i hs hw.1, ih (hstep s i hs hw.1) hw.2⟩

/-- Two step properties that agree under the invariant agree along the run, if the invariant
is kept as long as they hold. -/
lemma along_iff_of_inv (hstep : ∀ s i, I s → G s i → Q s i → I (step s i))
    (h : ∀ s i, I s → G s i → (P s i ↔ Q s i)) {s : σ} {w : List ι} (hs : I s)
    (hw : Along step G s w) : Along step P s w ↔ Along step Q s w := by
  induction w generalizing s with
  | nil => exact Iff.rfl
  | cons i w ih =>
    rw [along_cons, along_cons, h s i hs hw.1]
    exact and_congr_right fun hq => ih (hstep s i hs hw.1 hq) hw.2

/-! ### From run to run -/

section Reaches

variable {s t r : σ} {i : ι} {w : List ι}

/-- A run of steps with the property leads from one state to the other. -/
def Reaches (step : σ → ι → σ) (P : σ → ι → Prop) (s t : σ) : Prop :=
  ∃ w, Along step P s w ∧ run step s w = t

lemma Reaches.refl (s : σ) : Reaches step P s s := ⟨[], trivial, rfl⟩

lemma Reaches.one (h : P s i) : Reaches step P s (step s i) := ⟨[i], ⟨h, trivial⟩, rfl⟩

lemma Reaches.trans (h : Reaches step P s t) (h' : Reaches step P t r) : Reaches step P s r := by
  obtain ⟨u, hu, rfl⟩ := h
  obtain ⟨v, hv, rfl⟩ := h'
  exact ⟨u ++ v, (along_append s u v).mpr ⟨hu, hv⟩, run_append s u v⟩

/-- A machine in which every step is a run of another one: its runs are runs of that one, too. -/
lemma Reaches.of_run {κ : Type} {whole : σ → κ → σ} {W : σ → κ → Prop}
    (h : ∀ s k, W s k → Reaches step P s (whole s k)) {w : List κ} (hw : Along whole W s w) :
    Reaches step P s (run whole s w) := by
  induction w generalizing s with
  | nil => exact .refl s
  | cons k w ih => exact (h s k hw.1).trans (ih hw.2)

lemma Reaches.map {τ κ : Type} {outer : τ → κ → τ} {O : τ → κ → Prop} (f : σ → τ) (g : ι → κ)
    (hstep : ∀ s i, f (step s i) = outer (f s) (g i)) (hfits : ∀ s i, P s i → O (f s) (g i))
    (h : Reaches step P s t) : Reaches outer O (f s) (f t) := by
  obtain ⟨w, hw, rfl⟩ := h
  induction w generalizing s with
  | nil => exact .refl (f s)
  | cons i w ih =>
    refine Reaches.trans (.one (hfits s i hw.1)) ?_
    rw [← hstep]
    exact ih hw.2

end Reaches

end DdsEnabler.Runs
