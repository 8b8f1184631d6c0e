import DdsEnabler.Lib.Runs

/-!
Logs, and where their entries come from.

A computation extends a log by entries of a kind, given what the log holds already.
In a system of several parties each entry of a log has a cause, in the logs of the parties and in
the history of the run. What causes an entry stays its cause as the system goes on, so a step has
to account for the entries it adds only.
-/

namespace DdsEnabler.Provenance

open Runs

/-! ### Entries with keys -/

section Keys

variable {α κ : Type} {f : α → Option κ} {l : List α}

lemma eq_of_key (h : (l.filterMap f).Nodup) {a b : α} {k : κ} (ha : a ∈ l) (hb : b ∈ l)
    (hka : f a = some k) (hkb : f b = some k) : a = b := by
  induction l with
  | nil => cases ha
  | cons x l ih =>
    have hmem : ∀ y ∈ l, f y = some k → k ∈ l.filterMap f :=
      fun y hy hk => List.mem_filterMap.mpr ⟨y, hy, hk⟩
    have hhead : f x = some k → k ∉ l.filterMap f := by
      intro hx
      rw [List.filterMap_cons_some hx] at h
      exact (List.nodup_cons.mp h).1
    have htail : (l.filterMap f).Nodup := by
      rcases hx : f x with _ | n
      · rwa [List.filterMap_cons_none hx] at h
      · rw [List.filterMap_cons_some hx] at h
        exact h.of_cons
    rcases List.mem_cons.mp ha with hax | ha
    · rcases List.mem_cons.mp hb with hbx | hb
      · rw [hax, hbx]
      · exact absurd (hmem b hb hkb) (hhead (hax ▸ hka))
    · rcases List.mem_cons.mp hb with hbx | hb
      · exact absurd (hmem a ha hka) (hhead (hbx ▸ hkb))
      · exact ih htail ha hb

end Keys

/-! ### One log -/

section Log

variable {σ ε : Type}

/-- A kind of entries that may look at the log, and that a longer log does not take back. -/
class Persistent (p : List ε → ε → Prop) : Prop where
  mono : ∀ {l l' : List ε} {e : ε}, l ⊆ l' → p l e → p l' e

/-- A kind that does not look at the log. -/
instance (p : ε → Prop) : Persistent fun _ : List ε => p where
  mono _ h := h

/-- The log grows by entries of a kind, if it holds all of `base` already. -/
def Accrues (log : σ → List ε) (base : List ε) (p : List ε → ε → Prop) (s t : σ) : Prop :=
  base ⊆ log s → ∃ es, log t = log s ++ es ∧ ∀ e ∈ es, p (log t) e

variable {log : σ → List ε} {base base' : List ε} {p : List ε → ε → Prop} {s t : σ}

lemma Accrues.subset (h : Accrues log base p s t) (hbase : base ⊆ log s) : log s ⊆ log t := by
  obtain ⟨es, h, -⟩ := h hbase
  rw [h]
  exact List.subset_append_left _ _

lemma Accrues.given (h : Accrues log base p s t) (hbase : base ⊆ log s) :
    Accrues log base' p s t := fun _ => h hbase

lemma Accrues.of_same (h : log t = log s) : Accrues log base p s t :=
  fun _ => ⟨[], by simp [h], by simp⟩

lemma Accrues.one {e : ε} (h : log t = log s ++ [e]) (he : ∀ l, base ⊆ l → p l e) :
    Accrues log base p s t := by
  intro hbase
  refine ⟨[e], h, ?_⟩
  rw [h]
  simpa using he _ (List.Subset.trans hbase (List.subset_append_left _ _))

instance [Persistent p] : IsPreorder σ (Accrues log base p) where
  refl _ := Accrues.of_same rfl
  trans s t u := by
    intro h h' hbase
    obtain ⟨es, hlog, hes⟩ := h hbase
    have hsubset : log s ⊆ log t := h.subset hbase
    obtain ⟨es', hlog', hes'⟩ := h' (List.Subset.trans hbase hsubset)
    refine ⟨es ++ es', by rw [hlog', hlog, List.append_assoc], fun e he => ?_⟩
    rcases List.mem_append.mp he with he | he
    · refine Persistent.mono ?_ (hes e he)
      rw [hlog']
      exact List.subset_append_left _ _
    · exact hes' e he

end Log

/-! ### Several logs -/

/-- What may cause the entries in the logs of several parties. `Grows` orders the states of the
system as it goes on. -/
structure Causality (ω κ ε : Type) where
  log : ω → κ → List ε
  Grows : ω → ω → Prop
  Cause : ω → κ → ε → Prop
  mono : ∀ {x y k e}, Grows x y → Cause x k e → Cause y k e

namespace Causality

variable {ω κ ε : Type} (c : Causality ω κ ε)

/-- Every entry of every log has its cause. -/
def Justified (x : ω) : Prop := ∀ k, ∀ e ∈ c.log x k, c.Cause x k e

variable {c} {x y : ω}

lemma Justified.step (h : c.Justified x) (hgrows : c.Grows x y)
    (hnew : ∀ k, ∃ es, c.log y k = c.log x k ++ es ∧ ∀ e ∈ es, c.Cause y k e) :
    c.Justified y := by
  intro k e he
  obtain ⟨es, hlog, hes⟩ := hnew k
  rw [hlog] at he
  rcases List.mem_append.mp he with he | he
  · exact c.mono hgrows (h k e he)
  · exact hes e he

end Causality

/-! ### Runs and their history -/

section History

variable {σ ι : Type} {step : σ → ι → σ} {G : σ → ι → Prop} {I : List ι → σ → Prop}

lemma run_history_from (hstep : ∀ h s i, I h s → G s i → I (h ++ [i]) (step s i)) {h : List ι}
    {s : σ} {w : List ι} (hs : I h s) (hw : Along step G s w) : I (h ++ w) (run step s w) := by
  induction w generalizing h s with
  | nil => rwa [List.append_nil, run_nil]
  | cons i w ih =>
    rw [run_cons, List.append_cons]
    exact ih (hstep h s i hs hw.1) hw.2

/-- An invariant that looks at the steps taken so far holds at the end of a run, of all of its
steps. -/
lemma run_history (hstep : ∀ h s i, I h s → G s i → I (h ++ [i]) (step s i)) {s : σ}
    {w : List ι} (hs : I [] s) (hw : Along step G s w) : I w (run step s w) :=
  run_history_from hstep hs hw

/-- What no step makes true holds before every step of a run that ends in it. -/
lemma along_of_run {P : σ → Prop} (hback : ∀ s i, P (step s i) → P s) {s : σ} {w : List ι}
    (hw : P (run step s w)) : P s ∧ Along step (fun s _ => P s) s w := by
  induction w generalizing s with
  | nil => exact ⟨hw, trivial⟩
  | cons i w ih =>
    obtain ⟨hs, htail⟩ := ih hw
    exact ⟨hback s i hs, hback s i hs, htail⟩

lemma along_and {P Q : σ → ι → Prop} {s : σ} {w : List ι} (hp : Along step P s w)
    (hq : Along step Q s w) : Along step (fun s i => P s i ∧ Q s i) s w := by
  induction w generalizing s with
  | nil => trivial
  | cons i w ih => exact ⟨⟨hp.1, hq.1⟩, ih hp.2 hq.2⟩

end History

end DdsEnabler.Provenance
