import Mathlib

/-!
Stateful computations that may throw, and what they leave behind.

A computation of `EStateM` leaves a state whether it returns or throws: an exception undoes
nothing. `Keeps R x` relates the state found to the state left, whatever the outcome; for a
preorder `R` it is closed under sequencing, so a frame fact about a long program is read
off its parts. `Ensures I x Q` is a triple for an invariant, with what holds of the result.
-/

namespace DdsEnabler.Exec

variable {ε σ α β : Type}

/-- The state left by a computation. -/
def after (x : EStateM ε σ α) (s : σ) : σ :=
  match x.run s with
  | .ok _ t => t
  | .error _ t => t

/-- What a computation returns, or the exception it ends with. -/
def outcome (x : EStateM ε σ α) (s : σ) : Except ε α :=
  match x.run s with
  | .ok a _ => .ok a
  | .error e _ => .error e

lemma run_eq_ok {x : EStateM ε σ α} {s t : σ} {a : α} :
    x.run s = .ok a t ↔ outcome x s = .ok a ∧ after x s = t := by
  unfold outcome after
  rcases x.run s with ⟨b, u⟩ | ⟨e, u⟩ <;> simp

lemma run_eq_error {x : EStateM ε σ α} {s t : σ} {e : ε} :
    x.run s = .error e t ↔ outcome x s = .error e ∧ after x s = t := by
  unfold outcome after
  rcases x.run s with ⟨b, u⟩ | ⟨e', u⟩ <;> simp

lemma after_ok {x : EStateM ε σ α} {s t : σ} {a : α} (h : x.run s = .ok a t) :
    after x s = t := (run_eq_ok.mp h).2

lemma after_error {x : EStateM ε σ α} {s t : σ} {e : ε} (h : x.run s = .error e t) :
    after x s = t := (run_eq_error.mp h).2

lemma after_congr {x y : EStateM ε σ α} {s s' : σ} (h : x.run s = y.run s') :
    after x s = after y s' := by
  unfold after
  rw [h]

lemma outcome_congr {x y : EStateM ε σ α} {s s' : σ} (h : x.run s = y.run s') :
    outcome x s = outcome y s' := by
  unfold outcome
  rw [h]

lemma outcome_ok {x : EStateM ε σ α} {s t : σ} {a : α} (h : x.run s = .ok a t) :
    outcome x s = .ok a := (run_eq_ok.mp h).1

lemma outcome_error {x : EStateM ε σ α} {s t : σ} {e : ε} (h : x.run s = .error e t) :
    outcome x s = .error e := (run_eq_error.mp h).1

/-- The end of a computation with its result and the state it leaves. -/
def ended (r : Except ε α) (t : σ) : EStateM.Result ε σ α :=
  match r with
  | .ok a => .ok a t
  | .error e => .error e t

@[simp] lemma ended_ok (a : α) (t : σ) : (ended (.ok a) t : EStateM.Result ε σ α) = .ok a t := rfl
@[simp] lemma ended_error (e : ε) (t : σ) :
    (ended (.error e) t : EStateM.Result ε σ α) = .error e t := rfl

/-- What a computation returns, false where it throws. -/
def returned (x : EStateM ε σ Bool) (s : σ) : Bool :=
  match x.run s with
  | .ok b _ => b
  | .error _ _ => false

lemma returned_ok {x : EStateM ε σ Bool} {s t : σ} {b : Bool} (h : x.run s = .ok b t) :
    returned x s = b := by
  simp [returned, h]

lemma run_bind_ok {x : EStateM ε σ α} {f : α → EStateM ε σ β} {s t : σ} {a : α}
    (h : x.run s = .ok a t) : (x >>= f).run s = (f a).run t := by
  rw [EStateM.run_bind, h]

lemma run_bind_error {x : EStateM ε σ α} {f : α → EStateM ε σ β} {s t : σ} {e : ε}
    (h : x.run s = .error e t) : (x >>= f).run s = .error e t := by
  rw [EStateM.run_bind, h]

lemma ok_of_bind {x : EStateM ε σ α} {f : α → EStateM ε σ β} {s u : σ} {b : β}
    (h : (x >>= f).run s = .ok b u) : ∃ a t, x.run s = .ok a t ∧ (f a).run t = .ok b u := by
  rw [EStateM.run_bind] at h
  rcases hx : x.run s with ⟨a, t⟩ | ⟨e, t⟩ <;> rw [hx] at h
  · exact ⟨a, t, rfl, h⟩
  · cases h

@[simp] lemma run_throw (e : ε) (s : σ) :
    (throw e : EStateM ε σ α).run s = .error e s := rfl

lemma run_discard (x : EStateM ε σ α) (s : σ) :
    (discard x).run s = match x.run s with
      | .ok _ t => .ok () t
      | .error e t => .error e t := rfl

lemma after_discard (x : EStateM ε σ α) (s : σ) : after (discard x) s = after x s := by
  unfold after
  rw [run_discard]
  rcases x.run s with ⟨a, t⟩ | ⟨e, t⟩ <;> rfl

/-- Throw, or go on with a value: a fallible pure step inside a computation. -/
def lift : Except ε α → EStateM ε σ α
  | .ok a => pure a
  | .error e => throw e

@[simp] lemma lift_ok (a : α) : (lift (.ok a) : EStateM ε σ α) = pure a := rfl
@[simp] lemma lift_error (e : ε) : (lift (.error e) : EStateM ε σ α) = throw e := rfl

/-! ### What a computation keeps -/

/-- Whatever the outcome, the state left is related to the state found. -/
def Keeps (R : σ → σ → Prop) (x : EStateM ε σ α) : Prop := ∀ s, R s (after x s)

variable {R : σ → σ → Prop}

lemma Keeps.ite {c : Prop} [Decidable c] {x y : EStateM ε σ α} (hx : Keeps R x)
    (hy : Keeps R y) : Keeps R (if c then x else y) := by
  split
  · exact hx
  · exact hy

lemma after_bind_ok {x : EStateM ε σ α} {f : α → EStateM ε σ β} {s t : σ} {a : α}
    (h : x.run s = .ok a t) : after (x >>= f) s = after (f a) t := by
  simp only [after, run_bind_ok h]

lemma after_bind_pure (x : EStateM ε σ α) (f : α → β) (s : σ) :
    after (x >>= fun a => pure (f a)) s = after x s := by
  rcases h : x.run s with ⟨a, t⟩ | ⟨e, t⟩
  · rw [after_bind_ok h, after_ok h]
    rfl
  · rw [after_error (run_bind_error h), after_error h]

/-- What holds of the state after a sequence: it is enough that it holds where the first part
throws, and after the second part where it returns. -/
lemma after_bind {P : σ → Prop} {x : EStateM ε σ α} {f : α → EStateM ε σ β} {s : σ}
    (herr : ∀ e t, x.run s = .error e t → P t)
    (hok : ∀ a t, x.run s = .ok a t → P (after (f a) t)) : P (after (x >>= f) s) := by
  rcases hx : x.run s with ⟨a, t⟩ | ⟨e, t⟩
  · rw [after_bind_ok hx]
    exact hok a t hx
  · rw [after_error (run_bind_error hx)]
    exact herr e t hx

section Preorder

variable [IsPreorder σ R]

lemma Keeps.pure (a : α) : Keeps R (pure a : EStateM ε σ α) := fun s => refl_of R s

lemma Keeps.throw (e : ε) : Keeps R (throw e : EStateM ε σ α) := fun s => refl_of R s

lemma Keeps.lift (r : Except ε α) : Keeps R (lift r : EStateM ε σ α) := by
  cases r
  · exact Keeps.throw _
  · exact Keeps.pure _

lemma Keeps.bind {x : EStateM ε σ α} {f : α → EStateM ε σ β} (hx : Keeps R x)
    (hf : ∀ a, Keeps R (f a)) : Keeps R (x >>= f) := by
  intro s
  have h := hx s
  unfold after at h ⊢
  rw [EStateM.run_bind]
  rcases hr : x.run s with ⟨a, t⟩ | ⟨e, t⟩ <;> rw [hr] at h
  · exact trans_of R h (hf a t)
  · exact h

lemma Keeps.map {x : EStateM ε σ α} (f : α → β) (hx : Keeps R x) : Keeps R (f <$> x) := by
  rw [map_eq_pure_bind]
  exact hx.bind fun a => Keeps.pure _

lemma Keeps.discard {x : EStateM ε σ α} (hx : Keeps R x) : Keeps R (discard x) :=
  hx.map _

end Preorder

/-! ### What a computation ensures -/

section Ensures

variable {I : σ → Prop} {x : EStateM ε σ α} {Q : α → Prop} {f : α → EStateM ε σ β}
  {P : β → Prop}

/-- Whatever the outcome, the invariant is left, and what is returned has the property. -/
def Ensures (I : σ → Prop) (x : EStateM ε σ α) (Q : α → Prop) : Prop :=
  ∀ s, I s → I (after x s) ∧ ∀ a t, x.run s = .ok a t → Q a

lemma Ensures.pure {a : α} (h : Q a) : Ensures I (pure a : EStateM ε σ α) Q :=
  fun _ hs => ⟨hs, fun _ _ hrun => by cases hrun; exact h⟩

lemma Ensures.bind (hx : Ensures I x Q) (hf : ∀ a, Q a → Ensures I (f a) P) :
    Ensures I (x >>= f) P := by
  intro s hs
  obtain ⟨hafter, hreturned⟩ := hx s hs
  rcases hrun : x.run s with ⟨a, t⟩ | ⟨e, t⟩
  · rw [after_ok hrun] at hafter
    rw [after_bind_ok hrun, run_bind_ok hrun]
    exact hf a (hreturned a t hrun) t hafter
  · rw [after_error hrun] at hafter
    rw [after_error (run_bind_error hrun), run_bind_error hrun]
    exact ⟨hafter, fun b u h => by cases h⟩

lemma Ensures.ite {c : Prop} [Decidable c] {y : EStateM ε σ α} (hx : Ensures I x Q)
    (hy : Ensures I y Q) : Ensures I (if c then x else y) Q := by
  split
  · exact hx
  · exact hy

lemma Ensures.map (g : α → β) (hx : Ensures I x Q) (hq : ∀ a, Q a → P (g a)) :
    Ensures I (g <$> x) P := by
  rw [map_eq_pure_bind]
  exact hx.bind fun a ha => .pure (hq a ha)

end Ensures

/-! ### Where a computation stops -/

/-- The computation ends in `t`: it returns `a` if `Q` holds, and throws otherwise. -/
def Stops (x : EStateM ε σ α) (a : α) (Q : Prop) (s t : σ) : Prop :=
  (Q ∧ x.run s = .ok a t) ∨ (¬ Q ∧ ∃ e, x.run s = .error e t)

section Stops

variable {x y : EStateM ε σ α} {f : α → EStateM ε σ β} {a : α} {b : β} {Q : Prop} {s s' t u : σ}

lemma Stops.returns_iff (h : Stops x a Q s t) : x.run s = .ok a u ↔ Q ∧ u = t := by
  rcases h with ⟨hq, hrun⟩ | ⟨hq, e, hrun⟩
  · simp [hrun, hq, eq_comm]
  · simp [hrun, hq]

lemma Stops.congr (h : Stops x a Q s t) (hrun : y.run s' = x.run s) : Stops y a Q s' t := by
  unfold Stops
  rw [hrun]
  exact h

lemma Stops.bind (h : Stops x a Q s t) (hf : (f a).run t = .ok b t) :
    Stops (x >>= f) b Q s t := by
  rcases h with ⟨hq, hrun⟩ | ⟨hq, e, hrun⟩
  · exact .inl ⟨hq, (run_bind_ok hrun).trans hf⟩
  · exact .inr ⟨hq, e, run_bind_error hrun⟩

lemma Stops.after_bind (hrun : x.run s = .ok a u) (h : Stops (f a) b Q u t) :
    Stops (x >>= f) b Q s t :=
  h.congr (run_bind_ok hrun)

end Stops

end DdsEnabler.Exec
