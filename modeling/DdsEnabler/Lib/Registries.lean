import Mathlib

/-!
Registries: sets of names to which names are added, and from which they are removed.

A registry answers a request with true exactly when the request changes the set. The set of a
system that answers requests in its own way is what its own answers make of it.
-/

namespace DdsEnabler.Registries

inductive Request (κ : Type)
  | add (k : κ)
  | remove (k : κ)

variable {κ : Type} [DecidableEq κ] {r : Finset κ} {k k' : κ} {b : Bool}

/-- What a registry of the names `r` answers. -/
def answer (r : Finset κ) : Request κ → Bool
  | .add k => k ∉ r
  | .remove k => k ∈ r

/-- The names once a request has been answered. -/
def record (r : Finset κ) (q : Request κ) (b : Bool) : Finset κ :=
  match q with
  | .add k => if b then insert k r else r
  | .remove k => if b then r.erase k else r

@[simp] lemma record_false (q : Request κ) : record r q false = r := by
  cases q <;> rfl

@[simp] lemma mem_record_add :
    k' ∈ record r (.add k) b ↔ k' ∈ r ∨ b = true ∧ k' = k := by
  cases b <;> simp [record, or_comm]

@[simp] lemma mem_record_remove :
    k' ∈ record r (.remove k) b ↔ k' ∈ r ∧ ¬ (b = true ∧ k' = k) := by
  cases b <;> simp [record, and_comm]

end DdsEnabler.Registries
