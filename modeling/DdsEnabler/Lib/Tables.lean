import Mathlib

/-!
Tables: finite maps with their entries in some order, as `AList`, and scans of them.

A scan takes the first entry that matches. Where at most one entry can match, its answer
does not depend on the order of the entries. `NamesApart` says that a part of the key tells it.
-/

namespace DdsEnabler.Tables

variable {κ ν : Type} [DecidableEq κ]

/-- A finite map from `κ` to `ν`. -/
abbrev Table (κ ν : Type) := AList fun _ : κ => ν

lemma lookup_insert (k k' : κ) (v : ν) (m : Table κ ν) :
    (m.insert k v).lookup k' = if k' = k then some v else m.lookup k' := by
  split
  · next h => subst h; exact AList.lookup_insert m
  · next h => exact AList.lookup_insert_ne h

lemma lookup_erase (k k' : κ) (m : Table κ ν) :
    (m.erase k).lookup k' = if k' = k then none else m.lookup k' := by
  split
  · next h => subst h; exact AList.lookup_erase k' m
  · next h => exact AList.lookup_erase_ne h

@[simp] lemma lookup_empty (k : κ) : (∅ : Table κ ν).lookup k = none := AList.lookup_empty k

lemma mem_entries {m : Table κ ν} {k : κ} {v : ν} :
    (⟨k, v⟩ : Σ _ : κ, ν) ∈ m.entries ↔ m.lookup k = some v :=
  AList.mem_lookup_iff.symm

/-! ### Scans -/

/-- The first entry that matches, if any. -/
def scan (p : ν → Bool) : List (Σ _ : κ, ν) → Option κ
  | [] => none
  | e :: l => if p e.2 then some e.1 else scan p l

omit [DecidableEq κ] in
lemma scan_eq_none {p : ν → Bool} {l : List (Σ _ : κ, ν)} :
    scan p l = none ↔ ∀ e ∈ l, p e.2 = false := by
  induction l with
  | nil => simp [scan]
  | cons e l ih => by_cases h : p e.2 <;> simp [scan, h, ih]

omit [DecidableEq κ] in
lemma mem_of_scan {p : ν → Bool} {l : List (Σ _ : κ, ν)} {k : κ} (h : scan p l = some k) :
    ∃ v, (⟨k, v⟩ : Σ _ : κ, ν) ∈ l ∧ p v := by
  induction l with
  | nil => cases h
  | cons e l ih =>
    by_cases he : p e.2
    · simp only [scan, he, if_true, Option.some.injEq] at h
      subst h
      exact ⟨e.2, List.mem_cons_self, he⟩
    · simp only [scan, he, Bool.false_eq_true, if_false] at h
      obtain ⟨v, hv, hp⟩ := ih h
      exact ⟨v, List.mem_cons_of_mem _ hv, hp⟩

/-- Where all matches have one key, every order of the entries gives that key. -/
lemma scan_eq_some {p : ν → Bool} {m : Table κ ν} {k : κ} {v : ν} (hk : m.lookup k = some v)
    (hp : p v) (huniq : ∀ k' v', m.lookup k' = some v' → p v' → k' = k)
    {l : List (Σ _ : κ, ν)} (hl : l.Perm m.entries) : scan p l = some k := by
  rcases h : scan p l with _ | k'
  · have := scan_eq_none.mp h ⟨k, v⟩ (hl.mem_iff.mpr (mem_entries.mpr hk))
    rw [hp] at this
    cases this
  · obtain ⟨v', hv', hp'⟩ := mem_of_scan h
    rw [huniq k' v' (mem_entries.mp (hl.mem_iff.mp hv')) hp']

/-! ### Names of keys -/

section Names

variable {β : Type} {name : κ → β} {m m' : Table κ ν}

/-- No two keys of the map have one name. -/
def NamesApart (name : κ → β) (m : Table κ ν) : Prop :=
  ∀ k ∈ m, ∀ k' ∈ m, name k = name k' → k = k'

omit [DecidableEq κ] in
lemma NamesApart.mono (h : NamesApart name m) (hsub : ∀ k ∈ m', k ∈ m) : NamesApart name m' :=
  fun k hk k' hk' => h k (hsub k hk) k' (hsub k' hk')

lemma namesApart_insert_iff (h : NamesApart name m) {k : κ} {v : ν} :
    NamesApart name (m.insert k v) ↔ ∀ k' ∈ m, name k' = name k → k' = k := by
  constructor
  · intro hins k' hk'
    exact hins k' ((AList.mem_insert m).mpr (.inr hk')) k ((AList.mem_insert m).mpr (.inl rfl))
  · intro hnew k₁ h₁ k₂ h₂ heq
    rw [AList.mem_insert] at h₁ h₂
    rcases h₁ with h₁ | h₁ <;> rcases h₂ with h₂ | h₂
    · rw [h₁, h₂]
    · rw [h₁, hnew k₂ h₂ (heq.symm.trans (congrArg name h₁))]
    · rw [h₂, hnew k₁ h₁ (heq.trans (congrArg name h₂))]
    · exact h k₁ h₁ k₂ h₂ heq

end Names

end DdsEnabler.Tables
