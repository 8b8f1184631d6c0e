import Mathlib

/-!
Wholes that are put together from parts.

Items come in one after the other, each for a key of its own, and a whole is complete once an
item has come in for every key that it needs. `seen` is what has come in for each key. It does
not depend on the order of the items, and a whole is completed once, by the last of its parts.
-/

namespace DdsEnabler.Assembly

variable {τ κ ε : Type} [DecidableEq κ] {key : τ → κ}

/-- The item that has come in for a key. -/
def seen (key : τ → κ) (ts : List τ) (k : κ) : Option τ := ts.find? fun t => key t = k

/-- An item has come in for each of the keys. -/
def Complete (m : κ → Option τ) (parts : List κ) : Prop := ∀ k ∈ parts, (m k).isSome

instance (m : κ → Option τ) (parts : List κ) : Decidable (Complete m parts) :=
  inferInstanceAs (Decidable (∀ k ∈ parts, (m k).isSome))

@[simp] lemma seen_nil (k : κ) : seen key ([] : List τ) k = none := rfl

lemma seen_isSome {ts : List τ} {k : κ} : (seen key ts k).isSome ↔ k ∈ ts.map key := by
  simp [seen]

lemma seen_eq_none {ts : List τ} {k : κ} : seen key ts k = none ↔ k ∉ ts.map key := by
  rw [← seen_isSome, Option.not_isSome_iff_eq_none]

lemma seen_snoc {ts : List τ} {t : τ} (h : key t ∉ ts.map key) :
    seen key (ts ++ [t]) = Function.update (seen key ts) (key t) (some t) := by
  ext1 k
  unfold seen
  rw [List.find?_append]
  by_cases hk : k = key t
  · subst hk
    have hnone : ts.find? (fun t' => key t' = key t) = none := seen_eq_none.mpr h
    simp [hnone]
  · simp [Function.update_of_ne hk, Ne.symm hk]

lemma seen_append {ts : List τ} {k : κ} (h : (seen key ts k).isSome) (ts' : List τ) :
    seen key (ts ++ ts') k = seen key ts k := by
  obtain ⟨t, ht⟩ := Option.isSome_iff_exists.mp h
  unfold seen at ht ⊢
  rw [List.find?_append, ht, Option.some_or]

/-- **The order does not matter** for what is seen. -/
theorem seen_perm {ts ts' : List τ} (h : ts.Perm ts') (hn : (ts.map key).Nodup) :
    seen key ts = seen key ts' := by
  ext1 k
  refine List.find?_eq_find?_of_perm h fun t ht t' ht' => ?_
  have hk : key t = k := by simpa using ht.2
  have hk' : key t' = k := by simpa using ht'.2
  exact List.inj_on_of_nodup_map hn ht.1 ht'.1 (hk.trans hk'.symm)

omit [DecidableEq κ] in
lemma complete_congr {m m' : κ → Option τ} {parts : List κ} (h : ∀ k ∈ parts, m k = m' k) :
    Complete m parts ↔ Complete m' parts :=
  forall₂_congr fun k hk => by rw [h k hk]

/-- An item completes the whole: it is one of the parts, and all of them are there. -/
def Completes (key : τ → κ) (parts : List κ) (ts : List τ) (t : τ) : Prop :=
  key t ∈ parts ∧ Complete (seen key (ts ++ [t])) parts

instance (parts : List κ) (ts : List τ) (t : τ) : Decidable (Completes key parts ts t) :=
  inferInstanceAs (Decidable (_ ∧ _))

section Once

variable {parts : List κ} {ts : List τ} {t : τ}

lemma Completes.incomplete (h : Completes key parts ts t) (hnew : key t ∉ ts.map key) :
    ¬ Complete (seen key ts) parts :=
  fun hc => hnew (seen_isSome.mp (hc _ h.1))

lemma complete_snoc_iff (hnew : key t ∉ ts.map key) (h : ¬ Completes key parts ts t) :
    Complete (seen key (ts ++ [t])) parts ↔ Complete (seen key ts) parts := by
  constructor
  · intro hc
    have hnot : key t ∉ parts := fun ht => h ⟨ht, hc⟩
    refine (complete_congr fun k hk => ?_).mp hc
    have hne : k ≠ key t := fun heq => hnot (heq ▸ hk)
    rw [seen_snoc hnew, Function.update_of_ne hne]
  · intro hc k hk
    have hmem : k ∈ ts.map key := seen_isSome.mp (hc k hk)
    rw [seen_isSome, List.map_append]
    exact List.mem_append_left _ hmem

/-- **A whole is completed once**, by the last of its parts: what is put out at completions is
put out once, if all parts come in, and not at all otherwise. -/
theorem out_eq {valid : τ → Prop} (out : List τ → List ε) (e : (κ → Option τ) → List ε)
    (hne : parts ≠ []) (he : ∀ m m', (∀ k ∈ parts, m k = m' k) → e m = e m')
    (hnil : out [] = [])
    (hstep : ∀ ts t, (∀ t' ∈ ts ++ [t], valid t') → ((ts ++ [t]).map key).Nodup →
      out (ts ++ [t]) = out ts ++
        if Completes key parts ts t then e (seen key (ts ++ [t])) else [])
    (hvalid : ∀ t ∈ ts, valid t) (hn : (ts.map key).Nodup) :
    out ts = if Complete (seen key ts) parts then e (seen key ts) else [] := by
  induction ts using List.reverseRecOn with
  | nil =>
    obtain ⟨k, hk⟩ := List.exists_mem_of_ne_nil parts hne
    have hnot : ¬ Complete (seen key ([] : List τ)) parts := fun hc => by simpa using hc k hk
    rw [hnil, if_neg hnot]
  | append_singleton ts t ih =>
    have hnd : (ts.map key).Nodup := by
      rw [List.map_append] at hn
      exact hn.of_append_left
    have hnew : key t ∉ ts.map key := by
      have hdisj := hn
      simp only [List.map_append, List.map_cons, List.map_nil] at hdisj
      exact fun hmem => (List.nodup_append.mp hdisj).2.2 _ hmem _ (by simp) rfl
    have hih := ih (fun t' ht' => hvalid t' (List.mem_append_left _ ht')) hnd
    rw [hstep ts t hvalid hn, hih]
    by_cases hc : Completes key parts ts t
    · rw [if_neg (hc.incomplete hnew), if_pos hc, if_pos hc.2, List.nil_append]
    · rw [if_neg hc, List.append_nil]
      by_cases hall : Complete (seen key ts) parts
      · have hsame : ∀ k ∈ parts, seen key ts k = seen key (ts ++ [t]) k := by
          intro k hk
          have hmem : k ∈ ts.map key := seen_isSome.mp (hall k hk)
          have hkt : k ≠ key t := fun heq => hnew (heq ▸ hmem)
          rw [seen_snoc hnew, Function.update_of_ne hkt]
        rw [if_pos hall, if_pos ((complete_snoc_iff hnew hc).mpr hall), he _ _ hsame]
      · rw [if_neg hall, if_neg fun h => hall ((complete_snoc_iff hnew hc).mp h)]

end Once

end DdsEnabler.Assembly
