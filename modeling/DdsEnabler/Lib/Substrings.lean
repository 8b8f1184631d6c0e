import Mathlib

/-!
Substrings by position, with the failures of the operations that take them.

A substring may not begin past the end of its string. Sizes are unsigned, so a difference that
would be negative is a number past every size. The checks below are made with these operations;
each is shown never to fail, and to be the prefix or suffix check it stands for.
-/

namespace DdsEnabler.Substrings

variable {α : Type}

/-- The difference of two sizes, in 64 bits. -/
def sizeSub (a b : Nat) : Nat := if b ≤ a then a - b else 2 ^ 64 - (b - a)

@[simp] lemma sizeSub_of_le {a b : Nat} (h : b ≤ a) : sizeSub a b = a - b := if_pos h

/-- `substr(pos, n)`, none where it throws `out_of_range`. -/
def substr (s : List α) (pos n : Nat) : Option (List α) :=
  if pos ≤ s.length then some ((s.drop pos).take n) else none

/-- `substr(pos)`: all that follows the position. -/
def substrFrom (s : List α) (pos : Nat) : Option (List α) :=
  if pos ≤ s.length then some (s.drop pos) else none

@[simp] lemma substr_zero (s : List α) (n : Nat) : substr s 0 n = some (s.take n) :=
  if_pos (Nat.zero_le _)

lemma substrFrom_of_le {s : List α} {pos : Nat} (h : pos ≤ s.length) :
    substrFrom s pos = some (s.drop pos) := if_pos h

section Suffix

variable [BEq α] [LawfulBEq α]

/-- `s.size() >= suf.size() && s.substr(s.size() - suf.size()) == suf`. -/
def endsWith (s suf : List α) : Option Bool :=
  if suf.length ≤ s.length then (substrFrom s (sizeSub s.length suf.length)).map (· == suf)
  else some false

lemma endsWith_eq (s suf : List α) : endsWith s suf = some (suf.isSuffixOf s) := by
  unfold endsWith
  split
  · next h =>
    rw [sizeSub_of_le h, substrFrom_of_le (Nat.sub_le _ _), Option.map_some, Option.some.injEq,
      Bool.eq_iff_iff, beq_iff_eq, List.isSuffixOf_iff_suffix]
    constructor
    · intro hdrop
      rw [← hdrop]
      exact List.drop_suffix _ _
    · rintro ⟨t, rfl⟩
      simp
  · next h =>
    rw [Option.some.injEq, eq_comm, Bool.eq_false_iff, ne_eq, List.isSuffixOf_iff_suffix]
    exact fun hs => h hs.length_le

end Suffix

/-- The string without a suffix of the length `n`. -/
def cutEnd (s : List α) (n : Nat) : Option (List α) := substr s 0 (sizeSub s.length n)

lemma cutEnd_eq {s : List α} {n : Nat} (h : n ≤ s.length) :
    cutEnd s n = some (s.take (s.length - n)) := by
  simp [cutEnd, h]

/-- The string without a prefix of the length `m` and then without a suffix of the length `n`. -/
def cutEnds (s : List α) (m n : Nat) : Option (List α) := (substrFrom s m).bind (cutEnd · n)

lemma cutEnds_eq {s : List α} {m n : Nat} (h : m + n ≤ s.length) :
    cutEnds s m n = some ((s.drop m).take ((s.drop m).length - n)) := by
  have hn : n ≤ (s.drop m).length := by
    rw [List.length_drop]
    omega
  rw [cutEnds, substrFrom_of_le (by omega), Option.bind_some, cutEnd_eq hn]

lemma length_add_le {q suf s : List α} {c : α} (hpre : q ++ [c] <+: s) (hsuf : suf <:+ s)
    (hc : c ∉ suf) : (q ++ [c]).length + suf.length ≤ s.length := by
  obtain ⟨r, rfl⟩ := hpre
  have hr : suf <:+ r := by
    rcases List.suffix_or_suffix_of_suffix hsuf (List.suffix_append (q ++ [c]) r) with h | h
    · exact h
    · obtain ⟨u, rfl⟩ := h
      rcases u.eq_nil_or_concat with rfl | ⟨u, d, rfl⟩
      · exact List.suffix_rfl
      · -- the element before `r` is in the suffix, and is the last one of the prefix
        obtain ⟨v, hv⟩ := hsuf
        simp only [← List.append_assoc, List.concat_eq_append] at hv
        obtain rfl := List.singleton_inj.mp (List.append_inj' (List.append_cancel_right hv) rfl).2
        simp at hc
  have hlen := hr.length_le
  simp only [List.length_append] at hlen ⊢
  omega

end DdsEnabler.Substrings
