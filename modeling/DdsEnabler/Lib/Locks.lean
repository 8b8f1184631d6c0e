import Mathlib

/-!
Threads that take locks.

What a function does with locks is an `Op`: sections under a lock, one after the other, with
choices and loops. A thread runs one trace of its `Op`; the threads are interleaved, and a
thread waits while another one holds the lock it is about to take. `nests a b p` tells from
the text of `p` whether it takes `b` while it holds `a`. With two locks, a state where two
threads wait for each other can be reached if and only if two threads nest the locks in
opposite orders.
-/

namespace DdsEnabler.Locks

variable {κ : Type}

inductive Act (κ : Type)
  | acquire (l : κ)
  | release (l : κ)
  deriving DecidableEq

open Act

inductive Op (κ : Type)
  | skip
  | locked (l : κ) (p : Op κ)
  | seq (p q : Op κ)
  | choice (p q : Op κ)
  | loop (p : Op κ)

/-- What a run of the function does with the locks. -/
inductive Traces : Op κ → List (Act κ) → Prop
  | skip : Traces .skip []
  | locked {l p t} : Traces p t → Traces (.locked l p) (acquire l :: (t ++ [release l]))
  | seq {p q t u} : Traces p t → Traces q u → Traces (.seq p q) (t ++ u)
  | left {p q t} : Traces p t → Traces (.choice p q) t
  | right {p q t} : Traces q t → Traces (.choice p q) t
  | done {p} : Traces (.loop p) []
  | again {p t u} : Traces p t → Traces (.loop p) u → Traces (.loop p) (t ++ u)

lemma split_append {α : Type} {t t' u v : List α} {x : α} (h : t ++ t' = u ++ x :: v) :
    (∃ v', t = u ++ x :: v') ∨ ∃ u', u = t ++ u' ∧ t' = u' ++ x :: v := by
  obtain ⟨c, rfl, hc⟩ | ⟨c, rfl, hc⟩ := List.append_eq_append_iff.mp h
  · exact .inr ⟨c, rfl, hc⟩
  · cases c with
    | nil => exact .inr ⟨[], by simp, by simpa using hc.symm⟩
    | cons y c =>
      obtain ⟨rfl, rfl⟩ := List.cons.inj hc
      exact .inl ⟨c, rfl⟩

lemma split_section {l m : κ} {t u v : List (Act κ)}
    (h : acquire l :: (t ++ [release l]) = u ++ acquire m :: v) :
    (u = [] ∧ m = l) ∨ ∃ u' v', u = acquire l :: u' ∧ t = u' ++ acquire m :: v' := by
  cases u with
  | nil =>
    obtain ⟨h, -⟩ := List.cons.inj h
    exact .inl ⟨rfl, (Act.acquire.inj h).symm⟩
  | cons x u =>
    obtain ⟨rfl, ht⟩ := List.cons.inj h
    obtain ⟨v', rfl⟩ | ⟨u', rfl, hm⟩ := split_append ht
    · exact .inr ⟨u, v', rfl, rfl⟩
    · cases u' with
      | nil => simp at hm
      | cons y u' => simp at hm

lemma exists_trace (p : Op κ) : ∃ t, Traces p t := by
  induction p with
  | skip => exact ⟨[], .skip⟩
  | locked l p ih =>
    obtain ⟨t, h⟩ := ih
    exact ⟨_, .locked h⟩
  | seq p q ihp ihq =>
    obtain ⟨t, ht⟩ := ihp
    obtain ⟨u, hu⟩ := ihq
    exact ⟨t ++ u, .seq ht hu⟩
  | choice p q ihp _ =>
    obtain ⟨t, h⟩ := ihp
    exact ⟨t, .left h⟩
  | loop p _ => exact ⟨[], .done⟩

lemma traces_locked {l : κ} {p : Op κ} {t : List (Act κ)} :
    Traces (.locked l p) t ↔ ∃ u, Traces p u ∧ t = acquire l :: (u ++ [release l]) := by
  constructor
  · rintro ⟨⟩
    exact ⟨_, ‹_›, rfl⟩
  · rintro ⟨u, hu, rfl⟩
    exact .locked hu

lemma traces_seq {p q : Op κ} {t : List (Act κ)} :
    Traces (.seq p q) t ↔ ∃ u v, Traces p u ∧ Traces q v ∧ t = u ++ v := by
  constructor
  · rintro ⟨⟩
    exact ⟨_, _, ‹_›, ‹_›, rfl⟩
  · rintro ⟨u, v, hu, hv, rfl⟩
    exact .seq hu hv

lemma traces_choice {p q : Op κ} {t : List (Act κ)} :
    Traces (.choice p q) t ↔ Traces p t ∨ Traces q t := by
  constructor
  · intro h
    cases h with
    | left h => exact .inl h
    | right h => exact .inr h
  · rintro (h | h)
    · exact .left h
    · exact .right h

lemma Traces.once {p : Op κ} {t : List (Act κ)} (h : Traces p t) : Traces (.loop p) t := by
  simpa using Traces.again h .done

/-! ### Sections that wait -/

/-- Code run while a lock is held; `wait` waits on a condition variable, which gives the lock
up and takes it again any number of times. -/
inductive Guarded (κ : Type)
  | done
  | run (p : Op κ) (g : Guarded κ)
  | choice (g h : Guarded κ)
  | wait (g : Guarded κ)

inductive Guarded.Traces (l : κ) : Guarded κ → List (Act κ) → Prop
  | done : Traces l .done []
  | run {p g t u} : Locks.Traces p t → Traces l g u → Traces l (.run p g) (t ++ u)
  | left {g h t} : Traces l g t → Traces l (.choice g h) t
  | right {g h t} : Traces l h t → Traces l (.choice g h) t
  | awake {g t} : Traces l g t → Traces l (.wait g) t
  | asleep {g t} : Traces l (.wait g) t → Traces l (.wait g) (release l :: acquire l :: t)

/-- The sections of the code, where `p` is what the first one has done so far. -/
def Guarded.sections (l : κ) : Guarded κ → Op κ → Op κ
  | .done, p => .locked l p
  | .run q g, p => g.sections l (.seq p q)
  | .choice g h, p => .choice (g.sections l p) (h.sections l p)
  | .wait g, p => .choice (g.sections l p)
      (.seq (.locked l p) (.seq (.loop (.locked l .skip)) (g.sections l .skip)))

def Guarded.under (l : κ) (g : Guarded κ) : Op κ := g.sections l .skip

lemma Guarded.Traces.asleep_loop {l : κ} {g : Guarded κ} {v w : List (Act κ)}
    (hv : g.Traces l v) (hw : Locks.Traces (.loop (.locked l .skip)) w) :
    (Guarded.wait g).Traces l (release l :: (w ++ acquire l :: v)) := by
  generalize hp : Op.loop (.locked l .skip) = p at hw
  induction hw with
  | done => exact .asleep (.awake hv)
  | again h _ _ ih =>
    cases hp
    obtain ⟨_, ⟨⟩, rfl⟩ := traces_locked.mp h
    simpa using Guarded.Traces.asleep (ih rfl)
  | _ => cases hp

lemma Guarded.Traces.loop_of_wait {l : κ} {g : Guarded κ} {t : List (Act κ)}
    (ht : (Guarded.wait g).Traces l t) :
    ∃ w v, Locks.Traces (.loop (.locked l .skip)) w ∧ g.Traces l v ∧
      acquire l :: t = w ++ acquire l :: v := by
  generalize hp : Guarded.wait g = p at ht
  induction ht with
  | awake ht =>
    cases hp
    exact ⟨[], _, .done, ht, rfl⟩
  | asleep _ ih =>
    obtain ⟨w, v, hw, hv, hwv⟩ := ih hp
    exact ⟨_, v, .again (.locked .skip) hw, hv, by simp [hwv]⟩
  | _ => cases hp

lemma Guarded.traces_sections {l : κ} {g : Guarded κ} {p : Op κ} {t : List (Act κ)} :
    Locks.Traces (g.sections l p) t ↔
      ∃ u v, Locks.Traces p u ∧ g.Traces l v ∧ t = acquire l :: (u ++ v ++ [release l]) := by
  induction g generalizing p t with
  | done =>
    rw [Guarded.sections, traces_locked]
    constructor
    · rintro ⟨u, hu, rfl⟩
      exact ⟨u, [], hu, .done, by simp⟩
    · rintro ⟨u, _, hu, ⟨⟩, rfl⟩
      exact ⟨u, hu, by simp⟩
  | run q g ih =>
    rw [Guarded.sections, ih]
    constructor
    · rintro ⟨_, v, hpq, hv, rfl⟩
      obtain ⟨u, u', hu, hu', rfl⟩ := traces_seq.mp hpq
      exact ⟨u, u' ++ v, hu, .run hu' hv, by simp⟩
    · rintro ⟨u, _, hu, hrun, rfl⟩
      cases hrun with
      | @run _ _ u' v hu' hv => exact ⟨u ++ u', v, .seq hu hu', hv, by simp⟩
  | choice g h ihg ihh =>
    rw [Guarded.sections, traces_choice, ihg, ihh]
    constructor
    · rintro (⟨u, v, hu, hv, rfl⟩ | ⟨u, v, hu, hv, rfl⟩)
      · exact ⟨u, v, hu, .left hv, rfl⟩
      · exact ⟨u, v, hu, .right hv, rfl⟩
    · rintro ⟨u, v, hu, hv, rfl⟩
      cases hv with
      | left hv => exact .inl ⟨u, v, hu, hv, rfl⟩
      | right hv => exact .inr ⟨u, v, hu, hv, rfl⟩
  | wait g ih =>
    rw [Guarded.sections, traces_choice, ih, traces_seq]
    constructor
    · rintro (⟨u, v, hu, hv, rfl⟩ | ⟨_, _, hp, hrest, rfl⟩)
      · exact ⟨u, v, hu, .awake hv, rfl⟩
      · obtain ⟨u, hu, rfl⟩ := traces_locked.mp hp
        obtain ⟨w, _, hw, hg, rfl⟩ := traces_seq.mp hrest
        obtain ⟨_, v, ⟨⟩, hv, rfl⟩ := ih.mp hg
        exact ⟨u, _, hu, hv.asleep_loop hw, by simp⟩
    · rintro ⟨u, t, hu, ht, rfl⟩
      cases ht with
      | awake ht => exact .inl ⟨u, t, hu, ht, rfl⟩
      | @asleep _ t ht =>
        obtain ⟨w, v, hw, hv, hwv⟩ := ht.loop_of_wait
        refine .inr ⟨_, w ++ acquire l :: (v ++ [release l]), .locked hu,
          .seq hw (ih.mpr ⟨[], v, .skip, hv, rfl⟩), ?_⟩
        calc acquire l :: (u ++ (release l :: acquire l :: t) ++ [release l])
            = acquire l :: (u ++ [release l]) ++ ((acquire l :: t) ++ [release l]) := by simp
          _ = acquire l :: (u ++ [release l]) ++ (w ++ acquire l :: (v ++ [release l])) := by
            simp [hwv]

/-- **Splitting at the waits keeps what the code does.** -/
lemma Guarded.traces_under {l : κ} {g : Guarded κ} {t : List (Act κ)} :
    Locks.Traces (g.under l) t ↔ ∃ v, g.Traces l v ∧ t = acquire l :: (v ++ [release l]) := by
  rw [Guarded.under, Guarded.traces_sections]
  constructor
  · rintro ⟨_, v, ⟨⟩, hv, rfl⟩
    exact ⟨v, hv, rfl⟩
  · rintro ⟨v, hv, rfl⟩
    exact ⟨[], v, .skip, hv, rfl⟩

/-! ### Threads -/

/-- How many times a thread holds each lock. -/
abbrev Depth (κ : Type) := κ → Nat

/-- What each thread still has to do, and the locks it holds. -/
structure Sys (κ ι : Type) where
  rest : ι → List (Act κ)
  depth : ι → Depth κ

section Threads

variable {ι : Type} [DecidableEq ι]

def Sys.set (s : Sys κ ι) (i : ι) (v : List (Act κ)) (d : Depth κ) : Sys κ ι :=
  ⟨Function.update s.rest i v, Function.update s.depth i d⟩

@[simp] lemma set_rest_self (s : Sys κ ι) (i : ι) (v : List (Act κ)) (d : Depth κ) :
    (s.set i v d).rest i = v := by
  simp [Sys.set]

@[simp] lemma set_depth_self (s : Sys κ ι) (i : ι) (v : List (Act κ)) (d : Depth κ) :
    (s.set i v d).depth i = d := by
  simp [Sys.set]

lemma set_rest_ne (s : Sys κ ι) {i j : ι} (h : j ≠ i) (v : List (Act κ)) (d : Depth κ) :
    (s.set i v d).rest j = s.rest j := by
  simp [Sys.set, h]

lemma set_depth_ne (s : Sys κ ι) {i j : ι} (h : j ≠ i) (v : List (Act κ)) (d : Depth κ) :
    (s.set i v d).depth j = s.depth j := by
  simp [Sys.set, h]

@[simp] lemma set_set (s : Sys κ ι) (i : ι) (v v' : List (Act κ)) (d d' : Depth κ) :
    (s.set i v d).set i v' d' = s.set i v' d' := by
  simp [Sys.set]

lemma set_self {s : Sys κ ι} {i : ι} {v : List (Act κ)} (h : s.rest i = v) :
    s.set i v (s.depth i) = s := by
  subst h
  simp [Sys.set]

/-- No lock is held. -/
def Sys.Free (s : Sys κ ι) : Prop := ∀ k, s.depth k = fun _ => 0

/-- Every thread is at the start of a trace of its function, and no lock is held. -/
structure Start (ops : ι → Op κ) (s : Sys κ ι) : Prop where
  traces : ∀ i, Traces (ops i) (s.rest i)
  free : s.Free

lemma Sys.Free.set {s : Sys κ ι} (h : s.Free) (i : ι) (v : List (Act κ)) :
    (s.set i v fun _ => 0).Free := by
  intro k
  by_cases hk : k = i
  · subst hk
    exact set_depth_self ..
  · rw [set_depth_ne s hk, h k]

lemma exists_start (ops : ι → Op κ) {i j : ι} (hij : i ≠ j) {ti tj : List (Act κ)}
    (hi : Traces (ops i) ti) (hj : Traces (ops j) tj) :
    ∃ s, Start ops s ∧ s.rest i = ti ∧ s.rest j = tj := by
  choose base hbase using fun k => exists_trace (ops k)
  refine ⟨⟨Function.update (Function.update base j tj) i ti, fun _ _ => 0⟩,
    ⟨fun k => ?_, fun _ => rfl⟩, by simp, by simp [hij.symm]⟩
  by_cases hki : k = i
  · subst hki
    simpa using hi
  by_cases hkj : k = j
  · subst hkj
    simpa [hki] using hj
  · simpa [hki, hkj] using hbase k

end Threads

/-! ### Depths -/

variable [DecidableEq κ]

def Act.apply (d : Depth κ) : Act κ → Depth κ
  | acquire l => Function.update d l (d l + 1)
  | release l => Function.update d l (d l - 1)

def after (d : Depth κ) (t : List (Act κ)) : Depth κ := t.foldl Act.apply d

@[simp] lemma after_nil (d : Depth κ) : after d [] = d := rfl
@[simp] lemma after_cons (d : Depth κ) (x : Act κ) (t : List (Act κ)) :
    after d (x :: t) = after (x.apply d) t := rfl
@[simp] lemma after_append (d : Depth κ) (t u : List (Act κ)) :
    after d (t ++ u) = after (after d t) u := by
  simp [after, List.foldl_append]

@[simp] lemma apply_acquire_self (d : Depth κ) (l : κ) : (acquire l).apply d l = d l + 1 := by
  simp [Act.apply]

lemma apply_acquire_ne (d : Depth κ) {l m : κ} (h : m ≠ l) : (acquire l).apply d m = d m := by
  simp [Act.apply, h]

lemma apply_release_le (d : Depth κ) (l m : κ) : (release l).apply d m ≤ d m := by
  by_cases h : m = l
  · subst h
    simp [Act.apply]
  · simp [Act.apply, h]

lemma release_acquire (d : Depth κ) (l : κ) :
    (release l).apply ((acquire l).apply d) = d := by
  ext m
  by_cases h : m = l
  · subst h
    simp [Act.apply]
  · simp [Act.apply, h]

lemma le_apply_acquire (d : Depth κ) (l m : κ) : d m ≤ (acquire l).apply d m := by
  by_cases h : m = l
  · subst h
    simp
  · rw [apply_acquire_ne d h]

lemma Traces.after_eq {p : Op κ} {t : List (Act κ)} (h : Traces p t) (d : Depth κ) :
    after d t = d := by
  induction h generalizing d with
  | skip => rfl
  | @locked l _ _ _ ih => simp [ih, release_acquire]
  | seq _ _ ihp ihq => rw [after_append, ihp, ihq]
  | left _ ih => exact ih d
  | right _ ih => exact ih d
  | done => rfl
  | again _ _ ihp ihq => rw [after_append, ihp, ihq]

lemma Traces.le_after {p : Op κ} {t u v : List (Act κ)} {m : κ} (h : Traces p t)
    (ht : t = u ++ acquire m :: v) (d : Depth κ) (l : κ) : d l ≤ after d u l := by
  induction h generalizing d u v with
  | skip => simp at ht
  | @locked k _ _ _ ih =>
    obtain ⟨rfl, -⟩ | ⟨u', v', rfl, hm⟩ := split_section ht
    · exact le_rfl
    · exact (le_apply_acquire d k l).trans (ih hm _)
  | seq h _ ihp ihq =>
    obtain ⟨v', ht⟩ | ⟨u', rfl, hm⟩ := split_append ht
    · exact ihp ht d
    · rw [after_append, h.after_eq]
      exact ihq hm d
  | left _ ih => exact ih ht d
  | right _ ih => exact ih ht d
  | done => simp at ht
  | again h _ ihp ihq =>
    obtain ⟨v', ht⟩ | ⟨u', rfl, hm⟩ := split_append ht
    · exact ihp ht d
    · rw [after_append, h.after_eq]
      exact ihq hm d

/-! ### What the text of a function tells -/

def Op.takes (b : κ) : Op κ → Bool
  | .skip => false
  | .locked l p => l == b || p.takes b
  | .seq p q => p.takes b || q.takes b
  | .choice p q => p.takes b || q.takes b
  | .loop p => p.takes b

/-- Takes `b` while it holds `a` and not `b`. -/
def Op.nests (a b : κ) : Op κ → Bool
  | .skip => false
  | .locked l p => if l = a then p.takes b else if l = b then false else p.nests a b
  | .seq p q => p.nests a b || q.nests a b
  | .choice p q => p.nests a b || q.nests a b
  | .loop p => p.nests a b

/-- A lock that cannot be taken twice is not taken inside itself. -/
def Op.safe (recursive : κ → Bool) : Op κ → Bool
  | .skip => true
  | .locked l p => (recursive l || !p.takes l) && p.safe recursive
  | .seq p q => p.safe recursive && q.safe recursive
  | .choice p q => p.safe recursive && q.safe recursive
  | .loop p => p.safe recursive

lemma Traces.takes {p : Op κ} {t : List (Act κ)} {b : κ} (h : Traces p t)
    (hb : acquire b ∈ t) : p.takes b = true := by
  induction h with
  | skip => simp at hb
  | @locked l _ _ _ ih =>
    simp only [List.mem_cons, List.mem_append, List.not_mem_nil, or_false] at hb
    obtain hb | hb | hb := hb
    · simp [Op.takes, Act.acquire.inj hb]
    · simp [Op.takes, ih hb]
    · cases hb
  | seq _ _ ihp ihq =>
    obtain hb | hb := List.mem_append.mp hb
    · simp [Op.takes, ihp hb]
    · simp [Op.takes, ihq hb]
  | left _ ih => simp [Op.takes, ih hb]
  | right _ ih => simp [Op.takes, ih hb]
  | done => simp at hb
  | again _ _ ihp ihq =>
    obtain hb | hb := List.mem_append.mp hb
    · simpa [Op.takes] using ihp hb
    · exact ihq hb

lemma Traces.nests {a b : κ} {p : Op κ} {t u v : List (Act κ)} (h : Traces p t)
    (ht : t = u ++ acquire b :: v) {d : Depth κ} (da : d a = 0) (db : d b = 0)
    (ha : 0 < after d u a) (hb : after d u b = 0) : p.nests a b = true := by
  induction h generalizing d u v with
  | skip => simp at ht
  | @locked l p t h ih =>
    obtain ⟨rfl, -⟩ | ⟨u', v', rfl, hm⟩ := split_section ht
    · simp [da] at ha
    by_cases hla : l = a
    · have hmem : acquire b ∈ t := by
        rw [hm]
        simp
      simp [Op.nests, hla, h.takes hmem]
    · by_cases hlb : l = b
      · -- the section itself holds `b` until its end
        have hle := h.le_after hm ((acquire l).apply d) b
        rw [hlb, apply_acquire_self] at hle
        rw [after_cons, hlb] at hb
        omega
      · have da' : (acquire l).apply d a = 0 := by rw [apply_acquire_ne d (Ne.symm hla), da]
        have db' : (acquire l).apply d b = 0 := by rw [apply_acquire_ne d (Ne.symm hlb), db]
        simp [Op.nests, hla, hlb, ih hm da' db' ha hb]
  | seq h _ ihp ihq =>
    obtain ⟨v', ht⟩ | ⟨u', rfl, hm⟩ := split_append ht
    · simp [Op.nests, ihp ht da db ha hb]
    · rw [after_append, h.after_eq] at ha hb
      simp [Op.nests, ihq hm da db ha hb]
  | left _ ih => simp [Op.nests, ih ht da db ha hb]
  | right _ ih => simp [Op.nests, ih ht da db ha hb]
  | done => simp at ht
  | again h _ ihp ihq =>
    obtain ⟨v', ht⟩ | ⟨u', rfl, hm⟩ := split_append ht
    · simpa [Op.nests] using ihp ht da db ha hb
    · rw [after_append, h.after_eq] at ha hb
      exact ihq hm da db ha hb

lemma Traces.admits {recursive : κ → Bool} {p : Op κ} {t u v : List (Act κ)} {l : κ}
    (h : Traces p t) (hs : p.safe recursive = true) (ht : t = u ++ acquire l :: v)
    {d : Depth κ} (hd : ∀ l, p.takes l = true → recursive l = true ∨ d l = 0) :
    recursive l = true ∨ after d u l = 0 := by
  induction h generalizing d u v with
  | skip => simp at ht
  | @locked k p _ h ih =>
    obtain ⟨rfl, rfl⟩ | ⟨u', v', rfl, hm⟩ := split_section ht
    · exact hd l (by simp [Op.takes])
    simp only [Op.safe, Bool.and_eq_true, Bool.or_eq_true, Bool.not_eq_true'] at hs
    refine ih hs.2 hm fun m hp => ?_
    by_cases hmk : m = k
    · obtain hr | hr := hs.1
      · exact .inl (hmk ▸ hr)
      · rw [← hmk, hp] at hr
        cases hr
    · rw [apply_acquire_ne d hmk]
      exact hd m (by simp [Op.takes, hp])
  | seq h _ ihp ihq =>
    simp only [Op.safe, Bool.and_eq_true] at hs
    obtain ⟨v', ht⟩ | ⟨u', rfl, hm⟩ := split_append ht
    · exact ihp hs.1 ht fun m hp => hd m (by simp [Op.takes, hp])
    · rw [after_append, h.after_eq]
      exact ihq hs.2 hm fun m hp => hd m (by simp [Op.takes, hp])
  | left _ ih =>
    simp only [Op.safe, Bool.and_eq_true] at hs
    exact ih hs.1 ht fun m hp => hd m (by simp [Op.takes, hp])
  | right _ ih =>
    simp only [Op.safe, Bool.and_eq_true] at hs
    exact ih hs.2 ht fun m hp => hd m (by simp [Op.takes, hp])
  | done => simp at ht
  | again h _ ihp ihq =>
    obtain ⟨v', ht⟩ | ⟨u', rfl, hm⟩ := split_append ht
    · exact ihp hs ht fun m hp => hd m (by simpa [Op.takes] using hp)
    · rw [after_append, h.after_eq]
      exact ihq hs hm hd

lemma Op.takes_split {b : κ} {p : Op κ} (h : p.takes b = true) :
    ∃ x v, Traces p (x ++ acquire b :: v) ∧ acquire b ∉ x := by
  suffices hmem : ∃ t, Traces p t ∧ acquire b ∈ t by
    obtain ⟨t, ht, hb⟩ := hmem
    obtain ⟨x, v, rfl, hx⟩ := List.eq_append_cons_of_mem hb
    exact ⟨x, v, ht, hx⟩
  induction p with
  | skip => simp [Op.takes] at h
  | locked l p ih =>
    simp only [Op.takes, Bool.or_eq_true, beq_iff_eq] at h
    obtain rfl | h := h
    · obtain ⟨t, ht⟩ := exists_trace p
      exact ⟨_, .locked ht, by simp⟩
    · obtain ⟨t, ht, hb⟩ := ih h
      exact ⟨_, .locked ht, by simp [hb]⟩
  | seq p q ihp ihq =>
    simp only [Op.takes, Bool.or_eq_true] at h
    obtain h | h := h
    · obtain ⟨t, ht, hb⟩ := ihp h
      obtain ⟨u, hu⟩ := exists_trace q
      exact ⟨t ++ u, .seq ht hu, by simp [hb]⟩
    · obtain ⟨t, ht⟩ := exists_trace p
      obtain ⟨u, hu, hb⟩ := ihq h
      exact ⟨t ++ u, .seq ht hu, by simp [hb]⟩
  | choice p q ihp ihq =>
    simp only [Op.takes, Bool.or_eq_true] at h
    obtain h | h := h
    · obtain ⟨t, ht, hb⟩ := ihp h
      exact ⟨t, .left ht, hb⟩
    · obtain ⟨t, ht, hb⟩ := ihq h
      exact ⟨t, .right ht, hb⟩
  | loop p ih =>
    obtain ⟨t, ht, hb⟩ := ih h
    exact ⟨t, ht.once, hb⟩

/-- A run that takes `b` while it holds `a`: `w` comes before, and `x` lies between. -/
structure Nested (a b : κ) (p : Op κ) (w x v : List (Act κ)) : Prop where
  trace : Traces p (w ++ acquire a :: (x ++ acquire b :: v))
  before : ∀ d, after d w = d
  between : acquire b ∉ x
  held : ∀ d, 0 < after ((acquire a).apply d) x a

lemma Op.nests_split {a b : κ} (hab : ∀ l, l = a ∨ l = b) {p : Op κ}
    (h : p.nests a b = true) : ∃ w x v, Nested a b p w x v := by
  induction p with
  | skip => simp [Op.nests] at h
  | locked l p _ =>
    by_cases hla : l = a
    · subst hla
      rw [Op.nests, if_pos rfl] at h
      obtain ⟨x, v, ht, hx⟩ := Op.takes_split h
      refine ⟨[], x, v ++ [release l], by simpa using Traces.locked ht, fun _ => rfl, hx, ?_⟩
      intro d
      have hle := ht.le_after rfl ((acquire l).apply d) l
      rw [apply_acquire_self] at hle
      omega
    · rw [Op.nests, if_neg hla, if_pos ((hab l).resolve_left hla)] at h
      cases h
  | seq p q ihp ihq =>
    simp only [Op.nests, Bool.or_eq_true] at h
    obtain h | h := h
    · obtain ⟨w, x, v, n⟩ := ihp h
      obtain ⟨u, hu⟩ := exists_trace q
      exact ⟨w, x, v ++ u, by simpa using Traces.seq n.trace hu, n.before, n.between, n.held⟩
    · obtain ⟨t, ht⟩ := exists_trace p
      obtain ⟨w, x, v, n⟩ := ihq h
      refine ⟨t ++ w, x, v, by simpa using Traces.seq ht n.trace, fun d => ?_, n.between, n.held⟩
      rw [after_append, ht.after_eq, n.before]
  | choice p q ihp ihq =>
    simp only [Op.nests, Bool.or_eq_true] at h
    obtain h | h := h
    · obtain ⟨w, x, v, n⟩ := ihp h
      exact ⟨w, x, v, .left n.trace, n.before, n.between, n.held⟩
    · obtain ⟨w, x, v, n⟩ := ihq h
      exact ⟨w, x, v, .right n.trace, n.before, n.between, n.held⟩
  | loop p ih =>
    obtain ⟨w, x, v, n⟩ := ih h
    exact ⟨w, x, v, n.trace.once, n.before, n.between, n.held⟩

lemma after_eq_zero {d : Depth κ} {b : κ} {t : List (Act κ)} (h : acquire b ∉ t)
    (hd : d b = 0) : after d t b = 0 := by
  induction t generalizing d with
  | nil => exact hd
  | cons x t ih =>
    obtain ⟨hx, ht⟩ := not_or.mp (mt List.mem_cons.mpr h)
    refine ih ht ?_
    cases x with
    | acquire l =>
      have hne : b ≠ l := by
        rintro rfl
        exact hx rfl
      rw [apply_acquire_ne d hne, hd]
    | release l =>
      have hle := apply_release_le d l b
      omega

/-! ### Interleavings -/

variable {ι : Type}

/-- A lock can be taken when no other thread holds it, and again by its holder if it is
recursive. -/
def Enabled (recursive : κ → Bool) (s : Sys κ ι) (i : ι) : Act κ → Prop
  | acquire l => (∀ j ≠ i, s.depth j l = 0) ∧ (recursive l = true ∨ s.depth i l = 0)
  | release _ => True

def Sys.Holds (s : Sys κ ι) (i : ι) (l : κ) : Prop := 0 < s.depth i l

/-- The next thing the thread does is to take `l`. -/
def Sys.Wants (s : Sys κ ι) (i : ι) (l : κ) : Prop := ∃ v, s.rest i = acquire l :: v

/-- Two threads that each hold the lock the other one wants. -/
def Deadlock (a b : κ) (s : Sys κ ι) : Prop :=
  ∃ i j, i ≠ j ∧ s.Holds i a ∧ s.Wants i b ∧ s.Holds j b ∧ s.Wants j a

/-- Every thread is inside a trace of its function, and no lock is held twice. -/
structure Inv (ops : ι → Op κ) (s : Sys κ ι) : Prop where
  traces : ∀ i, ∃ u, Traces (ops i) (u ++ s.rest i) ∧ s.depth i = after (fun _ => 0) u
  excl : ∀ i j l, i ≠ j → s.Holds i l → s.depth j l = 0

lemma Start.inv {ops : ι → Op κ} {s : Sys κ ι} (h : Start ops s) : Inv ops s where
  traces i := ⟨[], h.traces i, h.free i⟩
  excl _ j l _ _ := congrFun (h.free j) l

variable {recursive : κ → Bool} {ops : ι → Op κ}

lemma Enabled.excl {s : Sys κ ι} {i j : ι} {x : Act κ} {l : κ}
    (h : Enabled recursive s i x) (hs : ∀ i j l, i ≠ j → s.Holds i l → s.depth j l = 0)
    (hij : j ≠ i) (hl : 0 < x.apply (s.depth i) l) : s.depth j l = 0 := by
  cases x with
  | acquire k =>
    by_cases hlk : l = k
    · rw [hlk]
      exact h.1 j hij
    · rw [apply_acquire_ne _ hlk] at hl
      exact hs i j l hij.symm hl
  | release k =>
    have hle := apply_release_le (s.depth i) k l
    exact hs i j l hij.symm (by unfold Sys.Holds; omega)

lemma Inv.nests {s : Sys κ ι} (h : Inv ops s) {a b : κ} {i j : ι} (hij : i ≠ j)
    (ha : s.Holds i a) (hb : s.Wants i b) (hj : s.Holds j b) : (ops i).nests a b = true := by
  obtain ⟨v, hv⟩ := hb
  obtain ⟨u, hu, hd⟩ := h.traces i
  rw [hv] at hu
  have hfree : s.depth i b = 0 := h.excl j i b hij.symm hj
  rw [hd] at hfree
  rw [Sys.Holds, hd] at ha
  exact hu.nests rfl rfl rfl ha hfree

variable [DecidableEq ι]

inductive Step (recursive : κ → Bool) : Sys κ ι → Sys κ ι → Prop
  | act {s : Sys κ ι} {i : ι} {x : Act κ} {v : List (Act κ)} : s.rest i = x :: v →
      Enabled recursive s i x → Step recursive s (s.set i v (x.apply (s.depth i)))

abbrev Reaches (recursive : κ → Bool) : Sys κ ι → Sys κ ι → Prop :=
  Relation.ReflTransGen (Step recursive)

lemma Step.inv {s t : Sys κ ι} (h : Step recursive s t) (hs : Inv ops s) : Inv ops t := by
  obtain ⟨hr, he⟩ := h
  rename_i i x v
  refine ⟨fun j => ?_, fun j k l hjk hj => ?_⟩
  · by_cases hj : j = i
    · subst hj
      obtain ⟨u, hu, hd⟩ := hs.traces j
      refine ⟨u ++ [x], by simpa [hr] using hu, ?_⟩
      simp [hd]
    · rw [set_rest_ne s hj, set_depth_ne s hj]
      exact hs.traces j
  · by_cases hji : j = i
    · subst hji
      rw [set_depth_ne s hjk.symm]
      rw [Sys.Holds, set_depth_self] at hj
      exact he.excl hs.excl hjk.symm hj
    rw [Sys.Holds, set_depth_ne s hji] at hj
    by_cases hki : k = i
    · subst hki
      rw [set_depth_self]
      by_contra hne
      have h0 := he.excl hs.excl hji (Nat.pos_of_ne_zero hne)
      omega
    · rw [set_depth_ne s hki]
      exact hs.excl j k l hjk hj

lemma Start.reaches_inv {s t : Sys κ ι} (h : Start ops s) (hst : Reaches recursive s t) :
    Inv ops t := by
  induction hst with
  | refl => exact h.inv
  | tail _ hstep ih => exact hstep.inv ih

/-- A deadlock takes two threads that nest the locks in opposite orders. -/
lemma nests_of_deadlock {a b : κ} {s t : Sys κ ι} (hs : Start ops s)
    (hst : Reaches recursive s t) (hd : Deadlock a b t) :
    ∃ i j, i ≠ j ∧ (ops i).nests a b = true ∧ (ops j).nests b a = true := by
  obtain ⟨i, j, hij, hia, hib, hjb, hja⟩ := hd
  have hinv := hs.reaches_inv hst
  exact ⟨i, j, hij, hinv.nests hij hia hib hjb, hinv.nests hij.symm hjb hja hia⟩

lemma reaches_solo {s : Sys κ ι} {i : ι} {t v : List (Act κ)} (hr : s.rest i = t ++ v)
    (hown : ∀ u l w, t = u ++ acquire l :: w →
      recursive l = true ∨ after (s.depth i) u l = 0)
    (hfree : ∀ l, acquire l ∈ t → ∀ j ≠ i, s.depth j l = 0) :
    Reaches recursive s (s.set i v (after (s.depth i) t)) := by
  induction t generalizing s with
  | nil =>
    rw [after_nil, set_self (by simpa using hr)]
  | cons x t ih =>
    have he : Enabled recursive s i x := by
      cases x with
      | acquire l => exact ⟨hfree l List.mem_cons_self, hown [] l t rfl⟩
      | release l => trivial
    refine .head (.act hr he) ?_
    have hrun := @ih (s.set i (t ++ v) (x.apply (s.depth i))) (set_rest_self ..) ?_ ?_
    · simpa using hrun
    · intro u l w ht
      rw [set_depth_self]
      exact hown (x :: u) l w (by rw [ht]; rfl)
    · intro l hl j hj
      rw [set_depth_ne s hj]
      exact hfree l (List.mem_cons_of_mem x hl) j hj

variable {a b : κ} {p : Op κ} {w x v : List (Act κ)}

lemma Nested.own (n : Nested a b p w x v) (hs : p.safe recursive = true)
    {u z : List (Act κ)} {l : κ} (hu : w ++ acquire a :: x = u ++ acquire l :: z) :
    recursive l = true ∨ after (fun _ => 0) u l = 0 := by
  refine n.trace.admits hs (v := z ++ acquire b :: v) ?_ fun _ _ => .inr rfl
  calc w ++ acquire a :: (x ++ acquire b :: v)
      = (w ++ acquire a :: x) ++ acquire b :: v := by simp
    _ = u ++ acquire l :: (z ++ acquire b :: v) := by simp [hu]

lemma Nested.reaches_outer (n : Nested a b p w x v) (hs : p.safe recursive = true)
    {s : Sys κ ι} {i : ι} (hfree : s.Free)
    (hr : s.rest i = w ++ acquire a :: (x ++ acquire b :: v)) :
    Reaches recursive s (s.set i (acquire a :: (x ++ acquire b :: v)) fun _ => 0) := by
  suffices hrun : Reaches recursive s (s.set i (acquire a :: (x ++ acquire b :: v))
      (after (s.depth i) w)) by rwa [hfree i, n.before] at hrun
  refine reaches_solo hr ?_ ?_
  · intro u l z hu
    rw [hfree i]
    exact n.own hs (z := z ++ acquire a :: x) (by simp [hu])
  · intro l _ k _
    rw [hfree k]

lemma Nested.reaches_inner (n : Nested a b p w x v) (hs : p.safe recursive = true)
    {s : Sys κ ι} {i : ι} (hz : s.depth i = fun _ => 0)
    (hfree : ∀ l, acquire l ∈ acquire a :: x → ∀ k ≠ i, s.depth k l = 0)
    (hr : s.rest i = acquire a :: (x ++ acquire b :: v)) :
    Reaches recursive s
      (s.set i (acquire b :: v) (after (fun _ => 0) (acquire a :: x))) := by
  rw [← hz]
  refine reaches_solo hr (fun u l z hu => ?_) hfree
  have hown := n.own hs (u := w ++ u) (l := l) (z := z) (by simp [hu])
  rwa [after_append, n.before, ← hz] at hown

lemma Nested.inner_free (n : Nested a b p w x v) (hne : a ≠ b) :
    after (fun _ => 0) (acquire a :: x) b = 0 := by
  refine after_eq_zero ?_ rfl
  rintro (_ | _)
  · exact hne rfl
  · exact n.between ‹_›

/-- With two locks, threads that nest them in opposite orders can reach a deadlock: both run
up to their outer locks, and then each of them up to its inner lock. -/
lemma deadlock_of_nests (hne : a ≠ b) (hab : ∀ l, l = a ∨ l = b)
    (hs : ∀ i, (ops i).safe recursive = true) {i j : ι} (hij : i ≠ j)
    (hi : (ops i).nests a b = true) (hj : (ops j).nests b a = true) :
    ∃ s t, Start ops s ∧ Reaches recursive s t ∧ Deadlock a b t := by
  obtain ⟨w, x, v, n⟩ := Op.nests_split hab hi
  obtain ⟨w', x', v', n'⟩ := Op.nests_split (fun l => (hab l).symm) hj
  obtain ⟨s, hstart, hri, hrj⟩ := exists_start ops hij n.trace n'.trace
  let s₁ := s.set i (acquire a :: (x ++ acquire b :: v)) fun _ => 0
  let s₂ := s₁.set j (acquire b :: (x' ++ acquire a :: v')) fun _ => 0
  let s₃ := s₂.set i (acquire b :: v) (after (fun _ => 0) (acquire a :: x))
  let s₄ := s₃.set j (acquire a :: v') (after (fun _ => 0) (acquire b :: x'))
  have free₁ : s₁.Free := hstart.free.set i _
  have free₂ : s₂.Free := free₁.set j _
  have h₁ : Reaches recursive s s₁ := n.reaches_outer (hs i) hstart.free hri
  have h₂ : Reaches recursive s₁ s₂ := by
    refine n'.reaches_outer (hs j) free₁ ?_
    rw [set_rest_ne s hij.symm, hrj]
  have h₃ : Reaches recursive s₂ s₃ := by
    refine n.reaches_inner (hs i) (free₂ i) (fun l _ k _ => by rw [free₂ k]) ?_
    rw [set_rest_ne s₁ hij, set_rest_self]
  have h₄ : Reaches recursive s₃ s₄ := by
    refine n'.reaches_inner (hs j) ?_ (fun l hl k hkj => ?_) ?_
    · rw [set_depth_ne s₂ hij.symm, free₂ j]
    · by_cases hki : k = i
      · -- only `b` is taken on the way
        have hlb : l = b := by
          obtain hl | hl := List.mem_cons.mp hl
          · exact Act.acquire.inj hl
          · refine (hab l).resolve_left ?_
            rintro rfl
            exact n'.between hl
        rw [hki, hlb, set_depth_self]
        exact n.inner_free hne
      · rw [set_depth_ne s₂ hki, free₂ k]
    · rw [set_rest_ne s₂ hij.symm, set_rest_self]
  refine ⟨s, s₄, hstart, ((h₁.trans h₂).trans h₃).trans h₄, i, j, hij, ?_, ⟨v, ?_⟩, ?_, ⟨v', ?_⟩⟩
  · rw [Sys.Holds, set_depth_ne s₃ hij, set_depth_self]
    exact n.held _
  · rw [set_rest_ne s₃ hij, set_rest_self]
  · rw [Sys.Holds, set_depth_self]
    exact n'.held _
  · rw [set_rest_self]

/-- **Two locks deadlock exactly when two threads nest them in opposite orders.** -/
theorem deadlock_reachable_iff (hne : a ≠ b) (hab : ∀ l, l = a ∨ l = b)
    (hs : ∀ i, (ops i).safe recursive = true) :
    (∃ s t, Start ops s ∧ Reaches recursive s t ∧ Deadlock a b t) ↔
      ∃ i j, i ≠ j ∧ (ops i).nests a b = true ∧ (ops j).nests b a = true := by
  constructor
  · rintro ⟨s, t, hstart, hst, hd⟩
    exact nests_of_deadlock hstart hst hd
  · rintro ⟨i, j, hij, hi, hj⟩
    exact deadlock_of_nests hne hab hs hij hi hj

end DdsEnabler.Locks
