import DdsEnabler.Bookkeeping

/-!
What is found under a topic name.

Readers are kept by topic name and type name, and looked up by topic name. Only `create_reader` adds
one, and it does not look at the readers that are there; so a lookup is unambiguous as long as no
reader is created for a topic name that has one for another type.
-/

namespace DdsEnabler

open Exec Runs Tables Contention

/-- The reader of a topic is the one found under its name, and there is no other. -/
structure Participant.Unambiguous (p : Participant) : Prop where
  apart : NamesApart Prod.fst p.readers
  found : ∀ k r, p.readers.lookup k = some r → p.lookupReader k.1 = some (k, r)

section Readers

variable {p q : Participant} {env : Env} {topic : DdsTopic} {s : State}

lemma unambiguous_iff : p.Unambiguous ↔ NamesApart Prod.fst p.readers := by
  refine ⟨fun h => h.apart, fun h => ⟨h, fun k r hk => ?_⟩⟩
  rcases hfound : p.lookupReader k.1 with _ | ⟨k', r'⟩
  · have hnone := lookupReader_eq_none.mp hfound k rfl
    rw [hk] at hnone
    cases hnone
  · obtain ⟨hk', hname⟩ := of_lookupReader hfound
    have hsame : k' = k := h k' (AList.lookup_isSome.mp (by rw [hk']; rfl)) k
      (AList.lookup_isSome.mp (by rw [hk]; rfl)) hname
    subst hsame
    rw [hk] at hk'
    cases hk'
    rfl

/-! Revocations take readers away at most. -/

lemma fewer_dismantle (p : Participant) (name : Str) (v : ServiceDiscovered) (e : Endpoint) :
    ∀ k ∈ (p.dismantle name v e).readers, k ∈ p.readers := by
  unfold Participant.dismantle
  extract_lets p'
  split
  · exact fun k hk => (AList.mem_erase.mp hk).2
  · exact fun k hk => hk

lemma fewer_revokeServiceNts (p : Participant) (name : Str) :
    ∀ k ∈ (p.revokeServiceNts name).2.readers, k ∈ p.readers := by
  unfold Participant.revokeServiceNts
  split
  · exact fun k hk => hk
  · split
    · split
      · exact fun k hk => hk
      · exact fewer_dismantle p name _ _
    · exact fun k hk => hk

lemma fewer_revokeServices (p : Participant) (names : List Str) :
    ∀ k ∈ (p.revokeServices names).2.readers, k ∈ p.readers := by
  induction names generalizing p with
  | nil => exact fun k hk => hk
  | cons name names ih =>
    have hfirst := fewer_revokeServiceNts p name
    unfold Participant.revokeServices
    rcases hq : p.revokeServiceNts name with ⟨b, q⟩
    rw [hq] at hfirst
    rcases b
    · exact hfirst
    · exact fun k hk => hfirst k (ih q k hk)

lemma fewer_revokeAction (p : Participant) (actionName : Str) :
    ∀ k ∈ (p.revokeAction actionName).2.readers, k ∈ p.readers := by
  unfold Participant.revokeAction
  split
  · exact fun k hk => hk
  · split
    · exact fun k hk => hk
    · split
      · exact fun k hk => hk
      · split
        · next goal result cancel _ _ _ =>
          have hrest := fewer_revokeServices p
            [goal.serviceName, result.serviceName, cancel.serviceName]
          rcases hq : p.revokeServices
            [goal.serviceName, result.serviceName, cancel.serviceName] with ⟨b, q⟩
          rw [hq] at hrest
          rcases b
          · exact hrest
          · exact hrest
        · exact fun k hk => hk

lemma readers_entered (h : EnteredAs topic p q) : q.readers = p.readers := by
  cases h with
  | not => rfl
  | service info => rfl
  | action _ =>
    unfold Participant.actionDiscovered Participant.enterTopic
    by_cases hs : (RpcInfo.ofTopic topic.topicName).serviceType ≠ .none
    · simp only [hs, ne_eq, not_false_eq_true, if_true]
      split
      · rfl
      · rfl
    · simp only [hs, if_false]

lemma readers_createReader (h : s.participant.Consistent) (env : Env) (topic : DdsTopic) :
    (after (createReader env topic) s).participant.readers =
      if env.isTypeObjectTopic topic then s.participant.readers
      else s.participant.readers.insert topic.key
        (makeReader env (.ofTopic topic.topicName) topic) := by
  unfold createReader
  split
  · rfl
  · extract_lets info jp
    have hregister : ∀ t : State, t.participant.readers = s.participant.readers →
        (after (jp true) t).participant.readers =
          s.participant.readers.insert topic.key (makeReader env info topic) := by
      intro t ht
      rw [← ht]
      rfl
    split
    · obtain ⟨t, hrun⟩ : ∃ t, (notifyDiscovery env info topic).run s = .ok true t :=
        ⟨_, run_eq_ok.mpr ⟨notifyDiscovery_returns h info, rfl⟩⟩
      rw [after_bind_ok hrun]
      refine hregister t ?_
      rw [← after_ok hrun]
      exact readers_entered (entered_notifyDiscovery topic env s)
    · exact hregister s rfl

end Readers

/-! ### The system -/

namespace Clients

variable {κ : Type} [DecidableEq κ]

/-- Lookups by topic name are unambiguous after the step. -/
def Unambiguous (c : Clients κ) (op : DiscoveryOp κ) : Prop :=
  (step c op).shared.participant.Unambiguous

/-- A reader that is created finds under its topic name readers for its own type at most. -/
def RegistersAlike (c : Clients κ) : DiscoveryOp κ → Prop
  | .createReader env topic => env.isTypeObjectTopic topic = false →
      ∀ k ∈ c.shared.participant.readers, k.1 = topic.topicName → k.2 = topic.typeName
  | _ => True

/-- The clients wait to enter what is consistent, and readers are told apart by topic names. -/
structure Orderly (c : Clients κ) : Prop where
  consistent : c.Consistent
  apart : NamesApart Prod.fst c.shared.participant.readers

lemma unambiguous_step (c : Clients κ) (op : DiscoveryOp κ) (h : c.Orderly) :
    Unambiguous c op ↔ RegistersAlike c op := by
  have hannounces : op.Announces → Unambiguous c op := by
    intro hop
    refine unambiguous_iff.mpr ?_
    rw [(books_step h.consistent hop).shared.readers]
    exact h.apart
  have hfewer : (∀ k ∈ (step c op).shared.participant.readers,
      k ∈ c.shared.participant.readers) → Unambiguous c op :=
    fun hsub => unambiguous_iff.mpr (h.apart.mono hsub)
  cases op with
  | announceService k env serviceName protocol => exact iff_of_true (hannounces trivial) trivial
  | announceAction k env actionName protocol => exact iff_of_true (hannounces trivial) trivial
  | wake k env timedOut => exact iff_of_true (hannounces trivial) trivial
  | elsewhere s => exact iff_of_true (hannounces trivial) trivial
  | revokeService serviceName =>
    exact iff_of_true (hfewer (fewer_revokeServiceNts _ serviceName)) trivial
  | revokeAction actionName => exact iff_of_true (hfewer (fewer_revokeAction _ actionName)) trivial
  | createReader env topic =>
    unfold Unambiguous
    simp only [unambiguous_iff, step, Threads.disturb, after_discard]
    rw [readers_createReader h.consistent.shared]
    split
    · next htype => exact iff_of_true h.apart fun hfalse => by rw [htype] at hfalse; cases hfalse
    · next htype =>
      rw [namesApart_insert_iff h.apart]
      refine ⟨fun hnew _ k hk hname => congrArg Prod.snd (hnew k hk hname), fun halike k hk hname =>
        Prod.ext hname (halike (by simpa using htype) k hk hname)⟩

/-- **A lookup by topic name is unambiguous** in every state of a run if and only if no reader is
created for a topic name with a reader for another type. -/
theorem lookups_unambiguous_iff (handler : Handler) (w : List (DiscoveryOp κ)) :
    Along step Unambiguous (start handler) w ↔ Along step RegistersAlike (start handler) w := by
  have hstart : (start handler : Clients κ).Orderly :=
    ⟨consistent_start handler, fun k hk => absurd hk (AList.notMem_empty k)⟩
  refine along_iff_of_inv (G := fun _ _ => True) (fun c op h _ halike => ?_)
    (fun c op h _ => unambiguous_step c op h) hstart (along_of_forall (fun _ _ => trivial) _ _)
  exact ⟨consistent_step c op h.consistent, ((unambiguous_step c op h).mpr halike).apart⟩

/-- A topic that two participants use with two types. -/
def twoTypes : List (DiscoveryOp Unit) :=
  [.createReader Env.silent { topicName := "rt/chatter".toList, typeName := "String".toList },
    .createReader Env.silent { topicName := "rt/chatter".toList, typeName := "Int32".toList }]

/-- The reader that comes second is not the one found. -/
theorem two_types_ambiguous :
    ¬ Along step Unambiguous (start {}) twoTypes ∧
      ((run step (start {}) twoTypes).shared.participant.lookupReader "rt/chatter".toList).map
        (·.1.2) = some "Int32".toList := by
  refine ⟨?_, by decide +kernel⟩
  rintro ⟨-, h, -⟩
  have hlast : (run step (start {}) twoTypes).shared.participant.Unambiguous := h
  have hkeys : (run step (start {}) twoTypes).shared.participant.readers.keys =
      [("rt/chatter".toList, "Int32".toList), ("rt/chatter".toList, "String".toList)] := by
    decide +kernel
  have hsame := hlast.apart ("rt/chatter".toList, "Int32".toList)
    (AList.mem_keys.mpr (by rw [hkeys]; simp)) ("rt/chatter".toList, "String".toList)
    (AList.mem_keys.mpr (by rw [hkeys]; simp)) rfl
  revert hsame
  decide

end Clients

end DdsEnabler
