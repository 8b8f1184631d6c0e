import DdsEnabler.Calls

/-!
What announcements and revocations of actions leave behind where they fail.

The services of an action are erased before its parts are announced, and what has been entered by
the first part that fails stays. So an announcement that fails undoes nothing unless it fails at the
first part, before anything is simulated, and had nothing to erase. The services of an action are
revoked one after the other, and those before the first that cannot be revoked stay revoked.
-/

namespace DdsEnabler

open Exec Runs Tables RpcInfo

/-! ### Revocations -/

/-- A service can be revoked: it has the flag and an endpoint. -/
def Participant.CanRevoke (p : Participant) (name : Str) : Prop :=
  ∃ v, p.services.find name = some v ∧ v.enablerAsServer = true ∧ v.endpointRequest.isSome = true

section Revocations

variable {p q : Participant} {name : Str}

lemma revokeServiceNts_find (h : p.revokeServiceNts name = (true, q)) :
    ¬ q.CanRevoke name ∧ ∀ n, n ≠ name → q.services.find n = p.services.find n := by
  have hset : ∃ v, q.services = p.services.set name v ∧
      ¬ (v.enablerAsServer = true ∧ v.endpointRequest.isSome = true) := by
    unfold Participant.revokeServiceNts at h
    split at h
    · cases h
    · next v hv =>
      split at h
      · next e hserver he =>
        split at h
        · cases h
          exact ⟨_, rfl, by simp⟩
        · cases h
          exact ⟨_, dismantle_services p name v e, by simp [ServiceDiscovered.removeTopic]⟩
      · cases h
  obtain ⟨v, hv, hnot⟩ := hset
  refine ⟨?_, fun n hn => ?_⟩
  · rintro ⟨v', hv', hserver, hend⟩
    rw [hv, ServiceMap.find_set, if_pos rfl] at hv'
    cases hv'
    exact hnot ⟨hserver, hend⟩
  · rw [hv, ServiceMap.find_set, if_neg hn]

lemma canRevoke_revoked (h : p.revokeServiceNts name = (true, q)) (n : Str) :
    q.CanRevoke n ↔ n ≠ name ∧ p.CanRevoke n := by
  obtain ⟨hnot, hothers⟩ := revokeServiceNts_find h
  by_cases hn : n = name
  · subst hn
    simp [hnot]
  · simp [Participant.CanRevoke, hothers n hn, hn]

lemma revokeServices_fst (p : Participant) (names : List Str) :
    (p.revokeServices names).1 = true ↔ names.Nodup ∧ ∀ n ∈ names, p.CanRevoke n := by
  induction names generalizing p with
  | nil => simp [Participant.revokeServices]
  | cons name names ih =>
    have hfirst := revokeServiceNts_fst p name
    rcases hq : p.revokeServiceNts name with ⟨b, q⟩
    rw [hq] at hfirst
    rcases b
    · have hnot : ¬ p.CanRevoke name := fun hcan => by simpa using hfirst.mpr hcan
      simp [Participant.revokeServices, hq, hnot]
    · have hcan : p.CanRevoke name := hfirst.mp rfl
      simp only [Participant.revokeServices, hq, ih, canRevoke_revoked hq]
      simp only [List.nodup_cons, List.forall_mem_cons, hcan, true_and]
      constructor
      · rintro ⟨hnodup, hall⟩
        exact ⟨⟨fun hmem => (hall name hmem).1 rfl, hnodup⟩, fun n hn => (hall n hn).2⟩
      · rintro ⟨⟨hnot, hnodup⟩, hall⟩
        refine ⟨hnodup, fun n hn => ⟨?_, hall n hn⟩⟩
        rintro rfl
        exact hnot hn

lemma canRevoke_of_revokeServices {names : List Str} {n : Str}
    (h : (p.revokeServices names).2.CanRevoke n) : p.CanRevoke n := by
  induction names generalizing p with
  | nil => exact h
  | cons name names ih =>
    rcases hq : p.revokeServiceNts name with ⟨b, q⟩
    rcases b
    · have hsame : q = p := by
        have hfalse := revokeServiceNts_false p (congrArg Prod.fst hq)
        rw [hq] at hfalse
        exact hfalse
      simpa [Participant.revokeServices, hq, hsame] using h
    · simp only [Participant.revokeServices, hq] at h
      exact ((canRevoke_revoked hq n).mp (ih h)).2

end Revocations

/-! ### Announcements -/

section Announcements

variable (env : Env) (info : ActionInfo) (actionName : Str)

/-- Every part is found and entered, unless a look-up throws. -/
def EntersAll : List ActionType → State → Prop
  | [], _ => True
  | t :: l, s => ∀ r u, (findPart env info actionName t).run s = .ok r u →
      ∃ part, r = some part ∧ s.participant.Admits env part ∧ EntersAll l u

/-- The goal service is not found, or has a reader already. -/
def StopsAtGoal (s : State) : Prop :=
  ∃ r u, (findPart env info actionName .goal).run s = .ok r u ∧
    ∀ part, r = some part → s.participant.lookupReader part.lookedUp ≠ none

variable {env info actionName} {s : State} {l : List ActionType}

lemma entersAll_cons {t : ActionType} {r : Option Part} {u : State}
    (h : (findPart env info actionName t).run s = .ok r u) :
    EntersAll env info actionName (t :: l) s ↔
      ∃ part, r = some part ∧ s.participant.Admits env part ∧
        EntersAll env info actionName l u := by
  constructor
  · exact fun hc => hc r u h
  · intro hc r' u' h'
    rw [h] at h'
    cases h'
    exact hc

lemma entersAll_of_error {t : ActionType} {e : Exc} {u : State}
    (h : (findPart env info actionName t).run s = .error e u) :
    EntersAll env info actionName (t :: l) s := by
  intro r' u' h'
  rw [h] at h'
  cases h'

lemma announceParts_false {q : Participant} (hnodup : l.Nodup) (hl : ∀ t ∈ l, t ≠ .none)
    (hagree : Agrees actionName l s.participant q) :
    outcome (announceParts env info actionName l) { s with participant := q } = .ok false ↔
      ¬ EntersAll env info actionName l s := by
  induction l generalizing s q with
  | nil =>
    have htrue : outcome (announceParts env info actionName []) { s with participant := q } =
        .ok true := rfl
    simp [htrue, EntersAll]
  | cons t l ih =>
    have hrun := ignores_findPart env info actionName t s q
    rcases h : (findPart env info actionName t).run s with ⟨r, u⟩ | ⟨e, u⟩
    · have hu : u.participant = s.participant :=
        (ignores_findPart env info actionName t).participant h
      rw [h] at hrun
      rw [entersAll_cons h]
      rcases r with _ | part
      · simp [outcome_ok (announceParts_missing hrun)]
      · have hfound := announceParts_found (l := l) hrun
        have hadmits : (q.enterPart env part).1 = true ↔ s.participant.Admits env part :=
          enterPart_fst.trans (hagree.admits (hl t List.mem_cons_self) h)
        simp only [Option.some.injEq, exists_eq_left', ← hadmits]
        rcases henter : (q.enterPart env part).1
        · rw [henter, if_neg Bool.false_ne_true] at hfound
          simp [outcome_ok hfound]
        · rw [henter, if_pos rfl] at hfound
          obtain ⟨hnot, hnodup⟩ := List.nodup_cons.mp hnodup
          have hl' : ∀ t' ∈ l, t' ≠ .none := fun t' ht' => hl t' (List.mem_cons_of_mem _ ht')
          have hrest := hagree.tail.enter hnot (hl t List.mem_cons_self) hl' h
          rw [← hu] at hrest
          rw [outcome_congr hfound, ih hnodup hl' hrest]
          simp
    · rw [h] at hrun
      simp [outcome_error (announceParts_error hrun), entersAll_of_error h]

lemma announceParts_stops (h : StopsAtGoal env info actionName s) : ∃ u,
    (announceParts env info actionName (.goal :: l)).run s = .ok false u ∧
      u.participant = s.participant := by
  obtain ⟨r, u, hrun, hreader⟩ := h
  have hu : u.participant = s.participant :=
    (ignores_findPart env info actionName .goal).participant hrun
  rcases r with _ | part
  · exact ⟨u, announceParts_missing hrun, hu⟩
  · obtain ⟨request, reply, -, rfl⟩ := findPart_service env info actionName rfl hrun
    have hfound : u.participant.lookupReader request.topicName ≠ none := by
      rw [hu]
      exact hreader _ rfl
    have henter : u.participant.enterPart env
        (.service (.queried (partName actionName .goal) .ros2 request reply)) =
          (false, u.participant) := by
      simp only [Participant.enterPart]
      exact if_pos (Option.isSome_iff_ne_none.mpr hfound)
    have hparts := announceParts_found (l := l) hrun
    rw [henter] at hparts
    exact ⟨u, hparts, hu⟩

lemma announceParts_leaves (h : ¬ StopsAtGoal env info actionName s)
    (hfalse : outcome (announceParts env info actionName (.goal :: l)) s = .ok false) :
    ∃ e ∈ (after (announceParts env info actionName (.goal :: l)) s).participant.endpoints,
      s.participant.nextGuid ≤ e.guid := by
  rcases hrun : (findPart env info actionName .goal).run s with ⟨r, u⟩ | ⟨e, u⟩
  · have hu : u.participant = s.participant :=
      (ignores_findPart env info actionName .goal).participant hrun
    rcases r with _ | part
    · exact absurd ⟨none, u, hrun, by simp⟩ h
    · obtain ⟨request, reply, -, rfl⟩ := findPart_service env info actionName rfl hrun
      have hnone : u.participant.lookupReader request.topicName = none := by
        rw [hu]
        by_contra hsome
        refine h ⟨_, u, hrun, fun part hpart => ?_⟩
        cases hpart
        exact hsome
      set part : Part := .service (.queried (partName actionName .goal) .ros2 request reply)
      have hends := endpoints_enterPart env (show u.participant.lookupReader part.lookedUp = none
        from hnone)
      refine ⟨⟨request, s.participant.nextGuid⟩, ?_, le_rfl⟩
      have hparts := announceParts_found (l := l) hrun
      have hmem : (⟨request, s.participant.nextGuid⟩ : Endpoint) ∈ (u.participant.enterPart env
          (.service (.queried (partName actionName .goal) .ros2 request reply))).2.endpoints := by
        rw [hends, hu]
        exact List.mem_append_right _ (List.mem_singleton_self _)
      split at hparts
      · rw [after_congr hparts]
        exact (appends_announceParts env info actionName l { u with participant := _ }).mem hmem
      · rw [after_ok hparts]
        exact hmem
  · rw [outcome_error (announceParts_error hrun)] at hfalse
    cases hfalse

lemma outcome_announceNewAction (hinfo : env.actionInfo actionName = some info) (s : State) :
    outcome (announceNewAction env actionName .ros2) s =
      outcome (announceParts env info actionName announcedParts)
        { s with participant := s.participant.withoutParts actionName } := by
  rcases hparts : (announceParts env info actionName announcedParts).run
    { s with participant := s.participant.withoutParts actionName } with ⟨b, t⟩ | ⟨e, t⟩
  · obtain ⟨a, hrun⟩ := (announceNewAction_answered hinfo).1 b hparts
    rw [outcome_ok hrun, outcome_ok hparts]
  · have hrun := (announceNewAction_answered hinfo).2 e hparts
    rw [outcome_error hrun, outcome_error hparts]

lemma announceNewAction_false (hinfo : env.actionInfo actionName = some info) {q : Participant}
    (hq : ∀ name, q.lookupReader name = s.participant.lookupReader name) :
    outcome (announceNewAction env actionName .ros2) { s with participant := q } = .ok false ↔
      ¬ EntersAll env info actionName announcedParts s := by
  have hagree : Agrees actionName announcedParts s.participant (q.withoutParts actionName) :=
    .of_eq fun name => (lookupReader_withoutParts q name).trans (hq name)
  rw [outcome_announceNewAction hinfo]
  exact announceParts_false (by decide) (by simp [announcedParts]) hagree

lemma after_announceNewAction (hinfo : env.actionInfo actionName = some info)
    (hfalse : outcome (announceNewAction env actionName .ros2) s = .ok false) :
    after (announceNewAction env actionName .ros2) s =
      after (announceParts env info actionName announcedParts)
        { s with participant := s.participant.withoutParts actionName } := by
  have hsame := outcome_announceNewAction hinfo s
  rw [hfalse] at hsame
  have hparts := run_eq_ok.mpr ⟨hsame.symm, rfl⟩
  obtain ⟨a, hrun⟩ := (announceNewAction_answered hinfo).1 false hparts
  exact after_ok hrun

end Announcements

/-! ### All or nothing -/

/-- The actions, the services and the simulated endpoints are the same. -/
structure Participant.Same (p p' : Participant) : Prop where
  actions : ∀ name, p'.actions.lookup name = p.actions.lookup name
  services : ∀ name, p'.services.find name = p.services.find name
  endpoints : ∀ e, e ∈ p'.endpoints ↔ e ∈ p.endpoints

lemma Participant.Same.refl (p : Participant) : p.Same p :=
  ⟨fun _ => rfl, fun _ => rfl, fun _ => Iff.rfl⟩

/-- An announcement that fails, fails before anything is changed: the action is served, or the user
does not answer, or none of its services is there and the goal service stops it. -/
def AnnouncesCleanly (env : Env) (actionName : Str) (s : State) : Prop :=
  match s.participant.actions.lookup actionName with
  | none => ∀ info, env.actionInfo actionName = some info →
      EntersAll env info actionName announcedParts s ∨
        (∀ t, isServicePart t → s.participant.services.find (partName actionName t) = none) ∧
          StopsAtGoal env info actionName s
  | some a => a.enablerAsServer = true ∨ s.participant.HasServices a ∨
      ∃ info, env.actionInfo actionName = some info ∧
        EntersAll env info actionName announcedParts s

/-- The goal service cannot be revoked, or all three services can. -/
def RevokesCleanly (actionName : Str) (p : Participant) : Prop :=
  ∀ a goal result cancel, p.actions.lookup actionName = some a → a.enablerAsServer = true →
    a.externalServer = false → p.services.lock a.goal = some goal →
    p.services.lock a.result = some result → p.services.lock a.cancel = some cancel →
    ¬ p.CanRevoke goal.serviceName ∨
      [goal.serviceName, result.serviceName, cancel.serviceName].Nodup ∧
        p.CanRevoke result.serviceName ∧ p.CanRevoke cancel.serviceName

section Cleanly

variable {env : Env} {info : ActionInfo} {actionName : Str} {s : State}

lemma stopsAtGoal_withoutParts :
    StopsAtGoal env info actionName
        { s with participant := s.participant.withoutParts actionName } ↔
      StopsAtGoal env info actionName s := by
  have hrun := ignores_findPart env info actionName .goal s (s.participant.withoutParts actionName)
  simp only [StopsAtGoal, lookupReader_withoutParts]
  refine exists_congr fun r => ?_
  rcases h : (findPart env info actionName .goal).run s with ⟨r', u⟩ | ⟨e, u⟩
  · rw [h] at hrun
    simp [hrun]
  · rw [h] at hrun
    simp [hrun]

/-- A new action whose announcement fails has changed nothing if the goal service was the first to
be missing, and none of the three was there. -/
lemma same_announceNewAction (hfresh : s.participant.Fresh)
    (hinfo : env.actionInfo actionName = some info)
    (hfalse : outcome (announceNewAction env actionName .ros2) s = .ok false) :
    s.participant.Same (after (announceNewAction env actionName .ros2) s).participant ↔
      (∀ t, isServicePart t → s.participant.services.find (partName actionName t) = none) ∧
        StopsAtGoal env info actionName s := by
  rw [after_announceNewAction hinfo hfalse]
  rw [outcome_announceNewAction hinfo] at hfalse
  by_cases hstop : StopsAtGoal env info actionName s
  · obtain ⟨u, hrun, hu⟩ := announceParts_stops (l := [.cancel, .result, .feedback, .status])
      (stopsAtGoal_withoutParts.mpr hstop)
    have hafter : (after (announceParts env info actionName announcedParts)
        { s with participant := s.participant.withoutParts actionName }).participant =
          s.participant.withoutParts actionName := (congrArg _ (after_ok hrun)).trans hu
    rw [hafter, and_iff_left hstop]
    constructor
    · intro h t ht
      rw [← h.services, find_withoutParts_part _ _ ht]
    · intro h
      refine ⟨fun name => by simp, fun name => ?_, fun e => by simp⟩
      by_cases hpart : ∃ t, isServicePart t ∧ name = partName actionName t
      · obtain ⟨t, ht, rfl⟩ := hpart
        rw [find_withoutParts_part _ _ ht, h t ht]
      · exact find_withoutParts_other _ _ fun t ht hname => hpart ⟨t, ht, hname⟩
  · refine iff_of_false (fun h => ?_) fun h => hstop h.2
    obtain ⟨e, he, hguid⟩ := announceParts_leaves (mt stopsAtGoal_withoutParts.mp hstop) hfalse
    have hold := hfresh e ((h.endpoints e).mp he)
    simp at hguid
    omega

/-- An action that had lost its services is gone where it is not announced anew. -/
lemma not_same_lost {a : ActionDiscovered}
    (hlookup : s.participant.actions.lookup actionName = some a)
    (hserver : a.enablerAsServer = false) (hservices : ¬ s.participant.HasServices a)
    (hfalse : outcome (announceAction env actionName .ros2) s = .ok false) :
    ¬ s.participant.Same (after (announceAction env actionName .ros2) s).participant := by
  intro h
  have hactions := h.actions actionName
  rw [hlookup] at hactions
  have hnew : (announceAction env actionName .ros2).run s = _ :=
    announceAction_run_lost hlookup hserver hservices
  rw [outcome_congr hnew] at hfalse
  rw [after_congr hnew] at hactions
  have hgone : ∀ s' : State, s'.participant.actions.lookup actionName = none →
      outcome (announceNewAction env actionName .ros2) s' = .ok false →
      (after (announceNewAction env actionName .ros2) s').participant.actions.lookup actionName =
        none := by
    intro s' hnone hfalse
    rcases hinfo : env.actionInfo actionName with _ | info
    · rw [after_ok (announceNewAction_unanswered hinfo s')]
      exact hnone
    · rw [after_announceNewAction hinfo hfalse]
      refine announceParts_inv (I := fun p => p.actions.lookup actionName = none)
        (fun t _ u u' part _ hu => ?_) (by simpa using hnone)
      rw [enterPart_actions]
      exact hu
  rw [hgone _ (by simp) hfalse] at hactions
  cases hactions

end Cleanly

namespace ParticipantOp

/-- An announcement or a revocation of an action that returns false changes nothing. -/
def AllOrNothing (s : State) : ParticipantOp → Prop
  | .announceAction env actionName protocol =>
      outcome (DdsEnabler.announceAction env actionName protocol) s = .ok false →
        s.participant.Same (step s (.announceAction env actionName protocol)).participant
  | .revokeAction actionName => outcome (DdsEnabler.revokeAction actionName) s = .ok false →
      s.participant.Same (step s (.revokeAction actionName)).participant
  | _ => True

def FailsCleanly (s : State) : ParticipantOp → Prop
  | .announceAction env actionName protocol =>
      protocol = .ros2 → AnnouncesCleanly env actionName s
  | .revokeAction actionName => RevokesCleanly actionName s.participant
  | _ => True

variable {env : Env} {actionName : Str} {s : State}

lemma announceAction_allOrNothing (hfresh : s.participant.Fresh) :
    AllOrNothing s (.announceAction env actionName .ros2) ↔ AnnouncesCleanly env actionName s := by
  simp only [AllOrNothing, step, AnnouncesCleanly]
  rcases hlookup : s.participant.actions.lookup actionName with _ | a
  · have hnew : (DdsEnabler.announceAction env actionName .ros2).run s = _ :=
      announceAction_run_new hlookup
    rw [outcome_congr hnew, after_congr hnew]
    rcases hinfo : env.actionInfo actionName with _ | info
    · rw [after_ok (announceNewAction_unanswered hinfo s)]
      exact iff_of_true (fun _ => .refl _) fun info h => nomatch h
    · simp only [Option.some.injEq, forall_eq']
      rw [or_iff_not_imp_left, ← announceNewAction_false hinfo fun _ => rfl]
      exact forall_congr' fun hfalse => same_announceNewAction hfresh hinfo hfalse
  · rcases hserver : a.enablerAsServer
    · by_cases hservices : s.participant.HasServices a
      · obtain ⟨goal, result, cancel, -, -, -, hrun⟩ :=
          announceAction_run_valid env hlookup hserver hservices
        rw [outcome_ok hrun]
        exact iff_of_true (fun h => nomatch h) (.inr (.inl hservices))
      · have hlost : (outcome (DdsEnabler.announceAction env actionName .ros2) s = .ok false →
            s.participant.Same
              (after (DdsEnabler.announceAction env actionName .ros2) s).participant) ↔
            outcome (DdsEnabler.announceAction env actionName .ros2) s ≠ .ok false :=
          forall_congr' fun hfalse =>
            iff_of_false (not_same_lost hlookup hserver hservices hfalse) (fun h => h)
        have hnew : (DdsEnabler.announceAction env actionName .ros2).run s = _ :=
          announceAction_run_lost hlookup hserver hservices
        rw [hlost, outcome_congr hnew]
        rcases hinfo : env.actionInfo actionName with _ | info
        · rw [outcome_ok (announceNewAction_unanswered hinfo _)]
          simp [hservices, hserver]
        · have hfails : outcome (announceNewAction env actionName .ros2) { s with
              participant := { s.participant with
                actions := s.participant.actions.erase actionName } } = .ok false ↔
              ¬ EntersAll env info actionName announcedParts s :=
            announceNewAction_false hinfo fun _ => rfl
          rw [ne_eq, hfails, not_not]
          simp [hservices, hserver]
    · rw [after_ok (announceAction_run_served hlookup hserver)]
      exact iff_of_true (fun _ => .refl _) (.inl hserver)

lemma not_same_revokeServices {p : Participant} {name : Str} {names : List Str}
    (hcan : p.CanRevoke name) : ¬ p.Same (p.revokeServices (name :: names)).2 := by
  intro h
  have hfirst : (p.revokeServiceNts name).1 = true := (revokeServiceNts_fst p name).mpr hcan
  rcases hq : p.revokeServiceNts name with ⟨b, q⟩
  rw [hq] at hfirst
  cases hfirst
  have hrest : (p.revokeServices (name :: names)).2 = (q.revokeServices names).2 := by
    simp only [Participant.revokeServices, hq]
  rw [hrest] at h
  have hstill : (q.revokeServices names).2.CanRevoke name := by
    simp only [Participant.CanRevoke, h.services]
    exact hcan
  exact (revokeServiceNts_find hq).1 (canRevoke_of_revokeServices hstill)

lemma revokeServices_cannot {p : Participant} {name : Str} (names : List Str)
    (hcan : ¬ p.CanRevoke name) : p.revokeServices (name :: names) = (false, p) := by
  have hfirst : (p.revokeServiceNts name).1 = false := by
    rw [Bool.eq_false_iff, ne_eq, revokeServiceNts_fst]
    exact hcan
  have hsame := revokeServiceNts_false p hfirst
  rcases hq : p.revokeServiceNts name with ⟨b, q⟩
  rw [hq] at hfirst hsame
  simp only at hfirst hsame
  subst hfirst
  subst hsame
  simp only [Participant.revokeServices, hq]

lemma revokeServices_same (p : Participant) (goal result cancel : Str) :
    ((p.revokeServices [goal, result, cancel]).1 = false →
        p.Same (p.revokeServices [goal, result, cancel]).2) ↔
      ¬ p.CanRevoke goal ∨
        [goal, result, cancel].Nodup ∧ p.CanRevoke result ∧ p.CanRevoke cancel := by
  have hall := revokeServices_fst p [goal, result, cancel]
  by_cases hcan : p.CanRevoke goal
  · have hnot : ¬ p.Same (p.revokeServices [goal, result, cancel]).2 :=
      not_same_revokeServices hcan
    simp only [hnot, imp_false, Bool.not_eq_false, hall, List.forall_mem_cons, hcan,
      not_true_eq_false, true_and, false_or, List.not_mem_nil, IsEmpty.forall_iff,
      implies_true, and_true]
  · rw [revokeServices_cannot _ hcan]
    exact iff_of_true (fun _ => .refl p) (.inl hcan)

lemma revokeAction_allOrNothing :
    AllOrNothing s (.revokeAction actionName) ↔ RevokesCleanly actionName s.participant := by
  have houtcome : outcome (DdsEnabler.revokeAction actionName) s =
      .ok (s.participant.revokeAction actionName).1 := rfl
  have hafter : (step s (.revokeAction actionName)).participant =
      (s.participant.revokeAction actionName).2 := rfl
  simp only [AllOrNothing, houtcome, hafter, RevokesCleanly, Except.ok.injEq]
  generalize s.participant = p
  unfold Participant.revokeAction
  rcases hlookup : p.actions.lookup actionName with _ | a
  · exact iff_of_true (fun _ => .refl _) fun a _ _ _ h => nomatch h
  · simp only [Option.some.injEq]
    by_cases hserved : a.enablerAsServer = true ∧ a.externalServer = false
    · obtain ⟨hserver, hx⟩ := hserved
      simp only [hserver, hx, Bool.not_true, Bool.false_eq_true, if_false]
      split
      · next goal result cancel hgoal hresult hcancel =>
        have hsame :=
          revokeServices_same p goal.serviceName result.serviceName cancel.serviceName
        have hclean : (∀ a' goal' result' cancel', a = a' → a'.enablerAsServer = true →
            a'.externalServer = false → p.services.lock a'.goal = some goal' →
            p.services.lock a'.result = some result' →
            p.services.lock a'.cancel = some cancel' →
            ¬ p.CanRevoke goal'.serviceName ∨
              [goal'.serviceName, result'.serviceName, cancel'.serviceName].Nodup ∧
                p.CanRevoke result'.serviceName ∧ p.CanRevoke cancel'.serviceName) ↔
            ((p.revokeServices [goal.serviceName, result.serviceName,
                cancel.serviceName]).1 = false →
              p.Same (p.revokeServices [goal.serviceName, result.serviceName,
                cancel.serviceName]).2) := by
          rw [hsame]
          constructor
          · exact fun h => h a goal result cancel rfl hserver hx hgoal hresult hcancel
          · rintro h a' goal' result' cancel' rfl - - hgoal' hresult' hcancel'
            rw [hgoal] at hgoal'
            rw [hresult] at hresult'
            rw [hcancel] at hcancel'
            cases hgoal'
            cases hresult'
            cases hcancel'
            exact h
        rw [hclean]
        rcases hq : p.revokeServices
          [goal.serviceName, result.serviceName, cancel.serviceName] with ⟨b, q⟩
        rcases b
        · exact Iff.rfl
        · simp
      · next hlocks =>
        refine iff_of_true (fun _ => .refl _) ?_
        rintro a' goal result cancel rfl - - hgoal hresult hcancel
        exact absurd hcancel (hlocks goal result cancel hgoal hresult)
    · refine iff_of_true ?_ ?_
      · rcases hserver : a.enablerAsServer
        · exact fun _ => .refl _
        · have hx : a.externalServer = true := by simpa [hserver] using hserved
          simp [hx]
      · rintro a' goal result cancel rfl hserver hx
        exact absurd ⟨hserver, hx⟩ hserved

lemma allOrNothing_iff (op : ParticipantOp) (hfresh : s.participant.Fresh) :
    AllOrNothing s op ↔ FailsCleanly s op := by
  cases op with
  | announceAction env actionName protocol =>
    by_cases hprotocol : protocol = .ros2
    · subst hprotocol
      simp only [FailsCleanly, forall_const]
      exact announceAction_allOrNothing hfresh
    · refine iff_of_true (fun _ => ?_) fun h => absurd h hprotocol
      simp only [step]
      unfold DdsEnabler.announceAction
      rw [if_pos hprotocol]
      exact .refl _
  | revokeAction actionName => exact revokeAction_allOrNothing
  | publish env topicName json => exact Iff.rfl
  | announceService env serviceName protocol => exact Iff.rfl
  | revokeService serviceName => exact Iff.rfl
  | createReader env topic => exact Iff.rfl
  | elsewhere handler => exact Iff.rfl

/-- **Actions are announced and revoked all or nothing** in a run if and only if the announcements
that fail find nothing to erase and fail before anything is simulated, and the revocations that fail
find that the goal service cannot be revoked. -/
theorem all_or_nothing_iff (handler : Handler) (w : List ParticipantOp) :
    Along step AllOrNothing (start handler) w ↔ Along step FailsCleanly (start handler) w :=
  along_iff_of_inv (I := fun s : State => s.participant.Fresh) (G := fun _ _ => True)
    (fun _ op hs _ _ => fresh_step op hs) (fun _ op hs _ => allOrNothing_iff op hs)
    (fresh_start handler) (along_of_forall (fun _ _ => trivial) _ _)

open ActionServers (actionEnv)

/-- The reader for the goal service is created in time, and no other. -/
def goalOnlyEnv : Env :=
  { actionEnv with
    readerCreated := fun topic => topic.topicName = "rq/fibonacci/_action/send_goalRequest".toList }

/-- An action whose cancel service gets no reader is not announced, and its goal service stays. -/
theorem goal_service_left :
    ¬ Along step AllOrNothing (start {}) [.announceAction goalOnlyEnv fibonacciAction .ros2] := by
  rintro ⟨h, -⟩
  have hservices := (h rfl).services (partName fibonacciAction .goal)
  have hsome : ((step (start {}) (.announceAction goalOnlyEnv fibonacciAction .ros2)).participant
    |>.services.find (partName fibonacciAction .goal)).isSome := by decide +kernel
  rw [hservices] at hsome
  cases hsome

end ParticipantOp

end DdsEnabler
