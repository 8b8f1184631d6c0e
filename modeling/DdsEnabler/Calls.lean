import DdsEnabler.Parts
import DdsEnabler.Lib.Runs

/-!
The calls that publish, announce and revoke, as steps of one system.

A call looks up the types of what it enters, and then enters it as a `Part`. A topic or a service
whose writer is not created in time leaves its simulated endpoint behind, and every further attempt
simulates another.
-/

namespace DdsEnabler

open Exec Runs Tables RpcInfo

/-! ### What a call does to the participant -/

section Calls

variable {env : Env} {s t : State}

lemma ignores_queryTopic (env : Env) (topicName : Str) : Ignores (queryTopic env topicName) := by
  unfold queryTopic
  split
  · exact Ignores.pure _
  · split
    · exact Ignores.pure _
    · exact ignores_fillTopicStruct env _ _

lemma queryTopic_some {topicName : Str} {topic : DdsTopic}
    (h : (queryTopic env topicName).run s = .ok (some topic) t) :
    t.participant = s.participant ∧ topic.topicName = topicName := by
  refine ⟨(ignores_queryTopic env topicName).participant h, ?_⟩
  unfold queryTopic at h
  split at h
  · cases h
  · split at h
    · cases h
    · exact fillTopicStruct_some env h

lemma keeps_publishSample (env : Env) (topicName typeName : Str) (json : JsonText) :
    Keeps SameParticipant (publishSample env topicName typeName json) := by
  have hemit : Keeps SameParticipant (emit (.published topicName json)) := Keeps.emit fun _ => rfl
  unfold publishSample
  refine (Keeps.readHandler _).bind fun b => Keeps.ite ?_ (Keeps.pure _)
  exact hemit.bind fun _ => Keeps.pure _

lemma publish_run_queried {topicName : Str} {topic : DdsTopic} (json : JsonText)
    (hname : topicName ≠ []) (hf : s.participant.lookupReader topicName = none)
    (hq : (queryTopic env topicName).run s = .ok (some topic) t) :
    (publish env topicName json).run s = (do
      if ← onParticipant (·.enterPart env (.topic topic topicName)) then
        publishSample env topicName topic.typeName json
      else return false).run t := by
  obtain ⟨hp, htopic⟩ := queryTopic_some hq
  have hempty : ¬ topicName.isEmpty = true := by simpa using hname
  unfold publish
  rw [if_neg hempty, run_bind_ok (readParticipant_run s _), hf]
  simp only
  rw [run_bind_ok hq]
  simp only
  rw [run_bind_ok (createTopicWriter_awaited env topic t), run_bind_ok (onParticipant_run t _)]
  have henter : t.participant.enterPart env (.topic topic topicName) =
      (((t.participant.awaited env topic).lookupReader topic.topicName).isSome,
        t.participant.awaited env topic) := by
    simp [Participant.enterPart, hp, hf]
  rw [henter]
  rcases (t.participant.awaited env topic).lookupReader topic.topicName with _ | f
  · rfl
  · rfl

lemma publish_participant_queried {topicName : Str} {topic : DdsTopic} (json : JsonText)
    (hname : topicName ≠ []) (hf : s.participant.lookupReader topicName = none)
    (hq : (queryTopic env topicName).run s = .ok (some topic) t) :
    (after (publish env topicName json) s).participant =
      (s.participant.enterPart env (.topic topic topicName)).2 := by
  unfold after
  rw [publish_run_queried json hname hf hq, ← (queryTopic_some hq).1]
  change (after (_ >>= _) t).participant = _
  rw [after_bind_ok (onParticipant_run t _)]
  exact Keeps.ite (keeps_publishSample env _ _ _) (Keeps.pure _) { t with participant := _ }

lemma publish_cases {P : Participant → Prop} {topicName : Str} (json : JsonText)
    (hsame : P s.participant)
    (henter : ∀ topic t, topicName ≠ [] → s.participant.lookupReader topicName = none →
      (queryTopic env topicName).run s = .ok (some topic) t →
      P (s.participant.enterPart env (.topic topic topicName)).2) :
    P (after (publish env topicName json) s).participant := by
  by_cases hname : topicName = []
  · subst hname
    exact hsame
  · have hempty : ¬ topicName.isEmpty = true := by simpa using hname
    rcases hf : s.participant.lookupReader topicName with _ | f
    · rcases hq : (queryTopic env topicName).run s with ⟨r, t⟩ | ⟨e, t⟩
      · rcases r with _ | topic
        · unfold publish
          rw [if_neg hempty, after_bind_ok (readParticipant_run s _), hf]
          simp only
          rw [after_bind_ok hq]
          exact (ignores_queryTopic env topicName).participant hq ▸ hsame
        · rw [publish_participant_queried json hname hf hq]
          exact henter topic t hname hf hq
      · have hunasked := (ignores_queryTopic env topicName).after s
        rw [after_error hq] at hunasked
        unfold publish
        rw [if_neg hempty, after_bind_ok (readParticipant_run s _), hf]
        simp only
        rw [after_error (run_bind_error hq), hunasked]
        exact hsame
    · unfold publish
      rw [if_neg hempty, after_bind_ok (readParticipant_run s _), hf]
      simp only
      rw [keeps_publishSample env topicName f.1.2 json s]
      exact hsame

lemma announceService_run_queried {serviceName : Str} {protocol : Protocol}
    {service : ServiceDiscovered} (hf : s.participant.services.find serviceName = none)
    (hq : (queryService env { serviceName, protocol } protocol).run s = .ok (some service) t) :
    (announceService env serviceName protocol).run s =
      (onParticipant (·.enterPart env (.service service))).run t := by
  obtain ⟨-, request, reply, -, -, hservice⟩ := queryService_some hq
  have hname : service.serviceName = serviceName := by rw [hservice]; rfl
  rw [← enterPart_service env hname t]
  unfold announceService
  rw [run_bind_ok (readParticipant_run s _), hf]
  simp only
  rw [run_bind_ok hq, map_eq_pure_bind, bind_assoc]
  simp only [EStateM.run_bind]
  rcases (createServiceRequestWriter env service).run t with ⟨r, u⟩ | ⟨e, u⟩
  · rcases r with _ | v
    · rfl
    · simp [insertService]
  · rfl

lemma announceService_cases {P : Participant → Prop} {serviceName : Str} {protocol : Protocol}
    (hsame : P s.participant)
    (hflag : ∀ v, s.participant.services.find serviceName = some v →
      P { s.participant with
        services := s.participant.services.set serviceName { v with enablerAsServer := true } })
    (henter : ∀ service t, s.participant.services.find serviceName = none →
      (queryService env { serviceName, protocol } protocol).run s = .ok (some service) t →
      P (s.participant.enterPart env (.service service)).2) :
    P (after (announceService env serviceName protocol) s).participant := by
  rcases hf : s.participant.services.find serviceName with _ | v
  · have hunasked := (ignores_queryService env { serviceName, protocol } protocol).after s
    rcases hq : (queryService env { serviceName, protocol } protocol).run s with
      ⟨r, t⟩ | ⟨e, t⟩
    · rw [after_ok hq] at hunasked
      rcases r with _ | service
      · unfold announceService
        rw [after_bind_ok (readParticipant_run s _), hf]
        simp only
        rw [after_bind_ok hq]
        exact hunasked ▸ hsame
      · have hafter := announceService_run_queried hf hq
        rw [onParticipant_run] at hafter
        rw [after_ok hafter, hunasked]
        exact henter service t hf hq
    · rw [after_error hq] at hunasked
      unfold announceService
      rw [after_bind_ok (readParticipant_run s _), hf]
      simp only
      rw [after_error (run_bind_error hq), hunasked]
      exact hsame
  · have hrun := @announceService_run_found env serviceName protocol s v hf
    split at hrun
    · rw [after_ok hrun]
      exact hsame
    · rw [after_ok hrun]
      exact hflag v hf

end Calls

/-! ### Announcing an action -/

/-- What the user tells of an action. -/
def Env.actionInfo (env : Env) (actionName : Str) : Option ActionInfo :=
  env.callbacks.actionQuery.bind fun query => query actionName

/-- The participant without a service. -/
def Participant.without (p : Participant) (name : Str) : Participant :=
  if (p.services.find name).isSome then { p with services := p.services.erase name } else p

/-- The participant without the services of an action. -/
def Participant.withoutParts (p : Participant) (actionName : Str) : Participant :=
  ((p.without (partName actionName .goal)).without (partName actionName .cancel)).without
    (partName actionName .result)

section Without

variable (p : Participant) (name name' : Str)

lemma find_without :
    (p.without name).services.find name' =
      if name' = name then none else p.services.find name' := by
  unfold Participant.without
  by_cases h : (p.services.find name).isSome
  · rw [if_pos h, ServiceMap.find_erase]
  · rw [if_neg h]
    by_cases hname : name' = name
    · simpa [hname] using h
    · rw [if_neg hname]

@[simp] lemma without_actions : (p.without name).actions = p.actions := by
  unfold Participant.without
  split <;> rfl

@[simp] lemma without_readers : (p.without name).readers = p.readers := by
  unfold Participant.without
  split <;> rfl

@[simp] lemma without_endpoints : (p.without name).endpoints = p.endpoints := by
  unfold Participant.without
  split <;> rfl

@[simp] lemma without_nextGuid : (p.without name).nextGuid = p.nextGuid := by
  unfold Participant.without
  split <;> rfl

lemma find_withoutParts_part (actionName : Str) {t : ActionType} (ht : isServicePart t) :
    (p.withoutParts actionName).services.find (partName actionName t) = none := by
  simp only [Participant.withoutParts, find_without]
  cases t with
  | goal => simp
  | result => simp
  | cancel => simp
  | none => cases ht
  | feedback => cases ht
  | status => cases ht

lemma find_withoutParts_other {actionName : Str}
    (h : ∀ t, isServicePart t → name ≠ partName actionName t) :
    (p.withoutParts actionName).services.find name = p.services.find name := by
  simp only [Participant.withoutParts, find_without]
  rw [if_neg (h .result rfl), if_neg (h .cancel rfl), if_neg (h .goal rfl)]

@[simp] lemma withoutParts_actions (actionName : Str) :
    (p.withoutParts actionName).actions = p.actions := by simp [Participant.withoutParts]

@[simp] lemma withoutParts_readers (actionName : Str) :
    (p.withoutParts actionName).readers = p.readers := by simp [Participant.withoutParts]

@[simp] lemma withoutParts_endpoints (actionName : Str) :
    (p.withoutParts actionName).endpoints = p.endpoints := by simp [Participant.withoutParts]

@[simp] lemma withoutParts_nextGuid (actionName : Str) :
    (p.withoutParts actionName).nextGuid = p.nextGuid := by simp [Participant.withoutParts]

variable {actionName : Str} in
lemma lookupReader_withoutParts :
    (p.withoutParts actionName).lookupReader name = p.lookupReader name := by
  simp [Participant.lookupReader]

end Without

section Actions

variable {env : Env} {actionName : Str} {s t : State}

lemma announceNewAction_unanswered (h : env.actionInfo actionName = none) (s : State) :
    (announceNewAction env actionName .ros2).run s = .ok false s := by
  unfold announceNewAction queryAction
  unfold Env.actionInfo at h
  rcases hquery : env.callbacks.actionQuery with _ | query
  · rfl
  · rw [hquery, Option.bind_some] at h
    simp only [h]
    rfl

lemma queryAction_answered {info : ActionInfo} (h : env.actionInfo actionName = some info) :
    (queryAction env { actionName, protocol := .ros2 } .ros2).run s =
      (queryActionParts env info { actionName, protocol := .ros2 } .ros2).run
        { s with participant := s.participant.withoutParts actionName } := by
  obtain ⟨query, hquery, hinfo⟩ := Option.bind_eq_some_iff.mp h
  unfold queryAction
  simp only [hquery, hinfo]
  rfl

lemma announceNewAction_answered {info : ActionInfo} (h : env.actionInfo actionName = some info) :
    (∀ b, (announceParts env info actionName announcedParts).run
        { s with participant := s.participant.withoutParts actionName } = .ok b t →
      ∃ a, (announceNewAction env actionName .ros2).run s = .ok b { t with
        participant := if b then t.participant.setAction actionName a else t.participant }) ∧
    ∀ e, (announceParts env info actionName announcedParts).run
        { s with participant := s.participant.withoutParts actionName } = .error e t →
      (announceNewAction env actionName .ros2).run s = .error e t := by
  have hquery := queryAction_answered (s := s) h
  unfold announceNewAction
  rw [← isSome_queryActionParts, map_eq_pure_bind, EStateM.run_bind]
  rcases hparts : (queryActionParts env info { actionName, protocol := .ros2 } .ros2).run
    { s with participant := s.participant.withoutParts actionName } with ⟨r, u⟩ | ⟨e, u⟩
  · rw [hparts] at hquery
    rw [run_bind_ok hquery]
    refine ⟨fun b hok => ?_, fun e herror => ?_⟩
    · rcases r with _ | a
      · cases hok
        exact ⟨{ actionName, protocol := .ros2 }, rfl⟩
      · cases hok
        exact ⟨a, rfl⟩
    · cases herror
  · rw [hparts] at hquery
    rw [run_bind_error hquery]
    refine ⟨fun b hok => ?_, fun e' herror => ?_⟩
    · cases hok
    · cases herror
      rfl

lemma announceAction_run_new (h : s.participant.actions.lookup actionName = none) :
    (announceAction env actionName .ros2).run s =
      (announceNewAction env actionName .ros2).run s := by
  unfold announceAction
  rw [if_neg (by simp), run_bind_ok (readParticipant_run s id)]
  simp only [id_eq, h]

lemma announceAction_run_served {a : ActionDiscovered}
    (h : s.participant.actions.lookup actionName = some a) (ha : a.enablerAsServer = true) :
    (announceAction env actionName .ros2).run s = .ok false s := by
  unfold announceAction
  rw [if_neg (by simp), run_bind_ok (readParticipant_run s id)]
  simp only [id_eq, h, ha, if_true]
  rfl

variable (env) in
lemma announceAction_run_valid {a : ActionDiscovered}
    (h : s.participant.actions.lookup actionName = some a) (ha : a.enablerAsServer = false)
    (hservices : s.participant.HasServices a) : ∃ goal result cancel,
      s.participant.services.lock a.goal = some goal ∧
      s.participant.services.lock a.result = some result ∧
      s.participant.services.lock a.cancel = some cancel ∧
      (announceAction env actionName .ros2).run s = .ok true { s with
        participant := s.participant.reannounce actionName a goal result cancel } := by
  obtain ⟨hgoal, hresult, hcancel⟩ := hservices
  obtain ⟨goal, hgoal⟩ := Option.isSome_iff_exists.mp hgoal
  obtain ⟨result, hresult⟩ := Option.isSome_iff_exists.mp hresult
  obtain ⟨cancel, hcancel⟩ := Option.isSome_iff_exists.mp hcancel
  refine ⟨goal, result, cancel, hgoal, hresult, hcancel, ?_⟩
  unfold announceAction
  rw [if_neg (by simp), run_bind_ok (readParticipant_run s id)]
  simp only [id_eq, h, ha, hgoal, hresult, hcancel]
  rfl

lemma announceAction_run_lost {a : ActionDiscovered}
    (h : s.participant.actions.lookup actionName = some a) (ha : a.enablerAsServer = false)
    (hservices : ¬ s.participant.HasServices a) :
    (announceAction env actionName .ros2).run s =
      (announceNewAction env actionName .ros2).run { s with
        participant := { s.participant with
          actions := s.participant.actions.erase actionName } } := by
  unfold announceAction
  rw [if_neg (by simp), run_bind_ok (readParticipant_run s id)]
  simp only [id_eq, h, ha, Bool.false_eq_true, if_false]
  split
  · next goal result cancel hgoal hresult hcancel =>
    exact absurd ⟨by simp [hgoal], by simp [hresult], by simp [hcancel]⟩ hservices
  · rfl

lemma participant_announceNewAction {info : ActionInfo}
    (h : env.actionInfo actionName = some info) (s : State) : ∃ actions,
    (after (announceNewAction env actionName .ros2) s).participant =
      { (after (announceParts env info actionName announcedParts)
        { s with participant := s.participant.withoutParts actionName }).participant with
          actions } := by
  rcases hparts : (announceParts env info actionName announcedParts).run
    { s with participant := s.participant.withoutParts actionName } with ⟨b, t⟩ | ⟨e, t⟩
  · obtain ⟨a, hrun⟩ := (announceNewAction_answered h).1 b hparts
    rw [after_ok hparts, after_ok hrun]
    cases b with
    | false => exact ⟨t.participant.actions, rfl⟩
    | true => exact ⟨t.participant.actions.insert actionName a, rfl⟩
  · rw [after_error hparts, after_error ((announceNewAction_answered h).2 e hparts)]
    exact ⟨t.participant.actions, rfl⟩

/-- The action is announced anew: it is not there, or it is not served and has lost a service. -/
def Participant.AnnouncesAnew (p : Participant) (actionName : Str) : Prop :=
  ∀ a, p.actions.lookup actionName = some a → a.enablerAsServer = false ∧ ¬ p.HasServices a

lemma announceAction_run_anew (h : s.participant.AnnouncesAnew actionName)
    (env : Env) :
    (announceAction env actionName .ros2).run s = (announceNewAction env actionName .ros2).run
      { s with participant := { s.participant with
        actions := s.participant.actions.erase actionName } } := by
  rcases hlookup : s.participant.actions.lookup actionName with _ | a
  · have hsame : s.participant.actions.erase actionName = s.participant.actions :=
      AList.ext (List.kerase_of_notMem_keys (AList.lookup_eq_none.mp hlookup))
    rw [announceAction_run_new hlookup, hsame]
  · obtain ⟨hserver, hservices⟩ := h a hlookup
    exact announceAction_run_lost hlookup hserver hservices

end Actions

lemma announceParts_inv {env : Env} {info : ActionInfo} {actionName : Str} {I : Participant → Prop}
    {l : List ActionType}
    (henter : ∀ t ∈ l, ∀ u u' part, (findPart env info actionName t).run u = .ok (some part) u' →
      I u.participant → I (u.participant.enterPart env part).2) {s : State}
    (hs : I s.participant) :
    I (after (announceParts env info actionName l) s).participant := by
  induction l generalizing s with
  | nil => exact hs
  | cons t l ih =>
    have hfound := (ignores_findPart env info actionName t).after s
    have hpart : I (after (announcePart env info actionName t) s).participant := by
      unfold announcePart
      rcases hrun : (findPart env info actionName t).run s with ⟨r, u⟩ | ⟨e, u⟩
      · rw [after_ok hrun] at hfound
        rw [after_bind_ok hrun]
        rcases r with _ | part
        · exact hfound ▸ hs
        · rw [after_ok (onParticipant_run u _)]
          exact hfound ▸ henter t List.mem_cons_self s u part hrun hs
      · rw [after_error hrun] at hfound
        rw [after_error (run_bind_error hrun), hfound]
        exact hs
    unfold announceParts
    refine after_bind (P := fun t => I t.participant) (fun e u hrun => after_error hrun ▸ hpart)
      fun b u hrun => ?_
    have hu : I u.participant := after_ok hrun ▸ hpart
    rcases b
    · exact hu
    · exact ih (fun t ht => henter t (List.mem_cons_of_mem _ ht)) hu

/-! ### Guids -/

/-- The endpoints that are simulated have new guids. -/
structure Participant.Appends (p p' : Participant) : Prop where
  counts : p.nextGuid ≤ p'.nextGuid
  endpoints : ∃ new, p'.endpoints = p.endpoints ++ new ∧
    ∀ e ∈ new, p.nextGuid ≤ e.guid ∧ e.guid < p'.nextGuid

/-- Guids are drawn only once. -/
def Participant.Fresh (p : Participant) : Prop := ∀ e ∈ p.endpoints, e.guid < p.nextGuid

section Guids

variable {p p' p'' : Participant}

lemma Participant.Appends.same (hguid : p'.nextGuid = p.nextGuid)
    (hends : p'.endpoints = p.endpoints) : p.Appends p' :=
  ⟨hguid.ge, [], by simp [hends], by simp⟩

lemma Participant.Appends.trans (h : p.Appends p') (h' : p'.Appends p'') : p.Appends p'' := by
  obtain ⟨hcount, new, hnew, hguids⟩ := h
  obtain ⟨hcount', new', hnew', hguids'⟩ := h'
  refine ⟨hcount.trans hcount', new ++ new', by rw [hnew', hnew, List.append_assoc], ?_⟩
  intro e he
  rcases List.mem_append.mp he with he | he
  · obtain ⟨hlow, hhigh⟩ := hguids e he
    omega
  · obtain ⟨hlow, hhigh⟩ := hguids' e he
    omega

lemma Participant.Appends.mem (h : p.Appends p') {e : Endpoint} (he : e ∈ p.endpoints) :
    e ∈ p'.endpoints := by
  obtain ⟨-, new, hnew, -⟩ := h
  rw [hnew]
  exact List.mem_append_left _ he

lemma Participant.Appends.fresh (h : p.Appends p') (hp : p.Fresh) : p'.Fresh := by
  obtain ⟨hcount, new, hnew, hguids⟩ := h
  intro e he
  rw [hnew] at he
  rcases List.mem_append.mp he with he | he
  · have hlow := hp e he
    omega
  · exact (hguids e he).2

lemma appends_simulateEndpoint (p : Participant) (topic : DdsTopic) :
    p.Appends (p.simulateEndpoint topic).2 :=
  ⟨Nat.le_succ _, [_], rfl, by simp [Participant.simulateEndpoint]⟩

lemma appends_enterPart (p : Participant) (env : Env) (part : Part) :
    p.Appends (p.enterPart env part).2 := by
  have hawaited : ∀ topic, p.Appends (p.awaited env topic) := fun topic =>
    ⟨by simp, [_], awaited_endpoints p env topic, by simp⟩
  cases part with
  | service v =>
    simp only [Participant.enterPart]
    split
    · exact .same rfl rfl
    · split
      · exact (appends_simulateEndpoint p v.topicRequest).trans (.same rfl rfl)
      · exact appends_simulateEndpoint p _
  | topic topic lookedUp =>
    simp only [Participant.enterPart]
    split
    · exact .same rfl rfl
    · exact hawaited topic

/-- A part without a reader gets an endpoint, whether it is entered or not. -/
lemma endpoints_enterPart (env : Env) {part : Part} (hf : p.lookupReader part.lookedUp = none) :
    (p.enterPart env part).2.endpoints = p.endpoints ++ [⟨part.awaited, p.nextGuid⟩] := by
  cases part with
  | service v =>
    have hreader : p.lookupReader v.topicRequest.topicName = none := hf
    by_cases hc : env.CreatesReader v.topicRequest
    · simp only [Participant.enterPart, hreader, hc, Option.isSome_none, Bool.false_eq_true,
        if_false, if_true]
      rfl
    · simp only [Participant.enterPart, hreader, hc, Option.isSome_none, Bool.false_eq_true,
        if_false]
      rfl
  | topic t lookedUp =>
    have hreader : p.lookupReader lookedUp = none := hf
    simp only [Participant.enterPart, hreader, Option.isSome_none, Bool.false_eq_true, if_false]
    exact awaited_endpoints p env t

lemma enterPart_found (env : Env) {part : Part} (hf : p.lookupReader part.lookedUp ≠ none) :
    (p.enterPart env part).2 = p := by
  have hsome := Option.isSome_iff_ne_none.mpr hf
  cases part with
  | service v => exact congrArg Prod.snd (if_pos hsome)
  | topic t lookedUp => exact congrArg Prod.snd (if_pos hsome)

lemma appends_announceParts (env : Env) (info : ActionInfo) (actionName : Str)
    (l : List ActionType) (s : State) :
    s.participant.Appends (after (announceParts env info actionName l) s).participant :=
  announceParts_inv (I := s.participant.Appends)
    (fun _ _ u _ part _ hu => hu.trans (appends_enterPart u.participant env part)) (.same rfl rfl)

lemma appends_announceNewAction (env : Env) (actionName : Str) (s : State) :
    s.participant.Appends (after (announceNewAction env actionName .ros2) s).participant := by
  rcases hinfo : env.actionInfo actionName with _ | info
  · rw [after_ok (announceNewAction_unanswered hinfo s)]
    exact .same rfl rfl
  · obtain ⟨actions, hafter⟩ := participant_announceNewAction hinfo s
    have hwithout : s.participant.Appends (s.participant.withoutParts actionName) :=
      .same (by simp) (by simp)
    have hparts := appends_announceParts env info actionName announcedParts
      { s with participant := s.participant.withoutParts actionName }
    rw [hafter]
    exact (hwithout.trans hparts).trans (.same rfl rfl)

lemma appends_announceAction (env : Env) (actionName : Str) (protocol : Protocol) (s : State) :
    s.participant.Appends (after (announceAction env actionName protocol) s).participant := by
  by_cases hprotocol : protocol = .ros2
  · subst hprotocol
    rcases hlookup : s.participant.actions.lookup actionName with _ | a
    · rw [after_congr (announceAction_run_new hlookup)]
      exact appends_announceNewAction env actionName s
    · rcases hserver : a.enablerAsServer
      · by_cases hservices : s.participant.HasServices a
        · obtain ⟨goal, result, cancel, -, -, -, hrun⟩ :=
            announceAction_run_valid env hlookup hserver hservices
          rw [after_ok hrun]
          exact .same rfl rfl
        · rw [after_congr (announceAction_run_lost hlookup hserver hservices)]
          have hnew := appends_announceNewAction env actionName { s with
            participant := { s.participant with
              actions := s.participant.actions.erase actionName } }
          exact ⟨hnew.counts, hnew.endpoints⟩
      · rw [after_ok (announceAction_run_served hlookup hserver)]
        exact .same rfl rfl
  · unfold announceAction
    rw [if_pos hprotocol]
    exact .same rfl rfl

/-- A revocation takes endpoints away at most. -/
structure Participant.Sheds (p p' : Participant) : Prop where
  guid : p'.nextGuid = p.nextGuid
  endpoints : ∀ e ∈ p'.endpoints, e ∈ p.endpoints

lemma sheds_revokeServiceNts (p : Participant) (name : Str) :
    p.Sheds (p.revokeServiceNts name).2 := by
  unfold Participant.revokeServiceNts
  split
  · exact ⟨rfl, fun _ he => he⟩
  · split
    · split
      · exact ⟨rfl, fun _ he => he⟩
      · unfold Participant.dismantle
        extract_lets p'
        split
        · exact ⟨rfl, fun _ he => (List.mem_filter.mp he).1⟩
        · exact ⟨rfl, fun _ he => (List.mem_filter.mp he).1⟩
    · exact ⟨rfl, fun _ he => he⟩

lemma sheds_revokeServices (p : Participant) (names : List Str) :
    p.Sheds (p.revokeServices names).2 := by
  induction names generalizing p with
  | nil => exact ⟨rfl, fun _ he => he⟩
  | cons name names ih =>
    have hfirst := sheds_revokeServiceNts p name
    unfold Participant.revokeServices
    rcases hq : p.revokeServiceNts name with ⟨b, q⟩
    rw [hq] at hfirst
    rcases b
    · exact hfirst
    · have hrest := ih q
      exact ⟨hrest.guid.trans hfirst.guid, fun e he => hfirst.endpoints e (hrest.endpoints e he)⟩

lemma sheds_revokeAction (p : Participant) (actionName : Str) :
    p.Sheds (p.revokeAction actionName).2 := by
  unfold Participant.revokeAction
  split
  · exact ⟨rfl, fun _ he => he⟩
  · split
    · exact ⟨rfl, fun _ he => he⟩
    · split
      · exact ⟨rfl, fun _ he => he⟩
      · split
        · next goal result cancel _ _ _ =>
          have hrest := sheds_revokeServices p
            [goal.serviceName, result.serviceName, cancel.serviceName]
          rcases hq : p.revokeServices
            [goal.serviceName, result.serviceName, cancel.serviceName] with ⟨b, q⟩
          rw [hq] at hrest
          rcases b
          · exact hrest
          · exact ⟨hrest.guid, hrest.endpoints⟩
        · exact ⟨rfl, fun _ he => he⟩

lemma endpoints_createReader (env : Env) (topic : DdsTopic) (s : State) :
    (after (createReader env topic) s).participant.endpoints = s.participant.endpoints ∧
      (after (createReader env topic) s).participant.nextGuid = s.participant.nextGuid := by
  obtain ⟨q, readers, hq, hafter⟩ := entered_createReader topic env s
  obtain ⟨hends, hguid⟩ := endpoints_entered hq
  rw [hafter]
  exact ⟨hends, hguid⟩

lemma Participant.Sheds.fresh (h : p.Sheds p') (hp : p.Fresh) : p'.Fresh := by
  intro e he
  rw [h.guid]
  exact hp e (h.endpoints e he)

end Guids

/-! ### The system -/

/-- The calls that publish, announce and revoke, the discovery of topics, and whatever else
happens, which is about the handler. -/
inductive ParticipantOp
  | publish (env : Env) (topicName : Str) (json : JsonText)
  | announceService (env : Env) (serviceName : Str) (protocol : Protocol)
  | announceAction (env : Env) (actionName : Str) (protocol : Protocol)
  | revokeService (serviceName : Str)
  | revokeAction (actionName : Str)
  | createReader (env : Env) (topic : DdsTopic)
  | elsewhere (handler : Handler)

namespace ParticipantOp

def step (s : State) : ParticipantOp → State
  | .publish env topicName json => after (DdsEnabler.publish env topicName json) s
  | .announceService env serviceName protocol =>
    after (DdsEnabler.announceService env serviceName protocol) s
  | .announceAction env actionName protocol =>
    after (DdsEnabler.announceAction env actionName protocol) s
  | .revokeService serviceName => after (DdsEnabler.revokeService serviceName) s
  | .revokeAction actionName => after (DdsEnabler.revokeAction actionName) s
  | .createReader env topic => after (DdsEnabler.createReader env topic) s
  | .elsewhere handler => { s with handler }

/-- An enabler that has not been asked for anything. -/
def start (handler : Handler) : State := { handler }

lemma fresh_step {s : State} (op : ParticipantOp) (h : s.participant.Fresh) :
    (step s op).participant.Fresh := by
  cases op with
  | publish env topicName json =>
    exact publish_cases json h fun topic t _ _ _ => (appends_enterPart _ env _).fresh h
  | announceService env serviceName protocol =>
    exact announceService_cases h (fun _ _ => h) fun v t _ _ => (appends_enterPart _ env _).fresh h
  | announceAction env actionName protocol =>
    exact (appends_announceAction env actionName protocol s).fresh h
  | revokeService serviceName => exact (sheds_revokeServiceNts s.participant serviceName).fresh h
  | revokeAction actionName => exact (sheds_revokeAction s.participant actionName).fresh h
  | createReader env topic =>
    obtain ⟨hends, hguid⟩ := endpoints_createReader env topic s
    exact (Participant.Appends.same hguid hends).fresh h
  | elsewhere handler => exact h

lemma fresh_start (handler : Handler) : (start handler).participant.Fresh :=
  fun _ he => absurd he (List.not_mem_nil)

end ParticipantOp

end DdsEnabler
