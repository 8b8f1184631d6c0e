import DdsEnabler.Servers
import DdsEnabler.Lib.Registries
import DdsEnabler.Lib.Runs

/-!
The actions that the enabler serves, as a registry of names.

An announced action is three services and two topics. A revocation dismantles the services, but
they stay in the map and the action keeps its pointers to them; a second announcement finds the
pointers valid and sets flags only. So the answers are those of a registry, with a live server
behind every announced action, until an action that was revoked is announced again.
-/

namespace DdsEnabler

open Exec Runs Registries Tables RpcInfo

/-! ### Names of the parts -/

/-- The name of a service of an action. -/
def partName (actionName : Str) (t : ActionType) : Str := actionName ++ partSuffix t

/-- The topics that an action server writes on: the requests of its services, the feedback and
the status. -/
def partTopic (actionName : Str) (t : ActionType) : Str :=
  if isServicePart t then rosRequestPrefix ++ partName actionName t ++ rosRequestSuffix
  else rosTopicPrefix ++ actionName ++ partSuffix t

section Names

variable {a a' : Str} {t t' : ActionType}

lemma partName_inj (ht : isServicePart t) (ht' : isServicePart t')
    (h : partName a t = partName a' t') : a = a' ∧ t = t' := by
  have hpart := actionPart_append a ht
  rw [show a ++ partSuffix t = a' ++ partSuffix t' from h, actionPart_append a' ht'] at hpart
  cases hpart
  exact ⟨rfl, rfl⟩

lemma partName_ne (ht : isServicePart t) (ht' : isServicePart t') (hne : t ≠ t') :
    partName a t ≠ partName a t' := fun h => hne (partName_inj ht ht' h).2

lemma append_suffix_inj (ht : t = .feedback ∨ t = .status) (ht' : t' = .feedback ∨ t' = .status)
    (h : a ++ partSuffix t = a' ++ partSuffix t') : a = a' ∧ t = t' := by
  have hne : ∀ b b' : Str, b ++ actionFeedbackSuffix ≠ b' ++ actionStatusSuffix := by
    intro b b' hbb
    have hnot : actionStatusSuffix.isSuffixOf (b ++ actionFeedbackSuffix) = false :=
      isSuffixOf_append_of_not (by decide) (by decide)
    rw [hbb, isSuffixOf_append_self] at hnot
    cases hnot
  rcases ht with rfl | rfl <;> rcases ht' with rfl | rfl
  · exact ⟨List.append_cancel_right h, rfl⟩
  · exact absurd h (hne a a')
  · exact absurd h.symm (hne a' a)
  · exact ⟨List.append_cancel_right h, rfl⟩

lemma topicPart_of_not (ht : isServicePart t = false) (hnone : t ≠ .none) :
    t = .feedback ∨ t = .status := by
  cases t <;> simp_all [isServicePart]

lemma partTopic_inj (ht : t ≠ .none) (ht' : t' ≠ .none) (h : partTopic a t = partTopic a' t') :
    a = a' ∧ t = t' := by
  unfold partTopic at h
  rcases hs : isServicePart t <;> rcases hs' : isServicePart t'
  · rw [hs, hs'] at h
    simp only [Bool.false_eq_true, if_false, List.append_assoc] at h
    exact append_suffix_inj (topicPart_of_not hs ht) (topicPart_of_not hs' ht')
      (List.append_cancel_left h)
  · rw [hs, hs'] at h
    simp [rosTopicPrefix, rosRequestPrefix] at h
  · rw [hs, hs'] at h
    simp [rosTopicPrefix, rosRequestPrefix] at h
  · rw [hs, hs'] at h
    simp only [if_true] at h
    exact partName_inj hs hs' (List.append_cancel_left (List.append_cancel_right h))

lemma partTopic_ne_nil : partTopic a t ≠ [] := by
  unfold partTopic
  split
  · simp [rosRequestPrefix]
  · simp [rosTopicPrefix]

lemma requestTopic_partName (ht : isServicePart t) :
    requestTopic .ros2 (partName a t) = some (partTopic a t) := by
  simp [requestTopic, partTopic, ht]

end Names

/-! ### The announcement of a new action -/

/-- What the queries for an action find. -/
structure ActionParts where
  goal : ServiceDiscovered
  cancel : ServiceDiscovered
  result : ServiceDiscovered
  feedback : DdsTopic
  status : DdsTopic

/-- A service that the enabler is about to serve as a part of an action. -/
structure IsPart (env : Env) (actionName : Str) (t : ActionType) (v : ServiceDiscovered) :
    Prop where
  name : v.serviceName = partName actionName t
  topic : v.topicRequest.topicName = partTopic actionName t
  complete : v.fullyDiscovered = true
  server : v.enablerAsServer = true
  external : v.externalServer = false
  creates : env.CreatesReader v.topicRequest

/-- The query for a service of an action is answered, and a reader will be created for it. -/
def FindsService (env : Env) (info : ServiceInfo) (actionName : Str) (t : ActionType)
    (s s' : State) (v : ServiceDiscovered) : Prop :=
  (fillServiceType env info { serviceName := partName actionName t, protocol := .ros2 } .ros2).run
    s = .ok (some v) s' ∧ env.CreatesReader v.topicRequest

/-- The query for a topic of an action is answered, and a reader will be created for it. -/
def FindsTopic (env : Env) (info : TopicInfo) (actionName : Str) (t : ActionType) (s s' : State)
    (topic : DdsTopic) : Prop :=
  (fillTopicStruct env (partTopic actionName t) info).run s = .ok (some topic) s' ∧
    env.CreatesReader topic

/-- All queries for an action are answered, in their order. -/
def FindsParts (env : Env) (actionName : Str) (s t : State) (q : ActionParts) : Prop :=
  ∃ query info s1 s2 s3 s4, env.callbacks.actionQuery = some query ∧ query actionName = some info ∧
    FindsService env info.goal actionName .goal s s1 q.goal ∧
    FindsService env info.cancel actionName .cancel s1 s2 q.cancel ∧
    FindsService env info.result actionName .result s2 s3 q.result ∧
    FindsTopic env info.feedback actionName .feedback s3 s4 q.feedback ∧
    FindsTopic env info.status actionName .status s4 t q.status

section Announce

variable {env : Env} {actionName : Str} {t : ActionType} {s s' : State}

lemma FindsService.isPart {info : ServiceInfo} {v : ServiceDiscovered} (ht : isServicePart t)
    (h : FindsService env info actionName t s s' v) : IsPart env actionName t v := by
  obtain ⟨hrun, hc⟩ := h
  obtain ⟨request, reply, hreq, -, rfl⟩ := fillServiceType_some hrun
  rw [requestTopic_partName ht] at hreq
  exact ⟨rfl, (Option.some.inj hreq).symm, rfl, rfl, rfl, hc⟩

lemma announceActionService_run {info : ServiceInfo} {v : ServiceDiscovered}
    (ht : isServicePart t) (h : FindsService env info actionName t s s' v) (p : Participant)
    (hp : p.lookupReader (partTopic actionName t) = none) :
    (announceActionService env info (partName actionName t) .ros2).run { s with participant := p } =
      .ok (some ((p.served env v).services.weak (partName actionName t)))
        { s' with participant := p.served env v } := by
  have hpart := h.isPart ht
  have hrun := (ignores_fillServiceType env info
    { serviceName := partName actionName t, protocol := .ros2 } .ros2).run h.1 p
  unfold announceActionService
  rw [run_bind_ok hrun]
  have hreader : ({ s' with participant := p } : State).participant.lookupReader
      v.topicRequest.topicName = none := by rw [hpart.topic]; exact hp
  simp only
  rw [run_bind_ok (createServiceRequestWriter_run_none h.2 hreader)]
  simp [insertService, Participant.served, hpart.name]

lemma announceActionTopic_run {info : TopicInfo} {topic : DdsTopic}
    (h : FindsTopic env info actionName t s s' topic) (p : Participant) {lookedUp : Str}
    (hp : p.lookupReader lookedUp = none) :
    (announceActionTopic env info (partTopic actionName t) lookedUp).run
        { s with participant := p } =
      .ok (some topic) { s' with participant := p.withWriter env topic } := by
  have hrun := (ignores_fillTopicStruct env (partTopic actionName t) info).run h.1 p
  obtain ⟨f, hfound⟩ := withWriter_found p env topic
  unfold announceActionTopic
  rw [run_bind_ok hrun]
  simp only
  rw [EStateM.run_bind, readParticipant_run]
  simp only [hp]
  rw [run_bind_ok (createTopicWriter_run h.2 _), hfound]
  rfl

/-- The participant with the servers and the writers of an action. -/
def Participant.withParts (p : Participant) (env : Env) (q : ActionParts) : Participant :=
  ((((p.served env q.goal).served env q.cancel).served env q.result).withWriter env
    q.feedback).withWriter env q.status

/-- The action with its parts, as it is announced. -/
def announcedAction (p : Participant) (actionName : Str) (q : ActionParts) : ActionDiscovered :=
  { actionName, protocol := .ros2
    goal := some (p.services.weak (partName actionName .goal))
    result := some (p.services.weak (partName actionName .result))
    cancel := some (p.services.weak (partName actionName .cancel))
    feedback := q.feedback, feedbackDiscovered := true
    status := q.status, statusDiscovered := true
    fullyDiscovered := true, enablerAsServer := true }

/-- The participant with the action announced. -/
def Participant.withAction (p : Participant) (env : Env) (actionName : Str) (q : ActionParts) :
    Participant :=
  (p.withParts env q).setAction actionName (announcedAction (p.withParts env q) actionName q)

lemma lookup_withWriter (p : Participant) (topic : DdsTopic) (k : TopicKey) :
    (p.withWriter env topic).readers.lookup k =
      if k = topic.key then
        some (makeReader env (.ofTopic topic.topicName) { topic with discoverer := env.id })
      else p.readers.lookup k := lookup_setReader _

lemma lookupReader_withWriter {p : Participant} {topic : DdsTopic} {name : Str}
    (hname : topic.topicName ≠ name) (hp : p.lookupReader name = none) :
    (p.withWriter env topic).lookupReader name = none := by
  rw [lookupReader_eq_none] at hp ⊢
  intro k hk
  rw [lookup_withWriter, if_neg, hp k hk]
  rintro rfl
  exact hname hk

lemma weak_served {p : Participant} {v : ServiceDiscovered} {name : Str}
    (hv : IsPart env actionName t v) (hname : name ≠ partName actionName t) :
    (p.served env v).services.weak name = p.services.weak name := by
  have hgen : (p.served env v).services.generation name = p.services.generation name := by
    change (ServiceMap.insertOrAssign _ _ _).generation name = _
    rw [ServiceMap.generation_insertOrAssign, hv.name, if_neg hname]
  simp only [ServiceMap.weak, hgen]

lemma find_served (p : Participant) (v : ServiceDiscovered) (name : Str) :
    (p.served env v).services.find name = if name = v.serviceName then
      some { v with endpointRequest := some (p.simulateEndpoint v.topicRequest).1 }
    else p.services.find name := ServiceMap.find_insertOrAssign ..

lemma lookupReader_served {p : Participant} {v : ServiceDiscovered} {name : Str}
    (hv : IsPart env actionName t v) (hname : partTopic actionName t ≠ name)
    (hp : p.lookupReader name = none) : (p.served env v).lookupReader name = none :=
  lookupReader_withWriter (hv.topic ▸ hname) hp

/-- What is free for a new action: the names of its parts, and the readers of its topics. -/
structure IsFree (p : Participant) (actionName : Str) : Prop where
  action : p.actions.lookup actionName = none
  services : ∀ t, isServicePart t → p.services.find (partName actionName t) = none
  readers : ∀ t, t ≠ .none → p.lookupReader (partTopic actionName t) = none
  /-- The status topic is looked up under the name of a topic not yet filled in. -/
  nameless : p.lookupReader [] = none

lemma eraseService_run {name : Str} {s : State}
    (h : s.participant.services.find name = none) : (eraseService name).run s = .ok () s := by
  simp [eraseService, h]

lemma lookupReader_parts {p : Participant} {q : ActionParts} (hfree : IsFree p actionName)
    (hg : IsPart env actionName .goal q.goal) (hc : IsPart env actionName .cancel q.cancel)
    (hr : IsPart env actionName .result q.result)
    (hf : q.feedback.topicName = partTopic actionName .feedback) :
    (p.served env q.goal).lookupReader (partTopic actionName .cancel) = none ∧
    ((p.served env q.goal).served env q.cancel).lookupReader (partTopic actionName .result) =
      none ∧
    (((p.served env q.goal).served env q.cancel).served env q.result).lookupReader
      (partTopic actionName .feedback) = none ∧
    ((((p.served env q.goal).served env q.cancel).served env q.result).withWriter env
      q.feedback).lookupReader [] = none := by
  have htopic : ∀ {t t' : ActionType}, t ≠ .none → t' ≠ .none → t ≠ t' →
      partTopic actionName t ≠ partTopic actionName t' := by
    intro t t' ht ht' hne heq
    exact hne (partTopic_inj ht ht' heq).2
  refine ⟨?_, ?_, ?_, ?_⟩
  · refine lookupReader_served hg (htopic ?_ ?_ ?_) (hfree.readers .cancel ?_) <;> decide
  · refine lookupReader_served hc (htopic ?_ ?_ ?_)
      (lookupReader_served hg (htopic ?_ ?_ ?_) (hfree.readers .result ?_)) <;> decide
  · refine lookupReader_served hr (htopic ?_ ?_ ?_) (lookupReader_served hc (htopic ?_ ?_ ?_)
      (lookupReader_served hg (htopic ?_ ?_ ?_) (hfree.readers .feedback ?_))) <;> decide
  · exact lookupReader_withWriter (hf ▸ partTopic_ne_nil) (lookupReader_served hr partTopic_ne_nil
      (lookupReader_served hc partTopic_ne_nil
        (lookupReader_served hg partTopic_ne_nil hfree.nameless)))

lemma queryActionParts_run {q : ActionParts} {info : ActionInfo} {s1 s2 s3 s4 : State}
    (hg : FindsService env info.goal actionName .goal s s1 q.goal)
    (hc : FindsService env info.cancel actionName .cancel s1 s2 q.cancel)
    (hr : FindsService env info.result actionName .result s2 s3 q.result)
    (hf : FindsTopic env info.feedback actionName .feedback s3 s4 q.feedback)
    (hst : FindsTopic env info.status actionName .status s4 s' q.status)
    (hfree : IsFree s.participant actionName) :
    (queryActionParts env info { actionName, protocol := .ros2 } .ros2).run s =
      .ok (some (announcedAction (s.participant.withParts env q) actionName q))
        { s' with participant := s.participant.withParts env q } := by
  have hcancel := hc.isPart rfl
  have hresult := hr.isPart rfl
  set p := s.participant with hp
  set p1 := p.served env q.goal with hp1
  set p2 := p1.served env q.cancel with hp2
  set p3 := p2.served env q.result with hp3
  set p4 := p3.withWriter env q.feedback with hp4
  obtain ⟨hc1, hr2, hf3, hn4⟩ :=
    lookupReader_parts hfree (hg.isPart rfl) hcancel hresult (fillTopicStruct_some env hf.1)
  -- the pointers to the first two services are still valid at the end
  have hweakc : p2.services.weak (partName actionName .cancel) =
      p3.services.weak (partName actionName .cancel) :=
    (weak_served hresult (partName_ne rfl rfl (by decide))).symm
  have hweakg : p1.services.weak (partName actionName .goal) =
      p3.services.weak (partName actionName .goal) :=
    ((weak_served hresult (partName_ne rfl rfl (by decide))).trans
      (weak_served hcancel (partName_ne rfl rfl (by decide)))).symm
  -- the names as the source builds them
  have goal : (announceActionService env info.goal (actionName ++ actionGoalSuffix) .ros2).run s =
      .ok (some (p1.services.weak (partName actionName .goal))) { s1 with participant := p1 } :=
    announceActionService_run rfl hg p (hfree.readers .goal (by decide))
  have cancel : (announceActionService env info.cancel (actionName ++ actionCancelSuffix)
      .ros2).run { s1 with participant := p1 } =
      .ok (some (p2.services.weak (partName actionName .cancel))) { s2 with participant := p2 } :=
    announceActionService_run rfl hc p1 hc1
  have result : (announceActionService env info.result (actionName ++ actionResultSuffix)
      .ros2).run { s2 with participant := p2 } =
      .ok (some (p3.services.weak (partName actionName .result))) { s3 with participant := p3 } :=
    announceActionService_run rfl hr p2 hr2
  have feedback : (announceActionTopic env info.feedback
      (rosTopicPrefix ++ actionName ++ actionFeedbackSuffix)
      (rosTopicPrefix ++ actionName ++ actionFeedbackSuffix)).run { s3 with participant := p3 } =
      .ok (some q.feedback) { s4 with participant := p4 } := announceActionTopic_run hf p3 hf3
  have status : (announceActionTopic env info.status
      (rosTopicPrefix ++ actionName ++ actionStatusSuffix) []).run { s4 with participant := p4 } =
      .ok (some q.status) { s' with participant := p4.withWriter env q.status } :=
    announceActionTopic_run hst p4 hn4
  unfold queryActionParts
  simp only
  rw [run_bind_ok goal]
  simp only
  rw [run_bind_ok cancel]
  simp only
  rw [run_bind_ok result]
  simp only [topicPrefix]
  rw [run_bind_ok feedback]
  simp only
  rw [run_bind_ok status, hweakg, hweakc]
  rfl

lemma queryAction_run {q : ActionParts} (h : FindsParts env actionName s s' q)
    (hfree : IsFree s.participant actionName) :
    (queryAction env { actionName, protocol := .ros2 } .ros2).run s =
      .ok (some (announcedAction (s.participant.withParts env q) actionName q))
        { s' with participant := s.participant.withParts env q } := by
  obtain ⟨query, info, s1, s2, s3, s4, hquery, hinfo, hg, hc, hr, hf, hst⟩ := h
  have erase : ∀ (suffix : Str) (t : ActionType), isServicePart t → suffix = partSuffix t →
      (eraseService (actionName ++ suffix)).run s = .ok () s := by
    rintro suffix t ht rfl
    exact eraseService_run (hfree.services t ht)
  unfold queryAction
  simp only [hquery, hinfo]
  rw [run_bind_ok (erase actionGoalSuffix .goal rfl rfl),
    run_bind_ok (erase actionCancelSuffix .cancel rfl rfl),
    run_bind_ok (erase actionResultSuffix .result rfl rfl)]
  exact queryActionParts_run hg hc hr hf hst hfree

/-! What is there once an action has been announced. -/

/-- The endpoints and the readers that were there still are. -/
structure Grows (p p' : Participant) : Prop where
  endpoints : p.endpoints ⊆ p'.endpoints
  readers : ∀ k, (p.readers.lookup k).isSome → (p'.readers.lookup k).isSome

lemma Grows.trans {p p' p'' : Participant} (h : Grows p p') (h' : Grows p' p'') : Grows p p'' :=
  ⟨List.Subset.trans h.endpoints h'.endpoints, fun k hk => h'.readers k (h.readers k hk)⟩

lemma grows_withWriter (p : Participant) (topic : DdsTopic) : Grows p (p.withWriter env topic) where
  endpoints := List.subset_append_left _ _
  readers k hk := by
    rw [lookup_withWriter]
    split
    · rfl
    · exact hk

lemma grows_served (p : Participant) (v : ServiceDiscovered) : Grows p (p.served env v) := by
  have h : Grows p (p.withWriter env v.topicRequest) := grows_withWriter p _
  exact ⟨h.endpoints, h.readers⟩

/-- A server that is live: the service is complete, and it has its endpoint and its reader. -/
def LiveServer (p : Participant) (serviceName : Str) : Prop :=
  ∃ v e, p.services.find serviceName = some v ∧ v.fullyDiscovered = true ∧
    v.enablerAsServer = true ∧ v.endpointRequest = some e ∧ e ∈ p.endpoints ∧
    (p.readers.lookup v.topicRequest.key).isSome

/-- A part of an action, with its server. -/
def ServesPart (env : Env) (p : Participant) (actionName : Str) (t : ActionType) : Prop :=
  ∃ v e, p.services.find (partName actionName t) = some { v with endpointRequest := some e } ∧
    IsPart env actionName t v ∧ e ∈ p.endpoints ∧ (p.readers.lookup v.topicRequest.key).isSome

lemma ServesPart.live {p : Participant} (h : ServesPart env p actionName t) :
    LiveServer p (partName actionName t) := by
  obtain ⟨v, e, hf, hv, he, hr⟩ := h
  exact ⟨_, e, hf, hv.complete, hv.server, rfl, he, hr⟩

lemma servesPart_served (p : Participant) {v : ServiceDiscovered}
    (hv : IsPart env actionName t v) : ServesPart env (p.served env v) actionName t := by
  refine ⟨v, (p.simulateEndpoint v.topicRequest).1, ?_, hv, ?_, ?_⟩
  · rw [find_served, hv.name, if_pos rfl]
  · exact List.mem_append_right _ (List.mem_singleton_self _)
  · change ((p.withWriter env v.topicRequest).readers.lookup _).isSome
    rw [lookup_withWriter, if_pos rfl]
    rfl

lemma ServesPart.mono {p p' : Participant} (h : ServesPart env p actionName t)
    (hgrows : Grows p p') (hf : p'.services.find (partName actionName t) =
      p.services.find (partName actionName t)) : ServesPart env p' actionName t := by
  obtain ⟨v, e, hfind, hv, he, hr⟩ := h
  exact ⟨v, e, hf.trans hfind, hv, hgrows.endpoints he, hgrows.readers _ hr⟩

variable {q : ActionParts}

lemma FindsParts.isPart (h : FindsParts env actionName s s' q) :
    IsPart env actionName .goal q.goal ∧ IsPart env actionName .cancel q.cancel ∧
      IsPart env actionName .result q.result ∧
      q.feedback.topicName = partTopic actionName .feedback ∧
      q.status.topicName = partTopic actionName .status := by
  obtain ⟨query, info, s1, s2, s3, s4, -, -, hg, hc, hr, hf, hst⟩ := h
  exact ⟨hg.isPart rfl, hc.isPart rfl, hr.isPart rfl, fillTopicStruct_some env hf.1,
    fillTopicStruct_some env hst.1⟩

lemma servesPart_withParts (p : Participant) (h : FindsParts env actionName s s' q)
    (ht : isServicePart t) : ServesPart env (p.withParts env q) actionName t := by
  obtain ⟨hgoal, hcancel, hresult, -, -⟩ := h.isPart
  have hne : ∀ {v : ServiceDiscovered} {t' : ActionType} (p : Participant),
      IsPart env actionName t' v → isServicePart t' → t ≠ t' →
      (p.served env v).services.find (partName actionName t) =
        p.services.find (partName actionName t) := by
    intro v t' p hv ht' hne
    rw [find_served, hv.name, if_neg (partName_ne ht ht' hne)]
  have htopics : ∀ p : Participant,
      Grows p ((p.withWriter env q.feedback).withWriter env q.status) :=
    fun p => (grows_withWriter p _).trans (grows_withWriter _ _)
  have hr := htopics (((p.served env q.goal).served env q.cancel).served env q.result)
  cases t with
  | goal =>
    refine (servesPart_served p hgoal).mono
      (((grows_served _ q.cancel).trans (grows_served _ q.result)).trans hr) ?_
    exact (hne _ hresult rfl (by decide)).trans (hne _ hcancel rfl (by decide))
  | cancel =>
    refine (servesPart_served (p.served env q.goal) hcancel).mono
      ((grows_served _ q.result).trans hr) ?_
    exact hne _ hresult rfl (by decide)
  | result =>
    exact (servesPart_served ((p.served env q.goal).served env q.cancel) hresult).mono hr rfl
  | none => cases ht
  | feedback => cases ht
  | status => cases ht

lemma others_withParts (p : Participant) (h : FindsParts env actionName s s' q) {name : Str}
    (hname : ∀ t, isServicePart t → name ≠ partName actionName t) :
    (p.withParts env q).services.find name = p.services.find name ∧
      (p.withParts env q).services.weak name = p.services.weak name := by
  obtain ⟨hgoal, hcancel, hresult, -, -⟩ := h.isPart
  have hfind : ∀ {v : ServiceDiscovered} {t' : ActionType} (p : Participant),
      IsPart env actionName t' v → isServicePart t' →
      (p.served env v).services.find name = p.services.find name := by
    intro v t' p hv ht'
    rw [find_served, hv.name, if_neg (hname t' ht')]
  refine ⟨?_, ?_⟩
  · exact (hfind _ hresult rfl).trans ((hfind _ hcancel rfl).trans (hfind _ hgoal rfl))
  · exact (weak_served hresult (hname _ rfl)).trans
      ((weak_served hcancel (hname _ rfl)).trans (weak_served hgoal (hname _ rfl)))

lemma readers_withParts (p : Participant) (h : FindsParts env actionName s s' q) {k : TopicKey}
    (hk : ((p.withParts env q).readers.lookup k).isSome) :
    (p.readers.lookup k).isSome ∨ ∃ t, t ≠ .none ∧ k.1 = partTopic actionName t := by
  obtain ⟨hgoal, hcancel, hresult, hfeedback, hstatus⟩ := h.isPart
  have hstep : ∀ (p : Participant) (topic : DdsTopic) (t : ActionType), t ≠ .none →
      topic.topicName = partTopic actionName t →
      ((p.withWriter env topic).readers.lookup k).isSome →
      (p.readers.lookup k).isSome ∨ ∃ t, t ≠ .none ∧ k.1 = partTopic actionName t := by
    intro p topic t ht htopic hk
    rw [lookup_withWriter] at hk
    split at hk
    · next heq => exact .inr ⟨t, ht, by rw [heq, ← htopic]; rfl⟩
    · exact .inl hk
  rcases hstep _ _ .status (by decide) hstatus hk with hk | hk
  · rcases hstep _ _ .feedback (by decide) hfeedback hk with hk | hk
    · rcases hstep _ _ .result (by decide) hresult.topic hk with hk | hk
      · rcases hstep _ _ .cancel (by decide) hcancel.topic hk with hk | hk
        · exact hstep _ _ .goal (by decide) hgoal.topic hk
        · exact .inr hk
      · exact .inr hk
    · exact .inr hk
  · exact .inr hk

end Announce

/-! ### The revocation of an action -/

/-- A service that can be revoked: it has the flag and an endpoint. -/
def Revocable (p : Participant) (name : Str) : Prop :=
  ∃ v e, p.services.find name = some v ∧ v.serviceName = name ∧ v.enablerAsServer = true ∧
    v.endpointRequest = some e ∧ v.externalServer = false

/-- A service that has lost its endpoint. -/
def Dismantled (p : Participant) (name : Str) : Prop :=
  ∃ v, p.services.find name = some v ∧ v.serviceName = name ∧ v.endpointRequest = none

lemma Dismantled.not_live {p : Participant} {name : Str} (h : Dismantled p name) :
    ¬ LiveServer p name := by
  rintro ⟨v, e, hf, -, -, he, -⟩
  obtain ⟨v', hf', -, he'⟩ := h
  rw [hf] at hf'
  cases hf'
  rw [he] at he'
  cases he'

/-- What the revocation of some services does. -/
structure Revokes (names : List Str) (p p' : Participant) : Prop where
  actions : p'.actions = p.actions
  weak : ∀ n, p'.services.weak n = p.services.weak n
  others : ∀ n, n ∉ names → p'.services.find n = p.services.find n
  gone : ∀ n ∈ names, Dismantled p' n
  readers : ∀ k, (p'.readers.lookup k).isSome → (p.readers.lookup k).isSome

lemma revokes_dismantle {p : Participant} {name : Str} {v : ServiceDiscovered} (e : Endpoint)
    (hname : v.serviceName = name) : Revokes [name] p (p.dismantle name v e) where
  actions := by
    unfold Participant.dismantle
    extract_lets p'
    split <;> rfl
  weak n := by
    rw [dismantle_services]
    rfl
  others n hn := by
    rw [dismantle_services, ServiceMap.find_set, if_neg (by simpa using hn)]
  gone n hn := by
    rw [List.mem_singleton.mp hn]
    refine ⟨{ v with endpointRequest := none }.removeTopic .request, ?_, hname, rfl⟩
    rw [dismantle_services, ServiceMap.find_set, if_pos rfl]
  readers k hk := by
    unfold Participant.dismantle at hk
    extract_lets p' at hk
    split at hk
    · change (AList.lookup k (AList.erase _ _)).isSome at hk
      rw [lookup_erase] at hk
      split at hk
      · cases hk
      · exact hk
    · exact hk

lemma revokeServices_run {names : List Str} {p : Participant} (hnodup : names.Nodup)
    (h : ∀ n ∈ names, Revocable p n) :
    ∃ p', p.revokeServices names = (true, p') ∧ Revokes names p p' := by
  induction names generalizing p with
  | nil => exact ⟨p, rfl, rfl, fun _ => rfl, fun _ _ => rfl, by simp, fun _ hk => hk⟩
  | cons name names ih =>
    obtain ⟨hnot, hnodup⟩ := List.nodup_cons.mp hnodup
    obtain ⟨v, e, hf, hname, hserver, he, hx⟩ := h name List.mem_cons_self
    have hfirst := revokes_dismantle (p := p) e hname
    have hrest : ∀ n ∈ names, Revocable (p.dismantle name v e) n := by
      intro n hn
      obtain ⟨v', e', hf', hv'⟩ := h n (List.mem_cons_of_mem _ hn)
      refine ⟨v', e', ?_, hv'⟩
      rw [hfirst.others n, hf']
      intro heq
      rw [List.mem_singleton.mp heq] at hn
      exact hnot hn
    obtain ⟨p', hrun, hrev⟩ := ih hnodup hrest
    refine ⟨p', ?_, hrev.actions.trans hfirst.actions,
      fun n => (hrev.weak n).trans (hfirst.weak n), fun n hn => ?_, fun n hn => ?_,
      fun k hk => hfirst.readers k (hrev.readers k hk)⟩
    · simp only [Participant.revokeServices, revokeServiceNts_dismantle p hf hserver he hx, hrun]
    · rw [List.mem_cons, not_or] at hn
      obtain ⟨hne, hn⟩ := hn
      rw [hrev.others n hn, hfirst.others n (by simpa using hne)]
    · rcases List.mem_cons.mp hn with rfl | hn
      · obtain ⟨w, hw, hw'⟩ := hfirst.gone n (List.mem_singleton_self _)
        exact ⟨w, (hrev.others n hnot).trans hw, hw'⟩
      · exact hrev.gone n hn

/-! ### The system -/

/-- The enabler and the actions it has announced and not revoked, by its own answers, and those
it has revoked. -/
structure ActionServers where
  state : State
  announced : Finset Str := ∅
  revoked : Finset Str := ∅

inductive ActionOp
  | announceAction (env : Env) (actionName : Str)
  | revokeAction (actionName : Str)

/-- The pointer of an action to one of its services. -/
def ActionDiscovered.ref (a : ActionDiscovered) : ActionType → Option WeakRef
  | .goal => a.goal
  | .result => a.result
  | .cancel => a.cancel
  | _ => none

namespace ActionServers

def step (s : ActionServers) : ActionOp → ActionServers
  | .announceAction env name =>
    let b := returned (DdsEnabler.announceAction env name .ros2) s.state
    { s with
      state := after (DdsEnabler.announceAction env name .ros2) s.state
      announced := record s.announced (.add name) b }
  | .revokeAction name =>
    let b := returned (DdsEnabler.revokeAction name) s.state
    { s with
      state := after (DdsEnabler.revokeAction name) s.state
      announced := record s.announced (.remove name) b
      revoked := if b then insert name s.revoked else s.revoked }

/-- Queries and the creation of readers succeed. -/
def Fits (s : ActionServers) : ActionOp → Prop
  | .announceAction env name => s.state.participant.actions.lookup name = none →
      ∃ t q, FindsParts env name s.state t q
  | .revokeAction _ => True

/-- The enabler answers as a registry of the announced actions, and an action whose announcement
succeeds has live servers. -/
def Answers (s : ActionServers) : ActionOp → Prop
  | .announceAction env name =>
    outcome (DdsEnabler.announceAction env name .ros2) s.state =
        .ok (answer s.announced (.add name)) ∧
      (outcome (DdsEnabler.announceAction env name .ros2) s.state = .ok true →
        ∀ t, isServicePart t → LiveServer
          (after (DdsEnabler.announceAction env name .ros2) s.state).participant (partName name t))
  | .revokeAction name =>
    outcome (DdsEnabler.revokeAction name) s.state = .ok (answer s.announced (.remove name))

/-- No action is announced that has been revoked. -/
def Regular (s : ActionServers) : ActionOp → Prop
  | .announceAction _ name => name ∉ s.revoked
  | .revokeAction _ => True

/-- An action that has been announced, and is served still or has been revoked. -/
structure Entered (p : Participant) (name : Str) (served : Bool) : Prop where
  entry : ∃ a, p.actions.lookup name = some a ∧ a.enablerAsServer = served ∧
    a.externalServer = false ∧
    ∀ t, isServicePart t → a.ref t = some (p.services.weak (partName name t))
  parts : ∀ t, isServicePart t →
    if served then Revocable p (partName name t) else Dismantled p (partName name t)

/-- The invariant, as long as no action is announced again: the actions of the enabler are those
announced and those revoked, and all readers are theirs. -/
structure Inv (s : ActionServers) : Prop where
  free : ∀ name, name ∉ s.announced → name ∉ s.revoked →
    s.state.participant.actions.lookup name = none ∧
      ∀ t, isServicePart t → s.state.participant.services.find (partName name t) = none
  served : ∀ name ∈ s.announced, Entered s.state.participant name true
  gone : ∀ name ∈ s.revoked, name ∉ s.announced ∧ Entered s.state.participant name false
  readers : ∀ k, (s.state.participant.readers.lookup k).isSome →
    ∃ name t, (name ∈ s.announced ∨ name ∈ s.revoked) ∧ t ≠ .none ∧ k.1 = partTopic name t

variable {s : ActionServers} {name : Str} {env : Env}

/-! ### One action at a time -/

/-- A step that touches the parts of one action. -/
structure Frame (name : Str) (p p' : Participant) : Prop where
  actions : ∀ n, n ≠ name → p'.actions.lookup n = p.actions.lookup n
  find : ∀ n, n ≠ name → ∀ t, isServicePart t →
    p'.services.find (partName n t) = p.services.find (partName n t)
  weak : ∀ n, n ≠ name → ∀ t, isServicePart t →
    p'.services.weak (partName n t) = p.services.weak (partName n t)

lemma Entered.frame {p p' : Participant} {n : Str} {served : Bool} (h : Entered p n served)
    (hframe : Frame name p p') (hn : n ≠ name) : Entered p' n served := by
  obtain ⟨⟨a, ha, hserver, hx, hrefs⟩, hparts⟩ := h
  refine ⟨⟨a, (hframe.actions n hn).trans ha, hserver, hx, fun t ht => ?_⟩, fun t ht => ?_⟩
  · rw [hframe.weak n hn t ht]
    exact hrefs t ht
  · have hpart := hparts t ht
    have hfind := hframe.find n hn t ht
    cases served with
    | true =>
      obtain ⟨v, e, hf, hv⟩ := hpart
      exact ⟨v, e, hfind.trans hf, hv⟩
    | false =>
      obtain ⟨v, hf, hv⟩ := hpart
      exact ⟨v, hfind.trans hf, hv⟩

lemma Inv.update (h : Inv s) {t : ActionServers} (name : Str)
    (hframe : Frame name s.state.participant t.state.participant)
    (hothers : ∀ n, n ≠ name → (n ∈ t.announced ↔ n ∈ s.announced) ∧
      (n ∈ t.revoked ↔ n ∈ s.revoked))
    (hname : name ∈ t.announced ∧ name ∉ t.revoked ∧ Entered t.state.participant name true ∨
      name ∉ t.announced ∧ name ∈ t.revoked ∧ Entered t.state.participant name false)
    (hreaders : ∀ k, (t.state.participant.readers.lookup k).isSome →
      (s.state.participant.readers.lookup k).isSome ∨
        ∃ ty, ty ≠ .none ∧ k.1 = partTopic name ty) : Inv t := by
  have hentered : name ∈ t.announced ∨ name ∈ t.revoked :=
    hname.imp And.left fun hgone => hgone.2.1
  refine ⟨fun n ha hr => ?_, fun n ha => ?_, fun n hr => ?_, fun k hk => ?_⟩
  · have hn : n ≠ name := by
      rintro rfl
      exact hentered.elim ha hr
    obtain ⟨hann, hrev⟩ := hothers n hn
    obtain ⟨hact, hserv⟩ := h.free n (mt hann.mpr ha) (mt hrev.mpr hr)
    exact ⟨(hframe.actions n hn).trans hact,
      fun ty hty => (hframe.find n hn ty hty).trans (hserv ty hty)⟩
  · by_cases hn : n = name
    · subst hn
      rcases hname with ⟨-, -, hent⟩ | ⟨hnot, -⟩
      · exact hent
      · exact absurd ha hnot
    · exact (h.served n ((hothers n hn).1.mp ha)).frame hframe hn
  · by_cases hn : n = name
    · subst hn
      rcases hname with ⟨-, hnot, -⟩ | ⟨hnot, -, hent⟩
      · exact absurd hr hnot
      · exact ⟨hnot, hent⟩
    · obtain ⟨hnot, hent⟩ := h.gone n ((hothers n hn).2.mp hr)
      exact ⟨mt (hothers n hn).1.mp hnot, hent.frame hframe hn⟩
  · rcases hreaders k hk with hk | ⟨ty, hty, hkey⟩
    · obtain ⟨n, ty, hn, hty, hkey⟩ := h.readers k hk
      refine ⟨n, ty, ?_, hty, hkey⟩
      by_cases hne : n = name
      · subst hne
        exact hentered
      · exact hn.imp (hothers n hne).1.mpr (hothers n hne).2.mpr
    · exact ⟨name, ty, hentered, hty, hkey⟩

lemma Inv.isFree (h : Inv s) (hann : name ∉ s.announced) (hrev : name ∉ s.revoked) :
    IsFree s.state.participant name := by
  have hnone : ∀ topicName, (∀ n t, (n ∈ s.announced ∨ n ∈ s.revoked) → t ≠ .none →
      partTopic n t ≠ topicName) → s.state.participant.lookupReader topicName = none := by
    intro topicName hne
    rw [lookupReader_eq_none]
    intro k hk
    by_contra hsome
    obtain ⟨n, t, hn, ht, hkey⟩ := h.readers k (Option.isSome_iff_ne_none.mpr hsome)
    exact hne n t hn ht (hkey.symm.trans hk)
  obtain ⟨hact, hserv⟩ := h.free name hann hrev
  refine ⟨hact, hserv, fun t ht => hnone _ fun n t' hn ht' heq => ?_,
    hnone _ fun n t _ _ => partTopic_ne_nil⟩
  have hname := (partTopic_inj ht' ht heq).1
  subst hname
  exact hn.elim hann hrev

/-! ### Announcements -/

lemma announceAction_new {t : State} {q : ActionParts} (hfree : IsFree s.state.participant name)
    (h : FindsParts env name s.state t q) :
    (DdsEnabler.announceAction env name .ros2).run s.state =
      .ok true { t with participant := s.state.participant.withAction env name q } := by
  unfold DdsEnabler.announceAction
  simp only [ne_eq, not_true_eq_false, if_false]
  rw [run_bind_ok (readParticipant_run s.state id)]
  simp only [id_eq, hfree.action]
  unfold announceNewAction
  rw [run_bind_ok (queryAction_run h hfree)]
  rfl

lemma announceAction_announced (env : Env) {a : ActionDiscovered}
    (ha : s.state.participant.actions.lookup name = some a) (hserver : a.enablerAsServer = true) :
    (DdsEnabler.announceAction env name .ros2).run s.state = .ok false s.state := by
  unfold DdsEnabler.announceAction
  simp only [ne_eq, not_true_eq_false, if_false]
  rw [run_bind_ok (readParticipant_run s.state id)]
  simp only [id_eq, ha, hserver, if_true]
  rfl

/-- An action that was revoked: flags are set, and nothing is put in the place of what was
dismantled. -/
lemma announceAction_again (env : Env) (h : Entered s.state.participant name false) :
    ∃ t, (DdsEnabler.announceAction env name .ros2).run s.state = .ok true t ∧
      ¬ LiveServer t.participant (partName name .goal) := by
  obtain ⟨⟨a, ha, hserver, hx, hrefs⟩, hparts⟩ := h
  obtain ⟨g, hg, hgname, hge⟩ := hparts .goal rfl
  obtain ⟨r, hr, hrname, -⟩ := hparts .result rfl
  obtain ⟨c, hc, hcname, -⟩ := hparts .cancel rfl
  have hlock : ∀ t, isServicePart t → s.state.participant.services.lock (a.ref t) =
      s.state.participant.services.find (partName name t) := by
    intro t ht
    rw [hrefs t ht, ServiceMap.lock_weak]
  have hgl : s.state.participant.services.lock a.goal = some g := (hlock .goal rfl).trans hg
  have hrl : s.state.participant.services.lock a.result = some r := (hlock .result rfl).trans hr
  have hcl : s.state.participant.services.lock a.cancel = some c := (hlock .cancel rfl).trans hc
  refine ⟨{ s.state with participant := s.state.participant.reannounce name a g r c }, ?_, ?_⟩
  · unfold DdsEnabler.announceAction
    simp only [ne_eq, not_true_eq_false, if_false]
    rw [run_bind_ok (readParticipant_run s.state id)]
    simp only [id_eq, ha, hserver, Bool.false_eq_true, if_false, hgl, hrl, hcl]
    rfl
  · refine Dismantled.not_live ⟨{ g with enablerAsServer := true }, ?_, hgname, hge⟩
    simp only [Participant.reannounce, ServiceMap.find_set, hgname, hrname, hcname]
    rw [if_neg (partName_ne rfl rfl (by decide)), if_neg (partName_ne rfl rfl (by decide)),
      if_pos trivial]

lemma isServicePart_cases {t : ActionType} (ht : isServicePart t) :
    t = .goal ∨ t = .result ∨ t = .cancel := by
  cases t <;> simp_all [isServicePart]

/-- The names of the three services, in the order of their revocation. -/
def serviceNames (name : Str) : List Str :=
  [partName name .goal, partName name .result, partName name .cancel]

lemma mem_serviceNames {n : Str} :
    n ∈ serviceNames name ↔ ∃ t, isServicePart t ∧ n = partName name t := by
  constructor
  · intro hn
    simp only [serviceNames, List.mem_cons, List.not_mem_nil, or_false] at hn
    rcases hn with rfl | rfl | rfl
    · exact ⟨.goal, rfl, rfl⟩
    · exact ⟨.result, rfl, rfl⟩
    · exact ⟨.cancel, rfl, rfl⟩
  · rintro ⟨t, ht, rfl⟩
    rcases isServicePart_cases ht with rfl | rfl | rfl <;> simp [serviceNames]

lemma nodup_serviceNames (name : Str) : (serviceNames name).Nodup := by
  simp only [serviceNames, List.nodup_cons, List.mem_cons, List.not_mem_nil, or_false, not_or,
    not_false_eq_true, List.nodup_nil, and_true]
  exact ⟨⟨partName_ne rfl rfl (by decide), partName_ne rfl rfl (by decide)⟩,
    partName_ne rfl rfl (by decide)⟩

lemma revokeAction_served {p : Participant} (h : Entered p name true) :
    ∃ p', p.revokeAction name = (true, p') ∧ Entered p' name false ∧ Frame name p p' ∧
      ∀ k, (p'.readers.lookup k).isSome → (p.readers.lookup k).isSome := by
  obtain ⟨⟨a, ha, hserver, hx, hrefs⟩, hparts⟩ := h
  obtain ⟨g, ge, hg, hgname, hg'⟩ := hparts .goal rfl
  obtain ⟨r, re, hr, hrname, hr'⟩ := hparts .result rfl
  obtain ⟨c, ce, hc, hcname, hc'⟩ := hparts .cancel rfl
  have hlock : ∀ t, isServicePart t →
      p.services.lock (a.ref t) = p.services.find (partName name t) := by
    intro t ht
    rw [hrefs t ht, ServiceMap.lock_weak]
  have hgl : p.services.lock a.goal = some g := (hlock .goal rfl).trans hg
  have hrl : p.services.lock a.result = some r := (hlock .result rfl).trans hr
  have hcl : p.services.lock a.cancel = some c := (hlock .cancel rfl).trans hc
  obtain ⟨p', hrun, hrev⟩ := revokeServices_run (p := p) (nodup_serviceNames name)
    fun n hn => by
      obtain ⟨t, ht, rfl⟩ := mem_serviceNames.mp hn
      exact hparts t ht
  set a' : ActionDiscovered := { a with enablerAsServer := false, fullyDiscovered := false }
    with ha'
  have hact : ∀ n, (p'.setAction name a').actions.lookup n =
      if n = name then some a' else p.actions.lookup n := by
    intro n
    rw [← hrev.actions]
    exact lookup_insert ..
  refine ⟨p'.setAction name a', ?_, ⟨⟨a', ?_, rfl, hx, fun t ht => ?_⟩, fun t ht => ?_⟩,
    ⟨fun n hn => ?_, fun n hn t ht => ?_, fun n hn t ht => hrev.weak _⟩, hrev.readers⟩
  · simp only [Participant.revokeAction, ha, hserver, hx, hgl, hrl, hcl, hgname, hrname, hcname]
    rw [show [partName name .goal, partName name .result, partName name .cancel] =
      serviceNames name from rfl, hrun]
    simp [ha', hx]
  · rw [hact, if_pos rfl]
  · exact (hrefs t ht).trans (congrArg some (hrev.weak _).symm)
  · exact hrev.gone _ (mem_serviceNames.mpr ⟨t, ht, rfl⟩)
  · rw [hact, if_neg hn]
  · refine hrev.others _ fun hmem => ?_
    obtain ⟨t', ht', heq⟩ := mem_serviceNames.mp hmem
    exact hn (partName_inj ht ht' heq).1

lemma revokeAction_not {p : Participant} (h : p.actions.lookup name = none ∨
    ∃ a, p.actions.lookup name = some a ∧ a.enablerAsServer = false) :
    p.revokeAction name = (false, p) := by
  rcases h with h | ⟨a, ha, hserver⟩
  · simp [Participant.revokeAction, h]
  · simp [Participant.revokeAction, ha, hserver]

/-! ### Steps -/

lemma announceAction_new_inv (h : Inv s) (hann : name ∉ s.announced) (hrev : name ∉ s.revoked)
    {t : State} {q : ActionParts} (hq : FindsParts env name s.state t q) :
    Inv (s.step (.announceAction env name)) := by
  have hrun := announceAction_new (h.isFree hann hrev) hq
  set p := s.state.participant with hp
  simp only [step, returned_ok hrun, after_ok hrun]
  have hmem : name ∈ record s.announced (.add name) true := by simp
  have hact : ∀ n, (p.withAction env name q).actions.lookup n =
      if n = name then some (announcedAction (p.withParts env q) name q)
      else p.actions.lookup n := fun n => lookup_insert ..
  have hother : ∀ n, n ≠ name → ∀ ty, isServicePart ty → ∀ ty', isServicePart ty' →
      partName n ty ≠ partName name ty' := fun n hn ty hty ty' hty' heq =>
    hn (partName_inj hty hty' heq).1
  refine h.update name ⟨fun n hn => ?_, fun n hn ty hty => ?_, fun n hn ty hty => ?_⟩
    (fun n hn => ⟨by simp [hn], Iff.rfl⟩) (.inl ⟨hmem, hrev,
      ⟨announcedAction (p.withParts env q) name q, ?_, rfl, rfl, fun ty hty => ?_⟩,
      fun ty hty => ?_⟩) fun k hk => readers_withParts p hq hk
  · exact (hact n).trans (if_neg hn)
  · exact (others_withParts p hq (hother n hn ty hty)).1
  · exact (others_withParts p hq (hother n hn ty hty)).2
  · exact (hact name).trans (if_pos rfl)
  · rcases isServicePart_cases hty with rfl | rfl | rfl <;> rfl
  · obtain ⟨v, e, hf, hv, -, -⟩ := servesPart_withParts p hq hty
    exact ⟨_, e, hf, hv.name, hv.server, rfl, hv.external⟩

lemma announceAction_answer (h : Inv s) (hfits : Fits s (.announceAction env name)) :
    Answers s (.announceAction env name) ↔ Regular s (.announceAction env name) := by
  simp only [Answers, Regular]
  by_cases hann : name ∈ s.announced
  · obtain ⟨⟨a, ha, hserver, -, -⟩, -⟩ := h.served name hann
    have hrun := announceAction_announced (s := s) env ha hserver
    have hrev : name ∉ s.revoked := fun hr => (h.gone name hr).1 hann
    simp [outcome_ok hrun, answer, hann, hrev]
  · by_cases hrev : name ∈ s.revoked
    · obtain ⟨-, hent⟩ := h.gone name hrev
      obtain ⟨t, hrun, hdead⟩ := announceAction_again env hent
      rw [outcome_ok hrun, after_ok hrun]
      exact iff_of_false (fun hlive => hdead (hlive.2 rfl .goal rfl)) (not_not.mpr hrev)
    · obtain ⟨t, q, hq⟩ := hfits (h.free name hann hrev).1
      have hrun := announceAction_new (h.isFree hann hrev) hq
      rw [outcome_ok hrun, after_ok hrun]
      refine iff_of_true ⟨by simp [answer, hann], fun _ ty hty => ?_⟩ hrev
      obtain ⟨v, e, hf, hrest⟩ := (servesPart_withParts s.state.participant hq hty).live
      exact ⟨v, e, hf, hrest⟩

lemma announceAction_inv (h : Inv s) (hfits : Fits s (.announceAction env name))
    (hreg : Regular s (.announceAction env name)) : Inv (s.step (.announceAction env name)) := by
  by_cases hann : name ∈ s.announced
  · obtain ⟨⟨a, ha, hserver, -, -⟩, -⟩ := h.served name hann
    have hrun := announceAction_announced (s := s) env ha hserver
    simp only [step, returned_ok hrun, after_ok hrun, record_false]
    exact h
  · obtain ⟨t, q, hq⟩ := hfits (h.free name hann hreg).1
    exact announceAction_new_inv h hann hreg hq

lemma revokeAction_run (s : ActionServers) (name : Str) :
    (DdsEnabler.revokeAction name).run s.state = .ok (s.state.participant.revokeAction name).1
      { s.state with participant := (s.state.participant.revokeAction name).2 } := rfl

lemma Inv.not_revocable (h : Inv s) (hann : name ∉ s.announced) :
    s.state.participant.revokeAction name = (false, s.state.participant) := by
  apply revokeAction_not
  by_cases hrev : name ∈ s.revoked
  · obtain ⟨-, ⟨a, ha, hserver, -, -⟩, -⟩ := h.gone name hrev
    exact .inr ⟨a, ha, hserver⟩
  · exact .inl (h.free name hann hrev).1

lemma revokeAction_answer (h : Inv s) : Answers s (.revokeAction name) := by
  simp only [Answers, outcome_ok (revokeAction_run s name)]
  by_cases hann : name ∈ s.announced
  · obtain ⟨p', hrun, -⟩ := revokeAction_served (h.served name hann)
    simp [hrun, answer, hann]
  · simp [h.not_revocable hann, answer, hann]

lemma revokeAction_inv (h : Inv s) : Inv (s.step (.revokeAction name)) := by
  have hrun := revokeAction_run s name
  by_cases hann : name ∈ s.announced
  · obtain ⟨p', hp', hent, hframe, hreaders⟩ := revokeAction_served (h.served name hann)
    rw [hp'] at hrun
    simp only [step, returned_ok hrun, after_ok hrun, if_true]
    refine h.update name hframe (fun n hn => ⟨by simp [hn], by simp [hn]⟩)
      (.inr ⟨by simp, by simp, hent⟩) fun k hk => .inl (hreaders k hk)
  · rw [h.not_revocable hann] at hrun
    simp only [step, returned_ok hrun, after_ok hrun, record_false, Bool.false_eq_true, if_false]
    exact h

/-- An enabler that has not been asked for anything. -/
def start (handler : Handler) : ActionServers := { state := { handler } }

lemma inv_start (handler : Handler) : Inv (start handler) where
  free name _ _ := by simp [start, ServiceMap.find]
  served _ h := absurd h (Finset.notMem_empty _)
  gone _ h := absurd h (Finset.notMem_empty _)
  readers k h := by simp [start] at h

/-- **Announced actions form a registry with live servers** in a run if and only if the run
never announces an action that has been revoked. -/
theorem actions_answer_iff (handler : Handler) (w : List ActionOp)
    (hw : Along step Fits (start handler) w) :
    Along step Answers (start handler) w ↔ Along step Regular (start handler) w := by
  refine along_iff_of_inv (fun s op hs hfits hreg => ?_) (fun s op hs hfits => ?_)
    (inv_start handler) hw
  · cases op with
    | announceAction env name => exact announceAction_inv hs hfits hreg
    | revokeAction name => exact revokeAction_inv hs
  · cases op with
    | announceAction env name => exact announceAction_answer hs hfits
    | revokeAction name => exact iff_of_true (revokeAction_answer hs) trivial

/-! ### One action -/

/-- Every query for an action is answered, with types that the registry knows. -/
def actionEnv : Env :=
  let info : ServiceInfo := ⟨⟨[], []⟩, ⟨[], []⟩⟩
  { Env.silent with
    callbacks := { Callbacks.unset with
      actionQuery := some fun _ => some ⟨info, info, info, ⟨[], []⟩, ⟨[], []⟩⟩ }
    types := { Env.silent.types with
      getTypeIdentifiers := fun _ => some 0
      getTypeObject := fun _ => some 0
      createType := fun _ => some ⟨[], 0⟩ } }

def announceOp : ActionOp := .announceAction actionEnv "fibonacci/_action/".toList
def revokeOp : ActionOp := .revokeAction "fibonacci/_action/".toList

lemma announceOp_fits : Fits (start {}) announceOp := fun _ =>
  ⟨_, ⟨_, _, _, _, _⟩, _, _, _, _, _, _, rfl, rfl, ⟨rfl, rfl, rfl⟩, ⟨rfl, rfl, rfl⟩,
    ⟨rfl, rfl, rfl⟩, ⟨rfl, rfl, rfl⟩, ⟨rfl, rfl, rfl⟩⟩

theorem actions_answer_iff_fibonacci :
    Along step Answers (start {}) [announceOp, revokeOp] ↔
      Along step Regular (start {}) [announceOp, revokeOp] :=
  actions_answer_iff {} [announceOp, revokeOp] ⟨announceOp_fits, trivial, trivial⟩

/-- An action that was revoked and is announced again has no server, and cannot be revoked. -/
theorem announced_again_dead :
    Along step Fits (start {}) [announceOp, revokeOp, announceOp, revokeOp] ∧
      ¬ Along step Answers (start {}) [announceOp, revokeOp, announceOp] ∧
      ¬ Answers (run step (start {}) [announceOp, revokeOp, announceOp]) revokeOp := by
  refine ⟨⟨announceOp_fits, trivial, fun h => ?_, trivial, trivial⟩, ?_, fun h => ?_⟩
  · have hsome : ((run step (start {}) [announceOp, revokeOp]).state.participant.actions.lookup
        "fibonacci/_action/".toList).isSome := by decide +kernel
    have hnone : (run step (start {}) [announceOp, revokeOp]).state.participant.actions.lookup
        "fibonacci/_action/".toList = none := h
    rw [hnone] at hsome
    cases hsome
  · rintro ⟨-, -, ⟨-, hlive⟩, -⟩
    refine Dismantled.not_live ?_ (hlive rfl .goal rfl)
    exact ⟨_, rfl, rfl, rfl⟩
  · have hfails : (Except.ok false : Except Exc Bool) = .ok true := h
    cases hfails

end ActionServers

end DdsEnabler
