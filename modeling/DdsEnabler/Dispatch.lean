import DdsEnabler.AddData
import DdsEnabler.Servers

/-!
Which callback the samples of a topic reach.

The suffixes of a name alone decide: a plain topic that ends like the feedback or the status of
an action, and a service that ends like one of the services of an action, are taken for parts
of actions, whether or not there is `/_action/` before the suffix.
-/

namespace DdsEnabler

open Exec Tables RpcInfo

/-- The part before the suffix of an action ends in `/_action/`. -/
def ActionForm (name : Str) : Prop :=
  ∃ a t, t ≠ ActionType.none ∧ name = a ++ "/_action/".toList ++ partSuffix t

lemma length_of_actionForm {name : Str} (h : ActionForm name) : 15 ≤ name.length := by
  obtain ⟨a, t, ht, rfl⟩ := h
  have hpart : 6 ≤ (partSuffix t).length := by
    cases t <;> first | decide | exact absurd rfl ht
  have hmid : "/_action/".toList.length = 9 := rfl
  rw [List.length_append, List.length_append, hmid]
  omega

/-! ### Topics -/

/-- The suffix of a topic that makes it a part of an action. -/
def EndsLikeActionTopic (n : Str) : Prop :=
  '/' :: actionFeedbackSuffix <:+ n ∨ '/' :: actionStatusSuffix <:+ n

lemma ofTopic_rosTopic_plain {n : Str} (h : ¬ EndsLikeActionTopic n) :
    ofTopic (rosTopicPrefix ++ n) = blank (rosTopicPrefix ++ n) .ros2 := by
  rw [EndsLikeActionTopic, not_or] at h
  rw [ofTopic_rosTopic, ofTopicSuffix, if_neg (by simpa using h.1), if_neg (by simpa using h.2)]

lemma ofTopic_rosTopic_action {n : Str} (h : EndsLikeActionTopic n) :
    (ofTopic (rosTopicPrefix ++ n)).rpcType = .action := by
  rw [ofTopic_rosTopic, ofTopicSuffix]
  by_cases hf : ('/' :: actionFeedbackSuffix) <:+ n
  · simp [hf]
  · have hs : ('/' :: actionStatusSuffix) <:+ n := h.resolve_left hf
    simp [hf, hs]

/-- The topic `rt/n` is treated as a plain one: it is notified, and so is all of its data. -/
structure TopicReaches (n : Str) : Prop where
  plain : (ofTopic (rosTopicPrefix ++ n)).rpcType = .none
  notified : ∀ (env : Env) (topic : DdsTopic) (s : State), topic.topicName = rosTopicPrefix ++ n →
    topic.discoverer ≠ env.id → env.isTypeObjectTopic topic = false →
    env.callbacks.topicNotification = true →
    ∃ r t, (createReader env topic).run s = .ok (some r) t ∧
      t.trace = s.trace ++ [.topicNotification (rosTopicPrefix ++ n) topic.info]
  delivered : ∀ (env : Env) (topic : DdsTopic) (data : Sample) (dynType : DynType) (s : State)
    (json : Json), topic.topicName = rosTopicPrefix ++ n → data.Accepted topic dynType s →
    env.decode dynType data.payload = some json → env.callbacks.dataNotification = true →
    ∃ t, (addData env topic data).run s = .ok () t ∧
      t.trace = s.trace ++ [.dataNotification (rosTopicPrefix ++ n)
        ((data.message topic).wrap json) data.sourceTimestamp]

lemma prepareJsonData_message {env : Env} {topic : DdsTopic} {data : Sample} {dynType : DynType}
    {json : Json} (h : env.decode dynType data.payload = some json) :
    (data.message topic).prepareJsonData env dynType = some ((data.message topic).wrap json) := by
  rw [Message.prepareJsonData, show (data.message topic).payload = data.payload from rfl, h,
    Option.map_some]

lemma topicReaches_of_plain {n : Str} (h : ¬ EndsLikeActionTopic n) : TopicReaches n where
  plain := by rw [ofTopic_rosTopic_plain h, blank]
  notified env topic s hname hdisc htype hcb := by
    have hinfo : ofTopic topic.topicName = blank (rosTopicPrefix ++ n) .ros2 := by
      rw [hname, ofTopic_rosTopic_plain h]
    let reader := makeReader env (blank (rosTopicPrefix ++ n) .ros2) topic
    refine ⟨reader, { s.log [.topicNotification topic.topicName topic.info] with
      participant := s.participant.setReader topic reader }, ?_, by simp [hname]⟩
    · simp only [createReader, htype, Bool.false_eq_true, if_false, hinfo, hdisc, ne_eq,
        not_false_eq_true, if_true, notifyDiscovery, blank, addTopic, hcb, EStateM.run_bind,
        notify_true_run, EStateM.run_pure, onParticipant_run]
      rfl
  delivered env topic data dynType s json hname hacc hdecode hcb := by
    have hinfo : ofTopic topic.topicName = blank (rosTopicPrefix ++ n) .ros2 := by
      rw [hname, ofTopic_rosTopic_plain h]
    refine ⟨s.count.log [.dataNotification (rosTopicPrefix ++ n)
      ((data.message topic).wrap json) data.sourceTimestamp], ?_, rfl⟩
    rw [addData_run hacc, hinfo]
    simp only [addKnownData, blank, writeData, prepareJsonData_message hdecode, hcb,
      notify_true_run, ← hname]
    rfl

lemma topicReaches_iff (n : Str) : TopicReaches n ↔ ¬ EndsLikeActionTopic n := by
  refine ⟨fun h hends => ?_, topicReaches_of_plain⟩
  have := h.plain
  rw [ofTopic_rosTopic_action hends] at this
  cases this

/-! ### Services -/

/-- The suffix of a service that makes it a part of an action. -/
def EndsLikeActionService (s : Str) : Prop :=
  actionGoalSuffix <:+ s ∨ actionResultSuffix <:+ s ∨ actionCancelSuffix <:+ s

/-- Every request on the topic reaches the user as one of the service. -/
def RequestsReach (serviceName topicName : Str) : Prop :=
  ∀ (env : Env) (topic : DdsTopic) (data : Sample) (dynType : DynType) (s : State) (json : Json),
    topic.topicName = topicName → data.Accepted topic dynType s → data.isRpc = true →
    env.decode dynType data.payload = some json →
    env.callbacks.serviceRequestNotification = true →
    ∃ t id, (addData env topic data).run s = .ok () t ∧
      t.trace = s.trace ++ [.newRequestId id, .sentSequenceNumber id,
        .serviceRequestNotification serviceName ((data.message topic).wrap json) id
          data.sourceTimestamp]

lemma actionPart_none {s : Str} (h : ¬ EndsLikeActionService s) : actionPart s = none := by
  rw [EndsLikeActionService, not_or, not_or] at h
  exact actionPart_eq_none.mpr h

lemma requestsReach_of_info {serviceName topicName : Str}
    (hrpc : (ofTopic topicName).rpcType = .service)
    (hservice : (ofTopic topicName).serviceType = .request)
    (hname : (ofTopic topicName).serviceName = serviceName) :
    RequestsReach serviceName topicName := by
  intro env topic data dynType s json htopic hacc hisRpc hdecode hcb
  refine ⟨(s.count.draw.log [.sentSequenceNumber s.handler.nextRequestId.1]).log
    [.serviceRequestNotification serviceName ((data.message topic).wrap json)
      s.handler.nextRequestId.1 data.sourceTimestamp], s.handler.nextRequestId.1, ?_, ?_⟩
  · rw [addData_run hacc, htopic]
    simp only [addKnownData, hrpc, addServiceData, hservice, if_true, stampRequest, requireRpc,
      hisRpc, writeServiceRequestNotification, prepareJsonData_message hdecode, hcb, hname,
      EStateM.run_bind, getNewRequestId_run, EStateM.run_pure, emit_run, notify_true_run]
    rfl
  · simp only [log_trace, draw_trace, List.append_assoc]
    rfl

/-! A request with nothing in it tells the services from the rest: no other branch notifies it. -/

def probeEnv : Env :=
  { Env.silent with
    callbacks := { Callbacks.unset with serviceRequestNotification := true }
    decode := fun _ _ => some .null }

def probeSample : Sample := ⟨[0], true, 0, [], [], true, 0⟩

def probeState : State := { handler := { schemas := (∅ : Table _ _).insert [] (0, ⟨[], 0⟩) } }

lemma probe_accepted (topicName : Str) :
    probeSample.Accepted { topicName } ⟨[], 0⟩ probeState :=
  ⟨⟨0, AList.lookup_insert _⟩, rfl, rfl⟩

lemma probe_action (info : RpcInfo) (msg : Message) {t : State}
    (h : (addActionData probeEnv info probeSample msg ⟨[], 0⟩).run probeState.count = .ok () t) :
    ∀ name json id time, .serviceRequestNotification name json id time ∉ t.trace := by
  have hprep : msg.prepareJsonData probeEnv ⟨[], 0⟩ = some (msg.wrap .null) := rfl
  have hid : goalIdOf msg (msg.wrap .null) = .error .invalidArgument := by
    rw [goalIdOf_wrap]
    rfl
  have huuid : uuidFromRequestJson probeEnv msg ⟨[], 0⟩ = .error .invalidArgument := by
    simp [uuidFromRequestJson, hprep, hid, Except.map, catchJson, Exc.isJson]
  have hcode : catchJson ((returnCodeOf msg (msg.wrap .null)).map some) none = .ok none := by
    unfold returnCodeOf
    rw [Message.dataOf_wrap]
    rfl
  have hlist : catchJson (((msg.dataOf (msg.wrap .null)).bind
      (·.index "status_list".toList)).map some) none = .ok (some .null) := by
    rw [Message.dataOf_wrap]
    rfl
  have hrelated : (relatedRequestId probeSample).run probeState.count = .ok 0 probeState.count :=
    rfl
  have hmap : ∀ ty, probeState.handler.getActionRequestUUID probeEnv.visitOrder 0 ty = none :=
    fun ty => rfl
  have hstamp : (stampRequest probeSample).run probeState.count =
      .ok 1 (probeState.count.draw.log [.sentSequenceNumber 1]) := rfl
  have hhandler : ∀ ty, probeState.count.handler.getActionRequestUUID probeEnv.visitOrder 0 ty =
      none := hmap
  have htrace : probeState.trace = [] := rfl
  unfold addActionData at h
  split at h
  · simp [addResultReply, hrelated, hhandler] at h
    subst h
    simp [htrace]
  · simp [addGoalReply, hrelated, hhandler] at h
    subst h
    simp [htrace]
  · simp [addCancelReply, run_discard, hrelated, writeActionCancelReplyNotification, hprep,
      hcode] at h
    subst h
    simp [htrace]
  · simp [addActionRequest, hstamp, huuid] at h
  · simp [addActionRequest, hstamp, huuid] at h
  · simp [addResultRequest, huuid] at h
  · simp [writeActionFeedbackNotification, probeEnv, Callbacks.unset] at h
    subst h
    simp [htrace]
  · simp only [writeActionStatusNotification, hprep, hlist, lift_ok, pure_bind, Json.elements,
      writeStatusList] at h
    cases h
    simp [htrace]
  · simp at h
    subst h
    simp [htrace]

lemma info_of_requestsReach {serviceName topicName : Str}
    (h : RequestsReach serviceName topicName) :
    (ofTopic topicName).rpcType = .service ∧ (ofTopic topicName).serviceType = .request ∧
      (ofTopic topicName).serviceName = serviceName := by
  obtain ⟨t, id, hrun, htrace⟩ := h probeEnv { topicName } probeSample ⟨[], 0⟩ probeState .null rfl
    (probe_accepted topicName) rfl rfl rfl
  have hmem : Event.serviceRequestNotification serviceName
      ((probeSample.message { topicName }).wrap .null) id 0 ∈ t.trace := by
    rw [htrace]
    simp [probeSample]
  rw [addData_run (probe_accepted topicName)] at hrun
  rcases hrpc : (ofTopic topicName).rpcType
  · simp [addKnownData, hrpc, writeData, Message.prepareJsonData, probeEnv,
      Callbacks.unset] at hrun
    subst hrun
    cases hmem
  · rcases hservice : (ofTopic topicName).serviceType
    · simp [addKnownData, hrpc, addServiceData, hservice, relatedRequestId, requireRpc,
        probeSample, writeServiceReplyNotification, Message.prepareJsonData, probeEnv,
        Callbacks.unset] at hrun
      subst hrun
      cases hmem
    · refine ⟨rfl, rfl, ?_⟩
      simp [addKnownData, hrpc, addServiceData, hservice, stampRequest, requireRpc, probeSample,
        writeServiceRequestNotification, Message.prepareJsonData, probeEnv] at hrun
      subst hrun
      simp [probeState] at hmem
      exact hmem.1.symm
    · simp [addKnownData, hrpc, addServiceData, hservice, relatedRequestId, requireRpc,
        probeSample, writeServiceReplyNotification, Message.prepareJsonData, probeEnv,
        Callbacks.unset] at hrun
      subst hrun
      cases hmem
  · simp only [addKnownData, hrpc] at hrun
    exact absurd hmem (probe_action _ _ hrun _ _ _ _)

lemma rpcType_ofService (i : RpcInfo) (st : ServiceType) (base : Str) :
    (i.ofService st base).rpcType = .service ↔ ¬ EndsLikeActionService base := by
  constructor
  · intro h hends
    unfold ofService at h
    rcases hpart : actionPart base with _ | ⟨a, t⟩
    · obtain ⟨h1, h2, h3⟩ := actionPart_eq_none.mp hpart
      rcases hends with hends | hends | hends
      · exact h1 hends
      · exact h2 hends
      · exact h3 hends
    · rw [hpart] at h
      cases h
  · intro h
    unfold ofService
    rw [actionPart_none h]

lemma extractRpcInfo_ros (t : Str) :
    extractRpcInfo (blank t .ros2) =
      if rosRequestPrefix.isPrefixOf t && rosRequestSuffix.isSuffixOf t then
        (blank t .ros2).ofService .request (strip rosRequestPrefix rosRequestSuffix t)
      else if rosReplyPrefix.isPrefixOf t && rosReplySuffix.isSuffixOf t then
        (blank t .ros2).ofService .reply (strip rosReplyPrefix rosReplySuffix t)
      else (blank t .ros2).ofTopicSuffix (t.drop rosTopicPrefix.length) := rfl

/-- A DDS service whose name looks like one of ROS 2: its request topic is read as one of
another service, or of none. -/
lemma ofTopic_looksRos {s t : Str} (h : looksRos s = true)
    (ht : t = ddsRequestPrefix ++ s ++ ddsRequestSuffix)
    (hservice : (ofTopic t).serviceType = .request) : (ofTopic t).serviceName ≠ s := by
  have hlen : t.length = s.length + 8 := by
    have hsuf : ddsRequestSuffix.length = 8 := rfl
    simp [ht, ddsRequestPrefix, hsuf]
  have hs : 3 ≤ s.length := by
    simp only [looksRos, Bool.or_eq_true, List.isPrefixOf_iff_prefix] at h
    rcases h with (h | h) | h
    · exact h.length_le
    · exact h.length_le
    · exact h.length_le
  have hp : detectProtocol t = .ros2 := by
    rw [detectProtocol_eq, ht, looksRos_append (by rfl)]
    simpa [ddsRequestPrefix] using h
  rw [ofTopic_eq, hp, extractRpcInfo_ros] at hservice ⊢
  by_cases hreq : (rosRequestPrefix.isPrefixOf t && rosRequestSuffix.isSuffixOf t) = true
  · -- the name loses more than the suffix adds
    rw [if_pos hreq, serviceName_ofService]
    intro hname
    have hlt := congrArg List.length hname
    have hpre : rosRequestPrefix.length = 3 := rfl
    have hsuf : rosRequestSuffix.length = 7 := rfl
    simp only [strip, dropEnd, List.length_take, List.length_drop, hpre, hsuf] at hlt
    omega
  · rw [if_neg hreq] at hservice
    by_cases hrep : (rosReplyPrefix.isPrefixOf t && rosReplySuffix.isSuffixOf t) = true
    · rw [if_pos hrep, serviceType_ofService] at hservice
      cases hservice
    · rw [if_neg hrep, serviceType_ofTopicSuffix] at hservice
      cases hservice

lemma requestsReach_iff {p : Protocol} {serviceName topicName : Str}
    (ht : requestTopic p serviceName = some topicName) :
    RequestsReach serviceName topicName ↔
      ¬ EndsLikeActionService serviceName ∧ (p = .dds → looksRos serviceName = false) := by
  constructor
  · intro h
    obtain ⟨hrpc, hservice, hname⟩ := info_of_requestsReach h
    have hlooks : p = .dds → looksRos serviceName = false := by
      rintro rfl
      have ht' : topicName = ddsRequestPrefix ++ serviceName ++ ddsRequestSuffix :=
        (Option.some.inj ht).symm
      by_contra hne
      exact ofTopic_looksRos (by simpa using hne) ht' hservice hname
    refine ⟨?_, hlooks⟩
    rwa [ofTopic_requestTopic ht hlooks, rpcType_ofService] at hrpc
  · rintro ⟨hends, hlooks⟩
    refine requestsReach_of_info ?_ ?_ ?_
    · rwa [ofTopic_requestTopic ht hlooks, rpcType_ofService]
    · rw [ofTopic_requestTopic ht hlooks, serviceType_ofService]
    · rw [ofTopic_requestTopic ht hlooks, serviceName_ofService]

/-- **What is delivered.** A plain topic reaches the user if and only if it does not end like
the feedback or the status of an action. The requests of an announced service do if and only if
its name does not end like a service of an action and, for DDS, does not look like one of
ROS 2. -/
theorem delivered_iff (n : Str) :
    (TopicReaches n ↔ ¬ EndsLikeActionTopic n) ∧
      ∀ env serviceName protocol s t,
        (announceService env serviceName protocol).run s = .ok true t →
        ∃ service, t.participant.services.find serviceName = some service ∧
          service.enablerAsServer = true ∧
          ∀ topicName, requestTopic service.protocol serviceName = some topicName →
            (RequestsReach serviceName topicName ↔ ¬ EndsLikeActionService serviceName ∧
              (service.protocol = .dds → looksRos serviceName = false)) := by
  refine ⟨topicReaches_iff n, fun env serviceName protocol s t h => ?_⟩
  obtain ⟨service, hfind, hserver⟩ := announceService_true h
  exact ⟨service, hfind, hserver, fun topicName ht => requestsReach_iff ht⟩

/-- A service of another server has been discovered. -/
def mySendGoal : State :=
  { participant :=
      { services := ({} : ServiceMap).set "my_send_goal".toList
          { serviceName := "my_send_goal".toList, protocol := .ros2 } } }

/-- The topic `/robot/status` of a robot, and a service called `my_send_goal`. -/
theorem status_topic_swallowed :
    (¬ ActionForm "robot/status".toList ∧ ¬ TopicReaches "robot/status".toList) ∧
      ¬ ActionForm "my_send_goal".toList ∧
      outcome (announceService .silent "my_send_goal".toList .ros2) mySendGoal = .ok true ∧
      ¬ RequestsReach "my_send_goal".toList "rq/my_send_goalRequest".toList := by
  have hshort : ∀ name : Str, name.length < 15 → ¬ ActionForm name := by
    intro name hlt h
    have := length_of_actionForm h
    omega
  refine ⟨⟨hshort _ (by decide), ?_⟩, hshort _ (by decide), rfl, ?_⟩
  · rw [topicReaches_iff, not_not]
    exact .inr (by decide)
  · have ht : requestTopic .ros2 "my_send_goal".toList =
        some "rq/my_send_goalRequest".toList := rfl
    rw [requestsReach_iff ht]
    exact fun h => h.1 (.inl (by decide))

end DdsEnabler
