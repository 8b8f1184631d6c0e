import DdsEnabler.ApiCalls
import DdsEnabler.ResultReplies
import DdsEnabler.SchemaReports

/-!
A goal can be seen through.

From any network that has been reached, a client and a server that know the topics and the types of
an action can take a goal from the call that sends it to the notification of its result. The
server's user may supply the result before it is asked for or afterwards.
-/

namespace DdsEnabler

open Exec Runs Tables RpcUtils

/-! ### What stays as it is -/

/-- The participant and the schemas are left as they are, and so is what can be published. -/
structure Steady (s t : State) : Prop where
  participant : t.participant = s.participant
  schemas : t.handler.schemas = s.handler.schemas

section Steady

variable {s t u : State}

lemma Steady.trans (h : Steady s t) (h' : Steady t u) : Steady s u :=
  ⟨h'.participant.trans h.participant, h'.schemas.trans h.schemas⟩

lemma Steady.rpcPublishable (h : Steady s t) (env : Env) (topicName : Str) (json : JsonText) :
    t.rpcPublishable env topicName json = s.rpcPublishable env topicName json := by
  obtain ⟨⟨schemas, _, _, _⟩, participant, _⟩ := s
  obtain ⟨⟨schemas', _, _, _⟩, participant', _⟩ := t
  obtain rfl : participant' = participant := h.participant
  obtain rfl : schemas' = schemas := h.schemas
  rfl

lemma Steady.replyEvents (h : Steady s t) (env : Env) (serviceName : Str) (json : JsonText)
    (id : Nat) : t.replyEvents env serviceName json id = s.replyEvents env serviceName json id :=
  replyEvents_congr h.participant h.schemas env serviceName json id

lemma steady_addData (env : Env) (topic : DdsTopic) (data : Sample) (s : State) :
    Steady s (after (addData env topic data) s) where
  participant := by
    rcases received_addData env data topic s with ⟨new, hstep⟩ | ⟨id, new, hstep, -⟩
    · exact hstep.participant
    · exact hstep.participant
  schemas := by
    unfold addData
    rw [after_bind_ok (readHandler_run s _)]
    split
    · rfl
    · rw [after_bind_ok (onHandler_run s _)]
      split
      · rfl
      · exact (aside_addKnownData env _ _ data _ _).schemas

end Steady

/-! ### The steps of an exchange -/

/-- A sample that holds the document, for one who knows its type. -/
structure Conveys (env : Env) (topic : DdsTopic) (data : Sample) (doc : Json) (s : State) :
    Prop where
  dynType : ∃ dynType, data.Accepted topic dynType s ∧ env.decode dynType data.payload = some doc
  isRpc : data.isRpc = true

/-- Such a sample, on the topic of a part of an action. -/
structure Hears (env : Env) (topic : DdsTopic) (data : Sample) (doc : Json) (st : ServiceType)
    (ty : ActionType) (actionName : Str) (s : State) : Prop
    extends Conveys env topic data doc s where
  part : (RpcInfo.ofTopic topic.topicName).IsPart st ty
  action : (RpcInfo.ofTopic topic.topicName).actionName = actionName

/-- The document can be published as a reply of the service, on the topic. -/
structure CanReply (env : Env) (serviceName t : Str) (json : JsonText) (s : State) : Prop where
  topic : replyTopic (s.serviceProtocol serviceName) serviceName = some t
  publishable : s.rpcPublishable env t json = true

section CanReply

variable {env : Env} {serviceName t : Str} {json : JsonText} {s s' : State}

lemma CanReply.steady (h : CanReply env serviceName t json s) (hs : Steady s s') :
    CanReply env serviceName t json s' where
  topic := by
    rw [← h.topic, State.serviceProtocol, State.serviceProtocol, hs.participant]
  publishable := (hs.rpcPublishable env t json).trans h.publishable

lemma CanReply.replyPublishable (h : CanReply env serviceName t json s) :
    s.replyPublishable env serviceName json = true := by
  unfold State.replyPublishable
  rw [h.topic]
  exact h.publishable

lemma CanReply.replyEvents (h : CanReply env serviceName t json s) (id : Nat) :
    s.replyEvents env serviceName json id = [.publishedRpc t json id] := by
  unfold State.replyEvents
  rw [h.topic]
  exact if_pos h.publishable

lemma CanReply.result_sent {actionName : Str}
    (h : CanReply env (actionName ++ actionResultSuffix) t json s) (u : UUID) (id : Nat) :
    ∃ s', (getResultReplyCallback env actionName u json id).run s = .ok true s' ∧ Steady s s' ∧
      s'.trace = s.trace ++ [.publishedRpc t json id, .erasedAction u .forced,
        .sendActionGetResultReply actionName u json id true] ∧ s'.handler.entry u = none := by
  have hrun := getResultReplyCallback_sent h.replyPublishable u id
  rw [h.replyEvents] at hrun
  refine ⟨_, hrun, ⟨rfl, ?_⟩, rfl, ?_⟩
  · change (s.handler.eraseActionUUID u .forced).schemas = _
    unfold Handler.eraseActionUUID
    split <;> rfl
  have hforced : ∀ i, Handler.eraseFlag .forced i = none := by
    intro i
    simp [Handler.eraseFlag, ActionRequestInfo.erase]
  change (s.handler.eraseActionUUID u .forced).entry u = none
  rw [Handler.entry_eraseActionUUID, if_pos rfl]
  rcases s.handler.entry u with _ | i
  · rfl
  · exact hforced i

end CanReply

section Steps

variable {env : Env} {topic : DdsTopic} {data : Sample} {doc : Json}
  {actionName t : Str} {u : UUID} {s s' : State} {i : ActionRequestInfo}

lemma Conveys.steady (h : Conveys env topic data doc s) (hs : Steady s s') :
    Conveys env topic data doc s' := by
  obtain ⟨dynType, ⟨hschema, hpayload, howner⟩, hdecode⟩ := h.dynType
  exact ⟨⟨dynType, ⟨hs.schemas ▸ hschema, hpayload, howner⟩, hdecode⟩, h.isRpc⟩

lemma sendActionGoal_recorded {json : JsonText} {protocol : Protocol}
    (hdoc : createGoalRequestMsg json env.uuid = .ok doc)
    (ht : requestTopic protocol (actionName ++ actionGoalSuffix) = some t)
    (hpub : s.rpcPublishable env t (.doc doc)) (hu : s.handler.entry env.uuid = none) :
    ∃ s', after (sendActionGoal env actionName json protocol) s = s' ∧ Steady s s' ∧
      .publishedRpc t (.doc doc) s.handler.nextRequestId.1 ∈ s'.trace ∧
      s'.handler.entry env.uuid =
        some (.create actionName .goal s.handler.nextRequestId.1 protocol env.now) ∧
      drawnIds s'.trace = drawnIds s.trace ++ [s.handler.nextRequestId.1] := by
  set r := s.handler.nextRequestId.1
  set s1 := s.draw.log [.publishedRpc t (.doc doc) r]
  have hsend : (sendServiceRequest env (actionName ++ actionGoalSuffix) (.doc doc) protocol).run s =
      .ok (true, r) s1 := by
    have hdraw : s.draw.rpcPublishable env t (.doc doc) = true := hpub
    rw [sendServiceRequest_run, ht]
    simp only [hdraw, if_true]
    rfl
  have hfree : s1.handler.entry env.uuid = none := hu
  have hstore : s1.handler.storeActionRequest actionName env.uuid r .goal protocol env.now =
      (true, s1.handler.insertEntry env.uuid (.create actionName .goal r protocol env.now)) := by
    simp [Handler.storeActionRequest, hfree]
  have hgoal : (storeGoal env actionName env.uuid r protocol).run s1 = .ok true
      ({ s1 with handler := (s1.handler.storeActionRequest actionName env.uuid r .goal protocol
          env.now).2 }.log [.storedRequest actionName env.uuid r .goal protocol env.now]) :=
    (run_bind_ok (storeActionRequest_run_true s1 env (by rw [hstore]))).trans rfl
  have hlift : (lift (createGoalRequestMsg json env.uuid) : M Json).run s = .ok doc s := by
    rw [hdoc]
    rfl
  unfold sendActionGoal
  simp only
  rw [after_bind_ok hlift, after_bind_ok hsend]
  simp only [if_true]
  rw [after_bind_ok hgoal, after_ok (EStateM.run_pure _ _)]
  refine ⟨_, rfl, ⟨rfl, ?_⟩, ?_, ?_, ?_⟩
  · rw [hstore]
    rfl
  · simp [s1]
  · rw [hstore]
    simp
  · simp [s1, drawnIds, Event.drawnId]
    rfl

lemma getResultRequestCallback_sent (hi : s.handler.entry u = some i)
    (hname : i.actionName = actionName)
    (ht : requestTopic i.protocol (actionName ++ actionResultSuffix) = some t)
    (hpub : s.rpcPublishable env t (.doc (createResultRequestMsg u))) :
    ∃ s', (getResultRequestCallback env actionName u).run s = .ok true s' ∧
      .publishedRpc t (.doc (createResultRequestMsg u)) s.handler.nextRequestId.1 ∈ s'.trace ∧
      s'.handler.entry u = some (i.setRequest s.handler.nextRequestId.1 .result) ∧
      drawnIds s'.trace = drawnIds s.trace ++ [s.handler.nextRequestId.1] := by
  subst hname
  set r := s.handler.nextRequestId.1
  set s1 := s.draw.log [.publishedRpc t (.doc (createResultRequestMsg u)) r]
  have hprotocol : s.handler.getActionProtocol i.actionName u = i.protocol := by
    simp [Handler.getActionProtocol, Handler.activeInfo, hi, Option.filter_some]
  have hsend : (sendServiceRequest env (i.actionName ++ actionResultSuffix)
      (.doc (createResultRequestMsg u)) (s.handler.getActionProtocol i.actionName u)).run s =
      .ok (true, r) s1 := by
    have hdraw : s.draw.rpcPublishable env t (.doc (createResultRequestMsg u)) = true := hpub
    rw [sendServiceRequest_run, hprotocol, ht]
    simp only [hdraw, if_true]
    rfl
  have hactive : s1.handler.entry u = some i := hi
  have hstore : s1.handler.storeActionRequest i.actionName u r .result .ros2 env.now =
      (true, s1.handler.insertEntry u (i.setRequest r .result)) := by
    simp [Handler.storeActionRequest, hactive]
  have hrequest : (sendActionGetResultRequest env i.actionName u).run s = .ok true
      ({ s1 with handler := s1.handler.insertEntry u (i.setRequest r .result) }.log
        [.storedRequest i.actionName u r .result .ros2 env.now]) := by
    unfold sendActionGetResultRequest
    simp only
    rw [run_bind_ok (readHandler_run s _), run_bind_ok hsend]
    simp only [if_true]
    rw [run_bind_ok (storeActionRequest_run_true s1 env (by rw [hstore])), hstore]
    rfl
  refine ⟨_, (run_bind_ok hrequest).trans rfl, by simp [s1], by simp, ?_⟩
  simp [s1, drawnIds, Event.drawnId]
  rfl

lemma notify_steady (b : Bool) {e : Event} (he : e.drawnId = none) (s : State) :
    ∃ s', (notify b e).run s = .ok () s' ∧ s'.handler = s.handler ∧
      s'.participant = s.participant ∧ drawnIds s'.trace = drawnIds s.trace := by
  cases b
  · exact ⟨s, rfl, rfl, rfl, rfl⟩
  · exact ⟨s.log [e], rfl, rfl, rfl, by simp [drawnIds, he]⟩

lemma addData_accepted {now : Int}
    (h : Hears env topic data (createGoalReplyMsg true now) .reply .goal actionName s)
    (hfound : s.handler.getActionRequestUUID env.visitOrder data.relatedSequenceNumber .goal =
      some u) (hi : s.handler.entry u = some i) (hname : i.actionName = actionName)
    (ht : requestTopic i.protocol (actionName ++ actionResultSuffix) = some t)
    (hpub : s.rpcPublishable env t (.doc (createResultRequestMsg u))) :
    ∃ s', after (addData env topic data) s = s' ∧
      .publishedRpc t (.doc (createResultRequestMsg u)) s.handler.nextRequestId.1 ∈ s'.trace ∧
      s'.handler.entry u = some (i.setRequest s.handler.nextRequestId.1 .result) ∧
      drawnIds s'.trace = drawnIds s.trace ++ [s.handler.nextRequestId.1] := by
  obtain ⟨dynType, haccepted, hdecode⟩ := h.dynType
  set msg := data.message topic
  have hrelated : (relatedRequestId data).run s.count = .ok data.relatedSequenceNumber s.count := by
    simp [relatedRequestId, requireRpc, h.isRpc]
  have hread : (readHandler (·.getActionRequestUUID env.visitOrder data.relatedSequenceNumber
      .goal) : M _).run s.count = .ok (some u) s.count := by
    rw [readHandler_run, ← hfound]
    rfl
  obtain ⟨s1, htold, hhandler, hparticipant, hids⟩ := notify_steady
    env.callbacks.actionStatusNotification (e := .actionStatusNotification actionName u .accepted
      "Action goal accepted" msg.publishTime) rfl s.count
  have hentry : s1.handler.entry u = some i := by
    rw [hhandler]
    exact hi
  have hsteady : Steady s s1 := ⟨hparticipant, by rw [hhandler]; rfl⟩
  obtain ⟨s2, hsent, hpublished, hrecorded, hdrawn⟩ := getResultRequestCallback_sent hentry hname ht
    ((hsteady.rpcPublishable env t _).trans hpub)
  have hnext : s1.handler.nextRequestId.1 = s.handler.nextRequestId.1 := by
    rw [hhandler]
    rfl
  rw [hnext] at hpublished hrecorded hdrawn
  have hwrite : (writeActionGoalReplyNotification env msg dynType u actionName).run s.count =
      .ok () s2 := by
    unfold writeActionGoalReplyNotification
    rw [prepareJsonData_message hdecode]
    simp only
    rw [catchJson_ok (acceptedOf_wrap msg true now), lift_ok, pure_bind]
    have htold' : (notifyStatus env msg actionName u (goalReplyStatus (some true)).1
        (goalReplyStatus (some true)).2).run s.count = .ok () s1 := htold
    rw [run_bind_ok htold']
    simp only [goalReplyStatus, if_true]
    rw [run_bind_ok hsent]
    rfl
  have hrun : (addData env topic data).run s = .ok () s2 := by
    rw [addData_run haccepted]
    simp only [addKnownData, h.part.rpcType, addActionData, h.part.serviceType, h.part.actionType,
      addGoalReply]
    rw [run_bind_ok hrelated, run_bind_ok hread, h.action]
    exact hwrite
  exact ⟨s2, after_ok hrun, hpublished, hrecorded, hids ▸ hdrawn⟩

lemma Hears.uuid {dynType : DynType} (hdecode : env.decode dynType data.payload = some doc)
    (hu : goalOf doc = .ok u) :
    uuidFromRequestJson env (data.message topic) dynType = .ok (some u) := by
  unfold uuidFromRequestJson
  rw [prepareJsonData_message hdecode]
  exact catchJson_ok ((goalIdOf_wrap _ doc).trans hu)

lemma addData_goalAsked (h : Hears env topic data doc .request .goal actionName s)
    (hu : goalOf doc = .ok u) (hnew : s.handler.entry u = none)
    (haccept : env.goalAnswer actionName ((data.message topic).wrap doc) u data.sourceTimestamp =
      true)
    (hreply : CanReply env (actionName ++ actionGoalSuffix) t
      (.doc (createGoalReplyMsg true env.now)) s) :
    ∃ s', after (addData env topic data) s = s' ∧
      s.handler.nextRequestId.1 ∈ sentIds (newEvents s s') ∧
      .publishedRpc t (.doc (createGoalReplyMsg true env.now)) s.handler.nextRequestId.1 ∈
        s'.trace ∧
      s'.handler.entry u =
        some (.create actionName .goal s.handler.nextRequestId.1 .ros2 env.now) ∧
      drawnIds s'.trace = drawnIds s.trace ++ [s.handler.nextRequestId.1] := by
  obtain ⟨dynType, haccepted, hdecode⟩ := h.dynType
  have hrequest : IsActionRequest env topic data dynType actionName .goal u s :=
    ⟨haccepted, Hears.uuid hdecode hu, h.isRpc, h.part.rpcType, h.part.serviceType,
      h.part.actionType, h.action⟩
  have hdecision : storedDecision env actionName u ((data.message topic).wrap doc)
      data.sourceTimestamp = true := haccept
  obtain ⟨s', hrun, hentry, htrace⟩ :=
    goalRequest_run_none hrequest hnew (prepareJsonData_message hdecode)
  rw [hdecision, hreply.replyEvents] at htrace
  refine ⟨s', after_ok hrun, ?_, ?_, hentry, ?_⟩
  · rw [newEvents_eq htrace]
    simp [stampEvents, sentIds, Event.sentId]
  · rw [htrace]
    simp
  · rw [htrace]
    unfold goalRequestTold
    split <;> simp [stampEvents, drawnIds, Event.drawnId]

lemma Hears.resultRequest
    (h : Hears env topic data (createResultRequestMsg u) .request .result actionName s) :
    IsResultRequest env topic data actionName u s := by
  obtain ⟨dynType, haccepted, hdecode⟩ := h.dynType
  exact ⟨⟨dynType, haccepted, Hears.uuid hdecode (jsonToUuid_uuidJson u)⟩, h.isRpc,
    h.part.rpcType, h.part.serviceType, h.part.actionType, h.action⟩

lemma addData_resultAsked
    (h : Hears env topic data (createResultRequestMsg u) .request .result actionName s)
    (hi : s.handler.entry u = some i) (hname : i.actionName = actionName)
    (hresult : i.result.isEmpty = true) :
    ∃ s', after (addData env topic data) s = s' ∧
      s.handler.nextRequestId.1 ∈ sentIds (newEvents s s') ∧
      s'.handler.entry u = some (i.setRequest s.handler.nextRequestId.1 .result) ∧
      drawnIds s'.trace = drawnIds s.trace ++ [s.handler.nextRequestId.1] := by
  have hrun : (addData env topic data).run s = .ok () (s.requested env actionName u i) := by
    have hempty : (i.setRequest s.handler.nextRequestId.1 .result).result.isEmpty = true := hresult
    rw [addData_resultRequest_some h.resultRequest hi hname,
      replyStoredResult_run _ requested_entry, if_pos hempty]
  refine ⟨_, after_ok hrun, ?_, requested_entry, ?_⟩
  · rw [newEvents_eq requested_trace]
    simp [sentIds, Event.sentId]
  · rw [requested_trace]
    simp [drawnIds, Event.drawnId]

lemma addData_resultWaiting
    (h : Hears env topic data (createResultRequestMsg u) .request .result actionName s)
    (hi : s.handler.entry u = some i) (hname : i.actionName = actionName)
    (hresult : i.result.isEmpty = false)
    (hreply : CanReply env (actionName ++ actionResultSuffix) t i.result s) :
    ∃ s', after (addData env topic data) s = s' ∧
      s.handler.nextRequestId.1 ∈ sentIds (newEvents s s') ∧
      .publishedRpc t i.result s.handler.nextRequestId.1 ∈ s'.trace ∧
      s'.handler.entry u = none ∧
      drawnIds s'.trace = drawnIds s.trace ++ [s.handler.nextRequestId.1] := by
  have hsame : (i.setRequest s.handler.nextRequestId.1 .result).result = i.result := rfl
  have hfull : ¬ (i.setRequest s.handler.nextRequestId.1 .result).result.isEmpty = true := by
    simp [hsame, hresult]
  have hsteady : Steady s (s.requested env actionName u i) := ⟨rfl, rfl⟩
  obtain ⟨s', hsent, -, htrace, hentry⟩ :=
    (hreply.steady hsteady).result_sent u s.handler.nextRequestId.1
  have hrun : (addData env topic data).run s = .ok () s' := by
    rw [addData_resultRequest_some h.resultRequest hi hname,
      replyStoredResult_run _ requested_entry, if_neg hfull, run_discard, hsame, hsent]
  rw [requested_trace, List.append_assoc] at htrace
  refine ⟨s', after_ok hrun, ?_, ?_, hentry, ?_⟩
  · rw [newEvents_eq htrace]
    simp [sentIds, Event.sentId]
  · rw [htrace]
    simp
  · rw [htrace]
    simp [drawnIds, Event.drawnId]

lemma sendActionResult_sent {code : StatusCode} {json : JsonText} {reply : Json}
    (hi : s.handler.entry u = some i) (hname : i.actionName = actionName)
    (hasked : i.resultRequestId ≠ 0) (hmessage : createResultReplyMsg code json = .ok reply)
    (hreply : CanReply env (actionName ++ actionResultSuffix) t (.doc reply) s) :
    ∃ s', after (sendActionResult env actionName u code json) s = s' ∧ Steady s s' ∧
      .publishedRpc t (.doc reply) i.resultRequestId ∈ s'.trace ∧ s'.handler.entry u = none ∧
      drawnIds s'.trace = drawnIds s.trace := by
  obtain ⟨s', hsent, hsteady, htrace, hentry⟩ := hreply.result_sent u i.resultRequestId
  have hrun : (sendActionResult env actionName u code json).run s = .ok true s' := by
    rw [sendActionResult_run_some env code json hi hname, hmessage]
    simp only
    rw [if_pos hasked, hsent]
  refine ⟨s', after_ok hrun, hsteady, ?_, hentry, ?_⟩
  · rw [htrace]
    simp
  · rw [htrace]
    simp [drawnIds, Event.drawnId]

/-- A result that is not asked for yet is kept. -/
lemma sendActionResult_kept (env : Env) {code : StatusCode} {json : JsonText} {reply : Json}
    (hi : s.handler.entry u = some i) (hname : i.actionName = actionName)
    (hasked : i.resultRequestId = 0) (hresult : i.result.isEmpty = true)
    (hmessage : createResultReplyMsg code json = .ok reply) :
    ∃ s', after (sendActionResult env actionName u code json) s = s' ∧ Steady s s' ∧
      s'.handler.entry u = some { i with result := .doc reply } ∧
      drawnIds s'.trace = drawnIds s.trace := by
  have hset : i.setResult (.doc reply) = (true, { i with result := .doc reply }) := by
    have hdoc : (JsonText.doc reply).isEmpty = false := rfl
    simp [ActionRequestInfo.setResult, hdoc, hresult]
  have hrun : (sendActionResult env actionName u code json).run s =
      (setResult u (.doc reply)).run s := by
    rw [sendActionResult_run_some env code json hi hname, hmessage]
    simp only
    rw [if_neg (by simpa using hasked)]
  refine ⟨_, after_ok (hrun.trans (setResult_run s u _)), ⟨rfl, ?_⟩, ?_, ?_⟩
  · change (s.handler.setResult u (.doc reply)).2.schemas = _
    unfold Handler.setResult
    split <;> rfl
  · change (s.handler.setResult u (.doc reply)).2.entry u = _
    rw [Handler.entry_setResult, if_pos rfl, hi, Option.map_some, hset]
  · simp [drawnIds, Event.drawnId]

lemma addData_result (h : Hears env topic data doc .reply .result actionName s)
    (hfound : s.handler.getActionRequestUUID env.visitOrder data.relatedSequenceNumber .result =
      some u) (hi : s.handler.entry u = some i)
    (hlistens : env.callbacks.actionResultNotification = true) :
    ∃ s', after (addData env topic data) s = s' ∧
      .actionResultNotification actionName ((data.message topic).wrap doc) u data.sourceTimestamp ∈
        s'.trace ∧ s'.handler.entry u = Handler.eraseFlag .result i := by
  obtain ⟨dynType, haccepted, hdecode⟩ := h.dynType
  obtain ⟨s', hrun, htrace, hhandler⟩ := addData_resultReply env
    ⟨haccepted, h.isRpc, h.part.rpcType, h.part.serviceType, h.part.actionType, h.action⟩ hfound
  refine ⟨s', after_ok hrun, ?_, ?_⟩
  · rw [htrace]
    simp [resultReplyEvents, resultTold, prepareJsonData_message hdecode, hlistens]
    exact .inr rfl
  · rw [hhandler, Option.getD_some, Handler.entry_eraseActionUUID, if_pos rfl, count_entry, hi]
    rfl

end Steps

/-! ### An exchange -/

/-- A goal of a client's user and the result from a server's user, with the types and the samples of
the topics in between. -/
structure Exchange (ι : Type) where
  client : ι
  server : ι
  clientEnv : Env
  serverEnv : Env
  actionName : Str
  protocol : Protocol
  goal : Json
  code : StatusCode
  result : Json
  typeName : ServiceType → ActionType → Str
  sample : ServiceType → ActionType → Sample

namespace Exchange

variable {ι : Type} (x : Exchange ι)

def goalId : UUID := x.clientEnv.uuid

def topicName (st : ServiceType) (ty : ActionType) : Str :=
  (serviceTopic st x.protocol (partName x.actionName ty)).getD []

def topic (st : ServiceType) (ty : ActionType) : DdsTopic :=
  { topicName := x.topicName st ty, typeName := x.typeName st ty }

/-- What is sent. -/
def doc : ServiceType → ActionType → Json
  | .request, .goal => .obj [("goal".toList, x.goal), RpcUtils.goalId x.goalId]
  | .reply, .goal => createGoalReplyMsg true x.serverEnv.now
  | .request, _ => createResultRequestMsg x.goalId
  | _, _ => .obj [("result".toList, x.result), ("status".toList, .int x.code.toInt)]

/-- A request with the goal or for the result arrives. -/
def request (ty : ActionType) (r : Nat) : CallOp ι :=
  .deliver x.client x.server r x.serverEnv (x.topic .request ty) (x.sample .request ty)

/-- A reply to the request arrives. -/
def reply (ty : ActionType) (r n : Nat) : CallOp ι :=
  .deliver x.server x.client n x.clientEnv (x.topic .reply ty)
    { x.sample .reply ty with relatedSequenceNumber := r }

def send : CallOp ι :=
  .call x.client (.sendActionGoal x.clientEnv x.actionName (.doc x.goal) x.protocol)

def supply : CallOp ι :=
  .call x.server (.sendActionResult x.serverEnv x.actionName x.goalId x.code (.doc x.result))

/-- The steps. The identifiers are those that the client and the server give to the two requests. -/
def ops (early : Bool) (r n r' n' : Nat) : List (CallOp ι) :=
  [x.send, x.request .goal r, x.reply .goal r n] ++
    (if early then [x.supply, x.request .result r'] else [x.request .result r', x.supply]) ++
    [x.reply .result r' n']

/-- The client and the server, of which these are the states, can talk about the action. -/
structure Able (s t : State) : Prop where
  clientKnows : ∀ ty, ty = .goal ∨ ty = .result →
    Conveys x.clientEnv (x.topic .reply ty) (x.sample .reply ty) (x.doc .reply ty) s
  serverKnows : ∀ ty, ty = .goal ∨ ty = .result →
    Conveys x.serverEnv (x.topic .request ty) (x.sample .request ty) (x.doc .request ty) t
  clientSends : ∀ ty, ty = .goal ∨ ty = .result →
    s.rpcPublishable x.clientEnv (x.topicName .request ty) (.doc (x.doc .request ty)) = true
  serverSends : ∀ ty, ty = .goal ∨ ty = .result →
    CanReply x.serverEnv (partName x.actionName ty) (x.topicName .reply ty)
      (.doc (x.doc .reply ty)) t

/-- The names of the action are read back, the server's user accepts the goal, and the client's user
listens for the result. -/
structure Agreed : Prop where
  apart : x.client ≠ x.server
  protocol : x.protocol ≠ .unknown
  names : x.protocol = .dds → ∀ ty, RpcInfo.looksRos (partName x.actionName ty) = false
  accepts : x.serverEnv.goalAnswer x.actionName
    (((x.sample .request .goal).message (x.topic .request .goal)).wrap (x.doc .request .goal))
      x.goalId (x.sample .request .goal).sourceTimestamp = true
  listens : x.clientEnv.callbacks.actionResultNotification = true

lemma message_result :
    createResultReplyMsg x.code (.doc x.result) = .ok (x.doc .reply .result) := rfl

variable {x} {s s' t t' : State}

lemma Able.client (h : x.Able s t) (hs : Steady s s') : x.Able s' t where
  clientKnows ty hty := (h.clientKnows ty hty).steady hs
  serverKnows := h.serverKnows
  clientSends ty hty := (hs.rpcPublishable _ _ _).trans (h.clientSends ty hty)
  serverSends := h.serverSends

lemma Able.server (h : x.Able s t) (hs : Steady t t') : x.Able s t' where
  clientKnows := h.clientKnows
  serverKnows ty hty := (h.serverKnows ty hty).steady hs
  clientSends := h.clientSends
  serverSends ty hty := (h.serverSends ty hty).steady hs

lemma Agreed.topicName (h : x.Agreed) (st : ServiceType) (hst : st ≠ .none) (ty : ActionType) :
    serviceTopic st x.protocol (partName x.actionName ty) = some (x.topicName st ty) := by
  have hprotocol := h.protocol
  unfold Exchange.topicName
  cases st with
  | none => exact absurd rfl hst
  | request =>
    cases hp : x.protocol with
    | unknown => exact absurd hp hprotocol
    | _ => rfl
  | reply =>
    cases hp : x.protocol with
    | unknown => exact absurd hp hprotocol
    | _ => rfl

lemma Agreed.part (h : x.Agreed) (st : ServiceType) (hst : st ≠ .none) {ty : ActionType}
    (hty : RpcInfo.isServicePart ty) :
    (RpcInfo.ofTopic (x.topicName st ty)).IsPart st ty ∧
      (RpcInfo.ofTopic (x.topicName st ty)).actionName = x.actionName := by
  rw [ofTopic_serviceTopic (h.topicName st hst ty) fun hdds => h.names hdds ty, RpcInfo.ofService,
    partName, RpcInfo.actionPart_append x.actionName hty]
  exact ⟨⟨rfl, rfl, rfl⟩, rfl⟩

lemma Agreed.hears (hx : x.Agreed) {st : ServiceType} {ty : ActionType} {env : Env} {data : Sample}
    {doc : Json} {s : State} (h : Conveys env (x.topic st ty) data doc s) (hst : st ≠ .none)
    (hty : RpcInfo.isServicePart ty) :
    Hears env (x.topic st ty) data doc st ty x.actionName s :=
  ⟨h, (hx.part st hst hty).1, (hx.part st hst hty).2⟩

end Exchange

namespace Network

variable {ι : Type}

lemma Inv.found {w : List (NetOp ι)} {N : Network ι} (h : Inv (w, N)) (hlt : Within N) {i : ι}
    {r : Nat} {t : Str} {doc : Json} {u : UUID} {ty : ActionType} {j : ActionRequestInfo}
    (he : .publishedRpc t (.doc doc) r ∈ (N i).state.trace)
    (hread : (RpcInfo.ofTopic t).serviceType = .request)
    (hj : (N i).state.handler.entry u = some j) (hr : j.getRequest ty = .ok r)
    (order : VisitOrder) : (N i).state.handler.getActionRequestUUID order r ty = some u := by
  -- whatever goal has the identifier is the one in the request
  have hgoal : ∀ v k, (N i).state.handler.entry v = some k → k.getRequest ty = .ok r →
      goalOf doc = .ok v := by
    intro v k hk hreq
    refine h.goal_of_recorded hlt (fun hne => ?_ : N.Recorded i v r ty) he hread
    rw [(h.sound i).books.entry] at hk
    rcases record_of_replay hk hreq hne with ⟨k', hk', -⟩ | ⟨p, time, hmem⟩
    · cases hk'
    · exact ⟨_, p, time, hmem⟩
  refine scan_eq_some hj (RequestSystem.hasRequest_iff.mpr hr) (fun v k hk hreq => ?_)
    (order.perm _)
  have hv := hgoal v k hk (RequestSystem.hasRequest_iff.mp hreq)
  exact Except.ok.inj (hv.symm.trans (hgoal u j hj hr))

section Fits

variable {x : Exchange ι} {N : Network ι} {ty : ActionType} {r n : Nat}

lemma fits_request (hx : x.Agreed)
    (hknows : Conveys x.serverEnv (x.topic .request ty) (x.sample .request ty) (x.doc .request ty)
      (N x.server).state) (hty : RpcInfo.isServicePart ty)
    (hpub : .publishedRpc (x.topicName .request ty) (.doc (x.doc .request ty)) r ∈
      (N x.client).state.trace) : N.WholeFits (x.request ty r) := by
  obtain ⟨dynType, ⟨⟨typeId, hschema⟩, -, -⟩, hdecode⟩ := hknows.dynType
  refine ⟨x.doc .request ty, ?_, fun typeId' dynType' h => ?_⟩
  · have hread := (hx.part .request (by simp) hty).1.serviceType
    unfold Carries
    rw [show (x.topic .request ty).topicName = x.topicName .request ty from rfl, hread]
    exact hpub
  · rw [hschema] at h
    cases h
    exact hdecode

lemma fits_reply (hx : x.Agreed)
    (hknows : Conveys x.clientEnv (x.topic .reply ty) (x.sample .reply ty) (x.doc .reply ty)
      (N x.client).state) (hty : RpcInfo.isServicePart ty)
    (hpub : .publishedRpc (x.topicName .reply ty) (.doc (x.doc .reply ty)) n ∈
      (N x.server).state.trace) (hreceipt : ⟨n, x.client, r⟩ ∈ (N x.server).receipts) :
    N.WholeFits (x.reply ty r n) := by
  obtain ⟨dynType, ⟨⟨typeId, hschema⟩, -, -⟩, hdecode⟩ := hknows.dynType
  refine ⟨x.doc .reply ty, ?_, fun typeId' dynType' h => ?_⟩
  · have hread := (hx.part .reply (by simp) hty).1.serviceType
    unfold Carries
    rw [show (x.topic .reply ty).topicName = x.topicName .reply ty from rfl, hread]
    exact ⟨hpub, hreceipt⟩
  · rw [hschema] at h
    cases h
    exact hdecode

end Fits

end Network

namespace Exchange

open Network

variable {ι : Type} (x : Exchange ι)

/-! ### How far the exchange has come -/

/-- The client and the server are able to go on, and have identifiers left. -/
structure Underway [DecidableEq ι] (k : Nat) (N : Network ι) : Prop where
  reached : Reaches step Fits start N
  able : x.Able (N x.client).state (N x.server).state
  spare : ∀ i, (drawnIds (N i).state.trace).length + k < 2 ^ 64

/-- The client has sent the goal. -/
structure Sent (r : Nat) (N : Network ι) : Prop where
  request : .publishedRpc (x.topicName .request .goal) (.doc (x.doc .request .goal)) r ∈
    (N x.client).state.trace
  entry : ∃ i, (N x.client).state.handler.entry x.goalId = some i ∧ i.actionName = x.actionName ∧
    i.protocol = x.protocol ∧ i.goalRequestId = r ∧ i.finalStatusReceived = false

/-- The server has accepted it. -/
structure Granted (r n : Nat) (N : Network ι) : Prop extends x.Sent r N where
  receipt : ⟨n, x.client, r⟩ ∈ (N x.server).receipts
  reply : .publishedRpc (x.topicName .reply .goal) (.doc (x.doc .reply .goal)) n ∈
    (N x.server).state.trace
  accepted : (N x.server).state.handler.entry x.goalId =
    some (.create x.actionName .goal n .ros2 x.serverEnv.now)

/-- The client has asked for the result, and the server has the goal with the entry. -/
structure Asked (r' : Nat) (i : ActionRequestInfo) (N : Network ι) : Prop where
  request : .publishedRpc (x.topicName .request .result) (.doc (x.doc .request .result)) r' ∈
    (N x.client).state.trace
  asked : ∃ i, (N x.client).state.handler.entry x.goalId = some i ∧ i.resultRequestId = r' ∧
    i.finalStatusReceived = false
  accepted : (N x.server).state.handler.entry x.goalId = some i
  name : i.actionName = x.actionName

/-- The server has sent the result. -/
structure Answered (r' n' : Nat) (N : Network ι) : Prop where
  request : .publishedRpc (x.topicName .request .result) (.doc (x.doc .request .result)) r' ∈
    (N x.client).state.trace
  asked : ∃ i, (N x.client).state.handler.entry x.goalId = some i ∧ i.resultRequestId = r' ∧
    i.finalStatusReceived = false
  receipt : ⟨n', x.client, r'⟩ ∈ (N x.server).receipts
  reply : .publishedRpc (x.topicName .reply .result) (.doc (x.doc .reply .result)) n' ∈
    (N x.server).state.trace
  done : (N x.server).state.handler.entry x.goalId = none

/-- The client's user has been told of the result, and nothing is left to be done for the goal but
to hear of its last status. -/
structure Completed (N : Network ι) : Prop where
  told : .actionResultNotification x.actionName
    (((x.sample .reply .result).message (x.topic .reply .result)).wrap (x.doc .reply .result))
    x.goalId (x.sample .reply .result).sourceTimestamp ∈ (N x.client).state.trace
  received : ∃ i, (N x.client).state.handler.entry x.goalId = some i ∧ i.resultReceived = true
  done : (N x.server).state.handler.entry x.goalId = none

section Stages

variable [DecidableEq ι] {x} {N : Network ι} {k k' r n r' n' : Nat} {p : Party ι} {op : CallOp ι}
  {i : ActionRequestInfo}

lemma Underway.inv (h : x.Underway k N) : ∃ w, Inv (w, N) ∧ Within N := by
  have hlt : Within N := fun i => by
    have := h.spare i
    omega
  obtain ⟨w, hw, rfl⟩ := h.reached
  exact ⟨w, inv_run hw hlt, hlt⟩

lemma Underway.next_ne_zero (h : x.Underway (k + 1) N) (i : ι) :
    (N i).state.handler.nextRequestId.1 ≠ 0 := by
  obtain ⟨w, hinv, hlt⟩ := h.inv
  have hspare := h.spare i
  have hcounts : CountsUp 0 (drawnIds (N i).state.trace) (N i).state.handler.requestsId :=
    (hinv.sound i).books.counts
  obtain ⟨-, hcount⟩ := countsUp_range hcounts (by omega)
  change ((N i).state.handler.requestsId + 1) % 2 ^ 64 ≠ 0
  rw [hcount]
  omega

lemma Underway.update (h : x.Underway k N) (hfits : N.WholeFits op) {i : ι}
    (hN : N.wholeStep op = Function.update N i p)
    (hdrawn : (drawnIds p.state.trace).length + k' ≤ (drawnIds (N i).state.trace).length + k)
    (hk : k' ≤ k) (hable : x.Able (Function.update N i p x.client).state
      (Function.update N i p x.server).state) : x.Underway k' (N.wholeStep op) where
  reached := h.reached.trans (reaches_wholeStep N op hfits)
  able := hN ▸ hable
  spare j := by
    rw [hN]
    have hj := h.spare j
    have hi := h.spare i
    by_cases hji : j = i
    · subst hji
      rw [Function.update_self]
      omega
    · rw [Function.update_of_ne hji]
      omega

lemma send_step (hx : x.Agreed) (h : x.Underway (k + 1) N)
    (hfree : (N x.client).state.handler.entry x.goalId = none) :
    N.WholeFits x.send ∧ ∃ r, x.Underway k (N.wholeStep x.send) ∧ x.Sent r (N.wholeStep x.send) ∧
      N.wholeStep x.send x.server = N x.server := by
  have htopic := hx.topicName .request (by simp) .goal
  have hdoc : createGoalRequestMsg (.doc x.goal) x.clientEnv.uuid = .ok (x.doc .request .goal) :=
    rfl
  obtain ⟨s', hs', hsteady, hpub, hentry, hdrawn⟩ :=
    sendActionGoal_recorded hdoc htopic (h.able.clientSends .goal (.inl rfl)) hfree
  set p : Party ι := { N x.client with state := s' }
  have hN : N.wholeStep x.send = Function.update N x.client p := by
    simp [wholeStep, send, ApiCall.perform, hs', p]
  have hserver : Function.update N x.client p x.server = N x.server :=
    Function.update_of_ne hx.apart.symm ..
  refine ⟨trivial, (N x.client).state.handler.nextRequestId.1, ?_, ?_, ?_⟩
  · refine h.update trivial hN ?_ (by omega) ?_
    · rw [show p.state = s' from rfl, hdrawn]
      simp
      omega
    · rw [Function.update_self, hserver]
      exact h.able.client hsteady
  · rw [hN]
    constructor
    · rw [Function.update_self]
      exact hpub
    · rw [Function.update_self]
      exact ⟨_, hentry, rfl, rfl, rfl, rfl⟩
  · rw [hN, hserver]

lemma request_step (h : x.Underway (k + 1) N) {ty : ActionType} (hx : x.Agreed)
    (hfits : N.WholeFits (x.request ty r)) {t : State} {n : Nat}
    (ht : after (addData x.serverEnv (x.topic .request ty) (x.sample .request ty))
      (N x.server).state = t)
    (hstamp : n ∈ sentIds (newEvents (N x.server).state t))
    (hdrawn : drawnIds t.trace = drawnIds (N x.server).state.trace ++ [n]) :
    x.Underway k (N.wholeStep (x.request ty r)) ∧
      N.wholeStep (x.request ty r) x.client = N x.client ∧
      (N.wholeStep (x.request ty r) x.server).state = t ∧
      ⟨n, x.client, r⟩ ∈ (N.wholeStep (x.request ty r) x.server).receipts := by
  subst ht
  set p := (N x.server).receive x.client r x.serverEnv (x.topic .request ty) (x.sample .request ty)
  have hN : N.wholeStep (x.request ty r) = Function.update N x.server p := rfl
  have hclient : Function.update N x.server p x.client = N x.client :=
    Function.update_of_ne hx.apart ..
  refine ⟨h.update hfits hN ?_ (by omega) ?_, ?_, ?_, ?_⟩
  · rw [show p.state = after _ (N x.server).state from rfl, hdrawn]
    simp
    omega
  · rw [Function.update_self, hclient]
    exact h.able.server (steady_addData ..)
  · rw [hN, hclient]
  · rw [hN, Function.update_self]
    rfl
  · rw [hN, Function.update_self]
    exact List.mem_append_right _ (List.mem_map_of_mem hstamp)

lemma goal_step (hx : x.Agreed) (h : x.Underway (k + 1) N) (hsent : x.Sent r N)
    (hfree : (N x.server).state.handler.entry x.goalId = none) :
    N.WholeFits (x.request .goal r) ∧ ∃ n, x.Underway k (N.wholeStep (x.request .goal r)) ∧
      x.Granted r n (N.wholeStep (x.request .goal r)) := by
  have hknows := h.able.serverKnows .goal (.inl rfl)
  have hfits := fits_request hx hknows rfl hsent.request
  obtain ⟨t, ht, hstamp, hpub, hentry, hdrawn⟩ := addData_goalAsked
    (hx.hears hknows (by simp) rfl) (jsonToUuid_uuidJson x.goalId) hfree hx.accepts
    (h.able.serverSends .goal (.inl rfl))
  obtain ⟨hunder, hclient, hserver, hreceipt⟩ := request_step h hx hfits ht hstamp hdrawn
  refine ⟨hfits, _, hunder, ⟨⟨?_, ?_⟩, hreceipt, ?_, ?_⟩⟩
  · rw [hclient]
    exact hsent.request
  · rw [hclient]
    exact hsent.entry
  · rw [hserver]
    exact hpub
  · rw [hserver]
    exact hentry

lemma reply_wholeStep (hx : x.Agreed) (N : Network ι) (ty : ActionType) (r n : Nat) :
    N.wholeStep (x.reply ty r n) x.server = N x.server ∧
      (N.wholeStep (x.reply ty r n) x.client).state =
        after (addData x.clientEnv (x.topic .reply ty)
          { x.sample .reply ty with relatedSequenceNumber := r }) (N x.client).state := by
  change Function.update N x.client _ x.server = _ ∧
    (Function.update N x.client _ x.client).state = _
  rw [Function.update_of_ne hx.apart.symm, Function.update_self]
  exact ⟨rfl, rfl⟩

lemma heard_reply (hx : x.Agreed) (h : x.Underway k N) {ty : ActionType}
    (hty : ty = .goal ∨ ty = .result) {j : ActionRequestInfo}
    (hrequest : .publishedRpc (x.topicName .request ty) (.doc (x.doc .request ty)) r ∈
      (N x.client).state.trace)
    (hj : (N x.client).state.handler.entry x.goalId = some j) (hr : j.getRequest ty = .ok r)
    (hreceipt : ⟨n, x.client, r⟩ ∈ (N x.server).receipts)
    (hreply : .publishedRpc (x.topicName .reply ty) (.doc (x.doc .reply ty)) n ∈
      (N x.server).state.trace) :
    N.WholeFits (x.reply ty r n) ∧
      Hears x.clientEnv (x.topic .reply ty)
        { x.sample .reply ty with relatedSequenceNumber := r } (x.doc .reply ty) .reply ty
        x.actionName (N x.client).state ∧
      (N x.client).state.handler.getActionRequestUUID x.clientEnv.visitOrder r ty =
        some x.goalId := by
  have hpart : RpcInfo.isServicePart ty := by rcases hty with rfl | rfl <;> rfl
  have hknows := h.able.clientKnows ty hty
  obtain ⟨w, hinv, hlt⟩ := h.inv
  refine ⟨fits_reply hx hknows hpart hreply hreceipt, hx.hears ?_ (by simp) hpart, ?_⟩
  · obtain ⟨dynType, ⟨hschema, hpayload, howner⟩, hdecode⟩ := hknows.dynType
    exact ⟨⟨dynType, ⟨hschema, hpayload, howner⟩, hdecode⟩, hknows.isRpc⟩
  · exact hinv.found hlt hrequest (hx.part .request (by simp) hpart).1.serviceType hj hr _

lemma accepted_step (hx : x.Agreed) (h : x.Underway (k + 1) N) (hg : x.Granted r n N) :
    N.WholeFits (x.reply .goal r n) ∧ ∃ r' i, x.Underway k (N.wholeStep (x.reply .goal r n)) ∧
      x.Asked r' i (N.wholeStep (x.reply .goal r n)) ∧ i.resultRequestId = 0 ∧
      i.result.isEmpty = true := by
  obtain ⟨j, hj, hname, hprotocol, hid, hlast⟩ := hg.entry
  obtain ⟨hfits, hhears, hfound⟩ := heard_reply hx h (.inl rfl) hg.request hj
    (congrArg Except.ok hid) hg.receipt hg.reply
  have htopic := hx.topicName .request (by simp) .result
  rw [← hprotocol] at htopic
  obtain ⟨s', hs', hpub, hentry, hdrawn⟩ := addData_accepted hhears hfound hj hname htopic
    (h.able.clientSends .result (.inr rfl))
  obtain ⟨hserver, hclient⟩ := reply_wholeStep hx N .goal r n
  rw [hs'] at hclient
  set p := (N x.client).receive x.server n x.clientEnv (x.topic .reply .goal)
    { x.sample .reply .goal with relatedSequenceNumber := r }
  have hunder : x.Underway k (N.wholeStep (x.reply .goal r n)) := by
    refine h.update (p := p) hfits rfl ?_ (by omega) ?_
    · rw [show p.state = s' from hs', hdrawn]
      simp
      omega
    · change x.Able (N.wholeStep (x.reply .goal r n) x.client).state
        (N.wholeStep (x.reply .goal r n) x.server).state
      rw [hserver, hclient, ← hs']
      exact h.able.client (steady_addData ..)
  refine ⟨hfits, (N x.client).state.handler.nextRequestId.1,
    .create x.actionName .goal n .ros2 x.serverEnv.now, hunder, ⟨?_, ?_, ?_, rfl⟩, rfl, rfl⟩
  · rw [hclient]
    exact hpub
  · rw [hclient]
    exact ⟨_, hentry, rfl, hlast⟩
  · rw [hserver]
    exact hg.accepted

lemma supply_step (hx : x.Agreed) (h : x.Underway k N) {t : State}
    (ht : after (sendActionResult x.serverEnv x.actionName x.goalId x.code (.doc x.result))
      (N x.server).state = t) (hsteady : Steady (N x.server).state t)
    (hdrawn : drawnIds t.trace = drawnIds (N x.server).state.trace) :
    x.Underway k (N.wholeStep x.supply) ∧ N.wholeStep x.supply x.client = N x.client ∧
      N.wholeStep x.supply x.server = { N x.server with state := t } := by
  set p : Party ι := { N x.server with state := t }
  have hN : N.wholeStep x.supply = Function.update N x.server p := by
    simp [wholeStep, supply, ApiCall.perform, ht, p]
  have hclient : Function.update N x.server p x.client = N x.client :=
    Function.update_of_ne hx.apart ..
  refine ⟨h.update trivial hN ?_ le_rfl ?_, ?_, ?_⟩
  · rw [show p.state = t from rfl, hdrawn]
  · rw [Function.update_self, hclient]
    exact h.able.server hsteady
  · rw [hN, hclient]
  · rw [hN, Function.update_self]

lemma kept_step (hx : x.Agreed) (h : x.Underway k N) (ha : x.Asked r' i N)
    (hasked : i.resultRequestId = 0) (hresult : i.result.isEmpty = true) :
    x.Underway k (N.wholeStep x.supply) ∧
      x.Asked r' { i with result := .doc (x.doc .reply .result) } (N.wholeStep x.supply) := by
  obtain ⟨t, ht, hsteady, hentry, hdrawn⟩ :=
    sendActionResult_kept x.serverEnv ha.accepted ha.name hasked hresult x.message_result
  obtain ⟨hunder, hclient, hserver⟩ := supply_step hx h ht hsteady hdrawn
  refine ⟨hunder, ⟨?_, ?_, ?_, ha.name⟩⟩
  · rw [hclient]
    exact ha.request
  · rw [hclient]
    exact ha.asked
  · rw [hserver]
    exact hentry

lemma waiting_step (hx : x.Agreed) (h : x.Underway (k + 1) N) (ha : x.Asked r' i N)
    (hresult : i.result = .doc (x.doc .reply .result)) :
    N.WholeFits (x.request .result r') ∧ ∃ n', x.Underway k (N.wholeStep (x.request .result r')) ∧
      x.Answered r' n' (N.wholeStep (x.request .result r')) := by
  have hknows := h.able.serverKnows .result (.inr rfl)
  have hfits := fits_request hx hknows rfl ha.request
  have hfull : i.result.isEmpty = false := by
    rw [hresult]
    rfl
  obtain ⟨t, ht, hstamp, hpub, hentry, hdrawn⟩ := addData_resultWaiting
    (hx.hears hknows (by simp) rfl) ha.accepted ha.name hfull
    (hresult ▸ h.able.serverSends .result (.inr rfl))
  obtain ⟨hunder, hclient, hserver, hreceipt⟩ := request_step h hx hfits ht hstamp hdrawn
  refine ⟨hfits, _, hunder, ⟨?_, ?_, hreceipt, ?_, ?_⟩⟩
  · rw [hclient]
    exact ha.request
  · rw [hclient]
    exact ha.asked
  · rw [hserver, ← hresult]
    exact hpub
  · rw [hserver]
    exact hentry

lemma asked_step (hx : x.Agreed) (h : x.Underway (k + 1) N) (ha : x.Asked r' i N)
    (hresult : i.result.isEmpty = true) :
    N.WholeFits (x.request .result r') ∧ ∃ n', n' ≠ 0 ∧
      x.Underway k (N.wholeStep (x.request .result r')) ∧
      x.Asked r' (i.setRequest n' .result) (N.wholeStep (x.request .result r')) ∧
      ⟨n', x.client, r'⟩ ∈ (N.wholeStep (x.request .result r') x.server).receipts := by
  have hknows := h.able.serverKnows .result (.inr rfl)
  have hfits := fits_request hx hknows rfl ha.request
  obtain ⟨t, ht, hstamp, hentry, hdrawn⟩ := addData_resultAsked
    (hx.hears hknows (by simp) rfl) ha.accepted ha.name hresult
  obtain ⟨hunder, hclient, hserver, hreceipt⟩ := request_step h hx hfits ht hstamp hdrawn
  refine ⟨hfits, _, h.next_ne_zero x.server, hunder, ⟨?_, ?_, ?_, ha.name⟩, hreceipt⟩
  · rw [hclient]
    exact ha.request
  · rw [hclient]
    exact ha.asked
  · rw [hserver]
    exact hentry

lemma sent_step (hx : x.Agreed) (h : x.Underway k N) (hn : n' ≠ 0)
    (ha : x.Asked r' (i.setRequest n' .result) N)
    (hreceipt : ⟨n', x.client, r'⟩ ∈ (N x.server).receipts) :
    x.Underway k (N.wholeStep x.supply) ∧ x.Answered r' n' (N.wholeStep x.supply) := by
  obtain ⟨t, ht, hsteady, hpub, hentry, hdrawn⟩ := sendActionResult_sent ha.accepted ha.name hn
    x.message_result (h.able.serverSends .result (.inr rfl))
  obtain ⟨hunder, hclient, hserver⟩ := supply_step hx h ht hsteady hdrawn
  refine ⟨hunder, ⟨?_, ?_, ?_, ?_, ?_⟩⟩
  · rw [hclient]
    exact ha.request
  · rw [hclient]
    exact ha.asked
  · rw [hserver]
    exact hreceipt
  · rw [hserver]
    exact hpub
  · rw [hserver]
    exact hentry

lemma result_step (hx : x.Agreed) (h : x.Underway k N) (ha : x.Answered r' n' N) :
    N.WholeFits (x.reply .result r' n') ∧ x.Completed (N.wholeStep (x.reply .result r' n')) := by
  obtain ⟨j, hj, hid, hlast⟩ := ha.asked
  obtain ⟨hfits, hhears, hfound⟩ := heard_reply hx h (.inr rfl) ha.request hj
    (congrArg Except.ok hid) ha.receipt ha.reply
  obtain ⟨s', hs', htold, hentry⟩ := addData_result hhears hfound hj hx.listens
  obtain ⟨hserver, hclient⟩ := reply_wholeStep hx N .result r' n'
  rw [hs'] at hclient
  have herase : Handler.eraseFlag .result j = some { j with resultReceived := true } := by
    simp [Handler.eraseFlag, ActionRequestInfo.erase, hlast]
  refine ⟨hfits, ⟨?_, ⟨{ j with resultReceived := true }, ?_, rfl⟩, ?_⟩⟩
  · rw [hclient]
    exact htold
  · rw [hclient, hentry, herase]
  · rw [hserver]
    exact ha.done

/-- From the request for the result on, in either order. -/
lemma finish (hx : x.Agreed) (h : x.Underway (k + 1) N) (ha : x.Asked r' i N)
    (hasked : i.resultRequestId = 0) (hresult : i.result.isEmpty = true) (early : Bool) :
    ∃ n', Along wholeStep WholeFits N
        ((if early then [x.supply, x.request .result r'] else [x.request .result r', x.supply]) ++
          [x.reply .result r' n']) ∧
      x.Completed (run wholeStep N
        ((if early then [x.supply, x.request .result r'] else [x.request .result r', x.supply]) ++
          [x.reply .result r' n'])) := by
  cases early with
  | true =>
    obtain ⟨h, ha⟩ := kept_step hx h ha hasked hresult
    obtain ⟨hfits, n', h, ha⟩ := waiting_step hx h ha rfl
    obtain ⟨hfits', hdone⟩ := result_step hx h ha
    exact ⟨n', ⟨trivial, hfits, hfits', trivial⟩, hdone⟩
  | false =>
    obtain ⟨hfits, n', hn, h, ha, hreceipt⟩ := asked_step hx h ha hresult
    obtain ⟨h, ha⟩ := sent_step hx h hn ha hreceipt
    obtain ⟨hfits', hdone⟩ := result_step hx h ha
    exact ⟨n', ⟨hfits, trivial, hfits', trivial⟩, hdone⟩

end Stages

end Exchange

namespace Network

variable {ι : Type} [DecidableEq ι]

/-- **Goals complete.** Whatever calls have been made, a client and a server that know the
action can go on from the call that sends the goal to the notification of its result, which the
server's user supplies before it is asked for or afterwards. -/
theorem goal_completes (x : Exchange ι) {w : List (CallOp ι)}
    (hw : Along wholeStep WholeFits start w) (hx : x.Agreed)
    (hable : x.Able (run wholeStep start w x.client).state (run wholeStep start w x.server).state)
    (hnew : ∀ i, (run wholeStep start w i).state.handler.entry x.goalId = none)
    (hspare : ∀ i, (drawnIds (run wholeStep start w i).state.trace).length + 4 < 2 ^ 64)
    (early : Bool) :
    ∃ r n r' n', Along wholeStep WholeFits start (w ++ x.ops early r n r' n') ∧
      x.Completed (run wholeStep start (w ++ x.ops early r n r' n')) := by
  set N := run wholeStep start w
  have h : x.Underway 4 N := ⟨Reaches.of_run reaches_wholeStep hw, hable, hspare⟩
  obtain ⟨hsend, r, h, hsent, hsame⟩ := Exchange.send_step hx h (hnew x.client)
  obtain ⟨hgoal, n, h, hg⟩ := Exchange.goal_step hx h hsent (by rw [hsame]; exact hnew x.server)
  obtain ⟨haccepted, r', i, h, ha, hasked, hresult⟩ := Exchange.accepted_step hx h hg
  obtain ⟨n', hfits, hdone⟩ := Exchange.finish hx h ha hasked hresult early
  refine ⟨r, n, r', n', (along_append ..).mpr ⟨hw, hsend, hgoal, haccepted, hfits⟩, ?_⟩
  rw [run_append]
  exact hdone

/-! ### An action that is discovered and used -/

/-- One of two parties learns the type and discovers the topics of the action. -/
def learns (i : Bool) : List (CallOp Bool) :=
  .call i (.addSchema .silent ⟨[], 0⟩ 0) ::
    ["rq/fibonacci/_action/send_goalRequest", "rr/fibonacci/_action/send_goalReply",
      "rq/fibonacci/_action/get_resultRequest", "rr/fibonacci/_action/get_resultReply"].map
      fun t => .call i (.createReader .silent { topicName := t.toList })

/-- The payloads are numbered. -/
def fibonacciDocs : List Json :=
  [goalJson, createGoalReplyMsg true 0, createResultRequestMsg .null, resultJson]

def fibonacciEnv : Env :=
  { Env.silent with
    callbacks := listening
    decode := fun _ payload => payload.head?.bind fun k => fibonacciDocs[k.toNat]? }

def fibonacciSample : ServiceType → ActionType → Sample
  | .request, .goal => ⟨[0], true, 0, [], [], true, 0⟩
  | .reply, .goal => ⟨[1], true, 0, [], [], true, 0⟩
  | .request, _ => ⟨[2], true, 0, [], [], true, 0⟩
  | _, _ => ⟨[3], true, 0, [], [], true, 0⟩

def fibonacciExchange : Exchange Bool where
  client := true
  server := false
  clientEnv := fibonacciEnv
  serverEnv := fibonacciEnv
  actionName := Rendezvous.fibonacci
  protocol := .ros2
  goal := .null
  code := .succeeded
  result := .null
  typeName _ _ := []
  sample := fibonacciSample

lemma fibonacciExchange_agreed : fibonacciExchange.Agreed where
  apart := by decide
  protocol := by decide
  names h := by cases h
  accepts := rfl
  listens := rfl

lemma learns_fits : Along wholeStep WholeFits start (learns true ++ learns false) := by
  simp [learns, WholeFits, ApiCall.Fits]

lemma fibonacciExchange_able :
    fibonacciExchange.Able (run wholeStep start (learns true ++ learns false) true).state
      (run wholeStep start (learns true ++ learns false) false).state where
  clientKnows ty hty := by
    rcases hty with rfl | rfl <;> exact ⟨⟨⟨[], 0⟩, ⟨⟨0, rfl⟩, rfl, rfl⟩, rfl⟩, rfl⟩
  serverKnows ty hty := by
    rcases hty with rfl | rfl <;> exact ⟨⟨⟨[], 0⟩, ⟨⟨0, rfl⟩, rfl, rfl⟩, rfl⟩, rfl⟩
  clientSends ty hty := by
    rcases hty with rfl | rfl <;> rfl
  serverSends ty hty := by
    rcases hty with rfl | rfl <;> exact ⟨rfl, rfl⟩

theorem goal_completes_fibonacci : ∃ r n r' n',
    Along wholeStep WholeFits start
      ((learns true ++ learns false) ++ fibonacciExchange.ops true r n r' n') ∧
    fibonacciExchange.Completed (run wholeStep start
      ((learns true ++ learns false) ++ fibonacciExchange.ops true r n r' n')) :=
  goal_completes fibonacciExchange learns_fits fibonacciExchange_agreed fibonacciExchange_able
    (fun i => by cases i <;> rfl) (fun i => by cases i <;> decide +kernel) true

end Network

end DdsEnabler
