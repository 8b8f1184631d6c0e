import DdsEnabler.RoundTrip
import DdsEnabler.GoalRequests
import DdsEnabler.Lib.Provenance

/-!
All that a received sample can make the enabler do.

`BySample` lists the events, each with what in the sample and in the state it comes from: whom the
user is told of and in which words, which requests are recorded and under which identifiers, and
what is published in return. Whatever a sample of any topic holds, the handler does nothing else.
-/

namespace DdsEnabler

open Exec Provenance RpcUtils

/-! ### What the calls add to the trace -/

section Calls

variable {base : List Event} {p : List Event → Event → Prop}

lemma accrues_emit {e : Event} (h : ∀ l, base ⊆ l → p l e) :
    Keeps (Accrues State.trace base p) (emit e) := fun _ => .one rfl h

lemma accrues_erase {u : UUID} {reason : ActionEraseReason}
    (h : ∀ l, base ⊆ l → p l (.erasedAction u reason)) :
    Keeps (Accrues State.trace base p) (eraseActionUUID u reason) := fun _ => .one rfl h

variable [Persistent p]

lemma accrues_notify {b : Bool} {e : Event} (h : ∀ l, base ⊆ l → p l e) :
    Keeps (Accrues State.trace base p) (notify b e) := Keeps.notify fun _ => .one rfl h

lemma accrues_store (env : Env) {actionName : Str} {u : UUID} {id : Nat} {ty : ActionType}
    {protocol : Protocol}
    (h : ∀ l, base ⊆ l → p l (.storedRequest actionName u id ty protocol env.now)) :
    Keeps (Accrues State.trace base p)
      (storeActionRequest env actionName u id ty protocol) := by
  intro s
  rcases hb : (s.handler.storeActionRequest actionName u id ty protocol env.now).1
  · rw [after_ok (storeActionRequest_run_false s env hb)]
    exact refl_of _ s
  · rw [after_ok (storeActionRequest_run_true s env hb)]
    exact .one rfl h

section Requests

variable (env : Env) {serviceName : Str} {json : JsonText} {protocol : Protocol}

lemma accrues_sendServiceRequest (hdrawn : ∀ l id, p l (.newRequestId id))
    (hpub : ∀ l t id, requestTopic protocol serviceName = some t → p l (.publishedRpc t json id)) :
    Keeps (Accrues State.trace base p) (sendServiceRequest env serviceName json protocol) := by
  intro s
  unfold after
  rw [sendServiceRequest_run]
  rcases ht : requestTopic protocol serviceName with _ | t
  · exact refl_of (Accrues State.trace base p) s
  · have hdraw : Accrues State.trace base p s s.draw := .one rfl fun l _ => hdrawn l _
    by_cases h : s.draw.rpcPublishable env t json
    · simp only [h, if_true]
      exact trans_of _ hdraw (.one rfl fun l _ => hpub l _ _ ht)
    · simp only [h, Bool.false_eq_true, if_false]
      exact hdraw

omit [Persistent p] in
lemma published_of_sent {s t : State} {r : Bool × Nat}
    (h : (sendServiceRequest env serviceName json protocol).run s = .ok r t) (hr : r.1 = true) :
    ∃ topicName, requestTopic protocol serviceName = some topicName ∧
      .publishedRpc topicName json r.2 ∈ t.trace := by
  rw [sendServiceRequest_run] at h
  rcases ht : requestTopic protocol serviceName with _ | topicName
  · rw [ht] at h
    cases h
    cases hr
  · rw [ht] at h
    simp only at h
    split at h
    · cases h
      exact ⟨topicName, rfl, by simp⟩
    · cases h
      cases hr

omit [Persistent p] in
lemma accrues_sendServiceReply {requestId : Nat}
    (hpub : ∀ l protocol t, base ⊆ l → replyTopic protocol serviceName = some t →
      p l (.publishedRpc t json requestId)) :
    Keeps (Accrues State.trace base p) (sendServiceReply env serviceName json requestId) := by
  intro s
  rw [after_ok (sendServiceReply_eq env serviceName json requestId s)]
  unfold State.replyEvents
  split
  · exact .of_same (by simp)
  · next t ht =>
    split
    · exact .one rfl fun l hl => hpub l _ _ hl ht
    · exact .of_same (by simp)

end Requests

/-- A kind of events that has all that follows the acceptance of a goal: its result is requested,
the request is recorded once it has been published, and the goal is cancelled if that fails. -/
structure AllowsResultRequest (p : List Event → Event → Prop) (env : Env) (actionName : Str)
    (u : UUID) : Prop where
  drawn : ∀ l id, p l (.newRequestId id)
  published : ∀ l protocol t id, requestTopic protocol (actionName ++ actionResultSuffix) = some t →
    p l (.publishedRpc t (.doc (createResultRequestMsg u)) id)
  cancelled : ∀ l protocol t id, requestTopic protocol (actionName ++ actionCancelSuffix) = some t →
    p l (.publishedRpc t (.doc (createCancelRequestMsg u 0)) id)
  stored : ∀ l protocol t id, requestTopic protocol (actionName ++ actionResultSuffix) = some t →
    .publishedRpc t (.doc (createResultRequestMsg u)) id ∈ l →
    p l (.storedRequest actionName u id .result .ros2 env.now)
  requested : ∀ l sent, p l (.sendActionGetResultRequest actionName u sent)

section ResultRequest

variable {env : Env} {actionName : Str} {u : UUID} (hp : AllowsResultRequest p env actionName u)

include hp

lemma accrues_cancel :
    Keeps (Accrues State.trace base p) (cancelActionGoal env actionName u 0) := by
  unfold cancelActionGoal
  refine (Keeps.readHandler _).bind fun active => Keeps.ite (Keeps.pure _) ?_
  refine (Keeps.readHandler _).bind fun protocol => ?_
  exact (accrues_sendServiceRequest env hp.drawn fun l t id => hp.cancelled l _ t id).bind
    fun r => Keeps.pure _

lemma accrues_sendActionGetResultRequest :
    Keeps (Accrues State.trace base p) (sendActionGetResultRequest env actionName u) := by
  intro s
  unfold sendActionGetResultRequest
  rw [after_bind_ok (readHandler_run s _)]
  have hsend : Keeps (Accrues State.trace base p) (sendServiceRequest env
      (actionName ++ actionResultSuffix) (.doc (createResultRequestMsg u))
      (s.handler.getActionProtocol actionName u)) :=
    accrues_sendServiceRequest env hp.drawn fun l t id => hp.published l _ t id
  refine after_bind (fun e t h => after_error h ▸ hsend s) fun r t h => ?_
  refine trans_of _ (after_ok h ▸ hsend s) ?_
  obtain ⟨sent, id⟩ := r
  rcases sent
  · exact refl_of _ t
  · -- the request is stored after it has been published
    obtain ⟨topicName, htopic, hmem⟩ := published_of_sent env h rfl
    have hstore : Keeps (Accrues State.trace
        [.publishedRpc topicName (.doc (createResultRequestMsg u)) id] p)
        (storeActionRequest env actionName u id .result .ros2) :=
      accrues_store env fun l hl => hp.stored l _ _ id htopic (hl List.mem_cons_self)
    refine Accrues.given ((hstore.bind fun b => Keeps.ite (Keeps.pure _) ?_) t)
      (List.cons_subset.mpr ⟨hmem, List.nil_subset _⟩)
    exact (accrues_cancel hp).discard.bind fun _ => Keeps.pure _

lemma accrues_getResultRequestCallback :
    Keeps (Accrues State.trace base p) (getResultRequestCallback env actionName u) := by
  unfold getResultRequestCallback
  refine (accrues_sendActionGetResultRequest hp).bind fun sent => ?_
  have hemit : Keeps (Accrues State.trace base p) (do
      emit (.sendActionGetResultRequest actionName u sent)
      return sent) := (accrues_emit fun l _ => hp.requested l sent).bind fun _ => Keeps.pure _
  exact Keeps.ite ((accrues_cancel hp).discard.bind fun _ => hemit) hemit

end ResultRequest

lemma accrues_sendGoalReplyCallback (env : Env) {actionName : Str} {requestId : Nat}
    {accepted : Bool}
    (hpub : ∀ l protocol t, base ⊆ l →
      replyTopic protocol (actionName ++ actionGoalSuffix) = some t →
      p l (.publishedRpc t (.doc (createGoalReplyMsg accepted env.now)) requestId))
    (hreplied : ∀ l, base ⊆ l → p l (.sendActionSendGoalReply actionName requestId accepted)) :
    Keeps (Accrues State.trace base p)
      (sendGoalReplyCallback env actionName requestId accepted) := by
  unfold sendGoalReplyCallback sendActionSendGoalReply
  exact (accrues_sendServiceReply env hpub).discard.bind fun _ => accrues_emit hreplied

lemma accrues_getResultReplyCallback (env : Env) {actionName : Str} {u : UUID} {reply : JsonText}
    {requestId : Nat}
    (hpub : ∀ l protocol t, base ⊆ l →
      replyTopic protocol (actionName ++ actionResultSuffix) = some t →
      p l (.publishedRpc t reply requestId))
    (herased : ∀ l reason, p l (.erasedAction u reason))
    (hreplied : ∀ l sent, p l (.sendActionGetResultReply actionName u reply requestId sent)) :
    Keeps (Accrues State.trace base p)
      (getResultReplyCallback env actionName u reply requestId) := by
  unfold getResultReplyCallback sendActionGetResultReply
  refine ((accrues_sendServiceReply env hpub).bind fun sent => Keeps.ite ?_ (Keeps.pure _)).bind
    fun sent => (accrues_emit fun l _ => hreplied l sent).bind fun _ => Keeps.pure _
  exact (accrues_erase fun l _ => herased l _).bind fun _ => Keeps.pure _

end Calls

/-! ### What a sample is heard as -/

/-- What is answered to a goal: the answer of the user's callback, or else what happens to be in
the variable for it. -/
def Env.goalAnswer (env : Env) (actionName : Str) (json : Json) (u : UUID) (time : Int) : Bool :=
  match env.callbacks.actionGoalRequestNotification with
  | some callback => callback actionName json u time
  | none => env.garbageAccepted

/-- A topic of a service of an action. -/
structure RpcInfo.IsPart (info : RpcInfo) (st : ServiceType) (ty : ActionType) : Prop where
  rpcType : info.rpcType = .action
  serviceType : info.serviceType = st
  actionType : info.actionType = ty

section BySample

variable (env : Env) (info : RpcInfo) (data : Sample) (msg : Message) (doc : Json) (s : State)

/-- What a sample that holds the document `doc`, of a topic with the `info`, can make of the state
`s`. Requests get the next identifier there is. -/
inductive BySample (log : List Event) : Event → Prop
  | drawn (id : Nat) : BySample log (.newRequestId id)
  | erased (u : UUID) (reason : ActionEraseReason) : BySample log (.erasedAction u reason)
  | topic (h : info.rpcType = .none) :
    BySample log (.dataNotification msg.topic.topicName (msg.wrap doc) msg.publishTime)
  -- requests
  | stamped (h : info.serviceType = .request) :
    BySample log (.sentSequenceNumber s.handler.nextRequestId.1)
  | serviceRequest (h : info.rpcType = .service) (h' : info.serviceType = .request)
      (hstamp : .sentSequenceNumber s.handler.nextRequestId.1 ∈ log) :
    BySample log (.serviceRequestNotification info.serviceName (msg.wrap doc)
      s.handler.nextRequestId.1 msg.publishTime)
  | stored {ty : ActionType} {u : UUID} (h : info.IsPart .request ty)
      (hu : goalIdOf msg (msg.wrap doc) = .ok u)
      (hstamp : .sentSequenceNumber s.handler.nextRequestId.1 ∈ log) :
    BySample log (.storedRequest info.actionName u s.handler.nextRequestId.1 ty .ros2 env.now)
  | goalRequest {u : UUID} (h : info.IsPart .request .goal)
      (hu : goalIdOf msg (msg.wrap doc) = .ok u)
      (hstamp : .sentSequenceNumber s.handler.nextRequestId.1 ∈ log) :
    BySample log (.actionGoalRequestNotification info.actionName (msg.wrap doc) u msg.publishTime)
  | goalAnswer {u : UUID} {protocol : Protocol} {t : Str} (h : info.IsPart .request .goal)
      (hu : goalIdOf msg (msg.wrap doc) = .ok u)
      (hstamp : .sentSequenceNumber s.handler.nextRequestId.1 ∈ log)
      (ht : replyTopic protocol (info.actionName ++ actionGoalSuffix) = some t) :
    BySample log (.publishedRpc t (.doc (createGoalReplyMsg
      (env.goalAnswer info.actionName (msg.wrap doc) u msg.publishTime) env.now))
      s.handler.nextRequestId.1)
  | goalAnswered {u : UUID} (h : info.IsPart .request .goal)
      (hu : goalIdOf msg (msg.wrap doc) = .ok u)
      (hstamp : .sentSequenceNumber s.handler.nextRequestId.1 ∈ log) :
    BySample log (.sendActionSendGoalReply info.actionName s.handler.nextRequestId.1
      (env.goalAnswer info.actionName (msg.wrap doc) u msg.publishTime))
  | cancelRequest {u : UUID} {timestamp : Int} (h : info.IsPart .request .cancel)
      (hu : cancelRequestOf msg (msg.wrap doc) = .ok (u, timestamp))
      (hstamp : .sentSequenceNumber s.handler.nextRequestId.1 ∈ log) :
    BySample log (.actionCancelRequestNotification info.actionName u timestamp
      s.handler.nextRequestId.1 msg.publishTime)
  | resultReply {u : UUID} {i : ActionRequestInfo} {protocol : Protocol} {t : Str}
      (h : info.IsPart .request .result) (hu : goalIdOf msg (msg.wrap doc) = .ok u)
      (hi : s.handler.entry u = some i) (hname : i.actionName = info.actionName)
      (hresult : i.result.isEmpty = false)
      (ht : replyTopic protocol (info.actionName ++ actionResultSuffix) = some t)
      (hstored : .storedRequest info.actionName u s.handler.nextRequestId.1 .result .ros2 env.now
        ∈ log) :
    BySample log (.publishedRpc t i.result s.handler.nextRequestId.1)
  | resultReplied {u : UUID} {i : ActionRequestInfo} (sent : Bool)
      (h : info.IsPart .request .result) (hu : goalIdOf msg (msg.wrap doc) = .ok u)
      (hi : s.handler.entry u = some i) (hname : i.actionName = info.actionName) :
    BySample log (.sendActionGetResultReply info.actionName u i.result s.handler.nextRequestId.1
      sent)
  -- replies
  | serviceReply (h : info.rpcType = .service) (h' : info.serviceType ≠ .request) :
    BySample log (.serviceReplyNotification info.serviceName (msg.wrap doc)
      data.relatedSequenceNumber msg.publishTime)
  | decision {u : UUID} {accepted : Option Bool} (h : info.IsPart .reply .goal)
      (hu : s.handler.getActionRequestUUID env.visitOrder data.relatedSequenceNumber .goal = some u)
      (hread : catchJson ((acceptedOf msg (msg.wrap doc)).map some) none = .ok accepted) :
    BySample log (.actionStatusNotification info.actionName u (goalReplyStatus accepted).1
      (goalReplyStatus accepted).2 msg.publishTime)
  | resultRequest {u : UUID} {protocol : Protocol} {t : Str} (id : Nat)
      (h : info.IsPart .reply .goal)
      (hu : s.handler.getActionRequestUUID env.visitOrder data.relatedSequenceNumber .goal = some u)
      (hread : acceptedOf msg (msg.wrap doc) = .ok true)
      (ht : requestTopic protocol (info.actionName ++ actionResultSuffix) = some t) :
    BySample log (.publishedRpc t (.doc (createResultRequestMsg u)) id)
  | cancelled {u : UUID} {protocol : Protocol} {t : Str} (id : Nat) (h : info.IsPart .reply .goal)
      (ht : requestTopic protocol (info.actionName ++ actionCancelSuffix) = some t) :
    BySample log (.publishedRpc t (.doc (createCancelRequestMsg u 0)) id)
  | resultStored {u : UUID} {protocol : Protocol} {t : Str} {id : Nat}
      (h : info.IsPart .reply .goal)
      (hu : s.handler.getActionRequestUUID env.visitOrder data.relatedSequenceNumber .goal = some u)
      (hread : acceptedOf msg (msg.wrap doc) = .ok true)
      (ht : requestTopic protocol (info.actionName ++ actionResultSuffix) = some t)
      (hpub : .publishedRpc t (.doc (createResultRequestMsg u)) id ∈ log) :
    BySample log (.storedRequest info.actionName u id .result .ros2 env.now)
  | resultRequested {u : UUID} (sent : Bool) (h : info.IsPart .reply .goal)
      (hu : s.handler.getActionRequestUUID env.visitOrder data.relatedSequenceNumber .goal = some u)
      (hread : acceptedOf msg (msg.wrap doc) = .ok true) :
    BySample log (.sendActionGetResultRequest info.actionName u sent)
  | aborted {u : UUID} (h : info.IsPart .reply .goal)
      (hsent : .sendActionGetResultRequest info.actionName u false ∈ log) :
    BySample log (.actionStatusNotification info.actionName u .aborted "Action goal aborted"
      msg.publishTime)
  | cancelReply {u : UUID} {code : Int} {goals goal : Json} (h : info.IsPart .reply .cancel)
      (hcode : returnCodeOf msg (msg.wrap doc) = .ok code)
      (hgoals : (msg.dataOf (msg.wrap doc)).bind (·.index "goals_canceling".toList) = .ok goals)
      (hgoal : goal ∈ goals.elements)
      (hu : (goal.indexConst "goal_id".toList).bind jsonToUuid = .ok u) :
    BySample log (.actionStatusNotification info.actionName u (cancelReplyStatus code).1
      (cancelReplyStatus code).2 msg.publishTime)
  | result {u : UUID} (h : info.IsPart .reply .result)
      (hu : s.handler.getActionRequestUUID env.visitOrder data.relatedSequenceNumber .result =
        some u) :
    BySample log (.actionResultNotification info.actionName (msg.wrap doc) u msg.publishTime)
  -- topics of actions
  | feedback {u : UUID} {json : Json} (h : info.IsPart .none .feedback)
      (hread : feedbackOf msg (msg.wrap doc) = .ok (u, json)) :
    BySample log (.actionFeedbackNotification info.actionName json u msg.publishTime)
  | status {u : UUID} {code : StatusCode} {list status : Json} (h : info.IsPart .none .status)
      (hlist : (msg.dataOf (msg.wrap doc)).bind (·.index "status_list".toList) = .ok list)
      (hstatus : status ∈ list.elements) (hu : statusUuid status = .ok u)
      (hcode : statusCodeOf status = .ok code) :
    BySample log (.actionStatusNotification info.actionName u code (statusMessage code)
      msg.publishTime)

/-- The stamp that comes before all that is done with a request. -/
def stampOf : List Event := [.sentSequenceNumber s.handler.nextRequestId.1]

instance : Persistent (BySample env info data msg doc s) where
  mono hl h := by
    cases h
    case serviceRequest h h' hstamp => exact .serviceRequest h h' (hl hstamp)
    case stored h hu hstamp => exact .stored h hu (hl hstamp)
    case goalRequest h hu hstamp => exact .goalRequest h hu (hl hstamp)
    case goalAnswer h hu hstamp ht => exact .goalAnswer h hu (hl hstamp) ht
    case goalAnswered h hu hstamp => exact .goalAnswered h hu (hl hstamp)
    case cancelRequest h hu hstamp => exact .cancelRequest h hu (hl hstamp)
    case resultReply h hu hi hname hresult ht hstored =>
      exact .resultReply h hu hi hname hresult ht (hl hstored)
    case resultStored h hu hread ht hpub => exact .resultStored h hu hread ht (hl hpub)
    case aborted h hsent => exact .aborted h (hl hsent)
    all_goals constructor <;> assumption

/-! ### The writer -/

variable {env info data msg doc s} {dynType : DynType} {base : List Event}

lemma catchJson_some {α : Type} {r : Except Exc α} {a : α}
    (h : catchJson (r.map some) none = .ok (some a)) : r = .ok a := by
  rcases r with e | b
  · simp only [Except.map, catchJson] at h
    split at h
    · cases h
    · cases h
  · cases h
    rfl

lemma bySample_writeCancelledGoals {code : Int} {goals : Json} (h : info.IsPart .reply .cancel)
    (hcode : returnCodeOf msg (msg.wrap doc) = .ok code)
    (hgoals : (msg.dataOf (msg.wrap doc)).bind (·.index "goals_canceling".toList) = .ok goals) :
    ∀ l, l ⊆ goals.elements → Keeps (Accrues State.trace base (BySample env info data msg doc s))
      (writeCancelledGoals env msg info.actionName (cancelReplyStatus code) l)
  | [], _ => Keeps.pure ()
  | goal :: l, hl => by
    have ih := bySample_writeCancelledGoals h hcode hgoals l
      (List.Subset.trans (List.subset_cons_self _ _) hl)
    unfold writeCancelledGoals
    extract_lets id
    rcases hr : catchJson (id.map some) none with e | r
    · exact Keeps.throw e
    · rw [lift_ok, pure_bind]
      rcases r with _ | u
      · exact Keeps.pure ()
      · refine (Keeps.readHandler _).bind fun active => ?_
        have htell : Keeps (Accrues State.trace base (BySample env info data msg doc s))
            (notifyStatus env msg info.actionName u (cancelReplyStatus code).1
              (cancelReplyStatus code).2) :=
          accrues_notify fun _ _ => .cancelReply h hcode hgoals (hl List.mem_cons_self)
            (catchJson_some hr)
        exact Keeps.ite (htell.bind fun _ => ih) ih

lemma bySample_writeStatusList {list : Json} (h : info.IsPart .none .status)
    (hlist : (msg.dataOf (msg.wrap doc)).bind (·.index "status_list".toList) = .ok list) :
    ∀ l, l ⊆ list.elements → Keeps (Accrues State.trace base (BySample env info data msg doc s))
      (writeStatusList env msg info.actionName l)
  | [], _ => Keeps.pure ()
  | status :: l, hl => by
    have ih := bySample_writeStatusList h hlist l (List.Subset.trans (List.subset_cons_self _ _) hl)
    unfold writeStatusList
    rcases hu : catchJson ((statusUuid status).map some) none with e | u
    · exact Keeps.throw e
    · rw [lift_ok, pure_bind]
      rcases u with _ | u
      · exact Keeps.pure ()
      · refine (Keeps.readHandler _).bind fun active => Keeps.ite ?_ ih
        rcases hcode : catchJson ((statusCodeOf status).map some) none with e | code
        · exact Keeps.throw e
        · rw [lift_ok, pure_bind]
          rcases code with _ | code
          · exact Keeps.pure ()
          · have htell : Keeps (Accrues State.trace base (BySample env info data msg doc s)) (do
                notifyStatus env msg info.actionName u code (statusMessage code)
                writeStatusList env msg info.actionName l) :=
              (accrues_notify fun _ _ => .status h hlist (hl List.mem_cons_self)
                (catchJson_some hu) (catchJson_some hcode)).bind fun _ => ih
            exact Keeps.ite ((accrues_erase fun l _ => .erased _ _).bind fun _ => htell) htell

section Writer

variable (hjson : ∀ json, msg.prepareJsonData env dynType = some json → json = msg.wrap doc)

include hjson

lemma bySample_writeData (h : info.rpcType = .none) :
    Keeps (Accrues State.trace base (BySample env info data msg doc s))
      (writeData env msg dynType) := by
  unfold writeData
  rcases hj : msg.prepareJsonData env dynType with _ | json
  · exact Keeps.pure _
  · obtain rfl := hjson json hj
    exact accrues_notify fun l _ => .topic h

lemma bySample_writeServiceRequestNotification (h : info.rpcType = .service)
    (h' : info.serviceType = .request) :
    Keeps (Accrues State.trace (stampOf s) (BySample env info data msg doc s))
      (writeServiceRequestNotification env msg dynType s.handler.nextRequestId.1
        info.serviceName) := by
  unfold writeServiceRequestNotification
  rcases hj : msg.prepareJsonData env dynType with _ | json
  · exact Keeps.pure _
  · obtain rfl := hjson json hj
    exact accrues_notify fun l hl => .serviceRequest h h' (hl List.mem_cons_self)

lemma bySample_writeServiceReplyNotification (h : info.rpcType = .service)
    (h' : info.serviceType ≠ .request) :
    Keeps (Accrues State.trace base (BySample env info data msg doc s))
      (writeServiceReplyNotification env msg dynType data.relatedSequenceNumber
        info.serviceName) := by
  unfold writeServiceReplyNotification
  rcases hj : msg.prepareJsonData env dynType with _ | json
  · exact Keeps.pure _
  · obtain rfl := hjson json hj
    exact accrues_notify fun l _ => .serviceReply h h'

lemma bySample_writeActionResultNotification {u : UUID} (h : info.IsPart .reply .result)
    (hu : s.handler.getActionRequestUUID env.visitOrder data.relatedSequenceNumber .result =
      some u) :
    Keeps (Accrues State.trace base (BySample env info data msg doc s))
      (writeActionResultNotification env msg dynType u info.actionName) := by
  unfold writeActionResultNotification
  rcases hj : msg.prepareJsonData env dynType with _ | json
  · exact Keeps.pure _
  · obtain rfl := hjson json hj
    exact accrues_notify fun l _ => .result h hu

lemma bySample_writeActionFeedbackNotification (h : info.IsPart .none .feedback) :
    Keeps (Accrues State.trace base (BySample env info data msg doc s))
      (writeActionFeedbackNotification env msg dynType info.actionName) := by
  unfold writeActionFeedbackNotification
  split
  · next json _ hj =>
    obtain rfl := hjson json hj
    rcases hr : catchJson ((feedbackOf msg (msg.wrap doc)).map some) none with e | r
    · exact Keeps.throw e
    · rcases r with _ | ⟨u, feedback⟩
      · exact Keeps.pure ()
      · exact accrues_emit fun l _ => .feedback h (catchJson_some hr)
  · exact Keeps.pure ()

lemma bySample_writeActionGoalReplyNotification {u : UUID} (h : info.IsPart .reply .goal)
    (hu : s.handler.getActionRequestUUID env.visitOrder data.relatedSequenceNumber .goal =
      some u) :
    Keeps (Accrues State.trace base (BySample env info data msg doc s))
      (writeActionGoalReplyNotification env msg dynType u info.actionName) := by
  unfold writeActionGoalReplyNotification
  rcases hj : msg.prepareJsonData env dynType with _ | json
  · exact Keeps.pure _
  · obtain rfl := hjson json hj
    simp only
    rcases hr : catchJson ((acceptedOf msg (msg.wrap doc)).map some) none with e | accepted
    · exact Keeps.throw e
    · rw [lift_ok, pure_bind]
      refine (accrues_notify (p := BySample env info data msg doc s)
        fun l _ => .decision h hu hr).bind fun _ => ?_
      split
      · next haccepted =>
        have hread : acceptedOf msg (msg.wrap doc) = .ok true := by
          rcases accepted with _ | b
          · cases haccepted
          · cases b
            · cases haccepted
            · exact catchJson_some hr
        have hallows : AllowsResultRequest (BySample env info data msg doc s) env
            info.actionName u :=
          { drawn := fun l id => .drawn id
            published := fun l protocol t id ht => .resultRequest id h hu hread ht
            cancelled := fun l protocol t id ht => .cancelled id h ht
            stored := fun l protocol t id ht hpub => .resultStored h hu hread ht hpub
            requested := fun l sent => .resultRequested sent h hu hread }
        intro t
        have hsend : Accrues State.trace base _ t _ := accrues_getResultRequestCallback hallows t
        obtain ⟨sent, t', es, hrun, htrace, -, hsent⟩ := getResultRequestCallback_run
          coversRequest_followUp env info.actionName u t
        rw [after_bind_ok hrun]
        refine trans_of _ (after_ok hrun ▸ hsend) ?_
        have hrequested : [.sendActionGetResultRequest info.actionName u sent] ⊆ t'.trace := by
          simp [htrace, hsent]
        cases sent with
        | true => exact refl_of _ t'
        | false =>
          unfold notifyStatus
          cases env.callbacks.actionStatusNotification
          · exact refl_of _ t'
          · exact Accrues.given (.one rfl fun l hl => .aborted h (hl List.mem_cons_self)) hrequested
      · exact Keeps.pure ()

lemma bySample_writeActionCancelReplyNotification (h : info.IsPart .reply .cancel) :
    Keeps (Accrues State.trace base (BySample env info data msg doc s))
      (writeActionCancelReplyNotification env msg dynType info.actionName) := by
  unfold writeActionCancelReplyNotification
  rcases hj : msg.prepareJsonData env dynType with _ | json
  · exact Keeps.pure _
  · obtain rfl := hjson json hj
    simp only
    rcases hcode : catchJson ((returnCodeOf msg (msg.wrap doc)).map some) none with e | code
    · exact Keeps.throw e
    · rw [lift_ok, pure_bind]
      rcases code with _ | code
      · exact Keeps.pure ()
      · simp only
        rcases hgoals : catchJson (((msg.dataOf (msg.wrap doc)).bind
          (·.index "goals_canceling".toList)).map some) none with e | goals
        · exact Keeps.throw e
        · rw [lift_ok, pure_bind]
          rcases goals with _ | goals
          · exact Keeps.pure ()
          · exact bySample_writeCancelledGoals h (catchJson_some hcode) (catchJson_some hgoals)
              goals.elements (List.Subset.refl _)

lemma bySample_writeActionStatusNotification (h : info.IsPart .none .status) :
    Keeps (Accrues State.trace base (BySample env info data msg doc s))
      (writeActionStatusNotification env msg dynType info.actionName) := by
  unfold writeActionStatusNotification
  rcases hj : msg.prepareJsonData env dynType with _ | json
  · exact Keeps.pure _
  · obtain rfl := hjson json hj
    simp only
    rcases hlist : catchJson (((msg.dataOf (msg.wrap doc)).bind
      (·.index "status_list".toList)).map some) none with e | list
    · exact Keeps.throw e
    · rw [lift_ok, pure_bind]
      rcases list with _ | list
      · exact Keeps.pure ()
      · exact bySample_writeStatusList h (catchJson_some hlist) list.elements
          (List.Subset.refl _)

lemma bySample_writeActionRequestNotification {ty : ActionType} {u : UUID}
    (h : info.IsPart .request ty) (hu : goalIdOf msg (msg.wrap doc) = .ok u) :
    Keeps (Accrues State.trace (stampOf s) (BySample env info data msg doc s))
      (writeActionRequestNotification env msg dynType s.handler.nextRequestId.1 info.actionName
        ty) := by
  unfold writeActionRequestNotification
  rcases hj : msg.prepareJsonData env dynType with _ | json
  · exact Keeps.pure _
  · obtain rfl := hjson json hj
    simp only
    cases ty with
    | goal =>
      have hanswer : Keeps (Accrues State.trace (stampOf s) (BySample env info data msg doc s))
          (sendGoalReplyCallback env info.actionName s.handler.nextRequestId.1
            (env.goalAnswer info.actionName (msg.wrap doc) u msg.publishTime)) :=
        accrues_sendGoalReplyCallback env (fun l protocol t hl ht => .goalAnswer h hu
          (hl List.mem_cons_self) ht) fun l hl => .goalAnswered h hu (hl List.mem_cons_self)
      unfold writeGoalRequest
      rcases hcb : env.callbacks.actionGoalRequestNotification with _ | callback
      · rwa [Env.goalAnswer, hcb] at hanswer
      · simp only [hu, Except.map, catchJson, lift_ok, pure_bind]
        refine (accrues_emit fun l hl => .goalRequest h hu (hl List.mem_cons_self)).bind fun _ => ?_
        rwa [Env.goalAnswer, hcb] at hanswer
    | cancel =>
      unfold writeCancelRequest
      refine Keeps.ite ?_ (Keeps.pure ())
      rcases hr : catchJson ((cancelRequestOf msg (msg.wrap doc)).map some) none with e | r
      · exact Keeps.throw e
      · rw [lift_ok, pure_bind]
        rcases r with _ | ⟨v, timestamp⟩
        · exact Keeps.pure ()
        · exact accrues_emit fun l hl =>
            .cancelRequest h (catchJson_some hr) (hl List.mem_cons_self)
    | _ => exact Keeps.pure ()

end Writer

/-! ### Received samples -/

section Samples

variable {t : State}

lemma bySample_stamp (h : info.serviceType = .request)
    (ht : t.handler.nextRequestId.1 = s.handler.nextRequestId.1) {f : Nat → M Unit}
    (hf : ∀ t', (∀ v, t'.handler.entry v = t.handler.entry v) →
      Accrues State.trace (stampOf s) (BySample env info data msg doc s) t'
        (after (f s.handler.nextRequestId.1) t')) :
    Accrues State.trace base (BySample env info data msg doc s) t
      (after (stampRequest data >>= f) t) := by
  have hdraw : Accrues State.trace base (BySample env info data msg doc s) t t.draw :=
    .one rfl fun l _ => .drawn _
  refine after_bind (fun e t' h' => ?_) fun id t' h' => ?_
  · rw [stampRequest_run] at h'
    split at h'
    · cases h'
    · cases h'
      exact hdraw
  · rw [stampRequest_run] at h'
    split at h'
    · cases h'
      rw [ht]
      have hstamp : Accrues State.trace base (BySample env info data msg doc s) t.draw
          (t.draw.log (stampOf s)) := .one rfl fun l _ => .stamped h
      exact trans_of _ hdraw (trans_of _ hstamp
        (Accrues.given (hf _ fun v => rfl) (List.subset_append_right _ _)))
    · cases h'

variable (hjson : ∀ json, msg.prepareJsonData env dynType = some json → json = msg.wrap doc)

include hjson

lemma goalIdOf_request {u : UUID} (h : uuidFromRequestJson env msg dynType = .ok (some u)) :
    goalIdOf msg (msg.wrap doc) = .ok u := by
  obtain ⟨json, hj, hu⟩ := uuidFromRequestJson_some h
  obtain rfl := hjson json hj
  exact hu

lemma bySample_addServiceData (h : info.rpcType = .service)
    (ht : t.handler.nextRequestId.1 = s.handler.nextRequestId.1) :
    Accrues State.trace base (BySample env info data msg doc s) t
      (after (addServiceData env info data msg dynType) t) := by
  unfold addServiceData
  split
  · next hreq =>
    refine bySample_stamp hreq ht fun t' _ => ?_
    exact bySample_writeServiceRequestNotification hjson h hreq t'
  · next hreq =>
    unfold relatedRequestId requireRpc
    split
    · exact bySample_writeServiceReplyNotification hjson h hreq t
    · exact refl_of _ t

omit hjson in
lemma getActionRequestUUID_congr
    (ht : t.handler.actionRequestIdToUuid = s.handler.actionRequestIdToUuid) {order : VisitOrder}
    {id : Nat} {ty : ActionType} : t.handler.getActionRequestUUID order id ty =
      s.handler.getActionRequestUUID order id ty := by
  rw [Handler.getActionRequestUUID, ht]
  rfl

lemma bySample_addResultReply (h : info.IsPart .reply .result)
    (ht : t.handler.actionRequestIdToUuid = s.handler.actionRequestIdToUuid) :
    Accrues State.trace base (BySample env info data msg doc s) t
      (after (addResultReply env info data msg dynType) t) := by
  have herase : ∀ u, Keeps (Accrues State.trace base (BySample env info data msg doc s))
      (eraseActionUUID u .result) := fun u => accrues_erase fun l _ => .erased u _
  unfold addResultReply relatedRequestId requireRpc
  split
  · simp only [pure_bind]
    rw [after_bind_ok (readHandler_run t _)]
    rw [getActionRequestUUID_congr ht]
    rcases hu : s.handler.getActionRequestUUID env.visitOrder data.relatedSequenceNumber .result
      with _ | u
    · exact herase _ t
    · exact ((bySample_writeActionResultNotification hjson h hu).bind fun _ => herase u) t
  · exact refl_of _ t

lemma bySample_addGoalReply (h : info.IsPart .reply .goal)
    (ht : t.handler.actionRequestIdToUuid = s.handler.actionRequestIdToUuid) :
    Accrues State.trace base (BySample env info data msg doc s) t
      (after (addGoalReply env info data msg dynType) t) := by
  unfold addGoalReply relatedRequestId requireRpc
  split
  · simp only [pure_bind]
    rw [after_bind_ok (readHandler_run t _)]
    rw [getActionRequestUUID_congr ht]
    rcases hu : s.handler.getActionRequestUUID env.visitOrder data.relatedSequenceNumber .goal
      with _ | u
    · exact refl_of _ t
    · exact bySample_writeActionGoalReplyNotification hjson h hu t
  · exact refl_of _ t

lemma bySample_addActionRequest {ty : ActionType} (h : info.IsPart .request ty)
    (ht : t.handler.nextRequestId.1 = s.handler.nextRequestId.1) :
    Accrues State.trace base (BySample env info data msg doc s) t
      (after (addActionRequest env info data msg dynType) t) := by
  unfold addActionRequest
  refine bySample_stamp h.serviceType ht fun t' _ => ?_
  rcases hr : uuidFromRequestJson env msg dynType with e | r
  · exact refl_of _ t'
  · rw [lift_ok, pure_bind]
    rcases r with _ | u
    · exact refl_of _ t'
    · have hu := goalIdOf_request hjson hr
      have hstore : Keeps (Accrues State.trace (stampOf s) (BySample env info data msg doc s))
          (storeActionRequest env info.actionName u s.handler.nextRequestId.1 ty .ros2) :=
        accrues_store env fun l hl => .stored h hu (hl List.mem_cons_self)
      simp only [h.actionType]
      exact (hstore.bind fun b => Keeps.ite (bySample_writeActionRequestNotification hjson h hu)
        (Keeps.pure ())) t'

omit hjson in
lemma entry_resultStored {h : Handler} {actionName : Str} {u : UUID} {id : Nat}
    {protocol : Protocol} {now : Int}
    (hb : (h.storeActionRequest actionName u id .result protocol now).1 = true) :
    ∃ i, h.entry u = some i ∧ i.actionName = actionName ∧
      (h.storeActionRequest actionName u id .result protocol now).2.entry u =
        some (i.setRequest id .result) := by
  rcases hu : h.entry u with _ | i
  · simp [Handler.storeActionRequest, hu] at hb
  · by_cases hname : i.actionName = actionName
    · exact ⟨i, rfl, hname, by simp [Handler.storeActionRequest, hu, hname]⟩
    · simp [Handler.storeActionRequest, hu, hname] at hb

/-- A result is sent to a request if it is that of the goal, under the action that the goal is
recorded under. -/
lemma bySample_addResultRequest (h : info.IsPart .request .result)
    (ht : t.handler.nextRequestId.1 = s.handler.nextRequestId.1)
    (hentry : ∀ v, t.handler.entry v = s.handler.entry v) :
    Accrues State.trace base (BySample env info data msg doc s) t
      (after (addResultRequest env info data msg dynType) t) := by
  unfold addResultRequest
  rcases hr : uuidFromRequestJson env msg dynType with e | r
  · exact refl_of _ t
  · rw [lift_ok, pure_bind]
    rcases r with _ | u
    · exact refl_of _ t
    · have hu := goalIdOf_request hjson hr
      refine bySample_stamp h.serviceType ht fun t' ht' => ?_
      rcases hb : (t'.handler.storeActionRequest info.actionName u s.handler.nextRequestId.1
        .result .ros2 env.now).1
      · rw [after_bind_ok (storeActionRequest_run_false t' env hb)]
        exact refl_of _ t'
      · rw [after_bind_ok (storeActionRequest_run_true t' env hb)]
        set t'' : State := State.log _ _ with ht''
        have hstored : Event.storedRequest info.actionName u s.handler.nextRequestId.1 .result
            .ros2 env.now ∈ t''.trace := by simp [ht'']
        have hstep : Accrues State.trace (stampOf s) (BySample env info data msg doc s) t' t'' :=
          .one rfl fun l hl => .stored h hu (hl List.mem_cons_self)
        refine trans_of _ hstep ?_
        rw [if_pos rfl]
        unfold replyStoredResult
        rw [after_bind_ok (readHandler_run t'' _)]
        rcases hresult : t''.handler.getActionResult u with _ | result
        · exact refl_of _ t''
        · obtain ⟨i, hi, hname, hres, rfl⟩ : ∃ i, s.handler.entry u = some i ∧
              i.actionName = info.actionName ∧ i.result.isEmpty = false ∧ i.result = result := by
            obtain ⟨i, hi, hname, hi'⟩ := entry_resultStored hb
            have hi'' : t''.handler.entry u = some (i.setRequest _ .result) := hi'
            rw [Handler.getActionResult, hi''] at hresult
            simp only at hresult
            split at hresult
            · cases hresult
            · next hempty =>
              cases hresult
              have hkept : i.result.isEmpty = false := Bool.eq_false_iff.mpr hempty
              exact ⟨i, by rw [← hentry, ← ht', hi], hname, hkept, rfl⟩
          rw [after_discard]
          have hreply : Keeps (Accrues State.trace t''.trace (BySample env info data msg doc s))
              (getResultReplyCallback env info.actionName u i.result s.handler.nextRequestId.1) :=
            accrues_getResultReplyCallback env
              (fun l protocol topicName hl htopic => .resultReply h hu hi hname hres htopic
                (hl hstored)) (fun l reason => .erased u reason)
              fun l sent => .resultReplied sent h hu hi hname
          exact Accrues.given (hreply t'') (List.Subset.refl _)

lemma bySample_addActionData (h : info.rpcType = .action) (hmap : t.handler.actionRequestIdToUuid =
      s.handler.actionRequestIdToUuid)
    (ht : t.handler.nextRequestId.1 = s.handler.nextRequestId.1) :
    Accrues State.trace base (BySample env info data msg doc s) t
      (after (addActionData env info data msg dynType) t) := by
  have hentry : ∀ v, t.handler.entry v = s.handler.entry v := by simp [Handler.entry, hmap]
  unfold addActionData
  split
  · next h' h'' => exact bySample_addResultReply hjson ⟨h, h', h''⟩ hmap
  · next h' h'' => exact bySample_addGoalReply hjson ⟨h, h', h''⟩ hmap
  · next h' h'' =>
    exact ((keeps_relatedRequestId data).discard.bind fun _ =>
      bySample_writeActionCancelReplyNotification hjson ⟨h, h', h''⟩) t
  · next h' h'' => exact bySample_addActionRequest hjson ⟨h, h', h''⟩ ht
  · next h' h'' => exact bySample_addActionRequest hjson ⟨h, h', h''⟩ ht
  · next h' h'' => exact bySample_addResultRequest hjson ⟨h, h', h''⟩ ht hentry
  · next h' h'' => exact bySample_writeActionFeedbackNotification hjson ⟨h, h', h''⟩ t
  · next h' h'' => exact bySample_writeActionStatusNotification hjson ⟨h, h', h''⟩ t
  · exact refl_of _ t

end Samples

/-- **What a sample can do.** The handler does nothing with a sample that is not listed. -/
theorem bySample_addData (env : Env) (topic : DdsTopic) (data : Sample) (doc : Json) (s : State)
    (hdecode : ∀ typeId dynType d,
      s.handler.schemas.lookup topic.typeName = some (typeId, dynType) →
        env.decode dynType data.payload = some d → d = doc) :
    ∃ es, (after (addData env topic data) s).trace = s.trace ++ es ∧ ∀ e ∈ es,
      BySample env (.ofTopic topic.topicName) data (data.message topic) doc s
        (after (addData env topic data) s).trace e := by
  suffices Accrues State.trace [] (BySample env (.ofTopic topic.topicName) data
    (data.message topic) doc s) s (after (addData env topic data) s) from this (List.nil_subset _)
  unfold addData
  rw [after_bind_ok (readHandler_run s _)]
  rcases hschema : s.handler.schemas.lookup topic.typeName with _ | ⟨typeId, dynType⟩
  · exact refl_of _ s
  · have hjson : ∀ json, (data.message topic).prepareJsonData env dynType = some json →
        json = (data.message topic).wrap doc := by
      intro json hj
      obtain ⟨d, hd, rfl⟩ := Option.map_eq_some_iff.mp hj
      rw [hdecode typeId dynType d hschema hd]
    have hcount : Accrues State.trace [] (BySample env (.ofTopic topic.topicName) data
        (data.message topic) doc s) s s.count := .of_same rfl
    change Accrues _ _ _ s (after (onHandler _ >>= _) s)
    rw [after_bind_ok (onHandler_run s _)]
    refine trans_of _ hcount ?_
    split
    · exact refl_of _ s.count
    · unfold addKnownData
      split
      · next h => exact bySample_writeData hjson h s.count
      · next h => exact bySample_addServiceData hjson h rfl
      · next h => exact bySample_addActionData hjson h rfl rfl

end BySample

end DdsEnabler
