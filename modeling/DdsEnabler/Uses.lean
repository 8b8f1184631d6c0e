import DdsEnabler.TopicNames
import DdsEnabler.Replies

/-!
Which request identifiers are used up.

An identifier is used when a request is published under it, or when it is written into a received
sample. Both take one that has just been drawn. A reply is published under the identifier of its
request and uses none, for no topic name of a reply is read as that of a request.
-/

namespace DdsEnabler

open Exec RpcInfo

/-! ### Topics that are published on -/

section Topics

variable {p : Protocol} {st : ServiceType} {s t : Str}

lemma actionPart_of_getLast? (h : s.getLast? = some '_') : actionPart s = none := by
  have hne : ∀ u : Str, u.getLast? ≠ some '_' → u ≠ [] → ¬ u <:+ s := by
    intro u hlast hu hs
    exact hlast ((getLast?_of_suffix hs hu).symm.trans h)
  exact actionPart_eq_none.mpr ⟨hne _ (by decide) (by decide), hne _ (by decide) (by decide),
    hne _ (by decide) (by decide)⟩

lemma getLast?_serviceTopic (ht : serviceTopic st p s = some t) :
    t.getLast? = some (if st = .request then 't' else 'y') := by
  cases st with
  | request =>
    cases p <;> cases ht <;> exact getLast?_of_suffix (List.suffix_append _ _) (by decide)
  | reply =>
    cases p <;> cases ht <;> exact getLast?_of_suffix (List.suffix_append _ _) (by decide)
  | none => cases ht

lemma serviceTopic_kind {p' : Protocol} {st' : ServiceType} {s' : Str}
    (ht : serviceTopic st p s = some t) (ht' : serviceTopic st' p' s' = some t) : st' = st := by
  have hlast := (getLast?_serviceTopic ht').symm.trans (getLast?_serviceTopic ht)
  have hne := serviceTopic_ne_none ht
  have hne' := serviceTopic_ne_none ht'
  cases st <;> cases st' <;> first | rfl | contradiction

lemma getLast?_of_slash {pre s' suffix : Str} (hpre : pre.getLast? = some '/')
    (h : pre ++ s' ++ suffix = s ++ '_' :: suffix) : s'.getLast? = some '_' := by
  have hlast : (pre ++ s').getLast? = some '_' := by
    rw [List.append_cons, List.append_cancel_right_eq] at h
    rw [h, List.getLast?_concat]
  rcases s' with _ | ⟨c, s'⟩
  · rw [List.append_nil, hpre] at hlast
    cases hlast
  · rwa [List.getLast?_append_of_ne_nil _ (List.cons_ne_nil c s')] at hlast

/-- A topic built with the names of DDS is built for one service with them, and for one with an
underscore at its end with those of ROS 2. -/
lemma serviceTopic_dds {p' : Protocol} {s' : Str} (ht : serviceTopic st .dds s = some t)
    (ht' : serviceTopic st p' s' = some t) :
    (p' = .dds ∧ s' = s) ∨ (p' = .ros2 ∧ s'.getLast? = some '_') := by
  cases st with
  | request =>
    cases ht
    cases p' with
    | dds => exact .inl ⟨rfl, List.append_cancel_right (Option.some.inj ht')⟩
    | ros2 => exact .inr ⟨rfl, getLast?_of_slash rfl (Option.some.inj ht')⟩
    | unknown => cases ht'
  | reply =>
    cases ht
    cases p' with
    | dds => exact .inl ⟨rfl, List.append_cancel_right (Option.some.inj ht')⟩
    | ros2 => exact .inr ⟨rfl, getLast?_of_slash rfl (Option.some.inj ht')⟩
    | unknown => cases ht'
  | none => cases ht

/-- A topic of a service is read as one of the same kind and of the same service, if it is read as
one at all. A name of DDS that looks like one of ROS 2 is read as another, with an underscore at
its end. -/
lemma ofTopic_built (ht : serviceTopic st p s = some t)
    (hread : (RpcInfo.ofTopic t).serviceType ≠ .none) :
    (RpcInfo.ofTopic t).serviceType = st ∧ ((RpcInfo.ofTopic t).serviceName = s ∨
      (RpcInfo.ofTopic t).rpcType = .service ∧
        (RpcInfo.ofTopic t).serviceName.getLast? = some '_') := by
  rcases topic_shape t with ⟨p', st', s', ht', h'⟩ | ⟨pre, base, -, -, h⟩ | ⟨-, h⟩
  · obtain rfl := serviceTopic_kind ht ht'
    rw [ofTopic_serviceTopic ht' h', serviceType_ofService, serviceName_ofService]
    refine ⟨rfl, ?_⟩
    cases p with
    | ros2 =>
      left
      have hsame := congrArg RpcInfo.serviceName
        ((ofTopic_serviceTopic ht' h').symm.trans (ofTopic_serviceTopic ht (by simp)))
      simpa using hsame
    | unknown => cases st' <;> cases ht
    | dds =>
      rcases serviceTopic_dds ht ht' with ⟨rfl, rfl⟩ | ⟨rfl, hlast⟩
      · exact .inl rfl
      · rw [ofService, actionPart_of_getLast? hlast]
        exact .inr ⟨rfl, hlast⟩
  · rw [h, serviceType_ofTopicSuffix] at hread
    exact absurd rfl hread
  · rw [h] at hread
    exact absurd rfl hread

lemma ofTopic_named (ht : serviceTopic st p s = some t)
    (hread : (RpcInfo.ofTopic t).serviceType ≠ .none)
    (hlast : (RpcInfo.ofTopic t).serviceName.getLast? ≠ some '_') :
    (RpcInfo.ofTopic t).serviceName = s :=
  (ofTopic_built ht hread).2.resolve_right fun h => hlast h.2

lemma ofTopic_part (ht : serviceTopic st p s = some t)
    (hread : (RpcInfo.ofTopic t).serviceType ≠ .none)
    (haction : (RpcInfo.ofTopic t).rpcType = .action) :
    RpcInfo.actionPart s =
      some ((RpcInfo.ofTopic t).actionName, (RpcInfo.ofTopic t).actionType) := by
  obtain ⟨hname, hpart⟩ := serviceName_ofTopic haction hread
  rcases (ofTopic_built ht hread).2 with h | ⟨h, -⟩
  · rw [← h, hname]
    exact actionPart_append _ hpart
  · rw [h] at haction
    cases haction

lemma serviceType_ofTopic (t : Str) :
    ((RpcInfo.ofTopic t).rpcType = .none → (RpcInfo.ofTopic t).serviceType = .none) ∧
      ((RpcInfo.ofTopic t).rpcType = .service → (RpcInfo.ofTopic t).serviceType ≠ .none) := by
  rcases topic_shape t with ⟨p, st, s, ht, hros⟩ | ⟨pre, base, -, -, h⟩ | ⟨-, h⟩
  · rw [ofTopic_serviceTopic ht hros, serviceType_ofService]
    refine ⟨fun hnone => ?_, fun _ => serviceTopic_ne_none ht⟩
    rw [ofService] at hnone
    split at hnone <;> cases hnone
  · rw [h, serviceType_ofTopicSuffix]
    refine ⟨fun _ => rfl, fun hservice => ?_⟩
    rw [ofTopicSuffix] at hservice
    repeat' split at hservice
    all_goals cases hservice
  · rw [h]
    exact ⟨fun _ => rfl, fun hservice => by cases hservice⟩

end Topics

/-! ### Identifiers that are used -/

/-- The identifier that an event uses up. The topics of requests end alike in both protocols. -/
def Event.usedId : Event → Option Nat
  | .publishedRpc topicName _ id => if rosRequestSuffix.isSuffixOf topicName then some id else none
  | .sentSequenceNumber id => some id
  | _ => none

def usedIds (es : List Event) : List Nat := es.filterMap Event.usedId

@[simp] lemma usedIds_append (es es' : List Event) :
    usedIds (es ++ es') = usedIds es ++ usedIds es' := List.filterMap_append ..

section Published

variable {p : Protocol} {s t : Str}

lemma usedId_request (ht : requestTopic p s = some t) (json : JsonText) (id : Nat) :
    (Event.publishedRpc t json id).usedId = some id := by
  refine if_pos (List.isSuffixOf_iff_suffix.mpr ?_)
  cases p with
  | ros2 =>
    cases ht
    exact List.suffix_append _ _
  | dds =>
    cases ht
    have hsuffix : rosRequestSuffix <:+ ddsRequestSuffix := by decide
    exact hsuffix.trans (List.suffix_append _ _)
  | unknown => cases ht

lemma usedId_reply (ht : replyTopic p s = some t) (json : JsonText) (id : Nat) :
    (Event.publishedRpc t json id).usedId = none := by
  refine if_neg fun h => ?_
  have ht' : serviceTopic .reply p s = some t := ht
  have hlast := getLast?_of_suffix (List.isSuffixOf_iff_suffix.mp h) (by decide)
  rw [getLast?_serviceTopic ht'] at hlast
  cases hlast

lemma usedId_read (h : (RpcInfo.ofTopic t).serviceType = .request) (json : JsonText) (id : Nat) :
    (Event.publishedRpc t json id).usedId = some id := by
  rcases topic_shape t with ⟨p, st, s, ht, hros⟩ | ⟨pre, base, -, -, hinfo⟩ | ⟨-, hinfo⟩
  · rw [ofTopic_serviceTopic ht hros, serviceType_ofService] at h
    subst h
    exact usedId_request ht json id
  · rw [hinfo, serviceType_ofTopicSuffix] at h
    cases h
  · rw [hinfo] at h
    cases h

end Published

/-- What is used has just been drawn. -/
def Spends (s t : State) : Prop :=
  ∃ es, t.trace = s.trace ++ es ∧ (usedIds es).Sublist (drawnIds es)

instance : IsPreorder State Spends where
  refl s := ⟨[], by simp, .refl _⟩
  trans s t r := by
    rintro ⟨es, h, hes⟩ ⟨es', h', hes'⟩
    refine ⟨es ++ es', by rw [h', h, List.append_assoc], ?_⟩
    rw [usedIds_append, drawnIds_append]
    exact hes.append hes'

lemma spends_of_trace {s t : State} (h : t.trace = s.trace) : Spends s t :=
  ⟨[], by simp [h], .refl _⟩

lemma spends_log {e : Event} (h : e.usedId = none) (s : State) : Spends s (s.log [e]) := by
  refine ⟨[e], rfl, ?_⟩
  rw [usedIds, List.filterMap_cons_none h]
  exact List.nil_sublist _

lemma usedId_of_isNotice {e : Event} (h : e.isNotice) : e.usedId = none := by
  cases e <;> first | rfl | cases h

lemma admits_spends (o : Option Nat) : Admits o Spends where
  notice he _ := spends_log (usedId_of_isNotice he)
  erase u reason _ := spends_log (e := .erasedAction u reason) rfl _

section Operations

variable (env : Env) (data : Sample)

lemma spends_stampRequest : Keeps Spends (stampRequest data) := by
  intro s
  unfold after
  rw [stampRequest_run]
  split
  · next h =>
    split at h
    · cases h
      exact ⟨stampEvents s.handler.nextRequestId.1, by simp [stampEvents], .refl _⟩
    · cases h
  · next h =>
    split at h
    · cases h
    · cases h
      exact ⟨[.newRequestId s.handler.nextRequestId.1], rfl, List.nil_sublist _⟩

lemma spends_storeActionRequest (actionName : Str) (u : UUID) (id : Nat) (ty : ActionType)
    (p : Protocol) : Keeps Spends (storeActionRequest env actionName u id ty p) := by
  intro s
  rcases h : (s.handler.storeActionRequest actionName u id ty p env.now).1
  · rw [after_ok (storeActionRequest_run_false s env h)]
    exact refl_of _ s
  · rw [after_ok (storeActionRequest_run_true s env h)]
    exact spends_log (e := .storedRequest actionName u id ty p env.now) rfl _

lemma spends_eraseActionUUID (u : UUID) (reason : ActionEraseReason) :
    Keeps Spends (eraseActionUUID u reason) := (admits_spends none).erase u reason

lemma spends_sendServiceRequest (serviceName : Str) (json : JsonText) (protocol : Protocol) :
    Keeps Spends (sendServiceRequest env serviceName json protocol) := by
  intro s
  unfold after
  rw [sendServiceRequest_run]
  rcases ht : requestTopic protocol serviceName with _ | topicName
  · exact refl_of Spends s
  · by_cases h : s.draw.rpcPublishable env topicName json
    · simp only [h, if_true]
      refine ⟨[.newRequestId s.handler.nextRequestId.1,
        .publishedRpc topicName json s.handler.nextRequestId.1], by simp, ?_⟩
      rw [usedIds, List.filterMap_cons_none rfl,
        List.filterMap_cons_some (usedId_request ht json _)]
      exact .refl _
    · simp only [h, Bool.false_eq_true, if_false]
      exact ⟨[.newRequestId s.handler.nextRequestId.1], rfl, List.nil_sublist _⟩

lemma spends_sendServiceReply (serviceName : Str) (json : JsonText) (requestId : Nat) :
    Keeps Spends (sendServiceReply env serviceName json requestId) := by
  intro s
  rw [after_ok (sendServiceReply_eq env serviceName json requestId s)]
  unfold State.replyEvents
  split
  · exact spends_of_trace (by simp)
  · next topicName ht =>
    split
    · exact spends_log (usedId_reply ht json requestId) s
    · exact spends_of_trace (by simp)

lemma spends_cancelActionGoal (actionName : Str) (goalId : UUID) (timestamp : Int) :
    Keeps Spends (cancelActionGoal env actionName goalId timestamp) := by
  unfold cancelActionGoal
  refine (Keeps.readHandler _).bind fun active => Keeps.ite (Keeps.pure _) ?_
  refine (Keeps.readHandler _).bind fun protocol => ?_
  exact (spends_sendServiceRequest env _ _ protocol).bind fun r => Keeps.pure _

lemma spends_sendActionGetResultRequest (actionName : Str) (u : UUID) :
    Keeps Spends (sendActionGetResultRequest env actionName u) := by
  unfold sendActionGetResultRequest
  refine (Keeps.readHandler _).bind fun protocol => ?_
  refine (spends_sendServiceRequest env _ _ protocol).bind fun r => Keeps.ite ?_ (Keeps.pure _)
  refine (spends_storeActionRequest env _ _ _ _ _).bind fun b => Keeps.ite (Keeps.pure _) ?_
  exact (spends_cancelActionGoal env actionName u 0).discard.bind fun _ => Keeps.pure _

lemma spends_getResultRequestCallback (actionName : Str) (u : UUID) :
    Keeps Spends (getResultRequestCallback env actionName u) := by
  unfold getResultRequestCallback
  refine (spends_sendActionGetResultRequest env actionName u).bind fun sent => ?_
  have hemit : Keeps Spends (do
      emit (.sendActionGetResultRequest actionName u sent)
      return sent) := (Keeps.emit (spends_log rfl)).bind fun _ => Keeps.pure _
  exact Keeps.ite ((spends_cancelActionGoal env actionName u 0).discard.bind fun _ => hemit) hemit

lemma spends_sendGoalReplyCallback (actionName : Str) (requestId : Nat) (accepted : Bool) :
    Keeps Spends (sendGoalReplyCallback env actionName requestId accepted) := by
  unfold sendGoalReplyCallback sendActionSendGoalReply
  exact (spends_sendServiceReply env _ _ _).discard.bind fun _ => Keeps.emit (spends_log rfl)

lemma spends_getResultReplyCallback (actionName : Str) (u : UUID) (json : JsonText)
    (requestId : Nat) : Keeps Spends (getResultReplyCallback env actionName u json requestId) := by
  unfold getResultReplyCallback sendActionGetResultReply
  have hsend := spends_sendServiceReply env (actionName ++ actionResultSuffix) json requestId
  refine (hsend.bind fun sent => Keeps.ite ?_ (Keeps.pure _)).bind fun sent =>
    (Keeps.emit (spends_log rfl)).bind fun _ => Keeps.pure _
  exact (spends_eraseActionUUID u .forced).bind fun _ => Keeps.pure _

lemma spends_handleActionResult (actionName : Str) (u : UUID) (result : JsonText) :
    Keeps Spends (handleActionResult env actionName u result) := by
  unfold handleActionResult
  refine (Keeps.readHandler _).bind fun i => ?_
  split
  · exact Keeps.pure _
  · refine Keeps.ite (Keeps.pure _) (Keeps.ite ?_ ?_)
    · exact spends_getResultReplyCallback env actionName u result _
    · exact fun s => spends_log (e := .resultSet u result) rfl _

/-! ### Received samples -/

variable (msg : Message) (dynType : DynType) (info : RpcInfo)

lemma spends_writeActionGoalReplyNotification (u : UUID) (actionName : Str) :
    Keeps Spends (writeActionGoalReplyNotification env msg dynType u actionName) := by
  have htell := fun c m => keeps_notifyStatus env (admits_spends none) msg actionName u c m
  unfold writeActionGoalReplyNotification
  split
  · exact Keeps.pure _
  · refine (Keeps.lift _).bind fun accepted => (htell _ _).bind fun _ => Keeps.ite ?_ (Keeps.pure _)
    exact (spends_getResultRequestCallback env actionName u).bind fun sent =>
      Keeps.ite (htell _ _) (Keeps.pure _)

lemma spends_writeActionRequestNotification (requestId : Nat) (actionName : Str)
    (actionType : ActionType) :
    Keeps Spends
      (writeActionRequestNotification env msg dynType requestId actionName actionType) := by
  unfold writeActionRequestNotification writeGoalRequest
  split
  · exact Keeps.pure _
  · split
    · split
      · refine (Keeps.lift _).bind fun r => ?_
        split
        · exact Keeps.pure _
        · refine (Keeps.emit (spends_log rfl)).bind fun _ => ?_
          exact spends_sendGoalReplyCallback env actionName requestId _
      · exact spends_sendGoalReplyCallback env actionName requestId _
    · exact keeps_writeCancelRequest env (admits_spends _) msg actionName _
    · exact Keeps.pure _

lemma spends_addActionRequest : Keeps Spends (addActionRequest env info data msg dynType) := by
  unfold addActionRequest
  refine (spends_stampRequest data).bind fun id => (Keeps.lift _).bind fun r => ?_
  split
  · exact Keeps.pure _
  · refine (spends_storeActionRequest env _ _ _ _ _).bind fun b => Keeps.ite ?_ (Keeps.pure _)
    exact spends_writeActionRequestNotification env msg dynType id _ _

lemma spends_addResultRequest : Keeps Spends (addResultRequest env info data msg dynType) := by
  unfold addResultRequest replyStoredResult
  refine (Keeps.lift _).bind fun r => ?_
  split
  · exact Keeps.pure _
  · refine (spends_stampRequest data).bind fun id => ?_
    refine (spends_storeActionRequest env _ _ _ _ _).bind fun b => Keeps.ite ?_ (Keeps.pure _)
    refine (Keeps.readHandler _).bind fun r => ?_
    split
    · exact (spends_getResultReplyCallback env _ _ _ _).discard
    · exact Keeps.pure _

lemma spends_addServiceData : Keeps Spends (addServiceData env info data msg dynType) := by
  unfold addServiceData
  refine Keeps.ite ((spends_stampRequest data).bind fun id => ?_)
    ((keeps_relatedRequestId data).bind fun id => ?_)
  · exact keeps_writeServiceRequestNotification env (admits_spends _) msg dynType _
  · exact keeps_writeServiceReplyNotification env (admits_spends none) msg dynType id _

lemma spends_addGoalReply : Keeps Spends (addGoalReply env info data msg dynType) := by
  unfold addGoalReply
  refine (keeps_relatedRequestId data).bind fun id => (Keeps.readHandler _).bind fun found => ?_
  split
  · exact spends_writeActionGoalReplyNotification env msg dynType _ _
  · exact Keeps.pure _

lemma spends_addActionData : Keeps Spends (addActionData env info data msg dynType) := by
  unfold addActionData
  split
  · exact keeps_addResultReply env msg dynType data info (admits_spends none)
  · exact spends_addGoalReply env data msg dynType info
  · exact keeps_addCancelReply env msg dynType data info (admits_spends none)
  · exact spends_addActionRequest env data msg dynType info
  · exact spends_addActionRequest env data msg dynType info
  · exact spends_addResultRequest env data msg dynType info
  · exact keeps_writeActionFeedbackNotification env (admits_spends none) msg dynType _
  · exact keeps_writeActionStatusNotification env (admits_spends none) msg dynType _
  · exact Keeps.pure _

/-- **A received sample uses what it has drawn.** -/
theorem spends_addData (topic : DdsTopic) : Keeps Spends (addData env topic data) := by
  unfold addData
  refine (Keeps.readHandler _).bind fun schema => ?_
  split
  · exact Keeps.pure _
  refine Keeps.bind (fun s => spends_of_trace rfl) fun _ => Keeps.ite (Keeps.throw _) ?_
  unfold addKnownData
  split
  · exact keeps_writeData env (admits_spends none) _ _
  · exact spends_addServiceData env data _ _ _
  · exact spends_addActionData env data _ _ _

end Operations

end DdsEnabler
