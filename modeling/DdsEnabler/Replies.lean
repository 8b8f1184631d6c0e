import DdsEnabler.Publications
import DdsEnabler.Rendezvous

/-!
Replies, and the requests that they answer.

A request gets its identifier when it is received, and its reply names that identifier. Nothing
keeps the identifiers of the requests that wait for a reply: a reply is published under
whatever identifier it is given. What the handler replies by itself, it replies to the request that
it has just received.
-/

namespace DdsEnabler

open Exec Runs Tables

/-! ### A reply -/

/-- What `get_service_protocol` returns. -/
def State.serviceProtocol (s : State) (serviceName : Str) : Protocol :=
  match s.participant.services.find serviceName with
  | some service => service.protocol
  | none => .unknown

/-- Every check of `send_service_reply`. The identifier of the request is in none of them. -/
def State.replyPublishable (s : State) (env : Env) (serviceName : Str) (json : JsonText) : Bool :=
  match replyTopic (s.serviceProtocol serviceName) serviceName with
  | none => false
  | some topicName => s.rpcPublishable env topicName json

/-- What is published for a reply. -/
def State.replyEvents (s : State) (env : Env) (serviceName : Str) (json : JsonText)
    (requestId : Nat) : List Event :=
  match replyTopic (s.serviceProtocol serviceName) serviceName with
  | none => []
  | some topicName =>
    if s.rpcPublishable env topicName json then [.publishedRpc topicName json requestId] else []

lemma sendServiceReply_eq (env : Env) (serviceName : Str) (json : JsonText) (requestId : Nat)
    (s : State) :
    (sendServiceReply env serviceName json requestId).run s =
      .ok (s.replyPublishable env serviceName json)
        (s.log (s.replyEvents env serviceName json requestId)) := by
  have hprotocol : (getServiceProtocol serviceName).run s =
      .ok (s.serviceProtocol serviceName) s := rfl
  unfold sendServiceReply State.replyPublishable State.replyEvents
  rw [run_bind_ok hprotocol]
  rcases replyTopic (s.serviceProtocol serviceName) serviceName with _ | topicName
  · simp
  · simp only [publishRpc_run]
    split <;> simp_all

lemma getResultReplyCallback_refused {actionName : Str} {json : JsonText} {s : State}
    (h : s.replyPublishable env (actionName ++ actionResultSuffix) json = false) (u : UUID)
    (id : Nat) :
    (getResultReplyCallback env actionName u json id).run s =
      .ok false (s.log (s.replyEvents env (actionName ++ actionResultSuffix) json id ++
        [.sendActionGetResultReply actionName u json id false])) := by
  have hreply := sendServiceReply_eq env (actionName ++ actionResultSuffix) json id s
  rw [h] at hreply
  simp [getResultReplyCallback, sendActionGetResultReply, hreply]

lemma getResultReplyCallback_sent {actionName : Str} {json : JsonText} {s : State}
    (h : s.replyPublishable env (actionName ++ actionResultSuffix) json = true) (u : UUID)
    (id : Nat) :
    (getResultReplyCallback env actionName u json id).run s =
      .ok true ({ s with handler := s.handler.eraseActionUUID u .forced }.log
        (s.replyEvents env (actionName ++ actionResultSuffix) json id ++
          [Event.erasedAction u .forced,
            .sendActionGetResultReply actionName u json id true])) := by
  have hreply := sendServiceReply_eq env (actionName ++ actionResultSuffix) json id s
  rw [h] at hreply
  simp [getResultReplyCallback, sendActionGetResultReply, hreply, State.log]

/-! ### Identifiers in the events -/

/-- The identifier under which an RPC is published. -/
def Event.publishedId : Event → Option Nat
  | .publishedRpc _ _ id => some id
  | _ => none

def publishedIds (es : List Event) : List Nat := es.filterMap Event.publishedId

/-- The identifier written into a received sample. -/
def Event.sentId : Event → Option Nat
  | .sentSequenceNumber id => some id
  | _ => none

def sentIds (es : List Event) : List Nat := es.filterMap Event.sentId

@[simp] lemma publishedIds_append (es es' : List Event) :
    publishedIds (es ++ es') = publishedIds es ++ publishedIds es' := List.filterMap_append ..
@[simp] lemma sentIds_append (es es' : List Event) :
    sentIds (es ++ es') = sentIds es ++ sentIds es' := List.filterMap_append ..

lemma publishedIds_quiet {es : List Event} (h : ∀ e ∈ es, e.isPublication = false) :
    publishedIds es = [] := by
  refine List.filterMap_eq_nil_iff.mpr fun e he => ?_
  have := h e he
  cases e <;> first | rfl | cases this

lemma publishedIds_replyEvents (s : State) (env : Env) (serviceName : Str) (json : JsonText)
    (id : Nat) : publishedIds (s.replyEvents env serviceName json id) =
      if s.replyPublishable env serviceName json then [id] else [] := by
  unfold State.replyEvents State.replyPublishable
  rcases replyTopic (s.serviceProtocol serviceName) serviceName with _ | topicName
  · rfl
  · simp only
    split <;> simp_all [publishedIds, Event.publishedId]

/-! ### What the handler replies by itself -/

/-- At most one RPC is published, under the identifier `id`. -/
def RepliesUnder (id : Nat) (s t : State) : Prop :=
  ∃ es, t.trace = s.trace ++ es ∧ (publishedIds es = [] ∨ publishedIds es = [id])

section RepliesUnder

variable {id : Nat} {s t u : State} {α β : Type} {x : M α} {f : α → M β}

lemma RepliesUnder.of_quiet (h : Quiet s t) : RepliesUnder id s t := by
  obtain ⟨es, htrace, hes⟩ := h
  exact ⟨es, htrace, .inl (publishedIds_quiet hes)⟩

lemma RepliesUnder.after_quiet (h : Quiet s t) (h' : RepliesUnder id t u) :
    RepliesUnder id s u := by
  obtain ⟨es, htrace, hes⟩ := h
  obtain ⟨es', htrace', hes'⟩ := h'
  refine ⟨es ++ es', by rw [htrace', htrace, List.append_assoc], ?_⟩
  rwa [publishedIds_append, publishedIds_quiet hes, List.nil_append]

lemma RepliesUnder.then_quiet (h : RepliesUnder id s t) (h' : Quiet t u) :
    RepliesUnder id s u := by
  obtain ⟨es, htrace, hes⟩ := h
  obtain ⟨es', htrace', hes'⟩ := h'
  refine ⟨es ++ es', by rw [htrace', htrace, List.append_assoc], ?_⟩
  rwa [publishedIds_append, publishedIds_quiet hes', List.append_nil]

lemma replies_of_quiet (h : Keeps Quiet x) : Keeps (RepliesUnder id) x :=
  fun s => .of_quiet (h s)

lemma replies_bind (hx : Keeps Quiet x) (hf : ∀ a, Keeps (RepliesUnder id) (f a)) :
    Keeps (RepliesUnder id) (x >>= f) := by
  intro s
  have hs := hx s
  refine after_bind (fun e t h => ?_) fun a t h => ?_
  · rw [after_error h] at hs
    exact .of_quiet hs
  · rw [after_ok h] at hs
    exact .after_quiet hs (hf a t)

lemma replies_bind_quiet (hx : Keeps (RepliesUnder id) x) (hf : ∀ a, Keeps Quiet (f a)) :
    Keeps (RepliesUnder id) (x >>= f) := by
  intro s
  have hs := hx s
  refine after_bind (fun e t h => ?_) fun a t h => ?_
  · rwa [after_error h] at hs
  · rw [after_ok h] at hs
    exact hs.then_quiet (hf a t)

variable (env : Env) (actionName : Str) (g : UUID) (json : JsonText)

lemma replies_sendServiceReply (serviceName : Str) :
    Keeps (RepliesUnder id) (sendServiceReply env serviceName json id) := by
  intro s
  rw [after_ok (sendServiceReply_eq env serviceName json id s)]
  refine ⟨_, rfl, ?_⟩
  rw [publishedIds_replyEvents]
  split
  · exact .inr rfl
  · exact .inl rfl

lemma replies_sendGoalReplyCallback (accepted : Bool) :
    Keeps (RepliesUnder id) (sendGoalReplyCallback env actionName id accepted) := by
  have hreply : Keeps (RepliesUnder id) (sendActionSendGoalReply env actionName id accepted) :=
    replies_bind_quiet (replies_sendServiceReply env _ _) fun _ => Keeps.pure _
  unfold sendGoalReplyCallback
  exact replies_bind_quiet hreply fun _ => Keeps.emit (quiet_log rfl)

lemma replies_getResultReplyCallback :
    Keeps (RepliesUnder id) (getResultReplyCallback env actionName g json id) := by
  have herase : Keeps Quiet (eraseActionUUID g .forced) := (admits_quiet none).erase g .forced
  have hreply : Keeps (RepliesUnder id) (sendActionGetResultReply env actionName g json id) := by
    unfold sendActionGetResultReply
    refine replies_bind_quiet (replies_sendServiceReply env json _) fun sent => ?_
    exact Keeps.ite (herase.bind fun _ => Keeps.pure _) (Keeps.pure _)
  unfold getResultReplyCallback
  refine replies_bind_quiet hreply fun sent => ?_
  exact (Keeps.emit (quiet_log rfl)).bind fun _ => Keeps.pure _

lemma replies_writeActionRequestNotification (msg : Message) (dynType : DynType)
    (ty : ActionType) : Keeps (RepliesUnder id)
      (writeActionRequestNotification env msg dynType id actionName ty) := by
  unfold writeActionRequestNotification writeGoalRequest
  split
  · exact replies_of_quiet (Keeps.pure _)
  · split
    · split
      · refine replies_bind (Keeps.lift _) fun r => ?_
        split
        · exact replies_of_quiet (Keeps.pure _)
        · exact replies_bind (Keeps.emit (quiet_log rfl)) fun _ =>
            replies_sendGoalReplyCallback env actionName _
      · exact replies_sendGoalReplyCallback env actionName _
    · exact replies_of_quiet (keeps_writeCancelRequest env (admits_quiet _) msg _ _)
    · exact replies_of_quiet (Keeps.pure _)

lemma replies_replyStoredResult : Keeps (RepliesUnder id)
    (replyStoredResult env actionName g id) := by
  unfold replyStoredResult
  refine replies_bind (Keeps.readHandler _) fun r => ?_
  split
  · exact replies_bind_quiet (replies_getResultReplyCallback env actionName g _) fun _ =>
      Keeps.pure _
  · exact replies_of_quiet (Keeps.pure _)

end RepliesUnder

/-- What is published for a received request, it publishes under the identifier written into
the sample, and once. -/
def RepliesToItself (s t : State) : Prop :=
  ∃ es, t.trace = s.trace ++ es ∧
    (publishedIds es = [] ∨ ∃ id, publishedIds es = [id] ∧ id ∈ sentIds es)

lemma RepliesToItself.of_quiet {s t : State} (h : Quiet s t) : RepliesToItself s t := by
  obtain ⟨es, htrace, hes⟩ := h
  exact ⟨es, htrace, .inl (publishedIds_quiet hes)⟩

lemma RepliesToItself.after_quiet {s t u : State} (h : Quiet s t) (h' : RepliesToItself t u) :
    RepliesToItself s u := by
  obtain ⟨es, htrace, hes⟩ := h
  obtain ⟨es', htrace', hes'⟩ := h'
  refine ⟨es ++ es', by rw [htrace', htrace, List.append_assoc], ?_⟩
  rw [publishedIds_append, publishedIds_quiet hes, List.nil_append, sentIds_append]
  exact hes'.imp_right fun ⟨id, hid, hmem⟩ => ⟨id, hid, List.mem_append_right _ hmem⟩

section Samples

variable (env : Env) (msg : Message) (dynType : DynType) (data : Sample) (info : RpcInfo)

lemma repliesToItself_stamp {f : Nat → M Unit} (hf : ∀ id, Keeps (RepliesUnder id) (f id))
    (s : State) : RepliesToItself s (after (stampRequest data >>= f) s) := by
  refine after_bind (fun e t h => ?_) fun id t h => ?_
  · have hs := quiet_stampRequest data s
    rw [after_error h] at hs
    exact .of_quiet hs
  · rw [stampRequest_run] at h
    split at h
    · cases h
      set t := s.draw.log [.sentSequenceNumber s.handler.nextRequestId.1] with ht
      have hstamp : t.trace = s.trace ++ stampEvents s.handler.nextRequestId.1 := by
        simp [ht, stampEvents]
      obtain ⟨es, htrace, hes⟩ := hf s.handler.nextRequestId.1 t
      refine ⟨stampEvents s.handler.nextRequestId.1 ++ es,
        by rw [htrace, hstamp, List.append_assoc], hes.imp_right fun h => ⟨_, h, ?_⟩⟩
      rw [sentIds_append]
      exact List.mem_append_left _ List.mem_cons_self
    · cases h

lemma repliesToItself_addActionRequest (s : State) :
    RepliesToItself s (after (addActionRequest env info data msg dynType) s) := by
  unfold addActionRequest
  refine repliesToItself_stamp data (fun id => ?_) s
  refine replies_bind (Keeps.lift _) fun u => ?_
  split
  · exact replies_of_quiet (Keeps.pure _)
  · refine replies_bind (quiet_storeActionRequest env _ _ _ _ _) fun stored => ?_
    split
    · exact replies_writeActionRequestNotification env _ _ _ _
    · exact replies_of_quiet (Keeps.pure _)

lemma repliesToItself_addResultRequest (s : State) :
    RepliesToItself s (after (addResultRequest env info data msg dynType) s) := by
  unfold addResultRequest
  rcases uuidFromRequestJson env msg dynType with e | u
  · exact .of_quiet (refl_of _ s)
  · rcases u with _ | u
    · exact .of_quiet (refl_of _ s)
    · refine repliesToItself_stamp data (fun id => ?_) s
      refine replies_bind (quiet_storeActionRequest env _ _ _ _ _) fun stored => ?_
      split
      · exact replies_replyStoredResult env _ _
      · exact replies_of_quiet (Keeps.pure _)

/-- **A request is answered under its own identifier**, if the handler answers it at all. -/
theorem repliesToItself_addData (topic : DdsTopic)
    (h : (RpcInfo.ofTopic topic.topicName).serviceType = .request) (s : State) :
    RepliesToItself s (after (addData env topic data) s) := by
  by_cases hans : (RpcInfo.ofTopic topic.topicName).Answered
  · obtain ⟨hrpc, ⟨hreply, -⟩ | ⟨-, hty⟩⟩ := hans
    · rw [h] at hreply
      cases hreply
    · unfold addData
      rw [after_bind_ok (readHandler_run s _)]
      rcases s.handler.schemas.lookup topic.typeName with _ | ⟨typeId, dynType⟩
      · exact .of_quiet (refl_of _ s)
      · have hcount : Quiet s { s with handler := s.handler.countSample } := quiet_of_trace rfl
        change RepliesToItself s (after (onHandler _ >>= _) s)
        rw [after_bind_ok (onHandler_run s _)]
        split
        · exact .of_quiet hcount
        · refine .after_quiet hcount ?_
          rcases hty with hty | hty
          · simp only [addKnownData, hrpc, addActionData, h, hty]
            exact repliesToItself_addActionRequest env _ dynType data _ _
          · simp only [addKnownData, hrpc, addActionData, h, hty]
            exact repliesToItself_addResultRequest env _ dynType data _ _
  · exact .of_quiet (quiet_addData env data topic hans s)

end Samples

end DdsEnabler
