import DdsEnabler.ApiCalls

/-!
A ledger of the requests that are received, and of the replies that are sent.

The enabler keeps no such ledger, and a reply goes out under whatever identifier it is given. So it
is the user who has to reply to what there is to reply to: to the requests that it has been told of,
once to each. Then every reply answers a request, also those that the handler sends by itself, and
those to the requests for results that it keeps with the goals.
-/

namespace DdsEnabler

open Exec Runs RpcUtils

/-! ### Steps in which no request is heard -/

/-- What an operation hears of requests: one is received, the user is told of one, or one for a
result is stored. -/
def Event.isHeard : Event → Bool
  | .sentSequenceNumber _ | .storedRequest _ _ _ .result _ _ => true
  | .serviceRequestNotification .. | .actionCancelRequestNotification .. => true
  | _ => false

/-- The events tell what a step does to the map of goals and to the counter, and no request is
heard. -/
structure Unheard (new : List Event) (s t : State) : Prop where
  trace : t.trace = s.trace ++ new
  entry : ∀ u, t.handler.entry u = replay u new (s.handler.entry u)
  counts : CountsUp s.handler.requestsId (drawnIds new) t.handler.requestsId
  stored : (storedIds new).Sublist (drawnIds new)
  heard : ∀ e ∈ new, e.isHeard = false

/-- A step in which no request is heard. -/
def Deaf (s t : State) : Prop := ∃ new, Unheard new s t

instance : IsPreorder State Deaf where
  refl s := ⟨[], by simp, fun _ => rfl, rfl, .refl _, by simp⟩
  trans s t r := by
    rintro ⟨new, h⟩ ⟨new', h'⟩
    refine ⟨new ++ new', by rw [h'.trace, h.trace, List.append_assoc], ?_, ?_, ?_, ?_⟩
    · intro u
      rw [h'.entry, h.entry, replay_append]
    · rw [drawnIds_append]
      exact h.counts.append h'.counts
    · rw [drawnIds_append, storedIds_append]
      exact h.stored.append h'.stored
    · intro e he
      rcases List.mem_append.mp he with he | he
      · exact h.heard e he
      · exact h'.heard e he

lemma deaf_of_effect {new : List Event} {s t : State} (h : Effect new s t)
    (hstored : (storedIds new).Sublist (drawnIds new)) (hheard : ∀ e ∈ new, e.isHeard = false) :
    Deaf s t := ⟨new, h.trace, h.entry, h.counts, hstored, hheard⟩

lemma deaf_of_step {o : Option Nat} {new : List Event} {s t : State} (h : Step o new s t)
    (hheard : ∀ e ∈ new, e.isHeard = false) : Deaf s t :=
  deaf_of_effect h.toEffect h.stored hheard

lemma deaf_of_explores {s t : State} (h : Explores s t) : Deaf s t := by
  obtain ⟨hhandler, es, htrace, hes⟩ := h
  have hnil : ∀ {β : Type} {f : Event → Option β}, (∀ e : Event, e.isDiscovery → f e = none) →
      es.filterMap f = [] :=
    fun hf => List.filterMap_eq_nil_iff.mpr fun e he => hf e (hes e he)
  have hdrawn : drawnIds es = [] := hnil fun e he => by cases e <;> first | rfl | cases he
  have hstored : storedIds es = [] := hnil fun e he => by cases e <;> first | rfl | cases he
  refine ⟨es, htrace, fun u => ?_, ?_, ?_, fun e he => ?_⟩
  · rw [replay_discovery hes, hhandler]
    rfl
  · rw [hdrawn, hhandler]
    rfl
  · rw [hstored]
    exact List.nil_sublist _
  · have := hes e he
    cases e <;> first | rfl | cases this

section Calls

variable (env : Env)

lemma deaf_emit {e : Event} (he : e.isPlain) (hheard : e.isHeard = false) :
    Keeps Deaf (emit e) :=
  Keeps.emit fun s => deaf_of_effect (effect_log he s)
    (by cases e <;> first | exact .refl _ | cases he) (by simpa using hheard)

lemma deaf_draw : Keeps Deaf getNewRequestId :=
  fun s => deaf_of_step (step_draw (o := none) s) (by simp [Event.isHeard])

lemma deaf_erase (u : UUID) (reason : ActionEraseReason) : Keeps Deaf (eraseActionUUID u reason) :=
  fun s => deaf_of_step (step_erase (o := none) u reason s) (by simp [Event.isHeard])

lemma deaf_setResult (u : UUID) (result : JsonText) : Keeps Deaf (setResult u result) :=
  fun s => deaf_of_step (step_setResult (o := none) u result s) (by simp [Event.isHeard])

lemma deaf_publishRpc (topicName : Str) (json : JsonText) (requestId : Nat) :
    Keeps Deaf (publishRpc env topicName json requestId) := by
  intro s
  rw [after_ok (publishRpc_run ..)]
  split
  · exact deaf_emit (e := .publishedRpc topicName json requestId) rfl rfl s
  · exact refl_of _ s

lemma deaf_sendServiceRequest (serviceName : Str) (json : JsonText) (protocol : Protocol) :
    Keeps Deaf (sendServiceRequest env serviceName json protocol) := by
  unfold sendServiceRequest
  split
  · exact Keeps.pure _
  · refine deaf_draw.bind fun id => ?_
    exact (deaf_publishRpc env _ json id).bind fun _ => Keeps.pure _

lemma deaf_sendServiceReply (serviceName : Str) (json : JsonText) (requestId : Nat) :
    Keeps Deaf (sendServiceReply env serviceName json requestId) := by
  unfold sendServiceReply
  refine (Keeps.readParticipant _).bind fun protocol => ?_
  split
  · exact Keeps.pure _
  · exact deaf_publishRpc env _ json requestId

lemma deaf_cancelActionGoal (actionName : Str) (goalId : UUID) (timestamp : Int) :
    Keeps Deaf (cancelActionGoal env actionName goalId timestamp) := by
  unfold cancelActionGoal
  refine (Keeps.readHandler _).bind fun active => Keeps.ite (Keeps.pure _) ?_
  refine (Keeps.readHandler _).bind fun protocol => ?_
  exact (deaf_sendServiceRequest env _ _ protocol).bind fun _ => Keeps.pure _

lemma deaf_getResultReplyCallback (actionName : Str) (u : UUID) (json : JsonText)
    (requestId : Nat) : Keeps Deaf (getResultReplyCallback env actionName u json requestId) := by
  unfold getResultReplyCallback sendActionGetResultReply
  refine ((deaf_sendServiceReply env _ json requestId).bind fun sent => Keeps.ite ?_
    (Keeps.pure _)).bind fun sent => (deaf_emit rfl rfl).bind fun _ => Keeps.pure _
  exact (deaf_erase u .forced).bind fun _ => Keeps.pure _

lemma deaf_sendActionResult (actionName : Str) (u : UUID) (code : StatusCode) (json : JsonText) :
    Keeps Deaf (sendActionResult env actionName u code json) := by
  unfold sendActionResult handleActionResult
  refine (Keeps.readHandler _).bind fun active => Keeps.ite ?_ (Keeps.pure _)
  refine (Keeps.lift _).bind fun reply => (Keeps.readHandler _).bind fun entry => ?_
  split
  · exact Keeps.pure _
  · refine Keeps.ite (Keeps.pure _) (Keeps.ite ?_ (deaf_setResult u _))
    exact deaf_getResultReplyCallback env actionName u _ _

/-- The identifier of a goal is drawn before the goal is stored. -/
lemma deaf_sendActionGoal (actionName : Str) (json : JsonText) (protocol : Protocol) :
    Keeps Deaf (sendActionGoal env actionName json protocol) := by
  unfold sendActionGoal
  refine (Keeps.lift _).bind fun goalJson s => ?_
  obtain ⟨⟨sent, id⟩, t, new, hrun, hstep, hstored, hid⟩ := sendServiceRequest_step (o := none) env
    (actionName ++ actionGoalSuffix) (.doc goalJson) protocol s
  have hsend := deaf_sendServiceRequest env (actionName ++ actionGoalSuffix) (.doc goalJson)
    protocol s
  rw [after_ok hrun] at hsend
  rw [after_bind_ok hrun]
  cases sent with
  | false => exact hsend
  | true =>
    obtain ⟨new', hdeaf⟩ := hsend
    obtain rfl : new' = new := List.append_cancel_left (hdeaf.trace.symm.trans hstep.trace)
    obtain ⟨e, heff, he⟩ := storeGoal_effect env actionName env.uuid id protocol t
    have hsublist : (storedIds [e]).Sublist [id] := by
      rcases he with rfl | rfl
      · exact .refl _
      · exact List.nil_sublist _
    have hnone : drawnIds [e] = [] := by
      rcases he with rfl | rfl <;> rfl
    simp only [if_true]
    rw [after_bind_pure]
    refine deaf_of_effect (hstep.toEffect.trans heff) ?_ fun e' he' => ?_
    · rw [storedIds_append, drawnIds_append, hstored, hnone, List.nil_append, List.append_nil]
      exact hsublist.trans (List.singleton_sublist.mpr (hid rfl))
    · rcases List.mem_append.mp he' with he' | he'
      · exact hdeaf.heard e' he'
      · rw [List.mem_singleton.mp he']
        rcases he with rfl | rfl <;> rfl

lemma deaf_publish (topicName : Str) (json : JsonText) :
    Keeps Deaf (publish env topicName json) := by
  have hsample : ∀ typeName, Keeps Deaf (publishSample env topicName typeName json) := by
    intro typeName s
    rcases publishSample_cases env topicName typeName json s with h | h
    · rw [h]
      exact refl_of _ s
    · rw [h]
      exact deaf_emit (e := .published topicName json) rfl rfl s
  unfold publish
  refine Keeps.ite (Keeps.pure _) ((Keeps.readParticipant _).bind fun reader => ?_)
  split
  · exact hsample _
  · have hquery : Keeps Deaf (queryTopic env topicName) :=
      fun s => deaf_of_explores (explores_queryTopic env topicName s)
    refine hquery.bind fun topic => ?_
    split
    · exact Keeps.pure _
    · next topic =>
      have hcreate : Keeps Deaf (createTopicWriter env topic) :=
        fun s => deaf_of_explores (explores_createTopicWriter env topic s)
      refine hcreate.bind fun r => ?_
      split
      · exact Keeps.pure _
      · exact hsample _

lemma deaf_perform (s : State) (c : ApiCall) : Deaf s (c.perform s) := by
  have hexplores : ∀ {α : Type} {x : M α}, Keeps Explores x → Keeps Deaf x :=
    fun h s => deaf_of_explores (h s)
  cases c with
  | publish env topicName json => exact deaf_publish env topicName json s
  | announceService env serviceName protocol =>
    exact hexplores (explores_announceService env serviceName protocol) s
  | revokeService serviceName =>
    exact hexplores (x := revokeService serviceName) (explores_onParticipant _) s
  | sendServiceRequest env serviceName json protocol =>
    exact deaf_sendServiceRequest env serviceName json protocol s
  | sendServiceReply env serviceName json requestId =>
    exact deaf_sendServiceReply env serviceName json requestId s
  | announceAction env actionName protocol =>
    exact hexplores (explores_announceAction env actionName protocol) s
  | revokeAction actionName =>
    exact hexplores (x := revokeAction actionName) (explores_onParticipant _) s
  | sendActionGoal env actionName json protocol =>
    exact deaf_sendActionGoal env actionName json protocol s
  | cancelActionGoal env actionName goalId timestamp =>
    exact deaf_cancelActionGoal env actionName goalId timestamp s
  | sendActionFeedback env actionName json goalId =>
    refine Keeps.bind (Keeps.readHandler _) (fun active => Keeps.ite ?_ (Keeps.pure _)) s
    refine (Keeps.readHandler _).bind fun protocol => ?_
    split
    · exact Keeps.pure _
    · exact (Keeps.lift _).bind fun feedbackJson => deaf_publish env _ _
  | sendActionResult env actionName goalId statusCode json =>
    exact deaf_sendActionResult env actionName goalId statusCode json s
  | sendActionCancelGoalReply env actionName goalIds cancelCode requestId =>
    refine Keeps.bind (Keeps.readHandler _) (fun goals => ?_) s
    exact deaf_sendServiceReply env _ _ requestId
  | updateActionStatus env actionName goalId statusCode =>
    refine Keeps.bind (Keeps.readHandler _) (fun stamp => ?_) s
    split
    · exact Keeps.pure _
    · refine (Keeps.readHandler _).bind fun protocol => ?_
      split
      · exact Keeps.pure _
      · exact deaf_publish env _ _
  | createReader env topic => exact hexplores (explores_createReader env topic) s
  | addSchema env dynType typeId => exact hexplores (explores_addSchema env dynType typeId true) s

end Calls

/-! ### The ledger -/

/-- The request that an event tells the user of, which is to reply to it: its service and its
identifier. -/
def Event.asked : Event → Option (Str × Nat)
  | .serviceRequestNotification serviceName _ requestId _ => some (serviceName, requestId)
  | .actionCancelRequestNotification actionName _ _ requestId _ =>
    some (actionName ++ actionCancelSuffix, requestId)
  | _ => none

/-- The enabler has itself asked for the result of the goal, under this identifier. -/
def State.AsksForResult (s : State) (actionName : Str) (u : UUID) (requestId : Nat) : Prop :=
  ∃ protocol topicName, requestTopic protocol (actionName ++ actionResultSuffix) = some topicName ∧
    .publishedRpc topicName (.doc (createResultRequestMsg u)) requestId ∈ s.trace

/-- The service whose request topic it is. -/
def requestService (topic : DdsTopic) : Option Str :=
  if (RpcInfo.ofTopic topic.topicName).serviceType = .request then
    some (RpcInfo.ofTopic topic.topicName).serviceName
  else none

/-- The enabler, the requests that it has received, each with its service and the identifier
written into it, those of them that have been replied to, and those that the user has replied to
itself. -/
structure ReplySystem where
  state : State := {}
  assigned : Finset (Str × Nat) := ∅
  answered : Finset (Str × Nat) := ∅
  byUser : Finset (Str × Nat) := ∅

inductive ReplyOp
  | call (c : ApiCall)
  | addData (env : Env) (topic : DdsTopic) (data : Sample)

namespace ReplySystem

def exec (s : State) : ReplyOp → State
  | .call c => c.perform s
  | .addData env topic data => after (DdsEnabler.addData env topic data) s

/-- The requests that an operation receives. -/
def received (s : State) (op : ReplyOp) : List (Str × Nat) :=
  match op with
  | .addData _ topic _ =>
    match requestService topic with
    | some name => (sentIds (newEvents s (exec s op))).map fun id => (name, id)
    | none => []
  | .call _ => []

/-- The replies that an operation sends. -/
def replied (s : State) (op : ReplyOp) : List (Str × Nat) :=
  match op with
  | .addData _ topic _ =>
    match requestService topic with
    | some name => (publishedIds (newEvents s (exec s op))).map fun id => (name, id)
    | none => []
  | .call (.sendServiceReply env name json id) =>
    if returned (DdsEnabler.sendServiceReply env name json id) s then [(name, id)] else []
  | .call (.sendActionCancelGoalReply env actionName goalIds code id) =>
    if returned (DdsEnabler.sendActionCancelGoalReply env actionName goalIds code id) s then
      [(actionName ++ actionCancelSuffix, id)] else []
  | .call (.sendActionResult _ actionName _ _ _) =>
    (publishedIds (newEvents s (exec s op))).map fun id => (actionName ++ actionResultSuffix, id)
  | .call _ => []

/-- The replies that the user sends with an operation. -/
def repliedByUser (s : State) (op : ReplyOp) : List (Str × Nat) :=
  match op with
  | .call _ => replied s op
  | .addData .. => []

def start : ReplySystem := {}

def step (L : ReplySystem) (op : ReplyOp) : ReplySystem where
  state := exec L.state op
  assigned := L.assigned ∪ (received L.state op).toFinset
  answered := L.answered ∪ (replied L.state op).toFinset
  byUser := L.byUser ∪ (repliedByUser L.state op).toFinset

/-- Every reply is sent to a request that was received on the service, and one reply to each. -/
def AnswersRequests (L : ReplySystem) (op : ReplyOp) : Prop :=
  (replied L.state op).Nodup ∧ ∀ r ∈ replied L.state op,
    r ∈ L.assigned ∪ (received L.state op).toFinset ∧ r ∉ L.answered

/-- The user has been told of the request, and none of its own replies to it has gone out. -/
def MayReply (L : ReplySystem) (r : Str × Nat) : Prop :=
  (∃ e ∈ L.state.trace, e.asked = some r) ∧ r ∉ L.byUser

/-- What the user has to see to: it replies to requests that it may reply to, and has no result for
a goal whose result the enabler has itself asked for. -/
def UserReplies (L : ReplySystem) : ReplyOp → Prop
  | .call (.sendServiceReply _ name _ id) => L.MayReply (name, id)
  | .call (.sendActionCancelGoalReply _ actionName _ _ id) =>
    L.MayReply (actionName ++ actionCancelSuffix, id)
  | .call (.sendActionResult _ actionName goalId _ _) =>
    ∀ i, L.state.handler.activeInfo actionName goalId = some i →
      ¬ L.state.AsksForResult actionName goalId i.resultRequestId
  | _ => True

/-! ### What there is to reply to -/

/-- The request was received, and waits for a reply. -/
def Waits (L : ReplySystem) (r : Str × Nat) : Prop := r ∈ L.assigned ∧ r ∉ L.answered

/-- The trace tells the counter, the goals and the requests received. What the user is told of is
in the ledger and has no replies but its own, and the requests for results that are kept with the
goals wait for theirs. -/
structure Inv (L : ReplySystem) : Prop where
  ids : RequestSystem.Inv ⟨L.state, []⟩
  sent : sentIds L.state.trace ⊆ drawnIds L.state.trace
  assigned : ∀ r ∈ L.assigned, r.2 ∈ drawnIds L.state.trace
  answered : L.answered ⊆ L.assigned
  told : ∀ e ∈ L.state.trace, ∀ r, e.asked = some r → r ∈ L.assigned ∧
    (∀ actionName : Str, r.1 ≠ actionName ++ actionResultSuffix) ∧ (r ∈ L.answered → r ∈ L.byUser)
  kept : ∀ u i, L.state.handler.entry u = some i → i.resultRequestId ≠ 0 →
    L.state.AsksForResult i.actionName u i.resultRequestId ∨
      L.Waits (i.actionName ++ actionResultSuffix, i.resultRequestId)

lemma inv_start : Inv start where
  ids := RequestSystem.inv_start {} ∅
  sent := List.nil_subset _
  assigned := by simp [start]
  answered := Finset.Subset.refl _
  told := by simp [start]
  kept u i hi := by simp [start, Handler.entry] at hi

/-! ### The calls of the user -/

section Steps

variable {L : ReplySystem} {env : Env} {s t : State} {new : List Event}

lemma Inv.fresh (h : Inv L) (hlt : (drawnIds L.state.trace).length < 2 ^ 64) :
    L.state.handler.nextRequestId.1 ∉ drawnIds L.state.trace := by
  intro hdrawn
  obtain ⟨hrange, hcount⟩ := h.ids.drawn hlt
  simp only at hrange hcount
  rw [hrange, List.mem_range'_1, Handler.nextRequestId, hcount] at hdrawn
  simp only at hdrawn
  omega

lemma Inv.mayReply (h : Inv L) {r : Str × Nat} (hr : L.MayReply r) :
    L.Waits r ∧ ∀ actionName : Str, r.1 ≠ actionName ++ actionResultSuffix := by
  obtain ⟨⟨e, he, hasked⟩, hnot⟩ := hr
  obtain ⟨hassigned, hname, hown⟩ := h.told e he r hasked
  exact ⟨⟨hassigned, fun hans => hnot (hown hans)⟩, hname⟩

lemma asksForResult_mono {actionName : Str} {u : UUID} {id : Nat}
    (htrace : t.trace = s.trace ++ new) (h : s.AsksForResult actionName u id) :
    t.AsksForResult actionName u id := by
  obtain ⟨protocol, topicName, htopic, hmem⟩ := h
  exact ⟨protocol, topicName, htopic, htrace ▸ List.mem_append_left _ hmem⟩

lemma entry_of_replay {u : UUID} {i : Option ActionRequestInfo} {j : ActionRequestInfo}
    (h : replay u new i = some j) (hid : j.resultRequestId ≠ 0) :
    (∃ i', i = some i' ∧ i'.actionName = j.actionName ∧ i'.resultRequestId = j.resultRequestId) ∨
      ∃ p t, .storedRequest j.actionName u j.resultRequestId .result p t ∈ new := by
  have hresult : j.getRequest .result = .ok j.resultRequestId := rfl
  rcases record_of_replay h hresult hid with ⟨i', hi, hname, hreq⟩ | hstored
  · exact .inl ⟨i', hi, hname, Except.ok.inj hreq⟩
  · exact .inr hstored

/-- If a result is published, it is under this identifier, and its goal goes, and no other. -/
def SendsResult (u : UUID) (id : Nat) (s t : State) : Prop :=
  ∃ es, t.trace = s.trace ++ es ∧ (publishedIds es = [] ∨ publishedIds es = [id] ∧
    t.handler.entry u = none ∧ ∀ v ≠ u, t.handler.entry v = s.handler.entry v)

section SendsResult

variable {u : UUID} {id : Nat}

lemma SendsResult.of_quiet (h : Quiet s t) : SendsResult u id s t := by
  obtain ⟨es, htrace, hes⟩ := h
  exact ⟨es, htrace, .inl (publishedIds_quiet hes)⟩

lemma SendsResult.after_quiet {r : State} (h : Quiet s t)
    (hentry : ∀ v ≠ u, t.handler.entry v = s.handler.entry v) (h' : SendsResult u id t r) :
    SendsResult u id s r := by
  obtain ⟨es, htrace, hes⟩ := h
  obtain ⟨es', htrace', hes'⟩ := h'
  refine ⟨es ++ es', by rw [htrace', htrace, List.append_assoc], ?_⟩
  rw [publishedIds_append, publishedIds_quiet hes, List.nil_append]
  refine hes'.imp_right fun ⟨hpub, hgone, hothers⟩ => ⟨hpub, hgone, fun v hv => ?_⟩
  rw [hothers v hv, hentry v hv]

lemma sendsResult_getResultReplyCallback (env : Env) (actionName : Str) (json : JsonText)
    (s : State) :
    SendsResult u id s (after (getResultReplyCallback env actionName u json id) s) := by
  have hevents := publishedIds_replyEvents s env (actionName ++ actionResultSuffix) json id
  rcases hb : s.replyPublishable env (actionName ++ actionResultSuffix) json
  · rw [hb] at hevents
    rw [after_ok (getResultReplyCallback_refused hb u id)]
    refine ⟨_, log_trace _ _, .inl ?_⟩
    rw [publishedIds_append, hevents]
    rfl
  · rw [hb] at hevents
    rw [after_ok (getResultReplyCallback_sent hb u id)]
    refine ⟨_, log_trace _ _, .inr ⟨?_, ?_, fun v hv => ?_⟩⟩
    · rw [publishedIds_append, hevents]
      rfl
    · change (s.handler.eraseActionUUID u .forced).entry u = none
      rw [Handler.entry_eraseActionUUID, if_pos rfl]
      rcases s.handler.entry u with _ | i <;> rfl
    · change (s.handler.eraseActionUUID u .forced).entry v = _
      rw [Handler.entry_eraseActionUUID, if_neg hv]

lemma sendsResult_sendActionResult (env : Env) (actionName : Str) (code : StatusCode)
    (json : JsonText) (s : State) :
    Quiet s (after (DdsEnabler.sendActionResult env actionName u code json) s) ∨
      ∃ i, s.handler.activeInfo actionName u = some i ∧ i.resultRequestId ≠ 0 ∧
        SendsResult u i.resultRequestId s
          (after (DdsEnabler.sendActionResult env actionName u code json) s) := by
  rcases hi : s.handler.activeInfo actionName u with _ | i
  · have hrun : (DdsEnabler.sendActionResult env actionName u code json).run s = .ok false s := by
      simp [DdsEnabler.sendActionResult, Handler.isUUIDActive, hi]
    rw [after_ok hrun]
    exact .inl (refl_of _ s)
  · obtain ⟨hentry, hname⟩ : s.handler.entry u = some i ∧ actionName = i.actionName := by
      simpa [Handler.activeInfo, Option.filter_eq_some_iff] using hi
    have hrun := sendActionResult_run_some env code json hentry hname.symm
    rcases hmsg : createResultReplyMsg code json with e | reply
    · rw [hmsg] at hrun
      rw [after_error hrun]
      exact .inl (refl_of _ s)
    · rw [hmsg] at hrun
      simp only at hrun
      by_cases hid : i.resultRequestId = 0
      · rw [if_neg (by simpa using hid)] at hrun
        rw [after_ok (hrun.trans (setResult_run s u _))]
        exact .inl (quiet_log (e := .resultSet u (.doc reply)) rfl _)
      · rw [if_pos hid] at hrun
        rw [after_congr hrun]
        exact .inr ⟨i, rfl, hid, sendsResult_getResultReplyCallback env actionName _ s⟩

lemma sendsResult_addResultRequest (env : Env) (info : RpcInfo) (data : Sample) (msg : Message)
    (dynType : DynType) (s : State) :
    ∃ u id, SendsResult u id s (after (addResultRequest env info data msg dynType) s) := by
  unfold addResultRequest
  rcases uuidFromRequestJson env msg dynType with e | _ | u
  · exact ⟨.null, 0, .of_quiet (refl_of _ s)⟩
  · exact ⟨.null, 0, .of_quiet (refl_of _ s)⟩
  · refine ⟨u, s.handler.nextRequestId.1, ?_⟩
    have hstamp := quiet_stampRequest data s
    simp only [lift_ok, pure_bind]
    refine after_bind (fun e t h => .of_quiet (after_error h ▸ hstamp)) fun id t h => ?_
    rw [after_ok h] at hstamp
    obtain ⟨rfl, hentry⟩ : id = s.handler.nextRequestId.1 ∧
        ∀ v, t.handler.entry v = s.handler.entry v := by
      rw [stampRequest_run] at h
      split at h
      · cases h
        exact ⟨rfl, fun v => rfl⟩
      · cases h
    refine .after_quiet hstamp (fun v _ => hentry v) ?_
    have hstore := quiet_storeActionRequest env info.actionName u s.handler.nextRequestId.1 .result
      .ros2 t
    rcases hb : (t.handler.storeActionRequest info.actionName u s.handler.nextRequestId.1 .result
      .ros2 env.now).1
    · rw [after_bind_ok (storeActionRequest_run_false t env hb)]
      exact .of_quiet (refl_of _ t)
    · rw [after_ok (storeActionRequest_run_true t env hb)] at hstore
      rw [after_bind_ok (storeActionRequest_run_true t env hb), if_pos rfl]
      refine .after_quiet hstore (fun v hv => ?_) ?_
      · change (t.handler.storeActionRequest info.actionName u _ .result .ros2 env.now).2.entry v =
          _
        rw [Handler.entry_storeActionRequest, if_neg hv]
      · unfold replyStoredResult
        rw [after_bind_ok (readHandler_run _ _)]
        split
        · rw [after_discard]
          exact sendsResult_getResultReplyCallback env info.actionName _ _
        · exact .of_quiet (refl_of _ _)

lemma sendsResult_addData (env : Env) (topic : DdsTopic) (data : Sample)
    (h : (RpcInfo.ofTopic topic.topicName).IsPart .request .result) (s : State) :
    ∃ u id, SendsResult u id s (after (DdsEnabler.addData env topic data) s) := by
  unfold DdsEnabler.addData
  rw [after_bind_ok (readHandler_run s _)]
  rcases s.handler.schemas.lookup topic.typeName with _ | ⟨typeId, dynType⟩
  · exact ⟨.null, 0, .of_quiet (refl_of _ s)⟩
  · have hcount : Quiet s s.count := quiet_of_trace rfl
    change ∃ u id, SendsResult u id s (after (onHandler _ >>= _) s)
    rw [after_bind_ok (onHandler_run s _)]
    split
    · exact ⟨.null, 0, .of_quiet hcount⟩
    · simp only [addKnownData, h.rpcType, addActionData, h.serviceType, h.actionType]
      obtain ⟨u, id, hsends⟩ := sendsResult_addResultRequest env (.ofTopic topic.topicName) data
        (data.message topic) dynType s.count
      exact ⟨u, id, .after_quiet hcount (fun v _ => rfl) hsends⟩

end SendsResult

/-- The reply of a call goes to a request that waits for it, and no goal keeps this request then. -/
structure Settles (L : ReplySystem) (t : State) (r : Str × Nat) : Prop where
  waits : L.Waits r
  gone : ∀ u j, t.handler.entry u = some j → j.resultRequestId ≠ 0 →
    r ≠ (j.actionName ++ actionResultSuffix, j.resultRequestId)

lemma Inv.settles_mayReply (h : Inv L) {r : Str × Nat} (hr : L.MayReply r) (t : State) :
    L.Settles t r where
  waits := (h.mayReply hr).1
  gone _ j _ _ heq := (h.mayReply hr).2 j.actionName (congrArg Prod.fst heq)

lemma Inv.settles_sendActionResult (h : Inv L) (hlt : (drawnIds L.state.trace).length < 2 ^ 64)
    {actionName : Str} {u : UUID} {i : ActionRequestInfo}
    (hi : L.state.handler.activeInfo actionName u = some i) (hid : i.resultRequestId ≠ 0)
    (hnot : ¬ L.state.AsksForResult actionName u i.resultRequestId) (hdeaf : Unheard new L.state t)
    (hgone : t.handler.entry u = none) :
    L.Settles t (actionName ++ actionResultSuffix, i.resultRequestId) where
  waits := by
    obtain ⟨hentry, hname⟩ : L.state.handler.entry u = some i ∧ actionName = i.actionName := by
      simpa [Handler.activeInfo, Option.filter_eq_some_iff] using hi
    subst hname
    exact (h.kept u i hentry hid).resolve_left hnot
  gone v j hj hidj heq := by
    obtain ⟨hentry, -⟩ : L.state.handler.entry u = some i ∧ actionName = i.actionName := by
      simpa [Handler.activeInfo, Option.filter_eq_some_iff] using hi
    rw [hdeaf.entry] at hj
    rcases entry_of_replay hj hidj with ⟨i', hi', -, hid'⟩ | ⟨p, t', he⟩
    · have hsame : i.resultRequestId = i'.resultRequestId :=
        (congrArg Prod.snd heq).trans hid'.symm
      have hri : i.getRequest .result = .ok i.resultRequestId := rfl
      have hri' : i'.getRequest .result = .ok i.resultRequestId := congrArg Except.ok hsame.symm
      obtain ⟨rfl, -⟩ := h.ids.stored_distinct hlt hentry hi' hri hri' hid
      rw [← hdeaf.entry, hgone] at hj
      cases hj
    · cases hdeaf.heard _ he

lemma Inv.settles_call (h : Inv L) (hlt : (drawnIds L.state.trace).length < 2 ^ 64) {c : ApiCall}
    (hc : L.UserReplies (.call c)) :
    (replied L.state (.call c)).Nodup ∧
      ∀ r ∈ replied L.state (.call c), L.Settles (c.perform L.state) r := by
  cases c with
  | sendServiceReply env name json id =>
    simp only [replied]
    split
    · exact ⟨List.nodup_singleton _, by simpa using h.settles_mayReply hc _⟩
    · simp
  | sendActionCancelGoalReply env actionName goalIds code id =>
    simp only [replied]
    split
    · exact ⟨List.nodup_singleton _, by simpa using h.settles_mayReply hc _⟩
    · simp
  | sendActionResult env actionName u code json =>
    obtain ⟨new, hdeaf⟩ := deaf_perform L.state (.sendActionResult env actionName u code json)
    have hreplied : replied L.state (.call (.sendActionResult env actionName u code json)) =
        (publishedIds (newEvents L.state (after (DdsEnabler.sendActionResult env actionName u code
          json) L.state))).map fun id => (actionName ++ actionResultSuffix, id) := rfl
    rcases sendsResult_sendActionResult (u := u) env actionName code json L.state with
      hquiet | ⟨i, hi, hid, es, htrace, hes⟩
    · obtain ⟨es, htrace, hes⟩ := hquiet
      rw [hreplied, newEvents_eq htrace, publishedIds_quiet hes]
      simp
    · rcases hes with hpub | ⟨hpub, hgone, -⟩
      · rw [hreplied, newEvents_eq htrace, hpub]
        simp
      · rw [hreplied, newEvents_eq htrace, hpub]
        refine ⟨List.nodup_singleton _, fun r hr => ?_⟩
        rw [List.map_singleton, List.mem_singleton] at hr
        subst hr
        exact h.settles_sendActionResult hlt hi hid (hc i hi) hdeaf hgone
  | _ => simp [replied]

lemma Inv.call (h : Inv L) (hlt : (drawnIds L.state.trace).length < 2 ^ 64) {c : ApiCall}
    (hc : L.UserReplies (.call c)) : Inv (L.step (.call c)) := by
  obtain ⟨new, hdeaf⟩ := deaf_perform L.state c
  obtain ⟨-, hsettles⟩ := h.settles_call hlt hc
  have hstate : (L.step (.call c)).state = c.perform L.state := rfl
  have hassigned : (L.step (.call c)).assigned = L.assigned := Finset.union_empty _
  have hanswered : ∀ r, r ∈ (L.step (.call c)).answered ↔
      r ∈ L.answered ∨ r ∈ replied L.state (.call c) := by
    intro r
    simp [step]
  have hsent : sentIds new = [] := by
    refine List.filterMap_eq_nil_iff.mpr fun e he => ?_
    have := hdeaf.heard e he
    cases e <;> first | rfl | cases this
  have htold : ∀ e ∈ new, e.asked = none := by
    intro e he
    have := hdeaf.heard e he
    cases e <;> first | rfl | cases this
  have hdrawn : drawnIds (c.perform L.state).trace = drawnIds L.state.trace ++ drawnIds new := by
    rw [hdeaf.trace, drawnIds_append]
  refine ⟨⟨?_, fun u => ?_, ?_⟩, ?_, fun r hr => ?_, fun r hr => ?_, fun e he r hr => ?_,
    fun u j hj hid => ?_⟩
  · rw [hstate, hdrawn]
    exact h.ids.counts.append hdeaf.counts
  · rw [hstate, hdeaf.entry, hdeaf.trace, replay_append, h.ids.entry]
  · have hstored := h.ids.stored
    rw [RequestSystem.pendingIds, List.map_nil, List.append_nil] at hstored ⊢
    rw [hstate, hdrawn, hdeaf.trace, storedIds_append]
    exact hstored.append hdeaf.stored.subperm
  · rw [hstate, hdrawn, hdeaf.trace, sentIds_append, hsent, List.append_nil]
    exact List.Subset.trans h.sent (List.subset_append_left _ _)
  · rw [hassigned] at hr
    rw [hstate, hdrawn]
    exact List.mem_append_left _ (h.assigned r hr)
  · rw [hassigned]
    rcases (hanswered r).mp hr with hr | hr
    · exact h.answered hr
    · exact (hsettles r hr).waits.1
  · rw [hstate, hdeaf.trace] at he
    rcases List.mem_append.mp he with he | he
    · obtain ⟨hmem, hname, hown⟩ := h.told e he r hr
      rw [hassigned]
      refine ⟨hmem, hname, fun hans => ?_⟩
      simp only [step, Finset.mem_union, List.mem_toFinset]
      exact ((hanswered r).mp hans).imp_left hown
    · rw [htold e he] at hr
      cases hr
  · rw [hstate] at hj ⊢
    have hj' := hj
    rw [hdeaf.entry] at hj'
    rcases entry_of_replay hj' hid with ⟨i, hi, hname, hreq⟩ | ⟨p, t, he⟩
    · rw [← hname, ← hreq]
      refine (h.kept u i hi (hreq ▸ hid)).imp (asksForResult_mono hdeaf.trace) fun hwaits => ?_
      refine ⟨hassigned ▸ hwaits.1, fun hans => ?_⟩
      rcases (hanswered _).mp hans with hans | hans
      · exact hwaits.2 hans
      · exact (hsettles _ hans).gone u j hj hid (by rw [hname, hreq])
    · cases hdeaf.heard _ he

/-! ### Samples -/

lemma exists_bySample (env : Env) (topic : DdsTopic) (data : Sample) (s : State) :
    ∃ doc es, (after (DdsEnabler.addData env topic data) s).trace = s.trace ++ es ∧ ∀ e ∈ es,
      BySample env (.ofTopic topic.topicName) data (data.message topic) doc s
        (after (DdsEnabler.addData env topic data) s).trace e := by
  refine ⟨((s.handler.schemas.lookup topic.typeName).bind fun x =>
    env.decode x.2 data.payload).getD .null, bySample_addData env topic data _ s ?_⟩
  intro typeId dynType d hschema hd
  simp [hschema, hd]

/-- What a sample means for the ledger. -/
structure Hears (L : ReplySystem) (op : ReplyOp) (es : List Event) : Prop where
  trace : (exec L.state op).trace = L.state.trace ++ es
  /-- Its identifier is the next one. -/
  stamp : ∀ r ∈ received L.state op, r.2 = L.state.handler.nextRequestId.1 ∧ r.2 ∈ sentIds es
  /-- It is replied to itself, at most once. -/
  nodup : (replied L.state op).Nodup
  itself : ∀ r ∈ replied L.state op, r ∈ received L.state op
  /-- What the user is told of is for the user to reply to. -/
  told : ∀ e ∈ es, ∀ r, e.asked = some r → r ∈ received L.state op ∧
    (∀ actionName : Str, r.1 ≠ actionName ++ actionResultSuffix) ∧ replied L.state op = []
  /-- A request for a result that is stored is the one received, or the enabler's own. -/
  stored : ∀ actionName u id p t, .storedRequest actionName u id .result p t ∈ es →
    (exec L.state op).AsksForResult actionName u id ∨
      (actionName ++ actionResultSuffix, id) ∈ received L.state op
  /-- No goal keeps a request that has been replied to. -/
  gone : ∀ actionName id, (actionName ++ actionResultSuffix, id) ∈ replied L.state op →
    ∃ u, (exec L.state op).handler.entry u = none ∧
      ∀ v ≠ u, (exec L.state op).handler.entry v = L.state.handler.entry v

lemma received_addData {topic : DdsTopic} {data : Sample} {es : List Event}
    (htrace : (after (DdsEnabler.addData env topic data) s).trace = s.trace ++ es)
    (h : (RpcInfo.ofTopic topic.topicName).serviceType = .request) :
    received s (.addData env topic data) =
      (sentIds es).map fun id => ((RpcInfo.ofTopic topic.topicName).serviceName, id) := by
  simp only [received, requestService, if_pos h, exec, newEvents_eq htrace]

lemma replied_addData {topic : DdsTopic} {data : Sample} {es : List Event}
    (htrace : (after (DdsEnabler.addData env topic data) s).trace = s.trace ++ es)
    (h : (RpcInfo.ofTopic topic.topicName).serviceType = .request) :
    replied s (.addData env topic data) =
      (publishedIds es).map fun id => ((RpcInfo.ofTopic topic.topicName).serviceName, id) := by
  simp only [replied, requestService, if_pos h, exec, newEvents_eq htrace]

lemma idle_addData (s : State) (env : Env) {topic : DdsTopic} (data : Sample)
    (h : (RpcInfo.ofTopic topic.topicName).serviceType ≠ .request) :
    received s (.addData env topic data) = [] ∧ replied s (.addData env topic data) = [] := by
  simp [received, replied, requestService, h]

lemma serviceName_of_part {topicName : Str} {ty : ActionType}
    (h : (RpcInfo.ofTopic topicName).IsPart .request ty) :
    (RpcInfo.ofTopic topicName).serviceName =
      partName (RpcInfo.ofTopic topicName).actionName ty ∧ RpcInfo.isServicePart ty := by
  have hname := serviceName_ofTopic h.rpcType (by rw [h.serviceType]; decide)
  rwa [h.actionType] at hname

lemma actionPart_result (a : Str) :
    RpcInfo.actionPart (a ++ actionResultSuffix) = some (a, .result) :=
  RpcInfo.actionPart_append a (t := .result) rfl

lemma actionPart_cancel (a : Str) :
    RpcInfo.actionPart (a ++ actionCancelSuffix) = some (a, .cancel) :=
  RpcInfo.actionPart_append a (t := .cancel) rfl

lemma hears_other (env : Env) {topic : DdsTopic} (data : Sample)
    (hkind : (RpcInfo.ofTopic topic.topicName).serviceType ≠ .request) :
    ∃ es, L.Hears (.addData env topic data) es := by
  obtain ⟨doc, es, htrace, hes⟩ := exists_bySample env topic data L.state
  obtain ⟨hreceived, hreplied⟩ := idle_addData L.state env data hkind
  refine ⟨es, htrace, by simp [hreceived], by simp [hreplied], by simp [hreplied], ?_, ?_,
    by simp [hreplied]⟩
  · intro e he r hr
    cases hes e he
    case serviceRequest h h' hstamp => exact absurd h' hkind
    case cancelRequest h hu hstamp => exact absurd h.serviceType hkind
    all_goals cases hr
  · intro actionName u id p t he
    left
    generalize hevent : Event.storedRequest actionName u id .result p t = e at he
    cases hes e he
    case stored h hu hstamp => exact absurd h.serviceType hkind
    case resultStored h hu hread ht hpub =>
      cases hevent
      exact ⟨_, _, ht, hpub⟩
    all_goals cases hevent

section Requests

variable {topic : DdsTopic} {data : Sample} {msg : Message} {doc : Json} {log : List Event}

lemma sentId_bySample {e : Event} {id : Nat}
    (he : BySample env (.ofTopic topic.topicName) data msg doc s log e) (hid : e.sentId = some id) :
    id = s.handler.nextRequestId.1 := by
  cases he
  case stamped => exact (Option.some.inj hid).symm
  all_goals cases hid

/-- The user is told of the request that has been received, which is not for a result, and the
enabler leaves the reply to the user. -/
lemma asked_bySample {e : Event} {r : Str × Nat}
    (he : BySample env (.ofTopic topic.topicName) data msg doc s log e) (hr : e.asked = some r) :
    r = ((RpcInfo.ofTopic topic.topicName).serviceName, s.handler.nextRequestId.1) ∧
      .sentSequenceNumber s.handler.nextRequestId.1 ∈ log ∧
      (∀ actionName : Str, r.1 ≠ actionName ++ actionResultSuffix) ∧
      ¬ (RpcInfo.ofTopic topic.topicName).Answered := by
  cases he
  case serviceRequest h h' hlog =>
    obtain rfl := Option.some.inj hr
    have hpart := Network.actionPart_of_service h
    refine ⟨rfl, hlog, fun actionName hname => ?_, fun hans => ?_⟩
    · rw [show (RpcInfo.ofTopic topic.topicName).serviceName = _ from hname,
        actionPart_result] at hpart
      cases hpart
    · cases h.symm.trans hans.1
  case cancelRequest h hu hlog =>
    obtain rfl := Option.some.inj hr
    have hservice : (RpcInfo.ofTopic topic.topicName).serviceName = _ ++ actionCancelSuffix :=
      (serviceName_of_part h).1
    refine ⟨by rw [hservice], hlog, fun actionName hname => ?_, fun hans => ?_⟩
    · have hpart := actionPart_cancel (RpcInfo.ofTopic topic.topicName).actionName
      rw [show _ ++ actionCancelSuffix = _ from hname, actionPart_result] at hpart
      cases hpart
    · obtain ⟨-, ⟨hreply, -⟩ | ⟨-, hty | hty⟩⟩ := hans
      · cases h.serviceType.symm.trans hreply
      · cases h.actionType.symm.trans hty
      · cases h.actionType.symm.trans hty
  all_goals cases hr

lemma replied_unanswered (hkind : (RpcInfo.ofTopic topic.topicName).serviceType = .request)
    (hans : ¬ (RpcInfo.ofTopic topic.topicName).Answered) :
    replied s (.addData env topic data) = [] := by
  obtain ⟨es, htrace, hes⟩ := quiet_addData env data topic hans s
  rw [replied_addData htrace hkind, publishedIds_quiet hes]
  rfl

/-- The goal of a result that has been sent is gone. -/
lemma gone_addData {actionName : Str} {id : Nat}
    (hkind : (RpcInfo.ofTopic topic.topicName).serviceType = .request)
    (hr : (actionName ++ actionResultSuffix, id) ∈ replied s (.addData env topic data)) :
    ∃ u, (exec s (.addData env topic data)).handler.entry u = none ∧
      ∀ v ≠ u, (exec s (.addData env topic data)).handler.entry v = s.handler.entry v := by
  obtain ⟨hrpc, -⟩ : (RpcInfo.ofTopic topic.topicName).Answered := by
    by_contra hans
    rw [replied_unanswered hkind hans] at hr
    cases hr
  obtain ⟨doc, es, htrace, -⟩ := exists_bySample env topic data s
  rw [replied_addData htrace hkind] at hr
  obtain ⟨id', hpub, heq⟩ := List.mem_map.mp hr
  have hname : (RpcInfo.ofTopic topic.topicName).serviceName = actionName ++ actionResultSuffix :=
    congrArg Prod.fst heq
  have hresult : (RpcInfo.ofTopic topic.topicName).actionType = .result := by
    obtain ⟨hservice, hty⟩ := serviceName_of_part ⟨hrpc, hkind, rfl⟩
    have hread := RpcInfo.actionPart_append (RpcInfo.ofTopic topic.topicName).actionName hty
    rw [← partName, ← hservice, hname, actionPart_result] at hread
    exact (congrArg Prod.snd (Option.some.inj hread)).symm
  obtain ⟨u, n, es', htrace', hsends⟩ :=
    sendsResult_addData env topic data ⟨hrpc, hkind, hresult⟩ s
  obtain rfl : es' = es := List.append_cancel_left (htrace'.symm.trans htrace)
  rcases hsends with hnone | ⟨-, hgone, hothers⟩
  · rw [hnone] at hpub
    cases hpub
  · exact ⟨u, hgone, hothers⟩

end Requests

lemma Inv.hears_request (h : Inv L) (hlt : (drawnIds L.state.trace).length < 2 ^ 64) (env : Env)
    {topic : DdsTopic} (data : Sample)
    (hkind : (RpcInfo.ofTopic topic.topicName).serviceType = .request) :
    ∃ es, L.Hears (.addData env topic data) es := by
  obtain ⟨doc, es, htrace, hes⟩ := exists_bySample env topic data L.state
  have hreceived := received_addData htrace hkind
  have hreplied := replied_addData htrace hkind
  -- the stamp is in this sample, as the next identifier has not been drawn before
  have hmem : .sentSequenceNumber L.state.handler.nextRequestId.1 ∈
      (after (DdsEnabler.addData env topic data) L.state).trace →
      ((RpcInfo.ofTopic topic.topicName).serviceName, L.state.handler.nextRequestId.1) ∈
        received L.state (.addData env topic data) := by
    intro hlog
    rw [htrace] at hlog
    rw [hreceived]
    refine List.mem_map_of_mem (List.mem_filterMap.mpr ⟨_, (List.mem_append.mp hlog).resolve_left
      fun hold => h.fresh hlt (h.sent ?_), rfl⟩)
    exact List.mem_filterMap.mpr ⟨_, hold, rfl⟩
  have hitself : publishedIds es = [] ∨ ∃ id, publishedIds es = [id] ∧ id ∈ sentIds es := by
    obtain ⟨es', htrace', hes'⟩ := repliesToItself_addData env data topic hkind L.state
    rwa [List.append_cancel_left (htrace'.symm.trans htrace)] at hes'
  refine ⟨es, htrace, ?_, ?_, ?_, ?_, ?_, fun _ _ hr => gone_addData hkind hr⟩
  · intro r hr
    rw [hreceived] at hr
    obtain ⟨id, hid, rfl⟩ := List.mem_map.mp hr
    obtain ⟨e, he, hsent⟩ := List.mem_filterMap.mp hid
    exact ⟨sentId_bySample (hes e he) hsent, hid⟩
  · rw [hreplied]
    rcases hitself with hpub | ⟨id, hpub, -⟩
    · simp [hpub]
    · simp [hpub]
  · intro r hr
    rw [hreplied] at hr
    rw [hreceived]
    rcases hitself with hpub | ⟨id, hpub, hid⟩
    · simp [hpub] at hr
    · rw [hpub, List.map_singleton, List.mem_singleton] at hr
      exact hr ▸ List.mem_map_of_mem hid
  · intro e he r hr
    obtain ⟨rfl, hlog, hname, hans⟩ := asked_bySample (hes e he) hr
    exact ⟨hmem hlog, hname, replied_unanswered hkind hans⟩
  · intro actionName u id p t he
    generalize hevent : Event.storedRequest actionName u id .result p t = e at he
    cases hes e he
    case stored h hu hlog =>
      right
      cases hevent
      have hservice : (RpcInfo.ofTopic topic.topicName).serviceName = _ ++ actionResultSuffix :=
        (serviceName_of_part h).1
      exact hservice ▸ hmem hlog
    case resultStored h hu hread ht hpub =>
      cases hevent
      exact .inl ⟨_, _, ht, hpub⟩
    all_goals cases hevent

lemma Inv.hears (h : Inv L) (hlt : (drawnIds L.state.trace).length < 2 ^ 64) (env : Env)
    (topic : DdsTopic) (data : Sample) : ∃ es, L.Hears (.addData env topic data) es := by
  by_cases hkind : (RpcInfo.ofTopic topic.topicName).serviceType = .request
  · exact h.hears_request hlt env data hkind
  · exact hears_other env data hkind

lemma Hears.unanswered {op : ReplyOp} {es : List Event} (hh : L.Hears op es) (h : Inv L)
    (hlt : (drawnIds L.state.trace).length < 2 ^ 64) {r : Str × Nat}
    (hr : r ∈ received L.state op) : r ∉ L.answered := by
  intro hans
  exact h.fresh hlt ((hh.stamp r hr).1 ▸ h.assigned r (h.answered hans))

lemma Hears.not_replied {op : ReplyOp} {es : List Event} (hh : L.Hears op es) (h : Inv L)
    (hlt : (drawnIds L.state.trace).length < 2 ^ 64) {r : Str × Nat}
    (hr : r.2 ∈ drawnIds L.state.trace) : r ∉ replied L.state op := by
  intro hrep
  exact h.fresh hlt ((hh.stamp r (hh.itself r hrep)).1 ▸ hr)

/-- A request for a result that is stored now waits, unless it is the enabler's own. -/
lemma Hears.waits {op : ReplyOp} {es : List Event} (hh : L.Hears op es) (h : Inv L)
    (hlt : (drawnIds L.state.trace).length < 2 ^ 64) {u : UUID} {j : ActionRequestInfo}
    (hj : (exec L.state op).handler.entry u = some j) (hid : j.resultRequestId ≠ 0)
    (hr : (j.actionName ++ actionResultSuffix, j.resultRequestId) ∈ received L.state op) :
    (L.step op).Waits (j.actionName ++ actionResultSuffix, j.resultRequestId) := by
  refine ⟨Finset.mem_union_right _ (List.mem_toFinset.mpr hr), fun hans => ?_⟩
  rcases Finset.mem_union.mp hans with hans | hrep
  · exact hh.unanswered h hlt hr hans
  · obtain ⟨v, hgone, hothers⟩ := hh.gone _ _ (List.mem_toFinset.mp hrep)
    have hne : u ≠ v := by
      rintro rfl
      rw [hgone] at hj
      cases hj
    -- the goal of another entry has its request from before
    rw [hothers u hne] at hj
    have hresult : j.getRequest .result = .ok j.resultRequestId := rfl
    obtain ⟨a, p, t, hstored⟩ := h.ids.entry_stored hj hresult hid
    have hdrawn := h.ids.stored_drawn (List.mem_filterMap.mpr ⟨_, hstored, rfl⟩)
    exact hh.not_replied h hlt hdrawn (List.mem_toFinset.mp hrep)

lemma Inv.addData (h : Inv L) (hlt : (drawnIds L.state.trace).length < 2 ^ 64) (env : Env)
    (topic : DdsTopic) (data : Sample) : Inv (L.step (.addData env topic data)) := by
  obtain ⟨es, hh⟩ := h.hears hlt env topic data
  set op : ReplyOp := .addData env topic data with hop
  obtain ⟨o, hev⟩ := RequestSystem.received_evolves
    (DdsEnabler.received_addData env data topic L.state)
  obtain ⟨es', htrace', hused⟩ := spends_addData env data topic L.state
  obtain rfl : es' = es := List.append_cancel_left (htrace'.symm.trans hh.trace)
  have hsent : sentIds es' ⊆ drawnIds es' :=
    ((Network.sentIds_sublist_usedIds es').trans hused).subset
  have htrace : (L.step op).state.trace = L.state.trace ++ es' := hh.trace
  have hanswered : ∀ r, r.2 ∈ drawnIds L.state.trace →
      r ∈ (L.step op).answered → r ∈ L.answered := by
    intro r hr hans
    refine (Finset.mem_union.mp hans).resolve_right fun hrep => ?_
    exact hh.not_replied h hlt hr (List.mem_toFinset.mp hrep)
  have hids := RequestSystem.evolves_inv h.ids hev
  refine ⟨hids, ?_, fun r hr => ?_, fun r hr => ?_, fun e he r hr => ?_, fun u j hj hid => ?_⟩
  · rw [htrace, sentIds_append, drawnIds_append]
    exact List.append_subset.mpr ⟨List.Subset.trans h.sent (List.subset_append_left _ _),
      List.Subset.trans hsent (List.subset_append_right _ _)⟩
  · rw [htrace, drawnIds_append]
    rcases Finset.mem_union.mp hr with hr | hr
    · exact List.mem_append_left _ (h.assigned r hr)
    · exact List.mem_append_right _ (hsent (hh.stamp r (List.mem_toFinset.mp hr)).2)
  · rcases Finset.mem_union.mp hr with hr | hr
    · exact Finset.mem_union_left _ (h.answered hr)
    · exact Finset.mem_union_right _ (List.mem_toFinset.mpr (hh.itself r (List.mem_toFinset.mp hr)))
  · rw [htrace] at he
    rcases List.mem_append.mp he with he | he
    · obtain ⟨hmem, hname, hown⟩ := h.told e he r hr
      refine ⟨Finset.mem_union_left _ hmem, hname, fun hans => Finset.mem_union_left _ ?_⟩
      exact hown (hanswered r (h.assigned r hmem) hans)
    · obtain ⟨hmem, hname, hnone⟩ := hh.told e he r hr
      refine ⟨Finset.mem_union_right _ (List.mem_toFinset.mpr hmem), hname, fun hans => ?_⟩
      simp only [step, hnone, List.toFinset_nil, Finset.union_empty] at hans
      exact absurd hans (hh.unanswered h hlt hmem)
  · have hj' : replay u es' (L.state.handler.entry u) = some j := by
      rw [h.ids.entry, ← replay_append, ← htrace']
      exact (hids.entry u).symm.trans hj
    rcases entry_of_replay hj' hid with ⟨i, hi, hname, hreq⟩ | ⟨p, t, he⟩
    · rw [← hname, ← hreq]
      refine (h.kept u i hi (hreq ▸ hid)).imp (asksForResult_mono htrace) fun hwaits => ?_
      refine ⟨Finset.mem_union_left _ hwaits.1, fun hans => hwaits.2 ?_⟩
      exact hanswered _ (h.assigned _ hwaits.1) hans
    · exact (hh.stored _ _ _ _ _ he).imp_right (hh.waits h hlt hj hid)

lemma inv_step (L : ReplySystem) (op : ReplyOp) (h : Inv L)
    (hop : (drawnIds L.state.trace).length < 2 ^ 64 ∧ L.UserReplies op) : Inv (L.step op) := by
  cases op with
  | call c => exact h.call hop.1 hop.2
  | addData env topic data => exact h.addData hop.1 env topic data

lemma answers_step (L : ReplySystem) (op : ReplyOp) (h : Inv L)
    (hop : (drawnIds L.state.trace).length < 2 ^ 64 ∧ L.UserReplies op) :
    L.AnswersRequests op := by
  obtain ⟨hlt, hop⟩ := hop
  cases op with
  | call c =>
    obtain ⟨hnodup, hsettles⟩ := h.settles_call hlt hop
    exact ⟨hnodup, fun r hr =>
      ⟨Finset.mem_union_left _ (hsettles r hr).waits.1, (hsettles r hr).waits.2⟩⟩
  | addData env topic data =>
    obtain ⟨es, hh⟩ := h.hears hlt env topic data
    exact ⟨hh.nodup, fun r hr => ⟨Finset.mem_union_right _ (List.mem_toFinset.mpr (hh.itself r hr)),
      hh.unanswered h hlt (hh.itself r hr)⟩⟩

lemma within_of_step (L : ReplySystem) (op : ReplyOp)
    (h : (drawnIds (L.step op).state.trace).length < 2 ^ 64) :
    (drawnIds L.state.trace).length < 2 ^ 64 := by
  have htrace : ∃ es, (L.step op).state.trace = L.state.trace ++ es := by
    cases op with
    | call c =>
      obtain ⟨new, hdeaf⟩ := deaf_perform L.state c
      exact ⟨new, hdeaf.trace⟩
    | addData env topic data =>
      obtain ⟨doc, es, htrace, -⟩ := exists_bySample env topic data L.state
      exact ⟨es, htrace⟩
  obtain ⟨es, htrace⟩ := htrace
  rw [htrace, drawnIds_append, List.length_append] at h
  omega

end Steps

/-- **Replies answer requests** in every run in which the user replies to requests that it has been
told of, once to each, and has results for the goals of others only: also those that the handler
sends by itself, and those to the requests that are kept with the goals. -/
theorem replies_answer {w : List ReplyOp} (hw : Along step UserReplies start w)
    (hlt : (drawnIds (run step start w).state.trace).length < 2 ^ 64) :
    Along step AnswersRequests start w :=
  along_of_inv inv_step answers_step inv_start
    (Provenance.along_and (Provenance.along_of_run within_of_step hlt).2 hw)

/-- The topics of a server of `add_two_ints` elsewhere are discovered, and their type. -/
def discovery : List ReplyOp :=
  [.call (.addSchema .silent ⟨[], 0⟩ 0), .call (.createReader .silent Network.sumRequestTopic),
    .call (.createReader .silent Network.sumReplyTopic)]

/-- A request is received, and the user, who is told of it, replies to it. -/
def sumRun : List ReplyOp := discovery ++
  [.addData { Env.silent with callbacks := Network.listening, decode := fun _ _ => some .null }
      Network.sumRequestTopic ⟨[0], true, 0, [], [], true, 0⟩,
    .call (.sendServiceReply .silent "add_two_ints".toList (.doc (.int 3)) 1)]

theorem replies_answer_sum : (run step start sumRun).answered = {("add_two_ints".toList, 1)} ∧
    Along step AnswersRequests start sumRun :=
  ⟨by decide +kernel, replies_answer ⟨trivial, trivial, trivial, trivial,
    ⟨⟨_, List.mem_of_getElem? (i := 3) rfl, rfl⟩, by decide +kernel⟩, trivial⟩
    (by decide +kernel)⟩

/-- No request has been received, and a reply to the request `7` goes out. -/
theorem reply_to_nothing : ¬ Along step AnswersRequests start
    (discovery ++ [.call (.sendServiceReply .silent "add_two_ints".toList (.doc .null) 7)]) := by
  rintro ⟨-, -, -, ⟨-, h⟩, -⟩
  have hsent : replied (run step start discovery).state
      (.call (.sendServiceReply .silent "add_two_ints".toList (.doc .null) 7)) =
        [("add_two_ints".toList, 7)] := rfl
  have hmem := (h ("add_two_ints".toList, 7) (hsent ▸ List.mem_cons_self)).1
  revert hmem
  decide +kernel

end ReplySystem

end DdsEnabler
