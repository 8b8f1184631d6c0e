import DdsEnabler.GoalLifetime
import DdsEnabler.WireFormat

/-!
The rendezvous of a goal's result and the requests for it, on the server side.

A get-result request and the result that the user supplies meet in the entry of the goal, in
either order. The entry keeps one request and one result; the party that comes second sends the
reply, and a reply that is sent erases the entry.
-/

namespace DdsEnabler

open Exec Runs Tables

/-! ### Replies -/

/-- The result, the request and the outcome of an attempted reply for a goal. -/
def Event.replyTo (g : UUID) : Event → Option (JsonText × Nat × Bool)
  | .sendActionGetResultReply _ u json id sent => if u = g then some (json, id, sent) else none
  | _ => none

def repliesTo (g : UUID) (es : List Event) : List (JsonText × Nat × Bool) :=
  es.filterMap (Event.replyTo g)

/-- The identifier of a stored get-result request for a goal. -/
def Event.requestFor (g : UUID) : Event → Option Nat
  | .storedRequest _ u id .result _ _ => if u = g then some id else none
  | _ => none

def requestsFor (g : UUID) (es : List Event) : List Nat := es.filterMap (Event.requestFor g)

@[simp] lemma repliesTo_append (g : UUID) (es es' : List Event) :
    repliesTo g (es ++ es') = repliesTo g es ++ repliesTo g es' := List.filterMap_append ..
@[simp] lemma requestsFor_append (g : UUID) (es es' : List Event) :
    requestsFor g (es ++ es') = requestsFor g es ++ requestsFor g es' := List.filterMap_append ..

section Callback

variable (env : Env) (actionName : Str) (g : UUID) (json : JsonText) (id : Nat) (s : State)

lemma sendServiceReply_run (serviceName : Str) :
    ∃ sent es, (sendServiceReply env serviceName json id).run s = .ok sent (s.log es) ∧
      ∀ e ∈ es, ∃ t, e = .publishedRpc t json id := by
  unfold sendServiceReply getServiceProtocol
  rw [EStateM.run_bind, readParticipant_run]
  simp only
  split
  · exact ⟨false, [], by simp, by simp⟩
  · next topicName _ =>
    rw [publishRpc_run]
    by_cases h : s.rpcPublishable env topicName json
    · exact ⟨true, [.publishedRpc topicName json id], by simp [h], by simp⟩
    · exact ⟨false, [], by simp [h], by simp⟩

/-- One attempt to reply: the entry of the goal is erased if it succeeds, and stays as it is if
it does not. -/
lemma getResultReplyCallback_run :
    ∃ sent t es, (getResultReplyCallback env actionName g json id).run s = .ok sent t ∧
      t.trace = s.trace ++ (es ++ [.sendActionGetResultReply actionName g json id sent]) ∧
      repliesTo g es = [] ∧ requestsFor g es = [] ∧
      (∀ u, t.handler.entry u =
        if sent = true ∧ u = g then none else s.handler.entry u) := by
  obtain ⟨sent, es, hrun, hes⟩ := sendServiceReply_run env json id s
    (actionName ++ actionResultSuffix)
  have hreplies : repliesTo g es = [] ∧ requestsFor g es = [] := by
    refine ⟨List.filterMap_eq_nil_iff.mpr fun e he => ?_,
      List.filterMap_eq_nil_iff.mpr fun e he => ?_⟩
    · obtain ⟨t, rfl⟩ := hes e he
      rfl
    · obtain ⟨t, rfl⟩ := hes e he
      rfl
  rcases sent
  · refine ⟨false, s.log (es ++ [.sendActionGetResultReply actionName g json id false]), es, ?_,
      by simp, hreplies.1, hreplies.2, by simp⟩
    simp [getResultReplyCallback, sendActionGetResultReply, hrun]
  · refine ⟨true, { s.log es with handler := s.handler.eraseActionUUID g .forced }.log
      [.erasedAction g .forced, .sendActionGetResultReply actionName g json id true],
      es ++ [.erasedAction g .forced], ?_, by simp, by simpa using ⟨hreplies.1, rfl⟩,
      by simpa using ⟨hreplies.2, rfl⟩, ?_⟩
    · simp [getResultReplyCallback, sendActionGetResultReply, hrun]
    · intro u
      change (s.handler.eraseActionUUID g .forced).entry u = _
      rw [Handler.entry_eraseActionUUID]
      by_cases hu : u = g
      · have hforced : Handler.eraseFlag .forced = fun _ => none := by
          funext i
          simp [Handler.eraseFlag, ActionRequestInfo.erase]
        simp [hu, hforced]
      · simp [hu]

end Callback

/-! ### One party after the other -/

/-- A sample that is a get-result request for the goal `g` of the action. -/
structure IsResultRequest (env : Env) (topic : DdsTopic) (data : Sample) (actionName : Str)
    (g : UUID) (s : State) : Prop where
  accepted : ∃ dynType, data.Accepted topic dynType s ∧
    uuidFromRequestJson env (data.message topic) dynType = .ok (some g)
  isRpc : data.isRpc = true
  rpcType : (RpcInfo.ofTopic topic.topicName).rpcType = .action
  serviceType : (RpcInfo.ofTopic topic.topicName).serviceType = .request
  actionType : (RpcInfo.ofTopic topic.topicName).actionType = .result
  action : (RpcInfo.ofTopic topic.topicName).actionName = actionName

section Parties

variable {env : Env} {topic : DdsTopic} {data : Sample} {actionName : Str} {g : UUID} {s : State}

/-- The state once a request has been stamped. -/
def State.stamped (s : State) : State :=
  s.count.draw.log [.sentSequenceNumber s.handler.nextRequestId.1]

lemma addData_resultRequest (h : IsResultRequest env topic data actionName g s) :
    (addData env topic data).run s =
      (do
        if ← storeActionRequest env actionName g s.handler.nextRequestId.1 .result .ros2 then
          replyStoredResult env actionName g s.handler.nextRequestId.1 : M Unit).run s.stamped := by
  obtain ⟨⟨dynType, hacc, huuid⟩, hrpc, h1, h2, h3, h4⟩ := h
  rw [addData_run hacc]
  simp only [addKnownData, h1, addActionData, h2, h3, addResultRequest, huuid, lift_ok, pure_bind,
    EStateM.run_bind, stampRequest_run, hrpc, if_true, h4]
  rfl

lemma addData_resultRequest_none (h : IsResultRequest env topic data actionName g s)
    (hg : s.handler.entry g = none) : (addData env topic data).run s = .ok () s.stamped := by
  have hstore : (s.stamped.handler.storeActionRequest actionName g s.handler.nextRequestId.1
      .result .ros2 env.now).1 = false := by
    have hg' : s.stamped.handler.entry g = none := hg
    simp [Handler.storeActionRequest, hg']
  rw [addData_resultRequest h, EStateM.run_bind, storeActionRequest_run_false _ _ hstore]
  rfl

/-- The state once a get-result request has been stored. -/
def State.requested (s : State) (env : Env) (actionName : Str) (g : UUID)
    (i : ActionRequestInfo) : State :=
  { s.stamped with handler :=
      s.stamped.handler.insertEntry g (i.setRequest s.handler.nextRequestId.1 .result) }.log
    [.storedRequest actionName g s.handler.nextRequestId.1 .result .ros2 env.now]

lemma addData_resultRequest_some {i : ActionRequestInfo}
    (h : IsResultRequest env topic data actionName g s) (hg : s.handler.entry g = some i)
    (hname : i.actionName = actionName) :
    (addData env topic data).run s =
      (replyStoredResult env actionName g s.handler.nextRequestId.1).run
        (s.requested env actionName g i) := by
  have hg' : s.stamped.handler.entry g = some i := hg
  have hstore : s.stamped.handler.storeActionRequest actionName g s.handler.nextRequestId.1
      .result .ros2 env.now =
      (true, s.stamped.handler.insertEntry g (i.setRequest s.handler.nextRequestId.1 .result)) := by
    simp [Handler.storeActionRequest, hg', hname]
  rw [addData_resultRequest h, EStateM.run_bind, storeActionRequest_run_true _ _ (by rw [hstore]),
    hstore]
  rfl

lemma requested_trace {i : ActionRequestInfo} :
    (s.requested env actionName g i).trace = s.trace ++
      [.newRequestId s.handler.nextRequestId.1, .sentSequenceNumber s.handler.nextRequestId.1,
        .storedRequest actionName g s.handler.nextRequestId.1 .result .ros2 env.now] := by
  simp [State.requested, State.stamped]

lemma requested_entry {i : ActionRequestInfo} :
    (s.requested env actionName g i).handler.entry g =
      some (i.setRequest s.handler.nextRequestId.1 .result) := by
  change (s.stamped.handler.insertEntry g _).entry g = _
  rw [Handler.entry_insertEntry, if_pos rfl]

lemma replyStoredResult_run {i : ActionRequestInfo} (id : Nat) (hg : s.handler.entry g = some i) :
    (replyStoredResult env actionName g id).run s =
      if i.result.isEmpty then .ok () s
      else (discard (getResultReplyCallback env actionName g i.result id)).run s := by
  rcases h : i.result.isEmpty
  · simp [replyStoredResult, Handler.getActionResult, hg, h]
  · simp [replyStoredResult, Handler.getActionResult, hg, h]

lemma sendActionResult_run_none (env : Env) (statusCode : StatusCode) (json : JsonText)
    (hg : s.handler.entry g = none) :
    (sendActionResult env actionName g statusCode json).run s = .ok false s := by
  simp [sendActionResult, Handler.isUUIDActive, Handler.activeInfo, hg]

lemma sendActionResult_run_some (env : Env) (statusCode : StatusCode) (json : JsonText)
    {i : ActionRequestInfo} (hg : s.handler.entry g = some i) (hi : i.actionName = actionName) :
    (sendActionResult env actionName g statusCode json).run s =
      match RpcUtils.createResultReplyMsg statusCode json with
      | .error e => .error e s
      | .ok reply =>
        if i.resultRequestId ≠ 0 then
          (getResultReplyCallback env actionName g (.doc reply) i.resultRequestId).run s
        else (setResult g (.doc reply)).run s := by
  have hactive : s.handler.isUUIDActive actionName g = true :=
    RequestSystem.isUUIDActive_iff.mpr ⟨i, hg, hi⟩
  rcases hmsg : RpcUtils.createResultReplyMsg statusCode json with e | reply
  · simp [sendActionResult, hactive, hmsg]
  · simp only [sendActionResult, EStateM.run_bind, readHandler_run, hactive, if_true, hmsg,
      lift_ok, EStateM.run_pure, handleActionResult, hg, ne_eq, hi, not_true_eq_false, if_false]
    split <;> rfl

end Parties

/-! ### The system -/

/-- The enabler and what has happened for one goal: the get-result requests stored, the replies
that the user's results make, and the attempts to send them. -/
structure Rendezvous where
  state : State
  requests : List Nat := []
  supplied : List JsonText := []
  replies : List (JsonText × Nat × Bool) := []

inductive RendezvousOp
  | getResult (env : Env) (topic : DdsTopic) (data : Sample)
  | sendActionResult (env : Env) (statusCode : StatusCode) (json : JsonText)
  /-- Whatever else happens to the enabler. -/
  | others (handler : Handler) (participant : Participant)

def RendezvousOp.suppliesResult : RendezvousOp → Bool
  | .sendActionResult _ _ _ => true
  | _ => false

namespace Rendezvous

variable (actionName : Str) (g : UUID)

/-- Note what the events that lead to the state `t` say of the goal. -/
def advance (s : Rendezvous) (t : State) : Rendezvous :=
  let new := t.trace.drop s.state.trace.length
  { s with state := t, requests := s.requests ++ requestsFor g new,
           replies := s.replies ++ repliesTo g new }

/-- The reply that a result makes, if the result is a JSON text. -/
def replyOf (statusCode : StatusCode) (json : JsonText) : List JsonText :=
  match RpcUtils.createResultReplyMsg statusCode json with
  | .ok reply => [.doc reply]
  | .error _ => []

def step (s : Rendezvous) : RendezvousOp → Rendezvous
  | .getResult env topic data => s.advance g (after (addData env topic data) s.state)
  | .sendActionResult env statusCode json =>
    { s.advance g (after (DdsEnabler.sendActionResult env actionName g statusCode json) s.state)
      with supplied := s.supplied ++ replyOf statusCode json }
  | .others handler participant => { s with state := { s.state with handler, participant } }

/-- The operations the rendezvous is about: get-result requests for the goal, as long as the
counter does not wrap around, and whatever leaves the entry of the goal alone. -/
def Fits (s : Rendezvous) : RendezvousOp → Prop
  | .getResult env topic data => IsResultRequest env topic data actionName g s.state ∧
      s.state.handler.requestsId + 1 < 2 ^ 64
  | .sendActionResult _ _ _ => True
  | .others handler _ => handler.entry g = s.state.handler.entry g

def Active (s : Rendezvous) : Prop := s.state.handler.isUUIDActive actionName g = true

/-- The invariant: while the entry is there, it holds the last request and a supplied result at
most, and no reply has been sent; once it is gone, one has. -/
structure Inv (s : Rendezvous) : Prop where
  requests : 0 ∉ s.requests
  entry : ∀ i, s.state.handler.entry g = some i → i.actionName = actionName ∧
    i.resultRequestId = s.requests.getLast?.getD 0 ∧
    (i.result.isEmpty = false → i.result ∈ s.supplied) ∧ ∀ r ∈ s.replies, r.2.2 = false
  gone : s.state.handler.entry g = none → (s.replies.filter (·.2.2)).length = 1

/-- What a step does about replies. Attempts carry a supplied result and the last request; the
goal stays active if an attempt fails, and does not if it succeeds. Once it is not active,
nothing comes of requests and results. -/
def Orderly (s : Rendezvous) (op : RendezvousOp) : Prop :=
  ∃ new, (step actionName g s op).replies = s.replies ++ new ∧
    (∀ r ∈ new, r.1 ∈ (step actionName g s op).supplied ∧
      (step actionName g s op).requests.getLast? = some r.2.1 ∧
      (r.2.2 = false → (step actionName g s op).Active actionName g) ∧
      (r.2.2 = true → ¬ (step actionName g s op).Active actionName g)) ∧
    (¬ s.Active actionName g → new = [] ∧ match op with
      | .getResult _ _ _ => (step actionName g s op).requests = s.requests ∧
        ∀ u, (step actionName g s op).state.handler.entry u = s.state.handler.entry u
      | .sendActionResult env statusCode json =>
        (DdsEnabler.sendActionResult env actionName g statusCode json).run s.state =
          .ok false s.state
      | .others _ _ => True)

variable {actionName g} {s : Rendezvous}

lemma active_iff : s.Active actionName g ↔
    ∃ i, s.state.handler.entry g = some i ∧ i.actionName = actionName :=
  RequestSystem.isUUIDActive_iff

lemma advance_of {t : State} {new : List Event} (h : t.trace = s.state.trace ++ new) :
    s.advance g t = { s with state := t, requests := s.requests ++ requestsFor g new,
                             replies := s.replies ++ repliesTo g new } := by
  have hdrop : t.trace.drop s.state.trace.length = new := by rw [h, List.drop_left]
  simp only [advance, hdrop]

lemma getResult_cases {env : Env} {topic : DdsTopic} {data : Sample}
    (h : IsResultRequest env topic data actionName g s.state)
    (hname : ∀ i, s.state.handler.entry g = some i → i.actionName = actionName) :
    (s.state.handler.entry g = none ∧
      step actionName g s (.getResult env topic data) = { s with state := s.state.stamped }) ∨
    ∃ i new t, s.state.handler.entry g = some i ∧
      step actionName g s (.getResult env topic data) =
        { s with state := t, requests := s.requests ++ [s.state.handler.nextRequestId.1],
                 replies := s.replies ++ new } ∧
      (i.result.isEmpty = true ∧ new = [] ∧
          t.handler.entry g = some (i.setRequest s.state.handler.nextRequestId.1 .result) ∨
        ∃ sent, i.result.isEmpty = false ∧
          new = [(i.result, s.state.handler.nextRequestId.1, sent)] ∧
          t.handler.entry g = if sent = true then none else
            some (i.setRequest s.state.handler.nextRequestId.1 .result)) := by
  rcases hg : s.state.handler.entry g with _ | i
  · refine .inl ⟨rfl, ?_⟩
    have htrace : s.state.stamped.trace = s.state.trace ++
        [.newRequestId s.state.handler.nextRequestId.1,
          .sentSequenceNumber s.state.handler.nextRequestId.1] := by simp [State.stamped]
    simp only [step, after_ok (addData_resultRequest_none h hg), advance_of htrace]
    simp [requestsFor, repliesTo, Event.requestFor, Event.replyTo]
  · right
    set id := s.state.handler.nextRequestId.1 with hid
    set r := s.state.requested env actionName g i with hr
    set stored := [Event.newRequestId id, .sentSequenceNumber id,
      .storedRequest actionName g id .result .ros2 env.now] with hstored
    have htrace : r.trace = s.state.trace ++ stored := requested_trace
    have hentry : r.handler.entry g = some (i.setRequest id .result) := requested_entry
    have hreq : requestsFor g stored = [id] := by
      rw [hstored]
      simp [requestsFor, List.filterMap_cons, Event.requestFor]
    have hrep : repliesTo g stored = [] := rfl
    have hreply : (replyStoredResult env actionName g id).run r =
        if i.result.isEmpty then .ok () r
        else (discard (getResultReplyCallback env actionName g i.result id)).run r :=
      replyStoredResult_run (i := i.setRequest id .result) id hentry
    have hrun := (addData_resultRequest_some h hg (hname i hg)).trans hreply
    rcases hempty : i.result.isEmpty
    · -- the result is there: it is sent to the request
      obtain ⟨sent, t, es, hcb, htrace', hrep', hreq', ht⟩ :=
        getResultReplyCallback_run env actionName g i.result id r
      have hdone : (addData env topic data).run s.state = .ok () t := by
        rw [hrun, hempty, run_discard, hcb]
        rfl
      rw [htrace, List.append_assoc] at htrace'
      refine ⟨i, [(i.result, id, sent)], t, rfl, ?_, .inr ⟨sent, hempty, rfl, ?_⟩⟩
      · simp only [step, after_ok hdone, advance_of htrace', requestsFor_append, repliesTo_append,
          hreq, hrep, hreq', hrep']
        simp [requestsFor, repliesTo, Event.requestFor, Event.replyTo]
      · rw [ht g, hentry]
        simp
    · have hdone : (addData env topic data).run s.state = .ok () r := by
        rw [hrun, hempty, if_pos rfl]
      refine ⟨i, [], r, rfl, ?_, .inl ⟨hempty, rfl, hentry⟩⟩
      simp only [step, after_ok hdone, advance_of htrace, hreq, hrep]

lemma sendActionResult_cases (env : Env) (statusCode : StatusCode) (json : JsonText)
    (hname : ∀ i, s.state.handler.entry g = some i → i.actionName = actionName) :
    (s.state.handler.entry g = none ∧
      (DdsEnabler.sendActionResult env actionName g statusCode json).run s.state =
        .ok false s.state ∧
      step actionName g s (.sendActionResult env statusCode json) =
        { s with supplied := s.supplied ++ replyOf statusCode json }) ∨
    ∃ i new t, s.state.handler.entry g = some i ∧
      step actionName g s (.sendActionResult env statusCode json) =
        { s with state := t, replies := s.replies ++ new,
                 supplied := s.supplied ++ replyOf statusCode json } ∧
      (replyOf statusCode json = [] ∧ new = [] ∧ t.handler.entry g = some i ∨
        ∃ reply, replyOf statusCode json = [reply] ∧ reply.isEmpty = false ∧
          (i.resultRequestId = 0 ∧ new = [] ∧
              t.handler.entry g = some (i.setResult reply).2 ∨
            ∃ sent, i.resultRequestId ≠ 0 ∧ new = [(reply, i.resultRequestId, sent)] ∧
              t.handler.entry g = if sent = true then none else some i)) := by
  have hsame : s.state.trace = s.state.trace ++ [] := by simp
  rcases hg : s.state.handler.entry g with _ | i
  · have hrun : (DdsEnabler.sendActionResult env actionName g statusCode json).run s.state =
        .ok false s.state := sendActionResult_run_none env statusCode json hg
    refine .inl ⟨rfl, hrun, ?_⟩
    simp only [step, after_ok hrun, advance_of hsame]
    simp [requestsFor, repliesTo]
  · right
    have hrun := sendActionResult_run_some env statusCode json hg (hname i hg)
    rcases hmsg : RpcUtils.createResultReplyMsg statusCode json with e | reply
    · simp only [hmsg] at hrun
      have hreply : replyOf statusCode json = [] := by simp [replyOf, hmsg]
      refine ⟨i, [], s.state, rfl, ?_, .inl ⟨hreply, rfl, hg⟩⟩
      simp only [step, after_error hrun, advance_of hsame, hreply]
      simp [requestsFor, repliesTo]
    · simp only [hmsg] at hrun
      have hreply : replyOf statusCode json = [.doc reply] := by simp [replyOf, hmsg]
      by_cases hreq : i.resultRequestId = 0
      · rw [if_neg (by simpa using hreq), setResult_run] at hrun
        set t := { s.state with handler := (s.state.handler.setResult g (.doc reply)).2 }.log
          [.resultSet g (.doc reply)] with ht
        have htrace : t.trace = s.state.trace ++ [.resultSet g (.doc reply)] := by simp [ht]
        refine ⟨i, [], t, rfl, ?_, .inr ⟨.doc reply, hreply, rfl, .inl ⟨hreq, rfl, ?_⟩⟩⟩
        · simp only [step, after_ok hrun, advance_of htrace, hreply]
          simp [requestsFor, repliesTo, Event.requestFor, Event.replyTo]
        · change (s.state.handler.setResult g (.doc reply)).2.entry g = _
          rw [Handler.entry_setResult, if_pos rfl, hg]
          rfl
      · rw [if_pos hreq] at hrun
        obtain ⟨sent, t, es, hcb, htrace, hrep', hreq', ht⟩ := getResultReplyCallback_run env
          actionName g (.doc reply) i.resultRequestId s.state
        refine ⟨i, [(.doc reply, i.resultRequestId, sent)], t, rfl, ?_,
          .inr ⟨.doc reply, hreply, rfl, .inr ⟨sent, hreq, rfl, ?_⟩⟩⟩
        · simp only [step, after_ok (hrun.trans hcb), advance_of htrace, hreply,
            requestsFor_append, repliesTo_append, hreq', hrep']
          simp [requestsFor, repliesTo, Event.requestFor, Event.replyTo]
        · rw [ht g, hg]
          simp

lemma filter_unsent {l : List (JsonText × Nat × Bool)} (h : ∀ r ∈ l, r.2.2 = false) :
    l.filter (·.2.2) = [] := by
  rw [List.filter_eq_nil_iff]
  intro r hr
  simp [h r hr]

lemma inv_start {t : State} {id : Nat} {now : Int}
    (h : t.handler.entry g = some (.create actionName .goal id .ros2 now)) :
    Inv actionName g { state := t } where
  requests := List.not_mem_nil
  entry i hi := by
    rw [h] at hi
    cases hi
    exact ⟨rfl, rfl, by simp [ActionRequestInfo.create, ActionRequestInfo.setRequest,
      JsonText.isEmpty], by simp⟩
  gone hg := by
    rw [h] at hg
    cases hg

lemma not_active_of_none (h : s.state.handler.entry g = none) : ¬ s.Active actionName g := by
  rw [active_iff, h]
  simp

lemma inv_of_some {i : ActionRequestInfo} {t : Rendezvous}
    (hentry : t.state.handler.entry g = some i) (hreq : 0 ∉ t.requests)
    (hname : i.actionName = actionName)
    (hi : i.resultRequestId = t.requests.getLast?.getD 0)
    (hresult : i.result.isEmpty = false → i.result ∈ t.supplied)
    (hreplies : ∀ r ∈ t.replies, r.2.2 = false) : Inv actionName g t where
  requests := hreq
  entry j hj := by
    rw [hentry] at hj
    cases hj
    exact ⟨hname, hi, hresult, hreplies⟩
  gone hgone := by
    rw [hentry] at hgone
    cases hgone

lemma attempt_inv {i : ActionRequestInfo} {r : Nat} {sent : Bool} {reply : JsonText}
    {t : Rendezvous} (hreq : 0 ∉ t.requests)
    (hreplies : t.replies = s.replies ++ [(reply, r, sent)])
    (hold : ∀ r ∈ s.replies, r.2.2 = false)
    (hentry : t.state.handler.entry g = if sent = true then none else some i)
    (hname : i.actionName = actionName) (hi : i.resultRequestId = t.requests.getLast?.getD 0)
    (hresult : i.result.isEmpty = false → i.result ∈ t.supplied) : Inv actionName g t := by
  rcases sent
  · refine inv_of_some hentry hreq hname hi hresult fun r' hr' => ?_
    rw [hreplies] at hr'
    rcases List.mem_append.mp hr' with hr' | hr'
    · exact hold r' hr'
    · rw [List.mem_singleton.mp hr']
  · refine ⟨hreq, fun j hj => ?_, fun _ => ?_⟩
    · rw [hentry] at hj
      cases hj
    · rw [hreplies, List.filter_append, filter_unsent hold]
      rfl

lemma getResult_inv (h : Inv actionName g s) {env : Env} {topic : DdsTopic} {data : Sample}
    (hfits : Fits actionName g s (.getResult env topic data)) :
    Inv actionName g (step actionName g s (.getResult env topic data)) := by
  obtain ⟨hreq, hlt⟩ := hfits
  rcases getResult_cases hreq fun i hi => (h.entry i hi).1 with
    ⟨hg, hstep⟩ | ⟨i, new, t, hi, hstep, hcases⟩
  · rw [hstep]
    exact ⟨h.requests, h.entry, h.gone⟩
  · obtain ⟨hn, hlast, hres, hold⟩ := h.entry i hi
    set id := s.state.handler.nextRequestId.1 with hid
    have hpos : id ≠ 0 := by
      simp only [hid, Handler.nextRequestId]
      omega
    have hmem : 0 ∉ s.requests ++ [id] := by
      rw [List.mem_append, List.mem_singleton, not_or]
      exact ⟨h.requests, Ne.symm hpos⟩
    have hid' : (i.setRequest id .result).resultRequestId =
        (s.requests ++ [id]).getLast?.getD 0 := by
      simp [ActionRequestInfo.setRequest]
    rw [hstep]
    rcases hcases with ⟨hempty, rfl, hentry⟩ | ⟨sent, hempty, rfl, hentry⟩
    · exact inv_of_some hentry hmem hn hid' hres (by simpa using hold)
    · exact attempt_inv hmem rfl hold hentry hn hid' hres

lemma sendActionResult_inv (h : Inv actionName g s) (env : Env) (statusCode : StatusCode)
    (json : JsonText) :
    Inv actionName g (step actionName g s (.sendActionResult env statusCode json)) := by
  rcases sendActionResult_cases env statusCode json fun i hi => (h.entry i hi).1 with
    ⟨hg, -, hstep⟩ | ⟨i, new, t, hi, hstep, hcases⟩
  · rw [hstep]
    refine ⟨h.requests, fun i hi => ?_, h.gone⟩
    have hi' : s.state.handler.entry g = some i := hi
    rw [hg] at hi'
    cases hi'
  · obtain ⟨hn, hlast, hres, hold⟩ := h.entry i hi
    have hold' : ∀ r ∈ s.replies ++ [], r.2.2 = false := by simpa using hold
    have hres' : i.result.isEmpty = false → i.result ∈ s.supplied ++ replyOf statusCode json :=
      fun hne => List.mem_append_left _ (hres hne)
    rw [hstep]
    rcases hcases with ⟨-, rfl, hentry⟩ | ⟨reply, hreply, hne, hcases⟩
    · exact inv_of_some hentry h.requests hn hlast hres' hold'
    · rcases hcases with ⟨h0, rfl, hentry⟩ | ⟨sent, hreq, rfl, hentry⟩
      · unfold ActionRequestInfo.setResult at hentry
        split at hentry
        · exact inv_of_some hentry h.requests hn hlast hres' hold'
        · refine inv_of_some hentry h.requests hn hlast (fun _ => ?_) hold'
          rw [hreply]
          exact List.mem_append_right _ (List.mem_singleton_self _)
      · exact attempt_inv h.requests rfl hold hentry hn hlast hres'

lemma step_inv (op : RendezvousOp) (h : Inv actionName g s) (hfits : Fits actionName g s op) :
    Inv actionName g (step actionName g s op) := by
  cases op with
  | getResult env topic data => exact getResult_inv h hfits
  | sendActionResult env statusCode json => exact sendActionResult_inv h env statusCode json
  | others handler participant =>
    have hsame : handler.entry g = s.state.handler.entry g := hfits
    exact ⟨h.requests, fun i hi => h.entry i (hsame ▸ hi), fun hg => h.gone (hsame ▸ hg)⟩

lemma attempt_orderly {op : RendezvousOp} {i : ActionRequestInfo} {id : Nat} {sent : Bool}
    {reply : JsonText} (hi : s.state.handler.entry g = some i) (hname : i.actionName = actionName)
    (hreplies : (step actionName g s op).replies = s.replies ++ [(reply, id, sent)])
    (hreply : reply ∈ (step actionName g s op).supplied)
    (hlast : (step actionName g s op).requests.getLast? = some id)
    {j : ActionRequestInfo} (hj : j.actionName = actionName)
    (hentry : (step actionName g s op).state.handler.entry g =
      if sent = true then none else some j) :
    Orderly actionName g s op := by
  refine ⟨_, hreplies, fun r hr => ?_, fun hgone => ?_⟩
  · rw [List.mem_singleton.mp hr]
    refine ⟨hreply, hlast, fun hsent => ?_, fun hsent => ?_⟩
    · have hsent' : sent = false := hsent
      exact active_iff.mpr ⟨j, by simp [hentry, hsent'], hj⟩
    · have hsent' : sent = true := hsent
      exact not_active_of_none (by simp [hentry, hsent'])
  · exact absurd (active_iff.mpr ⟨i, hi, hname⟩) hgone

lemma quiet_orderly {op : RendezvousOp} {i : ActionRequestInfo}
    (hi : s.state.handler.entry g = some i) (hname : i.actionName = actionName)
    (hreplies : (step actionName g s op).replies = s.replies) : Orderly actionName g s op :=
  ⟨[], by rw [hreplies, List.append_nil], by simp,
    fun hgone => absurd (active_iff.mpr ⟨i, hi, hname⟩) hgone⟩

lemma getLast?_of_getD {l : List Nat} (h : l.getLast?.getD 0 ≠ 0) :
    l.getLast? = some (l.getLast?.getD 0) := by
  rcases hl : l.getLast? with _ | n
  · rw [hl] at h
    exact absurd rfl h
  · rfl

lemma step_orderly (op : RendezvousOp) (h : Inv actionName g s) (hfits : Fits actionName g s op) :
    Orderly actionName g s op := by
  have hname : ∀ i, s.state.handler.entry g = some i → i.actionName = actionName :=
    fun i hi => (h.entry i hi).1
  cases op with
  | getResult env topic data =>
    rcases getResult_cases hfits.1 hname with ⟨hg, hstep⟩ | ⟨i, new, t, hi, hstep, hcases⟩
    · exact ⟨[], by rw [hstep]; simp, by simp,
        fun _ => ⟨rfl, by rw [hstep], fun u => by rw [hstep]; rfl⟩⟩
    · obtain ⟨hn, -, hres, -⟩ := h.entry i hi
      rcases hcases with ⟨-, rfl, -⟩ | ⟨sent, hempty, rfl, hentry⟩
      · exact quiet_orderly hi hn (by rw [hstep]; simp)
      · exact attempt_orderly hi hn (by rw [hstep]) (by rw [hstep]; exact hres hempty)
          (by rw [hstep]; simp) (j := i.setRequest s.state.handler.nextRequestId.1 .result) hn
          (by rw [hstep]; exact hentry)
  | sendActionResult env statusCode json =>
    rcases sendActionResult_cases env statusCode json hname with
      ⟨hg, hrun, hstep⟩ | ⟨i, new, t, hi, hstep, hcases⟩
    · exact ⟨[], by rw [hstep]; simp, by simp, fun _ => ⟨rfl, hrun⟩⟩
    · obtain ⟨hn, hlast, -, -⟩ := h.entry i hi
      rcases hcases with ⟨-, rfl, -⟩ | ⟨reply, hreply, -, ⟨-, rfl, -⟩ | ⟨sent, hreq, rfl, hentry⟩⟩
      · exact quiet_orderly hi hn (by rw [hstep]; simp)
      · exact quiet_orderly hi hn (by rw [hstep]; simp)
      · have hlast' : s.requests.getLast? = some i.resultRequestId := by
          rw [hlast] at hreq ⊢
          exact getLast?_of_getD hreq
        exact attempt_orderly hi hn (by rw [hstep]) (by rw [hstep, hreply]; simp)
          (by rw [hstep]; exact hlast') (j := i) hn (by rw [hstep]; exact hentry)
  | others handler participant => exact ⟨[], by simp [step], by simp, fun _ => ⟨rfl, trivial⟩⟩

/-- One successful reply at most: the entry goes with it. -/
lemma Inv.sent_le (h : Inv actionName g s) : (s.replies.filter (·.2.2)).length ≤ 1 := by
  rcases hg : s.state.handler.entry g with _ | i
  · rw [h.gone hg]
  · obtain ⟨-, -, -, hold⟩ := h.entry i hg
    rw [filter_unsent hold]
    simp

/-- **The rendezvous of requests and results.** After a goal has been recorded, in any order of
get-result requests and results, each attempt at a reply carries a result that was supplied and
the last request; a failed attempt leaves the goal active, and one reply at most succeeds, after
which the goal is not active. -/
theorem result_rendezvous (env : Env) (actionName : Str) (g : UUID) (id : Nat) (s t : State)
    (h : (storeActionRequest env actionName g id .goal .ros2).run s = .ok true t)
    (w : List RendezvousOp)
    (hw : Along (step actionName g) (Fits actionName g) { state := t } w) :
    Along (step actionName g) (Orderly actionName g) { state := t } w ∧
      ((run (step actionName g) { state := t } w).replies.filter (·.2.2)).length ≤ 1 := by
  have hstart := inv_start (RequestSystem.entry_of_stored h)
  have hinv := run_inv (fun s op hs hop => step_inv op hs hop) hstart hw
  exact ⟨along_of_inv (fun s op hs hop => step_inv op hs hop)
    (fun s op hs hop => step_orderly op hs hop) hstart hw, hinv.sent_le⟩

/-! ### A server -/

def fibonacci : Str := "fibonacci/_action/".toList

/-- The topics of the result service of an action are known, and their type. -/
def serverState : State :=
  let known : State := { handler := { schemas := (∅ : Table _ _).insert [] (0, ⟨[], 0⟩) } }
  after (createReader .silent { topicName := "rr/fibonacci/_action/get_resultReply".toList })
    (after (createReader .silent { topicName := "rq/fibonacci/_action/get_resultRequest".toList })
      known)

/-- The server once it has recorded the goal with the null identifier, under the first one. -/
def goalState : State :=
  after (storeActionRequest .silent fibonacci .null 1 .goal .ros2) serverState.draw

/-- The request for the result of that goal. -/
def requestOp : RendezvousOp :=
  .getResult { Env.silent with decode := fun _ _ => some (RpcUtils.createResultRequestMsg .null) }
    { topicName := "rq/fibonacci/_action/get_resultRequest".toList }
    ⟨[0], true, 0, [], [], true, 0⟩

/-- A result with nothing in it. -/
def resultOp : RendezvousOp := .sendActionResult .silent .succeeded (.doc .null)

lemma requestOp_fits (h : s.state.handler.schemas = serverState.handler.schemas)
    (hlt : s.state.handler.requestsId + 1 < 2 ^ 64) : Fits fibonacci .null s requestOp := by
  refine ⟨⟨⟨⟨[], 0⟩, ⟨⟨0, ?_⟩, rfl, rfl⟩, ?_⟩, rfl, rfl, rfl, rfl, rfl⟩, hlt⟩
  · rw [h]
    rfl
  · exact uuidFromRequestJson_goalId rfl rfl

theorem result_rendezvous_goal :
    Along (step fibonacci .null) (Orderly fibonacci .null) { state := goalState }
        [resultOp, requestOp] ∧
      ((run (step fibonacci .null) { state := goalState } [resultOp, requestOp]).replies.filter
        (·.2.2)).length ≤ 1 :=
  result_rendezvous .silent fibonacci .null 1 serverState.draw goalState rfl [resultOp, requestOp]
    ⟨trivial, requestOp_fits rfl (by decide), trivial⟩

/-! ### Requests that wait for the result -/

/-- No result has come in yet: the entry holds the last of the requests, and no reply has been
attempted. -/
structure Waiting (actionName : Str) (g : UUID) (s : Rendezvous) : Prop where
  entry : ∃ i, s.state.handler.entry g = some i ∧ i.actionName = actionName ∧
    i.result.isEmpty = true ∧ ∀ r ∈ s.requests.getLast?, i.resultRequestId = r ∧ r ≠ 0
  replies : s.replies = []

lemma waiting_start {t : State} (hactive : t.handler.isUUIDActive actionName g = true)
    (hresult : t.handler.getActionResult g = none) : Waiting actionName g { state := t } := by
  obtain ⟨i, hi, hname⟩ := RequestSystem.isUUIDActive_iff.mp hactive
  refine ⟨⟨i, hi, hname, ?_, by simp⟩, rfl⟩
  rcases hempty : i.result.isEmpty
  · simp [Handler.getActionResult, hi, hempty] at hresult
  · rfl

lemma step_waiting (op : RendezvousOp) (h : Waiting actionName g s)
    (hop : Fits actionName g s op ∧ op.suppliesResult = false) :
    Waiting actionName g (step actionName g s op) := by
  obtain ⟨hfits, hwait⟩ := hop
  obtain ⟨⟨i, hi, hname, hempty, hlast⟩, hreplies⟩ := h
  cases op with
  | getResult env topic data =>
    obtain ⟨hreq, hlt⟩ := hfits
    have hname' : ∀ j, s.state.handler.entry g = some j → j.actionName = actionName := by
      intro j hj
      rw [hi] at hj
      cases hj
      exact hname
    have hpos : s.state.handler.nextRequestId.1 ≠ 0 := by
      simp only [Handler.nextRequestId]
      omega
    rcases getResult_cases hreq hname' with ⟨hg, -⟩ | ⟨j, new, t, hj, hstep, hcases⟩
    · rw [hi] at hg
      cases hg
    · rw [hi] at hj
      cases hj
      rcases hcases with ⟨-, rfl, hentry⟩ | ⟨sent, hne, -⟩
      · rw [hstep]
        exact ⟨⟨_, hentry, hname, hempty, by simp [ActionRequestInfo.setRequest, hpos]⟩,
          by simp [hreplies]⟩
      · rw [hempty] at hne
        cases hne
  | sendActionResult env statusCode json => cases hwait
  | others handler participant =>
    have hsame : handler.entry g = s.state.handler.entry g := hfits
    exact ⟨⟨i, hsame.trans hi, hname, hempty, hlast⟩, hreplies⟩

/-- A reply of the result service that is attempted in the state is published. -/
def RepliesSucceed (env : Env) (actionName : Str) (s : State) : Prop :=
  ∀ reply id, ∃ t,
    (sendServiceReply env (actionName ++ actionResultSuffix) reply id).run s = .ok true t

lemma Waiting.answer (h : Waiting actionName g s) {id : Nat}
    (hid : s.requests.getLast? = some id) {env : Env} {statusCode : StatusCode} {json : JsonText}
    {reply : Json} (hreply : RpcUtils.createResultReplyMsg statusCode json = .ok reply)
    (hsucc : RepliesSucceed env actionName s.state) :
    (step actionName g s (.sendActionResult env statusCode json)).replies =
      [(.doc reply, id, true)] := by
  obtain ⟨⟨i, hi, hname, hempty, hlast⟩, hreplies⟩ := h
  obtain ⟨hstored, hpos⟩ := hlast id hid
  have hactive : s.state.handler.isUUIDActive actionName g = true :=
    RequestSystem.isUUIDActive_iff.mpr ⟨i, hi, hname⟩
  have hrun : (DdsEnabler.sendActionResult env actionName g statusCode json).run s.state =
      (getResultReplyCallback env actionName g (.doc reply) id).run s.state := by
    simp only [DdsEnabler.sendActionResult, EStateM.run_bind, readHandler_run, hactive, if_true,
      hreply, lift_ok, EStateM.run_pure, handleActionResult, hi, hname, hstored, ne_eq, hpos,
      not_true_eq_false, not_false_eq_true, if_true, if_false]
  obtain ⟨sent, t, es, hcb, htrace, hrep, -, -⟩ := getResultReplyCallback_run env actionName g
    (.doc reply) id s.state
  have hsent : sent = true := by
    obtain ⟨u, hu⟩ := hsucc (.doc reply) id
    obtain ⟨sent', es', hrun', -⟩ := sendServiceReply_run env (.doc reply) id s.state
      (actionName ++ actionResultSuffix)
    rw [hrun'] at hu
    cases hu
    simp [getResultReplyCallback, sendActionGetResultReply, hrun'] at hcb
    exact hcb.1
  simp only [step, after_ok (hrun.trans hcb), advance_of htrace, repliesTo_append, hrep, hreplies,
    hsent]
  simp [repliesTo, Event.replyTo]

/-- **The last request is answered.** After any requests for the result of an active goal, a
result sends one reply, which carries it, to the last of the requests and to no other. -/
theorem last_request_answered (env : Env) (actionName : Str) (g : UUID) (t : State)
    (hactive : t.handler.isUUIDActive actionName g = true)
    (hresult : t.handler.getActionResult g = none) (w : List RendezvousOp)
    (hw : Along (step actionName g)
      (fun s op => Fits actionName g s op ∧ op.suppliesResult = false) { state := t } w)
    (id : Nat) (hid : (run (step actionName g) { state := t } w).requests.getLast? = some id)
    (statusCode : StatusCode) (json : JsonText) (reply : Json)
    (hreply : RpcUtils.createResultReplyMsg statusCode json = .ok reply)
    (hsucc : RepliesSucceed env actionName (run (step actionName g) { state := t } w).state) :
    (run (step actionName g) { state := t }
      (w ++ [.sendActionResult env statusCode json])).replies = [(.doc reply, id, true)] := by
  have hwaiting : Waiting actionName g (run (step actionName g) { state := t } w) :=
    run_inv (fun s op hs hop => step_waiting op hs hop) (waiting_start hactive hresult) hw
  rw [run_append]
  exact hwaiting.answer hid hreply hsucc

/-- Two requests wait for the result. -/
def twoRequests : Rendezvous :=
  run (step fibonacci .null) { state := goalState } [requestOp, requestOp]

lemma twoRequests_fit :
    Along (step fibonacci .null)
      (fun s op => Fits fibonacci .null s op ∧ op.suppliesResult = false) { state := goalState }
      [requestOp, requestOp] :=
  ⟨⟨requestOp_fits rfl (by decide), rfl⟩, ⟨requestOp_fits rfl (by decide +kernel), rfl⟩, trivial⟩

lemma twoRequests_succeed : RepliesSucceed .silent fibonacci twoRequests.state :=
  fun _ _ => ⟨_, rfl⟩

theorem last_request_answered_two :
    (run (step fibonacci .null) { state := goalState }
        ([requestOp, requestOp] ++ [resultOp])).replies =
      [(.doc (.obj [("result".toList, .null), ("status".toList, .int 4)]), 3, true)] :=
  last_request_answered .silent fibonacci .null goalState rfl rfl [requestOp, requestOp]
    twoRequests_fit 3 rfl .succeeded (.doc .null) _ rfl twoRequests_succeed

/-- Of two requests that wait when the result comes in, the first is never answered. -/
theorem first_request_unanswered :
    goalState.handler.isUUIDActive fibonacci .null = true ∧
      goalState.handler.getActionResult .null = none ∧
      twoRequests.requests = [2, 3] ∧ RepliesSucceed .silent fibonacci twoRequests.state ∧
      ¬ ∀ r ∈ twoRequests.requests,
        ((step fibonacci .null twoRequests resultOp).replies.filter
          fun reply => reply.2 = (r, true)).length = 1 := by
  refine ⟨rfl, rfl, rfl, twoRequests_succeed, fun h => ?_⟩
  have hone := h 2 (by decide +kernel)
  have hnone : ((step fibonacci .null twoRequests resultOp).replies.filter
      fun reply => reply.2 = (2, true)).length = 0 := rfl
  omega

end Rendezvous

end DdsEnabler
