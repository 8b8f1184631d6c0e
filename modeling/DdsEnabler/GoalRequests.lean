import DdsEnabler.Replies

/-!
Requests for goals, and the decisions that are sent back.

Goal and cancel requests take one way through the handler: a request that has been stamped is
stored, and only a stored one goes on to the writer. The user decides on a goal in the callback
that the writer calls.
-/

namespace DdsEnabler

open Exec RpcUtils
open Rendezvous (fibonacci goalState)

/-! ### The gate -/

/-- A received request of an action for the goal `u`. -/
structure IsActionRequest (env : Env) (topic : DdsTopic) (data : Sample) (dynType : DynType)
    (actionName : Str) (ty : ActionType) (u : UUID) (s : State) : Prop where
  accepted : data.Accepted topic dynType s
  uuid : uuidFromRequestJson env (data.message topic) dynType = .ok (some u)
  isRpc : data.isRpc = true
  rpcType : (RpcInfo.ofTopic topic.topicName).rpcType = .action
  serviceType : (RpcInfo.ofTopic topic.topicName).serviceType = .request
  actionType : (RpcInfo.ofTopic topic.topicName).actionType = ty
  action : (RpcInfo.ofTopic topic.topicName).actionName = actionName

/-- Store a stamped request, and hand it to the writer if it could be stored. -/
def gateRequest (env : Env) (actionName : Str) (u : UUID) (requestId : Nat) (ty : ActionType)
    (write : M Unit) : M Unit := do
  if ← storeActionRequest env actionName u requestId ty .ros2 then write

section Gate

variable {env : Env} {topic : DdsTopic} {data : Sample} {dynType : DynType} {actionName : Str}
  {ty : ActionType} {u : UUID} {s : State}

lemma uuidFromRequestJson_some {msg : Message}
    (h : uuidFromRequestJson env msg dynType = .ok (some u)) :
    ∃ json, msg.prepareJsonData env dynType = some json ∧ goalIdOf msg json = .ok u := by
  unfold uuidFromRequestJson at h
  rcases hprep : msg.prepareJsonData env dynType with _ | json
  · rw [hprep] at h
    cases h
  · rw [hprep] at h
    refine ⟨json, rfl, ?_⟩
    rcases hid : goalIdOf msg json with e | v
    · simp only [hid, Except.map, catchJson] at h
      split at h
      · cases h
      · cases h
    · simp only [hid, Except.map, catchJson, Except.ok.injEq, Option.some.injEq] at h
      rw [h]

lemma addData_actionRequest (h : IsActionRequest env topic data dynType actionName ty u s)
    (hty : ty = .goal ∨ ty = .cancel) :
    (addData env topic data).run s =
      (gateRequest env actionName u s.handler.nextRequestId.1 ty
        (writeActionRequestNotification env (data.message topic) dynType
          s.handler.nextRequestId.1 actionName ty)).run s.stamped := by
  have hdispatch : addKnownData env (.ofTopic topic.topicName) data (data.message topic) dynType =
      addActionRequest env (.ofTopic topic.topicName) data (data.message topic) dynType := by
    rcases hty with rfl | rfl
    · simp only [addKnownData, h.rpcType, addActionData, h.serviceType, h.actionType]
    · simp only [addKnownData, h.rpcType, addActionData, h.serviceType, h.actionType]
  have hstamp : (stampRequest data).run s.count = .ok s.handler.nextRequestId.1 s.stamped := by
    rw [stampRequest_run, if_pos h.isRpc]
    rfl
  rw [addData_run h.accepted, hdispatch]
  unfold addActionRequest gateRequest
  rw [run_bind_ok hstamp]
  simp only [h.uuid, lift_ok, pure_bind, h.action, h.actionType]

lemma gateRequest_run_false {id : Nat} {write : M Unit} (s : State)
    (h : (s.handler.storeActionRequest actionName u id ty .ros2 env.now).1 = false) :
    (gateRequest env actionName u id ty write).run s = .ok () s := by
  unfold gateRequest
  rw [run_bind_ok (storeActionRequest_run_false s env h)]
  rfl

/-- The state once a request has been stored. -/
def State.stored (s : State) (env : Env) (actionName : Str) (u : UUID) (id : Nat)
    (ty : ActionType) : State :=
  { s with handler := (s.handler.storeActionRequest actionName u id ty .ros2 env.now).2 }.log
    [.storedRequest actionName u id ty .ros2 env.now]

lemma gateRequest_run_true {id : Nat} {write : M Unit} (s : State)
    (h : (s.handler.storeActionRequest actionName u id ty .ros2 env.now).1 = true) :
    (gateRequest env actionName u id ty write).run s =
      write.run (s.stored env actionName u id ty) := by
  unfold gateRequest
  rw [run_bind_ok (storeActionRequest_run_true s env h)]
  rfl

lemma stored_trace (s : State) (id : Nat) :
    (s.stored env actionName u id ty).trace =
      s.trace ++ [.storedRequest actionName u id ty .ros2 env.now] := rfl

lemma stamped_trace (s : State) :
    s.stamped.trace = s.trace ++ stampEvents s.handler.nextRequestId.1 := by
  simp [State.stamped, stampEvents]

lemma schemas_storeActionRequest (h : Handler) (id : Nat) (p : Protocol) (now : Int) :
    (h.storeActionRequest actionName u id ty p now).2.schemas = h.schemas := by
  unfold Handler.storeActionRequest
  repeat' split
  all_goals rfl

end Gate

/-! ### The reply to a goal request -/

lemma replyEvents_congr {s t : State} (hp : t.participant = s.participant)
    (hs : t.handler.schemas = s.handler.schemas) (env : Env) (serviceName : Str)
    (json : JsonText) (id : Nat) :
    t.replyEvents env serviceName json id = s.replyEvents env serviceName json id := by
  obtain ⟨⟨schemas, _, _, _⟩, participant, _⟩ := s
  obtain ⟨⟨schemas', _, _, _⟩, participant', _⟩ := t
  obtain rfl : participant' = participant := hp
  obtain rfl : schemas' = schemas := hs
  rfl

lemma sendGoalReplyCallback_run (env : Env) (actionName : Str) (id : Nat) (accepted : Bool)
    (s : State) :
    (sendGoalReplyCallback env actionName id accepted).run s =
      .ok () (s.log (s.replyEvents env (actionName ++ actionGoalSuffix)
        (.doc (createGoalReplyMsg accepted env.now)) id ++
          [.sendActionSendGoalReply actionName id accepted])) := by
  have hreply := sendServiceReply_eq env (actionName ++ actionGoalSuffix)
    (.doc (createGoalReplyMsg accepted env.now)) id s
  unfold sendGoalReplyCallback sendActionSendGoalReply
  rw [EStateM.run_bind, run_discard, hreply]
  simp

/-- The goal replies among the events: the action, the request and the decision of each. -/
def Event.goalReply : Event → Option (Str × Nat × Bool)
  | .sendActionSendGoalReply actionName id accepted => some (actionName, id, accepted)
  | _ => none

def goalReplies (es : List Event) : List (Str × Nat × Bool) := es.filterMap Event.goalReply

@[simp] lemma goalReplies_append (es es' : List Event) :
    goalReplies (es ++ es') = goalReplies es ++ goalReplies es' := List.filterMap_append ..

lemma goalReplies_replyEvents (s : State) (env : Env) (serviceName : Str) (json : JsonText)
    (id : Nat) : goalReplies (s.replyEvents env serviceName json id) = [] := by
  unfold State.replyEvents
  split
  · rfl
  · split <;> rfl

lemma filter_replyEvents (s : State) (env : Env) (serviceName : Str) (json : JsonText)
    (id : Nat) : (s.replyEvents env serviceName json id).filter Event.isPublication =
      s.replyEvents env serviceName json id := by
  unfold State.replyEvents
  split
  · rfl
  · split <;> rfl

/-- The decision that a goal request should get: the user's, and a refusal where the user is not
asked or the goal cannot be stored. -/
def goalDecision (env : Env) (s : State) (actionName : Str) (u : UUID) (json : Json)
    (publishTime : Int) : Bool :=
  match s.handler.entry u, env.callbacks.actionGoalRequestNotification with
  | none, some callback => callback actionName json u publishTime
  | _, _ => false

/-- The request is answered once: with its identifier and the decision that it should get,
whatever the uninitialised local holds. The reply is all that is published. -/
def RepliesFaithfully (env : Env) (topic : DdsTopic) (data : Sample) (dynType : DynType)
    (actionName : Str) (u : UUID) (s : State) : Prop :=
  ∀ garbage json, (data.message topic).prepareJsonData env dynType = some json →
    ∃ t, (addData { env with garbageAccepted := garbage } topic data).run s = .ok () t ∧
      goalReplies (newEvents s t) = [(actionName, s.handler.nextRequestId.1,
        goalDecision env s actionName u json data.sourceTimestamp)] ∧
      (newEvents s t).filter Event.isPublication =
        s.replyEvents env (actionName ++ actionGoalSuffix)
          (.doc (createGoalReplyMsg
            (goalDecision env s actionName u json data.sourceTimestamp) env.now))
          s.handler.nextRequestId.1

section Goals

variable {env : Env} {topic : DdsTopic} {data : Sample} {dynType : DynType} {actionName : Str}
  {u : UUID} {s : State}

lemma IsActionRequest.garbage {ty : ActionType}
    (h : IsActionRequest env topic data dynType actionName ty u s) (b : Bool) :
    IsActionRequest { env with garbageAccepted := b } topic data dynType actionName ty u s :=
  ⟨h.accepted, h.uuid, h.isRpc, h.rpcType, h.serviceType, h.actionType, h.action⟩

lemma store_goal_iff {id : Nat} (h : Handler) :
    (h.storeActionRequest actionName u id .goal .ros2 env.now).1 = true ↔ h.entry u = none := by
  rcases hu : h.entry u with _ | i
  · simp [Handler.storeActionRequest, hu]
  · by_cases hn : i.actionName = actionName
    · simp [Handler.storeActionRequest, hu, hn]
    · simp [Handler.storeActionRequest, hu, hn]

/-- A goal that is there already: its request is not answered. -/
lemma goalRequest_run_some (h : IsActionRequest env topic data dynType actionName .goal u s)
    {i : ActionRequestInfo} (hi : s.handler.entry u = some i) :
    (addData env topic data).run s = .ok () s.stamped := by
  have hstore : (s.stamped.handler.storeActionRequest actionName u s.handler.nextRequestId.1 .goal
      .ros2 env.now).1 = false := by
    rw [← Bool.not_eq_true, store_goal_iff]
    have hi' : s.stamped.handler.entry u = some i := hi
    simp [hi']
  rw [addData_actionRequest h (.inl rfl), gateRequest_run_false _ hstore]

/-- What the user is told of a goal request, if there is a callback. -/
def goalRequestTold (env : Env) (actionName : Str) (u : UUID) (json : Json) (time : Int) :
    List Event :=
  match env.callbacks.actionGoalRequestNotification with
  | some _ => [.actionGoalRequestNotification actionName json u time]
  | none => []

/-- The decision that a stored goal gets. -/
def storedDecision (env : Env) (actionName : Str) (u : UUID) (json : Json) (time : Int) : Bool :=
  match env.callbacks.actionGoalRequestNotification with
  | some callback => callback actionName json u time
  | none => env.garbageAccepted

lemma writeGoalRequest_run {json : Json} (hgoal : goalIdOf (data.message topic) json = .ok u)
    (id : Nat) (t : State) (hevents : ∀ es name json id, (t.log es).replyEvents env name json id =
      s.replyEvents env name json id) :
    (writeGoalRequest env (data.message topic) id actionName json).run t =
      .ok () ((t.log (goalRequestTold env actionName u json data.sourceTimestamp)).log
        (s.replyEvents env (actionName ++ actionGoalSuffix)
          (.doc (createGoalReplyMsg (storedDecision env actionName u json data.sourceTimestamp)
            env.now)) id ++ [.sendActionSendGoalReply actionName id
          (storedDecision env actionName u json data.sourceTimestamp)])) := by
  have htime : (data.message topic).publishTime = data.sourceTimestamp := rfl
  have hcatch : catchJson ((goalIdOf (data.message topic) json).map some) none =
      .ok (some u) := by
    rw [hgoal]
    rfl
  unfold writeGoalRequest goalRequestTold storedDecision
  rcases env.callbacks.actionGoalRequestNotification with _ | callback
  · rw [sendGoalReplyCallback_run, log_nil, ← hevents [], log_nil]
  · simp only [hcatch, lift_ok, pure_bind, EStateM.run_bind, emit_run, htime,
      sendGoalReplyCallback_run, hevents]

/-- A new goal: its request is stored, the user is asked, and the decision is sent. -/
lemma goalRequest_run_none (h : IsActionRequest env topic data dynType actionName .goal u s)
    (hu : s.handler.entry u = none) {json : Json}
    (hjson : (data.message topic).prepareJsonData env dynType = some json) :
    ∃ t, (addData env topic data).run s = .ok () t ∧
      t.handler.entry u = some (.create actionName .goal s.handler.nextRequestId.1 .ros2 env.now) ∧
      t.trace = s.trace ++ (stampEvents s.handler.nextRequestId.1 ++
        [.storedRequest actionName u s.handler.nextRequestId.1 .goal .ros2 env.now] ++
        goalRequestTold env actionName u json data.sourceTimestamp ++
        s.replyEvents env (actionName ++ actionGoalSuffix)
          (.doc (createGoalReplyMsg (storedDecision env actionName u json data.sourceTimestamp)
            env.now)) s.handler.nextRequestId.1 ++
        [.sendActionSendGoalReply actionName s.handler.nextRequestId.1
          (storedDecision env actionName u json data.sourceTimestamp)]) := by
  set id := s.handler.nextRequestId.1 with hid
  have hstore : (s.stamped.handler.storeActionRequest actionName u id .goal .ros2 env.now).1 =
      true := (store_goal_iff _).mpr hu
  obtain ⟨json', hjson', hgoal⟩ := uuidFromRequestJson_some h.uuid
  obtain rfl : json' = json := Option.some.inj (hjson'.symm.trans hjson)
  set t := s.stamped.stored env actionName u id .goal with ht
  have hentry : t.handler.entry u = some (.create actionName .goal id .ros2 env.now) := by
    have hu' : s.stamped.handler.entry u = none := hu
    change (s.stamped.handler.storeActionRequest actionName u id .goal .ros2 env.now).2.entry u = _
    rw [Handler.entry_storeActionRequest, if_pos rfl, hu']
    simp [Handler.storeEntry]
  have hschemas : t.handler.schemas = s.handler.schemas :=
    schemas_storeActionRequest s.stamped.handler id .ros2 env.now
  have hevents : ∀ es name json id, (t.log es).replyEvents env name json id =
      s.replyEvents env name json id :=
    fun es name json id => replyEvents_congr (s := s) (t := t.log es) rfl hschemas env name json id
  have htrace : t.trace = s.trace ++ (stampEvents id ++
      [.storedRequest actionName u id .goal .ros2 env.now]) := by
    rw [ht, stored_trace, stamped_trace, List.append_assoc]
  have hrun : (addData env topic data).run s =
      (writeGoalRequest env (data.message topic) id actionName json').run t := by
    rw [addData_actionRequest h (.inl rfl), gateRequest_run_true _ hstore]
    simp only [writeActionRequestNotification, hjson, ← hid, ← ht]
  exact ⟨_, hrun.trans (writeGoalRequest_run hgoal id t hevents), hentry, by simp [htrace]⟩

lemma goalReplies_told (json : Json) (time : Int) :
    goalReplies (goalRequestTold env actionName u json time) = [] := by
  unfold goalRequestTold
  split <;> rfl

lemma filter_told (json : Json) (time : Int) :
    (goalRequestTold env actionName u json time).filter Event.isPublication = [] := by
  unfold goalRequestTold
  split <;> rfl

lemma goalRequest_replies (h : IsActionRequest env topic data dynType actionName .goal u s)
    (hu : s.handler.entry u = none) {json : Json}
    (hjson : (data.message topic).prepareJsonData env dynType = some json) :
    ∃ t, (addData env topic data).run s = .ok () t ∧
      goalReplies (newEvents s t) = [(actionName, s.handler.nextRequestId.1,
        storedDecision env actionName u json data.sourceTimestamp)] ∧
      (newEvents s t).filter Event.isPublication =
        s.replyEvents env (actionName ++ actionGoalSuffix)
          (.doc (createGoalReplyMsg (storedDecision env actionName u json data.sourceTimestamp)
            env.now)) s.handler.nextRequestId.1 := by
  obtain ⟨t, hrun, -, htrace⟩ := goalRequest_run_none h hu hjson
  refine ⟨t, hrun, ?_, ?_⟩
  · rw [newEvents_eq htrace]
    simp only [goalReplies_append, goalReplies_told, goalReplies_replyEvents]
    rfl
  · rw [newEvents_eq htrace]
    simp only [List.filter_append, filter_told, filter_replyEvents]
    simp [stampEvents, Event.isPublication]

/-- **Goal requests are answered faithfully** exactly if the goal is new and the user has set the
callback: a goal that is there already gets no reply, and without a callback the decision is
what the uninitialised local holds. -/
theorem goal_reply_iff (h : IsActionRequest env topic data dynType actionName .goal u s) :
    RepliesFaithfully env topic data dynType actionName u s ↔
      s.handler.entry u = none ∧ env.callbacks.actionGoalRequestNotification.isSome = true := by
  constructor
  · intro hreply
    obtain ⟨json, hjson, -⟩ := uuidFromRequestJson_some h.uuid
    obtain ⟨t, hrun, hone, -⟩ := hreply true json hjson
    rcases hu : s.handler.entry u with _ | i
    · refine ⟨rfl, ?_⟩
      obtain ⟨t', hrun', hone', -⟩ := goalRequest_replies (h.garbage true) hu hjson
      obtain rfl : t' = t := by
        rw [hrun] at hrun'
        cases hrun'
        rfl
      rw [hone'] at hone
      rcases hcb : env.callbacks.actionGoalRequestNotification with _ | callback
      · simp [storedDecision, goalDecision, hu, hcb] at hone
      · rfl
    · rw [goalRequest_run_some (h.garbage true) hu] at hrun
      cases hrun
      rw [newEvents_eq (stamped_trace s)] at hone
      cases hone
  · rintro ⟨hu, hcb⟩ garbage json hjson
    obtain ⟨callback, hcallback⟩ := Option.isSome_iff_exists.mp hcb
    have hdecision : storedDecision { env with garbageAccepted := garbage } actionName u json
        data.sourceTimestamp = goalDecision env s actionName u json data.sourceTimestamp := by
      simp [storedDecision, goalDecision, hu, hcallback]
    obtain ⟨t, hrun, hone, hpub⟩ := goalRequest_replies (h.garbage garbage) hu hjson
    rw [hdecision] at hone hpub
    exact ⟨t, hrun, hone, hpub⟩

end Goals

/-! ### A request -/

/-- The samples of the topic hold the identifier of the null goal. -/
def nullGoalEnv : Env :=
  { Env.silent with decode := fun _ _ => some (createResultRequestMsg .null) }

def goalRequestTopic : DdsTopic :=
  { topicName := "rq/fibonacci/_action/send_goalRequest".toList }

def requestSample : Sample := ⟨[0], true, 0, [], [], true, 0⟩

/-- The type of the topic is known, and no goal is recorded. -/
def knownState : State :=
  { handler := { schemas := (∅ : Tables.Table _ _).insert [] (0, ⟨[], 0⟩) } }

lemma nullGoal_request {s : State} (h : s.handler.schemas = knownState.handler.schemas) :
    IsActionRequest nullGoalEnv goalRequestTopic requestSample ⟨[], 0⟩ fibonacci .goal .null s := by
  refine ⟨⟨⟨0, ?_⟩, rfl, rfl⟩, uuidFromRequestJson_goalId rfl rfl, rfl, rfl, rfl, rfl, rfl⟩
  rw [h]
  rfl

theorem goal_reply_iff_null :
    RepliesFaithfully nullGoalEnv goalRequestTopic requestSample ⟨[], 0⟩ fibonacci .null
        knownState ↔
      knownState.handler.entry .null = none ∧
        nullGoalEnv.callbacks.actionGoalRequestNotification.isSome = true :=
  goal_reply_iff (nullGoal_request rfl)

/-- Without a callback, the request is answered with what the local holds. For a goal that is
there already, it is not answered. -/
theorem goal_reply_unfaithful :
    ¬ RepliesFaithfully nullGoalEnv goalRequestTopic requestSample ⟨[], 0⟩ fibonacci .null
        knownState ∧
      ¬ RepliesFaithfully nullGoalEnv goalRequestTopic requestSample ⟨[], 0⟩ fibonacci .null
        goalState := by
  have hnew := nullGoal_request (s := knownState) rfl
  have hagain := nullGoal_request (s := goalState) rfl
  have hstored : (storeActionRequest .silent fibonacci .null 1 .goal .ros2).run
      Rendezvous.serverState.draw = .ok true goalState := rfl
  have hentry := RequestSystem.entry_of_stored hstored
  obtain ⟨json, hjson, -⟩ := uuidFromRequestJson_some hnew.uuid
  constructor
  · intro h
    obtain ⟨t, hrun, hone, -⟩ := h true json hjson
    obtain ⟨t', hrun', hone', -⟩ := goalRequest_replies (hnew.garbage true) rfl hjson
    obtain rfl : t' = t := by
      rw [hrun] at hrun'
      cases hrun'
      rfl
    rw [hone'] at hone
    have hnone : nullGoalEnv.callbacks.actionGoalRequestNotification = none := rfl
    simp [storedDecision, goalDecision, hnone] at hone
  · intro h
    obtain ⟨t, hrun, hone, -⟩ := h true json hjson
    rw [goalRequest_run_some (hagain.garbage true) hentry] at hrun
    cases hrun
    rw [newEvents_eq (stamped_trace goalState)] at hone
    cases hone

end DdsEnabler
