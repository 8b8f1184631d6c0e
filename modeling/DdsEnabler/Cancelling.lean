import DdsEnabler.GoalRequests

/-!
Cancelling goals: the request to cancel all of them, and the requests that come in.

The null identifier stands for all goals of an action. On the way out, the protocol of a cancel
request is that of its goal; on the way in, a cancel request passes the gate that goal requests
pass. Both look the goal up in the map, where the null goal is not.
-/

namespace DdsEnabler

open Exec RpcUtils
open Rendezvous (fibonacci goalState)

/-! ### Cancelling all goals -/

/-- The name of the topic that the cancel requests of a ROS 2 action are published on. -/
def cancelTopicName (actionName : Str) : Str :=
  rosRequestPrefix ++ (actionName ++ actionCancelSuffix) ++ rosRequestSuffix

/-- A server of the action elsewhere is discovered: its cancel service is there with its request
topic and a reader for that. The payloads of the topic can be made. -/
structure CancelServer (env : Env) (actionName : Str) (s : State) : Prop where
  service : ∃ service reader typeName,
    s.participant.services.find (actionName ++ actionCancelSuffix) = some service ∧
    service.externalServer = true ∧ service.requestDiscovered = true ∧
    service.topicRequest.typeName = typeName ∧
    s.participant.lookupReader (cancelTopicName actionName) =
      some ((cancelTopicName actionName, typeName), reader) ∧ reader.isRpc = true ∧
    ∀ json, s.handler.getSerializedData env typeName json = true
  payload : env.getPayload = true

/-- One request to cancel all goals goes out, on the cancel topic of the action, and the call
returns true. -/
def CancelsAll (env : Env) (actionName : Str) (timestamp : Int) (s : State) : Prop :=
  ∃ id t, (cancelActionGoal env actionName .null timestamp).run s = .ok true t ∧
    t.trace = s.trace ++ [.newRequestId id, .publishedRpc (cancelTopicName actionName)
      (.doc (createCancelRequestMsg .null timestamp)) id]

section CancelAll

variable {env : Env} {actionName : Str} {s : State}

lemma CancelServer.publishable (h : CancelServer env actionName s) (json : JsonText) :
    s.draw.rpcPublishable env (cancelTopicName actionName) json = true := by
  obtain ⟨⟨service, reader, typeName, hfind, hext, hreq, htype, hreader, hrpc, hserialize⟩,
    hpayload⟩ := h
  have hinfo := RpcInfo.ofTopic_rosRequest (actionName ++ actionCancelSuffix)
  have hname : (RpcInfo.ofTopic (cancelTopicName actionName)).serviceName =
      actionName ++ actionCancelSuffix := by
    rw [cancelTopicName, hinfo, RpcInfo.serviceName_ofService]
  have hservice : (RpcInfo.ofTopic (cancelTopicName actionName)).serviceType = .request := by
    rw [cancelTopicName, hinfo, RpcInfo.serviceType_ofService]
  have hdata : s.draw.handler.getSerializedData env typeName json = true := hserialize json
  simp [State.rpcPublishable, hservice, hname, hfind, hext, hreader,
    ServiceDiscovered.getTopic, hreq, hrpc, htype, hdata, hpayload]

/-- The protocol of the request is looked up in the map, for the null goal too. -/
lemma cancelActionGoal_null_run (env : Env) (actionName : Str) (timestamp : Int) (s : State) :
    (cancelActionGoal env actionName .null timestamp).run s =
      match requestTopic (s.handler.getActionProtocol actionName .null)
          (actionName ++ actionCancelSuffix) with
      | none => .ok false s
      | some topicName =>
        if s.draw.rpcPublishable env topicName (.doc (createCancelRequestMsg .null timestamp)) then
          .ok true (s.draw.log [.publishedRpc topicName
            (.doc (createCancelRequestMsg .null timestamp)) s.handler.nextRequestId.1])
        else .ok false s.draw := by
  have hsend := sendServiceRequest_run env (actionName ++ actionCancelSuffix)
    (.doc (createCancelRequestMsg .null timestamp))
    (s.handler.getActionProtocol actionName .null) s
  unfold cancelActionGoal
  rw [run_bind_ok (readHandler_run s _)]
  simp only [ne_eq, not_true_eq_false, decide_false, Bool.false_and, Bool.false_eq_true, if_false]
  rw [run_bind_ok (readHandler_run s _), EStateM.run_bind, hsend]
  rcases requestTopic (s.handler.getActionProtocol actionName .null)
    (actionName ++ actionCancelSuffix) with _ | topicName
  · rfl
  · by_cases hpub : s.draw.rpcPublishable env topicName
        (.doc (createCancelRequestMsg .null timestamp))
    · simp only [hpub, if_true]
      rfl
    · simp only [hpub, Bool.false_eq_true, if_false]
      rfl

lemma ros2_of_cancelTopic {p : Protocol}
    (h : requestTopic p (actionName ++ actionCancelSuffix) = some (cancelTopicName actionName)) :
    p = .ros2 := by
  cases p with
  | ros2 => rfl
  | dds =>
    have hlen := congrArg List.length (Option.some.inj h)
    have h1 : ddsRequestPrefix.length = 0 := rfl
    have h2 : ddsRequestSuffix.length = 8 := rfl
    have h3 : rosRequestPrefix.length = 3 := rfl
    have h4 : rosRequestSuffix.length = 7 := rfl
    simp only [cancelTopicName, List.length_append, h1, h2, h3, h4] at hlen
    omega
  | unknown => cases h

lemma getActionProtocol_eq_ros2 {h : Handler} {u : UUID} :
    h.getActionProtocol actionName u = .ros2 ↔
      ∃ i, h.entry u = some i ∧ i.actionName = actionName ∧ i.protocol = .ros2 := by
  unfold Handler.getActionProtocol Handler.activeInfo
  rcases h.entry u with _ | i
  · simp
  · by_cases hn : actionName = i.actionName
    · simp [Option.filter, hn]
    · simp [Option.filter, hn, eq_comm (a := i.actionName)]

/-- **All goals can be cancelled** exactly while the null goal is recorded itself, under the
action and with ROS 2 as its protocol. -/
theorem cancel_all_iff (h : CancelServer env actionName s) (timestamp : Int) :
    CancelsAll env actionName timestamp s ↔
      ∃ i, s.handler.entry .null = some i ∧ i.actionName = actionName ∧ i.protocol = .ros2 := by
  rw [← getActionProtocol_eq_ros2]
  have hrun := cancelActionGoal_null_run env actionName timestamp s
  constructor
  · rintro ⟨id, t, hok, htrace⟩
    rw [hok] at hrun
    rcases htopic : requestTopic (s.handler.getActionProtocol actionName .null)
      (actionName ++ actionCancelSuffix) with _ | topicName
    · rw [htopic] at hrun
      cases hrun
    · rw [htopic] at hrun
      simp only at hrun
      split at hrun
      · cases hrun
        rw [log_trace, draw_trace, List.append_assoc, List.append_cancel_left_eq] at htrace
        have hname : topicName = cancelTopicName actionName := by
          simp only [List.cons_append, List.nil_append, List.cons.injEq, Event.publishedRpc.injEq]
            at htrace
          exact htrace.2.1.1
        exact ros2_of_cancelTopic (hname ▸ htopic)
      · cases hrun
  · intro hros
    have htopic : requestTopic .ros2 (actionName ++ actionCancelSuffix) =
        some (cancelTopicName actionName) := rfl
    rw [hros, htopic] at hrun
    simp only [h.publishable, if_true] at hrun
    exact ⟨s.handler.nextRequestId.1, _, hrun, by simp⟩

end CancelAll

/-- A server of the action elsewhere, with its cancel topics discovered. -/
def cancelServerState : State :=
  let known : State := { handler := { schemas := (∅ : Tables.Table _ _).insert [] (0, ⟨[], 0⟩) } }
  after (createReader .silent { topicName := "rr/fibonacci/_action/cancel_goalReply".toList })
    (after (createReader .silent { topicName := cancelTopicName fibonacci }) known)

lemma cancelServerState_server : CancelServer .silent fibonacci cancelServerState := by
  refine ⟨⟨_, _, [], rfl, rfl, rfl, rfl, rfl, rfl, fun json => ?_⟩, rfl⟩
  rfl

theorem cancel_all_iff_fibonacci :
    CancelsAll .silent fibonacci 0 cancelServerState ↔
      ∃ i, cancelServerState.handler.entry .null = some i ∧ i.actionName = fibonacci ∧
        i.protocol = .ros2 :=
  cancel_all_iff cancelServerState_server 0

/-- With no goal recorded, there is no request to cancel all of them. -/
theorem cancel_all_refused :
    CancelServer .silent fibonacci cancelServerState ∧
      ¬ CancelsAll .silent fibonacci 0 cancelServerState := by
  refine ⟨cancelServerState_server, ?_⟩
  rintro ⟨id, t, hok, -⟩
  have hrun := cancelActionGoal_null_run .silent fibonacci 0 cancelServerState
  have hunknown : cancelServerState.handler.getActionProtocol fibonacci .null = .unknown := rfl
  rw [hok, hunknown] at hrun
  cases hrun

/-! ### Requests to cancel -/

/-- The request comes to the writer: once, under its identifier, and whatever the writer does
with it. The goals stay as they are, until then and in the end. -/
structure CancelReaches (env : Env) (topic : DdsTopic) (data : Sample) (dynType : DynType)
    (actionName : Str) (u : UUID) (s : State) : Prop where
  handed : ∀ write : M Unit, ∃ t,
    (gateRequest env actionName u s.handler.nextRequestId.1 .cancel write).run s.stamped =
        write.run t ∧
      ∀ v, t.handler.entry v = s.handler.entry v
  written : ∃ t, (addData env topic data).run s =
      (writeActionRequestNotification env (data.message topic) dynType
        s.handler.nextRequestId.1 actionName .cancel).run t ∧
    ∀ v, t.handler.entry v = s.handler.entry v
  kept : ∀ v, (after (addData env topic data) s).handler.entry v = s.handler.entry v

section Requests

variable {env : Env} {topic : DdsTopic} {data : Sample} {dynType : DynType} {actionName : Str}
  {u : UUID} {s : State}

variable (env) in
lemma store_cancel_iff (h : Handler) (id : Nat) :
    (h.storeActionRequest actionName u id .cancel .ros2 env.now).1 = true ↔
      ∃ i, h.entry u = some i ∧ i.actionName = actionName := by
  rcases hu : h.entry u with _ | i
  · simp [Handler.storeActionRequest, hu]
  · by_cases hn : i.actionName = actionName
    · simp [Handler.storeActionRequest, hu, hn]
    · simp [Handler.storeActionRequest, hu, hn]

lemma entry_store_cancel (h : Handler) (id : Nat) (v : UUID) :
    (h.storeActionRequest actionName u id .cancel .ros2 env.now).2.entry v = h.entry v := by
  rw [Handler.entry_storeActionRequest]
  split
  · next hv =>
    rw [hv]
    rcases h.entry u with _ | i
    · simp [Handler.storeEntry]
    · by_cases hn : i.actionName = actionName
      · simp [Handler.storeEntry, hn, ActionRequestInfo.setRequest]
      · simp [Handler.storeEntry, hn]
  · rfl

lemma handler_writeCancel (msg : Message) (id : Nat) (t : State) :
    (after (writeActionRequestNotification env msg dynType id actionName .cancel) t).handler =
      t.handler := by
  unfold writeActionRequestNotification writeCancelRequest
  split
  · rfl
  · next json _ =>
    simp only
    split
    · rcases catchJson ((cancelRequestOf msg json).map some) none with e | _ | r <;> rfl
    · rfl

/-- **Cancel requests reach the user** exactly for the goals that are recorded under the action:
not for the null goal, which stands for all of them, and not for a goal that has ended. -/
theorem cancel_reaches_iff (h : IsActionRequest env topic data dynType actionName .cancel u s) :
    CancelReaches env topic data dynType actionName u s ↔
      ∃ i, s.handler.entry u = some i ∧ i.actionName = actionName := by
  have hentry : ∀ v, s.stamped.handler.entry v = s.handler.entry v := fun _ => rfl
  rw [← hentry, ← store_cancel_iff env s.stamped.handler s.handler.nextRequestId.1]
  constructor
  · intro hreach
    by_contra hstore
    rw [Bool.not_eq_true] at hstore
    -- a writer that throws would be heard
    obtain ⟨t, hrun, -⟩ := hreach.handed (throw .runtimeError)
    rw [gateRequest_run_false _ hstore] at hrun
    cases hrun
  · intro hstore
    have hkept : ∀ v, (s.stamped.stored env actionName u s.handler.nextRequestId.1
        .cancel).handler.entry v = s.handler.entry v :=
      fun v => entry_store_cancel s.stamped.handler s.handler.nextRequestId.1 v
    have hrun := (addData_actionRequest h (.inr rfl)).trans (gateRequest_run_true _ hstore)
    refine ⟨fun write => ⟨_, gateRequest_run_true _ hstore, hkept⟩, ⟨_, hrun, hkept⟩, fun v => ?_⟩
    rw [after_congr hrun, Handler.entry, handler_writeCancel]
    exact hkept v

end Requests

def cancelRequestTopic : DdsTopic := { topicName := cancelTopicName fibonacci }

lemma nullCancel_request {s : State} (h : s.handler.schemas = knownState.handler.schemas) :
    IsActionRequest nullGoalEnv cancelRequestTopic requestSample ⟨[], 0⟩ fibonacci .cancel .null
      s := by
  refine ⟨⟨⟨0, ?_⟩, rfl, rfl⟩, uuidFromRequestJson_goalId rfl rfl, rfl, rfl, rfl, rfl, rfl⟩
  rw [h]
  rfl

theorem cancel_reaches_iff_null :
    CancelReaches nullGoalEnv cancelRequestTopic requestSample ⟨[], 0⟩ fibonacci .null
        knownState ↔
      ∃ i, knownState.handler.entry .null = some i ∧ i.actionName = fibonacci :=
  cancel_reaches_iff (nullCancel_request rfl)

/-- A request to cancel all goals is dropped. -/
theorem cancel_all_dropped :
    IsActionRequest nullGoalEnv cancelRequestTopic requestSample ⟨[], 0⟩ fibonacci .cancel .null
        knownState ∧
      ¬ CancelReaches nullGoalEnv cancelRequestTopic requestSample ⟨[], 0⟩ fibonacci .null
        knownState := by
  refine ⟨nullCancel_request rfl, fun h => ?_⟩
  have hstore : (knownState.stamped.handler.storeActionRequest fibonacci .null
      knownState.handler.nextRequestId.1 .cancel .ros2 nullGoalEnv.now).1 = false := rfl
  obtain ⟨t, hrun, -⟩ := h.handed (throw .runtimeError)
  rw [gateRequest_run_false _ hstore] at hrun
  cases hrun

end DdsEnabler
