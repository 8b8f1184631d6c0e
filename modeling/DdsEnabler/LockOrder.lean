import DdsEnabler.Lib.Locks
import DdsEnabler.Publications

/-!
The two mutexes: what each entry point does with them.

A function is given by its locks alone, with a choice where it may return or branch on what it
reads. The topic of a reader or of a sample is kept, for its name decides which branch is
taken. The callbacks of the user take no lock. `create_topic_writer_nts_` waits for the
discovery thread, so the code under the mutex of the participant is `Guarded`.
-/

namespace DdsEnabler.LockOrder

open Locks

inductive Mutex
  | participant
  | handler
  deriving DecidableEq

/-- `EnablerParticipant::mtx_` is a `std::mutex`, `Handler::mtx_` a `std::recursive_mutex`. -/
def recursive : Mutex → Bool
  | .participant => false
  | .handler => true

abbrev Code := Op Mutex
abbrev Locked := Guarded Mutex

/-- The function may return here. -/
def orReturn (g : Locked) : Locked := .choice .done g

/-- The code may be left out. -/
def may (p : Code) : Code := .choice .skip p

/-! ### Handler -/

/-- A function of the handler that reads or writes its tables. -/
def tableAccess : Code := .locked .handler .skip

def addSchema : Code := tableAccess
def addTopic : Code := tableAccess
def addService : Code := tableAccess
def addAction : Code := tableAccess
def getTypeIdentifier : Code := tableAccess
def getSerializedData : Code := tableAccess
def storeActionRequest : Code := tableAccess
def eraseActionUUID : Code := tableAccess
def isUUIDActive : Code := tableAccess
def getActionProtocol : Code := tableAccess
def getActionRequestUUID : Code := tableAccess
def getActionResult : Code := tableAccess
def getNewRequestId : Code := tableAccess

/-! ### Queries and writers of the participant

Each of them goes on with the code `g` where it succeeds. -/

def fillTopicStruct (g : Locked) : Locked := orReturn (.run getTypeIdentifier (orReturn g))

def queryTopic (g : Locked) : Locked := orReturn (fillTopicStruct g)

def fillServiceType (g : Locked) : Locked :=
  orReturn (fillTopicStruct (fillTopicStruct (orReturn g)))

def queryService (g : Locked) : Locked := orReturn (fillServiceType g)

def createTopicWriter (g : Locked) : Locked := .wait (orReturn g)

def createServiceRequestWriter (g : Locked) : Locked := orReturn (createTopicWriter g)

/-- One of the three services of an announced action. -/
def queryActionService (g : Locked) : Locked := fillServiceType (createServiceRequestWriter g)

/-- The feedback or the status topic, whose writer may be there. -/
def queryActionTopic (g : Locked) : Locked := fillTopicStruct (.choice g (createTopicWriter g))

def queryAction (g : Locked) : Locked :=
  orReturn (queryActionService (queryActionService (queryActionService
    (orReturn (queryActionTopic (queryActionTopic g))))))

/-! ### Topics and services -/

def createReader (env : Env) (topic : DdsTopic) : Code :=
  if env.isTypeObjectTopic topic then .skip
  else .locked .participant <|
    if topic.discoverer = env.id then .skip
    else match (RpcInfo.ofTopic topic.topicName).rpcType with
      | .none => addTopic
      | .service => may addService
      | .action => may addAction

def publish : Code :=
  let send : Locked := .run getSerializedData .done
  may (Guarded.under .participant (.choice send (queryTopic (createTopicWriter send))))

def publishRpc : Code := .locked .participant (may getSerializedData)

def announceService : Code :=
  Guarded.under .participant (orReturn (queryService (createServiceRequestWriter .done)))

def revokeService : Code := .locked .participant .skip

def getServiceProtocol : Code := .locked .participant .skip

def sendServiceRequest : Code := may (.seq getNewRequestId publishRpc)

def sendServiceReply : Code := .seq getServiceProtocol (may publishRpc)

/-! ### Actions -/

def announceAction : Code := Guarded.under .participant (orReturn (queryAction .done))

def revokeAction : Code := .locked .participant .skip

def sendActionGoal : Code :=
  .seq sendServiceRequest (may (.seq storeActionRequest (may eraseActionUUID)))

/-- The null identifier is not looked up. -/
def cancelActionGoal : Code :=
  .seq (may isUUIDActive) (may (.seq getActionProtocol sendServiceRequest))

def sendActionGetResultRequest : Code :=
  .seq getActionProtocol (.seq sendServiceRequest
    (may (.seq storeActionRequest (may cancelActionGoal))))

def sendActionSendGoalReply : Code := sendServiceReply

def sendActionCancelGoalReply : Code := .seq (.loop isUUIDActive) sendServiceReply

def sendActionGetResultReply : Code := .seq sendServiceReply (may eraseActionUUID)

/-! ### Callbacks installed by `DDSEnabler` -/

def getResultRequestCallback : Code := .seq sendActionGetResultRequest (may cancelActionGoal)

def sendGoalReplyCallback : Code := sendActionSendGoalReply

def getResultReplyCallback : Code := sendActionGetResultReply

/-! ### Results, feedback and status -/

def handleActionResult : Code := .locked .handler (may getResultReplyCallback)

def sendActionResult : Code := .seq isUUIDActive (may handleActionResult)

def sendActionFeedback : Code :=
  .seq isUUIDActive (may (.seq getActionProtocol (may publish)))

def updateActionStatus : Code :=
  .seq isUUIDActive (may (.seq getActionProtocol (may publish)))

/-! ### Received samples -/

def writeActionGoalReplyNotification : Code := may getResultRequestCallback

def writeActionCancelReplyNotification : Code := .loop isUUIDActive

def writeActionStatusNotification : Code := .loop (.seq isUUIDActive (may eraseActionUUID))

/-- A goal is answered at once, and a cancel request is not. -/
def writeActionRequestNotification : ActionType → Code
  | .goal => may sendGoalReplyCallback
  | _ => .skip

def addActionRequest (t : ActionType) : Code :=
  may (.seq storeActionRequest (may (writeActionRequestNotification t)))

def addResultRequest : Code :=
  may (.seq storeActionRequest (may (.seq getActionResult (may getResultReplyCallback))))

def addActionData (info : RpcInfo) : Code :=
  match info.serviceType, info.actionType with
  | .reply, .result => may (.seq getActionRequestUUID eraseActionUUID)
  | .reply, .goal => may (.seq getActionRequestUUID (may writeActionGoalReplyNotification))
  | .reply, .cancel => may writeActionCancelReplyNotification
  | .request, .goal => addActionRequest .goal
  | .request, .cancel => addActionRequest .cancel
  | .request, .result => addResultRequest
  | .none, .status => writeActionStatusNotification
  | _, _ => .skip

def addData (topic : DdsTopic) : Code :=
  let info := RpcInfo.ofTopic topic.topicName
  .locked .handler <|
    match info.rpcType with
    | .action => may (addActionData info)
    | _ => .skip

/-! ### Entry points -/

inductive EntryPoint
  | createReader (topic : DdsTopic)
  | addSchema
  | addData (topic : DdsTopic)
  | publish
  | publishRpc
  | announceService
  | revokeService
  | getServiceProtocol
  | sendServiceRequest
  | sendServiceReply
  | announceAction
  | revokeAction
  | sendActionGoal
  | cancelActionGoal
  | sendActionGetResultRequest
  | sendActionSendGoalReply
  | sendActionCancelGoalReply
  | sendActionResult
  | handleActionResult
  | sendActionGetResultReply
  | sendActionFeedback
  | updateActionStatus

def EntryPoint.code (env : Env) : EntryPoint → Code
  | .createReader topic => LockOrder.createReader env topic
  | .addSchema => LockOrder.addSchema
  | .addData topic => LockOrder.addData topic
  | .publish => LockOrder.publish
  | .publishRpc => LockOrder.publishRpc
  | .announceService => LockOrder.announceService
  | .revokeService => LockOrder.revokeService
  | .getServiceProtocol => LockOrder.getServiceProtocol
  | .sendServiceRequest => LockOrder.sendServiceRequest
  | .sendServiceReply => LockOrder.sendServiceReply
  | .announceAction => LockOrder.announceAction
  | .revokeAction => LockOrder.revokeAction
  | .sendActionGoal => LockOrder.sendActionGoal
  | .cancelActionGoal => LockOrder.cancelActionGoal
  | .sendActionGetResultRequest => LockOrder.sendActionGetResultRequest
  | .sendActionSendGoalReply => LockOrder.sendActionSendGoalReply
  | .sendActionCancelGoalReply => LockOrder.sendActionCancelGoalReply
  | .sendActionResult => LockOrder.sendActionResult
  | .handleActionResult => LockOrder.handleActionResult
  | .sendActionGetResultReply => LockOrder.sendActionGetResultReply
  | .sendActionFeedback => LockOrder.sendActionFeedback
  | .updateActionStatus => LockOrder.updateActionStatus

/-- The entry points that take the mutex of the participant first and the one of the handler
inside it: all that may publish, announce or tell of a discovered topic. -/
def EntryPoint.ParticipantFirst (env : Env) : EntryPoint → Prop
  | .createReader topic => env.isTypeObjectTopic topic = false ∧ topic.discoverer ≠ env.id
  | .addSchema | .addData _ | .revokeService | .getServiceProtocol | .revokeAction
  | .sendActionResult | .handleActionResult => False
  | _ => True

/-- The entry points that take the mutex of the handler first and the one of the participant
inside it. -/
def EntryPoint.HandlerFirst : EntryPoint → Prop
  | .addData topic => (RpcInfo.ofTopic topic.topicName).Answered
  | .sendActionResult | .handleActionResult => True
  | _ => False

/-- No entry point takes the mutex of the participant while it holds it. -/
lemma code_safe (env : Env) (e : EntryPoint) : (e.code env).safe recursive = true := by
  cases e with
  | createReader topic =>
    simp only [EntryPoint.code, createReader]
    split
    · rfl
    · split
      · rfl
      · split <;> rfl
  | addData topic =>
    simp only [EntryPoint.code, addData]
    split
    · simp only [addActionData]
      split <;> rfl
    · rfl
  | _ => rfl

lemma nests_handler_iff (env : Env) (e : EntryPoint) :
    (e.code env).nests .participant .handler = true ↔ e.ParticipantFirst env := by
  cases e with
  | createReader topic =>
    simp only [EntryPoint.code, EntryPoint.ParticipantFirst, createReader]
    by_cases ht : env.isTypeObjectTopic topic = true
    · simp [ht, Op.nests]
    · by_cases hd : topic.discoverer = env.id
      · simp [ht, hd, Op.nests, Op.takes]
      · refine iff_of_true ?_ ⟨eq_false_of_ne_true ht, hd⟩
        rw [if_neg ht, if_neg hd]
        cases (RpcInfo.ofTopic topic.topicName).rpcType <;> rfl
  | addData topic => simp [EntryPoint.code, EntryPoint.ParticipantFirst, addData, Op.nests]
  | _ => simp only [EntryPoint.code, EntryPoint.ParticipantFirst, iff_true, iff_false]; decide

lemma takes_participant_iff (info : RpcInfo) :
    (match info.rpcType with
      | .action => may (addActionData info)
      | _ => .skip : Code).takes .participant = true ↔ info.Answered := by
  unfold RpcInfo.Answered addActionData
  cases info.rpcType
  case action =>
    cases info.serviceType <;> cases info.actionType <;> decide
  all_goals simp [Op.takes]

lemma nests_participant_iff (env : Env) (e : EntryPoint) :
    (e.code env).nests .handler .participant = true ↔ e.HandlerFirst := by
  cases e with
  | createReader topic =>
    simp only [EntryPoint.code, EntryPoint.HandlerFirst, createReader]
    split <;> simp [Op.nests]
  | addData topic => exact takes_participant_iff (.ofTopic topic.topicName)
  | _ => simp only [EntryPoint.code, EntryPoint.HandlerFirst, iff_true, iff_false]; decide

/-- **The locks agree with the state.** A sample that publishes takes the mutex of the participant
inside the one of the handler. -/
theorem nests_of_publication {env : Env} {topic : DdsTopic} {data : Sample} {s : State}
    {es : List Event}
    (ht : (Exec.after (DdsEnabler.addData env topic data) s).trace = s.trace ++ es)
    {e : Event} (he : e ∈ es) (hp : e.isPublication = true) :
    (addData topic).nests .handler .participant = true := by
  refine (takes_participant_iff (.ofTopic topic.topicName)).mpr ?_
  by_contra h
  obtain ⟨es', ht', hes'⟩ := quiet_addData env data topic h s
  have hes : es = es' := List.append_cancel_left (ht.symm.trans ht')
  rw [hes' e (hes ▸ he)] at hp
  cases hp

/-- **When the two mutexes deadlock.** The threads can reach a state where one holds the mutex
of the participant and waits for the one of the handler while another holds the mutex of the
handler and waits for the one of the participant, exactly when one of them runs an entry point
that takes the mutex of the participant first and another one an entry point that takes the
mutex of the handler first. -/
theorem deadlock_free_iff {ι : Type} [DecidableEq ι] (env : Env) (calls : ι → EntryPoint) :
    (∀ s t, Start (fun i => (calls i).code env) s → Reaches recursive s t →
        ¬Deadlock .participant .handler t) ↔
      ∀ i j, i ≠ j → ¬((calls i).ParticipantFirst env ∧ (calls j).HandlerFirst) := by
  have hiff : (∃ s t, Start (fun i => (calls i).code env) s ∧ Reaches recursive s t ∧
      Deadlock .participant .handler t) ↔ _ :=
    deadlock_reachable_iff (by decide) (fun l => by cases l <;> simp)
      fun i => code_safe env (calls i)
  simp only [nests_handler_iff, nests_participant_iff] at hiff
  constructor
  · rintro h i j hij ⟨hi, hj⟩
    obtain ⟨s, t, hs, hst, hd⟩ := hiff.mpr ⟨i, j, hij, hi, hj⟩
    exact h s t hs hst hd
  · intro h s t hs hst hd
    obtain ⟨i, j, hij, hi, hj⟩ := hiff.mp ⟨s, t, hs, hst, hd⟩
    exact h i j hij ⟨hi, hj⟩

/-! ### A deadlock -/

section Deadlock

open Act

def accessTrace : List (Act Mutex) := [acquire .handler, release .handler]

lemma access_traces : Traces tableAccess accessTrace := .locked .skip

/-- A publication in a topic that has a reader. -/
def publicationTrace : List (Act Mutex) :=
  [acquire .participant, acquire .handler, release .handler, release .participant]

lemma publish_traces : Traces publish publicationTrace :=
  .right (Guarded.traces_under.mpr ⟨accessTrace, .left (.run access_traces .done), rfl⟩)

lemma publishRpc_traces : Traces publishRpc publicationTrace :=
  .locked (.right access_traces)

/-- The reply to a goal that was accepted: the goal is looked up, and then its protocol; an
identifier is drawn, the result request is published and stored. -/
def goalReplyTrace : List (Act Mutex) :=
  acquire .handler :: (accessTrace ++ (accessTrace ++ (accessTrace ++ (publicationTrace ++
    accessTrace))) ++ [release .handler])

def goalReplyTopic : DdsTopic :=
  { topicName := "rr/fibonacci/_action/send_goalReply".toList }

lemma addData_goalReply : addData goalReplyTopic =
    .locked .handler (may (may (.seq getActionRequestUUID
      (may writeActionGoalReplyNotification)))) := rfl

lemma goalReply_traces : Traces (addData goalReplyTopic) goalReplyTrace := by
  have request : Traces sendServiceRequest (accessTrace ++ publicationTrace) :=
    .right (.seq access_traces publishRpc_traces)
  have result : Traces sendActionGetResultRequest
      (accessTrace ++ ((accessTrace ++ publicationTrace) ++ (accessTrace ++ []))) :=
    .seq access_traces (.seq request (.right (.seq access_traces (.left .skip))))
  have callback : Traces writeActionGoalReplyNotification _ :=
    .right (.seq result (.left .skip))
  have sample : Traces (addData goalReplyTopic) _ :=
    .locked (.right (.right (.seq access_traces (.right callback))))
  exact sample

/-- One thread publishes, and the other one receives the reply to a goal. -/
def publishAndGoalReply : Fin 2 → EntryPoint := ![.publish, .addData goalReplyTopic]

/-- The publication takes the mutex of the participant and comes to serialize its data. The
reply takes the one of the handler and comes to publish its result request. -/
theorem publish_deadlocks :
    ∃ s t, Start (fun i => (publishAndGoalReply i).code .silent) s ∧ Reaches recursive s t ∧
      Deadlock .participant .handler t := by
  let s : Sys Mutex (Fin 2) := ⟨![publicationTrace, goalReplyTrace], fun _ _ => 0⟩
  have start : Start (fun i => (publishAndGoalReply i).code .silent) s := by
    refine ⟨fun i => ?_, fun _ => rfl⟩
    fin_cases i
    · exact publish_traces
    · exact goalReply_traces
  refine ⟨s, _, start,
    .head (.act (i := 0) rfl ⟨by decide, .inr rfl⟩) <|
    .head (.act (i := 1) rfl ⟨by decide, .inr rfl⟩) <|
    -- the goal, its protocol and the identifier of the request
    .head (.act (i := 1) rfl ⟨by decide, .inl rfl⟩) <| .head (.act (i := 1) rfl trivial) <|
    .head (.act (i := 1) rfl ⟨by decide, .inl rfl⟩) <| .head (.act (i := 1) rfl trivial) <|
    .head (.act (i := 1) rfl ⟨by decide, .inl rfl⟩) <| .head (.act (i := 1) rfl trivial) .refl,
    0, 1, by decide, ?_, ⟨_, rfl⟩, ?_, ⟨_, rfl⟩⟩
  · unfold Sys.Holds
    decide
  · unfold Sys.Holds
    decide

end Deadlock

end DdsEnabler.LockOrder
