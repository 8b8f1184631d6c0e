import DdsEnabler.Participant
import DdsEnabler.RpcUtils

/-!
Requests, replies and goals: the client and the server side of services and actions, and the
callbacks that `DDSEnabler` installs in the handler.
-/

namespace DdsEnabler

open RpcUtils

/-- Send a request, and the identifier drawn for it. No identifier is drawn for an unknown
protocol. -/
def sendServiceRequest (env : Env) (serviceName : Str) (json : JsonText) (protocol : Protocol) :
    M (Bool × Nat) := do
  match requestTopic protocol serviceName with
  | none => return (false, 0)
  | some topicName =>
    let requestId ← getNewRequestId
    return (← publishRpc env topicName json requestId, requestId)

/-- Both outcomes of a request on a topic: published, or only its identifier drawn. -/
lemma sendServiceRequest_run (env : Env) (serviceName : Str) (json : JsonText)
    (protocol : Protocol) (s : State) :
    (sendServiceRequest env serviceName json protocol).run s =
      match requestTopic protocol serviceName with
      | none => .ok (false, 0) s
      | some topicName =>
        if s.draw.rpcPublishable env topicName json then
          .ok (true, s.handler.nextRequestId.1)
            (s.draw.log [.publishedRpc topicName json s.handler.nextRequestId.1])
        else .ok (false, s.handler.nextRequestId.1) s.draw := by
  unfold sendServiceRequest
  rcases requestTopic protocol serviceName with _ | topicName
  · rfl
  · by_cases h : s.draw.rpcPublishable env topicName json
    · simp [h]
    · simp [h]

def sendServiceReply (env : Env) (serviceName : Str) (json : JsonText) (requestId : Nat) :
    M Bool := do
  match replyTopic (← getServiceProtocol serviceName) serviceName with
  | none => return false
  | some topicName => publishRpc env topicName json requestId

/-! ### Client side of actions -/

/-- What follows the publication of a goal: its request is stored, or else its identifier is
erased. -/
def storeGoal (env : Env) (actionName : Str) (actionId : UUID) (requestId : Nat)
    (protocol : Protocol) : M Bool := do
  if ← storeActionRequest env actionName actionId requestId .goal protocol then return true
  else
    eraseActionUUID actionId .forced
    return false

/-- Send a goal, and the identifier generated for it. -/
def sendActionGoal (env : Env) (actionName : Str) (json : JsonText) (protocol : Protocol) :
    M (Bool × UUID) := do
  let actionId := env.uuid
  let goalJson ← Exec.lift (createGoalRequestMsg json actionId)
  let (sent, requestId) ←
    sendServiceRequest env (actionName ++ actionGoalSuffix) (.doc goalJson) protocol
  if sent then return (← storeGoal env actionName actionId requestId protocol, actionId)
  else return (false, actionId)

def cancelActionGoal (env : Env) (actionName : Str) (goalId : UUID) (timestamp : Int) :
    M Bool := do
  let active ← readHandler (·.isUUIDActive actionName goalId)
  if goalId ≠ .null && !active then return false
  else
    let cancelJson := createCancelRequestMsg goalId timestamp
    let protocol ← readHandler (·.getActionProtocol actionName goalId)
    return (← sendServiceRequest env (actionName ++ actionCancelSuffix) (.doc cancelJson)
      protocol).1

def sendActionGetResultRequest (env : Env) (actionName : Str) (actionId : UUID) : M Bool := do
  let json := createResultRequestMsg actionId
  let protocol ← readHandler (·.getActionProtocol actionName actionId)
  let (sent, requestId) ←
    sendServiceRequest env (actionName ++ actionResultSuffix) (.doc json) protocol
  if sent then
    if ← storeActionRequest env actionName actionId requestId .result .ros2 then return true
    else
      discard <| cancelActionGoal env actionName actionId 0
      return false
  else return false

/-! ### Server side of actions -/

def sendActionSendGoalReply (env : Env) (actionName : Str) (requestId : Nat) (accepted : Bool) :
    M Unit :=
  discard <| sendServiceReply env (actionName ++ actionGoalSuffix)
    (.doc (createGoalReplyMsg accepted env.now)) requestId

/-- The goals of the list that are active, with the stamps of their acceptance. -/
def Handler.cancellingGoals (h : Handler) (actionName : Str) (goalIds : List UUID) :
    List (UUID × Int) :=
  goalIds.filterMap fun u => (h.goalAcceptedStamp actionName u).map fun t => (u, t)

def sendActionCancelGoalReply (env : Env) (actionName : Str) (goalIds : List UUID)
    (cancelCode : CancelCode) (requestId : Nat) : M Bool := do
  let goals ← readHandler (·.cancellingGoals actionName goalIds)
  sendServiceReply env (actionName ++ actionCancelSuffix)
    (.doc (createCancelReplyMsg goals cancelCode)) requestId

def sendActionGetResultReply (env : Env) (actionName : Str) (goalId : UUID)
    (replyJson : JsonText) (requestId : Nat) : M Bool := do
  if ← sendServiceReply env (actionName ++ actionResultSuffix) replyJson requestId then
    eraseActionUUID goalId .forced
    return true
  else return false

/-! ### Callbacks installed by `DDSEnabler` -/

def getResultRequestCallback (env : Env) (actionName : Str) (actionId : UUID) : M Bool := do
  let sent ← sendActionGetResultRequest env actionName actionId
  if !sent then discard <| cancelActionGoal env actionName actionId 0
  emit (.sendActionGetResultRequest actionName actionId sent)
  return sent

def sendGoalReplyCallback (env : Env) (actionName : Str) (requestId : Nat) (accepted : Bool) :
    M Unit := do
  sendActionSendGoalReply env actionName requestId accepted
  emit (.sendActionSendGoalReply actionName requestId accepted)

def getResultReplyCallback (env : Env) (actionName : Str) (goalId : UUID) (replyJson : JsonText)
    (requestId : Nat) : M Bool := do
  let sent ← sendActionGetResultReply env actionName goalId replyJson requestId
  emit (.sendActionGetResultReply actionName goalId replyJson requestId sent)
  return sent

/-! ### Results, feedback and status -/

/-- `handle_action_result`: reply if a request is there, else keep the result. -/
def handleActionResult (env : Env) (actionName : Str) (actionId : UUID) (result : JsonText) :
    M Bool := do
  match ← readHandler (·.entry actionId) with
  | none => return false
  | some i =>
    if i.actionName ≠ actionName then return false
    else if i.resultRequestId ≠ 0 then
      getResultReplyCallback env actionName actionId result i.resultRequestId
    else setResult actionId result

def sendActionResult (env : Env) (actionName : Str) (goalId : UUID) (statusCode : StatusCode)
    (json : JsonText) : M Bool := do
  if ← readHandler (·.isUUIDActive actionName goalId) then
    let replyJson ← Exec.lift (createResultReplyMsg statusCode json)
    handleActionResult env actionName goalId (.doc replyJson)
  else return false

def sendActionFeedback (env : Env) (actionName : Str) (json : JsonText) (goalId : UUID) :
    M Bool := do
  if ← readHandler (·.isUUIDActive actionName goalId) then
    match topicPrefix (← readHandler (·.getActionProtocol actionName goalId)) with
    | none => return false
    | some pre =>
      let feedbackJson ← Exec.lift (createFeedbackMsg json goalId)
      publish env (pre ++ actionName ++ actionFeedbackSuffix) (.doc feedbackJson)
  else return false

def updateActionStatus (env : Env) (actionName : Str) (goalId : UUID) (statusCode : StatusCode) :
    M Bool := do
  match ← readHandler (·.goalAcceptedStamp actionName goalId) with
  | none => return false
  | some goalAcceptedStamp =>
    match topicPrefix (← readHandler (·.getActionProtocol actionName goalId)) with
    | none => return false
    | some pre =>
      publish env (pre ++ actionName ++ actionStatusSuffix)
        (.doc (createStatusMsg goalId statusCode goalAcceptedStamp))

end DdsEnabler
