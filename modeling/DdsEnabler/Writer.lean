import DdsEnabler.Rpc

/-!
The writer: received samples as JSON, and the user's callbacks.

The data of a sample sits in a JSON object under the topic name, `data` and the instance
handle. An exception of the JSON library is caught where the source catches it; any other
leaves the writer.
-/

namespace DdsEnabler

open RpcUtils

structure Message where
  topic : DdsTopic
  instanceHandle : Str
  sourceGuidPrefix : Str
  payload : List UInt8
  publishTime : Int

namespace Message

/-- The JSON of a message around that of its data. -/
def wrap (msg : Message) (data : Json) : Json :=
  .obj (Json.setKey (Json.setKey [("id".toList, .str msg.sourceGuidPrefix)]
      "type".toList (.str "fastdds".toList))
    msg.topic.topicName (.obj
      [("data".toList, .obj [(msg.instanceHandle, data)]),
       ("type".toList, .str msg.topic.typeName)]))

/-- The data in the JSON of a message. -/
def dataOf (msg : Message) (json : Json) : Except Exc Json := do
  let topic ← json.index msg.topic.topicName
  let data ← topic.index "data".toList
  data.index msg.instanceHandle

@[simp] lemma dataOf_wrap (msg : Message) (data : Json) :
    msg.dataOf (msg.wrap data) = .ok data := by
  have h1 : (msg.wrap data).index msg.topic.topicName = .ok (.obj
      [("data".toList, .obj [(msg.instanceHandle, data)]),
       ("type".toList, .str msg.topic.typeName)]) := by
    simp [wrap, Json.index]
  have h2 : (Json.obj [(msg.instanceHandle, data)]).index msg.instanceHandle = .ok data := by
    simp [Json.index, List.lookup]
  unfold dataOf
  rw [h1]
  exact h2

/-- `prepare_json_data_`. -/
def prepareJsonData (env : Env) (msg : Message) (dynType : DynType) : Option Json :=
  (env.decode dynType msg.payload).map msg.wrap

end Message

/-! ### Identifiers -/

/-- The elements of an array as bytes. -/
def readBytes : (l : List Json) → Except Exc { b : List UInt8 // b.length = l.length }
  | [] => .ok ⟨[], rfl⟩
  | j :: l =>
    match j.getUnsigned 8, readBytes l with
    | .ok n, .ok b => .ok ⟨.ofNat n :: b.1, by simp [b.2]⟩
    | .error e, _ => .error e
    | _, .error e => .error e

/-- `json_to_uuid`. -/
def jsonToUuid (j : Json) : Except Exc UUID :=
  match j with
  | .obj l =>
    match l.lookup "uuid".toList with
    | some (.arr a) =>
      if h : a.length = 16 then (readBytes a).map fun b => ⟨b.1, b.2.trans h⟩
      else .error .invalidArgument
    | _ => .error .invalidArgument
  | _ => .error .invalidArgument

/-- The identifier in the member `goal_id` of the data of a message. -/
def goalIdOf (msg : Message) (json : Json) : Except Exc UUID := do
  let data ← msg.dataOf json
  jsonToUuid (← data.index "goal_id".toList)

/-- The identifier is looked for in the member `goal_id` of the data. -/
lemma goalIdOf_wrap (msg : Message) (data : Json) :
    goalIdOf msg (msg.wrap data) = (data.index "goal_id".toList).bind jsonToUuid := by
  unfold goalIdOf
  rw [Message.dataOf_wrap]
  rfl

/-- An exception of the JSON library is turned into a value; any other goes on. -/
def catchJson (r : Except Exc α) (v : α) : Except Exc α :=
  match r with
  | .ok a => .ok a
  | .error e => if e.isJson then .ok v else .error e

def uuidFromRequestJson (env : Env) (msg : Message) (dynType : DynType) :
    Except Exc (Option UUID) :=
  match msg.prepareJsonData env dynType with
  | none => .ok none
  | some json => catchJson ((goalIdOf msg json).map some) none

/-! ### Topics and services -/

def writeData (env : Env) (msg : Message) (dynType : DynType) : M Unit :=
  match msg.prepareJsonData env dynType with
  | some json =>
    notify env.callbacks.dataNotification
      (.dataNotification msg.topic.topicName json msg.publishTime)
  | none => pure ()

def writeServiceReplyNotification (env : Env) (msg : Message) (dynType : DynType)
    (requestId : Nat) (serviceName : Str) : M Unit :=
  match msg.prepareJsonData env dynType with
  | some json =>
    notify env.callbacks.serviceReplyNotification
      (.serviceReplyNotification serviceName json requestId msg.publishTime)
  | none => pure ()

def writeServiceRequestNotification (env : Env) (msg : Message) (dynType : DynType)
    (requestId : Nat) (serviceName : Str) : M Unit :=
  match msg.prepareJsonData env dynType with
  | some json =>
    notify env.callbacks.serviceRequestNotification
      (.serviceRequestNotification serviceName json requestId msg.publishTime)
  | none => pure ()

/-! ### Actions, client side -/

def writeActionResultNotification (env : Env) (msg : Message) (dynType : DynType)
    (actionId : UUID) (actionName : Str) : M Unit :=
  match msg.prepareJsonData env dynType with
  | some json =>
    notify env.callbacks.actionResultNotification
      (.actionResultNotification actionName json actionId msg.publishTime)
  | none => pure ()

/-- The goal and the feedback in a feedback message. -/
def feedbackOf (msg : Message) (json : Json) : Except Exc (UUID × Json) := do
  let uuid ← goalIdOf msg json
  let data ← msg.dataOf json
  return (uuid, ← data.index "feedback".toList)

def writeActionFeedbackNotification (env : Env) (msg : Message) (dynType : DynType)
    (actionName : Str) : M Unit :=
  match env.callbacks.actionFeedbackNotification, msg.prepareJsonData env dynType with
  | true, some json => do
    match ← Exec.lift (catchJson ((feedbackOf msg json).map some) none) with
    | some (uuid, feedback) =>
      emit (.actionFeedbackNotification actionName feedback uuid msg.publishTime)
    | none => pure ()
  | _, _ => pure ()

def notifyStatus (env : Env) (msg : Message) (actionName : Str) (actionId : UUID)
    (code : StatusCode) (message : String) : M Unit :=
  notify env.callbacks.actionStatusNotification
    (.actionStatusNotification actionName actionId code message msg.publishTime)

/-- The decision in a goal reply. -/
def acceptedOf (msg : Message) (json : Json) : Except Exc Bool := do
  let data ← msg.dataOf json
  (← data.index "accepted".toList).getBool

def goalReplyStatus : Option Bool → StatusCode × String
  | some true => (.accepted, "Action goal accepted")
  | some false => (.rejected, "Action goal rejected")
  | none => (.unknown, "Action goal reply notification malformed")

def writeActionGoalReplyNotification (env : Env) (msg : Message) (dynType : DynType)
    (actionId : UUID) (actionName : Str) : M Unit :=
  match msg.prepareJsonData env dynType with
  | none => pure ()
  | some json => do
    let accepted ← Exec.lift (catchJson ((acceptedOf msg json).map some) none)
    let status := goalReplyStatus accepted
    notifyStatus env msg actionName actionId status.1 status.2
    if status.1 = .accepted then
      let sent ← getResultRequestCallback env actionName actionId
      if !sent then notifyStatus env msg actionName actionId .aborted "Action goal aborted"

def returnCodeOf (msg : Message) (json : Json) : Except Exc Int := do
  let data ← msg.dataOf json
  (← data.index "return_code".toList).getInt32

def cancelReplyStatus : Int → StatusCode × String
  | 0 => (.canceled, "Action canceled successfully")
  | 1 => (.rejected, "Action cancel request rejected")
  | 2 => (.cancelRequestFailed, "Action cancel request unknown goal ID")
  | 3 => (.cancelRequestFailed, "Action cancel request rejected as goal was already terminated")
  | _ => (.unknown, "Action cancel request unknown code")

/-- The loop over `goals_canceling`; the first goal that the library cannot read ends it. -/
def writeCancelledGoals (env : Env) (msg : Message) (actionName : Str)
    (status : StatusCode × String) : List Json → M Unit
  | [] => pure ()
  | goal :: goals => do
    let id := (goal.indexConst "goal_id".toList).bind jsonToUuid
    match ← Exec.lift (catchJson (id.map some) none) with
    | none => pure ()
    | some uuid =>
      if ← readHandler (·.isUUIDActive actionName uuid) then
        notifyStatus env msg actionName uuid status.1 status.2
      writeCancelledGoals env msg actionName status goals

def writeActionCancelReplyNotification (env : Env) (msg : Message) (dynType : DynType)
    (actionName : Str) : M Unit :=
  match msg.prepareJsonData env dynType with
  | none => pure ()
  | some json => do
    match ← Exec.lift (catchJson ((returnCodeOf msg json).map some) none) with
    | none => pure ()
    | some code =>
      let goals := (msg.dataOf json).bind (·.index "goals_canceling".toList)
      match ← Exec.lift (catchJson (goals.map some) none) with
      | none => pure ()
      | some goals =>
        writeCancelledGoals env msg actionName (cancelReplyStatus code) goals.elements

def statusMessage : StatusCode → String
  | .unknown => "The status has not been properly set"
  | .accepted => "The goal has been accepted and is awaiting execution"
  | .executing => "The goal is currently being executed by the action server"
  | .canceling =>
    "The client has requested that the goal be canceled and the action server has accepted " ++
      "the cancel request"
  | .succeeded => "The goal was achieved successfully by the action server"
  | .canceled => "The goal was canceled after an external request from an action client"
  | .aborted => "The goal was terminated by the action server without an external request"
  | .rejected => "The goal was rejected by the action server, it will not be executed"
  | _ => "Unknown status code"

/-- The codes that end a goal. -/
def StatusCode.isFinal : StatusCode → Bool
  | .succeeded | .canceled | .aborted | .rejected => true
  | _ => false

/-- The identifier in an entry of a status list. -/
def statusUuid (status : Json) : Except Exc UUID := do
  let info ← status.indexConst "goal_info".toList
  jsonToUuid (← info.indexConst "goal_id".toList)

/-- The code in an entry of a status list: the enumeration is read through its `int`. -/
def statusCodeOf (status : Json) : Except Exc StatusCode := do
  return .ofInt (← (← status.indexConst "status".toList).getArithmetic 32)

/-- The loop over `status_list`; an entry that the library cannot read ends it. -/
def writeStatusList (env : Env) (msg : Message) (actionName : Str) : List Json → M Unit
  | [] => pure ()
  | status :: list => do
    match ← Exec.lift (catchJson ((statusUuid status).map some) none) with
    | none => pure ()
    | some uuid =>
      if ← readHandler (·.isUUIDActive actionName uuid) then
        match ← Exec.lift (catchJson ((statusCodeOf status).map some) none) with
        | none => pure ()
        | some code =>
          if code.isFinal then eraseActionUUID uuid .finalStatus
          notifyStatus env msg actionName uuid code (statusMessage code)
          writeStatusList env msg actionName list
      else writeStatusList env msg actionName list

def writeActionStatusNotification (env : Env) (msg : Message) (dynType : DynType)
    (actionName : Str) : M Unit :=
  match msg.prepareJsonData env dynType with
  | none => pure ()
  | some json => do
    let list := (msg.dataOf json).bind (·.index "status_list".toList)
    match ← Exec.lift (catchJson (list.map some) none) with
    | none => pure ()
    | some list => writeStatusList env msg actionName list.elements

/-! ### Actions, server side -/

def writeGoalRequest (env : Env) (msg : Message) (requestId : Nat) (actionName : Str)
    (json : Json) : M Unit := do
  match env.callbacks.actionGoalRequestNotification with
  | some callback =>
    match ← Exec.lift (catchJson ((goalIdOf msg json).map some) none) with
    | none => pure ()
    | some uuid =>
      emit (.actionGoalRequestNotification actionName json uuid msg.publishTime)
      sendGoalReplyCallback env actionName requestId
        (callback actionName json uuid msg.publishTime)
  -- without a callback, `accepted` is read without having been written
  | none => sendGoalReplyCallback env actionName requestId env.garbageAccepted

/-- The goal and the time stamp in a cancel request, as the writer looks for them. -/
def cancelRequestOf (msg : Message) (json : Json) : Except Exc (UUID × Int) := do
  let data ← msg.dataOf json
  let info ← data.index "goal_info".toList
  let sec ← info.index "sec".toList
  let nanosec ← info.index "nanosec".toList
  -- in 64 bits
  let timestamp := ((← sec.getInt64) * 1000000000 + (← nanosec.getUnsigned 32)).bmod (2 ^ 64)
  return (← goalIdOf msg json, timestamp)

def writeCancelRequest (env : Env) (msg : Message) (requestId : Nat) (actionName : Str)
    (json : Json) : M Unit := do
  if env.callbacks.actionCancelRequestNotification then
    match ← Exec.lift (catchJson ((cancelRequestOf msg json).map some) none) with
    | none => pure ()
    | some (uuid, timestamp) =>
      emit (.actionCancelRequestNotification actionName uuid timestamp requestId msg.publishTime)

def writeActionRequestNotification (env : Env) (msg : Message) (dynType : DynType)
    (requestId : Nat) (actionName : Str) (actionType : ActionType) : M Unit :=
  match msg.prepareJsonData env dynType with
  | none => pure ()
  | some json =>
    match actionType with
    | .goal => writeGoalRequest env msg requestId actionName json
    | .cancel => writeCancelRequest env msg requestId actionName json
    | _ => pure ()

end DdsEnabler
