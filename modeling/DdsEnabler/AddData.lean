import DdsEnabler.Writer

/-!
`Handler::add_data`: a received sample goes to the callback that its topic name tells.

The whole call runs under the mutex of the handler, so it is one step of any interleaving.
-/

namespace DdsEnabler

/-- `dynamic_cast<RpcPayloadData&>`. -/
def requireRpc (data : Sample) : M Unit := if data.isRpc then pure () else throw .badCast

/-- Draw an identifier and write it into the sample. -/
def stampRequest (data : Sample) : M Nat := do
  let requestId ← getNewRequestId
  requireRpc data
  emit (.sentSequenceNumber requestId)
  return requestId

/-- The identifier of the request that a reply answers. -/
def relatedRequestId (data : Sample) : M Nat := do
  requireRpc data
  return data.relatedSequenceNumber

def addServiceData (env : Env) (info : RpcInfo) (data : Sample) (msg : Message)
    (dynType : DynType) : M Unit := do
  if info.serviceType = .request then
    let requestId ← stampRequest data
    writeServiceRequestNotification env msg dynType requestId info.serviceName
  else
    let requestId ← relatedRequestId data
    writeServiceReplyNotification env msg dynType requestId info.serviceName

def addResultReply (env : Env) (info : RpcInfo) (data : Sample) (msg : Message)
    (dynType : DynType) : M Unit := do
  let requestId ← relatedRequestId data
  let found ← readHandler (·.getActionRequestUUID env.visitOrder requestId .result)
  if let some uuid := found then
    writeActionResultNotification env msg dynType uuid info.actionName
  -- where no goal was found, the local identifier is read without having been written
  eraseActionUUID (found.getD env.garbageUuid) .result

def addGoalReply (env : Env) (info : RpcInfo) (data : Sample) (msg : Message)
    (dynType : DynType) : M Unit := do
  let requestId ← relatedRequestId data
  match ← readHandler (·.getActionRequestUUID env.visitOrder requestId .goal) with
  | some uuid => writeActionGoalReplyNotification env msg dynType uuid info.actionName
  | none => pure ()

def addCancelReply (env : Env) (info : RpcInfo) (data : Sample) (msg : Message)
    (dynType : DynType) : M Unit := do
  discard <| relatedRequestId data
  writeActionCancelReplyNotification env msg dynType info.actionName

/-- A goal or a cancel request. -/
def addActionRequest (env : Env) (info : RpcInfo) (data : Sample) (msg : Message)
    (dynType : DynType) : M Unit := do
  let requestId ← stampRequest data
  match ← Exec.lift (uuidFromRequestJson env msg dynType) with
  | none => pure ()
  | some uuid =>
    if ← storeActionRequest env info.actionName uuid requestId info.actionType .ros2 then
      writeActionRequestNotification env msg dynType requestId info.actionName info.actionType

/-- The result of a goal is sent to a request that comes after it. -/
def replyStoredResult (env : Env) (actionName : Str) (uuid : UUID) (requestId : Nat) :
    M Unit := do
  match ← readHandler (·.getActionResult uuid) with
  | some result => discard <| getResultReplyCallback env actionName uuid result requestId
  | none => pure ()

/-- A get-result request. -/
def addResultRequest (env : Env) (info : RpcInfo) (data : Sample) (msg : Message)
    (dynType : DynType) : M Unit := do
  match ← Exec.lift (uuidFromRequestJson env msg dynType) with
  | none => pure ()
  | some uuid =>
    let requestId ← stampRequest data
    if ← storeActionRequest env info.actionName uuid requestId .result .ros2 then
      replyStoredResult env info.actionName uuid requestId

def addActionData (env : Env) (info : RpcInfo) (data : Sample) (msg : Message)
    (dynType : DynType) : M Unit :=
  match info.serviceType, info.actionType with
  | .reply, .result => addResultReply env info data msg dynType
  | .reply, .goal => addGoalReply env info data msg dynType
  | .reply, .cancel => addCancelReply env info data msg dynType
  | .request, .goal => addActionRequest env info data msg dynType
  | .request, .cancel => addActionRequest env info data msg dynType
  | .request, .result => addResultRequest env info data msg dynType
  | .none, .feedback => writeActionFeedbackNotification env msg dynType info.actionName
  | .none, .status => writeActionStatusNotification env msg dynType info.actionName
  | _, _ => pure ()

def addKnownData (env : Env) (info : RpcInfo) (data : Sample) (msg : Message)
    (dynType : DynType) : M Unit :=
  match info.rpcType with
  | .none => writeData env msg dynType
  | .service => addServiceData env info data msg dynType
  | .action => addActionData env info data msg dynType

def Sample.message (data : Sample) (topic : DdsTopic) : Message :=
  { topic, instanceHandle := data.instanceHandle, sourceGuidPrefix := data.sourceGuidPrefix
    payload := data.payload, publishTime := data.sourceTimestamp }

/-- `unique_sequence_number_++`, an `unsigned int`. -/
def Handler.countSample (h : Handler) : Handler :=
  { h with uniqueSequenceNumber := (h.uniqueSequenceNumber + 1) % 2 ^ 32 }

def addData (env : Env) (topic : DdsTopic) (data : Sample) : M Unit := do
  match ← readHandler (·.schemas.lookup topic.typeName) with
  | none => pure ()
  | some (_, dynType) =>
    onHandler fun h => ((), h.countSample)
    if data.payload.isEmpty || !data.hasOwner then throw .inconsistency
    else addKnownData env (.ofTopic topic.topicName) data (data.message topic) dynType

/-- A sample that the handler accepts, of a topic whose type it knows. -/
structure Sample.Accepted (data : Sample) (topic : DdsTopic) (dynType : DynType) (s : State) :
    Prop where
  schema : ∃ typeId, s.handler.schemas.lookup topic.typeName = some (typeId, dynType)
  payload : data.payload.isEmpty = false
  owner : data.hasOwner = true

/-- The state once a sample has been counted. -/
def State.count (s : State) : State := { s with handler := s.handler.countSample }

@[simp] lemma count_entry (s : State) (u : UUID) : s.count.handler.entry u = s.handler.entry u :=
  rfl
@[simp] lemma count_map (s : State) :
    s.count.handler.actionRequestIdToUuid = s.handler.actionRequestIdToUuid := rfl
@[simp] lemma count_schemas (s : State) : s.count.handler.schemas = s.handler.schemas := rfl
@[simp] lemma count_requestsId (s : State) :
    s.count.handler.requestsId = s.handler.requestsId := rfl
@[simp] lemma count_nextRequestId (s : State) :
    s.count.handler.nextRequestId.1 = s.handler.nextRequestId.1 := rfl
@[simp] lemma count_participant (s : State) : s.count.participant = s.participant := rfl
@[simp] lemma count_trace (s : State) : s.count.trace = s.trace := rfl

lemma addData_run {data : Sample} {topic : DdsTopic} {dynType : DynType} {s : State}
    (h : data.Accepted topic dynType s) (env : Env) :
    (addData env topic data).run s =
      (addKnownData env (.ofTopic topic.topicName) data (data.message topic) dynType).run
        s.count := by
  obtain ⟨⟨typeId, hschema⟩, hpayload, howner⟩ := h
  simp [addData, hschema, hpayload, howner, State.count]

end DdsEnabler
