import DdsEnabler.Handler

/-!
The participant of the enabler: its readers, the services and actions it knows, and the
endpoints it simulates in the discovery database.

The functions on `Participant` change its maps; the operations after them also ask the user
and the type support, notify discoveries, and wait for readers.
-/

namespace DdsEnabler

open Tables

def DdsTopic.key (t : DdsTopic) : TopicKey := (t.topicName, t.typeName)

/-- The first entry in the order of the keys: the type names decide, for one topic name. -/
def firstReader : List (Σ _ : TopicKey, Reader) → Option (TopicKey × Reader)
  | [] => none
  | e :: l =>
    match firstReader l with
    | none => some (e.1, e.2)
    | some f => if f.1.2 < e.1.2 then some f else some (e.1, e.2)

namespace Participant

/-- The first reader in `readers_` with the topic name, and its key. -/
def lookupReader (p : Participant) (topicName : Str) : Option (TopicKey × Reader) :=
  firstReader (p.readers.entries.filter fun e => e.1.1 = topicName)

def setReader (p : Participant) (topic : DdsTopic) (r : Reader) : Participant :=
  { p with readers := p.readers.insert topic.key r }

/-! ### Discovery -/

def serviceDiscovered (p : Participant) (info : RpcInfo) (topic : DdsTopic) :
    Bool × Participant :=
  let s := (p.services.find info.serviceName).getD
    { serviceName := info.serviceName, protocol := info.protocol }
  let (added, s) := s.addTopic topic info.serviceType
  let s := if added then { s with externalServer := true } else s
  (added, { p with services := p.services.set info.serviceName s })

/-- The topic is entered in the action: through its service, or as feedback or status. -/
def enterTopic (p : Participant) (info : RpcInfo) (topic : DdsTopic) (a : ActionDiscovered) :
    Participant × ActionDiscovered :=
  if info.serviceType ≠ .none then
    let (discovered, p) := p.serviceDiscovered info topic
    if discovered then (p, (a.addService (p.services.weak info.serviceName) info.actionType).2)
    else (p, a)
  else (p, (a.addTopic topic info.actionType).2)

def actionDiscovered (p : Participant) (info : RpcInfo) (topic : DdsTopic) :
    Bool × Participant :=
  let a := (p.actions.lookup info.actionName).getD
    { actionName := info.actionName, protocol := info.protocol }
  let (p, a) := p.enterTopic info topic a
  let (discovered, a) := a.checkFullyDiscovered p.services
  let a := if discovered then { a with externalServer := true } else a
  (discovered, { p with actions := p.actions.insert info.actionName a })

/-- The service under a name, as it is notified. -/
def getService (p : Participant) (name : Str) : Except Exc RpcTopic :=
  match p.services.find name with
  | some s => s.getService
  | none => .error .runtimeError

/-- The action under a name, as it is notified. -/
def getAction (p : Participant) (name : Str) : Except Exc RpcAction :=
  match p.actions.lookup name with
  | some a => a.getAction p.services
  | none => .error .runtimeError

/-! ### Revocation -/

/-- Dismantle the server of a service: its endpoint, its request topic and its reader go. -/
def dismantle (p : Participant) (name : Str) (s : ServiceDiscovered) (e : Endpoint) :
    Participant :=
  let p' : Participant :=
    { p with
      endpoints := p.endpoints.filter fun e' => e'.guid ≠ e.guid
      services := p.services.set name ({ s with endpointRequest := none }.removeTopic .request) }
  match p'.lookupReader s.topicRequest.topicName with
  | some (_, r) => { p' with readers := p'.readers.erase r.topic.key }
  | none => p'

def revokeServiceNts (p : Participant) (name : Str) : Bool × Participant :=
  match p.services.find name with
  | none => (false, p)
  | some s =>
    match s.enablerAsServer, s.endpointRequest with
    | true, some e =>
      if s.externalServer then
        (true, { p with services := p.services.set name { s with enablerAsServer := false } })
      else (true, p.dismantle name s e)
    | _, _ => (false, p)

/-- The three services of an action are revoked in turn, up to the first failure. -/
def revokeServices (p : Participant) : List Str → Bool × Participant
  | [] => (true, p)
  | name :: l =>
    match p.revokeServiceNts name with
    | (true, p) => revokeServices p l
    | (false, p) => (false, p)

def setAction (p : Participant) (name : Str) (a : ActionDiscovered) : Participant :=
  { p with actions := p.actions.insert name a }

def revokeAction (p : Participant) (actionName : Str) : Bool × Participant :=
  match p.actions.lookup actionName with
  | none => (false, p)
  | some a =>
    if !a.enablerAsServer then (false, p)
    else if a.externalServer then (true, p.setAction actionName { a with enablerAsServer := false })
    else
      match p.services.lock a.goal, p.services.lock a.result, p.services.lock a.cancel with
      | some goal, some result, some cancel =>
        match p.revokeServices [goal.serviceName, result.serviceName, cancel.serviceName] with
        | (true, p) =>
          (true, p.setAction actionName { a with enablerAsServer := false,
                                                 fullyDiscovered := false })
        | (false, p) => (false, p)
      | _, _, _ => (false, p)

/-- `simulate_endpoint`, entered in the discovery database. -/
def simulateEndpoint (p : Participant) (topic : DdsTopic) : Endpoint × Participant :=
  (⟨topic, p.nextGuid⟩,
    { p with endpoints := p.endpoints ++ [⟨topic, p.nextGuid⟩], nextGuid := p.nextGuid + 1 })

end Participant

/-! ### Readers -/

/-- `true` or `false` as a YAML scalar. -/
def yamlBool (b : Bool) : Str := if b then "true".toList else "false".toList

/-- `serialize_qos`. -/
def serializeQos (q : TopicQoS) : Str :=
  "reliability: ".toList ++ yamlBool q.reliable ++ "\ndurability: ".toList ++
    yamlBool q.transientLocal ++ "\nownership: ".toList ++ yamlBool q.ownership ++
    "\nkeyed: ".toList ++ yamlBool q.keyed

def DdsTopic.info (t : DdsTopic) : TopicInfo := ⟨t.typeName, serializeQos t.qos⟩

def RpcTopic.info (t : RpcTopic) : ServiceInfo := ⟨t.requestTopic.info, t.replyTopic.info⟩

def RpcAction.info (a : RpcAction) : ActionInfo :=
  ⟨a.goal.info, a.result.info, a.cancel.info, a.feedback.info, a.status.info⟩

def addTopic (env : Env) (topic : DdsTopic) : M Unit :=
  notify env.callbacks.topicNotification (.topicNotification topic.topicName topic.info)

def addService (env : Env) (service : RpcTopic) : M Unit :=
  notify env.callbacks.serviceNotification
    (.serviceNotification service.serviceName service.info)

def addAction (env : Env) (action : RpcAction) : M Unit :=
  notify env.callbacks.actionNotification (.actionNotification action.actionName action.info)

/-- Enter a discovered topic and notify what it completes. False when the object just
completed cannot be read, for which `create_reader` gives a blank reader. -/
def notifyDiscovery (env : Env) (info : RpcInfo) (topic : DdsTopic) : M Bool := do
  match info.rpcType with
  | .none =>
    addTopic env topic
    return true
  | .service =>
    if ← onParticipant (·.serviceDiscovered info topic) then
      match ← readParticipant (·.getService info.serviceName) with
      | .ok service =>
        addService env service
        return true
      | .error _ => return false
    else return true
  | .action =>
    if ← onParticipant (·.actionDiscovered info topic) then
      match ← readParticipant (·.getAction info.actionName) with
      | .ok action =>
        addAction env action
        return true
      | .error _ => return false
    else return true

/-- The reader made for a topic: for requests and replies one that knows its topic. -/
def makeReader (env : Env) (info : RpcInfo) (topic : DdsTopic) : Reader :=
  if info.serviceType ≠ .none then ⟨true, topic⟩ else ⟨false, env.internalReaderTopic⟩

/-- `create_reader`; no reader stands for a blank one. -/
def createReader (env : Env) (topic : DdsTopic) : M (Option Reader) := do
  if env.isTypeObjectTopic topic then return none
  else
    let info := RpcInfo.ofTopic topic.topicName
    -- topics that the enabler itself announced are not notified
    let ok ← if topic.discoverer ≠ env.id then notifyDiscovery env info topic else pure true
    if ok then
      onParticipant fun p => ((), p.setReader topic (makeReader env info topic))
      return some (makeReader env info topic)
    else return none

/-- The wait of `create_topic_writer_nts_`: the discovery thread may create the reader of the
simulated endpoint, and then the reader is looked up. -/
def createTopicWriter (env : Env) (topic : DdsTopic) :
    M (Endpoint × Option (TopicKey × Reader)) := do
  let edp ← onParticipant (·.simulateEndpoint topic)
  if env.readerCreated topic then
    discard <| createReader env { topic with discoverer := env.id }
  let reader ← readParticipant (·.lookupReader topic.topicName)
  return (edp, reader)

/-- The service with its request endpoint, if there was no reader and one was created. -/
def createServiceRequestWriter (env : Env) (service : ServiceDiscovered) :
    M (Option ServiceDiscovered) := do
  match ← readParticipant (·.lookupReader service.topicRequest.topicName) with
  | some _ => return none
  | none =>
    match ← createTopicWriter env service.topicRequest with
    | (edp, some _) => return some { service with endpointRequest := some edp }
    | (_, none) => return none

/-! ### Queries -/

def fillTopicStruct (env : Env) (topicName : Str) (info : TopicInfo) :
    M (Option DdsTopic) := do
  let qos := if info.serializedQos.isEmpty then some {} else env.deserializeQos info.serializedQos
  match qos with
  | none => return none
  | some qos =>
    match ← getTypeIdentifier env info.typeName with
    | none => return none
    | some typeIdentifier =>
      return some { topicName, typeName := info.typeName, qos, typeIdentifier }

def fillServiceType (env : Env) (info : ServiceInfo) (service : ServiceDiscovered)
    (protocol : Protocol) : M (Option ServiceDiscovered) := do
  match requestTopic protocol service.serviceName, replyTopic protocol service.serviceName with
  | some requestName, some replyName =>
    match ← fillTopicStruct env requestName info.request with
    | none => return none
    | some request =>
      match ← fillTopicStruct env replyName info.reply with
      | none => return none
      | some reply =>
        let s := ((service.addTopic request .request).2.addTopic reply .reply).2
        if s.fullyDiscovered then return some { s with enablerAsServer := true }
        else return none
  | _, _ => return none

def queryTopic (env : Env) (topicName : Str) : M (Option DdsTopic) :=
  match env.callbacks.topicQuery with
  | none => return none
  | some query =>
    match query topicName with
    | none => return none
    | some info => fillTopicStruct env topicName info

def queryService (env : Env) (service : ServiceDiscovered) (protocol : Protocol) :
    M (Option ServiceDiscovered) :=
  match env.callbacks.serviceQuery with
  | none => return none
  | some query =>
    match query service.serviceName with
    | none => return none
    | some info => fillServiceType env info service protocol

def setService (name : Str) (service : ServiceDiscovered) : M Unit :=
  onParticipant fun p => ((), { p with services := p.services.set name service })

def insertService (name : Str) (service : ServiceDiscovered) : M Unit :=
  onParticipant fun p => ((), { p with services := p.services.insertOrAssign name service })

def eraseService (name : Str) : M Unit :=
  onParticipant fun p =>
    ((), if (p.services.find name).isSome then { p with services := p.services.erase name }
         else p)

/-- One of the three services of an announced action. -/
def announceActionService (env : Env) (info : ServiceInfo) (name : Str) (protocol : Protocol) :
    M (Option WeakRef) := do
  match ← fillServiceType env info { serviceName := name, protocol } protocol with
  | none => return none
  | some service =>
    match ← createServiceRequestWriter env service with
    | none => return none
    | some service =>
      insertService name service
      return some (← readParticipant (·.services.weak name))

/-- The feedback or status topic of an announced action: the writer is created unless a reader
is found under the name `lookedUp`. -/
def announceActionTopic (env : Env) (info : TopicInfo) (topicName lookedUp : Str) :
    M (Option DdsTopic) := do
  match ← fillTopicStruct env topicName info with
  | none => return none
  | some topic =>
    match ← readParticipant (·.lookupReader lookedUp) with
    | some _ => return some topic
    | none =>
      match ← createTopicWriter env topic with
      | (_, some _) => return some topic
      | (_, none) => return none

/-- The services of the action and then its topics, in the order of `query_action_nts_`. -/
def queryActionParts (env : Env) (info : ActionInfo) (action : ActionDiscovered)
    (protocol : Protocol) : M (Option ActionDiscovered) := do
  let name := action.actionName
  match ← announceActionService env info.goal (name ++ actionGoalSuffix) protocol with
  | none => return none
  | some goal =>
  match ← announceActionService env info.cancel (name ++ actionCancelSuffix) protocol with
  | none => return none
  | some cancel =>
  match ← announceActionService env info.result (name ++ actionResultSuffix) protocol with
  | none => return none
  | some result =>
  match topicPrefix protocol with
  | none => return none
  | some pre =>
    let feedbackName := pre ++ name ++ actionFeedbackSuffix
    match ← announceActionTopic env info.feedback feedbackName feedbackName with
    | none => return none
    | some feedback =>
      -- the reader is looked up under the name of `action.status`, not yet filled in
      match ← announceActionTopic env info.status (pre ++ name ++ actionStatusSuffix)
          action.status.topicName with
      | none => return none
      | some status =>
        return some { action with
          goal := some goal, cancel := some cancel, result := some result
          feedback, feedbackDiscovered := true, status, statusDiscovered := true
          fullyDiscovered := true, enablerAsServer := true }

def queryAction (env : Env) (action : ActionDiscovered) (protocol : Protocol) :
    M (Option ActionDiscovered) :=
  match env.callbacks.actionQuery with
  | none => return none
  | some query =>
    match query action.actionName with
    | none => return none
    | some info => do
      eraseService (action.actionName ++ actionGoalSuffix)
      eraseService (action.actionName ++ actionCancelSuffix)
      eraseService (action.actionName ++ actionResultSuffix)
      queryActionParts env info action protocol

/-! ### Announcements -/

def announceService (env : Env) (serviceName : Str) (protocol : Protocol) : M Bool := do
  match ← readParticipant (·.services.find serviceName) with
  | some s =>
    if s.enablerAsServer then return false
    else
      setService serviceName { s with enablerAsServer := true }
      return true
  | none =>
    match ← queryService env { serviceName, protocol } protocol with
    | none => return false
    | some service =>
      match ← createServiceRequestWriter env service with
      | none => return false
      | some service =>
        insertService serviceName service
        return true

def revokeService (serviceName : Str) : M Bool :=
  onParticipant (·.revokeServiceNts serviceName)

def getServiceProtocol (serviceName : Str) : M Protocol :=
  readParticipant fun p =>
    match p.services.find serviceName with
    | some s => s.protocol
    | none => .unknown

/-- Mark the action and its three services as served by the enabler. -/
def Participant.reannounce (p : Participant) (actionName : Str) (a : ActionDiscovered)
    (goal result cancel : ServiceDiscovered) : Participant :=
  { p with
    services :=
      ((p.services.set goal.serviceName { goal with enablerAsServer := true }).set
        result.serviceName { result with enablerAsServer := true }).set
        cancel.serviceName { cancel with enablerAsServer := true }
    actions := p.actions.insert actionName { a with enablerAsServer := true } }

/-- The end of `announce_action`: the action is queried and entered anew. -/
def announceNewAction (env : Env) (actionName : Str) (protocol : Protocol) : M Bool := do
  match ← queryAction env { actionName, protocol } protocol with
  | none => return false
  | some action =>
    onParticipant fun p => ((), p.setAction actionName action)
    return true

def announceAction (env : Env) (actionName : Str) (protocol : Protocol) : M Bool := do
  if protocol ≠ .ros2 then return false
  else
    let p ← readParticipant id
    match p.actions.lookup actionName with
    | none => announceNewAction env actionName protocol
    | some a =>
      if a.enablerAsServer then return false
      else
        match p.services.lock a.goal, p.services.lock a.result, p.services.lock a.cancel with
        | some goal, some result, some cancel =>
          onParticipant fun p => ((), p.reannounce actionName a goal result cancel)
          return true
        | _, _, _ =>
          onParticipant fun p => ((), { p with actions := p.actions.erase actionName })
          announceNewAction env actionName protocol

def revokeAction (actionName : Str) : M Bool := onParticipant (·.revokeAction actionName)

/-! ### Publication -/

/-- The end of `publish`: the sample is made and handed to the reader. -/
def publishSample (env : Env) (topicName typeName : Str) (json : JsonText) : M Bool := do
  if (← readHandler (·.getSerializedData env typeName json)) && env.getPayload then
    emit (.published topicName json)
    return true
  else return false

def publish (env : Env) (topicName : Str) (json : JsonText) : M Bool := do
  if topicName.isEmpty then return false
  else
    match ← readParticipant (·.lookupReader topicName) with
    | some (key, _) => publishSample env topicName key.2 json
    | none =>
      match ← queryTopic env topicName with
      | none => return false
      | some topic =>
        match ← createTopicWriter env topic with
        | (_, none) => return false
        | (_, some _) => publishSample env topicName topic.typeName json

/-- Every check of `publish_rpc`, up to the sample being made. -/
def State.rpcPublishable (s : State) (env : Env) (topicName : Str) (json : JsonText) : Bool :=
  let info := RpcInfo.ofTopic topicName
  if info.serviceType = .none then false
  else
    match s.participant.services.find info.serviceName with
    | none => false
    | some service =>
      if !service.externalServer && info.serviceType = .request then false
      else
        match s.participant.lookupReader topicName, service.getTopic info.serviceType with
        | some (key, reader), some topic =>
          -- another kind of reader is cast to a null pointer
          reader.isRpc && key.2 = topic.typeName &&
            s.handler.getSerializedData env key.2 json && env.getPayload
        | _, _ => false

def publishRpc (env : Env) (topicName : Str) (json : JsonText) (requestId : Nat) : M Bool := do
  if (← get).rpcPublishable env topicName json then
    emit (.publishedRpc topicName json requestId)
    return true
  else return false

@[simp] lemma publishRpc_run (env : Env) (topicName : Str) (json : JsonText) (requestId : Nat)
    (s : State) :
    (publishRpc env topicName json requestId).run s =
      .ok (s.rpcPublishable env topicName json)
        (if s.rpcPublishable env topicName json then
          s.log [.publishedRpc topicName json requestId] else s) := by
  unfold publishRpc
  simp only [EStateM.run_bind, EStateM.run_get]
  split <;> simp_all

end DdsEnabler
