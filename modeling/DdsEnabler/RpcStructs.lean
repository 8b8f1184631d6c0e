import DdsEnabler.Names
import DdsEnabler.Lib.Tables

/-!
The records the enabler keeps of topics, services, actions and goals.
-/

namespace DdsEnabler

open Tables

/-- A goal identifier: sixteen bytes. -/
structure UUID where
  bytes : List UInt8
  size : bytes.length = 16
  deriving DecidableEq

/-- `UUID()`, the null identifier. -/
def UUID.null : UUID := ⟨List.replicate 16 0, by simp⟩

/-- A status code; `other` is a number cast to the enumeration without being in it. -/
inductive StatusCode
  | unknown | accepted | executing | canceling | succeeded | canceled | aborted | rejected
  | timeout | failed | cancelRequestFailed
  | other (n : Int)
  deriving DecidableEq

namespace StatusCode

/-- The number of a code. -/
def toInt : StatusCode → Int
  | .unknown => 0
  | .accepted => 1
  | .executing => 2
  | .canceling => 3
  | .succeeded => 4
  | .canceled => 5
  | .aborted => 6
  | .rejected => 7
  | .timeout => 8
  | .failed => 9
  | .cancelRequestFailed => 10
  | .other n => n

/-- The code of a number. -/
def ofInt : Int → StatusCode
  | 0 => .unknown
  | 1 => .accepted
  | 2 => .executing
  | 3 => .canceling
  | 4 => .succeeded
  | 5 => .canceled
  | 6 => .aborted
  | 7 => .rejected
  | 8 => .timeout
  | 9 => .failed
  | 10 => .cancelRequestFailed
  | n => .other n

end StatusCode

inductive CancelCode | none | rejected | unknownGoalId | goalTerminated
  deriving DecidableEq

/-- The number of a code. -/
def CancelCode.toInt : CancelCode → Int
  | .none => 0
  | .rejected => 1
  | .unknownGoalId => 2
  | .goalTerminated => 3

/-- Why an action is erased: a final status or a result came in, or it is forced. -/
inductive ActionEraseReason | finalStatus | result | forced
  deriving DecidableEq

/-- The parts of a topic's QoS that the enabler serializes. -/
structure TopicQoS where
  reliable : Bool := false
  transientLocal : Bool := false
  ownership : Bool := false
  keyed : Bool := false
  deriving DecidableEq

/-- A DDS topic. The discoverer is the participant that found it; `typeIdentifier` stands for
the type identifiers it carries. -/
structure DdsTopic where
  topicName : Str := []
  typeName : Str := []
  qos : TopicQoS := {}
  typeIdentifier : Nat := 0
  discoverer : Str := []
  deriving DecidableEq

structure RpcTopic where
  serviceName : Str
  requestTopic : DdsTopic
  replyTopic : DdsTopic
  deriving DecidableEq

structure RpcAction where
  actionName : Str
  goal : RpcTopic
  result : RpcTopic
  cancel : RpcTopic
  feedback : DdsTopic
  status : DdsTopic
  deriving DecidableEq

/-- An endpoint in the discovery database: its topic and its guid. -/
structure Endpoint where
  topic : DdsTopic
  guid : Nat
  deriving DecidableEq

structure TopicInfo where
  typeName : Str
  serializedQos : Str

structure ServiceInfo where
  request : TopicInfo
  reply : TopicInfo

structure ActionInfo where
  goal : ServiceInfo
  result : ServiceInfo
  cancel : ServiceInfo
  feedback : TopicInfo
  status : TopicInfo

/-! ### Goals -/

structure ActionRequestInfo where
  actionName : Str
  protocol : Protocol
  goalRequestId : Nat := 0
  resultRequestId : Nat := 0
  goalAcceptedStamp : Int
  result : JsonText := .other []
  resultReceived : Bool := false
  finalStatusReceived : Bool := false

namespace ActionRequestInfo

def setRequest (i : ActionRequestInfo) (requestId : Nat) : ActionType → ActionRequestInfo
  | .goal => { i with goalRequestId := requestId }
  | .result => { i with resultRequestId := requestId }
  | _ => i

/-- The constructor; `now` is the clock. -/
def create (actionName : Str) (actionType : ActionType) (requestId : Nat) (protocol : Protocol)
    (now : Int) : ActionRequestInfo :=
  setRequest { actionName, protocol, goalAcceptedStamp := now } requestId actionType

/-- The identifier of a request; the other types throw. -/
def getRequest (i : ActionRequestInfo) : ActionType → Except Exc Nat
  | .goal => .ok i.goalRequestId
  | .result => .ok i.resultRequestId
  | _ => .error .runtimeError

def setResult (i : ActionRequestInfo) (str : JsonText) : Bool × ActionRequestInfo :=
  if str.isEmpty || !i.result.isEmpty then (false, i)  -- already set, or nothing to set
  else (true, { i with result := str })

/-- Note the reason; true when nothing more is expected of the goal. -/
def erase (i : ActionRequestInfo) (reason : ActionEraseReason) : Bool × ActionRequestInfo :=
  let i' := match reason with
    | .finalStatus => { i with finalStatusReceived := true }
    | .result => { i with resultReceived := true }
    | .forced => { i with finalStatusReceived := true, resultReceived := true }
  (i'.finalStatusReceived && i'.resultReceived, i')

/-! A request touches its own identifier only, and the rest touches no identifier. -/

lemma getRequest_create {actionName : Str} {ty ty' : ActionType} {id n : Nat} {p : Protocol}
    {now : Int} (h : (create actionName ty id p now).getRequest ty' = .ok n) (hn : n ≠ 0) :
    ty = ty' ∧ id = n := by
  cases ty <;> cases ty' <;> simp_all [create, setRequest, getRequest]

lemma getRequest_setRequest {i : ActionRequestInfo} {ty ty' : ActionType} {id n : Nat}
    (h : (i.setRequest id ty).getRequest ty' = .ok n) :
    i.getRequest ty' = .ok n ∨ ty = ty' ∧ id = n := by
  cases ty <;> cases ty' <;> simp_all [setRequest, getRequest]

@[simp] lemma getRequest_setResult (i : ActionRequestInfo) (str : JsonText) (ty : ActionType) :
    (i.setResult str).2.getRequest ty = i.getRequest ty := by
  unfold setResult
  split <;> cases ty <;> rfl

@[simp] lemma getRequest_erase (i : ActionRequestInfo) (reason : ActionEraseReason)
    (ty : ActionType) : (i.erase reason).2.getRequest ty = i.getRequest ty := by
  cases reason <;> cases ty <;> rfl

end ActionRequestInfo

/-! ### Services -/

structure ServiceDiscovered where
  serviceName : Str
  protocol : Protocol
  topicRequest : DdsTopic := {}
  requestDiscovered : Bool := false
  topicReply : DdsTopic := {}
  replyDiscovered : Bool := false
  rpcTopic : Option RpcTopic := none
  fullyDiscovered : Bool := false
  endpointRequest : Option Endpoint := none
  enablerAsServer : Bool := false
  externalServer : Bool := false
  deriving DecidableEq

namespace ServiceDiscovered

/-- The end of `add_topic`: the service is complete when both of its topics are there. -/
def complete (s : ServiceDiscovered) : Bool × ServiceDiscovered :=
  if s.requestDiscovered && s.replyDiscovered then
    if s.serviceName.isEmpty then (false, s)
    else (true, { s with fullyDiscovered := true,
                         rpcTopic := some ⟨s.serviceName, s.topicRequest, s.topicReply⟩ })
  else (false, s)

def addTopic (s : ServiceDiscovered) (topic : DdsTopic) :
    ServiceType → Bool × ServiceDiscovered
  | .request =>
    if s.requestDiscovered then (false, s)
    else complete { s with topicRequest := topic, requestDiscovered := true }
  | _ =>
    if s.replyDiscovered then (false, s)
    else complete { s with topicReply := topic, replyDiscovered := true }

def removeTopic (s : ServiceDiscovered) : ServiceType → ServiceDiscovered
  | .request =>
    { s with requestDiscovered := false, topicRequest := {}, fullyDiscovered := false,
             rpcTopic := none }
  | _ =>
    { s with replyDiscovered := false, topicReply := {}, fullyDiscovered := false,
             rpcTopic := none }

def getService (s : ServiceDiscovered) : Except Exc RpcTopic :=
  match s.fullyDiscovered, s.rpcTopic with
  | true, some t => .ok t
  | _, _ => .error .runtimeError

def getTopic (s : ServiceDiscovered) : ServiceType → Option DdsTopic
  | .request => if s.requestDiscovered then some s.topicRequest else none
  | .reply => if s.replyDiscovered then some s.topicReply else none
  | .none => none

end ServiceDiscovered

/-! ### Pointers to services -/

/-- A weak pointer to a service: its name, and how many objects had gone from under that name
when the pointer was taken. -/
structure WeakRef where
  name : Str
  generation : Nat
  deriving DecidableEq

/-- The map of services. It owns the objects: a weak pointer has expired once the object it
was taken to has been erased or replaced, which is counted for each name. -/
structure ServiceMap where
  services : Table Str ServiceDiscovered := ∅
  generations : Table Str Nat := ∅

namespace ServiceMap

def find (m : ServiceMap) (name : Str) : Option ServiceDiscovered := m.services.lookup name

def generation (m : ServiceMap) (name : Str) : Nat := (m.generations.lookup name).getD 0

/-- Another object may come in the place of the one there was. -/
def expire (m : ServiceMap) (name : Str) : ServiceMap :=
  { m with generations := m.generations.insert name (m.generation name + 1) }

/-- Change the object under a name; for `try_emplace`, the object put there. -/
def set (m : ServiceMap) (name : Str) (s : ServiceDiscovered) : ServiceMap :=
  { m with services := m.services.insert name s }

def erase (m : ServiceMap) (name : Str) : ServiceMap :=
  { m.expire name with services := m.services.erase name }

def insertOrAssign (m : ServiceMap) (name : Str) (s : ServiceDiscovered) : ServiceMap :=
  (m.expire name).set name s

/-- A weak pointer to the object under a name. -/
def weak (m : ServiceMap) (name : Str) : WeakRef := ⟨name, m.generation name⟩

/-- `weak_ptr::lock`. -/
def lock (m : ServiceMap) : Option WeakRef → Option ServiceDiscovered
  | some w => if m.generation w.name = w.generation then m.find w.name else none
  | none => none

variable (m : ServiceMap) (name name' : Str) (s : ServiceDiscovered)

@[simp] lemma find_set :
    (m.set name s).find name' = if name' = name then some s else m.find name' :=
  lookup_insert _ _ _ _

@[simp] lemma find_erase :
    (m.erase name).find name' = if name' = name then none else m.find name' :=
  lookup_erase _ _ _

@[simp] lemma find_expire : (m.expire name).find name' = m.find name' := rfl

@[simp] lemma find_insertOrAssign :
    (m.insertOrAssign name s).find name' = if name' = name then some s else m.find name' := by
  simp [insertOrAssign]

lemma generation_expire :
    (m.expire name).generation name' =
      if name' = name then m.generation name + 1 else m.generation name' := by
  unfold expire generation
  rw [lookup_insert]
  split <;> simp

@[simp] lemma generation_set : (m.set name s).generation name' = m.generation name' := rfl

lemma generation_insertOrAssign :
    (m.insertOrAssign name s).generation name' =
      if name' = name then m.generation name + 1 else m.generation name' :=
  generation_expire m name name'

@[simp] lemma lock_weak : m.lock (some (m.weak name)) = m.find name := by
  simp [lock, weak]

end ServiceMap

/-! ### Actions -/

structure ActionDiscovered where
  actionName : Str
  protocol : Protocol
  goal : Option WeakRef := none
  result : Option WeakRef := none
  cancel : Option WeakRef := none
  feedback : DdsTopic := {}
  feedbackDiscovered : Bool := false
  status : DdsTopic := {}
  statusDiscovered : Bool := false
  fullyDiscovered : Bool := false
  enablerAsServer : Bool := false
  externalServer : Bool := false
  deriving DecidableEq

namespace ActionDiscovered

def checkFullyDiscovered (services : ServiceMap) (a : ActionDiscovered) :
    Bool × ActionDiscovered :=
  match services.lock a.goal, services.lock a.result,
      services.lock a.cancel with
  | some g, some r, some c =>
    if g.fullyDiscovered && r.fullyDiscovered && c.fullyDiscovered && a.feedbackDiscovered &&
        a.statusDiscovered
    then (true, { a with fullyDiscovered := true })
    else (false, { a with fullyDiscovered := false })
  | _, _, _ => (false, { a with fullyDiscovered := false })

def addService (a : ActionDiscovered) (service : WeakRef) : ActionType → Bool × ActionDiscovered
  | .goal => (true, { a with goal := some service })
  | .result => (true, { a with result := some service })
  | .cancel => (true, { a with cancel := some service })
  | _ => (false, a)

def addTopic (a : ActionDiscovered) (topic : DdsTopic) : ActionType → Bool × ActionDiscovered
  | .feedback => (true, { a with feedback := topic, feedbackDiscovered := true })
  | .status => (true, { a with status := topic, statusDiscovered := true })
  | _ => (false, a)

def getAction (services : ServiceMap) (a : ActionDiscovered) :
    Except Exc RpcAction :=
  match a.fullyDiscovered, services.lock a.goal, services.lock a.result,
      services.lock a.cancel with
  | true, some g, some r, some c =>
    match g.getService, r.getService, c.getService with
    | .ok goal, .ok result, .ok cancel =>
      .ok ⟨a.actionName, goal, result, cancel, a.feedback, a.status⟩
    | _, _, _ => .error .runtimeError
  | _, _, _, _ => .error .runtimeError

end ActionDiscovered

end DdsEnabler
