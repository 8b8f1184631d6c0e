import DdsEnabler.Uses
import DdsEnabler.Notices

/-!
Enablers that talk to each other.

Every party of the network is an enabler with its own user. What one publishes may be received by
any other, once, several times or never, and in any order; a reply goes to the party whose request
it answers. The steps of a party are the pieces of its calls that nothing of the party comes in
between: sending a request takes one step that draws its identifier and one that publishes it, and
for a goal a third that stores it. What a call checks before its last piece may have changed since,
so the steps do not check it again.
-/

namespace DdsEnabler

open Exec Runs RpcUtils

/-! ### What a user asks for -/

/-- A request for another party. The protocol of a cancel request is that of its goal. -/
inductive Request
  | service (serviceName : Str) (json : JsonText) (protocol : Protocol)
  | goal (actionName : Str) (json : JsonText) (goalId : UUID) (protocol : Protocol)
  | cancel (actionName : Str) (goalId : UUID) (timestamp : Int) (protocol : Protocol)

namespace Request

def serviceName : Request → Str
  | .service serviceName _ _ => serviceName
  | .goal actionName _ _ _ => actionName ++ actionGoalSuffix
  | .cancel actionName _ _ _ => actionName ++ actionCancelSuffix

def protocol : Request → Protocol
  | .service _ _ protocol => protocol
  | .goal _ _ _ protocol => protocol
  | .cancel _ _ _ protocol => protocol

/-- What is sent; a goal that is no JSON text throws. -/
def message : Request → Except Exc JsonText
  | .service _ json _ => .ok json
  | .goal _ json goalId _ => (createGoalRequestMsg json goalId).map .doc
  | .cancel _ goalId timestamp _ => .ok (.doc (createCancelRequestMsg goalId timestamp))

end Request

/-- A sample for whoever reads its topic. The protocol and the stamp are those of the goal. -/
inductive Publication
  | topic (topicName : Str) (json : JsonText)
  | feedback (actionName : Str) (json : JsonText) (goalId : UUID) (protocol : Protocol)
  | status (actionName : Str) (goalId : UUID) (statusCode : StatusCode) (goalAcceptedStamp : Int)
      (protocol : Protocol)

namespace Publication

def topicName : Publication → Option Str
  | .topic topicName _ => some topicName
  | .feedback actionName _ _ protocol =>
    (topicPrefix protocol).map (· ++ actionName ++ actionFeedbackSuffix)
  | .status actionName _ _ _ protocol =>
    (topicPrefix protocol).map (· ++ actionName ++ actionStatusSuffix)

def message : Publication → Except Exc JsonText
  | .topic _ json => .ok json
  | .feedback _ json goalId _ => (createFeedbackMsg json goalId).map .doc
  | .status _ goalId statusCode goalAcceptedStamp _ =>
    .ok (.doc (createStatusMsg goalId statusCode goalAcceptedStamp))

end Publication

/-! ### Parties -/

/-- A request with its identifier, its topic and what is sent. -/
structure Outgoing where
  request : Request
  topicName : Str
  json : JsonText
  requestId : Nat

/-- What is known of a received request beside the enabler: the identifier written into it, who
sent it, and under which of the sender's identifiers. -/
structure Receipt (ι : Type) where
  number : Nat
  client : ι
  requestId : Nat

/-- An enabler, the requests it is about to publish, those published that are about to be stored,
and the receipts of those it has received. -/
structure Party (ι : Type) where
  state : State := {}
  drawn : List Outgoing := []
  sent : List Outgoing := []
  receipts : List (Receipt ι) := []

/-- What discovery tells of topics, services, actions and types. -/
def Event.isDiscovery : Event → Bool
  | .writeSchema .. | .typeNotification .. | .topicNotification .. => true
  | .serviceNotification .. => true
  | .actionNotification .. | .typeRegistered _ => true
  | _ => false

inductive PartyOp
  /-- An identifier is drawn for a request. -/
  | draw (request : Request)
  /-- A request that has its identifier is published. -/
  | publishRpc (env : Env) (k : Nat)
  /-- A goal that has been published is stored. -/
  | storeGoal (env : Env) (k : Nat)
  | sendServiceReply (env : Env) (serviceName : Str) (json : JsonText) (requestId : Nat)
  | sendActionCancelGoalReply (env : Env) (actionName : Str) (goalIds : List UUID)
      (cancelCode : CancelCode) (requestId : Nat)
  | sendActionResult (env : Env) (actionName : Str) (goalId : UUID) (statusCode : StatusCode)
      (json : JsonText)
  | publishSample (env : Env) (typeName : Str) (sample : Publication)
  /-- Discovery, announcements and types, whatever they leave of the participant and the types. -/
  | others (participant : Participant) (schemas : Tables.Table Str (Nat × DynType))
      (notices : List Event)

namespace Party

variable {ι : Type}

/-- The request on its way, if it can be made at all. -/
def drawRequest (p : Party ι) (request : Request) : Party ι :=
  match request.message, requestTopic request.protocol request.serviceName with
  | .ok json, some topicName =>
    { p with
      state := after getNewRequestId p.state
      drawn := p.drawn ++ [⟨request, topicName, json, p.state.handler.nextRequestId.1⟩] }
  | _, _ => p

def publishDrawn (p : Party ι) (env : Env) (k : Nat) : Party ι :=
  match p.drawn[k]? with
  | none => p
  | some r =>
    { p with
      state := after (publishRpc env r.topicName r.json r.requestId) p.state
      drawn := p.drawn.eraseIdx k
      sent := if p.state.rpcPublishable env r.topicName r.json then p.sent ++ [r] else p.sent }

def storeSent (p : Party ι) (env : Env) (k : Nat) : Party ι :=
  match p.sent[k]? with
  | none => p
  | some r =>
    match r.request with
    | .goal actionName _ goalId protocol =>
      { p with
        state := after (storeGoal env actionName goalId r.requestId protocol) p.state
        sent := p.sent.eraseIdx k }
    | _ => { p with sent := p.sent.eraseIdx k }

def publishTopic (p : Party ι) (env : Env) (typeName : Str) (sample : Publication) : Party ι :=
  match sample.topicName, sample.message with
  | some topicName, .ok json =>
    { p with state := after (publishSample env topicName typeName json) p.state }
  | _, _ => p

def act (p : Party ι) : PartyOp → Party ι
  | .draw request => p.drawRequest request
  | .publishRpc env k => p.publishDrawn env k
  | .storeGoal env k => p.storeSent env k
  | .sendServiceReply env serviceName json requestId =>
    { p with state := after (DdsEnabler.sendServiceReply env serviceName json requestId) p.state }
  | .sendActionCancelGoalReply env actionName goalIds cancelCode requestId =>
    { p with state := after (DdsEnabler.sendActionCancelGoalReply env actionName goalIds cancelCode
        requestId) p.state }
  | .sendActionResult env actionName goalId statusCode json =>
    { p with state :=
        after (DdsEnabler.sendActionResult env actionName goalId statusCode json) p.state }
  | .publishSample env typeName sample => p.publishTopic env typeName sample
  | .others participant schemas notices =>
    { p with state := State.log { p.state with
        participant, handler := { p.state.handler with schemas } } notices }

/-- A sample is received from a party. The request that it holds may have gotten an identifier. -/
def receive (p : Party ι) (sender : ι) (number : Nat) (env : Env) (topic : DdsTopic)
    (data : Sample) : Party ι :=
  let t := after (addData env topic data) p.state
  { p with
    state := t
    receipts := p.receipts ++ (sentIds (newEvents p.state t)).map fun n => ⟨n, sender, number⟩ }

end Party

/-! ### The network -/

abbrev Network (ι : Type) := ι → Party ι

inductive NetOp (ι : Type)
  | act (i : ι) (op : PartyOp)
  /-- The receiver gets a sample of the sender. The number is the identifier that a request or a
  reply was published under. -/
  | deliver (sender receiver : ι) (number : Nat) (env : Env) (topic : DdsTopic) (data : Sample)

namespace Network

variable {ι : Type} [DecidableEq ι]

def step (N : Network ι) : NetOp ι → Network ι
  | .act i op => Function.update N i ((N i).act op)
  | .deliver sender receiver number env topic data =>
    Function.update N receiver ((N receiver).receive sender number env topic data)

def start : Network ι := fun _ => {}

/-- The proviso on a party: its user leaves the services of actions to the calls for actions,
replies to requests that it has been told of, publishes on plain topics, and gives no actions of
the DDS protocol names that look like those of ROS 2. -/
def FitsParty (s : State) : PartyOp → Prop
  | .draw (.service serviceName _ _) => RpcInfo.actionPart serviceName = none
  | .sendServiceReply _ serviceName _ requestId =>
    ∃ json time, .serviceRequestNotification serviceName json requestId time ∈ s.trace
  | .publishSample _ _ (.topic topicName _) => (RpcInfo.ofTopic topicName).rpcType = .none
  | .publishSample _ _ (.feedback actionName _ _ protocol) =>
    protocol = .dds → RpcInfo.looksRos actionName = false
  | .publishSample _ _ (.status actionName _ statusCode _ protocol) =>
    statusCode.Valid ∧ (protocol = .dds → RpcInfo.looksRos actionName = false)
  | .others _ _ notices => ∀ e ∈ notices, e.isDiscovery
  | _ => True

/-- The sender has published the document on the topic: as a sample, as a request under the number,
or as a reply under it to the request of the receiver that the sample names. -/
def Carries (N : Network ι) (sender receiver : ι) (number : Nat) (topicName : Str) (data : Sample)
    (doc : Json) : Prop :=
  match (RpcInfo.ofTopic topicName).serviceType with
  | .none => .published topicName (.doc doc) ∈ (N sender).state.trace
  | .request => .publishedRpc topicName (.doc doc) number ∈ (N sender).state.trace
  | .reply =>
    .publishedRpc topicName (.doc doc) number ∈ (N sender).state.trace ∧
      ⟨number, receiver, data.relatedSequenceNumber⟩ ∈ (N sender).receipts

/-- The proviso on the steps: what is received has been published, and says the same in the type
that the receiver knows for the topic. -/
def Fits (N : Network ι) : NetOp ι → Prop
  | .act i op => FitsParty (N i).state op
  | .deliver sender receiver number env topic data => ∃ doc,
    N.Carries sender receiver number topic.topicName data doc ∧
      ∀ typeId dynType,
        (N receiver).state.handler.schemas.lookup topic.typeName = some (typeId, dynType) →
          env.decode dynType data.payload = some doc

end Network

end DdsEnabler
