import DdsEnabler.Network

/-!
Where the events of a network come from.

Each event in the trace of a party has a cause: a step of its user, a request or a reply of another
party that it has received, or an earlier event of its own. The causes look back one hop only; what
comes of following them is in the module after this one.
-/

namespace DdsEnabler

open Exec Runs Provenance RpcUtils

/-- The goal in the document of a message. -/
def goalOf (doc : Json) : Except Exc UUID := (doc.index "goal_id".toList).bind jsonToUuid

namespace Network

variable {ι : Type}

/-! ### Requests and replies on their way -/

/-- The party `j` has received, under the identifier `n`, the request that `i` published under
`r`. -/
structure Receives (N : Network ι) (j : ι) (n : Nat) (i : ι) (r : Nat) (topicName : Str)
    (doc : Json) : Prop where
  receipt : ⟨n, i, r⟩ ∈ (N j).receipts
  published : .publishedRpc topicName (.doc doc) r ∈ (N i).state.trace
  request : (RpcInfo.ofTopic topicName).serviceType = .request

/-- The party `j` has published a reply under `n`, which is the identifier it has received the
request `r` of `i` under. -/
structure Answers (N : Network ι) (j : ι) (n : Nat) (i : ι) (r : Nat) (topicName : Str)
    (doc : Json) : Prop where
  receipt : ⟨n, i, r⟩ ∈ (N j).receipts
  published : .publishedRpc topicName (.doc doc) n ∈ (N j).state.trace
  reply : (RpcInfo.ofTopic topicName).serviceType = .reply

/-- The identifier is that of a request for the goal that the party has recorded. -/
def Recorded (N : Network ι) (i : ι) (u : UUID) (r : Nat) (ty : ActionType) : Prop :=
  r ≠ 0 → ∃ actionName protocol time,
    .storedRequest actionName u r ty protocol time ∈ (N i).state.trace

/-- The party has received a reply to its request for a goal, which says `accepted`. -/
structure Decided (N : Network ι) (i : ι) (actionName : Str) (u : UUID) (accepted : Option Bool) :
    Prop where
  reply : ∃ j n r topicName doc msg, N.Answers j n i r topicName doc ∧
    (RpcInfo.ofTopic topicName).IsPart .reply .goal ∧
    (RpcInfo.ofTopic topicName).actionName = actionName ∧
    catchJson ((acceptedOf msg (msg.wrap doc)).map some) none = .ok accepted ∧
    N.Recorded i u r .goal

/-! ### Causes -/

/-- The party has a request for the goal to record: its user has sent the goal, or it has heard that
the goal is accepted. -/
inductive SentFor (w : List (NetOp ι)) (N : Network ι) (i : ι) (actionName : Str) (u : UUID) :
    ActionType → Prop
  | goal {json : JsonText} {protocol : Protocol}
      (h : .act i (.draw (.goal actionName json u protocol)) ∈ w) :
    SentFor w N i actionName u .goal
  | result (h : N.Decided i actionName u (some true)) : SentFor w N i actionName u .result

/-- The events that need no cause: they say what the party does to its own tables. -/
def isInternal : Event → Bool
  | .newRequestId _ | .sentSequenceNumber _ | .resultSet .. | .erasedAction .. => true
  | .sendActionSendGoalReply .. | .sendActionGetResultReply .. => true
  | e => e.isDiscovery

/-- What an event of the party `i` comes from, in the steps `w` taken so far. -/
inductive Cause (w : List (NetOp ι)) (N : Network ι) (i : ι) : Event → Prop
  | internal {e : Event} (h : isInternal e) : Cause w N i e
  -- requests
  | request {q : Request} {topicName : Str} {json : JsonText} {r : Nat}
      (h : .act i (.draw q) ∈ w) (hmsg : q.message = .ok json)
      (ht : requestTopic q.protocol q.serviceName = some topicName)
      (hfits : ∀ serviceName json protocol, q = .service serviceName json protocol →
        RpcInfo.actionPart serviceName = none) :
    Cause w N i (.publishedRpc topicName json r)
  | resultRequest {actionName topicName : Str} {u : UUID} {protocol : Protocol} {r : Nat}
      (ht : requestTopic protocol (actionName ++ actionResultSuffix) = some topicName)
      (h : N.Decided i actionName u (some true)) :
    Cause w N i (.publishedRpc topicName (.doc (createResultRequestMsg u)) r)
  | resultAsked {actionName : Str} {u : UUID} {sent : Bool}
      (h : N.Decided i actionName u (some true)) :
    Cause w N i (.sendActionGetResultRequest actionName u sent)
  | cancelRequest {actionName topicName : Str} {u : UUID} {protocol : Protocol} {r : Nat}
      (ht : requestTopic protocol (actionName ++ actionCancelSuffix) = some topicName) :
    Cause w N i (.publishedRpc topicName (.doc (createCancelRequestMsg u 0)) r)
  -- replies
  | serviceReply {env : Env} {serviceName topicName : Str} {json : JsonText} {n : Nat}
      {protocol : Protocol} (h : .act i (.sendServiceReply env serviceName json n) ∈ w)
      (ht : replyTopic protocol serviceName = some topicName)
      (hasked : ∃ asked time,
        .serviceRequestNotification serviceName asked n time ∈ (N i).state.trace) :
    Cause w N i (.publishedRpc topicName json n)
  | cancelReply {env : Env} {actionName topicName : Str} {goalIds : List UUID} {json : JsonText}
      {cancelCode : CancelCode} {n : Nat} {protocol : Protocol}
      (h : .act i (.sendActionCancelGoalReply env actionName goalIds cancelCode n) ∈ w)
      (ht : replyTopic protocol (actionName ++ actionCancelSuffix) = some topicName)
      (hjson : ∃ goals : List (UUID × Int), (∀ g ∈ goals, g.1 ∈ goalIds) ∧
        json = .doc (createCancelReplyMsg goals cancelCode)) :
    Cause w N i (.publishedRpc topicName json n)
  | goalReply {j : ι} {n r : Nat} {asked topicName : Str} {doc : Json} {u : UUID} {env : Env}
      {topic : DdsTopic} {data : Sample} {protocol : Protocol}
      (h : N.Receives i n j r asked doc) (hpart : (RpcInfo.ofTopic asked).IsPart .request .goal)
      (hu : goalOf doc = .ok u) (hop : .deliver j i r env topic data ∈ w)
      (htopic : topic.topicName = asked)
      (ht : replyTopic protocol ((RpcInfo.ofTopic asked).actionName ++ actionGoalSuffix) =
        some topicName) :
    Cause w N i (.publishedRpc topicName (.doc (createGoalReplyMsg
      (env.goalAnswer (RpcInfo.ofTopic asked).actionName ((data.message topic).wrap doc) u
        data.sourceTimestamp) env.now)) n)
  | resultReply {env : Env} {actionName topicName : Str} {u : UUID} {code : StatusCode}
      {json : JsonText} {reply : Json} {n : Nat} {protocol : Protocol}
      (h : .act i (.sendActionResult env actionName u code json) ∈ w)
      (hreply : createResultReplyMsg code json = .ok reply)
      (ht : replyTopic protocol (actionName ++ actionResultSuffix) = some topicName)
      (hstored : ∃ protocol time,
        .storedRequest actionName u n .result protocol time ∈ (N i).state.trace) :
    Cause w N i (.publishedRpc topicName (.doc reply) n)
  -- samples
  | sample {env : Env} {typeName topicName : Str} {q : Publication} {json : JsonText}
      (h : .act i (.publishSample env typeName q) ∈ w) (hmsg : q.message = .ok json)
      (ht : q.topicName = some topicName)
      (hfits : FitsParty (N i).state (.publishSample env typeName q)) :
    Cause w N i (.published topicName json)
  -- recorded requests
  | sentRecord {actionName topicName : Str} {u : UUID} {r : Nat} {ty : ActionType}
      {protocol protocol' : Protocol} {time : Int} {doc : Json}
      (hpub : .publishedRpc topicName (.doc doc) r ∈ (N i).state.trace)
      (hty : RpcInfo.isServicePart ty)
      (ht : requestTopic protocol' (partName actionName ty) = some topicName)
      (hu : goalOf doc = .ok u) (hwhy : SentFor w N i actionName u ty) :
    Cause w N i (.storedRequest actionName u r ty protocol time)
  | receivedRecord {j : ι} {n r : Nat} {asked : Str} {doc : Json} {u : UUID} {ty : ActionType}
      {protocol : Protocol} {time : Int} (h : N.Receives i n j r asked doc)
      (hpart : (RpcInfo.ofTopic asked).IsPart .request ty) (hu : goalOf doc = .ok u) :
    Cause w N i (.storedRequest (RpcInfo.ofTopic asked).actionName u n ty protocol time)
  -- what the user is told
  | data {j : ι} {msg : Message} {doc : Json} {time : Int}
      (h : .published msg.topic.topicName (.doc doc) ∈ (N j).state.trace)
      (hplain : (RpcInfo.ofTopic msg.topic.topicName).rpcType = .none) :
    Cause w N i (.dataNotification msg.topic.topicName (msg.wrap doc) time)
  | serviceRequest {j : ι} {n r : Nat} {asked : Str} {doc : Json} {msg : Message} {time : Int}
      (h : N.Receives i n j r asked doc) (hservice : (RpcInfo.ofTopic asked).rpcType = .service) :
    Cause w N i (.serviceRequestNotification (RpcInfo.ofTopic asked).serviceName (msg.wrap doc) n
      time)
  | serviceAnswer {j : ι} {n r : Nat} {topicName : Str} {doc : Json} {msg : Message} {time : Int}
      (h : N.Answers j n i r topicName doc)
      (hservice : (RpcInfo.ofTopic topicName).rpcType = .service) :
    Cause w N i (.serviceReplyNotification (RpcInfo.ofTopic topicName).serviceName (msg.wrap doc) r
      time)
  | goalRequest {j : ι} {n r : Nat} {asked : Str} {doc : Json} {msg : Message} {u : UUID}
      {time : Int} (h : N.Receives i n j r asked doc)
      (hpart : (RpcInfo.ofTopic asked).IsPart .request .goal) (hu : goalOf doc = .ok u) :
    Cause w N i (.actionGoalRequestNotification (RpcInfo.ofTopic asked).actionName (msg.wrap doc) u
      time)
  | cancelAsked {j : ι} {n r : Nat} {asked : Str} {doc : Json} {msg : Message} {u : UUID}
      {timestamp time : Int} (h : N.Receives i n j r asked doc)
      (hpart : (RpcInfo.ofTopic asked).IsPart .request .cancel)
      (hu : cancelRequestOf msg (msg.wrap doc) = .ok (u, timestamp)) :
    Cause w N i (.actionCancelRequestNotification (RpcInfo.ofTopic asked).actionName u timestamp n
      time)
  | result {j : ι} {n r : Nat} {topicName : Str} {doc : Json} {msg : Message} {u : UUID}
      {time : Int} (h : N.Answers j n i r topicName doc)
      (hpart : (RpcInfo.ofTopic topicName).IsPart .reply .result) (hu : N.Recorded i u r .result) :
    Cause w N i (.actionResultNotification (RpcInfo.ofTopic topicName).actionName (msg.wrap doc) u
      time)
  | feedback {j : ι} {topicName : Str} {doc json : Json} {msg : Message} {u : UUID} {time : Int}
      (h : .published topicName (.doc doc) ∈ (N j).state.trace)
      (hpart : (RpcInfo.ofTopic topicName).IsPart .none .feedback)
      (hread : feedbackOf msg (msg.wrap doc) = .ok (u, json)) :
    Cause w N i (.actionFeedbackNotification (RpcInfo.ofTopic topicName).actionName json u time)
  | decision {actionName : Str} {u : UUID} {accepted : Option Bool} {time : Int}
      (h : N.Decided i actionName u accepted) :
    Cause w N i (.actionStatusNotification actionName u (goalReplyStatus accepted).1
      (goalReplyStatus accepted).2 time)
  | aborted {actionName : Str} {u : UUID} {time : Int}
      (h : .sendActionGetResultRequest actionName u false ∈ (N i).state.trace) :
    Cause w N i (.actionStatusNotification actionName u .aborted "Action goal aborted" time)
  | cancelled {j : ι} {n r : Nat} {topicName : Str} {doc goals goal : Json} {msg : Message}
      {u : UUID} {code : Int} {time : Int} (h : N.Answers j n i r topicName doc)
      (hpart : (RpcInfo.ofTopic topicName).IsPart .reply .cancel)
      (hcode : returnCodeOf msg (msg.wrap doc) = .ok code)
      (hgoals : (msg.dataOf (msg.wrap doc)).bind (·.index "goals_canceling".toList) = .ok goals)
      (hgoal : goal ∈ goals.elements)
      (hu : (goal.indexConst "goal_id".toList).bind jsonToUuid = .ok u) :
    Cause w N i (.actionStatusNotification (RpcInfo.ofTopic topicName).actionName u
      (cancelReplyStatus code).1 (cancelReplyStatus code).2 time)
  | status {j : ι} {topicName : Str} {doc list status : Json} {msg : Message} {u : UUID}
      {code : StatusCode} {time : Int} (h : .published topicName (.doc doc) ∈ (N j).state.trace)
      (hpart : (RpcInfo.ofTopic topicName).IsPart .none .status)
      (hlist : (msg.dataOf (msg.wrap doc)).bind (·.index "status_list".toList) = .ok list)
      (hstatus : status ∈ list.elements) (hu : statusUuid status = .ok u)
      (hcode : statusCodeOf status = .ok code) :
    Cause w N i (.actionStatusNotification (RpcInfo.ofTopic topicName).actionName u code
      (statusMessage code) time)

/-! ### The system goes on -/

/-- More steps, longer traces, more receipts. -/
structure Grows (x y : List (NetOp ι) × Network ι) : Prop where
  history : x.1 ⊆ y.1
  trace : ∀ i, (x.2 i).state.trace ⊆ (y.2 i).state.trace
  receipts : ∀ i, (x.2 i).receipts ⊆ (y.2 i).receipts

section Grows

variable {x y : List (NetOp ι) × Network ι} (hg : Grows x y) {i j : ι} {n r : Nat}
  {topicName : Str} {doc : Json} {u : UUID}

include hg

lemma Receives.mono (h : x.2.Receives j n i r topicName doc) :
    y.2.Receives j n i r topicName doc :=
  ⟨hg.receipts j h.receipt, hg.trace i h.published, h.request⟩

lemma Answers.mono (h : x.2.Answers j n i r topicName doc) : y.2.Answers j n i r topicName doc :=
  ⟨hg.receipts j h.receipt, hg.trace j h.published, h.reply⟩

lemma Recorded.mono {ty : ActionType} (h : x.2.Recorded i u r ty) : y.2.Recorded i u r ty := by
  intro hr
  obtain ⟨a, p, t, he⟩ := h hr
  exact ⟨a, p, t, hg.trace i he⟩

lemma Decided.mono {actionName : Str} {accepted : Option Bool}
    (h : x.2.Decided i actionName u accepted) : y.2.Decided i actionName u accepted := by
  obtain ⟨j, n, r, topicName, doc, msg, hans, hpart, hname, hread, hrec⟩ := h
  exact ⟨j, n, r, topicName, doc, msg, hans.mono hg, hpart, hname, hread, hrec.mono hg⟩

lemma SentFor.mono {actionName : Str} {ty : ActionType} (h : SentFor x.1 x.2 i actionName u ty) :
    SentFor y.1 y.2 i actionName u ty := by
  cases h with
  | goal h => exact .goal (hg.history h)
  | result h => exact .result (h.mono hg)

lemma Cause.mono {e : Event} (h : Cause x.1 x.2 i e) : Cause y.1 y.2 i e := by
  cases h
  case internal h => exact .internal h
  case request h hmsg ht hfits => exact .request (hg.history h) hmsg ht hfits
  case resultRequest ht h => exact .resultRequest ht (h.mono hg)
  case resultAsked h => exact .resultAsked (h.mono hg)
  case cancelRequest ht => exact .cancelRequest ht
  case serviceReply h ht hasked =>
    obtain ⟨asked, time, he⟩ := hasked
    exact .serviceReply (hg.history h) ht ⟨asked, time, hg.trace i he⟩
  case cancelReply h ht hjson => exact .cancelReply (hg.history h) ht hjson
  case goalReply h hpart hu hop htopic ht =>
    exact .goalReply (h.mono hg) hpart hu (hg.history hop) htopic ht
  case resultReply h hreply ht hstored =>
    obtain ⟨p, t, he⟩ := hstored
    exact .resultReply (hg.history h) hreply ht ⟨p, t, hg.trace i he⟩
  case sample q _ h hmsg ht hfits =>
    refine .sample (hg.history h) hmsg ht ?_
    cases q <;> exact hfits
  case sentRecord hpub hty ht hu hwhy =>
    exact .sentRecord (hg.trace i hpub) hty ht hu (hwhy.mono hg)
  case receivedRecord h hpart hu => exact .receivedRecord (h.mono hg) hpart hu
  case data h hplain => exact .data (hg.trace _ h) hplain
  case serviceRequest h hservice => exact .serviceRequest (h.mono hg) hservice
  case serviceAnswer h hservice => exact .serviceAnswer (h.mono hg) hservice
  case goalRequest h hpart hu => exact .goalRequest (h.mono hg) hpart hu
  case cancelAsked h hpart hu => exact .cancelAsked (h.mono hg) hpart hu
  case result h hpart hu => exact .result (h.mono hg) hpart (hu.mono hg)
  case feedback h hpart hread => exact .feedback (hg.trace _ h) hpart hread
  case decision h => exact .decision (h.mono hg)
  case aborted h => exact .aborted (hg.trace i h)
  case cancelled h hpart hcode hgoals hgoal hu =>
    exact .cancelled (h.mono hg) hpart hcode hgoals hgoal hu
  case status h hpart hlist hstatus hu hcode =>
    exact .status (hg.trace _ h) hpart hlist hstatus hu hcode

end Grows

/-- The causes of the events of a network, whose states are those reached after some steps. -/
def causality (ι : Type) : Causality (List (NetOp ι) × Network ι) ι Event where
  log x i := (x.2 i).state.trace
  Grows := Grows
  Cause x := Cause x.1 x.2
  mono hg h := Cause.mono hg h

end Network

end DdsEnabler
