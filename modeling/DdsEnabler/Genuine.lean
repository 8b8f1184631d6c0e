import DdsEnabler.Sources

/-!
What the users of a network are told is genuine.

Whatever a user is told of a goal, a service or a topic, another user has said. The network may
lose, repeat and reorder what is sent, and the enablers may take their steps in any order.
-/

namespace DdsEnabler

open Exec Runs Provenance RpcUtils RpcInfo

-- for the runs that the witnesses evaluate
set_option maxRecDepth 1000

namespace Network

variable {ι : Type} {w : List (NetOp ι)} {N : Network ι}

/-! ### Statuses -/

section Statuses

variable {msg : Message} {i : ι}

end Statuses

/-! ### A client and a server -/

def sumService : Str := "add_two_ints".toList

/-- A party that has learned the type, and has discovered the topics of the services. -/
def discovered : State :=
  [partName Rendezvous.fibonacci .goal, partName Rendezvous.fibonacci .result,
    partName Rendezvous.fibonacci .cancel, sumService].foldl (fun s serviceName =>
      let request := rosRequestPrefix ++ serviceName ++ rosRequestSuffix
      let reply := rosReplyPrefix ++ serviceName ++ rosReplySuffix
      after (createReader .silent { topicName := reply })
        (after (createReader .silent { topicName := request }) s))
    (after (addSchema .silent ⟨[], 0⟩ 0 true) {})

def discovers : PartyOp :=
  .others discovered.participant discovered.handler.schemas discovered.trace

lemma discovers_fits (N : Network Bool) (i : Bool) : N.Fits (.act i discovers) := by
  have htrace : discovered.trace = [.writeSchema [] 0] := rfl
  change ∀ e ∈ discovered.trace, e.isDiscovery
  simp [htrace, Event.isDiscovery]

/-- The user listens to everything and accepts every goal. -/
def listening : Callbacks :=
  { Callbacks.unset with
    dataNotification := true, serviceRequestNotification := true
    serviceReplyNotification := true, actionCancelRequestNotification := true
    actionResultNotification := true, actionFeedbackNotification := true
    actionStatusNotification := true
    actionGoalRequestNotification := some fun _ _ _ _ => true }

/-- One of two parties gets a document from the other. -/
def hears (sender : Bool) (number : Nat) (topicName : String) (related : Nat) (doc : Json) :
    NetOp Bool :=
  .deliver sender (!sender) number
    { Env.silent with callbacks := listening, decode := fun _ _ => some doc }
    { topicName := topicName.toList } ⟨[0], true, 0, [], [], true, related⟩

/-- What is told of the document. -/
def heard (topicName : String) (doc : Json) : Json :=
  (⟨{ topicName := topicName.toList }, [], [], [0], 0⟩ : Message).wrap doc

def goalJson : Json := .obj [("goal".toList, .null), goalId .null]
def resultJson : Json := .obj [("result".toList, .null), ("status".toList, .int 4)]

/-- A client, which is the party `true`, sends a goal and gets its result. It also asks to cancel
the goal. -/
def exchange : List (NetOp Bool) :=
  [.act true discovers, .act false discovers,
    .act true (.draw (.goal Rendezvous.fibonacci (.doc .null) .null .ros2)),
    .act true (.publishRpc .silent 0), .act true (.storeGoal .silent 0),
    hears true 1 "rq/fibonacci/_action/send_goalRequest" 0 goalJson,
    .act false (.sendActionResult .silent Rendezvous.fibonacci .null .succeeded (.doc .null)),
    hears false 1 "rr/fibonacci/_action/send_goalReply" 1 (createGoalReplyMsg true 0),
    .act true (.draw (.cancel Rendezvous.fibonacci .null 0 .ros2)),
    .act true (.publishRpc .silent 0),
    hears true 3 "rq/fibonacci/_action/cancel_goalRequest" 0 (createCancelRequestMsg .null 0),
    hears true 2 "rq/fibonacci/_action/get_resultRequest" 0 (createResultRequestMsg .null),
    hears false 3 "rr/fibonacci/_action/get_resultReply" 2 resultJson]

lemma exchange_fits : Along step Fits start exchange := by
  refine ⟨discovers_fits _ _, discovers_fits _ _, trivial, trivial, trivial,
    ⟨goalJson, List.mem_of_getElem? (i := 2) rfl, fun _ _ _ => rfl⟩, trivial,
    ⟨createGoalReplyMsg true 0, ⟨List.mem_of_getElem? (i := 5) rfl,
      List.mem_of_getElem? (i := 0) rfl⟩, fun _ _ _ => rfl⟩, trivial, trivial,
    ⟨createCancelRequestMsg .null 0, List.mem_of_getElem? (i := 10) rfl, fun _ _ _ => rfl⟩,
    ⟨createResultRequestMsg .null, List.mem_of_getElem? (i := 6) rfl, fun _ _ _ => rfl⟩,
    ⟨resultJson, ⟨List.mem_of_getElem? (i := 13) rfl, List.mem_of_getElem? (i := 2) rfl⟩,
      fun _ _ _ => rfl⟩, trivial⟩

lemma exchange_within : Within (run step start exchange) := by
  intro i
  cases i <;> decide +kernel

/-- The client calls a service, and reads the feedback and a plain topic of the server. -/
def calls : List (NetOp Bool) :=
  [.act true discovers, .act false discovers,
    .act true (.draw (.service sumService (.doc (.arr [.int 1, .int 2])) .ros2)),
    .act true (.publishRpc .silent 0),
    hears true 1 "rq/add_two_intsRequest" 0 (.arr [.int 1, .int 2]),
    .act false (.sendServiceReply .silent sumService (.doc (.int 3)) 1),
    hears false 1 "rr/add_two_intsReply" 1 (.int 3),
    .act false (.publishSample .silent []
      (.feedback Rendezvous.fibonacci (.doc (.int 1)) .null .ros2)),
    hears false 0 "rt/fibonacci/_action/feedback" 0
      (.obj [("feedback".toList, .int 1), goalId .null]),
    .act false (.publishSample .silent [] (.topic "rt/chatter".toList (.doc (.int 2)))),
    hears false 0 "rt/chatter" 0 (.int 2)]

lemma calls_fits : Along step Fits start calls := by
  refine ⟨discovers_fits _ _, discovers_fits _ _, rfl, trivial,
    ⟨.arr [.int 1, .int 2], List.mem_of_getElem? (i := 2) rfl, fun _ _ _ => rfl⟩,
    ⟨_, _, List.mem_of_getElem? (i := 3) rfl⟩,
    ⟨.int 3, ⟨List.mem_of_getElem? (i := 4) rfl, List.mem_of_getElem? (i := 0) rfl⟩,
      fun _ _ _ => rfl⟩, by simp [Fits, FitsParty],
    ⟨.obj [("feedback".toList, .int 1), goalId .null], List.mem_of_getElem? (i := 5) rfl,
      fun _ _ _ => rfl⟩, rfl,
    ⟨.int 2, List.mem_of_getElem? (i := 6) rfl, fun _ _ _ => rfl⟩, trivial⟩

lemma calls_within : Within (run step start calls) := by
  intro i
  cases i <;> decide +kernel

/-! ### What the users are told -/

section Told

variable [DecidableEq ι] {i : ι}

/-- **Results are genuine.** A client who is told the result of a goal has sent this goal, a server
has accepted it, and the user of a server has supplied the result for it. -/
theorem results_genuine
    (hw : Along step Fits start w) (hlt : Within (run step start w))
    {actionName : Str} {json : Json} {u : UUID} {time : Int}
    (he : .actionResultNotification actionName json u time ∈ (run step start w i).state.trace) :
    ∃ j j' result msg, json = Message.wrap msg result ∧
      Supplied w j actionName u (.doc result) ∧
      Decision w (run step start w) i j' actionName u true := by
  have h := inv_run hw hlt
  set N := run step start w
  have hcause : Cause w N i (.actionResultNotification actionName json u time) :=
    h.justified i _ he
  generalize hevent : Event.actionResultNotification actionName json u time = e at hcause
  cases hcause
  case result j n r topicName result msg u' time' hans hpart hrec =>
    cases hevent
    obtain ⟨asked, request, hreceives⟩ := (h.sound j).received _ hans.receipt
    generalize hname : (RpcInfo.ofTopic topicName).actionName = name
    have hreply := h.partReply hans.published hpart
    rw [hname] at hreply
    cases hreply with
    | @result env u' code text _ hop hdoc hstored =>
      obtain ⟨p, time', hstored⟩ := hstored
      obtain ⟨hasked, hname', hu'⟩ := h.asked_of_recorded hlt hstored hreceives
      have hu := h.goal_of_recorded hlt hrec hreceives.published hreceives.request
      obtain rfl : u' = u := Except.ok.inj (hu'.symm.trans hu)
      have hrequest := h.partRequest hreceives.published hasked
      rw [hname'] at hrequest
      cases hrequest with
      | @result v hdecided =>
        have hv : goalOf (createResultRequestMsg v) = .ok v := jsonToUuid_uuidJson v
        obtain rfl : v = u' := Except.ok.inj (hv.symm.trans hu)
        obtain ⟨j', b, hb, hdecision⟩ := h.decision hlt hdecided
        cases hb
        exact ⟨j, j', result, msg, rfl, ⟨env, code, text, result, hop, hdoc, rfl⟩, hdecision⟩
  all_goals cases hevent
  next hinternal => cases hinternal

theorem results_genuine_exchange :
    ∃ j j' result msg, heard "rr/fibonacci/_action/get_resultReply" resultJson =
        Message.wrap msg result ∧
      Supplied exchange j Rendezvous.fibonacci .null (.doc result) ∧
      Decision exchange (run step start exchange) true j' Rendezvous.fibonacci .null true :=
  results_genuine exchange_fits exchange_within (List.mem_of_getElem? (i := 11) rfl)

/-- **Service replies are genuine.** A client that gets a reply has asked for it, and the user of a
server has given it, who has been told of that very request. A name with an underscore at its end
may be the one that is read for a service of the DDS protocol with another name. -/
theorem service_replies_genuine
    (hw : Along step Fits start w) (hlt : Within (run step start w))
    {serviceName : Str} {json : Json} {r : Nat} {time : Int}
    (hlast : serviceName.getLast? ≠ some '_')
    (he : .serviceReplyNotification serviceName json r time ∈ (run step start w i).state.trace) :
    ∃ j n env protocol request reply t msg msg' time', json = Message.wrap msg reply ∧
      .act i (.draw (.service serviceName (.doc request) protocol)) ∈ w ∧
      .publishedRpc t (.doc request) r ∈ (run step start w i).state.trace ∧
      .serviceRequestNotification serviceName (Message.wrap msg' request) n time' ∈
        (run step start w j).state.trace ∧
      .act j (.sendServiceReply env serviceName (.doc reply) n) ∈ w := by
  have h := inv_run hw hlt
  set N := run step start w
  have hcause : Cause w N i (.serviceReplyNotification serviceName json r time) :=
    h.justified i _ he
  generalize hevent : Event.serviceReplyNotification serviceName json r time = e at hcause
  cases hcause
  case serviceAnswer j n r' topicName reply msg time' hans hservice =>
    cases hevent
    obtain ⟨env, asked, time', hop, hasked⟩ :=
      h.serviceAnswered hans.published hans.reply hservice hlast
    obtain ⟨t, request, hreceives⟩ := (h.sound j).received _ hans.receipt
    obtain ⟨i', r', t', request', msg', hreceives', hservice', hname, rfl⟩ := h.serviceAsked hasked
    obtain ⟨rfl, rfl, rfl, rfl⟩ := hreceives.unique h hlt hreceives'
    obtain ⟨protocol, hsent⟩ := h.serviceSent hreceives.published hreceives.request hservice'
      (hname ▸ hlast)
    rw [hname] at hsent
    exact ⟨j, n, env, protocol, request, reply, t, msg, msg', time', rfl, hsent,
      hreceives.published, hasked, hop⟩
  all_goals cases hevent
  next hinternal => cases hinternal

theorem service_replies_genuine_calls :
    ∃ j n env protocol request reply t msg msg' time',
      heard "rr/add_two_intsReply" (.int 3) = Message.wrap msg reply ∧
      .act true (.draw (.service sumService (.doc request) protocol)) ∈ calls ∧
      .publishedRpc t (.doc request) 1 ∈ (run step start calls true).state.trace ∧
      .serviceRequestNotification sumService (Message.wrap msg' request) n time' ∈
        (run step start calls j).state.trace ∧
      .act j (.sendServiceReply env sumService (.doc reply) n) ∈ calls :=
  service_replies_genuine calls_fits calls_within (by decide)
    (List.mem_of_getElem? (i := 3) rfl)

/-- **Goal requests are genuine.** A server's user who is asked for a goal has it from a client that
has sent it, as it was sent. -/
theorem goal_requests_genuine
    (hw : Along step Fits start w) (hlt : Within (run step start w))
    {actionName : Str} {json : Json} {u : UUID} {time : Int}
    (he : .actionGoalRequestNotification actionName json u time ∈
      (run step start w i).state.trace) :
    ∃ j goal protocol doc msg, .act j (.draw (.goal actionName goal u protocol)) ∈ w ∧
      createGoalRequestMsg goal u = .ok doc ∧ json = Message.wrap msg doc := by
  have h := inv_run hw hlt
  set N := run step start w
  have hcause : Cause w N i (.actionGoalRequestNotification actionName json u time) :=
    h.justified i _ he
  generalize hevent : Event.actionGoalRequestNotification actionName json u time = e at hcause
  cases hcause
  case goalRequest j n r asked doc msg u' time' hreceives hpart hu =>
    cases hevent
    obtain ⟨goal, protocol, hdoc, hop⟩ := h.goalSent hreceives.published hpart hu
    exact ⟨j, goal, protocol, doc, msg, hop, hdoc, rfl⟩
  all_goals cases hevent
  next hinternal => cases hinternal

theorem goal_requests_genuine_exchange :
    ∃ j goal protocol doc msg,
      .act j (.draw (.goal Rendezvous.fibonacci goal .null protocol)) ∈ exchange ∧
      createGoalRequestMsg goal .null = .ok doc ∧
      heard "rq/fibonacci/_action/send_goalRequest" goalJson = Message.wrap msg doc :=
  goal_requests_genuine (i := false) exchange_fits exchange_within
    (List.mem_of_getElem? (i := 4) rfl)

/-- **No user is asked to cancel a goal.** A cancel request of an enabler has the time of its goal
where no enabler looks for it. -/
theorem cancel_requests_lost
    (hw : Along step Fits start w) (hlt : Within (run step start w))
    {actionName : Str} {u : UUID} {timestamp time : Int} {n : Nat} :
    .actionCancelRequestNotification actionName u timestamp n time ∉
      (run step start w i).state.trace := by
  intro he
  have h := inv_run hw hlt
  set N := run step start w
  have hcause : Cause w N i (.actionCancelRequestNotification actionName u timestamp n time) :=
    h.justified i _ he
  generalize hevent : Event.actionCancelRequestNotification actionName u timestamp n time = e
    at hcause
  cases hcause
  case cancelAsked hreceives hpart hu =>
    cases hevent
    cases h.partRequest hreceives.published hpart with
    | cancel v t =>
      rw [cancelRequestOf_cancel] at hu
      cases hu
  all_goals cases hevent
  next hinternal => cases hinternal

/-- The cancel request has been received. -/
theorem cancel_requests_lost_exchange :
    .sentSequenceNumber 2 ∈ (run step start exchange false).state.trace ∧
      .actionCancelRequestNotification Rendezvous.fibonacci .null 0 2 0 ∉
        (run step start exchange false).state.trace :=
  ⟨List.mem_of_getElem? (i := 9) rfl, cancel_requests_lost exchange_fits exchange_within⟩

/-- **Feedback is genuine.** A client that gets feedback for a goal gets what the user of a server
has sent for it. -/
theorem feedback_genuine
    (hw : Along step Fits start w) (hlt : Within (run step start w))
    {actionName : Str} {json : Json} {u : UUID} {time : Int}
    (he : .actionFeedbackNotification actionName json u time ∈ (run step start w i).state.trace) :
    ∃ j env typeName protocol, .act j (.publishSample env typeName
      (.feedback actionName (.doc json) u protocol)) ∈ w := by
  have h := inv_run hw hlt
  set N := run step start w
  have hcause : Cause w N i (.actionFeedbackNotification actionName json u time) :=
    h.justified i _ he
  generalize hevent : Event.actionFeedbackNotification actionName json u time = e at hcause
  cases hcause
  case feedback j topicName doc json' msg u' time' hpub hpart hread =>
    cases hevent
    generalize hname : (RpcInfo.ofTopic topicName).actionName = name
    have hsample := h.partSample hpub hpart
    rw [hname] at hsample
    cases hsample with
    | @feedback env typeName text v protocol _ hop hdoc =>
      rcases text with value | value
      · rw [feedbackOf_wrap msg hdoc] at hread
        cases hread
        exact ⟨j, env, typeName, protocol, hop⟩
      · cases hdoc
  all_goals cases hevent
  next hinternal => cases hinternal

theorem feedback_genuine_calls :
    ∃ j env typeName protocol, .act j (.publishSample env typeName
      (.feedback Rendezvous.fibonacci (.doc (.int 1)) .null protocol)) ∈ calls :=
  feedback_genuine (i := true) calls_fits calls_within (List.mem_of_getElem? (i := 4) rfl)

/-- **Data is genuine.** A reader of a plain topic gets what a user has published on it. The
feedback and the status of an action of the DDS protocol are on plain topics. -/
theorem data_genuine
    (hw : Along step Fits start w) (hlt : Within (run step start w))
    {topicName : Str} {json : Json} {time : Int}
    (he : .dataNotification topicName json time ∈ (run step start w i).state.trace) :
    ∃ j env typeName q doc msg, json = Message.wrap msg doc ∧
      .act j (.publishSample env typeName q) ∈ w ∧ q.topicName = some topicName ∧
      q.message = .ok (.doc doc) := by
  have h := inv_run hw hlt
  set N := run step start w
  have hcause : Cause w N i (.dataNotification topicName json time) := h.justified i _ he
  generalize hevent : Event.dataNotification topicName json time = e at hcause
  cases hcause
  case data j msg doc time' hpub hplain =>
    cases hevent
    have hsource : Cause w N j (.published msg.topic.topicName (.doc doc)) := h.justified j _ hpub
    generalize hevent' : Event.published msg.topic.topicName (.doc doc) = e at hsource
    cases hsource
    case sample env typeName _ q _ hop hmsg ht _ =>
      cases hevent'
      exact ⟨j, env, typeName, q, doc, msg, rfl, hop, ht, hmsg⟩
    all_goals cases hevent'
    next hinternal => cases hinternal
  all_goals cases hevent
  next hinternal => cases hinternal

theorem data_genuine_calls :
    ∃ j env typeName q doc msg, heard "rt/chatter" (.int 2) = Message.wrap msg doc ∧
      .act j (.publishSample env typeName q) ∈ calls ∧
      q.topicName = some "rt/chatter".toList ∧ q.message = .ok (.doc doc) :=
  data_genuine (i := true) calls_fits calls_within (List.mem_of_getElem? (i := 5) rfl)

end Told

end Network

end DdsEnabler
