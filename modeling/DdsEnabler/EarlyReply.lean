import DdsEnabler.GoalLifetime
import DdsEnabler.WireFormat

/-!
Goals on the client side, with the reply on its way.

Sending a goal takes three steps: an identifier is drawn, the request is published under it, and
the goal is stored. No mutex is held from one to the next, so once the request is published its
reply may come in at any point, and what the handler does with it depends on the goal being
stored already.
-/

namespace DdsEnabler

open Exec Runs Tables

/-! ### What an operation emits -/

/-- The operation returns, and all that it emits is of a kind. -/
def Emits {α : Type} (p : Event → Bool) (x : M α) : Prop :=
  ∀ s, ∃ a t es, x.run s = .ok a t ∧ t.trace = s.trace ++ es ∧ ∀ e ∈ es, p e

section Emits

variable {α β : Type} {p : Event → Bool}

lemma Emits.pure (a : α) : Emits p (pure a : M α) := fun s => ⟨a, s, [], rfl, by simp, by simp⟩

lemma Emits.emit {e : Event} (h : p e) : Emits p (emit e) :=
  fun s => ⟨(), s.log [e], [e], rfl, rfl, by simpa using h⟩

lemma Emits.notify {b : Bool} {e : Event} (h : p e) : Emits p (notify b e) := by
  cases b
  · exact Emits.pure ()
  · exact Emits.emit h

lemma Emits.readHandler (f : Handler → α) : Emits p (readHandler f) :=
  fun s => ⟨_, s, [], rfl, by simp, by simp⟩

lemma Emits.bind {x : M α} {f : α → M β} (hx : Emits p x) (hf : ∀ a, Emits p (f a)) :
    Emits p (x >>= f) := by
  intro s
  obtain ⟨a, t, es, hrun, htrace, hes⟩ := hx s
  obtain ⟨b, u, es', hrun', htrace', hes'⟩ := hf a t
  refine ⟨b, u, es ++ es', by rw [run_bind_ok hrun, hrun'],
    by rw [htrace', htrace, List.append_assoc], fun e he => ?_⟩
  rcases List.mem_append.mp he with he | he
  · exact hes e he
  · exact hes' e he

lemma Emits.discard {x : M α} (hx : Emits p x) : Emits p (discard x) := by
  intro s
  obtain ⟨a, t, es, hrun, h⟩ := hx s
  exact ⟨(), t, es, by rw [run_discard, hrun], h⟩

lemma Emits.ite {c : Prop} [Decidable c] {x y : M α} (hx : Emits p x) (hy : Emits p y) :
    Emits p (if c then x else y) := by
  split
  · exact hx
  · exact hy

end Emits

/-! ### What follows the acceptance of a goal -/

/-- The codes that tell the user of the decision on a goal. -/
def StatusCode.isDecision : StatusCode → Bool
  | .accepted | .rejected => true
  | _ => false

/-- The events that follow a decision: they tell of no other, and record and end no goal. -/
def Event.isFollowUp : Event → Bool
  | .actionStatusNotification _ _ code _ _ => !code.isDecision
  | .storedRequest _ _ _ ty _ _ => ty ≠ .goal
  | .erasedAction _ _ => false
  | _ => true

/-- A kind of events that has those of a request: it is published under the identifier drawn for
it, and stored, and its sender is told of the outcome. -/
structure CoversRequest (p : Event → Bool) : Prop where
  drawn : ∀ id, p (.newRequestId id)
  published : ∀ topicName json id, p (.publishedRpc topicName json id)
  stored : ∀ a u id ty protocol now, ty ≠ .goal → p (.storedRequest a u id ty protocol now)
  requested : ∀ a u sent, p (.sendActionGetResultRequest a u sent)

lemma coversRequest_followUp : CoversRequest Event.isFollowUp where
  drawn _ := rfl
  published _ _ _ := rfl
  stored _ _ _ _ _ _ hty := by simpa [Event.isFollowUp] using hty
  requested _ _ _ := rfl

section FollowUp

variable {p : Event → Bool} (hp : CoversRequest p) (env : Env) (actionName : Str) (u : UUID)

include hp

lemma emits_sendServiceRequest (serviceName : Str) (json : JsonText) (protocol : Protocol) :
    Emits p (sendServiceRequest env serviceName json protocol) := by
  intro s
  rw [sendServiceRequest_run]
  rcases requestTopic protocol serviceName with _ | topicName
  · exact ⟨_, s, [], rfl, by simp, by simp⟩
  · by_cases h : s.draw.rpcPublishable env topicName json
    · exact ⟨_, _, [.newRequestId s.handler.nextRequestId.1,
        .publishedRpc topicName json s.handler.nextRequestId.1], if_pos h, by simp,
        by simp [hp.drawn, hp.published]⟩
    · exact ⟨_, _, [.newRequestId s.handler.nextRequestId.1], if_neg h, rfl,
        by simp [hp.drawn]⟩

lemma emits_cancelActionGoal (timestamp : Int) :
    Emits p (cancelActionGoal env actionName u timestamp) := by
  unfold cancelActionGoal
  refine (Emits.readHandler _).bind fun active => Emits.ite (Emits.pure _) ?_
  refine (Emits.readHandler _).bind fun protocol => ?_
  exact (emits_sendServiceRequest hp env _ _ protocol).bind fun r => Emits.pure _

lemma emits_storeActionRequest {ty : ActionType} (hty : ty ≠ .goal) (id : Nat)
    (protocol : Protocol) : Emits p (storeActionRequest env actionName u id ty protocol) := by
  intro s
  rcases h : (s.handler.storeActionRequest actionName u id ty protocol env.now).1
  · exact ⟨false, s, [], storeActionRequest_run_false s env h, by simp, by simp⟩
  · exact ⟨true, _, [.storedRequest actionName u id ty protocol env.now],
      storeActionRequest_run_true s env h, rfl, by simpa using hp.stored _ _ _ _ _ _ hty⟩

lemma emits_sendActionGetResultRequest :
    Emits p (sendActionGetResultRequest env actionName u) := by
  unfold sendActionGetResultRequest
  refine (Emits.readHandler _).bind fun protocol => ?_
  refine (emits_sendServiceRequest hp env _ _ protocol).bind fun r =>
    Emits.ite ?_ (Emits.pure _)
  refine (emits_storeActionRequest hp env actionName u (by decide) _ _).bind fun b => ?_
  refine Emits.ite (Emits.pure _) ?_
  exact (emits_cancelActionGoal hp env actionName u 0).discard.bind fun _ => Emits.pure _

/-- The result of an accepted goal is requested, whether or not that succeeds. -/
lemma getResultRequestCallback_run (s : State) :
    ∃ sent t es, (getResultRequestCallback env actionName u).run s = .ok sent t ∧
      t.trace = s.trace ++ es ∧ (∀ e ∈ es, p e) ∧
      .sendActionGetResultRequest actionName u sent ∈ es := by
  obtain ⟨sent, t, es, hrun, htrace, hes⟩ := emits_sendActionGetResultRequest hp env actionName u s
  have hlast : ∀ l : List Event, (∀ e ∈ l, p e) →
      ∀ e ∈ l ++ [.sendActionGetResultRequest actionName u sent], p e := by
    intro l hl e he
    rcases List.mem_append.mp he with he | he
    · exact hl e he
    · rw [List.mem_singleton.mp he]
      exact hp.requested actionName u sent
  cases sent with
  | true =>
    refine ⟨true, t.log [.sendActionGetResultRequest actionName u true],
      es ++ [.sendActionGetResultRequest actionName u true], ?_, by simp [htrace],
      hlast es hes, by simp⟩
    unfold getResultRequestCallback
    rw [run_bind_ok hrun]
    rfl
  | false =>
    obtain ⟨_, t', es', hrun', htrace', hes'⟩ :=
      (emits_cancelActionGoal hp env actionName u 0).discard t
    refine ⟨false, t'.log [.sendActionGetResultRequest actionName u false],
      es ++ es' ++ [.sendActionGetResultRequest actionName u false], ?_,
      by simp [htrace, htrace'], hlast (es ++ es') fun e he => ?_, by simp⟩
    · unfold getResultRequestCallback
      rw [run_bind_ok hrun]
      simp [hrun']
    · rcases List.mem_append.mp he with he | he
      · exact hes e he
      · exact hes' e he

end FollowUp

/-! ### The reply to a goal -/

/-- Where a goal is recorded: its action and the identifier of its request. -/
def ActionRequestInfo.goalKey (i : ActionRequestInfo) : Str × Nat :=
  (i.actionName, i.goalRequestId)

/-- A well-formed reply to the goal request `id` of an action, with the user listening. -/
structure IsGoalReply (env : Env) (topic : DdsTopic) (data : Sample) (actionName : Str) (id : Nat)
    (decision : Bool) (s : State) : Prop where
  accepted : ∃ dynType json, data.Accepted topic dynType s ∧
    env.decode dynType data.payload = some json ∧
    (json.index "accepted".toList).bind Json.getBool = .ok decision
  isRpc : data.isRpc = true
  related : data.relatedSequenceNumber = id
  rpcType : (RpcInfo.ofTopic topic.topicName).rpcType = .action
  serviceType : (RpcInfo.ofTopic topic.topicName).serviceType = .reply
  actionType : (RpcInfo.ofTopic topic.topicName).actionType = .goal
  action : (RpcInfo.ofTopic topic.topicName).actionName = actionName
  listens : env.callbacks.actionStatusNotification = true

/-- What the user is told of a decision. -/
def decisionEvent (actionName : Str) (u : UUID) (decision : Bool) (time : Int) : Event :=
  .actionStatusNotification actionName u (goalReplyStatus (some decision)).1
    (goalReplyStatus (some decision)).2 time

section Reply

variable {env : Env} {topic : DdsTopic} {data : Sample} {actionName : Str} {id : Nat}
  {decision : Bool} {s : State}

lemma addData_goalReply (h : IsGoalReply env topic data actionName id decision s) :
    ∃ msg dynType, (msg : Message).publishTime = data.sourceTimestamp ∧
      (∃ json, msg.prepareJsonData env dynType = some json ∧
        acceptedOf msg json = .ok decision) ∧
      Evolves none s.count (after (addData env topic data) s) ∧
      (addData env topic data).run s =
        match s.handler.getActionRequestUUID env.visitOrder id .goal with
        | some u => (writeActionGoalReplyNotification env msg dynType u actionName).run s.count
        | none => .ok () s.count := by
  obtain ⟨⟨dynType, json, hacc, hdecode, hdecision⟩, hrpc, hid, h1, h2, h3, h4, -⟩ := h
  have hrun : (addData env topic data).run s = (addGoalReply env (.ofTopic topic.topicName) data
      (data.message topic) dynType).run s.count := by
    rw [addData_run hacc]
    simp only [addKnownData, h1, addActionData, h2, h3]
  refine ⟨data.message topic, dynType, rfl, ⟨_, prepareJsonData_of_decode hdecode, ?_⟩, ?_, ?_⟩
  · unfold acceptedOf
    rw [Message.dataOf_wrap]
    exact hdecision
  · rw [show after (addData env topic data) s = after (addGoalReply env (.ofTopic topic.topicName)
      data (data.message topic) dynType) s.count by simp only [after, hrun]]
    exact keeps_addGoalReply env (data.message topic) dynType data _ s.count
  · rw [hrun]
    simp only [addGoalReply, relatedRequestId, requireRpc, hrpc, if_true, pure_bind, hid, h4]
    rw [EStateM.run_bind, readHandler_run]
    have hmap : s.count.handler.getActionRequestUUID env.visitOrder id .goal =
      s.handler.getActionRequestUUID env.visitOrder id .goal := rfl
    simp only [hmap]
    rcases s.handler.getActionRequestUUID env.visitOrder id .goal with _ | u <;> rfl

/-- A reply whose goal is found: the user is told of the decision, and the result of an accepted
goal is requested. -/
lemma goalReply_found (h : IsGoalReply env topic data actionName id decision s) {u : UUID}
    (hu : s.handler.getActionRequestUUID env.visitOrder id .goal = some u) :
    ∃ es, Step none (decisionEvent actionName u decision data.sourceTimestamp :: es) s.count
        (after (addData env topic data) s) ∧
      (∀ e ∈ es, e.isFollowUp) ∧
      (decision = true → ∃ sent, .sendActionGetResultRequest actionName u sent ∈ es) := by
  obtain ⟨msg, dynType, htime, ⟨json, hjson, hacc⟩, ⟨new, hstep⟩, hrun⟩ := addData_goalReply h
  rw [hu] at hrun
  set told := decisionEvent actionName u decision data.sourceTimestamp with htold
  suffices ∃ es, (after (addData env topic data) s).trace = s.trace ++ (told :: es) ∧
      (∀ e ∈ es, e.isFollowUp) ∧
      (decision = true → ∃ sent, .sendActionGetResultRequest actionName u sent ∈ es) by
    obtain ⟨es, htrace, hes⟩ := this
    have hnew : new = told :: es := List.append_cancel_left (hstep.trace.symm.trans htrace)
    exact ⟨es, hnew ▸ hstep, hes⟩
  have htell : (notifyStatus env msg actionName u (goalReplyStatus (some decision)).1
      (goalReplyStatus (some decision)).2).run s.count = .ok () (s.count.log [told]) := by
    rw [notifyStatus, h.listens, htime]
    rfl
  have hwrite : (writeActionGoalReplyNotification env msg dynType u actionName).run s.count =
      (do
        if (goalReplyStatus (some decision)).1 = .accepted then
          let sent ← getResultRequestCallback env actionName u
          if !sent then
            notifyStatus env msg actionName u .aborted "Action goal aborted" : M Unit).run
        (s.count.log [told]) := by
    unfold writeActionGoalReplyNotification
    simp only [hjson, hacc, Except.map, catchJson, lift_ok, pure_bind]
    rw [run_bind_ok htell]
  replace hrun := hrun.trans hwrite
  cases decision with
  | false => exact ⟨[], by rw [after_ok hrun]; rfl, by simp, by simp⟩
  | true =>
    obtain ⟨sent, t, es, hcb, htrace, hes, hsent⟩ :=
      getResultRequestCallback_run coversRequest_followUp env actionName u (s.count.log [told])
    obtain ⟨_, t', es', hrun', htrace', hes'⟩ : ∃ a t' es', (if !sent then
          notifyStatus env msg actionName u .aborted "Action goal aborted"
        else pure () : M Unit).run t = .ok a t' ∧ t'.trace = t.trace ++ es' ∧
        ∀ e ∈ es', e.isFollowUp :=
      Emits.ite (Emits.notify rfl) (Emits.pure _) t
    have hall : (addData env topic data).run s = .ok () t' := by
      rw [hrun]
      change (getResultRequestCallback env actionName u >>= _ : M Unit).run _ = _
      rw [run_bind_ok hcb, hrun']
    refine ⟨es ++ es', ?_, fun e he => ?_, fun _ => ⟨sent, List.mem_append_left _ hsent⟩⟩
    · rw [after_ok hall, htrace', htrace]
      simp
    · rcases List.mem_append.mp he with he | he
      · exact hes e he
      · exact hes' e he

end Reply

/-! ### The system -/

/-- How far `send_action_goal` has come for a goal, and at last what it has returned. -/
inductive Stage
  | drawn | published
  | returned (stored : Bool)
  deriving DecidableEq

/-- A goal that is being sent, or has been. -/
structure SentGoal where
  actionName : Str
  actionId : UUID
  protocol : Protocol
  topicName : Str
  goalJson : Json
  requestId : Nat
  stage : Stage
  /-- Its reply has been processed. -/
  replied : Bool

/-- Its request has been published: `send_action_goal` has not failed. -/
def SentGoal.isSent (g : SentGoal) : Prop := g.stage = .published ∨ g.stage = .returned true

/-- The enabler and the calls of `send_action_goal`, by number. -/
structure GoalClients where
  state : State
  goals : Nat → Option SentGoal

inductive ClientOp
  | draw (k : Nat) (env : Env) (actionName : Str) (json : JsonText) (protocol : Protocol)
  | publish (k : Nat) (env : Env)
  | store (k : Nat) (env : Env)
  /-- The reply to the goal of a call is processed. -/
  | reply (k : Nat) (env : Env) (topic : DdsTopic) (data : Sample)
  /-- Discovery, announcements and types. -/
  | others (participant : Participant) (schemas : Table Str (Nat × DynType))

namespace GoalClients

/-- One of the calls goes on. -/
def withGoal (c : GoalClients) (k : Nat) (t : State) (g : SentGoal) : GoalClients :=
  ⟨t, Function.update c.goals k (some g)⟩

/-- An identifier is drawn, if the goal makes a request at all. -/
def drawGoal (c : GoalClients) (k : Nat) (env : Env) (actionName : Str) (json : JsonText)
    (protocol : Protocol) : GoalClients :=
  match RpcUtils.createGoalRequestMsg json env.uuid,
      requestTopic protocol (actionName ++ actionGoalSuffix) with
  | .ok goalJson, some topicName =>
    c.withGoal k (after getNewRequestId c.state)
      { actionName, actionId := env.uuid, protocol, topicName, goalJson
        requestId := c.state.handler.nextRequestId.1, stage := .drawn, replied := false }
  | _, _ => c

def publishGoal (c : GoalClients) (k : Nat) (env : Env) : GoalClients :=
  match c.goals k with
  | some g =>
    if g.stage = .drawn then
      let publication := publishRpc env g.topicName (.doc g.goalJson) g.requestId
      c.withGoal k (after publication c.state)
        { g with stage := if returned publication c.state then .published else .returned false }
    else c
  | none => c

def storeSentGoal (c : GoalClients) (k : Nat) (env : Env) : GoalClients :=
  match c.goals k with
  | some g =>
    if g.stage = .published then
      let storage := storeGoal env g.actionName g.actionId g.requestId g.protocol
      c.withGoal k (after storage c.state) { g with stage := .returned (returned storage c.state) }
    else c
  | none => c

def replyGoal (c : GoalClients) (k : Nat) (env : Env) (topic : DdsTopic) (data : Sample) :
    GoalClients :=
  match c.goals k with
  | some g => c.withGoal k (after (addData env topic data) c.state) { g with replied := true }
  | none => c

def step (c : GoalClients) : ClientOp → GoalClients
  | .draw k env actionName json protocol => c.drawGoal k env actionName json protocol
  | .publish k env => c.publishGoal k env
  | .store k env => c.storeSentGoal k env
  | .reply k env topic data => c.replyGoal k env topic data
  | .others participant schemas =>
    { c with state := { c.state with
        participant, handler := { c.state.handler with schemas } } }

def start (participant : Participant) (schemas : Table Str (Nat × DynType)) : GoalClients :=
  ⟨{ participant, handler := { schemas } }, fun _ => none⟩

/-- What can happen: calls have numbers of their own and draw new goal identifiers, the one
reply to a goal comes in after its publication, and the counter does not wrap around. -/
structure Fits (c : GoalClients) (op : ClientOp) : Prop where
  call : match op with
    | .draw k env _ _ _ => c.goals k = none ∧
      ∀ j g, c.goals j = some g → g.actionId ≠ env.uuid
    | .reply k env topic data => ∃ g decision, c.goals k = some g ∧ g.isSent ∧ g.replied = false ∧
      IsGoalReply env topic data g.actionName g.requestId decision c.state
    | _ => True
  counter : (drawnIds (step c op).state.trace).length < 2 ^ 64

/-- The reply to a goal is processed after the goal has been stored. -/
def InTime (c : GoalClients) : ClientOp → Prop
  | .reply k _ _ _ => ∀ g, c.goals k = some g → g.stage = .returned true
  | _ => True

/-- The decisions on a goal that the user has been told. -/
def decisionsOn (u : UUID) (es : List Event) : List Event :=
  es.filter fun
    | .actionStatusNotification _ v code _ _ => v = u && code.isDecision
    | _ => false

/-- The user knows of the decision, once, and if that was to accept the goal then its result has
been requested. -/
structure Decided (u : UUID) (es : List Event) : Prop where
  once : (decisionsOn u es).length = 1
  requested : ∀ a m t, .actionStatusNotification a u .accepted m t ∈ es →
    ∃ sent, .sendActionGetResultRequest a u sent ∈ es

/-- Every goal for which `send_action_goal` has returned true and whose reply has been processed
is decided. -/
def RepliesHeard (c : GoalClients) : Prop :=
  ∀ k g, c.goals k = some g → g.stage = .returned true → g.replied = true →
    Decided g.actionId c.state.trace

lemma storeGoal_run (env : Env) (actionName : Str) (u : UUID) (id : Nat) (p : Protocol)
    (s : State) : ∃ b t, (storeGoal env actionName u id p).run s = .ok b t := by
  rcases h : (s.handler.storeActionRequest actionName u id .goal p env.now).1
  · exact ⟨false, _, by simp [storeGoal, storeActionRequest_run_false s env h]; rfl⟩
  · exact ⟨true, _, by simp [storeGoal, storeActionRequest_run_true s env h]; rfl⟩

/-- **The three steps make up `send_action_goal`**, when nothing comes in between. -/
theorem run_sendActionGoal (c : GoalClients) (k : Nat) (env : Env) (actionName : Str)
    (json : JsonText) (protocol : Protocol) (hk : c.goals k = none) :
    (run step c [.draw k env actionName json protocol, .publish k env, .store k env]).state =
        after (sendActionGoal env actionName json protocol) c.state ∧
      ∀ g, (run step c [.draw k env actionName json protocol, .publish k env, .store k env]).goals k
          = some g →
        ∃ b, outcome (sendActionGoal env actionName json protocol) c.state = .ok (b, g.actionId) ∧
          g.stage = .returned b := by
  rcases hmsg : RpcUtils.createGoalRequestMsg json env.uuid with e | goalJson
  · have hrun : (sendActionGoal env actionName json protocol).run c.state = .error e c.state := by
      simp [sendActionGoal, hmsg]
    simp [step, drawGoal, publishGoal, storeSentGoal, hmsg, hk, after_error hrun]
  rcases htopic : requestTopic protocol (actionName ++ actionGoalSuffix) with _ | topicName
  · have hrun : (sendActionGoal env actionName json protocol).run c.state =
        .ok (false, env.uuid) c.state := by
      simp [sendActionGoal, hmsg, EStateM.run_bind, sendServiceRequest_run, htopic]
    simp [step, drawGoal, publishGoal, storeSentGoal, hmsg, htopic, hk, after_ok hrun]
  set id := c.state.handler.nextRequestId.1 with hid
  by_cases hpub : c.state.draw.rpcPublishable env topicName (.doc goalJson)
  · have hsent : (publishRpc env topicName (.doc goalJson) id).run c.state.draw =
        .ok true (c.state.draw.log [.publishedRpc topicName (.doc goalJson) id]) := by simp [hpub]
    obtain ⟨b, t, hstore⟩ := storeGoal_run env actionName env.uuid id protocol
      (c.state.draw.log [.publishedRpc topicName (.doc goalJson) id])
    have hrun : (sendActionGoal env actionName json protocol).run c.state =
        .ok (b, env.uuid) t := by
      simp [sendActionGoal, hmsg, EStateM.run_bind, sendServiceRequest_run, htopic, hpub, hstore,
        ← hid]
    simp [step, drawGoal, publishGoal, storeSentGoal, withGoal, hmsg, htopic, after_ok hrun,
      outcome_ok hrun, after_ok (getNewRequestId_run c.state), ← hid, after_ok hsent,
      returned_ok hsent, after_ok hstore, returned_ok hstore]
  · have hsent : (publishRpc env topicName (.doc goalJson) id).run c.state.draw =
        .ok false c.state.draw := by simp [hpub]
    have hrun : (sendActionGoal env actionName json protocol).run c.state =
        .ok (false, env.uuid) c.state.draw := by
      simp [sendActionGoal, hmsg, EStateM.run_bind, sendServiceRequest_run, htopic, hpub, ← hid]
    simp [step, drawGoal, publishGoal, storeSentGoal, withGoal, hmsg, htopic, after_ok hrun,
      outcome_ok hrun, after_ok (getNewRequestId_run c.state), ← hid, after_ok hsent,
      returned_ok hsent]

/-! ### The invariant -/

/-- Identifiers and goals are told apart, by the counter and by the calls. -/
structure Numbered (c : GoalClients) : Prop where
  counts : CountsUp 0 (drawnIds c.state.trace) c.state.handler.requestsId
  range : ∀ k g, c.goals k = some g →
    1 ≤ g.requestId ∧ g.requestId ≤ c.state.handler.requestsId
  ids : ∀ j k a b, c.goals j = some a → c.goals k = some b → a.requestId = b.requestId → j = k
  uuids : ∀ j k a b, c.goals j = some a → c.goals k = some b → a.actionId = b.actionId → j = k

/-- A call has stored the goal. -/
def Stores (c : GoalClients) (u : UUID) (key : Str × Nat) : Prop :=
  ∃ k g, c.goals k = some g ∧ g.stage = .returned true ∧ g.actionId = u ∧
    key = (g.actionName, g.requestId)

/-- The map of goals holds the goals stored. -/
def Recorded (c : GoalClients) : Prop :=
  ∀ u key, (c.state.handler.entry u).map (·.goalKey) = some key ↔ c.Stores u key

/-- The user has been told of the goals whose replies have been processed, and of no others. -/
structure Told (c : GoalClients) : Prop where
  quiet : ∀ u, (∀ k g, c.goals k = some g → g.actionId = u → g.replied = false) →
    decisionsOn u c.state.trace = []
  decided : ∀ k g, c.goals k = some g → g.replied = true →
    g.stage = .returned true ∧ Decided g.actionId c.state.trace

structure Inv (c : GoalClients) : Prop where
  numbered : Numbered c
  recorded : Recorded c
  told : Told c

lemma inv_start (participant : Participant) (schemas : Table Str (Nat × DynType)) :
    Inv (start participant schemas) where
  numbered := ⟨rfl, by simp [start], by simp [start], by simp [start]⟩
  recorded u key := by simp [start, Handler.entry, Stores]
  told := ⟨fun u _ => rfl, by simp [start]⟩

variable {c : GoalClients} {k : Nat} {t : State} {g g' : SentGoal} {new : List Event}

@[simp] lemma goals_withGoal (j : Nat) :
    (c.withGoal k t g).goals j = if j = k then some g else c.goals j := by
  simp [withGoal, Function.update_apply]

@[simp] lemma decisionsOn_append (u : UUID) (es es' : List Event) :
    decisionsOn u (es ++ es') = decisionsOn u es ++ decisionsOn u es' := List.filter_append ..

lemma counter_of_counts {s : State} (h : CountsUp 0 (drawnIds s.trace) s.handler.requestsId)
    (hlt : (drawnIds s.trace).length < 2 ^ 64) :
    s.handler.requestsId = (drawnIds s.trace).length := by
  obtain ⟨-, hc⟩ := countsUp_range h (by omega)
  omega

lemma Numbered.counter_le (h : Numbered c) (heff : Effect new c.state t)
    (hlt : (drawnIds t.trace).length < 2 ^ 64) :
    CountsUp 0 (drawnIds t.trace) t.handler.requestsId ∧
      c.state.handler.requestsId + (drawnIds new).length = t.handler.requestsId := by
  have hcounts : CountsUp 0 (drawnIds t.trace) t.handler.requestsId := by
    rw [heff.trace, drawnIds_append]
    exact h.counts.append heff.counts
  have hlen : (drawnIds t.trace).length =
      (drawnIds c.state.trace).length + (drawnIds new).length := by
    rw [heff.trace, drawnIds_append, List.length_append]
  have hs := counter_of_counts h.counts (by omega)
  have ht := counter_of_counts hcounts hlt
  exact ⟨hcounts, by omega⟩

lemma Numbered.withGoal (h : Numbered c) (heff : Effect new c.state t)
    (hlt : (drawnIds t.trace).length < 2 ^ 64) (hg : c.goals k = some g)
    (hid : g'.requestId = g.requestId) (huuid : g'.actionId = g.actionId) :
    Numbered (c.withGoal k t g') := by
  obtain ⟨hcounts, hle⟩ := h.counter_le heff hlt
  have hgoal : ∀ j a, (c.withGoal k t g').goals j = some a →
      ∃ b, c.goals j = some b ∧ a.requestId = b.requestId ∧ a.actionId = b.actionId := by
    intro j a ha
    rw [goals_withGoal] at ha
    split at ha
    · next hj =>
      cases ha
      exact ⟨g, hj ▸ hg, hid, huuid⟩
    · exact ⟨a, ha, rfl, rfl⟩
  refine ⟨hcounts, fun j a ha => ?_, fun i j a b ha hb hab => ?_, fun i j a b ha hb hab => ?_⟩
  · obtain ⟨b, hb, hid, -⟩ := hgoal j a ha
    have hrange := h.range j b hb
    have ht : (c.withGoal k t g').state = t := rfl
    rw [ht, hid]
    omega
  · obtain ⟨a', ha', hida, -⟩ := hgoal i a ha
    obtain ⟨b', hb', hidb, -⟩ := hgoal j b hb
    exact h.ids i j a' b' ha' hb' (by rw [← hida, ← hidb, hab])
  · obtain ⟨a', ha', -, hua⟩ := hgoal i a ha
    obtain ⟨b', hb', -, hub⟩ := hgoal j b hb
    exact h.uuids i j a' b' ha' hb' (by rw [← hua, ← hub, hab])

lemma Decided.append {u : UUID} {es es' : List Event} (h : Decided u es)
    (hes' : decisionsOn u es' = []) : Decided u (es ++ es') := by
  refine ⟨by rw [decisionsOn_append, hes', List.append_nil, h.once], fun a m t ht => ?_⟩
  rcases List.mem_append.mp ht with ht | ht
  · obtain ⟨sent, hsent⟩ := h.requested a m t ht
    exact ⟨sent, List.mem_append_left _ hsent⟩
  · have hmem : .actionStatusNotification a u .accepted m t ∈ decisionsOn u es' :=
      List.mem_filter.mpr ⟨ht, by simp [StatusCode.isDecision]⟩
    rw [hes'] at hmem
    cases hmem

lemma Told.withGoal (h : Told c) (htrace : t.trace = c.state.trace ++ new)
    (hnew : ∀ u, decisionsOn u new = []) (hg : c.goals k = some g)
    (huuid : g'.actionId = g.actionId) (hreplied : g'.replied = g.replied)
    (hstage : g.replied = true → g'.stage = .returned true) : Told (c.withGoal k t g') := by
  have ht : (c.withGoal k t g').state.trace = c.state.trace ++ new := htrace
  refine ⟨fun u hu => ?_, fun j a ha hrep => ?_⟩
  · rw [ht, decisionsOn_append, hnew, List.append_nil]
    refine h.quiet u fun j a ha hau => ?_
    by_cases hj : j = k
    · subst hj
      rw [hg] at ha
      cases ha
      rw [← hreplied]
      exact hu j g' (by simp) (huuid.trans hau)
    · exact hu j a (by simpa [hj] using ha) hau
  · rw [ht]
    rw [goals_withGoal] at ha
    split at ha
    · cases ha
      have hrep' : g.replied = true := hreplied ▸ hrep
      exact ⟨hstage hrep', huuid ▸ (h.decided k g hg hrep').2.append (hnew _)⟩
    · obtain ⟨hs, hd⟩ := h.decided j a ha hrep
      exact ⟨hs, hd.append (hnew _)⟩

lemma stores_withGoal (hg : c.goals k = some g)
    (hstage : g'.stage = .returned true ↔ g.stage = .returned true)
    (hkey : g'.actionId = g.actionId ∧ g'.actionName = g.actionName ∧
      g'.requestId = g.requestId) (u : UUID) (key : Str × Nat) :
    (c.withGoal k t g').Stores u key ↔ c.Stores u key := by
  obtain ⟨huuid, hname, hid⟩ := hkey
  constructor
  · rintro ⟨j, a, ha, hs, hu, hk⟩
    rw [goals_withGoal] at ha
    split at ha
    · cases ha
      exact ⟨k, g, hg, hstage.mp hs, huuid ▸ hu, by rw [hk, hname, hid]⟩
    · exact ⟨j, a, ha, hs, hu, hk⟩
  · rintro ⟨j, a, ha, hs, hu, hk⟩
    by_cases hj : j = k
    · subst hj
      rw [hg] at ha
      cases ha
      exact ⟨j, g', by simp, hstage.mpr hs, huuid ▸ hu, by rw [hk, hname, hid]⟩
    · exact ⟨j, a, by simpa [hj] using ha, hs, hu, hk⟩

lemma Recorded.withGoal (h : Recorded c) (hg : c.goals k = some g)
    (hstage : g'.stage = .returned true ↔ g.stage = .returned true)
    (hkey : g'.actionId = g.actionId ∧ g'.actionName = g.actionName ∧
      g'.requestId = g.requestId)
    (hentry : ∀ u, (t.handler.entry u).map (·.goalKey) =
      (c.state.handler.entry u).map (·.goalKey)) : Recorded (c.withGoal k t g') := by
  intro u key
  rw [stores_withGoal hg hstage hkey, ← h u key, ← hentry u]
  rfl

lemma goal_of_new {j : Nat} {a : SentGoal} (ha : (c.withGoal k t g).goals j = some a) :
    j = k ∧ a = g ∨ c.goals j = some a := by
  rw [goals_withGoal] at ha
  split at ha
  · next hj =>
    cases ha
    exact .inl ⟨hj, rfl⟩
  · exact .inr ha

lemma goal_of_old (hk : c.goals k = none) {j : Nat} {a : SentGoal} (ha : c.goals j = some a) :
    (c.withGoal k t g).goals j = some a := by
  have hj : j ≠ k := by
    rintro rfl
    rw [hk] at ha
    cases ha
  simpa [hj] using ha

lemma Numbered.newGoal (h : Numbered c)
    (hfresh : ∀ j a, c.goals j = some a → a.actionId ≠ g.actionId)
    (hid : g.requestId = c.state.handler.nextRequestId.1)
    (hlt : (drawnIds c.state.draw.trace).length < 2 ^ 64) :
    Numbered (c.withGoal k c.state.draw g) := by
  have heff : Effect [.newRequestId c.state.handler.nextRequestId.1] c.state c.state.draw :=
    (step_draw (o := none) c.state).toEffect
  obtain ⟨hcounts, hle⟩ := h.counter_le heff hlt
  have hle' : c.state.handler.requestsId + 1 = c.state.draw.handler.requestsId := hle
  have hgid : g.requestId = c.state.draw.handler.requestsId := hid
  refine ⟨hcounts, fun j a ha => ?_, fun i j a b ha hb hab => ?_, fun i j a b ha hb hab => ?_⟩
  · change 1 ≤ a.requestId ∧ a.requestId ≤ c.state.draw.handler.requestsId
    rcases goal_of_new ha with ⟨-, rfl⟩ | ha
    · omega
    · have hrange := h.range j a ha
      omega
  · rcases goal_of_new ha with ⟨rfl, rfl⟩ | ha'
    · rcases goal_of_new hb with ⟨rfl, -⟩ | hb'
      · rfl
      · have hrange := h.range j b hb'
        omega
    · rcases goal_of_new hb with ⟨rfl, rfl⟩ | hb'
      · have hrange := h.range i a ha'
        omega
      · exact h.ids i j a b ha' hb' hab
  · rcases goal_of_new ha with ⟨rfl, rfl⟩ | ha'
    · rcases goal_of_new hb with ⟨rfl, -⟩ | hb'
      · rfl
      · exact absurd hab.symm (hfresh j b hb')
    · rcases goal_of_new hb with ⟨rfl, rfl⟩ | hb'
      · exact absurd hab (hfresh i a ha')
      · exact h.uuids i j a b ha' hb' hab

lemma Recorded.newGoal (h : Recorded c) (hk : c.goals k = none) (hstage : g.stage = .drawn) :
    Recorded (c.withGoal k c.state.draw g) := by
  intro u key
  have hstores : (c.withGoal k c.state.draw g).Stores u key ↔ c.Stores u key := by
    constructor
    · rintro ⟨j, a, ha, hs, hu⟩
      rcases goal_of_new ha with ⟨-, rfl⟩ | ha'
      · rw [hstage] at hs
        cases hs
      · exact ⟨j, a, ha', hs, hu⟩
    · rintro ⟨j, a, ha, hs, hu⟩
      exact ⟨j, a, goal_of_old hk ha, hs, hu⟩
  rw [hstores]
  exact h u key

lemma Told.newGoal (h : Told c) (hk : c.goals k = none) (hreplied : g.replied = false) :
    Told (c.withGoal k c.state.draw g) := by
  refine ⟨fun u hu => ?_, fun j a ha hrep => ?_⟩
  · have htrace : (c.withGoal k c.state.draw g).state.trace = c.state.trace ++
      [.newRequestId c.state.handler.nextRequestId.1] := rfl
    rw [htrace, decisionsOn_append, h.quiet u fun j a ha hau => hu j a (goal_of_old hk ha) hau]
    rfl
  · rcases goal_of_new ha with ⟨-, rfl⟩ | ha'
    · rw [hreplied] at hrep
      cases hrep
    · obtain ⟨hs, hd⟩ := h.decided j a ha' hrep
      exact ⟨hs, hd.append rfl⟩

lemma Inv.newGoal (h : Inv c) (hk : c.goals k = none)
    (hfresh : ∀ j a, c.goals j = some a → a.actionId ≠ g.actionId)
    (hid : g.requestId = c.state.handler.nextRequestId.1) (hstage : g.stage = .drawn)
    (hreplied : g.replied = false) (hlt : (drawnIds c.state.draw.trace).length < 2 ^ 64) :
    Inv (c.withGoal k c.state.draw g) :=
  ⟨h.numbered.newGoal hfresh hid hlt, h.recorded.newGoal hk hstage, h.told.newGoal hk hreplied⟩

lemma drawGoal_inv (h : Inv c) {env : Env} {actionName : Str} {json : JsonText}
    {protocol : Protocol} (hk : c.goals k = none)
    (hfresh : ∀ j g, c.goals j = some g → g.actionId ≠ env.uuid)
    (hlt : (drawnIds (c.drawGoal k env actionName json protocol).state.trace).length < 2 ^ 64) :
    Inv (c.drawGoal k env actionName json protocol) := by
  revert hlt
  unfold drawGoal
  split
  · intro hlt
    exact h.newGoal hk hfresh rfl rfl rfl hlt
  · exact fun _ => h

lemma publishGoal_inv (h : Inv c) {env : Env}
    (hlt : (drawnIds (c.publishGoal k env).state.trace).length < 2 ^ 64) :
    Inv (c.publishGoal k env) := by
  revert hlt
  unfold publishGoal
  rcases hg : c.goals k with _ | g
  · exact fun _ => h
  · simp only
    split
    · next hdrawn =>
      intro hlt
      obtain ⟨new, heff, hnew⟩ : ∃ new, Effect new c.state
          (after (publishRpc env g.topicName (.doc g.goalJson) g.requestId) c.state) ∧
          (new = [] ∨ new = [.publishedRpc g.topicName (.doc g.goalJson) g.requestId]) := by
        obtain ⟨new, hstep⟩ := keeps_publishRpc (o := none) env g.topicName (.doc g.goalJson)
          g.requestId c.state
        refine ⟨new, hstep.toEffect, ?_⟩
        have htrace := hstep.trace
        rw [after_ok (publishRpc_run ..)] at htrace
        split at htrace
        · exact .inr (List.append_cancel_left htrace).symm
        · exact .inl (List.self_eq_append_right.mp htrace)
      have hquiet : ∀ u, decisionsOn u new = [] := by
        rcases hnew with rfl | rfl
        · exact fun u => rfl
        · exact fun u => rfl
      refine ⟨h.numbered.withGoal heff hlt hg rfl rfl,
        h.recorded.withGoal hg ?_ ⟨rfl, rfl, rfl⟩ fun u => ?_,
        h.told.withGoal heff.trace hquiet hg rfl rfl fun hrep => ?_⟩
      · rw [hdrawn]
        split
        · simp
        · simp
      · rw [heff.entry]
        rcases hnew with rfl | rfl
        · rfl
        · rfl
      · have hs := (h.told.decided k g hg hrep).1
        rw [hdrawn] at hs
        cases hs
    · exact fun _ => h

lemma Inv.entry_free (h : Inv c) (hg : c.goals k = some g) (hstage : g.stage ≠ .returned true) :
    c.state.handler.entry g.actionId = none := by
  rcases he : c.state.handler.entry g.actionId with _ | i
  · rfl
  · obtain ⟨j, a, ha, hs, hu, -⟩ := (h.recorded g.actionId i.goalKey).mp (by simp [he])
    have hj := h.numbered.uuids j k a g ha hg hu
    subst hj
    rw [hg] at ha
    cases ha
    exact absurd hs hstage

lemma Inv.recorded_store (h : Inv c) (hg : c.goals k = some g)
    (hstage : g'.stage = .returned true)
    (hkey : g'.actionId = g.actionId ∧ g'.actionName = g.actionName ∧ g'.requestId = g.requestId)
    {i : ActionRequestInfo} (hi : i.goalKey = (g.actionName, g.requestId))
    (hentry : ∀ u, t.handler.entry u =
      if u = g.actionId then some i else c.state.handler.entry u) :
    Recorded (c.withGoal k t g') := by
  obtain ⟨huuid, hname, hid⟩ := hkey
  intro u key
  have ht : (c.withGoal k t g').state = t := rfl
  rw [ht, hentry]
  by_cases hu : u = g.actionId
  · rw [if_pos hu, Option.map_some, Option.some.injEq, hi]
    constructor
    · rintro rfl
      exact ⟨k, g', by simp, hstage, by rw [huuid, hu], by rw [hname, hid]⟩
    · rintro ⟨j, a, ha, -, hau, rfl⟩
      rw [goals_withGoal] at ha
      split at ha
      · cases ha
        rw [hname, hid]
      · next hj => exact absurd (h.numbered.uuids j k a g ha hg (hau.trans hu)) hj
  · rw [if_neg hu, h.recorded u key]
    constructor
    · rintro ⟨j, a, ha, hs, hau, hk⟩
      have hj : j ≠ k := by
        rintro rfl
        rw [hg] at ha
        cases ha
        exact hu hau.symm
      exact ⟨j, a, by simpa [hj] using ha, hs, hau, hk⟩
    · rintro ⟨j, a, ha, hs, hau, hk⟩
      rw [goals_withGoal] at ha
      split at ha
      · cases ha
        exact absurd (hau.symm.trans huuid) hu
      · exact ⟨j, a, ha, hs, hau, hk⟩

lemma storeSentGoal_inv (h : Inv c) {env : Env}
    (hlt : (drawnIds (c.storeSentGoal k env).state.trace).length < 2 ^ 64) :
    Inv (c.storeSentGoal k env) := by
  revert hlt
  unfold storeSentGoal
  rcases hg : c.goals k with _ | g
  · exact fun _ => h
  · simp only
    split
    · next hsent =>
      intro hlt
      have hfree := h.entry_free hg (by simp [hsent])
      have hstore : (c.state.handler.storeActionRequest g.actionName g.actionId g.requestId .goal
          g.protocol env.now).1 = true := by
        simp [Handler.storeActionRequest, hfree]
      have hrun : (storeGoal env g.actionName g.actionId g.requestId g.protocol).run c.state =
          .ok true (after (storeActionRequest env g.actionName g.actionId g.requestId .goal
            g.protocol) c.state) := by
        simp [storeGoal, storeActionRequest_run_true _ env hstore,
          after_ok (storeActionRequest_run_true _ env hstore)]
      rw [after_ok hrun] at hlt ⊢
      rw [returned_ok hrun]
      obtain ⟨new, heff, -, -, -⟩ := effect_store env g.actionName g.actionId g.requestId .goal
        g.protocol c.state
      have hnew : new =
          [.storedRequest g.actionName g.actionId g.requestId .goal g.protocol env.now] := by
        have htrace := heff.trace
        rw [after_ok (storeActionRequest_run_true _ env hstore)] at htrace
        exact (List.append_cancel_left htrace).symm
      subst hnew
      refine ⟨h.numbered.withGoal heff hlt hg rfl rfl,
        h.recorded_store hg rfl ⟨rfl, rfl, rfl⟩
          (i := .create g.actionName .goal g.requestId g.protocol env.now) rfl fun u => ?_,
        h.told.withGoal heff.trace (fun u => rfl) hg rfl rfl fun _ => rfl⟩
      rw [heff.entry]
      by_cases hu : u = g.actionId
      · subst hu
        simp [Event.onEntry, Handler.storeEntry, hfree]
      · simp [Event.onEntry, hu]
    · exact fun _ => h

lemma Inv.found (h : Inv c) (hg : c.goals k = some g) (hstage : g.stage = .returned true)
    (order : VisitOrder) :
    c.state.handler.getActionRequestUUID order g.requestId .goal = some g.actionId := by
  obtain ⟨i, hi, hkey⟩ := Option.map_eq_some_iff.mp
    ((h.recorded g.actionId (g.actionName, g.requestId)).mpr ⟨k, g, hg, hstage, rfl, rfl⟩)
  have hid : i.goalRequestId = g.requestId := congrArg Prod.snd hkey
  refine scan_eq_some hi (RequestSystem.hasRequest_iff.mpr (by rw [← hid]; rfl))
    (fun v j hj hreq => ?_) (order.perm _)
  have hj' : c.state.handler.entry v = some j := hj
  obtain ⟨l, a, ha, -, hau, hkey'⟩ := (h.recorded v j.goalKey).mp (by simp [hj'])
  have hjid : j.goalRequestId = g.requestId := by
    have hget := RequestSystem.hasRequest_iff.mp hreq
    exact Except.ok.inj hget
  have haid : a.requestId = g.requestId := (congrArg Prod.snd hkey').symm.trans hjid
  have hl := h.numbered.ids l k a g ha hg haid
  subst hl
  rw [hg] at ha
  cases ha
  exact hau.symm

lemma decisionsOn_followUp {u : UUID} {es : List Event} (h : ∀ e ∈ es, e.isFollowUp) :
    decisionsOn u es = [] := by
  rw [decisionsOn, List.filter_eq_nil_iff]
  intro e he
  have hfollow := h e he
  cases e with
  | actionStatusNotification a v code m t =>
    have hcode : code.isDecision = false := by simpa [Event.isFollowUp] using hfollow
    simp [hcode]
  | _ => simp

lemma decisionsOn_told (u v : UUID) (actionName : Str) (decision : Bool) (time : Int) :
    decisionsOn u [decisionEvent actionName v decision time] =
      if v = u then [decisionEvent actionName v decision time] else [] := by
  by_cases hv : v = u
  · cases decision
    · simp [decisionsOn, decisionEvent, goalReplyStatus, hv, StatusCode.isDecision]
    · simp [decisionsOn, decisionEvent, goalReplyStatus, hv, StatusCode.isDecision]
  · simp [decisionsOn, decisionEvent, hv]

lemma onEntry_followUp {u : UUID} {e : Event} (h : e.isFollowUp) (i : Option ActionRequestInfo) :
    (e.onEntry u i).map (·.goalKey) = i.map (·.goalKey) := by
  cases e with
  | storedRequest a v id ty p t =>
    have hty : ty ≠ .goal := by simpa [Event.isFollowUp] using h
    simp only [Event.onEntry]
    split
    · rcases i with _ | i
      · simp [Handler.storeEntry, hty]
      · simp only [Handler.storeEntry]
        split
        · rfl
        · cases ty with
          | goal => exact absurd rfl hty
          | _ => rfl
    · rfl
  | resultSet v result =>
    simp only [Event.onEntry]
    split
    · rcases i with _ | i
      · rfl
      · simp only [Option.map_some, ActionRequestInfo.setResult]
        split <;> rfl
    · rfl
  | erasedAction v reason => cases h
  | _ => rfl

lemma replay_followUp {u : UUID} {es : List Event} (h : ∀ e ∈ es, e.isFollowUp)
    (i : Option ActionRequestInfo) :
    (replay u es i).map (·.goalKey) = i.map (·.goalKey) := by
  induction es generalizing i with
  | nil => rfl
  | cons e es ih =>
    rw [replay_cons, ih (fun e' he' => h e' (List.mem_cons_of_mem _ he')),
      onEntry_followUp (h e List.mem_cons_self)]

lemma decided_told {u : UUID} {old es : List Event} {actionName : Str} {decision : Bool}
    {time : Int} (hold : decisionsOn u old = []) (hes : ∀ e ∈ es, e.isFollowUp)
    (hsent : decision = true → ∃ sent, .sendActionGetResultRequest actionName u sent ∈ es) :
    Decided u (old ++ decisionEvent actionName u decision time :: es) := by
  have hall : decisionsOn u (old ++ decisionEvent actionName u decision time :: es) =
      [decisionEvent actionName u decision time] := by
    rw [List.append_cons, decisionsOn_append, decisionsOn_append, hold, decisionsOn_told,
      decisionsOn_followUp hes]
    simp
  refine ⟨by rw [hall]; rfl, fun a m t ht => ?_⟩
  have hmem : .actionStatusNotification a u .accepted m t ∈
      decisionsOn u (old ++ decisionEvent actionName u decision time :: es) :=
    List.mem_filter.mpr ⟨ht, by simp [StatusCode.isDecision]⟩
  rw [hall, List.mem_singleton] at hmem
  cases decision with
  | false => cases hmem
  | true =>
    cases hmem
    obtain ⟨sent, hsent⟩ := hsent rfl
    exact ⟨sent, List.mem_append_right _ (List.mem_cons_of_mem _ hsent)⟩

lemma replyGoal_inv (h : Inv c) {env : Env} {topic : DdsTopic} {data : Sample} {decision : Bool}
    (hg : c.goals k = some g) (hstage : g.stage = .returned true) (hnew : g.replied = false)
    (hreply : IsGoalReply env topic data g.actionName g.requestId decision c.state)
    (hlt : (drawnIds (c.replyGoal k env topic data).state.trace).length < 2 ^ 64) :
    Inv (c.replyGoal k env topic data) := by
  revert hlt
  simp only [replyGoal, hg]
  intro hlt
  obtain ⟨es, hstep, hes, hsent⟩ := goalReply_found hreply (h.found hg hstage env.visitOrder)
  set t := after (addData env topic data) c.state with ht
  have heff : Effect (decisionEvent g.actionName g.actionId decision data.sourceTimestamp :: es)
      c.state t := ⟨hstep.trace, hstep.entry, hstep.counts, hstep.participant⟩
  have hquiet : decisionsOn g.actionId c.state.trace = [] := by
    refine h.told.quiet g.actionId fun j a ha hau => ?_
    have hj := h.numbered.uuids j k a g ha hg hau
    subst hj
    rw [hg] at ha
    cases ha
    exact hnew
  refine ⟨h.numbered.withGoal heff hlt hg rfl rfl,
    h.recorded.withGoal hg Iff.rfl ⟨rfl, rfl, rfl⟩ fun u => ?_, fun u hu => ?_,
    fun j a ha hrep => ?_⟩
  · rw [heff.entry, replay_cons, replay_followUp hes]
    rfl
  · have hne : g.actionId ≠ u := by
      intro hgu
      have := hu k { g with replied := true } (by simp) hgu
      cases this
    change decisionsOn u t.trace = []
    rw [heff.trace, List.append_cons, decisionsOn_append, decisionsOn_append, decisionsOn_told,
      if_neg hne, decisionsOn_followUp hes, List.append_nil, List.append_nil]
    refine h.told.quiet u fun j a ha hau => hu j a ?_ hau
    have hj : j ≠ k := by
      rintro rfl
      rw [hg] at ha
      cases ha
      exact hne hau
    simpa [hj] using ha
  · change a.stage = _ ∧ Decided a.actionId t.trace
    rw [heff.trace]
    rw [goals_withGoal] at ha
    split at ha
    · cases ha
      exact ⟨hstage, decided_told hquiet hes hsent⟩
    · next hj =>
      obtain ⟨hs, hd⟩ := h.told.decided j a ha hrep
      have hne : g.actionId ≠ a.actionId := fun hga =>
        hj (h.numbered.uuids j k a g ha hg hga.symm)
      refine ⟨hs, hd.append ?_⟩
      have hcons : decisionEvent g.actionName g.actionId decision data.sourceTimestamp :: es =
        [decisionEvent g.actionName g.actionId decision data.sourceTimestamp] ++ es := rfl
      rw [hcons, decisionsOn_append, decisionsOn_told, if_neg hne, decisionsOn_followUp hes]
      rfl

lemma step_inv (op : ClientOp) (h : Inv c) (hop : Fits c op ∧ InTime c op) :
    Inv (step c op) := by
  obtain ⟨⟨hcall, hlt⟩, htime⟩ := hop
  cases op with
  | draw k env actionName json protocol => exact drawGoal_inv h hcall.1 hcall.2 hlt
  | publish k env => exact publishGoal_inv h hlt
  | store k env => exact storeSentGoal_inv h hlt
  | reply k env topic data =>
    obtain ⟨g, decision, hg, -, hnew, hreply⟩ := hcall
    exact replyGoal_inv h hg (htime g hg) hnew hreply hlt
  | others participant schemas =>
    exact ⟨⟨h.numbered.counts, h.numbered.range, h.numbered.ids, h.numbered.uuids⟩, h.recorded,
      ⟨h.told.quiet, h.told.decided⟩⟩

/-- **Replies in time are heard.** In every run in which no reply to a goal is processed before
the goal has been stored, the user is told of the decision on every goal sent and replied to,
once, and the results of the accepted goals are requested. -/
theorem goal_replies_heard (participant : Participant) (schemas : Table Str (Nat × DynType))
    (w : List ClientOp)
    (hw : Along step (fun c op => Fits c op ∧ InTime c op) (start participant schemas) w) :
    RepliesHeard (run step (start participant schemas) w) := by
  have hinv : Inv (run step (start participant schemas) w) :=
    run_inv (fun c op hc hop => step_inv op hc hop) (inv_start participant schemas) hw
  exact fun k g hg _ hrep => (hinv.told.decided k g hg hrep).2

/-! ### One goal -/

/-- A client of an action whose goal service has been discovered. -/
def clientParticipant : Participant :=
  let request : DdsTopic := { topicName := "rq/fibonacci/_action/send_goalRequest".toList }
  { readers := (∅ : Table _ _).insert request.key ⟨true, request⟩
    services := ({} : ServiceMap).set "fibonacci/_action/send_goal".toList
      { serviceName := "fibonacci/_action/send_goal".toList, protocol := .ros2
        topicRequest := request, requestDiscovered := true, externalServer := true } }

def clientSchemas : Table Str (Nat × DynType) := (∅ : Table _ _).insert [] (0, ⟨[], 0⟩)

/-- The user listens, and every sample says that a goal is accepted. -/
def clientEnv : Env :=
  { Env.silent with
    callbacks := { Callbacks.unset with actionStatusNotification := true }
    decode := fun _ _ => some (.obj [("accepted".toList, .bool true)]) }

def drawOp : ClientOp := .draw 0 clientEnv "fibonacci/_action/".toList (.doc .null) .ros2
def publishOp : ClientOp := .publish 0 clientEnv
def storeOp : ClientOp := .store 0 clientEnv

/-- The reply to the first request. -/
def replyOp : ClientOp :=
  .reply 0 clientEnv { topicName := "rr/fibonacci/_action/send_goalReply".toList }
    ⟨[0], true, 0, [], [], true, 1⟩

/-- The goal of the first call, once it has come as far as `stage`. -/
def firstGoal (stage : Stage) : SentGoal :=
  { actionName := "fibonacci/_action/".toList, actionId := .null, protocol := .ros2
    topicName := "rq/fibonacci/_action/send_goalRequest".toList
    goalJson := .obj [("goal".toList, .null), RpcUtils.goalId .null], requestId := 1
    stage, replied := false }

lemma replyOp_fits (stage : Stage) (hg : c.goals 0 = some (firstGoal stage))
    (hsent : (firstGoal stage).isSent) (hschemas : c.state.handler.schemas = clientSchemas)
    (hlt : (drawnIds (step c replyOp).state.trace).length < 2 ^ 64) : Fits c replyOp := by
  refine ⟨⟨firstGoal stage, true, hg, hsent, rfl, ?_⟩, hlt⟩
  refine ⟨⟨⟨[], 0⟩, _, ⟨⟨0, ?_⟩, rfl, rfl⟩, rfl, rfl⟩, rfl, rfl, rfl, rfl, rfl, rfl, rfl⟩
  rw [hschemas]
  rfl

theorem goal_replies_heard_first :
    RepliesHeard (run step (start clientParticipant clientSchemas)
      [drawOp, publishOp, storeOp, replyOp]) :=
  goal_replies_heard clientParticipant clientSchemas [drawOp, publishOp, storeOp, replyOp]
    ⟨⟨⟨⟨rfl, by simp [start]⟩, by decide +kernel⟩, trivial⟩,
      ⟨⟨trivial, by decide +kernel⟩, trivial⟩, ⟨⟨trivial, by decide +kernel⟩, trivial⟩,
      ⟨replyOp_fits (.returned true) rfl (.inr rfl) rfl (by decide +kernel),
        fun g hg => by cases hg; rfl⟩, trivial⟩

/-- A reply that is processed before its goal has been stored: the goal is sent and stored, and
the user never hears of it. -/
theorem early_reply_lost :
    Along step Fits (start clientParticipant clientSchemas)
        [drawOp, publishOp, replyOp, storeOp] ∧
      ¬ RepliesHeard (run step (start clientParticipant clientSchemas)
        [drawOp, publishOp, replyOp, storeOp]) := by
  refine ⟨⟨⟨⟨rfl, by simp [start]⟩, by decide +kernel⟩, ⟨trivial, by decide +kernel⟩,
    replyOp_fits .published rfl (.inl rfl) rfl (by decide +kernel),
    ⟨trivial, by decide +kernel⟩, trivial⟩, fun h => ?_⟩
  have hg : (run step (start clientParticipant clientSchemas)
      [drawOp, publishOp, replyOp, storeOp]).goals 0 =
      some { firstGoal (.returned true) with replied := true } := rfl
  have honce := (h 0 _ hg rfl rfl).once
  have hnone : (decisionsOn .null (run step (start clientParticipant clientSchemas)
      [drawOp, publishOp, replyOp, storeOp]).state.trace).length = 0 := rfl
  rw [show ({ firstGoal (.returned true) with replied := true } : SentGoal).actionId = .null from
    rfl, hnone] at honce
  cases honce

end GoalClients

end DdsEnabler
